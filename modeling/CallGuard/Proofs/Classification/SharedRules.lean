import CallGuard.Proofs.Classification.Deciding

/-!
# What the shared rules leave out

The shared rules are meant for callers that give up, for deadlines, and for the kinds of input and
output errors that either answer the caller or come from the network. Three of these kinds they do
not know. An error of such a kind does not decide, and what stands below it is asked in its place.
-/

namespace CallGuard

/-- What the shared rules are meant to say of a kind, where they are meant for it at all. -/
def IoKind.intended? : IoKind → Option Verdict
  | notFound | permissionDenied | invalidInput => some .expected
  | timedOut | connectionRefused | connectionReset | connectionAborted | brokenPipe
  | hostUnreachable | networkUnreachable => some .counted
  | _ => none

/-- The kinds that the shared rules are meant for and do not know. -/
def IoKind.isForgotten : IoKind → Bool
  | notFound | hostUnreachable | networkUnreachable => true
  | _ => false

namespace Meaning

def intended? : Meaning → Option Verdict
  | cancelled => some .expected
  | elapsed => some .counted
  | io kind => kind.intended?
  | _ => none

def isForgotten : Meaning → Bool
  | io kind => kind.isForgotten
  | _ => false

variable {m : Meaning} {v : Verdict}

theorem isOfClient_of_intended (hIntended : m.intended? = some v) : m.isOfClient = false := by
  cases m with
  | cancelled | elapsed | io => rfl
  | unknown | database | cache | http | request | transport | workflow => cases hIntended

/-- What the rules know they judge as they are meant to. -/
theorem sharedVerdict?_of_intended (hIntended : m.intended? = some v) :
    m.sharedVerdict? = if m.isForgotten then none else some v := by
  cases m with
  | unknown | database | cache | http | request | transport | workflow => cases hIntended
  | cancelled | elapsed => exact hIntended
  | io kind =>
    rw [← hIntended]
    revert hIntended
    cases kind <;> simp [intended?, IoKind.intended?, isForgotten, IoKind.isForgotten,
      sharedVerdict?, IoKind.verdict?]

end Meaning

namespace Backend

variable {b : Backend} {m : Meaning} {v : Verdict} {fault : Fault} {below : List Link}

/-- A link of the fault means `m`. The backend recognises nothing above it, and `below` stands
below it. -/
def Reaches (b : Backend) (fault : Fault) (m : Meaning) (below : List Link) : Prop :=
  ∃ above link, fault.links = above ++ link :: below ∧ (∀ l ∈ above, b.PassesOver l.meaning) ∧
    link.meaning = m

theorem reaches_head (b : Backend) (m : Meaning) (text : String) (below : List Link) :
    b.Reaches ⟨⟨m, text⟩, below⟩ m below := ⟨[], _, rfl, nofun, rfl⟩

theorem Reaches.wrap (hReaches : b.Reaches fault m below) (message : String) :
    b.Reaches (.wrap message fault) m below := by
  obtain ⟨above, link, hLinks, hAbove, hMeaning⟩ := hReaches
  refine ⟨⟨.unknown, message⟩ :: above, link, ?_, ?_, hMeaning⟩
  · rw [List.cons_append, ← hLinks]
    rfl
  · exact List.forall_mem_cons.mpr ⟨passesOver_unknown b, hAbove⟩

theorem Reaches.walk_eq (hReaches : b.Reaches fault m below) :
    b.walk fault.links = (b.verdict? m).or (b.walk below) := by
  obtain ⟨above, link, hLinks, hAbove, rfl⟩ := hReaches
  rw [hLinks, walk_append, walk_eq_none_iff.mpr hAbove, Option.none_or, walk_cons]

theorem verdict?_of_intended (hIntended : m.intended? = some v) :
    b.verdict? m = if m.isForgotten then none else some v := by
  rw [verdict?, vocabulary_eq_none b (Meaning.isOfClient_of_intended hIntended), Option.none_or,
    Meaning.sharedVerdict?_of_intended hIntended]

theorem Reaches.classify_of_intended (hReaches : b.Reaches fault m below)
    (hIntended : m.intended? = some v) :
    b.classify fault = if m.isForgotten then (b.walk below).getD .counted else v := by
  rw [classify_eq, hReaches.walk_eq, verdict?_of_intended hIntended]
  split <;> rfl

/-- A kind that the rules do not know is overruled by an error below it that they judge the other
way. -/
theorem exists_overruled (b : Backend) (hIntended : m.intended? = some v)
    (hForgotten : m.isForgotten = true) :
    ∃ fault below, b.Reaches fault m below ∧ b.classify fault ≠ v := by
  have hOther : ∃ below, (b.walk below).getD .counted ≠ v := by
    cases v with
    | expected => exact ⟨Fault.elapsed.links, by cases b <;> decide⟩
    | counted => exact ⟨Fault.cancelled.links, by cases b <;> decide⟩
  obtain ⟨below, hOther⟩ := hOther
  have hReaches := reaches_head b m "" below
  refine ⟨_, below, hReaches, ?_⟩
  rwa [hReaches.classify_of_intended hIntended, if_pos hForgotten]

/-- Below links that are not recognised, an error that the shared rules are meant for is judged as
they are meant to in every chain, unless it is of one of the three kinds that they do not know. Of
these the verdict is that of what stands below, which may be any. -/
theorem shared_rules_hold_iff (b : Backend) {m : Meaning} {v : Verdict}
    (hIntended : m.intended? = some v) :
    ((∀ fault below, b.Reaches fault m below → b.classify fault = v) ↔ m.isForgotten = false) ∧
      ∀ fault below, b.Reaches fault m below → m.isForgotten = true →
        b.classify fault = (b.walk below).getD .counted := by
  refine ⟨⟨fun hHolds => ?_, fun hKnown fault below hReaches => ?_⟩,
    fun fault below hReaches hForgotten => ?_⟩
  · rw [Bool.eq_false_iff]
    intro hForgotten
    obtain ⟨fault, below, hReaches, hOther⟩ := exists_overruled b hIntended hForgotten
    exact hOther (hHolds fault below hReaches)
  · rw [hReaches.classify_of_intended hIntended, hKnown]
    rfl
  · rw [hReaches.classify_of_intended hIntended, if_pos hForgotten]

/-- A host that cannot be reached does not count if the error it carries is expected; a deadline
of the transport counts all the same. -/
theorem shared_rules_hold_iff_unreachable :
    (Meaning.io .hostUnreachable).intended? = some .counted ∧
      Backend.httpClient.classify
        (.wrap "lookup failed" (.ioAround .hostUnreachable
          (.wrap "boom" (.io .permissionDenied)))) = .expected ∧
      (Meaning.io .timedOut).intended? = some .counted ∧
      Backend.httpClient.classify
        (.wrap "lookup failed" (.ioAround .timedOut
          (.wrap "boom" (.io .permissionDenied)))) = .counted := by
  have hUnreachable : (Meaning.io .hostUnreachable).intended? = some .counted := rfl
  have hTimedOut : (Meaning.io .timedOut).intended? = some .counted := rfl
  obtain ⟨_, hOverruled⟩ := shared_rules_hold_iff .httpClient hUnreachable
  obtain ⟨hHolds, _⟩ := shared_rules_hold_iff .httpClient hTimedOut
  refine ⟨hUnreachable, ?_, hTimedOut, ?_⟩
  · exact (hOverruled _ _ ((reaches_head _ _ _ _).wrap _) rfl).trans (by decide)
  · exact hHolds.mpr rfl _ _ ((reaches_head _ _ _ _).wrap _)

/-- What is not found counts. -/
theorem not_shared_rules_hold :
    ¬ ∀ (b : Backend) (fault : Fault) (above : List Link) (link : Link) (below : List Link)
      (v : Verdict), fault.links = above ++ link :: below → (∀ l ∈ above, l.meaning = .unknown) →
      link.meaning.intended? = some v → b.classify fault = v := by
  intro hAsMeant
  have hExpected := hAsMeant .generic (.io .notFound) [] (Fault.io .notFound).head [] .expected rfl
    nofun rfl
  revert hExpected
  decide

end Backend

end CallGuard
