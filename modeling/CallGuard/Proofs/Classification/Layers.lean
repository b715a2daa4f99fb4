import CallGuard.Proofs.Classification.Deciding

/-!
# Chains as they are made

The links of a chain know by themselves what they are, all but requests. Whether a request timed out
or could not connect is for its library to answer, which looks for that below the request. A chain
is therefore told here by its layers: the links follow from them and from the library's answers, of
which nothing is assumed. Layers that are not recognised can be put in above the one that decides,
and what stands below it can be replaced, as long as no request above it is lost that way. If one
is, it is the first that is recognised.
-/

namespace CallGuard

namespace Meaning

def isRequest : Meaning → Bool
  | request _ => true
  | _ => false

/-- A request without a status is lost if it timed out or could not connect. -/
def isLostRequest : Meaning → Bool
  | request ⟨.status _, _, _⟩ => false
  | request f => f.timedOut || f.unconnected
  | _ => false

end Meaning

/-- An error of a chain before it is known what stands below it. -/
inductive Layer where
  | plain (link : Link) (own : link.meaning.isRequest = false)
  | request (kind : RequestKind)

namespace Layer

variable (lib : RequestLibrary)

def link (below : List Link) : Layer → Link
  | plain link _ => link
  | request kind => lib.link kind below

def links (below : List Link) : List Layer → List Link
  | [] => []
  | x :: lower => x.link lib (links below lower ++ below) :: links below lower

/-- The links of the layers that stand above `x` in a chain. -/
def linksAbove (before : List Layer) (x : Layer) (after : List Layer) : List Link :=
  links lib (links lib [] (x :: after)) before

def isRequest : Layer → Bool
  | plain .. => false
  | request _ => true

variable {lib} {below : List Link}

theorem links_cons (x : Layer) (lower : List Layer) :
    links lib [] (x :: lower) = x.link lib (links lib [] lower) :: links lib [] lower := by
  rw [links, List.append_nil]

theorem links_append (below : List Link) (upper lower : List Layer) :
    links lib below (upper ++ lower) =
      links lib (links lib below lower ++ below) upper ++ links lib below lower := by
  induction upper with
  | nil => rfl
  | cons x rest ih => rw [List.cons_append, links, links, ih, List.append_assoc, List.cons_append]

theorem link_eq {x : Layer} (hOwn : x.isRequest = false) (below below' : List Link) :
    x.link lib below' = x.link lib below := by
  cases x with
  | plain l => rfl
  | request kind => cases hOwn

/-- Where a chain is cut, its layers can be cut. -/
theorem exists_of_links_eq_append {layers : List Layer} {above : List Link} {l : Link}
    (hLinks : links lib [] layers = above ++ l :: below) :
    ∃ before x after, layers = before ++ x :: after ∧ links lib [] after = below ∧
      x.link lib below = l ∧ linksAbove lib before x after = above := by
  induction above generalizing layers with
  | nil =>
    cases layers with
    | nil => cases hLinks
    | cons x after =>
      rw [links_cons, List.nil_append, List.cons.injEq] at hLinks
      obtain ⟨rfl, rfl⟩ := hLinks
      exact ⟨[], x, after, rfl, rfl, rfl, rfl⟩
  | cons u above ih =>
    cases layers with
    | nil => cases hLinks
    | cons y lower =>
      rw [links_cons, List.cons_append, List.cons.injEq] at hLinks
      obtain ⟨rfl, hLower⟩ := hLinks
      obtain ⟨before, x, after, rfl, hAfter, hHere, hBefore⟩ := ih hLower
      refine ⟨y :: before, x, after, rfl, hAfter, hHere, ?_⟩
      rw [linksAbove] at hBefore ⊢
      rw [links, hBefore, links_append, List.append_nil, hBefore]

end Layer

namespace Fault

variable {lib : RequestLibrary}

def MadeOf (lib : RequestLibrary) (fault : Fault) (layers : List Layer) : Prop :=
  fault.links = Layer.links lib [] layers

def AnsweredBy (lib : RequestLibrary) (fault : Fault) : Prop :=
  ∀ above link below, fault.links = above ++ link :: below → link.meaning.isRequest = true →
    ∃ kind, link = lib.link kind below

theorem exists_layers {chain : List Link}
    (hAnswered : ∀ above link below, chain = above ++ link :: below →
      link.meaning.isRequest = true → ∃ kind, link = lib.link kind below) :
    ∃ layers, chain = Layer.links lib [] layers := by
  induction chain with
  | nil => exact ⟨[], rfl⟩
  | cons l below ih =>
    obtain ⟨lower, hLower⟩ := ih fun above link rest hRest =>
      hAnswered (l :: above) link rest (by rw [hRest, List.cons_append])
    cases hRequest : l.meaning.isRequest with
    | false => exact ⟨.plain l hRequest :: lower, by rw [Layer.links_cons, ← hLower]; rfl⟩
    | true =>
      obtain ⟨kind, hKind⟩ := hAnswered [] l below rfl hRequest
      exact ⟨.request kind :: lower, by rw [Layer.links_cons, ← hLower, hKind]; rfl⟩

theorem exists_madeOf_iff (fault : Fault) :
    (∃ layers, fault.MadeOf lib layers) ↔ fault.AnsweredBy lib := by
  constructor
  · rintro ⟨layers, hMade⟩ above link below hLinks hRequest
    rw [hMade] at hLinks
    obtain ⟨before, x, after, -, -, rfl, -⟩ := Layer.exists_of_links_eq_append hLinks
    cases x with
    | plain l hOwn => exact absurd hRequest (by simp [Layer.link, hOwn])
    | request kind => exact ⟨kind, rfl⟩
  · exact exists_layers

end Fault

/-- What is said of a request that is not lost. -/
def RequestKind.verdict? : RequestKind → Option Verdict
  | status s => s.verdict?
  | builder => some .expected
  | other => none

theorem RequestFault.verdict?_eq (f : RequestFault) :
    f.verdict? = if (Meaning.request f).isLostRequest then some .counted else f.kind.verdict? := by
  obtain ⟨kind, timedOut, unconnected⟩ := f
  cases kind with
  | status s => rfl
  | builder | other => cases timedOut <;> cases unconnected <;> rfl

namespace Backend

variable {lib : RequestLibrary} {b : Backend} {m : Meaning} {v : Verdict}

theorem vocabulary_request (f : RequestFault) :
    Backend.httpClient.vocabulary (.request f) =
      if (Meaning.request f).isLostRequest then some .counted else f.kind.verdict? :=
  f.verdict?_eq

theorem passesOver_request (hOther : b ≠ .httpClient) (f : RequestFault) :
    b.PassesOver (.request f) where
  vocabulary := by
    cases b with
    | httpClient => exact absurd rfl hOther
    | database | cache | workflowClient | generic => rfl
  shared := rfl

theorem eq_request_of_lost (hLost : m.isLostRequest = true) : ∃ f, m = .request f := by
  cases m with
  | request f => exact ⟨f, rfl⟩
  | unknown | cancelled | elapsed | io | database | cache | http | transport | workflow =>
    cases hLost

theorem recognises_lost (hLost : m.isLostRequest = true) :
    Backend.httpClient.Recognises m .counted := by
  obtain ⟨f, rfl⟩ := eq_request_of_lost hLost
  exact .byVocabulary (by rw [vocabulary_request, if_pos hLost])

theorem passesOver_lost (hOther : b ≠ .httpClient) (hLost : m.isLostRequest = true) :
    b.PassesOver m := by
  obtain ⟨f, rfl⟩ := eq_request_of_lost hLost
  exact passesOver_request hOther f

def LosesRequest (links : List Link) : Prop := ∃ l ∈ links, l.meaning.isLostRequest = true

/-- Of the links only requests that are lost may be recognised. -/
def PassesOrLoses (b : Backend) (links : List Link) : Prop :=
  ∀ l ∈ links, b.PassesOver l.meaning ∨ l.meaning.isLostRequest = true

theorem passesOver_or_lost {f f' : RequestFault} (hPassed : b.PassesOver (.request f))
    (hKind : f'.kind = f.kind) :
    b.PassesOver (.request f') ∨ (Meaning.request f').isLostRequest = true := by
  by_cases hClient : b = .httpClient
  · subst hClient
    have hSilent := hPassed.vocabulary
    rw [vocabulary_request] at hSilent
    split at hSilent
    · cases hSilent
    · cases hLost : (Meaning.request f').isLostRequest with
      | true => exact .inr rfl
      | false =>
        refine .inl ⟨?_, rfl⟩
        rw [vocabulary_request, if_neg (Bool.eq_false_iff.mp hLost), hKind, hSilent]
  · exact .inl (passesOver_request hClient f')

/-- What stands below a layer that is passed over matters only to a request that is lost then. -/
theorem PassesOver.elsewhere {x : Layer} {below : List Link}
    (hPassed : b.PassesOver (x.link lib below).meaning) (below' : List Link) :
    b.PassesOver (x.link lib below').meaning ∨
      (x.link lib below').meaning.isLostRequest = true := by
  cases x with
  | plain l => exact .inl hPassed
  | request kind => exact passesOver_or_lost hPassed rfl

namespace PassesOrLoses

variable {links rest : List Link}

theorem passesOver (hLinks : b.PassesOrLoses links)
    (hKept : b = .httpClient → ¬ LosesRequest links) : ∀ l ∈ links, b.PassesOver l.meaning := by
  intro l hMem
  rcases hLinks l hMem with hPassed | hLost
  · exact hPassed
  · exact passesOver_lost (fun hClient => hKept hClient ⟨l, hMem, hLost⟩) hLost

/-- The topmost request that is lost decides. -/
theorem walk_eq (hLinks : PassesOrLoses .httpClient links) (hLoses : LosesRequest links) :
    Backend.httpClient.walk (links ++ rest) = some .counted := by
  induction links with
  | nil =>
    obtain ⟨_, hMem, _⟩ := hLoses
    cases hMem
  | cons l lower ih =>
    obtain ⟨hHead, hLower⟩ := List.forall_mem_cons.mp hLinks
    cases hLost : l.meaning.isLostRequest with
    | true => exact walk_eq_some_iff.mpr ⟨[], l, _, rfl, recognises_lost hLost, nofun⟩
    | false =>
      have hPassed := hHead.resolve_right (Bool.eq_false_iff.mp hLost)
      rw [List.cons_append, walk_cons_of_passesOver hPassed]
      refine ih hLower ?_
      obtain ⟨l', hMem, hLost'⟩ := hLoses
      refine ⟨l', List.mem_of_ne_of_mem ?_ hMem, hLost'⟩
      rintro rfl
      rw [hLost'] at hLost
      cases hLost

end PassesOrLoses

/-- The longer chain is the other one with some layers put in that are not recognised there. Both
stand on `below`. -/
inductive Padded (lib : RequestLibrary) (b : Backend) (below : List Link) :
    List Layer → List Layer → Prop where
  | nil : Padded lib b below [] []
  | keep {chain longer : List Layer} (x : Layer) : Padded lib b below chain longer →
      Padded lib b below (x :: chain) (x :: longer)
  | insert {chain longer : List Layer} {x : Layer} : Padded lib b below chain longer →
      b.PassesOver (x.link lib (Layer.links lib below longer ++ below)).meaning →
      Padded lib b below chain (x :: longer)

theorem Padded.passesOrLoses {below below' : List Link} {chain longer : List Layer}
    (hPadded : Padded lib b below' chain longer)
    (hChain : ∀ l ∈ Layer.links lib below chain, b.PassesOver l.meaning) :
    b.PassesOrLoses (Layer.links lib below' longer) := by
  induction hPadded with
  | nil => exact nofun
  | keep x _ ih =>
    obtain ⟨hHead, hLower⟩ := List.forall_mem_cons.mp hChain
    exact List.forall_mem_cons.mpr ⟨hHead.elsewhere _, ih hLower⟩
  | insert _ hPassed ih => exact List.forall_mem_cons.mpr ⟨.inl hPassed, ih hChain⟩

structure DecidedAt (lib : RequestLibrary) (b : Backend) (fault : Fault) (before : List Layer)
    (x : Layer) (after : List Layer) (v : Verdict) : Prop where
  made : fault.MadeOf lib (before ++ x :: after)
  before : ∀ l ∈ Layer.linksAbove lib before x after, b.PassesOver l.meaning
  here : b.Recognises (x.link lib (Layer.links lib [] after)).meaning v

/-- A chain with the layer `x`: above it `before` with layers put in that are not recognised, and
below it, unless `x` is a request, anything. -/
structure Reworked (lib : RequestLibrary) (b : Backend) (fault : Fault) (before : List Layer)
    (x : Layer) (after before' after' : List Layer) : Prop where
  made : fault.MadeOf lib (before' ++ x :: after')
  above : Padded lib b (Layer.links lib [] (x :: after')) before before'
  below : x.isRequest = true → after' = after

section Reworking

variable {fault fault' : Fault} {before before' after after' : List Layer} {x : Layer}

theorem links_eq (hMade : fault.MadeOf lib (before ++ x :: after)) :
    fault.links = Layer.linksAbove lib before x after ++
      x.link lib (Layer.links lib [] after) :: Layer.links lib [] after := by
  rw [hMade, Layer.links_append, List.append_nil, ← Layer.links_cons, Layer.linksAbove]

namespace DecidedAt

theorem classify_eq (h : DecidedAt lib b fault before x after v) : b.classify fault = v := by
  rw [Backend.classify_eq, links_eq h.made, walk_of_first h.before h.here]
  rfl

theorem passesOrLoses (h : DecidedAt lib b fault before x after v)
    (hReworked : Reworked lib b fault' before x after before' after') :
    b.PassesOrLoses (Layer.linksAbove lib before' x after') :=
  hReworked.above.passesOrLoses h.before

theorem reworked (h : DecidedAt lib b fault before x after v)
    (hReworked : Reworked lib b fault' before x after before' after')
    (hKept : b = .httpClient → ¬ LosesRequest (Layer.linksAbove lib before' x after')) :
    DecidedAt lib b fault' before' x after' v where
  made := hReworked.made
  before := (h.passesOrLoses hReworked).passesOver hKept
  here := by
    cases hRequest : x.isRequest with
    | false =>
      rw [Layer.link_eq hRequest (Layer.links lib [] after)]
      exact h.here
    | true =>
      rw [hReworked.below hRequest]
      exact h.here

theorem overtaken (h : DecidedAt lib .httpClient fault before x after v)
    (hReworked : Reworked lib .httpClient fault' before x after before' after')
    (hLoses : LosesRequest (Layer.linksAbove lib before' x after')) :
    Backend.httpClient.classify fault' = .counted := by
  rw [Backend.classify_eq, links_eq hReworked.made, (h.passesOrLoses hReworked).walk_eq hLoses]
  rfl

end DecidedAt

/-- A chain in which the requests say what their library says has a layer that decides, or nothing
in it is recognised. -/
theorem exists_decidedAt (hAnswered : fault.AnsweredBy lib) :
    (∃ before x after v, DecidedAt lib b fault before x after v) ∨
      ∃ layers, fault.MadeOf lib layers ∧ ∀ l ∈ fault.links, b.PassesOver l.meaning := by
  obtain ⟨layers, hMade⟩ := (Fault.exists_madeOf_iff fault).mpr hAnswered
  cases hWalk : b.walk fault.links with
  | none => exact .inr ⟨layers, hMade, walk_eq_none_iff.mp hWalk⟩
  | some v =>
    obtain ⟨above, link, below, hLinks, hHere, hAbove⟩ := walk_eq_some_iff.mp hWalk
    rw [Fault.MadeOf] at hMade
    obtain ⟨before, x, after, rfl, rfl, rfl, rfl⟩ :=
      Layer.exists_of_links_eq_append (hMade.symm.trans hLinks)
    exact .inl ⟨before, x, after, v, hMade, hAbove, hHere⟩

/-- However a chain without a link that is recognised is padded, it counts. -/
theorem classify_padded {chain longer : List Layer} (hMade : fault.MadeOf lib chain)
    (hNothing : ∀ l ∈ fault.links, b.PassesOver l.meaning) (hMade' : fault'.MadeOf lib longer)
    (hPadded : Padded lib b [] chain longer) : b.classify fault' = .counted := by
  rw [hMade] at hNothing
  have hLonger := hPadded.passesOrLoses hNothing
  rw [Backend.classify_eq, hMade']
  by_cases hLoses : b = .httpClient ∧ LosesRequest (Layer.links lib [] longer)
  · obtain ⟨rfl, hLoses⟩ := hLoses
    rw [← List.append_nil (Layer.links lib [] longer), hLonger.walk_eq hLoses]
    rfl
  · have hPassed := hLonger.passesOver fun hClient hLoses' => hLoses ⟨hClient, hLoses'⟩
    rw [walk_eq_none_iff.mpr hPassed]
    rfl

end Reworking

structure DecidesByFirst (lib : RequestLibrary) (b : Backend) : Prop where
  decides : ∀ fault v, b.classify fault = v ↔ b.Decides fault.links v
  reached : ∀ {fault : Fault}, fault.AnsweredBy lib →
    (∃ before x after v, DecidedAt lib b fault before x after v) ∨
      ∃ layers, fault.MadeOf lib layers ∧ ∀ l ∈ fault.links, b.PassesOver l.meaning
  unchanged : ∀ {fault fault' before x after v before' after'},
    DecidedAt lib b fault before x after v →
    Reworked lib b fault' before x after before' after' →
    (b = .httpClient → ¬ LosesRequest (Layer.linksAbove lib before' x after')) →
    b.classify fault' = b.classify fault
  overtaken : ∀ {fault fault' before x after v before' after'},
    DecidedAt lib b fault before x after v →
    Reworked lib b fault' before x after before' after' → b = .httpClient →
    LosesRequest (Layer.linksAbove lib before' x after') →
    b.classify fault' = .counted
  undecided : ∀ {fault fault' : Fault} {chain longer : List Layer}, fault.MadeOf lib chain →
    (∀ l ∈ fault.links, b.PassesOver l.meaning) → fault'.MadeOf lib longer →
    Padded lib b [] chain longer → b.classify fault' = b.classify fault
  agrees : ∀ {fault : Fault}, (∀ l ∈ fault.links, l.meaning.isOfClient = false) →
    ∀ b' : Backend, b'.classify fault = b.classify fault

/-- Whatever the library of requests answers, the first link that is recognised decides. It keeps
doing so whatever is put in above it and whatever stands below it, unless a request above it is lost
that way, which then decides in its place. -/
theorem first_recognised_decides (lib : RequestLibrary) (b : Backend) : DecidesByFirst lib b where
  decides := fun fault _ => classify_eq_iff fault
  reached := exists_decidedAt
  unchanged := by
    intro fault fault' before x after v before' after' hDecided hReworked hKept
    rw [hDecided.classify_eq, (hDecided.reworked hReworked hKept).classify_eq]
  overtaken := by
    rintro fault fault' before x after v before' after' hDecided hReworked rfl hLoses
    exact hDecided.overtaken hReworked hLoses
  undecided := by
    intro fault fault' chain longer hMade hNothing hMade' hPadded
    rw [classify_padded hMade hNothing hMade' hPadded, Backend.classify_eq,
      walk_eq_none_iff.mpr hNothing]
    rfl
  agrees := fun hShared b' => classify_eq_classify hShared b' b

def forbiddenBelow (cause : Fault) : Fault :=
  Fault.brokenRequest (Fault.ioAround .permissionDenied cause)

def stalledTransport : Link := ⟨.transport .timedOut, "operation timed out"⟩

theorem forbiddenBelow_decidedAt :
    DecidedAt .walking .httpClient (forbiddenBelow (Fault.plain "boom")) [.request .other]
      (.plain ⟨.io .permissionDenied, "boom"⟩ rfl) [] .expected where
  made := rfl
  before := List.forall_mem_singleton.mpr ⟨rfl, rfl⟩
  here := .byRules rfl rfl

/-- The link that decides is no request, but one above it asks what is put in between, and what is
put below. -/
theorem not_kept_below_request :
    (¬ ∀ (b : Backend) (fault fault' : Fault) (before : List Layer) (x : Layer)
      (after before' : List Layer) (v : Verdict), DecidedAt .walking b fault before x after v →
      Reworked .walking b fault' before x after before' after →
      b.classify fault' = b.classify fault) ∧
    ¬ ∀ (b : Backend) (fault fault' : Fault) (before : List Layer) (x : Layer)
      (after after' : List Layer) (v : Verdict), DecidedAt .walking b fault before x after v →
      x.isRequest = false → fault'.MadeOf .walking (before ++ x :: after') →
      b.classify fault' = b.classify fault := by
  constructor
  · intro hPadded
    have hReworked : Reworked .walking .httpClient
        (Fault.brokenRequest ⟨stalledTransport, [⟨.io .permissionDenied, "boom"⟩]⟩)
        [.request .other] (.plain ⟨.io .permissionDenied, "boom"⟩ rfl) []
        [.request .other, .plain stalledTransport rfl] [] :=
      ⟨rfl, .keep _ (.insert .nil ⟨rfl, rfl⟩), nofun⟩
    have hSame := hPadded .httpClient _ _ _ _ _ _ _ forbiddenBelow_decidedAt hReworked
    exact absurd hSame (by decide)
  · intro hReplaced
    have hSame := hReplaced .httpClient _
      (forbiddenBelow (Fault.wrap "boom" (Fault.io .timedOut))) _ _ _
      [.plain (Fault.io .timedOut).head rfl] _ forbiddenBelow_decidedAt rfl rfl
    exact absurd hSame (by decide)

end Backend

end CallGuard
