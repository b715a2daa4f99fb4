import CallGuard.Classification

/-!
# The link that decides

A classifier goes down the chain of a fault to the first link of which its backend's vocabulary
or, where that is silent, the shared rules know something. That link decides, and if there is none
the fault counts. Only the links of client libraries are in a vocabulary at all, so on a chain
without them the backends cannot differ.
-/

namespace CallGuard

/-- Whether a client library made the link, so that its backend has a word for it. -/
def Meaning.isOfClient : Meaning → Bool
  | database _ | cache _ | http _ | request _ | workflow _ => true
  | unknown | cancelled | elapsed | io _ | transport _ => false

namespace Backend

variable {b : Backend} {m : Meaning} {v : Verdict} {links : List Link}

structure PassesOver (b : Backend) (m : Meaning) : Prop where
  vocabulary : b.vocabulary m = none
  shared : m.sharedVerdict? = none

/-- The vocabulary or, where it is silent, the shared rules know something of a link. -/
inductive Recognises (b : Backend) (m : Meaning) (v : Verdict) : Prop where
  | byVocabulary : b.vocabulary m = some v → Recognises b m v
  | byRules : b.vocabulary m = none → m.sharedVerdict? = some v → Recognises b m v

theorem verdict?_eq_none_iff : b.verdict? m = none ↔ b.PassesOver m := by
  rw [verdict?, Option.or_eq_none_iff]
  exact ⟨fun h => ⟨h.1, h.2⟩, fun h => ⟨h.vocabulary, h.shared⟩⟩

theorem verdict?_eq_some_iff : b.verdict? m = some v ↔ b.Recognises m v := by
  rw [verdict?, Option.or_eq_some_iff]
  constructor
  · rintro (hVocabulary | ⟨hSilent, hShared⟩)
    · exact .byVocabulary hVocabulary
    · exact .byRules hSilent hShared
  · rintro (hVocabulary | ⟨hSilent, hShared⟩)
    · exact .inl hVocabulary
    · exact .inr ⟨hSilent, hShared⟩

inductive Decides (b : Backend) (links : List Link) : Verdict → Prop where
  | first {before after : List Link} {link : Link} {v : Verdict} :
      links = before ++ link :: after → (∀ l ∈ before, b.PassesOver l.meaning) →
      b.Recognises link.meaning v → Decides b links v
  | nothing : (∀ l ∈ links, b.PassesOver l.meaning) → Decides b links .counted

def walk (b : Backend) (links : List Link) : Option Verdict :=
  links.findSome? fun link => b.verdict? link.meaning

theorem classify_eq (fault : Fault) : b.classify fault = (b.walk fault.links).getD .counted := rfl

theorem walk_eq_none_iff : b.walk links = none ↔ ∀ l ∈ links, b.PassesOver l.meaning := by
  simp only [walk, List.findSome?_eq_none_iff, verdict?_eq_none_iff]

theorem walk_eq_some_iff :
    b.walk links = some v ↔ ∃ before link after, links = before ++ link :: after ∧
      b.Recognises link.meaning v ∧ ∀ l ∈ before, b.PassesOver l.meaning := by
  simp only [walk, List.findSome?_eq_some_iff, verdict?_eq_some_iff, verdict?_eq_none_iff]

/-- Whatever stands below a link that is recognised, it does not matter. -/
theorem walk_of_first {before after : List Link} {link : Link}
    (hBefore : ∀ l ∈ before, b.PassesOver l.meaning) (hLink : b.Recognises link.meaning v) :
    b.walk (before ++ link :: after) = some v :=
  walk_eq_some_iff.mpr ⟨before, link, after, rfl, hLink, hBefore⟩

theorem walk_cons_of_passesOver {link : Link} (hLink : b.PassesOver link.meaning) :
    b.walk (link :: links) = b.walk links := by
  rw [walk, List.findSome?_cons, verdict?_eq_none_iff.mpr hLink, ← walk]

theorem walk_cons (link : Link) (below : List Link) :
    b.walk (link :: below) = (b.verdict? link.meaning).or (b.walk below) := by
  rw [walk, List.findSome?_cons, ← walk]
  cases b.verdict? link.meaning <;> rfl

theorem walk_append (above below : List Link) :
    b.walk (above ++ below) = (b.walk above).or (b.walk below) := by
  rw [walk, List.findSome?_append, ← walk, ← walk]

theorem walk_eq_map (links : List Link) :
    b.walk links = (links.map fun link => b.verdict? link.meaning).findSome? id := by
  rw [walk, List.findSome?_map]
  rfl

theorem classify_eq_iff (fault : Fault) : b.classify fault = v ↔ b.Decides fault.links v := by
  rw [classify_eq]
  cases hWalk : b.walk fault.links with
  | none =>
    have hNothing := walk_eq_none_iff.mp hWalk
    constructor
    · rintro rfl
      exact .nothing hNothing
    · rintro (⟨hLinks, hBefore, hLink⟩ | _)
      · rw [hLinks, walk_of_first hBefore hLink] at hWalk
        cases hWalk
      · rfl
  | some v' =>
    constructor
    · rintro rfl
      obtain ⟨before, link, after, hLinks, hLink, hBefore⟩ := walk_eq_some_iff.mp hWalk
      exact .first hLinks hBefore hLink
    · rintro (⟨hLinks, hBefore, hLink⟩ | hNothing)
      · rw [hLinks, walk_of_first hBefore hLink] at hWalk
        exact (Option.some.inj hWalk).symm
      · rw [walk_eq_none_iff.mpr hNothing] at hWalk
        cases hWalk

theorem vocabulary_eq_none (b : Backend) (hShared : m.isOfClient = false) :
    b.vocabulary m = none := by
  cases m with
  | database | cache | http | request | workflow => cases hShared
  | unknown | cancelled | elapsed | io | transport => cases b <;> rfl

theorem passesOver_unknown (b : Backend) : b.PassesOver .unknown where
  vocabulary := vocabulary_eq_none b rfl
  shared := rfl

/-- Without a link of a client library all backends agree. -/
theorem classify_eq_classify {fault : Fault}
    (hShared : ∀ l ∈ fault.links, l.meaning.isOfClient = false) (b b' : Backend) :
    b.classify fault = b'.classify fault := by
  have hVerdicts : fault.links.map (fun link => b.verdict? link.meaning) =
      fault.links.map fun link => b'.verdict? link.meaning := by
    refine List.map_congr_left fun l hMem => ?_
    rw [verdict?, verdict?, vocabulary_eq_none b (hShared l hMem),
      vocabulary_eq_none b' (hShared l hMem)]
  rw [classify_eq, classify_eq, walk_eq_map, walk_eq_map, hVerdicts]

end Backend

end CallGuard
