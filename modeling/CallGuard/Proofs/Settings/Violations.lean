import CallGuard.Proofs.Counting.Lookback
import CallGuard.Proofs.Decimal.Order
import CallGuard.Settings.Loading

/-!
# What makes settings wrong

The rules for settings are stated apart from the checks: what is wrong at which site, and with
what complaint. The checks report just that, once for each site and in the order of the sites.
Settings without a complaint are those that follow every rule.
-/

namespace CallGuard

namespace Text

def IsBlank (s : String) : Prop := ∀ c ∈ s.toList, isBlank c = true

theorem not_isBlank_of_mem {s : String} {c : Char} (hMem : c ∈ s.toList)
    (hShown : isBlank c = false) : ¬ IsBlank s := by
  intro hBlank
  rw [hBlank c hMem] at hShown
  cases hShown

/-- The texts differ at most in the case of the letters A to Z. -/
def SameLetters (s t : String) : Prop := s.toList.map Char.toLower = t.toList.map Char.toLower

theorem dropWhile_dropWhile_reverse {α : Type} (p : α → Bool) (l : List α) :
    (l.dropWhile p).reverse.dropWhile p = [] ↔ ∀ x ∈ l, p x = true := by
  rw [List.dropWhile_eq_nil_iff]
  constructor
  · intro hRest x hMem
    rw [← List.takeWhile_append_dropWhile (p := p) (l := l), List.mem_append] at hMem
    obtain hFirst | hLast := hMem
    · exact List.mem_takeWhile_imp hFirst
    · exact hRest x (List.mem_reverse.mpr hLast)
  · intro hAll x hMem
    exact hAll x ((List.dropWhile_sublist p).subset (List.mem_reverse.mp hMem))

theorem isEmpty_trimmed (s : String) : (trimmed s).isEmpty = true ↔ IsBlank s := by
  rw [IsBlank, ← dropWhile_dropWhile_reverse, trimmed]
  simp

end Text

section Checks

variable {p : Problem}

theorem BreakerSettings.nameProblem?_eq_some_iff {b : BreakerSettings} {seen : List String}
    {index : Nat} :
    b.nameProblem? seen index = some p ↔
      Text.IsBlank b.name ∧ p = .emptyBreakerName index ∨
      ¬ Text.IsBlank b.name ∧ b.name ∈ seen ∧ p = .duplicateBreaker b.name := by
  rw [nameProblem?, ← Text.isEmpty_trimmed]
  by_cases hBlank : (Text.trimmed b.name).isEmpty = true
  · simp [hBlank, eq_comm]
  · simp [hBlank, eq_comm]

theorem BreakerSettings.windowProblem?_eq_some_iff {b : BreakerSettings} :
    b.windowProblem? = some p ↔
      (b.closedWindowIntervalMs ≠ 0 ∧ b.bucketPeriodMs ≠ 0 ∧
        b.closedWindowIntervalMs < b.bucketPeriodMs) ∧
      p = .bucketLargerThanWindow b.name b.bucketPeriodMs b.closedWindowIntervalMs := by
  rw [windowProblem?, Option.ite_none_right_eq_some, isRolling_iff, Option.some_inj,
    eq_comm (a := p)]
  simp only [and_assoc]

namespace RetrySettings

variable {s : RetrySettings}

theorem coefficientProblem?_eq_some_iff :
    s.coefficientProblem? = some p ↔
      (∀ c, Decimal.value? s.backoffCoefficient = some c → c < 1) ∧
      p = .invalidBackoffCoefficient s.backoffCoefficient := by
  rw [coefficientProblem?, Option.ite_none_right_eq_some,
    Decimal.not_finite_or_lt_iff Decimal.value_one, Option.some_inj, eq_comm (a := p)]

theorem jitterProblem?_eq_some_iff :
    s.jitterProblem? = some p ↔
      (∀ j, Decimal.value? s.jitter = some j → j < 0 ∨ 1 < j) ∧ p = .invalidJitter s.jitter := by
  rw [jitterProblem?, Option.ite_none_left_eq_some,
    Decimal.between_iff Decimal.value_zero Decimal.value_one, Option.some_inj, eq_comm (a := p)]
  simp only [not_exists, not_and, not_le, or_iff_not_imp_left, not_lt]

theorem capProblem?_eq_some_iff :
    s.capProblem? = some p ↔
      (s.maxIntervalMs ≠ 0 ∧ s.maxIntervalMs < s.initialIntervalMs) ∧
      p = .maxIntervalBelowInitial s.initialIntervalMs s.maxIntervalMs := by
  rw [capProblem?, Option.ite_none_right_eq_some, Option.some_inj, eq_comm (a := p)]

end RetrySettings

namespace ObservabilitySettings

variable {s : ObservabilitySettings}

theorem levels_iff (level : String) :
    logLevels.contains level.toLower = true ↔
      ∃ known ∈ ["trace", "debug", "info", "warn", "error"], Text.SameLetters level known := by
  have hSmall : ∀ known ∈ logLevels,
      known.toList.map Char.toLower = known.toList := by
    decide
  have hSame : ∀ known ∈ logLevels,
      Text.SameLetters level known ↔ level.toLower = known := by
    intro known hKnown
    rw [Text.SameLetters, hSmall known hKnown, ← String.toList_inj, String.toLower,
      String.toList_map]
  rw [List.contains_iff_mem]
  constructor
  · intro hMem
    exact ⟨level.toLower, hMem, (hSame _ hMem).mpr rfl⟩
  · rintro ⟨known, hMem, hLetters⟩
    exact (hSame known hMem).mp hLetters ▸ hMem

theorem levelProblem?_eq_some_iff :
    s.levelProblem? = some p ↔
      (∀ known ∈ ["trace", "debug", "info", "warn", "error"],
        ¬ Text.SameLetters s.logLevel known) ∧
      p = .invalidLogLevel s.logLevel := by
  rw [levelProblem?, Option.ite_none_left_eq_some, levels_iff, Option.some_inj, eq_comm (a := p)]
  simp only [not_exists, not_and]

theorem addressProblem?_eq_some_iff :
    s.addressProblem? = some p ↔
      (s.metricsEnabled = true ∧ SocketAddress.read? s.metricsAddress = none) ∧
      p = .invalidMetricsAddress s.metricsAddress := by
  rw [addressProblem?, Option.ite_none_right_eq_some, Bool.and_eq_true, Option.isNone_iff_eq_none,
    Option.some_inj, eq_comm (a := p)]

end ObservabilitySettings

end Checks

namespace Settings

def breakerNames (s : Settings) : List String := s.breakers.map BreakerSettings.name

inductive Site where
  | name (index : Nat)
  | window (index : Nat)
  | coefficient
  | jitter
  | cap
  | level
  | address

def sites (s : Settings) : List Site :=
  (List.range s.breakers.length).flatMap (fun index => [.name index, .window index]) ++
    [.coefficient, .jitter, .cap, .level, .address]

inductive Violates (s : Settings) : Site → Problem → Prop where
  | blankName {index : Nat} {b : BreakerSettings} (hHere : s.breakers[index]? = some b)
      (hBlank : Text.IsBlank b.name) :
      Violates s (.name index) (.emptyBreakerName index)
  | repeatedName {index earlier : Nat} {a b : BreakerSettings}
      (hHere : s.breakers[index]? = some b) (hNamed : ¬ Text.IsBlank b.name)
      (hEarlier : earlier < index) (hThere : s.breakers[earlier]? = some a)
      (hSame : a.name = b.name) :
      Violates s (.name index) (.duplicateBreaker b.name)
  | largeBucket {index : Nat} {b : BreakerSettings} (hHere : s.breakers[index]? = some b)
      (hWindow : b.closedWindowIntervalMs ≠ 0) (hBucket : b.bucketPeriodMs ≠ 0)
      (hLarge : b.closedWindowIntervalMs < b.bucketPeriodMs) :
      Violates s (.window index)
        (.bucketLargerThanWindow b.name b.bucketPeriodMs b.closedWindowIntervalMs)
  | coefficient (hSmall : ∀ c, Decimal.value? s.retry.backoffCoefficient = some c → c < 1) :
      Violates s .coefficient (.invalidBackoffCoefficient s.retry.backoffCoefficient)
  | jitter (hOutside : ∀ j, Decimal.value? s.retry.jitter = some j → j < 0 ∨ 1 < j) :
      Violates s .jitter (.invalidJitter s.retry.jitter)
  | cap (hCapped : s.retry.maxIntervalMs ≠ 0)
      (hLow : s.retry.maxIntervalMs < s.retry.initialIntervalMs) :
      Violates s .cap (.maxIntervalBelowInitial s.retry.initialIntervalMs s.retry.maxIntervalMs)
  | level (hUnknown : ∀ level ∈ ["trace", "debug", "info", "warn", "error"],
        ¬ Text.SameLetters s.observability.logLevel level) :
      Violates s .level (.invalidLogLevel s.observability.logLevel)
  | address (hEnabled : s.observability.metricsEnabled = true)
      (hUnread : SocketAddress.read? s.observability.metricsAddress = none) :
      Violates s .address (.invalidMetricsAddress s.observability.metricsAddress)

structure Acceptable (s : Settings) : Prop where
  named : ∀ b ∈ s.breakers, ¬ Text.IsBlank b.name
  distinct : s.breakerNames.Nodup
  buckets : ∀ b ∈ s.breakers, b.closedWindowIntervalMs ≠ 0 → b.bucketPeriodMs ≠ 0 →
    b.bucketPeriodMs ≤ b.closedWindowIntervalMs
  coefficient : ∃ c, Decimal.value? s.retry.backoffCoefficient = some c ∧ 1 ≤ c
  jitter : ∃ j, Decimal.value? s.retry.jitter = some j ∧ 0 ≤ j ∧ j ≤ 1
  cap : s.retry.maxIntervalMs = 0 ∨ s.retry.initialIntervalMs ≤ s.retry.maxIntervalMs
  level : ∃ level ∈ ["trace", "debug", "info", "warn", "error"],
    Text.SameLetters s.observability.logLevel level
  address : s.observability.metricsEnabled = true →
    ∃ address, SocketAddress.read? s.observability.metricsAddress = some address

section Reports

variable {s : Settings}

def problemAt? (s : Settings) : Site → Option Problem
  | .name index =>
    s.breakers[index]?.bind fun b => b.nameProblem? (s.breakerNames.take index).reverse index
  | .window index => s.breakers[index]?.bind BreakerSettings.windowProblem?
  | .coefficient => s.retry.coefficientProblem?
  | .jitter => s.retry.jitterProblem?
  | .cap => s.retry.capProblem?
  | .level => s.observability.levelProblem?
  | .address => s.observability.addressProblem?

theorem mem_take_breakerNames {index : Nat} {name : String} :
    name ∈ s.breakerNames.take index ↔
      ∃ earlier a, earlier < index ∧ s.breakers[earlier]? = some a ∧ a.name = name := by
  simp [breakerNames, List.mem_iff_getElem?, List.getElem?_take]

theorem problems_breakers (s : Settings) (before after : List BreakerSettings)
    (hParts : s.breakers = before ++ after) :
    BreakerSettings.problems (before.map BreakerSettings.name).reverse before.length after =
      ((List.range' before.length after.length).flatMap fun index =>
        [Site.name index, .window index]).flatMap fun site => (s.problemAt? site).toList := by
  -- The checks carry the names they have seen in reverse, and the number of the entry.
  induction after generalizing before with
  | nil => rfl
  | cons b rest ih =>
    have hHere : s.breakers[before.length]? = some b := by simp [hParts]
    have hSeen : s.breakerNames.take before.length = before.map BreakerSettings.name := by
      simp [breakerNames, hParts]
    have hRest := ih (before ++ [b]) (by simp [hParts])
    rw [List.map_append, List.reverse_append, List.length_append] at hRest
    rw [List.length_cons, List.range'_succ, List.flatMap_cons, List.flatMap_append]
    refine congrArg₂ (· ++ ·) ?_ hRest
    simp [problemAt?, hHere, hSeen]

/-- The checks walk over the sites. -/
theorem problems_eq (s : Settings) : s.problems = s.sites.filterMap s.problemAt? := by
  rw [List.filterMap_eq_flatMap_toList, sites, List.flatMap_append, List.range_eq_range', problems,
    List.append_assoc]
  refine congrArg₂ (· ++ ·) (problems_breakers s [] s.breakers rfl) ?_
  simp [RetrySettings.problems, ObservabilitySettings.problems, problemAt?]

theorem problemAt?_eq_some_iff {site : Site} {p : Problem} :
    s.problemAt? site = some p ↔ s.Violates site p := by
  constructor
  · intro hProblem
    cases site with
    | name index =>
      obtain ⟨b, hHere, hProblem⟩ := Option.bind_eq_some_iff.mp hProblem
      obtain ⟨hBlank, rfl⟩ | ⟨hNamed, hSeen, rfl⟩ :=
        BreakerSettings.nameProblem?_eq_some_iff.mp hProblem
      · exact .blankName hHere hBlank
      · obtain ⟨earlier, a, hEarlier, hThere, hSame⟩ :=
          mem_take_breakerNames.mp (List.mem_reverse.mp hSeen)
        exact .repeatedName hHere hNamed hEarlier hThere hSame
    | window index =>
      obtain ⟨b, hHere, hProblem⟩ := Option.bind_eq_some_iff.mp hProblem
      obtain ⟨⟨hWindow, hBucket, hLarge⟩, rfl⟩ :=
        BreakerSettings.windowProblem?_eq_some_iff.mp hProblem
      exact .largeBucket hHere hWindow hBucket hLarge
    | coefficient =>
      obtain ⟨hSmall, rfl⟩ := RetrySettings.coefficientProblem?_eq_some_iff.mp hProblem
      exact .coefficient hSmall
    | jitter =>
      obtain ⟨hOutside, rfl⟩ := RetrySettings.jitterProblem?_eq_some_iff.mp hProblem
      exact .jitter hOutside
    | cap =>
      obtain ⟨⟨hCapped, hLow⟩, rfl⟩ := RetrySettings.capProblem?_eq_some_iff.mp hProblem
      exact .cap hCapped hLow
    | level =>
      obtain ⟨hUnknown, rfl⟩ := ObservabilitySettings.levelProblem?_eq_some_iff.mp hProblem
      exact .level hUnknown
    | address =>
      obtain ⟨⟨hEnabled, hUnread⟩, rfl⟩ :=
        ObservabilitySettings.addressProblem?_eq_some_iff.mp hProblem
      exact .address hEnabled hUnread
  · intro hViolates
    cases hViolates with
    | blankName hHere hBlank =>
      exact Option.bind_eq_some_iff.mpr
        ⟨_, hHere, BreakerSettings.nameProblem?_eq_some_iff.mpr (.inl ⟨hBlank, rfl⟩)⟩
    | repeatedName hHere hNamed hEarlier hThere hSame =>
      have hSeen := mem_take_breakerNames.mpr ⟨_, _, hEarlier, hThere, hSame⟩
      exact Option.bind_eq_some_iff.mpr ⟨_, hHere, BreakerSettings.nameProblem?_eq_some_iff.mpr
        (.inr ⟨hNamed, List.mem_reverse.mpr hSeen, rfl⟩)⟩
    | largeBucket hHere hWindow hBucket hLarge =>
      exact Option.bind_eq_some_iff.mpr ⟨_, hHere, BreakerSettings.windowProblem?_eq_some_iff.mpr
        ⟨⟨hWindow, hBucket, hLarge⟩, rfl⟩⟩
    | coefficient hSmall =>
      exact RetrySettings.coefficientProblem?_eq_some_iff.mpr ⟨hSmall, rfl⟩
    | jitter hOutside =>
      exact RetrySettings.jitterProblem?_eq_some_iff.mpr ⟨hOutside, rfl⟩
    | cap hCapped hLow =>
      exact RetrySettings.capProblem?_eq_some_iff.mpr ⟨⟨hCapped, hLow⟩, rfl⟩
    | level hUnknown =>
      exact ObservabilitySettings.levelProblem?_eq_some_iff.mpr ⟨hUnknown, rfl⟩
    | address hEnabled hUnread =>
      exact ObservabilitySettings.addressProblem?_eq_some_iff.mpr ⟨⟨hEnabled, hUnread⟩, rfl⟩

theorem nodup_sites (s : Settings) : s.sites.Nodup := by
  rw [sites, List.nodup_append]
  refine ⟨List.nodup_flatMap.mpr ⟨?_, ?_⟩, by simp, ?_⟩
  · intro index _
    simp
  · refine List.nodup_range.imp ?_
    intro first second hDistinct
    simp [Function.onFun, hDistinct.symm]
  · intro site hBreaker other hOther hSame
    obtain ⟨index, -, hSite⟩ := List.mem_flatMap.mp (hSame ▸ hBreaker)
    rw [List.mem_pair] at hSite
    obtain rfl | rfl := hSite <;> simp at hOther

theorem nodup_breakerNames_iff :
    s.breakerNames.Nodup ↔ ∀ (index earlier : Nat) (a b : BreakerSettings),
      s.breakers[index]? = some b → earlier < index → s.breakers[earlier]? = some a →
      a.name ≠ b.name := by
  rw [breakerNames, List.Nodup, List.pairwise_map, List.pairwise_iff_getElem]
  constructor
  · intro hDistinct index earlier a b hHere hEarlier hThere
    obtain ⟨hBound, rfl⟩ := List.getElem?_eq_some_iff.mp hHere
    obtain ⟨hBound', rfl⟩ := List.getElem?_eq_some_iff.mp hThere
    exact hDistinct earlier index hBound' hBound hEarlier
  · intro hDistinct earlier index hBound' hBound hEarlier
    exact hDistinct index earlier _ _ (List.getElem?_eq_getElem hBound) hEarlier
      (List.getElem?_eq_getElem hBound')

theorem Violates.mem_sites {site : Site} {p : Problem} (hViolates : s.Violates site p) :
    site ∈ s.sites := by
  have hBound {index : Nat} {b : BreakerSettings} (hHere : s.breakers[index]? = some b) :
      index < s.breakers.length :=
    (List.getElem?_eq_some_iff.mp hHere).1
  cases hViolates with
  | blankName hHere => simp [sites, hBound hHere]
  | repeatedName hHere => simp [sites, hBound hHere]
  | largeBucket hHere => simp [sites, hBound hHere]
  | coefficient | jitter | cap | level | address => simp [sites]

theorem Acceptable.not_violates (h : s.Acceptable) (site : Site) (p : Problem) :
    ¬ s.Violates site p := by
  intro hViolates
  cases hViolates with
  | blankName hHere hBlank => exact h.named _ (List.mem_of_getElem? hHere) hBlank
  | repeatedName hHere _ hEarlier hThere hSame =>
    exact nodup_breakerNames_iff.mp h.distinct _ _ _ _ hHere hEarlier hThere hSame
  | largeBucket hHere hWindow hBucket hLarge =>
    have hSmall := h.buckets _ (List.mem_of_getElem? hHere) hWindow hBucket
    exact UInt64.not_lt.mpr hSmall hLarge
  | coefficient hSmall =>
    obtain ⟨c, hValue, hLow⟩ := h.coefficient
    exact not_lt.mpr hLow (hSmall c hValue)
  | jitter hOutside =>
    obtain ⟨j, hValue, hLow, hHigh⟩ := h.jitter
    exact (hOutside j hValue).elim (not_lt.mpr hLow) (not_lt.mpr hHigh)
  | cap hCapped hLow => exact h.cap.elim hCapped fun hHigh => UInt64.not_lt.mpr hHigh hLow
  | level hUnknown =>
    obtain ⟨known, hMem, hLetters⟩ := h.level
    exact hUnknown known hMem hLetters
  | address hEnabled hUnread =>
    obtain ⟨address, hRead⟩ := h.address hEnabled
    exact Option.some_ne_none address (hRead.symm.trans hUnread)

theorem acceptable_of_not_violates (hNone : ∀ site p, ¬ s.Violates site p) : s.Acceptable := by
  have hNamed : ∀ b ∈ s.breakers, ¬ Text.IsBlank b.name := by
    intro b hMem hBlank
    obtain ⟨index, hHere⟩ := List.mem_iff_getElem?.mp hMem
    exact hNone _ _ (.blankName hHere hBlank)
  constructor
  case named => exact hNamed
  case distinct =>
    rw [nodup_breakerNames_iff]
    intro index earlier a b hHere hEarlier hThere hSame
    have hNotBlank := hNamed b (List.mem_of_getElem? hHere)
    exact hNone _ _ (.repeatedName hHere hNotBlank hEarlier hThere hSame)
  case buckets =>
    intro b hMem hWindow hBucket
    obtain ⟨index, hHere⟩ := List.mem_iff_getElem?.mp hMem
    exact UInt64.not_lt.mp fun hLarge => hNone _ _ (.largeBucket hHere hWindow hBucket hLarge)
  case coefficient =>
    by_contra hBad
    refine hNone _ _ (.coefficient fun c hValue => ?_)
    exact not_le.mp fun hLow => hBad ⟨c, hValue, hLow⟩
  case jitter =>
    by_contra hBad
    refine hNone _ _ (.jitter fun j hValue => ?_)
    exact or_iff_not_imp_left.mpr fun hLow =>
      not_le.mp fun hHigh => hBad ⟨j, hValue, not_lt.mp hLow, hHigh⟩
  case cap =>
    exact or_iff_not_imp_left.mpr fun hCapped =>
      UInt64.not_lt.mp fun hLow => hNone _ _ (.cap hCapped hLow)
  case level =>
    by_contra hBad
    exact hNone _ _ (.level fun known hMem hLetters => hBad ⟨known, hMem, hLetters⟩)
  case address =>
    intro hEnabled
    exact Option.ne_none_iff_exists'.mp fun hUnread => hNone _ _ (.address hEnabled hUnread)

theorem problems_eq_nil_iff : s.problems = [] ↔ s.Acceptable := by
  rw [problems_eq, List.filterMap_eq_nil_iff]
  constructor
  · intro hNone
    refine acceptable_of_not_violates fun site p hViolates => ?_
    have hProblem := problemAt?_eq_some_iff.mpr hViolates
    exact Option.some_ne_none p (hProblem.symm.trans (hNone site hViolates.mem_sites))
  · intro hAcceptable site _
    exact Option.eq_none_iff_forall_ne_some.mpr fun p hProblem =>
      hAcceptable.not_violates site p (problemAt?_eq_some_iff.mp hProblem)

end Reports

end Settings

section Repeats

def Problem.isDuplicateOf (name : String) : Problem → Bool
  | .duplicateBreaker repeated => repeated == name
  | _ => false

variable {name : String}

/-- Each occurrence of a name after the first one is reported. -/
theorem BreakerSettings.countP_duplicates (hNamed : ¬ Text.IsBlank name) (seen : List String)
    (index : Nat) (breakers : List BreakerSettings) :
    (BreakerSettings.problems seen index breakers).countP (·.isDuplicateOf name) =
      (breakers.map BreakerSettings.name).count name - if name ∈ seen then 0 else 1 := by
  induction breakers generalizing seen index with
  | nil => simp [BreakerSettings.problems]
  | cons b rest ih =>
    have hRest := ih (b.name :: seen) (index + 1)
    have hWindow : b.windowProblem?.toList.countP (·.isDuplicateOf name) = 0 := by
      rw [windowProblem?]
      split <;> rfl
    rw [BreakerSettings.problems, List.countP_append, List.countP_append, hWindow, hRest]
    by_cases hSame : b.name = name
    · subst hSame
      have hShown : (Text.trimmed b.name).isEmpty = false := by
        rw [← Bool.not_eq_true, Text.isEmpty_trimmed]
        exact hNamed
      by_cases hSeen : b.name ∈ seen
      · simp [nameProblem?, hShown, hSeen, Problem.isDuplicateOf]
        omega
      · simp [nameProblem?, hShown, hSeen, Problem.isDuplicateOf]
    · have hOther : (b.nameProblem? seen index).toList.countP (·.isDuplicateOf name) = 0 := by
        rw [nameProblem?]
        split
        · rfl
        · split
          · simp [Problem.isDuplicateOf, hSame]
          · rfl
      simp [hOther, hSame, Ne.symm hSame]

theorem Settings.countP_duplicates (hNamed : ¬ Text.IsBlank name) (s : Settings) :
    s.problems.countP (·.isDuplicateOf name) = s.breakerNames.count name - 1 := by
  have hBreakers := BreakerSettings.countP_duplicates hNamed [] 0 s.breakers
  have hOthers : (s.retry.problems ++ s.observability.problems).countP
      (·.isDuplicateOf name) = 0 := by
    rw [List.countP_eq_zero]
    intro p hMem
    simp only [RetrySettings.problems, ObservabilitySettings.problems, List.mem_append,
      Option.mem_toList, RetrySettings.coefficientProblem?_eq_some_iff,
      RetrySettings.jitterProblem?_eq_some_iff, RetrySettings.capProblem?_eq_some_iff,
      ObservabilitySettings.levelProblem?_eq_some_iff,
      ObservabilitySettings.addressProblem?_eq_some_iff] at hMem
    rcases hMem with ((⟨-, rfl⟩ | ⟨-, rfl⟩) | ⟨-, rfl⟩) | ⟨-, rfl⟩ | ⟨-, rfl⟩ <;>
      exact Bool.false_ne_true
  rw [Settings.problems, List.append_assoc, List.countP_append, hBreakers, hOthers]
  rfl

end Repeats

namespace Settings

def reports (s : Settings) : List (Site × Problem) :=
  s.sites.filterMap fun site => (s.problemAt? site).map (Prod.mk site)

section Reports

variable (s : Settings)

theorem map_snd_reports : s.reports.map Prod.snd = s.problems := by
  rw [problems_eq, reports, List.map_filterMap]
  simp

theorem map_fst_reports : (s.reports.map Prod.fst).Sublist s.sites := by
  have hFilter : s.reports.map Prod.fst =
      s.sites.filter fun site => (s.problemAt? site).isSome := by
    rw [reports, List.map_filterMap, ← List.filterMap_eq_filter]
    refine List.filterMap_congr fun site _ => ?_
    cases hProblem : s.problemAt? site <;> simp [Option.guard, hProblem]
  exact hFilter ▸ List.filter_sublist

theorem mem_reports_iff (site : Site) (p : Problem) :
    (site, p) ∈ s.reports ↔ s.Violates site p := by
  rw [← problemAt?_eq_some_iff, reports, List.mem_filterMap]
  constructor
  · rintro ⟨here, -, hFound⟩
    obtain ⟨q, hProblem, hPair⟩ := Option.map_eq_some_iff.mp hFound
    cases hPair
    exact hProblem
  · intro hProblem
    have hSite := (problemAt?_eq_some_iff.mp hProblem).mem_sites
    exact ⟨site, hSite, Option.map_eq_some_iff.mpr ⟨p, hProblem, rfl⟩⟩

end Reports

theorem validated_eq_ok_iff (s : Settings) : s.validated = .ok s ↔ s.problems = [] := by
  unfold validated
  split <;> simp_all

theorem validated_of_problems {s : Settings} (hProblems : s.problems ≠ []) :
    s.validated = .error (.invalid s.problems) := by
  unfold validated
  split
  · contradiction
  · rfl

/-- Settings are accepted just when every rule is followed. Otherwise there is one complaint for
each site at which a rule is broken, in the order of the sites, and no other; a name that occurs
several times is reported each time but the first. -/
theorem validated_exact (s : Settings) :
    (s.validated = .ok s ↔ s.Acceptable) ∧
    (¬ s.Acceptable → s.validated = .error (.invalid s.problems)) ∧
    (∃ found : List (Site × Problem), s.problems = found.map Prod.snd ∧
      (found.map Prod.fst).Sublist s.sites ∧ s.sites.Nodup ∧
      ∀ site p, (site, p) ∈ found ↔ s.Violates site p) ∧
    ∀ name, ¬ Text.IsBlank name →
      s.problems.countP (·.isDuplicateOf name) = s.breakerNames.count name - 1 := by
  refine ⟨(validated_eq_ok_iff s).trans problems_eq_nil_iff, ?_, ?_, ?_⟩
  · intro hBroken
    exact validated_of_problems (mt problems_eq_nil_iff.mp hBroken)
  · exact ⟨s.reports, (map_snd_reports s).symm, map_fst_reports s, nodup_sites s,
      mem_reports_iff s⟩
  · intro name hNamed
    exact s.countP_duplicates hNamed

def careless : Settings :=
  { Settings.standard with
    retry := { RetrySettings.standard with jitter := 2.0 }
    breakers := ["store", "store", " "].map fun name => { BreakerSettings.standard with name } }

theorem validated_exact_careless :
    ¬ careless.Acceptable ∧ ¬ Text.IsBlank "store" ∧
    careless.validated = .error (.invalid careless.problems) ∧
    careless.problems.countP (·.isDuplicateOf "store") = 1 := by
  have hBroken : ¬ careless.Acceptable := fun hAcceptable => absurd hAcceptable.distinct (by decide)
  have hNamed : ¬ Text.IsBlank "store" := Text.not_isBlank_of_mem (c := 's') (by simp) rfl
  obtain ⟨-, hRefused, -, hCount⟩ := validated_exact careless
  exact ⟨hBroken, hNamed, hRefused hBroken, hCount "store" hNamed⟩

end Settings

end CallGuard
