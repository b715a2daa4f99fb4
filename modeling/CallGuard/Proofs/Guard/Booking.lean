import CallGuard.Registry

/-!
# What a breaker makes of a call

A breaker refuses a call or runs its operation and books the result. The guard around it looks at
the same result, with a classifier of its own; as both come from one entry of a registry, the
guard wants another attempt exactly if a failure was booked.
-/

namespace CallGuard

inductive Fate where
  | refused (reason : Rejection)
  | booked (outcome : Outcome)
deriving DecidableEq

def Notice.fate? : Notice → Option Fate
  | rejected _ reason => some (.refused reason)
  | booked _ outcome => some (.booked outcome)
  | _ => none

def Bystanders.silent (others : Bystanders) : Bystanders := fun since ended b =>
  ((others since ended b).1, [])

namespace Breaker

/-- The same breaker at another time: nothing but its machine may differ. -/
inductive MayBecome : Breaker → Breaker → Prop where
  | disabled (name : String) : MayBecome (disabled name) (disabled name)
  | stateful (s : BreakerSettings) (classifier : Classifier) (m m' : Machine) :
      MayBecome (stateful s classifier m) (stateful s classifier m')

namespace MayBecome

theorem refl (b : Breaker) : MayBecome b b := by
  cases b <;> constructor

theorem trans {a b c : Breaker} (hFirst : MayBecome a b) (hThen : MayBecome b c) :
    MayBecome a c := by
  cases hFirst with
  | disabled => exact hThen
  | stateful => cases hThen; constructor

theorem exists_machine {s : BreakerSettings} {classifier : Classifier} {m : Machine} {b : Breaker}
    (h : MayBecome (.stateful s classifier m) b) : ∃ m', b = .stateful s classifier m' := by
  cases h
  exact ⟨_, rfl⟩

theorem start (now : Instant) (b : Breaker) : MayBecome b (b.start now).2.1 := by
  cases b with
  | disabled name => constructor
  | stateful s classifier m =>
    rcases hEnter : m.enter s now with ⟨_ | _, m', signals⟩ <;>
      simp only [Breaker.start, hEnter] <;> constructor

theorem finish {α : Type} (now : Instant) (ticket : Ticket) (result : Except Fault α)
    (b : Breaker) : MayBecome b (b.finish now ticket result).2.1 := by
  cases b with
  | disabled name => constructor
  | stateful s classifier m => cases ticket <;> constructor

theorem callAmong {α : Type} {others : Bystanders}
    (hOthers : ∀ since ended b, MayBecome b (others since ended b).1) (now : Instant)
    (operation : Operation α) (b : Breaker) :
    MayBecome b (b.callAmong others now operation).breaker := by
  have hStart := start now b
  rcases hStarted : b.start now with ⟨_ | ticket, started, notices⟩ <;>
    rw [hStarted] at hStart <;> simp only [Breaker.callAmong, hStarted]
  · exact hStart
  · exact (hStart.trans (hOthers _ _ _)).trans (finish _ _ _ _)

end MayBecome

def fates {α : Type} (others : Bystanders) (b : Breaker) (now : Instant)
    (operation : Operation α) : List Fate :=
  (b.callAmong others.silent now operation).notices.filterMap Notice.fate?

inductive Answers {α : Type} (name : String) (classifier : Classifier) (operation : Operation α)
    (now : Instant) (called : Called CallError α) : List Fate → Prop where
  | refused (reason : Rejection) : called.result = .error (.ofRejection name reason) →
      called.invoked = false → called.finished = now →
      Answers name classifier operation now called [.refused reason]
  | booked : called.result = (operation now).1.mapError .operation → called.invoked = true →
      called.finished = (operation now).2 →
      Answers name classifier operation now called
        [.booked (outcomeOf classifier (operation now).1)]

theorem filterMap_fate_notices (s : BreakerSettings) (signals : List Signal) :
    (notices s signals).filterMap Notice.fate? = [] := by
  rw [notices, List.filterMap_map, List.filterMap_eq_nil_iff]
  rintro signal -
  cases signal <;> rfl

section Answering

variable {α : Type} {s : BreakerSettings} {classifier : Classifier} {m : Machine}
variable {others : Bystanders} {operation : Operation α} {now : Instant}

theorem answers_callAmong (hOthers : ∀ since ended b, MayBecome b (others since ended b).1) :
    Answers s.name classifier operation now
      ((stateful s classifier m).callAmong others now operation)
      ((stateful s classifier m).fates others now operation) := by
  rcases hEnter : m.enter s now with ⟨reason | permit, entered, signals⟩
  · have hFates : (stateful s classifier m).fates others now operation = [.refused reason] := by
      simp [fates, callAmong, start, hEnter, filterMap_fate_notices, Notice.fate?]
    rw [hFates]
    constructor <;> simp [callAmong, start, hEnter]
  · -- Whatever the others do meanwhile, the classifier that books is still the same.
    obtain ⟨later, hLater⟩ :=
      (hOthers now (operation now).2 (stateful s classifier entered)).exists_machine
    have hFates : (stateful s classifier m).fates others now operation =
        [.booked (outcomeOf classifier (operation now).1)] := by
      simp [fates, callAmong, start, hEnter, finish, Bystanders.silent, hLater,
        filterMap_fate_notices, Notice.fate?]
    rw [hFates]
    constructor <;> simp [callAmong, start, hEnter, finish, hLater]

variable {name : String} {called : Called CallError α} {fates : List Fate}

theorem Answers.wantsRetry_iff (h : Answers name classifier operation now called fates) :
    Guard.wantsRetry classifier called.result = true ↔ fates = [.booked .failure] := by
  cases h with
  | refused reason hResult =>
    rw [hResult]
    cases reason <;> simp [Guard.wantsRetry, CallError.ofRejection]
  | booked hResult =>
    rw [hResult]
    cases (operation now).1 with
    | ok value =>
      change Guard.wantsRetry classifier (Except.ok value) = true ↔ _
      simp [Guard.wantsRetry, outcomeOf]
    | error fault =>
      change Guard.wantsRetry (α := α) classifier (.error (.operation fault)) = true ↔ _
      cases hVerdict : classifier fault <;> simp [Guard.wantsRetry, outcomeOf, hVerdict]

end Answering

end Breaker

namespace Registry

structure Original (created : Instant) (name : String) (e : Registered) : Prop where
  name : e.settings.name = name
  breaker : e.breaker = (Breaker.create e.settings e.classifier created).1

theorem original_build {created : Instant} {name : String} {e : Registered}
    (settings : List BreakerSettings) (entries : List (String × Registered))
    (hEntries : entries.lookup name = some e → Original created name e)
    (hFound : (build created settings entries).1.lookup name = some e) :
    Original created name e := by
  induction settings generalizing entries with
  | nil => exact hEntries hFound
  | cons s rest ih =>
    refine ih _ ?_ hFound
    intro hPut
    -- An entry that is put replaces an earlier one of its name and leaves the others.
    rw [Keyed.lookup_put] at hPut
    split at hPut
    · next hName =>
      obtain rfl := Option.some.inj hPut
      exact ⟨hName.symm, rfl⟩
    · exact hEntries hPut

/-- A guard and its breaker have one name and go by the same classifier. -/
theorem guard?_create {settings : Settings} {created : Instant} {name : String} {g : Guard}
    (hGuard : (create settings created).1.guard? name = some g)
    (hEnabled : g.breaker.isEnabled = true) :
    ∃ s m, g.breaker = .stateful s g.classifier m ∧ s.name = name := by
  obtain ⟨e, hFound, rfl⟩ := Option.map_eq_some_iff.mp hGuard
  have hOriginal := original_build settings.breakers [] (fun hNone => by cases hNone) hFound
  dsimp only at hEnabled ⊢
  rw [hOriginal.breaker, Breaker.create] at hEnabled ⊢
  split
  · exact ⟨_, _, rfl, hOriginal.name⟩
  · next hDisabled =>
    rw [if_neg hDisabled] at hEnabled
    cases hEnabled

end Registry

end CallGuard
