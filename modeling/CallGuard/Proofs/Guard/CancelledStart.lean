import CallGuard.Guard
import CallGuard.Proofs.Retry.Cancelling

/-!
# Cancelled before the start

A run that is cancelled before it begins leaves everything as it is, and a guard then does not
even ask its breaker. That holds of the policies that allow a second attempt, and of no others: a
policy for a single attempt makes it without a look at the cancellation.
-/

namespace CallGuard

namespace Retry

section Start

variable {σ ρ : Type} {r : Retrier} {draws : Nat → Nat} {c : Cancellation} {subject : Subject σ ρ}
variable {now : Instant} {state : σ}

theorem any_onStart (hCancelled : c.Precedes 0 now) : (c.onStart now).any (· ≤ now) = true := by
  cases c with
  | never => exact hCancelled.elim
  | beforehand => exact decide_eq_true (Int.le_refl now)
  | «at» t => exact decide_eq_true (p := t ≤ now) hCancelled
  | duringAttempt n => exact absurd hCancelled (Nat.not_lt_zero n)

/-- Nothing was attempted and nothing waited for: the run is over where it was to begin. -/
structure Ended.Untouched (e : Ended σ ρ) (now : Instant) (state : σ) : Prop where
  result : e.result = none
  calls : e.calls = []
  waits : e.waits = []
  finished : e.finished = now
  state : e.state = state

theorem untouched_run_iff (hCancelled : c.Precedes 0 now) :
    (run r draws c subject now state).Untouched now state ↔ r.policy.isEnabled = true := by
  constructor
  · intro hUntouched
    by_contra hDisabled
    have hResult := hUntouched.result
    rw [run_disabled (eq_false_of_ne_true hDisabled)] at hResult
    cases hResult
  · intro hEnabled
    rw [run_unbegun hEnabled (any_onStart hCancelled)]
    exact ⟨rfl, rfl, rfl, rfl, rfl⟩

end Start

end Retry

namespace Guard

section Start

variable {α : Type} {g : Guard} {others : Bystanders} {draws : Nat → Nat} {c : Cancellation}
variable {operation : Nat → Operation α} {now : Instant}

theorem resultOf_eq_cancelled {ended : Retry.Ended Progress (Except CallError α)}
    (hNone : ended.result = none) :
    resultOf ended = .error (.operation Fault.cancelled) := by
  rw [resultOf, hNone]
  rfl

theorem callAmong_of_single (hDisabled : g.retrier.policy.isEnabled = false) :
    let called := g.breaker.callAmong others now (operation 0)
    g.callAmong others draws c operation now =
      ⟨some called.result, [(0, now)], [], called.finished,
        ⟨called.breaker, called.notices, if called.invoked then [(0, now)] else []⟩⟩ :=
  Retry.run_disabled hDisabled

end Start

/-- A run and a guarded call that are cancelled before they begin do nothing and say that they
were cancelled, exactly if the policy allows a second attempt. If it does not, the guard makes its
one call through the breaker as if nobody had cancelled. -/
theorem cancelled_start_iff {σ ρ α : Type} (g : Guard) (draws : Nat → Nat) (c : Cancellation)
    (subject : Retry.Subject σ ρ) (state : σ) (others : Bystanders)
    (operation : Nat → Operation α) (now : Instant) (hCancelled : c.Precedes 0 now) :
    let called := g.breaker.callAmong others now (operation 0)
    let guarded := g.callAmong others draws c operation now
    ((Retry.run g.retrier draws c subject now state).Untouched now state ↔
        g.retrier.policy.isEnabled = true) ∧
      (guarded.Untouched now ⟨g.breaker, [], []⟩ ∧
          resultOf guarded = .error (.operation Fault.cancelled) ↔
        g.retrier.policy.isEnabled = true) ∧
      (g.retrier.policy.isEnabled = false →
        (Retry.run g.retrier draws c subject now state).calls = [(0, now)] ∧
          guarded.calls = [(0, now)] ∧ resultOf guarded = called.result ∧
          guarded.state.breaker = called.breaker ∧ guarded.state.notices = called.notices) := by
  intro called guarded
  refine ⟨Retry.untouched_run_iff hCancelled, ⟨?_, ?_⟩, ?_⟩
  · rintro ⟨hUntouched, _⟩
    exact (Retry.untouched_run_iff hCancelled).mp hUntouched
  · intro hEnabled
    have hUntouched : guarded.Untouched now ⟨g.breaker, [], []⟩ :=
      (Retry.untouched_run_iff hCancelled).mpr hEnabled
    exact ⟨hUntouched, resultOf_eq_cancelled hUntouched.result⟩
  · intro hDisabled
    have hGuarded : guarded = _ := callAmong_of_single hDisabled
    rw [Retry.run_disabled hDisabled, hGuarded]
    exact ⟨rfl, rfl, rfl, rfl, rfl⟩

def plain (policy : RetryPolicy) : Guard where
  breaker := (Breaker.create .standard (fun _ => .counted) 0).1
  retrier := ⟨"default", policy⟩
  classifier := fun _ => .counted

def seven (_ : Nat) : Operation Nat := fun now => (.ok 7, now + 5)

theorem cancelled_start_standard :
    Cancellation.beforehand.Precedes 0 3 ∧
      ((plain .standard).callAmong .none id .beforehand seven 3).Untouched 3
        ⟨(plain .standard).breaker, [], []⟩ ∧
      resultOf ((plain .standard).callAmong .none id .beforehand seven 3) =
        .error (.operation Fault.cancelled) := by
  obtain ⟨_, hGuarded, _⟩ := cancelled_start_iff (plain .standard) id .beforehand
    (subject (α := Nat) (fun _ => .counted) .none seven) ⟨(plain .standard).breaker, [], []⟩ .none
    seven 3 trivial
  have hEnabled : (plain .standard).retrier.policy.isEnabled = true := by decide
  exact ⟨trivial, hGuarded.mpr hEnabled⟩

def RunsDespite (c : Cancellation) (policy : RetryPolicy) : Prop :=
  ((plain policy).callAmong .none id c seven 3).calls = [(0, 3)] ∧
    ((plain policy).callAmong .none id c seven 3).state.notices = [.booked "default" .success] ∧
    resultOf ((plain policy).callAmong .none id c seven 3) = .ok 7

theorem runsDespite_of_single (c : Cancellation) {policy : RetryPolicy}
    (hDisabled : policy.isEnabled = false) : RunsDespite c policy := by
  have hDisabled : (plain policy).retrier.policy.isEnabled = false := hDisabled
  rw [RunsDespite, callAmong_of_single hDisabled]
  exact ⟨rfl, rfl, rfl⟩

/-- Without a second attempt, or with retrying switched off, the operation runs and its breaker
books it although the caller cancelled beforehand. -/
theorem seven_runs_cancelled :
    Cancellation.beforehand.Precedes 0 3 ∧ RunsDespite .beforehand .single ∧
      RunsDespite .beforehand (.ofSettings { RetrySettings.standard with enabled := false }) :=
  ⟨trivial, runsDespite_of_single .beforehand rfl, runsDespite_of_single .beforehand rfl⟩

end Guard

end CallGuard
