import CallGuard.Journal.Notice
import CallGuard.Retry.Policy
import CallGuard.Text.Quoted
import CallGuard.Time.Instant

/-!
# Retrying

A run attempts an operation, asks after each result whether another attempt is wanted, and
sleeps before it. A caller can cancel the run: then no further attempt begins, and the result
of the last one stands. A policy without a second attempt runs the operation once and never
looks at the cancellation.
-/

namespace CallGuard

structure Retrier where
  name : String
  policy : RetryPolicy

namespace Retrier

def describe (r : Retrier) : String :=
  "Retrier \x7b name: " ++ Text.quoted r.name ++ ", policy: " ++ r.policy.describe ++ " \x7d"

end Retrier

inductive Cancellation where
  | never
  | beforehand
  | at (instant : Instant)
  /-- As the attempt with this number begins. -/
  | duringAttempt (attempt : Nat)
deriving DecidableEq

namespace Cancellation

/-- From when on the run is cancelled, as far as that is settled before the first attempt. -/
def onStart (c : Cancellation) (now : Instant) : Option Instant :=
  match c with
  | never | duringAttempt _ => none
  | beforehand => some now
  | «at» t => some t

/-- The same once an attempt begins. -/
def onAttempt (c : Cancellation) (attempt : Nat) (began : Instant) (known : Option Instant) :
    Option Instant :=
  match c with
  | duringAttempt n => if attempt = n then some began else known
  | _ => known

end Cancellation

namespace Retry

/-- What a run works on: the attempts, the question whether another one is wanted, what happens
elsewhere while the run sleeps, and where it reports to. All of them may change `σ`. -/
structure Subject (σ ρ : Type) where
  attempt : Nat → Instant → σ → ρ × Instant × σ
  wantsRetry : ρ → σ → Bool × σ
  asleep : Instant → Instant → σ → σ
  report : List Notice → σ → σ

/-- What a run comes to. The result is missing if it was cancelled before it began. -/
structure Ended (σ ρ : Type) where
  result : Option ρ
  /-- The number and the beginning of each attempt. -/
  calls : List (Nat × Instant)
  /-- The waits that were slept through or begun, in order. -/
  waits : List Span
  finished : Instant
  state : σ

variable {σ ρ : Type}

/-- How sleeping from `now` until `wake` ends when the run is cancelled from `cancelled` on. -/
inductive Sleep where
  | done
  /-- The cancellation came first; the sleeper wakes at this instant and says so. -/
  | interrupted (instant : Instant)
  /-- The cancellation came at the instant of waking. -/
  | late
deriving DecidableEq

def sleep (now wake : Instant) : Option Instant → Sleep
  | none => .done
  | some c =>
    if c ≤ now then .interrupted now
    else if c < wake then .interrupted c
    else if c = wake then .late
    else .done

/-- Attempts from number `attempt` on, `left` of them after the first. The draw for the wait
after an attempt is that of its number. -/
def attempts (r : Retrier) (draws : Nat → Nat) (c : Cancellation) (subject : Subject σ ρ) :
    (left attempt : Nat) → (now : Instant) → Option Instant → σ → Ended σ ρ
  | left, attempt, now, known, state =>
    let known := c.onAttempt attempt now known
    let (result, finished, state) := subject.attempt attempt now state
    let (wanted, state) := subject.wantsRetry result state
    let ended (waits : List Span) (instant : Instant) (state : σ) : Ended σ ρ :=
      ⟨some result, [(attempt, now)], waits, instant, state⟩
    if !wanted then ended [] finished state
    else
      match left with
      | 0 => ended [] finished (subject.report [.exhausted r.name (attempt + 1)] state)
      | left + 1 =>
        let delay := withJitter (r.policy.backoff attempt) r.policy.jitter (draws attempt)
        let wake := Instant.wake finished delay
        let state := subject.report [.retrying r.name (attempt + 1) delay] state
        match sleep finished wake known with
        | .interrupted instant =>
          let state := subject.asleep finished instant state
          ended [delay] instant (subject.report [.cancelled r.name (attempt + 1)] state)
        | .late => ended [delay] wake (subject.asleep finished wake state)
        | .done =>
          let rest := attempts r draws c subject left (attempt + 1) wake known
            (subject.asleep finished wake state)
          { rest with
            calls := (attempt, now) :: rest.calls
            waits := delay :: rest.waits }

def run (r : Retrier) (draws : Nat → Nat) (c : Cancellation) (subject : Subject σ ρ)
    (now : Instant) (state : σ) : Ended σ ρ :=
  if r.policy.isEnabled then
    let known := c.onStart now
    if known.any (· ≤ now) then ⟨none, [], [], now, state⟩
    else attempts r draws c subject r.policy.waitCount 0 now known state
  else
    let (result, finished, state) := subject.attempt 0 now state
    ⟨some result, [(0, now)], [], finished, state⟩

end Retry

end CallGuard
