import CallGuard.Retry.Run
import Mathlib.Algebra.Group.Nat.Defs
import Mathlib.Data.List.Chain
import Mathlib.Data.List.Intervals
import Mathlib.Order.Bounds.Basic

/-!
# The attempts of a run

What a run that nobody cancels comes to when the results of the attempts are laid down in a script
by their numbers. The question whether another attempt is wanted may have a memory of its own; it
is asked once after each attempt, in order, and the first result it declines is the last one.
-/

namespace CallGuard

namespace RetryPolicy

variable {p : RetryPolicy}

theorem waitCount_eq_zero (hDisabled : p.isEnabled = false) : p.waitCount = 0 := by
  have hFew : ¬ 1 < p.maxAttempts := of_decide_eq_false hDisabled
  rw [UInt32.lt_iff_toNat_lt] at hFew
  exact Nat.sub_eq_zero_of_le (Nat.not_lt.mp hFew)

theorem schedule_take {k : Nat} (hWithin : k ≤ p.waitCount) :
    p.schedule.take k = (List.range k).map p.backoff := by
  rw [schedule, firstWaits, Nat.min_self, ← List.map_take, List.take_range,
    Nat.min_eq_left hWithin]

end RetryPolicy

namespace Retry

variable {σ ρ π : Type}

namespace Subject

/-- Whether another attempt is wanted after the one with this number, and the state after the
question. -/
def asked (subject : Subject σ ρ) (attempt : Nat) (now : Instant) (state : σ) : Bool × σ :=
  subject.wantsRetry (subject.attempt attempt now state).1 (subject.attempt attempt now state).2.2

def finished (subject : Subject σ ρ) (attempt : Nat) (now : Instant) (state : σ) : Instant :=
  (subject.attempt attempt now state).2.1

def resumed (subject : Subject σ ρ) (name : String) (attempt : Nat) (delay : Span) (now : Instant)
    (state : σ) : Instant × σ :=
  let finished := subject.finished attempt now state
  let wake := Instant.wake finished delay
  (wake, subject.asleep finished wake
    (subject.report [.retrying name (attempt + 1) delay] (subject.asked attempt now state).2))

end Subject

def Ended.preceded (e : Ended σ ρ) (call : Nat × Instant) (delay : Span) : Ended σ ρ :=
  { e with
    calls := call :: e.calls
    waits := delay :: e.waits }

section Loop

variable {r : Retrier} {draws : Nat → Nat} {c : Cancellation} {subject : Subject σ ρ}
variable {left attempt : Nat} {now : Instant} {known : Option Instant} {state : σ}

theorem attempts_declined (hDeclined : (subject.asked attempt now state).1 = false) :
    attempts r draws c subject left attempt now known state =
      ⟨some (subject.attempt attempt now state).1, [(attempt, now)], [],
        subject.finished attempt now state, (subject.asked attempt now state).2⟩ := by
  unfold Subject.asked at hDeclined
  rw [attempts]
  simp only [hDeclined, Bool.not_false, if_true]
  rfl

theorem attempts_exhausted (hWanted : (subject.asked attempt now state).1 = true) :
    attempts r draws c subject 0 attempt now known state =
      ⟨some (subject.attempt attempt now state).1, [(attempt, now)], [],
        subject.finished attempt now state,
        subject.report [.exhausted r.name (attempt + 1)] (subject.asked attempt now state).2⟩ := by
  unfold Subject.asked at hWanted
  rw [attempts]
  simp only [hWanted, Bool.not_true, Bool.false_eq_true, if_false]
  rfl

theorem attempts_slept {delay : Span} (hWanted : (subject.asked attempt now state).1 = true)
    (hDelay : withJitter (r.policy.backoff attempt) r.policy.jitter (draws attempt) = delay)
    (hSlept : sleep (subject.finished attempt now state)
      (subject.resumed r.name attempt delay now state).1 (c.onAttempt attempt now known) = .done) :
    attempts r draws c subject (left + 1) attempt now known state =
      (attempts r draws c subject left (attempt + 1)
        (subject.resumed r.name attempt delay now state).1 (c.onAttempt attempt now known)
        (subject.resumed r.name attempt delay now state).2).preceded (attempt, now) delay := by
  subst hDelay
  unfold Subject.asked at hWanted
  unfold Subject.resumed Subject.finished at hSlept
  rw [attempts]
  simp only [hWanted, Bool.not_true, Bool.false_eq_true, if_false, hSlept]
  rfl

theorem run_uncancelled (hEnabled : r.policy.isEnabled = true) :
    run r draws .never subject now state =
      attempts r draws .never subject r.policy.waitCount 0 now none state := by
  rw [run, if_pos hEnabled]
  rfl

theorem run_disabled (hDisabled : r.policy.isEnabled = false) :
    run r draws c subject now state =
      ⟨some (subject.attempt 0 now state).1, [(0, now)], [], subject.finished 0 now state,
        (subject.attempt 0 now state).2.2⟩ := by
  rw [run, hDisabled]
  rfl

end Loop

theorem withJitter_of_nonpos {jitter : Float} (hJitter : jitter ≤ 0.0) (delay : Span)
    (draw : Nat) : withJitter delay jitter draw = delay := by
  have hRange : jitterRange delay jitter = 0 := by
    unfold jitterRange
    simp [hJitter]
  simp [withJitter, hRange]

/-- The results follow a script whatever the time and the state. What the question remembers of
the state is changed by nothing but the question. -/
structure Scripted (subject : Subject σ ρ) (script : Nat → ρ) (asks : ρ → π → Bool × π)
    (memory : σ → π) : Prop where
  result : ∀ n now state, (subject.attempt n now state).1 = script n
  attempt : ∀ n now state, memory (subject.attempt n now state).2.2 = memory state
  answer : ∀ result state, (subject.wantsRetry result state).1 = (asks result (memory state)).1
  asked : ∀ result state,
    memory (subject.wantsRetry result state).2 = (asks result (memory state)).2
  asleep : ∀ began ended state, memory (subject.asleep began ended state) = memory state
  report : ∀ notices state, memory (subject.report notices state) = memory state

section Script

variable (script : Nat → ρ) (asks : ρ → π → Bool × π) (start : π)

def remembered : Nat → π
  | 0 => start
  | n + 1 => (asks (script n) (remembered n)).2

def Declines (n : Nat) : Prop := (asks (script n) (remembered script asks start n)).1 = false

end Script

/-- A run makes the attempts from `first` to `last`, waits after each but the last one for the
backoff of its number, and keeps the last result. -/
structure Ended.Spans (r : Retrier) (subject : Subject σ ρ) (script : Nat → ρ) (first last : Nat)
    (began : Instant) (e : Ended σ ρ) : Prop where
  result : e.result = some (script last)
  numbers : e.calls.map Prod.fst = List.Ico first (last + 1)
  begins : e.calls.head? = some (first, began)
  waits : e.waits = (List.Ico first last).map r.policy.backoff
  spaced : e.calls.IsChain fun a b =>
    ∃ state, b.2 = Instant.wake (subject.finished a.1 a.2 state) (r.policy.backoff a.1)

namespace Ended.Spans

variable {r : Retrier} {subject : Subject σ ρ} {script : Nat → ρ} {n last : Nat} {now : Instant}

theorem once {finished : Instant} {state : σ} :
    Spans r subject script n n now ⟨some (script n), [(n, now)], [], finished, state⟩ where
  result := rfl
  numbers := by simp
  begins := rfl
  waits := by simp
  spaced := .singleton _

theorem preceded {e : Ended σ ρ} {state : σ} (hLess : n < last)
    (h : Spans r subject script (n + 1) last
      (subject.resumed r.name n (r.policy.backoff n) now state).1 e) :
    Spans r subject script n last now (e.preceded (n, now) (r.policy.backoff n)) where
  result := h.result
  numbers := by
    rw [Ended.preceded, List.map_cons, h.numbers, List.Ico.eq_cons (Nat.lt_succ_of_lt hLess)]
  begins := rfl
  waits := by
    rw [Ended.preceded, h.waits, List.Ico.eq_cons hLess, List.map_cons]
  spaced := by
    refine List.isChain_cons.mpr ⟨fun call hMem => ?_, h.spaced⟩
    rw [h.begins] at hMem
    obtain rfl := Option.mem_some.mp hMem
    exact ⟨state, rfl⟩

end Ended.Spans

section Runs

variable {r : Retrier} {subject : Subject σ ρ} {script : Nat → ρ} {asks : ρ → π → Bool × π}
variable {memory : σ → π} {start : π} {left n : Nat} {now : Instant} {state : σ}

namespace Scripted

theorem declines_iff (h : Scripted subject script asks memory)
    (hMemory : memory state = remembered script asks start n) :
    Declines script asks start n ↔ (subject.asked n now state).1 = false := by
  rw [Subject.asked, h.answer, h.result, h.attempt, hMemory, Declines]

theorem memory_asked (h : Scripted subject script asks memory)
    (hMemory : memory state = remembered script asks start n) :
    memory (subject.asked n now state).2 = remembered script asks start (n + 1) := by
  rw [Subject.asked, h.asked, h.result, h.attempt, hMemory, remembered]

theorem memory_resumed (h : Scripted subject script asks memory) (name : String) (delay : Span)
    (hMemory : memory state = remembered script asks start n) :
    memory (subject.resumed name n delay now state).2 = remembered script asks start (n + 1) := by
  rw [Subject.resumed, h.asleep, h.report, h.memory_asked hMemory]

end Scripted

theorem attempts_spans (hScripted : Scripted subject script asks memory)
    (hJitter : r.policy.jitter ≤ 0.0) (draws : Nat → Nat) (hLeft : n + left = r.policy.waitCount)
    (hMemory : memory state = remembered script asks start n) :
    ∃ last, IsLeast {m | n ≤ m ∧ (m = r.policy.waitCount ∨ Declines script asks start m)} last ∧
      (attempts r draws .never subject left n now none state).Spans r subject script n last
        now := by
  -- On what is left after this attempt, the first that can be the last one.
  induction left generalizing n now state with
  | zero =>
    refine ⟨n, ⟨⟨Nat.le_refl n, .inl hLeft⟩, fun m hMem => hMem.1⟩, ?_⟩
    cases hWanted : (subject.asked n now state).1 with
    | false =>
      rw [attempts_declined hWanted, hScripted.result]
      exact .once
    | true =>
      rw [attempts_exhausted hWanted, hScripted.result]
      exact .once
  | succ left ih =>
    cases hWanted : (subject.asked n now state).1 with
    | false =>
      have hDeclines : Declines script asks start n := (hScripted.declines_iff hMemory).mpr hWanted
      refine ⟨n, ⟨⟨Nat.le_refl n, .inr hDeclines⟩, fun m hMem => hMem.1⟩, ?_⟩
      rw [attempts_declined hWanted, hScripted.result]
      exact .once
    | true =>
      rw [attempts_slept hWanted (withJitter_of_nonpos hJitter _ _) rfl]
      obtain ⟨last, ⟨⟨hLater, hEnds⟩, hLeast⟩, hSpans⟩ :=
        ih (n := n + 1) (by omega) (hScripted.memory_resumed r.name (r.policy.backoff n) hMemory)
      refine ⟨last, ⟨⟨Nat.le_of_succ_le hLater, hEnds⟩, fun m ⟨hFrom, hStops⟩ => ?_⟩,
        hSpans.preceded hLater⟩
      -- The run has gone on after attempt `n`, so nothing has stopped it there.
      have hPassed : m ≠ n := by
        rintro rfl
        rcases hStops with hLast | hDeclines
        · omega
        · rw [(hScripted.declines_iff hMemory).mp hDeclines] at hWanted
          cases hWanted
      exact hLeast ⟨by omega, hStops⟩

/-- A run that is not cancelled attempts the numbers from zero to the first that is the last one
allowed or whose result the question declines. It waits in between as the schedule of the policy
says, and the result of the last attempt is its own. -/
theorem run_scripted (r : Retrier) (draws : Nat → Nat) (subject : Subject σ ρ) (script : Nat → ρ)
    (asks : ρ → π → Bool × π) (memory : σ → π) (now : Instant) (state : σ)
    (hScripted : Scripted subject script asks memory) (hJitter : r.policy.jitter ≤ 0.0) :
    ∃ k, IsLeast {n | n = r.policy.maxAttempts.toNat - 1 ∨
        Declines script asks (memory state) n} k ∧
      (run r draws .never subject now state).result = some (script k) ∧
      (run r draws .never subject now state).calls.map Prod.fst = List.range (k + 1) ∧
      (run r draws .never subject now state).waits = r.policy.schedule.take k ∧
      (run r draws .never subject now state).waits.length = k ∧
      (run r draws .never subject now state).calls.IsChain (fun a b => ∃ state,
        b.2 = Instant.wake (subject.finished a.1 a.2 state) (r.policy.backoff a.1)) ∧
      ∀ call ∈ (run r draws .never subject now state).calls, call.1 + 1 < 2 ^ 32 := by
  have hRun : ∃ k, IsLeast {n | n = r.policy.waitCount ∨ Declines script asks (memory state) n} k ∧
      (run r draws .never subject now state).Spans r subject script 0 k now := by
    cases hEnabled : r.policy.isEnabled with
    | true =>
      rw [run_uncancelled hEnabled]
      simpa using attempts_spans hScripted hJitter draws (Nat.zero_add _) rfl
    | false =>
      refine ⟨0, ⟨.inl (RetryPolicy.waitCount_eq_zero hEnabled).symm, fun n _ => Nat.zero_le n⟩, ?_⟩
      rw [run_disabled hEnabled, hScripted.result]
      exact .once
  obtain ⟨k, hLeast, hSpans⟩ := hRun
  have hWithin : k ≤ r.policy.waitCount := hLeast.2 (.inl rfl)
  refine ⟨k, hLeast, hSpans.result, ?_, ?_, ?_, hSpans.spaced, fun call hMem => ?_⟩
  · rw [hSpans.numbers, List.Ico.zero_bot]
  · rw [hSpans.waits, List.Ico.zero_bot, RetryPolicy.schedule_take hWithin]
  · rw [hSpans.waits, List.length_map, List.Ico.length, Nat.sub_zero]
  · have hNumber : call.1 ∈ List.Ico 0 (k + 1) := hSpans.numbers ▸ List.mem_map_of_mem hMem
    have hLast := (List.Ico.mem.mp hNumber).2
    have hWord := r.policy.maxAttempts.toNat_lt
    unfold RetryPolicy.waitCount at hWithin
    omega

end Runs

/-- Attempts that always fail, and a question that grants a number of retries. The state is the
number of attempts made and of retries left. -/
def grudging : Subject (Nat × Nat) (Except Nat Nat) where
  attempt n now state := (.error n, now + 5, (state.1 + 1, state.2))
  wantsRetry _ state := (decide (0 < state.2), (state.1, state.2 - 1))
  asleep _ _ state := state
  report _ state := state

def grants (_ : Except Nat Nat) (left : Nat) : Bool × Nat := (decide (0 < left), left - 1)

def fiveAttempts : Retrier := ⟨"default", { RetryPolicy.standard with maxAttempts := 5 }⟩

theorem run_scripted_grudging :
    (Scripted grudging Except.error grants Prod.snd ∧ fiveAttempts.policy.jitter ≤ 0.0) ∧
      (run fiveAttempts id .never grudging 0 (0, 2)).result = some (.error 2) ∧
      (run fiveAttempts id .never grudging 0 (0, 2)).calls.map Prod.fst = [0, 1, 2] ∧
      (run fiveAttempts id .never grudging 0 (0, 2)).waits =
        fiveAttempts.policy.schedule.take 2 := by
  have hScripted : Scripted grudging Except.error grants Prod.snd :=
    ⟨fun _ _ _ => rfl, fun _ _ _ => rfl, fun _ _ => rfl, fun _ _ => rfl, fun _ _ _ => rfl,
      fun _ _ => rfl⟩
  have hJitter : fiveAttempts.policy.jitter ≤ 0.0 := by decide
  obtain ⟨k, ⟨hEnds, hLeast⟩, hResult, hNumbers, hWaits, -⟩ :=
    run_scripted fiveAttempts id grudging .error grants Prod.snd 0 (0, 2) hScripted hJitter
  have hTwo : k = 2 := by
    have hAtMost : k ≤ 2 := hLeast (.inr rfl)
    match k, hEnds with
    | 0, .inr hDeclines => cases hDeclines
    | 1, .inr hDeclines => cases hDeclines
    | 2, _ => rfl
  subst hTwo
  exact ⟨⟨hScripted, hJitter⟩, hResult, hNumbers, hWaits⟩

end Retry

end CallGuard
