import CallGuard.Proofs.Retry.Attempts

/-!
# The course of a run

What a run does is told by five rules for an attempt, and three for the way in which it begins.
They speak of visits: a visit is an attempt together with the state that it found. The visits of
a run are read off a run of the same kind whose subject keeps a list of them; that it does so
changes nothing else.
-/

namespace CallGuard.Retry

variable {σ ρ : Type}

structure Visit (σ : Type) where
  number : Nat
  began : Instant
  found : σ

def delayAfter (r : Retrier) (draws : Nat → Nat) (number : Nat) : Span :=
  withJitter (r.policy.backoff number) r.policy.jitter (draws number)

namespace Visit

variable (subject : Subject σ ρ) (v : Visit σ)

def call (v : Visit σ) : Nat × Instant := (v.number, v.began)

def result : ρ := (subject.attempt v.number v.began v.found).1

def finished : Instant := subject.finished v.number v.began v.found

def asked : Bool × σ := subject.asked v.number v.began v.found

def next (name : String) (delay : Span) : Visit σ where
  number := v.number + 1
  began := (subject.resumed name v.number delay v.began v.found).1
  found := (subject.resumed name v.number delay v.began v.found).2

end Visit

def Subject.recorded (subject : Subject σ ρ) : Subject (σ × List (Visit σ)) ρ where
  attempt n now x :=
    let (result, finished, state) := subject.attempt n now x.1
    (result, finished, state, x.2 ++ [⟨n, now, x.1⟩])
  wantsRetry result x :=
    let (wanted, state) := subject.wantsRetry result x.1
    (wanted, state, x.2)
  asleep began ended x := (subject.asleep began ended x.1, x.2)
  report notices x := (subject.report notices x.1, x.2)

def visits (r : Retrier) (draws : Nat → Nat) (c : Cancellation) (subject : Subject σ ρ)
    (now : Instant) (state : σ) : List (Visit σ) :=
  (run r draws c subject.recorded now (state, [])).state.2

section Rules

variable {r : Retrier} {draws : Nat → Nat} {c : Cancellation} {subject : Subject σ ρ}
variable {left attempt : Nat} {now : Instant} {known : Option Instant} {state : σ}

theorem attempts_interrupted {delay : Span} {instant : Instant}
    (hWanted : (subject.asked attempt now state).1 = true)
    (hDelay : withJitter (r.policy.backoff attempt) r.policy.jitter (draws attempt) = delay)
    (hSleep : sleep (subject.finished attempt now state)
      (subject.resumed r.name attempt delay now state).1 (c.onAttempt attempt now known) =
        .interrupted instant) :
    attempts r draws c subject (left + 1) attempt now known state =
      ⟨some (subject.attempt attempt now state).1, [(attempt, now)], [delay], instant,
        subject.report [.cancelled r.name (attempt + 1)]
          (subject.asleep (subject.finished attempt now state) instant
            (subject.report [.retrying r.name (attempt + 1) delay]
              (subject.asked attempt now state).2))⟩ := by
  subst hDelay
  unfold Subject.asked at hWanted
  unfold Subject.resumed Subject.finished at hSleep
  rw [attempts]
  simp only [hWanted, Bool.not_true, Bool.false_eq_true, if_false, hSleep]
  rfl

theorem attempts_late {delay : Span} (hWanted : (subject.asked attempt now state).1 = true)
    (hDelay : withJitter (r.policy.backoff attempt) r.policy.jitter (draws attempt) = delay)
    (hSleep : sleep (subject.finished attempt now state)
      (subject.resumed r.name attempt delay now state).1 (c.onAttempt attempt now known) = .late) :
    attempts r draws c subject (left + 1) attempt now known state =
      ⟨some (subject.attempt attempt now state).1, [(attempt, now)], [delay],
        (subject.resumed r.name attempt delay now state).1,
        (subject.resumed r.name attempt delay now state).2⟩ := by
  subst hDelay
  unfold Subject.asked at hWanted
  unfold Subject.resumed Subject.finished at hSleep
  rw [attempts]
  simp only [hWanted, Bool.not_true, Bool.false_eq_true, if_false, hSleep]
  rfl

def sleepAfter (r : Retrier) (draws : Nat → Nat) (c : Cancellation) (subject : Subject σ ρ)
    (known : Option Instant) (v : Visit σ) : Sleep :=
  sleep (v.finished subject) (v.next subject r.name (delayAfter r draws v.number)).began
    (c.onAttempt v.number v.began known)

/-- How a run goes on from a visit with some attempts left after it: which visits it makes and
what it comes to. -/
inductive Proceeds (r : Retrier) (draws : Nat → Nat) (c : Cancellation) (subject : Subject σ ρ) :
    Nat → Option Instant → Visit σ → List (Visit σ) → Ended σ ρ → Prop where
  | declined {left : Nat} {known : Option Instant} {v : Visit σ} :
      (v.asked subject).1 = false →
      Proceeds r draws c subject left known v [v]
        ⟨some (v.result subject), [v.call], [], v.finished subject, (v.asked subject).2⟩
  | exhausted {known : Option Instant} {v : Visit σ} :
      (v.asked subject).1 = true →
      Proceeds r draws c subject 0 known v [v]
        ⟨some (v.result subject), [v.call], [], v.finished subject,
          subject.report [.exhausted r.name (v.number + 1)] (v.asked subject).2⟩
  | interrupted {left : Nat} {known : Option Instant} {v : Visit σ} {instant : Instant} :
      (v.asked subject).1 = true →
      sleepAfter r draws c subject known v = .interrupted instant →
      Proceeds r draws c subject (left + 1) known v [v]
        ⟨some (v.result subject), [v.call], [delayAfter r draws v.number], instant,
          subject.report [.cancelled r.name (v.number + 1)]
            (subject.asleep (v.finished subject) instant
              (subject.report [.retrying r.name (v.number + 1) (delayAfter r draws v.number)]
                (v.asked subject).2))⟩
  | late {left : Nat} {known : Option Instant} {v : Visit σ} :
      (v.asked subject).1 = true → sleepAfter r draws c subject known v = .late →
      Proceeds r draws c subject (left + 1) known v [v]
        ⟨some (v.result subject), [v.call], [delayAfter r draws v.number],
          (v.next subject r.name (delayAfter r draws v.number)).began,
          (v.next subject r.name (delayAfter r draws v.number)).found⟩
  | again {left : Nat} {known : Option Instant} {v : Visit σ} {vs : List (Visit σ)}
      {e : Ended σ ρ} :
      (v.asked subject).1 = true → sleepAfter r draws c subject known v = .done →
      Proceeds r draws c subject left (c.onAttempt v.number v.began known)
        (v.next subject r.name (delayAfter r draws v.number)) vs e →
      Proceeds r draws c subject (left + 1) known v (v :: vs)
        (e.preceded v.call (delayAfter r draws v.number))

theorem proceeds_attempts (left : Nat) (known : Option Instant) (v : Visit σ) :
    ∃ vs, Proceeds r draws c subject left known v vs
      (attempts r draws c subject left v.number v.began known v.found) := by
  induction left generalizing known v with
  | zero =>
    cases hAsked : (v.asked subject).1 with
    | false =>
      rw [attempts_declined hAsked]
      exact ⟨[v], .declined hAsked⟩
    | true =>
      rw [attempts_exhausted hAsked]
      exact ⟨[v], .exhausted hAsked⟩
  | succ left ih =>
    cases hAsked : (v.asked subject).1 with
    | false =>
      rw [attempts_declined hAsked]
      exact ⟨[v], .declined hAsked⟩
    | true =>
      cases hSleep : sleepAfter r draws c subject known v with
      | done =>
        obtain ⟨vs, hRest⟩ := ih (c.onAttempt v.number v.began known)
          (v.next subject r.name (delayAfter r draws v.number))
        rw [attempts_slept hAsked rfl hSleep]
        exact ⟨v :: vs, .again hAsked hSleep hRest⟩
      | interrupted instant =>
        rw [attempts_interrupted hAsked rfl hSleep]
        exact ⟨[v], .interrupted hAsked hSleep⟩
      | late =>
        rw [attempts_late hAsked rfl hSleep]
        exact ⟨[v], .late hAsked hSleep⟩

/-- Keeping a list of the visits changes nothing else. -/
theorem Proceeds.recorded {v : Visit σ} {vs : List (Visit σ)} {e : Ended σ ρ}
    (h : Proceeds r draws c subject left known v vs e) (earlier : List (Visit σ)) :
    attempts r draws c subject.recorded left v.number v.began known (v.found, earlier) =
      ⟨e.result, e.calls, e.waits, e.finished, e.state, earlier ++ vs⟩ := by
  induction h generalizing earlier with
  | declined hAsked => exact attempts_declined hAsked
  | exhausted hAsked => exact attempts_exhausted hAsked
  | interrupted hAsked hSleep => exact attempts_interrupted hAsked rfl hSleep
  | late hAsked hSleep => exact attempts_late hAsked rfl hSleep
  | @again left known v vs e hAsked hSleep _ ih =>
    have hRest := ih (earlier ++ [v])
    rw [List.append_assoc, List.singleton_append] at hRest
    refine Eq.trans ?_ (congrArg (Ended.preceded · v.call (delayAfter r draws v.number)) hRest)
    exact attempts_slept hAsked rfl hSleep

/-- How a run begins, and with that all that it does. -/
inductive Course (r : Retrier) (draws : Nat → Nat) (c : Cancellation) (subject : Subject σ ρ)
    (now : Instant) (state : σ) : List (Visit σ) → Ended σ ρ → Prop where
  | unbegun : r.policy.isEnabled = true → (c.onStart now).any (· ≤ now) = true →
      Course r draws c subject now state [] ⟨none, [], [], now, state⟩
  | begun {vs : List (Visit σ)} {e : Ended σ ρ} : r.policy.isEnabled = true →
      (c.onStart now).any (· ≤ now) = false →
      Proceeds r draws c subject r.policy.waitCount (c.onStart now) ⟨0, now, state⟩ vs e →
      Course r draws c subject now state vs e
  | once : r.policy.isEnabled = false →
      Course r draws c subject now state [⟨0, now, state⟩]
        ⟨some (subject.attempt 0 now state).1, [(0, now)], [], subject.finished 0 now state,
          (subject.attempt 0 now state).2.2⟩

theorem run_unbegun (hEnabled : r.policy.isEnabled = true)
    (hCancelled : (c.onStart now).any (· ≤ now) = true) :
    run r draws c subject now state = ⟨none, [], [], now, state⟩ := by
  rw [run, if_pos hEnabled]
  exact if_pos hCancelled

theorem run_begun (hEnabled : r.policy.isEnabled = true)
    (hBegins : (c.onStart now).any (· ≤ now) = false) :
    run r draws c subject now state =
      attempts r draws c subject r.policy.waitCount 0 now (c.onStart now) state := by
  rw [run, if_pos hEnabled]
  exact if_neg (Bool.not_eq_true _ ▸ hBegins)

theorem course_run (r : Retrier) (draws : Nat → Nat) (c : Cancellation) (subject : Subject σ ρ)
    (now : Instant) (state : σ) :
    Course r draws c subject now state (visits r draws c subject now state)
      (run r draws c subject now state) := by
  unfold visits
  cases hEnabled : r.policy.isEnabled with
  | false =>
    rw [run_disabled hEnabled, run_disabled hEnabled]
    exact .once hEnabled
  | true =>
    cases hBegins : (c.onStart now).any (· ≤ now) with
    | true =>
      rw [run_unbegun hEnabled hBegins, run_unbegun hEnabled hBegins]
      exact .unbegun hEnabled hBegins
    | false =>
      obtain ⟨vs, hProceeds⟩ : ∃ vs, Proceeds r draws c subject r.policy.waitCount
          (c.onStart now) ⟨0, now, state⟩ vs
          (attempts r draws c subject r.policy.waitCount 0 now (c.onStart now) state) :=
        proceeds_attempts r.policy.waitCount (c.onStart now) ⟨0, now, state⟩
      rw [run_begun hEnabled hBegins, run_begun hEnabled hBegins, hProceeds.recorded []]
      exact .begun hEnabled hBegins hProceeds

structure Account (subject : Subject σ ρ) (left : Nat) (v : Visit σ) (vs : List (Visit σ))
    (e : Ended σ ρ) : Prop where
  first : vs.head? = some v
  calls : e.calls = vs.map Visit.call
  numbers : vs.map Visit.number = List.range' v.number vs.length
  few : vs.length ≤ left + 1
  wanted : vs.IsChain fun w _ => (w.asked subject).1 = true
  result : e.result = vs.getLast?.map (Visit.result subject)

namespace Account

variable {v : Visit σ} {vs : List (Visit σ)} {e : Ended σ ρ}

theorem once (hResult : e.result = some (v.result subject)) (hCalls : e.calls = [v.call]) :
    Account subject left v [v] e where
  first := rfl
  calls := hCalls
  numbers := rfl
  few := Nat.le_add_left 1 left
  wanted := .singleton v
  result := hResult

theorem preceded {name : String} {delay : Span} (hAsked : (v.asked subject).1 = true)
    (h : Account subject left (v.next subject name delay) vs e) :
    Account subject (left + 1) v (v :: vs) (e.preceded v.call delay) where
  first := rfl
  calls := congrArg (v.call :: ·) h.calls
  numbers := by
    rw [List.map_cons, h.numbers]
    rfl
  few := Nat.succ_le_succ h.few
  wanted := List.isChain_cons.mpr ⟨fun _ _ => hAsked, h.wanted⟩
  result := by
    obtain ⟨rest, rfl⟩ := List.head?_eq_some_iff.mp h.first
    rw [List.getLast?_cons_cons]
    exact h.result

theorem exists_last (h : Account subject left v vs e) : ∃ last, last ∈ vs.getLast? := by
  obtain ⟨rest, rfl⟩ := List.head?_eq_some_iff.mp h.first
  exact ⟨_, List.getLast?_eq_some_getLast (List.cons_ne_nil v rest)⟩

theorem last_number (h : Account subject left v vs e) :
    ∀ last ∈ vs.getLast?, last.number + 1 = v.number + vs.length := by
  intro last hMem
  have hNumbers := congrArg List.getLast? h.numbers
  rw [List.getLast?_map, hMem, List.getLast?_range'] at hNumbers
  split at hNumbers
  · cases hNumbers
  · next hSome =>
    have hNumber : last.number = v.number + vs.length - 1 := Option.some.inj hNumbers
    omega

end Account

namespace Proceeds

variable {v : Visit σ} {vs : List (Visit σ)} {e : Ended σ ρ}

theorem account (h : Proceeds r draws c subject left known v vs e) :
    Account subject left v vs e := by
  induction h with
  | declined | exhausted | interrupted | late => exact .once rfl rfl
  | again hAsked _ _ ih => exact ih.preceded hAsked

/-- What the first visit has, and the next one after each that has it, all visits have. -/
theorem invariant {P : Visit σ → Prop} (h : Proceeds r draws c subject left known v vs e)
    (hFirst : P v) (hNext : ∀ w name delay, P w → P (w.next subject name delay)) :
    ∀ w ∈ vs, P w := by
  induction h with
  | declined | exhausted | interrupted | late => exact List.forall_mem_singleton.mpr hFirst
  | again _ _ _ ih => exact List.forall_mem_cons.mpr ⟨hFirst, ih (hNext _ _ _ hFirst)⟩

/-- A run ends with an attempt whose result is the last one wanted, without another wait. -/
theorem atOnce (h : Proceeds r draws c subject left known v vs e) :
    ∀ w ∈ vs.getLast?, (w.asked subject).1 = false →
      e.finished = w.finished subject ∧ e.waits.length + 1 = vs.length := by
  induction h with
  | declined =>
    rintro _ ⟨⟩ _
    exact ⟨rfl, rfl⟩
  | exhausted hAsked | interrupted hAsked | late hAsked =>
    rintro _ ⟨⟩ hDeclined
    exact absurd (hAsked.symm.trans hDeclined) (by decide)
  | again _ _ hRest ih =>
    obtain ⟨rest, rfl⟩ := List.head?_eq_some_iff.mp hRest.account.first
    intro w hLast hDeclined
    rw [List.getLast?_cons_cons] at hLast
    obtain ⟨hFinished, hWaits⟩ := ih w hLast hDeclined
    exact ⟨hFinished, congrArg Nat.succ hWaits⟩

end Proceeds

end Rules

end CallGuard.Retry
