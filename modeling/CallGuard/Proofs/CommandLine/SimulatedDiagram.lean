import CallGuard.CommandLine.Basic
import CallGuard.Proofs.Breaker.StateDiagram

/-!
# Simulated diagrams

A simulation of a breaker without a window is a walk through the state diagram, as long as its
waits fit on the clock. Every input has the lines that the diagram alone gives it, whatever the kind
of the breaker: all of them count a refused connection and expect a denied permission.
-/

namespace CallGuard

namespace Instant

variable {t : Instant}

theorem ceilMillis_of_whole (hWhole : (1000000 : Int) ∣ t) : ceilMillis t = t := by
  rw [ceilMillis, Int.neg_mul, Int.ediv_mul_cancel (Int.dvd_neg.mpr hWhole), Int.neg_neg]

theorem whole_after (hWhole : (1000000 : Int) ∣ t) (ms : UInt64) :
    (1000000 : Int) ∣ t + (Span.ofMillis ms).nanos := by
  refine Int.dvd_add hWhole ⟨ms.toNat, ?_⟩
  rw [Span.ofMillis_nanos, Int.natCast_mul, Int.mul_comm]
  rfl

/-- From one whole millisecond to another nobody oversleeps. -/
theorem wake_ofMillis (hWhole : (1000000 : Int) ∣ t) (ms : UInt64) :
    wake t (.ofMillis ms) = t + (Span.ofMillis ms).nanos := by
  rw [wake, ceilMillis_of_whole (whole_after hWhole ms)]
  split
  · next hNone => rw [hNone, Int.natCast_zero, Int.add_zero]
  · rfl

end Instant

namespace CommandLine

inductive Input where
  | call (outcome : Outcome)
  | wait
deriving DecidableEq

namespace Input

def symbol : Input → Char
  | call .success => 's'
  | call .failure => 'f'
  | call .ignored => 'i'
  | wait => 'w'

def pattern (inputs : List Input) : String := String.ofList (inputs.map symbol)

def target (s : BreakerSettings) (p : Phase) : Input → Phase
  | call o => p.found.next s.threshold s.quota o
  | wait => p.waited

def moveLines (source target : State) : List String :=
  if source = target then [] else ["  " ++ source.name ++ " -> " ++ target.name]

def answerText (breaker : String) (p : Phase) (o : Outcome) : String :=
  if p.state = .opened then "rejected: " ++ ("circuit breaker '" ++ breaker ++ "' is open")
  else
    match o with
    | .success => "ok"
    | .failure => "error: connection refused"
    | .ignored => "error: permission denied"

def lines (s : BreakerSettings) (index : Nat) (p : Phase) : Input → List String
  | call o =>
    let left := target s p (call o)
    moveLines p.state p.found.state ++ moveLines p.found.state left.state ++
      [Simulation.padded index ++ " " ++ String.ofList [(call o).symbol] ++ "     "
        ++ answerText s.name p.found o ++ " [" ++ left.state.name ++ "]"]
  | wait => [Simulation.padded index ++ " wait  " ++ s.openTimeout.text]

def walk (s : BreakerSettings) : (index : Nat) → Phase → List Input → List String
  | _, _, [] => []
  | index, p, x :: rest => x.lines s index p ++ walk s (index + 1) (x.target s p) rest

theorem walk_append (s : BreakerSettings) (index : Nat) (p : Phase) (earlier later : List Input) :
    walk s index p (earlier ++ later) =
      walk s index p earlier ++
        walk s (index + earlier.length) (earlier.foldl (target s) p) later := by
  induction earlier generalizing index p with
  | nil => rfl
  | cons x rest ih =>
    rw [List.cons_append, walk, walk, ih, List.append_assoc, List.length_cons,
      Nat.add_comm rest.length, ← Nat.add_assoc, List.foldl_cons]

def scripted : Outcome → Except Fault Unit
  | .success => .ok ()
  | .failure => .error (.io .connectionRefused)
  | .ignored => .error (.io .permissionDenied)

theorem outcomeOf_scripted (kind : Backend) (o : Outcome) :
    Breaker.outcomeOf kind.classify (scripted o) = o := by
  cases o with
  | success => rfl
  | failure | ignored => cases kind <;> rfl

theorem resultText_answerAt (breaker : String) (p : Phase) (o : Outcome) :
    Simulation.resultText (Breaker.answerAt breaker p (scripted o)) = answerText breaker p o := by
  unfold Breaker.answerAt answerText
  split
  · rfl
  · cases o <;> rfl

end Input

namespace Simulation

variable {s : BreakerSettings} {p : Phase} {sim : Simulation}

theorem changeLines_between {notices : List Notice} {breaker : String} {a b c d : State}
    (hChanges : Notice.changes notices = Change.between breaker a b ++ Change.between breaker c d) :
    changeLines notices = Input.moveLines a b ++ Input.moveLines c d := by
  have hLines : ∀ a b, (Change.between breaker a b).map
      (fun c => "  " ++ c.source.name ++ " -> " ++ c.target.name) = Input.moveLines a b := by
    intro a b
    unfold Change.between Input.moveLines
    split <;> rfl
  rw [changeLines, hChanges, List.map_append, hLines, hLines]

theorem step_call (s : BreakerSettings) (index : Nat) (o : Outcome) (sim : Simulation) :
    sim.step s index (Input.call o).symbol =
      let called := sim.breaker.call sim.now fun now => (Input.scripted o, now)
      let (state, breaker, notices) := called.breaker.state called.finished
      .ok
        { breaker := breaker
          now := called.finished
          lines := sim.lines ++ changeLines (called.notices ++ notices) ++
            [padded index ++ " " ++ String.ofList [(Input.call o).symbol] ++ "     "
              ++ resultText called.result ++ " [" ++ state.name ++ "]"] } := by
  cases o <;> rfl

/-- A simulation that has come to a place of the diagram, on a whole millisecond. -/
structure Follows (s : BreakerSettings) (p : Phase) (sim : Simulation) : Prop where
  whole : (1000000 : Int) ∣ sim.now
  stands : ∃ m : Machine, sim.breaker = .stateful s s.kind.classify m ∧ m.StandsAt s sim.now p

namespace Follows

theorem create (hEnabled : s.enabled = true) (hEndless : s.closedWindowIntervalMs = 0) :
    Follows s (.closed 0) ⟨(Breaker.create s s.kind.classify 0).1, 0, []⟩ := by
  rw [Breaker.create, if_pos hEnabled]
  exact ⟨Int.dvd_zero _, _, rfl, .create hEndless 0⟩

theorem called (h : Follows s p sim) (hEndless : s.closedWindowIntervalMs = 0) (index : Nat)
    (o : Outcome) :
    ∃ b, let left := ⟨b, sim.now, sim.lines ++ (Input.call o).lines s index p⟩
      sim.step s index (Input.call o).symbol = .ok left ∧
        Follows s ((Input.call o).target s p) left := by
  obtain ⟨m, hBreaker, hStands⟩ := h.stands
  obtain ⟨m', invoked, notices, hStands', hCalled, hChanges⟩ :=
    Breaker.call_at s.kind.classify hStands hEndless (Input.scripted o)
  rw [Input.outcomeOf_scripted] at hStands' hChanges
  have hState := Breaker.state_at s.kind.classify hStands' (Phase.next_ne_due p.found_ne_due o)
  refine ⟨.stateful s s.kind.classify m', ?_, h.whole, m', rfl, hStands'⟩
  rw [step_call, hBreaker, hCalled]
  simp only [hState, List.append_nil, changeLines_between hChanges, Input.resultText_answerAt,
    Input.lines, Input.target, List.append_assoc]

theorem step_wait (h : Follows s p sim) (index : Nat) :
    sim.step s index Input.wait.symbol =
        .ok ⟨sim.breaker, sim.now + s.openTimeout.nanos,
          sim.lines ++ Input.wait.lines s index p⟩ ∧
      (1000000 : Int) ∣ sim.now + s.openTimeout.nanos := by
  obtain ⟨ms, hTimeout⟩ := s.exists_openTimeout_eq_ofMillis
  have hWake : Instant.wake sim.now s.openTimeout = sim.now + s.openTimeout.nanos := by
    rw [hTimeout, Instant.wake_ofMillis h.whole]
  constructor
  · rw [← hWake]
    rfl
  · rw [hTimeout]
    exact Instant.whole_after h.whole ms

theorem waited (h : Follows s p sim) (index : Nat)
    (hClock : sim.now + s.openTimeout.nanos ≤ Instant.latest) :
    let left := ⟨sim.breaker, sim.now + s.openTimeout.nanos,
      sim.lines ++ Input.wait.lines s index p⟩
    sim.step s index Input.wait.symbol = .ok left ∧ Follows s (Input.wait.target s p) left := by
  obtain ⟨m, hBreaker, hStands⟩ := h.stands
  obtain ⟨hStep, hWhole⟩ := h.step_wait index
  exact ⟨hStep, hWhole, m, hBreaker, hStands.waited hClock⟩

theorem steps (h : Follows s p sim) (hEndless : s.closedWindowIntervalMs = 0)
    (index : Nat) (inputs : List Input)
    (hClock : sim.now + (inputs.count .wait * s.openTimeout.nanos : Nat) ≤ Instant.latest) :
    ∃ sim', Simulation.steps s index (inputs.map Input.symbol) sim = (sim', none) ∧
      sim'.lines = sim.lines ++ Input.walk s index p inputs ∧
      sim'.now = sim.now + (inputs.count .wait * s.openTimeout.nanos : Nat) ∧
      Follows s (inputs.foldl (Input.target s) p) sim' := by
  -- On the pattern: each input leaves the simulation where the rest of the walk begins.
  induction inputs generalizing sim p index with
  | nil => exact ⟨sim, rfl, (List.append_nil _).symm, by simp, h⟩
  | cons x rest ih =>
    have hNext : ∃ left, sim.step s index x.symbol = .ok left ∧
        left.lines = sim.lines ++ x.lines s index p ∧ Follows s (x.target s p) left ∧
        left.now + (rest.count .wait * s.openTimeout.nanos : Nat) =
          sim.now + ((x :: rest).count .wait * s.openTimeout.nanos : Nat) := by
      cases x with
      | call o =>
        obtain ⟨b, hStep, hFollows⟩ := h.called hEndless index o
        refine ⟨_, hStep, rfl, hFollows, ?_⟩
        rw [List.count_cons_of_ne (by simp)]
      | wait =>
        have hSum : sim.now + s.openTimeout.nanos + (rest.count .wait * s.openTimeout.nanos : Nat) =
            sim.now + ((Input.wait :: rest).count .wait * s.openTimeout.nanos : Nat) := by
          rw [List.count_cons_self, Nat.succ_mul, Nat.add_comm (_ * _), Int.natCast_add,
            Int.add_assoc]
        have hReached : sim.now + s.openTimeout.nanos ≤ Instant.latest := by
          rw [← hSum] at hClock
          exact Int.le_trans (Int.le_add_of_nonneg_right (Int.natCast_nonneg _)) hClock
        obtain ⟨hStep, hFollows⟩ := h.waited index hReached
        exact ⟨_, hStep, rfl, hFollows, hSum⟩
    obtain ⟨left, hStep, hPrinted, hFollows, hNow⟩ := hNext
    obtain ⟨sim', hSteps, hLines, hLast, hFollows'⟩ :=
      ih hFollows (index + 1) (by rwa [hNow])
    refine ⟨sim', ?_, ?_, hLast.trans hNow, hFollows'⟩
    · rw [List.map_cons, Simulation.steps, hStep]
      exact hSteps
    · rw [hLines, hPrinted, Input.walk, List.append_assoc]

end Follows

section ClockEnd

end ClockEnd

end Simulation

end CommandLine

end CallGuard
