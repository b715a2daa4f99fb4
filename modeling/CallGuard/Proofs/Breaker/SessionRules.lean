import CallGuard.Proofs.Breaker.Session

/-!
# What can happen in a session

Every action but a reset first lets a timeout take effect and then acts on the machine as that
leaves it. The rules below tell both parts with all that they change, so that a property of all
sessions has one case for each rule.
-/

namespace CallGuard.Session

variable (s : BreakerSettings) (now : Instant)

def renewed (state : State) (w : Session) : Session :=
  { w with machine := w.machine.renew s now state, epoch := w.epoch + 1 }

@[simp] theorem renewed_machine (state : State) (w : Session) :
    (w.renewed s now state).machine = w.machine.renew s now state := rfl

@[simp] theorem renewed_epoch (state : State) (w : Session) :
    (w.renewed s now state).epoch = w.epoch + 1 := rfl

/-- The session once a timeout that has passed has taken effect. -/
def refreshed (w : Session) : Session :=
  { w with
    machine := (w.machine.refresh s now).1
    epoch := w.epoch + (w.machine.refresh s now).2.length }

def elapsed (w : Session) : List Signal := (w.machine.refresh s now).2

def admitted (w : Session) : Session where
  machine := w.machine.count now
  epoch := w.epoch
  calls := w.calls ++ [some ⟨⟨w.machine.generation⟩, w.epoch, w.machine.state == .halfOpen⟩]
  log := w.log ++ [⟨now, w.epoch, .admitted⟩]

def refused (w : Session) : Session := { w with calls := w.calls ++ [none] }

def ended (k : Nat) (c : Call) (outcome : Option Outcome) (w : Session) : Session :=
  { w with calls := w.calls.set k none, log := w.log ++ [⟨now, c.epoch, .ended outcome⟩] }

/-- Where a timeout leads that has passed. -/
inductive Elapses (w : Session) : Session → List Signal → Prop where
  | still : (w.machine.isExpired now = false ∨ w.machine.state = .halfOpen) → Elapses w w []
  | window : w.machine.isExpired now = true → w.machine.state = .closed →
      Elapses w (w.renewed s now .closed) [.windowElapsed]
  | probing : w.machine.isExpired now = true → w.machine.state = .opened →
      Elapses w (w.renewed s now .halfOpen) [.changed .opened .halfOpen]

theorem elapses_refreshed (w : Session) :
    Elapses s now w (w.refreshed s now) (w.elapsed s now) := by
  unfold refreshed elapsed
  rw [Machine.refresh_eq]
  split
  · next hWindow => exact .window hWindow.1 hWindow.2
  · split
    · next hProbing => exact .probing hProbing.1 hProbing.2
    · next hWindow hProbing =>
      apply Elapses.still
      cases hState : w.machine.state <;> simp_all

/-- What an action comes to where no timeout is left to take effect. -/
inductive Acts (r : Session) : Action → Session → Answer → List Signal → Prop where
  | refused {reason : Rejection} : r.machine.rejection? s = some reason →
      Acts r .start r.refused (.refused reason) []
  | admitted : r.machine.rejection? s = none → Acts r .start (r.admitted now) .admitted []
  | stale {k : Nat} {c : Call} {outcome : Option Outcome} : r.call? k = some c →
      c.permit.generation ≠ r.machine.generation →
      Acts r (.settle k outcome) (r.ended now k c outcome) .silence []
  | dropped {k : Nat} {c : Call} : r.call? k = some c →
      c.permit.generation = r.machine.generation →
      Acts r (.settle k none) { r.ended now k c none with machine := r.machine.release }
        .silence []
  | booked {k : Nat} {c : Call} {o : Outcome} {m : Machine} {signals : List Signal} :
      r.call? k = some c → c.permit.generation = r.machine.generation →
      Machine.Books s now r.machine.release o m signals →
      Acts r (.settle k (some o))
        { r.ended now k c (some o) with machine := m, epoch := r.epoch + signals.length }
        .silence signals
  | stateRead : Acts r .readState r (.state r.machine.state) []
  | countsRead :
      Acts r .readCounts
        { r with
          machine := { r.machine with counter := r.machine.counter.expire now } }
        (.counts (r.machine.counter.countsAt now)) []

inductive Performs (x : Step) (w : Session) : Session → Report → Prop where
  | idle {k : Nat} {outcome : Option Outcome} : x.action = .settle k outcome →
      w.call? k = none → Performs x w w ⟨.silence, []⟩
  | reset : x.action = .reset →
      Performs x w (w.renewed s x.time .closed)
        ⟨.silence, if w.machine.state = .closed then [] else [.changed w.machine.state .closed]⟩
  | acts {w' : Session} {answer : Answer} {signals : List Signal} :
      Acts s x.time (w.refreshed s x.time) x.action w' answer signals →
      Performs x w w' ⟨answer, w.elapsed s x.time ++ signals⟩

theorem start_answer (w : Session) :
    (w.start s now).2.answer =
      match (w.refreshed s now).machine.rejection? s with
      | some reason => .refused reason
      | none => .admitted := by
  simp only [start, Machine.enter, refreshed]
  split <;> split <;> simp_all

theorem performs_start (w : Session) :
    Performs s ⟨now, .start⟩ w (w.start s now).1 (w.start s now).2 := by
  simp only [start, Machine.enter]
  cases hRejection : (w.machine.refresh s now).1.rejection? s with
  | some reason =>
    have hPerforms := Performs.acts (s := s) (x := ⟨now, .start⟩) (w := w) (.refused hRejection)
    rw [List.append_nil] at hPerforms
    exact hPerforms
  | none =>
    have hPerforms := Performs.acts (s := s) (x := ⟨now, .start⟩) (w := w) (.admitted hRejection)
    rw [List.append_nil] at hPerforms
    exact hPerforms

theorem performs_settle (w : Session) (k : Nat) (outcome : Option Outcome) :
    Performs s ⟨now, .settle k outcome⟩ w (w.settle s now k outcome).1
      (w.settle s now k outcome).2 := by
  unfold settle
  cases hCall : w.call? k with
  | none => exact .idle rfl hCall
  | some c =>
    have hCall' : (w.refreshed s now).call? k = some c := hCall
    simp only [Machine.settle]
    by_cases hCurrent : c.permit.generation = (w.machine.refresh s now).1.generation
    · rw [if_pos hCurrent]
      cases outcome with
      | none =>
        have hPerforms := Performs.acts (s := s) (x := ⟨now, .settle k none⟩) (w := w)
          (.dropped hCall' hCurrent)
        rw [List.append_nil] at hPerforms
        exact hPerforms
      | some o =>
        have hBooks := Machine.books_book s now (w.machine.refresh s now).1.release o
        have hPerforms := Performs.acts (s := s) (x := ⟨now, .settle k (some o)⟩) (w := w)
          (.booked hCall' hCurrent hBooks)
        simp only [List.length_append, ← Nat.add_assoc]
        exact hPerforms
    · rw [if_neg hCurrent]
      have hPerforms := Performs.acts (s := s) (x := ⟨now, .settle k outcome⟩) (w := w)
        (.stale hCall' hCurrent)
      rw [List.append_nil] at hPerforms
      exact hPerforms

theorem performs_reset (w : Session) :
    Performs s ⟨now, .reset⟩ w (w.reset s now).1 (w.reset s now).2 := by
  have hReset : w.machine.reset s now = (w.machine.renew s now .closed,
      if w.machine.state = .closed then [] else [.changed w.machine.state .closed]) := by
    unfold Machine.reset Machine.moveTo
    split <;> rfl
  simp only [reset, hReset]
  exact .reset rfl

theorem performs_perform (x : Step) (w : Session) :
    Performs s x w (w.perform s x).1 (w.perform s x).2 := by
  obtain ⟨now, action⟩ := x
  cases action with
  | start => exact performs_start s now w
  | settle k outcome => exact performs_settle s now w k outcome
  | readState =>
    have hPerforms := Performs.acts (s := s) (x := ⟨now, .readState⟩) (w := w) .stateRead
    rw [List.append_nil] at hPerforms
    exact hPerforms
  | readCounts =>
    have hPerforms := Performs.acts (s := s) (x := ⟨now, .readCounts⟩) (w := w) .countsRead
    rw [List.append_nil] at hPerforms
    exact hPerforms
  | reset => exact performs_reset s now w

end CallGuard.Session
