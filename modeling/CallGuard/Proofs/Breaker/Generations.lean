import CallGuard.Proofs.Breaker.SessionRules
import Mathlib.Data.List.Induction

/-!
# Generations and epochs

The number of a generation is a word and wraps around; its epoch does not. In every session the
numbers are the epochs modulo 2^64, no call is of a later epoch than the machine, and no call is
lost. As long as there have been fewer than 2^64 generations, a permit therefore carries the
number of the machine exactly if its call was admitted in the present generation.
-/

namespace CallGuard.Session

section Census

variable (now : Instant)

@[simp] theorem inFlight_admitted (p : Call → Bool) (w : Session) :
    (w.admitted now).inFlight p = w.inFlight p +
      if p ⟨⟨w.machine.generation⟩, w.epoch, w.machine.state == .halfOpen⟩ then 1 else 0 := by
  simp [inFlight, admitted]

@[simp] theorem inFlight_refused (p : Call → Bool) (w : Session) :
    w.refused.inFlight p = w.inFlight p := by
  simp [inFlight, refused]

theorem call?_eq_some {w : Session} {k : Nat} {c : Call} :
    w.call? k = some c ↔ w.calls[k]? = some (some c) := by
  simp [call?, Option.join_eq_some_iff]

theorem mem_of_call? {w : Session} {k : Nat} {c : Call} (hCall : w.call? k = some c) :
    some c ∈ w.calls :=
  List.mem_of_getElem? (call?_eq_some.mp hCall)

theorem inFlight_ended {w : Session} {k : Nat} {c : Call} (hCall : w.call? k = some c)
    (outcome : Option Outcome) (p : Call → Bool) :
    (w.ended now k c outcome).inFlight p + (if p c then 1 else 0) = w.inFlight p := by
  obtain ⟨hLt, hGet⟩ := List.getElem?_eq_some_iff.mp (call?_eq_some.mp hCall)
  have hPos : p c = true → 0 < w.calls.countP (Option.any p) := fun hp =>
    List.countP_pos_iff.mpr ⟨some c, mem_of_call? hCall, hp⟩
  simp only [inFlight, ended]
  rw [List.countP_set hLt, hGet]
  cases hp : p c with
  | false => simp [hp]
  | true =>
    have hPos := hPos hp
    simp only [Option.any_some, hp, Option.any_none, if_true, Bool.false_eq_true, if_false]
    omega

@[simp] theorem marks_admitted (e : Nat) (p : Mark → Bool) (w : Session) :
    (w.admitted now).marks e p =
      w.marks e p + if w.epoch = e ∧ p .admitted then 1 else 0 := by
  simp [marks, admitted]

@[simp] theorem marks_ended (e : Nat) (p : Mark → Bool) (w : Session) (k : Nat) (c : Call)
    (outcome : Option Outcome) :
    (w.ended now k c outcome).marks e p =
      w.marks e p + if c.epoch = e ∧ p (.ended outcome) then 1 else 0 := by
  simp [marks, ended]

end Census

/-- What holds of every session, however often its generations have wrapped around. -/
structure Sound (w : Session) : Prop where
  generation : w.machine.generation = UInt64.ofNat w.epoch
  permit : ∀ c, some c ∈ w.calls → c.permit.generation = UInt64.ofNat c.epoch
  call_le : ∀ c, some c ∈ w.calls → c.epoch ≤ w.epoch
  isProbe : ∀ c, some c ∈ w.calls → c.epoch = w.epoch →
    c.isProbe = (w.machine.state == .halfOpen)
  entry_le : ∀ e ∈ w.log, e.epoch ≤ w.epoch
  conserved : ∀ e, w.marks e (· != .admitted) + w.inFlight (·.epoch == e) =
    w.marks e (· == .admitted)

namespace Sound

variable {s : BreakerSettings} {now : Instant} {w : Session}

theorem create (created : Instant) : Sound (create s created) where
  generation := rfl
  permit _ hMem := absurd hMem List.not_mem_nil
  call_le _ hMem := absurd hMem List.not_mem_nil
  isProbe _ hMem := absurd hMem List.not_mem_nil
  entry_le _ hMem := absurd hMem List.not_mem_nil
  conserved _ := rfl

theorem renewed (h : Sound w) (state : State) : Sound (w.renewed s now state) where
  generation := by
    change w.machine.generation + 1 = UInt64.ofNat (w.epoch + 1)
    rw [h.generation, UInt64.ofNat_add]
    rfl
  permit := h.permit
  call_le c hMem := Nat.le_succ_of_le (h.call_le c hMem)
  isProbe c hMem hEpoch := by
    have hLe := h.call_le c hMem
    change c.epoch = w.epoch + 1 at hEpoch
    omega
  entry_le e hMem := Nat.le_succ_of_le (h.entry_le e hMem)
  conserved := h.conserved

theorem machine {m : Machine} (h : Sound w) (hGeneration : m.generation = w.machine.generation)
    (hState : m.state = w.machine.state) : Sound { w with machine := m } where
  generation := hGeneration.trans h.generation
  permit := h.permit
  call_le := h.call_le
  isProbe c hMem hEpoch := by
    change c.isProbe = (m.state == .halfOpen)
    rw [hState]
    exact h.isProbe c hMem hEpoch
  entry_le := h.entry_le
  conserved := h.conserved

theorem admitted (h : Sound w) : Sound (w.admitted now) where
  generation := h.generation
  permit c hMem := by
    rcases List.mem_append.mp hMem with hOld | hNew
    · exact h.permit c hOld
    · cases List.mem_singleton.mp hNew
      exact h.generation
  call_le c hMem := by
    rcases List.mem_append.mp hMem with hOld | hNew
    · exact h.call_le c hOld
    · cases List.mem_singleton.mp hNew
      exact Nat.le_refl _
  isProbe c hMem hEpoch := by
    rcases List.mem_append.mp hMem with hOld | hNew
    · exact h.isProbe c hOld hEpoch
    · cases List.mem_singleton.mp hNew
      rfl
  entry_le e hMem := by
    rcases List.mem_append.mp hMem with hOld | hNew
    · exact h.entry_le e hOld
    · cases List.mem_singleton.mp hNew
      exact Nat.le_refl _
  conserved e := by
    have hConserved := h.conserved e
    simp only [marks_admitted, inFlight_admitted, beq_iff_eq]
    by_cases hEpoch : w.epoch = e <;> simp [hEpoch] <;> omega

theorem refused (h : Sound w) : Sound w.refused where
  generation := h.generation
  permit c hMem := h.permit c (by simpa [Session.refused] using hMem)
  call_le c hMem := h.call_le c (by simpa [Session.refused] using hMem)
  isProbe c hMem := h.isProbe c (by simpa [Session.refused] using hMem)
  entry_le := h.entry_le
  conserved e := by
    rw [inFlight_refused]
    exact h.conserved e

theorem ended {k : Nat} {c : Call} (h : Sound w) (hCall : w.call? k = some c)
    (outcome : Option Outcome) : Sound (w.ended now k c outcome) := by
  have hOld : ∀ d, some d ∈ (w.ended now k c outcome).calls → some d ∈ w.calls := by
    intro d hMem
    rcases List.mem_or_eq_of_mem_set hMem with hOld | hNone
    · exact hOld
    · cases hNone
  constructor
  · exact h.generation
  · exact fun d hMem => h.permit d (hOld d hMem)
  · exact fun d hMem => h.call_le d (hOld d hMem)
  · exact fun d hMem => h.isProbe d (hOld d hMem)
  · intro e hMem
    rcases List.mem_append.mp hMem with hMem | hNew
    · exact h.entry_le e hMem
    · cases List.mem_singleton.mp hNew
      exact h.call_le c (mem_of_call? hCall)
  · intro e
    have hConserved := h.conserved e
    have hEnded := inFlight_ended now hCall outcome (·.epoch == e)
    simp only [marks_ended, beq_iff_eq] at hEnded ⊢
    by_cases hEpoch : c.epoch = e <;> simp [hEpoch] at hEnded ⊢ <;> omega

theorem elapses {r : Session} {signals : List Signal} (h : Sound w)
    (hElapses : Elapses s now w r signals) : Sound r := by
  cases hElapses with
  | still => exact h
  | window => exact h.renewed .closed
  | probing => exact h.renewed .halfOpen

theorem refreshed (h : Sound w) : Sound (w.refreshed s now) :=
  h.elapses (elapses_refreshed s now w)

theorem acts {r r' : Session} {a : Action} {answer : Answer} {signals : List Signal}
    (h : Sound r) (hActs : Acts s now r a r' answer signals) : Sound r' := by
  cases hActs with
  | refused => exact h.refused
  | admitted => exact h.admitted
  | stale hCall => exact h.ended hCall _
  | dropped hCall =>
    exact (h.ended hCall none).machine (r.machine.release_generation) (r.machine.release_state)
  | booked hCall _ hBooks =>
    rcases hBooks.stays_or_moves with ⟨rfl, hGeneration, hState⟩ | ⟨target, rfl, rfl⟩
    · exact (h.ended hCall _).machine (hGeneration.trans r.machine.release_generation)
        (hState.trans r.machine.release_state)
    · rw [Machine.renew_release]
      exact (h.ended hCall _).renewed target
  | stateRead => exact h
  | countsRead => exact h.machine rfl rfl

theorem performs {x : Step} {w' : Session} {report : Report} (h : Sound w)
    (hPerforms : Performs s x w w' report) : Sound w' := by
  cases hPerforms with
  | idle => exact h
  | reset => exact h.renewed .closed
  | acts hActs => exact h.refreshed.acts hActs

theorem run (created : Instant) (steps : List Step) : Sound (run s created steps) := by
  induction steps using List.reverseRecOn with
  | nil => exact .create created
  | append_singleton steps x ih =>
    rw [run_append_singleton]
    exact ih.performs (performs_perform s x _)

end Sound

theorem Sound.permit_eq {w : Session} {k : Nat} {c : Call} (h : Sound w)
    (hCall : w.call? k = some c) (hEpoch : c.epoch = w.epoch) :
    c.permit.generation = w.machine.generation := by
  rw [h.permit c (mem_of_call? hCall), h.generation, hEpoch]

/-- A machine tells the calls of its generation from those of the 2^64 generations before it. -/
theorem Sound.permit_eq_iff_of_lt {w : Session} {c : Call} (h : Sound w)
    (hRecent : w.epoch < c.epoch + 2 ^ 64) (hMem : some c ∈ w.calls) :
    c.permit.generation = w.machine.generation ↔ c.epoch = w.epoch := by
  have hLe := h.call_le c hMem
  rw [h.permit c hMem, h.generation, ← UInt64.toNat_inj, UInt64.toNat_ofNat', UInt64.toNat_ofNat']
  omega

/-- Within the words of its numbers a machine tells the calls of its generation from all
earlier ones. -/
theorem Sound.permit_eq_iff {w : Session} {c : Call} (h : Sound w) (hEpoch : w.epoch < 2 ^ 64)
    (hMem : some c ∈ w.calls) :
    c.permit.generation = w.machine.generation ↔ c.epoch = w.epoch :=
  h.permit_eq_iff_of_lt (Nat.lt_of_lt_of_le hEpoch (Nat.le_add_left _ _)) hMem

theorem Sound.current_iff {w : Session} {k : Nat} {c : Call} (h : Sound w)
    (hEpoch : w.epoch < 2 ^ 64) (hCall : w.call? k = some c) :
    c.permit.generation = w.machine.generation ↔ c.epoch = w.epoch :=
  h.permit_eq_iff hEpoch (mem_of_call? hCall)

theorem Sound.inFlight_later {w : Session} (h : Sound w) {e : Nat} (hLater : w.epoch < e) :
    w.inFlight (·.epoch == e) = 0 := by
  apply List.countP_eq_zero.mpr
  intro slot hMem hCount
  cases slot with
  | none => cases hCount
  | some c =>
    have hLe := h.call_le c hMem
    have hEq : c.epoch = e := by simpa using hCount
    omega

theorem Sound.marks_later {w : Session} (h : Sound w) {e : Nat} (hLater : w.epoch < e)
    (p : Mark → Bool) : w.marks e p = 0 := by
  apply List.countP_eq_zero.mpr
  intro entry hMem hCount
  have hLe := h.entry_le entry hMem
  have hEq : entry.epoch = e := by
    simp only [Bool.and_eq_true, beq_iff_eq] at hCount
    exact hCount.1
  omega

section Runs

variable {s : BreakerSettings}

theorem Elapses.epoch_eq {now : Instant} {w r : Session} {signals : List Signal}
    (hElapses : Elapses s now w r signals) : r.epoch = w.epoch + signals.length := by
  cases hElapses <;> rfl

theorem Acts.epoch_eq {now : Instant} {r r' : Session} {a : Action} {answer : Answer}
    {signals : List Signal} (hActs : Acts s now r a r' answer signals) :
    r'.epoch = r.epoch + signals.length := by
  cases hActs <;> rfl

theorem Acts.epoch_le {now : Instant} {r r' : Session} {a : Action} {answer : Answer}
    {signals : List Signal} (hActs : Acts s now r a r' answer signals) : r.epoch ≤ r'.epoch := by
  rw [hActs.epoch_eq]
  exact Nat.le_add_right _ _

/-- A generation begins with every announcement of a machine and with every reset, and at no
other time. -/
theorem Performs.epoch_eq {x : Step} {w w' : Session} {report : Report}
    (hPerforms : Performs s x w w' report) :
    w'.epoch = w.epoch + if x.action = .reset then 1 else report.signals.length := by
  cases hPerforms with
  | idle hAction => simp [hAction]
  | reset hReset => simp [hReset]
  | acts hActs =>
    have hNoReset : x.action ≠ .reset := by
      intro hReset
      rw [hReset] at hActs
      cases hActs
    rw [if_neg hNoReset, hActs.epoch_eq, (elapses_refreshed s x.time w).epoch_eq,
      List.length_append, Nat.add_assoc]

theorem Performs.epoch_le {x : Step} {w w' : Session} {report : Report}
    (hPerforms : Performs s x w w' report) : w.epoch ≤ w'.epoch := by
  rw [hPerforms.epoch_eq]
  exact Nat.le_add_right _ _

theorem epoch_le_after (w : Session) (steps : List Step) : w.epoch ≤ (w.after s steps).epoch := by
  induction steps generalizing w with
  | nil => exact Nat.le_refl _
  | cons x rest ih =>
    exact Nat.le_trans (performs_perform s x w).epoch_le (ih (w.perform s x).1)

theorem Performs.refreshed_epoch_le {x : Step} {w w' : Session} {report : Report} {k : Nat}
    {c : Call} {outcome : Option Outcome} (hPerforms : Performs s x w w' report)
    (hAction : x.action = .settle k outcome) (hCall : w.call? k = some c) :
    (w.refreshed s x.time).epoch ≤ w'.epoch := by
  cases hPerforms with
  | idle hIdle hNone =>
    cases hIdle.symm.trans hAction
    rw [hCall] at hNone
    cases hNone
  | reset hReset => cases hReset.symm.trans hAction
  | acts hActs => exact hActs.epoch_le

/-- A property that nothing destroys that can happen at an instant, as long as generations have
not wrapped around. -/
structure Preserved (s : BreakerSettings) (now : Instant) (P : Session → Prop) : Prop where
  renewed : ∀ {w : Session} (state : State), Sound w → P w → P (w.renewed s now state)
  acts : ∀ {a : Action} {r r' : Session} {answer : Answer} {signals : List Signal}, Sound r →
    r.epoch < 2 ^ 64 → P r → Acts s now r a r' answer signals → P r'

namespace Preserved

variable {P : Session → Prop}

theorem elapses {now : Instant} {w r : Session} {signals : List Signal}
    (hP : Preserved s now P) (hElapses : Elapses s now w r signals) (hSound : Sound w)
    (h : P w) : P r := by
  cases hElapses with
  | still => exact h
  | window | probing => exact hP.renewed _ hSound h

theorem performs {x : Step} {w w' : Session} {report : Report} (hP : Preserved s x.time P)
    (hPerforms : Performs s x w w' report) (hSound : Sound w) (hEpoch : w'.epoch < 2 ^ 64)
    (h : P w) : P w' := by
  cases hPerforms with
  | idle => exact h
  | reset => exact hP.renewed _ hSound h
  | acts hActs =>
    have hRefreshed := hP.elapses (elapses_refreshed s x.time w) hSound h
    exact hP.acts hSound.refreshed (Nat.lt_of_le_of_lt hActs.epoch_le hEpoch) hRefreshed hActs

end Preserved

structure Invariant (s : BreakerSettings) (P : Session → Prop) : Prop where
  create : ∀ created, P (create s created)
  preserved : ∀ now, Preserved s now P

theorem Invariant.run {P : Session → Prop} (hP : Invariant s P) (created : Instant)
    (steps : List Step) (hEpoch : (run s created steps).epoch < 2 ^ 64) :
    P (run s created steps) := by
  induction steps using List.reverseRecOn with
  | nil => exact hP.create created
  | append_singleton steps x ih =>
    rw [run_append_singleton] at hEpoch ⊢
    have hPerforms := performs_perform s x (Session.run s created steps)
    have hBefore := ih (Nat.lt_of_le_of_lt hPerforms.epoch_le hEpoch)
    exact (hP.preserved x.time).performs hPerforms (.run created steps) hEpoch hBefore

theorem inOrder_append_singleton {created : Instant} {steps : List Step} {x : Step} :
    InOrder created (steps ++ [x]) ↔
      InOrder created steps ∧ created ≤ x.time ∧ ∀ y ∈ steps, y.time ≤ x.time := by
  simp only [InOrder, List.map_append, List.map_singleton, ← List.cons_append,
    List.pairwise_append, List.pairwise_singleton, List.mem_singleton, forall_eq, true_and,
    List.forall_mem_cons, List.forall_mem_map]

theorem InOrder.le_of_mem {created : Instant} {earlier later : List Step} {x y : Step}
    (hOrder : InOrder created (earlier ++ later)) (hx : x ∈ earlier) (hy : y ∈ later) :
    x.time ≤ y.time := by
  rw [InOrder, List.map_append, ← List.cons_append, List.pairwise_append] at hOrder
  exact hOrder.2.2 _ (List.mem_cons_of_mem _ (List.mem_map_of_mem hx)) _ (List.mem_map_of_mem hy)

/-- A property of the sessions whose clocks go forward, at every instant from the last step on. -/
structure TimedInvariant (s : BreakerSettings) (created : Instant)
    (P : Instant → Session → Prop) : Prop where
  create : P created (create s created)
  later : ∀ {now later : Instant} {w : Session}, now ≤ later → P now w → P later w
  preserved : ∀ now, Preserved s now (P now)

theorem TimedInvariant.run {created now : Instant} {P : Instant → Session → Prop}
    (hP : TimedInvariant s created P) (steps : List Step) (hOrder : InOrder created steps)
    (hCreated : created ≤ now) (hNow : ∀ x ∈ steps, x.time ≤ now)
    (hEpoch : (run s created steps).epoch < 2 ^ 64) : P now (run s created steps) := by
  induction steps using List.reverseRecOn generalizing now with
  | nil => exact hP.later hCreated hP.create
  | append_singleton steps x ih =>
    rw [run_append_singleton] at hEpoch ⊢
    obtain ⟨hBefore, hStart, hTimes⟩ := inOrder_append_singleton.mp hOrder
    have hPerforms := performs_perform s x (Session.run s created steps)
    have hPast := ih hBefore hStart hTimes (Nat.lt_of_le_of_lt hPerforms.epoch_le hEpoch)
    have hPresent := (hP.preserved x.time).performs hPerforms (.run created steps) hEpoch hPast
    exact hP.later (hNow x (by simp)) hPresent

end Runs

end CallGuard.Session
