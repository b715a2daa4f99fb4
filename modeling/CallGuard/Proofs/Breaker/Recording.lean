import CallGuard.Proofs.Breaker.Generations
import CallGuard.Proofs.Counting.Lookback

/-!
# What a machine has recorded

The window of a machine holds the history of the present generation: its admissions and the
outcomes of its calls, in the order in which they happened. Nothing of earlier generations is
left in it, and no end of an earlier call gets into it.
-/

namespace CallGuard.Session

def Entry.event? (epoch : Nat) (e : Entry) : Option (Instant × Event) :=
  if e.epoch = epoch then e.mark.event?.map (e.time, ·) else none

/-- What happened to the calls of the present generation, as a window counts it. -/
def history (w : Session) : List (Instant × Event) := w.log.filterMap (Entry.event? w.epoch)

def admissions (w : Session) : Nat := w.marks w.epoch (· == .admitted)

section Histories

variable {now : Instant} {w : Session}

theorem history_eq_nil_of_renewed {s : BreakerSettings} (hSound : Sound w) (state : State) :
    (w.renewed s now state).history = [] := by
  apply List.filterMap_eq_nil_iff.mpr
  intro e hMem
  have hLe := hSound.entry_le e hMem
  exact if_neg (by rw [renewed_epoch]; omega)

theorem history_append {w w' : Session} {entry : Entry} (hEpoch : w'.epoch = w.epoch)
    (hLog : w'.log = w.log ++ [entry]) :
    w'.history = w.history ++ (entry.event? w.epoch).toList := by
  rw [history, hEpoch, hLog, List.filterMap_append, history]
  cases hEvent : entry.event? w.epoch <;> simp [hEvent]

theorem history_admitted (w : Session) :
    (w.admitted now).history = w.history ++ [(now, .request)] := by
  have hAppend : (w.admitted now).history =
      w.history ++ (Entry.event? w.epoch ⟨now, w.epoch, .admitted⟩).toList := history_append rfl rfl
  simpa [Entry.event?, Mark.event?] using hAppend

theorem history_booked (now : Instant) {w : Session} {c : Call} (hCurrent : c.epoch = w.epoch)
    (k : Nat) (o : Outcome) :
    (w.ended now k c (some o)).history = w.history ++ [(now, o.event)] := by
  have hAppend : (w.ended now k c (some o)).history =
      w.history ++ (Entry.event? w.epoch ⟨now, c.epoch, .ended (some o)⟩).toList :=
    history_append rfl rfl
  simpa [Entry.event?, Mark.event?, hCurrent] using hAppend

/-- The end of an earlier call, or one without an outcome, is not recorded. -/
theorem history_unbooked (now : Instant) {w : Session} {c : Call} {outcome : Option Outcome}
    (hUnbooked : c.epoch ≠ w.epoch ∨ outcome = none) (k : Nat) :
    (w.ended now k c outcome).history = w.history := by
  have hAppend : (w.ended now k c outcome).history =
      w.history ++ (Entry.event? w.epoch ⟨now, c.epoch, .ended outcome⟩).toList :=
    history_append rfl rfl
  rcases hUnbooked with hStale | rfl
  · simpa [Entry.event?, hStale] using hAppend
  · simpa [Entry.event?, Mark.event?] using hAppend

@[simp] theorem admissions_ended (w : Session) (k : Nat) (c : Call) (outcome : Option Outcome) :
    (w.ended now k c outcome).admissions = w.admissions := by
  change (w.ended now k c outcome).marks w.epoch _ = _
  rw [marks_ended]
  simp [admissions]

theorem admissions_admitted (w : Session) :
    (w.admitted now).admissions = w.admissions + 1 := by
  change (w.admitted now).marks w.epoch _ = _
  rw [marks_admitted]
  simp [admissions]

theorem count_history (w : Session) (e : Event) :
    (w.history.map Prod.snd).count e = w.marks w.epoch fun m => m.event? == some e := by
  simp only [history, Entry.event?, marks, List.count, List.countP_map, List.countP_filterMap]
  apply List.countP_congr
  intro entry _
  by_cases hEpoch : entry.epoch = w.epoch
  · cases entry.mark.event? <;> simp [hEpoch]
  · simp [hEpoch]

theorem Sound.count_history_le (hSound : Sound w) (e : Event) :
    (w.history.map Prod.snd).count e ≤ w.admissions := by
  have hConserved := hSound.conserved w.epoch
  have hKind : (w.history.map Prod.snd).count e ≤ w.marks w.epoch (· == .admitted) ∨
      (w.history.map Prod.snd).count e ≤ w.marks w.epoch (· != .admitted) := by
    rw [count_history]
    cases e with
    | request =>
      refine .inl (List.countP_mono_left fun entry _ hEntry => ?_)
      cases hMark : entry.mark with
      | admitted => simp_all [Mark.event?]
      | ended outcome => cases outcome with
        | none => simp_all [Mark.event?]
        | some o => cases o <;> simp_all [Mark.event?, Outcome.event]
    | success | failure =>
      refine .inr (List.countP_mono_left fun entry _ hEntry => ?_)
      cases hMark : entry.mark with
      | admitted => simp_all [Mark.event?]
      | ended outcome => simp_all
  unfold admissions
  omega

theorem Sound.not_current {k : Nat} {c : Call} (hSound : Sound w) (hNone : w.admissions = 0)
    (hCall : w.call? k = some c) : c.epoch ≠ w.epoch := by
  intro hCurrent
  have hConserved := hSound.conserved w.epoch
  have hPos : 0 < w.inFlight (·.epoch == w.epoch) :=
    List.countP_pos_iff.mpr ⟨some c, mem_of_call? hCall, by simpa using hCurrent⟩
  unfold admissions at hNone
  omega

end Histories

/-- What becomes of what is on record: it stays, there is one event more, or it begins anew. What
has expired may be dropped. -/
inductive Records (s : BreakerSettings) (now : Instant) (w : Session) : Session → Prop where
  | unchanged {w' : Session} :
      (w'.machine.counter = w.machine.counter ∨
        w'.machine.counter = w.machine.counter.expire now) →
      w'.history = w.history → w'.machine.state = w.machine.state →
      w'.admissions = w.admissions → Records s now w w'
  | extended {w' : Session} {e : Event} :
      (w'.machine.counter = w.machine.counter.record now e ∨
        w'.machine.counter = (w.machine.counter.record now e).expire now) →
      w'.history = w.history ++ [(now, e)] → w'.machine.state ≠ .opened → Records s now w w'
  | renewed {r : Session} {state : State} : Sound r →
      r.machine.counter.clear = w.machine.counter.clear →
      Records s now w (r.renewed s now state)

section Records

variable {s : BreakerSettings} {now : Instant} {w w' : Session} {k : Nat} {c : Call} {o : Outcome}
variable {signals : List Signal}

/-- It matters here that an open machine has admitted no call in its generation: no call of its
own can come to an end unheard. -/
theorem records_booked {m : Machine} (hSound : Sound w)
    (hIdle : w.machine.state = .opened → w.admissions = 0) (hCall : w.call? k = some c)
    (hCurrent : c.epoch = w.epoch) (hBooks : Machine.Books s now w.machine.release o m signals) :
    Records s now w
      { w.ended now k c (some o) with machine := m, epoch := w.epoch + signals.length } := by
  have hHistory := history_booked now hCurrent k o
  cases hBooks with
  | unheard hState =>
    rw [Machine.release_state] at hState
    exact absurd hCurrent (hSound.not_current (hIdle hState) hCall)
  | succeeds hState hEvent | probeSucceeds hState hEvent =>
    rw [hEvent] at hHistory
    exact .extended (.inl (by simp)) hHistory (by simp_all)
  | fails hState hEvent =>
    rw [hEvent] at hHistory
    exact .extended (.inr (by simp)) hHistory (by simp_all)
  | trips | recovers | probeFails =>
    rw [Machine.renew_release]
    exact .renewed (hSound.ended hCall (some o)) rfl

theorem Acts.records {a : Action} {answer : Answer} (hSound : Sound w) (hEpoch : w.epoch < 2 ^ 64)
    (hIdle : w.machine.state = .opened → w.admissions = 0)
    (hActs : Acts s now w a w' answer signals) : Records s now w w' := by
  cases hActs with
  | refused => exact .unchanged (.inl rfl) rfl rfl rfl
  | admitted hAdmits =>
    refine .extended (.inl rfl) (history_admitted w) ?_
    change w.machine.state ≠ .opened
    rcases (Machine.rejection?_eq_none_iff s w.machine).mp hAdmits with hState | ⟨hState, _⟩ <;>
      simp [hState]
  | stale hCall hStale =>
    have hNe := (not_congr (hSound.current_iff hEpoch hCall)).mp hStale
    exact .unchanged (.inl rfl) (history_unbooked now (.inl hNe) _) rfl (admissions_ended w _ _ _)
  | @dropped k c hCall =>
    have hHistory : (w.ended now k c none).history = w.history :=
      history_unbooked now (.inr rfl) k
    exact .unchanged (.inl w.machine.release_counter) hHistory w.machine.release_state
      (admissions_ended w k c none)
  | booked hCall hCurrent hBooks =>
    rw [hSound.current_iff hEpoch hCall] at hCurrent
    exact records_booked hSound hIdle hCall hCurrent hBooks
  | stateRead => exact .unchanged (.inl rfl) rfl rfl rfl
  | countsRead => exact .unchanged (.inr rfl) rfl rfl rfl

end Records

structure Recorded (s : BreakerSettings) (created now : Instant) (w : Session) : Prop where
  window : w.machine.counter.clear = Window.create s.closedWindow s.bucketPeriod created
  holds : w.machine.counter.Holds w.history now
  sorted : w.history.Pairwise fun x y => x.1 ≤ y.1
  past : ∀ x ∈ w.history, x.1 ≤ now
  /-- An open machine has admitted no call in its generation. -/
  idle : w.machine.state = .opened → w.admissions = 0

namespace Recorded

variable {s : BreakerSettings} {created now : Instant} {w : Session}

theorem create (s : BreakerSettings) (created : Instant) :
    Recorded s created created (create s created) := by
  have hClear : (Window.create s.closedWindow s.bucketPeriod created).clear =
      Window.create s.closedWindow s.bucketPeriod created := by
    unfold Window.create
    split <;> rfl
  constructor
  · exact hClear
  · have hHolds := Window.Holds.clear (Window.create s.closedWindow s.bucketPeriod created) created
    rw [hClear] at hHolds
    exact hHolds
  · exact .nil
  · exact fun x hMem => absurd hMem List.not_mem_nil
  · exact fun _ => rfl

theorem later {later : Instant} (h : Recorded s created now w) (hLater : now ≤ later) :
    Recorded s created later w where
  window := h.window
  holds := h.holds.later hLater
  sorted := h.sorted
  past x hMem := Int.le_trans (h.past x hMem) hLater
  idle := h.idle

theorem renewed (hSound : Sound w)
    (hWindow : w.machine.counter.clear = Window.create s.closedWindow s.bucketPeriod created)
    (now : Instant) (state : State) : Recorded s created now (w.renewed s now state) := by
  have hHistory : (w.renewed s now state).history = [] := history_eq_nil_of_renewed hSound state
  constructor
  · rw [renewed_machine, Machine.renew_counter, Window.clear_clear, hWindow]
  · rw [hHistory]
    exact .clear _ _
  · rw [hHistory]
    exact .nil
  · rw [hHistory]
    exact fun x hMem => absurd hMem List.not_mem_nil
  · exact fun _ => hSound.marks_later (Nat.lt_succ_self w.epoch) (· == .admitted)

theorem sorted_append (h : Recorded s created now w) (e : Event) :
    (w.history ++ [(now, e)]).Pairwise fun x y => x.1 ≤ y.1 := by
  refine List.pairwise_append.mpr ⟨h.sorted, List.pairwise_singleton _ _, fun x hMem y hNew => ?_⟩
  cases List.mem_singleton.mp hNew
  exact h.past x hMem

/-- What was recorded stays so, whatever becomes of it. -/
theorem records {w' : Session} (h : Recorded s created now w) (hRecords : Records s now w w') :
    Recorded s created now w' := by
  cases hRecords with
  | unchanged hCounter hHistory hState hAdmissions =>
    constructor
    · rcases hCounter with hCounter | hCounter
      · rw [hCounter, h.window]
      · rw [hCounter, Window.clear_expire, h.window]
    · rw [hHistory]
      rcases hCounter with hCounter | hCounter
      · rw [hCounter]
        exact h.holds
      · rw [hCounter]
        exact h.holds.expire
    · rw [hHistory]
      exact h.sorted
    · rw [hHistory]
      exact h.past
    · rw [hState, hAdmissions]
      exact h.idle
  | @extended _ e hCounter hHistory hState =>
    have hHolds := h.holds.record e
    constructor
    · rcases hCounter with hCounter | hCounter
      · rw [hCounter, Window.clear_record, h.window]
      · rw [hCounter, Window.clear_expire, Window.clear_record, h.window]
    · rw [hHistory]
      rcases hCounter with hCounter | hCounter
      · rw [hCounter]
        exact hHolds
      · rw [hCounter]
        exact hHolds.expire
    · rw [hHistory]
      exact h.sorted_append e
    · rw [hHistory]
      intro x hMem
      rcases List.mem_append.mp hMem with hOld | hNew
      · exact h.past x hOld
      · cases List.mem_singleton.mp hNew
        exact Int.le_refl _
    · exact fun hOpened => absurd hOpened hState
  | renewed hSound hClear => exact .renewed hSound (hClear.trans h.window) now _

theorem isRolling_eq (h : Recorded s created now w) :
    w.machine.counter.isRolling = s.isRolling := by
  have hClear : w.machine.counter.clear.isRolling = w.machine.counter.isRolling := by
    cases w.machine.counter <;> rfl
  rw [← hClear, h.window, BreakerSettings.window_create]
  cases s.isRolling <;> rfl

theorem booked {k : Nat} {c : Call} {o : Outcome} {m : Machine} {signals : List Signal}
    (h : Recorded s created now w) (hSound : Sound w) (hCall : w.call? k = some c)
    (hCurrent : c.epoch = w.epoch) (hBooks : Machine.Books s now w.machine.release o m signals) :
    Recorded s created now
      { w.ended now k c (some o) with machine := m, epoch := w.epoch + signals.length } :=
  h.records (records_booked hSound h.idle hCall hCurrent hBooks)

theorem acts {a : Action} {r r' : Session} {answer : Answer} {signals : List Signal}
    (hSound : Sound r) (hEpoch : r.epoch < 2 ^ 64) (h : Recorded s created now r)
    (hActs : Acts s now r a r' answer signals) : Recorded s created now r' :=
  h.records (hActs.records hSound hEpoch h.idle)

end Recorded

end CallGuard.Session
