import CallGuard.Proofs.Breaker.InStep
import CallGuard.Proofs.Breaker.OpenPeriod
import Mathlib.Data.Int.Order.Basic
import Mathlib.Data.List.Pairwise

/-!
# Onlookers

Somebody who only looks at a machine, at its state or its counts, still changes it: timeouts take
effect that its users have not noticed yet. Two sessions are compared, of the same users at the
same instants, of which one is looked at. The one that is looked at is ahead of the other by at
most one timeout, and as the users' next call lets that timeout take effect in the other one too,
they notice nothing. Only the end of a fixed window does not bear this: the next window begins
when the last one is found to be over, so a look can move it.
-/

namespace CallGuard

/-- The state that a machine moves to, other than by a timeout. -/
def Signal.target? : Signal → Option State
  | .windowElapsed | .changed _ .halfOpen => none
  | .changed _ target => some target

namespace Machine

theorem isExpired_later {m : Machine} {now later : Instant} (hLater : now ≤ later)
    (hExpired : m.isExpired now = true) : m.isExpired later = true := by
  unfold isExpired at hExpired ⊢
  cases hExpiry : m.expiry with
  | none => simp [hExpiry] at hExpired
  | some ending =>
    have hPast : ending ≤ now := by simpa [hExpiry] using hExpired
    simpa using Int.le_trans hPast hLater

theorem release_expiry (m : Machine) : m.release.expiry = m.expiry := by
  unfold release
  split <;> rfl

theorem Books.keeps_or_renews {s : BreakerSettings} {now : Instant} {m m' : Machine} {o : Outcome}
    {signals : List Signal} (hBooks : Books s now m o m' signals) :
    m'.state = m.state ∧ m'.expiry = m.expiry ∨ ∃ target, m' = m.renew s now target := by
  cases hBooks with
  | unheard | succeeds | fails | probeSucceeds => exact .inl ⟨rfl, rfl⟩
  | trips | recovers | probeFails => exact .inr ⟨_, rfl⟩

end Machine

namespace Session

inductive Look where
  | state
  | counts
deriving DecidableEq

def Look.action : Look → Action
  | state => .readState
  | counts => .readCounts

inductive Watched where
  | own (step : Step)
  | look (time : Instant) (look : Look)
deriving DecidableEq

namespace Watched

def step : Watched → Step
  | own x => x
  | look time l => ⟨time, l.action⟩

def own? : Watched → Option Step
  | own x => some x
  | look _ _ => none

end Watched

def ownSteps (items : List Watched) : List Step := items.filterMap Watched.own?

def ownReports (s : BreakerSettings) (w : Session) : List Watched → List Report
  | [] => []
  | .own x :: rest => (w.perform s x).2 :: ownReports s (w.perform s x).1 rest
  | .look time l :: rest => ownReports s (w.perform s ⟨time, l.action⟩).1 rest

/-- A report without the timeouts that took effect in the step. -/
structure Sight where
  answer : Answer
  targets : List State
deriving DecidableEq

def Report.sight (report : Report) : Sight :=
  ⟨report.answer, report.signals.filterMap Signal.target?⟩

/-- A step that ends a call which is not in flight is none. -/
def isIdle (x : Step) (w : Session) : Bool :=
  match x.action with
  | .settle k _ => (w.call? k).isNone
  | _ => false

/-- The instant at which a look began the present window, as long as no user has noticed that the
one before it is over. -/
def begunAfter (s : BreakerSettings) (item : Watched) (w : Session) (begun : Option Instant) :
    Option Instant :=
  match item with
  | .own x => if w.isIdle x then begun else none
  | .look time l =>
    if .windowElapsed ∈ (w.perform s ⟨time, l.action⟩).2.signals then some time else begun

/-- A step of the users at which the window is where it would be without the looks. -/
def InPhase (item : Watched) (w : Session) (begun : Option Instant) : Prop :=
  match item with
  | .own x => w.isIdle x = true ∨ x.action = .reset ∨
      ∀ time ∈ begun, time = x.time ∨ w.machine.isExpired x.time = true
  | .look _ _ => True

instance (item : Watched) (w : Session) (begun : Option Instant) :
    Decidable (InPhase item w begun) :=
  match item with
  | .own x => inferInstanceAs (Decidable (w.isIdle x = true ∨ x.action = .reset ∨
      ∀ time ∈ begun, time = x.time ∨ w.machine.isExpired x.time = true))
  | .look _ _ => .isTrue trivial

/-- No look moves a window in which a step of the users falls. -/
def Harmless (s : BreakerSettings) (w : Session) (begun : Option Instant) : List Watched → Prop
  | [] => True
  | item :: rest => InPhase item w begun ∧
      Harmless s (w.perform s item.step).1 (w.begunAfter s item begun) rest

instance decidableHarmless (s : BreakerSettings) (w : Session) (begun : Option Instant) :
    ∀ items, Decidable (Harmless s w begun items)
  | [] => .isTrue trivial
  | item :: rest => @instDecidableAnd (InPhase item w begun) _ inferInstance
      (decidableHarmless s (w.perform s item.step).1 (w.begunAfter s item begun) rest)

/-- No call lasts as long as it takes for 2^64 generations to begin. -/
def Timely (s : BreakerSettings) (w : Session) : List Step → Prop
  | [] => True
  | x :: rest => Recent x.action (w.refreshed s x.time) ∧ Timely s (w.perform s x).1 rest

section Steps

variable {s : BreakerSettings} {exact : Prop} {now : Instant} {w w' : Session}
  {begun : Option Instant}

theorem inOrder_cons {x : Step} {steps : List Step} :
    InOrder now (x :: steps) ↔ now ≤ x.time ∧ InOrder x.time steps :=
  List.pairwise_cons_cons_iff_of_trans

theorem signals_look (now : Instant) (l : Look) (w : Session) :
    (w.perform s ⟨now, l.action⟩).2.signals = w.elapsed s now := by
  cases l <;> rfl

theorem targets_elapses {r : Session} {signals : List Signal}
    (hElapses : Elapses s now w r signals) : signals.filterMap Signal.target? = [] := by
  cases hElapses <;> rfl

theorem Acts.isIdle {x : Step} {r : Session} {answer : Answer} {signals : List Signal}
    (hActs : Acts s now w x.action r answer signals) : w.isIdle x = false := by
  unfold Session.isIdle
  generalize x.action = a at hActs
  cases hActs with
  | refused | admitted | stateRead | countsRead => rfl
  | stale hCall | dropped hCall | booked hCall => simp [hCall]

theorem Performs.of_isIdle {x : Step} {report : Report} (hPerforms : Performs s x w w' report)
    (hIdle : w.isIdle x = true) : w' = w ∧ report = ⟨.silence, []⟩ := by
  cases hPerforms with
  | idle => exact ⟨rfl, rfl⟩
  | reset hReset => simp [Session.isIdle, hReset] at hIdle
  | acts hActs =>
    have hBusy : w.isIdle x = false := hActs.isIdle
    cases hBusy.symm.trans hIdle

theorem Performs.of_reset {x : Step} {report : Report} (hPerforms : Performs s x w w' report)
    (hReset : x.action = .reset) :
    w' = w.renewed s x.time .closed ∧ report =
      ⟨.silence, if w.machine.state = .closed then [] else [.changed w.machine.state .closed]⟩ := by
  cases hPerforms with
  | idle hIdle => cases hReset.symm.trans hIdle
  | reset => exact ⟨rfl, rfl⟩
  | acts hActs =>
    rw [hReset] at hActs
    cases hActs

theorem Performs.of_busy {x : Step} {report : Report} (hPerforms : Performs s x w w' report)
    (hBusy : w.isIdle x = false) (hNoReset : x.action ≠ .reset) :
    ∃ answer signals, Acts s x.time (w.refreshed s x.time) x.action w' answer signals ∧
      report = ⟨answer, w.elapsed s x.time ++ signals⟩ := by
  cases hPerforms with
  | idle hIdle hNone => simp [Session.isIdle, hIdle, hNone] at hBusy
  | reset hReset => exact absurd hReset hNoReset
  | acts hActs => exact ⟨_, _, hActs, rfl⟩

theorem ownSteps_own (steps : List Step) : ownSteps (steps.map .own) = steps := by
  rw [ownSteps, List.filterMap_map]
  exact List.filterMap_some

theorem ownReports_own (w : Session) (steps : List Step) :
    ownReports s w (steps.map .own) = reports s w steps := by
  induction steps generalizing w with
  | nil => rfl
  | cons x rest ih => exact congrArg _ (ih _)

theorem ownReports_append (w : Session) (earlier later : List Watched) :
    ownReports s w (earlier ++ later) =
      ownReports s w earlier ++ ownReports s (w.after s (earlier.map Watched.step)) later := by
  induction earlier generalizing w with
  | nil => rfl
  | cons item rest ih =>
    cases item with
    | own x => exact congrArg _ (ih _)
    | look => exact ih _

theorem timely_append {earlier later : List Step} :
    Timely s w (earlier ++ later) ↔ Timely s w earlier ∧ Timely s (w.after s earlier) later := by
  induction earlier generalizing w with
  | nil => exact (iff_of_eq (true_and _)).symm
  | cons x rest ih => exact (and_congr_right fun _ => ih).trans and_assoc.symm

theorem timely_of_epoch_lt {steps : List Step} (hEpoch : (w.after s steps).epoch < 2 ^ 64) :
    Timely s w steps := by
  induction steps generalizing w with
  | nil => trivial
  | cons x rest ih =>
    refine ⟨?_, ih hEpoch⟩
    intro k outcome c hAction hCall
    have hRefreshed := (performs_perform s x w).refreshed_epoch_le hAction hCall
    have hRest := epoch_le_after (s := s) (w.perform s x).1 rest
    change ((w.perform s x).1.after s rest).epoch < 2 ^ 64 at hEpoch
    omega

def Windowless (w : Session) : Prop := w.machine.state = .closed → w.machine.expiry = none

namespace Windowless

theorem renewed (hEndless : ∀ now, Machine.phaseEnd s now .closed = none) (state : State) :
    Windowless (w.renewed s now state) := by
  intro hClosed
  change state = .closed at hClosed
  rw [hClosed]
  exact hEndless now

theorem elapses {r : Session} {signals : List Signal}
    (hEndless : ∀ now, Machine.phaseEnd s now .closed = none) (h : Windowless w)
    (hElapses : Elapses s now w r signals) : Windowless r := by
  cases hElapses with
  | still => exact h
  | window | probing => exact .renewed hEndless _

theorem acts {a : Action} {r : Session} {answer : Answer} {signals : List Signal}
    (hEndless : ∀ now, Machine.phaseEnd s now .closed = none) (h : Windowless w)
    (hActs : Acts s now w a r answer signals) : Windowless r := by
  have hState := w.machine.release_state
  have hExpiry := w.machine.release_expiry
  cases hActs with
  | refused | admitted | stale | stateRead | countsRead => exact h
  | dropped =>
    intro hClosed
    exact hExpiry.trans (h (hState.symm.trans hClosed))
  | booked _ _ hBooks =>
    intro hClosed
    rcases hBooks.keeps_or_renews with ⟨hSame, hKept⟩ | ⟨target, rfl⟩
    · exact (hKept.trans hExpiry).trans (h ((hSame.trans hState).symm.trans hClosed))
    · exact renewed (w := { w with machine := w.machine.release }) hEndless target hClosed

theorem performs {x : Step} {report : Report}
    (hEndless : ∀ now, Machine.phaseEnd s now .closed = none) (h : Windowless w)
    (hPerforms : Performs s x w w' report) : Windowless w' := by
  cases hPerforms with
  | idle => exact h
  | reset => exact .renewed hEndless .closed
  | acts hActs => exact (h.elapses hEndless (elapses_refreshed s x.time w)).acts hEndless hActs

/-- Without fixed windows there is nothing that a look could move. -/
theorem harmless (hEndless : ∀ now, Machine.phaseEnd s now .closed = none) (h : Windowless w)
    (items : List Watched) : Harmless s w none items := by
  induction items generalizing w with
  | nil => trivial
  | cons item rest ih =>
    have hNext := h.performs hEndless (performs_perform s item.step w)
    cases item with
    | own x =>
      have hBegun : w.begunAfter s (.own x) none = none := ite_self none
      refine ⟨.inr (.inr ?_), ?_⟩
      · intro time hTime
        cases hTime
      · rw [hBegun]
        exact ih hNext
    | look time l =>
      have hBegun : w.begunAfter s (.look time l) none = none := by
        rw [begunAfter, signals_look]
        have hElapses := elapses_refreshed s time w
        generalize w.refreshed s time = r, w.elapsed s time = signals at hElapses
        cases hElapses with
        | still | probing => rfl
        | window hExpired hClosed => simp [Machine.isExpired, h hClosed] at hExpired
      refine ⟨trivial, ?_⟩
      rw [hBegun]
      exact ih hNext

end Windowless

/-- How a session is related to itself without the looks. A timeout may have taken effect in it
that has passed in the other one without effect; where that began a fixed window, it did so at
the instant `begun`. -/
inductive Watching (s : BreakerSettings) (exact : Prop) (now : Instant) (w w' : Session) :
    Option Instant → Prop where
  | inStep {begun : Option Instant} : InStep exact now w w' → Watching s exact now w w' begun
  | probing {begun : Option Instant} : w.machine.isExpired now = true →
      w.machine.state = .opened → InStep exact now (w.renewed s now .halfOpen) w' →
      Watching s exact now w w' begun
  | window {time : Instant} : ¬ exact → time ≤ now → w.machine.isExpired time = true →
      w.machine.state = .closed → InStep exact now (w.renewed s time .closed) w' →
      Watching s exact now w w' (some time)

namespace Watching

theorem later {later : Instant} (h : Watching s exact now w w' begun) (hLater : now ≤ later) :
    Watching s exact later w w' begun := by
  cases h with
  | inStep hStep => exact .inStep (hStep.later hLater)
  | probing hExpired hOpened hStep =>
    exact .probing (Machine.isExpired_later hLater hExpired) hOpened (hStep.later hLater)
  | window hInexact hBegun hExpired hClosed hStep =>
    exact .window hInexact (Int.le_trans hBegun hLater) hExpired hClosed (hStep.later hLater)

theorem kindred (h : Watching s exact now w w' begun) : Kindred w w' := by
  cases h with
  | inStep hStep => exact hStep.kindred
  | probing _ _ hStep | window _ _ _ _ hStep => exact .of_renewed hStep.kindred

theorem closed_iff (h : Watching s exact now w w' begun) :
    w'.machine.state = .closed ↔ w.machine.state = .closed := by
  cases h with
  | inStep hStep => rw [hStep.machine.state]
  | probing _ hOpened hStep =>
    rw [hStep.machine.state, hOpened]
    simp
  | window _ _ _ hClosed hStep =>
    rw [hStep.machine.state, hClosed]
    simp

theorem isIdle (h : Watching s exact now w w' begun) (x : Step) : w'.isIdle x = w.isIdle x := by
  unfold Session.isIdle
  split
  · next k _ _ =>
    rw [← Option.not_isSome, ← Option.not_isSome, h.kindred.inFlight k]
  · rfl

/-- What the timeouts that have passed leave of two sessions is in step. -/
theorem refreshed (hSound : Sound w) (hSound' : Sound w') (h : Watching s exact now w w' begun)
    (hPhase : ∀ time ∈ begun, time = now ∨ w'.machine.isExpired now = true) :
    InStep exact now (w.refreshed s now) (w'.refreshed s now) := by
  have hElapses := elapses_refreshed s now w
  have hElapses' := elapses_refreshed s now w'
  generalize w.refreshed s now = r, w.elapsed s now = signals, w'.refreshed s now = r',
    w'.elapsed s now = signals' at hElapses hElapses' ⊢
  cases h with
  | inStep hStep => exact (hStep.elapses hSound hSound' hElapses hElapses').1
  | probing hExpired hOpened hStep =>
    have hHalf := hStep.machine.state
    cases hElapses with
    | still hStill => simp_all
    | window _ hClosed => cases hOpened.symm.trans hClosed
    | probing =>
      cases hElapses' with
      | still => exact hStep
      | window _ hState | probing _ hState => cases hHalf.symm.trans hState
  | @window time hInexact hBegun hExpired hClosed hStep =>
    have hClosed' := hStep.machine.state
    cases hElapses with
    | still hStill => simp_all [Machine.isExpired_later hBegun hExpired]
    | probing _ hOpened => cases hClosed.symm.trans hOpened
    | window =>
      cases hElapses' with
      | probing _ hOpened => cases hClosed'.symm.trans hOpened
      | window =>
        -- The window that a look began is over too: now both sessions begin one.
        exact .renewed hSound hSound' (.of_renewed hStep.kindred)
          (fun hExact => absurd hExact hInexact) now .closed
      | still hStill =>
        -- It is not over: then it began just now, as it does in the other session.
        rcases hPhase time rfl with rfl | hOver
        · exact hStep
        · simp_all

/-- A step of the users is seen alike in both sessions. -/
theorem own {x : Step} {v v' : Session} {report report' : Report} (hSound : Sound w)
    (hSound' : Sound w') (h : Watching s exact x.time w w' begun)
    (hPhase : InPhase (.own x) w' begun) (hNoReset : exact → x.action ≠ .reset)
    (hRecent : exact ∨
      Recent x.action (w.refreshed s x.time) ∧ Recent x.action (w'.refreshed s x.time))
    (hPerforms : Performs s x w v report) (hPerforms' : Performs s x w' v' report') :
    Watching s exact x.time v v' (w'.begunAfter s (.own x) begun) ∧
      report'.sight = report.sight := by
  have hIdle := h.isIdle x
  by_cases hReset : x.action = .reset
  · obtain ⟨rfl, rfl⟩ := hPerforms.of_reset hReset
    obtain ⟨rfl, rfl⟩ := hPerforms'.of_reset hReset
    refine ⟨.inStep (.renewed hSound hSound' h.kindred ?_ x.time .closed), ?_⟩
    · exact fun hExact => absurd hReset (hNoReset hExact)
    · simp only [Report.sight, h.closed_iff]
      split <;> rfl
  · cases hBusy : w.isIdle x with
    | true =>
      rw [hBusy] at hIdle
      obtain ⟨rfl, rfl⟩ := hPerforms.of_isIdle hBusy
      obtain ⟨rfl, rfl⟩ := hPerforms'.of_isIdle hIdle
      rw [begunAfter, if_pos hIdle]
      exact ⟨h, rfl⟩
    | false =>
      rw [hBusy] at hIdle
      obtain ⟨answer, signals, hActs, rfl⟩ := hPerforms.of_busy hBusy hReset
      obtain ⟨answer', signals', hActs', rfl⟩ := hPerforms'.of_busy hIdle hReset
      have hPlaced : ∀ time ∈ begun, time = x.time ∨ w'.machine.isExpired x.time = true := by
        rcases hPhase with hIdle' | hReset' | hPlaced
        · cases hIdle.symm.trans hIdle'
        · exact absurd hReset' hReset
        · exact hPlaced
      have hStep := h.refreshed (s := s) hSound hSound' hPlaced
      have hAgree := hStep.agree hSound.refreshed hSound'.refreshed hRecent
      obtain ⟨hNext, rfl, rfl⟩ :=
        hStep.acts hSound.refreshed hSound'.refreshed hAgree hActs hActs'
      refine ⟨.inStep hNext, ?_⟩
      simp only [Report.sight, List.filterMap_append,
        targets_elapses (elapses_refreshed s x.time _)]

theorem seen (h : Watching s exact now w w' begun) :
    Watching s exact now w
      { w' with machine := { w'.machine with counter := w'.machine.counter.expire now } } begun := by
  have hSeen : ∀ {u : Session}, InStep exact now u w' → InStep exact now u
      { w' with machine := { w'.machine with counter := w'.machine.counter.expire now } } := by
    intro u hStep
    have hCounter := (Window.expire_expire (Int.le_refl now) _).trans hStep.machine.counter
    exact { hStep with machine := { hStep.machine with counter := hCounter } }
  cases h with
  | inStep hStep => exact .inStep (hSeen hStep)
  | probing hExpired hOpened hStep => exact .probing hExpired hOpened (hSeen hStep)
  | window hInexact hBegun hExpired hClosed hStep =>
    exact .window hInexact hBegun hExpired hClosed (hSeen hStep)

theorem elapses {r' : Session} {signals : List Signal} (hSound : Sound w) (hSound' : Sound w')
    (h : Watching s exact now w w' begun) (hWindowless : exact → Windowless w)
    (hElapses' : Elapses s now w' r' signals) :
    Watching s exact now w r' (if .windowElapsed ∈ signals then some now else begun) := by
  cases hElapses' with
  | still => exact h
  | probing hExpired' hOpened' =>
    cases h with
    | inStep hStep =>
      have hExpired := (hStep.machine.isExpired now).symm.trans hExpired'
      have hOpened := hStep.machine.state.symm.trans hOpened'
      exact .probing hExpired hOpened
        (.renewed hSound hSound' hStep.kindred hStep.numbers now .halfOpen)
    | probing _ _ hStep | window _ _ _ _ hStep =>
      cases hOpened'.symm.trans hStep.machine.state
  | window hExpired' hClosed' =>
    have hRenewed := h.kindred
    rw [if_pos List.mem_cons_self]
    cases h with
    | probing _ _ hStep => cases hClosed'.symm.trans hStep.machine.state
    | inStep hStep =>
      have hExpired := (hStep.machine.isExpired now).symm.trans hExpired'
      have hClosed := hStep.machine.state.symm.trans hClosed'
      have hInexact : ¬ exact := by
        intro hExact
        simp [Machine.isExpired, hWindowless hExact hClosed] at hExpired
      exact .window hInexact (Int.le_refl now) hExpired hClosed
        (.renewed hSound hSound' hRenewed (fun hExact => absurd hExact hInexact) now .closed)
    | window hInexact hBegun hExpired hClosed hStep =>
      exact .window hInexact (Int.le_refl now) (Machine.isExpired_later hBegun hExpired) hClosed
        (.renewed hSound hSound' hRenewed (fun hExact => absurd hExact hInexact) now .closed)

/-- A look takes a session ahead of the other one by a timeout, or leaves it where it was. -/
theorem look (hSound : Sound w) (hSound' : Sound w') (h : Watching s exact now w w' begun)
    (hWindowless : exact → Windowless w) (l : Look) :
    Watching s exact now w (w'.perform s ⟨now, l.action⟩).1
      (w'.begunAfter s (.look now l) begun) := by
  have hRefreshed := h.elapses hSound hSound' hWindowless (elapses_refreshed s now w')
  rw [begunAfter, signals_look]
  cases l with
  | state => exact hRefreshed
  | counts => exact hRefreshed.seen

/-- The users see a whole session alike whether it is looked at or not. -/
theorem run {items : List Watched} (hSound : Sound w) (hSound' : Sound w')
    (h : Watching s exact now w w' begun) (hWindowless : exact → Windowless w)
    (hEndless : exact → ∀ now, Machine.phaseEnd s now .closed = none)
    (hNoReset : exact → ∀ x ∈ ownSteps items, x.action ≠ .reset)
    (hTimely : exact ∨ Timely s w (ownSteps items) ∧ Timely s w' (items.map Watched.step))
    (hOrder : InOrder now (items.map Watched.step)) (hHarmless : Harmless s w' begun items) :
    (ownReports s w' items).map Report.sight =
      (reports s w (ownSteps items)).map Report.sight := by
  -- Along the items the session without looks falls behind and catches up; `Watching` carries it.
  induction items generalizing now w w' begun with
  | nil => rfl
  | cons item rest ih =>
    obtain ⟨hNow, hRest⟩ := inOrder_cons.mp hOrder
    obtain ⟨hPhase, hLater⟩ := hHarmless
    have hPerforms' := performs_perform s item.step w'
    have hSoundNext' := hSound'.performs hPerforms'
    cases item with
    | own x =>
      have hPerforms := performs_perform s x w
      have hRecent := hTimely.imp_right fun hBoth => And.intro hBoth.1.1 hBoth.2.1
      obtain ⟨hNext, hSight⟩ := (h.later hNow).own hSound hSound' hPhase
        (fun hExact => hNoReset hExact x List.mem_cons_self) hRecent hPerforms hPerforms'
      refine congrArg₂ List.cons hSight ?_
      refine ih (hSound.performs hPerforms) hSoundNext' hNext ?_ ?_ ?_ hRest hLater
      · exact fun hExact => (hWindowless hExact).performs (hEndless hExact) hPerforms
      · exact fun hExact y hMem => hNoReset hExact y (List.mem_cons_of_mem x hMem)
      · exact hTimely.imp_right fun hBoth => And.intro hBoth.1.2 hBoth.2.2
    | look time l =>
      have hNext := (h.later hNow).look hSound hSound' hWindowless l
      refine ih hSound hSoundNext' hNext hWindowless hNoReset ?_ hRest hLater
      exact hTimely.imp_right fun hBoth => And.intro hBoth.1 hBoth.2.2

end Watching

end Steps

end Session

end CallGuard
