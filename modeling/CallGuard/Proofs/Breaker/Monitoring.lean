import CallGuard.Proofs.Breaker.Onlookers

/-!
# Monitoring

A machine without a fixed window can be looked at as often as one likes: its users see the same
as if nobody looked, unless a call lasts until the number of its generation comes round. With a
fixed window that is so only as long as no look moves a window in which they act.
-/

namespace CallGuard.Session

section Calling

variable {s : BreakerSettings} {now : Instant} {w w' : Session} {α : Type}
  (classifier : Classifier) (others : Bystanders) (operation : Operation α)

theorem callAmong_result_of_admitted (hAdmitted : (w.start s now).2.answer = .admitted) :
    ((Breaker.stateful s classifier w.machine).callAmong others now operation).result =
      (operation now).1.mapError .operation := by
  unfold start at hAdmitted
  rcases hEnter : w.machine.enter s now with ⟨entered | permit, m, signals⟩
  · rw [hEnter] at hAdmitted
    cases hAdmitted
  · simp only [Breaker.callAmong, Breaker.start, hEnter, Breaker.finish_result]

/-- What becomes of a call depends on the machine only in whether it is admitted. -/
theorem callAmong_eq_of_answer_eq (others' : Bystanders)
    (hAnswer : (w'.start s now).2.answer = (w.start s now).2.answer) :
    let watched := (Breaker.stateful s classifier w'.machine).callAmong others' now operation
    let alone := (Breaker.stateful s classifier w.machine).callAmong others now operation
    watched.result = alone.result ∧ watched.invoked = alone.invoked := by
  have hStart := start_answer s now w
  cases hRejection : (w.refreshed s now).machine.rejection? s with
  | some reason =>
    rw [hRejection] at hStart
    obtain ⟨hResult, hInvoked⟩ := callAmong_of_refused classifier others operation hStart
    obtain ⟨hResult', hInvoked'⟩ :=
      callAmong_of_refused classifier others' operation (hAnswer.trans hStart)
    exact ⟨hResult'.trans hResult.symm, hInvoked'.trans hInvoked.symm⟩
  | none =>
    rw [hRejection] at hStart
    have hStart' := hAnswer.trans hStart
    constructor
    · rw [callAmong_result_of_admitted classifier others operation hStart,
        callAmong_result_of_admitted classifier others' operation hStart']
    · rw [callAmong_of_admitted classifier others operation hStart,
        callAmong_of_admitted classifier others' operation hStart']

end Calling

/-- The users of a machine see what they would see if nobody looked at it, and by a look it moves
nowhere but where a timeout leads. -/
structure SeenAlike (s : BreakerSettings) (created : Instant) (items : List Watched) : Prop where
  sights : (ownReports s (create s created) items).map Report.sight =
    (reports s (create s created) (ownSteps items)).map Report.sight
  quiet : ∀ earlier time l later, items = earlier ++ .look time l :: later →
    ((run s created (earlier.map Watched.step)).perform s
      ⟨time, l.action⟩).2.signals.filterMap Signal.target? = []

structure Unnoticed (s : BreakerSettings) (created : Instant) (items : List Watched) : Prop
    extends SeenAlike s created items where
  calls : ∀ now, created ≤ now → (∀ item ∈ items, item.step.time ≤ now) →
    ∀ (α : Type) (classifier : Classifier) (others others' : Bystanders)
      (operation : Operation α),
    let watched := (Breaker.stateful s classifier
      (run s created (items.map Watched.step)).machine).callAmong others' now operation
    let alone := (Breaker.stateful s classifier
      (run s created (ownSteps items)).machine).callAmong others now operation
    watched.result = alone.result ∧ watched.invoked = alone.invoked

section Sights

variable {s : BreakerSettings} {created : Instant} {items : List Watched}

theorem SeenAlike.of_sights (hSights : (ownReports s (create s created) items).map Report.sight =
    (reports s (create s created) (ownSteps items)).map Report.sight) :
    SeenAlike s created items := by
  refine ⟨hSights, ?_⟩
  intro earlier time l later _
  rw [signals_look]
  exact targets_elapses (elapses_refreshed s time _)

theorem sights_eq (hUnending : s.closedWindow = none ∨ s.isRolling = true)
    (hOrder : InOrder created (items.map Watched.step))
    (hTimely : (∀ x ∈ ownSteps items, x.action ≠ .reset) ∨
      Timely s (create s created) (ownSteps items) ∧
        Timely s (create s created) (items.map Watched.step)) :
    (ownReports s (create s created) items).map Report.sight =
      (reports s (create s created) (ownSteps items)).map Report.sight := by
  have hSound := Sound.create (s := s) created
  have hEndless := Machine.phaseEnd_closed hUnending
  have hWindowless : Windowless (create s created) := fun _ => hEndless created
  exact Watching.run hSound hSound (.inStep (.refl _)) (fun _ => hWindowless)
    (fun _ => hEndless) id hTimely hOrder (hWindowless.harmless hEndless items)

end Sights

/-- Without a fixed window nobody notices that a machine is looked at. -/
theorem looks_unnoticed (s : BreakerSettings) (created : Instant) (items : List Watched)
    (hUnending : s.closedWindow = none ∨ s.isRolling = true)
    (hOrder : InOrder created (items.map Watched.step))
    (hTimely : (∀ x ∈ ownSteps items, x.action ≠ .reset) ∨
      Timely s (create s created) (ownSteps items) ∧
        Timely s (create s created) (items.map Watched.step)) :
    Unnoticed s created items := by
  constructor
  case toSeenAlike => exact .of_sights (sights_eq hUnending hOrder hTimely)
  case calls =>
    intro now hCreated hTimes α classifier others others' operation
    apply callAmong_eq_of_answer_eq
    -- The answer to the call is the last thing seen if it is started after all the rest.
    have hOwn : ownSteps (items ++ [.own ⟨now, .start⟩]) = ownSteps items ++ [⟨now, .start⟩] :=
      List.filterMap_append
    have hOrder' :
        InOrder created ((items ++ [Watched.own ⟨now, .start⟩]).map Watched.step) := by
      rw [List.map_append]
      refine inOrder_append_singleton.mpr ⟨hOrder, hCreated, ?_⟩
      exact List.forall_mem_map.mpr hTimes
    have hSights := sights_eq hUnending hOrder' ?_
    · rw [hOwn, ownReports_append, reports_append, List.map_append, List.map_append] at hSights
      have hLast := (List.append_inj' hSights rfl).2
      exact congrArg Sight.answer (List.singleton_inj.mp hLast)
    · rw [hOwn, List.map_append]
      rcases hTimely with hNoReset | ⟨hAlone, hWatched⟩
      · refine .inl (List.forall_mem_append.mpr ⟨hNoReset, ?_⟩)
        simp
      · have hStart : ∀ w : Session, Timely s w [⟨now, .start⟩] := by
          intro w
          refine And.intro ?_ trivial
          intro k outcome c hAction
          cases hAction
        exact .inr ⟨timely_append.mpr ⟨hAlone, hStart _⟩, timely_append.mpr ⟨hWatched, hStart _⟩⟩

def lookedBack : BreakerSettings :=
  { BreakerSettings.standard with
    closedWindowIntervalMs := 1000
    bucketPeriodMs := 100
    openTimeoutMs := 1000
    consecutiveFailureThreshold := 1 }

def lookedAt : List Watched :=
  [.look 0 .counts, .own ⟨0, .start⟩, .own ⟨0, .start⟩, .own ⟨0, .settle 0 (some .failure)⟩,
    .look 1000000000 .state, .own ⟨1100000000, .start⟩, .look 1200000000 .counts,
    .own ⟨1300000000, .settle 1 (some .failure)⟩, .own ⟨1300000000, .settle 2 (some .success)⟩,
    .look 2000000000 .counts, .own ⟨2000000000, .reset⟩, .own ⟨2500000000, .readCounts⟩]

theorem looks_unnoticed_lookedAt :
    (lookedBack.isRolling = true ∧ InOrder 0 (lookedAt.map Watched.step) ∧
        Timely lookedBack (create lookedBack 0) (ownSteps lookedAt) ∧
        Timely lookedBack (create lookedBack 0) (lookedAt.map Watched.step)) ∧
      Unnoticed lookedBack 0 lookedAt := by
  have hRolling : lookedBack.isRolling = true := by decide
  have hOrder : InOrder 0 (lookedAt.map Watched.step) := by decide
  have hAlone : Timely lookedBack (create lookedBack 0) (ownSteps lookedAt) :=
    timely_of_epoch_lt (by decide)
  have hWatched : Timely lookedBack (create lookedBack 0) (lookedAt.map Watched.step) :=
    timely_of_epoch_lt (by decide)
  exact ⟨⟨hRolling, hOrder, hAlone, hWatched⟩,
    looks_unnoticed lookedBack 0 lookedAt (.inr hRolling) hOrder (.inr ⟨hAlone, hWatched⟩)⟩

section Resets

variable (s : BreakerSettings) (now : Instant)

def renewedAs (generation : UInt64) (epoch : Nat) (w : Session) : Session :=
  { w with
    machine := { w.machine.renew s now .closed with generation := generation }
    epoch := epoch }

theorem renewed_renewedAs (generation : UInt64) (epoch : Nat) (w : Session) :
    (w.renewedAs s now generation epoch).renewed s now .closed =
      w.renewedAs s now (generation + 1) (epoch + 1) := by
  simp only [renewed, renewedAs, Machine.renew, Window.clear_clear]

/-- Many resets at one instant leave what one leaves, but for the number of the generation. -/
theorem after_resets (w : Session) (n : Nat) :
    w.after s (List.replicate (n + 1) ⟨now, .reset⟩) =
      w.renewedAs s now (w.machine.generation + UInt64.ofNat (n + 1)) (w.epoch + (n + 1)) := by
  have hReset : ∀ v : Session, v.after s [⟨now, .reset⟩] = v.renewed s now .closed :=
    fun v => ((performs_perform s ⟨now, .reset⟩ v).of_reset rfl).1
  induction n with
  | zero => exact hReset w
  | succ n ih =>
    have hNumber : UInt64.ofNat (n + 1 + 1) = UInt64.ofNat (n + 1) + 1 := UInt64.ofNat_add _ 1
    rw [List.replicate_succ', after_append, ih, hReset, renewed_renewedAs, hNumber,
      UInt64.add_assoc, Nat.add_assoc]

end Resets

def touchy : BreakerSettings :=
  { BreakerSettings.standard with openTimeoutMs := 1000, consecutiveFailureThreshold := 1 }

/-- The look begins the half-open generation. Without it the first reset ends the open one. -/
def openedAndSeen : List Watched :=
  [.own ⟨0, .start⟩, .own ⟨0, .start⟩, .own ⟨0, .settle 1 (some .failure)⟩,
    .look 1000000000 .state]

def resets (n : Nat) : List Step := List.replicate (n + 1) ⟨1000000000, .reset⟩

def lateFailure : List Step := [⟨1000000000, .settle 0 (some .failure)⟩, ⟨1000000000, .start⟩]

def comingRound (n : Nat) : List Watched := openedAndSeen ++ (resets n ++ lateFailure).map .own

theorem inOrder_comingRound (n : Nat) : InOrder 0 ((comingRound n).map Watched.step) := by
  have hTimes : ((comingRound n).map Watched.step).map Step.time =
      [0, 0, 0, 1000000000] ++ (List.replicate (n + 1) 1000000000 ++ [1000000000, 1000000000]) := by
    simp [comingRound, openedAndSeen, resets, lateFailure, Watched.step]
  rw [InOrder, hTimes]
  simp [List.pairwise_append, List.pairwise_replicate]

theorem reports_resets (w : Session) (n : Nat) :
    reports touchy w (resets n ++ lateFailure) =
      reports touchy w (resets n) ++
        reports touchy (w.renewedAs touchy 1000000000
          (w.machine.generation + UInt64.ofNat (n + 1)) (w.epoch + (n + 1))) lateFailure := by
  rw [reports_append, resets, after_resets]

/-- After 2^64 generations the number of the first one comes round, one reset earlier if somebody has
looked. Without the look, the call that is left from then fails as if it were new, and the machine
refuses the next call. -/
theorem not_answers_eq :
    ¬ ∀ (s : BreakerSettings) (created : Instant) (items : List Watched),
      s.closedWindow = none ∨ s.isRolling = true → InOrder created (items.map Watched.step) →
        (ownReports s (create s created) items).map Report.answer =
          (reports s (create s created) (ownSteps items)).map Report.answer := by
  intro hSame
  have hAnswers := hSame touchy 0 (comingRound (2 ^ 64 - 2)) (.inl (by decide))
    (inOrder_comingRound _)
  rw [comingRound, ownReports_append, ownReports_own, reports_resets, ownSteps,
    List.filterMap_append, ← ownSteps, ← ownSteps, ownSteps_own, reports_append, reports_resets,
    ← List.append_assoc, ← List.append_assoc] at hAnswers
  simp only [List.map_append] at hAnswers
  have hLate := (List.append_inj' hAnswers rfl).2
  exact absurd hLate (by decide)

/-- With a fixed window nobody notices looks that leave the users' windows where they are. -/
theorem looks_in_phase_unnoticed (s : BreakerSettings) (created : Instant) (items : List Watched)
    (hOrder : InOrder created (items.map Watched.step))
    (hTimely : Timely s (create s created) (ownSteps items) ∧
      Timely s (create s created) (items.map Watched.step))
    (hHarmless : Harmless s (create s created) none items) : SeenAlike s created items := by
  have hSound := Sound.create (s := s) created
  have hNever {p : Prop} : False → p := False.elim
  exact .of_sights (Watching.run hSound hSound (.inStep (.refl _)) hNever hNever hNever
    (.inr hTimely) hOrder hHarmless)

def phased : BreakerSettings :=
  { BreakerSettings.standard with
    closedWindowIntervalMs := 10000, consecutiveFailureThreshold := 2 }

def restedBetween : List Watched :=
  [.own ⟨0, .start⟩, .look 5000000000 .counts, .look 10000000000 .state,
    .own ⟨21000000000, .start⟩, .own ⟨21000000000, .settle 0 (some .failure)⟩,
    .look 21000000000 .counts, .own ⟨22000000000, .start⟩,
    .own ⟨22000000000, .settle 1 (some .failure)⟩, .look 23000000000 .state,
    .own ⟨24000000000, .settle 2 (some .failure)⟩]

theorem looks_in_phase_unnoticed_restedBetween :
    (InOrder 0 (restedBetween.map Watched.step) ∧
        (Timely phased (create phased 0) (ownSteps restedBetween) ∧
          Timely phased (create phased 0) (restedBetween.map Watched.step)) ∧
        Harmless phased (create phased 0) none restedBetween) ∧
      SeenAlike phased 0 restedBetween := by
  have hOrder : InOrder 0 (restedBetween.map Watched.step) := by decide
  have hAlone : Timely phased (create phased 0) (ownSteps restedBetween) :=
    timely_of_epoch_lt (by decide)
  have hWatched : Timely phased (create phased 0) (restedBetween.map Watched.step) :=
    timely_of_epoch_lt (by decide)
  have hHarmless : Harmless phased (create phased 0) none restedBetween := by decide
  exact ⟨⟨hOrder, ⟨hAlone, hWatched⟩, hHarmless⟩,
    looks_in_phase_unnoticed phased 0 restedBetween hOrder ⟨hAlone, hWatched⟩ hHarmless⟩

/-- A look at the end of the first window begins the next one, which ends between two failures.
Without the look it would begin with the first of them. -/
def movedWindow : List Watched :=
  [.look 10000000000 .state, .own ⟨15000000000, .start⟩,
    .own ⟨15000000000, .settle 0 (some .failure)⟩, .own ⟨21000000000, .start⟩,
    .own ⟨21000000000, .settle 1 (some .failure)⟩]

def Sight.verdict (sight : Sight) : Bool × Bool :=
  (sight.answer == .admitted, sight.targets.contains .opened)

theorem not_verdicts_eq_fixed :
    ¬ ∀ (s : BreakerSettings) (created : Instant) (items : List Watched),
      s.closedWindow.isSome = true → s.bucketPeriod = none →
        InOrder created (items.map Watched.step) →
          (ownReports s (create s created) items).map (Sight.verdict ∘ Report.sight) =
            (reports s (create s created) (ownSteps items)).map
              (Sight.verdict ∘ Report.sight) := by
  intro hSame
  have hVerdicts := hSame phased 0 movedWindow (by decide) (by decide) (by decide)
  exact absurd hVerdicts (by decide)

end CallGuard.Session
