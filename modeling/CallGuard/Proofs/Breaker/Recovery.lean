import CallGuard.Proofs.Breaker.ProbeBalance

/-!
# Half-open episodes

A half-open episode ends with the success that fills the quota or with the first failure, among
the calls that were admitted in it, and with nothing else short of a reset. So it lasts exactly
as long as its calls have come to fewer successes than the quota and to no failure.
-/

namespace CallGuard.Session

def eventsOf (epoch : Nat) (e : Event) (w : Session) : Nat :=
  w.marks epoch fun m => m.event? == some e

def dropsOf (epoch : Nat) (w : Session) : Nat := w.marks epoch (· == .ended none)

variable {s : BreakerSettings} {now : Instant} {w : Session} {e : Nat}

section Ledger

/-- The calls of an epoch that have not come to an outcome are dropped or in flight. -/
theorem Sound.eventsOf_request (h : Sound w) (e : Nat) :
    w.eventsOf e .request = w.eventsOf e .success + w.eventsOf e .failure + w.dropsOf e +
      w.inFlight (·.epoch == e) := by
  have hConserved := h.conserved e
  have hAdmitted : w.eventsOf e .request = w.marks e (· == .admitted) := by
    refine List.countP_congr fun entry _ => ?_
    rcases entry.mark with _ | _ | o
    · simp [Mark.event?]
    · simp [Mark.event?]
    · cases o <;> simp [Mark.event?, Outcome.event]
  have hEnded : w.marks e (· != .admitted) =
      w.eventsOf e .success + w.eventsOf e .failure + w.dropsOf e := by
    unfold eventsOf dropsOf marks
    induction w.log with
    | nil => rfl
    | cons entry rest ih =>
      simp only [List.countP_cons, ih]
      by_cases hEpoch : entry.epoch = e
      · rcases entry.mark with _ | _ | o
        · simp [hEpoch, Mark.event?]
        · simp [hEpoch, Mark.event?]; omega
        · cases o <;> simp [hEpoch, Mark.event?, Outcome.event] <;> omega
      · simp [hEpoch]
  omega

theorem eventsOf_ended (now : Instant) (w : Session) (k : Nat) (c : Call)
    (outcome : Option Outcome) (e : Nat) (event : Event) :
    (w.ended now k c outcome).eventsOf e event = w.eventsOf e event +
      if c.epoch = e ∧ outcome.map Outcome.event = some event then 1 else 0 := by
  simp only [eventsOf, marks_ended, Mark.event?, beq_iff_eq]

end Ledger

inductive Meets (s : BreakerSettings) (now : Instant) (w : Session) (a : Action) (w' : Session) :
    Prop where
  | goesOn : w'.epoch = w.epoch → w'.machine.state = .halfOpen →
      w'.eventsOf w.epoch .failure = w.eventsOf w.epoch .failure →
      (∀ k c o, a = .settle k (some o) → w.call? k = some c → c.epoch = w.epoch →
        o.event = .success ∧ w.successes + 1 < s.quota) →
      Meets s now w a w'
  | recovers {k : Nat} {c : Call} {o : Outcome} : a = .settle k (some o) → w.call? k = some c →
      c.epoch = w.epoch → o.event = .success → w.successes + 1 = s.quota →
      w' = (w.ended now k c (some o)).renewed s now .closed → Meets s now w a w'
  | reopens {k : Nat} {c : Call} {o : Outcome} : a = .settle k (some o) → w.call? k = some c →
      c.epoch = w.epoch → o.event = .failure →
      w' = (w.ended now k c (some o)).renewed s now .opened → Meets s now w a w'

theorem Acts.meets {a : Action} {w' : Session} {answer : Answer} {signals : List Signal}
    (hSound : Sound w) (hEpoch : w.epoch < 2 ^ 64) (hBalanced : Balanced s w)
    (hHalf : w.machine.state = .halfOpen) (hActs : Acts s now w a w' answer signals) :
    Meets s now w a w' := by
  cases hActs with
  | refused | stateRead | countsRead => exact .goesOn rfl hHalf rfl (by simp)
  | admitted =>
    refine .goesOn rfl hHalf ?_ (by simp)
    simp [eventsOf, Mark.event?]
  | @stale k c outcome hCall hStale =>
    have hNe := (not_congr (hSound.current_iff hEpoch hCall)).mp hStale
    refine .goesOn rfl hHalf ?_ ?_
    · rw [eventsOf_ended, if_neg (fun hCurrent => hNe hCurrent.1), Nat.add_zero]
    · rintro k' c' o hAction hCall' hCurrent
      cases hAction
      cases hCall.symm.trans hCall'
      exact absurd hCurrent hNe
  | @dropped k c =>
    refine .goesOn rfl ((Machine.release_state _).trans hHalf) ?_ (by simp)
    exact (eventsOf_ended now w k c none w.epoch .failure).trans (by simp)
  | @booked k c o m signals hCall hCurrent hBooks =>
    rw [hSound.current_iff hEpoch hCall] at hCurrent
    have hUnfinished := hBalanced.unfinished hHalf
    rw [hBalanced.successes hHalf] at hUnfinished
    have hSuccesses : w.machine.release.probeSuccesses = w.successes := by
      rw [Machine.release_probeSuccesses, hBalanced.successes hHalf]
    cases hBooks with
    | unheard hState | succeeds hState | fails hState | trips hState => simp [hHalf] at hState
    | probeSucceeds _ hEvent hShort =>
      rw [hSuccesses] at hShort
      refine .goesOn rfl ((Machine.release_state _).trans hHalf) ?_ ?_
      · exact (eventsOf_ended now w k c (some o) w.epoch .failure).trans (by simp [hEvent])
      · rintro k' c' o' hAction _ _
        cases hAction
        exact ⟨hEvent, hShort⟩
    | recovers _ hEvent hQuota =>
      rw [hSuccesses] at hQuota
      rw [Machine.renew_release]
      exact .recovers rfl hCall hCurrent hEvent (by omega) rfl
    | probeFails _ hEvent =>
      rw [Machine.renew_release]
      exact .reopens rfl hCall hCurrent hEvent rfl

namespace Meets

variable {a : Action} {w' : Session}

theorem closed_iff (h : Meets s now w a w') :
    w'.machine.state = .closed ↔
      ∃ k c o, a = .settle k (some o) ∧ (o = .success ∨ o = .ignored) ∧
        w.call? k = some c ∧ c.epoch = w.epoch ∧ w.eventsOf w.epoch .success + 1 = s.quota := by
  constructor
  · intro hClosed
    cases h with
    | goesOn _ hHalf => simp [hHalf] at hClosed
    | @recovers k c o hAction hCall hCurrent hEvent hQuota =>
      refine ⟨k, c, o, hAction, ?_, hCall, hCurrent, hQuota⟩
      cases o <;> simp [Outcome.event] at hEvent ⊢
    | reopens _ _ _ _ hAfter => simp [hAfter] at hClosed
  · rintro ⟨k, c, o, hAction, hOutcome, hCall, hCurrent, hQuota⟩
    cases h with
    | goesOn _ _ _ hOpen =>
      have hShort := (hOpen k c o hAction hCall hCurrent).2
      exact absurd hQuota (Nat.ne_of_lt hShort)
    | recovers _ _ _ _ _ hAfter => simp [hAfter]
    | reopens hAction' _ _ hEvent =>
      cases hAction.symm.trans hAction'
      rcases hOutcome with rfl | rfl <;> cases hEvent

theorem opened_iff (h : Meets s now w a w') :
    w'.machine.state = .opened ↔
      ∃ k c, a = .settle k (some .failure) ∧ w.call? k = some c ∧ c.epoch = w.epoch := by
  constructor
  · intro hOpened
    cases h with
    | goesOn _ hHalf => simp [hHalf] at hOpened
    | recovers _ _ _ _ _ hAfter => simp [hAfter] at hOpened
    | @reopens k c o hAction hCall hCurrent hEvent =>
      refine ⟨k, c, ?_, hCall, hCurrent⟩
      cases o <;> simp [Outcome.event] at hEvent
      exact hAction
  · rintro ⟨k, c, hAction, hCall, hCurrent⟩
    cases h with
    | goesOn _ _ _ hOpen => cases (hOpen k c .failure hAction hCall hCurrent).1
    | recovers hAction' _ _ hEvent =>
      cases hAction.symm.trans hAction'
      cases hEvent
    | reopens _ _ _ _ hAfter => simp [hAfter]

theorem expiry_of_opened (h : Meets s now w a w') (hOpened : w'.machine.state = .opened) :
    w'.machine.expiry = now.after? s.openTimeout := by
  cases h with
  | goesOn _ hHalf => simp [hHalf] at hOpened
  | recovers _ _ _ _ _ hAfter => simp [hAfter] at hOpened
  | reopens _ _ _ _ hAfter =>
    rw [hAfter]
    rfl

theorem halfOpen_iff (h : Meets s now w a w') :
    w'.machine.state = .halfOpen ↔ w'.epoch = w.epoch := by
  cases h with
  | goesOn hSame hHalf => simp [hSame, hHalf]
  | recovers _ _ _ _ _ hAfter | reopens _ _ _ _ hAfter => simp [hAfter, ended]

end Meets

structure Lasting (e : Nat) (w : Session) : Prop where
  epoch : w.epoch = e
  halfOpen : w.machine.state = .halfOpen
  unfailed : w.eventsOf e .failure = 0

structure Decided (s : BreakerSettings) (e : Nat) (w : Session) : Prop where
  epoch_lt : e < w.epoch
  decided : s.quota ≤ w.eventsOf e .success ∨ 0 < w.eventsOf e .failure
  admitted_le : w.eventsOf e .request ≤ s.quota + w.dropsOf e

theorem Lasting.admitted_le (h : Lasting e w) (hSound : Sound w) (hBalanced : Balanced s w) :
    w.eventsOf e .request ≤ s.quota + w.dropsOf e := by
  obtain ⟨rfl, hHalf, hUnfailed⟩ := h
  have hRequests := hSound.eventsOf_request w.epoch
  have hWithin := hBalanced.within hHalf
  have hSuccesses : w.machine.probeSuccesses = w.eventsOf w.epoch .success :=
    hBalanced.successes hHalf
  have hInFlight := hBalanced.inFlight hHalf
  omega

theorem Lasting.decided {k : Nat} {c : Call} {o : Outcome} {state : State} (h : Lasting e w)
    (hSound : Sound w) (hBalanced : Balanced s w) (hCurrent : c.epoch = w.epoch)
    (hDecides : o.event = .success ∧ w.successes + 1 = s.quota ∨ o.event = .failure) :
    Decided s e ((w.ended now k c (some o)).renewed s now state) := by
  have hBefore := h.admitted_le hSound hBalanced
  obtain ⟨rfl, hHalf, hUnfailed⟩ := h
  have hEvent : ∀ event, ((w.ended now k c (some o)).renewed s now state).eventsOf w.epoch event =
      w.eventsOf w.epoch event + if o.event = event then 1 else 0 := by
    intro event
    exact (eventsOf_ended now w k c (some o) w.epoch event).trans (by simp [hCurrent])
  constructor
  · exact Nat.lt_succ_self w.epoch
  · rcases hDecides with ⟨hSuccess, hQuota⟩ | hFailure
    · left
      rw [hEvent, if_pos hSuccess]
      exact Nat.le_of_eq hQuota.symm
    · right
      rw [hEvent, if_pos hFailure]
      exact Nat.succ_pos _
  · have hDrops : ((w.ended now k c (some o)).renewed s now state).dropsOf w.epoch =
        w.dropsOf w.epoch := by
      change (w.ended now k c (some o)).marks w.epoch (· == .ended none) = _
      rw [marks_ended]
      simp [dropsOf]
    have hRequest : o.event ≠ .request := by cases o <;> simp [Outcome.event]
    rw [hEvent, if_neg hRequest, hDrops]
    exact hBefore

/-- No later entry is about an admission in an episode that is over. -/
theorem Decided.extended {w' : Session} {more : List Entry} (h : Decided s e w)
    (hLater : w.epoch ≤ w'.epoch) (hLog : w'.log = w.log ++ more)
    (hNew : ∀ entry ∈ more, entry.mark = .admitted → entry.epoch = w.epoch) :
    Decided s e w' := by
  obtain ⟨hEpoch, hDecided, hAdmitted⟩ := h
  have hMarks : ∀ p, w'.marks e p =
      w.marks e p + more.countP fun entry => entry.epoch == e && p entry.mark := by
    intro p
    simp [marks, hLog]
  have hRequests : more.countP (fun entry => entry.epoch == e &&
      entry.mark.event? == some .request) = 0 := by
    refine List.countP_eq_zero.mpr fun entry hMem hCount => ?_
    simp only [Bool.and_eq_true, beq_iff_eq] at hCount
    obtain ⟨hSame, hRequest⟩ := hCount
    have hMark : entry.mark = .admitted := by
      rcases hMark : entry.mark with _ | _ | o
      · rfl
      · simp [hMark, Mark.event?] at hRequest
      · cases o <;> simp [hMark, Mark.event?, Outcome.event] at hRequest
    have hPresent := hNew entry hMem hMark
    omega
  have hEvents : ∀ event, w'.eventsOf e event = w.eventsOf e event +
      more.countP fun entry => entry.epoch == e && entry.mark.event? == some event :=
    fun event => hMarks _
  have hDrops : w'.dropsOf e = w.dropsOf e + _ := hMarks _
  have hSuccess := hEvents .success
  have hFailure := hEvents .failure
  have hRequest := hEvents .request
  constructor
  · omega
  · omega
  · omega

theorem Decided.elapses {r : Session} {signals : List Signal} (h : Decided s e w)
    (hElapses : Elapses s now w r signals) : Decided s e r := by
  have hLog : r.log = w.log ++ [] := by
    rw [List.append_nil]
    cases hElapses <;> rfl
  exact h.extended (by rw [hElapses.epoch_eq]; omega) hLog (by simp)

theorem Decided.acts {a : Action} {w' : Session} {answer : Answer} {signals : List Signal}
    (h : Decided s e w) (hActs : Acts s now w a w' answer signals) : Decided s e w' := by
  have hLater := hActs.epoch_le
  cases hActs with
  | refused | stateRead | countsRead => exact h.extended hLater (List.append_nil _).symm (by simp)
  | admitted =>
    have hLog : (w.admitted now).log = w.log ++ [⟨now, w.epoch, .admitted⟩] := rfl
    exact h.extended hLater hLog (by simp)
  | stale | dropped | booked => exact h.extended hLater rfl (by simp)

theorem refreshed_of_halfOpen (now : Instant) (hHalf : w.machine.state = .halfOpen) :
    w.refreshed s now = w := by
  unfold refreshed
  rw [Machine.refresh_eq]
  simp [hHalf]

theorem Performs.begins {x : Step} {w' : Session} {report : Report}
    (hPerforms : Performs s x w w' report) (hSound : Sound w) (hEpoch : w'.epoch < 2 ^ 64)
    (hBegins : Signal.changed .opened .halfOpen ∈ report.signals) : Lasting w'.epoch w' := by
  obtain ⟨now, action⟩ := x
  cases hPerforms with
  | idle => cases hBegins
  | reset =>
    dsimp only at hBegins
    split at hBegins <;> simp at hBegins
  | acts hActs =>
    rcases List.mem_append.mp hBegins with hElapsed | hActed
    · have hElapses := elapses_refreshed s now w
      have hLast : ∀ k c, (w.refreshed s now).call? k = some c → c.epoch ≤ w.epoch :=
        fun k c hCall => hSound.call_le c (mem_of_call? (w := w) hCall)
      generalize w.refreshed s now = r, w.elapsed s now = signals at *
      cases hElapses with
      | still => cases hElapsed
      | window => simp at hElapsed
      | probing =>
        have hBalanced : Balanced s (w.renewed s now .halfOpen) := .renewed hSound now _
        -- The calls there are belong to earlier generations, so none of them ends it at once.
        have hEarlier : ∀ k c, (w.renewed s now .halfOpen).call? k = some c →
            c.epoch ≠ w.epoch + 1 := by
          intro k c hCall
          have hLe := hLast k c hCall
          omega
        have hMeets := hActs.meets (hSound.renewed .halfOpen)
          (Nat.lt_of_le_of_lt hActs.epoch_le hEpoch) hBalanced rfl
        cases hMeets with
        | goesOn hSame hHalf hFailures =>
          have hNone := hSound.marks_later (Nat.lt_succ_self w.epoch)
            fun m => m.event? == some .failure
          refine ⟨rfl, hHalf, ?_⟩
          rw [hSame, hFailures]
          exact hNone
        | recovers _ hCall hCurrent | reopens _ hCall hCurrent =>
          exact absurd hCurrent (hEarlier _ _ hCall)
    · cases hActs with
      | booked _ _ hBooks => cases hBooks <;> simp at hActed
      | _ => cases hActed

theorem Lasting.meets (h : Lasting e w) (hSound : Sound w) (hEpoch : w.epoch < 2 ^ 64)
    (hBalanced : Balanced s w) {x : Step} (hNoReset : x.action ≠ .reset) :
    Meets s x.time w x.action (w.perform s x).1 := by
  have hPerforms := performs_perform s x w
  generalize (w.perform s x).1 = w', (w.perform s x).2 = report at hPerforms ⊢
  cases hPerforms with
  | idle hAction hNone =>
    refine .goesOn rfl h.halfOpen rfl ?_
    rintro k c o hSettle hCall
    cases hAction.symm.trans hSettle
    cases hNone.symm.trans hCall
  | reset hReset => exact absurd hReset hNoReset
  | acts hActs =>
    rw [refreshed_of_halfOpen x.time h.halfOpen] at hActs
    exact hActs.meets hSound hEpoch hBalanced h.halfOpen

theorem Lasting.performs {x : Step} {w' : Session} (h : Lasting e w) (hSound : Sound w)
    (hBalanced : Balanced s w) (hMeets : Meets s x.time w x.action w') :
    Lasting e w' ∨ Decided s e w' := by
  cases hMeets with
  | goesOn hSame hHalf hFailures =>
    obtain ⟨rfl, _, hUnfailed⟩ := h
    exact .inl ⟨hSame, hHalf, hFailures.trans hUnfailed⟩
  | recovers _ hCall hCurrent hEvent hQuota hAfter =>
    rw [hAfter]
    exact .inr (h.decided hSound hBalanced hCurrent (.inl ⟨hEvent, hQuota⟩))
  | reopens _ hCall hCurrent hEvent hAfter =>
    rw [hAfter]
    exact .inr (h.decided hSound hBalanced hCurrent (.inr hEvent))

theorem Decided.performs {x : Step} {w' : Session} {report : Report} (h : Decided s e w)
    (hNoReset : x.action ≠ .reset) (hPerforms : Performs s x w w' report) : Decided s e w' := by
  cases hPerforms with
  | idle => exact h
  | reset hReset => exact absurd hReset hNoReset
  | acts hActs => exact (h.elapses (elapses_refreshed s x.time w)).acts hActs

theorem Lasting.run {created : Instant} {earlier later : List Step}
    (h : Lasting e (run s created earlier))
    (hEpoch : (Session.run s created (earlier ++ later)).epoch < 2 ^ 64)
    (hNoReset : ∀ y ∈ later, y.action ≠ .reset) :
    Lasting e (Session.run s created (earlier ++ later)) ∨
      Decided s e (Session.run s created (earlier ++ later)) := by
  induction later using List.reverseRecOn with
  | nil => simpa using .inl h
  | append_singleton later y ih =>
    rw [← List.append_assoc, run_append_singleton] at hEpoch ⊢
    rw [List.forall_mem_append, List.forall_mem_singleton] at hNoReset
    have hPerforms := performs_perform s y (Session.run s created (earlier ++ later))
    have hBefore := Nat.lt_of_le_of_lt hPerforms.epoch_le hEpoch
    have hSound := Sound.run (s := s) created (earlier ++ later)
    have hBalanced := balanced_invariant.run created _ hBefore
    rcases ih hBefore hNoReset.1 with hLasting | hDecided
    · have hMeets := hLasting.meets hSound hBefore hBalanced hNoReset.2
      exact hLasting.performs hSound hBalanced hMeets
    · exact .inr (hDecided.performs hNoReset.2 hPerforms)

structure EpisodeAccounted (s : BreakerSettings) (e : Nat) (w : Session) : Prop where
  lasts_iff : w.epoch = e ↔ w.eventsOf e .success < s.quota ∧ w.eventsOf e .failure = 0
  halfOpen : w.epoch = e → w.machine.state = .halfOpen
  admitted_le : w.eventsOf e .request ≤ s.quota + w.dropsOf e
  recovers_iff : w.epoch = e → ∀ x : Step, x.action ≠ .reset →
    ((w.perform s x).1.machine.state = .closed ↔
      ∃ k c o, x.action = .settle k (some o) ∧ (o = .success ∨ o = .ignored) ∧
        w.call? k = some c ∧ c.epoch = e ∧ w.eventsOf e .success + 1 = s.quota)
  reopens_iff : w.epoch = e → ∀ x : Step, x.action ≠ .reset →
    ((w.perform s x).1.machine.state = .opened ↔
      ∃ k c, x.action = .settle k (some .failure) ∧ w.call? k = some c ∧ c.epoch = e)
  reopens_expiry : w.epoch = e → ∀ x : Step, x.action ≠ .reset →
    (w.perform s x).1.machine.state = .opened →
    (w.perform s x).1.machine.expiry = x.time.after? s.openTimeout
  /-- Nothing else ends it. -/
  goesOn_iff : w.epoch = e → ∀ x : Step, x.action ≠ .reset →
    ((w.perform s x).1.machine.state = .halfOpen ↔ (w.perform s x).1.epoch = e)

/-- A half-open episode ends as its calls decide, and it admits no more of them than the quota and
those that were dropped. -/
theorem episode_accounted (s : BreakerSettings) (created : Instant) (earlier later : List Step)
    (x : Step) (hEpoch : (run s created (earlier ++ [x] ++ later)).epoch < 2 ^ 64)
    (hBegins : Signal.changed .opened .halfOpen ∈ ((run s created earlier).perform s x).2.signals)
    (hNoReset : ∀ y ∈ later, y.action ≠ .reset) :
    EpisodeAccounted s (run s created (earlier ++ [x])).epoch
      (run s created (earlier ++ [x] ++ later)) := by
  have hSound := Sound.run (s := s) created (earlier ++ [x] ++ later)
  have hBalanced := balanced_invariant.run created _ hEpoch
  have hFirst : Lasting (run s created (earlier ++ [x])).epoch
      (run s created (earlier ++ [x])) := by
    have hLe := epoch_le_after (s := s) (run s created (earlier ++ [x])) later
    rw [← run_append] at hLe
    have hEpoch' := Nat.lt_of_le_of_lt hLe hEpoch
    rw [run_append_singleton] at hEpoch' ⊢
    exact (performs_perform s x _).begins (.run created earlier) hEpoch' hBegins
  have hEpisode := hFirst.run hEpoch hNoReset
  generalize (run s created (earlier ++ [x])).epoch = e at *
  generalize run s created (earlier ++ [x] ++ later) = w at *
  have hLasting : w.epoch = e → Lasting e w := by
    rintro rfl
    rcases hEpisode with hLasting | hDecided
    · exact hLasting
    · exact absurd hDecided.epoch_lt (Nat.lt_irrefl _)
  have hMeets : w.epoch = e → ∀ y : Step, y.action ≠ .reset →
      Meets s y.time w y.action (w.perform s y).1 :=
    fun hLasts y => (hLasting hLasts).meets hSound hEpoch hBalanced
  constructor
  case lasts_iff =>
    constructor
    · intro hLasts
      obtain ⟨rfl, hHalf, hUnfailed⟩ := hLasting hLasts
      have hUnfinished := hBalanced.unfinished hHalf
      rw [hBalanced.successes hHalf] at hUnfinished
      exact ⟨hUnfinished, hUnfailed⟩
    · rintro ⟨hUnfinished, hUnfailed⟩
      rcases hEpisode with hLasts | hDecided
      · exact hLasts.epoch
      · have hEnded := hDecided.decided
        omega
  case halfOpen => exact fun hLasts => (hLasting hLasts).halfOpen
  case admitted_le =>
    rcases hEpisode with hLasts | hDecided
    · exact hLasts.admitted_le hSound hBalanced
    · exact hDecided.admitted_le
  case recovers_iff =>
    rintro rfl y hStep
    exact (hMeets rfl y hStep).closed_iff
  case reopens_iff =>
    rintro rfl y hStep
    exact (hMeets rfl y hStep).opened_iff
  case reopens_expiry => exact fun hLasts y hStep => (hMeets hLasts y hStep).expiry_of_opened
  case goesOn_iff =>
    rintro rfl y hStep
    exact (hMeets rfl y hStep).halfOpen_iff

def tripped : List Step := [⟨0, .start⟩, ⟨0, .start⟩, ⟨0, .settle 0 (some .failure)⟩]

/-- A second probe, a call too many, a probe that is dropped and replaced, the failure of the call
that is left from before, and one probe that succeeds. -/
def probing : List Step :=
  [⟨1000000000, .start⟩, ⟨1000000000, .start⟩, ⟨1000000000, .settle 2 none⟩,
    ⟨1000000000, .start⟩, ⟨1000000000, .settle 1 (some .failure)⟩,
    ⟨1000000000, .settle 3 (some .ignored)⟩]

theorem episode_accounted_probing :
    ((run twoProbes 0 (tripped ++ [⟨1000000000, .start⟩] ++ probing)).epoch < 2 ^ 64 ∧
        Signal.changed .opened .halfOpen ∈
          ((run twoProbes 0 tripped).perform twoProbes ⟨1000000000, .start⟩).2.signals ∧
        ∀ y ∈ probing, y.action ≠ .reset) ∧
      EpisodeAccounted twoProbes 2
        (run twoProbes 0 (tripped ++ [⟨1000000000, .start⟩] ++ probing)) ∧
      (run twoProbes 0 (tripped ++ [⟨1000000000, .start⟩] ++ probing)).eventsOf 2 .request = 3 ∧
      ((run twoProbes 0 (tripped ++ [⟨1000000000, .start⟩] ++ probing)).perform twoProbes
        ⟨1000000000, .settle 5 (some .success)⟩).1.machine.state = .closed := by
  have hEpoch : (run twoProbes 0 (tripped ++ [⟨1000000000, .start⟩] ++ probing)).epoch < 2 ^ 64 :=
    by decide
  have hBegins : Signal.changed .opened .halfOpen ∈
      ((run twoProbes 0 tripped).perform twoProbes ⟨1000000000, .start⟩).2.signals := by decide
  have hNoReset : ∀ y ∈ probing, y.action ≠ .reset := by decide
  have hEpisode : EpisodeAccounted twoProbes 2
      (run twoProbes 0 (tripped ++ [⟨1000000000, .start⟩] ++ probing)) :=
    episode_accounted twoProbes 0 tripped probing ⟨1000000000, .start⟩ hEpoch hBegins hNoReset
  refine ⟨⟨hEpoch, hBegins, hNoReset⟩, hEpisode, by decide, ?_⟩
  refine (hEpisode.recovers_iff (by decide) _ (by decide)).mpr ?_
  exact ⟨5, ⟨⟨2⟩, 2, true⟩, .success, rfl, .inl rfl, by decide, rfl, by decide⟩

end CallGuard.Session
