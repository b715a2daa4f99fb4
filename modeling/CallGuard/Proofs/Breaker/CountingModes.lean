import CallGuard.Proofs.Breaker.PassThrough
import CallGuard.Proofs.Counting.FirstWindow

/-!
# Modes of counting

A breaker counts for ever, in windows that are cleared as a whole, or in a window that rolls.
Breakers that differ in nothing else cannot be told apart before the first window is over: all that
was counted in a generation still counts then, whichever way it is kept.
-/

namespace CallGuard

/-- Two breakers are to differ only in how they count, and if one of them ever forgets, it does not
do so within a window of so many milliseconds. -/
structure BreakerSettings.Cognate (ms : UInt64) (s s' : BreakerSettings) : Prop where
  name : s'.name = s.name
  quota : s'.quota = s.quota
  threshold : s'.threshold = s.threshold
  openTimeout : s'.openTimeout = s.openTimeout
  interval : s.closedWindowIntervalMs = 0 ∨ s.closedWindowIntervalMs = ms
  interval' : s'.closedWindowIntervalMs = 0 ∨ s'.closedWindowIntervalMs = ms

namespace Machine

section Timeouts

variable {s s' : BreakerSettings} {ms : UInt64} {created now t : Instant}

/-- A closed phase that begins in the first window outlasts it. -/
theorem closed_outlasts_first
    (hInterval : s.closedWindowIntervalMs = 0 ∨ s.closedWindowIntervalMs = ms)
    (hNow : FirstWindow created ms now) (hLater : FirstWindow created ms t) :
    (phaseEnd s now .closed).any (· ≤ t) = false := by
  rw [phaseEnd, BreakerSettings.closedWindow]
  split
  · rfl
  · split
    · rfl
    · next hSome =>
      rw [hInterval.resolve_left hSome, Option.bind_some, Instant.after?]
      split
      · have hOver : t < now + (Span.ofMillis ms).nanos :=
          Int.lt_of_lt_of_le hLater.2 (Int.add_le_add_right hNow.1 _)
        simpa using hOver
      · rfl

theorem phaseEnd_eq (hCognate : s.Cognate ms s') (hNow : FirstWindow created ms now)
    (hLater : FirstWindow created ms t) (state : State) :
    (phaseEnd s' now state).any (· ≤ t) = (phaseEnd s now state).any (· ≤ t) := by
  cases state with
  | closed =>
    rw [closed_outlasts_first hCognate.interval hNow hLater,
      closed_outlasts_first hCognate.interval' hNow hLater]
  | opened => rw [phaseEnd, phaseEnd, hCognate.openTimeout]
  | halfOpen => rfl

end Timeouts

/-- Machines whose windows have recorded the same and differ in how they keep it. -/
structure Alike (created : Instant) (ms : UInt64) (history : List (Instant × Event))
    (m m' : Machine) : Prop where
  state : m'.state = m.state
  generation : m'.generation = m.generation
  probesInFlight : m'.probesInFlight = m.probesInFlight
  probeSuccesses : m'.probeSuccesses = m.probeSuccesses
  isExpired : ∀ t, FirstWindow created ms t → m'.isExpired t = m.isExpired t
  counter : m.counter.Complete (FirstWindow created ms) history
  counter' : m'.counter.Complete (FirstWindow created ms) history

namespace Alike

variable {s s' : BreakerSettings} {ms : UInt64} {created now : Instant}
variable {history : List (Instant × Event)} {m m' : Machine}

theorem create (hCognate : s.Cognate ms s') (hCreated : FirstWindow created ms created) :
    Alike created ms [] (create s created) (create s' created) where
  state := rfl
  generation := rfl
  probesInFlight := rfl
  probeSuccesses := rfl
  isExpired _ hLater := phaseEnd_eq hCognate hCreated hLater .closed
  counter := Window.create_complete hCognate.interval created
  counter' := Window.create_complete hCognate.interval' created

theorem renewed (hCognate : s.Cognate ms s') (hNow : FirstWindow created ms now)
    (h : Alike created ms history m m') (state : State) :
    Alike created ms [] (m.renew s now state) (m'.renew s' now state) where
  state := rfl
  generation := congrArg (· + 1) h.generation
  probesInFlight := rfl
  probeSuccesses := rfl
  isExpired _ hLater := phaseEnd_eq hCognate hNow hLater state
  counter := h.counter.clear
  counter' := h.counter'.clear

theorem refreshed (hCognate : s.Cognate ms s') (hNow : FirstWindow created ms now)
    (h : Alike created ms history m m') :
    (m'.refresh s' now).2 = (m.refresh s now).2 ∧
      ∃ kept, kept.Sublist history ∧
        Alike created ms kept (m.refresh s now).1 (m'.refresh s' now).1 := by
  rw [refresh_eq, refresh_eq, h.state, h.isExpired now hNow]
  split
  · exact ⟨rfl, [], List.nil_sublist _, h.renewed hCognate hNow .closed⟩
  · split
    · exact ⟨rfl, [], List.nil_sublist _, h.renewed hCognate hNow .halfOpen⟩
    · exact ⟨rfl, history, .refl _, h⟩

theorem rejection? (hCognate : s.Cognate ms s') (h : Alike created ms history m m') :
    m'.rejection? s' = m.rejection? s := by
  simp only [Machine.rejection?, h.state, h.probesInFlight, h.probeSuccesses, hCognate.quota]

theorem count (hNow : FirstWindow created ms now) (h : Alike created ms history m m') :
    Alike created ms (history ++ [(now, .request)]) (m.count now) (m'.count now) where
  state := h.state
  generation := h.generation
  probesInFlight := by simp only [Machine.count, h.state, h.probesInFlight]
  probeSuccesses := h.probeSuccesses
  isExpired := h.isExpired
  counter := h.counter.record hNow .request
  counter' := h.counter'.record hNow .request

theorem release (h : Alike created ms history m m') :
    Alike created ms history m.release m'.release := by
  unfold Machine.release
  by_cases hHalf : m.state = .halfOpen
  · rw [if_pos hHalf, if_pos (h.state.trans hHalf)]
    exact { h with probesInFlight := congrArg (· - 1) h.probesInFlight }
  · rw [if_neg hHalf, if_neg (h.state.symm ▸ hHalf)]
    exact h

theorem streakAfterFailure (hNow : FirstWindow created ms now)
    (hFew : Few (history ++ [(now, .failure)])) (h : Alike created ms history m m') :
    m'.streakAfterFailure now = m.streakAfterFailure now := by
  rw [Machine.streakAfterFailure, Machine.streakAfterFailure,
    (h.counter.record hNow .failure).countsAt hNow hFew,
    (h.counter'.record hNow .failure).countsAt hNow hFew]

theorem expire (hNow : FirstWindow created ms now) (h : Alike created ms history m m') :
    Alike created ms history { m with counter := m.counter.expire now }
      { m' with counter := m'.counter.expire now } :=
  { h with
    counter := h.counter.expire hNow
    counter' := h.counter'.expire hNow }

/-- What one machine does with an outcome the other one does too. -/
theorem books {o : Outcome} {n : Machine} {signals : List Signal} (hCognate : s.Cognate ms s')
    (hNow : FirstWindow created ms now) (hFew : Few (history ++ [(now, o.event)]))
    (h : Alike created ms history m m') (hBooks : Books s now m o n signals) :
    ∃ n', Books s' now m' o n' signals ∧
      ∃ kept, kept.Sublist (history ++ [(now, o.event)]) ∧ Alike created ms kept n n' := by
  have hSuccesses := h.probeSuccesses
  have hQuota := hCognate.quota
  have hThreshold := hCognate.threshold
  cases hBooks with
  | unheard hOpened =>
    exact ⟨m', .unheard (h.state.trans hOpened), history, List.sublist_append_left _ _, h⟩
  | succeeds hClosed hEvent =>
    rw [hEvent]
    refine ⟨_, .succeeds (h.state.trans hClosed) hEvent, _, .refl _, ?_⟩
    exact { h with
      counter := h.counter.record hNow .success
      counter' := h.counter'.record hNow .success }
  | fails hClosed hEvent hShort =>
    rw [hEvent] at hFew ⊢
    have hStreak := h.streakAfterFailure hNow hFew
    refine ⟨_, .fails (h.state.trans hClosed) hEvent (by rwa [hStreak, hThreshold]), _,
      .refl _, ?_⟩
    exact { h with
      counter := (h.counter.record hNow .failure).expire hNow
      counter' := (h.counter'.record hNow .failure).expire hNow }
  | trips hClosed hEvent hLong =>
    rw [hEvent] at hFew
    have hStreak := h.streakAfterFailure hNow hFew
    exact ⟨_, .trips (h.state.trans hClosed) hEvent (by rwa [hStreak, hThreshold]), [],
      List.nil_sublist _, h.renewed hCognate hNow .opened⟩
  | probeSucceeds hHalf hEvent hFewer =>
    rw [hEvent]
    refine ⟨_, .probeSucceeds (h.state.trans hHalf) hEvent (by rwa [hSuccesses, hQuota]), _,
      .refl _, ?_⟩
    exact { h with
      probeSuccesses := congrArg (· + 1) hSuccesses
      counter := h.counter.record hNow .success
      counter' := h.counter'.record hNow .success }
  | recovers hHalf hEvent hEnough =>
    exact ⟨_, .recovers (h.state.trans hHalf) hEvent (by rwa [hSuccesses, hQuota]), [],
      List.nil_sublist _, h.renewed hCognate hNow .closed⟩
  | probeFails hHalf hEvent =>
    exact ⟨_, .probeFails (h.state.trans hHalf) hEvent, [], List.nil_sublist _,
      h.renewed hCognate hNow .opened⟩

theorem entered (hCognate : s.Cognate ms s') (hNow : FirstWindow created ms now)
    (h : Alike created ms history m m') :
    (m'.enter s' now).1 = (m.enter s now).1 ∧ (m'.enter s' now).2.2 = (m.enter s now).2.2 ∧
      ∃ kept, kept.Sublist (history ++ [(now, .request)]) ∧
        Alike created ms kept (m.enter s now).2.1 (m'.enter s' now).2.1 := by
  obtain ⟨hSignals, kept, hKept, hRefreshed⟩ := h.refreshed hCognate hNow
  simp only [enter, hRefreshed.rejection? hCognate]
  cases (m.refresh s now).1.rejection? s with
  | none =>
    refine ⟨by rw [hRefreshed.generation], hSignals, _, hKept.append_right _, ?_⟩
    exact hRefreshed.count hNow
  | some reason =>
    exact ⟨rfl, hSignals, kept, hKept.trans (List.sublist_append_left _ _), hRefreshed⟩

theorem settled (hCognate : s.Cognate ms s') (hNow : FirstWindow created ms now)
    (permit : Permit) (outcome : Option Outcome)
    (hFew : Few (history ++ (outcome.map fun o => (now, o.event)).toList))
    (h : Alike created ms history m m') :
    (m'.settle s' now permit outcome).2 = (m.settle s now permit outcome).2 ∧
      ∃ kept, kept.Sublist (history ++ (outcome.map fun o => (now, o.event)).toList) ∧
        Alike created ms kept (m.settle s now permit outcome).1
          (m'.settle s' now permit outcome).1 := by
  obtain ⟨hSignals, kept, hKept, hRefreshed⟩ := h.refreshed hCognate hNow
  have hPrefix := hKept.trans
    (List.sublist_append_left _ (outcome.map fun o => (now, o.event)).toList)
  simp only [settle, hRefreshed.generation, hSignals]
  split
  · cases outcome with
    | none => exact ⟨rfl, kept, hPrefix, hRefreshed.release⟩
    | some o =>
      have hLonger : (kept ++ [(now, o.event)]).Sublist (history ++ [(now, o.event)]) :=
        hKept.append_right _
      obtain ⟨n', hBooks', later, hLater, hAlike⟩ := hRefreshed.release.books hCognate hNow
        (hFew.of_sublist hLonger) (books_book s now (m.refresh s now).1.release o)
      simp only [hBooks'.book_eq]
      exact ⟨trivial, later, hLater.trans hLonger, hAlike⟩
  · exact ⟨rfl, kept, hPrefix, hRefreshed⟩

theorem countsRead (hCognate : s.Cognate ms s') (hNow : FirstWindow created ms now)
    (hFew : Few history) (h : Alike created ms history m m') :
    (m'.readCounts s' now).1 = (m.readCounts s now).1 ∧
      (m'.readCounts s' now).2.2 = (m.readCounts s now).2.2 ∧
      ∃ kept, kept.Sublist history ∧
        Alike created ms kept (m.readCounts s now).2.1 (m'.readCounts s' now).2.1 := by
  obtain ⟨hSignals, kept, hKept, hRefreshed⟩ := h.refreshed hCognate hNow
  have hCounts := hRefreshed.counter.countsAt hNow (hFew.of_sublist hKept)
  have hCounts' := hRefreshed.counter'.countsAt hNow (hFew.of_sublist hKept)
  simp only [readCounts, Window.read]
  exact ⟨hCounts'.trans hCounts.symm, hSignals, kept, hKept, hRefreshed.expire hNow⟩

theorem reset (hCognate : s.Cognate ms s') (hNow : FirstWindow created ms now)
    (h : Alike created ms history m m') :
    (m'.reset s' now).2 = (m.reset s now).2 ∧
      Alike created ms [] (m.reset s now).1 (m'.reset s' now).1 := by
  simp only [Machine.reset, moveTo, h.state]
  split <;> exact ⟨rfl, h.renewed hCognate hNow .closed⟩

end Alike

end Machine

namespace Service

variable {α : Type}

/-- What has been counted of some calls: each was counted once as a request, and once more after
its end. -/
structure CountedOnce (history : List (Instant × Event)) (tickets : List (Option Ticket)) :
    Prop where
  requests : (history.map Prod.snd).count .request ≤ tickets.length
  outcomes : (history.map Prod.snd).countP (· != .request) + tickets.countP Option.isSome ≤
    tickets.length

namespace CountedOnce

variable {history longer : List (Instant × Event)} {tickets : List (Option Ticket)}

theorem of_sublist (h : CountedOnce longer tickets) (hSublist : history.Sublist longer) :
    CountedOnce history tickets where
  requests := Nat.le_trans ((hSublist.map _).count_le _) h.requests
  outcomes := Nat.le_trans (Nat.add_le_add_right (hSublist.map _).countP_le _) h.outcomes

theorem few (h : CountedOnce history tickets) (hFew : tickets.length < 2 ^ 32) :
    Few history := by
  intro e
  by_cases hRequest : e = .request
  · rw [hRequest]
    exact Nat.lt_of_le_of_lt h.requests hFew
  · have hOutcome : (history.map Prod.snd).count e ≤
        (history.map Prod.snd).countP (· != .request) := by
      apply List.countP_mono_left
      intro x _ hSame
      simpa [beq_iff_eq.mp hSame] using hRequest
    have hOutcomes := h.outcomes
    omega

theorem started (h : CountedOnce history tickets) (now : Instant) (ticket : Option Ticket) :
    CountedOnce (history ++ [(now, .request)]) (tickets ++ [ticket]) where
  requests := by
    rw [List.map_append, List.count_append, List.length_append]
    exact Nat.add_le_add_right h.requests 1
  outcomes := by
    have hOutcomes := h.outcomes
    rw [List.map_append, List.countP_append, List.countP_append, List.length_append]
    cases ticket <;> simp [-List.countP_map] <;> omega

theorem ended {k : Nat} {ticket : Ticket} (h : CountedOnce history tickets)
    (hTicket : tickets[k]? = some (some ticket)) (now : Instant) (outcome : Option Outcome) :
    CountedOnce (history ++ (outcome.map fun o => (now, o.event)).toList) (tickets.set k none) := by
  obtain ⟨hLength, hGet⟩ := List.getElem?_eq_some_iff.mp hTicket
  have hInFlight : 0 < tickets.countP Option.isSome :=
    List.countP_pos_iff.mpr ⟨some ticket, hGet ▸ List.getElem_mem hLength, rfl⟩
  have hSet : (tickets.set k none).countP Option.isSome + 1 = tickets.countP Option.isSome := by
    rw [List.countP_set hLength, hGet]
    simp
    omega
  have hRequests := h.requests
  have hOutcomes := h.outcomes
  constructor
  · rw [List.map_append, List.count_append, List.length_set]
    rcases outcome with _ | _ | _ | _ <;> exact hRequests
  · rw [List.map_append, List.countP_append, List.length_set]
    rcases outcome with _ | _ | _ | _ <;> simp [-List.countP_map, Outcome.event] <;> omega

end CountedOnce

structure Alike (s s' : BreakerSettings) (classifier : Classifier) (created : Instant)
    (ms : UInt64) (v v' : Service) (history : List (Instant × Event)) (m m' : Machine) :
    Prop where
  breaker : v.breaker = .stateful s classifier m
  breaker' : v'.breaker = .stateful s' classifier m'
  tickets : v'.tickets = v.tickets
  machines : m.Alike created ms history m'
  counted : CountedOnce history v.tickets

namespace Alike

variable {s s' : BreakerSettings} {classifier : Classifier} {created now : Instant} {ms : UInt64}
variable {v v' : Service} {history : List (Instant × Event)} {m m' : Machine}

theorem start (hCognate : s.Cognate ms s') (hNow : FirstWindow created ms now)
    (h : Alike s s' classifier created ms v v' history m m') :
    (v'.start (α := α) now).2 = (v.start (α := α) now).2 ∧ ∃ later n n',
      Alike s s' classifier created ms (v.start (α := α) now).1 (v'.start (α := α) now).1
        later n n' := by
  obtain ⟨hResult, hSignals, later, hLater, hAlike⟩ := h.machines.entered hCognate hNow
  unfold Service.start
  rw [h.breaker, h.breaker']
  simp only [Breaker.start]
  generalize m.enter s now = entered at hResult hSignals hAlike ⊢
  generalize m'.enter s' now = entered' at hResult hSignals hAlike ⊢
  obtain ⟨result, n, signals⟩ := entered
  obtain ⟨result', n', signals'⟩ := entered'
  obtain rfl : result' = result := hResult
  obtain rfl : signals' = signals := hSignals
  cases result' with
  | error reason =>
    refine ⟨?_, later, n, n', rfl, rfl, congrArg (· ++ [none]) h.tickets, hAlike, ?_⟩
    · simp only [Breaker.notices, hCognate.name]
    · exact (h.counted.started now none).of_sublist hLater
  | ok permit =>
    refine ⟨?_, later, n, n', rfl, rfl, congrArg (· ++ [some (some permit)]) h.tickets, hAlike, ?_⟩
    · simp only [Breaker.notices, hCognate.name]
    · exact (h.counted.started now _).of_sublist hLater

theorem ticket? (h : Alike s s' classifier created ms v v' history m m') (k : Nat) :
    v'.ticket? k = v.ticket? k := by
  rw [Service.ticket?, h.tickets, Service.ticket?]

/-- A call leaves both breakers, whatever their machines make of that. -/
theorem left {k : Nat} {ticket : Ticket} {later : List (Instant × Event)} {n n' : Machine}
    (h : Alike s s' classifier created ms v v' history m m') (now : Instant)
    (hTicket : v.ticket? k = some ticket) (outcome : Option Outcome)
    (hLater : later.Sublist (history ++ (outcome.map fun o => (now, o.event)).toList))
    (hAlike : n.Alike created ms later n') :
    Alike s s' classifier created ms
      { v with breaker := .stateful s classifier n, tickets := v.tickets.set k none }
      { v' with breaker := .stateful s' classifier n', tickets := v'.tickets.set k none }
      later n n' where
  breaker := rfl
  breaker' := rfl
  tickets := congrArg (·.set k none) h.tickets
  machines := hAlike
  counted := (h.counted.ended (Option.join_eq_some_iff.mp hTicket) now outcome).of_sublist hLater

theorem few_ended {k : Nat} {ticket : Ticket} (hFew : v.tickets.length < 2 ^ 32)
    (h : Alike s s' classifier created ms v v' history m m') (hTicket : v.ticket? k = some ticket)
    (outcome : Option Outcome) :
    Few (history ++ (outcome.map fun o => (now, o.event)).toList) :=
  (h.counted.ended (Option.join_eq_some_iff.mp hTicket) now outcome).few
    (List.length_set.trans_lt hFew)

theorem finish (hCognate : s.Cognate ms s') (hNow : FirstWindow created ms now)
    (hFew : v.tickets.length < 2 ^ 32) (h : Alike s s' classifier created ms v v' history m m')
    (k : Nat) (result : Except Fault α) :
    (v'.finish now k result).2 = (v.finish now k result).2 ∧ ∃ later n n',
      Alike s s' classifier created ms (v.finish now k result).1 (v'.finish now k result).1
        later n n' := by
  unfold Service.finish
  rw [h.ticket? k]
  cases hTicket : v.ticket? k with
  | none => exact ⟨rfl, history, m, m', h⟩
  | some ticket =>
    rw [h.breaker, h.breaker']
    cases ticket with
    | none =>
      exact ⟨rfl, history, m, m', h.left now hTicket none (by simp) h.machines⟩
    | some permit =>
      let outcome := some (Breaker.outcomeOf classifier result)
      obtain ⟨hSignals, later, hLater, hAlike⟩ := h.machines.settled hCognate hNow permit outcome
        (h.few_ended hFew hTicket outcome)
      refine ⟨?_, later, _, _, h.left now hTicket outcome hLater hAlike⟩
      simp only [Breaker.finish, Breaker.notices, hCognate.name]
      rw [hSignals]

theorem drop (hCognate : s.Cognate ms s') (hNow : FirstWindow created ms now)
    (hFew : v.tickets.length < 2 ^ 32) (h : Alike s s' classifier created ms v v' history m m')
    (k : Nat) :
    (v'.drop (α := α) now k).2 = (v.drop (α := α) now k).2 ∧ ∃ later n n',
      Alike s s' classifier created ms (v.drop (α := α) now k).1 (v'.drop (α := α) now k).1
        later n n' := by
  unfold Service.drop
  rw [h.ticket? k]
  cases hTicket : v.ticket? k with
  | none => exact ⟨rfl, history, m, m', h⟩
  | some ticket =>
    rw [h.breaker, h.breaker']
    cases ticket with
    | none =>
      exact ⟨rfl, history, m, m', h.left now hTicket none (by simp) h.machines⟩
    | some permit =>
      obtain ⟨hSignals, later, hLater, hAlike⟩ := h.machines.settled hCognate hNow permit none
        (h.few_ended hFew hTicket none)
      refine ⟨?_, later, _, _, h.left now hTicket none hLater hAlike⟩
      simp only [Breaker.drop, Breaker.notices, hCognate.name, hSignals]

theorem readState (hCognate : s.Cognate ms s') (hNow : FirstWindow created ms now)
    (h : Alike s s' classifier created ms v v' history m m') :
    (v'.readState (α := α) now).2 = (v.readState (α := α) now).2 ∧ ∃ later n n',
      Alike s s' classifier created ms (v.readState (α := α) now).1
        (v'.readState (α := α) now).1 later n n' := by
  obtain ⟨hSignals, later, hLater, hAlike⟩ := h.machines.refreshed hCognate hNow
  unfold Service.readState
  rw [h.breaker, h.breaker']
  simp only [Breaker.state, Machine.readState, Breaker.notices, hCognate.name, hSignals,
    hAlike.state, true_and]
  exact ⟨later, _, _, rfl, rfl, h.tickets, hAlike, h.counted.of_sublist hLater⟩

theorem readCounts (hCognate : s.Cognate ms s') (hNow : FirstWindow created ms now)
    (hFew : v.tickets.length < 2 ^ 32) (h : Alike s s' classifier created ms v v' history m m') :
    (v'.readCounts (α := α) now).2 = (v.readCounts (α := α) now).2 ∧ ∃ later n n',
      Alike s s' classifier created ms (v.readCounts (α := α) now).1
        (v'.readCounts (α := α) now).1 later n n' := by
  obtain ⟨hCounts, hSignals, later, hLater, hAlike⟩ :=
    h.machines.countsRead hCognate hNow (h.counted.few hFew)
  unfold Service.readCounts
  rw [h.breaker, h.breaker']
  simp only [Breaker.counts, Breaker.notices, hCognate.name, hSignals, hCounts, true_and]
  exact ⟨later, _, _, rfl, rfl, h.tickets, hAlike, h.counted.of_sublist hLater⟩

theorem reset (hCognate : s.Cognate ms s') (hNow : FirstWindow created ms now)
    (h : Alike s s' classifier created ms v v' history m m') :
    (v'.reset (α := α) now).2 = (v.reset (α := α) now).2 ∧ ∃ later n n',
      Alike s s' classifier created ms (v.reset (α := α) now).1
        (v'.reset (α := α) now).1 later n n' := by
  obtain ⟨hSignals, hAlike⟩ := h.machines.reset hCognate hNow
  unfold Service.reset
  rw [h.breaker, h.breaker']
  simp only [Breaker.reset, Breaker.notices, hCognate.name, hSignals, true_and]
  exact ⟨[], _, _, rfl, rfl, h.tickets, hAlike, h.counted.of_sublist (List.nil_sublist _)⟩

/-- A step that is taken with both breakers shows the same and leaves them alike. -/
theorem perform (hCognate : s.Cognate ms s') {x : Step α} (hNow : FirstWindow created ms x.time)
    (hFew : v.tickets.length < 2 ^ 32) (h : Alike s s' classifier created ms v v' history m m') :
    (v'.perform x).2 = (v.perform x).2 ∧ ∃ later n n',
      Alike s s' classifier created ms (v.perform x).1 (v'.perform x).1 later n n' := by
  have hServe : (v'.serve x).2 = (v.serve x).2 ∧ ∃ later n n',
      Alike s s' classifier created ms (v.serve x).1 (v'.serve x).1 later n n' := by
    obtain ⟨now, use⟩ := x
    cases use with
    | start => exact h.start hCognate hNow
    | finish k result => exact h.finish hCognate hNow hFew k result
    | drop k => exact h.drop hCognate hNow hFew k
    | readState => exact h.readState hCognate hNow
    | readCounts => exact h.readCounts hCognate hNow hFew
    | reset => exact h.reset hCognate hNow
  obtain ⟨hReport, later, n, n', hAlike⟩ := hServe
  exact ⟨hReport, later, n, n', hAlike.breaker, hAlike.breaker', hAlike.tickets, hAlike.machines,
    hAlike.counted⟩

end Alike

theorem length_tickets (v : Service) (x : Step α) :
    (v.perform x).1.tickets.length = v.tickets.length + if x.use.isStart then 1 else 0 := by
  obtain ⟨now, use⟩ := x
  cases use with
  | start =>
    simp only [perform, serve, start]
    split <;> exact List.length_append
  | finish k result =>
    simp only [perform, serve, finish]
    split
    · rfl
    · exact List.length_set
  | drop k =>
    simp only [perform, serve, drop]
    split
    · rfl
    · exact List.length_set
  | readState | readCounts | reset => rfl

structure Indistinct (s s' : BreakerSettings) (classifier : Classifier) (created : Instant)
    (steps : List (Step α)) : Prop where
  reports : (create s' classifier created).reports steps =
    (create s classifier created).reports steps
  stored : (run s' classifier created steps).breaker.stored =
    (run s classifier created steps).breaker.stored

section Runs

variable {s s' : BreakerSettings} {created : Instant} {ms : UInt64}

theorem Alike.after {classifier : Classifier} {v v' : Service}
    {history : List (Instant × Event)} {m m' : Machine} {steps : List (Step α)}
    (hCognate : s.Cognate ms s') (hFirst : ∀ x ∈ steps, FirstWindow created ms x.time)
    (hFew : v.tickets.length + (steps.countP fun x => x.use.isStart) < 2 ^ 32)
    (h : Alike s s' classifier created ms v v' history m m') :
    v'.reports steps = v.reports steps ∧ ∃ later n n',
      Alike s s' classifier created ms (v.after steps) (v'.after steps) later n n' := by
  induction steps generalizing v v' history m m' with
  | nil => exact ⟨rfl, history, m, m', h⟩
  | cons x rest ih =>
    obtain ⟨hNow, hRest⟩ := List.forall_mem_cons.mp hFirst
    rw [List.countP_cons] at hFew
    obtain ⟨hReport, later, n, n', hAlike⟩ := h.perform hCognate hNow (by omega)
    have hLength := length_tickets v x
    obtain ⟨hReports, hAfter⟩ := ih hRest (by omega) hAlike
    exact ⟨congrArg₂ List.cons hReport hReports, hAfter⟩

theorem create_alike (classifier : Classifier) (hCognate : s.Cognate ms s')
    (hEnabled : s.enabled = true) (hEnabled' : s'.enabled = true)
    (hCreated : FirstWindow created ms created) :
    Alike s s' classifier created ms (create s classifier created) (create s' classifier created)
      [] (Machine.create s created) (Machine.create s' created) := by
  constructor
  · simp [create, Breaker.create, hEnabled]
  · simp [create, Breaker.create, hEnabled']
  · rfl
  · exact .create hCognate hCreated
  · exact ⟨Nat.le_refl 0, Nat.le_refl 0⟩

theorem indistinct_of_cognate (hCognate : s.Cognate ms s') (hEnabled : s.enabled = true)
    (hEnabled' : s'.enabled = true) (classifier : Classifier) {steps : List (Step α)}
    (hFirst : ∀ x ∈ steps, FirstWindow created ms x.time)
    (hFew : (steps.countP fun x => x.use.isStart) < 2 ^ 32) :
    Indistinct s s' classifier created steps := by
  cases steps with
  | nil =>
    refine ⟨rfl, ?_⟩
    simp [run, after, create, Breaker.create, hEnabled, hEnabled', Breaker.stored, Machine.create]
  | cons x rest =>
    -- A window that has an instant in it has its beginning in it.
    have hCreated : FirstWindow created ms created := by
      obtain ⟨hSince, hBefore⟩ := hFirst x List.mem_cons_self
      exact ⟨Int.le_refl _, Int.lt_of_le_of_lt hSince hBefore⟩
    have hAlike := create_alike classifier hCognate hEnabled hEnabled' hCreated
    have hStarted : (create s classifier created).tickets.length +
        ((x :: rest).countP fun x => x.use.isStart) < 2 ^ 32 :=
      (Nat.zero_add _).trans_lt hFew
    obtain ⟨hReports, later, n, n', hAfter⟩ := hAlike.after hCognate hFirst hStarted
    refine ⟨hReports, ?_⟩
    rw [run, run, hAfter.breaker, hAfter.breaker']
    exact hAfter.machines.state

/-- Until its first window is over, nobody can tell whether a breaker counts for ever, in windows
of this length or in one that rolls. -/
theorem counting_modes_indistinct (s : BreakerSettings) (hEnabled : s.enabled = true)
    (classifier : Classifier) (created : Instant) (ms period : UInt64) (steps : List (Step α))
    (hFirst : ∀ x ∈ steps, FirstWindow created ms x.time)
    (hFew : (steps.countP fun x => x.use.isStart) < 2 ^ 32) :
    Indistinct { s with closedWindowIntervalMs := 0 }
        { s with closedWindowIntervalMs := ms, bucketPeriodMs := 0 } classifier created steps ∧
      Indistinct { s with closedWindowIntervalMs := 0 }
        { s with closedWindowIntervalMs := ms, bucketPeriodMs := period } classifier created
        steps := by
  have hCognate (period : UInt64) : BreakerSettings.Cognate ms
      { s with closedWindowIntervalMs := 0 }
      { s with closedWindowIntervalMs := ms, bucketPeriodMs := period } :=
    ⟨rfl, rfl, rfl, rfl, .inl rfl, .inr rfl⟩
  constructor
  · exact indistinct_of_cognate (hCognate 0) hEnabled hEnabled classifier hFirst hFew
  · exact indistinct_of_cognate (hCognate period) hEnabled hEnabled classifier hFirst hFew

end Runs

def twoStrikes : BreakerSettings :=
  { BreakerSettings.standard with openTimeoutMs := 1, consecutiveFailureThreshold := 2 }

/-- Clocks that disagree: two failures open the breaker, a call is rejected, a probe closes it, and
a call that was admitted before all that fails too late to count. -/
def acrossBuckets : List (Step Nat) :=
  [⟨8000000, .start⟩, ⟨1000000, .start⟩, ⟨0, .start⟩, ⟨5000000, .finish 0 (.error (.plain "a"))⟩,
    ⟨2000000, .readCounts⟩, ⟨1000000, .finish 1 (.error (.plain "b"))⟩, ⟨1500000, .start⟩,
    ⟨9000000, .start⟩, ⟨4000000, .finish 4 (.ok 7)⟩, ⟨3000000, .readState⟩,
    ⟨9999999, .finish 2 (.error (.plain "c"))⟩, ⟨6000000, .start⟩, ⟨7000000, .readCounts⟩]

theorem counting_modes_indistinct_acrossBuckets :
    (∀ x ∈ acrossBuckets, FirstWindow 0 10 x.time) ∧
      { twoStrikes with closedWindowIntervalMs := 10, bucketPeriodMs := 3 }.isRolling = true ∧
      (run twoStrikes Backend.generic.classify 0 acrossBuckets).record =
        [⟨"default", .closed, .opened⟩, ⟨"default", .opened, .halfOpen⟩,
          ⟨"default", .halfOpen, .closed⟩] ∧
      Indistinct { twoStrikes with closedWindowIntervalMs := 0 }
          { twoStrikes with closedWindowIntervalMs := 10, bucketPeriodMs := 0 }
          Backend.generic.classify 0 acrossBuckets ∧
        Indistinct { twoStrikes with closedWindowIntervalMs := 0 }
          { twoStrikes with closedWindowIntervalMs := 10, bucketPeriodMs := 3 }
          Backend.generic.classify 0 acrossBuckets := by
  have hFirst : ∀ x ∈ acrossBuckets, FirstWindow 0 10 x.time := by decide
  have hModes := counting_modes_indistinct twoStrikes (by decide) Backend.generic.classify 0 10 3
    acrossBuckets hFirst (by decide)
  exact ⟨hFirst, by decide, by decide, hModes⟩

end Service

end CallGuard
