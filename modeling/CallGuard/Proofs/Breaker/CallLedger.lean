import CallGuard.Proofs.Breaker.CallPaths
import CallGuard.Proofs.Breaker.PassThrough

/-!
# The ledger of calls

The users of a breaker keep a ledger: for every call that was started, what they know has become of
it. The metrics of the breaker tell the same. Each call that was rejected or came to its end is
counted once, under the label that its error or its result calls for, whatever generation it was
admitted in; no other call is counted.
-/

namespace CallGuard

def Notice.label? : Notice → Option Series
  | rejected breaker reason => some (.rejections breaker reason)
  | booked breaker outcome => some (.calls breaker outcome)
  | _ => none

def Series.isOfCalls : Series → Bool
  | rejections _ _ | calls _ _ => true
  | _ => false

theorem Metrics.total_of_labels {series : Series} (hCalls : series.isOfCalls = true)
    (journal : List Notice) :
    (ofNotices journal).total series = (journal.filterMap Notice.label?).count series := by
  rw [total_ofNotices (by rintro name rfl; nomatch hCalls), List.count, List.countP_filterMap]
  apply List.countP_congr
  intro n _
  cases n with
  | rejected | booked => simp [Notice.counter?, Notice.label?]
  | _ => cases series <;> simp_all [Notice.counter?, Notice.label?, Series.isOfCalls]

def CallError.label? : CallError → Option Series
  | opened breaker => some (.rejections breaker .opened)
  | tooManyProbes breaker => some (.rejections breaker .tooManyProbes)
  | operation _ => none

theorem CallError.label?_ofRejection (breaker : String) (reason : Rejection) :
    (ofRejection breaker reason).label? = some (.rejections breaker reason) := by
  cases reason <;> rfl

theorem Breaker.labels_notices (s : BreakerSettings) (signals : List Signal) :
    (notices s signals).filterMap Notice.label? = [] := by
  rw [notices, List.filterMap_map, List.filterMap_eq_nil_iff]
  rintro signal -
  cases signal <;> rfl

namespace Service

variable {α : Type}

/-- What has become of a call, as far as its user knows. -/
inductive Standing (α : Type) where
  | inFlight
  | rejected (error : CallError)
  | finished (result : Except Fault α)
  | dropped
deriving DecidableEq

namespace Standing

def isInFlight : Standing α → Bool
  | inFlight => true
  | _ => false

def isRejected : Standing α → Bool
  | rejected _ => true
  | _ => false

def isDropped : Standing α → Bool
  | dropped => true
  | _ => false

def label? (breaker : String) (classifier : Classifier) : Standing α → Option Series
  | rejected e => e.label?
  | finished result => some (.calls breaker (Breaker.outcomeOf classifier result))
  | inFlight | dropped => none

def enter (use : Use α) (answer : Answer α) (ledger : List (Standing α)) : List (Standing α) :=
  match use, answer with
  | .start, .ended (.error e) => ledger ++ [rejected e]
  | .start, _ => ledger ++ [inFlight]
  | .finish k result, .ended _ => ledger.set k (finished result)
  | .drop k, _ => if (ledger[k]?).any isInFlight then ledger.set k dropped else ledger
  | _, _ => ledger

end Standing

def ledgerAfter (v : Service) (ledger : List (Standing α)) : List (Step α) → List (Standing α)
  | [] => ledger
  | x :: rest =>
    ledgerAfter (v.perform x).1 (Standing.enter x.use (v.perform x).2.answer ledger) rest

def admitted (ledger : List (Standing α)) : List Nat :=
  (List.range ledger.length).filter fun k => !(ledger[k]?).any Standing.isRejected

theorem admitted_append (ledger : List (Standing α)) (x : Standing α) :
    admitted (ledger ++ [x]) =
      admitted ledger ++ if x.isRejected then [] else [ledger.length] := by
  have hEarlier : (List.range ledger.length).filter
      (fun k => !((ledger ++ [x])[k]?).any Standing.isRejected) = admitted ledger := by
    apply List.filter_congr
    intro k hk
    rw [List.getElem?_append_left (List.mem_range.mp hk)]
  rw [admitted, List.length_append, List.length_singleton, List.range_succ, List.filter_append,
    hEarlier]
  cases hRejected : x.isRejected <;> simp [hRejected]

theorem admitted_set {ledger : List (Standing α)} {k : Nat} (hFlight : ledger[k]? = some .inFlight)
    {x : Standing α} (hAdmitted : x.isRejected = false) :
    admitted (ledger.set k x) = admitted ledger := by
  unfold admitted
  rw [List.length_set]
  apply List.filter_congr
  intro j _
  obtain ⟨hLength, -⟩ := List.getElem?_eq_some_iff.mp hFlight
  by_cases hSame : k = j
  · subst hSame
    rw [List.getElem?_set_self hLength, hFlight, Option.any_some, hAdmitted]
    rfl
  · rw [List.getElem?_set_ne hSame]

/-- A call in flight has no label yet, so nothing is lost if it gets one. -/
theorem labels_set {ledger : List (Standing α)} {k : Nat} (hFlight : ledger[k]? = some .inFlight)
    (breaker : String) (classifier : Classifier) (x : Standing α) :
    ((ledger.set k x).filterMap (Standing.label? breaker classifier)).Perm
      (ledger.filterMap (Standing.label? breaker classifier) ++
        (x.label? breaker classifier).toList) := by
  obtain ⟨hLength, hGet⟩ := List.getElem?_eq_some_iff.mp hFlight
  have hLedger : ledger = ledger.take k ++ .inFlight :: ledger.drop (k + 1) := by
    rw [← hGet, List.getElem_cons_drop, List.take_append_drop]
  rw [List.set_eq_take_append_cons_drop, if_pos hLength]
  conv => rhs; rw [hLedger]
  have hNone : (Standing.inFlight : Standing α).label? breaker classifier = none := rfl
  simp only [List.filterMap_append, List.filterMap_cons, hNone, List.append_assoc]
  apply List.Perm.append_left
  cases x.label? breaker classifier with
  | none => exact List.Perm.of_eq (List.append_nil _).symm
  | some series => exact (List.perm_append_singleton _ _).symm

inductive Turns (s : BreakerSettings) (classifier : Classifier) (v v' : Service) :
    Use α → Report α → Prop where
  | begun {ticket : Ticket} {signals : List Signal} : v'.tickets = v.tickets ++ [some ticket] →
      v'.invoked = v.invoked ++ [v.tickets.length] →
      Turns s classifier v v' .start ⟨.begun, Breaker.notices s signals⟩
  | rejected {reason : Rejection} {signals : List Signal} : v'.tickets = v.tickets ++ [none] →
      v'.invoked = v.invoked →
      Turns s classifier v v' .start ⟨.ended (.error (.ofRejection s.name reason)),
        Breaker.notices s signals ++ [.rejected s.name reason]⟩
  | finished {k : Nat} {ticket : Ticket} {result : Except Fault α} {signals : List Signal} :
      v.ticket? k = some ticket → v'.tickets = v.tickets.set k none → v'.invoked = v.invoked →
      Turns s classifier v v' (.finish k result) ⟨.ended (result.mapError .operation),
        .booked s.name (Breaker.outcomeOf classifier result) :: Breaker.notices s signals⟩
  | dropped {k : Nat} {ticket : Ticket} {signals : List Signal} :
      v.ticket? k = some ticket → v'.tickets = v.tickets.set k none → v'.invoked = v.invoked →
      Turns s classifier v v' (.drop k) ⟨.silence, Breaker.notices s signals⟩
  | idle {k : Nat} {use : Use α} : (use = .drop k ∨ ∃ result, use = .finish k result) →
      v.ticket? k = none → v'.tickets = v.tickets → v'.invoked = v.invoked →
      Turns s classifier v v' use ⟨.silence, []⟩
  | looked {use : Use α} {answer : Answer α} {signals : List Signal} :
      (use = .readState ∨ use = .readCounts ∨ use = .reset) → (∀ result, answer ≠ .ended result) →
      v'.tickets = v.tickets → v'.invoked = v.invoked →
      Turns s classifier v v' use ⟨answer, Breaker.notices s signals⟩

section Turning

variable {s : BreakerSettings} {classifier : Classifier} {m : Machine} {v : Service}

theorem turns_start (hBreaker : v.breaker = .stateful s classifier m) (now : Instant) :
    Turns s classifier v (v.start (α := α) now).1 .start (v.start (α := α) now).2 := by
  unfold start
  rw [hBreaker, Breaker.start]
  rcases m.enter s now with ⟨reason | permit, m', signals⟩
  · exact .rejected rfl rfl
  · exact .begun rfl rfl

/-- A call that is in flight behind a breaker with a machine holds a permit of it. -/
def Permitted (v : Service) : Prop := ∀ k, v.ticket? k ≠ some none

theorem turns_finish (hBreaker : v.breaker = .stateful s classifier m) (hPermitted : v.Permitted)
    (now : Instant) (k : Nat) (result : Except Fault α) :
    Turns s classifier v (v.finish now k result).1 (.finish k result)
      (v.finish now k result).2 := by
  unfold finish
  cases hTicket : v.ticket? k with
  | none => exact .idle (.inr ⟨result, rfl⟩) hTicket rfl rfl
  | some ticket =>
    cases ticket with
    | none => exact absurd hTicket (hPermitted k)
    | some permit =>
      rw [hBreaker]
      exact .finished hTicket rfl rfl

theorem turns_drop (hBreaker : v.breaker = .stateful s classifier m) (hPermitted : v.Permitted)
    (now : Instant) (k : Nat) :
    Turns s classifier v (v.drop (α := α) now k).1 (.drop k) (v.drop (α := α) now k).2 := by
  unfold drop
  cases hTicket : v.ticket? k with
  | none => exact .idle (.inl rfl) hTicket rfl rfl
  | some ticket =>
    cases ticket with
    | none => exact absurd hTicket (hPermitted k)
    | some permit =>
      rw [hBreaker]
      exact .dropped hTicket rfl rfl

theorem turns_serve (hBreaker : v.breaker = .stateful s classifier m)
    (hPermitted : v.Permitted) (x : Step α) :
    Turns s classifier v (v.serve x).1 x.use (v.serve x).2 := by
  obtain ⟨now, use⟩ := x
  cases use with
  | start => exact turns_start hBreaker now
  | finish k result => exact turns_finish hBreaker hPermitted now k result
  | drop k => exact turns_drop hBreaker hPermitted now k
  | readState =>
    simp only [serve, readState, hBreaker]
    exact .looked (.inl rfl) (by simp) rfl rfl
  | readCounts =>
    simp only [serve, readCounts, hBreaker]
    exact .looked (.inr (.inl rfl)) (by simp) rfl rfl
  | reset =>
    simp only [serve, reset, hBreaker]
    exact .looked (.inr (.inr rfl)) (by simp) rfl rfl

end Turning

section Ledgers

variable {s : BreakerSettings} {classifier : Classifier} {v v' : Service} {use : Use α}
variable {report : Report α} {ledger : List (Standing α)} {w : Session}

theorem Turns.writes (hTurns : Turns s classifier v v' use report) (journal : List Notice) :
    Turns s classifier v { v' with journal := journal } use report := by
  cases hTurns <;> constructor <;> assumption

theorem Backed.permitted (hBacked : Backed s classifier v w) : v.Permitted := by
  intro k hTicket
  rw [hBacked.ticket?_eq] at hTicket
  cases hCall : w.call? k <;> simp [hCall] at hTicket

theorem Backed.turns (hBacked : Backed s classifier v w) (x : Step α) :
    Turns s classifier v (v.perform x).1 x.use (v.perform x).2 :=
  (turns_serve hBacked.breaker hBacked.permitted x).writes _

/-- A ledger that is right about the calls, and by which the counters are right. -/
structure Kept (s : BreakerSettings) (classifier : Classifier) (v : Service)
    (ledger : List (Standing α)) : Prop where
  flights : v.flights = ledger.map Standing.isInFlight
  invoked : v.invoked = admitted ledger
  labels : (v.journal.filterMap Notice.label?).Perm
    (ledger.filterMap (Standing.label? s.name classifier))
  rejected : ∀ e, .rejected e ∈ ledger → ∃ reason, e = .ofRejection s.name reason

namespace Kept

theorem length_tickets (hKept : Kept s classifier v ledger) :
    v.tickets.length = ledger.length := by
  simpa [Service.flights] using congrArg List.length hKept.flights

theorem inFlight_iff (hKept : Kept s classifier v ledger) (k : Nat) :
    ledger[k]? = some .inFlight ↔ (v.ticket? k).isSome := by
  rw [← flights_getElem?, hKept.flights, List.getElem?_map]
  rcases ledger[k]? with _ | _ | _ | _ | _ <;> simp [Standing.isInFlight]

theorem entered (hKept : Kept s classifier v ledger) {ticket : Option Ticket} {x : Standing α}
    (hTickets : v'.tickets = v.tickets ++ [ticket]) (hTicket : ticket.isSome = x.isInFlight)
    (hInvoked : v'.invoked = v.invoked ++ if x.isRejected then [] else [v.tickets.length])
    (hLabels : v'.journal.filterMap Notice.label? =
      v.journal.filterMap Notice.label? ++ (x.label? s.name classifier).toList)
    (hRejected : ∀ e, x = .rejected e → ∃ reason, e = .ofRejection s.name reason) :
    Kept s classifier v' (ledger ++ [x]) := by
  constructor
  · rw [Service.flights, hTickets, List.map_append, List.map_append]
    exact congrArg₂ _ hKept.flights (congrArg List.singleton hTicket)
  · rw [admitted_append, hInvoked, hKept.invoked, hKept.length_tickets]
  · have hSingle : [x].filterMap (Standing.label? s.name classifier) =
        (x.label? s.name classifier).toList := by
      cases hLabel : x.label? s.name classifier <;> simp [hLabel]
    rw [hLabels, List.filterMap_append, hSingle]
    exact hKept.labels.append_right _
  · intro e hMem
    rcases List.mem_append.mp hMem with hEarlier | hLast
    · exact hKept.rejected e hEarlier
    · exact hRejected e (List.mem_singleton.mp hLast).symm

/-- What is entered about a call that was in flight replaces what was known of it. -/
theorem settled (hKept : Kept s classifier v ledger) {k : Nat} {x : Standing α}
    (hTicket : (v.ticket? k).isSome) (hOver : x.isInFlight = false)
    (hAdmitted : x.isRejected = false) (hTickets : v'.tickets = v.tickets.set k none)
    (hInvoked : v'.invoked = v.invoked)
    (hLabels : v'.journal.filterMap Notice.label? =
      v.journal.filterMap Notice.label? ++ (x.label? s.name classifier).toList) :
    Kept s classifier v' (ledger.set k x) := by
  have hFlight := (hKept.inFlight_iff k).mpr hTicket
  constructor
  · rw [Service.flights, hTickets, List.map_set, List.map_set, hOver]
    exact congrArg (List.set · k false) hKept.flights
  · rw [admitted_set hFlight hAdmitted, hInvoked, hKept.invoked]
  · rw [hLabels]
    exact (hKept.labels.append_right _).trans (labels_set hFlight _ _ x).symm
  · intro e hMem
    rcases List.mem_or_eq_of_mem_set hMem with hEarlier | rfl
    · exact hKept.rejected e hEarlier
    · cases hAdmitted

theorem untouched (hKept : Kept s classifier v ledger) (hTickets : v'.tickets = v.tickets)
    (hInvoked : v'.invoked = v.invoked)
    (hLabels : v'.journal.filterMap Notice.label? = v.journal.filterMap Notice.label?) :
    Kept s classifier v' ledger := by
  constructor
  · rw [Service.flights, hTickets]
    exact hKept.flights
  · rw [hInvoked, hKept.invoked]
  · rw [hLabels]
    exact hKept.labels
  · exact hKept.rejected

/-- Every step keeps the ledger right, if its users enter what they learn. -/
theorem turns (hKept : Kept s classifier v ledger) (hTurns : Turns s classifier v v' use report)
    (hJournal : v'.journal = v.journal ++ report.notices) :
    Kept s classifier v' (Standing.enter use report.answer ledger) := by
  have hLabels : v'.journal.filterMap Notice.label? =
      v.journal.filterMap Notice.label? ++ report.notices.filterMap Notice.label? := by
    rw [hJournal, List.filterMap_append]
  have hSignals := Breaker.labels_notices s
  cases hTurns with
  | @begun _ signals hTickets hInvoked =>
    rw [hSignals] at hLabels
    exact hKept.entered hTickets rfl hInvoked hLabels nofun
  | @rejected reason signals hTickets hInvoked =>
    rw [List.filterMap_append, hSignals] at hLabels
    apply hKept.entered hTickets rfl (hInvoked.trans (List.append_nil _).symm)
    · rw [hLabels, Standing.label?, CallError.label?_ofRejection]
      rfl
    · rintro e hSame
      exact ⟨reason, (Standing.rejected.inj hSame).symm⟩
  | @finished k ticket result signals hTicket hTickets hInvoked =>
    rw [List.filterMap_cons, hSignals] at hLabels
    exact hKept.settled (x := .finished result) (by simp [hTicket]) rfl rfl hTickets hInvoked
      hLabels
  | @dropped k ticket signals hTicket hTickets hInvoked =>
    have hFlight := (hKept.inFlight_iff k).mpr (by simp [hTicket])
    rw [hSignals] at hLabels
    simp only [Standing.enter, hFlight, Option.any_some, Standing.isInFlight, if_true]
    exact hKept.settled (by simp [hTicket]) rfl rfl hTickets hInvoked hLabels
  | @idle k _ hUse hTicket hTickets hInvoked =>
    have hKept' := hKept.untouched hTickets hInvoked (hLabels.trans (List.append_nil _))
    rcases hUse with rfl | ⟨result, rfl⟩
    · have hFlight := (hKept.inFlight_iff k).not.mpr (by simp [hTicket])
      have hIdle : (ledger[k]?).any Standing.isInFlight = false := by
        rcases hAt : ledger[k]? with _ | _ | _ | _ | _ <;> simp_all [Standing.isInFlight]
      simp only [Standing.enter, hIdle]
      exact hKept'
    · exact hKept'
  | @looked _ answer signals hUse hAnswer hTickets hInvoked =>
    rw [hSignals, List.append_nil] at hLabels
    have hKept' := hKept.untouched hTickets hInvoked hLabels
    rcases hUse with rfl | rfl | rfl <;> exact hKept'

end Kept

theorem length_enter (use : Use α) (answer : Answer α) (ledger : List (Standing α)) :
    (Standing.enter use answer ledger).length =
      ledger.length + if use.isStart then 1 else 0 := by
  cases use with
  | start => rcases answer with _ | (_ | _) | _ | _ | _ <;> simp [Standing.enter, Use.isStart]
  | finish => cases answer <;> simp [Standing.enter, Use.isStart]
  | drop =>
    simp only [Standing.enter]
    split <;> simp [Use.isStart]
  | readState | readCounts | reset => rfl

def counted (breaker : String) (classifier : Classifier) (ledger : List (Standing α))
    (series : Series) : Nat :=
  ledger.countP fun x => x.label? breaker classifier = some series

/-- Every call in a ledger is in flight, dropped or counted, and none is two of these. -/
theorem length_ledger (breaker : String) (classifier : Classifier)
    (hRejected : ∀ e, .rejected e ∈ ledger → ∃ reason, e = .ofRejection breaker reason) :
    ledger.length =
      (counted breaker classifier ledger (.calls breaker .success) +
          counted breaker classifier ledger (.calls breaker .ignored) +
          counted breaker classifier ledger (.calls breaker .failure)) +
        (counted breaker classifier ledger (.rejections breaker .opened) +
          counted breaker classifier ledger (.rejections breaker .tooManyProbes)) +
        ledger.countP Standing.isInFlight + ledger.countP Standing.isDropped := by
  induction ledger with
  | nil => rfl
  | cons x ledger ih =>
    have hEarlier := ih fun e hMem => hRejected e (List.mem_cons_of_mem x hMem)
    simp only [counted, List.length_cons, List.countP_cons] at hEarlier ⊢
    -- The head is in one of the classes, and the other classes gain nothing from it.
    have hHead : 1 = (if x.isInFlight then 1 else 0) + (if x.isDropped then 1 else 0) +
        ((if x.label? breaker classifier = some (.calls breaker .success) then 1 else 0) +
          (if x.label? breaker classifier = some (.calls breaker .ignored) then 1 else 0) +
          (if x.label? breaker classifier = some (.calls breaker .failure) then 1 else 0)) +
        ((if x.label? breaker classifier = some (.rejections breaker .opened) then 1 else 0) +
          (if x.label? breaker classifier = some (.rejections breaker .tooManyProbes) then 1
            else 0)) := by
      cases x with
      | inFlight | dropped => rfl
      | rejected e =>
        obtain ⟨reason, rfl⟩ := hRejected e List.mem_cons_self
        cases reason <;> simp [Standing.label?, CallError.label?_ofRejection, Standing.isInFlight,
          Standing.isDropped]
      | finished result =>
        cases hOutcome : Breaker.outcomeOf classifier result <;>
          simp [Standing.label?, hOutcome, Standing.isInFlight, Standing.isDropped]
    simp only [decide_eq_true_eq]
    omega

theorem Kept.total (hKept : Kept s classifier v ledger) {series : Series}
    (hCalls : series.isOfCalls = true) :
    (Metrics.ofNotices v.journal).total series = counted s.name classifier ledger series := by
  rw [Metrics.total_of_labels hCalls, hKept.labels.count_eq, List.count, List.countP_filterMap]
  apply List.countP_congr
  intro x _
  cases x.label? s.name classifier <;> simp

theorem kept_after (hBacked : Backed s classifier v w) (hKept : Kept s classifier v ledger)
    (steps : List (Step α)) :
    Kept s classifier (v.after steps) (ledgerAfter v ledger steps) := by
  induction steps generalizing v w ledger with
  | nil => exact hKept
  | cons x rest ih =>
    exact ih (hBacked.perform x).1 (hKept.turns (hBacked.turns x) (perform_journal x v))

theorem length_ledgerAfter (v : Service) (ledger : List (Standing α)) (steps : List (Step α)) :
    (ledgerAfter v ledger steps).length =
      ledger.length + steps.countP fun x => x.use.isStart := by
  induction steps generalizing v ledger with
  | nil => rfl
  | cons x rest ih =>
    rw [ledgerAfter, ih, length_enter, List.countP_cons]
    omega

end Ledgers

section Pieces

variable {ε : Type} [ErrorType ε] {v : Service} {now : Instant}

def Use.ends (k : Nat) : Use α → Bool
  | finish j _ | drop j => j == k
  | _ => false

theorem serve_writes (v : Service) (journal : List Notice) (x : Step α) :
    ({ v with journal := journal } : Service).serve x =
      ({ (v.serve x).1 with journal := journal }, (v.serve x).2) := by
  obtain ⟨now, use⟩ := x
  cases use with
  | start =>
    simp only [serve, start]
    rcases v.breaker.start now with ⟨_ | _, _, _⟩ <;> rfl
  | finish k result =>
    simp only [serve, finish, ticket?]
    cases (v.tickets[k]?).join <;> rfl
  | drop k =>
    simp only [serve, drop, ticket?]
    cases (v.tickets[k]?).join <;> rfl
  | readState | readCounts | reset => rfl

/-- What has been written down does not matter to the users; what follows is added to it. -/
theorem after_writes (v : Service) (journal : List Notice) (steps : List (Step α)) :
    (({ v with journal := journal ++ v.journal } : Service).after steps) =
      { v.after steps with journal := journal ++ (v.after steps).journal } := by
  induction steps generalizing v with
  | nil => rfl
  | cons x rest ih =>
    have hPerform : (({ v with journal := journal ++ v.journal } : Service).perform x).1 =
        { (v.perform x).1 with journal := journal ++ (v.perform x).1.journal } := by
      simp only [perform, serve_writes, serve_journal, List.append_assoc]
    exact (congrArg (after · rest) hPerform).trans (ih _)

theorem perform_ticket? {k : Nat} (hStarted : k < v.tickets.length) {x : Step α}
    (hOpen : x.use.ends k = false) :
    (v.perform x).1.ticket? k = v.ticket? k ∧ k < (v.perform x).1.tickets.length := by
  obtain ⟨now, use⟩ := x
  have hSet (j : Nat) (hOther : (j == k) = false) :
      (((v.tickets.set j none)[k]?).join : Option Ticket) = (v.tickets[k]?).join := by
    rw [List.getElem?_set_ne (by simpa using hOther)]
  simp only [perform, ticket?]
  cases use with
  | start =>
    simp only [serve, start]
    rcases v.breaker.start now with ⟨_ | _, _, _⟩
    all_goals
      constructor
      · exact congrArg Option.join (List.getElem?_append_left hStarted)
      · exact (List.length_append ▸ Nat.lt_add_right _ hStarted)
  | finish j result =>
    simp only [serve, finish]
    cases v.ticket? j with
    | none => exact ⟨rfl, hStarted⟩
    | some ticket => exact ⟨hSet j hOpen, hStarted.trans_eq List.length_set.symm⟩
  | drop j =>
    simp only [serve, drop]
    cases v.ticket? j with
    | none => exact ⟨rfl, hStarted⟩
    | some ticket => exact ⟨hSet j hOpen, hStarted.trans_eq List.length_set.symm⟩
  | readState | readCounts | reset => exact ⟨rfl, hStarted⟩

theorem after_ticket? {k : Nat} (hStarted : k < v.tickets.length) {steps : List (Step α)}
    (hOpen : ∀ x ∈ steps, x.use.ends k = false) : (v.after steps).ticket? k = v.ticket? k := by
  induction steps generalizing v with
  | nil => rfl
  | cons x rest ih =>
    obtain ⟨hNow, hRest⟩ := List.forall_mem_cons.mp hOpen
    obtain ⟨hTicket, hLength⟩ := perform_ticket? hStarted hNow
    exact (ih hLength hRest).trans hTicket

theorem perform_finish {k : Nat} {ticket : Ticket} (hTicket : v.ticket? k = some ticket)
    (now : Instant) (result : Except Fault α) :
    let finished := v.breaker.finish now ticket result
    v.perform ⟨now, .finish k result⟩ =
      (⟨finished.2.1, v.tickets.set k none, v.invoked, v.journal ++ finished.2.2⟩,
        ⟨.ended (result.mapError .operation), finished.2.2⟩) := by
  simp only [perform, serve, finish, hTicket, Breaker.finish_result]

def bystanders (v : Service) (steps : List (Step α)) : Bystanders := fun since _ b =>
  let w := ({ (v.perform (⟨since, .start⟩ : Step α)).1 with
    breaker := b, journal := [] } : Service).after steps
  (w.breaker, w.journal)

/-- A call made in one piece is one that is started and, if it is admitted, finished after what
the others have done. -/
structure InPieces (v : Service) (now : Instant) (others : List (Step α))
    (result : Except Fault α) (called : Called CallError α) : Prop where
  refused : called.invoked = false →
    (v.perform (⟨now, .start⟩ : Step α)).1.breaker = called.breaker ∧
      (v.perform (⟨now, .start⟩ : Step α)).2 = ⟨.ended called.result, called.notices⟩
  admitted : called.invoked = true →
    (v.perform (⟨now, .start⟩ : Step α)).2.answer = .begun ∧
      let w := v.after (⟨now, .start⟩ :: others)
      let ended := w.perform ⟨called.finished, .finish v.tickets.length result⟩
      ended.2.answer = .ended called.result ∧ ended.1.breaker = called.breaker ∧
        ended.1.journal = v.journal ++ called.notices

theorem callAmong_inPieces (v : Service) (now : Instant) (operation : Operation α)
    {others : List (Step α)} (hOthers : ∀ x ∈ others, x.use.ends v.tickets.length = false) :
    InPieces v now others (operation now).1
      (v.breaker.callAmong (v.bystanders others) now operation) := by
  rcases hStart : v.breaker.start now with ⟨e | ticket, b, notices⟩
  · simp only [Breaker.callAmong, hStart]
    constructor
    · intro _
      simp only [perform, serve, start, hStart, and_self]
    · rintro ⟨⟩
  · have hBegun : (v.perform (⟨now, .start⟩ : Step α)).1 =
        ⟨b, v.tickets ++ [some ticket], v.invoked ++ [v.tickets.length],
          v.journal ++ notices⟩ := by
      simp only [perform, serve, start, hStart]
    let begun : Service := ⟨b, v.tickets ++ [some ticket], v.invoked ++ [v.tickets.length], []⟩
    have hAfter : v.after (⟨now, .start⟩ :: others) =
        { begun.after others with
          journal := v.journal ++ notices ++ (begun.after others).journal } := by
      rw [← after_writes]
      exact congrArg (after · others) (hBegun.trans (by simp [begun]))
    have hTicket : (begun.after others).ticket? v.tickets.length = some ticket := by
      rw [after_ticket? (by simp [begun]) hOthers]
      simp [begun, ticket?]
    simp only [Breaker.callAmong, hStart]
    constructor
    · rintro ⟨⟩
    · intro _
      have hBystanders : v.bystanders others now (operation now).2 b =
          ((begun.after others).breaker, (begun.after others).journal) := by
        simp only [bystanders, hBegun, begun]
      have hAnswer : (v.perform (⟨now, .start⟩ : Step α)).2.answer = .begun := by
        simp only [perform, serve, start, hStart]
      simp only [hAfter, hBystanders]
      rw [perform_finish (by exact hTicket)]
      simp only [hAnswer, Breaker.finish_result, List.append_assoc, and_self]

theorem executeAmong_inPieces (v : Service) (now : Instant) (work : Work ε α)
    {others : List (Step α)} (hOthers : ∀ x ∈ others, x.use.ends v.tickets.length = false) :
    InPieces v now others (work.boxed now).1
      ((v.breaker.executeAmong (v.bystanders others) now work).reshape
        (Except.mapError Failed.boxed)) := by
  rw [← Breaker.callAmong_boxed]
  exact callAmong_inPieces v now work.boxed hOthers

end Pieces

section Runs

variable (s : BreakerSettings) (classifier : Classifier) (created : Instant)

def ledgerOf (steps : List (Step α)) : List (Standing α) :=
  ledgerAfter (create s classifier created) [] steps

def labelled (steps : List (Step α)) (series : Series) : Nat :=
  (Metrics.ofNotices (run s classifier created steps).journal).total series

/-- The books of a breaker balance, and every entry in them is the right one. -/
structure Accounted (steps : List (Step α)) : Prop where
  balance : (steps.countP fun x => x.use.isStart) =
    (labelled s classifier created steps (.calls s.name .success) +
        labelled s classifier created steps (.calls s.name .ignored) +
        labelled s classifier created steps (.calls s.name .failure)) +
      (labelled s classifier created steps (.rejections s.name .opened) +
        labelled s classifier created steps (.rejections s.name .tooManyProbes)) +
      (run s classifier created steps).tickets.countP Option.isSome +
      (ledgerOf s classifier created steps).countP Standing.isDropped
  labels : ∀ series, series.isOfCalls = true → labelled s classifier created steps series =
    counted s.name classifier (ledgerOf s classifier created steps) series
  inFlight : (run s classifier created steps).flights =
    (ledgerOf s classifier created steps).map Standing.isInFlight
  invoked : (run s classifier created steps).invoked =
    admitted (ledgerOf s classifier created steps)
  turns : ∀ earlier x later, steps = earlier ++ x :: later →
    Turns s classifier (run s classifier created earlier)
      (run s classifier created (earlier ++ [x])) x.use
      ((run s classifier created earlier).perform x).2
  pieces : ∀ (ε : Type) [ErrorType ε] (work : Work ε α) (now : Instant) (others : List (Step α)),
    let v := run s classifier created steps
    (∀ x ∈ others, x.use.ends v.tickets.length = false) →
      InPieces v now others (work.boxed now).1
          (v.breaker.callAmong (v.bystanders others) now work.boxed) ∧
        InPieces v now others (work.boxed now).1
          ((v.breaker.executeAmong (v.bystanders others) now work).reshape
            (Except.mapError Failed.boxed))

variable {s}

/-- Each call that was started is accounted for once and as what it was. -/
theorem calls_accounted (hEnabled : s.enabled = true) (steps : List (Step α)) :
    Accounted s classifier created steps := by
  have hBacked := create_backed classifier created hEnabled
  have hJournal : (create s classifier created).journal = [.created s] := by
    simp [create, Breaker.create, hEnabled]
  have hFirst : Kept s classifier (create s classifier created) ([] : List (Standing α)) := by
    constructor
    · rfl
    · rfl
    · rw [hJournal]
      exact .nil
    · rintro e ⟨⟩
  have hKept : Kept s classifier (run s classifier created steps)
      (ledgerOf s classifier created steps) := kept_after hBacked hFirst steps
  constructor
  · have hFlights : (run s classifier created steps).tickets.countP Option.isSome =
        (ledgerOf s classifier created steps).countP Standing.isInFlight := by
      have hCount := congrArg (List.countP id) hKept.flights
      rwa [flights, List.countP_map, List.countP_map] at hCount
    have hStarted : (ledgerOf s classifier created steps).length =
        steps.countP fun x => x.use.isStart :=
      (length_ledgerAfter _ _ steps).trans (Nat.zero_add _)
    have hCalls (o : Outcome) := hKept.total (rfl : (Series.calls s.name o).isOfCalls = true)
    have hRejections (reason : Rejection) :=
      hKept.total (rfl : (Series.rejections s.name reason).isOfCalls = true)
    simp only [labelled, hCalls, hRejections]
    rw [hFlights, ← hStarted]
    exact length_ledger s.name classifier hKept.rejected
  · exact fun series hCalls => hKept.total hCalls
  · exact hKept.flights
  · exact hKept.invoked
  · intro earlier x later _
    rw [run_append_singleton]
    exact (run_backed classifier created hEnabled earlier).turns x
  · intro ε _ work now others v hOthers
    exact ⟨callAmong_inPieces v now work.boxed hOthers, executeAmong_inPieces v now work hOthers⟩

end Runs

def strict : BreakerSettings :=
  { BreakerSettings.standard with
    openTimeoutMs := 10, maxHalfOpenRequests := 1, consecutiveFailureThreshold := 1 }

/-- Of three calls one trips the breaker, one outlives that and one is dropped afterwards. Of the
later ones two come at a bad time, one is a probe that is dropped and one is still on its way. -/
def mixedFortunes : List (Step Nat) :=
  [⟨0, .start⟩, ⟨0, .start⟩, ⟨0, .start⟩, ⟨1000000, .finish 0 (.error (.plain "boom"))⟩,
    ⟨2000000, .start⟩, ⟨2000000, .finish 1 (.ok 7)⟩, ⟨20000000, .start⟩, ⟨20000000, .start⟩,
    ⟨21000000, .drop 2⟩, ⟨22000000, .drop 4⟩, ⟨23000000, .start⟩, ⟨23000000, .readCounts⟩]

theorem calls_accounted_mixedFortunes :
    strict.enabled = true ∧
      ledgerOf strict Backend.generic.classify 0 mixedFortunes =
        [.finished (.error (.plain "boom")), .finished (.ok 7), .dropped,
          .rejected (.opened strict.name), .dropped, .rejected (.tooManyProbes strict.name),
          .inFlight] ∧
      Accounted strict Backend.generic.classify 0 mixedFortunes := by
  have hAccounted := calls_accounted (s := strict) Backend.generic.classify 0 (by decide)
    mixedFortunes
  exact ⟨by decide, by decide, hAccounted⟩

end Service

end CallGuard
