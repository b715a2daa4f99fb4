import CallGuard.Proofs.Breaker.Service
import CallGuard.Proofs.Journal.Series
import Mathlib.Data.List.Basic
import Mathlib.Data.List.Chain

/-!
# The record of transitions

Whatever the users of a breaker do, the transitions that are announced lead, one after the other,
from the closed state to the state the breaker is in. They take no way that is not in the diagram of
states, and only a reset leads from open straight to closed. Gauge and counters show the same.
-/

namespace CallGuard

/-- The transitions there are; one of them takes a reset. -/
inductive Leads (byReset : Prop) : State → State → Prop where
  | trips : Leads byReset .closed .opened
  | probes : Leads byReset .opened .halfOpen
  | recovers : Leads byReset .halfOpen .closed
  | reopens : Leads byReset .halfOpen .opened
  | reset : byReset → Leads byReset .opened .closed

namespace Leads

variable {byReset byReset' : Prop} {a b : State}

theorem weaken (hWeak : byReset → byReset') (hLeads : Leads byReset a b) :
    Leads byReset' a b := by
  cases hLeads with
  | trips => exact .trips
  | probes => exact .probes
  | recovers => exact .recovers
  | reopens => exact .reopens
  | reset hReset => exact .reset (hWeak hReset)

theorem ne (hLeads : Leads byReset a b) : a ≠ b := by
  cases hLeads <;> nofun

theorem not_closed_halfOpen : ¬ Leads byReset .closed .halfOpen := nofun

theorem by_reset (hLeads : Leads byReset .opened .closed) : byReset := by
  cases hLeads with
  | reset hReset => exact hReset

end Leads

inductive Way (breaker : String) (byReset : Prop) : State → List Change → State → Prop where
  | nil (a : State) : Way breaker byReset a [] a
  | cons {a b c : State} {changes : List Change} : Leads byReset a b →
      Way breaker byReset b changes c → Way breaker byReset a (⟨breaker, a, b⟩ :: changes) c

namespace Way

variable {breaker : String} {byReset : Prop} {a b c : State} {earlier later changes : List Change}

theorem single (hLeads : Leads byReset a b) : Way breaker byReset a [⟨breaker, a, b⟩] b :=
  .cons hLeads (.nil b)

theorem append (h : Way breaker byReset a earlier b) (h' : Way breaker byReset b later c) :
    Way breaker byReset a (earlier ++ later) c := by
  induction h with
  | nil => exact h'
  | cons hLeads _ ih => exact .cons hLeads (ih h')

theorem weaken {byReset' : Prop} (hWeak : byReset → byReset')
    (h : Way breaker byReset a changes b) : Way breaker byReset' a changes b := by
  induction h with
  | nil => exact .nil _
  | cons hLeads _ ih => exact .cons (hLeads.weaken hWeak) ih

theorem head (h : Way breaker byReset a changes b) : ∀ c ∈ changes.head?, c.source = a := by
  cases h with
  | nil => simp
  | cons => simp

theorem linked (h : Way breaker byReset a changes b) :
    changes.IsChain fun c d => d.source = c.target := by
  induction h with
  | nil => exact .nil
  | cons _ hRest ih => exact List.isChain_cons.mpr ⟨hRest.head, ih⟩

theorem last (h : Way breaker byReset a changes b) :
    (changes.getLast?.map Change.target).getD a = b := by
  induction h with
  | nil => rfl
  | @cons a b c changes _ _ ih =>
    rw [List.getLast?_cons, ← ih]
    cases changes.getLast? <;> rfl

theorem leads_of_mem (h : Way breaker byReset a changes b) :
    ∀ c ∈ changes, c.breaker = breaker ∧ Leads byReset c.source c.target := by
  induction h with
  | nil => simp
  | cons hLeads _ ih => exact List.forall_mem_cons.mpr ⟨⟨rfl, hLeads⟩, ih⟩

end Way

def Signal.change? (breaker : String) : Signal → Option Change
  | .windowElapsed => none
  | .changed source target => some ⟨breaker, source, target⟩

theorem Breaker.changes_notices (s : BreakerSettings) (signals : List Signal) :
    Notice.changes (notices s signals) = signals.filterMap (Signal.change? s.name) := by
  rw [Notice.changes, notices, List.filterMap_map]
  apply List.filterMap_congr
  intro signal _
  cases signal <;> rfl

theorem Machine.Books.way {s : BreakerSettings} {now : Instant} {m m' : Machine} {o : Outcome}
    {signals : List Signal} (breaker : String) (hBooks : Books s now m o m' signals) :
    Way breaker False m.state (signals.filterMap (Signal.change? breaker)) m'.state := by
  cases hBooks with
  | unheard | succeeds | fails | probeSucceeds => exact .nil _
  | trips hState =>
    rw [hState]
    exact .single .trips
  | recovers hState =>
    rw [hState]
    exact .single .recovers
  | probeFails hState =>
    rw [hState]
    exact .single .reopens

namespace Session

variable {s : BreakerSettings} {now : Instant} {w w' r : Session} {signals : List Signal}

theorem Elapses.way (breaker : String) (hElapses : Elapses s now w r signals) :
    Way breaker False w.machine.state (signals.filterMap (Signal.change? breaker))
      r.machine.state := by
  cases hElapses with
  | still => exact .nil _
  | window _ hState =>
    rw [hState]
    exact .nil _
  | probing _ hState =>
    rw [hState]
    exact .single .probes

theorem Acts.way {a : Action} {answer : Answer} (breaker : String)
    (hActs : Acts s now r a w' answer signals) :
    Way breaker False r.machine.state (signals.filterMap (Signal.change? breaker))
      w'.machine.state := by
  cases hActs with
  | refused | admitted | stale | stateRead | countsRead => exact .nil _
  | dropped => exact r.machine.release_state ▸ .nil _
  | booked _ _ hBooks => exact r.machine.release_state ▸ hBooks.way breaker

/-- What a step announces leads from the state before it to the state after it. -/
theorem Performs.way {x : Step} {report : Report} (breaker : String)
    (hPerforms : Performs s x w w' report) :
    Way breaker (x.action = .reset) w.machine.state
      (report.signals.filterMap (Signal.change? breaker)) w'.machine.state := by
  cases hPerforms with
  | idle => exact .nil _
  | reset hReset =>
    rw [renewed_machine, Machine.renew_state]
    cases hState : w.machine.state with
    | closed => exact .nil _
    | opened => exact .single (.reset hReset)
    | halfOpen => exact .single .recovers
  | acts hActs =>
    rw [List.filterMap_append]
    have hWay := ((elapses_refreshed s x.time w).way breaker).append (hActs.way breaker)
    exact hWay.weaken False.elim

end Session

/-- The state of a breaker as it is stored, whatever time it is. -/
def Breaker.stored : Breaker → State
  | disabled _ => .closed
  | stateful _ _ m => m.state

namespace Service

variable {α : Type}

def record (v : Service) : List Change := Notice.changes v.journal

section Steps

variable {s : BreakerSettings} {classifier : Classifier} {w : Session} {use : Use α}
variable {seen : Session.Report} {report : Report α}

theorem Renders.changes (hRenders : Renders s classifier w use seen report) :
    Notice.changes report.notices = seen.signals.filterMap (Signal.change? s.name) := by
  have hNotices := Breaker.changes_notices s
  cases hRenders with
  | begun | dropped | state | counts | reset => exact hNotices _
  | refused =>
    rw [Notice.changes_append, hNotices]
    exact List.append_nil _
  | finished => exact hNotices _
  | idle => rfl

/-- Once a breaker is created, only its transitions set its gauge. -/
theorem Renders.shown (hRenders : Renders s classifier w use seen report) :
    report.notices.filterMap (Notice.shown? s.name) =
      (Notice.changes report.notices).map Change.target := by
  have hSignals (signals : List Signal) :
      (Breaker.notices s signals).filterMap (Notice.shown? s.name) =
        (Notice.changes (Breaker.notices s signals)).map Change.target := by
    rw [Breaker.changes_notices, Breaker.notices, List.filterMap_map, List.map_filterMap]
    apply List.filterMap_congr
    intro signal _
    cases signal with
    | windowElapsed => rfl
    | changed source target => exact if_pos rfl
  cases hRenders with
  | begun | dropped | state | counts | reset => exact hSignals _
  | refused =>
    rw [List.filterMap_append, hSignals, Notice.changes_append, List.map_append]
    rfl
  | finished => exact hSignals _
  | idle => rfl

end Steps

structure Traced (s : BreakerSettings) (v : Service) : Prop where
  named : ∀ c ∈ v.record, c.breaker = s.name
  first : ∀ c ∈ v.record.head?, c.source = .closed
  linked : v.record.IsChain fun c d => d.source = c.target
  moves : ∀ c ∈ v.record, c.source ≠ c.target
  closedOpens : ∀ c ∈ v.record, c.source = .closed → c.target ≠ .halfOpen
  last : (v.record.getLast?.map Change.target).getD .closed = v.breaker.stored
  gauge : (Metrics.ofNotices v.journal).get? (.state s.name) =
    if s.enabled then some v.breaker.stored.gauge else none
  counters : ∀ source target,
    (Metrics.ofNotices v.journal).total (.transitions s.name source target) =
      v.record.count ⟨s.name, source, target⟩

structure Journaled (s : BreakerSettings) (v : Service) : Prop where
  way : Way s.name True .closed v.record v.breaker.stored
  shown : v.journal.filterMap (Notice.shown? s.name) =
    if s.enabled then .closed :: v.record.map Change.target else []

namespace Journaled

variable {s : BreakerSettings} {v : Service}

theorem gauge (hJournaled : Journaled s v) :
    (Metrics.ofNotices v.journal).get? (.state s.name) =
      if s.enabled then some v.breaker.stored.gauge else none := by
  rw [Metrics.get?_state_ofNotices, hJournaled.shown]
  split
  · rw [List.getLast?_cons, ← hJournaled.way.last, List.getLast?_map]
    rfl
  · rfl

theorem traced (hJournaled : Journaled s v) : Traced s v where
  named := fun c hc => (hJournaled.way.leads_of_mem c hc).1
  first := hJournaled.way.head
  linked := hJournaled.way.linked
  moves := fun c hc => (hJournaled.way.leads_of_mem c hc).2.ne
  closedOpens := by
    intro c hc hClosed hHalfOpen
    have hLeads := (hJournaled.way.leads_of_mem c hc).2
    rw [hClosed, hHalfOpen] at hLeads
    exact Leads.not_closed_halfOpen hLeads
  last := hJournaled.way.last
  gauge := hJournaled.gauge
  counters := fun source target => Metrics.total_transitions v.journal ⟨s.name, source, target⟩

end Journaled

theorem Backed.way {s : BreakerSettings} {classifier : Classifier} {v : Service} {w : Session}
    (hBacked : Backed s classifier v w) (x : Step α) :
    Way s.name (x.use = .reset) v.breaker.stored (Notice.changes (v.perform x).2.notices)
      (v.perform x).1.breaker.stored := by
  obtain ⟨hNext, hRenders⟩ := hBacked.perform x
  rw [hBacked.breaker, hNext.breaker, hRenders.changes]
  -- A user resets the breaker if and only if the machine behind it is reset.
  apply Way.weaken ?_ ((Session.performs_perform s _ w).way s.name)
  unfold Step.behind
  cases x.use <;> simp [Use.action]

theorem Journaled.perform {s : BreakerSettings} {classifier : Classifier} {v : Service}
    {w : Session} (hBacked : Backed s classifier v w) (hEnabled : s.enabled = true)
    (hJournaled : Journaled s v) (x : Step α) : Journaled s (v.perform x).1 where
  way := by
    rw [record, perform_journal, Notice.changes_append]
    exact hJournaled.way.append ((hBacked.way x).weaken fun _ => trivial)
  shown := by
    have hShown := hJournaled.shown
    rw [if_pos hEnabled] at hShown ⊢
    rw [record, perform_journal, Notice.changes_append, List.filterMap_append, hShown,
      (hBacked.perform x).2.shown, List.map_append]
    rfl

section Runs

variable (s : BreakerSettings) (classifier : Classifier) (created : Instant)

theorem run_journaled (steps : List (Step α)) :
    Journaled s (run s classifier created steps) := by
  cases hEnabled : s.enabled with
  | false =>
    -- Its journal is still what it was when the breaker was created.
    obtain ⟨hBreaker, hJournal⟩ := run_disabled classifier created hEnabled steps
    constructor
    · rw [record, hBreaker, hJournal]
      exact .nil _
    · rw [hJournal, hEnabled]
      rfl
  | true =>
    induction steps using List.reverseRecOn with
    | nil =>
      constructor
      · simp only [run, after, create, Breaker.create, hEnabled]
        exact .nil _
      · simp [run, after, create, Breaker.create, hEnabled, Notice.shown?, record,
          Notice.changes, Notice.change?]
    | append_singleton steps x ih =>
      rw [run_append_singleton]
      exact ih.perform (run_backed classifier created hEnabled steps) hEnabled x

/-- The transitions of a breaker are a way through the diagram of states. It begins in the closed
state and is at every instant as far as the breaker, its gauge and its counters are. -/
theorem transitions_traced (steps : List (Step α)) :
    Traced s (run s classifier created steps) ∧
      ∀ x : Step α, ⟨s.name, .opened, .closed⟩ ∈
          Notice.changes ((run s classifier created steps).perform x).2.notices →
        x.use = .reset := by
  refine ⟨(run_journaled s classifier created steps).traced, ?_⟩
  intro x hMem
  cases hEnabled : s.enabled with
  | false =>
    obtain ⟨hBreaker, -⟩ := run_disabled classifier created hEnabled steps
    rw [(perform_disabled hBreaker x).2] at hMem
    nomatch hMem
  | true =>
    have hWay := (run_backed classifier created hEnabled steps).way x
    exact (hWay.leads_of_mem _ hMem).2.by_reset

end Runs

end Service

end CallGuard
