import CallGuard.Journal.Metrics
import Mathlib.Data.List.Induction

/-!
# Series as readings of a journal

A counter of the metrics counts the notices that increment it, and a gauge shows what the latest
notice that sets it has set it to. What the metrics say can therefore be told from the journal
without following how they were kept.
-/

namespace CallGuard

def Notice.counter? : Notice → Option Series
  | changed c => some (.transitions c.breaker c.source c.target)
  | rejected breaker reason => some (.rejections breaker reason)
  | booked breaker outcome => some (.calls breaker outcome)
  | retrying retrier _ _ => some (.retries retrier)
  | _ => none

def Notice.shown? (breaker : String) : Notice → Option State
  | created s => if s.name = breaker then some .closed else none
  | changed c => if c.breaker = breaker then some c.target else none
  | _ => none

namespace Metrics

theorem ofNotices_append_singleton (journal : List Notice) (n : Notice) :
    ofNotices (journal ++ [n]) = (ofNotices journal).record n := by
  simp [ofNotices]

/-- The number that a counter stands at; one that nothing has touched stands at zero. -/
def total (m : Metrics) (series : Series) : Nat := (m.get? series).getD 0

theorem total_put_of_ne (m : Metrics) {series other : Series} (hOther : series ≠ other)
    (value : Nat) : (m.put other value).total series = m.total series := by
  rw [total, get?_put, if_neg hOther, total]

theorem total_increment (m : Metrics) (series other : Series) :
    (m.increment other).total series = m.total series + if other = series then 1 else 0 := by
  by_cases hSame : other = series
  · simp [total, increment, get?_put, hSame]
  · rw [increment, total_put_of_ne _ (Ne.symm hSame), if_neg hSame, Nat.add_zero]

theorem total_record (m : Metrics) {series : Series} (hCounter : ∀ name, series ≠ .state name)
    (n : Notice) :
    (m.record n).total series = m.total series + if n.counter? = some series then 1 else 0 := by
  simp only [Notice.counter?]
  cases n with
  | created s => simp [record, total_put_of_ne _ (hCounter s.name)]
  | changed c => simp [record, total_put_of_ne _ (hCounter c.breaker), total_increment]
  | rejected | booked | retrying => simp [record, total_increment]
  | _ => simp [record]

theorem total_ofNotices {series : Series} (hCounter : ∀ name, series ≠ .state name)
    (journal : List Notice) :
    (ofNotices journal).total series = journal.countP (·.counter? == some series) := by
  induction journal using List.reverseRecOn with
  | nil => rfl
  | append_singleton journal n ih =>
    rw [ofNotices_append_singleton, total_record _ hCounter, ih, List.countP_append]
    simp

theorem get?_state_record (m : Metrics) (name : String) (n : Notice) :
    (m.record n).get? (.state name) =
      ((n.shown? name).map State.gauge).or (m.get? (.state name)) := by
  cases n with
  | created s =>
    by_cases hName : name = s.name
    · simp [record, get?_put, Notice.shown?, hName]
    · simp [record, get?_put, Notice.shown?, hName, Ne.symm hName]
  | changed c =>
    by_cases hName : name = c.breaker
    · simp [record, increment, get?_put, Notice.shown?, hName]
    · simp [record, increment, get?_put, Notice.shown?, hName, Ne.symm hName]
  | _ => simp [record, increment, get?_put, Notice.shown?]

theorem get?_state_ofNotices (name : String) (journal : List Notice) :
    (ofNotices journal).get? (.state name) =
      (journal.filterMap (Notice.shown? name)).getLast?.map State.gauge := by
  induction journal using List.reverseRecOn with
  | nil => rfl
  | append_singleton journal n ih =>
    rw [ofNotices_append_singleton, get?_state_record, ih, List.filterMap_append]
    cases hShown : n.shown? name <;> simp [hShown]

/-- The transitions that are counted are those that listeners were told of. -/
theorem total_transitions (journal : List Notice) (c : Change) :
    (ofNotices journal).total (.transitions c.breaker c.source c.target) =
      (Notice.changes journal).count c := by
  rw [total_ofNotices (by simp), Notice.changes, List.count, List.countP_filterMap]
  apply List.countP_congr
  intro n _
  cases n with
  | changed c' =>
    obtain ⟨breaker, source, target⟩ := c
    obtain ⟨breaker', source', target'⟩ := c'
    simp [Notice.counter?, Notice.change?]
  | _ => simp [Notice.counter?, Notice.change?]

end Metrics

end CallGuard
