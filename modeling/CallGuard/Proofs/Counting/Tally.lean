import CallGuard.Counting.Rolling
import Mathlib.Algebra.Group.Nat.Defs
import Mathlib.Data.List.DropRight
import Mathlib.Data.List.Induction

/-!
# Counts as functions of the events

What a list of events comes to is said twice: by the counts that take the events in one by one,
and by the buckets that the events are sorted into. Both are sums and trailing streaks of the
list, the first kept below the largest word, the second taken modulo words; so they agree as long
as no kind of event fills a word.
-/

namespace CallGuard

def streak (e : Event) (events : List Event) : Nat :=
  ((events.filter (· != .request)).rtakeWhile (· == e)).length

section Streaks

variable {e : Event} (events : List Event)

theorem streak_append_request : streak e (events ++ [.request]) = streak e events := by
  simp [streak]

theorem streak_append_self (hOutcome : e ≠ .request) :
    streak e (events ++ [e]) = streak e events + 1 := by
  simp [streak, hOutcome]

theorem streak_append_other {o : Event} (hOutcome : o ≠ .request) (hOther : o ≠ e) :
    streak e (events ++ [o]) = 0 := by
  simp [streak, hOutcome, hOther]

theorem streak_le_count : streak e events ≤ events.count e := by
  have hAll : ∀ x ∈ (events.filter (· != .request)).rtakeWhile (· == e), e = x := by
    intro x hMem
    have hx := List.mem_rtakeWhile_imp hMem
    exact (beq_iff_eq.mp hx).symm
  calc streak e events
      = ((events.filter (· != .request)).rtakeWhile (· == e)).count e :=
        (List.count_eq_length.mpr hAll).symm
    _ ≤ (events.filter (· != .request)).count e := (List.rtakeWhile_suffix _ _).sublist.count_le e
    _ ≤ events.count e := (List.filter_sublist).count_le e

/-- The latest outcome is of one kind. -/
theorem streak_eq_zero_or {o : Event} (hOther : o ≠ e) :
    streak e events = 0 ∨ streak o events = 0 := by
  unfold streak
  generalize events.filter (· != .request) = outcomes
  obtain rfl | ⟨earlier, last, rfl⟩ := List.eq_nil_or_concat' outcomes
  · exact .inl rfl
  · by_cases hLast : last = e
    · exact .inr (by simp [hLast, hOther.symm])
    · exact .inl (by simp [hLast])

/-- A list of outcomes ends with `n` of a kind exactly if its streak is that long. -/
theorem replicate_suffix_iff (n : Nat) :
    List.replicate n e <:+ events.filter (· != .request) ↔ n ≤ streak e events := by
  unfold streak
  generalize events.filter (· != .request) = outcomes
  constructor
  · rintro ⟨earlier, rfl⟩
    induction n with
    | zero => exact Nat.zero_le _
    | succ n ih =>
      rw [List.replicate_succ', ← List.append_assoc, List.rtakeWhile_concat_pos _ _ _ (by simp)]
      simpa using ih
  · intro hLe
    have hAll : outcomes.rtakeWhile (· == e) =
        List.replicate (outcomes.rtakeWhile (· == e)).length e :=
      List.eq_replicate_of_mem fun x hMem => by simpa using List.mem_rtakeWhile_imp hMem
    have hShort : List.replicate n e <:+ outcomes.rtakeWhile (· == e) := by
      rw [hAll]
      exact ⟨List.replicate ((outcomes.rtakeWhile (· == e)).length - n) e, by
        rw [List.replicate_append_replicate, Nat.sub_add_cancel hLe]⟩
    exact hShort.trans (List.rtakeWhile_suffix _ _)

variable {events} in
theorem streak_le_of_suffix {later : List Event} (hSuffix : later <:+ events) :
    streak e later ≤ streak e events := by
  have hLater := (replicate_suffix_iff later (streak e later)).mpr (Nat.le_refl _)
  exact (replicate_suffix_iff events _).mp (hLater.trans (hSuffix.filter _))

end Streaks

/-- The word of a number, the largest word if there is none. -/
def saturated (n : Nat) : UInt32 := UInt32.ofNat (min n 4294967295)

theorem toNat_saturated (n : Nat) : (saturated n).toNat = min n 4294967295 := by
  rw [saturated, UInt32.toNat_ofNat', Nat.mod_eq_of_lt]
  omega

theorem saturated_of_lt {n : Nat} (hLt : n < 2 ^ 32) : saturated n = UInt32.ofNat n := by
  rw [saturated, Nat.min_eq_left (by omega)]

theorem increase_saturated (n : Nat) : increase (saturated n) = saturated (n + 1) := by
  rw [← UInt32.toNat_inj, toNat_increase, toNat_saturated, toNat_saturated]
  omega

/-- Counts are the numbers of the events of each kind and the two streaks, kept below the largest
word. -/
theorem Counts.ofEvents_eq (events : List Event) :
    ofEvents events =
      { requests := saturated (events.count .request)
        totalSuccesses := saturated (events.count .success)
        totalFailures := saturated (events.count .failure)
        consecutiveSuccesses := saturated (streak .success events)
        consecutiveFailures := saturated (streak .failure events) } := by
  induction events using List.reverseRecOn with
  | nil => rfl
  | append_singleton events e ih =>
    rw [ofEvents_append_singleton, ih]
    cases e with
    | request => simp [record, increase_saturated, streak_append_request]
    | success =>
      rw [streak_append_self _ (by decide), streak_append_other _ (by decide) (by decide)]
      simp [record, increase_saturated]
      rfl
    | failure =>
      rw [streak_append_self _ (by decide), streak_append_other _ (by decide) (by decide)]
      simp [record, increase_saturated]
      rfl

namespace Rolling

def gather (log : List (Nat × Event)) : List Bucket :=
  log.foldl (fun buckets x => recordIn x.1 x.2 buckets) []

@[simp] theorem gather_nil : gather [] = [] := rfl

theorem gather_append_singleton (log : List (Nat × Event)) (i : Nat) (e : Event) :
    gather (log ++ [(i, e)]) = recordIn i e (gather log) := by
  simp [gather]

/-- An event goes into the newest bucket if its period is the same, and else into a new one. -/
theorem recordIn_eq (i : Nat) (e : Event) (buckets : List Bucket) :
    ∃ b older, recordIn i e buckets = b.record e :: older ∧
      ((buckets = b :: older ∧ b.index = i) ∨
        (b = .empty i ∧ older = buckets ∧ ∀ head ∈ buckets.head?, head.index ≠ i)) := by
  cases buckets with
  | nil => exact ⟨.empty i, [], rfl, .inr ⟨rfl, rfl, by simp⟩⟩
  | cons b older =>
    by_cases hIndex : b.index = i
    · exact ⟨b, older, if_pos hIndex, .inl ⟨rfl, hIndex⟩⟩
    · exact ⟨.empty i, b :: older, if_neg hIndex, .inr ⟨rfl, rfl, by simpa using hIndex⟩⟩

/-- A number of a bucket that grows by one with every event of a kind. -/
structure Tallies (field : Bucket → UInt32) (e : Event) : Prop where
  empty : ∀ i, field (.empty i) = 0
  record : ∀ (b : Bucket) (x : Event), field (b.record x) = field b + if x = e then 1 else 0

theorem tallies_requests : Tallies Bucket.requests .request where
  empty _ := rfl
  record b x := by cases x <;> simp [Bucket.record]

theorem tallies_successes : Tallies Bucket.successes .success where
  empty _ := rfl
  record b x := by cases x <;> simp [Bucket.record]

theorem tallies_failures : Tallies Bucket.failures .failure where
  empty _ := rfl
  record b x := by cases x <;> simp [Bucket.record]

theorem Tallies.total_recordIn {field : Bucket → UInt32} {e : Event} (h : Tallies field e)
    (i : Nat) (x : Event) (buckets : List Bucket) :
    total field (recordIn i x buckets) = total field buckets + if x = e then 1 else 0 := by
  obtain ⟨b, older, hEq, ⟨rfl, _⟩ | ⟨rfl, rfl, _⟩⟩ := recordIn_eq i x buckets
  · rw [hEq]
    simp only [total, List.map_cons, List.foldr_cons, h.record]
    rw [UInt32.add_assoc, UInt32.add_assoc, UInt32.add_comm (if x = e then 1 else 0)]
  · rw [hEq]
    simp only [total, List.map_cons, List.foldr_cons, h.record, h.empty, UInt32.zero_add]
    rw [UInt32.add_comm]

theorem Tallies.total_gather {field : Bucket → UInt32} {e : Event} (h : Tallies field e)
    (log : List (Nat × Event)) :
    total field (gather log) = UInt32.ofNat ((log.map Prod.snd).count e) := by
  induction log using List.reverseRecOn with
  | nil => rfl
  | append_singleton log x ih =>
    rw [gather_append_singleton, h.total_recordIn, ih]
    simp only [List.map_append, List.map_singleton, List.count_append, List.count_singleton,
      UInt32.ofNat_add, beq_iff_eq]
    split <;> rfl

theorem Tallies.le_count {field : Bucket → UInt32} {e : Event} (h : Tallies field e)
    (log : List (Nat × Event)) :
    ∀ b ∈ gather log, (field b).toNat ≤ (log.map Prod.snd).count e := by
  induction log using List.reverseRecOn with
  | nil => exact fun b hMem => absurd hMem List.not_mem_nil
  | append_singleton log x ih =>
    obtain ⟨i, x⟩ := x
    have hRecord : ∀ b, (field (b.record x)).toNat ≤ (field b).toNat + [x].count e := by
      intro b
      rw [h.record, UInt32.toNat_add, List.count_singleton]
      have hMod := Nat.mod_le ((field b).toNat + (if x = e then 1 else 0 : UInt32).toNat) (2 ^ 32)
      by_cases hx : x = e
      · simp only [hx, if_true, beq_self_eq_true] at hMod ⊢
        exact hMod
      · simp [hx]
    intro b hMem
    rw [gather_append_singleton] at hMem
    simp only [List.map_append, List.map_singleton, List.count_append]
    obtain ⟨new, older, hEq, hNew⟩ := recordIn_eq i x (gather log)
    have hBound : (field new).toNat ≤ (log.map Prod.snd).count e := by
      rcases hNew with ⟨hOld, _⟩ | ⟨rfl, _, _⟩
      · exact ih new (by simp [hOld])
      · rw [h.empty]
        exact Nat.zero_le _
    rw [hEq] at hMem
    rcases List.mem_cons.mp hMem with rfl | hOlder
    · exact Nat.le_trans (hRecord new) (Nat.add_le_add_right hBound _)
    · refine Nat.le_add_right_of_le (ih b ?_)
      rcases hNew with ⟨hOld, _⟩ | ⟨_, rfl, _⟩
      · rw [hOld]
        exact List.mem_cons_of_mem _ hOlder
      · exact hOlder

/-- A number of a bucket that tells its streak of one kind of outcome `e`; the other kind `o` ends
the streak. -/
structure Trails (field : Bucket → UInt32) (e o : Event) : Prop where
  kinds : (e = .failure ∧ o = .success) ∨ (e = .success ∧ o = .failure)
  empty : ∀ i, field (.empty i) = 0
  same : ∀ b : Bucket, field (b.record e) = field b + 1
  other : ∀ b : Bucket, field (b.record o) = 0
  request : ∀ b : Bucket, field (b.record .request) = field b

theorem trails_failures : Trails Bucket.trailingFailures .failure .success :=
  ⟨.inl ⟨rfl, rfl⟩, fun _ => rfl, fun _ => rfl, fun _ => rfl, fun _ => rfl⟩

theorem trails_successes : Trails Bucket.trailingSuccesses .success .failure :=
  ⟨.inr ⟨rfl, rfl⟩, fun _ => rfl, fun _ => rfl, fun _ => rfl, fun _ => rfl⟩

/-- The streak over several buckets, from the newest back to the first that has seen the opposite
outcome. -/
def streakOver (opposite trailing : Bucket → UInt32) : List Bucket → UInt32
  | [] => 0
  | b :: older =>
    if 0 < opposite b then trailing b else trailing b + streakOver opposite trailing older

theorem failureStreak_eq (buckets : List Bucket) :
    failureStreak buckets = streakOver Bucket.successes Bucket.trailingFailures buckets := by
  induction buckets with
  | nil => rfl
  | cons b older ih => rw [failureStreak, streakOver, ih]

theorem successStreak_eq (buckets : List Bucket) :
    successStreak buckets = streakOver Bucket.failures Bucket.trailingSuccesses buckets := by
  induction buckets with
  | nil => rfl
  | cons b older ih => rw [successStreak, streakOver, ih]

section Streaks

variable {opposite trailing : Bucket → UInt32} {e o : Event}

theorem streakOver_recordIn (hTrails : Trails trailing e o) (hOpposite : Tallies opposite o)
    {x : Event} {d : UInt32} (hOther : x ≠ o) (hAdds : ∀ b, trailing (b.record x) = trailing b + d)
    (i : Nat) (buckets : List Bucket) :
    streakOver opposite trailing (recordIn i x buckets) =
      streakOver opposite trailing buckets + d := by
  have hKeeps : ∀ b, opposite (b.record x) = opposite b := by
    intro b
    rw [hOpposite.record, if_neg hOther, UInt32.add_zero]
  obtain ⟨b, older, hEq, ⟨rfl, _⟩ | ⟨rfl, rfl, _⟩⟩ := recordIn_eq i x buckets
  · rw [hEq]
    simp only [streakOver, hKeeps, hAdds]
    split
    · rfl
    · rw [UInt32.add_assoc, UInt32.add_comm d, UInt32.add_assoc]
  · rw [hEq]
    simp only [streakOver, hKeeps, hAdds, hOpposite.empty, hTrails.empty, UInt32.zero_add]
    rw [if_neg (by decide), UInt32.add_comm]

theorem streakOver_recordIn_other (hTrails : Trails trailing e o) (hOpposite : Tallies opposite o)
    (log : List (Nat × Event)) (hFew : (log.map Prod.snd).count o + 1 < 2 ^ 32) (i : Nat) :
    streakOver opposite trailing (recordIn i o (gather log)) = 0 := by
  obtain ⟨b, older, hEq, hNew⟩ := recordIn_eq i o (gather log)
  have hBound : (opposite b).toNat ≤ (log.map Prod.snd).count o := by
    rcases hNew with ⟨hOld, _⟩ | ⟨rfl, _, _⟩
    · exact hOpposite.le_count log b (by simp [hOld])
    · rw [hOpposite.empty]
      exact Nat.zero_le _
  have hPos : 0 < opposite (b.record o) := by
    rw [hOpposite.record, if_pos rfl, UInt32.lt_iff_toNat_lt, UInt32.toNat_add]
    change 0 < ((opposite b).toNat + 1) % 2 ^ 32
    rw [Nat.mod_eq_of_lt (by omega)]
    omega
  rw [hEq, streakOver, if_pos hPos, hTrails.other]

theorem streakOver_gather (hTrails : Trails trailing e o) (hOpposite : Tallies opposite o)
    (log : List (Nat × Event)) (hFew : (log.map Prod.snd).count o < 2 ^ 32) :
    streakOver opposite trailing (gather log) = UInt32.ofNat (streak e (log.map Prod.snd)) := by
  induction log using List.reverseRecOn with
  | nil => rfl
  | append_singleton log x ih =>
    obtain ⟨i, x⟩ := x
    simp only [List.map_append, List.map_singleton, List.count_append] at hFew ⊢
    have hBefore := ih (by omega)
    have hOutcomes : e ≠ .request ∧ o ≠ .request ∧ o ≠ e ∧ (x = .request ∨ x = e ∨ x = o) := by
      rcases hTrails.kinds with ⟨rfl, rfl⟩ | ⟨rfl, rfl⟩ <;> cases x <;> decide
    obtain ⟨hSame, hOther, hNe, hEvent⟩ := hOutcomes
    rw [gather_append_singleton]
    rcases hEvent with rfl | rfl | rfl
    · rw [streakOver_recordIn hTrails hOpposite hOther.symm (d := 0), hBefore,
        streak_append_request, UInt32.add_zero]
      intro b
      rw [hTrails.request, UInt32.add_zero]
    · rw [streakOver_recordIn hTrails hOpposite hNe.symm hTrails.same, hBefore,
        streak_append_self _ hSame, UInt32.ofNat_add]
      rfl
    · rw [streakOver_recordIn_other hTrails hOpposite log (by simpa using hFew),
        streak_append_other _ hOther hNe]
      rfl

end Streaks

/-- As long as no kind of event fills a word, buckets tell the same as counts. -/
theorem tally_gather (log : List (Nat × Event))
    (hFew : ∀ e, (log.map Prod.snd).count e < 2 ^ 32) :
    tally (gather log) = Counts.ofEvents (log.map Prod.snd) := by
  have hStreak : ∀ e, streak e (log.map Prod.snd) < 2 ^ 32 := fun e =>
    Nat.lt_of_le_of_lt (streak_le_count _) (hFew e)
  rw [Counts.ofEvents_eq, tally, failureStreak_eq, successStreak_eq,
    streakOver_gather trails_failures tallies_successes log (hFew _),
    streakOver_gather trails_successes tallies_failures log (hFew _),
    tallies_requests.total_gather, tallies_successes.total_gather,
    tallies_failures.total_gather]
  simp only [saturated_of_lt (hFew _), saturated_of_lt (hStreak _)]

end Rolling

end CallGuard
