import CallGuard.Counting.Repetition
import CallGuard.Proofs.Counting.PlainCount

/-!
# Counting at once and one by one

Counting many events at once comes to the same as counting them one after the other, in a
window of either kind.
-/

namespace CallGuard

theorem increase_increaseBy (n : UInt32) (times : Nat) :
    increase (increaseBy n times) = increaseBy n (times + 1) := by
  rw [← UInt32.toNat_inj, toNat_increase]
  simp only [increaseBy, UInt32.toNat_ofNat']
  omega

theorem increaseBy_one (n : UInt32) : increaseBy n 1 = increase n := by
  rw [← UInt32.toNat_inj, toNat_increase]
  simp only [increaseBy, UInt32.toNat_ofNat']
  omega

theorem Counts.record_recordTimes (c : Counts) (e : Event) (times : Nat) :
    (c.recordTimes e times).record e = c.recordTimes e (times + 1) := by
  cases times with
  | zero => cases e <;> simp [recordTimes, record, increaseBy_one]
  | succ times => cases e <;> simp [recordTimes, record, increase_increaseBy]

theorem Bucket.record_recordTimes (b : Bucket) (e : Event) (times : Nat) :
    (b.recordTimes e times).record e = b.recordTimes e (times + 1) := by
  cases times with
  | zero => cases e <;> simp [recordTimes, record]
  | succ times =>
    cases e <;> simp [recordTimes, record, UInt32.ofNat_add, UInt32.add_assoc]

theorem Bucket.recordTimes_index (b : Bucket) (e : Event) (times : Nat) :
    (b.recordTimes e times).index = b.index := by
  cases times with
  | zero => rfl
  | succ times => cases e <;> rfl

namespace Rolling

variable (capacity current : Nat)

theorem dropExpired_cons_congr {b b' : Bucket} (hIndex : b'.index = b.index)
    (older : List Bucket) (hKept : dropExpired capacity current (b :: older) = b :: older) :
    dropExpired capacity current (b' :: older) = b' :: older := by
  rw [dropExpired_cons] at hKept ⊢
  rw [hIndex]
  split at hKept
  · cases hKept
  · next hStays => rw [if_neg hStays, (List.cons.inj hKept).2]

theorem record_eq (r : Rolling) (now : Instant) (e : Event) :
    r.record now e =
      { r with
        buckets := recordIn (r.indexAt now) e
          (dropExpired r.capacity (r.indexAt now) r.buckets) } := rfl

/-- A bucket that has just taken an event either stays for the next one at the same instant, or
its period is past at once and the next event begins anew. -/
theorem stays_or_restarts (r : Rolling) (now : Instant) (e : Event) :
    (∃ b older, (r.record now e).buckets = b :: older ∧ b.index = r.indexAt now ∧
        dropExpired r.capacity (r.indexAt now) (b :: older) = b :: older) ∨
      dropExpired r.capacity (r.indexAt now) (r.record now e).buckets = [] ∧
        (r.record now e).record now e = r.record now e := by
  have hRecord : (r.record now e).buckets =
      recordIn (r.indexAt now) e (dropExpired r.capacity (r.indexAt now) r.buckets) := rfl
  have hAgain := dropExpired_recordIn r.capacity (r.indexAt now) (r.indexAt now) e
    (dropExpired r.capacity (r.indexAt now) r.buckets)
  rw [dropExpired_dropExpired (Nat.le_refl _), ← hRecord] at hAgain
  split at hAgain
  · next hGone =>
    refine .inr ⟨hAgain, ?_⟩
    have hOne : (r.record now e).buckets = recordIn (r.indexAt now) e [] := by
      rw [hRecord, hGone.1]
    refine (record_eq (r.record now e) now e).trans ?_
    change { r.record now e with
      buckets := recordIn (r.indexAt now) e
        (dropExpired r.capacity (r.indexAt now) (r.record now e).buckets) } = r.record now e
    rw [hAgain, ← hOne]
  · obtain ⟨b, older, hEq, hNew⟩ := recordIn_eq (r.indexAt now) e
      (dropExpired r.capacity (r.indexAt now) r.buckets)
    refine .inl ⟨b.record e, older, hRecord.trans hEq, ?_, ?_⟩
    · rw [record_index]
      rcases hNew with ⟨_, hIndex⟩ | ⟨rfl, _⟩
      · exact hIndex
      · rfl
    · rw [← hEq, ← hRecord]
      exact hAgain

theorem record_recordTimes (r : Rolling) (now : Instant) (e : Event) (times : Nat) :
    (r.recordTimes now e times).record now e = r.recordTimes now e (times + 1) := by
  rcases stays_or_restarts r now e with ⟨b, older, hBuckets, hIndex, hStays⟩ | ⟨hGone, hAgain⟩
  · have hTimes : ∀ more, r.recordTimes now e (more + 1) =
        { r with buckets := b.recordTimes e more :: older } := by
      intro more
      have hExpire : ((r.record now e).expire now).buckets = b :: older := by
        change dropExpired r.capacity (r.indexAt now) (r.record now e).buckets = _
        rw [hBuckets, hStays]
      simp only [recordTimes, hExpire]
      rfl
    cases times with
    | zero =>
      rw [hTimes]
      change r.record now e = { r with buckets := b :: older }
      rw [← hBuckets]
      rfl
    | succ more =>
      have hSame := (b.recordTimes_index e more).trans hIndex
      rw [hTimes, hTimes]
      refine (record_eq _ now e).trans ?_
      change { r with
        buckets := recordIn (r.indexAt now) e
          (dropExpired r.capacity (r.indexAt now) (b.recordTimes e more :: older)) } = _
      rw [dropExpired_cons_congr _ _ (b.recordTimes_index e more) older hStays, recordIn,
        if_pos hSame, b.record_recordTimes]
  · have hTimes : ∀ more, r.recordTimes now e (more + 1) = r.record now e := by
      intro more
      have hExpire : ((r.record now e).expire now).buckets = [] := hGone
      simp only [recordTimes, hExpire]
    cases times with
    | zero => exact (hTimes 0).symm
    | succ more => rw [hTimes, hTimes, hAgain]

end Rolling

theorem Window.after_replicate (w : Window) (now : Instant) (e : Event) (times : Nat) :
    w.after (List.replicate times (now, .record e)) = w.recordTimes now e times := by
  induction times with
  | zero => cases w <;> rfl
  | succ times ih =>
    rw [List.replicate_succ', after_append_singleton, ih]
    cases w with
    | fixed c => exact congrArg fixed (c.record_recordTimes e times)
    | rolling r => exact congrArg rolling (r.record_recordTimes now e times)

end CallGuard
