import CallGuard.Proofs.Counting.WordLimits

/-!
# The order of buckets

Where clocks go forward, the buckets of a rolling window stand in the order of their periods, none
of which is past, so that there are never more of them than periods in the window, and the numbers
of each bucket agree with one another. That is what lets expiry stop at the first bucket that is
not past, and a streak at the first bucket that has seen the opposite outcome.
-/

namespace CallGuard

namespace Bucket

/-- The trailing number of a kind of outcome is a part of all of the kind, and it is all of them
where no opposite outcome has been seen. -/
structure TailOf (whole opposite tail : UInt32) : Prop where
  le : tail ≤ whole
  unbroken : opposite = 0 → tail = whole

namespace TailOf

variable {whole opposite tail : UInt32}

theorem grow (h : TailOf whole opposite tail) (hFits : Fits (whole, 1)) :
    TailOf (whole + 1) opposite (tail + 1) where
  le := by
    have hLe := UInt32.le_iff_toNat_le.mp h.le
    have hTail : Fits (tail, 1) := Nat.lt_of_le_of_lt (Nat.add_le_add_right hLe _) hFits
    rw [UInt32.le_iff_toNat_le, toNat_add_of_fits hFits, toNat_add_of_fits hTail]
    exact Nat.add_le_add_right hLe _
  unbroken hNone := by rw [h.unbroken hNone]

/-- The opposite outcome leaves nothing trailing. -/
theorem broken (hFits : Fits (opposite, 1)) : TailOf whole (opposite + 1) 0 where
  le := UInt32.le_iff_toNat_le.mpr (Nat.zero_le _)
  unbroken hNone := by
    have hSum := toNat_add_of_fits hFits
    rw [hNone] at hSum
    exact absurd hSum (Nat.succ_ne_zero _).symm

end TailOf

structure Coherent (b : Bucket) : Prop where
  failures : TailOf b.failures b.successes b.trailingFailures
  successes : TailOf b.successes b.failures b.trailingSuccesses
  oneStreak : b.trailingFailures = 0 ∨ b.trailingSuccesses = 0

namespace Coherent

theorem empty (i : Nat) : (Bucket.empty i).Coherent where
  failures := ⟨Nat.le_refl _, fun _ => rfl⟩
  successes := ⟨Nat.le_refl _, fun _ => rfl⟩
  oneStreak := .inl rfl

theorem record {b : Bucket} (h : b.Coherent) {e : Event}
    (hFits : ∀ x ∈ b.additions e, Fits x) : (b.record e).Coherent := by
  cases e with
  | request => exact ⟨h.failures, h.successes, h.oneStreak⟩
  | success =>
    have hWhole := hFits _ List.mem_cons_self
    exact ⟨.broken hWhole, h.successes.grow hWhole, .inl rfl⟩
  | failure =>
    have hWhole := hFits _ List.mem_cons_self
    exact ⟨h.failures.grow hWhole, .broken hWhole, .inr rfl⟩

end Coherent

end Bucket

namespace Rolling

def Descending (buckets : List Bucket) : Prop :=
  buckets.Pairwise fun b older => older.index < b.index

/-- In buckets that stand in order nothing past is left behind a bucket that is not. -/
theorem dropExpired_eq_filter {capacity current : Nat} {buckets : List Bucket}
    (hDescending : Descending buckets) :
    dropExpired capacity current buckets =
      buckets.filter fun b => !isPast capacity current b.index := by
  induction buckets with
  | nil => rfl
  | cons b older ih =>
    obtain ⟨hNewest, hOlder⟩ := List.pairwise_cons.mp hDescending
    rw [dropExpired_cons, ih hOlder]
    cases hPast : isPast capacity current b.index with
    | false => simp [hPast]
    | true =>
      have hAll : older.filter (fun b => !isPast capacity current b.index) = [] := by
        refine List.filter_eq_nil_iff.mpr fun a hMem => ?_
        have hLess := hNewest a hMem
        simp only [isPast, decide_eq_true_iff] at hPast
        simp only [isPast, Bool.not_eq_true', decide_eq_false_iff_not, Nat.not_le, Nat.not_lt]
        omega
      simp [hAll, hPast]

theorem descending_recordIn {i : Nat} (e : Event) {buckets : List Bucket}
    (hDescending : Descending buckets) (hBegun : ∀ b ∈ buckets, b.index ≤ i) :
    Descending (recordIn i e buckets) := by
  obtain ⟨b, older, hEq, ⟨rfl, -⟩ | ⟨rfl, rfl, hNew⟩⟩ := recordIn_eq i e buckets
  · obtain ⟨hNewest, hOlder⟩ := List.pairwise_cons.mp hDescending
    rw [hEq]
    refine List.pairwise_cons.mpr ⟨?_, hOlder⟩
    rw [record_index]
    exact hNewest
  · rw [hEq]
    refine List.pairwise_cons.mpr ⟨fun a hMem => ?_, hDescending⟩
    rw [record_index]
    cases older with
    | nil => cases hMem
    | cons head rest =>
      have hHead : head.index < i :=
        Nat.lt_of_le_of_ne (hBegun head List.mem_cons_self) (hNew head rfl)
      rcases List.mem_cons.mp hMem with rfl | hRest
      · exact hHead
      · exact Nat.lt_trans ((List.pairwise_cons.mp hDescending).1 a hRest) hHead

/-- The bucket that takes an event is the only one that changes. -/
theorem mem_recordIn {i : Nat} {e : Event} {buckets : List Bucket} {b : Bucket}
    (hMem : b ∈ recordIn i e buckets) : b = (newest i buckets).record e ∨ b ∈ buckets := by
  cases buckets with
  | nil => exact .inl (List.mem_singleton.mp hMem)
  | cons head older =>
    by_cases hIndex : head.index = i
    · simp only [recordIn, newest, if_pos hIndex] at hMem ⊢
      exact (List.mem_cons.mp hMem).imp_right (List.mem_cons_of_mem _)
    · simp only [recordIn, newest, if_neg hIndex] at hMem ⊢
      exact List.mem_cons.mp hMem

theorem newest_eq (i : Nat) (buckets : List Bucket) :
    newest i buckets = .empty i ∨ newest i buckets ∈ buckets ∧ (newest i buckets).index = i := by
  cases buckets with
  | nil => exact .inl rfl
  | cons head older =>
    by_cases hIndex : head.index = i
    · rw [newest, if_pos hIndex]
      exact .inr ⟨List.mem_cons_self, hIndex⟩
    · rw [newest, if_neg hIndex]
      exact .inl rfl

theorem newest_index (i : Nat) (buckets : List Bucket) : (newest i buckets).index = i := by
  rcases newest_eq i buckets with hEmpty | ⟨-, hIndex⟩
  · rw [hEmpty]
    rfl
  · exact hIndex

structure Stacked (r : Rolling) (now : Instant) : Prop where
  descending : Descending r.buckets
  begun : ∀ b ∈ r.buckets, b.index ≤ r.indexAt now
  coherent : ∀ b ∈ r.buckets, b.Coherent

def Recent (r : Rolling) (now : Instant) : Prop :=
  ∀ b ∈ r.buckets, r.indexAt now < b.index + r.capacity

namespace Stacked

variable {r : Rolling} {now : Instant}

theorem of_empty (hEmpty : r.buckets = []) : r.Stacked now := by
  constructor <;> simp [hEmpty, Descending]

theorem later {later : Instant} (h : r.Stacked now) (hLater : now ≤ later) : r.Stacked later where
  descending := h.descending
  begun b hMem := Nat.le_trans (h.begun b hMem) (r.indexAt_mono hLater)
  coherent := h.coherent

theorem expire_buckets (h : r.Stacked now) :
    (r.expire now).buckets =
      r.buckets.filter fun b => !isPast r.capacity (r.indexAt now) b.index :=
  dropExpired_eq_filter h.descending

theorem expire (h : r.Stacked now) : (r.expire now).Stacked now := by
  have hKept : (r.expire now).buckets.Sublist r.buckets := by
    rw [h.expire_buckets]
    exact List.filter_sublist
  exact
    { descending := h.descending.sublist hKept
      begun := fun b hMem => h.begun b (hKept.subset hMem)
      coherent := fun b hMem => h.coherent b (hKept.subset hMem) }

theorem recent_expire (h : r.Stacked now) : (r.expire now).Recent now := by
  intro b hMem
  rw [h.expire_buckets] at hMem
  have hStays := (List.mem_filter.mp hMem).2
  simp only [isPast, Bool.not_eq_true', decide_eq_false_iff_not] at hStays
  change r.indexAt now < b.index + r.capacity
  omega

theorem record (h : r.Stacked now) {e : Event}
    (hFits : ∀ x ∈ r.additions now (.record e), Fits x) : (r.record now e).Stacked now where
  descending := descending_recordIn e h.expire.descending h.expire.begun
  begun b hMem := by
    rcases mem_recordIn hMem with rfl | hOld
    · rw [record_index, newest_index]
      exact Nat.le_refl _
    · exact h.expire.begun b hOld
  coherent b hMem := by
    rcases mem_recordIn hMem with rfl | hOld
    · apply Bucket.Coherent.record _ hFits
      rcases newest_eq (r.indexAt now) (r.expire now).buckets with hEmpty | ⟨hNew, -⟩
      · rw [hEmpty]
        exact .empty _
      · exact h.expire.coherent _ hNew
    · exact h.expire.coherent b hOld

theorem recent_record (h : r.Stacked now) (hCapacity : 0 < r.capacity) (e : Event) :
    (r.record now e).Recent now := by
  intro b hMem
  rcases mem_recordIn hMem with rfl | hOld
  · rw [record_index, newest_index]
    exact Nat.lt_add_of_pos_right hCapacity
  · exact h.recent_expire b hOld

/-- There is one bucket for a period at most, and the window covers so many of them. -/
theorem length_le (h : r.Stacked now) (hRecent : r.Recent now) :
    r.buckets.length ≤ r.capacity := by
  have hDescending : (r.buckets.map Bucket.index).Pairwise (· > ·) :=
    List.pairwise_map.mpr h.descending
  have hDistinct : (r.buckets.map Bucket.index).Nodup := hDescending.imp Nat.ne_of_gt
  have hCovered : r.buckets.map Bucket.index ⊆
      List.range' (r.indexAt now + 1 - r.capacity) r.capacity := by
    intro i hMem
    obtain ⟨b, hBucket, rfl⟩ := List.mem_map.mp hMem
    have hBegun := h.begun b hBucket
    have hLate := hRecent b hBucket
    rw [List.mem_range'_1]
    omega
  have hLength := (hDistinct.subperm hCovered).length_le
  rwa [List.length_map, List.length_range'] at hLength

end Stacked

theorem create_capacity_pos (window period : Span) (origin : Instant) :
    0 < (create window period origin).capacity := by
  have hLast : 0 < lastIndex := by decide
  simp only [create]
  omega

end Rolling

namespace Window

/-- One use leaves buckets that stand in order as they should stand at its instant. -/
theorem apply_stacked {r : Rolling} {now : Instant} {use : Use} (h : r.Stacked now)
    (hCapacity : 0 < r.capacity) (hFits : ∀ x ∈ r.additions now use, Fits x) :
    ∃ r', (rolling r).apply now use = rolling r' ∧ r'.clear = r.clear ∧ r'.Stacked now ∧
      r'.Recent now := by
  cases use with
  | record e => exact ⟨r.record now e, rfl, rfl, h.record hFits, h.recent_record hCapacity e⟩
  | clear => exact ⟨r.clear, rfl, rfl, .of_empty rfl, fun b hMem => nomatch hMem⟩
  | read => exact ⟨r.expire now, rfl, rfl, h.expire, h.recent_expire⟩

/-- As long as nothing overflows the buckets stand in order, and the last use has left none of them
that was past. -/
theorem after_stacked {r : Rolling} (hEmpty : r.buckets = []) (hCapacity : 0 < r.capacity)
    {uses : List (Instant × Use)} (hOrder : (uses.map Prod.fst).Pairwise (· ≤ ·))
    (hNever : NeverOverflows (rolling r) uses) :
    ∃ r', (rolling r).after uses = rolling r' ∧ r'.clear = r.clear ∧
      (∀ now, (∀ x ∈ uses, x.1 ≤ now) → r'.Stacked now) ∧
      ∀ x ∈ uses.getLast?, r'.Recent x.1 := by
  induction uses using List.reverseRecOn with
  | nil => exact ⟨r, rfl, rfl, fun _ _ => .of_empty hEmpty, nofun⟩
  | append_singleton uses x ih =>
    obtain ⟨t, use⟩ := x
    simp only [List.map_append, List.pairwise_append, List.map_singleton, List.mem_singleton,
      forall_eq, List.forall_mem_map] at hOrder
    have hNext : ∃ r', ((rolling r).after uses).apply t use = rolling r' ∧ r'.clear = r.clear ∧
        r'.Stacked t ∧ r'.Recent t := by
      -- What comes before a clearing may have overflowed, but it is gone.
      by_cases hUse : use = .clear
      · subst hUse
        rw [after_holding hEmpty]
        exact ⟨r.clear, rfl, rfl, .of_empty rfl, fun b hMem => nomatch hMem⟩
      · obtain ⟨hBefore, hFits⟩ := throughout_append_iff.mp hNever hUse
        obtain ⟨q, hAfter, hClear, hStacked, -⟩ := ih hOrder.1 hBefore
        have hSame : q.clear.capacity = r.clear.capacity := congrArg Rolling.capacity hClear
        have hRoom : 0 < q.capacity := Nat.lt_of_lt_of_eq hCapacity hSame.symm
        rw [hAfter] at hFits ⊢
        obtain ⟨r', hApply, hKept, hLast⟩ := apply_stacked (hStacked t hOrder.2.2) hRoom hFits
        exact ⟨r', hApply, hKept.trans hClear, hLast⟩
    obtain ⟨r', hApply, hClear, hStacked, hRecent⟩ := hNext
    refine ⟨r', ?_, hClear, fun now hPast => ?_, ?_⟩
    · rw [after_append_singleton, hApply]
    · exact hStacked.later (hPast (t, use) (by simp))
    · intro x hLast
      rw [List.getLast?_concat, Option.mem_some_iff] at hLast
      rwa [← hLast]

/-- After every use the buckets of a rolling window stand in the order of their periods, the newest
first, they are of the present period or of one that the window still covers, so that there are no
more of them than the window covers periods, and the numbers of each agree with one another. -/
theorem buckets_in_order (window period : Span) (origin now : Instant)
    (uses : List (Instant × Use)) (use : Use)
    (hOrder : (uses.map Prod.fst ++ [now]).Pairwise (· ≤ ·))
    (hFew : (sinceClear (uses ++ [(now, use)])).length < 2 ^ 32) :
    ∃ r : Rolling,
      (create (some window) (some period) origin).after (uses ++ [(now, use)]) = rolling r ∧
      r.clear = Rolling.create window period origin ∧ r.Stacked now ∧ r.Recent now ∧
      r.buckets.length ≤ r.capacity := by
  have hEmpty : (Rolling.create window period origin).buckets = [] := rfl
  have hNever : NeverOverflows (rolling (Rolling.create window period origin))
      (uses ++ [(now, use)]) := by
    refine neverOverflows_of_few hEmpty fun e => Nat.lt_of_le_of_lt List.count_le_length ?_
    rwa [List.length_map]
  have hTimes : ((uses ++ [(now, use)]).map Prod.fst).Pairwise (· ≤ ·) := by
    rwa [List.map_append, List.map_singleton]
  have hPast : ∀ x ∈ uses ++ [(now, use)], x.1 ≤ now := by
    have hBefore := (List.pairwise_append.mp hOrder).2.2
    simp only [List.forall_mem_map, List.mem_singleton, forall_eq] at hBefore
    exact List.forall_mem_append.mpr ⟨hBefore, List.forall_mem_singleton.mpr (Int.le_refl now)⟩
  obtain ⟨r, hAfter, hClear, hStacked, hRecent⟩ :=
    after_stacked hEmpty (Rolling.create_capacity_pos window period origin) hTimes hNever
  have hLast : r.Recent now := hRecent (now, use) (by simp)
  exact ⟨r, hAfter, hClear, hStacked now hPast, hLast, (hStacked now hPast).length_le hLast⟩

/-- Uses from before the origin on, over a clearing and a period without any, up to a window that
has a bucket for each period it covers. -/
def filling : List (Instant × Use) :=
  [(-2, .record .request), (1, .clear), (1, .record .failure), (4, .record .failure),
    (5, .record .failure), (8, .record .success), (8, .record .success), (10, .read),
    (11, .record .failure), (11, .record .success)]

/-- The bucket of the clearing's period has gone with the last use. -/
def filled : Rolling where
  origin := 0
  period := 3
  capacity := 4
  buckets := [⟨4, 1, 0, 0, 0, 0⟩, ⟨3, 0, 1, 1, 1, 0⟩, ⟨2, 0, 2, 0, 2, 0⟩, ⟨1, 0, 0, 2, 0, 2⟩]

theorem buckets_in_order_filled :
    ((filling.map Prod.fst ++ [13]).Pairwise (· ≤ ·) ∧
        (sinceClear (filling ++ [(13, .record .request)])).length < 2 ^ 32) ∧
      (create (some ⟨10, by decide⟩) (some ⟨3, by decide⟩) 0).after
        (filling ++ [(13, .record .request)]) = rolling filled ∧
      filled.Stacked 13 ∧ filled.Recent 13 ∧ filled.buckets.length = filled.capacity := by
  have hOrder : (filling.map Prod.fst ++ [13]).Pairwise (· ≤ ·) := by decide
  have hFew : (sinceClear (filling ++ [(13, .record .request)])).length < 2 ^ 32 := by decide
  have hFilled : (create (some ⟨10, by decide⟩) (some ⟨3, by decide⟩) 0).after
      (filling ++ [(13, .record .request)]) = rolling filled := by decide
  obtain ⟨r, hAfter, -, hStacked, hRecent, -⟩ :=
    buckets_in_order ⟨10, by decide⟩ ⟨3, by decide⟩ 0 13 filling (.record .request) hOrder hFew
  obtain rfl : r = filled := rolling.inj (hAfter.symm.trans hFilled)
  exact ⟨⟨hOrder, hFew⟩, hFilled, hStacked, hRecent, rfl⟩

end Window

end CallGuard
