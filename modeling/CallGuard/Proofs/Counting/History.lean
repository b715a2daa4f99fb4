import CallGuard.Counting.Window
import CallGuard.Proofs.Counting.Tally

/-!
# What a window holds of its history

A history lists the events of a window since it was last cleared, with the instants at which they
were recorded. A fixed window holds its counts. A rolling window holds the buckets of its later
part; the events of the part it has dropped were past when it dropped them, and as clocks go
forward they stay past.
-/

namespace CallGuard

namespace Rolling

def isPast (capacity current i : Nat) : Bool := min (i + capacity) lastIndex ≤ current

theorem record_index (b : Bucket) (e : Event) : (b.record e).index = b.index := by
  cases e <;> rfl

theorem isExpired_eq (capacity current : Nat) (b : Bucket) :
    isExpired capacity current b = isPast capacity current b.index := rfl

section Dropping

variable (capacity current : Nat)

theorem dropExpired_cons (b : Bucket) (older : List Bucket) :
    dropExpired capacity current (b :: older) =
      if dropExpired capacity current older = [] ∧ isPast capacity current b.index = true then []
      else b :: dropExpired capacity current older := by
  rw [dropExpired, isExpired_eq]
  cases dropExpired capacity current older with
  | nil => simp only [true_and]
  | cons _ _ => simp

variable {capacity current} in
/-- What is dropped at one instant would be dropped at a later one all the same. -/
theorem dropExpired_dropExpired {later : Nat} (hLater : current ≤ later) (buckets : List Bucket) :
    dropExpired capacity later (dropExpired capacity current buckets) =
      dropExpired capacity later buckets := by
  induction buckets with
  | nil => rfl
  | cons b older ih =>
    rw [dropExpired_cons, dropExpired_cons capacity later b older]
    split
    · next hGone =>
      obtain ⟨hOlder, hPast⟩ := hGone
      have hPastLater : isPast capacity later b.index = true := by
        rw [isPast, decide_eq_true_iff] at hPast ⊢
        exact Nat.le_trans hPast hLater
      rw [← ih, hOlder]
      simp [dropExpired, hPastLater]
    · rw [dropExpired_cons, ih]

theorem head?_dropExpired (buckets : List Bucket) :
    ∀ b ∈ (dropExpired capacity current buckets).head?, b ∈ buckets.head? := by
  cases buckets with
  | nil => exact fun b hMem => hMem
  | cons head older =>
    rw [dropExpired_cons]
    intro b hMem
    split at hMem
    · cases hMem
    · exact hMem

theorem dropExpired_recordIn (i : Nat) (e : Event) (buckets : List Bucket) :
    dropExpired capacity current (recordIn i e buckets) =
      if dropExpired capacity current buckets = [] ∧ isPast capacity current i = true then []
      else recordIn i e (dropExpired capacity current buckets) := by
  obtain ⟨b, older, hEq, ⟨rfl, rfl⟩ | ⟨rfl, rfl, hNew⟩⟩ := recordIn_eq i e buckets
  · rw [hEq, dropExpired_cons, dropExpired_cons, record_index]
    by_cases hGone : dropExpired capacity current older = [] ∧
        isPast capacity current b.index = true
    · simp [hGone]
    · rw [if_neg hGone, if_neg hGone, if_neg (by simp), recordIn, if_pos rfl]
  · rw [hEq, dropExpired_cons, record_index]
    have hHead := head?_dropExpired capacity current older
    cases hKept : dropExpired capacity current older with
    | nil => rfl
    | cons head rest =>
      rw [hKept] at hHead
      have hOther : head.index ≠ i := hNew head (hHead head rfl)
      simp [recordIn, hOther]

theorem gather_eq_nil_iff (log : List (Nat × Event)) : gather log = [] ↔ log = [] := by
  induction log using List.reverseRecOn with
  | nil => simp
  | append_singleton log x _ =>
    obtain ⟨b, older, hEq, _⟩ := recordIn_eq x.1 x.2 (gather log)
    rw [gather_append_singleton, hEq]
    simp

/-- Dropping buckets from the oldest on is dropping events from the earliest on. -/
theorem dropExpired_gather (log : List (Nat × Event)) :
    dropExpired capacity current (gather log) =
      gather (log.dropWhile fun x => isPast capacity current x.1) := by
  induction log using List.reverseRecOn with
  | nil => rfl
  | append_singleton log x ih =>
    rw [gather_append_singleton, dropExpired_recordIn, ih, List.dropWhile_append]
    simp only [gather_eq_nil_iff, List.isEmpty_iff]
    by_cases hGone : log.dropWhile (fun x => isPast capacity current x.1) = []
    · cases hPast : isPast capacity current x.1 with
      | true => simp [hGone, hPast]
      | false => simp [hGone, hPast, gather]
    · rw [if_neg (fun h => hGone h.1), if_neg hGone, gather_append_singleton]

end Dropping

def periods (r : Rolling) (history : List (Instant × Event)) : List (Nat × Event) :=
  history.map fun x => (r.indexAt x.1, x.2)

theorem periods_events (r : Rolling) (history : List (Instant × Event)) :
    (r.periods history).map Prod.snd = history.map Prod.snd := by
  rw [periods, List.map_map]
  rfl

def covers (r : Rolling) (now t : Instant) : Bool :=
  !isPast r.capacity (r.indexAt now) (r.indexAt t)

theorem indexAt_mono (r : Rolling) {t t' : Instant} (hLater : t ≤ t') :
    r.indexAt t ≤ r.indexAt t' := by
  have hSince : Instant.nanosSince t r.origin ≤ Instant.nanosSince t' r.origin :=
    Int.toNat_le_toNat (Int.sub_le_sub_right hLater _)
  have hDiv := Nat.div_le_div_right (c := r.period) hSince
  unfold indexAt
  omega

theorem expire_expire (r : Rolling) {now later : Instant} (hLater : now ≤ later) :
    (r.expire now).expire later = r.expire later := by
  have hBuckets : dropExpired r.capacity (r.indexAt later) (r.expire now).buckets =
      dropExpired r.capacity (r.indexAt later) r.buckets :=
    dropExpired_dropExpired (r.indexAt_mono hLater) r.buckets
  exact congrArg (fun buckets => { r with buckets := buckets }) hBuckets

theorem covers_of_later (r : Rolling) {now later t : Instant} (hLater : now ≤ later)
    (hCovers : r.covers later t = true) : r.covers now t = true := by
  have hIndex := r.indexAt_mono hLater
  simp only [covers, isPast, Bool.not_eq_true', decide_eq_false_iff_not] at hCovers ⊢
  omega

theorem covers_of_recent (r : Rolling) {now t t' : Instant} (hLater : t ≤ t')
    (hCovers : r.covers now t = true) : r.covers now t' = true := by
  have hIndex := r.indexAt_mono hLater
  simp only [covers, isPast, Bool.not_eq_true', decide_eq_false_iff_not] at hCovers ⊢
  omega

theorem expire_buckets {r : Rolling} {kept : List (Instant × Event)}
    (hBuckets : r.buckets = gather (r.periods kept)) (now : Instant) :
    (r.expire now).buckets = gather (r.periods (kept.dropWhile fun x => !r.covers now x.1)) := by
  rw [expire, hBuckets, dropExpired_gather, periods, List.dropWhile_map]
  simp [periods, covers, Function.comp_def]

end Rolling

theorem dropWhile_not_eq_filter {p : Instant × Event → Bool} {history : List (Instant × Event)}
    (hOnce : history.Pairwise fun x y => p x = true → p y = true) :
    history.dropWhile (fun x => !p x) = history.filter p := by
  induction history with
  | nil => rfl
  | cons x rest ih =>
    obtain ⟨hRest, hTail⟩ := List.pairwise_cons.mp hOnce
    cases hx : p x with
    | false => simp [hx, ih hTail]
    | true =>
      have hAll : rest.filter p = rest := List.filter_eq_self.mpr fun y hMem => hRest y hMem hx
      simp [hx, hAll]

namespace Window

/-- Whether an event that was recorded at `t` counts at `now`. In a fixed window all do. -/
def covers (now t : Instant) : Window → Bool
  | fixed _ => true
  | rolling r => r.covers now t

section Expiry

variable {now : Instant} {w w' : Window}

theorem expire_expire {later : Instant} (hLater : now ≤ later) (w : Window) :
    (w.expire now).expire later = w.expire later := by
  cases w with
  | fixed c => rfl
  | rolling r => exact congrArg rolling (r.expire_expire hLater)

/-- What a window does at an instant, it does to what is left once the expired is dropped. -/
theorem record_congr (hExpire : w'.expire now = w.expire now) (e : Event) :
    w'.record now e = w.record now e := by
  cases w with
  | fixed c =>
    cases w' with
    | fixed c' => rw [fixed.inj hExpire]
    | rolling r' => cases hExpire
  | rolling r =>
    cases w' with
    | fixed c' => cases hExpire
    | rolling r' =>
      have hRecord : ∀ q : Rolling, q.record now e =
          { q.expire now with
            buckets := Rolling.recordIn ((q.expire now).indexAt now) e (q.expire now).buckets } :=
        fun _ => rfl
      exact congrArg rolling (by rw [hRecord, hRecord, rolling.inj hExpire])

theorem countsAt_congr (hExpire : w'.expire now = w.expire now) :
    w'.countsAt now = w.countsAt now := by
  cases w with
  | fixed c =>
    cases w' with
    | fixed c' => exact fixed.inj hExpire
    | rolling r' => cases hExpire
  | rolling r =>
    cases w' with
    | fixed c' => cases hExpire
    | rolling r' => exact congrArg (fun q => Rolling.tally q.buckets) (rolling.inj hExpire)

end Expiry

/-- A window has recorded a history, and at `now` it has dropped only what does not count. -/
def Holds (history : List (Instant × Event)) (now : Instant) : Window → Prop
  | fixed c => c = Counts.ofEvents (history.map Prod.snd)
  | rolling r => ∃ gone kept, history = gone ++ kept ∧
      (∀ x ∈ gone, r.covers now x.1 = false) ∧ r.buckets = Rolling.gather (r.periods kept)

def recent (now : Instant) (history : List (Instant × Event)) (w : Window) : List Event :=
  (history.filter fun x => w.covers now x.1).map Prod.snd

@[simp] theorem recent_record (now t : Instant) (e : Event) (history : List (Instant × Event))
    (w : Window) : (w.record t e).recent now history = w.recent now history := by
  cases w <;> rfl

@[simp] theorem recent_expire (now t : Instant) (history : List (Instant × Event)) (w : Window) :
    (w.expire t).recent now history = w.recent now history := by
  cases w <;> rfl

theorem recent_append_singleton (now t : Instant) (e : Event) (history : List (Instant × Event))
    (w : Window) :
    w.recent now (history ++ [(t, e)]) =
      w.recent now history ++ if w.covers now t then [e] else [] := by
  unfold recent
  rw [List.filter_append, List.map_append]
  cases hCovers : w.covers now t <;> simp [hCovers]

/-- As time goes by, what counts of a history loses its beginning. -/
theorem recent_suffix_of_later {now later : Instant} {history : List (Instant × Event)}
    (hSorted : history.Pairwise fun x y => x.1 ≤ y.1) (hLater : now ≤ later) (w : Window) :
    w.recent later history <:+ w.recent now history := by
  cases w with
  | fixed c => exact List.suffix_refl _
  | rolling r =>
    have hNarrow : history.filter (fun x => r.covers later x.1) =
        (history.filter fun x => r.covers now x.1).filter fun x => r.covers later x.1 := by
      rw [List.filter_filter]
      refine List.filter_congr fun x _ => ?_
      cases hCovers : r.covers later x.1 with
      | false => rfl
      | true => simp [r.covers_of_later hLater hCovers]
    have hOnce : (history.filter fun x => r.covers now x.1).Pairwise
        fun x y => r.covers later x.1 = true → r.covers later y.1 = true :=
      (hSorted.filter _).imp r.covers_of_recent
    simp only [recent, covers]
    rw [hNarrow, ← dropWhile_not_eq_filter hOnce]
    exact (List.dropWhile_suffix _).map _

namespace Holds

variable {w : Window} {history : List (Instant × Event)} {now : Instant}

theorem clear (w : Window) (now : Instant) : w.clear.Holds [] now := by
  cases w with
  | fixed c => rfl
  | rolling r => exact ⟨[], [], rfl, by simp, rfl⟩

theorem later {later : Instant} (h : w.Holds history now) (hLater : now ≤ later) :
    w.Holds history later := by
  cases w with
  | fixed c => exact h
  | rolling r =>
    obtain ⟨gone, kept, hHistory, hGone, hBuckets⟩ := h
    refine ⟨gone, kept, hHistory, fun x hMem => ?_, hBuckets⟩
    have hPast := hGone x hMem
    cases hCovers : r.covers later x.1 with
    | false => rfl
    | true =>
      rw [r.covers_of_later hLater hCovers] at hPast
      cases hPast

theorem expire (h : w.Holds history now) : (w.expire now).Holds history now := by
  cases w with
  | fixed c => exact h
  | rolling r =>
    obtain ⟨gone, kept, hHistory, hGone, hBuckets⟩ := h
    refine ⟨gone ++ kept.takeWhile (fun x => !r.covers now x.1),
      kept.dropWhile (fun x => !r.covers now x.1), ?_, ?_, Rolling.expire_buckets hBuckets now⟩
    · rw [List.append_assoc, List.takeWhile_append_dropWhile, hHistory]
    · intro x hMem
      rcases List.mem_append.mp hMem with hOld | hNew
      · exact hGone x hOld
      · have hPast := List.mem_takeWhile_imp hNew
        change r.covers now x.1 = false
        simpa using hPast

theorem record (h : w.Holds history now) (e : Event) :
    (w.record now e).Holds (history ++ [(now, e)]) now := by
  cases w with
  | fixed c =>
    obtain rfl : c = Counts.ofEvents (history.map Prod.snd) := h
    change (Counts.ofEvents _).record e = Counts.ofEvents _
    rw [List.map_append, List.map_singleton, Counts.ofEvents_append_singleton]
  | rolling r =>
    obtain ⟨gone, kept, hHistory, hGone, hBuckets⟩ := h.expire
    refine ⟨gone, kept ++ [(now, e)], by rw [hHistory, List.append_assoc], hGone, ?_⟩
    change Rolling.recordIn (r.indexAt now) e (r.expire now).buckets = _
    rw [hBuckets, Rolling.periods, Rolling.periods, List.map_append, List.map_singleton,
      Rolling.gather_append_singleton]
    rfl

/-- The counts at an instant are those of the events that count then, if no later one of them has
been dropped. -/
theorem countsAt_of_pairwise (h : w.Holds history now)
    (hOnce : history.Pairwise fun x y => w.covers now x.1 = true → w.covers now y.1 = true)
    (hFew : w.isRolling = true → ∀ e, (history.map Prod.snd).count e < 2 ^ 32) :
    w.countsAt now = Counts.ofEvents (w.recent now history) := by
  cases w with
  | fixed c =>
    have hAll : history.filter (fun _ => true) = history := List.filter_eq_self.mpr fun _ _ => rfl
    exact h.trans (by rw [recent]; exact congrArg (Counts.ofEvents <| ·.map Prod.snd) hAll.symm)
  | rolling r =>
    obtain ⟨gone, kept, hHistory, hGone, hBuckets⟩ := h
    have hKept : kept.dropWhile (fun x => !r.covers now x.1) =
        history.filter (fun x => r.covers now x.1) := by
      have hNone : gone.filter (fun x => r.covers now x.1) = [] :=
        List.filter_eq_nil_iff.mpr fun x hMem => by simp [hGone x hMem]
      have hLater : kept.Pairwise fun x y => r.covers now x.1 = true → r.covers now y.1 = true := by
        rw [hHistory] at hOnce
        exact (List.pairwise_append.mp hOnce).2.1
      rw [hHistory, List.filter_append, hNone, List.nil_append, dropWhile_not_eq_filter hLater]
    have hEvents := r.periods_events (history.filter fun x => r.covers now x.1)
    have hFewRecent : ∀ e,
        ((r.periods (history.filter fun x => r.covers now x.1)).map Prod.snd).count e < 2 ^ 32 := by
      intro e
      rw [hEvents]
      exact Nat.lt_of_le_of_lt ((List.filter_sublist.map Prod.snd).count_le e) (hFew rfl e)
    change Rolling.tally (r.expire now).buckets = _
    rw [Rolling.expire_buckets hBuckets now, hKept, Rolling.tally_gather _ hFewRecent, hEvents]
    rfl

/-- Where clocks go forward, the counts at an instant are those of the events that count then. -/
theorem countsAt (h : w.Holds history now) (hSorted : history.Pairwise fun x y => x.1 ≤ y.1)
    (hFew : w.isRolling = true → ∀ e, (history.map Prod.snd).count e < 2 ^ 32) :
    w.countsAt now = Counts.ofEvents (w.recent now history) := by
  apply h.countsAt_of_pairwise ?_ hFew
  cases w with
  | fixed c => exact hSorted.imp fun _ _ => rfl
  | rolling r => exact hSorted.imp r.covers_of_recent

end Holds

end Window

end CallGuard
