import CallGuard.Proofs.Counting.Lookback
import Mathlib.Algebra.Order.Floor.Div

/-!
# Rolling windows and plain counts

A rolling window reports what a fixed one would that had received the events of the latest
periods and no others. How many periods count is the length of the window in periods, rounded up;
so an event counts until its age is the length of the window less a period, and no longer once
its age is the length and a period more.
-/

namespace CallGuard.Window

inductive Use where
  | record (e : Event)
  | clear
  | read
deriving DecidableEq

def Use.event? : Use → Option Event
  | record e => some e
  | clear | read => none

def apply (now : Instant) (use : Use) (w : Window) : Window :=
  match use with
  | .record e => w.record now e
  | .clear => w.clear
  | .read => (w.read now).2

def after (w : Window) (uses : List (Instant × Use)) : Window :=
  uses.foldl (fun w x => w.apply x.1 x.2) w

def sinceClear (uses : List (Instant × Use)) : List (Instant × Event) :=
  (uses.rtakeWhile (·.2 != .clear)).filterMap fun x => x.2.event?.map (x.1, ·)

def inLookback (window period : Span) (origin now t : Instant) : Bool :=
  (now - origin) / period.nanos - (window.nanos ⌈/⌉ period.nanos : Nat) <
    (t - origin) / period.nanos

section Uses

variable (uses : List (Instant × Use)) (t : Instant)

theorem after_append_singleton (w : Window) (use : Use) :
    w.after (uses ++ [(t, use)]) = (w.after uses).apply t use := by
  simp [after]

theorem sinceClear_append_clear : sinceClear (uses ++ [(t, .clear)]) = [] := by
  rw [sinceClear, List.rtakeWhile_concat_neg _ _ _ (by simp)]
  rfl

theorem sinceClear_append_other {use : Use} (hOther : use ≠ .clear) :
    sinceClear (uses ++ [(t, use)]) = sinceClear uses ++ (use.event?.map (t, ·)).toList := by
  rw [sinceClear, List.rtakeWhile_concat_pos _ _ _ (by simpa using hOther), List.filterMap_append,
    ← sinceClear]
  cases use <;> rfl

theorem mem_of_mem_sinceClear {x : Instant × Event} (hMem : x ∈ sinceClear uses) :
    ∃ use, (x.1, use) ∈ uses := by
  obtain ⟨y, hSuffix, hEvent⟩ := List.mem_filterMap.mp hMem
  obtain ⟨event, _, rfl⟩ := Option.map_eq_some_iff.mp hEvent
  exact ⟨y.2, (List.rtakeWhile_suffix _ _).subset hSuffix⟩

theorem sinceClear_sorted (hOrder : (uses.map Prod.fst).Pairwise (· ≤ ·)) :
    (sinceClear uses).Pairwise fun x y => x.1 ≤ y.1 := by
  have hSuffix := (List.pairwise_map.mp hOrder).sublist
    (List.rtakeWhile_suffix (·.2 != Use.clear) uses).sublist
  refine hSuffix.filterMap _ fun x y hLe x' hx y' hy => ?_
  obtain ⟨_, _, rfl⟩ := Option.map_eq_some_iff.mp hx
  obtain ⟨_, _, rfl⟩ := Option.map_eq_some_iff.mp hy
  exact hLe

theorem covers_after (w : Window) (now t : Instant) (uses : List (Instant × Use)) :
    (w.after uses).covers now t = w.covers now t := by
  induction uses using List.reverseRecOn with
  | nil => rfl
  | append_singleton uses x ih =>
    obtain ⟨time, use⟩ := x
    rw [after_append_singleton, ← ih]
    cases use <;> cases w.after uses <;> rfl

end Uses

/-- Whatever is done to an empty window, it holds the events since the last clearing. -/
theorem holds_after {w : Window} {now : Instant} {uses : List (Instant × Use)}
    (hEmpty : w.clear = w) (hOrder : (uses.map Prod.fst).Pairwise (· ≤ ·))
    (hNow : ∀ x ∈ uses, x.1 ≤ now) : (w.after uses).Holds (sinceClear uses) now := by
  induction uses using List.reverseRecOn generalizing now with
  | nil =>
    rw [← hEmpty]
    exact .clear w now
  | append_singleton uses x ih =>
    obtain ⟨t, use⟩ := x
    simp only [List.map_append, List.pairwise_append, List.map_singleton, List.mem_singleton,
      forall_eq, List.forall_mem_map] at hOrder
    have hPast : (w.after uses).Holds (sinceClear uses) t := ih hOrder.1 hOrder.2.2
    have hNext : ((w.after uses).apply t use).Holds (sinceClear (uses ++ [(t, use)])) t := by
      cases use with
      | record e =>
        rw [sinceClear_append_other uses t (by simp)]
        exact hPast.record e
      | clear =>
        rw [sinceClear_append_clear]
        exact .clear _ t
      | read =>
        rw [sinceClear_append_other uses t (by simp), Use.event?, Option.map_none,
          Option.toList_none, List.append_nil]
        exact hPast.expire
    rw [after_append_singleton]
    exact hNext.later (hNow (t, use) (by simp))

def receiving (origin : Instant) (events : List (Instant × Event)) : Window :=
  events.foldl (fun w x => w.record x.1 x.2) (create none none origin)

theorem receiving_eq (origin : Instant) (events : List (Instant × Event)) :
    receiving origin events = fixed (Counts.ofEvents (events.map Prod.snd)) := by
  induction events using List.reverseRecOn with
  | nil => rfl
  | append_singleton events x ih =>
    rw [receiving, List.foldl_append, ← receiving, ih, List.map_append, List.map_singleton,
      Counts.ofEvents_append_singleton]
    rfl

section Lookback

variable {window period : Span} {origin now t : Instant}

theorem create_rolling (hWindow : 0 < window.nanos) (hPeriod : 0 < period.nanos) :
    create (some window) (some period) origin =
      rolling
        { origin := origin
          period := period.nanos
          capacity := min (window.nanos ⌈/⌉ period.nanos) lastIndex
          buckets := [] } := by
  have hCapacity : 0 < (window.nanos + period.nanos - 1) / period.nanos :=
    Nat.div_pos (by omega) hPeriod
  simp only [create, Rolling.create, Nat.max_eq_left hPeriod, Nat.max_eq_left hCapacity,
    Nat.ceilDiv_eq_add_pred_div]

theorem natCast_nanosSince_div (hOrigin : origin ≤ t) :
    ((Instant.nanosSince t origin / period.nanos : Nat) : Int) = (t - origin) / period.nanos := by
  rw [Int.natCast_div, Instant.nanosSince, Int.toNat_of_nonneg (Int.sub_nonneg_of_le hOrigin)]

theorem covers_create (hWindow : 0 < window.nanos) (hPeriod : 0 < period.nanos)
    (hOrigin : origin ≤ t) (hPast : t ≤ now)
    (hRange : (now - origin) / period.nanos + (window.nanos ⌈/⌉ period.nanos : Nat) < 2 ^ 64) :
    (create (some window) (some period) origin).covers now t =
      inLookback window period origin now t := by
  have hMono : Instant.nanosSince t origin / period.nanos ≤
      Instant.nanosSince now origin / period.nanos :=
    Nat.div_le_div_right (Int.toNat_le_toNat (Int.sub_le_sub_right hPast _))
  have hLast : Instant.nanosSince now origin / period.nanos + window.nanos ⌈/⌉ period.nanos ≤
      lastIndex := by
    rw [← natCast_nanosSince_div (Int.le_trans hOrigin hPast)] at hRange
    have hWord : Instant.nanosSince now origin / period.nanos + window.nanos ⌈/⌉ period.nanos <
        2 ^ 64 := by exact_mod_cast hRange
    unfold lastIndex
    omega
  rw [create_rolling hWindow hPeriod, Bool.eq_iff_iff, covers, Rolling.covers, Bool.not_eq_true']
  refine (Rolling.isPast_eq_false_iff hMono hLast).trans ?_
  rw [inLookback, ← natCast_nanosSince_div (Int.le_trans hOrigin hPast),
    ← natCast_nanosSince_div hOrigin, decide_eq_true_iff, Int.sub_lt_iff]
  exact_mod_cast Iff.rfl

theorem ceilDiv_mul_bounds (w : Nat) {p : Nat} (hPeriod : 0 < p) :
    (w : Int) ≤ p * (w ⌈/⌉ p : Nat) ∧ (p : Int) * (w ⌈/⌉ p : Nat) < w + p := by
  have hLower : w ≤ p * (w ⌈/⌉ p) := (ceilDiv_le_iff_le_mul hPeriod).mp (Nat.le_refl _)
  have hUpper : p * (w ⌈/⌉ p) < w + p := by
    rw [Nat.ceilDiv_eq_add_pred_div]
    have hMul := Nat.mul_div_le (w + p - 1) p
    omega
  exact ⟨by exact_mod_cast hLower, by exact_mod_cast hUpper⟩

/-- The age of an event decides whether it counts, up to a period. -/
theorem lookback_of_age (w : Nat) {p : Nat} (hPeriod : 0 < p) (origin now t : Int) :
    (now - t ≤ w - p → (now - origin) / p - (w ⌈/⌉ p : Nat) < (t - origin) / p) ∧
      ((now - origin) / p - (w ⌈/⌉ p : Nat) < (t - origin) / p → now - t < w + p) := by
  obtain ⟨hLower, hUpper⟩ := ceilDiv_mul_bounds w hPeriod
  have hPos : (0 : Int) < p := Int.natCast_pos.mpr hPeriod
  have hNow := Int.mul_ediv_add_emod (now - origin) p
  have hThen := Int.mul_ediv_add_emod (t - origin) p
  have hNowRest := Int.emod_lt_of_pos (now - origin) hPos
  have hNowRest' := Int.emod_nonneg (now - origin) (Int.ne_of_gt hPos)
  have hThenRest := Int.emod_lt_of_pos (t - origin) hPos
  have hThenRest' := Int.emod_nonneg (t - origin) (Int.ne_of_gt hPos)
  constructor
  · intro hYoung
    refine Int.not_le.mp fun hOld => ?_
    have hApart : (w ⌈/⌉ p : Nat) ≤ (now - origin) / p - (t - origin) / p := by omega
    have hMul := Int.mul_le_mul_of_nonneg_left hApart (Int.le_of_lt hPos)
    rw [Int.mul_sub] at hMul
    omega
  · intro hNear
    have hApart : (now - origin) / p - (t - origin) / p + 1 ≤ (w ⌈/⌉ p : Nat) := by omega
    have hMul := Int.mul_le_mul_of_nonneg_left hApart (Int.le_of_lt hPos)
    rw [Int.mul_add, Int.mul_sub] at hMul
    omega

end Lookback

/-- A rolling window reports what a fixed one does that has received the events of its latest
periods only; these events are told from the others by their age, up to a period. -/
theorem rolling_counts_eq_plain (window period : Span) (origin now : Instant)
    (uses : List (Instant × Use)) (hWindow : 0 < window.nanos) (hPeriod : 0 < period.nanos)
    (hOrder : (origin :: uses.map Prod.fst ++ [now]).Pairwise (· ≤ ·))
    (hFew : (sinceClear uses).length < 2 ^ 32)
    (hRange : (now - origin) / period.nanos + (window.nanos ⌈/⌉ period.nanos : Nat) < 2 ^ 64) :
    let recent := (sinceClear uses).filter fun x => inLookback window period origin now x.1
    (((create (some window) (some period) origin).after uses).read now).1 =
        ((receiving origin recent).read now).1 ∧
      (∀ x ∈ sinceClear uses, now - x.1 ≤ window.nanos - period.nanos → x ∈ recent) ∧
      ∀ x ∈ recent, now - x.1 < window.nanos + period.nanos := by
  intro recent
  simp only [List.cons_append, List.pairwise_cons, List.pairwise_append, List.mem_append,
    List.mem_singleton, List.forall_mem_map, forall_eq] at hOrder
  obtain ⟨hOrigin, hUses, -, hNow⟩ := hOrder
  have hBetween : ∀ x ∈ sinceClear uses, origin ≤ x.1 ∧ x.1 ≤ now := by
    intro x hMem
    obtain ⟨use, hUse⟩ := mem_of_mem_sinceClear uses hMem
    exact ⟨hOrigin x.1 (.inl (List.mem_map_of_mem hUse)), hNow (x.1, use) hUse⟩
  have hHolds : ((create (some window) (some period) origin).after uses).Holds
      (sinceClear uses) now :=
    holds_after rfl hUses hNow
  have hRecent : (sinceClear uses).filter (fun x =>
      ((create (some window) (some period) origin).after uses).covers now x.1) = recent := by
    refine List.filter_congr fun x hMem => ?_
    rw [covers_after]
    exact covers_create hWindow hPeriod (hBetween x hMem).1 (hBetween x hMem).2 hRange
  have hAge := fun x : Instant × Event =>
    lookback_of_age window.nanos hPeriod origin now x.1
  refine ⟨?_, fun x hMem hYoung => ?_, fun x hMem => ?_⟩
  · have hCounts := hHolds.countsAt (sinceClear_sorted uses hUses) fun _ e =>
      Nat.lt_of_le_of_lt List.count_le_length (by rwa [List.length_map])
    rw [Window.recent, hRecent] at hCounts
    rw [receiving_eq]
    exact hCounts
  · exact List.mem_filter.mpr ⟨hMem, decide_eq_true ((hAge x).1 hYoung)⟩
  · exact (hAge x).2 (of_decide_eq_true (List.mem_filter.mp hMem).2)

/-- Events on both sides of a clearing, a period with a request only and a streak over several
periods, one of which is empty. -/
def scattered : List (Instant × Use) :=
  [(2, .record .failure), (2, .clear), (5, .record .failure), (6, .record .success),
    (7, .record .failure), (9, .record .request), (11, .read), (15, .record .failure),
    (16, .record .failure)]

theorem rolling_counts_eq_plain_scattered :
    ((0 : Instant) :: scattered.map Prod.fst ++ [17]).Pairwise (· ≤ ·) ∧
      (((create (some ⟨10, by decide⟩) (some ⟨3, by decide⟩) 0).after scattered).read 17).1 =
        ((receiving 0 [(6, .success), (7, .failure), (9, .request), (15, .failure),
          (16, .failure)]).read 17).1 ∧
      (((create (some ⟨10, by decide⟩) (some ⟨3, by decide⟩) 0).after scattered).read 17).1 =
        ⟨1, 1, 3, 0, 3⟩ := by
  have hOrder : ((0 : Instant) :: scattered.map Prod.fst ++ [17]).Pairwise (· ≤ ·) := by decide
  obtain ⟨hPlain, -, -⟩ := rolling_counts_eq_plain ⟨10, by decide⟩ ⟨3, by decide⟩ 0 17 scattered
    (by decide) (by decide) hOrder (by decide) (by decide)
  refine ⟨hOrder, hPlain, hPlain.trans (by decide)⟩

end CallGuard.Window
