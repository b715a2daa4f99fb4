import CallGuard.Proofs.Counting.Lookback

/-!
# The first window

Until a whole length of the window has passed since its creation, no window has anything to drop.
One that rolls then counts all that was recorded, like one that is cleared as a whole, and it does
not matter in which order the clocks of its users show their instants.
-/

namespace CallGuard

/-- Less than a window of so many milliseconds has passed since the creation. -/
def FirstWindow (created : Instant) (ms : UInt64) (now : Instant) : Prop :=
  created ≤ now ∧ now < created + (Span.ofMillis ms).nanos

instance (created : Instant) (ms : UInt64) (now : Instant) :
    Decidable (FirstWindow created ms now) :=
  inferInstanceAs (Decidable (_ ∧ _))

def Few (history : List (Instant × Event)) : Prop :=
  ∀ e, (history.map Prod.snd).count e < 2 ^ 32

theorem Few.of_sublist {history longer : List (Instant × Event)} (hFew : Few longer)
    (hSublist : history.Sublist longer) : Few history :=
  fun e => Nat.lt_of_le_of_lt ((hSublist.map Prod.snd).count_le e) (hFew e)

theorem Rolling.covers_of_index_lt {r : Rolling} {now : Instant}
    (hLt : r.indexAt now < r.capacity) (hCapacity : r.capacity ≤ lastIndex) (t : Instant) :
    r.covers now t = true := by
  rw [covers, isPast, Bool.not_eq_true', decide_eq_false_iff_not]
  omega

namespace BreakerSettings

variable {s : BreakerSettings} {created now : Instant}

/-- The number of the present period is less than the number of periods that are looked back on. -/
theorem index_lt_lookback (hRolling : s.isRolling = true)
    (hFirst : FirstWindow created s.closedWindowIntervalMs now) :
    s.periodOf created now < min s.lookback lastIndex := by
  obtain ⟨hSince, hBefore⟩ := hFirst
  have hPos := periodNanos_pos hRolling
  have hMillis : 1000000 ≤ s.periodNanos := by
    unfold periodNanos at hPos ⊢
    omega
  have hNanos : Instant.nanosSince now created < s.closedWindowIntervalMs.toNat * 1000000 := by
    rw [Instant.nanosSince, Int.toNat_lt (Int.sub_nonneg_of_le hSince)]
    exact Int.sub_left_lt_of_lt_add hBefore
  have hWord := s.closedWindowIntervalMs.toNat_lt
  apply Nat.lt_min.mpr
  constructor
  · rw [periodOf, lookback, Nat.lt_iff_add_one_le, ← Nat.add_div_right _ hPos]
    exact Nat.div_le_div_right (by omega)
  · calc s.periodOf created now
        ≤ Instant.nanosSince now created / 1000000 := Nat.div_le_div_left hMillis (by decide)
      _ < lastIndex := by
        unfold lastIndex
        omega

/-- A new window covers all of its first length from everywhere in it. -/
theorem create_covers {ms : UInt64}
    (hMillis : s.closedWindowIntervalMs = 0 ∨ s.closedWindowIntervalMs = ms) {t : Instant}
    (hNow : FirstWindow created ms now) :
    (Window.create s.closedWindow s.bucketPeriod created).covers now t = true := by
  rw [window_create]
  cases hRolling : s.isRolling with
  | false => rfl
  | true =>
    have hLength : s.closedWindowIntervalMs = ms :=
      hMillis.resolve_left (isRolling_iff.mp hRolling).1
    have hIndex := index_lt_lookback hRolling (hLength ▸ hNow)
    have hCapacity := create_capacity hRolling created
    rw [if_pos rfl]
    apply Rolling.covers_of_index_lt
    · rw [Rolling.indexAt, create_period hRolling, hCapacity]
      exact Nat.lt_of_le_of_lt (Nat.min_le_left _ _) hIndex
    · rw [hCapacity]
      exact Nat.min_le_right _ _

end BreakerSettings

namespace Window

/-- A window has recorded a history at instants from any of which it covers all of them. -/
structure Complete (early : Instant → Prop) (history : List (Instant × Event)) (w : Window) :
    Prop where
  covers : ∀ now t, early now → early t → w.covers now t = true
  within : ∀ x ∈ history, early x.1
  holds : ∀ now, early now → w.Holds history now

namespace Complete

variable {early : Instant → Prop} {history : List (Instant × Event)} {w : Window} {now : Instant}

/-- Nothing has been dropped yet, so it does not matter when the window is looked at. -/
theorem of_holds (hCovers : ∀ now t, early now → early t → w.covers now t = true)
    (hEarly : ∀ x ∈ history, early x.1) (hNow : early now) (hHolds : w.Holds history now) :
    Complete early history w := by
  refine ⟨hCovers, hEarly, fun later hLater => ?_⟩
  cases w with
  | fixed c => exact hHolds
  | rolling r =>
    obtain ⟨gone, kept, rfl, hGone, hBuckets⟩ := hHolds
    refine ⟨gone, kept, rfl, fun x hMem => ?_, hBuckets⟩
    have hCovered := hCovers now x.1 hNow (hEarly x (List.mem_append_left kept hMem))
    exact absurd (hCovered.symm.trans (hGone x hMem)) (by decide)

theorem clear (h : Complete early history w) : Complete early [] w.clear where
  covers := by
    cases w with
    | fixed c => exact fun _ _ _ _ => rfl
    | rolling r => exact h.covers
  within := nofun
  holds now _ := .clear w now

theorem record (h : Complete early history w) (hNow : early now) (e : Event) :
    Complete early (history ++ [(now, e)]) (w.record now e) := by
  apply of_holds ?_ ?_ hNow ((h.holds now hNow).record e)
  · cases w with
    | fixed c => exact fun _ _ _ _ => rfl
    | rolling r => exact h.covers
  · intro x hMem
    rcases List.mem_append.mp hMem with hOld | hNew
    · exact h.within x hOld
    · rw [List.mem_singleton.mp hNew]
      exact hNow

theorem expire (h : Complete early history w) (hNow : early now) :
    Complete early history (w.expire now) := by
  apply of_holds ?_ h.within hNow (h.holds now hNow).expire
  cases w with
  | fixed c => exact fun _ _ _ _ => rfl
  | rolling r => exact h.covers

/-- All that was recorded is counted. -/
theorem countsAt (h : Complete early history w) (hNow : early now) (hFew : Few history) :
    w.countsAt now = Counts.ofEvents (history.map Prod.snd) := by
  have hAll : ∀ x ∈ history, w.covers now x.1 = true :=
    fun x hMem => h.covers now x.1 hNow (h.within x hMem)
  have hOnce : history.Pairwise fun x y => w.covers now x.1 = true → w.covers now y.1 = true :=
    List.pairwise_of_forall_mem_list fun _ _ y hMem _ => hAll y hMem
  rw [(h.holds now hNow).countsAt_of_pairwise hOnce fun _ => hFew, recent,
    List.filter_eq_self.mpr hAll]

end Complete

theorem create_complete {s : BreakerSettings} {ms : UInt64}
    (hMillis : s.closedWindowIntervalMs = 0 ∨ s.closedWindowIntervalMs = ms) (created : Instant) :
    Complete (FirstWindow created ms) [] (create s.closedWindow s.bucketPeriod created) where
  covers _ _ hNow _ := BreakerSettings.create_covers hMillis hNow
  within := nofun
  holds now _ := by
    rw [BreakerSettings.window_create]
    cases s.isRolling with
    | false => exact .clear (.fixed .zero) now
    | true =>
      exact .clear (.rolling (.create (.ofMillis s.closedWindowIntervalMs)
        (.ofMillis s.bucketPeriodMs) created)) now

end Window

end CallGuard
