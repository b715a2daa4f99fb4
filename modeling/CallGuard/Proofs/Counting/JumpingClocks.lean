import CallGuard.Proofs.Counting.WordLimits

/-!
# Clocks that jump

The users of a window read their clocks before they get hold of it, so the instants of its uses
may come in any order, and some may lie before its origin. Buckets then stand in the order in
which they were opened, and expiry looks at the oldest only. Still the window counts the latest
of the events since the last clearing and none else, in the order in which they were recorded,
and an event is among them unless something has been done since in a period that is further on by
the length of the window.
-/

namespace CallGuard

theorem cons_suffix_dropWhile {α : Type} {p : α → Bool} {x : α} {rest l : List α}
    (hSuffix : x :: rest <:+ l) (hStays : p x = false) : x :: rest <:+ l.dropWhile p := by
  obtain ⟨front, rfl⟩ := hSuffix
  rw [List.dropWhile_append]
  split
  · rw [List.dropWhile_cons_of_neg (by simp [hStays])]
  · exact List.suffix_append _ _

namespace Window

/-- The number of the period of an instant. All that comes before the origin is in the first. -/
def periodAt (period : Span) (origin t : Instant) : Nat :=
  Instant.nanosSince t origin / period.nanos

/-- Nothing is done in a period that leaves an event of `t` behind by the length of the window. -/
def Spared (window period : Span) (origin t : Instant) (later : List (Instant × Use)) : Prop :=
  ∀ x ∈ later,
    periodAt period origin x.1 < periodAt period origin t + window.nanos ⌈/⌉ period.nanos

def Follows (uses : List (Instant × Use)) (x : Instant × Event) (later : List (Instant × Use)) :
    Prop :=
  (x.1, .record x.2) :: later <:+ uses ∧ ∀ y ∈ later, y.2 ≠ .clear

theorem sinceClear_of_uncleared {uses : List (Instant × Use)}
    (hNone : ∀ x ∈ uses, x.2 ≠ .clear) :
    sinceClear uses = uses.filterMap fun x => x.2.event?.map (x.1, ·) := by
  have hAll : uses.rtakeWhile (fun x => x.2 != Use.clear) = uses :=
    List.rtakeWhile_eq_self_iff.mpr fun x hMem => bne_iff_ne.mpr (hNone x hMem)
  rw [sinceClear, hAll]

/-- The first event since the last clearing is followed by the uses that recorded the others. -/
theorem exists_follows {uses : List (Instant × Use)} {first : Instant × Event}
    {events : List (Instant × Event)} (hEvents : sinceClear uses = first :: events) :
    ∃ later, Follows uses first later ∧ sinceClear later = events := by
  obtain ⟨front, ⟨t, use⟩, later, hSplit, -, hFirst, hRest⟩ :=
    List.filterMap_eq_cons_iff.mp hEvents
  have hNone : ∀ x ∈ later, x.2 ≠ .clear := by
    intro x hMem
    have hKept : x ∈ uses.rtakeWhile fun x => x.2 != Use.clear := by
      rw [hSplit]
      exact List.mem_append_right _ (List.mem_cons_of_mem _ hMem)
    have hOther := List.mem_rtakeWhile_imp hKept
    exact bne_iff_ne.mp hOther
  refine ⟨later, ⟨?_, hNone⟩, (sinceClear_of_uncleared hNone).trans hRest⟩
  cases use with
  | clear | read => cases hFirst
  | record e =>
    cases hFirst
    have hLater : (t, Use.record e) :: later <:+ uses.rtakeWhile fun x => x.2 != Use.clear :=
      ⟨front, hSplit.symm⟩
    exact hLater.trans (List.rtakeWhile_suffix _ _)

/-- A window keeps an event, and with it all later ones, as long as it is used at instants from
which the event counts. -/
theorem suffix_kept {r : Rolling} {uses later : List (Instant × Use)} {x : Instant × Event}
    (hFollows : Follows uses x later) (hCounts : ∀ y ∈ later, r.covers y.1 x.1 = true) :
    x :: sinceClear later <:+ r.kept uses := by
  obtain ⟨⟨front, rfl⟩, hNone⟩ := hFollows
  -- On the uses that follow, the latest last. Each expires buckets before it does anything else.
  induction later using List.reverseRecOn with
  | nil =>
    rw [Rolling.kept_append_singleton]
    exact List.suffix_append _ _
  | append_singleton before y ih =>
    obtain ⟨t, use⟩ := y
    rw [List.forall_mem_append] at hNone hCounts
    have hUse := hNone.2 _ (List.mem_singleton_self _)
    have hLast := hCounts.2 _ (List.mem_singleton_self _)
    have hLeft : x :: sinceClear before <:+
        (r.kept (front ++ (x.1, .record x.2) :: before)).dropWhile
          (fun y => !r.covers t y.1) := by
      apply cons_suffix_dropWhile (ih hCounts.1 hNone.1)
      rw [hLast, Bool.not_true]
    rw [← List.cons_append, ← List.append_assoc, Rolling.kept_append_singleton]
    cases use with
    | record e =>
      obtain ⟨gone, hGone⟩ := hLeft
      rw [sinceClear_append_record, Rolling.keep_record, ← hGone, List.append_assoc]
      exact List.suffix_append gone _
    | clear => exact absurd rfl hUse
    | read =>
      rw [sinceClear_append_read]
      exact hLeft

/-- As long as the numbers of the periods are in range an event counts until it is left behind. -/
theorem covers_of_near {window period : Span} {origin t later : Instant}
    (hRange : periodAt period origin later < lastIndex)
    (hNear : periodAt period origin later <
      periodAt period origin t + window.nanos ⌈/⌉ period.nanos) :
    Rolling.covers
      { origin := origin
        period := period.nanos
        capacity := min (window.nanos ⌈/⌉ period.nanos) lastIndex
        buckets := [] } later t = true := by
  rw [Rolling.covers, Rolling.isPast, Bool.not_eq_true', decide_eq_false_iff_not]
  change ¬ min (min (periodAt period origin t) lastIndex +
      min (window.nanos ⌈/⌉ period.nanos) lastIndex) lastIndex ≤
    min (periodAt period origin later) lastIndex
  omega

/-- A reading tells of the events that the window keeps with it. -/
theorem countsAt_eq_kept {r : Rolling} {uses : List (Instant × Use)} (hEmpty : r.buckets = [])
    (hFew : (sinceClear uses).length < 2 ^ 32) (now : Instant) :
    ((rolling r).after uses).countsAt now =
      Counts.ofEvents ((r.kept (uses ++ [(now, .read)])).map Prod.snd) := by
  have hKept : r.kept (uses ++ [(now, .read)]) =
      (r.kept uses).dropWhile fun x => !r.covers now x.1 := r.kept_append_singleton uses _
  have hFewKept : ∀ e,
      ((r.periods (r.kept (uses ++ [(now, .read)]))).map Prod.snd).count e < 2 ^ 32 := by
    intro e
    have hSuffix := kept_suffix r (uses ++ [(now, .read)])
    rw [sinceClear_append_read] at hSuffix
    calc ((r.periods (r.kept (uses ++ [(now, .read)]))).map Prod.snd).count e
        ≤ ((r.periods (r.kept (uses ++ [(now, .read)]))).map Prod.snd).length :=
          List.count_le_length
      _ = (r.kept (uses ++ [(now, .read)])).length := by rw [r.periods_events, List.length_map]
      _ ≤ (sinceClear uses).length := hSuffix.length_le
      _ < 2 ^ 32 := hFew
  calc ((rolling r).after uses).countsAt now
      = Rolling.tally ((r.holding (r.kept uses)).expire now).buckets := by
        rw [after_holding hEmpty]
        rfl
    _ = Rolling.tally (Rolling.gather (r.periods (r.kept (uses ++ [(now, .read)])))) := by
        rw [Rolling.expire_holding, hKept]
        rfl
    _ = Counts.ofEvents ((r.kept (uses ++ [(now, .read)])).map Prod.snd) := by
        rw [Rolling.tally_gather _ hFewKept, r.periods_events]

/-- A rolling window used at instants in any order reports what a fixed one does that has received
the latest of the events since the last clearing. An event is one of them if nothing has been done
since that leaves it behind; if that holds of all events, the two kinds of window agree. -/
theorem jumping_counts_eq_plain (window period : Span) (origin now : Instant)
    (uses : List (Instant × Use)) (hWindow : 0 < window.nanos) (hPeriod : 0 < period.nanos)
    (hFew : (sinceClear uses).length < 2 ^ 32)
    (hRange : ∀ x ∈ uses ++ [(now, .read)], periodAt period origin x.1 < lastIndex) :
    let counts := (((create (some window) (some period) origin).after uses).read now).1
    (∃ counted, counted <:+ sinceClear uses ∧
        counts = ((receiving origin counted).read now).1 ∧
        ∀ x later, Follows (uses ++ [(now, .read)]) x later →
          Spared window period origin x.1 later → x :: sinceClear later <:+ counted) ∧
      ((∀ x later, Follows (uses ++ [(now, .read)]) x later →
          Spared window period origin x.1 later) →
        counts = (((create none none origin).after uses).read now).1) := by
  intro counts
  let r : Rolling :=
    { origin := origin
      period := period.nanos
      capacity := min (window.nanos ⌈/⌉ period.nanos) lastIndex
      buckets := [] }
  let counted := r.kept (uses ++ [(now, .read)])
  have hSuffix : counted <:+ sinceClear uses := by
    have hKept := kept_suffix r (uses ++ [(now, .read)])
    rwa [sinceClear_append_read] at hKept
  have hCounts : counts = Counts.ofEvents (counted.map Prod.snd) := by
    have hRead : counts = ((rolling r).after uses).countsAt now := by
      rw [← create_rolling hWindow hPeriod]
      rfl
    rw [hRead, countsAt_eq_kept rfl hFew]
  have hCounted : ∀ x later, Follows (uses ++ [(now, .read)]) x later →
      Spared window period origin x.1 later → x :: sinceClear later <:+ counted := by
    intro x later hFollows hSpared
    apply suffix_kept hFollows
    intro y hMem
    have hUse : y ∈ uses ++ [(now, .read)] := hFollows.1.subset (List.mem_cons_of_mem _ hMem)
    exact covers_of_near (hRange y hUse) (hSpared y hMem)
  refine ⟨⟨counted, hSuffix, ?_, hCounted⟩, ?_⟩
  · rw [hCounts, receiving_eq]
    rfl
  · intro hAll
    have hWhole : sinceClear uses <:+ counted := by
      rw [← sinceClear_append_read uses now]
      cases hEvents : sinceClear (uses ++ [(now, .read)]) with
      | nil => exact List.nil_suffix
      | cons first events =>
        obtain ⟨later, hFollows, rfl⟩ := exists_follows hEvents
        exact hCounted first later hFollows (hAll first later hFollows)
    rw [hCounts, hSuffix.eq_of_length_le hWhole.length_le, after_fixed]
    rfl

/-- The clock jumps ahead, falls back behind the origin and has not caught up when it is read. -/
def jumping : List (Instant × Use) :=
  [(2, .record .failure), (20, .record .success), (-4, .record .failure), (1, .read),
    (7, .record .failure)]

/-- The jump leaves the first event behind. The failure from before the origin is of the same
period, but it stands behind an event of a later one and counts. -/
theorem jumping_counts_eq_plain_fallenBack :
    ((sinceClear jumping).length < 2 ^ 32 ∧
        ∀ x ∈ jumping ++ [(13, .read)], periodAt ⟨3, by decide⟩ 0 x.1 < lastIndex) ∧
      (∃ counted, counted <:+ sinceClear jumping ∧
        (((create (some ⟨10, by decide⟩) (some ⟨3, by decide⟩) 0).after jumping).read 13).1 =
          ((receiving 0 counted).read 13).1 ∧
        [(20, .success), (-4, .failure), (7, .failure)] <:+ counted) ∧
      (((create (some ⟨10, by decide⟩) (some ⟨3, by decide⟩) 0).after jumping).read 13).1 =
        ⟨0, 1, 2, 0, 2⟩ := by
  have hFew : (sinceClear jumping).length < 2 ^ 32 := by decide
  have hRange : ∀ x ∈ jumping ++ [(13, .read)], periodAt ⟨3, by decide⟩ 0 x.1 < lastIndex := by
    decide
  have hFollows : Follows (jumping ++ [(13, .read)]) (20, .success)
      [(-4, .record .failure), (1, .read), (7, .record .failure), (13, .read)] := by
    constructor <;> decide
  have hSpared : Spared ⟨10, by decide⟩ ⟨3, by decide⟩ 0 20
      [(-4, .record .failure), (1, .read), (7, .record .failure), (13, .read)] := by
    unfold Spared
    decide
  obtain ⟨⟨counted, hSuffix, hCounts, hCounted⟩, -⟩ := jumping_counts_eq_plain ⟨10, by decide⟩
    ⟨3, by decide⟩ 0 13 jumping (by decide) (by decide) hFew hRange
  refine ⟨⟨hFew, hRange⟩, ⟨counted, hSuffix, hCounts, ?_⟩, by decide⟩
  exact hCounted _ _ hFollows hSpared

end Window

end CallGuard
