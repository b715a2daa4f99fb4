import CallGuard.Proofs.Counting.Repetition
import CallGuard.Proofs.Counting.WordSums

/-!
# Where words end

A rolling window adds words, in its buckets and over them, and nothing keeps these sums below the
largest word, as a fixed window keeps its counts. They are right as long as fewer events of each
kind have been recorded since the last clearing than there are words. From then on, while no
bucket has expired, an addition has overflowed and the totals are remainders.
-/

namespace CallGuard

namespace Rolling

def holding (r : Rolling) (kept : List (Instant × Event)) : Rolling :=
  { r with buckets := gather (r.periods kept) }

section Holding

variable {r : Rolling} {kept : List (Instant × Event)} (now : Instant)

theorem holding_nil (hEmpty : r.buckets = []) : r.holding [] = r := by
  rw [holding, periods, List.map_nil, gather_nil, ← hEmpty]

theorem expire_holding :
    (r.holding kept).expire now = r.holding (kept.dropWhile fun x => !r.covers now x.1) := by
  have hBuckets : (r.holding kept).buckets = gather ((r.holding kept).periods kept) := rfl
  have hExpire := expire_buckets hBuckets now
  change { r with buckets := ((r.holding kept).expire now).buckets } = _
  rw [hExpire]
  rfl

theorem buckets_holding_append (e : Event) :
    (r.holding (kept ++ [(now, e)])).buckets =
      recordIn (r.indexAt now) e (r.holding kept).buckets := by
  simp only [holding, periods, List.map_append, List.map_singleton, gather_append_singleton]

theorem record_holding {left : List (Instant × Event)}
    (hExpire : (r.holding kept).expire now = r.holding left) (e : Event) :
    (r.holding kept).record now e = r.holding (left ++ [(now, e)]) := by
  have hRecord : (r.holding kept).record now e =
      { r with
        buckets := recordIn (r.indexAt now) e ((r.holding kept).expire now).buckets } := rfl
  rw [hRecord, hExpire, ← buckets_holding_append]
  rfl

theorem expire_record {r : Rolling} {now : Instant} (e : Event)
    (hCurrent : isPast r.capacity (r.indexAt now) (r.indexAt now) = false) :
    (r.record now e).expire now = r.record now e := by
  have hRecord := record_eq r now e
  have hExpire : (r.record now e).expire now =
      { r with
        buckets := dropExpired r.capacity (r.indexAt now) (r.record now e).buckets } := rfl
  rw [hExpire, hRecord, dropExpired_recordIn, dropExpired_dropExpired (Nat.le_refl _),
    if_neg (by simp [hCurrent])]

variable (kept) in
theorem magnitude_holding_le {field : Bucket → UInt32} {e : Event} (h : Grows field e) :
    magnitude (((r.holding kept).expire now).buckets.map field) ≤
      (kept.map Prod.snd).count e := by
  rw [expire_holding]
  refine Nat.le_trans (h.magnitude_gather _) ?_
  rw [periods_events]
  exact ((List.dropWhile_suffix _).sublist.map Prod.snd).count_le e

theorem newest_fits {field : Bucket → UInt32} {e : Event} (h : Grows field e)
    (hFew : (kept.map Prod.snd).count e + 1 < 2 ^ 32) :
    Fits (field (newest (r.indexAt now) ((r.holding kept).expire now).buckets), 1) := by
  have hNewest := h.newest_le (r.indexAt now) ((r.holding kept).expire now).buckets
  have hCount := magnitude_holding_le kept now h (r := r)
  exact Nat.lt_of_le_of_lt (Nat.add_le_add_right (Nat.le_trans hNewest hCount) 1) hFew

theorem running_fits {field : Bucket → UInt32} {e : Event} (h : Grows field e)
    (hFew : (kept.map Prod.snd).count e < 2 ^ 32) {buckets : List Bucket}
    (hLe : magnitude (buckets.map field) ≤
      magnitude (((r.holding kept).expire now).buckets.map field)) :
    ∀ x ∈ running 0 (buckets.map field), Fits x := by
  rw [running_fits_iff]
  have hCount := magnitude_holding_le kept now h (r := r)
  change 0 + _ < 2 ^ 32
  omega

theorem additions_fit (use : Window.Use)
    (hFew : ∀ e, (kept.map Prod.snd ++ use.event?.toList).count e < 2 ^ 32) :
    ∀ x ∈ (r.holding kept).additions now use, Fits x := by
  cases use with
  | clear => exact fun x hMem => absurd hMem List.not_mem_nil
  | record e =>
    have hOne : (kept.map Prod.snd).count e + 1 < 2 ^ 32 := by
      have hEvent := hFew e
      rwa [Window.Use.event?, Option.toList_some, List.count_append,
        List.count_singleton_self] at hEvent
    cases e with
    | request =>
      exact List.forall_mem_singleton.mpr (newest_fits now tallies_requests.grows hOne)
    | success =>
      exact List.forall_mem_cons.mpr ⟨newest_fits now tallies_successes.grows hOne,
        List.forall_mem_singleton.mpr (newest_fits now trails_successes.grows hOne)⟩
    | failure =>
      exact List.forall_mem_cons.mpr ⟨newest_fits now tallies_failures.grows hOne,
        List.forall_mem_singleton.mpr (newest_fits now trails_failures.grows hOne)⟩
  | read =>
    have hKept : ∀ e, (kept.map Prod.snd).count e < 2 ^ 32 := by
      intro e
      have hEvents := hFew e
      rwa [Window.Use.event?, Option.toList_none, List.append_nil] at hEvents
    have hReverse : ∀ field : Bucket → UInt32,
        magnitude (((r.holding kept).expire now).buckets.reverse.map field) ≤
          magnitude (((r.holding kept).expire now).buckets.map field) := by
      intro field
      rw [List.map_reverse, magnitude_reverse]
    -- Three totals over all buckets, and two streaks over the newest of them.
    simp only [additions, readAdditions, List.forall_mem_append]
    refine ⟨⟨⟨⟨?_, ?_⟩, ?_⟩, ?_⟩, ?_⟩
    · exact running_fits now tallies_requests.grows (hKept _) (hReverse _)
    · exact running_fits now tallies_successes.grows (hKept _) (hReverse _)
    · exact running_fits now tallies_failures.grows (hKept _) (hReverse _)
    · exact running_fits now trails_failures.grows (hKept _) (magnitude_trail_le _ _ _)
    · exact running_fits now trails_successes.grows (hKept _) (magnitude_trail_le _ _ _)

end Holding

/-- What a window keeps of some events when it is used once more. -/
def keep (r : Rolling) (events : List (Instant × Event)) (x : Instant × Window.Use) :
    List (Instant × Event) :=
  let left := events.dropWhile fun y => !r.covers x.1 y.1
  match x.2 with
  | .record e => left ++ [(x.1, e)]
  | .clear => []
  | .read => left

theorem keep_record (r : Rolling) (events : List (Instant × Event)) (t : Instant) (e : Event) :
    r.keep events (t, .record e) = (events.dropWhile fun y => !r.covers t y.1) ++ [(t, e)] := rfl

def kept (r : Rolling) (uses : List (Instant × Window.Use)) : List (Instant × Event) :=
  uses.foldl r.keep []

theorem kept_append_singleton (r : Rolling) (uses : List (Instant × Window.Use))
    (x : Instant × Window.Use) : r.kept (uses ++ [x]) = r.keep (r.kept uses) x := by
  simp [kept]

end Rolling

namespace Window

section Uses

variable (uses : List (Instant × Use)) (t : Instant)

theorem sinceClear_append_record (e : Event) :
    sinceClear (uses ++ [(t, .record e)]) = sinceClear uses ++ [(t, e)] :=
  sinceClear_append_other uses t (by simp)

theorem sinceClear_append_read : sinceClear (uses ++ [(t, .read)]) = sinceClear uses := by
  refine (sinceClear_append_other uses t (by simp)).trans ?_
  exact List.append_nil _

theorem sinceClear_replicate (e : Event) (n : Nat) :
    sinceClear (List.replicate n (t, .record e)) = List.replicate n (t, e) := by
  induction n with
  | zero => rfl
  | succ n ih =>
    rw [List.replicate_succ', sinceClear_append_record, ih, List.replicate_succ']

end Uses

theorem kept_suffix (r : Rolling) (uses : List (Instant × Use)) :
    r.kept uses <:+ sinceClear uses := by
  induction uses using List.reverseRecOn with
  | nil => exact List.suffix_refl _
  | append_singleton uses x ih =>
    obtain ⟨t, use⟩ := x
    have hLeft := (List.dropWhile_suffix fun y : Instant × Event => !r.covers t y.1).trans ih
    rw [Rolling.kept_append_singleton]
    cases use with
    | record e =>
      obtain ⟨gone, hGone⟩ := hLeft
      rw [sinceClear_append_record, Rolling.keep_record, ← hGone, List.append_assoc]
      exact List.suffix_append gone _
    | clear => exact List.nil_suffix
    | read =>
      rw [sinceClear_append_read]
      exact hLeft

def additions (now : Instant) (use : Use) : Window → List (UInt32 × UInt32)
  | fixed _ => []
  | rolling r => r.additions now use

def Throughout (P : Window → Instant → Use → Prop) (w : Window) (uses : List (Instant × Use)) :
    Prop :=
  ∀ earlier t use later, uses = earlier ++ (t, use) :: later →
    (∀ x ∈ (t, use) :: later, x.2 ≠ .clear) → P (w.after earlier) t use

def Keeps : Window → List (Instant × Use) → Prop := Throughout fun w t _ => w.expire t = w

def NeverOverflows : Window → List (Instant × Use) → Prop :=
  Throughout fun w t use => ∀ x ∈ w.additions t use, Fits x

theorem throughout_nil (P : Window → Instant → Use → Prop) (w : Window) : Throughout P w [] := by
  intro earlier t use later hEq
  cases (List.append_eq_nil_iff.mp hEq.symm).2

theorem throughout_append_iff {P : Window → Instant → Use → Prop} {w : Window}
    {uses : List (Instant × Use)} {t : Instant} {use : Use} :
    Throughout P w (uses ++ [(t, use)]) ↔
      (use ≠ .clear → Throughout P w uses ∧ P (w.after uses) t use) := by
  constructor
  · intro h hUse
    constructor
    · rintro earlier t' use' later rfl hNone
      refine h earlier t' use' (later ++ [(t, use)]) (by simp) ?_
      rw [← List.cons_append]
      exact List.forall_mem_append.mpr ⟨hNone, List.forall_mem_singleton.mpr hUse⟩
    · exact h uses t use [] rfl (List.forall_mem_singleton.mpr hUse)
  · intro h earlier t' use' later hEq hNone
    -- The use in question is the last one, or it stands among those before it.
    rcases List.eq_nil_or_concat later with rfl | ⟨before, last, rfl⟩
    · obtain ⟨rfl, hLast⟩ := List.append_inj' hEq rfl
      cases hLast
      exact (h (hNone _ List.mem_cons_self)).2
    · rw [List.concat_eq_append, ← List.cons_append, ← List.append_assoc] at hEq
      obtain ⟨rfl, hLast⟩ := List.append_inj' hEq rfl
      cases hLast
      rw [List.concat_eq_append, ← List.cons_append, List.forall_mem_append] at hNone
      exact (h (hNone.2 _ List.mem_cons_self)).1 earlier t' use' before rfl hNone.1

section Rolling

variable {r : Rolling} (hEmpty : r.buckets = [])
include hEmpty

theorem after_holding (uses : List (Instant × Use)) :
    (rolling r).after uses = rolling (r.holding (r.kept uses)) := by
  induction uses using List.reverseRecOn with
  | nil => exact congrArg rolling (Rolling.holding_nil hEmpty).symm
  | append_singleton uses x ih =>
    obtain ⟨t, use⟩ := x
    rw [after_append_singleton, ih, Rolling.kept_append_singleton]
    cases use with
    | record e =>
      exact congrArg rolling (Rolling.record_holding t (Rolling.expire_holding t) e)
    | clear => rfl
    | read => exact congrArg rolling (Rolling.expire_holding t)

/-- A window holds the latest of the events since the last clearing, whatever the clock does. -/
theorem after_rolling (uses : List (Instant × Use)) :
    ∃ kept, kept <:+ sinceClear uses ∧ (rolling r).after uses = rolling (r.holding kept) :=
  ⟨r.kept uses, kept_suffix r uses, after_holding hEmpty uses⟩

theorem neverOverflows_of_few {uses : List (Instant × Use)}
    (hFew : ∀ e, ((sinceClear uses).map Prod.snd).count e < 2 ^ 32) :
    NeverOverflows (rolling r) uses := by
  induction uses using List.reverseRecOn with
  | nil => exact throughout_nil _ _
  | append_singleton uses x ih =>
    obtain ⟨t, use⟩ := x
    refine throughout_append_iff.mpr fun hUse => ?_
    rw [sinceClear_append_other uses t hUse] at hFew
    simp only [List.map_append, List.count_append] at hFew
    refine ⟨ih fun e => Nat.lt_of_le_of_lt (Nat.le_add_right _ _) (hFew e), ?_⟩
    obtain ⟨kept, hKept, hAfter⟩ := after_rolling hEmpty uses
    rw [hAfter]
    refine Rolling.additions_fit t use fun e => ?_
    have hCount := (hKept.sublist.map Prod.snd).count_le e
    have hEvents : (use.event?.map (t, ·)).toList.map Prod.snd = use.event?.toList := by
      cases use <;> rfl
    have hBound := hFew e
    rw [hEvents] at hBound
    rw [List.count_append]
    omega

theorem after_kept {uses : List (Instant × Use)} (hKeeps : Keeps (rolling r) uses) :
    (rolling r).after uses = rolling (r.holding (sinceClear uses)) := by
  induction uses using List.reverseRecOn with
  | nil => exact congrArg rolling (Rolling.holding_nil hEmpty).symm
  | append_singleton uses x ih =>
    obtain ⟨t, use⟩ := x
    rw [after_append_singleton]
    by_cases hUse : use = .clear
    · subst hUse
      obtain ⟨kept, _, hAfter⟩ := after_rolling hEmpty uses
      rw [hAfter, sinceClear_append_clear]
      rfl
    · obtain ⟨hBefore, hStays⟩ := throughout_append_iff.mp hKeeps hUse
      rw [ih hBefore] at hStays ⊢
      have hExpire := Window.rolling.inj hStays
      cases use with
      | record e =>
        rw [sinceClear_append_record]
        exact congrArg rolling (Rolling.record_holding t hExpire e)
      | clear => exact absurd rfl hUse
      | read =>
        rw [sinceClear_append_read]
        exact hStays

/-- While nothing overflows and nothing expires, the buckets hold all events in their numbers. -/
theorem magnitude_kept (e : Event) {uses : List (Instant × Use)} (hKeeps : Keeps (rolling r) uses)
    (hNever : NeverOverflows (rolling r) uses) :
    magnitude ((r.holding (sinceClear uses)).buckets.map (Bucket.number e)) =
      ((sinceClear uses).map Prod.snd).count e := by
  induction uses using List.reverseRecOn with
  | nil => rfl
  | append_singleton uses x ih =>
    obtain ⟨t, use⟩ := x
    by_cases hUse : use = .clear
    · subst hUse
      rw [sinceClear_append_clear]
      rfl
    · obtain ⟨hBefore, hStays⟩ := throughout_append_iff.mp hKeeps hUse
      obtain ⟨hEarlier, hFits⟩ := throughout_append_iff.mp hNever hUse
      have hMagnitude := ih hBefore hEarlier
      rw [after_kept hEmpty hBefore] at hStays hFits
      have hExpire := Window.rolling.inj hStays
      cases use with
      | clear => exact absurd rfl hUse
      | read =>
        rw [sinceClear_append_read]
        exact hMagnitude
      | record x =>
        have hRoom : x = e → Fits ((Rolling.newest (r.indexAt t)
            (r.holding (sinceClear uses)).buckets).number e, 1) := by
          rintro rfl
          -- The bucket's own addition is among those of this use, and none of them overflows.
          refine hFits _ ?_
          rw [additions, Rolling.additions, hExpire]
          cases x <;> exact List.mem_cons_self
        rw [sinceClear_append_record]
        calc magnitude ((r.holding (sinceClear uses ++ [(t, x)])).buckets.map (Bucket.number e))
            = magnitude ((r.holding (sinceClear uses)).buckets.map (Bucket.number e)) +
                [x].count e := by
              rw [Rolling.buckets_holding_append,
                (Rolling.tallies_number e).magnitude_recordIn hRoom]
          _ = ((sinceClear uses ++ [(t, x)]).map Prod.snd).count e := by
              rw [hMagnitude, List.map_append, List.count_append]
              rfl

theorem few_of_neverOverflows {uses : List (Instant × Use)} {now : Instant}
    (hKeeps : Keeps (rolling r) (uses ++ [(now, .read)]))
    (hNever : NeverOverflows (rolling r) (uses ++ [(now, .read)])) (e : Event) :
    ((sinceClear uses).map Prod.snd).count e < 2 ^ 32 := by
  obtain ⟨hBefore, hStays⟩ := throughout_append_iff.mp hKeeps (by simp)
  obtain ⟨hEarlier, hFits⟩ := throughout_append_iff.mp hNever (by simp)
  rw [← magnitude_kept hEmpty e hBefore hEarlier]
  rw [after_kept hEmpty hBefore] at hStays hFits
  have hExpire := Window.rolling.inj hStays
  have hSum : ∀ x ∈ running 0 ((r.holding (sinceClear uses)).buckets.reverse.map
      (Bucket.number e)), Fits x := by
    intro x hMem
    refine hFits x ?_
    rw [additions, Rolling.additions, hExpire, Rolling.readAdditions]
    simp only [List.mem_append]
    cases e with
    | request => exact .inl (.inl (.inl (.inl hMem)))
    | success => exact .inl (.inl (.inl (.inr hMem)))
    | failure => exact .inl (.inl (.inr hMem))
  rw [running_fits_iff, List.map_reverse, magnitude_reverse] at hSum
  change 0 + _ < 2 ^ 32 at hSum
  rwa [Nat.zero_add] at hSum

/-- At one instant no bucket expires, unless its period is past as soon as it has begun. -/
theorem keeps_replicate {t : Instant} (e : Event)
    (hCurrent : Rolling.isPast r.capacity (r.indexAt t) (r.indexAt t) = false) (n : Nat) :
    Keeps (rolling r) (List.replicate n (t, .record e) ++ [(t, .read)]) := by
  have hStays : ∀ n, ((rolling r).after (List.replicate n (t, .record e))).expire t =
      (rolling r).after (List.replicate n (t, .record e)) := by
    intro n
    cases n with
    | zero =>
      change rolling { r with buckets := Rolling.dropExpired _ _ r.buckets } = rolling r
      rw [hEmpty, Rolling.dropExpired, ← hEmpty]
    | succ n =>
      obtain ⟨kept, _, hAfter⟩ := after_rolling hEmpty (List.replicate n (t, .record e))
      rw [List.replicate_succ', after_append_singleton, hAfter]
      exact congrArg rolling (Rolling.expire_record e hCurrent)
  have hKeeps : Keeps (rolling r) (List.replicate n (t, .record e)) := by
    induction n with
    | zero => exact throughout_nil _ _
    | succ n ih =>
      rw [List.replicate_succ']
      exact throughout_append_iff.mpr fun _ => ⟨ih, hStays n⟩
  exact throughout_append_iff.mpr fun _ => ⟨hKeeps, hStays n⟩

theorem countsAt_kept {uses : List (Instant × Use)} {now : Instant}
    (hKeeps : Keeps (rolling r) (uses ++ [(now, .read)])) :
    ((rolling r).after uses).countsAt now =
      Rolling.tally (Rolling.gather (r.periods (sinceClear uses))) := by
  obtain ⟨hBefore, hStays⟩ := throughout_append_iff.mp hKeeps (by simp)
  rw [after_kept hEmpty hBefore] at hStays ⊢
  rw [countsAt, Window.rolling.inj hStays]
  rfl

end Rolling

theorem after_fixed (origin : Instant) (uses : List (Instant × Use)) :
    (create none none origin).after uses =
      fixed (Counts.ofEvents ((sinceClear uses).map Prod.snd)) := by
  induction uses using List.reverseRecOn with
  | nil => rfl
  | append_singleton uses x ih =>
    obtain ⟨t, use⟩ := x
    rw [after_append_singleton, ih]
    cases use with
    | record e =>
      rw [sinceClear_append_record, List.map_append, List.map_singleton,
        Counts.ofEvents_append_singleton]
      rfl
    | clear =>
      rw [sinceClear_append_clear]
      rfl
    | read =>
      rw [sinceClear_append_read]
      rfl

/-- No addition of a rolling window overflows as long as fewer events of each kind than there are
words have been recorded since the last clearing. Unless a bucket has expired, it is just then
that none does, and that the window reports what a fixed one does; afterwards its totals are
remainders, where those of a fixed window stay at the largest word. -/
theorem rolling_word_limit (window period : Span) (origin now : Instant)
    (uses : List (Instant × Use)) :
    let w := create (some window) (some period) origin
    let plain := create none none origin
    let events := (sinceClear uses).map Prod.snd
    ((∀ e, events.count e < 2 ^ 32) → NeverOverflows w (uses ++ [(now, .read)])) ∧
      (Keeps w (uses ++ [(now, .read)]) →
        (NeverOverflows w (uses ++ [(now, .read)]) → ∀ e, events.count e < 2 ^ 32) ∧
        ((∀ e, events.count e < 2 ^ 32) →
          ((w.after uses).read now).1 = ((plain.after uses).read now).1) ∧
        ∀ e, ((w.after uses).read now).1.number e = UInt32.ofNat (events.count e) ∧
          ((plain.after uses).read now).1.number e = saturated (events.count e)) := by
  intro w plain events
  have hEmpty : (Rolling.create window period origin).buckets = [] := rfl
  have hPeriods : ((Rolling.create window period origin).periods (sinceClear uses)).map Prod.snd =
      events := by
    rw [Rolling.periods, List.map_map]
    rfl
  have hPlain : ((plain.after uses).read now).1 = Counts.ofEvents events := by
    rw [after_fixed]
    rfl
  refine ⟨fun hFew => neverOverflows_of_few hEmpty ?_, fun hKeeps => ⟨?_, fun hFew => ?_, ?_⟩⟩
  · rw [sinceClear_append_read]
    exact hFew
  · exact few_of_neverOverflows hEmpty hKeeps
  · have hCounts := countsAt_kept hEmpty hKeeps
    rw [Rolling.tally_gather _ (by rwa [hPeriods]), hPeriods] at hCounts
    rw [hPlain]
    exact hCounts
  · intro e
    have hCounts : ((w.after uses).read now).1 = _ := countsAt_kept hEmpty hKeeps
    rw [hCounts, hPlain, Counts.ofEvents_eq, Rolling.tally]
    have hTotal := (Rolling.tallies_number e).total_gather
      ((Rolling.create window period origin).periods (sinceClear uses))
    rw [hPeriods] at hTotal
    cases e <;> exact ⟨hTotal, rfl⟩

def tenSeconds : Window :=
  create (some ⟨10000000000, by decide⟩) (some ⟨1000000000, by decide⟩) 0

def flood (times : Nat) : List (Instant × Use) := List.replicate times (0, .record .request)

/-- The last of as many requests as there are words brings their number back to zero, though no
bucket has expired. -/
theorem flood_wraps :
    Keeps tenSeconds (flood (2 ^ 32) ++ [(0, .read)]) ∧
      ¬ NeverOverflows tenSeconds (flood (2 ^ 32) ++ [(0, .read)]) ∧
      ((tenSeconds.after (flood (2 ^ 32))).read 0).1 = Counts.zero ∧
      (((create none none 0).after (flood (2 ^ 32))).read 0).1 = ⟨4294967295, 0, 0, 0, 0⟩ := by
  have hKeeps : Keeps tenSeconds (flood (2 ^ 32) ++ [(0, .read)]) :=
    keeps_replicate rfl .request rfl _
  refine ⟨hKeeps, fun hNever => ?_, ?_, ?_⟩
  · have hFew := few_of_neverOverflows rfl hKeeps hNever .request
    rw [flood, sinceClear_replicate, List.map_replicate, List.count_replicate_self] at hFew
    exact absurd hFew (Nat.lt_irrefl _)
  -- Counted at once: one by one there are too many to evaluate.
  · rw [flood, after_replicate]
    decide +kernel
  · rw [flood, after_replicate]
    decide +kernel

end Window

end CallGuard
