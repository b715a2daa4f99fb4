import CallGuard.Proofs.Breaker.InStep
import CallGuard.Proofs.Breaker.RequestConservation

/-!
# Calls that straddle the edge of a lookback

A call is counted at two instants, when it is admitted and when it comes to an end, and a rolling
window forgets each of them in its time. So a window may have more outcomes than requests: those
of the calls whose admission it has forgotten already. Here every count is told call by call.
-/

namespace CallGuard

structure Note where
  call : Nat
  time : Instant
  event : Event
deriving DecidableEq

namespace Note

def isOutcome (n : Note) : Bool := n.event != .request

/-- Of one call there are at most an admission and an outcome. -/
def key (n : Note) : Nat × Bool := (n.call, n.isOutcome)

def entry (n : Note) : Instant × Event := (n.time, n.event)

end Note

namespace Session

/-- What is counted in a step: an admission, or the outcome of a call whose permit is of the
generation that goes on, unless the machine is open. -/
def note? (x : Step) (w w' : Session) : Option Note :=
  match x.action with
  | .start =>
    if (w'.call? w.calls.length).isSome then some ⟨w.calls.length, x.time, .request⟩ else none
  | .settle k (some o) =>
    (w.call? k).bind fun c =>
      if c.permit.generation = w'.machine.generation ∧ w'.machine.state ≠ .opened then
        some ⟨k, x.time, o.event⟩
      else none
  | _ => none

def noted (x : Step) (w w' : Session) (notes : List Note) : List Note :=
  (if w'.epoch = w.epoch then notes else []) ++ (note? x w w').toList

section Noting

variable {w : Session}

theorem note?_settle (now : Instant) {k : Nat} {c : Call} (hCall : w.call? k = some c)
    (o : Outcome) (w' : Session) :
    note? ⟨now, .settle k (some o)⟩ w w' =
      if c.permit.generation = w'.machine.generation ∧ w'.machine.state ≠ .opened then
        some ⟨k, now, o.event⟩
      else none := by
  simp only [note?, hCall, Option.bind_some]

end Noting

def notesAfter (s : BreakerSettings) (w : Session) (notes : List Note) : List Step → List Note
  | [] => notes
  | x :: rest => notesAfter s (w.perform s x).1 (noted x w (w.perform s x).1 notes) rest

def notes (s : BreakerSettings) (created : Instant) (steps : List Step) : List Note :=
  notesAfter s (create s created) [] steps

theorem notes_append_singleton (s : BreakerSettings) (created : Instant) (steps : List Step)
    (x : Step) :
    notes s created (steps ++ [x]) =
      noted x (run s created steps) (run s created (steps ++ [x])) (notes s created steps) := by
  have hAfter (w : Session) (earlier : List Note) : notesAfter s w earlier (steps ++ [x]) =
      noted x (w.after s steps) ((w.after s steps).perform s x).1
        (notesAfter s w earlier steps) := by
    induction steps generalizing w earlier with
    | nil => rfl
    | cons y rest ih => exact ih _ _
  rw [run_append_singleton]
  exact hAfter _ _

structure Noted (s : BreakerSettings) (created now : Instant) (w : Session) (notes : List Note) :
    Prop where
  window : w.machine.counter.clear = Window.create s.closedWindow s.bucketPeriod created
  holds : w.machine.counter.Holds (notes.map Note.entry) now
  sorted : notes.Pairwise fun n n' => n.time ≤ n'.time
  past : ∀ n ∈ notes, n.time ≤ now
  once : (notes.map Note.key).Nodup
  started : ∀ n ∈ notes, n.call < w.calls.length
  finished : ∀ n ∈ notes, n.isOutcome = true → w.call? n.call = none

structure Onward (w w' : Session) : Prop where
  started : w.calls.length ≤ w'.calls.length
  finished : ∀ k, k < w.calls.length → w.call? k = none → w'.call? k = none

namespace Onward

variable {now : Instant}

theorem same {w w' : Session} (hCalls : w'.calls = w.calls) : Onward w w' where
  started := by rw [hCalls]
  finished k _ hOver := by
    rw [call?, hCalls]
    exact hOver

theorem refused (w : Session) : Onward w w.refused where
  started := by simp [Session.refused]
  finished k _ hOver := (call?_refused w k).trans hOver

theorem admitted (w : Session) : Onward w (w.admitted now) where
  started := by simp [Session.admitted]
  finished k hStarted hOver := by
    rw [call?_admitted, if_neg (Nat.ne_of_lt hStarted)]
    exact hOver

theorem ended {k : Nat} {w w' : Session} (hCalls : w'.calls = w.calls.set k none) :
    Onward w w' where
  started := by simp [hCalls]
  finished j _ hOver := by
    unfold call? at hOver ⊢
    rw [hCalls, List.getElem?_set]
    split
    · split <;> rfl
    · exact hOver

end Onward

namespace Noted

variable {s : BreakerSettings} {created now : Instant} {w w' r : Session} {notes : List Note}

theorem create (s : BreakerSettings) (created : Instant) :
    Noted s created created (create s created) [] where
  window := (Recorded.create s created).window
  holds := (Recorded.create s created).holds
  sorted := .nil
  past := nofun
  once := .nil
  started := nofun
  finished := nofun

theorem later {later : Instant} (h : Noted s created now w notes) (hLater : now ≤ later) :
    Noted s created later w notes :=
  { h with
    holds := h.holds.later hLater
    past := fun n hMem => Int.le_trans (h.past n hMem) hLater }

theorem renewed (h : Noted s created now w notes)
    (hClear : w'.machine.counter = w.machine.counter.clear) : Noted s created now w' [] where
  window := by rw [hClear, Window.clear_clear, h.window]
  holds := hClear ▸ .clear w.machine.counter now
  sorted := .nil
  past := nofun
  once := .nil
  started := nofun
  finished := nofun

theorem kept (h : Noted s created now w notes) (hOnward : Onward w w')
    (hCounter : w'.machine.counter = w.machine.counter ∨
      w'.machine.counter = w.machine.counter.expire now) :
    Noted s created now w' notes where
  window := by rcases hCounter with hCounter | hCounter <;> simp [hCounter, h.window]
  holds := by
    rcases hCounter with hCounter | hCounter <;> rw [hCounter]
    · exact h.holds
    · exact h.holds.expire
  sorted := h.sorted
  past := h.past
  once := h.once
  started n hMem := Nat.lt_of_lt_of_le (h.started n hMem) hOnward.started
  finished n hMem hOutcome :=
    hOnward.finished n.call (h.started n hMem) (h.finished n hMem hOutcome)

theorem extended {n : Note} (h : Noted s created now w notes) (hOnward : Onward w w')
    (hTime : n.time = now) (hNew : n.key ∉ notes.map Note.key) (hStarted : n.call < w'.calls.length)
    (hOver : n.isOutcome = true → w'.call? n.call = none)
    (hCounter : w'.machine.counter = w.machine.counter.record now n.event ∨
      w'.machine.counter = (w.machine.counter.record now n.event).expire now) :
    Noted s created now w' (notes ++ [n]) where
  window := by rcases hCounter with hCounter | hCounter <;> simp [hCounter, h.window]
  holds := by
    have hRecord := h.holds.record n.event
    rw [List.map_append, List.map_singleton, Note.entry, hTime]
    rcases hCounter with hCounter | hCounter <;> rw [hCounter]
    · exact hRecord
    · exact hRecord.expire
  sorted := by
    refine List.pairwise_append.mpr ⟨h.sorted, List.pairwise_singleton _ _, ?_⟩
    intro m hMem n' hLast
    rw [List.mem_singleton.mp hLast, hTime]
    exact h.past m hMem
  past := by
    refine List.forall_mem_append.mpr ⟨h.past, List.forall_mem_singleton.mpr ?_⟩
    exact Int.le_of_eq hTime
  once := by
    rw [List.map_append, List.map_singleton]
    refine List.nodup_append.mpr ⟨h.once, List.pairwise_singleton _ _, ?_⟩
    intro key hMem key' hLast
    rw [List.mem_singleton.mp hLast]
    exact ne_of_mem_of_not_mem hMem hNew
  started := by
    refine List.forall_mem_append.mpr ⟨?_, List.forall_mem_singleton.mpr hStarted⟩
    intro m hMem
    exact Nat.lt_of_lt_of_le (h.started m hMem) hOnward.started
  finished := by
    refine List.forall_mem_append.mpr ⟨?_, List.forall_mem_singleton.mpr hOver⟩
    intro m hMem hOutcome
    exact hOnward.finished m.call (h.started m hMem) (h.finished m hMem hOutcome)

theorem admitted (h : Noted s created now r notes) :
    Noted s created now (r.admitted now)
      (notes ++ [⟨r.calls.length, now, .request⟩]) := by
  apply h.extended (.admitted r) rfl ?_ ?_ ?_ (.inl rfl)
  · intro hMem
    obtain ⟨n, hOld, hKey⟩ := List.mem_map.mp hMem
    exact absurd (congrArg Prod.fst hKey) (Nat.ne_of_lt (h.started n hOld))
  · simp [Session.admitted]
  · simp [Note.isOutcome]

/-- The outcome of a call is noted, which has none yet since it is in flight. -/
theorem booked {k : Nat} {c : Call} {o : Outcome} {w' : Session} (h : Noted s created now r notes)
    (hCall : r.call? k = some c) (hCalls : w'.calls = r.calls.set k none)
    (hCounter : w'.machine.counter = r.machine.counter.record now o.event ∨
      w'.machine.counter = (r.machine.counter.record now o.event).expire now) :
    Noted s created now w' (notes ++ [⟨k, now, o.event⟩]) := by
  have hLength : k < r.calls.length :=
    (List.getElem?_eq_some_iff.mp (call?_eq_some.mp hCall)).1
  have hOutcome : (⟨k, now, o.event⟩ : Note).isOutcome = true := by cases o <;> rfl
  apply h.extended (.ended hCalls) rfl ?_ ?_ ?_ hCounter
  · intro hMem
    obtain ⟨n, hOld, hKey⟩ := List.mem_map.mp hMem
    obtain ⟨hSame, hKind⟩ := Prod.mk.inj hKey
    have hOver := h.finished n hOld (hKind.trans hOutcome)
    rw [hSame, hCall] at hOver
    nomatch hOver
  · rw [hCalls, List.length_set]
    exact hLength
  · intro _
    rw [call?, hCalls, List.getElem?_set_self hLength]
    rfl

section Steps

variable {x : Step}

theorem of_silent (hEpoch : w'.epoch = w.epoch) (hNote : note? x w w' = none)
    (h : Noted s created now w' notes) : Noted s created now w' (noted x w w' notes) := by
  rw [noted, if_pos hEpoch, hNote, Option.toList_none, List.append_nil]
  exact h

theorem of_note {n : Note} (hEpoch : w'.epoch = w.epoch) (hNote : note? x w w' = some n)
    (h : Noted s created now w' (notes ++ [n])) : Noted s created now w' (noted x w w' notes) := by
  rw [noted, if_pos hEpoch, hNote]
  exact h

theorem of_renewed (hEpoch : w'.epoch = w.epoch + 1) (hNote : note? x w w' = none)
    (h : Noted s created now w' []) : Noted s created now w' (noted x w w' notes) := by
  rw [noted, if_neg (by omega), hNote]
  exact h

end Steps

/-- Where an action leaves the generation as it is, it may add a note; else there are none left. -/
theorem acts {a : Action} {answer : Answer} {signals : List Signal}
    (h : Noted s created now r notes) (hActs : Acts s now r a w' answer signals) :
    Noted s created now w' (noted ⟨now, a⟩ r w' notes) := by
  cases hActs with
  | refused =>
    have hNone : note? ⟨now, .start⟩ r r.refused = none := by
      simp [note?, call?, Session.refused]
    exact .of_silent rfl hNone (h.kept (.refused r) (.inl rfl))
  | admitted =>
    have hSome : note? ⟨now, .start⟩ r (r.admitted now) =
        some ⟨r.calls.length, now, .request⟩ := by
      simp [note?, call?_admitted]
    exact .of_note rfl hSome h.admitted
  | @stale k c outcome hCall hStale =>
    have hNone : note? ⟨now, .settle k outcome⟩ r (r.ended now k c outcome) = none := by
      cases outcome with
      | none => rfl
      | some o =>
        rw [note?_settle now hCall]
        exact if_neg fun hCurrent => hStale hCurrent.1
    exact .of_silent rfl hNone (h.kept (.ended rfl) (.inl rfl))
  | @dropped k c hCall hCurrent =>
    exact .of_silent rfl rfl (h.kept (.ended rfl) (.inl r.machine.release_counter))
  | @booked k c o m signals hCall hCurrent hBooks =>
    have hNote := note?_settle now hCall o
      { r.ended now k c (some o) with machine := m, epoch := r.epoch + signals.length }
    cases hBooks with
    | unheard hOpened =>
      rw [if_neg fun hOn => hOn.2 hOpened] at hNote
      exact .of_silent rfl hNote (h.kept (.ended rfl) (.inl r.machine.release_counter))
    | succeeds hState hEvent | probeSucceeds hState hEvent =>
      rw [if_pos ⟨hCurrent.trans r.machine.release_generation.symm, by simp_all⟩] at hNote
      exact .of_note rfl hNote (h.booked hCall rfl (.inl (by simp [hEvent])))
    | fails hClosed hEvent =>
      rw [if_pos ⟨hCurrent.trans r.machine.release_generation.symm, by simp_all⟩] at hNote
      exact .of_note rfl hNote (h.booked hCall rfl (.inr (by simp [hEvent])))
    | trips | recovers | probeFails =>
      have hMoved : c.permit.generation ≠ r.machine.release.generation + 1 := by
        rw [hCurrent, Machine.release_generation]
        simp
      rw [if_neg fun hOn => hMoved hOn.1] at hNote
      exact .of_renewed rfl hNote (h.renewed (by simp))
  | stateRead => exact .of_silent rfl rfl (h.kept (.same rfl) (.inl rfl))
  | countsRead => exact .of_silent rfl rfl (h.kept (.same rfl) (.inr rfl))

theorem performs {x : Step} {report : Report} (hSince : now ≤ x.time)
    (h : Noted s created now w notes) (hPerforms : Performs s x w w' report) :
    Noted s created x.time w' (noted x w w' notes) := by
  have hNow := h.later hSince
  obtain ⟨time, action⟩ := x
  cases hPerforms with
  | @idle k outcome hAction hOver =>
    obtain rfl : action = .settle k outcome := hAction
    refine .of_silent rfl ?_ hNow
    cases outcome with
    | none => rfl
    | some o => simp only [note?, hOver, Option.bind_none]
  | reset hReset =>
    obtain rfl : action = .reset := hReset
    exact .of_renewed rfl rfl (hNow.renewed rfl)
  | acts hActs =>
    have hSame : note? ⟨time, action⟩ w w' = note? ⟨time, action⟩ (w.refreshed s time) w' := rfl
    have hElapses := elapses_refreshed s time w
    have hAfter := hActs.epoch_le
    generalize w.refreshed s time = r at hActs hSame hElapses hAfter
    generalize w.elapsed s time = elapsed at hElapses
    cases hElapses with
    | still => exact hNow.acts hActs
    | window | probing =>
      -- The notes are gone as soon as the timeout has taken effect.
      have hActed := (hNow.renewed rfl).acts hActs
      rw [renewed_epoch] at hAfter
      rw [noted, ite_self] at hActed
      rwa [noted, if_neg (by omega), hSame]

theorem run (s : BreakerSettings) (created : Instant) {steps : List Step}
    (hOrder : InOrder created steps) (hSince : created ≤ now)
    (hPast : ∀ x ∈ steps, x.time ≤ now) :
    Noted s created now (Session.run s created steps) (Session.notes s created steps) := by
  induction steps using List.reverseRecOn generalizing now with
  | nil => exact (Noted.create s created).later hSince
  | append_singleton steps x ih =>
    obtain ⟨hBefore, hStart, hTimes⟩ := inOrder_append_singleton.mp hOrder
    have hPerforms := performs_perform s x (Session.run s created steps)
    rw [notes_append_singleton, run_append_singleton]
    exact ((ih hBefore hStart hTimes).performs (Int.le_refl _) hPerforms).later (hPast x (by simp))

theorem countP_eq (h : Noted s created now w notes) {p : Note → Bool}
    (hKind : ∀ n n', p n = true → p n' = true → n.isOutcome = n'.isOutcome) :
    notes.countP p =
      (List.range w.calls.length).countP fun k => notes.any fun n => n.call == k && p n := by
  have hOnce : ((notes.filter p).map Note.call).Nodup := by
    have hKeys := (List.pairwise_map.mp h.once).filter p
    refine List.pairwise_map.mpr (hKeys.imp_of_mem fun {n n'} hn hn' hKey hCall => ?_)
    exact hKey (Prod.ext hCall (hKind n n' (List.mem_filter.mp hn).2 (List.mem_filter.mp hn').2))
  have hPerm : ((notes.filter p).map Note.call).Perm ((List.range w.calls.length).filter
      fun k => notes.any fun n => n.call == k && p n) := by
    refine (List.perm_ext_iff_of_nodup hOnce (List.nodup_range.filter _)).mpr fun k => ?_
    simp only [List.mem_map, List.mem_filter, List.mem_range, List.any_eq_true,
      Bool.and_eq_true, beq_iff_eq]
    constructor
    · rintro ⟨n, ⟨hMem, hp⟩, rfl⟩
      exact ⟨h.started n hMem, n, hMem, rfl, hp⟩
    · rintro ⟨-, n, hMem, hCall, hp⟩
      exact ⟨n, ⟨hMem, hp⟩, hCall⟩
  rw [List.countP_eq_length_filter, List.countP_eq_length_filter, ← hPerm.length_eq,
    List.length_map]

end Noted

/-- Whether something of a kind counts of a call at an instant: it has been noted, and a window
like this has not forgotten it. -/
def countsOf (s : BreakerSettings) (created now : Instant) (notes : List Note) (p : Event → Bool)
    (k : Nat) : Bool :=
  notes.any fun n => n.call == k &&
    (p n.event && (Window.create s.closedWindow s.bucketPeriod created).covers now n.time)

def admissionCounts (s : BreakerSettings) (created now : Instant) (notes : List Note) :
    Nat → Bool :=
  countsOf s created now notes (· == .request)

def outcomeCounts (s : BreakerSettings) (created now : Instant) (notes : List Note) :
    Nat → Bool :=
  countsOf s created now notes (· != .request)

/-- Counts told call by call. The outcomes may exceed the requests, but by no more calls than have
their outcome counted and not their admission. -/
structure CallByCall (s : BreakerSettings) (created now : Instant) (started : Nat)
    (notes : List Note) (c : Counts) : Prop where
  requests : c.requests.toNat =
    (List.range started).countP (admissionCounts s created now notes)
  successes : c.totalSuccesses.toNat =
    (List.range started).countP (countsOf s created now notes (· == .success))
  failures : c.totalFailures.toNat =
    (List.range started).countP (countsOf s created now notes (· == .failure))
  balance : c.totalSuccesses.toNat + c.totalFailures.toNat +
      (List.range started).countP (fun k =>
        admissionCounts s created now notes k && !outcomeCounts s created now notes k) =
    c.requests.toNat +
      (List.range started).countP (fun k =>
        outcomeCounts s created now notes k && !admissionCounts s created now notes k)
  within : (∀ k, outcomeCounts s created now notes k = true →
      admissionCounts s created now notes k = true) →
    c.totalSuccesses.toNat + c.totalFailures.toNat ≤ c.requests.toNat

section Counting

variable {s : BreakerSettings} {created now : Instant} {w : Session} {notes : List Note}

theorem Noted.countP_event (h : Noted s created now w notes) (e : Event) (q : Note → Bool) :
    notes.countP (fun n => n.event == e && q n) =
      (List.range w.calls.length).countP fun k =>
        notes.any fun n => n.call == k && (n.event == e && q n) := by
  refine h.countP_eq fun n n' hn hn' => ?_
  rw [Bool.and_eq_true, beq_iff_eq] at hn hn'
  simp only [Note.isOutcome, hn.1, hn'.1]

theorem Noted.countP_outcome (h : Noted s created now w notes) (q : Note → Bool) :
    notes.countP (fun n => n.event != .request && q n) =
      (List.range w.calls.length).countP fun k =>
        notes.any fun n => n.call == k && (n.event != .request && q n) := by
  refine h.countP_eq fun n n' hn hn' => ?_
  rw [Bool.and_eq_true] at hn hn'
  simp only [Note.isOutcome, hn.1, hn'.1]

def remembered (s : BreakerSettings) (created now : Instant) (notes : List Note) : List Event :=
  (notes.filter fun n => (Window.create s.closedWindow s.bucketPeriod created).covers now
    n.time).map Note.event

theorem countP_remembered (p : Event → Bool) (notes : List Note) :
    (remembered s created now notes).countP p = notes.countP fun n => p n.event &&
      (Window.create s.closedWindow s.bucketPeriod created).covers now n.time := by
  rw [remembered, List.countP_map, List.countP_filter]
  rfl

/-- A reading counts the events that have been noted and not been forgotten. -/
theorem Noted.countsAt (h : Noted s created now w notes) (hFew : w.calls.length < 2 ^ 32) :
    w.machine.counter.countsAt now = Counts.ofEvents (remembered s created now notes) := by
  have hSorted : (notes.map Note.entry).Pairwise fun x y => x.1 ≤ y.1 :=
    List.pairwise_map.mpr h.sorted
  have hFits : ∀ e, ((notes.map Note.entry).map Prod.snd).count e < 2 ^ 32 := by
    intro e
    have hCalls := h.countP_event e fun _ => true
    simp only [Bool.and_true] at hCalls
    rw [List.map_map, List.count, List.countP_map]
    apply Nat.lt_of_le_of_lt ?_ hFew
    exact hCalls.trans_le (List.countP_le_length.trans_eq List.length_range)
  have hCovers (t : Instant) : w.machine.counter.covers now t =
      (Window.create s.closedWindow s.bucketPeriod created).covers now t := by
    rw [← h.window]
    cases w.machine.counter <;> rfl
  rw [h.holds.countsAt hSorted fun _ => hFits, Window.recent, List.filter_map, List.map_map]
  simp only [Function.comp_def, Note.entry, hCovers]
  rfl

theorem count_outcomes (events : List Event) :
    events.count .success + events.count .failure = events.countP (· != .request) := by
  induction events with
  | nil => rfl
  | cons e events ih =>
    rw [List.count_cons, List.count_cons, List.countP_cons, ← ih]
    cases e <;> simp <;> omega

theorem countP_add_countP (p q : Nat → Bool) (l : List Nat) :
    l.countP p + l.countP (fun k => q k && !p k) =
      l.countP q + l.countP fun k => p k && !q k := by
  induction l with
  | nil => rfl
  | cons k l ih =>
    simp only [List.countP_cons]
    cases p k <;> cases q k <;> simp <;> omega

theorem Noted.callByCall (h : Noted s created now w notes) (hFew : w.calls.length < 2 ^ 32) :
    CallByCall s created now w.calls.length notes (w.machine.counter.countsAt now) := by
  have hCalls (e : Event) : (remembered s created now notes).count e =
      (List.range w.calls.length).countP (countsOf s created now notes (· == e)) :=
    (countP_remembered _ notes).trans (h.countP_event e _)
  have hEach (e : Event) : (saturated ((remembered s created now notes).count e)).toNat =
      (List.range w.calls.length).countP (countsOf s created now notes (· == e)) := by
    rw [← hCalls, toNat_saturated_of_lt]
    rw [hCalls]
    exact (List.countP_le_length.trans_eq List.length_range).trans_lt hFew
  have hOutcomes :
      (saturated ((remembered s created now notes).count .success)).toNat +
          (saturated ((remembered s created now notes).count .failure)).toNat =
        (List.range w.calls.length).countP (outcomeCounts s created now notes) := by
    rw [hEach, hEach, ← hCalls, ← hCalls, count_outcomes]
    exact (countP_remembered _ notes).trans (h.countP_outcome _)
  rw [h.countsAt hFew, Counts.ofEvents_eq]
  constructor
  case requests => exact hEach .request
  case successes => exact hEach .success
  case failures => exact hEach .failure
  case balance =>
    dsimp only
    rw [hOutcomes, hEach]
    exact countP_add_countP _ _ _
  case within =>
    intro hWithin
    dsimp only
    rw [hOutcomes, hEach]
    exact List.countP_mono_left fun k _ => hWithin k

end Counting

theorem length_calls {s : BreakerSettings} {x : Step} {w w' : Session} {report : Report}
    (hPerforms : Performs s x w w' report) :
    w'.calls.length = w.calls.length + if x.action = .start then 1 else 0 := by
  obtain ⟨now, action⟩ := x
  cases hPerforms with
  | idle hIdle =>
    obtain rfl : action = _ := hIdle
    rfl
  | reset hReset =>
    obtain rfl : action = .reset := hReset
    rfl
  | acts hActs =>
    cases hActs with
    | refused | admitted => exact List.length_append
    | stale | dropped | booked => exact List.length_set
    | stateRead | countsRead => rfl

theorem length_calls_run (s : BreakerSettings) (created : Instant) (steps : List Step) :
    (run s created steps).calls.length = steps.countP (·.action = .start) := by
  induction steps using List.reverseRecOn with
  | nil => rfl
  | append_singleton steps x ih =>
    rw [run_append_singleton, length_calls (performs_perform s x _), ih, List.countP_append]
    simp

theorem Performs.counts_eq_countsAt {s : BreakerSettings} {x : Step} {w w' : Session}
    {report : Report} {c : Counts} (hPerforms : Performs s x w w' report)
    (hAnswer : report.answer = .counts c) : c = w'.machine.counter.countsAt x.time := by
  obtain ⟨now, action⟩ := x
  cases hPerforms with
  | idle | reset => cases hAnswer
  | acts hActs =>
    cases hAnswer
    cases hActs with
    | countsRead => exact (Window.countsAt_congr (Window.expire_expire (Int.le_refl _) _)).symm

/-- Where clocks go forward, every reading of a breaker is right about each of its calls. -/
theorem counts_call_by_call (s : BreakerSettings) (created : Instant) (steps : List Step)
    (hOrder : InOrder created steps) (hFew : steps.countP (·.action = .start) < 2 ^ 32) :
    ∀ earlier x later c, steps = earlier ++ x :: later →
      ((run s created earlier).perform s x).2.answer = .counts c →
      CallByCall s created x.time (run s created (earlier ++ [x])).calls.length
        (notes s created (earlier ++ [x])) c := by
  rintro earlier x later c rfl hAnswer
  rw [← List.singleton_append, ← List.append_assoc] at hOrder hFew
  have hBefore : InOrder created (earlier ++ [x]) := by
    refine List.Pairwise.sublist ?_ hOrder
    exact ((List.sublist_append_left _ later).map Step.time).cons_cons created
  obtain ⟨-, hSince, hPast⟩ := inOrder_append_singleton.mp hBefore
  have hNoted : Noted s created x.time _ _ := .run s created hBefore hSince
    (List.forall_mem_append.mpr ⟨hPast, by simp⟩)
  have hCounts : c = (run s created (earlier ++ [x])).machine.counter.countsAt x.time := by
    rw [run_append_singleton]
    exact (performs_perform s x _).counts_eq_countsAt hAnswer
  rw [hCounts]
  apply hNoted.callByCall
  rw [length_calls_run]
  rw [List.countP_append] at hFew
  exact Nat.lt_of_le_of_lt (Nat.le_add_right _ _) hFew

def bySecond : BreakerSettings :=
  { BreakerSettings.standard with closedWindowIntervalMs := 10000, bucketPeriodMs := 1000 }

def slowCalls : List Step :=
  [⟨0, .start⟩, ⟨5000000000, .start⟩, ⟨10000000000, .settle 0 (some .success)⟩,
    ⟨10000000000, .readCounts⟩]

/-- Of the first call the outcome counts, of the second the admission. -/
theorem counts_call_by_call_slowCalls :
    (InOrder 0 slowCalls ∧ slowCalls.countP (·.action = .start) < 2 ^ 32) ∧
      ((run bySecond 0 (slowCalls.take 3)).perform bySecond
        ⟨10000000000, .readCounts⟩).2.answer = .counts ⟨1, 1, 0, 1, 0⟩ ∧
      notes bySecond 0 slowCalls = [⟨0, 0, .request⟩, ⟨1, 5000000000, .request⟩,
        ⟨0, 10000000000, .success⟩] ∧
      CallByCall bySecond 0 10000000000 2 (notes bySecond 0 slowCalls) ⟨1, 1, 0, 1, 0⟩ := by
  have hOrder : InOrder 0 slowCalls := by decide
  have hFew : slowCalls.countP (·.action = .start) < 2 ^ 32 := by decide
  have hCounts := counts_call_by_call bySecond 0 slowCalls hOrder hFew (slowCalls.take 3)
    ⟨10000000000, .readCounts⟩ [] ⟨1, 1, 0, 1, 0⟩ rfl (by decide)
  exact ⟨⟨hOrder, hFew⟩, by decide, by decide, hCounts⟩

/-- Without the second call there is an outcome and no request. -/
theorem not_outcomes_le_requests :
    ¬ ∀ (s : BreakerSettings) (created : Instant) (earlier : List Step) (x : Step) (c : Counts),
      s.isRolling = true → InOrder created (earlier ++ [x]) →
      (earlier ++ [x]).countP (·.action = .start) < 2 ^ 32 →
      ((run s created earlier).perform s x).2.answer = .counts c →
      c.totalSuccesses.toNat + c.totalFailures.toNat ≤ c.requests.toNat := by
  intro hBounded
  have hLe := hBounded bySecond 0 [⟨0, .start⟩, ⟨10000000000, .settle 0 (some .success)⟩]
    ⟨10000000000, .readCounts⟩ ⟨0, 1, 0, 1, 0⟩ (by decide) (by decide) (by decide) (by decide)
  exact absurd hLe (by decide)

end Session

end CallGuard
