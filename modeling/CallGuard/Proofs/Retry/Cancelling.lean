import CallGuard.Proofs.Retry.Visits

/-!
# Cancelling a run

A cancellation takes effect between two attempts: it may come before the first one, while one is
made, while the run sleeps or just as it wakes. Whenever it comes, what the run has done by then
it would have done without it as well.
-/

namespace CallGuard

def Cancellation.Precedes (c : Cancellation) (number : Nat) (began : Instant) : Prop :=
  match c with
  | never => False
  | beforehand => True
  | «at» t => t ≤ began
  | duringAttempt n => n < number

namespace Retry

section Sleeping

variable {now wake : Instant} {known : Option Instant}

theorem sleep_done (hDone : sleep now wake known = .done) :
    ∀ t ∈ known, now < t ∧ wake < t := by
  rintro t rfl
  simp only [sleep] at hDone
  split at hDone
  · cases hDone
  · next hAfter =>
    split at hDone
    · cases hDone
    · next hNotBefore =>
      split at hDone
      · cases hDone
      · next hOther =>
        exact ⟨Int.not_le.mp hAfter, lt_of_le_of_ne (Int.not_lt.mp hNotBefore) (Ne.symm hOther)⟩

theorem sleep_interrupted {instant : Instant}
    (hInterrupted : sleep now wake known = .interrupted instant) : ∃ t ∈ known, t ≤ instant := by
  cases known with
  | none => cases hInterrupted
  | some t =>
    refine ⟨t, rfl, ?_⟩
    simp only [sleep] at hInterrupted
    split at hInterrupted
    · next hPast => exact Sleep.interrupted.inj hInterrupted ▸ hPast
    · split at hInterrupted
      · exact Int.le_of_eq (Sleep.interrupted.inj hInterrupted)
      · split at hInterrupted <;> cases hInterrupted

theorem sleep_late (hLate : sleep now wake known = .late) : wake ∈ known := by
  cases known with
  | none => cases hLate
  | some t =>
    simp only [sleep] at hLate
    split at hLate
    · cases hLate
    · split at hLate
      · cases hLate
      · split at hLate
        · next hWake => exact congrArg some hWake
        · cases hLate

end Sleeping

def Knows (c : Cancellation) (number : Nat) (known : Option Instant) : Prop :=
  match c with
  | .never => known = none
  | .beforehand => False
  | .at t => known = some t
  | .duringAttempt n => n < number ∨ number ≤ n ∧ known = none

section Knowing

variable {c : Cancellation} {number : Nat} {known : Option Instant} {now : Instant}

theorem knows_onStart (hBegins : (c.onStart now).any (· ≤ now) = false) :
    Knows c 0 (c.onStart now) ∧ ¬ c.Precedes 0 now := by
  cases c with
  | never => exact ⟨rfl, id⟩
  | beforehand => simp [Cancellation.onStart] at hBegins
  | «at» t =>
    have hAhead : ¬ t ≤ now := of_decide_eq_false hBegins
    exact ⟨rfl, hAhead⟩
  | duringAttempt n => exact ⟨.inr ⟨Nat.zero_le n, rfl⟩, Nat.not_lt_zero n⟩

theorem precedes_onStart (hCancelled : (c.onStart now).any (· ≤ now) = true) :
    c.Precedes 0 now := by
  cases c with
  | never => cases hCancelled
  | beforehand => trivial
  | «at» t =>
    have hPast : t ≤ now := of_decide_eq_true hCancelled
    exact hPast
  | duringAttempt n => cases hCancelled

theorem Knows.next (h : Knows c number known) (began : Instant) :
    Knows c (number + 1) (c.onAttempt number began known) := by
  cases c with
  | never => exact h
  | beforehand => exact h
  | «at» t => exact h
  | duringAttempt n =>
    rcases h with hPast | ⟨hAhead, hNone⟩
    · exact .inl (Nat.lt_succ_of_lt hPast)
    · by_cases hNumber : number = n
      · exact .inl (hNumber ▸ Nat.lt_succ_self number)
      · exact .inr ⟨by omega, (if_neg hNumber).trans hNone⟩

theorem Knows.precedes (h : Knows c number known) {t later : Instant} (hKnown : t ∈ known)
    (hLater : t ≤ later) : c.Precedes number later := by
  cases c with
  | never => cases h.symm.trans hKnown
  | beforehand => trivial
  | «at» u =>
    obtain rfl : u = t := Option.some.inj (h.symm.trans hKnown)
    exact hLater
  | duringAttempt n =>
    rcases h with hPast | ⟨_, hNone⟩
    · exact hPast
    · cases hNone.symm.trans hKnown

/-- A run that sleeps undisturbed has not been cancelled when it wakes. -/
theorem Knows.not_precedes (h : Knows c number known) {began finished wake : Instant}
    (hBefore : ¬ c.Precedes number began) (hForward : began ≤ finished)
    (hDone : sleep finished wake (c.onAttempt number began known) = .done) :
    ¬ c.Precedes (number + 1) wake := by
  have hAhead := sleep_done hDone
  cases c with
  | never => exact id
  | beforehand => exact absurd trivial hBefore
  | «at» t =>
    obtain ⟨_, hWake⟩ := hAhead t h
    exact Int.not_le.mpr hWake
  | duringAttempt n =>
    rintro hCancelled
    -- It can only have come in the course of this attempt, so it was known when the run slept.
    obtain rfl : number = n := by
      have := Nat.not_lt.mp hBefore
      have := Nat.lt_succ_iff.mp hCancelled
      omega
    obtain ⟨hLater, _⟩ := hAhead began (if_pos rfl)
    exact absurd hForward (Int.not_le.mpr hLater)

end Knowing

/-- Two subjects whose attempts come to the same results and whose questions get the same answers
wherever instant and state of the one are like those of the other. The attempts of the one may
take other times. -/
structure Parallel {σ τ ρ : Type} (plain : Subject σ ρ) (watchful : Subject τ ρ)
    (like : Instant × σ → Instant × τ → Prop) : Prop where
  result : ∀ n x y, like x y → (plain.attempt n x.1 x.2).1 = (watchful.attempt n y.1 y.2).1
  asked : ∀ n x y, like x y → (plain.asked n x.1 x.2).1 = (watchful.asked n y.1 y.2).1
  resumed : ∀ name n delay x y, like x y →
    like (plain.resumed name n delay x.1 x.2) (watchful.resumed name n delay y.1 y.2)

section Truncating

variable {σ τ ρ : Type} {r : Retrier} {draws : Nat → Nat} {c : Cancellation}
variable {plain : Subject σ ρ} {watchful : Subject τ ρ} {left : Nat} {known : Option Instant}

theorem Parallel.asked_visit {like : Instant × σ → Instant × τ → Prop}
    (h : Parallel plain watchful like) {w : Visit σ} {v : Visit τ} (hNumber : v.number = w.number)
    (hLike : like (w.began, w.found) (v.began, v.found)) :
    (w.asked plain).1 = (v.asked watchful).1 := by
  rw [Visit.asked, Visit.asked, hNumber]
  exact h.asked w.number _ _ hLike

namespace Proceeds

variable {v : Visit τ} {vs : List (Visit τ)} {e : Ended τ ρ}

theorem number_prefix (h : Proceeds r draws c watchful left known v vs e) {n : Nat}
    (hNumber : n = v.number) : [n] <+: vs.map Visit.number := by
  obtain ⟨rest, rfl⟩ := List.head?_eq_some_iff.mp h.account.first
  exact ⟨rest.map Visit.number, by simp [hNumber]⟩

/-- After a result that asks for more, a run ends because there are no attempts left or because
it is cancelled. -/
theorem cancelled_of_asked (h : Proceeds r draws c watchful left known v vs e)
    (hKnows : Knows c v.number known) :
    ∀ w ∈ vs.getLast?, (w.asked watchful).1 = true → w.number < v.number + left →
      c.Precedes (w.number + 1) e.finished := by
  induction h with
  | declined hDeclined =>
    rintro _ ⟨⟩ hAsked _
    exact absurd (hAsked.symm.trans hDeclined) (by decide)
  | exhausted _ =>
    rintro _ ⟨⟩ _ hLeft
    exact absurd hLeft (Nat.lt_irrefl _)
  | interrupted _ hSleep =>
    rintro _ ⟨⟩ _ _
    obtain ⟨t, hKnown, hPast⟩ := sleep_interrupted hSleep
    exact (hKnows.next _).precedes hKnown hPast
  | late _ hSleep =>
    rintro _ ⟨⟩ _ _
    exact (hKnows.next _).precedes (sleep_late hSleep) (Int.le_refl _)
  | again _ _ hRest ih =>
    obtain ⟨rest, rfl⟩ := List.head?_eq_some_iff.mp hRest.account.first
    intro w hLast hAsked hLeft
    rw [List.getLast?_cons_cons] at hLast
    refine ih (hKnows.next _) w hLast hAsked ?_
    change w.number < _ + 1 + _
    omega

theorem not_precedes (h : Proceeds r draws c watchful left known v vs e)
    (hForward : ∀ n now state, now ≤ watchful.finished n now state)
    (hKnows : Knows c v.number known) (hBegins : ¬ c.Precedes v.number v.began) :
    ∀ w ∈ vs, ¬ c.Precedes w.number w.began := by
  induction h with
  | declined | exhausted | interrupted | late => exact List.forall_mem_singleton.mpr hBegins
  | again _ hSleep _ ih =>
    refine List.forall_mem_cons.mpr ⟨hBegins, ih (hKnows.next _) ?_⟩
    exact hKnows.not_precedes hBegins (hForward _ _ _) hSleep

theorem eq_singleton_of_declined (h : Proceeds r draws c watchful left known v vs e)
    (hDeclined : (v.asked watchful).1 = false) : vs = [v] := by
  cases h with
  | declined | exhausted | interrupted | late => rfl
  | again hAsked => exact absurd (hAsked.symm.trans hDeclined) (by decide)

theorem eq_singleton_of_none_left (h : Proceeds r draws c watchful 0 known v vs e) :
    vs = [v] := by
  cases h with
  | declined | exhausted => rfl

theorem again_of_never {w : Visit σ} {ws : List (Visit σ)} {whole : Ended σ ρ}
    (h : Proceeds r draws .never plain (left + 1) none w ws whole)
    (hAsked : (w.asked plain).1 = true) :
    ∃ rest e, ws = w :: rest ∧ Proceeds r draws .never plain left none
      (w.next plain r.name (delayAfter r draws w.number)) rest e := by
  have hUndisturbed : sleepAfter r draws .never plain none w = .done := rfl
  cases h with
  | declined hDeclined => exact absurd (hAsked.symm.trans hDeclined) (by decide)
  | interrupted _ hSleep => cases hUndisturbed.symm.trans hSleep
  | late _ hSleep => cases hUndisturbed.symm.trans hSleep
  | again _ _ hRest => exact ⟨_, _, rfl, hRest⟩

/-- Beside a run that nobody cancels, one that is cancelled makes the first of its attempts. -/
theorem truncates {like : Instant × σ → Instant × τ → Prop}
    (hParallel : Parallel plain watchful like)
    (h : Proceeds r draws c watchful left known v vs e) {w : Visit σ} {ws : List (Visit σ)}
    {whole : Ended σ ρ} (hWhole : Proceeds r draws .never plain left none w ws whole)
    (hNumber : v.number = w.number) (hLike : like (w.began, w.found) (v.began, v.found)) :
    vs.map Visit.number <+: ws.map Visit.number ∧
      (vs.length < ws.length → ∀ last ∈ vs.getLast?, (last.asked watchful).1 = true) := by
  induction h generalizing w ws whole with
  | declined hDeclined =>
    refine ⟨hWhole.number_prefix hNumber, fun hFewer => ?_⟩
    rw [hWhole.eq_singleton_of_declined ((hParallel.asked_visit hNumber hLike).trans hDeclined)] at hFewer
    exact absurd hFewer (Nat.lt_irrefl 1)
  | exhausted =>
    refine ⟨hWhole.number_prefix hNumber, fun hFewer => ?_⟩
    rw [hWhole.eq_singleton_of_none_left] at hFewer
    exact absurd hFewer (Nat.lt_irrefl 1)
  | interrupted hAsked | late hAsked =>
    refine ⟨hWhole.number_prefix hNumber, ?_⟩
    rintro _ _ ⟨⟩
    exact hAsked
  | @again _ _ v vs _ hAsked _ hRest ih =>
    -- Both runs go on with the same number, from states that are alike.
    obtain ⟨ws, whole, rfl, hWholeRest⟩ :=
      hWhole.again_of_never ((hParallel.asked_visit hNumber hLike).trans hAsked)
    have hNext : like
        ((w.next plain r.name (delayAfter r draws w.number)).began,
          (w.next plain r.name (delayAfter r draws w.number)).found)
        ((v.next watchful r.name (delayAfter r draws v.number)).began,
          (v.next watchful r.name (delayAfter r draws v.number)).found) := by
      rw [Visit.next, Visit.next, hNumber]
      exact hParallel.resumed _ _ _ _ _ hLike
    obtain ⟨hPrefix, hLast⟩ := ih hWholeRest (congrArg Nat.succ hNumber) hNext
    refine ⟨?_, fun hFewer last hMem => ?_⟩
    · rw [List.map_cons, List.map_cons, hNumber]
      exact (List.prefix_cons_inj _).mpr hPrefix
    · obtain ⟨rest, rfl⟩ := List.head?_eq_some_iff.mp hRest.account.first
      rw [List.getLast?_cons_cons] at hMem
      exact hLast (Nat.lt_of_succ_lt_succ hFewer) last hMem

end Proceeds

theorem Course.truncated {like : Instant × σ → Instant × τ → Prop}
    (hParallel : Parallel plain watchful like) {now : Instant} {state : σ} {state' : τ}
    {vs : List (Visit τ)} {ws : List (Visit σ)} {cut : Ended τ ρ} {whole : Ended σ ρ}
    (hEnabled : r.policy.isEnabled = true)
    (hForward : ∀ n now state, now ≤ watchful.finished n now state)
    (hLike : like (now, state) (now, state'))
    (hCut : Course r draws c watchful now state' vs cut)
    (hWhole : Course r draws .never plain now state ws whole) :
    cut.calls.map Prod.fst <+: whole.calls.map Prod.fst ∧
      (∀ call ∈ cut.calls, ¬ c.Precedes call.1 call.2) ∧
      cut.calls = vs.map Visit.call ∧
      cut.result = vs.getLast?.map (Visit.result watchful) ∧
      (cut.calls.length < whole.calls.length → c.Precedes cut.calls.length cut.finished) := by
  cases hCut with
  | once hDisabled => exact absurd (hEnabled.symm.trans hDisabled) (by decide)
  | unbegun _ hCancelled =>
    exact ⟨List.nil_prefix, fun _ hMem => absurd hMem List.not_mem_nil, rfl, rfl,
      fun _ => precedes_onStart hCancelled⟩
  | begun _ hBegins hProceeds =>
    cases hWhole with
    | once hDisabled => exact absurd (hEnabled.symm.trans hDisabled) (by decide)
    | unbegun _ hCancelled => cases hCancelled
    | begun _ _ hWholeProceeds =>
      obtain ⟨hKnows, hFresh⟩ := knows_onStart hBegins
      obtain ⟨hPrefix, hLast⟩ := hProceeds.truncates hParallel hWholeProceeds rfl hLike
      have hAccount := hProceeds.account
      have hWholeAccount := hWholeProceeds.account
      refine ⟨?_, ?_, hAccount.calls, hAccount.result, ?_⟩
      · rw [hAccount.calls, hWholeAccount.calls, List.map_map, List.map_map]
        exact hPrefix
      · rw [hAccount.calls]
        exact List.forall_mem_map.mpr (hProceeds.not_precedes hForward hKnows hFresh)
      · rw [hAccount.calls, hWholeAccount.calls, List.length_map, List.length_map]
        intro hFewer
        obtain ⟨last, hMem⟩ := hAccount.exists_last
        have hNumber := hAccount.last_number last hMem
        have hFew := hWholeAccount.few
        rw [Nat.zero_add] at hNumber
        rw [← hNumber]
        refine hProceeds.cancelled_of_asked hKnows last hMem (hLast hFewer last hMem) ?_
        change last.number < 0 + _
        omega

/-- A cancellation only truncates a run. What is attempted with it is the beginning of what is
attempted without it, nothing is attempted once it has come, the result is that of the last
attempt, and a run that falls short ends cancelled. Attempts may notice the cancellation and take
other times for it, as long as their results stay the same. -/
theorem run_cancelled_truncates {like : Instant × σ → Instant × τ → Prop} (r : Retrier)
    (draws : Nat → Nat) (c : Cancellation) (plain : Subject σ ρ) (watchful : Subject τ ρ)
    (now : Instant) (state : σ) (state' : τ) (hEnabled : r.policy.isEnabled = true)
    (hParallel : Parallel plain watchful like) (hLike : like (now, state) (now, state'))
    (hForward : ∀ n now state, now ≤ watchful.finished n now state) :
    let whole := run r draws .never plain now state
    let cut := run r draws c watchful now state'
    let made := visits r draws c watchful now state'
    cut.calls.map Prod.fst <+: whole.calls.map Prod.fst ∧
      (∀ call ∈ cut.calls, ¬ c.Precedes call.1 call.2) ∧
      cut.calls = made.map Visit.call ∧
      cut.result = made.getLast?.map (Visit.result watchful) ∧
      (cut.calls.length < whole.calls.length → c.Precedes cut.calls.length cut.finished) :=
  (course_run r draws c watchful now state').truncated hParallel hEnabled hForward hLike
    (course_run r draws .never plain now state)

end Truncating

theorem Scripted.parallel {σ τ ρ π : Type} {plain : Subject σ ρ} {watchful : Subject τ ρ}
    {script : Nat → ρ} {asks : ρ → π → Bool × π} {memory : σ → π} {memory' : τ → π}
    (hPlain : Scripted plain script asks memory)
    (hWatchful : Scripted watchful script asks memory') :
    Parallel plain watchful fun x y => memory x.2 = memory' y.2 where
  result n x y _ := (hPlain.result n _ _).trans (hWatchful.result n _ _).symm
  asked n x y hLike := by
    rw [Subject.asked, Subject.asked, hPlain.answer, hWatchful.answer, hPlain.attempt,
      hWatchful.attempt, hPlain.result, hWatchful.result, hLike]
  resumed name n delay x y hLike := by
    simp only [Subject.resumed, Subject.asked]
    rw [hPlain.asleep, hWatchful.asleep, hPlain.report, hWatchful.report, hPlain.asked,
      hWatchful.asked, hPlain.attempt, hWatchful.attempt, hPlain.result, hWatchful.result, hLike]

def hurried (ending : Instant) : Subject (Nat × Nat) (Except Nat Nat) where
  attempt n now state := (.error n, max now (min (now + 5) ending), (state.1 + 1, state.2))
  wantsRetry := grudging.wantsRetry
  asleep := grudging.asleep
  report := grudging.report

theorem run_cancelled_truncates_hurried :
    (fiveAttempts.policy.isEnabled = true ∧
        Parallel grudging (hurried 101000002) (fun x y => x.2.2 = y.2.2) ∧
        ∀ n now state, now ≤ (hurried 101000002).finished n now state) ∧
      (run fiveAttempts id (.at 101000002) (hurried 101000002) 0 (0, 4)).calls =
        [(0, 0), (1, 101000000)] ∧
      [0, 1] <+: (run fiveAttempts id .never grudging 0 (0, 4)).calls.map Prod.fst ∧
      ¬ (Cancellation.at 101000002).Precedes 1 101000000 ∧
      (run fiveAttempts id (.at 101000002) (hurried 101000002) 0 (0, 4)).result =
        some (.error 1) := by
  have hGrudging : Scripted grudging .error grants Prod.snd :=
    ⟨fun _ _ _ => rfl, fun _ _ _ => rfl, fun _ _ => rfl, fun _ _ => rfl, fun _ _ _ => rfl,
      fun _ _ => rfl⟩
  have hHurried : Scripted (hurried 101000002) .error grants Prod.snd :=
    ⟨fun _ _ _ => rfl, fun _ _ _ => rfl, fun _ _ => rfl, fun _ _ => rfl, fun _ _ _ => rfl,
      fun _ _ => rfl⟩
  have hParallel : Parallel grudging (hurried 101000002) fun x y => x.2.2 = y.2.2 :=
    hGrudging.parallel hHurried
  have hForward : ∀ n now state, now ≤ (hurried 101000002).finished n now state :=
    fun _ now _ => le_max_left now _
  have hCalls : (run fiveAttempts id (.at 101000002) (hurried 101000002) 0 (0, 4)).calls =
      [(0, 0), (1, 101000000)] := by decide +kernel
  obtain ⟨hPrefix, hBefore, -, hResult, -⟩ := run_cancelled_truncates fiveAttempts id
    (.at 101000002) grudging (hurried 101000002) 0 (0, 4) (0, 4) rfl hParallel rfl hForward
  rw [hCalls] at hPrefix hBefore
  refine ⟨⟨rfl, hParallel, hForward⟩, hCalls, hPrefix, hBefore (1, 101000000) (by simp), ?_⟩
  exact hResult.trans (by decide +kernel)

end Retry

end CallGuard
