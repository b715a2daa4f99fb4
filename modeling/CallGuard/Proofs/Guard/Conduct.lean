import CallGuard.Proofs.Guard.Booking
import CallGuard.Proofs.Retry.Cancelling

/-!
# The conduct of a guard

A guarded call asks its breaker once for each attempt. It goes on after the attempts of which a
failure was booked, as long as there are some left and nobody cancels, and after no others.
Meanwhile others may use the same breaker, trip it, close it or take its probe slots.
-/

namespace CallGuard

namespace Guard

variable {α : Type}

def visits (g : Guard) (others : Bystanders) (draws : Nat → Nat) (c : Cancellation)
    (operation : Nat → Operation α) (now : Instant) : List (Retry.Visit Progress) :=
  Retry.visits g.retrier draws c (subject g.classifier others operation) now ⟨g.breaker, [], []⟩

section Visiting

variable (others : Bystanders) (operation : Nat → Operation α) (v : Retry.Visit Progress)

def calledAt : Called CallError α :=
  v.found.breaker.callAmong others v.began (operation v.number)

def fatesAt : List Fate := v.found.breaker.fates others v.began (operation v.number)

def invocationsOf (vs : List (Retry.Visit Progress)) : List (Nat × Instant) :=
  (vs.filter fun v => (calledAt others operation v).invoked).map Retry.Visit.call

end Visiting

structure Conduct (name : String) (g : Guard) (others : Bystanders) (c : Cancellation)
    (operation : Nat → Operation α) (now : Instant) (visits : List (Retry.Visit Progress))
    (ended : Retry.Ended Progress (Except CallError α)) : Prop where
  calls : ended.calls = visits.map Retry.Visit.call
  numbers : visits.map Retry.Visit.number = List.range visits.length
  answered : ∀ v ∈ visits, Breaker.Answers name g.classifier (operation v.number) v.began
    (calledAt others operation v) (fatesAt others operation v)
  repeats : visits.IsChain fun v _ => fatesAt others operation v = [.booked .failure]
  /-- After a booked failure with an attempt left it stops for a cancellation only. -/
  persists : ∀ last ∈ visits.getLast?, fatesAt others operation last = [.booked .failure] →
    last.number + 1 < g.retrier.policy.maxAttempts.toNat →
    c.Precedes (last.number + 1) ended.finished
  /-- Everything else is returned as soon as it is there. -/
  atOnce : ∀ last ∈ visits.getLast?, fatesAt others operation last ≠ [.booked .failure] →
    ended.finished = (calledAt others operation last).finished ∧
      ended.waits.length + 1 = visits.length
  result : ended.result = visits.getLast?.map fun last => (calledAt others operation last).result
  begins : visits = [] → c.Precedes 0 now
  invocations : ended.state.invocations = invocationsOf others operation visits
  bounded : ended.state.invocations.length ≤ max 1 g.retrier.policy.maxAttempts.toNat

section Conducting

variable {g : Guard} {others : Bystanders} {draws : Nat → Nat} {c : Cancellation}
variable {operation : Nat → Operation α} {now : Instant} {left : Nat} {known : Option Instant}
variable {v : Retry.Visit Progress} {vs : List (Retry.Visit Progress)}
variable {e : Retry.Ended Progress (Except CallError α)}

theorem found_next (name : String) (delay : Span) {b : Breaker}
    (hOthers : ∀ since ended b, Breaker.MayBecome b (others since ended b).1)
    (hFound : b.MayBecome v.found.breaker) :
    b.MayBecome (v.next (subject g.classifier others operation) name delay).found.breaker :=
  (hFound.trans (.callAmong hOthers v.began (operation v.number) v.found.breaker)).trans
    (hOthers _ _ _)

theorem invocationsOf_cons (v : Retry.Visit Progress) (vs : List (Retry.Visit Progress)) :
    invocationsOf others operation (v :: vs) =
      (if (calledAt others operation v).invoked then [v.call] else []) ++
        invocationsOf others operation vs := by
  unfold invocationsOf
  rw [List.filter_cons]
  split <;> rfl

theorem invocations_asked (v : Retry.Visit Progress) :
    (v.asked (subject g.classifier others operation)).2.invocations =
      v.found.invocations ++ invocationsOf others operation [v] := by
  have hAsked : (v.asked (subject g.classifier others operation)).2.invocations =
      if (calledAt others operation v).invoked then v.found.invocations ++ [v.call]
      else v.found.invocations := rfl
  rw [hAsked, invocationsOf_cons]
  split <;> simp [invocationsOf]

theorem invocations_proceeds
    (h : Retry.Proceeds g.retrier draws c (subject g.classifier others operation) left known v vs
      e) :
    e.state.invocations = v.found.invocations ++ invocationsOf others operation vs := by
  induction h with
  | declined | exhausted | interrupted | late => exact invocations_asked (g := g) _
  | @again left known v vs e _ _ _ ih =>
    have hNext : (v.next (subject g.classifier others operation) g.retrier.name
        (Retry.delayAfter g.retrier draws v.number)).found.invocations =
        (v.asked (subject g.classifier others operation)).2.invocations := rfl
    rw [hNext, invocations_asked, List.append_assoc] at ih
    refine ih.trans ?_
    rw [invocationsOf_cons v vs, invocationsOf_cons v [], List.append_assoc]
    rfl

theorem length_invocationsOf_le (others : Bystanders) (operation : Nat → Operation α)
    (vs : List (Retry.Visit Progress)) :
    (invocationsOf others operation vs).length ≤ vs.length := by
  rw [invocationsOf, List.length_map]
  exact List.length_filter_le _ _

variable {name : String} {b : Breaker} {s : BreakerSettings} {m : Machine}

theorem answers_calledAt (hOthers : ∀ since ended b, Breaker.MayBecome b (others since ended b).1)
    (hBreaker : b = .stateful s g.classifier m) (hFound : b.MayBecome v.found.breaker) :
    Breaker.Answers s.name g.classifier (operation v.number) v.began
      (calledAt others operation v) (fatesAt others operation v) := by
  subst hBreaker
  obtain ⟨found, hMachine⟩ := hFound.exists_machine
  unfold calledAt fatesAt
  rw [hMachine]
  exact Breaker.answers_callAmong hOthers

theorem Conduct.of_account {state : Progress}
    (hAccount : Retry.Account (subject g.classifier others operation) g.retrier.policy.waitCount
      ⟨0, now, state⟩ vs e)
    (hAnswered : ∀ v ∈ vs, Breaker.Answers name g.classifier (operation v.number) v.began
      (calledAt others operation v) (fatesAt others operation v))
    (hPersists : ∀ last ∈ vs.getLast?,
      (last.asked (subject g.classifier others operation)).1 = true →
      last.number < 0 + g.retrier.policy.waitCount → c.Precedes (last.number + 1) e.finished)
    (hAtOnce : ∀ last ∈ vs.getLast?,
      (last.asked (subject g.classifier others operation)).1 = false →
      e.finished = last.finished (subject g.classifier others operation) ∧
        e.waits.length + 1 = vs.length)
    (hInvocations : e.state.invocations = invocationsOf others operation vs) :
    Conduct name g others c operation now vs e := by
  -- The guard's question and the breaker's booking come to the same at every visit.
  have hAsked : ∀ v ∈ vs, (v.asked (subject g.classifier others operation)).1 = true ↔
      fatesAt others operation v = [.booked .failure] :=
    fun v hMem => (hAnswered v hMem).wantsRetry_iff
  constructor
  case calls => exact hAccount.calls
  case numbers =>
    rw [hAccount.numbers]
    exact List.range_eq_range'.symm
  case answered => exact hAnswered
  case repeats =>
    refine hAccount.wanted.imp_of_mem_imp ?_
    intro v _ hMem _ hWanted
    exact (hAsked v hMem).mp hWanted
  case persists =>
    intro last hLast hFailure hLeft
    refine hPersists last hLast ((hAsked last (List.mem_of_getLast? hLast)).mpr hFailure) ?_
    unfold RetryPolicy.waitCount
    omega
  case atOnce =>
    intro last hLast hOther
    refine hAtOnce last hLast (eq_false_of_ne_true ?_)
    exact mt (hAsked last (List.mem_of_getLast? hLast)).mp hOther
  case result => exact hAccount.result
  case begins =>
    rintro rfl
    cases hAccount.first
  case invocations => exact hInvocations
  case bounded =>
    have hFew := hAccount.few
    have hRan := length_invocationsOf_le others operation vs
    rw [hInvocations]
    unfold RetryPolicy.waitCount at hFew
    omega

theorem Conduct.of_course (hOthers : ∀ since ended b, Breaker.MayBecome b (others since ended b).1)
    (hBreaker : g.breaker = .stateful s g.classifier m)
    (hCourse : Retry.Course g.retrier draws c (subject g.classifier others operation) now
      ⟨g.breaker, [], []⟩ vs e) :
    Conduct s.name g others c operation now vs e := by
  cases hCourse with
  | unbegun _ hCancelled =>
    exact ⟨rfl, rfl, by simp, .nil, by simp, by simp, rfl,
      fun _ => Retry.precedes_onStart hCancelled, rfl, Nat.zero_le _⟩
  | once hDisabled =>
    refine .of_account (.once rfl rfl) ?_ ?_ ?_ ?_
    · exact List.forall_mem_singleton.mpr
        (answers_calledAt hOthers hBreaker (Breaker.MayBecome.refl _))
    · rintro _ ⟨⟩ _ hLeft
      rw [RetryPolicy.waitCount_eq_zero hDisabled] at hLeft
      exact absurd hLeft (Nat.lt_irrefl 0)
    · rintro _ ⟨⟩ _
      exact ⟨rfl, rfl⟩
    · exact invocations_asked (g := g) ⟨0, now, ⟨g.breaker, [], []⟩⟩
  | begun _ hBegins hProceeds =>
    obtain ⟨hKnows, _⟩ := Retry.knows_onStart hBegins
    refine .of_account hProceeds.account ?_ (hProceeds.cancelled_of_asked hKnows)
      hProceeds.atOnce (invocations_proceeds hProceeds)
    intro v hMem
    refine answers_calledAt hOthers hBreaker ?_
    exact hProceeds.invariant (P := fun v => g.breaker.MayBecome v.found.breaker)
      (Breaker.MayBecome.refl _) (fun _ name delay => found_next name delay hOthers) v hMem

end Conducting

/-- A guard that a registry hands out, at any time and among any others who use its breaker, goes
on exactly after the attempts of which the breaker booked a failure. -/
theorem call_conduct (settings : Settings) (created : Instant) (name : String) (g : Guard)
    (b : Breaker) (others : Bystanders) (draws : Nat → Nat) (c : Cancellation)
    (operation : Nat → Operation α) (now : Instant)
    (hGuard : (Registry.create settings created).1.guard? name = some g)
    (hEnabled : g.breaker.isEnabled = true) (hUsed : g.breaker.MayBecome b)
    (hOthers : ∀ since ended b, Breaker.MayBecome b (others since ended b).1) :
    let used := { g with breaker := b }
    Conduct name used others c operation now (used.visits others draws c operation now)
      (used.callAmong others draws c operation now) := by
  obtain ⟨s, m, hBreaker, rfl⟩ := Registry.guard?_create hGuard hEnabled
  rw [hBreaker] at hUsed
  obtain ⟨m', rfl⟩ := hUsed.exists_machine
  exact .of_course hOthers rfl (Retry.course_run _ _ _ _ _ _)

def orders (threshold : UInt32) : BreakerSettings :=
  { BreakerSettings.standard with name := "orders", consecutiveFailureThreshold := threshold }

def ordersTwice : Settings := { Settings.standard with breakers := [orders 5, orders 2] }

def ordersGuard : Guard where
  breaker := (Breaker.create (orders 2) Backend.generic.classify 0).1
  retrier := ⟨"orders", .ofSettings .standard⟩
  classifier := Backend.generic.classify

def failing (_ : Nat) : Operation Nat := fun now => (.error (.plain "boom"), now + 5)

def rival : Bystanders := fun since ended b =>
  let called := b.call since fun _ => (Except.error (α := Nat) (.plain "lost"), ended)
  (called.breaker, called.notices)

/-- The rival's failure trips the breaker while the guard sleeps. -/
theorem call_conduct_rival :
    ((Registry.create ordersTwice 0).1.guard? "orders" = some ordersGuard ∧
        ordersGuard.breaker.isEnabled = true ∧
        ∀ since ended b, Breaker.MayBecome b (rival since ended b).1) ∧
      Conduct "orders" ordersGuard rival .never failing 0
        (ordersGuard.visits rival id .never failing 0)
        (ordersGuard.callAmong rival id .never failing 0) ∧
      (ordersGuard.visits rival id .never failing 0).map (fatesAt rival failing) =
        [[.booked .failure], [.refused .opened]] ∧
      (ordersGuard.callAmong rival id .never failing 0).calls = [(0, 0), (1, 101000000)] ∧
      resultOf (ordersGuard.callAmong rival id .never failing 0) = .error (.opened "orders") := by
  have hGuard : (Registry.create ordersTwice 0).1.guard? "orders" = some ordersGuard := rfl
  have hRival : ∀ since ended b, Breaker.MayBecome b (rival since ended b).1 :=
    fun since _ b => .callAmong (fun _ _ b => .refl b) since _ b
  have hConduct := call_conduct ordersTwice 0 "orders" ordersGuard ordersGuard.breaker rival id
    .never failing 0 hGuard rfl (.refl _) hRival
  refine ⟨⟨hGuard, rfl, hRival⟩, hConduct, ?_, ?_, ?_⟩ <;> decide +kernel

end Guard

end CallGuard
