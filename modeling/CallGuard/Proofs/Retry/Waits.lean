import CallGuard.Proofs.Retry.Visits

/-!
# The cap on a wait

The cap of a policy bounds the wait that is computed for an attempt. The random part comes on top
of that, so what a run sleeps exceeds the cap by as much of the random part as finds no room below
it.
-/

namespace CallGuard

theorem Span.nanos_inj {a b : Span} : a.nanos = b.nanos ↔ a = b := by
  obtain ⟨n, hn⟩ := a
  obtain ⟨m, hm⟩ := b
  exact (mk.injEq n hn m hm).symm.to_iff

namespace RetryPolicy

theorem backoff_le_maxInterval {p : RetryPolicy} (hCap : 0 < p.maxInterval.nanos) (attempt : Nat) :
    p.backoff attempt ≤ p.maxInterval := by
  have hNonzero : p.maxInterval.nanos ≠ 0 := Nat.ne_of_gt hCap
  simp only [backoff, Retry.backoff, if_neg hNonzero, Span.shorter]
  split
  · next hLe => exact hLe
  · exact Nat.le_refl _

/-- How much may come on top of the backoff of an attempt before the wait exceeds the cap. -/
def headroom (p : RetryPolicy) (attempt : Nat) : Nat :=
  p.maxInterval.nanos - (p.backoff attempt).nanos

def jitterRange (p : RetryPolicy) (attempt : Nat) : Nat :=
  Retry.jitterRange (p.backoff attempt) p.jitter

end RetryPolicy

namespace Retry

def randomPart (range draw : Nat) : Nat := if range = 0 then 0 else draw % range

theorem randomPart_le (range draw : Nat) : randomPart range draw ≤ range - 1 := by
  unfold randomPart
  split
  · exact Nat.zero_le _
  · next hRange =>
    have hLess := Nat.mod_lt draw (Nat.pos_of_ne_zero hRange)
    omega

/-- The largest random part is one that can be drawn. -/
theorem randomPart_last (range : Nat) : randomPart range (range - 1) = range - 1 := by
  unfold randomPart
  split
  · next hRange => rw [hRange]
  · exact Nat.mod_eq_of_lt (by omega)

theorem jitterRange_lt (delay : Span) (jitter : Float) : jitterRange delay jitter < 2 ^ 64 := by
  unfold jitterRange
  split
  · decide
  · exact UInt64.toNat_lt _

theorem withJitter_nanos (delay : Span) (jitter : Float) (draw : Nat) :
    (withJitter delay jitter draw).nanos =
      min (delay.nanos + randomPart (jitterRange delay jitter) draw) longestNanos := by
  have hLongest := delay.nanos_le
  have hWord := jitterRange_lt delay jitter
  have hPart := randomPart_le (jitterRange delay jitter) draw
  simp only [withJitter]
  split
  · next hRange =>
    rw [randomPart, if_pos hRange]
    omega
  · next hRange =>
    rw [randomPart, if_neg hRange] at hPart ⊢
    simp only [Span.add, Span.ofNanos_nanos, longestNanos] at hLongest ⊢
    omega

section Caps

variable {p : RetryPolicy}

theorem withJitter_le_iff (hCap : 0 < p.maxInterval.nanos) (attempt draw : Nat) :
    withJitter (p.backoff attempt) p.jitter draw ≤ p.maxInterval ↔
      p.maxInterval = .longest ∨
        randomPart (p.jitterRange attempt) draw ≤ p.headroom attempt := by
  have hBackoff : (p.backoff attempt).nanos ≤ p.maxInterval.nanos :=
    RetryPolicy.backoff_le_maxInterval hCap attempt
  have hLongest := p.maxInterval.nanos_le
  have hSame : p.maxInterval = .longest ↔ p.maxInterval.nanos = longestNanos :=
    Span.nanos_inj.symm
  change (withJitter (p.backoff attempt) p.jitter draw).nanos ≤ p.maxInterval.nanos ↔ _
  rw [withJitter_nanos, hSame, RetryPolicy.headroom, RetryPolicy.jitterRange]
  omega

/-- Whatever is drawn, the wait stays within the cap exactly if the largest random part does. -/
theorem forall_withJitter_le_iff (hCap : 0 < p.maxInterval.nanos) (attempt : Nat) :
    (∀ draw, withJitter (p.backoff attempt) p.jitter draw ≤ p.maxInterval) ↔
      p.maxInterval = .longest ∨ p.jitterRange attempt ≤ p.headroom attempt + 1 := by
  simp only [withJitter_le_iff hCap]
  constructor
  · intro hAll
    refine (hAll (p.jitterRange attempt - 1)).imp_right fun hLast => ?_
    rw [randomPart_last] at hLast
    omega
  · rintro (hLongest | hRange) draw
    · exact .inl hLongest
    · have hPart := randomPart_le (p.jitterRange attempt) draw
      right
      omega

end Caps

section Runs

variable {σ ρ : Type} {r : Retrier} {draws : Nat → Nat} {c : Cancellation} {subject : Subject σ ρ}

theorem Proceeds.waits {left : Nat} {known : Option Instant} {v : Visit σ} {vs : List (Visit σ)}
    {e : Ended σ ρ} (h : Proceeds r draws c subject left known v vs e) :
    ∃ n ≤ left, e.waits = (List.range' v.number n).map (delayAfter r draws) := by
  induction h with
  | declined | exhausted => exact ⟨0, Nat.zero_le _, rfl⟩
  | interrupted | late => exact ⟨1, Nat.le_add_left 1 _, rfl⟩
  | again _ _ _ ih =>
    obtain ⟨n, hFew, hWaits⟩ := ih
    refine ⟨n + 1, Nat.succ_le_succ hFew, ?_⟩
    rw [Ended.preceded, hWaits]
    rfl

theorem Course.waits {now : Instant} {state : σ} {vs : List (Visit σ)} {e : Ended σ ρ}
    (h : Course r draws c subject now state vs e) :
    ∃ n ≤ r.policy.waitCount, e.waits = (List.range n).map (delayAfter r draws) := by
  cases h with
  | unbegun | once => exact ⟨0, Nat.zero_le _, rfl⟩
  | begun _ _ hProceeds =>
    obtain ⟨n, hFew, hWaits⟩ := hProceeds.waits
    exact ⟨n, hFew, by rw [List.range_eq_range', hWaits]⟩

end Runs

/-- A run waits after its attempts, one after the other, for their backoffs, each within the cap,
and a random part. Such a wait is within the cap exactly if the random part finds room below it;
it is so for every draw only if the largest random part does. -/
theorem waits_within_cap_iff {σ ρ : Type} (r : Retrier) (draws : Nat → Nat) (c : Cancellation)
    (subject : Subject σ ρ) (now : Instant) (state : σ) (hCap : 0 < r.policy.maxInterval.nanos) :
    (∃ n ≤ r.policy.waitCount,
        (run r draws c subject now state).waits = (List.range n).map (delayAfter r draws)) ∧
      ∀ attempt,
        r.policy.backoff attempt ≤ r.policy.maxInterval ∧
        (delayAfter r draws attempt).nanos = min longestNanos ((r.policy.backoff attempt).nanos +
          randomPart (r.policy.jitterRange attempt) (draws attempt)) ∧
        (delayAfter r draws attempt ≤ r.policy.maxInterval ↔
          r.policy.maxInterval = .longest ∨
            randomPart (r.policy.jitterRange attempt) (draws attempt) ≤
              r.policy.headroom attempt) ∧
        ((∀ draw, withJitter (r.policy.backoff attempt) r.policy.jitter draw ≤
              r.policy.maxInterval) ↔
          r.policy.maxInterval = .longest ∨
            r.policy.jitterRange attempt ≤ r.policy.headroom attempt + 1) := by
  refine ⟨(course_run r draws c subject now state).waits, fun attempt => ⟨?_, ?_, ?_, ?_⟩⟩
  · exact RetryPolicy.backoff_le_maxInterval hCap attempt
  · rw [delayAfter, withJitter_nanos, Nat.min_comm]
    rfl
  · exact withJitter_le_iff hCap attempt (draws attempt)
  · exact forall_withJitter_le_iff hCap attempt

/-- One more attempt after a second, with as much again of random wait and a cap of a second. -/
def doubling : Retrier where
  name := "default"
  policy :=
    { RetryPolicy.standard with
      maxAttempts := 2
      initialInterval := .ofMillis 1000
      coefficient := 1.0
      maxInterval := .ofMillis 1000
      jitter := 1.0 }

theorem doubling_backoff : doubling.policy.backoff 0 = .ofMillis 1000 := by
  have hFactor : power (effectiveCoefficient 1.0) 0 = 1.0 := by
    rw [power, powerFrom, if_pos rfl]
  have hDelay : spanOfFloat (Float.ofNat 1000000000 * 1.0) = .ofMillis 1000 :=
    Span.nanos_inj.mp (by decide)
  have hBackoff : doubling.policy.backoff 0 =
      (spanOfFloat (Float.ofNat 1000000000 * power (effectiveCoefficient 1.0) 0)).shorter
        (.ofMillis 1000) := rfl
  rw [hBackoff, hFactor, hDelay]
  exact if_pos (Nat.le_refl _)

theorem doubling_jitterRange : doubling.policy.jitterRange 0 = 1000000000 := by
  rw [RetryPolicy.jitterRange, doubling_backoff]
  decide

theorem waits_within_cap_iff_doubling :
    0 < doubling.policy.maxInterval.nanos ∧
      (delayAfter doubling (fun _ => 999999999) 0).nanos = 1999999999 ∧
      ¬ ∀ draw, withJitter (doubling.policy.backoff 0) doubling.policy.jitter draw ≤
        doubling.policy.maxInterval := by
  have hCap : 0 < doubling.policy.maxInterval.nanos := by decide
  obtain ⟨_, hWaits⟩ :=
    waits_within_cap_iff doubling (fun _ => 999999999) .never grudging 0 (0, 5) hCap
  obtain ⟨_, hWait, _, hAll⟩ := hWaits 0
  rw [doubling_jitterRange, doubling_backoff] at hWait
  rw [doubling_jitterRange, RetryPolicy.headroom, doubling_backoff] at hAll
  refine ⟨hCap, hWait.trans (by decide), ?_⟩
  rw [doubling_backoff, hAll]
  decide

/-- The cap does not bound what a run sleeps. -/
theorem not_waits_le_maxInterval :
    ¬ ∀ (r : Retrier) (draws : Nat → Nat) (c : Cancellation)
      (subject : Subject (Nat × Nat) (Except Nat Nat)) (now : Instant) (state : Nat × Nat),
      0 < r.policy.maxInterval.nanos → 0.0 ≤ r.policy.jitter → r.policy.jitter ≤ 1.0 →
      ∀ wait ∈ (run r draws c subject now state).waits, wait ≤ r.policy.maxInterval := by
  intro hCapped
  have hSlept : delayAfter doubling (fun _ => 999999999) 0 ∈
      (run doubling (fun _ => 999999999) .never grudging 0 (0, 5)).waits := by
    rw [run_uncancelled (by decide)]
    change _ ∈ (attempts doubling (fun _ => 999999999) .never grudging (0 + 1) 0 0 none
      (0, 5)).waits
    rw [attempts_slept rfl rfl rfl]
    exact List.mem_cons_self
  have hBound := hCapped doubling (fun _ => 999999999) .never grudging 0 (0, 5) (by decide)
    (by decide) (by decide) _ hSlept
  rw [delayAfter, withJitter_le_iff (by decide), doubling_jitterRange, RetryPolicy.headroom,
    doubling_backoff] at hBound
  revert hBound
  decide

end Retry

end CallGuard
