import CallGuard.CommandLine.CheckReport
import CallGuard.Proofs.Retry.Powers
import CallGuard.Proofs.Retry.Waits

/-!
# Reported waits

A report keeps the low sixty-four bits of a number of milliseconds. What is cut off that way is
never missed: a wait has no more milliseconds than a word can tell, or it is the longest span, and
the low bits of the milliseconds of the longest span happen to be all ones.
-/

namespace CallGuard

def largestWord : Nat := 18446744073709551615

namespace Span

/-- The span is not longer than the milliseconds that a word can tell, or it is the longest one. -/
def Reportable (a : Span) : Prop := a.nanos ≤ largestWord * 1000000 ∨ a = longest

theorem nanos_ofMillis_le (ms : UInt64) : (ofMillis ms).nanos ≤ largestWord * 1000000 :=
  Nat.mul_le_mul_right _ (Nat.le_of_lt_succ ms.toNat_lt)

theorem millis_le {a : Span} (hShort : a.nanos ≤ largestWord * 1000000) :
    a.nanos / 1000000 ≤ largestWord :=
  Nat.div_le_of_le_mul (by rwa [Nat.mul_comm])

end Span

/-- A number of nanoseconds that a float tells is a word, or it counts as the longest span. -/
theorem Retry.spanOfFloat_le_or_longest (x : Float) :
    (spanOfFloat x).nanos ≤ largestWord ∨ spanOfFloat x = .longest := by
  unfold spanOfFloat
  split
  · split
    · next n hShort =>
      left
      rw [Span.ofNanos_nanos, largestWord]
      omega
    · exact .inr rfl
  · exact .inr rfl

namespace RetryPolicy

variable {s : RetrySettings}

theorem ofSettings_backoff_uncapped (hUncapped : (Span.ofMillis s.maxIntervalMs).nanos = 0)
    (attempt : Nat) :
    (ofSettings s).backoff attempt =
      Retry.spanOfFloat (Float.ofNat (Span.ofMillis s.initialIntervalMs).nanos *
        Retry.growth s.backoffCoefficient attempt) :=
  if_pos hUncapped

/-- The waits of a schedule are all within a cap that a word can tell, or there is no cap and they
are far shorter than that or the longest span. -/
theorem ofSettings_schedule_bounds (s : RetrySettings) :
    (∀ wait ∈ (ofSettings s).schedule, wait.nanos ≤ largestWord * 1000000) ∨
      ∀ wait ∈ (ofSettings s).schedule, wait.nanos ≤ largestWord ∨ wait = .longest := by
  simp only [schedule, firstWaits, List.forall_mem_map]
  rcases Nat.eq_zero_or_pos (Span.ofMillis s.maxIntervalMs).nanos with hUncapped | hCapped
  · right
    intro attempt _
    rw [ofSettings_backoff_uncapped hUncapped]
    exact Retry.spanOfFloat_le_or_longest _
  · left
    intro attempt _
    have hCap : (ofSettings s).backoff attempt ≤ (ofSettings s).maxInterval :=
      backoff_le_maxInterval hCapped attempt
    exact Nat.le_trans hCap (Span.nanos_ofMillis_le s.maxIntervalMs)

theorem reportable_of_mem_schedule {wait : Span} (hMem : wait ∈ (ofSettings s).schedule) :
    wait.Reportable := by
  rcases ofSettings_schedule_bounds s with hCapped | hUncapped
  · exact .inl (hCapped wait hMem)
  · refine (hUncapped wait hMem).imp_left fun hShort => ?_
    exact Nat.le_trans hShort (Nat.le_mul_of_pos_right _ (by decide))

end RetryPolicy

namespace CommandLine

theorem millisWord_ofMillis (ms : UInt64) : millisWord (.ofMillis ms) = ms := by
  rw [millisWord, Span.millis, Span.ofMillis_nanos, Nat.mul_div_cancel _ (by decide),
    UInt64.ofNat_toNat]

/-- The word of a span is the number of its milliseconds, or the largest word if there is none. -/
theorem millisWord_toNat {a : Span} (h : a.Reportable) :
    (millisWord a).toNat = min (a.nanos / 1000000) largestWord := by
  rcases h with hShort | rfl
  · have hMillis := Span.millis_le hShort
    rw [Nat.min_eq_left hMillis, millisWord, Span.millis, UInt64.toNat_ofNat']
    exact Nat.mod_eq_of_lt (Nat.lt_succ_of_le hMillis)
  · decide

/-- Within a schedule no two different numbers of milliseconds are told by one word. -/
theorem millisWord_le_iff {s : RetrySettings} {a b : Span}
    (ha : a ∈ (RetryPolicy.ofSettings s).schedule) (hb : b ∈ (RetryPolicy.ofSettings s).schedule) :
    millisWord a ≤ millisWord b ↔ a.nanos / 1000000 ≤ b.nanos / 1000000 := by
  rw [UInt64.le_iff_toNat_le, millisWord_toNat (RetryPolicy.reportable_of_mem_schedule ha),
    millisWord_toNat (RetryPolicy.reportable_of_mem_schedule hb)]
  rcases RetryPolicy.ofSettings_schedule_bounds s with hCapped | hUncapped
  · rw [Nat.min_eq_left (Span.millis_le (hCapped a ha)),
      Nat.min_eq_left (Span.millis_le (hCapped b hb))]
  · -- Only the longest span is cut, and all else stays far below the largest word.
    have hMillis : ∀ wait ∈ (RetryPolicy.ofSettings s).schedule,
        wait.nanos / 1000000 < largestWord ∨
          wait.nanos / 1000000 = longestNanos / 1000000 := fun wait hMem =>
      (hUncapped wait hMem).imp
        (fun hShort => Nat.lt_of_le_of_lt (Nat.div_le_div_right hShort) (by decide))
        (fun hLongest => by rw [hLongest]; rfl)
    have hLongest : largestWord < longestNanos / 1000000 := by decide
    rcases hMillis a ha with ha' | ha' <;> rcases hMillis b hb with hb' | hb' <;> omega

/-- The report of a check has a word for every wait of the schedule, which is the number of its
whole milliseconds, or the largest word where there are more, and of every breaker it tells the
timeout to the millisecond. The words of a schedule are in the order of its waits, and they differ
where the milliseconds do. -/
theorem report_exact (s : Settings) :
    let waits := (RetryPolicy.ofSettings s.retry).schedule
    ((checkReport s).get? "retry").bind (·.get? "schedule_ms") =
        some (.list (waits.map fun wait => .integer (millisWord wait).toNat)) ∧
      (∀ wait ∈ waits, (millisWord wait).toNat = min (wait.nanos / 1000000) (2 ^ 64 - 1)) ∧
      (∀ a ∈ waits, ∀ b ∈ waits, (a ≤ b → millisWord a ≤ millisWord b) ∧
        (millisWord a ≤ millisWord b ↔ a.nanos / 1000000 ≤ b.nanos / 1000000)) ∧
      (checkReport s).get? "breakers" = some (.list (s.breakers.map breakerReport)) ∧
      ∀ b ∈ s.breakers, ∃ ms : Nat,
        (breakerReport b).get? "open_timeout_ms" = some (.integer ms) ∧
          b.openTimeout.nanos = ms * 1000000 := by
  intro waits
  refine ⟨?_, fun wait hMem => ?_, fun a ha b hb => ⟨fun hLe => ?_, millisWord_le_iff ha hb⟩, rfl,
    fun b _ => ?_⟩
  · have hWords : (scheduleMillis (RetryPolicy.ofSettings s.retry)).map
        (fun ms => Document.integer ms.toNat) =
          waits.map fun wait => .integer (millisWord wait).toNat := List.map_map
    rw [← hWords]
    rfl
  · exact millisWord_toNat (RetryPolicy.reportable_of_mem_schedule hMem)
  · rw [millisWord_le_iff ha hb]
    exact Nat.div_le_div_right hLe
  · obtain ⟨ms, hTimeout⟩ := b.exists_openTimeout_eq_ofMillis
    refine ⟨(millisWord b.openTimeout).toNat, rfl, ?_⟩
    rw [hTimeout, millisWord_ofMillis, Span.ofMillis_nanos]

/-- A first wait that is as long as can be set, no cap, and the longest timeout that can be set next
to the one that a zero stands for. -/
def boundless : Settings where
  observability := .standard
  retry :=
    { RetrySettings.standard with
      maxAttempts := 2
      initialIntervalMs := 18446744073709551615
      maxIntervalMs := 0 }
  breakers :=
    [{ BreakerSettings.standard with openTimeoutMs := 0 },
      { BreakerSettings.standard with openTimeoutMs := 18446744073709551615 }]

theorem boundless_schedule : (RetryPolicy.ofSettings boundless.retry).schedule = [.longest] := by
  have hNanos : (Span.ofMillis 18446744073709551615).nanos = 18446744073709551615000000 := rfl
  have hDelay : Retry.spanOfFloat (Float.ofNat 18446744073709551615000000 * 1.0) = .longest :=
    Span.nanos_inj.mp (by decide +kernel)
  have hWait := RetryPolicy.ofSettings_backoff_uncapped (s := boundless.retry) rfl 0
  have hSchedule : (RetryPolicy.ofSettings boundless.retry).schedule =
      [(RetryPolicy.ofSettings boundless.retry).backoff 0] := rfl
  rw [hSchedule, hWait, Retry.growth_zero, boundless, hNanos, hDelay]

theorem report_exact_boundless :
    ((checkReport boundless).get? "retry").bind (·.get? "schedule_ms") =
        some (.list [.integer 18446744073709551615]) ∧
      (millisWord .longest).toNat = min (longestNanos / 1000000) (2 ^ 64 - 1) ∧
      ∀ b ∈ boundless.breakers, ∃ ms : Nat,
        (breakerReport b).get? "open_timeout_ms" = some (.integer ms) ∧
          b.openTimeout.nanos = ms * 1000000 := by
  obtain ⟨hWords, hWord, -, -, hTimeouts⟩ := report_exact boundless
  rw [boundless_schedule] at hWords hWord
  exact ⟨hWords, hWord .longest List.mem_cons_self, hTimeouts⟩

end CommandLine

end CallGuard
