import CallGuard.Proofs.Counting.PlainCount

/-!
# Sums of words

Buckets add words, and so does a reading of them. Which additions these are is listed here, and
how large the numbers in the buckets become for the events that they have taken.
-/

namespace CallGuard

def Fits (x : UInt32 × UInt32) : Prop := x.1.toNat + x.2.toNat < 2 ^ 32

/-- The additions that are made when words are added to a sum one after the other. -/
def running (sum : UInt32) : List UInt32 → List (UInt32 × UInt32)
  | [] => []
  | x :: rest => (sum, x) :: running (sum + x) rest

def magnitude (words : List UInt32) : Nat := (words.map UInt32.toNat).sum

section Sums

variable {x : UInt32} {words : List UInt32}

@[simp] theorem magnitude_cons : magnitude (x :: words) = x.toNat + magnitude words := rfl

theorem magnitude_reverse : magnitude words.reverse = magnitude words := by
  rw [magnitude, List.map_reverse, List.sum_reverse, magnitude]

theorem toNat_add_of_fits {y : UInt32} (hFits : Fits (x, y)) :
    (x + y).toNat = x.toNat + y.toNat := by
  rw [UInt32.toNat_add]
  exact Nat.mod_eq_of_lt hFits

theorem toNat_add_one_le (n : UInt32) : (n + 1).toNat ≤ n.toNat + 1 := by
  rw [UInt32.toNat_add]
  exact Nat.mod_le _ _

/-- Words are added without an overflow exactly if their sum is a word. -/
theorem running_fits_iff (sum : UInt32) (words : List UInt32) :
    (∀ x ∈ running sum words, Fits x) ↔ sum.toNat + magnitude words < 2 ^ 32 := by
  induction words generalizing sum with
  | nil => simpa [running, magnitude] using sum.toNat_lt
  | cons x rest ih =>
    rw [running, List.forall_mem_cons, magnitude_cons, ← Nat.add_assoc]
    constructor
    · rintro ⟨hFirst, hRest⟩
      rw [← toNat_add_of_fits hFirst]
      exact (ih (sum + x)).mp hRest
    · intro hSum
      have hFirst : Fits (sum, x) := Nat.lt_of_le_of_lt (Nat.le_add_right _ _) hSum
      refine ⟨hFirst, (ih (sum + x)).mpr ?_⟩
      rw [toNat_add_of_fits hFirst]
      exact hSum

end Sums

def Bucket.additions (b : Bucket) : Event → List (UInt32 × UInt32)
  | .request => [(b.requests, 1)]
  | .success => [(b.successes, 1), (b.trailingSuccesses, 1)]
  | .failure => [(b.failures, 1), (b.trailingFailures, 1)]

def Bucket.number (e : Event) (b : Bucket) : UInt32 :=
  match e with
  | .request => b.requests
  | .success => b.successes
  | .failure => b.failures

def Counts.number (e : Event) (c : Counts) : UInt32 :=
  match e with
  | .request => c.requests
  | .success => c.totalSuccesses
  | .failure => c.totalFailures

namespace Rolling

def newest (index : Nat) : List Bucket → Bucket
  | [] => .empty index
  | b :: _ => if b.index = index then b else .empty index

def trail (opposite : Bucket → UInt32) : List Bucket → List Bucket
  | [] => []
  | b :: older => if 0 < opposite b then [b] else b :: trail opposite older

def readAdditions (buckets : List Bucket) : List (UInt32 × UInt32) :=
  running 0 (buckets.reverse.map Bucket.requests) ++
    running 0 (buckets.reverse.map Bucket.successes) ++
    running 0 (buckets.reverse.map Bucket.failures) ++
    running 0 ((trail Bucket.successes buckets).map Bucket.trailingFailures) ++
    running 0 ((trail Bucket.failures buckets).map Bucket.trailingSuccesses)

def additions (r : Rolling) (now : Instant) : Window.Use → List (UInt32 × UInt32)
  | .record e => (newest (r.indexAt now) (r.expire now).buckets).additions e
  | .clear => []
  | .read => readAdditions (r.expire now).buckets

theorem total_eq_foldl (field : Bucket → UInt32) (buckets : List Bucket) :
    total field buckets = (buckets.reverse.map field).foldl (· + ·) 0 := by
  rw [total, List.map_reverse, List.foldl_reverse]
  congr 1
  funext x sum
  exact UInt32.add_comm x sum

theorem add_streakOver_eq_foldl (opposite trailing : Bucket → UInt32) (sum : UInt32)
    (buckets : List Bucket) :
    sum + streakOver opposite trailing buckets =
      ((trail opposite buckets).map trailing).foldl (· + ·) sum := by
  induction buckets generalizing sum with
  | nil => exact UInt32.add_zero sum
  | cons b older ih =>
    rw [streakOver, trail]
    split
    · rfl
    · rw [List.map_cons, List.foldl_cons, ← ih, UInt32.add_assoc]

/-- What the additions of a reading come to is what is read. -/
theorem tally_eq_foldl (buckets : List Bucket) :
    tally buckets =
      { requests := (buckets.reverse.map Bucket.requests).foldl (· + ·) 0
        totalSuccesses := (buckets.reverse.map Bucket.successes).foldl (· + ·) 0
        totalFailures := (buckets.reverse.map Bucket.failures).foldl (· + ·) 0
        consecutiveSuccesses :=
          ((trail Bucket.failures buckets).map Bucket.trailingSuccesses).foldl (· + ·) 0
        consecutiveFailures :=
          ((trail Bucket.successes buckets).map Bucket.trailingFailures).foldl (· + ·) 0 } := by
  rw [tally, failureStreak_eq, successStreak_eq, ← add_streakOver_eq_foldl,
    ← add_streakOver_eq_foldl, UInt32.zero_add, UInt32.zero_add, total_eq_foldl, total_eq_foldl,
    total_eq_foldl]

theorem tallies_number (e : Event) : Tallies (Bucket.number e) e := by
  cases e
  · exact tallies_requests
  · exact tallies_successes
  · exact tallies_failures

theorem magnitude_newest {field : Bucket → UInt32} (hEmpty : ∀ i, field (.empty i) = 0) (i : Nat)
    (buckets : List Bucket) :
    ∃ rest, magnitude (buckets.map field) = (field (newest i buckets)).toNat + rest ∧
      ∀ e, magnitude ((recordIn i e buckets).map field) =
        (field ((newest i buckets).record e)).toNat + rest := by
  cases buckets with
  | nil =>
    exact ⟨0, by simp [newest, hEmpty, magnitude], fun e => by simp [newest, recordIn, magnitude]⟩
  | cons b older =>
    by_cases hIndex : b.index = i
    · exact ⟨magnitude (older.map field), by simp [newest, hIndex],
        fun e => by simp [newest, recordIn, hIndex]⟩
    · exact ⟨magnitude ((b :: older).map field), by simp [newest, hIndex, hEmpty],
        fun e => by simp [newest, recordIn, hIndex]⟩

/-- A number of a bucket that grows by at most one with an event of a kind, and with no other. -/
structure Grows (field : Bucket → UInt32) (e : Event) : Prop where
  empty : ∀ i, field (.empty i) = 0
  record : ∀ (b : Bucket) (x : Event), (field (b.record x)).toNat ≤ (field b).toNat + [x].count e

theorem Tallies.grows {field : Bucket → UInt32} {e : Event} (h : Tallies field e) :
    Grows field e where
  empty := h.empty
  record b x := by
    rw [h.record, List.count_singleton]
    by_cases hx : x = e
    · simpa [hx] using toNat_add_one_le (field b)
    · simp [hx]

theorem Trails.grows {field : Bucket → UInt32} {e o : Event} (h : Trails field e o) :
    Grows field e where
  empty := h.empty
  record b x := by
    have hEvent : x = .request ∨ x = e ∨ x = o := by
      rcases h.kinds with ⟨rfl, rfl⟩ | ⟨rfl, rfl⟩ <;> cases x <;> decide
    rcases hEvent with rfl | rfl | rfl
    · rw [h.request]
      exact Nat.le_add_right _ _
    · rw [h.same, List.count_singleton_self]
      exact toNat_add_one_le (field b)
    · rw [h.other]
      exact Nat.zero_le _

section Magnitudes

variable {field : Bucket → UInt32} {e : Event}

theorem Grows.newest_le (h : Grows field e) (i : Nat) (buckets : List Bucket) :
    (field (newest i buckets)).toNat ≤ magnitude (buckets.map field) := by
  obtain ⟨rest, hBefore, _⟩ := magnitude_newest h.empty i buckets
  rw [hBefore]
  exact Nat.le_add_right _ _

theorem Grows.magnitude_recordIn (h : Grows field e) (i : Nat) (x : Event)
    (buckets : List Bucket) :
    magnitude ((recordIn i x buckets).map field) ≤
      magnitude (buckets.map field) + [x].count e := by
  obtain ⟨rest, hBefore, hAfter⟩ := magnitude_newest h.empty i buckets
  have hRecord := h.record (newest i buckets) x
  rw [hBefore, hAfter]
  omega

theorem Grows.magnitude_gather (h : Grows field e) (log : List (Nat × Event)) :
    magnitude ((gather log).map field) ≤ (log.map Prod.snd).count e := by
  induction log using List.reverseRecOn with
  | nil => exact Nat.le_refl 0
  | append_singleton log x ih =>
    rw [gather_append_singleton, List.map_append, List.map_singleton, List.count_append]
    exact Nat.le_trans (h.magnitude_recordIn x.1 x.2 _) (Nat.add_le_add_right ih _)

theorem magnitude_trail_le (opposite field : Bucket → UInt32) (buckets : List Bucket) :
    magnitude ((trail opposite buckets).map field) ≤ magnitude (buckets.map field) := by
  induction buckets with
  | nil => exact Nat.le_refl 0
  | cons b older ih =>
    rw [trail]
    split
    · exact Nat.le_add_right _ _
    · exact Nat.add_le_add_left ih _

theorem Tallies.magnitude_recordIn (h : Tallies field e) {i : Nat} {x : Event}
    {buckets : List Bucket} (hFits : x = e → Fits (field (newest i buckets), 1)) :
    magnitude ((recordIn i x buckets).map field) =
      magnitude (buckets.map field) + [x].count e := by
  obtain ⟨rest, hBefore, hAfter⟩ := magnitude_newest h.empty i buckets
  have hRecord : (field ((newest i buckets).record x)).toNat =
      (field (newest i buckets)).toNat + [x].count e := by
    rw [h.record, List.count_singleton]
    by_cases hx : x = e
    · rw [if_pos hx, toNat_add_of_fits (hFits hx)]
      simp [hx]
    · simp [hx]
  rw [hBefore, hAfter, hRecord]
  omega

end Magnitudes

end Rolling

end CallGuard
