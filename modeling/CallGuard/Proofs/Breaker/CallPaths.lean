import CallGuard.Typed

/-!
# Three ways to make a call

Work can be run with its own types, as an operation whose value is packed and whose error is a
mere fault, or as a typed call that packs and unpacks by itself. A breaker treats all three alike,
and what they hand back differs only in form.
-/

namespace CallGuard

def Called.reshape {ε δ α β : Type} (f : Except ε α → Except δ β) (called : Called ε α) :
    Called δ β :=
  { called with result := f called.result }

namespace Breaker

variable {ε α β : Type}

theorem outcomeOf_map (f : α → β) (classifier : Classifier) (result : Except Fault α) :
    outcomeOf classifier (result.map f) = outcomeOf classifier result := by
  cases result <;> rfl

/-- What a breaker makes of a result does not depend on the value in it. -/
theorem finish_map (f : α → β) (now : Instant) (ticket : Ticket) (result : Except Fault α)
    (b : Breaker) : (b.finish now ticket (result.map f)).2 = (b.finish now ticket result).2 := by
  cases b with
  | disabled => rfl
  | stateful =>
    cases ticket with
    | none => rfl
    | some permit => simp only [finish, outcomeOf_map]

theorem finish_none (now : Instant) (result : Except Fault α) (b : Breaker) :
    b.finish now none result = (result.mapError .operation, b, []) := by
  cases b <;> rfl

variable (others : Bystanders) (b : Breaker) (now : Instant)

theorem callAmong_map (f : α → β) (operation : Operation α) :
    b.callAmong others now (operation.map f) =
      (b.callAmong others now operation).reshape (Except.map f) := by
  unfold callAmong
  rcases b.start now with ⟨e | ticket, b, notices⟩
  · rfl
  · rcases hOperation : operation now with ⟨result, finished⟩
    simp only [Operation.map, hOperation, finish_map, finish_result, Called.reshape]
    cases result <;> rfl

variable [ErrorType ε]

/-- What becomes of a result whose error has its own type is what becomes of it as a fault. -/
theorem mapError_boxed (result : Except ε α) :
    (result.mapError ErrorType.toFault).mapError CallError.operation =
      (result.mapError Failed.operation).mapError Failed.boxed := by
  cases result <;> rfl

theorem callAmong_boxed (work : Work ε α) :
    b.callAmong others now work.boxed =
      (b.executeAmong others now work).reshape (Except.mapError Failed.boxed) := by
  rcases hWork : work now with ⟨result, finished⟩
  cases b with
  | disabled name =>
    simp only [callAmong, executeAmong, start, Work.boxed, hWork, finish_none, Called.reshape,
      mapError_boxed, List.nil_append, List.append_nil]
  | stateful s classifier m =>
    simp only [callAmong, executeAmong, start]
    rcases m.enter s now with ⟨reason | permit, m, signals⟩
    · cases reason <;> rfl
    · simp only [Work.boxed, hWork, finish_result, Called.reshape, mapError_boxed]

end Breaker

/-- The reason for which a typed call falls back, if its work has no value. -/
inductive Failed.Means {ε : Type} [ErrorType ε] : Failed ε → TypedError → Prop where
  | opened (breaker : String) : Means (.opened breaker) (.opened breaker)
  | tooManyProbes (breaker : String) : Means (.tooManyProbes breaker) (.tooManyProbes breaker)
  | operation (error : ε) : Means (.operation error) (.operation (ErrorType.toFault error))

namespace Failed

variable {ε : Type} [ErrorType ε]

theorem means_boxed (e : Failed ε) : e.Means (.ofCallError e.boxed) := by
  cases e with
  | opened breaker => exact .opened breaker
  | tooManyProbes breaker => exact .tooManyProbes breaker
  | operation error => exact .operation error

theorem Means.not_mismatch {e : Failed ε} {error : TypedError} (hMeans : e.Means error) :
    error.isMismatch = false := by
  cases hMeans <;> rfl

end Failed

namespace Fallback

variable {ε α : Type} [ErrorType ε]

def ofFailed (value : α) (e : Failed ε) : Fallback α := ⟨value, .ofCallError e.boxed⟩

theorem mapError_eq_ok_iff {value v : α} {result : Except (Failed ε) α} :
    result.mapError (ofFailed value) = .ok v ↔ result = .ok v := by
  cases result with
  | ok w =>
    change Except.ok w = Except.ok v ↔ _
    simp only [Except.ok.injEq]
  | error e => exact ⟨nofun, nofun⟩

theorem of_mapError {value : α} {result : Except (Failed ε) α} {f : Fallback α}
    (hError : result.mapError (ofFailed value) = .error f) :
    f.value = value ∧ ∃ e, result = .error e ∧ e.Means f.error := by
  cases result with
  | ok v => nomatch hError
  | error e =>
    obtain rfl := Except.error.inj hError
    exact ⟨rfl, e, rfl, e.means_boxed⟩

end Fallback

namespace Typed

variable {τ : Type} [TypeCode τ] [DecidableEq τ] {ε : Type} [ErrorType ε]

/-- What was packed with its own type is never mistaken for anything else. -/
theorem resolve_packed (breaker : String) (t : τ) (fallback : TypeCode.Carrier t)
    (result : Except CallError (TypeCode.Carrier t)) :
    resolve breaker t fallback (result.map (Packed.mk t)) =
      (result.mapError fun e => ⟨fallback, .ofCallError e⟩, []) := by
  cases result with
  | error e => rfl
  | ok v =>
    simp only [resolve, Except.map, Packed.unpack?_mk]
    rfl

theorem callAmong_eq (others : Bystanders) (b : Breaker) (now : Instant) (t : τ)
    (work : Work ε (TypeCode.Carrier t)) (fallback : TypeCode.Carrier t) :
    callAmong others b now t work fallback =
      (b.executeAmong others now work).reshape
        (Except.mapError (Fallback.ofFailed fallback)) := by
  unfold callAmong
  rw [Breaker.callAmong_map, Breaker.callAmong_boxed]
  simp only [Called.reshape, resolve_packed, List.append_nil]
  cases (b.executeAmong others now work).result <;> rfl

end Typed

structure SameCall {τ : Type} [TypeCode τ] {ε : Type} [ErrorType ε] (t : τ)
    (fallback : TypeCode.Carrier t) (own : Called (Failed ε) (TypeCode.Carrier t))
    (packed : Called CallError (Packed τ))
    (typed : Called (Fallback (TypeCode.Carrier t)) (TypeCode.Carrier t)) : Prop where
  breaker : packed.breaker = own.breaker ∧ typed.breaker = own.breaker
  notices : packed.notices = own.notices ∧ typed.notices = own.notices
  invoked : packed.invoked = own.invoked ∧ typed.invoked = own.invoked
  finished : packed.finished = own.finished ∧ typed.finished = own.finished
  packs : packed.result = (own.result.mapError Failed.boxed).map (Packed.mk t)
  value : ∀ v, typed.result = .ok v ↔ own.result = .ok v
  fallsBack : ∀ f, typed.result = .error f →
    f.value = fallback ∧ ∃ e, own.result = .error e ∧ e.Means f.error
  matching : ∀ f, typed.result = .error f → f.error.isMismatch = false

section Calls

variable {τ : Type} [TypeCode τ] [DecidableEq τ] {ε : Type} [ErrorType ε]

/-- A breaker cannot tell in which way a call is made, and its caller learns the same from all. -/
theorem call_paths_agree (b : Breaker) (others : Bystanders) (now : Instant) (t : τ)
    (work : Work ε (TypeCode.Carrier t)) (fallback : TypeCode.Carrier t) :
    SameCall t fallback (b.executeAmong others now work)
      (b.callAmong others now (work.boxed.map (Packed.mk t)))
      (Typed.callAmong others b now t work fallback) := by
  rw [Breaker.callAmong_map, Breaker.callAmong_boxed, Typed.callAmong_eq]
  constructor
  · exact ⟨rfl, rfl⟩
  · exact ⟨rfl, rfl⟩
  · exact ⟨rfl, rfl⟩
  · exact ⟨rfl, rfl⟩
  · rfl
  · exact fun v => Fallback.mapError_eq_ok_iff
  · intro f hError
    exact Fallback.of_mapError hError
  · intro f hError
    obtain ⟨-, e, -, hMeans⟩ := Fallback.of_mapError hError
    exact hMeans.not_mismatch

end Calls

end CallGuard
