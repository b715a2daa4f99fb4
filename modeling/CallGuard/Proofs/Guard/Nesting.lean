import CallGuard.Proofs.Classification.Deciding
import CallGuard.Proofs.Guard.Booking
import CallGuard.Typed

/-!
# Breakers within breakers

An operation may itself go through a breaker. What that breaker returns when it fails is an error
of its own, which shows the text of the operation's fault and none of its links. A classifier that
goes by links finds nothing there, so the breaker and the guard outside take every failure for one
that counts.
-/

namespace CallGuard

inductive Fault.OfBreaker : Fault → Prop where
  | call (e : CallError) : OfBreaker e.toFault
  | typed (e : TypedError) : OfBreaker e.toFault

namespace Backend

variable {b : Backend} {fault inner : Fault}

/-- Nothing is recognised of the error of a breaker, and nothing stands below it. -/
theorem walk_ofBreaker (hInner : inner.OfBreaker) : b.walk inner.links = none := by
  refine walk_eq_none_iff.mpr fun l hMem => ?_
  have hUnknown : l.meaning = .unknown := by
    cases hInner with
    | call e | typed e =>
      obtain rfl := List.mem_singleton.mp hMem
      rfl
  rw [hUnknown]
  exact passesOver_unknown b

theorem classify_above_ofBreaker (hInner : inner.OfBreaker) {above : List Link}
    (hLinks : fault.links = above ++ inner.links) :
    b.classify fault = (b.walk above).getD .counted := by
  rw [classify_eq, hLinks, walk_append, walk_ofBreaker hInner, Option.or_none]

theorem classify_ofBreaker (hInner : inner.OfBreaker) : b.classify inner = .counted := by
  rw [classify_eq, walk_ofBreaker hInner, Option.getD_none]

end Backend

namespace Breaker

variable {α : Type}

def guarding (inner : Breaker) (others : Bystanders) (operation : Operation α) : Operation α :=
  fun now =>
    let called := inner.callAmong others now operation
    (called.result.mapError CallError.toFault, called.finished)

theorem ofBreaker_guarding {inner : Breaker} {others : Bystanders} {operation : Operation α}
    {now : Instant} {fault : Fault}
    (hFailed : (inner.guarding others operation now).1 = .error fault) : fault.OfBreaker := by
  rw [guarding] at hFailed
  cases hInner : (inner.callAmong others now operation).result with
  | ok value =>
    rw [hInner] at hFailed
    cases hFailed
  | error e =>
    rw [hInner] at hFailed
    cases hFailed
    exact .call e

def TakesForFailure (classifier : Classifier) (outer : Breaker) (others : Bystanders)
    (now : Instant) (operation : Operation α) : Prop :=
  (∃ reason, outer.fates others now operation = [.refused reason]) ∨
    outer.fates others now operation = [.booked .failure] ∧
      Guard.wantsRetry classifier (outer.callAmong others now operation).result = true

theorem takesForFailure_of_counted {s : BreakerSettings} {classifier : Classifier} {m : Machine}
    {others : Bystanders} {operation : Operation α} {now : Instant} {fault : Fault}
    (hOthers : ∀ since ended b, MayBecome b (others since ended b).1)
    (hFailed : (operation now).1 = .error fault) (hCounted : classifier fault = .counted) :
    TakesForFailure classifier (stateful s classifier m) others now operation := by
  have hAnswers : Answers s.name classifier operation now
      ((stateful s classifier m).callAmong others now operation)
      ((stateful s classifier m).fates others now operation) := answers_callAmong hOthers
  rw [TakesForFailure, hAnswers.wantsRetry_iff, and_self]
  revert hAnswers
  generalize (stateful s classifier m).fates others now operation = fates
  rintro (⟨reason, -, -, -⟩ | -)
  · exact .inl ⟨reason, rfl⟩
  · rw [hFailed, outcomeOf, hCounted]
    exact .inr rfl

end Breaker

/-- The error that a breaker wraps around that of an operation, typed or not, keeps the verdict only
if that is to count: it always counts itself, and at the end of a chain it adds nothing to the links
above it. A breaker through which an operation goes fails with such errors only, and the breaker
around it takes each of them for a failure. -/
theorem wrapping_kept_iff_counted (b : Backend) :
    (∀ fault : Fault,
        (b.classify (CallError.operation fault).toFault = b.classify fault ↔
          b.classify fault = .counted) ∧
        (b.classify (TypedError.operation fault).toFault = b.classify fault ↔
          b.classify fault = .counted)) ∧
      (∀ (fault inner : Fault) (above : List Link), inner.OfBreaker →
        fault.links = above ++ inner.links → b.classify fault = (b.walk above).getD .counted) ∧
      (∀ (α : Type) (inner : Breaker) (others : Bystanders) (operation : Operation α)
        (now : Instant) (fault : Fault),
        (inner.guarding others operation now).1 = .error fault → fault.OfBreaker) ∧
      ∀ (α : Type) (s : BreakerSettings) (m : Machine) (others : Bystanders)
        (operation : Operation α) (now : Instant) (fault : Fault),
        (∀ since ended b', Breaker.MayBecome b' (others since ended b').1) → fault.OfBreaker →
        (operation now).1 = .error fault →
        Breaker.TakesForFailure b.classify (.stateful s b.classify m) others now operation := by
  refine ⟨fun fault => ⟨?_, ?_⟩, ?_, ?_, ?_⟩
  · rw [Backend.classify_ofBreaker (.call _), eq_comm]
  · rw [Backend.classify_ofBreaker (.typed _), eq_comm]
  · exact fun _ _ _ hInner hLinks => Backend.classify_above_ofBreaker hInner hLinks
  · exact fun _ _ _ _ _ _ => Breaker.ofBreaker_guarding
  · intro α s m others operation now fault hOthers hInner hFailed
    exact Breaker.takesForFailure_of_counted hOthers hFailed (Backend.classify_ofBreaker hInner)

def forbidden : Operation Unit := fun now => (.error (.io .permissionDenied), now)

def fresh (b : Backend) : Breaker := .stateful .standard b.classify (.create .standard 0)

theorem wrapping_kept_iff_counted_forbidden :
    Backend.generic.classify (.io .permissionDenied) = .expected ∧
      (fresh .generic).fates .none 0 forbidden = [.booked .ignored] ∧
      (fresh .generic).fates .none 0 ((fresh .generic).guarding .none forbidden) =
        [.booked .failure] := by
  obtain ⟨_, _, hNested, hTaken⟩ := wrapping_kept_iff_counted .generic
  have hFailed : ((fresh .generic).guarding .none forbidden 0).1 =
      .error (CallError.operation (.io .permissionDenied)).toFault := rfl
  have hWrapped := hNested Unit (fresh .generic) .none forbidden 0 _ hFailed
  refine ⟨by decide, by decide, ?_⟩
  obtain ⟨reason, hRefused⟩ | hBooked := hTaken Unit .standard (.create .standard 0) .none
    ((fresh .generic).guarding .none forbidden) 0 _ (fun _ _ b' => Breaker.MayBecome.refl b')
    hWrapped hFailed
  · have hAdmitted : (fresh .generic).fates .none 0 ((fresh .generic).guarding .none forbidden) ≠
        [.refused reason] := by cases reason <;> decide
    exact absurd hRefused hAdmitted
  · exact hBooked.1

/-- A forbidden operation counts as soon as it is wrapped, whatever the type of the call. -/
theorem not_wrapping_keeps_verdict :
    (¬ ∀ (b : Backend) (fault : Fault),
      b.classify (CallError.operation fault).toFault = b.classify fault) ∧
    ¬ ∀ (b : Backend) (fault : Fault),
      b.classify (TypedError.operation fault).toFault = b.classify fault := by
  constructor
  · intro hKept
    exact absurd (hKept .generic (.io .permissionDenied)) (by decide)
  · intro hKept
    exact absurd (hKept .generic (.io .permissionDenied)) (by decide)

end CallGuard
