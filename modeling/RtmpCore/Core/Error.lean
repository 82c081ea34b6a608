/-!
# Error values

Untrusted input is rejected with an error value rather than an exception.  A
fallible operation returns `Except Error`, and a chain of them stops at the
first error.
-/

namespace RtmpCore.Core

inductive ErrorCategory where
  | protocol | network | configuration | authentication | storage | internal
deriving DecidableEq

inductive ErrorCode where
  | none | unknown | notFound | conflict
  | connectionClosed | connectionReset | connectionTimedOut | wouldBlock
  | operationCanceled | resourceExhausted
  | malformedHandshake | malformedChunk | malformedAmf | messageTooLarge
  | invalidStateTransition
  | invalidConfiguration | missingConfiguration
  | invalidStreamKey | expiredToken | unauthorized
  | storageUnavailable | storageWriteFailed
  | invalidArgument
deriving DecidableEq

structure Error where
  code : ErrorCode
  category : ErrorCategory
  message : String
deriving DecidableEq

section Bind

variable {ε α β : Type}

@[simp] theorem ok_bind (a : α) (f : α → Except ε β) : (Except.ok a >>= f) = f a := rfl

@[simp] theorem pure_eq_ok (a : α) : (pure a : Except ε α) = .ok a := rfl

/-- A chain succeeds exactly when both of its parts do. -/
theorem bind_eq_ok {x : Except ε α} {f : α → Except ε β} {b : β} :
    (x >>= f) = .ok b ↔ ∃ a, x = .ok a ∧ f a = .ok b := by
  cases x with
  | error e => exact ⟨nofun, fun ⟨_, h, _⟩ => nomatch h⟩
  | ok a => simp

end Bind

end RtmpCore.Core
