import Mathlib.Data.List.Basic

/-!
# Types of the live path

Identities and media frames that pass between the sessions, the fan-out and
the router.  An identity is a number drawn from a counter of its kind and never
converted into another kind; 0 is the invalid one.  The 64-bit counters do not
wrap.
-/

namespace RtmpCore.Live

structure StreamId where
  raw : ℕ := 0
deriving DecidableEq

structure SubscriberId where
  raw : ℕ := 0
deriving DecidableEq

/-- A media payload as it is shared between queues and caches. -/
structure SharedMediaFrame where
  payload : List UInt8 := []
  messageTypeId : UInt8 := 0
  timestamp : UInt32 := 0
deriving DecidableEq

/-- What a queue needs to know of the frames it holds: the size of the
payload, and a frame without one. -/
class MediaFrame (F : Type) where
  payloadSize : F → ℕ
  empty : F
  payloadSize_empty : payloadSize empty = 0

instance : MediaFrame SharedMediaFrame where
  payloadSize frame := frame.payload.length
  empty := {}
  payloadSize_empty := rfl

/-- A frame with the number of the call that brought it in. -/
structure Stamped (F : Type) where
  serial : ℕ
  frame : F
deriving DecidableEq

instance {F : Type} [MediaFrame F] : MediaFrame (Stamped F) where
  payloadSize stamped := MediaFrame.payloadSize stamped.frame
  empty := ⟨0, MediaFrame.empty⟩
  payloadSize_empty := MediaFrame.payloadSize_empty

end RtmpCore.Live
