import RtmpCore.Core.ByteOrder
import RtmpCore.Core.Error

/-!
# The handshake

The server reads C0, C1 and C2, answers S0, S1 and S2 in one buffer when it has
C1, and keeps what the peer sent behind C2.  The session calls its owner to
send, when it is complete and when it has failed.  The owner's calls never
reach back into the session, so a call of the session returns its new state and
the calls it made.  The state in which the source is while it sends S0, S1 and
S2 is left out: nobody looks at it.
-/

namespace RtmpCore.Net

open RtmpCore.Core

def kRtmpVersion : UInt8 := 0x03
def kC0Size : ℕ := 1
def kTimeFieldSize : ℕ := 4
def kZeroFieldSize : ℕ := 4
def kRandomEchoSize : ℕ := 1528
def kHandshakeChunkSize : ℕ := kTimeFieldSize + kZeroFieldSize + kRandomEchoSize
def kMaxHandshakeBytes : ℕ := kC0Size + kHandshakeChunkSize + kHandshakeChunkSize

inductive HandshakeState where
  | waitingForC0 | waitingForC1 | waitingForC2 | completed | failed | timedOut
deriving DecidableEq

inductive HandshakeCall where
  | send (bytes : Bytes)
  | complete
  | fail (error : Error)
deriving DecidableEq

/-- What the server puts into S1: its clock and random bytes. -/
structure ServerHello where
  time : UInt32 := 0
  random : ℕ → UInt8 := fun _ => 0

structure HandshakeSession where
  state : HandshakeState := .waitingForC0
  buffer : Bytes := []
deriving DecidableEq

namespace HandshakeSession

variable (h : HandshakeSession)

def isTerminal : Bool := h.state = .completed || h.state = .failed || h.state = .timedOut

def fail (h : HandshakeSession) (code : ErrorCode) (category : ErrorCategory)
    (message : String) : HandshakeSession × List HandshakeCall :=
  if h.isTerminal then (h, [])
  else ({ state := .failed, buffer := [] }, [.fail ⟨code, category, message⟩])

def onTimeout : HandshakeSession × List HandshakeCall :=
  if h.isTerminal then (h, [])
  else
    ({ state := .timedOut, buffer := [] }, [.fail ⟨.connectionTimedOut, .network,
        "RTMP handshake did not complete before the configured deadline"⟩])

def tryConsumeC0 : HandshakeSession × List HandshakeCall :=
  if h.buffer.length < kC0Size then (h, [])
  else if byteAt h.buffer 0 ≠ kRtmpVersion then
    h.fail .malformedHandshake .protocol "unsupported RTMP version in C0"
  else ({ state := .waitingForC1, buffer := h.buffer.drop kC0Size }, [])

/-- S2 echoes C1. -/
def tryConsumeC1 (hello : ServerHello) (h : HandshakeSession) :
    HandshakeSession × List HandshakeCall :=
  if h.buffer.length < kHandshakeChunkSize then (h, [])
  else
    let s1 := writeU32Be hello.time ++ writeU32Be 0 ++ (List.range kRandomEchoSize).map hello.random
    ({ state := .waitingForC2, buffer := h.buffer.drop kHandshakeChunkSize },
      [.send (kRtmpVersion :: s1 ++ h.buffer.take kHandshakeChunkSize)])

/-- C2 is not compared with S1. -/
def tryConsumeC2 : HandshakeSession × List HandshakeCall :=
  if h.buffer.length < kHandshakeChunkSize then (h, [])
  else ({ state := .completed, buffer := h.buffer.drop kHandshakeChunkSize }, [.complete])

/-- Take a further step if the session has come to a state. -/
def continueIn (state : HandshakeState)
    (step : HandshakeSession → HandshakeSession × List HandshakeCall)
    (done : HandshakeSession × List HandshakeCall) : HandshakeSession × List HandshakeCall :=
  if done.1.state = state then ((step done.1).1, done.2 ++ (step done.1).2)
  else done

def onBytesReceived (hello : ServerHello) (h : HandshakeSession)
    (data : Bytes) : HandshakeSession × List HandshakeCall :=
  if h.isTerminal ∨ data = [] then (h, [])
  else if kMaxHandshakeBytes < h.buffer.length + data.length then
    h.fail .malformedHandshake .protocol
      "handshake data exceeds the maximum C0+C1+C2 size"
  else
    continueIn .waitingForC2 tryConsumeC2 (continueIn .waitingForC1 (tryConsumeC1 hello)
        (continueIn .waitingForC0 tryConsumeC0 ({ h with buffer := h.buffer ++ data }, [])))

/-- The orders in which one reception may make its calls: at most one of them
ends the handshake, and a failure is told alone. -/
inductive Calls : List HandshakeCall → Prop where
  | none : Calls []
  | failed (error : Error) : Calls [.fail error]
  | sent (bytes : Bytes) : Calls [.send bytes]
  | completed : Calls [.complete]
  | both (bytes : Bytes) : Calls [.send bytes, .complete]

theorem calls_fail (code : ErrorCode) (category : ErrorCategory) (msg : String) :
    Calls (h.fail code category msg).2 := by
  unfold fail
  split
  · exact .none
  · exact .failed _

theorem calls_onTimeout : Calls h.onTimeout.2 := by
  unfold onTimeout
  split
  · exact .none
  · exact .failed _

theorem tryConsumeC0_cases : h.tryConsumeC0.2 = [] ∨
      ∃ error, h.tryConsumeC0.2 = [.fail error] ∧ h.tryConsumeC0.1.state = .failed := by
  unfold tryConsumeC0
  split_ifs
  · exact .inl rfl
  · unfold fail
    split
    · exact .inl rfl
    · exact .inr ⟨_, rfl, rfl⟩
  · exact .inl rfl

theorem tryConsumeC1_cases (hello : ServerHello) (h : HandshakeSession) :
    (h.tryConsumeC1 hello).2 = [] ∨ ∃ bytes, (h.tryConsumeC1 hello).2 = [.send bytes] := by
  unfold tryConsumeC1
  split_ifs
  · exact .inl rfl
  · exact .inr ⟨_, rfl⟩

theorem tryConsumeC2_cases : h.tryConsumeC2.2 = [] ∨ h.tryConsumeC2.2 = [.complete] := by
  unfold tryConsumeC2
  split_ifs
  · exact .inl rfl
  · exact .inr rfl

theorem calls_continueIn_C2 {done : HandshakeSession × List HandshakeCall}
    (h : done.2 = [] ∨ ∃ bytes, done.2 = [.send bytes]) :
    Calls (continueIn .waitingForC2 tryConsumeC2 done).2 := by
  have hlast := done.1.tryConsumeC2_cases
  unfold continueIn
  split_ifs
  · rcases h with h | ⟨bytes, h⟩ <;> rcases hlast with hlast | hlast <;>
      rw [h, hlast]
    · exact .none
    · exact .completed
    · exact .sent bytes
    · exact .both bytes
  · rcases h with h | ⟨bytes, h⟩ <;> rw [h]
    · exact .none
    · exact .sent bytes

theorem calls_onBytesReceived (hello : ServerHello) (h : HandshakeSession)
    (data : Bytes) : Calls (h.onBytesReceived hello data).2 := by
  unfold onBytesReceived
  split_ifs
  · exact .none
  · exact h.calls_fail _ _ _
  · generalize hfst : continueIn .waitingForC0 tryConsumeC0
      ({ h with buffer := h.buffer ++ data }, []) = first
    have hcases : first.2 = [] ∨ ∃ error, first.2 = [.fail error] ∧ first.1.state = .failed := by
      rw [← hfst]
      unfold continueIn
      split_ifs
      · exact tryConsumeC0_cases _
      · exact .inl rfl
    rcases hcases with hnone | ⟨error, hfail, hst⟩
    · apply calls_continueIn_C2
      unfold continueIn
      split_ifs
      · rw [hnone]
        exact tryConsumeC1_cases hello _
      · exact .inl hnone
    · -- nothing follows a failure
      simp only [continueIn, hst, reduceCtorEq, if_false, hfail]
      exact .failed error

end HandshakeSession

end RtmpCore.Net
