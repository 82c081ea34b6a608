import RtmpCore.Net.Connection
import RtmpCore.Support.Run

/-!
# Submitting sends

A writer claims the send of its connection before it is submitted.  Nothing is
submitted when the ring has no entry left or the buffer at the front is empty, and
then the claim is not given back.
-/

namespace RtmpCore.Net

open Run List

def TcpConnection.popWriteBuffer (t : TcpConnection) : TcpConnection :=
  match t.writeQueue with
  | [] => { t with frontOffset := 0 }
  | front :: rest =>
    { t with
      queuedBytes := t.queuedBytes - min t.queuedBytes (front.length - min t.frontOffset front.length)
      writeQueue := rest
      frontOffset := 0 }

/-- A connection, and whether the ring has a send of it. -/
structure Sender where
  tcp : TcpConnection
  sending : Bool := false

namespace Sender

variable (s : Sender)

/-- `entry` is what `io_uring_get_sqe` returns. -/
def submitSend (entry : Bool) : Sender :=
  match s.tcp.writeQueue with
  | [] => s
  | front :: _ =>
    if s.tcp.isOpen = false ∨ front = [] ∨ entry = false then s
    else if front.length ≤ s.tcp.frontOffset then { s with tcp := s.tcp.popWriteBuffer }
    else { s with sending := true }

def close : Sender := { s with tcp := { s.tcp with state := .closed } }

def asyncWrite (buffer : Bytes) (entry : Bool) : Sender :=
  if s.tcp.isGoing then s
  else if s.tcp.overflows buffer.length then s.close
  else
    let queued := { s with tcp := s.tcp.enqueue buffer }
    if s.tcp.sendInFlight then queued else queued.submitSend entry

/-- The completion of a send.  A connection that has gone is not there any more. -/
def handleSendCompletion (result : ℤ) (entry : Bool) : Sender :=
  if s.sending = false ∨ s.tcp.isOpen = false then { s with sending := false }
  else
    let done : Sender := { tcp := s.tcp.onSendCompletion result.toNat (0 < result) }
    if result ≤ 0 then done.close else done.submitSend entry

end Sender

inductive SendEvent where
  | write (buffer : Bytes) (entry : Bool)
  | completion (result : ℤ) (entry : Bool)
  | close
deriving DecidableEq

namespace Sender

variable {s : Sender}

def perform (s : Sender) : SendEvent → Sender
  | .write buffer entry => s.asyncWrite buffer entry
  | .completion result entry => s.handleSendCompletion result entry
  | .close => s.close

/-- The ring has an entry, and no empty buffer is written. -/
def Supplied (_ : Sender) : SendEvent → Prop
  | .write buffer entry => buffer ≠ [] ∧ entry = true
  | .completion _ entry => entry = true
  | .close => True

/-- An open connection with something to write is sending. -/
def Flowing (s : Sender) : Prop := s.tcp.isGoing = true ∨ s.tcp.writeQueue = [] ∨ s.sending = true

structure Claimed (s : Sender) : Prop where
  filled : ∀ buffer ∈ s.tcp.writeQueue, buffer ≠ []
  offset : ∀ front ∈ s.tcp.writeQueue.head?, s.tcp.frontOffset < front.length
  idle : s.tcp.writeQueue = [] → s.tcp.frontOffset = 0 ∧ s.tcp.sendInFlight = false

theorem isGoing_of_not_isOpen (h : s.tcp.isOpen = false) : s.tcp.isGoing = true := by
  simp_all [TcpConnection.isOpen, TcpConnection.isGoing]

theorem Claimed.submitSend (h : s.Claimed) :
    (s.submitSend true).Claimed ∧ (s.submitSend true).Flowing := by
  unfold Sender.submitSend
  cases hqueue : s.tcp.writeQueue with
  | nil => exact ⟨h, .inr (.inl hqueue)⟩
  | cons front rest =>
    have hfront := h.filled front (by simp [hqueue])
    have hoffset := h.offset front (by simp [hqueue])
    cases hopen : s.tcp.isOpen with
    | false => exact ⟨h, .inl (isGoing_of_not_isOpen hopen)⟩
    | true =>
      simp only [hfront, Nat.not_le.mpr hoffset, Bool.true_eq_false, or_self, if_false]
      exact ⟨{ h with }, .inr (.inr rfl)⟩

theorem Claimed.enqueue (h : s.Claimed) {buffer : Bytes} (hbuffer : buffer ≠ []) :
    Claimed { s with tcp := s.tcp.enqueue buffer } where
  filled := by
    simp only [TcpConnection.enqueue, mem_append, mem_singleton]
    rintro other (hother | rfl)
    · exact h.filled other hother
    · exact hbuffer
  offset := by
    have hoffset := h.offset
    have hidle := h.idle
    have hpos := length_pos_iff.mpr hbuffer
    cases hqueue : s.tcp.writeQueue <;> simp_all [TcpConnection.enqueue]
  idle := by simp [TcpConnection.enqueue]

theorem Claimed.onSendCompletion (h : s.Claimed) (bytesSent : ℕ) (success : Bool) :
    Claimed { tcp := s.tcp.onSendCompletion bytesSent success } := by
  have hfilled := h.filled
  have hidle := h.idle
  unfold TcpConnection.onSendCompletion
  cases hqueue : s.tcp.writeQueue with
  | nil => cases success <;> constructor <;> simp_all
  | cons front rest =>
    cases success with
    | false => constructor <;> simp_all [length_pos_iff]
    | true =>
      simp only [if_true]
      split_ifs with hdone
      · constructor <;> simp_all
        intro front' hfront
        exact length_pos_iff.mpr (hfilled.2 front' (mem_of_mem_head? hfront))
      · constructor <;> simp_all

/-- Every event leaves an open connection sending, when the ring has an entry for
it and its buffer is not empty. -/
theorem Claimed.perform (hclaimed : s.Claimed) (hflowing : s.Flowing) {event : SendEvent}
    (hsupplied : s.Supplied event) : (s.perform event).Claimed ∧ (s.perform event).Flowing := by
  cases event with
  | write buffer entry =>
    obtain ⟨hbuffer, rfl⟩ := hsupplied
    have hqueued := hclaimed.enqueue hbuffer
    dsimp only [Sender.perform, asyncWrite]
    split_ifs with hgoing hover hflight
    · exact ⟨hclaimed, hflowing⟩
    · exact ⟨{ hclaimed with }, .inl rfl⟩
    · refine ⟨hqueued, .inr (.inr ((hflowing.resolve_left hgoing).resolve_left ?_))⟩
      intro hempty
      simp [(hclaimed.idle hempty).2] at hflight
    · exact hqueued.submitSend
  | completion result entry =>
    obtain rfl := hsupplied
    have hdone := hclaimed.onSendCompletion result.toNat (0 < result)
    dsimp only [Sender.perform, handleSendCompletion]
    split_ifs with hgone hfailed
    · refine ⟨{ hclaimed with }, ?_⟩
      rcases hgone with hidle | hclosed
      · exact hflowing.imp_right fun hrest => .inl (hrest.resolve_right (by simp [hidle]))
      · exact .inl (isGoing_of_not_isOpen hclosed)
    · exact ⟨{ hdone with }, .inl rfl⟩
    · exact hdone.submitSend
  | close => exact ⟨{ hclaimed with }, .inl rfl⟩

section

variable (clientIp : Bytes) (maxWriteQueueBytes maxWriteQueuePackets : ℕ)

/-- When the ring has an entry for every send and no empty buffer is written, an open
connection with something to write is sending. -/
theorem run_flowing (events : List SendEvent) (hsupplied : Along perform Supplied
      { tcp := { clientIp, maxWriteQueueBytes, maxWriteQueuePackets } } events) :
    (run perform { tcp := { clientIp, maxWriteQueueBytes, maxWriteQueuePackets } } events).Flowing :=
  (run_invariant (fun s => s.Claimed ∧ s.Flowing) hsupplied
    ⟨⟨nofun, nofun, fun _ => ⟨rfl, rfl⟩⟩, .inr (.inl rfl)⟩
    fun _ _ hstep h => h.1.perform h.2 hstep).2

end

/-- A buffer that is sent in two parts, with another behind it. -/
theorem run_flowing_parts :
    let s := run perform { tcp := ⟨[], 0, 0, .accepted, [], 0, 0, false⟩ }
      [.write [1, 2] true, .write [3] true, .completion 1 true, .completion 1 true]
    s.tcp.writeQueue = [[3]] ∧ s.Flowing :=
  ⟨by decide, run_flowing [] 0 0 _ (by simp [Along, Supplied])⟩

/-- The ring has no entry for the first send, and no later write submits one. -/
theorem run_not_flowing : ¬(run perform { tcp := ⟨[], 0, 0, .accepted, [], 0, 0, false⟩ }
      [.write [1] false, .write [2] true]).Flowing := by
  unfold Flowing
  decide

end Sender

end RtmpCore.Net
