import RtmpCore.Net.Handshake
import RtmpCore.Support.Run

/-!
# The handshake of the source client

The client sends C0 and C1, collects S0, S1 and S2, echoes S1 and goes on with its
commands.  What it has collected is dropped whenever everything queued has been
sent, also while the server's answer is still incomplete.
-/

namespace RtmpCore.Transcode

open RtmpCore.Core Net Run List

def kHandshakeResponseSize : ℕ := kC0Size + 2 * kHandshakeChunkSize

def c0c1 : Bytes :=
  kRtmpVersion :: (range' 1 kHandshakeChunkSize).map fun i => if i < 9 then 0 else .ofNat (i * 31 + 7)

/-- Beside the fields of the source stands what the kernel has taken and returned, and
what the decoder was given.  The states behind the handshake are one. -/
structure RtmpSourceClient where
  handshaking : Bool := true
  error : Option Error := none
  output : Bytes := c0c1
  outputOffset : ℕ := 0
  handshakeInput : Bytes := []
  sent : Bytes := []
  received : Bytes := []
  decoded : Bytes := []

/-- `taken` is what each `send` accepts before one would block.  `replies` is what the
messages in the bytes and the acknowledgement queue. -/
inductive SourceEvent where
  | writable (taken : List ℕ)
  | readable (bytes replies : Bytes)

namespace RtmpSourceClient

variable (commands stream : Bytes) (c : RtmpSourceClient)

def unsent : Bytes := c.output.drop c.outputOffset

def drainOutput (c : RtmpSourceClient) (taken : List ℕ) : RtmpSourceClient :=
  if c.outputOffset < c.output.length then
    match taken with
    | [] => c
    | n :: rest =>
      drainOutput { c with sent := c.sent ++ c.unsent.take n, outputOffset := c.outputOffset + n } rest
  else { c with output := [], outputOffset := 0, handshakeInput := [] }

/-- `commands` are the chunk size and the connect command. -/
def receive (bytes replies : Bytes) : RtmpSourceClient :=
  let c := { c with received := c.received ++ bytes }
  let input := c.handshakeInput ++ bytes
  if c.handshaking = false then
    { c with decoded := c.decoded ++ bytes, output := c.output ++ replies }
  else if input.length < kHandshakeResponseSize then { c with handshakeInput := input }
  else if byteAt input 0 ≠ kRtmpVersion then
    { c with
      handshaking := false
      error := some ⟨.malformedHandshake, .protocol,
        "RTMP origin returned an unsupported handshake version"⟩ }
  else
    { c with
      handshaking := false
      handshakeInput := []
      output := c.output ++ (input.drop kC0Size).take kHandshakeChunkSize ++ commands ++ replies
      decoded := input.drop kHandshakeResponseSize }

def perform : SourceEvent → RtmpSourceClient
  | .writable taken =>
    if c.error = none ∧ c.outputOffset < c.output.length then c.drainOutput taken else c
  | .readable bytes replies => if c.error = none then c.receive commands bytes replies else c

/-- The server sends the stream, and the output does not run dry while a part of its
answer has been collected. -/
def Heard : SourceEvent → Prop
  | .writable taken => c.handshaking = true → c.handshakeInput = [] ∨ taken.sum < c.unsent.length
  | .readable bytes _ => c.received ++ bytes <+: stream

/-- The handshake is complete as soon as the answer is there. -/
structure Shakes : Prop where
  intact : c.error = none
  within : c.outputOffset ≤ c.output.length
  completed : c.handshaking = true ↔ c.received.length < kHandshakeResponseSize
  collected : c.handshaking = true → c.handshakeInput = c.received
  decoded : c.decoded = c.received.drop kHandshakeResponseSize
  sent : ∃ replies, c.sent ++ c.unsent = c0c1 ++ if c.handshaking then [] else
    (c.received.drop kC0Size).take kHandshakeChunkSize ++ commands ++ replies

variable {commands stream c}

theorem drainOutput_eq (taken : List ℕ) : ∃ sent output offset, c.drainOutput taken = { c with
      sent := sent, output := output, outputOffset := offset
      handshakeInput := if taken.sum < c.unsent.length then c.handshakeInput else [] } ∧
    offset ≤ output.length ∧ sent ++ output.drop offset = c.sent ++ c.unsent := by
  induction taken generalizing c with
  | nil =>
    rw [drainOutput]
    split_ifs with hqueued hleft
    · exact ⟨c.sent, c.output, c.outputOffset, rfl, hqueued.le, rfl⟩
    all_goals simp_all [unsent]
  | cons n rest ih =>
    rw [drainOutput]
    by_cases hqueued : c.outputOffset < c.output.length
    · obtain ⟨sent, output, offset, heq, hwithin, hsent⟩ := @ih
        { c with sent := c.sent ++ c.unsent.take n, outputOffset := c.outputOffset + n }
      refine ⟨sent, output, offset, (if_pos hqueued).trans (heq.trans ?_), hwithin, hsent.trans ?_⟩
      · congr 2
        simp [unsent]
        omega
      · simp [unsent, ← drop_drop]
    · refine ⟨c.sent, [], 0, (if_neg hqueued).trans ?_, ?_⟩ <;> simp_all [unsent]

theorem receive_shakes {bytes : Bytes} (replies : Bytes) (hversion : byteAt stream 0 = kRtmpVersion)
    (hheard : c.received ++ bytes <+: stream) (h : Shakes commands c) :
    Shakes commands (c.receive commands bytes replies) := by
  obtain ⟨hintact, hwithin, hcompleted, hcollected, hdecoded, earlier, hsent⟩ := h
  rw [unsent] at hsent
  have hdrop := @drop_append_of_le_length _ c.output
  cases hshaking : c.handshaking with
  | false =>
    have hlong : kHandshakeResponseSize ≤ c.received.length := by simpa [hshaking] using hcompleted
    have hstart : kC0Size ≤ c.received.length := le_trans (by decide) hlong
    have hhello : kHandshakeChunkSize ≤ (c.received.drop kC0Size).length := by
      simp [kHandshakeResponseSize, kC0Size] at hlong ⊢
      omega
    refine ⟨?_, ?_, ?_, ?_, ?_, earlier ++ replies, ?_⟩ <;> simp [receive, unsent, *]
    · omega
    · omega
    · simp [drop_append_of_le_length hlong]
    · simp [← append_assoc, hsent, hshaking, drop_append_of_le_length hstart,
        take_append_of_le_length hhello]
  | true =>
    have hopening : c.sent ++ c.output.drop c.outputOffset = c0c1 := by simpa [hshaking] using hsent
    have hshort := hcompleted.mp hshaking
    simp only [receive, hshaking, hcollected hshaking, Bool.true_eq_false, if_false]
    split_ifs with hmore hbad
    · refine ⟨hintact, hwithin, by simpa using hmore, fun _ => rfl, ?_, [], ?_⟩
      · rw [hdecoded, drop_eq_nil_of_le hmore.le, drop_eq_nil_of_le hshort.le]
      · simpa [unsent] using hopening
    · obtain ⟨rest, rfl⟩ := hheard
      have hone : 0 < (c.received ++ bytes).length := lt_of_lt_of_le (by decide) (not_lt.mp hmore)
      rw [byteAt, getD_append _ _ _ _ hone] at hversion
      exact absurd hversion hbad
    · refine ⟨hintact, by simp; omega, by simpa using hmore, by simp, rfl, replies, ?_⟩
      simp [unsent, hdrop hwithin, ← hopening]

theorem perform_shakes {e : SourceEvent} (hversion : byteAt stream 0 = kRtmpVersion)
    (hheard : Heard stream c e) (h : Shakes commands c) :
    Shakes commands (perform commands c e) := by
  cases e with
  | readable bytes replies =>
    rw [perform, if_pos h.intact]
    exact receive_shakes replies hversion hheard h
  | writable taken =>
    rw [perform]
    split_ifs
    · obtain ⟨sent, output, offset, heq, hwithin, hsent⟩ := drainOutput_eq (c := c) taken
      obtain ⟨replies, hsame⟩ := h.sent
      rw [heq]
      exact { h with
        within := hwithin
        collected := fun hshaking => by
          have := h.collected hshaking
          have := hheard hshaking
          split_ifs <;> simp_all
        sent := ⟨replies, hsent.trans hsame⟩ }
    · exact h

/-- In every run in which the output does not run dry over a part of the answer, the
handshake completes with the answer, C2 is S1, and the decoder is given what follows. -/
theorem run_shakes (stream : Bytes) (hversion : byteAt stream 0 = kRtmpVersion)
    {events : List SourceEvent} (hheard : Along (perform commands) (Heard stream) {} events) :
    Shakes commands (run (perform commands) {} events) :=
  run_invariant _ hheard
    ⟨rfl, Nat.zero_le _, by decide, fun _ => rfl, drop_nil.symm, [], by simp [unsent]⟩
    fun _ _ hheard h => perform_shakes hversion hheard h

/-- A whole answer, and then the output. -/
def prompt : List SourceEvent := [.readable (replicate 3074 3) [], .writable [5000]]

theorem prompt_shakes : (run (perform [9]) {} prompt).decoded = [3] ∧
    Shakes [9] (run (perform [9]) {} prompt) :=
  ⟨by decide +kernel, run_shakes (replicate 3074 3) (by decide +kernel)
    ⟨prefix_rfl, by rw [Heard]; decide +kernel, trivial⟩⟩

/-- The first byte of the answer comes before the last one of C1 is out. -/
def early : List SourceEvent :=
  [.writable [1], .readable [3] [], .writable [1536], .readable (replicate 3072 3) []]

/-- The answer is there, C0 and C1 are out, and the handshake does not complete. -/
theorem early_waits : (run (perform []) {} early).received = replicate kHandshakeResponseSize 3 ∧
    (run (perform []) {} early).sent = c0c1 ∧ (run (perform []) {} early).handshaking = true := by
  decide +kernel

end RtmpSourceClient

end RtmpCore.Transcode
