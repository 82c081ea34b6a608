import RtmpCore.Chunk.Decoder
import RtmpCore.Support.Incremental

/-!
# The chunk decoder as an incremental machine

Each call of `decodeOne` is one attempt on the buffer, in the sense of
`Support.Incremental`, and a decoder that has failed has stopped.  This module
says once what an attempt can do and identifies the loop of `onBytesReceived`
with the machine's drain; the results about whole runs start from here.
-/

namespace RtmpCore.Chunk

open RtmpCore.Core Incremental List

/-- The header of the chunk at the front of the buffer is there. -/
structure Fronts (b : Bytes) (header : BasicHeader) : Prop where
  read : readBasicHeader b = some header
  header_le : header.len + messageHeaderLen header.fmt ≤ b.length

/-- What an attempt can do, in terms of the chunk at the front of the
buffer. -/
inductive Attempted (cfg : ChunkDecoderConfig) (d : DecoderState) (b : Bytes) :
    Attempt DecoderState UInt8 DecoderEvent → Prop
  | short (hshort : ∀ header, ¬Fronts b header) : Attempted cfg d b (.needMore d)
  | refused {header msg} (hfront : Fronts b header) (hopen : openStream cfg d header = .error msg) :
    Attempted cfg d b (.stopped (fail d .malformedChunk msg).1 (fail d .malformedChunk msg).2)
  | waits {header opened state} (hfront : Fronts b header)
      (hopen : openStream cfg d header = .ok (opened, state))
      (hres : resolveChunk cfg opened.inputChunkSize state header b = .insufficientData) :
    Attempted cfg d b (.needMore opened)
  | malformed {header opened state code msg} (hfront : Fronts b header)
      (hopen : openStream cfg d header = .ok (opened, state))
      (hres : resolveChunk cfg opened.inputChunkSize state header b = .failed code msg) :
    Attempted cfg d b (.stopped (fail opened code msg).1 (fail opened code msg).2)
  | overruns {header opened state chunk result d' events} (hfront : Fronts b header)
      (hopen : openStream cfg d header = .ok (opened, state))
      (hres : resolveChunk cfg opened.inputChunkSize state header b = .resolved chunk)
      (hcom : commitPayload cfg opened header.csid state chunk
        ((b.drop chunk.totalHeaderLen).take chunk.payloadSlice) = (result, d', events))
      (hfail : d'.failed = true) :
    Attempted cfg d b (.stopped d' events)
  | commits {header opened state chunk d' events} (hfront : Fronts b header)
      (hopen : openStream cfg d header = .ok (opened, state))
      (hres : resolveChunk cfg opened.inputChunkSize state header b = .resolved chunk)
      (hcom : commitPayload cfg opened header.csid state chunk
        ((b.drop chunk.totalHeaderLen).take chunk.payloadSlice) = (.consumed, d', events))
      (hrun : d'.failed = false) :
    Attempted cfg d b (.consumed d' (b.drop (chunk.totalHeaderLen + chunk.payloadSlice)) events)

/-! ## Headers and entries -/

variable {b : Bytes} {header : BasicHeader} {cfg : ChunkDecoderConfig}
  {state : ChunkStreamState} {chunk : ResolvedChunk} {d opened : DecoderState}

theorem readBasicHeader_eq_some_iff :
    readBasicHeader b = some header ↔ b ≠ [] ∧ header.len ≤ b.length ∧ header =
          ⟨(byteAt b 0 >>> 6) &&& 0x03, basicHeaderCsid (byteAt b 0 &&& 0x3F) b,
            basicHeaderLen (byteAt b 0 &&& 0x3F)⟩ := by
  unfold readBasicHeader
  by_cases hb : b = []
  · simp [hb]
  · simp only [hb, if_false, ne_eq, not_false_eq_true, true_and]
    constructor
    · intro h
      split at h
      · cases h
      next hlen =>
        cases h
        exact ⟨Nat.le_of_not_lt hlen, rfl⟩
    · rintro ⟨hlen, rfl⟩
      rw [if_neg (Nat.not_lt.mpr hlen)]

theorem basicHeaderLen_pos (csidField : UInt8) : 0 < basicHeaderLen csidField := by
  unfold basicHeaderLen
  split
  · omega
  · split <;> omega

theorem readBasicHeader_len_pos (h : readBasicHeader b = some header) : 0 < header.len := by
  obtain ⟨-, -, rfl⟩ := readBasicHeader_eq_some_iff.mp h
  exact basicHeaderLen_pos _

theorem resolveChunk_resolved_le {inputChunkSize : ℕ}
    (h : resolveChunk cfg inputChunkSize state header b = .resolved chunk) :
    header.len ≤ chunk.totalHeaderLen ∧ chunk.totalHeaderLen + chunk.payloadSlice ≤ b.length := by
  unfold resolveChunk at h
  split at h
  · cases h
  split at h
  · cases h
  split at h
  · cases h
  split at h
  · cases h
  next hslice =>
    cases h
    refine ⟨?_, by simpa using hslice⟩
    simp only [totalHeaderLen]
    omega

theorem openStream_ok_cases (h : openStream cfg d header = .ok (opened, state)) :
    (d.streams.lookup header.csid = some state ∧ opened = d) ∨
      (d.streams.lookup header.csid = none ∧ state = {} ∧
        d.streams.keys.length < cfg.limits.maxChunkStreams.toNat ∧
        opened = { d with streams := d.streams.insert header.csid {} }) := by
  unfold openStream at h
  split at h
  next found hlook =>
    obtain ⟨rfl, rfl⟩ := h
    exact Or.inl ⟨hlook, rfl⟩
  next hlook =>
    split at h
    · cases h
    · split at h
      · cases h
      next hroom =>
        obtain ⟨rfl, rfl⟩ := h
        exact Or.inr ⟨hlook, rfl, Nat.lt_of_not_le hroom, rfl⟩

theorem openStream_opened (h : openStream cfg d header = .ok (opened, state)) :
    openStream cfg opened header = .ok (opened, state) := by
  rcases openStream_ok_cases h with ⟨-, rfl⟩ | ⟨-, rfl, -, rfl⟩
  · exact h
  · simp [openStream]

theorem openStream_failed (h : openStream cfg d header = .ok (opened, state)) :
    opened.failed = d.failed := by
  rcases openStream_ok_cases h with ⟨-, rfl⟩ | ⟨-, -, -, rfl⟩
  · rfl
  · rfl

theorem commitPayload_consumed {csid : UInt32} {slice : Bytes}
    (h : (commitPayload cfg d csid state chunk slice).2.1.failed = false) :
    (commitPayload cfg d csid state chunk slice).1 = .consumed := by
  unfold commitPayload at h ⊢
  dsimp only at h ⊢
  split at h
  · simp at h
  next hlim =>
    rw [if_neg hlim]
    split <;> rfl

theorem commitPayload_result_ne (cfg : ChunkDecoderConfig) (d : DecoderState)
    (csid : UInt32) (state : ChunkStreamState) (chunk : ResolvedChunk) (slice : Bytes) :
    (commitPayload cfg d csid state chunk slice).1 ≠ .insufficientData := by
  unfold commitPayload
  dsimp only
  split
  · simp
  · split <;> simp

/-! ## Delivery -/

/-- A message the decoder hands to the message handler: not a control message
it handles itself, and not a truncated Window Acknowledgement Size. -/
def Deliverable (message : RtmpMessage) : Prop :=
  message.messageStreamId = kProtocolControlMessageStreamId →
    message.messageTypeId ≠ MessageTypeId.setChunkSize.code ∧
      message.messageTypeId ≠ MessageTypeId.abortMessage.code ∧
      (message.messageTypeId = MessageTypeId.windowAcknowledgementSize.code →
        4 ≤ message.payload.length)

theorem deliver_of_deliverable (cfg : ChunkDecoderConfig) (d : DecoderState)
    {msg : RtmpMessage} (h : Deliverable msg) :
    ∃ window, deliver cfg d msg = ({ d with windowAckSize := window }, [.message msg]) := by
  unfold deliver handleProtocolControl
  by_cases hstr : msg.messageStreamId ≠ kProtocolControlMessageStreamId
  · exact ⟨d.windowAckSize, by rw [if_pos hstr]; rfl⟩
  · obtain ⟨hset, habort, hwindow⟩ := h (not_not.mp hstr)
    rw [if_neg hstr, if_neg hset, if_neg habort]
    by_cases hack : msg.messageTypeId = MessageTypeId.windowAcknowledgementSize.code
    · have hlen := hwindow hack
      exact ⟨readU32BeAt msg.payload 0, by
        rw [if_pos hack, if_neg (Nat.not_lt.mpr hlen)]
        rfl⟩
    · exact ⟨d.windowAckSize, by rw [if_neg hack]; rfl⟩

/-! ## Attempts -/

/-- The attempt belonging to an outcome of `decodeOne`. -/
def DecodeStep.toAttempt (step : DecodeStep) : Attempt DecoderState UInt8 DecoderEvent :=
  match step.result with
  | .insufficientData => .needMore step.state
  | .consumed =>
    if step.state.failed then .stopped step.state step.events
    else .consumed step.state step.buffer step.events
  | .failed => .stopped step.state step.events

/-- One round of the loop of `onBytesReceived`.  A control message can fail the
decoder in a round that consumes its chunk; the machine stops there too. -/
def decoderAttempt (cfg : ChunkDecoderConfig) (d : DecoderState)
    (b : Bytes) : Attempt DecoderState UInt8 DecoderEvent :=
  (decodeOne cfg d b).toAttempt

def commitAttempt (committed : DecodeResult × DecoderState × List DecoderEvent)
    (rest : Bytes) : Attempt DecoderState UInt8 DecoderEvent :=
  if committed.2.1.failed then .stopped committed.2.1 committed.2.2
  else .consumed committed.2.1 rest committed.2.2

section Attempt

theorem toAttempt_commitChunk (csid : UInt32) (chunk : ResolvedChunk) :
    (commitChunk cfg d csid state chunk b).toAttempt =
      commitAttempt (commitPayload cfg d csid state chunk
          ((b.drop chunk.totalHeaderLen).take chunk.payloadSlice))
        (b.drop (chunk.totalHeaderLen + chunk.payloadSlice)) := by
  simp only [commitChunk, commitAttempt, DecodeStep.toAttempt, drop_drop]
  generalize hslice : (b.drop chunk.totalHeaderLen).take chunk.payloadSlice = slice
  have hne := commitPayload_result_ne cfg d csid state chunk slice
  by_cases hfail : (commitPayload cfg d csid state chunk slice).2.1.failed = true
  · simp only [hfail]
    split
    · contradiction
    · rfl
    · rfl
  · have hcons := commitPayload_consumed (Bool.eq_false_iff.mpr hfail)
    simp [hcons, hfail]

theorem decoderAttempt_no_header (h : ∀ header, ¬Fronts b header) :
    decoderAttempt cfg d b = .needMore d := by
  unfold decoderAttempt decodeOne
  split
  · rfl
  next header hread =>
    rw [if_pos (Nat.lt_of_not_le fun hle => h header ⟨hread, hle⟩)]
    rfl

theorem decoderAttempt_refused {msg : String} (h : Fronts b header)
    (hopen : openStream cfg d header = .error msg) :
    decoderAttempt cfg d b = .stopped (fail d .malformedChunk msg).1
        (fail d .malformedChunk msg).2 := by
  simp [decoderAttempt, decodeOne, h.read, Nat.not_lt.mpr h.header_le, hopen, DecodeStep.toAttempt]

theorem decoderAttempt_opened (h : Fronts b header)
    (hopen : openStream cfg d header = .ok (opened, state)) : decoderAttempt cfg d b =
      match resolveChunk cfg opened.inputChunkSize state header b with
      | .insufficientData => .needMore opened
      | .failed code msg => .stopped (fail opened code msg).1 (fail opened code msg).2
      | .resolved chunk =>
        commitAttempt (commitPayload cfg opened header.csid state chunk
            ((b.drop chunk.totalHeaderLen).take chunk.payloadSlice))
          (b.drop (chunk.totalHeaderLen + chunk.payloadSlice)) := by
  simp only [decoderAttempt, decodeOne, h.read, if_neg (Nat.not_lt.mpr h.header_le), hopen,
    decodeOnStream]
  cases resolveChunk cfg opened.inputChunkSize state header b with
  | insufficientData | failed => rfl
  | resolved chunk => exact toAttempt_commitChunk _ _

theorem decoderAttempt_attempted (cfg : ChunkDecoderConfig) (d : DecoderState) (b : Bytes) :
    Attempted cfg d b (decoderAttempt cfg d b) := by
  by_cases hshort : ∀ header, ¬Fronts b header
  · rw [decoderAttempt_no_header hshort]
    exact .short hshort
  simp only [not_forall, not_not] at hshort
  obtain ⟨header, hfront⟩ := hshort
  cases hopen : openStream cfg d header with
  | error msg =>
    rw [decoderAttempt_refused hfront hopen]
    exact .refused hfront hopen
  | ok entry =>
    rw [decoderAttempt_opened hfront hopen]
    cases hres : resolveChunk cfg entry.1.inputChunkSize entry.2 header b with
    | insufficientData => exact .waits hfront hopen hres
    | failed code msg => exact .malformed hfront hopen hres
    | resolved chunk =>
      dsimp only [commitAttempt]
      split
      next hfail => exact .overruns hfront hopen hres rfl hfail
      next hrun =>
        have hrun := Bool.eq_false_iff.mpr hrun
        exact .commits hfront hopen hres (Prod.ext (commitPayload_consumed hrun) rfl) hrun

end Attempt

theorem decoderAttempt_rest_shorter {d' : DecoderState} {r : Bytes} {o : List DecoderEvent}
    (h : decoderAttempt cfg d b = .consumed d' r o) : r.length < b.length := by
  have hattempted := decoderAttempt_attempted cfg d b
  rw [h] at hattempted
  cases hattempted with
  | commits hfront _ hres _ _ =>
    have hpos := readBasicHeader_len_pos hfront.read
    have hle := resolveChunk_resolved_le hres
    rw [length_drop]
    omega

def decoderMachine (cfg : ChunkDecoderConfig) : Machine DecoderState UInt8 DecoderEvent where
  attempt := decoderAttempt cfg
  rest_shorter := decoderAttempt_rest_shorter

variable (cfg)

theorem drain_nil (d : DecoderState) : drain (decoderMachine cfg) d [] = (⟨d, [], false⟩, []) :=
  drain_of_needMore (M := decoderMachine cfg)
    (decoderAttempt_no_header (b := []) fun _ h => nomatch h.read)

/-! ## The loop of `onBytesReceived` -/

/-- The configuration of the machine a decoder is in. -/
def ChunkDecoder.config (dec : ChunkDecoder) : Config DecoderState UInt8 :=
  ⟨dec.state, dec.buffer, dec.state.failed⟩

theorem decodeLoop_nil (rounds : ℕ)
    (d : DecoderState) : decodeLoop cfg rounds d [] = (d, [], []) := by
  cases rounds with
  | zero => rfl
  | succ n => simp [decodeLoop, decodeOne, readBasicHeader]

theorem decodeLoop_succ (rounds : ℕ) (d : DecoderState) (b : Bytes) :
    decodeLoop cfg (rounds + 1) d b = match decoderAttempt cfg d b with
      | .needMore d' => (d', b, [])
      | .consumed d' r o =>
        ((decodeLoop cfg rounds d' r).1, (decodeLoop cfg rounds d' r).2.1,
          o ++ (decodeLoop cfg rounds d' r).2.2)
      | .stopped d' o => (d', [], o) := by
  rw [decodeLoop, decoderAttempt, decodeOne]
  cases readBasicHeader b with
  | none => rfl
  | some header =>
    by_cases hlen : b.length < header.len + messageHeaderLen header.fmt
    · simp only [if_pos hlen]
      rfl
    · simp only [if_neg hlen]
      cases openStream cfg d header with
      | error msg => rfl
      | ok entry =>
        simp only [decodeOnStream]
        cases resolveChunk cfg entry.1.inputChunkSize entry.2 header b with
        | insufficientData | failed => rfl
        | resolved chunk =>
          dsimp only [commitChunk, DecodeStep.toAttempt]
          generalize (b.drop chunk.totalHeaderLen).take chunk.payloadSlice = slice
          have hne := commitPayload_result_ne cfg entry.1 header.csid entry.2 chunk slice
          have hconsumed := @commitPayload_consumed cfg entry.2 chunk entry.1 header.csid slice
          generalize commitPayload cfg entry.1 header.csid entry.2 chunk slice = committed
            at hne hconsumed ⊢
          obtain ⟨result, d', events⟩ := committed
          cases hfail : d'.failed with
          | false =>
            obtain rfl := hconsumed hfail
            rfl
          | true =>
            -- a failing round that reports its chunk as consumed is followed by
            -- one on the empty buffer
            cases result with
            | insufficientData => exact absurd rfl hne
            | consumed => simp [decodeLoop_nil]
            | failed => rfl

/-- With a round for every byte and one more, the loop is the drain of the
machine, and the machine has stopped exactly when the decoder has failed. -/
theorem decodeLoop_eq_drain (d : DecoderState) (b : Bytes) (rounds : ℕ) (hd : d.failed = false)
    (hrnds : b.length < rounds) :
    decodeLoop cfg rounds d b = ((drain (decoderMachine cfg) d b).1.state,
          (drain (decoderMachine cfg) d b).1.buffer,
          (drain (decoderMachine cfg) d b).2) ∧
      (drain (decoderMachine cfg) d b).1.stopped =
        (drain (decoderMachine cfg) d b).1.state.failed := by
  induction rounds generalizing d b with
  | zero => omega
  | succ rounds ih =>
    have hattempted := decoderAttempt_attempted cfg d b
    have hmachine : (decoderMachine cfg).attempt d b = decoderAttempt cfg d b := rfl
    rw [decodeLoop_succ, drain_eq, hmachine]
    generalize hatt : decoderAttempt cfg d b = attempt at hattempted ⊢
    cases hattempted with
    | short _ => exact ⟨rfl, hd.symm⟩
    | waits _ hopen _ => exact ⟨rfl, ((openStream_failed hopen).trans hd).symm⟩
    | refused _ _ | malformed _ _ _ => exact ⟨rfl, (fail_failed _ _ _).symm⟩
    | overruns _ _ _ _ hfail => exact ⟨rfl, hfail.symm⟩
    | commits _ _ _ _ hrun =>
      have hshort := decoderAttempt_rest_shorter hatt
      obtain ⟨hloop, hstop⟩ := ih _ _ hrun (hshort.trans_le (Nat.le_of_lt_succ hrnds))
      exact ⟨by simp [hloop], hstop⟩

theorem onBytesReceived_eq_feed (dec : ChunkDecoder) (data : Bytes) :
    (onBytesReceived cfg dec data).1.config = (feed (decoderMachine cfg) dec.config data).1 ∧
      (onBytesReceived cfg dec data).2 = (feed (decoderMachine cfg) dec.config data).2 := by
  by_cases hskip : dec.state.failed = true ∨ data = []
  · rw [feed_of_skipped hskip, onBytesReceived, if_pos hskip]
    exact ⟨rfl, rfl⟩
  · have hfail : dec.state.failed = false := by
      simpa using fun h => hskip (Or.inl h)
    obtain ⟨hloop, hstop⟩ := decodeLoop_eq_drain cfg dec.state
      (dec.buffer ++ data) ((dec.buffer ++ data).length + 1) hfail (by omega)
    have hdata : data ≠ [] := fun h => hskip (Or.inr h)
    rw [feed_of_running hfail hdata, onBytesReceived, if_neg hskip]
    simp only [ChunkDecoder.config, hloop]
    exact ⟨by rw [← hstop], trivial⟩

theorem onBytesReceivedAll_eq_feedAll (dec : ChunkDecoder) (pieces : List Bytes) :
    (onBytesReceivedAll cfg dec pieces).1.config =
        (feedAll (decoderMachine cfg) dec.config pieces).1 ∧
      (onBytesReceivedAll cfg dec pieces).2 =
        (feedAll (decoderMachine cfg) dec.config pieces).2 := by
  induction pieces generalizing dec with
  | nil => exact ⟨rfl, rfl⟩
  | cons data rest ih =>
    obtain ⟨hcfg, hevents⟩ := onBytesReceived_eq_feed cfg dec data
    obtain ⟨hcfg', hevents'⟩ := ih (onBytesReceived cfg dec data).1
    rw [hcfg] at hcfg' hevents'
    simp [onBytesReceivedAll, feedAll, hcfg', hevents', hevents]

theorem onBytesReceived_fresh (data : Bytes) :
    (onBytesReceived cfg {} data).1.config = (drain (decoderMachine cfg) {} data).1 ∧
      (onBytesReceived cfg {} data).2 = (drain (decoderMachine cfg) {} data).2 := by
  by_cases hdata : data = []
  · rw [hdata, drain_nil]
    exact ⟨rfl, rfl⟩
  · obtain ⟨hcfg, hevents⟩ := onBytesReceived_eq_feed cfg {} data
    rw [feed_of_running rfl hdata] at hcfg hevents
    exact ⟨hcfg, hevents⟩

end RtmpCore.Chunk
