import RtmpCore.Core.ByteOrder
import RtmpCore.Core.Error
import RtmpCore.Chunk.Types
import Mathlib.Data.List.AList

/-!
# The chunk decoder

`decodeOne` looks at the chunk at the front of the input buffer.  It first
resolves the chunk's header against the state of its chunk stream, without
changing that state, and commits header and payload only when the whole chunk
is in the buffer.  The one thing it does earlier is to create the entry of a
chunk stream it sees for the first time.

Message lengths and chunk sizes are natural numbers: the length field has 24
bits, the announced chunk size has 31, and a remaining length is only ever
decreased by at most itself.  The count of buffered payload bytes is a 64-bit
word with its wrap-around.
-/

namespace RtmpCore.Chunk

open RtmpCore.Core

/-- Reassembly bounds of one connection. -/
structure ChunkDecoderLimits where
  maxChunkStreams : UInt32 := 64
  maxBufferedPayloadBytes : UInt64 := 2 * 10 * 1024 * 1024
  maxChunkSize : UInt32 := 0xFFFFFF
deriving DecidableEq

structure ChunkDecoderConfig where
  maxMessageSize : UInt32
  limits : ChunkDecoderLimits := {}
deriving DecidableEq

/-- Header and reassembly state of one chunk stream. -/
structure ChunkStreamState where
  hasHeader : Bool := false
  timestamp : UInt32 := 0
  timestampDelta : UInt32 := 0
  messageLength : ℕ := 0
  messageTypeId : UInt8 := 0
  messageStreamId : UInt32 := 0
  extendedTimestamp : Bool := false
  partialPayload : Bytes := []
  bytesRemaining : ℕ := 0
  messageTimestamp : UInt32 := 0
deriving DecidableEq

variable (cfg : ChunkDecoderConfig) (d : DecoderState) (csid : UInt32) (state : ChunkStreamState)
  (chunk : ResolvedChunk) (buffer slice : Bytes)

/-- A message has been started on the chunk stream and is not complete. -/
def ChunkStreamState.inProgress : Bool := state.hasHeader && decide (0 < state.bytesRemaining)

abbrev ChunkStreamTable := AList fun _ : UInt32 => ChunkStreamState

/-- Everything the decoder keeps apart from the raw input buffer and the byte
counters of the acknowledgement window. -/
structure DecoderState where
  streams : ChunkStreamTable := ∅
  inputChunkSize : ℕ := kDefaultChunkSize
  bufferedPayloadBytes : UInt64 := 0
  windowAckSize : UInt32 := 0
  failed : Bool := false
deriving DecidableEq

inductive DecodeResult where
  | consumed
  | insufficientData
  | failed
deriving DecidableEq

inductive DecoderEvent where
  | message (message : RtmpMessage)
  | error (error : Error)
deriving DecidableEq

/-- The outcome of `decodeOne`: its result, the state and buffer it leaves and
the handler calls it made. -/
structure DecodeStep where
  result : DecodeResult
  state : DecoderState
  buffer : Bytes
  events : List DecoderEvent
deriving DecidableEq

/-- Enter the failed state.  The caller clears the input buffer with it. -/
def fail (code : ErrorCode) (message : String) : DecoderState × List DecoderEvent :=
  if d.failed then (d, [])
  else
    ({ d with failed := true, streams := ∅, bufferedPayloadBytes := 0 },
      [.error ⟨code, .protocol, message⟩])

@[simp] theorem fail_failed (code : ErrorCode)
    (msg : String) : (fail d code msg).1.failed = true := by
  unfold fail
  split
  · assumption
  · rfl

/-! ## Reading a chunk header -/

structure BasicHeader where
  fmt : UInt8
  csid : UInt32
  len : ℕ
deriving DecidableEq

def basicHeaderLen (csidField : UInt8) : ℕ :=
  if csidField = 0 then 2 else if csidField = 1 then 3 else 1

/-- The chunk stream id of a basic header in its one, two or three byte
form. -/
def basicHeaderCsid (csidField : UInt8) (buffer : Bytes) : UInt32 :=
  if csidField = 0 then 64 + (byteAt buffer 1).toUInt32
  else if csidField = 1 then 64 + (byteAt buffer 1).toUInt32 + (byteAt buffer 2).toUInt32 * 256
  else csidField.toUInt32

/-- The basic header at the front of the buffer, if it is complete. -/
def readBasicHeader : Option BasicHeader :=
  if buffer = [] then none
  else
    let first := byteAt buffer 0
    let fmt := (first >>> 6) &&& 0x03
    let csidField := first &&& 0x3F
    let len := basicHeaderLen csidField
    if buffer.length < len then none
    else some ⟨fmt, basicHeaderCsid csidField buffer, len⟩

def messageHeaderLen (fmt : UInt8) : ℕ :=
  if fmt = 0 then 11 else if fmt = 1 then 7 else if fmt = 2 then 3 else 0

/-- The effective header fields of a chunk that is wholly in the buffer. -/
structure ResolvedChunk where
  totalHeaderLen : ℕ
  needsExtended : Bool
  startingNewMessage : Bool
  effectiveLength : ℕ
  effectiveTypeId : UInt8
  effectiveStreamId : UInt32
  effectiveTimestamp : UInt32
  effectiveDelta : UInt32
  payloadSlice : ℕ
deriving DecidableEq

inductive Resolution where
  | insufficientData
  | failed (code : ErrorCode) (message : String)
  | resolved (chunk : ResolvedChunk)
deriving DecidableEq

/-- The 24-bit timestamp field: absolute in a type 0 header, a delta in types
1 and 2, absent in type 3. -/
def rawTsField (header : BasicHeader) (buffer : Bytes) : UInt32 :=
  if header.fmt = 0 ∨ header.fmt = 1 ∨ header.fmt = 2 then readU24BeAt buffer header.len
  else 0

/-- Whether a four byte extended timestamp follows the message header.  A type
3 chunk repeats the field for as long as its chunk stream uses it. -/
def needsExtended (header : BasicHeader) (buffer : Bytes) : Bool :=
  if header.fmt = 3 then state.extendedTimestamp
  else rawTsField header buffer == kExtendedTimestampMarker

/-- The delta a chunk that starts a message applies. -/
def effectiveDelta (header : BasicHeader)
    (needsExt : Bool) (extendedValue rawTs : UInt32) : UInt32 :=
  if header.fmt = 0 then 0
  else if header.fmt = 3 then if needsExt then extendedValue else state.timestampDelta
  else if needsExt then extendedValue else rawTs

/-- The absolute timestamp of a message started by the chunk. -/
def effectiveTimestamp (header : BasicHeader)
    (needsExt : Bool) (extendedValue rawTs : UInt32) : UInt32 :=
  if header.fmt = 0 then if needsExt then extendedValue else rawTs
  else state.timestamp + effectiveDelta state header needsExt extendedValue rawTs

/-- Types 0 and 1 carry a message length; the others inherit it. -/
def headerMessageLength (header : BasicHeader) (buffer : Bytes) : ℕ :=
  if header.fmt = 0 ∨ header.fmt = 1 then (readU24BeAt buffer (header.len + 3)).toNat
  else state.messageLength

def headerMessageTypeId (header : BasicHeader) (buffer : Bytes) : UInt8 :=
  if header.fmt = 0 ∨ header.fmt = 1 then byteAt buffer (header.len + 6)
  else state.messageTypeId

/-- Only type 0 carries a message stream id. -/
def headerMessageStreamId (header : BasicHeader) (buffer : Bytes) : UInt32 :=
  if header.fmt = 0 then readU32LeAt buffer (header.len + 7)
  else state.messageStreamId

def totalHeaderLen (header : BasicHeader) (buffer : Bytes) : ℕ :=
  header.len + messageHeaderLen header.fmt + if needsExtended state header buffer then 4 else 0

def extendedValue (header : BasicHeader) (buffer : Bytes) : UInt32 :=
  if needsExtended state header buffer then
    readU32BeAt buffer (header.len + messageHeaderLen header.fmt)
  else 0

def payloadSlice (inputChunkSize : ℕ) (state : ChunkStreamState)
    (header : BasicHeader) (buffer : Bytes) : ℕ :=
  min (if state.inProgress then state.bytesRemaining else headerMessageLength state header buffer)
    inputChunkSize

/-- Resolve the chunk at the front of the buffer against the state of its
chunk stream.  Basic and message header are known to be in the buffer. -/
def resolveChunk (inputChunkSize : ℕ)
    (state : ChunkStreamState) (header : BasicHeader) (buffer : Bytes) : Resolution :=
  if header.fmt ≠ 3 ∧ state.inProgress = true then
    .failed .malformedChunk
      "non-fmt3 chunk received while a message on this chunk stream ID is still in progress"
  else if buffer.length < totalHeaderLen state header buffer then .insufficientData
  else if state.inProgress = false ∧
      cfg.maxMessageSize.toNat < headerMessageLength state header buffer then
    .failed .messageTooLarge
      "RTMP message length exceeds the configured maximum"
  else if buffer.length < totalHeaderLen state header buffer +
      payloadSlice inputChunkSize state header buffer then
    .insufficientData
  else
    .resolved
      { totalHeaderLen := totalHeaderLen state header buffer
        needsExtended := needsExtended state header buffer
        startingNewMessage := !state.inProgress
        effectiveLength := headerMessageLength state header buffer
        effectiveTypeId := headerMessageTypeId state header buffer
        effectiveStreamId := headerMessageStreamId state header buffer
        effectiveTimestamp :=
          effectiveTimestamp state header (needsExtended state header buffer)
            (extendedValue state header buffer) (rawTsField header buffer)
        effectiveDelta :=
          effectiveDelta state header (needsExtended state header buffer)
            (extendedValue state header buffer) (rawTsField header buffer)
        payloadSlice := payloadSlice inputChunkSize state header buffer }

/-! ## Committing a chunk -/

/-- Install the header of a message the chunk starts. -/
def ChunkStreamState.beginMessage : ChunkStreamState :=
  if chunk.startingNewMessage then
    { state with
      hasHeader := true
      messageLength := chunk.effectiveLength
      messageTypeId := chunk.effectiveTypeId
      messageStreamId := chunk.effectiveStreamId
      timestamp := chunk.effectiveTimestamp
      timestampDelta := chunk.effectiveDelta
      extendedTimestamp := chunk.needsExtended
      messageTimestamp := chunk.effectiveTimestamp
      partialPayload := []
      bytesRemaining := chunk.effectiveLength }
  else state

def ChunkStreamState.appendPayload : ChunkStreamState :=
  { state with
    partialPayload := state.partialPayload ++ slice
    bytesRemaining := state.bytesRemaining - slice.length }

/-- The effect of a protocol-control message.  The flag says that the message
is handled here and not delivered. -/
def handleProtocolControl (message : RtmpMessage) : Bool × DecoderState × List DecoderEvent :=
  if message.messageStreamId ≠ kProtocolControlMessageStreamId then (false, d, [])
  else if message.messageTypeId = MessageTypeId.setChunkSize.code then
    if message.payload.length < 4 then
      (true, fail d .malformedChunk "Set Chunk Size payload must be 4 bytes")
    else
      let value := readU32BeAt message.payload 0 &&& 0x7FFFFFFF
      if value = 0 then (true, fail d .malformedChunk "Set Chunk Size must not be zero")
      else if cfg.limits.maxChunkSize < value then
        (true, fail d .malformedChunk
          "Set Chunk Size exceeds the maximum supported chunk size")
      else (true, { d with inputChunkSize := value.toNat }, [])
  else if message.messageTypeId = MessageTypeId.abortMessage.code then
    if message.payload.length < 4 then
      (true, fail d .malformedChunk "Abort Message payload must be 4 bytes")
    else
      let targetCsid := readU32BeAt message.payload 0
      match d.streams.lookup targetCsid with
      | none => (true, d, [])
      | some target =>
        (true,
          { d with
            bufferedPayloadBytes := d.bufferedPayloadBytes -
              UInt64.ofNat target.partialPayload.length
            streams := d.streams.insert targetCsid
              { target with partialPayload := [], bytesRemaining := 0 } },
          [])
  else if message.messageTypeId = MessageTypeId.windowAcknowledgementSize.code then
    if message.payload.length < 4 then
      (true, fail d .malformedChunk
        "Window Acknowledgement Size payload must be 4 bytes")
    else
      -- still delivered: the session may care too
      (false, { d with windowAckSize := readU32BeAt message.payload 0 }, [])
  else (false, d, [])

/-- The message whose last chunk has been committed to `state`. -/
def ChunkStreamState.completedMessage (csid : UInt32) : RtmpMessage :=
  { chunkStreamId := csid
    messageStreamId := state.messageStreamId
    messageTypeId := state.messageTypeId
    timestamp := state.messageTimestamp
    payload := state.partialPayload }

/-- Apply a completed message, and hand it to the message handler unless it is
handled here. -/
def deliver (message : RtmpMessage) : DecoderState × List DecoderEvent :=
  match handleProtocolControl cfg d message with
  | (true, d', events) => (d', events)
  | (false, d', events) => (d', events ++ [.message message])

/-- The payload leaves the decoder's accounting with the message. -/
def handleCompleteMessage : DecoderState × List DecoderEvent :=
  deliver cfg
    { d with
      bufferedPayloadBytes := d.bufferedPayloadBytes - UInt64.ofNat state.partialPayload.length
      streams := d.streams.insert csid { state with partialPayload := [] } }
    (state.completedMessage csid)

/-- The entry of a chunk stream after a chunk has been appended to it. -/
def ChunkStreamState.commit : ChunkStreamState := (state.beginMessage chunk).appendPayload slice

/-- Account for a chunk's payload and store the entry of its chunk stream.
Starting a message releases what an aborted one may have left. -/
def DecoderState.storePayload : DecoderState :=
  { d with
    bufferedPayloadBytes :=
      (if chunk.startingNewMessage then
          d.bufferedPayloadBytes - UInt64.ofNat state.partialPayload.length
        else d.bufferedPayloadBytes) +
        UInt64.ofNat chunk.payloadSlice
    streams := d.streams.insert csid (state.commit chunk slice) }

/-- Append the payload of a resolved chunk and complete its message if it was
the last one. -/
def commitPayload : DecodeResult × DecoderState × List DecoderEvent :=
  let stored := d.storePayload csid state chunk slice
  if 0 < chunk.payloadSlice ∧ cfg.limits.maxBufferedPayloadBytes < stored.bufferedPayloadBytes then
    (.failed, fail stored .messageTooLarge
      "outstanding RTMP chunk reassembly buffers exceed the per-connection limit")
  else if (state.commit chunk slice).bytesRemaining = 0 then
    (.consumed, handleCompleteMessage cfg stored csid (state.commit chunk slice))
  else (.consumed, stored, [])

/-- Consume the header and payload bytes of a resolved chunk.  Failing clears
the buffer. -/
def commitChunk : DecodeStep :=
  let payload := buffer.drop chunk.totalHeaderLen
  let committed := commitPayload cfg d csid state chunk (payload.take chunk.payloadSlice)
  ⟨committed.1, committed.2.1, if committed.2.1.failed then [] else payload.drop chunk.payloadSlice,
    committed.2.2⟩

/-! ## Decoding -/

/-- Resolve and commit on a chunk stream that has an entry. -/
def decodeOnStream (header : BasicHeader) (buffer : Bytes) : DecodeStep :=
  match resolveChunk cfg d.inputChunkSize state header buffer with
  | .insufficientData => ⟨.insufficientData, d, buffer, []⟩
  | .failed code message =>
    let failure := fail d code message
    ⟨.failed, failure.1, [], failure.2⟩
  | .resolved chunk => commitChunk cfg d header.csid state chunk buffer

/-- Look up the entry of a chunk stream, or create it for a type 0 chunk while
the table has room. -/
def openStream (header : BasicHeader) : Except String (DecoderState × ChunkStreamState) :=
  match d.streams.lookup header.csid with
  | some state => .ok (d, state)
  | none =>
    if header.fmt ≠ 0 then .error "first chunk on a chunk stream ID must use fmt 0"
    else if cfg.limits.maxChunkStreams.toNat ≤ d.streams.keys.length then
      .error "too many concurrent RTMP chunk stream IDs on one connection"
    else .ok ({ d with streams := d.streams.insert header.csid {} }, {})

def decodeOne : DecodeStep :=
  match readBasicHeader buffer with
  | none => ⟨.insufficientData, d, buffer, []⟩
  | some header =>
    if buffer.length < header.len + messageHeaderLen header.fmt then
      ⟨.insufficientData, d, buffer, []⟩
    else
      match openStream cfg d header with
      | .error message =>
        let failure := fail d .malformedChunk message
        ⟨.failed, failure.1, [], failure.2⟩
      | .ok (opened, state) => decodeOnStream cfg opened state header buffer

/-- The loop of `onBytesReceived`.  Every consumed chunk shortens the buffer,
so the buffer's length bounds the number of rounds. -/
def decodeLoop (cfg : ChunkDecoderConfig) : ℕ → DecoderState → Bytes →
      DecoderState × Bytes × List DecoderEvent
  | 0, d, buffer => (d, buffer, [])
  | rounds + 1, d, buffer =>
    let step := decodeOne cfg d buffer
    match step.result with
    | .consumed =>
      let next := decodeLoop cfg rounds step.state step.buffer
      (next.1, next.2.1, step.events ++ next.2.2)
    | .insufficientData => (step.state, step.buffer, step.events)
    | .failed => (step.state, step.buffer, step.events)

structure ChunkDecoder where
  state : DecoderState := {}
  buffer : Bytes := []
  bytesReceived : UInt64 := 0
  bytesAtLastAck : UInt64 := 0
deriving DecidableEq

def ChunkDecoder.acknowledgementDue (dec : ChunkDecoder) : Bool :=
  if dec.state.windowAckSize = 0 then false
  else decide (dec.state.windowAckSize.toUInt64 ≤ dec.bytesReceived - dec.bytesAtLastAck)

def onBytesReceived (dec : ChunkDecoder) (data : Bytes) : ChunkDecoder × List DecoderEvent :=
  if dec.state.failed = true ∨ data = [] then (dec, [])
  else
    let buffer := dec.buffer ++ data
    let looped := decodeLoop cfg (buffer.length + 1) dec.state buffer
    ({ dec with
        state := looped.1
        buffer := looped.2.1
        bytesReceived := dec.bytesReceived + UInt64.ofNat data.length },
      looped.2.2)

def onBytesReceivedAll (cfg : ChunkDecoderConfig) (dec : ChunkDecoder) :
    List Bytes → ChunkDecoder × List DecoderEvent
  | [] => (dec, [])
  | data :: rest =>
    let first := onBytesReceived cfg dec data
    let next := onBytesReceivedAll cfg first.1 rest
    (next.1, first.2 ++ next.2)

/-- The messages handed to the message handler. -/
def deliveredMessages (events : List DecoderEvent) : List RtmpMessage :=
  events.filterMap fun
    | .message message => some message
    | .error _ => none

end RtmpCore.Chunk
