import RtmpCore.Core.ByteOrder
import RtmpCore.Chunk.Types
import Mathlib.Data.List.AList

/-!
# The chunk encoder

The encoder keeps the last header it wrote on each chunk stream and picks the
shortest header form that the peer can complete from it.  A payload longer than
the chunk size is continued in type 3 chunks.
-/

namespace RtmpCore.Chunk

open RtmpCore.Core

/-- The last header written on one chunk stream. -/
structure EncoderStreamState where
  hasHeader : Bool := false
  timestamp : UInt32 := 0
  timestampDelta : UInt32 := 0
  messageLength : UInt32 := 0
  messageTypeId : UInt8 := 0
  messageStreamId : UInt32 := 0
  extendedTimestamp : Bool := false
  extendedValue : UInt32 := 0
deriving DecidableEq

/-- The constructor asserts a positive chunk size and `setChunkSize` ignores
zero, so the size is positive throughout. -/
structure ChunkEncoder where
  chunkSize : UInt32 := 128
  streams : AList fun _ : UInt32 => EncoderStreamState := ∅
  chunkSize_pos : 0 < chunkSize := by decide

variable (enc : ChunkEncoder) (plan : HeaderPlan) (message : RtmpMessage)

def ChunkEncoder.setChunkSize (chunkSize : UInt32) : ChunkEncoder :=
  if h : 0 < chunkSize then { enc with chunkSize, chunkSize_pos := h }
  else enc

/-- The one, two or three byte form of the basic header. -/
def writeBasicHeader (fmt : UInt8) (csid : UInt32) : Bytes :=
  let fmtBits := (fmt &&& 0x03) <<< 6
  if csid < 64 then [fmtBits ||| csid.toUInt8]
  else if csid < 64 + 256 then [fmtBits, (csid - 64).toUInt8]
  else
    let remainder := csid - 64
    [fmtBits ||| 0x01, (remainder &&& 0xFF).toUInt8, ((remainder >>> 8) &&& 0xFF).toUInt8]

/-! ## Choosing a header -/

/-- The header form of a message after `state`.  The timestamp of a message
that goes back in time cannot be written as a delta. -/
def chooseFmt (state : EncoderStreamState) (message : RtmpMessage) : UInt8 :=
  let haveValidDelta := state.hasHeader && decide (state.timestamp ≤ message.timestamp)
  if state.hasHeader = false ∨ message.messageStreamId ≠ state.messageStreamId ∨
      haveValidDelta = false then 0
  else if message.payload.length ≠ state.messageLength.toNat ∨
      message.messageTypeId ≠ state.messageTypeId then 1
  else if message.timestamp - state.timestamp ≠ state.timestampDelta then 2
  else 3

/-- What the encoder decides about a message before it writes anything. -/
structure HeaderPlan where
  fmt : UInt8
  delta : UInt32
  extendedActive : Bool
  extendedValue : UInt32
deriving DecidableEq

def planHeader (state : EncoderStreamState) (message : RtmpMessage) : HeaderPlan :=
  let fmt := chooseFmt state message
  let delta := if fmt = 0 then 0 else message.timestamp - state.timestamp
  if fmt = 0 then
    ⟨fmt, delta, decide (kExtendedTimestampMarker ≤ message.timestamp), message.timestamp⟩
  else if fmt = 1 ∨ fmt = 2 then ⟨fmt, delta, decide (kExtendedTimestampMarker ≤ delta), delta⟩
  else
    -- a type 3 header repeats the extended timestamp established before it
    ⟨fmt, delta, state.extendedTimestamp, state.extendedValue⟩

def HeaderPlan.tsField : UInt32 :=
  if plan.extendedActive then kExtendedTimestampMarker
  else if plan.fmt = 0 then message.timestamp
  else plan.delta

def writeMessageHeader (fmt : UInt8) (tsField : UInt32) (message : RtmpMessage) : Bytes :=
  if fmt = 0 then
    writeU24Be tsField ++ (writeU24Be (UInt32.ofNat message.payload.length) ++
        (message.messageTypeId :: writeU32Le message.messageStreamId))
  else if fmt = 1 then
    writeU24Be tsField ++ (writeU24Be (UInt32.ofNat message.payload.length) ++
        [message.messageTypeId])
  else if fmt = 2 then writeU24Be tsField
  else []

def HeaderPlan.extendedField : Bytes :=
  if plan.extendedActive then writeU32Be plan.extendedValue else []

/-- The header recorded for the next message on the chunk stream. -/
def HeaderPlan.record : EncoderStreamState :=
  { hasHeader := true
    timestamp := message.timestamp
    timestampDelta := if plan.fmt = 0 then 0 else plan.delta
    messageLength := UInt32.ofNat message.payload.length
    messageTypeId := message.messageTypeId
    messageStreamId := message.messageStreamId
    extendedTimestamp := plan.extendedActive
    extendedValue := plan.extendedValue }

/-! ## Writing a message -/

/-- The pieces after the first one, each behind a repeated header.  Every piece
takes at least a byte, so the remaining length bounds their number. -/
def continuationChunks (continuationHeader : Bytes) (chunkSize : ℕ) : ℕ → Bytes → Bytes
  | 0, _ => []
  | pieces + 1, rest =>
    if rest = [] then []
    else
      continuationHeader ++ (rest.take chunkSize ++
        continuationChunks continuationHeader chunkSize pieces (rest.drop chunkSize))

def writePayload (continuationHeader : Bytes) (chunkSize : ℕ) (payload : Bytes) : Bytes :=
  payload.take chunkSize ++ continuationChunks continuationHeader chunkSize payload.length
      (payload.drop chunkSize)

def ChunkEncoder.encodeMessage : ChunkEncoder × Bytes :=
  let csid := message.chunkStreamId
  let state := (enc.streams.lookup csid).getD {}
  let plan := planHeader state message
  ({ enc with streams := enc.streams.insert csid (plan.record message) },
    writeBasicHeader plan.fmt csid ++ (writeMessageHeader plan.fmt (plan.tsField message) message ++
        (plan.extendedField ++ writePayload (writeBasicHeader 3 csid ++ plan.extendedField)
            enc.chunkSize.toNat message.payload)))

/-- The Set Chunk Size message the encoder announces a chunk size with. -/
def setChunkSizeMessage (newChunkSize : UInt32) : RtmpMessage :=
  { chunkStreamId := kProtocolControlChunkStreamId
    messageStreamId := kProtocolControlMessageStreamId
    messageTypeId := MessageTypeId.setChunkSize.code
    payload := writeU32Be (newChunkSize &&& 0x7FFFFFFF) }

def ChunkEncoder.encodeSetChunkSize (newChunkSize : UInt32) : ChunkEncoder × Bytes :=
  enc.encodeMessage (setChunkSizeMessage newChunkSize)

/-- Successive calls of `encodeMessage` into one output vector. -/
def ChunkEncoder.encodeMessages (enc : ChunkEncoder) : List RtmpMessage → ChunkEncoder × Bytes
  | [] => (enc, [])
  | message :: rest =>
    let first := enc.encodeMessage message
    let next := first.1.encodeMessages rest
    (next.1, first.2 ++ next.2)

end RtmpCore.Chunk
