import RtmpCore.Chunk.Decoder
import RtmpCore.Chunk.Encoder
import RtmpCore.Live.Types

/-!
# Connections and their protocol sessions

A connection queues what is to be written and takes it off as the kernel
accepts it.  A write that does not fit is not dropped: the encoder has already
moved on, so the connection is closed instead.

The protocol session of a connection keeps the decoder and the encoder and two
flags: `failed` once the peer's chunk stream was malformed, `closed` once the
connection has gone.
-/

namespace RtmpCore.Net

open RtmpCore.Core Chunk Live

/-! ## The transport -/

inductive ConnectionState where
  | accepted | handshaking | connected | authenticating | publishing | playing
  | closing | closed | failed
deriving DecidableEq

/-- A limit of 0 is no limit. -/
structure TcpConnection where
  clientIp : Bytes
  maxWriteQueueBytes : ℕ
  maxWriteQueuePackets : ℕ
  state : ConnectionState := .accepted
  writeQueue : List Bytes := []
  frontOffset : ℕ := 0
  queuedBytes : ℕ := 0
  sendInFlight : Bool := false
deriving DecidableEq

namespace TcpConnection

variable (t : TcpConnection)

def isOpen : Bool := t.state ≠ .closed

/-- The connection is going or gone: nothing is written to it any more. -/
def isGoing : Bool := t.state = .closed || t.state = .closing

/-- There is no room in the write queue for a buffer of the size. -/
def overflows (size : ℕ) : Bool :=
  (t.maxWriteQueueBytes ≠ 0 &&
    t.maxWriteQueueBytes - min t.queuedBytes t.maxWriteQueueBytes < size) ||
  (t.maxWriteQueuePackets ≠ 0 && t.maxWriteQueuePackets ≤ t.writeQueue.length)

def enqueue (buffer : Bytes) : TcpConnection :=
  { t with
    queuedBytes := t.queuedBytes + buffer.length
    writeQueue := t.writeQueue ++ [buffer]
    sendInFlight := true }

/-- The kernel has accepted some bytes of the front buffer, or none because
the send failed. -/
def onSendCompletion (bytesSent : ℕ) (success : Bool) : TcpConnection :=
  let advanced : TcpConnection :=
    match t.writeQueue with
    | front :: rest =>
      if success then
        let accepted := min bytesSent (front.length - t.frontOffset)
        let kept : TcpConnection :=
          { t with
            frontOffset := t.frontOffset + accepted
            queuedBytes := t.queuedBytes - min t.queuedBytes accepted }
        if front.length ≤ kept.frontOffset then { kept with writeQueue := rest, frontOffset := 0 }
        else kept
      else { t with frontOffset := 0 }
    | [] => if success then t else { t with frontOffset := 0 }
  { advanced with sendInFlight := advanced.writeQueue ≠ [] }

end TcpConnection

/-! ## The protocol session -/

structure RtmpConnectionSession where
  maxMessageSize : UInt32
  outputChunkSize : UInt32
  encoder : ChunkEncoder
  decoder : ChunkDecoder := {}
  failed : Bool := false
  closed : Bool := false

/-- The bytes of a media frame with a header of its own. -/
def wireBytes (chunkSize : UInt32) (frame : SharedMediaFrame)
    (chunkStreamId messageStreamId : UInt32) : Bytes :=
  ((({} : ChunkEncoder).setChunkSize chunkSize).encodeMessage
    { chunkStreamId
      messageStreamId
      messageTypeId := frame.messageTypeId
      timestamp := frame.timestamp
      payload := frame.payload }).2

def kUserControlPingRequest : UInt16 := 6
def kUserControlPingResponse : UInt16 := 7

def makeUserControl (event : UInt16) (value : UInt32) : RtmpMessage :=
  { chunkStreamId := kProtocolControlChunkStreamId
    messageStreamId := kProtocolControlMessageStreamId
    messageTypeId := MessageTypeId.userControlMessage.code
    payload := writeU16Be event ++ writeU32Be value }

/-- A ping of the peer is answered with its timestamp. -/
def handleUserControl (message : RtmpMessage) : Option RtmpMessage :=
  if message.payload.length < 2 then none
  else if readU16Be (byteAt message.payload 0) (byteAt message.payload 1) ≠
      kUserControlPingRequest then none
  else if message.payload.length < 6 then none
  else some (makeUserControl kUserControlPingResponse (readU32BeAt message.payload 2))

/-- What the session does with a decoded message. -/
inductive Handling where
  | userControl
  | ignore
  | command
deriving DecidableEq

def handlingOf (message : RtmpMessage) : Handling :=
  if message.messageStreamId = kProtocolControlMessageStreamId ∧
      message.messageTypeId = MessageTypeId.userControlMessage.code then
    .userControl
  else if message.messageStreamId = kProtocolControlMessageStreamId ∧
      (message.messageTypeId = MessageTypeId.setPeerBandwidth.code ∨
        message.messageTypeId = MessageTypeId.acknowledgement.code) then .ignore
  else .command

namespace RtmpConnectionSession

variable (session : RtmpConnectionSession)

def decoderConfig : ChunkDecoderConfig := { maxMessageSize := session.maxMessageSize }

/-- A new session.  The encoder's chunk size is positive. -/
def create (maxMessageSize outputChunkSize : UInt32) : RtmpConnectionSession :=
  { maxMessageSize, outputChunkSize, encoder := ({} : ChunkEncoder).setChunkSize outputChunkSize }

/-- The announcement of the chunk size that `start` sends, unless the size is
the default one. -/
def startMessage : Option RtmpMessage :=
  if session.outputChunkSize.toNat = kDefaultChunkSize then none
  else
    some
      { chunkStreamId := kProtocolControlChunkStreamId
        messageStreamId := kProtocolControlMessageStreamId
        messageTypeId := MessageTypeId.setChunkSize.code
        payload := writeU32Be session.outputChunkSize }

def start : RtmpConnectionSession × Option Bytes :=
  match session.startMessage with
  | none => (session, none)
  | some message =>
    let encoded := session.encoder.encodeMessage message
    ({ session with encoder := encoded.1 }, some encoded.2)

def dueAcknowledgement : Option RtmpMessage :=
  if session.decoder.acknowledgementDue then
    some
      { chunkStreamId := kProtocolControlChunkStreamId
        messageStreamId := kProtocolControlMessageStreamId
        messageTypeId := MessageTypeId.acknowledgement.code
        payload := writeU32Be session.decoder.bytesReceived.toUInt32 }
  else none

def markAcknowledged : RtmpConnectionSession :=
  { session with
    decoder := { session.decoder with bytesAtLastAck := session.decoder.bytesReceived } }

/-- The session no longer sends anything. -/
def isMute : Bool := session.failed || session.closed

end RtmpConnectionSession

end RtmpCore.Net
