import Mathlib.Data.Nat.Notation

/-!
# Chunk-stream constants and messages
-/

namespace RtmpCore.Chunk

def kDefaultChunkSize : ℕ := 128

def kExtendedTimestampMarker : UInt32 := 0x00FFFFFF

def kProtocolControlChunkStreamId : UInt32 := 2

def kProtocolControlMessageStreamId : UInt32 := 0

/-- Message types named by the chunk layer.  Everything else is an opaque
payload for it. -/
inductive MessageTypeId where
  | setChunkSize
  | abortMessage
  | acknowledgement
  | userControlMessage
  | windowAcknowledgementSize
  | setPeerBandwidth
  | audio
  | video
  | amf3Data
  | amf3SharedObject
  | amf3Command
  | amf0Data
  | amf0SharedObject
  | amf0Command
  | aggregate
deriving DecidableEq

/-- The type byte on the wire. -/
def MessageTypeId.code : MessageTypeId → UInt8
  | .setChunkSize => 1
  | .abortMessage => 2
  | .acknowledgement => 3
  | .userControlMessage => 4
  | .windowAcknowledgementSize => 5
  | .setPeerBandwidth => 6
  | .audio => 8
  | .video => 9
  | .amf3Data => 15
  | .amf3SharedObject => 16
  | .amf3Command => 17
  | .amf0Data => 18
  | .amf0SharedObject => 19
  | .amf0Command => 20
  | .aggregate => 22

/-- One reassembled message with the header fields in effect when reassembly
completed.  The timestamp is absolute and wraps at `2 ^ 32`. -/
structure RtmpMessage where
  chunkStreamId : UInt32 := 0
  messageStreamId : UInt32 := 0
  messageTypeId : UInt8 := 0
  timestamp : UInt32 := 0
  payload : List UInt8 := []
deriving DecidableEq

end RtmpCore.Chunk
