import RtmpCore.Core.ByteOrder

/-!
# Classifying media payloads

The first bytes of a video or audio message say which codec it carries and
whether it is a keyframe or a decoder configuration.  Video tags come in the
classic form and in the Enhanced RTMP form, which has the top bit of the first
byte set and names its codec by a FourCC.
-/

namespace RtmpCore.Media

open RtmpCore.Core

/-- The frame type field of a video tag.  Each enumeration here has a last
case for the codes its field can hold without a name. -/
inductive VideoFrameType where
  | unknown | keyFrame | interFrame | disposableInterFrame | generatedKeyFrame
  | videoInfoOrCommand
  | other (code : UInt8)
deriving DecidableEq

variable (code : UInt8)

def VideoFrameType.ofCode : VideoFrameType :=
  match code with
  | 0 => .unknown
  | 1 => .keyFrame
  | 2 => .interFrame
  | 3 => .disposableInterFrame
  | 4 => .generatedKeyFrame
  | 5 => .videoInfoOrCommand
  | code => .other code

inductive VideoCodec where
  | unknown | sorensonH263 | screenVideo | on2Vp6 | on2Vp6WithAlpha
  | screenVideo2 | avc | hevc
  | other (code : UInt8)
deriving DecidableEq

def VideoCodec.ofCode : VideoCodec :=
  match code with
  | 2 => .sorensonH263
  | 3 => .screenVideo
  | 4 => .on2Vp6
  | 5 => .on2Vp6WithAlpha
  | 6 => .screenVideo2
  | 7 => .avc
  | 12 => .hevc
  | 0xFF => .unknown
  | code => .other code

inductive AvcPacketType where
  | sequenceHeader | nalu | endOfSequence
  | other (code : UInt8)
deriving DecidableEq

def AvcPacketType.ofCode : AvcPacketType :=
  match code with
  | 0 => .sequenceHeader
  | 1 => .nalu
  | 2 => .endOfSequence
  | code => .other code

/-- The packet types of the Enhanced RTMP video header. -/
inductive ExVideoPacketType where
  | sequenceStart | codedFrames | sequenceEnd | codedFramesX | metadata
  | mpeg2TsSequenceStart
  | other (code : UInt8)
deriving DecidableEq

def ExVideoPacketType.ofCode : ExVideoPacketType :=
  match code with
  | 0 => .sequenceStart
  | 1 => .codedFrames
  | 2 => .sequenceEnd
  | 3 => .codedFramesX
  | 4 => .metadata
  | 5 => .mpeg2TsSequenceStart
  | code => .other code

inductive AudioCodec where
  | unknown | linearPcmPlatformEndian | adpcm | mp3 | linearPcmLittleEndian
  | nellymoser16kHzMono | nellymoser8kHzMono | nellymoser | g711ALaw
  | g711MuLaw | aac | speex | mp3At8kHz
  | other (code : UInt8)
deriving DecidableEq

def AudioCodec.ofCode : AudioCodec :=
  match code with
  | 0 => .linearPcmPlatformEndian
  | 1 => .adpcm
  | 2 => .mp3
  | 3 => .linearPcmLittleEndian
  | 4 => .nellymoser16kHzMono
  | 5 => .nellymoser8kHzMono
  | 6 => .nellymoser
  | 7 => .g711ALaw
  | 8 => .g711MuLaw
  | 10 => .aac
  | 11 => .speex
  | 14 => .mp3At8kHz
  | 0xFF => .unknown
  | code => .other code

inductive AacPacketType where
  | sequenceHeader | raw
  | other (code : UInt8)
deriving DecidableEq

def AacPacketType.ofCode : AacPacketType :=
  match code with
  | 0 => .sequenceHeader
  | 1 => .raw
  | code => .other code

/-- A classified video tag.  `fourcc` and `exPacketType` belong to the enhanced
form, `avcPacketType` to the classic one. -/
structure VideoTagInfo where
  frameType : VideoFrameType := .unknown
  codec : VideoCodec := .unknown
  avcPacketType : Option AvcPacketType := none
  enhanced : Bool := false
  fourcc : UInt32 := 0
  exPacketType : Option ExVideoPacketType := none
deriving DecidableEq

structure AudioTagInfo where
  codec : AudioCodec := .unknown
  aacPacketType : Option AacPacketType := none
deriving DecidableEq

def kVideoFourCcHevc : UInt32 := 0x68766331

/-- The classification of a video payload, or nothing for an empty one. -/
def classifyVideoTag (payload : Bytes) : Option VideoTagInfo :=
  if payload = [] then none
  else
    let tag := byteAt payload 0
    if tag &&& 0x80 ≠ 0 then
      let info : VideoTagInfo :=
        { enhanced := true
          frameType := .ofCode ((tag >>> 4) &&& 0x07)
          exPacketType := some (.ofCode (tag &&& 0x0F)) }
      if payload.length < 5 then some info
      else
        let fourcc := readU32BeAt payload 1
        some { info with
          fourcc
          codec := if fourcc = kVideoFourCcHevc then .hevc else info.codec }
    else
      let codec := VideoCodec.ofCode (tag &&& 0x0F)
      some
        { frameType := .ofCode (tag >>> 4)
          codec
          avcPacketType :=
            if (codec = .avc ∨ codec = .hevc) ∧ 1 < payload.length then
              some (.ofCode (byteAt payload 1))
            else none }

def classifyAudioTag (payload : Bytes) : Option AudioTagInfo :=
  if payload = [] then none
  else
    let codec := AudioCodec.ofCode (byteAt payload 0 >>> 4)
    some
      { codec
        aacPacketType :=
          if codec = .aac ∧ 1 < payload.length then some (.ofCode (byteAt payload 1))
          else none }

end RtmpCore.Media
