import RtmpCore.Media.H264

/-!
# AAC in FLV audio payloads

An audio payload has a header byte and, for AAC, a packet type byte.  The body
is an AudioSpecificConfig or a raw frame.
-/

namespace RtmpCore.Media.Aac

open RtmpCore.Core

def soundFormatAac : UInt8 := 10
def aacPacketTypeSequenceHeader : UInt8 := 0

def samplingFrequencies : List UInt32 :=
  [96000, 88200, 64000, 48000, 44100, 32000, 24000, 22050, 16000, 12000, 11025, 8000, 7350]

structure AudioSpecificConfig where
  objectType : UInt8 := 2
  samplingFrequencyIndex : UInt8 := 4
  channelConfiguration : UInt8 := 2
deriving DecidableEq

def AudioSpecificConfig.sampleRate (config : AudioSpecificConfig) : UInt32 :=
  samplingFrequencies.getD config.samplingFrequencyIndex.toNat 0

structure AudioTag where
  soundFormat : UInt8
  aacPacketType : UInt8
  body : Bytes
deriving DecidableEq

def parseAudioTag : Bytes → Except Error AudioTag
  | header :: packetType :: body =>
    let soundFormat := (header >>> 4) &&& 0x0F
    if soundFormat ≠ soundFormatAac then
      .error (malformed
        "unsupported FLV sound format (HLS passthrough requires AAC)")
    else .ok { soundFormat, aacPacketType := packetType, body }
  | _ => .error (malformed "FLV audio payload shorter than 2 bytes")

/-- The object type, sampling frequency index and channel configuration.  The
object type 31 is an escape: six more bits of it follow, and the other two
fields move by six bits. -/
def audioSpecificFields (config : Bytes) : Except Error (UInt32 × UInt32 × UInt32) :=
  let b₀ := (byteAt config 0).toUInt32
  let b₁ := (byteAt config 1).toUInt32
  let objectType := (b₀ >>> 3) &&& 0x1F
  if objectType = 31 then
    if config.length < 3 then .error (malformed "truncated extended AudioSpecificConfig")
    else
      let bits := (b₀ <<< 16) ||| (b₁ <<< 8) ||| (byteAt config 2).toUInt32
      .ok ((32 : UInt32) + ((bits >>> 13) &&& 0x3F), (bits >>> 9) &&& 0x0F, (bits >>> 5) &&& 0x0F)
  else .ok (objectType, ((b₀ &&& 0x07) <<< 1) ||| ((b₁ >>> 7) &&& 0x01), (b₁ >>> 3) &&& 0x0F)

def parseAudioSpecificConfig (config : Bytes) : Except Error AudioSpecificConfig := do
  if config.length < 2 then throw (malformed "AudioSpecificConfig shorter than 2 bytes")
  let (objectType, samplingFrequencyIndex, channelConfiguration) ← audioSpecificFields config
  if samplingFrequencies.length ≤ samplingFrequencyIndex.toNat then
    throw (malformed "unsupported AAC sampling frequency index")
  if objectType = 0 then throw (malformed "invalid AAC object type")
  return {
    objectType := objectType.toUInt8
    samplingFrequencyIndex := samplingFrequencyIndex.toUInt8
    channelConfiguration := channelConfiguration.toUInt8 }

theorem parseAudioSpecificConfig_eq_ok {record : Bytes} {config : AudioSpecificConfig}
    (h : parseAudioSpecificConfig record = .ok config) :
    ∃ objectType index channels, audioSpecificFields record = .ok (objectType, index, channels) ∧
      index.toUInt8.toNat < 13 ∧
      config = ⟨objectType.toUInt8, index.toUInt8, channels.toUInt8⟩ := by
  unfold parseAudioSpecificConfig at h
  split at h
  · cases h
  obtain ⟨⟨objectType, index, channels⟩, hfields, h⟩ := Core.bind_eq_ok.mp h
  dsimp only at h
  split at h
  · cases h
  next hidx =>
  split at h
  · cases h
  have hlt : index.toUInt8.toNat < 13 := lt_of_le_of_lt (Nat.mod_le _ _) (not_le.mp hidx)
  exact ⟨objectType, index, channels, hfields, hlt, (Except.ok.inj h).symm⟩

end RtmpCore.Media.Aac
