import RtmpCore.Media.Aac

/-!
# The ingest side's reading of an AudioSpecificConfig

The ingest parser reads the same record as the packaging parser, with a table of
sampling frequencies of its own and without the escape of the object type.  Its
table has no entry of 12000 Hz, so that every later rate stands one place early.
-/

namespace RtmpCore.Media

open RtmpCore.Core Aac

/-- Thirteen places, of which the last is not written out. -/
def aacSampleRates : List UInt32 :=
  [96000, 88200, 64000, 48000, 44100, 32000, 24000, 22050, 16000, 11025, 8000, 7350, 0]

def aacSampleRateForIndex (index : UInt8) : UInt32 := aacSampleRates.getD index.toNat 0

structure AacSequenceHeader where
  objectType : UInt8
  samplingFrequencyIndex : UInt8
  samplingFrequency : UInt32
  channelConfiguration : UInt8
  raw : Bytes
deriving DecidableEq

def parseAacSequenceHeader (payload : Bytes) : Except Error AacSequenceHeader :=
  if payload.length < 2 then
    .error (malformed "AudioSpecificConfig shorter than the minimum 2 bytes")
  else
    let b₀ := byteAt payload 0
    let b₁ := byteAt payload 1
    let samplingFrequencyIndex := ((b₀ &&& 0x07) <<< 1) ||| (b₁ >>> 7)
    let header : AacSequenceHeader :=
      { objectType := b₀ >>> 3
        samplingFrequencyIndex
        samplingFrequency := aacSampleRateForIndex samplingFrequencyIndex
        channelConfiguration := (b₁ >>> 3) &&& 0x0F
        raw := payload }
    if header.objectType = 0 then
      .error (malformed "AudioSpecificConfig audioObjectType is 0 (reserved)")
    else .ok header

/-! ## Where the two agree -/

/-- What the two parsers both report. -/
structure Agree (ingest : AacSequenceHeader) (packaging : AudioSpecificConfig) : Prop where
  objectType : ingest.objectType = packaging.objectType
  frequency : ingest.samplingFrequency = packaging.sampleRate
  channels : ingest.channelConfiguration = packaging.channelConfiguration

variable {record : Bytes} {ingest : AacSequenceHeader} {packaging : AudioSpecificConfig}

/-- The sampling frequency index of a record whose object type is not escaped. -/
def plainFrequencyIndex (record : Bytes) : UInt8 :=
  ((byteAt record 0 &&& 0x07) <<< 1) ||| (byteAt record 1 >>> 7)

theorem widened_fields : ∀ b : UInt8, (b.toUInt32 >>> 3) &&& (0x1F : UInt32) = (b >>> 3).toUInt32 ∧
      ((b.toUInt32 &&& 0x07) <<< 1).toUInt8 = (b &&& 0x07) <<< 1 ∧
      ((b.toUInt32 >>> 7) &&& 0x01).toUInt8 = b >>> 7 ∧
      ((b.toUInt32 >>> 3) &&& 0x0F).toUInt8 = (b >>> 3) &&& 0x0F
  | ⟨v⟩ => by
    revert v
    decide

theorem audioSpecificFields_plain (h : byteAt record 0 >>> 3 ≠ 31) :
    ∃ index channels, audioSpecificFields record =
        .ok ((byteAt record 0 >>> 3).toUInt32, index, channels) ∧
      index.toUInt8 = plainFrequencyIndex record ∧
      channels.toUInt8 = (byteAt record 1 >>> 3) &&& 0x0F := by
  obtain ⟨htype, hhigh, -⟩ := widened_fields (byteAt record 0)
  obtain ⟨-, -, hlow, hchannels⟩ := widened_fields (byteAt record 1)
  have hplain : (byteAt record 0 >>> 3).toUInt32 ≠ 31 := fun heq => h (UInt8.toUInt32_inj.mp heq)
  unfold audioSpecificFields
  dsimp only
  rw [htype, if_neg hplain]
  refine ⟨_, _, rfl, ?_, hchannels⟩
  rw [UInt32.toUInt8_or, hhigh, hlow, plainFrequencyIndex]

theorem audioSpecificFields_escaped {objectType index channels : UInt32}
    (h : byteAt record 0 >>> 3 = 31)
    (hfields : audioSpecificFields record = .ok (objectType, index, channels)) :
    objectType.toUInt8 ≠ 31 := by
  have hlarge : ∀ b : UInt8, 32 + (b &&& 0x3F) ≠ 31
    | ⟨v⟩ => by
      revert v
      decide
  obtain ⟨htype, -⟩ := widened_fields (byteAt record 0)
  unfold audioSpecificFields at hfields
  dsimp only at hfields
  rw [htype, h, if_pos (by decide)] at hfields
  split at hfields
  · cases hfields
  obtain ⟨rfl, -⟩ := Prod.mk.inj (Except.ok.inj hfields)
  rw [UInt32.toUInt8_add, UInt32.toUInt8_and]
  exact hlarge _

theorem rates_agree_iff {index : ℕ} (h : index < 13) :
    aacSampleRates.getD index 0 = samplingFrequencies.getD index 0 ↔ index < 9 := by
  decide +revert

/-- The two parsers agree on a record that both accept exactly if its object
type is not escaped and its sampling frequency stands before the missing one. -/
theorem agree_iff (hingest : parseAacSequenceHeader record = .ok ingest)
    (hpackaging : parseAudioSpecificConfig record = .ok packaging) :
    Agree ingest packaging ↔ byteAt record 0 >>> 3 ≠ 31 ∧ plainFrequencyIndex record < 9 := by
  obtain ⟨objectType, index, channels, hfields, hidx, rfl⟩ :=
    parseAudioSpecificConfig_eq_ok hpackaging
  unfold parseAacSequenceHeader at hingest
  split at hingest
  · cases hingest
  dsimp only at hingest
  split at hingest
  · cases hingest
  obtain rfl := Except.ok.inj hingest
  by_cases hescape : byteAt record 0 >>> 3 = 31
  · have hne := audioSpecificFields_escaped hescape hfields
    exact ⟨fun h => absurd (h.objectType.symm.trans hescape) hne, fun h => absurd hescape h.1⟩
  · obtain ⟨_, _, hplain, hindex, hchannels⟩ := audioSpecificFields_plain hescape
    obtain ⟨rfl, rfl, rfl⟩ := Prod.mk.inj (Except.ok.inj (hfields.symm.trans hplain))
    have hrates := rates_agree_iff hidx
    have hrate : aacSampleRateForIndex (plainFrequencyIndex record) =
        aacSampleRates.getD index.toUInt8.toNat 0 := by
      rw [hindex, aacSampleRateForIndex]
    rw [← hindex]
    refine ⟨fun h => ⟨hescape, hrates.mp (hrate.symm.trans h.frequency)⟩, fun h =>
      ⟨(UInt8.toUInt8_toUInt32 _).symm, hrate.trans (hrates.mpr h.2), hchannels.symm⟩⟩

/-- AAC-LC at 44.1 kHz is read alike. -/
theorem agree_at_44100 : Agree ⟨2, 4, 44100, 2, [0x12, 0x10]⟩ {} :=
  (agree_iff (show parseAacSequenceHeader [0x12, 0x10] = _ from rfl) rfl).mpr (by decide)

/-- AAC-LC at 11.025 kHz is not. -/
theorem not_agree_at_11025 : parseAacSequenceHeader [0x15, 0x10] = .ok ⟨2, 10, 8000, 2, [0x15, 0x10]⟩ ∧
    parseAudioSpecificConfig [0x15, 0x10] = .ok ⟨2, 10, 2⟩ ∧
      ¬Agree ⟨2, 10, 8000, 2, [0x15, 0x10]⟩ ⟨2, 10, 2⟩ :=
  ⟨rfl, rfl, fun h => absurd h.frequency (by decide)⟩

end RtmpCore.Media
