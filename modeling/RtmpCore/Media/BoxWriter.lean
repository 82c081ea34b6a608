import RtmpCore.Media.Fmp4
import RtmpCore.Support.Overwrite

/-!
# Writing boxes in place

The multiplexer writes a box in one pass: it writes a zero size, the type and
the body, and patches the size when the box is closed.  The offsets of the media
data are patched in the same way when the size of the `moof` is known.  The
functions here work on the growing buffer as the source does; `box` and `moof`
say what they leave.
-/

namespace RtmpCore.Media.Mp4.InPlace

open RtmpCore.Core List

variable (out : Bytes)

def patchU32 (offset : ℕ) (value : UInt32) : Bytes := overwrite 0 out offset (writeU32Be value)

/-- The buffer behind the header of a new box.  The box starts where the buffer
ended. -/
def openBox (code : String) : Bytes := out ++ (writeU32Be 0 ++ textBytes code)

def closeBox (start : ℕ) : Bytes := patchU32 out start (UInt32.ofNat (out.length - start))

def openFullBox (code : String) (version : UInt8) (flags : UInt32) : Bytes :=
  openBox out code ++ (version :: writeU24Be flags)

/-- One track of a fragment.  The data offset is written as zero; its position,
counted from the start of the `moof`, is returned. -/
def writeTraf (moofStart : ℕ) (trackId : UInt32) (fragment : Fmp4TrackFragment) : Bytes × ℕ :=
  let traf := out.length
  let out := openBox out "traf"
  let tfhd := out.length
  let out := openFullBox out "tfhd" 0 0x020000 ++ writeU32Be trackId
  let out := closeBox out tfhd
  let tfdt := out.length
  let out := openFullBox out "tfdt" 1 0 ++ writeU64Be fragment.baseDecodeTime
  let out := closeBox out tfdt
  let trun := out.length
  let out := openFullBox out "trun" 1 0x000F01 ++ writeU32Be (UInt32.ofNat fragment.samples.length)
  let dataOffsetPosition := out.length - moofStart
  let out := out ++ writeU32Be 0
  let out := fragment.samples.foldl (fun out sample => out ++ trunEntry sample) out
  let out := closeBox out trun
  (closeBox out traf, dataOffsetPosition)

/-- The `moof` with zero data offsets, and their positions. -/
def writeMoof (sequenceNumber : UInt32) (video audio : Fmp4TrackFragment) : Bytes × ℕ × ℕ :=
  let moof := openBox [] "moof"
  let mfhd := moof.length
  let moof := openFullBox moof "mfhd" 0 0 ++ writeU32Be sequenceNumber
  let moof := closeBox moof mfhd
  let (moof, videoOffsetPosition) :=
    if video.empty then (moof, 0) else writeTraf moof 0 videoTrackId video
  let (moof, audioOffsetPosition) :=
    if audio.empty then (moof, 0) else writeTraf moof 0 audioTrackId audio
  (closeBox moof 0, videoOffsetPosition, audioOffsetPosition)

def writeFragment (muxer : Fmp4Muxer) (out : Bytes)
    (video audio : Fmp4TrackFragment) : Except Error (Bytes × Fmp4Muxer) :=
  let videoBytes := totalSampleBytes video
  let audioBytes := totalSampleBytes audio
  let mediaBytes := videoBytes + audioBytes
  if video.empty && audio.empty then .error (malformed "fMP4 fragment carries no samples")
  else if 2 ^ 32 - 1 < mediaBytes + 8 then
    .error (malformed "fMP4 fragment exceeds the 32-bit mdat size limit")
  else
    let sequenceNumber := muxer.sequenceNumber + 1
    let (moof, videoOffsetPosition, audioOffsetPosition) := writeMoof sequenceNumber video audio
    let moofSize := UInt32.ofNat moof.length
    let moof :=
      if video.empty then moof
      else patchU32 moof videoOffsetPosition (moofSize + 8)
    let moof :=
      if audio.empty then moof
      else patchU32 moof audioOffsetPosition (moofSize + 8 + UInt32.ofNat videoBytes)
    let out := out ++ moof
    let out := out ++ (writeU32Be (UInt32.ofNat (mediaBytes + 8)) ++ "mdat")
    let out := video.samples.foldl (fun out sample => out ++ sample.data) out
    let out := audio.samples.foldl (fun out sample => out ++ sample.data) out
    .ok (out, { sequenceNumber })

/-! ## What the buffer holds -/

theorem closeBox_eq {code : String} (hcode : (textBytes code).length = 4) (out body : Bytes) :
    closeBox (openBox out code ++ body) out.length = out ++ box code body := by
  have hsize : (openBox out code ++ body).length - out.length = 8 + body.length := by
    simp only [openBox, length_append, length_writeU32Be]
    omega
  have hbuf : openBox out code ++ body = out ++ (writeU32Be 0 ++ (textBytes code ++ body)) := by
    simp only [openBox, append_assoc]
  have hpat : overwrite 0 (out ++ (writeU32Be 0 ++ (textBytes code ++ body)))
      out.length (writeU32Be (UInt32.ofNat (8 + body.length))) =
        out ++ (writeU32Be (UInt32.ofNat (8 + body.length)) ++ (textBytes code ++ body)) :=
    overwrite_middle rfl rfl
  rw [closeBox, hsize, hbuf, patchU32, hpat, box, append_assoc]

theorem closeFullBox_eq {code : String} (hcode : (textBytes code).length = 4)
    (out : Bytes) (version : UInt8) (flags : UInt32) (body : Bytes) :
    closeBox (openFullBox out code version flags ++ body) out.length =
      out ++ fullBox code version flags body := by
  rw [openFullBox, append_assoc, closeBox_eq hcode, fullBox]

theorem foldl_append_eq {α : Type} (f : α → Bytes) (items : List α) (out : Bytes) :
    items.foldl (fun out item => out ++ f item) out = out ++ items.flatMap f := by
  induction items generalizing out with
  | nil => simp
  | cons item rest ih => rw [foldl_cons, ih, flatMap_cons, append_assoc]

theorem length_box {code : String} (hcode : (textBytes code).length = 4)
    (body : Bytes) : (box code body).length = 8 + body.length := by
  simp only [box, length_append, length_writeU32Be, hcode]

theorem length_fullBox {code : String} (hcode : (textBytes code).length = 4)
    (version : UInt8) (flags : UInt32) (body : Bytes) :
    (fullBox code version flags body).length = 12 + body.length := by
  rw [fullBox, length_box hcode]
  simp only [length_append, length_cons, length_writeU24Be]
  omega

theorem length_trunEntries (samples : List Fmp4Sample) :
    (samples.flatMap trunEntry).length = 16 * samples.length := by
  induction samples with
  | nil => rfl
  | cons sample rest ih =>
    simp only [flatMap_cons, length_append, length_cons, trunEntry, length_writeU32Be]
    omega

variable (out : Bytes) (trackId : UInt32) (frag : Fmp4TrackFragment)
  (dataOffset seq : UInt32) (video audio : Fmp4TrackFragment)
  (videoOffset audioOffset : UInt32)

theorem length_traf : (traf trackId frag dataOffset).length = 64 + 16 * frag.samples.length := by
  rw [traf, length_box (by decide)]
  simp only [length_append, length_fullBox (show (textBytes "tfhd").length = 4 by decide),
    length_fullBox (show (textBytes "tfdt").length = 4 by decide),
    length_fullBox (show (textBytes "trun").length = 4 by decide),
    length_writeU32Be, length_writeU64Be, length_trunEntries]
  omega

def trafFront (trackId : UInt32) (fragment : Fmp4TrackFragment) : Bytes :=
  writeU32Be (UInt32.ofNat (64 + 16 * fragment.samples.length)) ++ ("traf" ++
      (fullBox "tfhd" 0 0x020000 (writeU32Be trackId) ++
        (fullBox "tfdt" 1 0 (writeU64Be fragment.baseDecodeTime) ++
          (writeU32Be (UInt32.ofNat (20 + 16 * fragment.samples.length)) ++
            ("trun" ++ ((1 :: writeU24Be 0x000F01) ++
              writeU32Be (UInt32.ofNat fragment.samples.length)))))))

theorem traf_eq : traf trackId frag dataOffset = trafFront trackId frag ++
        (writeU32Be dataOffset ++ frag.samples.flatMap trunEntry) := by
  have hsize := length_traf trackId frag dataOffset
  rw [traf, length_box (by decide)] at hsize
  have hbody : 8 + (1 :: writeU24Be 0x000F01 ++
      (writeU32Be (UInt32.ofNat frag.samples.length) ++ writeU32Be dataOffset ++
        frag.samples.flatMap trunEntry)).length =
      20 + 16 * frag.samples.length := by
    simp only [length_append, length_cons, length_writeU24Be, length_writeU32Be, length_trunEntries]
    omega
  have htrun : fullBox "trun" 1 0x000F01
      (writeU32Be (UInt32.ofNat frag.samples.length) ++ writeU32Be dataOffset ++
        frag.samples.flatMap trunEntry) =
      writeU32Be (UInt32.ofNat (20 + 16 * frag.samples.length)) ++
        ("trun" ++ ((1 :: writeU24Be 0x000F01) ++ (writeU32Be (UInt32.ofNat frag.samples.length) ++
            (writeU32Be dataOffset ++ frag.samples.flatMap trunEntry)))) := by
    rw [fullBox, box, hbody]
    simp only [append_assoc]
  rw [traf, box, hsize, htrun, trafFront]
  simp only [append_assoc]

/-- In place, a `traf` is written with a zero data offset, and the position of
the data offset is that of the four zero bytes. -/
theorem writeTraf_eq (moofStart : ℕ) (trackId : UInt32) (frag : Fmp4TrackFragment) :
    writeTraf out moofStart trackId frag = (out ++ traf trackId frag 0,
        (out ++ trafFront trackId frag).length - moofStart) := by
  have htfhd := closeFullBox_eq (show (textBytes "tfhd").length = 4 by decide)
  have htfdt := closeFullBox_eq (show (textBytes "tfdt").length = 4 by decide)
    (openBox out "traf" ++ fullBox "tfhd" 0 0x020000 (writeU32Be trackId)) 1 0
  have htrun := closeFullBox_eq (show (textBytes "trun").length = 4 by decide)
    (openBox out "traf" ++ fullBox "tfhd" 0 0x020000 (writeU32Be trackId) ++
      fullBox "tfdt" 1 0 (writeU64Be frag.baseDecodeTime)) 1 0x000F01
  have htraf := closeBox_eq (show (textBytes "traf").length = 4 by decide) out
  simp only [append_assoc] at htrun htraf
  have hpos : (openFullBox (openBox out "traf" ++ (fullBox "tfhd" 0 0x020000 (writeU32Be trackId) ++
        fullBox "tfdt" 1 0 (writeU64Be frag.baseDecodeTime))) "trun" 1 0x000F01 ++
      writeU32Be (UInt32.ofNat frag.samples.length)).length =
      (out ++ trafFront trackId frag).length := by
    simp only [openFullBox, openBox, trafFront, length_append, length_writeU32Be]
    omega
  simp only [writeTraf, htfhd, htfdt, foldl_append_eq, append_assoc, htrun, htraf, hpos, traf]

/-! ## The `moof` -/

/-- The track of a fragment, which is left out when it is empty. -/
def track (trackId : UInt32) (fragment : Fmp4TrackFragment) (dataOffset : UInt32) : Bytes :=
  if fragment.empty then [] else traf trackId fragment dataOffset

def trackSize (fragment : Fmp4TrackFragment) : ℕ :=
  if fragment.empty then 0 else 64 + 16 * fragment.samples.length

def moofSize (video audio : Fmp4TrackFragment) : ℕ := 24 + trackSize video + trackSize audio

theorem length_track : (track trackId frag dataOffset).length = trackSize frag := by
  unfold track trackSize
  split
  · rfl
  · exact length_traf trackId frag dataOffset

def moofHead (sequenceNumber : UInt32) (size : ℕ) : Bytes :=
  writeU32Be (UInt32.ofNat size) ++ ("moof" ++ fullBox "mfhd" 0 0 (writeU32Be sequenceNumber))

theorem length_moofHead (size : ℕ) : (moofHead seq size).length = 24 := by rfl

theorem moof_eq : moof seq video audio videoOffset audioOffset =
      moofHead seq (moofSize video audio) ++ (track videoTrackId video videoOffset ++
          track audioTrackId audio audioOffset) := by
  have hsize : 8 + (fullBox "mfhd" 0 0 (writeU32Be seq) ++ track videoTrackId video videoOffset ++
        track audioTrackId audio audioOffset).length = moofSize video audio := by
    simp only [length_append, length_track,
      length_fullBox (show (textBytes "mfhd").length = 4 by decide), length_writeU32Be, moofSize]
    omega
  have hmoof : moof seq video audio videoOffset audioOffset =
      box "moof" (fullBox "mfhd" 0 0 (writeU32Be seq) ++
        track videoTrackId video videoOffset ++ track audioTrackId audio audioOffset) := rfl
  rw [hmoof, box, hsize, moofHead]
  simp only [append_assoc]

theorem length_moof : (moof seq video audio videoOffset audioOffset).length =
      moofSize video audio := by
  rw [moof_eq, length_append, length_append, length_moofHead,
    length_track, length_track, moofSize, Nat.add_assoc]

/-- The position of the data offset of a track that starts at `start`. -/
def offsetPosition (start : ℕ) (trackId : UInt32) (fragment : Fmp4TrackFragment) : ℕ :=
  if fragment.empty then 0 else start + (trafFront trackId fragment).length

theorem writeTrack_eq : (if frag.empty then (out, 0) else writeTraf out 0 trackId frag) =
      (out ++ track trackId frag 0, offsetPosition out.length trackId frag) := by
  unfold track offsetPosition
  split
  case isTrue => rw [append_nil]
  case isFalse => rw [writeTraf_eq, Nat.sub_zero, length_append]

theorem writeMoof_eq : writeMoof seq video audio = (moof seq video audio 0 0,
        offsetPosition 24 videoTrackId video,
        offsetPosition (24 + trackSize video) audioTrackId audio) := by
  have hmfhd := closeFullBox_eq (show (textBytes "mfhd").length = 4 by decide)
  have hhead : (openBox [] "moof" ++ fullBox "mfhd" 0 0 (writeU32Be seq)).length = 24 := by rfl
  have hclose := closeBox_eq (show (textBytes "moof").length = 4 by decide) []
    (fullBox "mfhd" 0 0 (writeU32Be seq) ++
      (track videoTrackId video 0 ++ track audioTrackId audio 0))
  rw [nil_append, length_nil] at hclose
  have hmoof : moof seq video audio 0 0 = box "moof" (fullBox "mfhd" 0 0 (writeU32Be seq) ++
        (track videoTrackId video 0 ++ track audioTrackId audio 0)) := by
    rfl
  have hlen : (openBox [] "moof" ++ fullBox "mfhd" 0 0 (writeU32Be seq) ++
        track videoTrackId video 0).length = 24 + trackSize video := by
    rw [length_append, hhead, length_track]
  simp only [writeMoof, hmfhd, writeTrack_eq, hhead, hlen]
  rw [append_assoc, append_assoc, hclose, hmoof]

theorem patchTrack_eq {front : Bytes} {start : ℕ}
    (hstart : front.length = start) (back : Bytes) (trackId : UInt32)
    (frag : Fmp4TrackFragment) (dataOffset : UInt32) :
    (if frag.empty then front ++ (track trackId frag 0 ++ back)
      else patchU32 (front ++ (track trackId frag 0 ++ back))
        (offsetPosition start trackId frag) dataOffset) =
      front ++ (track trackId frag dataOffset ++ back) := by
  unfold track offsetPosition
  split
  case isTrue => rfl
  case isFalse =>
    have hlen : (front ++ trafFront trackId frag).length =
        start + (trafFront trackId frag).length := by
      rw [length_append, hstart]
    have hpat : overwrite 0 ((front ++ trafFront trackId frag) ++
        (writeU32Be 0 ++ (frag.samples.flatMap trunEntry ++ back)))
          (start + (trafFront trackId frag).length) (writeU32Be dataOffset) =
        (front ++ trafFront trackId frag) ++ (writeU32Be dataOffset ++
            (frag.samples.flatMap trunEntry ++ back)) :=
      overwrite_middle rfl hlen
    simp only [traf_eq, append_assoc] at hpat ⊢
    exact hpat

theorem patchedMoof_eq : (let moof₀ := moof seq video audio 0 0
      let moof₁ :=
        if video.empty then moof₀
        else patchU32 moof₀ (offsetPosition 24 videoTrackId video) videoOffset
      if audio.empty then moof₁
      else patchU32 moof₁ (offsetPosition (24 + trackSize video) audioTrackId audio) audioOffset) =
      moof seq video audio videoOffset audioOffset := by
  have hvid := patchTrack_eq (length_moofHead seq (moofSize video audio))
  have hfront : (moofHead seq (moofSize video audio) ++
      track videoTrackId video videoOffset).length = 24 + trackSize video := by
    rw [length_append, length_moofHead, length_track]
  have haud := patchTrack_eq hfront [] audioTrackId audio audioOffset
  simp only [append_nil] at haud
  simp only [moof_eq, hvid]
  exact haud

theorem totalSampleBytes_eq : totalSampleBytes frag =
      (frag.samples.flatMap Fmp4Sample.data).length := by
  rw [totalSampleBytes, length_flatMap]

/-- Writing in place leaves the bytes that `writeFragment` describes. -/
theorem writeFragment_eq (muxer : Fmp4Muxer) (out : Bytes) (video audio : Fmp4TrackFragment) :
    writeFragment muxer out video audio = muxer.writeFragment out video audio := by
  have hmdat : box "mdat" (video.samples.flatMap Fmp4Sample.data ++
      audio.samples.flatMap Fmp4Sample.data) =
      writeU32Be (UInt32.ofNat (totalSampleBytes video + totalSampleBytes audio + 8)) ++
        "mdat" ++ (video.samples.flatMap Fmp4Sample.data ++
          audio.samples.flatMap Fmp4Sample.data) := by
    rw [box, length_append, ← totalSampleBytes_eq, ← totalSampleBytes_eq, Nat.add_comm 8]
  have hpat := patchedMoof_eq (muxer.sequenceNumber + 1) video audio
    (UInt32.ofNat (moofSize video audio) + 8)
  simp only [writeFragment, Fmp4Muxer.writeFragment, writeMoof_eq, length_moof,
    foldl_append_eq, hpat, hmdat, append_assoc]

end RtmpCore.Media.Mp4.InPlace
