import RtmpCore.Media.IsoReader

/-!
# A fragment read back

The fragment that the multiplexer writes is tiled by its boxes at every level,
and a reader recovers both tracks from it.  The data offsets are 32-bit numbers
that count up to the end of the video data, while the format reads them as
signed: a fragment with its audio data 2 GiB or more behind the start is
accepted by the multiplexer and is not readable.
-/

namespace RtmpCore.Media.Mp4.Iso

open RtmpCore.Core List InPlace Option

/-! ## Boxes -/

theorem readBox_box {code : String} (hcode : (textBytes code).length = 4)
    {body : Bytes} (hsize : 8 + body.length < 2 ^ 32) (rest : Bytes) :
    readBox (box code body ++ rest) = some (⟨textBytes code, body⟩, rest) := by
  have hlen := length_box hcode body
  have hread : (readU32BeAt (box code body ++ rest) 0).toNat = 8 + body.length := by
    rw [box, append_assoc, append_assoc, readU32BeAt_write, Amf0.toNat_ofNat_u32 hsize]
  have htake : (box code body ++ rest).take (8 + body.length) = box code body := by
    rw [← hlen, take_left]
  have hdrop : (box code body ++ rest).drop (8 + body.length) = rest := by rw [← hlen, drop_left]
  have htype : ((box code body ++ rest).drop 4).take 4 = textBytes code := by
    rw [box, append_assoc, append_assoc, ← length_writeU32Be
      (UInt32.ofNat (8 + body.length)), drop_left, length_writeU32Be, ← hcode,
      take_left]
  have hbody : (box code body).drop 8 = body := by
    have hhead : (writeU32Be (UInt32.ofNat (8 + body.length)) ++ textBytes code).length = 8 := by
      rw [length_append, hcode, length_writeU32Be]
    rw [box]
    generalize writeU32Be (UInt32.ofNat (8 + body.length)) ++ textBytes code = head at hhead
    rw [← hhead, drop_left]
  unfold readBox
  rw [hread, if_neg, htake, hdrop, htype, hbody]
  rw [length_append]
  omega

/-- A list of boxes that fit their size fields. -/
def Fitting (boxes : List (String × Bytes)) : Prop :=
  ∀ b ∈ boxes, (textBytes b.1).length = 4 ∧ 8 + b.2.length < 2 ^ 32

/-- The boxes one behind the other, and what a reader finds. -/
def pack (boxes : List (String × Bytes)) : Bytes := boxes.flatMap fun b => box b.1 b.2

def found (boxes : List (String × Bytes)) : List Box := boxes.map fun b => ⟨textBytes b.1, b.2⟩

variable {boxes : List (String × Bytes)}

theorem readBoxesUpTo_boxes {count : ℕ} (hfit : Fitting boxes) (hcnt : boxes.length ≤ count) :
    readBoxesUpTo count (pack boxes) = some (found boxes) := by
  induction boxes generalizing count with
  | nil =>
    cases count with
    | zero | succ => rfl
  | cons b rest ih =>
    obtain ⟨count, rfl⟩ : ∃ n, count = n + 1 := ⟨count - 1, by rw [length_cons] at hcnt; omega⟩
    obtain ⟨hhead, hrest⟩ := forall_mem_cons.mp hfit
    rw [pack, flatMap_cons, ← pack, readBoxesUpTo, readBox_box hhead.1 hhead.2]
    · rw [bind_eq_bind, bind_some]
      dsimp only
      rw [ih hrest (by simpa using hcnt)]
      rfl
    · intro hnil
      have hlen := congrArg List.length hnil
      rw [length_append, length_box hhead.1] at hlen
      simp at hlen

theorem length_le_pack (hfit : Fitting boxes) : boxes.length ≤ (pack boxes).length := by
  induction boxes with
  | nil => exact Nat.le_refl _
  | cons b rest ih =>
    obtain ⟨hhead, hrest⟩ := forall_mem_cons.mp hfit
    have hbd := ih hrest
    rw [pack, flatMap_cons, ← pack, length_append, length_box hhead.1, length_cons]
    omega

theorem readBoxes_pack (hfit : Fitting boxes) : readBoxes (pack boxes) = some (found boxes) :=
  readBoxesUpTo_boxes hfit (length_le_pack hfit)

/-! ## Fields -/

theorem readFullBox_write (version : UInt8) {flags : UInt32}
    (hflags : flags.toNat < 2 ^ 24) (rest : Bytes) :
    readFullBox (version :: writeU24Be flags ++ rest) = some (version, flags, rest) := by
  have hread : readU24BeAt (version :: writeU24Be flags ++ rest) 1 = flags := readU24Be_write hflags
  rw [readFullBox, hread]
  rfl

theorem readU32_write (value : UInt32) (rest : Bytes) :
    readU32 (writeU32Be value ++ rest) = some (value, rest) := by
  rw [readU32, readU32BeAt_write]
  rfl

theorem readU64_write (value : UInt64) : readU64 (writeU64Be value) = some value := by
  have htake : (writeU64Be value).take 8 = writeU64Be value := rfl
  rw [readU64, if_neg (by simp), htake, foldl_shiftInByte_write]

theorem readField_write (value : UInt32) (rest : Bytes) :
    readField true (writeU32Be value ++ rest) = some (value, rest) :=
  readU32_write value rest

theorem signed_ofInt {value : ℤ} (hlow : -2 ^ 31 ≤ value) (hhigh : value < 2 ^ 31) :
    signed (UInt32.ofInt value) = value := by
  have hmod : (UInt32.ofInt value).toNat = (value % 2 ^ 32).toNat := by
    rw [UInt32.ofInt, UInt32.toNat_ofNat']
    omega
  unfold signed
  split <;> omega

/-! ## Samples -/

/-- What the run says of a sample. -/
def entryOf (sample : Fmp4Sample) : Entry where
  duration := sample.duration
  size := UInt32.ofNat sample.data.length
  flags := if sample.keyframe then sampleFlagsSync else sampleFlagsNonSync
  compositionOffset := sample.compositionOffset

/-- A sample as a reader should find it. -/
def sampleOf (sample : Fmp4Sample) : Sample where
  data := sample.data
  duration := sample.duration
  size := UInt32.ofNat sample.data.length
  flags := if sample.keyframe then sampleFlagsSync else sampleFlagsNonSync
  compositionOffset := sample.compositionOffset

/-- The composition offset is a signed number of 32 bits. -/
def InRange (sample : Fmp4Sample) : Prop :=
  -2 ^ 31 ≤ sample.compositionOffset ∧ sample.compositionOffset < 2 ^ 31

theorem readEntry_trunEntry {sample : Fmp4Sample} (hrng : InRange sample) (rest : Bytes) :
    readEntry 1 0x000F01 (trunEntry sample ++ rest) = some (entryOf sample, rest) := by
  have hdur : decide ((0x000F01 : UInt32) &&& 0x000100 ≠ 0) = true := by decide
  have hsize : decide ((0x000F01 : UInt32) &&& 0x000200 ≠ 0) = true := by decide
  have hflags : decide ((0x000F01 : UInt32) &&& 0x000400 ≠ 0) = true := by decide
  have hoff : decide ((0x000F01 : UInt32) &&& 0x000800 ≠ 0) = true := by decide
  unfold readEntry trunEntry
  simp only [hdur, hsize, hflags, hoff, append_assoc, readField_write, bind_eq_bind, bind_some]
  rw [signed_ofInt hrng.1 hrng.2]
  rfl

theorem readEntries_trunEntries {samples : List Fmp4Sample}
    (hrng : ∀ sample ∈ samples, InRange sample) :
    readEntries 1 0x000F01 samples.length (samples.flatMap trunEntry) =
      some (samples.map entryOf) := by
  induction samples with
  | nil => rfl
  | cons sample rest ih =>
    obtain ⟨hhead, hrest⟩ := forall_mem_cons.mp hrng
    rw [flatMap_cons, length_cons, readEntries, readEntry_trunEntry hhead, bind_eq_bind, bind_some]
    dsimp only
    rw [ih hrest]
    rfl

theorem readSamples_placed {file : Bytes} (front back : Bytes)
    (samples : List Fmp4Sample) (hlen : file.length < 2 ^ 32)
    (hfile : file = front ++ (samples.flatMap Fmp4Sample.data ++ back)) :
    readSamples file front.length (samples.map entryOf) = some (samples.map sampleOf) := by
  induction samples generalizing front with
  | nil => rfl
  | cons sample rest ih =>
    rw [flatMap_cons, append_assoc] at hfile
    have htot := congrArg List.length hfile
    rw [length_append, length_append] at htot
    have hsize : (entryOf sample).size.toNat = sample.data.length := Amf0.toNat_ofNat_u32 (by omega)
    have hrest := ih (front ++ sample.data) (by rw [hfile, append_assoc])
    rw [length_append, Nat.cast_add] at hrest
    have hdata : (file.drop front.length).take sample.data.length = sample.data := by
      rw [hfile, drop_left, take_left]
    rw [map_cons, readSamples, hsize, if_neg (by omega), hrest, Int.toNat_natCast, hdata]
    rfl

theorem readSamples_negative (file : Bytes) {pos : ℤ} (hpos : pos < 0)
    {entries : List Entry} (hne : entries ≠ []) : readSamples file pos entries = none := by
  cases entries with
  | nil => exact absurd rfl hne
  | cons entry rest => rw [readSamples, if_pos (.inl hpos)]

/-! ## Tracks -/

def trunBody (fragment : Fmp4TrackFragment) (dataOffset : UInt32) : Bytes :=
  1 :: writeU24Be 0x000F01 ++ (writeU32Be (UInt32.ofNat fragment.samples.length) ++
      writeU32Be dataOffset ++ fragment.samples.flatMap trunEntry)

def trafBoxes (trackId : UInt32) (fragment : Fmp4TrackFragment)
    (dataOffset : UInt32) : List (String × Bytes) :=
  [("tfhd", 0 :: writeU24Be 0x020000 ++ writeU32Be trackId),
    ("tfdt", 1 :: writeU24Be 0 ++ writeU64Be fragment.baseDecodeTime),
    ("trun", trunBody fragment dataOffset)]

def trafBody (trackId : UInt32) (fragment : Fmp4TrackFragment) (dataOffset : UInt32) : Bytes :=
  pack (trafBoxes trackId fragment dataOffset)

variable (trackId : UInt32) (frag : Fmp4TrackFragment)
  (readOffset : UInt32 → ℤ) (dataOffset : UInt32)

theorem traf_eq_box : traf trackId frag dataOffset =
      box "traf" (trafBody trackId frag dataOffset) := by
  unfold traf trafBody trafBoxes pack
  simp only [flatMap_cons, flatMap_nil, append_nil, append_assoc]
  rfl

theorem length_trunBody : (trunBody frag dataOffset).length = 12 + 16 * frag.samples.length := by
  simp only [trunBody, length_append, length_cons, length_writeU24Be,
    length_writeU32Be, length_trunEntries]
  omega

theorem fitting_trafBoxes {frag : Fmp4TrackFragment}
    (hsize : 64 + 16 * frag.samples.length < 2 ^ 32) :
    Fitting (trafBoxes trackId frag dataOffset) := by
  intro b hb
  simp only [trafBoxes, mem_cons, not_mem_nil, or_false] at hb
  rcases hb with rfl | rfl | rfl
  · exact ⟨rfl, by simp⟩
  · exact ⟨rfl, by simp⟩
  · refine ⟨rfl, ?_⟩
    rw [length_trunBody]
    omega

theorem readTfhd_write :
    readTfhd (0 :: writeU24Be 0x020000 ++ writeU32Be trackId) = some trackId := by
  have hfull := readFullBox_write 0 (show (0x020000 : UInt32).toNat < 2 ^ 24 by decide)
  have hid := readU32_write trackId []
  rw [append_nil] at hid
  rw [readTfhd, hfull, bind_eq_bind, bind_some]
  dsimp only
  rw [hid]
  rfl

theorem readTfdt_write (time : UInt64) :
    readTfdt (1 :: writeU24Be 0 ++ writeU64Be time) = some time := by
  have hfull := readFullBox_write 1 (show (0 : UInt32).toNat < 2 ^ 24 by decide) (writeU64Be time)
  rw [readTfdt, hfull, bind_eq_bind, bind_some]
  dsimp only
  rw [if_pos rfl, readU64_write]

theorem readTrun_trunBody (file : Bytes) {frag : Fmp4TrackFragment} (dataOffset : UInt32)
    (hcnt : frag.samples.length < 2 ^ 32) (hrng : ∀ sample ∈ frag.samples, InRange sample) :
    readTrun readOffset file (trunBody frag dataOffset) =
      readSamples file (readOffset dataOffset) (frag.samples.map entryOf) := by
  have hfull := readFullBox_write 1 (show (0x000F01 : UInt32).toNat < 2 ^ 24 by decide)
  have hpresent : decide ((0x000F01 : UInt32) &&& 0x000001 ≠ 0) = true := by decide
  unfold readTrun trunBody
  rw [hfull]
  simp only [hpresent, append_assoc, readU32_write, readField_write,
    bind_eq_bind, bind_some, Amf0.toNat_ofNat_u32 hcnt, readEntries_trunEntries hrng]

theorem readTraf_trafBody (file : Bytes)
    (trackId : UInt32) {frag : Fmp4TrackFragment} (dataOffset : UInt32)
    (hsize : 64 + 16 * frag.samples.length < 2 ^ 32)
    (hrng : ∀ sample ∈ frag.samples, InRange sample) : readTraf readOffset file
        ⟨"traf", trafBody trackId frag dataOffset⟩ =
      (readSamples file (readOffset dataOffset) (frag.samples.map entryOf)).map
        fun samples => ⟨trackId, frag.baseDecodeTime, samples⟩ := by
  have htrun := readTrun_trunBody readOffset file dataOffset (by omega) hrng
  have htfhd : theBox "tfhd" (found (trafBoxes trackId frag dataOffset)) =
      some ⟨"tfhd", 0 :: writeU24Be 0x020000 ++ writeU32Be trackId⟩ := rfl
  have htfdt : theBox "tfdt" (found (trafBoxes trackId frag dataOffset)) =
      some ⟨"tfdt", 1 :: writeU24Be 0 ++ writeU64Be frag.baseDecodeTime⟩ := rfl
  have hrun : theBox "trun" (found (trafBoxes trackId frag dataOffset)) =
      some ⟨"trun", trunBody frag dataOffset⟩ := rfl
  unfold readTraf
  rw [trafBody, readBoxes_pack (fitting_trafBoxes trackId dataOffset hsize)]
  simp only [bind_eq_bind, bind_some, htfhd, htfdt, hrun, readTfhd_write, readTfdt_write, htrun]
  cases readSamples file (readOffset dataOffset) (frag.samples.map entryOf) with
  | none | some => rfl

/-! ## The fragment -/

/-- The box of a track that has samples. -/
def trackBoxes (trackId : UInt32) (fragment : Fmp4TrackFragment)
    (dataOffset : UInt32) : List (String × Bytes) :=
  if fragment.empty then [] else [("traf", trafBody trackId fragment dataOffset)]

/-- A track as a reader should find it; one without samples is not in the
fragment. -/
def tracksOf (trackId : UInt32) (fragment : Fmp4TrackFragment) : List Track :=
  if fragment.empty then []
  else [⟨trackId, fragment.baseDecodeTime, fragment.samples.map sampleOf⟩]

def moofBoxes (sequenceNumber : UInt32) (video audio : Fmp4TrackFragment)
    (videoOffset audioOffset : UInt32) : List (String × Bytes) :=
  ("mfhd", 0 :: writeU24Be 0 ++ writeU32Be sequenceNumber) ::
    (trackBoxes videoTrackId video videoOffset ++ trackBoxes audioTrackId audio audioOffset)

theorem track_eq_boxes : (if frag.empty then [] else traf trackId frag dataOffset) =
      pack (trackBoxes trackId frag dataOffset) := by
  unfold trackBoxes
  split
  · rfl
  · rw [traf_eq_box, pack, flatMap_cons, flatMap_nil, append_nil]

theorem moof_eq_box (sequenceNumber : UInt32) (video audio : Fmp4TrackFragment)
    (videoOffset audioOffset : UInt32) : moof sequenceNumber video audio videoOffset audioOffset =
      box "moof" (pack (moofBoxes sequenceNumber video audio videoOffset audioOffset)) := by
  have hpack : pack (moofBoxes sequenceNumber video audio videoOffset audioOffset) =
      _ ++ (pack _ ++ pack _) := congrArg _ flatMap_append
  rw [moof, track_eq_boxes, track_eq_boxes, hpack, append_assoc]
  rfl

theorem fitting_trackBoxes {frag : Fmp4TrackFragment} (hsize : InPlace.trackSize frag < 2 ^ 32) :
    Fitting (trackBoxes trackId frag dataOffset) := by
  unfold trackBoxes InPlace.trackSize at *
  split at hsize
  · rw [if_pos ‹_›]
    intro b hb
    exact absurd hb (not_mem_nil)
  · rw [if_neg ‹_›]
    intro b hb
    rw [mem_singleton.mp hb]
    refine ⟨rfl, ?_⟩
    have hlen := length_traf trackId frag dataOffset
    rw [traf_eq_box, length_box (by decide)] at hlen
    dsimp only
    omega

theorem readTrafs_append (file : Bytes) (first second : List Box) :
    readTrafs readOffset file (first ++ second) = (do
      let tracks ← readTrafs readOffset file first
      let others ← readTrafs readOffset file second
      some (tracks ++ others)) := by
  induction first with
  | nil => simp [readTrafs]
  | cons traf rest ih => simp [readTrafs, ih, Option.bind_assoc]

/-- A reader that takes the offset of a track as it was meant finds its samples, and
one that finds it negative finds nothing. -/
theorem readTrafs_trackBoxes {readOffset : UInt32 → ℤ} {file : Bytes} {frag : Fmp4TrackFragment}
    {dataOffset : UInt32} (hsize : InPlace.trackSize frag < 2 ^ 32)
    (hrng : ∀ sample ∈ frag.samples, InRange sample)
    (hsamp : readSamples file dataOffset.toNat (frag.samples.map entryOf) =
      some (frag.samples.map sampleOf))
    (hread : readOffset dataOffset = dataOffset.toNat ∨ readOffset dataOffset < 0) :
    readTrafs readOffset file (found (trackBoxes trackId frag dataOffset)) =
      if frag.empty = false → 0 ≤ readOffset dataOffset then some (tracksOf trackId frag)
      else none := by
  unfold trackBoxes tracksOf
  unfold InPlace.trackSize at hsize
  cases hemp : frag.empty with
  | true => rfl
  | false =>
    have hne : frag.samples.map entryOf ≠ [] := by
      intro hnil
      rw [Fmp4TrackFragment.empty, map_eq_nil_iff.mp hnil] at hemp
      cases hemp
    rw [hemp] at hsize
    rw [if_neg Bool.false_ne_true, found, map_cons, readTrafs,
      readTraf_trafBody readOffset file trackId dataOffset hsize hrng]
    rcases hread with hread | hread
    · rw [hread, hsamp]
      rfl
    · rw [readSamples_negative file hread hne, if_neg (by simpa using hread)]
      rfl

theorem filter_trackBoxes : (found (trackBoxes trackId frag dataOffset)).filter
      (fun b => b.code = textBytes "traf") = found (trackBoxes trackId frag dataOffset) := by
  unfold trackBoxes
  split
  · rfl
  · rfl

section Layout

variable {video audio : Fmp4TrackFragment}

/-- The media data of a fragment, video first. -/
def mediaOf (video audio : Fmp4TrackFragment) : Bytes :=
  video.samples.flatMap Fmp4Sample.data ++ audio.samples.flatMap Fmp4Sample.data

theorem length_mediaOf (video audio : Fmp4TrackFragment) : (mediaOf video audio).length =
      totalSampleBytes video + totalSampleBytes audio := by
  rw [mediaOf, length_append, ← totalSampleBytes_eq, ← totalSampleBytes_eq]

def fragmentSize (video audio : Fmp4TrackFragment) : ℕ :=
  InPlace.moofSize video audio + 8 + totalSampleBytes video + totalSampleBytes audio

def fragmentBytes (sequenceNumber : UInt32) (video audio : Fmp4TrackFragment)
    (videoOffset audioOffset : UInt32) : Bytes :=
  moof sequenceNumber video audio videoOffset audioOffset ++ box "mdat" (mediaOf video audio)

variable (sequenceNumber : UInt32)

theorem length_fragmentBytes (video audio : Fmp4TrackFragment) (videoOffset audioOffset : UInt32) :
    (fragmentBytes sequenceNumber video audio videoOffset audioOffset).length =
      fragmentSize video audio := by
  rw [fragmentBytes, length_append, length_moof,
    length_box (by decide), length_mediaOf, fragmentSize]
  omega

theorem fragmentBytes_eq_front
    (video audio : Fmp4TrackFragment) (videoOffset audioOffset : UInt32) :
    ∃ front : Bytes, front.length = InPlace.moofSize video audio + 8 ∧
      fragmentBytes sequenceNumber video audio videoOffset audioOffset =
        front ++ mediaOf video audio := by
  refine ⟨moof sequenceNumber video audio videoOffset audioOffset ++
    (writeU32Be (UInt32.ofNat (8 + (mediaOf video audio).length)) ++ "mdat"), ?_, ?_⟩
  · rw [length_append, length_moof]
    rfl
  · rw [fragmentBytes, box, append_assoc, append_assoc, append_assoc]

theorem fitting_moofBoxes (videoOffset audioOffset : UInt32)
    (hsize : fragmentSize video audio < 2 ^ 32) :
    Fitting (moofBoxes sequenceNumber video audio videoOffset audioOffset) := by
  unfold fragmentSize InPlace.moofSize at hsize
  intro b hb
  rw [moofBoxes, mem_cons, mem_append] at hb
  rcases hb with rfl | hb | hb
  · exact ⟨rfl, by simp⟩
  · exact fitting_trackBoxes videoTrackId videoOffset (by omega) b hb
  · exact fitting_trackBoxes audioTrackId audioOffset (by omega) b hb

/-- The boxes of a fragment tile it, at every level, and what a reader finds in
it depends only on the tracks. -/
theorem readFragment_fragmentBytes (readOffset : UInt32 → ℤ) (sequenceNumber : UInt32)
    (videoOffset audioOffset : UInt32) (hsize : fragmentSize video audio < 2 ^ 32) :
    readFragment readOffset (fragmentBytes sequenceNumber video audio videoOffset audioOffset) =
      readTrafs readOffset (fragmentBytes sequenceNumber video audio videoOffset audioOffset)
        (found (trackBoxes videoTrackId video videoOffset) ++
          found (trackBoxes audioTrackId audio audioOffset)) := by
  have hinner := readBoxes_pack (fitting_moofBoxes sequenceNumber videoOffset audioOffset hsize)
  have hmoof := length_moof sequenceNumber video audio videoOffset audioOffset
  have hfile : fragmentBytes sequenceNumber video audio videoOffset audioOffset =
      box "moof" (pack (moofBoxes sequenceNumber video audio videoOffset audioOffset)) ++ _ :=
    congrArg (· ++ _) (moof_eq_box ..)
  rw [moof_eq_box, length_box (by decide)] at hmoof
  generalize hbody : pack (moofBoxes ..) = body at hinner hmoof hfile
  have hfit : Fitting [("moof", body), ("mdat", mediaOf video audio)] := by
    unfold fragmentSize at hsize
    refine forall_mem_cons.mpr ⟨⟨rfl, by dsimp only; omega⟩, forall_mem_singleton.mpr ⟨rfl, ?_⟩⟩
    rw [length_mediaOf]
    omega
  have hboxes := readBoxes_pack hfit
  rw [pack, flatMap_cons, flatMap_cons, flatMap_nil, append_nil, ← hfile] at hboxes
  have hfound : found (moofBoxes sequenceNumber video audio videoOffset audioOffset) =
      ⟨"mfhd", _⟩ :: (found _ ++ found _) := congrArg _ map_append
  rw [readFragment, hboxes, bind_eq_bind, bind_some, if_neg]
  · change (readBoxes body).bind _ = _
    rw [hinner, bind_some, hfound, filter_cons_of_neg, filter_append, filter_trackBoxes,
      filter_trackBoxes]
    exact (by decide : ¬decide (textBytes "mfhd" = "traf") = true)
  · exact not_not_intro rfl

/-- The offsets of the media data of the two tracks. -/
def videoOffset (video audio : Fmp4TrackFragment) : UInt32 :=
  UInt32.ofNat (InPlace.moofSize video audio) + 8

def audioOffset (video audio : Fmp4TrackFragment) : UInt32 :=
  UInt32.ofNat (InPlace.moofSize video audio) + 8 + UInt32.ofNat (totalSampleBytes video)

theorem toNat_videoOffset (hsize : fragmentSize video audio < 2 ^ 32) :
    (videoOffset video audio).toNat = InPlace.moofSize video audio + 8 := by
  unfold fragmentSize at hsize
  rw [videoOffset, UInt32.toNat_add, Amf0.toNat_ofNat_u32 (by omega)]
  exact Nat.mod_eq_of_lt (show InPlace.moofSize video audio + 8 < 2 ^ 32 by omega)

theorem toNat_audioOffset (hsize : fragmentSize video audio < 2 ^ 32) :
    (audioOffset video audio).toNat =
      InPlace.moofSize video audio + 8 + totalSampleBytes video := by
  have hvid := toNat_videoOffset hsize
  unfold fragmentSize at hsize
  rw [audioOffset, UInt32.toNat_add, ← videoOffset, hvid, Amf0.toNat_ofNat_u32 (by omega)]
  exact Nat.mod_eq_of_lt (by omega)

theorem writeFragment_ok (muxer : Fmp4Muxer) (out : Bytes)
    (hne : (video.empty && audio.empty) = false) (hsize : fragmentSize video audio < 2 ^ 32) :
    InPlace.writeFragment muxer out video audio =
      .ok (out ++ fragmentBytes (muxer.sequenceNumber + 1) video audio
        (videoOffset video audio) (audioOffset video audio),
        { sequenceNumber := muxer.sequenceNumber + 1 }) := by
  unfold fragmentSize at hsize
  rw [writeFragment_eq, Fmp4Muxer.writeFragment]
  dsimp only
  rw [hne, if_neg Bool.false_ne_true, if_neg (by omega), length_moof, append_assoc]
  rfl

/-- A reader that takes the offsets as they were meant or finds them negative recovers
both tracks exactly if it finds none negative. -/
theorem readFragment_eq {readOffset : UInt32 → ℤ} (hsize : fragmentSize video audio < 2 ^ 32)
    (hvid : ∀ sample ∈ video.samples, InRange sample)
    (haud : ∀ sample ∈ audio.samples, InRange sample)
    (hread : ∀ offset, readOffset offset = offset.toNat ∨ readOffset offset < 0) :
    readFragment readOffset (fragmentBytes sequenceNumber video audio
        (videoOffset video audio) (audioOffset video audio)) =
      if (video.empty = false → 0 ≤ readOffset (videoOffset video audio)) ∧
        (audio.empty = false → 0 ≤ readOffset (audioOffset video audio))
      then some (tracksOf videoTrackId video ++ tracksOf audioTrackId audio) else none := by
  rw [readFragment_fragmentBytes _ _ _ _ hsize, readTrafs_append]
  have hlen := length_fragmentBytes sequenceNumber video audio (videoOffset video audio)
    (audioOffset video audio)
  obtain ⟨front, hfront, hmedia⟩ := fragmentBytes_eq_front sequenceNumber video
    audio (videoOffset video audio) (audioOffset video audio)
  rw [mediaOf] at hmedia
  have hvideo := readSamples_placed front _ video.samples (hlen.trans_lt hsize) hmedia
  have haudio := readSamples_placed (front ++ video.samples.flatMap Fmp4Sample.data) []
    audio.samples (hlen.trans_lt hsize) (by rw [hmedia, append_nil, append_assoc])
  rw [length_append, hfront, ← totalSampleBytes_eq, ← toNat_audioOffset hsize] at haudio
  rw [hfront, ← toNat_videoOffset hsize] at hvideo
  unfold fragmentSize InPlace.moofSize at hsize
  rw [readTrafs_trackBoxes _ (by omega) hvid hvideo (hread _),
    readTrafs_trackBoxes _ (by omega) haud haudio (hread _)]
  split_ifs <;> simp_all

/-! ## The signed offsets -/

theorem signed_cases (value : UInt32) : signed value = value.toNat ∨ signed value < 0 := by
  have hbd := value.toNat_lt
  unfold signed
  split <;> omega

theorem signed_nonneg {value : UInt32} : 0 ≤ signed value ↔ value.toNat < 2 ^ 31 := by
  have hbd := value.toNat_lt
  unfold signed
  split <;> omega

/-- The media data of every track that has samples start within the first
2 GiB of the fragment. -/
def Addressable (video audio : Fmp4TrackFragment) : Prop :=
  (video.empty = false → InPlace.moofSize video audio + 8 < 2 ^ 31) ∧ (audio.empty = false →
      InPlace.moofSize video audio + 8 + totalSampleBytes video < 2 ^ 31)
deriving Decidable

theorem readFragment_signed (hsize : fragmentSize video audio < 2 ^ 32)
    (hvid : ∀ sample ∈ video.samples, InRange sample)
    (haud : ∀ sample ∈ audio.samples, InRange sample) :
    readFragment signed (fragmentBytes sequenceNumber video audio
        (videoOffset video audio) (audioOffset video audio)) =
      if Addressable video audio
      then some (tracksOf videoTrackId video ++ tracksOf audioTrackId audio) else none := by
  rw [readFragment_eq sequenceNumber hsize hvid haud signed_cases]
  simp only [signed_nonneg, toNat_videoOffset hsize, toNat_audioOffset hsize]
  rfl

/-- Every fragment with samples and of less than 4 GiB is written, and is tiled
by its boxes at every level.  The samples stand where the data offsets say, so a
reader that takes the offsets as unsigned recovers both tracks; a reader that
takes them as signed, as the format says, recovers them exactly when the media
data of each track start within the first 2 GiB. -/
theorem writeFragment_readable_iff (muxer : Fmp4Muxer) (out : List UInt8)
    (video audio : Fmp4TrackFragment) (hne : (video.empty && audio.empty) = false)
    (hsize : fragmentSize video audio < 2 ^ 32) (hvideo : ∀ sample ∈ video.samples, InRange sample)
    (haudio : ∀ sample ∈ audio.samples, InRange sample) :
    ∃ bytes, InPlace.writeFragment muxer out video audio =
        .ok (out ++ bytes, { sequenceNumber := muxer.sequenceNumber + 1 }) ∧
      bytes.length = fragmentSize video audio ∧
      readFragment (fun offset => offset.toNat) bytes =
        some (tracksOf videoTrackId video ++ tracksOf audioTrackId audio) ∧
      (readFragment signed bytes =
          some (tracksOf videoTrackId video ++ tracksOf audioTrackId audio) ↔
        Addressable video audio) := by
  refine ⟨_, writeFragment_ok muxer out hne hsize, length_fragmentBytes _ _ _ _ _, ?_, ?_⟩
  · rw [readFragment_eq _ hsize hvideo haudio fun _ => .inl rfl]
    exact if_pos ⟨fun _ => Int.natCast_nonneg _, fun _ => Int.natCast_nonneg _⟩
  · rw [readFragment_signed _ hsize hvideo haudio]
    split_ifs <;> simp [*]

/-- A small fragment with both tracks is read back. -/
theorem writeFragment_readable_small : ∃ bytes,
      InPlace.writeFragment {} [] { samples := [{ data := [1, 2] }] }
        { baseDecodeTime := 7, samples := [{ data := [3], compositionOffset := -1 }] } =
        .ok (bytes, { sequenceNumber := 1 }) ∧
      readFragment signed bytes = some [⟨1, 0, [⟨[1, 2], 0, 2, sampleFlagsNonSync, 0⟩]⟩,
          ⟨2, 7, [⟨[3], 0, 1, sampleFlagsNonSync, -1⟩]⟩] := by
  obtain ⟨bytes, hwrite, -, -, hread⟩ := writeFragment_readable_iff {} []
    { samples := [{ data := [1, 2] }] }
    { baseDecodeTime := 7, samples := [{ data := [3], compositionOffset := -1 }] }
    rfl (by decide)
    (fun sample hsample => by
      rw [mem_singleton.mp hsample]
      exact ⟨by decide, by decide⟩)
    (fun sample hsample => by
      rw [mem_singleton.mp hsample]
      exact ⟨by decide, by decide⟩)
  exact ⟨bytes, hwrite, hread.mpr ⟨fun _ => by decide, fun _ => by decide⟩⟩

def trackOfSample (data : Bytes) : Fmp4TrackFragment := { samples := [{ data }] }

theorem totalSampleBytes_trackOfSample (data : Bytes) :
    totalSampleBytes (trackOfSample data) = data.length :=
  Nat.add_zero _

theorem inRange_trackOfSample (data : Bytes) :
    ∀ sample ∈ (trackOfSample data).samples, InRange sample := by
  intro sample hsamp
  rw [mem_singleton.mp hsamp]
  exact ⟨show (-2 ^ 31 : ℤ) ≤ 0 by decide, show (0 : ℤ) < 2 ^ 31 by decide⟩

theorem trackOfSample_unreadable {data : Bytes} (hdata : data.length = 2 ^ 31) :
    fragmentSize (trackOfSample data) (trackOfSample [1]) < 2 ^ 32 ∧ ∃ bytes,
        InPlace.writeFragment {} [] (trackOfSample data) (trackOfSample [1]) =
          .ok (bytes, { sequenceNumber := 1 }) ∧
        readFragment signed bytes = none := by
  have hmoof : InPlace.moofSize (trackOfSample data) (trackOfSample [1]) = 184 := rfl
  have hsize : fragmentSize (trackOfSample data) (trackOfSample [1]) < 2 ^ 32 := by
    rw [fragmentSize, hmoof, totalSampleBytes_trackOfSample, hdata]
    decide
  refine ⟨hsize, _, writeFragment_ok {} [] rfl hsize, ?_⟩
  refine (readFragment_signed _ hsize (inRange_trackOfSample data)
    (inRange_trackOfSample [1])).trans (if_neg fun hnear => ?_)
  have hfar := hnear.2 rfl
  rw [totalSampleBytes_trackOfSample] at hfar
  omega

/-- Two gigabytes of video are written with an audio sample behind them, and the
reader finds a negative offset for the audio. -/
theorem writeFragment_large_unreadable : ∃ video audio : Fmp4TrackFragment,
      (∀ sample ∈ video.samples ++ audio.samples, InRange sample) ∧
      fragmentSize video audio < 2 ^ 32 ∧
      ∃ bytes, InPlace.writeFragment {} [] video audio = .ok (bytes, { sequenceNumber := 1 }) ∧
        readFragment signed bytes = none :=
  ⟨trackOfSample (List.replicate (2 ^ 31) 0), trackOfSample [1],
    forall_mem_append.mpr ⟨inRange_trackOfSample _, inRange_trackOfSample _⟩,
    trackOfSample_unreadable length_replicate⟩

end Layout

end RtmpCore.Media.Mp4.Iso
