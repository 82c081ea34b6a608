import RtmpCore.Amf0.RoundTrip

/-!
# The FLV container

An FLV file is a header of 13 bytes and a sequence of tags.  A tag has a header
of 11 bytes, its data and a trailing field with its own size.  The low 24 bits
of a timestamp stand before its high byte.

The first tag of a recording is the script tag `onMetaData`.  Its duration and
its file size are not known when it is written, so the writer reports where in
the tag the two values stand.
-/

namespace RtmpCore.Media.Flv

open RtmpCore.Core Amf0 List

def kTagTypeAudio : UInt8 := 8
def kTagTypeVideo : UInt8 := 9
def kTagTypeScriptData : UInt8 := 18

def kFileHeaderSize : ℕ := 9
def kPreviousTagSize : ℕ := 4
def kFileHeaderTotalSize : ℕ := kFileHeaderSize + kPreviousTagSize
def kTagHeaderSize : ℕ := 11

def kFlagAudio : UInt8 := 0x04
def kFlagVideo : UInt8 := 0x01

/-! ## Writing -/

def encodeDoubleBe (bits : UInt64) : Bytes := writeU64Be bits

@[simp] theorem length_encodeDoubleBe (bits : UInt64) : (encodeDoubleBe bits).length = 8 := rfl

def typeFlags (hasAudio hasVideo : Bool) : UInt8 :=
  (if hasAudio then kFlagAudio else 0) ||| (if hasVideo then kFlagVideo else 0)

def encodeFileHeader (hasAudio hasVideo : Bool) : Bytes :=
  [0x46, 0x4C, 0x56, 0x01, typeFlags hasAudio hasVideo] ++ writeU32Be 9 ++ writeU32Be 0

@[simp] theorem length_encodeFileHeader (hasAudio hasVideo : Bool) :
    (encodeFileHeader hasAudio hasVideo).length = kFileHeaderTotalSize := rfl

def appendTag (out : Bytes) (tagType : UInt8) (data : Bytes) (timestamp : UInt32) : Bytes :=
  let dataSize := UInt32.ofNat data.length
  out ++ ([tagType] ++ (writeU24Be dataSize ++ (writeU24Be (timestamp &&& 0x00FFFFFF) ++
      ([(timestamp >>> 24).toUInt8] ++ (writeU24Be 0 ++
        (data ++ writeU32Be (UInt32.ofNat kTagHeaderSize + dataSize)))))))

/-- The values of the metadata tag.  Numbers are doubles; 7 is the codec id of
AVC, 10 that of AAC. -/
structure OnMetaData where
  duration : UInt64 := 0
  width : UInt64 := 0
  height : UInt64 := 0
  framerate : UInt64 := 0
  videocodecid : UInt64 := 0x401C000000000000
  audiocodecid : UInt64 := 0x4024000000000000
  audiosamplerate : UInt64 := 0
  audiosamplesize : UInt64 := 0x4030000000000000
  stereo : Bool := true
  filesize : UInt64 := 0
deriving DecidableEq

structure MetadataTag where
  bytes : Bytes
  durationValueOffset : ℕ
  filesizeValueOffset : ℕ
deriving DecidableEq

def appendAmf0StringBody (out text : Bytes) : Bytes :=
  out ++ (writeU16Be (UInt16.ofNat text.length) ++ text)

/-- The script data under construction, with the offsets noted so far. -/
structure ScriptBody where
  body : Bytes
  durationOff : ℕ := 0
  filesizeOff : ℕ := 0

/-- Append one member with a number, and note where the value stands when the
caller asked for this key. -/
def ScriptBody.appendNumber (script : ScriptBody) (key : String) (value : UInt64) : ScriptBody :=
  let body := appendAmf0StringBody script.body (textBytes key) ++ appendMarker .number
  { body := body ++ encodeDoubleBe value
    durationOff := if key = "duration" then body.length else script.durationOff
    filesizeOff := if key = "filesize" then body.length else script.filesizeOff }

variable (metadata : OnMetaData) (tag : Tag)

def OnMetaData.numbersA : List (String × UInt64) :=
  [("duration", metadata.duration), ("width", metadata.width),
    ("height", metadata.height), ("framerate", metadata.framerate),
    ("videocodecid", metadata.videocodecid), ("audiosamplerate", metadata.audiosamplerate),
    ("audiosamplesize", metadata.audiosamplesize)]

def OnMetaData.numbersB : List (String × UInt64) :=
  [("audiocodecid", metadata.audiocodecid), ("filesize", metadata.filesize)]

def onmetadataBody : ScriptBody :=
  let memberCount := UInt32.ofNat (metadata.numbersA.length + 1 + metadata.numbersB.length)
  let start : ScriptBody :=
    { body := appendAmf0StringBody (appendMarker .string) "onMetaData" ++
        appendMarker .ecmaArray ++ writeU32Be memberCount }
  let script := metadata.numbersA.foldl (fun script p => script.appendNumber p.1 p.2) start
  let script := { script with
    body := appendAmf0StringBody script.body "stereo" ++
      appendMarker .boolean ++ [if metadata.stereo then 0x01 else 0x00] }
  let script := metadata.numbersB.foldl (fun script p => script.appendNumber p.1 p.2) script
  { script with body := script.body ++ [0x00, 0x00, 0x09] }

def buildOnmetadataTag (timestamp : UInt32) : MetadataTag :=
  let script := onmetadataBody metadata
  { bytes := appendTag [] kTagTypeScriptData script.body timestamp
    durationValueOffset := kTagHeaderSize + script.durationOff
    filesizeValueOffset := kTagHeaderSize + script.filesizeOff }

/-! ## Reading -/

structure ParsedTag where
  type : UInt8
  dataSize : UInt32
  timestamp : UInt32
  previousTagSize : UInt32
  dataOffset : ℕ
deriving DecidableEq

structure ParsedFlv where
  version : UInt8
  hasAudio : Bool
  hasVideo : Bool
  dataOffset : UInt32
  previousTagSize0 : UInt32
  tags : List ParsedTag
deriving DecidableEq

def parseError (message : String) : Error :=
  { code := .malformedChunk, category := .storage, message }

/-- The tags from `pos` on.  A tag takes at least 15 bytes, so a file has fewer
tags than bytes. -/
def parseTags (data : Bytes) : ℕ → ℕ → List ParsedTag → Except Error (List ParsedTag)
  | 0, _, tags => .ok tags
  | fuel + 1, pos, tags =>
    if pos < data.length then
      if data.length < pos + kTagHeaderSize then .error (parseError "truncated FLV tag header")
      else
        let dataSize := readU24BeAt data (pos + 1)
        let tsLow := readU24BeAt data (pos + 4)
        let tsExt := (byteAt data (pos + 7)).toUInt32
        let next := pos + kTagHeaderSize + dataSize.toNat
        if data.length < next + kPreviousTagSize then
          .error (parseError "FLV tag data runs past end of file")
        else
          let tag : ParsedTag :=
            { type := byteAt data pos
              dataSize
              timestamp := (tsExt <<< 24) ||| tsLow
              previousTagSize := readU32BeAt data next
              dataOffset := pos + kTagHeaderSize }
          parseTags data fuel (next + kPreviousTagSize) (tags ++ [tag])
    else .ok tags

def parseFlv (data : Bytes) : Except Error ParsedFlv :=
  if data.length < kFileHeaderTotalSize then .error (parseError "FLV shorter than 13-byte header")
  else if byteAt data 0 ≠ 0x46 ∨ byteAt data 1 ≠ 0x4C ∨ byteAt data 2 ≠ 0x56 then
    .error (parseError "bad FLV signature")
  else
    let flags := byteAt data 4
    let dataOffset := readU32BeAt data 5
    if dataOffset.toNat < kFileHeaderSize ∨ data.length - kPreviousTagSize < dataOffset.toNat then
      .error (parseError "FLV DataOffset out of range")
    else do
      let pos := dataOffset.toNat
      let tags ← parseTags data data.length (pos + kPreviousTagSize) []
      .ok
        { version := byteAt data 3
          hasAudio := flags &&& kFlagAudio ≠ 0
          hasVideo := flags &&& kFlagVideo ≠ 0
          dataOffset
          previousTagSize0 := readU32BeAt data pos
          tags }

/-! ## Reading back what was written -/

/-- What a tag says: its type, its timestamp and its data. -/
structure Tag where
  type : UInt8
  timestamp : UInt32
  payload : Bytes
deriving DecidableEq

def Tag.bytes : Bytes := appendTag [] tag.type tag.payload tag.timestamp

/-- The size field of a tag has 24 bits. -/
def Tag.Fits : Prop := tag.payload.length < 2 ^ 24
deriving Decidable

/-- What a parsed tag says about the file it was found in. -/
def ParsedTag.read (file : Bytes) (tag : ParsedTag) : Tag :=
  { type := tag.type
    timestamp := tag.timestamp
    payload := (file.drop tag.dataOffset).take tag.dataSize.toNat }

@[simp] theorem Tag.length_bytes :
    tag.bytes.length = kTagHeaderSize + tag.payload.length + kPreviousTagSize := by
  simp [Tag.bytes, appendTag, kTagHeaderSize, kPreviousTagSize]
  omega

section Placed

variable {data : Bytes} {offset : ℕ}

theorem readU24BeAt_placed {value : UInt32} (hval : value.toNat < 2 ^ 24)
    (h : Placed data offset (writeU24Be value)) : readU24BeAt data offset = value := by
  rw [readU24BeAt, byteAt_placed h.head, byteAt_placed h.tail.head,
    byteAt_placed h.tail.tail, readU24Be_write hval]

theorem toNat_low24 (timestamp : UInt32) :
    (timestamp &&& 0x00FFFFFF).toNat = timestamp.toNat % 2 ^ 24 := by
  exact Nat.and_two_pow_sub_one_eq_mod _ 24

theorem timestamp_split (timestamp : UInt32) :
    ((timestamp >>> 24).toUInt8.toUInt32 <<< 24) ||| (timestamp &&& 0x00FFFFFF) = timestamp := by
  have hlt := timestamp.toNat_lt
  apply UInt32.toNat_inj.mp
  rw [UInt32.toNat_or, toNat_toUInt32_shiftLeft _ (by decide),
    toNat_shiftRight_toUInt8 timestamp (by decide), toNat_low24]
  change timestamp.toNat / 2 ^ 24 % 256 * 2 ^ 24 ||| timestamp.toNat % 2 ^ 24 = _
  rw [mul_two_pow_or_eq_add (Nat.mod_lt _ (by norm_num))]
  omega

/-- What the parser notes of a tag that starts at `offset`. -/
def Tag.parsed (tag : Tag) (offset : ℕ) : ParsedTag :=
  { type := tag.type
    dataSize := UInt32.ofNat tag.payload.length
    timestamp := tag.timestamp
    previousTagSize := UInt32.ofNat kTagHeaderSize + UInt32.ofNat tag.payload.length
    dataOffset := offset + kTagHeaderSize }

def parsedFrom : ℕ → List Tag → List ParsedTag
  | _, [] => []
  | offset, tag :: rest => tag.parsed offset :: parsedFrom (offset + tag.bytes.length) rest

/-- Where the fields of a tag stand that the parser reads. -/
structure Tag.Standing (data : Bytes) (offset : ℕ) (tag : Tag) : Prop where
  type : byteAt data offset = tag.type
  dataSize : readU24BeAt data (offset + 1) = UInt32.ofNat tag.payload.length
  low : readU24BeAt data (offset + 4) = tag.timestamp &&& 0x00FFFFFF
  high : byteAt data (offset + 7) = (tag.timestamp >>> 24).toUInt8
  payload : (data.drop (offset + kTagHeaderSize)).take tag.payload.length = tag.payload
  previous : readU32BeAt data (offset + kTagHeaderSize + tag.payload.length) =
    UInt32.ofNat kTagHeaderSize + UInt32.ofNat tag.payload.length
  room : offset + kTagHeaderSize + tag.payload.length + kPreviousTagSize ≤ data.length

theorem Tag.toNat_size {tag : Tag} (hfits : tag.Fits) :
    (UInt32.ofNat tag.payload.length).toNat = tag.payload.length :=
  toNat_ofNat_u32 (Nat.lt_trans hfits (by norm_num))

theorem Tag.standing_of_placed {tag : Tag} (hfits : tag.Fits)
    (h : Placed data offset tag.bytes) : tag.Standing data offset := by
  have hroom := h.add_length_le
  rw [Tag.length_bytes] at hroom
  have hsize : (UInt32.ofNat tag.payload.length).toNat < 2 ^ 24 := by
    rw [Tag.toNat_size hfits]
    exact hfits
  have hlow : (tag.timestamp &&& 0x00FFFFFF).toNat < 2 ^ 24 := by
    rw [toNat_low24]
    exact Nat.mod_lt _ (by norm_num)
  rw [Tag.bytes, appendTag, nil_append] at h
  exact
    { type := byteAt_placed h.left
      dataSize := readU24BeAt_placed hsize h.right.left
      low := readU24BeAt_placed hlow h.right.right.left
      high := byteAt_placed h.right.right.right.left
      payload := h.right.right.right.right.right.left.take_drop
      previous := readU32BeAt_placed h.right.right.right.right.right.right
      room := by omega }

theorem parseTags_tag {tag : Tag} (hfits : tag.Fits)
    (h : Placed data offset tag.bytes) (fuel : ℕ) (tags : List ParsedTag) :
    parseTags data (fuel + 1) offset tags = parseTags data fuel (offset + tag.bytes.length)
        (tags ++ [tag.parsed offset]) := by
  have hstd := Tag.standing_of_placed hfits h
  have hroom := hstd.room
  have hhdr : 0 < kTagHeaderSize := by decide
  rw [parseTags, if_pos (by omega), if_neg (by omega)]
  simp only [hstd.dataSize, Tag.toNat_size hfits, hstd.low,
    hstd.high, hstd.type, hstd.previous, timestamp_split]
  rw [if_neg (by omega), Tag.length_bytes, ← Nat.add_assoc, ← Nat.add_assoc]
  rfl

theorem parseTags_placed {file : List Tag} (hfits : ∀ tag ∈ file, tag.Fits)
    (h : Placed data offset (file.flatMap Tag.bytes))
    (hend : offset + (file.flatMap Tag.bytes).length = data.length) {fuel : ℕ}
    (hfuel : file.length ≤ fuel) (tags : List ParsedTag) :
    parseTags data fuel offset tags = .ok (tags ++ parsedFrom offset file) := by
  induction file generalizing offset fuel tags with
  | nil =>
    have hdone : ¬ offset < data.length := by simp at hend; omega
    cases fuel with
    | zero => simp [parseTags, parsedFrom]
    | succ fuel => simp [parseTags, parsedFrom, hdone]
  | cons tag rest ih =>
    obtain ⟨fuel, rfl⟩ : ∃ n, fuel = n + 1 := ⟨fuel - 1, by rw [length_cons] at hfuel; omega⟩
    rw [flatMap_cons] at h hend
    rw [length_append] at hend
    rw [parseTags_tag (hfits tag mem_cons_self) h.left,
      ih (fun t ht => hfits t (mem_cons_of_mem _ ht)) h.right (by omega) (by simpa using hfuel),
      parsedFrom, append_assoc, singleton_append]

theorem read_parsedFrom {file : List Tag} (hfits : ∀ tag ∈ file, tag.Fits)
    (h : Placed data offset (file.flatMap Tag.bytes)) :
    (parsedFrom offset file).map (ParsedTag.read data) = file := by
  induction file generalizing offset with
  | nil => rfl
  | cons tag rest ih =>
    have htag : tag.Fits := hfits tag mem_cons_self
    have hpay := (Tag.standing_of_placed htag h.left).payload
    rw [parsedFrom, map_cons, ih (fun t ht => hfits t (mem_cons_of_mem _ ht)) h.right]
    simp only [ParsedTag.read, Tag.parsed, Tag.toNat_size htag, hpay]

end Placed

theorem length_le_flatMap_bytes (file : List Tag) :
    file.length ≤ (file.flatMap Tag.bytes).length := by
  induction file with
  | nil => simp
  | cons tag rest ih =>
    rw [flatMap_cons, length_append, Tag.length_bytes, length_cons]
    unfold kTagHeaderSize
    omega

theorem fileHeader_fields (hasAudio hasVideo : Bool) (rest : Bytes) :
    let file := encodeFileHeader hasAudio hasVideo ++ rest
    byteAt file 0 = 0x46 ∧ byteAt file 1 = 0x4C ∧ byteAt file 2 = 0x56 ∧ byteAt file 3 = 1 ∧
      decide (byteAt file 4 &&& kFlagAudio ≠ 0) = hasAudio ∧
      decide (byteAt file 4 &&& kFlagVideo ≠ 0) = hasVideo ∧
      readU32BeAt file 5 = 9 ∧ readU32BeAt file 9 = 0 := by
  have haud : ∀ hasAudio hasVideo : Bool,
      decide (typeFlags hasAudio hasVideo &&& kFlagAudio ≠ 0) = hasAudio := by
    decide
  have hvid : ∀ hasAudio hasVideo : Bool,
      decide (typeFlags hasAudio hasVideo &&& kFlagVideo ≠ 0) = hasVideo := by
    decide
  exact ⟨rfl, rfl, rfl, rfl, haud hasAudio hasVideo, hvid hasAudio hasVideo,
    readU32Be_write 9, readU32Be_write 0⟩

/-- A header and whole tags are parsed, and the parsed tags read as the tags
that were written. -/
theorem parseFlv_file (hasAudio hasVideo : Bool) {tags : List Tag}
    (hfits : ∀ tag ∈ tags, tag.Fits) {file : Bytes}
    (hfile : file = encodeFileHeader hasAudio hasVideo ++ tags.flatMap Tag.bytes) :
    ∃ parsed, parseFlv file = .ok parsed ∧ parsed.version = 1 ∧
      parsed.hasAudio = hasAudio ∧ parsed.hasVideo = hasVideo ∧
      parsed.previousTagSize0 = 0 ∧
      parsed.tags.map (ParsedTag.read file) = tags := by
  have hlen : file.length = kFileHeaderTotalSize + (tags.flatMap Tag.bytes).length := by
    rw [hfile, length_append, length_encodeFileHeader]
  have htags : Placed file kFileHeaderTotalSize (tags.flatMap Tag.bytes) :=
    ⟨encodeFileHeader hasAudio hasVideo, [], by simpa using hfile, rfl⟩
  have hfuel : tags.length ≤ file.length := by
    have := length_le_flatMap_bytes tags
    omega
  have hpar := parseTags_placed hfits htags hlen.symm hfuel []
  obtain ⟨h₀, h₁, h₂, hver, haud, hvid, hoff, hprevious⟩ :=
    fileHeader_fields hasAudio hasVideo (tags.flatMap Tag.bytes)
  rw [← hfile] at h₀ h₁ h₂ hver haud hvid hoff hprevious
  have hnine : (9 : UInt32).toNat = 9 := rfl
  have hsizes : kFileHeaderTotalSize = 9 + kPreviousTagSize := rfl
  rw [parseFlv, if_neg (by omega), if_neg (by rw [h₀, h₁, h₂]; decide)]
  dsimp only
  rw [hoff, hnine, if_neg (by rintro (h | h); exacts [absurd h (by decide), by omega]),
    ← hsizes, hpar]
  exact ⟨_, rfl, hver, haud, hvid, hprevious, read_parsedFrom hfits htags⟩

end RtmpCore.Media.Flv
