import RtmpCore.Media.Flv

/-!
# The layout of the metadata tag

The script data of `onMetaData` is a fixed front part, the duration, a middle
part, the file size and the end marker.  The two reported offsets are those of
the duration and of the file size, so a tag in which one of the two is
exchanged differs from the old one in these eight bytes only.

Read as AMF0, the script data is the name `onMetaData` and an array with the
metadata values.
-/

namespace RtmpCore.Media.Flv

open RtmpCore.Core Amf0 List

/-- The bytes of a member before its number. -/
def memberHead (key : String) : Bytes :=
  writeU16Be (UInt16.ofNat (textBytes key).length) ++ (textBytes key ++ appendMarker .number)

def member (p : String × UInt64) : Bytes := memberHead p.1 ++ encodeDoubleBe p.2

namespace ScriptBody

variable (script : ScriptBody) (key : String) (value : UInt64)

theorem body_appendNumber :
    (script.appendNumber key value).body = script.body ++ member (key, value) := by
  simp only [appendNumber, appendAmf0StringBody, member, memberHead, append_assoc]

theorem filesizeOff_appendNumber : (script.appendNumber "filesize" value).filesizeOff =
      (script.body ++ memberHead "filesize").length := by
  simp only [appendNumber, if_true, appendAmf0StringBody, memberHead, append_assoc]

variable {script key value}

theorem body_foldl_appendNumber (numbers : List (String × UInt64)) :
    (numbers.foldl (fun script p => script.appendNumber p.1 p.2) script).body =
      script.body ++ numbers.flatMap member := by
  induction numbers generalizing script with
  | nil => simp
  | cons p rest ih => rw [foldl_cons, ih, body_appendNumber, flatMap_cons, append_assoc]

end ScriptBody

/-! ## The parts of the script data -/

/-- Everything before the duration. -/
def scriptFront : Bytes :=
  appendAmf0StringBody (appendMarker .string) (textBytes "onMetaData") ++
    appendMarker .ecmaArray ++ writeU32Be 10 ++ memberHead "duration"

/-- The member that carries a Boolean. -/
def stereoMember (stereo : Bool) : Bytes :=
  writeU16Be (UInt16.ofNat (textBytes "stereo").length) ++
    (textBytes "stereo" ++ (appendMarker .boolean ++ [if stereo then 0x01 else 0x00]))

/-- Everything between the duration and the file size. -/
def scriptMiddle (metadata : OnMetaData) : Bytes :=
  metadata.numbersA.tail.flatMap member ++ (stereoMember metadata.stereo ++
    (member ("audiocodecid", metadata.audiocodecid) ++ memberHead "filesize"))

def scriptEnd : Bytes := [0x00, 0x00, 0x09]

variable (metadata : OnMetaData)

@[simp] theorem scriptMiddle_duration (duration : UInt64) :
    scriptMiddle { metadata with duration } = scriptMiddle metadata := by
  simp only [scriptMiddle, OnMetaData.numbersA, tail_cons]

@[simp] theorem scriptMiddle_filesize (filesize : UInt64) :
    scriptMiddle { metadata with filesize } = scriptMiddle metadata := by
  simp only [scriptMiddle, OnMetaData.numbersA]

theorem onmetadataBody_parts : (onmetadataBody metadata).body =
      scriptFront ++ (encodeDoubleBe metadata.duration ++ (scriptMiddle metadata ++
          (encodeDoubleBe metadata.filesize ++ scriptEnd))) := by
  have hcnt : metadata.numbersA.length + 1 + metadata.numbersB.length = 10 := rfl
  have hten : UInt32.ofNat 10 = 10 := rfl
  have hfst : metadata.numbersA = ("duration", metadata.duration) :: metadata.numbersA.tail := rfl
  have hlast : metadata.numbersB.flatMap member = member ("audiocodecid", metadata.audiocodecid) ++
        member ("filesize", metadata.filesize) := by
    simp [OnMetaData.numbersB]
  dsimp only [onmetadataBody]
  rw [ScriptBody.body_foldl_appendNumber, hlast, hcnt, hten]
  rw [ScriptBody.body_foldl_appendNumber, hfst, flatMap_cons]
  simp only [scriptFront, scriptMiddle, stereoMember, scriptEnd, member,
    appendAmf0StringBody, append_assoc]

theorem onmetadataBody_durationOff :
    (onmetadataBody metadata).durationOff = scriptFront.length := by
  rfl

theorem onmetadataBody_filesizeOff : (onmetadataBody metadata).filesizeOff =
      (scriptFront ++ (encodeDoubleBe metadata.duration ++ scriptMiddle metadata)).length := by
  have hcnt : metadata.numbersA.length + 1 + metadata.numbersB.length = 10 := rfl
  have hten : UInt32.ofNat 10 = 10 := rfl
  have hfst : metadata.numbersA = ("duration", metadata.duration) :: metadata.numbersA.tail := rfl
  have hsnd : metadata.numbersB =
      [("audiocodecid", metadata.audiocodecid), ("filesize", metadata.filesize)] := rfl
  dsimp only [onmetadataBody]
  rw [hcnt, hten, hsnd, foldl_cons, foldl_cons, foldl_nil,
    ScriptBody.filesizeOff_appendNumber, ScriptBody.body_appendNumber]
  rw [ScriptBody.body_foldl_appendNumber, hfst, flatMap_cons]
  simp only [scriptFront, scriptMiddle, stereoMember, member, appendAmf0StringBody, append_assoc]

/-! ## The tag -/

def metadataTag (metadata : OnMetaData) : Tag :=
  { type := kTagTypeScriptData, timestamp := 0, payload := (onmetadataBody metadata).body }

theorem bytes_metadataTag :
    (metadataTag metadata).bytes = (buildOnmetadataTag metadata 0).bytes := rfl

theorem length_onmetadataBody : (onmetadataBody metadata).body.length = 220 := by
  have hfront : scriptFront.length = 29 := by decide
  have hmiddle : (scriptMiddle metadata).length = 172 := by rfl
  simp only [onmetadataBody_parts, length_append, hfront, hmiddle,
    length_encodeDoubleBe, scriptEnd, length_cons, length_nil]

theorem metadataTag_fits : (metadataTag metadata).Fits := by
  change (onmetadataBody metadata).body.length < 2 ^ 24
  rw [length_onmetadataBody]
  norm_num

/-- The bytes of a tag before its data, when the data has this length. -/
def tagHeader (tagType : UInt8) (dataSize : ℕ) (timestamp : UInt32) : Bytes :=
  [tagType] ++ (writeU24Be (UInt32.ofNat dataSize) ++ (writeU24Be (timestamp &&& 0x00FFFFFF) ++
      ([(timestamp >>> 24).toUInt8] ++ writeU24Be 0)))

def tagTrailer (dataSize : ℕ) : Bytes :=
  writeU32Be (UInt32.ofNat kTagHeaderSize + UInt32.ofNat dataSize)

theorem Tag.bytes_eq (tag : Tag) :
    tag.bytes = tagHeader tag.type tag.payload.length tag.timestamp ++
      (tag.payload ++ tagTrailer tag.payload.length) := by
  simp only [Tag.bytes, appendTag, tagHeader, tagTrailer, nil_append, append_assoc]

/-- The eight bytes at the reported offset are the duration, and the other bytes
do not depend on it. -/
theorem buildOnmetadataTag_duration : ∃ front back,
      front.length = (buildOnmetadataTag metadata 0).durationValueOffset ∧
      ∀ duration, (metadataTag { metadata with duration }).bytes =
        front ++ (encodeDoubleBe duration ++ back) := by
  refine ⟨tagHeader kTagTypeScriptData 220 0 ++ scriptFront,
    scriptMiddle metadata ++ (encodeDoubleBe metadata.filesize ++
      (scriptEnd ++ tagTrailer 220)), ?_, fun duration => ?_⟩
  · exact congrArg (kTagHeaderSize + ·) (onmetadataBody_durationOff metadata).symm
  · have hbody := onmetadataBody_parts { metadata with duration }
    rw [Tag.bytes_eq]
    dsimp only [metadataTag]
    rw [length_onmetadataBody, hbody]
    simp only [append_assoc, scriptMiddle_duration]

theorem buildOnmetadataTag_filesize : ∃ front back,
      front.length = (buildOnmetadataTag metadata 0).filesizeValueOffset ∧
      ∀ filesize, (metadataTag { metadata with filesize }).bytes =
        front ++ (encodeDoubleBe filesize ++ back) := by
  refine ⟨tagHeader kTagTypeScriptData 220 0 ++ (scriptFront ++
      (encodeDoubleBe metadata.duration ++ scriptMiddle metadata)),
    scriptEnd ++ tagTrailer 220, ?_, fun filesize => ?_⟩
  · rw [length_append]
    exact congrArg (kTagHeaderSize + ·) (onmetadataBody_filesizeOff metadata).symm
  · have hbody := onmetadataBody_parts { metadata with filesize }
    rw [Tag.bytes_eq]
    dsimp only [metadataTag]
    rw [length_onmetadataBody, hbody]
    simp only [append_assoc, scriptMiddle_filesize]

/-! ## The script data as AMF0 -/

/-- The properties that the metadata tag carries, in their order. -/
def OnMetaData.properties (metadata : OnMetaData) : Amf0PropertyList :=
  metadata.numbersA.map (fun p => (textBytes p.1, .number p.2)) ++
    ((textBytes "stereo", .boolean metadata.stereo) ::
      metadata.numbersB.map (fun p => (textBytes p.1, .number p.2)))

/-- What the script data says. -/
def OnMetaData.values (metadata : OnMetaData) : List Amf0Value :=
  [.string "onMetaData", .ecmaArray metadata.properties]

theorem appendPropertyName_eq {name : Bytes} (h : name.length ≤ 65535) :
    appendPropertyName name = writeU16Be (UInt16.ofNat name.length) ++ name := by
  have hmask : name.length &&& 0xFFFF = name.length := by
    rw [show 0xFFFF = 2 ^ 16 - 1 from rfl, Nat.and_two_pow_sub_one_eq_mod,
      Nat.mod_eq_of_lt (by omega)]
  rw [appendPropertyName, hmask]

theorem encode_string_short {text : Bytes} (h : text.length ≤ 0xFFFF) :
    encode (.string text) = appendAmf0StringBody (appendMarker .string) text := by
  rw [encode, if_pos h, appendStringBody, if_pos h, appendAmf0StringBody]

theorem appendProperties_numbers {numbers : List (String × UInt64)}
    (h : ∀ p ∈ numbers, (textBytes p.1).length ≤ 65535) (rest : Amf0PropertyList) :
    appendProperties (numbers.map (fun p => (textBytes p.1, .number p.2)) ++ rest) =
      numbers.flatMap member ++ appendProperties rest := by
  induction numbers with
  | nil => rfl
  | cons p numbers ih =>
    rw [map_cons, cons_append, appendProperties, appendPropertyName_eq (h p mem_cons_self), encode,
      ih fun q hq => h q (mem_cons_of_mem _ hq), flatMap_cons, member, memberHead]
    simp only [appendF64Be, encodeDoubleBe, append_assoc]

theorem onmetadataBody_eq_encode :
    (onmetadataBody metadata).body = metadata.values.flatMap encode := by
  have hname : (textBytes "onMetaData").length ≤ 0xFFFF := by decide
  have hstereo : (textBytes "stereo").length ≤ 65535 := by decide
  have hkeysA : ∀ p ∈ metadata.numbersA, (textBytes p.1).length ≤ 65535 := by
    simp only [OnMetaData.numbersA, forall_mem_cons]
    exact ⟨by decide, by decide, by decide, by decide, by decide, by decide, by decide, nofun⟩
  have hkeysB : ∀ p ∈ metadata.numbersB, (textBytes p.1).length ≤ 65535 := by
    simp only [OnMetaData.numbersB, forall_mem_cons]
    exact ⟨by decide, by decide, nofun⟩
  have hcnt : UInt32.ofNat metadata.properties.length = 10 := rfl
  have hend : appendProperties [] = scriptEnd := rfl
  have hprops : appendProperties metadata.properties =
      metadata.numbersA.flatMap member ++ (stereoMember metadata.stereo ++
        (metadata.numbersB.flatMap member ++ scriptEnd)) := by
    have hB := appendProperties_numbers hkeysB []
    rw [append_nil, hend] at hB
    rw [OnMetaData.properties, appendProperties_numbers hkeysA, appendProperties,
      hB, appendPropertyName_eq hstereo, encode, stereoMember]
    simp only [append_assoc]
  rw [onmetadataBody_parts, OnMetaData.values, flatMap_cons, flatMap_cons, flatMap_nil, append_nil,
    encode_string_short hname, encode, hcnt, hprops]
  have hA : metadata.numbersA.flatMap member = member ("duration", metadata.duration) ++
        metadata.numbersA.tail.flatMap member := rfl
  have hB : metadata.numbersB.flatMap member = member ("audiocodecid", metadata.audiocodecid) ++
        member ("filesize", metadata.filesize) := by
    simp [OnMetaData.numbersB]
  rw [hA, hB]
  simp only [scriptFront, scriptMiddle, member, append_assoc]

theorem decodeAll_onmetadataBody :
    decodeAll (onmetadataBody metadata).body = .ok metadata.values := by
  have hfits : ∀ value ∈ metadata.values, value.fits = true := by
    simp only [OnMetaData.values, forall_mem_cons]
    exact ⟨rfl, rfl, nofun⟩
  have hnest : ∀ value ∈ metadata.values, value.nesting ≤ kMaxNestingDepth := by
    simp only [OnMetaData.values, forall_mem_cons]
    exact ⟨Nat.zero_le _, Nat.le_add_left 1 31, nofun⟩
  have h := decodeAllFrom_placed hfits hnest []
  rw [onmetadataBody_eq_encode]
  exact h

end RtmpCore.Media.Flv
