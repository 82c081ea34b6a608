import RtmpCore.Recording.Recorder

/-!
# What a recording holds

The contents of a recording are its metadata and its media tags.  They are
written as the header, the metadata tag and the media tags, one append for
each; the two patches then exchange the duration and the file size.  A file
after none, one or both of the patches is again the file of some contents, and
the parser reads these contents from it.
-/

namespace RtmpCore.Recording

open RtmpCore.Core Amf0 Media.Flv List

structure Contents where
  metadata : OnMetaData
  tags : List Tag
deriving DecidableEq

namespace Contents

variable (x : Contents)

/-- The pieces in which the contents are appended. -/
def pieces : List Bytes := Recorder.header :: (metadataTag x.metadata).bytes :: x.tags.map Tag.bytes

def file : Bytes := x.pieces.flatten

def ops : List Op := x.pieces.map .append

def maxTimestamp : UInt32 :=
  x.tags.foldl (fun latest tag => if latest < tag.timestamp then tag.timestamp else latest) 0

/-- The duration in seconds, as a double. -/
def duration : UInt64 := doubleOfRatio x.maxTimestamp.toNat 1000

def filesize : UInt64 := doubleOfRatio x.file.length 1

def durationOffset : ℕ :=
  Recorder.header.length + (buildOnmetadataTag x.metadata 0).durationValueOffset

def filesizeOffset : ℕ :=
  Recorder.header.length + (buildOnmetadataTag x.metadata 0).filesizeValueOffset

/-- The two patches that complete the metadata tag. -/
def patches : List (ℕ × Bytes) :=
  [(x.durationOffset, encodeDoubleBe x.duration), (x.filesizeOffset, encodeDoubleBe x.filesize)]

def patched : ℕ → Contents
  | 0 => x
  | 1 => { x with metadata := { x.metadata with duration := x.duration } }
  | _ + 2 =>
    { x with
      metadata := { x.metadata with duration := x.duration, filesize := x.filesize } }

@[simp] theorem tags_patched (k : ℕ) : (x.patched k).tags = x.tags := by
  match k with
  | 0 => rfl
  | 1 => rfl
  | _ + 2 => rfl

theorem file_eq : x.file = Recorder.header ++ ((metadataTag x.metadata).bytes ++
      x.tags.flatMap Tag.bytes) := by
  simp only [file, pieces, flatten_cons, flatMap_def]

theorem two_le_length_ops : 2 ≤ x.ops.length := by exact Nat.le_add_left 2 _

theorem fileOf_ops : fileOf x.ops = { content := x.file, writeOffset := x.file.length } :=
  fileOf_appends x.pieces

variable {x}

/-- Overwriting the value that stands at an offset of the metadata tag gives the
file of the other metadata. -/
theorem overwrite_metadata {metadata : OnMetaData} {front back old new : Bytes}
    {offset : ℕ} (hfront : front.length = offset)
    (hold : (metadataTag x.metadata).bytes = front ++ (old ++ back))
    (hnew : (metadataTag metadata).bytes = front ++ (new ++ back))
    (hlen : old.length = new.length) :
    overwrite 0 x.file (Recorder.header.length + offset) new = { x with metadata }.file := by
  have hbef : (Recorder.header ++ front).length = Recorder.header.length + offset := by
    rw [length_append, hfront]
  have h : overwrite 0 ((Recorder.header ++ front) ++ (old ++ (back ++ x.tags.flatMap Tag.bytes)))
        (Recorder.header.length + offset) new =
      (Recorder.header ++ front) ++ (new ++ (back ++ x.tags.flatMap Tag.bytes)) :=
    overwrite_middle hlen hbef
  rw [file_eq, file_eq, hold, hnew]
  simp only [append_assoc]
  exact h

theorem overwrite_duration (duration : UInt64) :
    overwrite 0 x.file x.durationOffset (encodeDoubleBe duration) =
      { x with metadata := { x.metadata with duration } }.file := by
  obtain ⟨front, back, hfront, hby⟩ := buildOnmetadataTag_duration x.metadata
  have hold := hby x.metadata.duration
  exact overwrite_metadata hfront hold (hby duration) (by simp)

theorem overwrite_filesize (filesize : UInt64) :
    overwrite 0 x.file x.filesizeOffset (encodeDoubleBe filesize) =
      { x with metadata := { x.metadata with filesize } }.file := by
  obtain ⟨front, back, hfront, hby⟩ := buildOnmetadataTag_filesize x.metadata
  have hold := hby x.metadata.filesize
  exact overwrite_metadata hfront hold (hby filesize) (by simp)

theorem filesizeOffset_patched_one : (x.patched 1).filesizeOffset = x.filesizeOffset := by
  simp only [filesizeOffset, patched, buildOnmetadataTag,
    onmetadataBody_filesizeOff, length_append, length_encodeDoubleBe, scriptMiddle_duration]

theorem content_fileOf_patches {k : ℕ} (hk : k ≤ 2) : (fileOf (x.ops ++
      (x.patches.take k).map fun p => Op.patch p.1 p.2)).content =
      (x.patched k).file := by
  have hone : (fileOf (x.ops ++ [.patch x.durationOffset
      (encodeDoubleBe x.duration)])).content = (x.patched 1).file := by
    rw [fileOf_append, fileOf_ops]
    exact overwrite_duration x.duration
  match k, hk with
  | 0, _ =>
    rw [take_zero, map_nil, append_nil, fileOf_ops]
    rfl
  | 1, _ => exact hone
  | 2, _ =>
    have hpat : (x.patches.take 2).map (fun p => Op.patch p.1 p.2) =
        [.patch x.durationOffset (encodeDoubleBe x.duration)] ++
          [.patch x.filesizeOffset (encodeDoubleBe x.filesize)] := rfl
    rw [hpat, ← append_assoc, fileOf_append]
    dsimp only [File.apply, File.target, Op.data]
    rw [hone, ← filesizeOffset_patched_one, overwrite_filesize]
    rfl

theorem parseFlv_file (hfits : ∀ tag ∈ x.tags, tag.Fits) : ∃ parsed, parseFlv x.file = .ok parsed ∧
      parsed.tags.map (ParsedTag.read x.file) = metadataTag x.metadata :: x.tags := by
  have hall : ∀ tag ∈ metadataTag x.metadata :: x.tags, tag.Fits :=
    forall_mem_cons.mpr ⟨metadataTag_fits x.metadata, hfits⟩
  have hfile : x.file = encodeFileHeader true true ++
      (metadataTag x.metadata :: x.tags).flatMap Tag.bytes := by
    rfl
  obtain ⟨parsed, hpar, _, _, _, _, htags⟩ := Media.Flv.parseFlv_file true true hall hfile
  exact ⟨parsed, hpar, htags⟩

end Contents

end RtmpCore.Recording
