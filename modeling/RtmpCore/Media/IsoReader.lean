import RtmpCore.Amf0.RoundTrip
import RtmpCore.Media.BoxWriter

/-!
# Reading a fragment back

A reader of the ISO base media file format walks over boxes: each one announces
its size, and the boxes of a file, or of a container box, tile it exactly.  The
`traf` of a track carries the base decode time in its `tfdt` and one entry for
each sample in its `trun`; which fields an entry has is said by the flags.  The
samples stand one behind the other from the data offset on, which counts from
the start of the `moof` and is a signed number.

The reader is written from these rules and not from the writer.  How a data
offset is read is a parameter, so that the two ways of reading it can be
compared.
-/

namespace RtmpCore.Media.Mp4.Iso

open RtmpCore.Core

/-! ## Boxes -/

structure Box where
  code : Bytes
  body : Bytes
deriving DecidableEq

variable (data : Bytes) (readOffset : UInt32 → ℤ) (file body : Bytes)

/-- The first box of the data, and the rest. -/
def readBox : Option (Box × Bytes) :=
  let size := (readU32BeAt data 0).toNat
  if data.length < 8 ∨ size < 8 ∨ data.length < size then none
  else some (⟨(data.drop 4).take 4, (data.take size).drop 8⟩, data.drop size)

/-- At most `count` boxes that tile the data. -/
def readBoxesUpTo : ℕ → Bytes → Option (List Box)
  | _, [] => some []
  | 0, _ :: _ => none
  | count + 1, data => do
      let (first, rest) ← readBox data
      let boxes ← readBoxesUpTo count rest
      some (first :: boxes)

/-- The boxes that tile the data; each takes at least eight bytes. -/
def readBoxes : Option (List Box) := readBoxesUpTo data.length data

/-- The version, the flags and the rest of a full box. -/
def readFullBox : Option (UInt8 × UInt32 × Bytes) :=
  if body.length < 4 then none
  else some (byteAt body 0, readU24BeAt body 1, body.drop 4)

def readU32 : Option (UInt32 × Bytes) :=
  if data.length < 4 then none else some (readU32BeAt data 0, data.drop 4)

def readU64 : Option UInt64 :=
  if data.length < 8 then none
  else some ((data.take 8).foldl shiftInByte 0)

/-- The only box with this code. -/
def theBox (code : String) (boxes : List Box) : Option Box :=
  match boxes.filter fun b => b.code = textBytes code with
  | [b] => some b
  | _ => none

/-! ## Track runs -/

/-- A 32-bit field as a signed number. -/
def signed (value : UInt32) : ℤ :=
  if value.toNat < 2 ^ 31 then value.toNat else value.toNat - 2 ^ 32

structure Entry where
  duration : UInt32
  size : UInt32
  flags : UInt32
  compositionOffset : ℤ
deriving DecidableEq

/-- A field that is there when its flag is set.  The defaults are those of the
`trex` boxes, which are zero. -/
def readField (present : Bool) (data : Bytes) : Option (UInt32 × Bytes) :=
  if present then readU32 data else some (0, data)

def readEntry (version : UInt8) (flags : UInt32) (data : Bytes) : Option (Entry × Bytes) := do
  let (duration, data) ← readField (flags &&& 0x000100 ≠ 0) data
  let (size, data) ← readField (flags &&& 0x000200 ≠ 0) data
  let (sampleFlags, data) ← readField (flags &&& 0x000400 ≠ 0) data
  let (offset, data) ← readField (flags &&& 0x000800 ≠ 0) data
  let compositionOffset := if version = 0 then (offset.toNat : ℤ) else signed offset
  some (⟨duration, size, sampleFlags, compositionOffset⟩, data)

/-- The entries of a run, which end with the box. -/
def readEntries (version : UInt8) (flags : UInt32) : ℕ → Bytes → Option (List Entry)
  | 0, data => if data.isEmpty then some [] else none
  | count + 1, data => do
      let (entry, rest) ← readEntry version flags data
      let entries ← readEntries version flags count rest
      some (entry :: entries)

structure Sample where
  data : Bytes
  duration : UInt32
  size : UInt32
  flags : UInt32
  compositionOffset : ℤ
deriving DecidableEq

/-- The samples of a run, which stand one behind the other from `position`
on. -/
def readSamples (file : Bytes) : ℤ → List Entry → Option (List Sample)
  | _, [] => some []
  | position, entry :: rest =>
    if position < 0 ∨ (file.length : ℤ) < position + entry.size.toNat then none
    else do
      let samples ← readSamples file (position + entry.size.toNat) rest
      some ({ data := (file.drop position.toNat).take entry.size.toNat
              duration := entry.duration
              size := entry.size
              flags := entry.flags
              compositionOffset := entry.compositionOffset } :: samples)

/-! ## Tracks -/

structure Track where
  trackId : UInt32
  baseDecodeTime : UInt64
  samples : List Sample
deriving DecidableEq

def readTfhd : Option UInt32 := do
  let (_, flags, data) ← readFullBox body
  -- Without this flag the data offset does not count from the `moof`.
  if flags &&& 0x020000 = 0 then none
  else
    let (trackId, _) ← readU32 data
    some trackId

def readTfdt : Option UInt64 := do
  let (version, _, data) ← readFullBox body
  if version = 1 then readU64 data
  else
    let (time, _) ← readU32 data
    some time.toUInt64

/-- The samples of a `trun` of a `moof` at the start of the file. -/
def readTrun : Option (List Sample) := do
  let (version, flags, data) ← readFullBox body
  let (count, data) ← readU32 data
  let (dataOffset, data) ← readField (flags &&& 0x000001 ≠ 0) data
  let entries ← readEntries version flags count.toNat data
  readSamples file (readOffset dataOffset) entries

def readTraf (traf : Box) : Option Track := do
  let boxes ← readBoxes traf.body
  let tfhd ← theBox "tfhd" boxes
  let tfdt ← theBox "tfdt" boxes
  let trun ← theBox "trun" boxes
  let trackId ← readTfhd tfhd.body
  let baseDecodeTime ← readTfdt tfdt.body
  let samples ← readTrun readOffset file trun.body
  some { trackId, baseDecodeTime, samples }

def readTrafs (readOffset : UInt32 → ℤ) (file : Bytes) : List Box → Option (List Track)
  | [] => some []
  | traf :: rest => do
      let track ← readTraf readOffset file traf
      let tracks ← readTrafs readOffset file rest
      some (track :: tracks)

/-- The tracks of a file that is a `moof` and an `mdat`. -/
def readFragment : Option (List Track) := do
  let boxes ← readBoxes file
  if boxes.map Box.code ≠ [textBytes "moof", "mdat"] then none
  else
    let moof ← theBox "moof" boxes
    let inner ← readBoxes moof.body
    readTrafs readOffset file (inner.filter fun b => b.code = "traf")

end RtmpCore.Media.Mp4.Iso
