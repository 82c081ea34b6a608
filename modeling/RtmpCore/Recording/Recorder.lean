import RtmpCore.Chunk.Types
import RtmpCore.Core.Double
import RtmpCore.Media.FlvMetadata
import RtmpCore.Recording.FileSink

/-!
# The recorder

One recorder writes the messages of one publisher into one FLV file.  The
header and the metadata tag go out before the first media tag.  A media tag
that does not fit the queue of the sink is dropped and recording goes on; every
other refusal stops it.  When the recording ends, the recorder patches the
duration and the file size into the metadata tag and finalizes the sink, on the
failure path too.

The methods are programs over the operations of the sink.
-/

namespace RtmpCore.Recording

open RtmpCore.Core Amf0 Chunk Media.Flv

structure RecorderConfig where
  maxQueuedBytes : ℕ := 16 * 1024 * 1024
deriving DecidableEq

structure RecorderStats where
  tagsWritten : ℕ := 0
  bytesWritten : ℕ := 0
  audioTags : ℕ := 0
  videoTags : ℕ := 0
  droppedFrames : ℕ := 0
  droppedBytes : ℕ := 0
  maxTimestamp : UInt32 := 0
  metadataWritten : Bool := false
  failed : Bool := false
deriving DecidableEq

structure Recorder where
  config : RecorderConfig := {}
  stats : RecorderStats := {}
  started : Bool := false
  finalized : Bool := false
  fileOffset : ℕ := 0
  metadata : OnMetaData := {}
  durationPatchOffset : Option ℕ := none
  filesizePatchOffset : Option ℕ := none
deriving DecidableEq

/-! ## Metadata of the publisher -/

/-- The number under a key, or the old value when there is none. -/
def copyNumber (value : Amf0Value) (key : String) (out : UInt64) : UInt64 :=
  match value.find (textBytes key) with
  | some (.number bits) => bits
  | _ => out

def copyMetadata (value : Amf0Value) (metadata : OnMetaData) : OnMetaData :=
  { metadata with
    duration := copyNumber value "duration" metadata.duration
    width := copyNumber value "width" metadata.width
    height := copyNumber value "height" metadata.height
    framerate := copyNumber value "framerate" metadata.framerate
    videocodecid := copyNumber value "videocodecid" metadata.videocodecid
    audiocodecid := copyNumber value "audiocodecid" metadata.audiocodecid
    audiosamplerate := copyNumber value "audiosamplerate" metadata.audiosamplerate
    audiosamplesize := copyNumber value "audiosamplesize" metadata.audiosamplesize
    stereo :=
      match value.find "stereo" with
      | some (.boolean stereo) => stereo
      | _ => metadata.stereo }

def isMetadataObject : Amf0Value → Bool
  | .object _ | .ecmaArray _ => true
  | _ => false

/-- The fields of the first object or array of the payload.  A malformed
payload leaves the metadata as it is. -/
def extractMetadata (payload : Bytes) (metadata : OnMetaData) : OnMetaData :=
  match decodeAll payload with
  | .error _ => metadata
  | .ok values =>
    match values.find? isMetadataObject with
    | some value => copyMetadata value metadata
    | none => metadata

namespace Recorder

variable (r : Recorder) (message : RtmpMessage)

def markFailed : Recorder := { r with stats := { r.stats with failed := true } }

/-! ## Writing -/

def header : Bytes := encodeFileHeader true true

def ensureStarted : SinkProg Recorder :=
  if r.started || r.stats.failed then pure r
  else do
    let r := { r with started := true }
    match ← FileSink.append header with
    | .error _ => pure r.markFailed
    | .ok _ =>
      pure { r with
        fileOffset := r.fileOffset + header.length
        stats := { r.stats with bytesWritten := r.stats.bytesWritten + header.length } }

def appendMetadata : SinkProg Recorder := do
  let tag := buildOnmetadataTag r.metadata 0
  let base := r.fileOffset
  match ← FileSink.append tag.bytes with
  | .error _ => pure r.markFailed
  | .ok _ =>
    pure { r with
      durationPatchOffset := some (base + tag.durationValueOffset)
      filesizePatchOffset := some (base + tag.filesizeValueOffset)
      fileOffset := r.fileOffset + tag.bytes.length
      stats := { r.stats with
        bytesWritten := r.stats.bytesWritten + tag.bytes.length
        tagsWritten := r.stats.tagsWritten + 1
        metadataWritten := true } }

def ensureMetadataWritten : SinkProg Recorder :=
  if r.stats.metadataWritten || r.stats.failed then pure r
  else do
    let r ← r.ensureStarted
    if r.stats.failed then pure r else r.appendMetadata

def drop (size : ℕ) : Recorder :=
  { r with
    stats := { r.stats with
      droppedFrames := r.stats.droppedFrames + 1
      droppedBytes := r.stats.droppedBytes + size } }

def writeTag (tagType : UInt8) (payload : Bytes) (timestamp : UInt32) : SinkProg Recorder :=
  if r.stats.failed || r.finalized then pure r
  else do
    let framed := appendTag [] tagType payload timestamp
    let pending ← FileSink.pendingBytes
    if r.config.maxQueuedBytes < pending + framed.length then pure (r.drop framed.length)
    else
      match ← FileSink.append framed with
      | .error e =>
        -- A full queue is backpressure, everything else a broken file.
        if e.code = .resourceExhausted then pure (r.drop framed.length)
        else pure r.markFailed
      | .ok _ =>
        pure { r with
          fileOffset := r.fileOffset + framed.length
          stats := { r.stats with
            bytesWritten := r.stats.bytesWritten + framed.length
            tagsWritten := r.stats.tagsWritten + 1
            maxTimestamp :=
              if r.stats.maxTimestamp < timestamp then timestamp
              else r.stats.maxTimestamp } }

/-! ## The methods -/

def onMetadata : SinkProg Recorder :=
  if r.finalized || r.stats.failed || r.stats.metadataWritten then pure r
  else ensureMetadataWritten { r with metadata := extractMetadata message.payload r.metadata }

/-- The common part of the two media methods. -/
def onMedia (tagType : UInt8) (message : RtmpMessage)
    (count : RecorderStats → RecorderStats) : SinkProg Recorder :=
  if r.finalized || r.stats.failed || message.payload.isEmpty then pure r
  else do
    let r ← r.ensureMetadataWritten
    if r.stats.failed then pure r
    else do
      let r ← r.writeTag tagType message.payload message.timestamp
      pure { r with stats := count r.stats }

def onAudio : SinkProg Recorder :=
  r.onMedia kTagTypeAudio message fun stats => { stats with audioTags := stats.audioTags + 1 }

def onVideo : SinkProg Recorder :=
  r.onMedia kTagTypeVideo message fun stats => { stats with videoTags := stats.videoTags + 1 }

/-- Patch the two values of the metadata tag, and stop at the first refusal. -/
def patchValues (durationOffset filesizeOffset : ℕ) : SinkProg Recorder := do
  let duration := encodeDoubleBe (doubleOfRatio r.stats.maxTimestamp.toNat 1000)
  let filesize := encodeDoubleBe (doubleOfRatio r.fileOffset 1)
  match ← FileSink.patch durationOffset duration with
  | .error _ => pure r.markFailed
  | .ok _ =>
    match ← FileSink.patch filesizeOffset filesize with
    | .error _ => pure r.markFailed
    | .ok _ => pure r

def patchMetadata : SinkProg Recorder :=
  match r.stats.failed, r.durationPatchOffset, r.filesizePatchOffset with
  | false, some durationOffset, some filesizeOffset => r.patchValues durationOffset filesizeOffset
  | _, _, _ => pure r

def finalizeSink : SinkProg Recorder := do
  match ← FileSink.finalize with
  | .error _ => pure r.markFailed
  | .ok _ => pure r

/-- A recording that has failed is neither opened nor patched, but its sink is
finalized all the same. -/
def finalize : SinkProg Recorder :=
  if r.finalized then pure r
  else do
    let r ← { r with finalized := true }.ensureMetadataWritten
    let r ← r.patchMetadata
    r.finalizeSink

end Recorder

/-- What a publishing session asks of its recorder. -/
inductive RecorderEvent where
  | metadata (message : RtmpMessage)
  | audio (message : RtmpMessage)
  | video (message : RtmpMessage)
  | finalize
deriving DecidableEq

def Recorder.handle (r : Recorder) : RecorderEvent → SinkProg Recorder
  | .metadata message => r.onMetadata message
  | .audio message => r.onAudio message
  | .video message => r.onVideo message
  | .finalize => r.finalize

def Recorder.record (r : Recorder) : List RecorderEvent → SinkProg Recorder
  | [] => pure r
  | event :: rest => do
      let r ← r.handle event
      r.record rest

end RtmpCore.Recording
