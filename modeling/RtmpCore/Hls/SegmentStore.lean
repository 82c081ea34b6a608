import RtmpCore.Hls.Playlist
import RtmpCore.Support.Table

/-!
# The segment store

The segments of one stream: those of the live window, some older ones that can
still be fetched, and the parts of the segment that is being produced.  Each
function is one section under the lock of the store.

What the encryptor makes of a segment is part of the call, since keys are
random and rotate with time.  Time is what the monotonic clock shows, in
nanoseconds.
-/

namespace RtmpCore.Hls

open Text Http List

structure SegmentStoreConfig where
  liveWindowSegments : ℕ := 6
  retentionGraceSegments : ℕ := 4
  maxTotalBytes : ℕ := 256 * 1024 * 1024
  targetDurationSeconds : UInt32 := 4
  playlistVersion : UInt32 := 3
  playlistHoldBackSeconds : ℚ := 0
  repeatLastSegmentOnStall : Bool := false
  seamlessFallbackRecovery : Bool := false
  lowLatency : Bool := false
  partTargetDuration : ℤ := 0
  partWindowSegments : ℕ := 3
  partHoldBackSeconds : ℚ := 0
deriving DecidableEq

structure SegmentStore where
  config : SegmentStoreConfig := {}
  segments : List Segment := []
  byName : AList (fun _ : Bytes => Segment) := ∅
  openParts : List Part := []
  partsByName : AList (fun _ : Bytes => Part) := ∅
  bytesHeld : ℕ := 0
  discontinuitySequence : ℕ := 0
  ended : Bool := false
  fallbackActive : Bool := false
  lastSegmentAddedAt : Option ℕ := none
deriving DecidableEq

/-- An entry that is there already is kept. -/
def emplace {υ : Type} (t : AList fun _ : Bytes => υ) (key : Bytes)
    (value : υ) : AList fun _ : Bytes => υ :=
  if key ∈ t then t else t.insert key value

/-! ## Copies of segments -/

/-- The name of a segment under another sequence number. -/
def nameWithSequence (source : Segment) (sequence : UInt64) : Bytes :=
  let old := decimalText source.sequence.toNat
  match rfind old source.name with
  | some place =>
    source.name.take place ++ decimalText sequence.toNat ++ source.name.drop (place + old.length)
  | none => "segment-" ++ decimalText sequence.toNat ++ ".ts"

/-- A copy is a whole segment: it has no parts and no I-frame of its own. -/
def copyWithSequence (source : Segment) (sequence : UInt64)
    (forceDiscontinuity : Bool) : Segment where
  sequence
  name := nameWithSequence source sequence
  data := source.data
  duration := source.duration
  discontinuity := source.discontinuity || forceDiscontinuity
  key := source.key

namespace SegmentStore

/-! ## Eviction -/

variable (s : SegmentStore) (now : ℕ) (segment : Segment) (uriPrefix : Bytes)

def maxRetained : ℕ := s.config.liveWindowSegments + s.config.retentionGraceSegments

/-- The oldest segment leaves with its parts.  A discontinuity that leaves is
counted. -/
def dropFront : SegmentStore :=
  match s.segments with
  | [] => s
  | front :: rest =>
    { s with
      segments := rest
      byName := s.byName.erase front.name
      partsByName := front.parts.foldl (fun t part => t.erase part.name)
        s.partsByName
      bytesHeld := s.bytesHeld - front.data.length - (front.parts.map (·.data.length)).sum
      discontinuitySequence :=
        if front.discontinuity then s.discontinuitySequence + 1
        else s.discontinuitySequence }

/-- Drop segments as long as there are too many. -/
def dropWhileOver (tooMuch : SegmentStore → Bool) : ℕ → SegmentStore → SegmentStore
  | 0, s => s
  | rounds + 1, s => if tooMuch s then dropWhileOver tooMuch rounds s.dropFront else s

/-- One segment is kept, however large it is. -/
def evict : SegmentStore :=
  let s := dropWhileOver (fun s => s.maxRetained < s.segments.length) s.segments.length s
  dropWhileOver (fun s =>
    s.config.maxTotalBytes < s.bytesHeld && 1 < s.segments.length)
    s.segments.length s

/-! ## Adding -/

def append (fallback : Bool) : SegmentStore :=
  { s with
    bytesHeld := s.bytesHeld + segment.data.length
    byName := emplace s.byName segment.name segment
    segments := s.segments ++ [segment]
    fallbackActive := fallback
    lastSegmentAddedAt := some now }.evict

/-- The segment as the encryptor left it. -/
def sealSegment : Option (Bytes × EncryptionKeyInfo) → Segment
  | none => segment
  | some (data, key) => { segment with data, key := some key, iframePrefixBytes := 0 }

/-- Behind a fallback segment, and out of order, a segment is numbered anew. -/
def renumber : Segment :=
  match s.segments.getLast? with
  | none => segment
  | some last =>
    if s.config.repeatLastSegmentOnStall ∧
        (segment.sequence ≠ last.sequence + 1 ∨ s.fallbackActive) then
      copyWithSequence segment (last.sequence + 1)
        (s.fallbackActive && !s.config.seamlessFallbackRecovery)
    else segment

/-- The parts that were published of the segment become its own. -/
def takeOpenParts : SegmentStore × Segment :=
  if s.config.lowLatency ∧ s.openParts ≠ [] then
    ({ s with openParts := [] }, { segment with parts := s.openParts })
  else (s, segment)

def addSegment (sealed : Option (Bytes × EncryptionKeyInfo)) : SegmentStore :=
  let (s, segment) := s.takeOpenParts (s.renumber (sealSegment segment sealed))
  s.append now segment false

/-- Parts are ignored by a store that is not set up for low latency. -/
def addPart (part : Part) (sealed : Option Bytes) : SegmentStore :=
  if s.config.lowLatency = false then s
  else
    let part := { part with data := sealed.getD part.data }
    { s with
      bytesHeld := s.bytesHeld + part.data.length
      partsByName := emplace s.partsByName part.name part
      openParts := s.openParts ++ [part] }

def markEnded : SegmentStore := { s with ended := true }

def markLive : SegmentStore := { s with ended := false }

def clear : SegmentStore := { config := s.config }

/-! ## Stalls -/

/-- The cadence of the last segment in milliseconds. -/
def stallInterval (last : Segment) : ℕ :=
  if 0 < last.duration then last.duration.toNat
  else 1000 * max 1 s.config.targetDurationSeconds.toNat

/-- A healthy publisher is given some time before the first stall. -/
def initialGrace (interval : ℕ) : ℕ := if s.fallbackActive then 0 else min (interval / 4) 500

/-- Repeat the last segment under the next number. -/
def appendFallback (now : ℕ) : ℕ → SegmentStore → SegmentStore
  | 0, s => s
  | count + 1, s =>
    match s.segments.getLast? with
    | none => s
    | some last =>
      appendFallback now count (s.append now (copyWithSequence last (last.sequence + 1) false) true)

/-- Fill in the segments that a stalled publisher has missed. -/
def appendFallbackIfDue : SegmentStore :=
  match s.segments.getLast?, s.lastSegmentAddedAt with
  | some last, some addedAt =>
    if s.config.repeatLastSegmentOnStall = false ∨ s.ended = true then s
    else
      let interval := s.stallInterval last
      let cadence := interval + s.initialGrace interval
      let elapsed := now - addedAt
      if elapsed < cadence * 1000000 then s
      else
        let missed := elapsed / 1000000 / max 1 cadence
        appendFallback now (min (max 1 missed) (max 1 s.maxRetained)) s
  | _, _ => s

/-! ## Reading -/

def findSegment (name : Bytes) : Option Segment := s.byName.lookup name

def findPart (name : Bytes) : Option Part := s.partsByName.lookup name

/-- The newest sequence number and the newest part of it. -/
def liveEdge : Option (UInt64 × ℤ) :=
  match s.openParts.getLast? with
  | some part => some (part.segmentSequence, part.index.toNat)
  | none =>
    s.segments.getLast?.map fun last =>
      (last.sequence, match last.parts.getLast? with
        | none => -1
        | some part => part.index.toNat)

/-- Whether a position on the live edge exists.  A negative part asks for the
segment as a whole. -/
def hasReached (sequence : UInt64) (partIndex : ℤ) : Bool :=
  if s.ended then true
  else
    match s.liveEdge with
    | none => false
    | some (edgeSequence, edgePart) =>
      if sequence < edgeSequence then true
      else if edgeSequence < sequence then false
      else if partIndex < 0 then
        match s.segments.getLast? with
        | none => false
        | some last => decide (sequence ≤ last.sequence)
      else decide (partIndex ≤ edgePart)

/-- The segments that are advertised. -/
def window : List Segment := s.segments.drop (s.segments.length - s.config.liveWindowSegments)

def iframeOptions : MediaPlaylistOptions where
  targetDurationSeconds := s.config.targetDurationSeconds
  version := max s.config.playlistVersion 4
  ended := s.ended
  segmentUriPrefix := uriPrefix
  iframesOnly := true
  emitServerControl := false

def iframePlaylist : Bytes := buildMediaPlaylist s.window (s.iframeOptions uriPrefix)

/-- The part that a player should ask for next. -/
def preloadHint : Bytes :=
  let sequence :=
    match s.openParts.getLast? with
    | some part => part.segmentSequence
    | none => (s.segments.getLast?.map fun last : Segment => last.sequence + 1).getD 0
  let index := (s.openParts.getLast?.map fun last : Part => last.index + 1).getD 0
  "segment-" ++ decimalText sequence.toNat ++ "." ++ decimalText index.toNat ++ ".ts"

def playlistOptions : MediaPlaylistOptions :=
  let before := s.segments.take (s.segments.length - s.config.liveWindowSegments)
  let options : MediaPlaylistOptions :=
    { targetDurationSeconds := s.config.targetDurationSeconds
      version := s.config.playlistVersion
      holdBackSeconds := s.config.playlistHoldBackSeconds
      discontinuitySequence := s.discontinuitySequence + before.countP (·.discontinuity)
      ended := s.ended
      segmentUriPrefix := uriPrefix }
  if s.config.lowLatency then
    { options with
      lowLatency := true
      partTargetSeconds := s.config.partTargetDuration / 1000
      partHoldBackSeconds := s.config.partHoldBackSeconds
      partWindowSegments := s.config.partWindowSegments
      openParts := s.openParts
      preloadHintUri := s.preloadHint }
  else options

/-- The playlist of the live window, after a stall has been filled in. -/
def playlist : SegmentStore × Bytes :=
  let s := s.appendFallbackIfDue now
  (s, buildMediaPlaylist s.window (s.playlistOptions uriPrefix))

end SegmentStore

end RtmpCore.Hls
