import Mathlib.Data.List.Sort
import RtmpCore.Core.Double
import RtmpCore.Hls.Query

/-!
# Playlists

The writer of media and master playlists.  A playlist is written line by line;
the URIs of segments and renditions stand on lines of their own, those of
partial segments, of the preload hint and of keys are attributes of tags.

Seconds that are floating-point numbers in the source are rationals here, and
are written with three decimals.
-/

namespace RtmpCore.Hls

open RtmpCore.Core Text Http

/-! ## Segments -/

/-- How a segment is to be decrypted.  Without a method it is in the clear. -/
structure EncryptionKeyInfo where
  method : Bytes := []
  uri : Bytes := []
  ivHex : Bytes := []
  keyFormat : Bytes := []
  keyFormatVersions : Bytes := []
deriving DecidableEq

def EncryptionKeyInfo.encrypted (key : EncryptionKeyInfo) : Bool :=
  key.method ≠ [] && key.method ≠ "NONE"

/-- A partial segment.  Durations are in milliseconds. -/
structure Part where
  segmentSequence : UInt64 := 0
  index : UInt32 := 0
  name : Bytes := []
  data : Bytes := []
  duration : ℤ := 0
  independent : Bool := false
deriving DecidableEq

structure Segment where
  sequence : UInt64 := 0
  name : Bytes := []
  data : Bytes := []
  duration : ℤ := 0
  discontinuity : Bool := false
  parts : List Part := []
  key : Option EncryptionKeyInfo := none
  iframePrefixBytes : ℕ := 0
deriving DecidableEq

/-! ## Numbers -/

def digit (n : ℕ) : UInt8 := UInt8.ofNat (0x30 + n % 10)

/-- Milliseconds as seconds with three decimals. -/
def formatDuration (ms : ℤ) : Bytes :=
  let fraction := ms.natAbs % 1000
  (if ms < 0 then [0x2D] else []) ++ decimalText (ms.natAbs / 1000) ++
    [0x2E, digit (fraction / 100), digit (fraction / 10), digit fraction]

def formatSeconds (seconds : ℚ) : Bytes :=
  let thousandths := roundHalfEven (seconds.num.natAbs * 1000) seconds.den
  formatDuration (if seconds < 0 then -thousandths else thousandths)

/-! ## Tags -/

def quoted (text : Bytes) : Bytes := 0x22 :: text ++ [0x22]

/-- An attribute that is left out when its value is empty. -/
def quotedAttribute (name : String) (value : Bytes) : Bytes :=
  if value = [] then [] else textBytes name ++ quoted value

/-- A missing key and a key without a method end the encryption. -/
def keyTag : Option EncryptionKeyInfo → Bytes
  | some key =>
    if key.encrypted then
      textBytes "#EXT-X-KEY:METHOD=" ++ key.method ++ textBytes ",URI=" ++ quoted key.uri ++
        (if key.ivHex = [] then [] else textBytes ",IV=" ++ key.ivHex) ++
        quotedAttribute ",KEYFORMAT=" key.keyFormat ++
        quotedAttribute ",KEYFORMATVERSIONS=" key.keyFormatVersions
    else "#EXT-X-KEY:METHOD=NONE"
  | none => "#EXT-X-KEY:METHOD=NONE"

def partTag (uriPrefix : Bytes) (part : Part) : Bytes :=
  "#EXT-X-PART:DURATION=" ++ formatDuration part.duration ++
    ",URI=" ++ quoted (uriPrefix ++ part.name) ++
    (if part.independent then textBytes ",INDEPENDENT=YES" else [])

def preloadHintTag (uriPrefix uri : Bytes) : Bytes :=
  "#EXT-X-PRELOAD-HINT:TYPE=PART,URI=" ++ quoted (uriPrefix ++ uri)

/-! ## Media playlists -/

structure MediaPlaylistOptions where
  targetDurationSeconds : UInt32 := 4
  version : UInt32 := 3
  discontinuitySequence : ℕ := 0
  ended : Bool := false
  segmentUriPrefix : Bytes := []
  emitServerControl : Bool := true
  holdBackSeconds : ℚ := 0
  lowLatency : Bool := false
  partTargetSeconds : ℚ := 0
  partHoldBackSeconds : ℚ := 0
  partWindowSegments : ℕ := 3
  openParts : List Part := []
  preloadHintUri : Bytes := []
  iframesOnly : Bool := false
deriving DecidableEq

/-- The duration of a segment in seconds, rounded up. -/
def roundedDuration (segment : Segment) : UInt32 :=
  UInt32.ofNat (((segment.duration + 999).tdiv 1000) % 2 ^ 32).toNat

variable (segments : List Segment) (options : MediaPlaylistOptions)

/-- No segment is longer than the target, and the target is never zero. -/
def targetDuration : UInt32 :=
  let target := segments.foldl (fun target segment =>
    max target (roundedDuration segment)) options.targetDurationSeconds
  if target = 0 then 1 else target

/-- Tags of higher versions raise the version that is declared. -/
def playlistVersion : UInt32 :=
  let version := if options.lowLatency then max options.version 9 else options.version
  if options.iframesOnly then max version 4 else version

def serverControlTag (target : UInt32) (options : MediaPlaylistOptions) : Bytes :=
  "#EXT-X-SERVER-CONTROL:CAN-BLOCK-RELOAD=" ++
    textBytes (if options.lowLatency then "YES" else "NO") ++
    (if 0 < options.holdBackSeconds then
      ",HOLD-BACK=" ++ formatSeconds (max options.holdBackSeconds (3 * target.toNat))
    else []) ++
    (if options.lowLatency ∧ 0 < options.partTargetSeconds then
      ",PART-HOLD-BACK=" ++
        formatSeconds (max options.partHoldBackSeconds (3 * options.partTargetSeconds))
    else [])

/-- The lines in front of the first segment. -/
def headerLines : List Bytes :=
  let target := targetDuration segments options
  let mediaSequence := (segments.head?.map Segment.sequence).getD 0
  [textBytes "#EXTM3U", textBytes "#EXT-X-VERSION:" ++ decimalText (playlistVersion options).toNat,
    textBytes "#EXT-X-TARGETDURATION:" ++ decimalText target.toNat,
    textBytes "#EXT-X-MEDIA-SEQUENCE:" ++ decimalText mediaSequence.toNat] ++
    (if 0 < options.discontinuitySequence then
      [textBytes "#EXT-X-DISCONTINUITY-SEQUENCE:" ++ decimalText options.discontinuitySequence]
    else []) ++
    (if options.iframesOnly then [textBytes "#EXT-X-I-FRAMES-ONLY"] else []) ++
    (if options.emitServerControl then [serverControlTag target options]
    else []) ++
    (if options.lowLatency ∧ 0 < options.partTargetSeconds then
      [textBytes "#EXT-X-PART-INF:PART-TARGET=" ++ formatSeconds options.partTargetSeconds]
    else [])

/-- The key that applies to the next segment, and whether a key tag has been
written. -/
structure KeyState where
  activeKey : Option EncryptionKeyInfo := none
  keyTagWritten : Bool := false
deriving DecidableEq

/-- The key tag in front of a segment: it is written when the key changes, and
not at all before the first segment that has one. -/
def keyStep (state : KeyState) (key : Option EncryptionKeyInfo) : KeyState × List Bytes :=
  if state.keyTagWritten = false ∨ state.activeKey ≠ key then
    if key.isSome ∨ state.keyTagWritten = true then (⟨key, true⟩, [keyTag key])
    else (⟨key, state.keyTagWritten⟩, [])
  else (state, [])

/-- The lines of one segment behind its key tag. -/
def segmentLines (withParts : Bool) (segment : Segment) : List Bytes :=
  (if segment.discontinuity then [textBytes "#EXT-X-DISCONTINUITY"] else []) ++
    (if options.lowLatency ∧ withParts then segment.parts.map (partTag options.segmentUriPrefix)
    else []) ++
    ["#EXTINF:" ++ formatDuration segment.duration ++ ","] ++
    (if options.iframesOnly then
      ["#EXT-X-BYTERANGE:" ++ decimalText segment.iframePrefixBytes ++ "@0"]
    else []) ++
    [options.segmentUriPrefix ++ segment.name]

/-- The lines of the segments.  A trick-play playlist lists only those whose
I-frame was located; parts are listed from the segment `firstPart` on. -/
def allSegmentLines (options : MediaPlaylistOptions) (firstPart : ℕ) :
    ℕ → KeyState → List Segment → List Bytes
  | _, _, [] => []
  | index, state, segment :: rest =>
    if options.iframesOnly = true ∧ segment.iframePrefixBytes = 0 then
      allSegmentLines options firstPart (index + 1) state rest
    else
      (keyStep state segment.key).2 ++ segmentLines options (firstPart ≤ index) segment ++
        allSegmentLines options firstPart (index + 1) (keyStep state segment.key).1 rest

def trailerLines : List Bytes :=
  (if options.lowLatency = true ∧ options.iframesOnly = false then
    options.openParts.map (partTag options.segmentUriPrefix) ++
      (if options.preloadHintUri = [] then []
      else [preloadHintTag options.segmentUriPrefix options.preloadHintUri])
  else []) ++ (if options.ended then [textBytes "#EXT-X-ENDLIST"] else [])

def mediaPlaylistLines : List Bytes :=
  let firstPart :=
    if options.lowLatency then segments.length - options.partWindowSegments
    else 0
  headerLines segments options ++ allSegmentLines options firstPart 0 {} segments ++
    trailerLines options

def buildMediaPlaylist : Bytes := unlines newline (mediaPlaylistLines segments options)

/-! ## Master playlists -/

/-- One variant of a master playlist. -/
structure Rendition where
  uri : Bytes
  bandwidth : ℕ := 0
  averageBandwidth : ℕ := 0
  codecs : Bytes := []
  width : ℕ := 0
  height : ℕ := 0
  frameRate : ℚ := 0
  name : Bytes := []
  iframeUri : Bytes := []
deriving DecidableEq

namespace Rendition

def resolution (r : Rendition) : Bytes :=
  if 0 < r.width ∧ 0 < r.height then
    ",RESOLUTION=" ++ decimalText r.width ++ "x" ++ decimalText r.height
  else []

def streamInfLines (r : Rendition) : List Bytes :=
  ["#EXT-X-STREAM-INF:BANDWIDTH=" ++ decimalText r.bandwidth ++ (if 0 < r.averageBandwidth then
        ",AVERAGE-BANDWIDTH=" ++ decimalText r.averageBandwidth
      else []) ++
      r.resolution ++
      (if 0 < r.frameRate then ",FRAME-RATE=" ++ formatSeconds r.frameRate
      else []) ++
      quotedAttribute ",CODECS=" r.codecs ++ quotedAttribute ",NAME=" r.name,
    r.uri]

def iframeStreamInfLines (r : Rendition) : List Bytes :=
  if r.iframeUri = [] then []
  else
    ["#EXT-X-I-FRAME-STREAM-INF:BANDWIDTH=" ++ decimalText r.bandwidth ++ r.resolution ++
      quotedAttribute ",CODECS=" r.codecs ++ ",URI=" ++
      quoted r.iframeUri]

end Rendition

variable (renditions : List Rendition)

def sortedRenditions : List Rendition :=
  renditions.insertionSort fun a b => a.bandwidth ≤ b.bandwidth

def masterPlaylistLines : List Bytes :=
  let sorted := sortedRenditions renditions
  [textBytes "#EXTM3U", textBytes (if sorted.any (·.iframeUri ≠ []) then "#EXT-X-VERSION:4"
      else "#EXT-X-VERSION:3")] ++
    sorted.flatMap Rendition.streamInfLines ++
    sorted.flatMap Rendition.iframeStreamInfLines

def buildMasterPlaylist : Bytes := unlines newline (masterPlaylistLines renditions)

end RtmpCore.Hls
