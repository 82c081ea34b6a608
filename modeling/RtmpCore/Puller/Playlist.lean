import RtmpCore.Core.ByteOrder
import RtmpCore.Support.Text

/-!
# Media playlists of a pulled source

The parser of the puller walks once over the lines of a playlist.  A line that
is not a tag is a segment: it takes the duration and the discontinuity that the
lines before announced, and the next media sequence number.

Durations are floating-point seconds in the source.  Nothing here depends on how
they are rounded, so their type is left open; `stod` is the conversion of the
standard library, which may fail.
-/

namespace RtmpCore.Puller

open RtmpCore.Core

/-! ## Text -/

def isBlank (byte : UInt8) : Bool := byte = 0x20 || byte = 0x09 || byte = 0x0D

def trim (text : Bytes) : Bytes := Text.trim isBlank text

def isDigit (byte : UInt8) : Bool := 0x30 ≤ byte && byte ≤ 0x39

variable (text base : Bytes)

/-- The number in front of a text.  Without a digit, and when the number does
not fit into 64 bits, the result stays zero. -/
def toU64 : UInt64 :=
  let value := (text.takeWhile isDigit).foldl
    (fun value digit => value * 10 + (digit.toNat - 0x30)) 0
  if value < 2 ^ 64 then UInt64.ofNat value else 0

def linesOf : List Bytes := (text.splitOn 0x0A).map trim

def startsWith (tag : String) (line : Bytes) : Bool := (textBytes tag).isPrefixOf line

def slash : UInt8 := 0x2F

/-- The place behind the scheme and its separator. -/
def hostStart : ℕ :=
  match Text.find "://" base with
  | some scheme => scheme + 3
  | none => 0

def originOf : Bytes :=
  match (base.drop (hostStart base)).findIdx? (· = slash) with
  | some place => base.take (hostStart base + place)
  | none => base

def lastSlash : Option ℕ := (base.reverse.findIdx? (· = slash)).map (base.length - 1 - ·)

def directoryOf : Bytes :=
  match lastSlash base with
  | some place => if place < hostStart base then originOf base else base.take place
  | none => originOf base

def resolveUrl (base reference : Bytes) : Bytes :=
  let reference := trim reference
  if reference = [] then base
  else if (Text.find "://" reference).isSome then reference
  else if reference.head? = some slash then originOf base ++ reference
  else directoryOf base ++ slash :: reference

def isHlsPlaylist : Bool :=
  let text := trim text
  let text := if [0xEF, 0xBB, 0xBF].isPrefixOf text then text.drop 3 else text
  startsWith "#EXTM3U" text

/-! ## The playlist -/

structure HlsSegmentRef (Duration : Type) where
  uri : Bytes
  duration : Duration
  sequence : UInt64
  discontinuity : Bool
deriving DecidableEq

structure HlsMediaPlaylist (Duration : Type) where
  segments : List (HlsSegmentRef Duration) := []
  targetDuration : Duration
  mediaSequence : UInt64 := 0
  endlist : Bool := false
  unsupportedFeature : String := ""
deriving DecidableEq

section Parser

variable {Duration : Type} [NatCast Duration]

/-- The playlist so far, and what the last lines announced for the next
segment. -/
structure PlaylistParser (Duration : Type) where
  playlist : HlsMediaPlaylist Duration
  pendingDuration : Duration
  pendingDiscontinuity : Bool := false
  sequence : UInt64 := 0
  sequenceSeen : Bool := false
deriving DecidableEq

variable (Duration) in
def PlaylistParser.initial : PlaylistParser Duration where
  playlist := { targetDuration := (0 : ℕ) }
  pendingDuration := (0 : ℕ)

variable (stod : Bytes → Option Duration) (parser : PlaylistParser Duration)

def toDouble (text : Bytes) : Duration := (stod text).getD (0 : ℕ)

def PlaylistParser.unsupported (feature : String) : PlaylistParser Duration :=
  { parser with playlist := { parser.playlist with unsupportedFeature := feature } }

def PlaylistParser.addSegment (uri : Bytes) : PlaylistParser Duration :=
  let segment : HlsSegmentRef Duration :=
    { uri
      duration := parser.pendingDuration
      discontinuity := parser.pendingDiscontinuity
      sequence :=
        if parser.sequenceSeen then parser.sequence
        else UInt64.ofNat parser.playlist.segments.length }
  { parser with
    playlist := { parser.playlist with segments := parser.playlist.segments ++ [segment] }
    sequence := parser.sequence + 1
    pendingDuration := (0 : ℕ)
    pendingDiscontinuity := false }

def parseLine (base : Bytes) (parser : PlaylistParser Duration) (line : Bytes) :
    PlaylistParser Duration :=
  if line = [] then parser
  else if startsWith "#EXT-X-TARGETDURATION:" line then
    { parser with playlist :=
        { parser.playlist with targetDuration := toDouble stod (line.drop 22) } }
  else if startsWith "#EXT-X-MEDIA-SEQUENCE:" line then
    { parser with
      playlist := { parser.playlist with mediaSequence := toU64 (line.drop 22) }
      sequence := toU64 (line.drop 22)
      sequenceSeen := true }
  else if startsWith "#EXT-X-DISCONTINUITY" line &&
      !startsWith "#EXT-X-DISCONTINUITY-SEQUENCE" line then
    { parser with pendingDiscontinuity := true }
  else if startsWith "#EXTINF:" line then
    { parser with pendingDuration := toDouble stod (line.drop 8) }
  else if startsWith "#EXT-X-MAP:" line then
    parser.unsupported
      "fragmented-MP4 HLS (#EXT-X-MAP) is not supported by the native TS demuxer"
  else if startsWith "#EXT-X-BYTERANGE:" line then
    parser.unsupported
      "byte-range HLS segments are not supported by the native puller"
  else if startsWith "#EXT-X-KEY:" line &&
      (Text.find "METHOD=NONE" line).isNone then
    parser.unsupported "encrypted HLS is not supported by the native puller"
  else if line = "#EXT-X-ENDLIST" then
    { parser with playlist := { parser.playlist with endlist := true } }
  else if line.head? ≠ some 0x23 then parser.addSegment (resolveUrl base line)
  else parser

def parseMediaPlaylist (text base : Bytes) : HlsMediaPlaylist Duration :=
  ((linesOf text).foldl (parseLine stod base) (PlaylistParser.initial Duration)).playlist

/-! ## Numbering -/

/-- The segments are numbered from the media sequence number of the playlist
on. -/
def HlsMediaPlaylist.Numbered (playlist : HlsMediaPlaylist Duration) : Prop :=
  playlist.segments.map (fun segment => segment.sequence.toNat) =
    List.range' playlist.mediaSequence.toNat playlist.segments.length
deriving Decidable

end Parser

end RtmpCore.Puller
