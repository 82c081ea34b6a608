import RtmpCore.Http.Message

/-!
# Query strings, paths and playlists as text

What the HLS handler does with the text of a request: the parameters of a query
string, the removal of some of them, the components of a path, a cookie, a byte
range, and the query string that is written behind the URIs of a playlist.
-/

namespace RtmpCore.Hls

open RtmpCore.Core Text Http

def ampersand : UInt8 := 0x26

def equalsSign : UInt8 := 0x3D

def questionMark : UInt8 := 0x3F

def slash : UInt8 := 0x2F

def newline : UInt8 := 0x0A

/-! ## Queries -/

/-- The first of two parameters of one name is kept. -/
def addParam (params : AList fun _ : Bytes => Bytes)
    (pair : Bytes) : AList fun _ : Bytes => Bytes :=
  match cut equalsSign pair with
  | none => params
  | some (key, value) => if key ∈ params then params else params.insert key value

variable (query value : Bytes)

def parseQuery : AList fun _ : Bytes => Bytes := (query.splitOn ampersand).foldl addParam ∅

def kBlockingMsnParam : Bytes := "_HLS_msn"

def kBlockingPartParam : Bytes := "_HLS_part"

def kPlaybackSessionParam : Bytes := "viewer_session"

def kPlaybackStreamParam : Bytes := "viewer_stream"

def kSharedCacheParam : Bytes := "viewer_cache"

/-- The pairs of a query whose key is not one of `dropped`, in their order. -/
def queryWithout (dropped : List Bytes) (query : Bytes) : Bytes :=
  [ampersand].intercalate ((query.splitOn ampersand).filter fun pair =>
      pair ≠ [] ∧ pair.takeWhile (· ≠ equalsSign) ∉ dropped)

/-- Session parameters of the caller are removed before new ones are made. -/
def queryWithoutSessionParams : Bytes :=
  queryWithout [kPlaybackSessionParam, kPlaybackStreamParam, kSharedCacheParam]
    query

/-- The position on the live edge is no part of the URIs in a playlist. -/
def queryWithoutBlockingParams : Bytes := queryWithout [kBlockingMsnParam, kBlockingPartParam] query

def isLowerHex (b : UInt8) : Bool := decide (0x30 ≤ b ∧ b ≤ 0x39 ∨ 0x61 ≤ b ∧ b ≤ 0x66)

def isPlaybackSession : Bool := value.length = 32 && value.all isLowerHex

/-- Bytes that stand for themselves in a query value. -/
def isUnreserved (b : UInt8) : Bool :=
  decide (0x61 ≤ b ∧ b ≤ 0x7A ∨ 0x41 ≤ b ∧ b ≤ 0x5A ∨ 0x30 ≤ b ∧ b ≤ 0x39 ∨
    b = 0x2D ∨ b = 0x5F ∨ b = 0x2E ∨ b = 0x7E)

def upperHexDigit (nibble : UInt8) : UInt8 := if nibble < 10 then 0x30 + nibble else 0x37 + nibble

def percentEncode : Bytes :=
  value.flatMap fun b =>
    if isUnreserved b then [b]
    else [0x25, upperHexDigit (b >>> 4), upperHexDigit (b &&& 0x0F)]

/-- An unsigned number of at most twenty digits. -/
def parseUnsigned (text : Bytes) : Option ℕ := if text.length ≤ 20 then fromChars text else none

/-- The signed 64-bit number in front of a text. -/
def leadingInt64 (text : Bytes) : Option ℤ :=
  let negative := text.head? = some 0x2D
  let digits := (if negative then text.tail else text).takeWhile isDigit
  let value : ℤ := if negative then -decimalValue digits else decimalValue digits
  if digits ≠ [] ∧ -2 ^ 63 ≤ value ∧ value < 2 ^ 63 then some value else none

def intText (n : ℤ) : Bytes := if n < 0 then 0x2D :: decimalText n.natAbs else decimalText n.natAbs

/-! ## Headers -/

def cookieValue (request : HttpRequest) (name : Bytes) : Bytes :=
  match request.headers.lookup (textBytes "cookie") with
  | none => []
  | some header =>
    let pairs := (header.splitOn 0x3B).map (·.dropWhile (· = space))
    let values := pairs.filterMap fun pair =>
      match cut equalsSign pair with
      | some (key, value) => if key = name then some value else none
      | none => none
    values.headD []

/-- The last place of a resource; the subtraction wraps around for an empty
one. -/
def lastPlace (size : ℕ) : ℕ := if size = 0 then 2 ^ 64 - 1 else size - 1

/-- The first and the last byte of a range that can be served. -/
def parseRange (header : Bytes) (size : ℕ) : Option (ℕ × ℕ) :=
  if ¬ (textBytes "bytes=").isPrefixOf header then none
  else
    let spec := header.drop 6
    if 0x2C ∈ spec then none
    else
      match cut 0x2D spec with
      | none => none
      | some ([], last) =>
        match fromChars last with
        | none => none
        | some suffix =>
          if suffix = 0 then none
          else some (if size ≤ suffix then 0 else size - suffix, lastPlace size)
      | some (first, last) =>
        match fromChars first with
        | none => none
        | some start =>
          let finish := if last = [] then some (lastPlace size) else fromChars last
          match finish with
          | none => none
          | some finish =>
            let finish := if size ≤ finish then lastPlace size else finish
            if start ≤ finish ∧ start < size then some (start, finish)
            else none

/-! ## Paths -/

/-- A component that could lead elsewhere. -/
def isTraversal (part : Bytes) : Bool := part = "." || part = ".." || part.contains 0x5C

def splitPath (path : Bytes) : Option (List Bytes) :=
  let parts := (path.splitOn slash).filter (· ≠ [])
  if parts.any isTraversal then none else some parts

def endsWith (suffix : String) : Bool := (textBytes suffix).isSuffixOf value

/-- The name of a rendition in its fixed URI; empty if the URI is another. -/
def renditionStreamFromUri (uri : Bytes) : Bytes :=
  let front := textBytes "../"
  let back := textBytes "/index.m3u8"
  if uri.length ≤ front.length + back.length then []
  else if ¬ front.isPrefixOf uri then []
  else if ¬ back.isSuffixOf uri then []
  else (uri.drop front.length).take (uri.length - front.length - back.length)

/-! ## Playlists -/

/-- A line that names something to fetch. -/
def isUriLine (line : Bytes) : Bool := line ≠ [] && line.head? ≠ some 0x23

def decorateLine (query line : Bytes) : Bytes :=
  if isUriLine line then line ++ questionMark :: query else line

/-- Write the query behind every line that is a URI. -/
def appendQueryToPlaylistUris (body query : Bytes) : Bytes :=
  if query = [] then body
  else unlines newline ((lines newline body).map (decorateLine query))

end RtmpCore.Hls
