import Mathlib.Data.List.AList
import Mathlib.Data.Nat.Digits.Defs
import RtmpCore.Core.ByteOrder
import RtmpCore.Support.Text

/-!
# HTTP messages

The parser of request heads and the writer of response heads that both HTTP
servers share.  A head is the request line and the header lines, without the
empty line that ends it.

The header table is a hash table, so a later field of the same name replaces
an earlier one.  The headers of a response are a list: they are written in the
order in which the table is visited.
-/

namespace RtmpCore.Http

open RtmpCore.Core Text

structure HttpRequest where
  method : Bytes := []
  path : Bytes := []
  query : Bytes := []
  httpVersion : Bytes := []
  headers : AList (fun _ : Bytes => Bytes) := ∅
  body : Bytes := []
  clientIp : Bytes := []
deriving DecidableEq

/-- A response.  `deferred` names the object through which the handler will
answer later. -/
structure HttpResponse where
  status : ℕ := 200
  contentType : Bytes := "application/json"
  body : Bytes := []
  sharedBody : Bytes := []
  sharedBodyOffset : ℕ := 0
  sharedBodyLength : ℕ := 0
  headers : List (Bytes × Bytes) := []
  deferred : Option ℕ := none
deriving DecidableEq

/-! ## Request heads -/

def crlf : Bytes := [0x0D, 0x0A]

def space : UInt8 := 0x20

def toLower (b : UInt8) : UInt8 := if 0x41 ≤ b ∧ b ≤ 0x5A then b + 0x20 else b

def headLines : Bytes → List Bytes
  | [] => [[]]
  | 0x0D :: 0x0A :: rest => [] :: headLines rest
  | b :: rest => (headLines rest).modifyHead (b :: ·)

/-- A header line, cut at its first colon. -/
structure HeaderField where
  name : Bytes
  value : Bytes
deriving DecidableEq

/-- The field on a header line; a line without a colon has none. -/
def fieldOfLine (line : Bytes) : Option HeaderField :=
  (cut 0x3A line).map fun (name, value) => ⟨name, value⟩

/-- The header fields of a head in the order in which they stand there. -/
def headerFields (head : Bytes) : List HeaderField := (headLines head).tail.filterMap fieldOfLine

/-- The name a field is stored under. -/
def HeaderField.key (field : HeaderField) : Bytes := field.name.map toLower

/-- The value that is stored: only spaces in front of it are dropped. -/
def HeaderField.stored (field : HeaderField) : Bytes := field.value.dropWhile (· = space)

def storeField (headers : AList fun _ : Bytes => Bytes)
    (field : HeaderField) : AList fun _ : Bytes => Bytes :=
  headers.insert field.key field.stored

/-- The method, the target and the version of a request line. -/
def parseRequestLine (line : Bytes) : Option (Bytes × Bytes × Bytes) := do
  let (method, rest) ← cut space line
  let (target, version) ← cut space rest
  return (method, target, version)

def parseRequestHead (clientIp head : Bytes) : Option HttpRequest := do
  let (method, target, version) ← parseRequestLine ((headLines head).headD [])
  let (path, query) := (cut 0x3F target).getD (target, [])
  return {
    method
    path
    query
    httpVersion := version
    headers := (headerFields head).foldl storeField ∅
    clientIp }

def isDigit (b : UInt8) : Bool := decide (0x30 ≤ b ∧ b ≤ 0x39)

def decimalValue (digits : Bytes) : ℕ :=
  digits.foldl (fun value b => 10 * value + (b.toNat - 0x30)) 0

/-- The number a text spells, if it is nothing but digits and fits into 64
bits. -/
def fromChars (text : Bytes) : Option ℕ :=
  if text ≠ [] ∧ text.all isDigit ∧ decimalValue text < 2 ^ 64 then some (decimalValue text)
  else none

def contentLengthKey : Bytes := "content-length"

/-- The length of the body of a parsed request.  There is none if the field is
there but does not spell a number. -/
def contentLengthOf (request : HttpRequest) : Option ℕ :=
  match request.headers.lookup contentLengthKey with
  | none => some 0
  | some value => fromChars value

/-! ## Responses -/

def decimalText (n : ℕ) : Bytes := (Nat.toDigits 10 n).map fun digit => UInt8.ofNat digit.toNat

theorem isDigit_of_mem_decimalText {n : ℕ} {b : UInt8} (h : b ∈ decimalText n) :
    isDigit b = true := by
  obtain ⟨digit, hdigit, rfl⟩ := List.mem_map.mp h
  have hrng := Nat.isDigit_of_mem_toDigits (by decide) (by decide) hdigit
  rw [Char.isDigit_iff_toNat] at hrng
  obtain ⟨hlow, hhigh⟩ := hrng
  have hsmall : digit.toNat < 256 := by
    refine hhigh.trans_lt ?_
    decide
  simp only [isDigit, decide_eq_true_eq, UInt8.le_iff_toNat_le, UInt8.toNat_ofNat',
    Nat.mod_eq_of_lt hsmall]
  exact ⟨hlow, hhigh⟩

def reasonPhrase (status : ℕ) : String :=
  match status with
  | 200 => "OK"
  | 201 => "Created"
  | 204 => "No Content"
  | 206 => "Partial Content"
  | 302 => "Found"
  | 304 => "Not Modified"
  | 400 => "Bad Request"
  | 401 => "Unauthorized"
  | 403 => "Forbidden"
  | 404 => "Not Found"
  | 405 => "Method Not Allowed"
  | 409 => "Conflict"
  | 413 => "Payload Too Large"
  | 416 => "Range Not Satisfiable"
  | 429 => "Too Many Requests"
  | 431 => "Request Header Fields Too Large"
  | 500 => "Internal Server Error"
  | 503 => "Service Unavailable"
  | status => if status < 400 then "OK" else "Error"

namespace HttpResponse

def payloadSize (response : HttpResponse) : ℕ :=
  if response.sharedBody = [] then response.body.length
  else response.sharedBodyLength

/-- The slice of the shared buffer lies in the buffer. -/
def SliceInBounds (response : HttpResponse) : Prop :=
  response.sharedBodyOffset ≤ response.sharedBody.length ∧ response.sharedBodyLength ≤
      response.sharedBody.length - response.sharedBodyOffset
deriving Decidable

/-- The body a client is to receive. -/
def payload (response : HttpResponse) : Bytes :=
  if response.sharedBody = [] then response.body
  else
    (response.sharedBody.drop response.sharedBodyOffset).take
      response.sharedBodyLength

end HttpResponse

def headerLine (name value : Bytes) : Bytes := name ++ ": " ++ value ++ crlf

/-- The status line and the headers.  A length that the handler gave is not
given a second time. -/
def serializeResponseHead (response : HttpResponse) (keepAlive : Bool) : Bytes :=
  "HTTP/1.1 " ++ decimalText response.status ++ [space] ++
    textBytes (reasonPhrase response.status) ++ crlf ++
    headerLine "Content-Type" response.contentType ++
    (if response.headers.any (·.1 = "Content-Length") then []
      else
        headerLine "Content-Length"
          (decimalText response.payloadSize)) ++
    headerLine "Connection"
      (textBytes (if keepAlive then "keep-alive" else "close")) ++
    response.headers.flatMap (fun (name, value) => headerLine name value) ++
    crlf

end RtmpCore.Http
