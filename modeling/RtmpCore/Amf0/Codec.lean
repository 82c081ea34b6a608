import RtmpCore.Amf0.Value
import RtmpCore.Core.ByteOrder
import RtmpCore.Core.Error

/-!
# The AMF0 encoder and decoder

The encoder appends the bytes of a value to a buffer; here it returns them.
The decoder is recursive descent over a byte span with a cursor.  It rejects a
container below `kMaxNestingDepth` levels, so its recursion is structural on
the number of levels that are still allowed: `budget` is
`kMaxNestingDepth + 1 - depth`, and `depth > kMaxNestingDepth` is `budget = 0`.
-/

namespace RtmpCore.Amf0

open RtmpCore.Core

/-! ## Encoding -/

def appendMarker (marker : Amf0Marker) : Bytes := [marker.toByte]

def appendF64Be (bits : UInt64) : Bytes := writeU64Be bits

def appendStringBody (s : Bytes) : Bytes :=
  (if s.length ≤ 0xFFFF then writeU16Be (UInt16.ofNat s.length)
    else writeU32Be (UInt32.ofNat s.length)) ++ s

/-- A property name always has the short form: only the low 16 bits of its
length are written. -/
def appendPropertyName (name : Bytes) : Bytes :=
  writeU16Be (UInt16.ofNat (name.length &&& 0xFFFF)) ++ name

mutual

def encode : Amf0Value → Bytes
  | .number bits => appendMarker .number ++ appendF64Be bits
  | .boolean value => appendMarker .boolean ++ [if value then 1 else 0]
  | .string s =>
    appendMarker (if s.length ≤ 0xFFFF then .string else .longString) ++ appendStringBody s
  | .object properties => appendMarker .object ++ appendProperties properties
  | .null => appendMarker .null
  | .undefined => appendMarker .undefined
  | .ecmaArray properties =>
    appendMarker .ecmaArray ++ (writeU32Be (UInt32.ofNat properties.length) ++
        appendProperties properties)
  | .strictArray items =>
    appendMarker .strictArray ++ (writeU32Be (UInt32.ofNat items.length) ++ encodeItems items)
  | .date milliseconds timezone =>
    appendMarker .date ++ (appendF64Be milliseconds ++ writeU16Be timezone.toUInt16)

/-- The properties and the terminator: an empty name and the object end
marker. -/
def appendProperties : List (Bytes × Amf0Value) → Bytes
  | [] => writeU16Be 0 ++ appendMarker .objectEnd
  | (name, value) :: rest => appendPropertyName name ++ (encode value ++ appendProperties rest)

def encodeItems : List Amf0Value → Bytes
  | [] => []
  | item :: rest => encode item ++ encodeItems rest

end

/-! ## Decoding -/

def kMaxNestingDepth : ℕ := 32

def kMinValueBytes : ℕ := 1

def kMaxProperties : ℕ := 1000000

def malformed (message : String) : Error := ⟨.malformedAmf, .protocol, message⟩

variable (data : Bytes)

def require (offset needed : ℕ) : Except Error Unit :=
  if data.length < offset + needed then
    .error (malformed "truncated AMF0 value: not enough bytes remaining")
  else .ok ()

def readF64BeAt (offset : ℕ) : UInt64 :=
  ((List.range 8).map fun i => byteAt data (offset + i)).foldl shiftInByte 0

def readBytesAsString (offset len : ℕ) : Bytes := (data.drop offset).take len

/-- One value and the number of bytes it occupies. -/
structure Amf0Decoded where
  value : Amf0Value
  bytesConsumed : ℕ

def nestingError : Error := malformed "AMF0 value nesting exceeds the maximum supported depth"

/-- The property loop: `rounds` iterations are left, and `child` decodes a
property's value.  Returns the properties and the cursor behind the
terminator. -/
def decodePropertyLoop (data : Bytes) (child : ℕ → Except Error Amf0Decoded) :
    ℕ → ℕ → Except Error (Amf0PropertyList × ℕ)
  | 0, _ => .error
      (malformed "AMF0 property list exceeded sanity limit without a terminator")
  | rounds + 1, cursor => do
      require data cursor 2
      let nameLen := (readU16BeAt data cursor).toNat
      if nameLen = 0 then
        require data (cursor + 2) 1
        if Amf0Marker.ofByte (byteAt data (cursor + 2)) = some .objectEnd then
          return ([], cursor + 3)
        else throw (malformed
          "empty AMF0 property name not followed by Object-End marker")
      else
        require data (cursor + 2) nameLen
        let name := readBytesAsString data (cursor + 2) nameLen
        let value ← child (cursor + 2 + nameLen)
        let next ← decodePropertyLoop data child rounds (cursor + 2 + nameLen + value.bytesConsumed)
        return ((name, value.value) :: next.1, next.2)

/-- The properties from `offset` on and the number of bytes they occupy. -/
def decodeProperties (budget : ℕ) (child : ℕ → Except Error Amf0Decoded) (offset : ℕ) :
    Except Error (Amf0PropertyList × ℕ) :=
  if budget = 0 then .error nestingError
  else do
    let decoded ← decodePropertyLoop data child kMaxProperties offset
    return (decoded.1, decoded.2 - offset)

/-- The element loop of a strict array. -/
def decodeItems (child : ℕ → Except Error Amf0Decoded) : ℕ → ℕ → Except Error (List Amf0Value × ℕ)
  | 0, cursor => .ok ([], cursor)
  | count + 1, cursor => do
      let item ← child cursor
      let next ← decodeItems child count (cursor + item.bytesConsumed)
      return (item.value :: next.1, next.2)

/-- What follows the type marker at `offset`. -/
def decodeBody (budget : ℕ) (child : ℕ → Except Error Amf0Decoded) (offset : ℕ) :
    Amf0Marker → Except Error Amf0Decoded
  | .number => do
      require data (offset + 1) 8
      return ⟨.number (readF64BeAt data (offset + 1)), 9⟩
  | .boolean => do
      require data (offset + 1) 1
      return ⟨.boolean (byteAt data (offset + 1) != 0), 2⟩
  | .string => do
      require data (offset + 1) 2
      let len := (readU16BeAt data (offset + 1)).toNat
      require data (offset + 3) len
      return ⟨.string (readBytesAsString data (offset + 3) len), 3 + len⟩
  | .longString => do
      require data (offset + 1) 4
      let len := (readU32BeAt data (offset + 1)).toNat
      require data (offset + 5) len
      return ⟨.string (readBytesAsString data (offset + 5) len), 5 + len⟩
  | .object => do
      let decoded ← decodeProperties data budget child (offset + 1)
      return ⟨.object decoded.1, 1 + decoded.2⟩
  | .ecmaArray => do
      require data (offset + 1) 4
      -- the announced count is only a hint, the terminator ends the list
      let decoded ← decodeProperties data budget child (offset + 5)
      return ⟨.ecmaArray decoded.1, 5 + decoded.2⟩
  | .strictArray => do
      require data (offset + 1) 4
      let count := (readU32BeAt data (offset + 1)).toNat
      if (data.length - (offset + 5)) / kMinValueBytes < count then
        throw (malformed ("AMF0 strict-array element count exceeds the bytes " ++
          "remaining in the message"))
      else
        let decoded ← decodeItems child count (offset + 5)
        return ⟨.strictArray decoded.1, decoded.2 - offset⟩
  | .date => do
      require data (offset + 1) 10
      return ⟨.date (readF64BeAt data (offset + 1)) (readU16BeAt data (offset + 9)).toInt16, 11⟩
  | .null => return ⟨.null, 1⟩
  | .undefined => return ⟨.undefined, 1⟩
  | .objectEnd => throw
      (malformed "unexpected AMF0 Object-End marker outside a property list")
  | .movieClip | .reference | .unsupported | .recordSet | .xml
  | .typedObject => throw (malformed "unsupported AMF0 type marker")

def decodeValueAt (data : Bytes) : ℕ → ℕ → Except Error Amf0Decoded
  | 0, _ => .error nestingError
  | budget + 1, offset => do
      require data offset 1
      match Amf0Marker.ofByte (byteAt data offset) with
      | none => throw (malformed "unknown AMF0 type marker")
      | some marker => decodeBody data budget (decodeValueAt data budget) offset marker

def decodeValue (offset depth : ℕ) : Except Error Amf0Decoded :=
  decodeValueAt data (kMaxNestingDepth + 1 - depth) offset

/-! Every value occupies at least its marker, so decoding a sequence of values
advances. -/

variable {child : ℕ → Except Error Amf0Decoded} {data : Bytes} {budget offset : ℕ}
  {decoded : Amf0Decoded}

theorem decodeItems_le {count cursor : ℕ} {result : List Amf0Value × ℕ}
    (h : decodeItems child count cursor = .ok result) : cursor ≤ result.2 := by
  induction count generalizing cursor result with
  | zero =>
    cases h
    exact le_rfl
  | succ count ih =>
    obtain ⟨item, -, h⟩ := bind_eq_ok.mp h
    obtain ⟨next, hnext, h⟩ := bind_eq_ok.mp h
    cases h
    have hle := ih hnext
    exact (Nat.le_add_right _ _).trans hle

theorem decodeBody_consumed_pos {marker : Amf0Marker}
    (h : decodeBody data budget child offset marker = .ok decoded) : 0 < decoded.bytesConsumed := by
  cases marker with
  | number | boolean | date =>
    obtain ⟨-, -, h⟩ := bind_eq_ok.mp h
    cases h
    exact Nat.succ_pos _
  | string | longString =>
    obtain ⟨-, -, h⟩ := bind_eq_ok.mp h
    obtain ⟨-, -, h⟩ := bind_eq_ok.mp h
    cases h
    exact Nat.add_pos_left (Nat.succ_pos _) _
  | object =>
    obtain ⟨props, -, h⟩ := bind_eq_ok.mp h
    cases h
    exact Nat.add_pos_left (Nat.succ_pos _) _
  | ecmaArray =>
    obtain ⟨-, -, h⟩ := bind_eq_ok.mp h
    obtain ⟨props, -, h⟩ := bind_eq_ok.mp h
    cases h
    exact Nat.add_pos_left (Nat.succ_pos _) _
  | strictArray =>
    obtain ⟨-, -, h⟩ := bind_eq_ok.mp h
    simp only at h
    split at h
    · cases h
    · obtain ⟨items, hitems, h⟩ := bind_eq_ok.mp h
      cases h
      have hle := decodeItems_le hitems
      change 0 < items.2 - offset
      omega
  | null | undefined =>
    cases h
    exact Nat.succ_pos _
  | objectEnd | movieClip | reference | unsupported | recordSet | xml
  | typedObject => cases h

theorem decodeValueAt_consumed_pos (h : decodeValueAt data budget offset = .ok decoded) :
    0 < decoded.bytesConsumed := by
  cases budget with
  | zero => cases h
  | succ budget =>
    obtain ⟨-, -, h⟩ := bind_eq_ok.mp h
    cases hmark : Amf0Marker.ofByte (byteAt data offset) with
    | none =>
      rw [hmark] at h
      cases h
    | some marker =>
      rw [hmark] at h
      exact decodeBody_consumed_pos h

def decode (data : Bytes) : Except Error Amf0Decoded := decodeValue data 0 0

/-- The loop of `decodeAll` from `offset` on. -/
def decodeAllFrom (data : Bytes) (offset : ℕ) : Except Error (List Amf0Value) :=
  if offset < data.length then
    match _h : decodeValue data offset 0 with
    | .error e => .error e
    | .ok decoded => do
        let rest ← decodeAllFrom data (offset + decoded.bytesConsumed)
        return decoded.value :: rest
  else .ok []
termination_by data.length - offset
decreasing_by
  have hpos := decodeValueAt_consumed_pos _h
  omega

def decodeAll (data : Bytes) : Except Error (List Amf0Value) := decodeAllFrom data 0

end RtmpCore.Amf0
