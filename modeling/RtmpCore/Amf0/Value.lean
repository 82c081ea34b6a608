import Mathlib.Order.MinMax
import Mathlib.Tactic.Common

/-!
# AMF0 values

The value model of the command messages.  Strings are byte strings.  Numbers
and the milliseconds of a date are IEEE doubles, which the codec only moves
bit by bit; they are kept as 64-bit patterns.  Object and ECMA array hold an
ordered property list, in which a name may occur more than once.
-/

namespace RtmpCore.Amf0

inductive Amf0Value where
  | number (bits : UInt64)
  | boolean (value : Bool)
  | string (bytes : List UInt8)
  | object (properties : List (List UInt8 × Amf0Value))
  | null
  | undefined
  | ecmaArray (properties : List (List UInt8 × Amf0Value))
  | strictArray (items : List Amf0Value)
  | date (milliseconds : UInt64) (timezone : Int16)

abbrev Amf0PropertyList := List (List UInt8 × Amf0Value)

/-- The type markers of the wire format. -/
inductive Amf0Marker where
  | number | boolean | string | object | movieClip | null | undefined
  | reference | ecmaArray | objectEnd | strictArray | date | longString
  | unsupported | recordSet | xml | typedObject
deriving DecidableEq

namespace Amf0Marker

def toByte : Amf0Marker → UInt8
  | number => 0x00
  | boolean => 0x01
  | string => 0x02
  | object => 0x03
  | movieClip => 0x04
  | null => 0x05
  | undefined => 0x06
  | reference => 0x07
  | ecmaArray => 0x08
  | objectEnd => 0x09
  | strictArray => 0x0A
  | date => 0x0B
  | longString => 0x0C
  | unsupported => 0x0D
  | recordSet => 0x0E
  | xml => 0x0F
  | typedObject => 0x10

/-- The marker a byte stands for, if any. -/
def ofByte (byte : UInt8) : Option Amf0Marker :=
  [number, boolean, string, object, movieClip, null, undefined, reference,
    ecmaArray, objectEnd, strictArray, date, longString, unsupported,
    recordSet, xml, typedObject].find? fun marker => marker.toByte = byte

@[simp] theorem ofByte_toByte (marker : Amf0Marker) : ofByte marker.toByte = some marker := by
  cases marker <;> rfl

end Amf0Marker

/-- The first property of an object or ECMA array with this name. -/
def Amf0Value.find (value : Amf0Value) (key : List UInt8) : Option Amf0Value :=
  match value with
  | .object properties | .ecmaArray properties =>
    (properties.find? fun property => property.1 = key).map Prod.snd
  | _ => none

mutual

/-- How many container levels a value needs below itself.  An empty strict
array has nothing to descend into, but an empty object still has its property
list. -/
def Amf0Value.nesting : Amf0Value → ℕ
  | .object properties => propertiesNesting properties + 1
  | .ecmaArray properties => propertiesNesting properties + 1
  | .strictArray items => itemsNesting items
  | .number _ | .boolean _ | .string _ | .null | .undefined | .date _ _ => 0

def propertiesNesting : List (List UInt8 × Amf0Value) → ℕ
  | [] => 0
  | (_, value) :: rest => max value.nesting (propertiesNesting rest)

def itemsNesting : List Amf0Value → ℕ
  | [] => 0
  | value :: rest => max (value.nesting + 1) (itemsNesting rest)

end

theorem nesting_le_propertiesNesting {props : Amf0PropertyList}
    {property : List UInt8 × Amf0Value} (h : property ∈ props) :
    property.2.nesting ≤ propertiesNesting props := by
  induction props with
  | nil => simp at h
  | cons head rest ih =>
    rcases List.mem_cons.mp h with rfl | hrest
    · exact le_max_left _ _
    · exact (ih hrest).trans (le_max_right _ _)

theorem nesting_lt_itemsNesting {items : List Amf0Value} {item : Amf0Value}
    (h : item ∈ items) : item.nesting < itemsNesting items := by
  induction items with
  | nil => simp at h
  | cons head rest ih =>
    rcases List.mem_cons.mp h with rfl | hrest
    · exact lt_max_of_lt_left (Nat.lt_succ_self _)
    · exact (ih hrest).trans_le (le_max_right _ _)

end RtmpCore.Amf0
