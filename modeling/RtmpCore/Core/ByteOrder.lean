import Mathlib.Data.Nat.Bitwise
import Mathlib.Tactic.NormNum
import Mathlib.Tactic.Ring

/-!
# Byte-order helpers

The integers of the wire format are big-endian, including the 24-bit ones of
the chunk header.  The single little-endian field is the message stream id of
a type 0 chunk header.  Readers take the bytes one by one; writers return them
in wire order.

Each reader and writer has a specification by its value as a natural number;
the read-after-write laws follow from these by arithmetic.
-/

/-- Bytes in the order of the wire. -/
abbrev RtmpCore.Bytes := List UInt8

namespace RtmpCore.Core

open List

def readU16Be (b₀ b₁ : UInt8) : UInt16 := (b₀.toUInt16 <<< 8) ||| b₁.toUInt16

def readU24Be (b₀ b₁ b₂ : UInt8) : UInt32 :=
  (b₀.toUInt32 <<< 16) ||| (b₁.toUInt32 <<< 8) ||| b₂.toUInt32

def readU32Be (b₀ b₁ b₂ b₃ : UInt8) : UInt32 :=
  (b₀.toUInt32 <<< 24) ||| (b₁.toUInt32 <<< 16) ||| (b₂.toUInt32 <<< 8) |||
    b₃.toUInt32

def readU32Le (b₀ b₁ b₂ b₃ : UInt8) : UInt32 :=
  b₀.toUInt32 ||| (b₁.toUInt32 <<< 8) ||| (b₂.toUInt32 <<< 16) ||| (b₃.toUInt32 <<< 24)

def writeU16Be (value : UInt16) : Bytes := [(value >>> 8).toUInt8, value.toUInt8]

def writeU24Be (value : UInt32) : Bytes :=
  [(value >>> 16).toUInt8, (value >>> 8).toUInt8, value.toUInt8]

def writeU32Be (value : UInt32) : Bytes :=
  [(value >>> 24).toUInt8, (value >>> 16).toUInt8, (value >>> 8).toUInt8, value.toUInt8]

def writeU32Le (value : UInt32) : Bytes :=
  [value.toUInt8, (value >>> 8).toUInt8, (value >>> 16).toUInt8, (value >>> 24).toUInt8]

/-- The bytes of a 64-bit pattern, the most significant one first. -/
def writeU64Be (value : UInt64) : Bytes :=
  [(value >>> 56).toUInt8, (value >>> 48).toUInt8, (value >>> 40).toUInt8,
    (value >>> 32).toUInt8, (value >>> 24).toUInt8, (value >>> 16).toUInt8,
    (value >>> 8).toUInt8, (value >>> 0).toUInt8]

/-- Shift the next byte in from the right. -/
def shiftInByte (bits : UInt64) (byte : UInt8) : UInt64 := (bits <<< 8) ||| byte.toUInt64

@[simp] theorem length_writeU16Be (value : UInt16) : (writeU16Be value).length = 2 := rfl

variable (value : UInt32) (b₀ b₁ : UInt8) (b x : Bytes) (i : ℕ)

@[simp] theorem length_writeU24Be : (writeU24Be value).length = 3 := rfl

@[simp] theorem length_writeU32Be : (writeU32Be value).length = 4 := rfl

@[simp] theorem length_writeU32Le : (writeU32Le value).length = 4 := rfl

@[simp] theorem length_writeU64Be (value : UInt64) : (writeU64Be value).length = 8 := rfl

/-! ## Values as natural numbers -/

/-- Joining a high part shifted by `i` bits with a low part of at most `i`
bits is addition. -/
theorem mul_two_pow_or_eq_add {a b i : ℕ} (h : b < 2 ^ i) : a * 2 ^ i ||| b = a * 2 ^ i + b := by
  rw [Nat.mul_comm a, ← Nat.two_pow_add_eq_or_of_lt h a]

theorem toNat_readU16Be : (readU16Be b₀ b₁).toNat = b₀.toNat * 256 + b₁.toNat := by
  have h₀ := b₀.toNat_lt
  have h₁ := b₁.toNat_lt
  have hshift : (b₀.toUInt16 <<< 8).toNat = b₀.toNat * 2 ^ 8 := by
    rw [UInt16.toNat_shiftLeft, Nat.shiftLeft_eq]
    change b₀.toNat * 2 ^ 8 % 2 ^ 16 = _
    omega
  rw [readU16Be, UInt16.toNat_or, hshift, UInt8.toNat_toUInt16, mul_two_pow_or_eq_add h₁]
  norm_num

/-- A byte moved to a higher position of a 32-bit word. -/
theorem toNat_toUInt32_shiftLeft (b : UInt8) {k : UInt32} (hk : k.toNat ≤ 24) :
    (b.toUInt32 <<< k).toNat = b.toNat * 2 ^ k.toNat := by
  have hb := b.toNat_lt
  have hpow : 2 ^ k.toNat ≤ 2 ^ 24 := Nat.pow_le_pow_right (by norm_num) hk
  have hlt : b.toNat * 2 ^ k.toNat < 2 ^ 32 := by
    calc b.toNat * 2 ^ k.toNat ≤ b.toNat * 2 ^ 24 := Nat.mul_le_mul_left _ hpow
      _ < 2 ^ 32 := by omega
  rw [UInt32.toNat_shiftLeft, UInt8.toNat_toUInt32, Nat.shiftLeft_eq,
    Nat.mod_eq_of_lt (show k.toNat < 32 by omega), Nat.mod_eq_of_lt hlt]

theorem toNat_readU24Be (b₀ b₁ b₂ : UInt8) : (readU24Be b₀ b₁ b₂).toNat =
      b₀.toNat * 65536 + b₁.toNat * 256 + b₂.toNat := by
  have h₁ := b₁.toNat_lt
  have h₂ := b₂.toNat_lt
  have hhigh : b₀.toNat * 2 ^ 16 ||| b₁.toNat * 2 ^ 8 = (b₀.toNat * 2 ^ 8 + b₁.toNat) * 2 ^ 8 := by
    rw [mul_two_pow_or_eq_add (by omega)]
    ring
  rw [readU24Be, UInt32.toNat_or, UInt32.toNat_or, toNat_toUInt32_shiftLeft b₀ (by decide),
    toNat_toUInt32_shiftLeft b₁ (by decide)]
  change b₀.toNat * 2 ^ 16 ||| b₁.toNat * 2 ^ 8 ||| b₂.toNat = _
  rw [hhigh, mul_two_pow_or_eq_add h₂]
  ring

theorem toNat_readU32Be (b₀ b₁ b₂ b₃ : UInt8) : (readU32Be b₀ b₁ b₂ b₃).toNat =
      b₀.toNat * 16777216 + b₁.toNat * 65536 + b₂.toNat * 256 + b₃.toNat := by
  have h₁ := b₁.toNat_lt
  have h₂ := b₂.toNat_lt
  have h₃ := b₃.toNat_lt
  have hhigh : b₀.toNat * 2 ^ 24 ||| b₁.toNat * 2 ^ 16 =
      (b₀.toNat * 2 ^ 8 + b₁.toNat) * 2 ^ 16 := by
    rw [mul_two_pow_or_eq_add (by omega)]
    ring
  have hmid : (b₀.toNat * 2 ^ 8 + b₁.toNat) * 2 ^ 16 ||| b₂.toNat * 2 ^ 8 =
      ((b₀.toNat * 2 ^ 8 + b₁.toNat) * 2 ^ 8 + b₂.toNat) * 2 ^ 8 := by
    rw [mul_two_pow_or_eq_add (by omega)]
    ring
  rw [readU32Be, UInt32.toNat_or, UInt32.toNat_or, UInt32.toNat_or,
    toNat_toUInt32_shiftLeft b₀ (by decide), toNat_toUInt32_shiftLeft b₁ (by decide),
    toNat_toUInt32_shiftLeft b₂ (by decide)]
  change b₀.toNat * 2 ^ 24 ||| b₁.toNat * 2 ^ 16 ||| b₂.toNat * 2 ^ 8 ||| b₃.toNat = _
  rw [hhigh, hmid, mul_two_pow_or_eq_add h₃]
  ring

theorem readU32Le_eq_readU32Be (b₀ b₁ b₂ b₃ : UInt8) :
    readU32Le b₀ b₁ b₂ b₃ = readU32Be b₃ b₂ b₁ b₀ := by
  unfold readU32Le readU32Be
  generalize b₃.toUInt32 <<< 24 = fourth
  ac_rfl

/-! ## Reading back what was written -/

/-- The byte a writer stores for the bits from `k` upwards. -/
theorem toNat_shiftRight_toUInt8 {k : UInt32} (hk : k.toNat < 32) :
    ((value >>> k).toUInt8).toNat = value.toNat / 2 ^ k.toNat % 256 := by
  rw [UInt32.toNat_toUInt8, UInt32.toNat_shiftRight, Nat.mod_eq_of_lt hk, Nat.shiftRight_eq_div_pow]

theorem readU16Be_write (value : UInt16) :
    readU16Be (value >>> 8).toUInt8 value.toUInt8 = value := by
  have h := value.toNat_lt
  apply UInt16.toNat_inj.mp
  rw [toNat_readU16Be, UInt16.toNat_toUInt8, UInt16.toNat_shiftRight, Nat.shiftRight_eq_div_pow]
  change value.toNat / 2 ^ 8 % 2 ^ 8 * 256 + value.toNat % 2 ^ 8 = _
  omega

theorem toNat_readU24Be_write : (readU24Be (value >>> 16).toUInt8 (value >>> 8).toUInt8
      value.toUInt8).toNat = value.toNat % 2 ^ 24 := by
  rw [toNat_readU24Be, toNat_shiftRight_toUInt8 value (by decide),
    toNat_shiftRight_toUInt8 value (by decide)]
  change value.toNat / 2 ^ 16 % 256 * 65536 + value.toNat / 2 ^ 8 % 256 * 256 +
    value.toNat % 2 ^ 8 = _
  omega

theorem readU24Be_write {value : UInt32} (h : value.toNat < 2 ^ 24) :
    readU24Be (value >>> 16).toUInt8 (value >>> 8).toUInt8 value.toUInt8 = value := by
  apply UInt32.toNat_inj.mp
  rw [toNat_readU24Be_write, Nat.mod_eq_of_lt h]

theorem readU32Be_write : readU32Be (value >>> 24).toUInt8 (value >>> 16).toUInt8
      (value >>> 8).toUInt8 value.toUInt8 = value := by
  have h := value.toNat_lt
  apply UInt32.toNat_inj.mp
  rw [toNat_readU32Be, toNat_shiftRight_toUInt8 value (by decide),
    toNat_shiftRight_toUInt8 value (by decide), toNat_shiftRight_toUInt8 value (by decide)]
  change value.toNat / 2 ^ 24 % 256 * 16777216 +
    value.toNat / 2 ^ 16 % 256 * 65536 + value.toNat / 2 ^ 8 % 256 * 256 +
    value.toNat % 2 ^ 8 = _
  omega

theorem readU32Le_write : readU32Le value.toUInt8 (value >>> 8).toUInt8 (value >>> 16).toUInt8
      (value >>> 24).toUInt8 = value := by
  rw [readU32Le_eq_readU32Be, readU32Be_write]

theorem shiftInByte_shiftRight (value : UInt64) {high low : UInt64}
    (hlow : low.toNat < 56) (hhigh : high.toNat = low.toNat + 8) :
    shiftInByte (value >>> high) (value >>> low).toUInt8 = value >>> low := by
  have hval := value.toNat_lt
  apply UInt64.toNat_inj.mp
  have hpow : 2 ^ high.toNat = 2 ^ low.toNat * 2 ^ 8 := by rw [hhigh, Nat.pow_add]
  have hbits : value.toNat / 2 ^ high.toNat = value.toNat / 2 ^ low.toNat / 2 ^ 8 := by
    rw [hpow, Nat.div_div_eq_div_mul]
  have hle : value.toNat / 2 ^ low.toNat ≤ value.toNat := Nat.div_le_self _ _
  rw [shiftInByte, UInt64.toNat_or, UInt64.toNat_shiftLeft,
    UInt8.toNat_toUInt64, UInt64.toNat_toUInt8, UInt64.toNat_shiftRight,
    UInt64.toNat_shiftRight, Nat.mod_eq_of_lt (show high.toNat < 64 by omega),
    Nat.mod_eq_of_lt (show low.toNat < 64 by omega),
    Nat.shiftRight_eq_div_pow, Nat.shiftRight_eq_div_pow, Nat.shiftLeft_eq, hbits]
  change value.toNat / 2 ^ low.toNat / 2 ^ 8 * 2 ^ 8 % 2 ^ 64 |||
    value.toNat / 2 ^ low.toNat % 2 ^ 8 = _
  generalize value.toNat / 2 ^ low.toNat = bits at hle
  rw [Nat.mod_eq_of_lt (show bits / 2 ^ 8 * 2 ^ 8 < 2 ^ 64 by omega),
    mul_two_pow_or_eq_add (Nat.mod_lt _ (by norm_num))]
  omega

theorem foldl_shiftInByte_write (value : UInt64) :
    (writeU64Be value).foldl shiftInByte 0 = value := by
  have hfst : shiftInByte 0 (value >>> 56).toUInt8 = value >>> 56 := by
    have h := value.toNat_lt
    apply UInt64.toNat_inj.mp
    rw [shiftInByte, UInt64.toNat_or, UInt8.toNat_toUInt64,
      UInt64.toNat_toUInt8, UInt64.toNat_shiftRight, Nat.shiftRight_eq_div_pow]
    change 0 ||| value.toNat / 2 ^ 56 % 2 ^ 8 = value.toNat / 2 ^ 56
    rw [Nat.zero_or]
    omega
  simp only [writeU64Be, foldl_cons, hfst]
  simp (disch := decide) only [shiftInByte_shiftRight]
  exact UInt64.shiftRight_zero

/-! ## Text -/

def textBytes (text : String) : Bytes := text.toByteArray.data.toList

instance : Coe String Bytes := ⟨textBytes⟩

/-! ## Reading at an offset of a buffer -/

variable (buffer : Bytes) (offset : ℕ)

/-- The byte at an offset.  Every caller has checked that the offset lies in
the buffer. -/
def byteAt : UInt8 := buffer.getD offset 0

def readU16BeAt : UInt16 := readU16Be (byteAt buffer offset) (byteAt buffer (offset + 1))

def readU24BeAt : UInt32 :=
  readU24Be (byteAt buffer offset) (byteAt buffer (offset + 1)) (byteAt buffer (offset + 2))

def readU32BeAt : UInt32 :=
  readU32Be (byteAt buffer offset) (byteAt buffer (offset + 1))
    (byteAt buffer (offset + 2)) (byteAt buffer (offset + 3))

def readU32LeAt : UInt32 :=
  readU32Le (byteAt buffer offset) (byteAt buffer (offset + 1))
    (byteAt buffer (offset + 2)) (byteAt buffer (offset + 3))

theorem byteAt_append_left {b : Bytes} {i : ℕ}
    (h : i < b.length) : byteAt (b ++ x) i = byteAt b i := by
  simp [byteAt, getElem?_append_left h]

theorem byteAt_append_right : byteAt (b ++ x) (b.length + i) = byteAt x i := by
  simp [byteAt, getElem?_append_right]

theorem readU24BeAt_append_right : readU24BeAt (b ++ x) (b.length + i) = readU24BeAt x i := by
  simp only [readU24BeAt, Nat.add_assoc, byteAt_append_right]

theorem readU32BeAt_append_right : readU32BeAt (b ++ x) (b.length + i) = readU32BeAt x i := by
  simp only [readU32BeAt, Nat.add_assoc, byteAt_append_right]

theorem readU32LeAt_append_right : readU32LeAt (b ++ x) (b.length + i) = readU32LeAt x i := by
  simp only [readU32LeAt, Nat.add_assoc, byteAt_append_right]

@[simp] theorem byteAt_cons_zero (a : UInt8) (b : Bytes) : byteAt (a :: b) 0 = a := rfl

@[simp] theorem byteAt_cons_succ (a : UInt8) (b : Bytes) (i : ℕ) :
    byteAt (a :: b) (i + 1) = byteAt b i := rfl

theorem readU24BeAt_write {value : UInt32} (h : value.toNat < 2 ^ 24)
    (x : Bytes) : readU24BeAt (writeU24Be value ++ x) 0 = value :=
  readU24Be_write h

theorem readU32BeAt_write : readU32BeAt (writeU32Be value ++ x) 0 = value := readU32Be_write value

theorem readU32LeAt_write : readU32LeAt (writeU32Le value ++ x) 0 = value := readU32Le_write value

/-! Reads inside a buffer do not depend on what follows it. -/

section Append

variable {b : Bytes} (x : Bytes) {offset : ℕ}

theorem readU24BeAt_append_left (h : offset + 3 ≤ b.length) :
    readU24BeAt (b ++ x) offset = readU24BeAt b offset := by
  simp only [readU24BeAt]
  rw [byteAt_append_left x (by omega), byteAt_append_left x (by omega),
    byteAt_append_left x (by omega)]

theorem readU32BeAt_append_left (h : offset + 4 ≤ b.length) :
    readU32BeAt (b ++ x) offset = readU32BeAt b offset := by
  simp only [readU32BeAt]
  rw [byteAt_append_left x (by omega), byteAt_append_left x (by omega),
    byteAt_append_left x (by omega), byteAt_append_left x (by omega)]

theorem readU32LeAt_append_left (h : offset + 4 ≤ b.length) :
    readU32LeAt (b ++ x) offset = readU32LeAt b offset := by
  simp only [readU32LeAt]
  rw [byteAt_append_left x (by omega), byteAt_append_left x (by omega),
    byteAt_append_left x (by omega), byteAt_append_left x (by omega)]

end Append

end RtmpCore.Core
