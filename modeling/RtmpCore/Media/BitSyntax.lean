import RtmpCore.Media.Bitstream
import RtmpCore.Support.Reading

/-!
# The syntax elements of a bit string

What the codes of a parameter set stand for: numbers without a bound, read from a
list of bits that must not end too early.  The bit reader refines this reading.
It computes with 32 bits, and none of its sums overflows, because it refuses codes
of more than 63 bits.
-/

namespace RtmpCore.Media

open Bitstream List Option

/-- A reader of bits that stops where they end. -/
abbrev Syntax := StateT (List Bool) Option

namespace Syntax

def bit : Syntax Bool
  | [] => none
  | b :: rest => some (b, rest)

/-- The number begun with, followed by so many digits. -/
def uFrom (value : ℕ) : ℕ → Syntax ℕ
  | 0 => return value
  | count + 1 => do
      let b ← bit
      uFrom (2 * value + b.toNat) count

def u (count : ℕ) : Syntax ℕ := uFrom 0 count

def skip : ℕ → Syntax Unit
  | 0 => return
  | count + 1 => do
      let _ ← bit
      skip count

/-- The zeros before the next one, at most so many. -/
def leadingZeros : ℕ → Syntax ℕ
  | 0 => return 0
  | limit + 1 => do
      if ← bit then return 0
      let zeros ← leadingZeros limit
      return zeros + 1

/-- Unsigned Exp-Golomb code: `2 ^ zeros - 1` and the digits after the one. -/
def ue : Syntax ℕ := do
  let zeros ← leadingZeros 32
  if 32 ≤ zeros then failure
  else
    let suffix ← u zeros
    return 2 ^ zeros - 1 + suffix

/-- Signed Exp-Golomb code. -/
def se : Syntax ℤ := do
  let code ← ue
  return if code % 2 = 0 then -((code + 1) / 2 : ℕ) else ((code + 1) / 2 : ℕ)

end Syntax

/-! ## The bits of a buffer -/

def byteBits (byte : UInt8) : List Bool := (List.range 8).map fun i => byte.toNat.testBit (7 - i)

def bitsOf (data : Bytes) : List Bool := data.flatMap byteBits

theorem getElem?_bitsOf (data : Bytes) (place : ℕ) : (bitsOf data)[place]? =
      data[place / 8]?.map fun byte => byte.toNat.testBit (7 - place % 8) := by
  induction data generalizing place with
  | nil => simp [bitsOf]
  | cons byte rest ih =>
    have hcons : bitsOf (byte :: rest) = byteBits byte ++ bitsOf rest := rfl
    have hlen : (byteBits byte).length = 8 := by simp [byteBits]
    rw [hcons]
    by_cases hplace : place < 8
    · rw [getElem?_append_left (by rw [hlen]; exact hplace),
        Nat.div_eq_of_lt hplace, Nat.mod_eq_of_lt hplace]
      simp [byteBits, hplace]
    · have hdiv : place / 8 = (place - 8) / 8 + 1 := by omega
      have hmod : place % 8 = (place - 8) % 8 := by omega
      rw [getElem?_append_right (by rw [hlen]; omega), hlen, ih, hdiv, hmod, getElem?_cons_succ]

namespace Bitstream.BitReader

open Reading

def rest (reader : BitReader) : List Bool := (bitsOf reader.data).drop reader.position

/-- The reader reads what the syntax says. -/
abbrev Reads {α β : Type} (R : α → β → Prop) (m : StateM BitReader α) (p : Syntax β) : Prop :=
  Refines BitReader.overrun rest R m p

abbrev Lasting {α : Type} (m : StateM BitReader α) : Prop := Sticky BitReader.overrun m

/-- A number of 32 bits stands for a number. -/
def Stands (a : UInt32) (n : ℕ) : Prop := a.toNat = n

theorem Stands.eq_iff {a k : UInt32} {n m : ℕ} (h : Stands a n) (hk : Stands k m) :
    a = k ↔ n = m := by
  rw [← h, ← hk, UInt32.toNat_inj]

/-- The value of a bit. -/
def Shows (a : UInt32) (b : Bool) : Prop := a = if b then 1 else 0

theorem shifted_bit (byte : UInt8) (place : ℕ) (h : place < 8) :
    (byte.toUInt32 >>> (7 - UInt32.ofNat place)) &&& 1 =
      if byte.toNat.testBit (7 - place) then 1 else 0 := by
  have hall : ∀ n : Fin 256, ∀ k : Fin 8,
      ((UInt8.ofNat n).toUInt32 >>> (7 - UInt32.ofNat k)) &&& 1 =
        if (UInt8.ofNat n).toNat.testBit (7 - k) then 1 else 0 := by decide +kernel
  simpa using hall ⟨byte.toNat, byte.toNat_lt⟩ ⟨place, h⟩

instance lasting_bit : Lasting bit where
  kept reader hover := by
    rw [StateT.run, bit]
    cases reader.data[reader.position / 8]? with
    | none => rfl
    | some byte => exact hover

theorem reads_bit : Reads Shows bit Syntax.bit where
  stops reader hdown hnone := by
    have hend : reader.data[reader.position / 8]? = none := by
      have hplace := getElem?_bitsOf reader.data reader.position
      cases hbits : reader.rest with
      | nil =>
        rw [rest, drop_eq_nil_iff] at hbits
        rw [getElem?_eq_none hbits] at hplace
        exact map_eq_none_iff.mp hplace.symm
      | cons b bits =>
        rw [hbits] at hnone
        cases hnone
    rw [StateT.run, bit, hend]
  agrees reader hdown b bits hsome := by
    cases hbits : reader.rest with
    | nil =>
      rw [hbits] at hsome
      cases hsome
    | cons b' bits' =>
      rw [hbits] at hsome
      cases hsome
      have hplace := getElem?_bitsOf reader.data reader.position
      have hfst : (bitsOf reader.data)[reader.position]? = some b := by
        rw [← head?_drop, ← rest, hbits]
        rfl
      rw [hfst] at hplace
      obtain ⟨byte, hbyte, hb⟩ := map_eq_some_iff.mp hplace.symm
      have hrest : (bitsOf reader.data).drop (reader.position + 1) = bits := by
        rw [← tail_drop, ← rest, hbits]
        rfl
      rw [StateT.run, bit, hbyte]
      refine ⟨hdown, hrest, ?_⟩
      rw [← hb]
      exact shifted_bit byte _ (Nat.mod_lt _ (by decide))

/-! ## Numbers -/

instance lasting_uFrom (value : UInt32) (count : ℕ) : Lasting (uFrom value count) := by
  induction count generalizing value with
  | zero => exact .pure value
  | succ count ih => exact .bind

theorem toNat_shift_or {value b : UInt32} {n : ℕ} {digit : Bool} (hval : Stands value n)
    (hb : Shows b digit) (hn : 2 * n + 1 < 2 ^ 32) :
    Stands ((value <<< 1) ||| b) (2 * n + digit.toNat) := by
  unfold Stands Shows at *
  subst hval hb
  have hshift : (value <<< 1).toNat = 2 * value.toNat := by
    rw [UInt32.toNat_shiftLeft]
    simp only [UInt32.toNat_one, Nat.reduceMod]
    omega
  have hor : 2 * value.toNat ||| digit.toNat = 2 * value.toNat + digit.toNat := by
    have hdigit : digit.toNat < 2 ^ 1 := by cases digit <;> decide
    simpa [Nat.mul_comm] using (Nat.two_pow_add_eq_or_of_lt hdigit value.toNat).symm
  cases digit with
  | false => simp [hshift]
  | true => simpa [hshift] using hor

/-- A number of so many digits. -/
def Digits (count : ℕ) (a : UInt32) (n : ℕ) : Prop := Stands a n ∧ n < 2 ^ count

theorem reads_uFrom (count bound : ℕ) {value : UInt32} {n : ℕ} (hval : Digits bound value n)
    (hbd : bound + count ≤ 32) :
    Reads (Digits (bound + count)) (uFrom value count) (Syntax.uFrom n count) := by
  induction count generalizing value n bound with
  | zero => exact .pure hval
  | succ count ih =>
    apply reads_bit.bind
    intro b digit hb
    have hn := hval.2
    have hdigit : digit.toNat ≤ 1 := Bool.toNat_le digit
    have hpow : 2 ^ bound ≤ 2 ^ 31 := Nat.pow_le_pow_right (by decide) (by omega)
    have hsum : 2 * n + digit.toNat < 2 ^ (bound + 1) := by omega
    have hnext : bound + (count + 1) = bound + 1 + count := by omega
    rw [hnext]
    exact ih (bound + 1) ⟨toNat_shift_or hval.1 hb (by omega), hsum⟩ (by omega)

instance lasting_u (count : ℕ) : Lasting (u count) := lasting_uFrom 0 count

theorem reads_u {count : ℕ} (h : count ≤ 32) : Reads (Digits count) (u count) (Syntax.u count) := by
  have hzero : Digits 0 0 0 := ⟨rfl, by decide⟩
  have hread := reads_uFrom count 0 hzero (by omega)
  rwa [Nat.zero_add] at hread

instance lasting_flag : Lasting flag := .bind

theorem reads_flag : Reads Eq flag Syntax.bit := by
  apply reads_bit.bind_pure
  rintro _ b rfl
  cases b <;> rfl

instance lasting_skip (count : ℕ) : Lasting (skip count) := by
  induction count with
  | zero => exact .pure ()
  | succ count ih => exact .bind

theorem reads_skip (count : ℕ) : Reads Eq (skip count) (Syntax.skip count) := by
  induction count with
  | zero => exact .pure rfl
  | succ count ih => exact reads_bit.bind fun _ _ _ => ih

/-! ## Exp-Golomb codes -/

instance lasting_leadingZeros (limit : ℕ) : Lasting (leadingZeros limit) := by
  induction limit with
  | zero => exact .pure 0
  | succ limit ih => exact .bind

theorem reads_leadingZeros (limit : ℕ) :
    Reads Eq (leadingZeros limit) (Syntax.leadingZeros limit) := by
  induction limit with
  | zero => exact .pure rfl
  | succ limit ih =>
    refine reads_bit.bind fun b digit hb => .get_bind fun reader hdown => ?_
    subst hb
    cases digit with
    | true => exact .pure rfl
    | false =>
      rw [if_pos (by simp [hdown])]
      exact ih.bind fun _ _ hzeros => .pure (by rw [hzeros])

/-- The value of a code, to which one can be added. -/
def Code (a : UInt32) (n : ℕ) : Prop := Stands a n ∧ n + 1 < 2 ^ 32

theorem code_of_digits {zeros n : ℕ} {suffix : UInt32} (hzeros : zeros < 32)
    (hsuf : Digits zeros suffix n) :
    Code (((1 <<< UInt32.ofNat zeros) - 1) + suffix) (2 ^ zeros - 1 + n) := by
  obtain ⟨hval, hn⟩ := hsuf
  unfold Code Stands at *
  have hpow : 2 ^ zeros ≤ 2 ^ 31 := Nat.pow_le_pow_right (by decide) (by omega)
  have hpos : 0 < 2 ^ zeros := Nat.two_pow_pos zeros
  have hshift : (1 <<< UInt32.ofNat zeros : UInt32).toNat = 2 ^ zeros := by
    have hsmall : zeros % 2 ^ 32 % 32 = zeros := by omega
    rw [UInt32.toNat_shiftLeft, UInt32.toNat_ofNat', hsmall, UInt32.toNat_one,
      Nat.shiftLeft_eq, Nat.one_mul]
    exact Nat.mod_eq_of_lt (by omega)
  have hone : (1 : UInt32) ≤ 1 <<< UInt32.ofNat zeros := by
    rw [UInt32.le_iff_toNat_le, hshift]
    exact hpos
  rw [UInt32.toNat_add, UInt32.toNat_sub_of_le _ _ hone, UInt32.toNat_one]
  omega

/-- Where a code is refused the flag is up. -/
instance lasting_refusal (reader : BitReader) :
    Lasting (do set { reader with overrun := true }; return (0 : UInt32)) where
  kept _ _ := rfl

instance lasting_ue : Lasting ue := .bind

theorem reads_ue : Reads Code ue Syntax.ue := by
  refine (reads_leadingZeros 32).bind ?_
  rintro zeros _ rfl
  refine .get_bind fun reader hdown => ?_
  by_cases hzeros : 32 ≤ zeros
  · rw [if_pos (by simp [hzeros]), if_pos hzeros]
    exact .failure fun _ => rfl
  · rw [if_neg (by simp [hzeros, hdown]), if_neg hzeros]
    refine (reads_u (by omega)).bind fun suffix n hsuf => ?_
    exact .pure (code_of_digits (by omega) hsuf)

instance lasting_se : Lasting se := .bind

theorem reads_se : Reads Eq se Syntax.se := by
  refine reads_ue.bind fun code n hcode => .pure ?_
  obtain ⟨hval, hn⟩ := hcode
  subst hval
  have hhalf : ((code + 1) / 2).toNat = (code.toNat + 1) / 2 := by
    rw [UInt32.toNat_div]
    congr 1
    exact Nat.mod_eq_of_lt hn
  have heven : code % 2 = 0 ↔ code.toNat % 2 = 0 := by
    rw [← UInt32.toNat_inj]
    rfl
  rw [hhalf]
  by_cases hcase : code % 2 = 0
  · rw [if_pos hcase, if_pos (heven.mp hcase)]
  · rw [if_neg hcase, if_neg (hcase ∘ heven.mpr)]

end Bitstream.BitReader

end RtmpCore.Media
