import RtmpCore.Core.ByteOrder

/-!
# Reading parameter sets bit by bit

H.264 parameter sets are bit strings with Exp-Golomb codes.  The reader never
leaves its buffer: once the buffer is exhausted it raises the overrun flag and
reads zeros, so that a parser can look at the flag once at its end.
-/

namespace RtmpCore.Media.Bitstream

/-- The loop of `unescapeRbsp`, with the number of zero bytes just copied. -/
def unescapeFrom (zeros : ℕ) : Bytes → Bytes
  | [] => []
  | b :: rest =>
    if 2 ≤ zeros ∧ b = 0x03 then unescapeFrom 0 rest
    else b :: unescapeFrom (if b = 0 then zeros + 1 else 0) rest

/-- Remove the emulation prevention bytes of a NAL unit. -/
def unescapeRbsp (nal : Bytes) : Bytes := unescapeFrom 0 nal

structure BitReader where
  data : Bytes
  position : ℕ := 0
  overrun : Bool := false
deriving DecidableEq

namespace BitReader

def bit : StateM BitReader UInt32 := fun reader =>
  match reader.data[reader.position / 8]? with
  | none => (0, { reader with overrun := true })
  | some byte =>
    let shift := 7 - UInt32.ofNat (reader.position % 8)
    ((byte.toUInt32 >>> shift) &&& 1, { reader with position := reader.position + 1 })

/-- The bits read so far, followed by the next `count` ones. -/
def uFrom (value : UInt32) : ℕ → StateM BitReader UInt32
  | 0 => return value
  | count + 1 => do
      let b ← bit
      uFrom ((value <<< 1) ||| b) count

def u (count : ℕ) : StateM BitReader UInt32 := uFrom 0 count

def flag : StateM BitReader Bool := do
  let b ← bit
  return b != 0

def skip : ℕ → StateM BitReader Unit
  | 0 => return
  | count + 1 => do
      let _ ← bit
      skip count

/-- The zero bits before the next one bit, at most `limit` of them. -/
def leadingZeros : ℕ → StateM BitReader ℕ
  | 0 => return 0
  | limit + 1 => do
      let b ← bit
      let reader ← get
      if b == 0 && !reader.overrun then
        let zeros ← leadingZeros limit
        return zeros + 1
      else return 0

/-- Unsigned Exp-Golomb code. -/
def ue : StateM BitReader UInt32 := do
  let zeros ← leadingZeros 32
  let reader ← get
  if 32 ≤ zeros || reader.overrun then
    set { reader with overrun := true }
    return 0
  else
    let suffix ← u zeros
    return ((1 <<< UInt32.ofNat zeros) - 1) + suffix

/-- Signed Exp-Golomb code. -/
def se : StateM BitReader ℤ := do
  let code ← ue
  let magnitude : ℤ := ((code + 1) / 2).toNat
  return if code % 2 = 0 then -magnitude else magnitude

end BitReader

end RtmpCore.Media.Bitstream
