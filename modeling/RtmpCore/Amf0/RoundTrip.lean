import RtmpCore.Amf0.Codec
import RtmpCore.Support.Placed

/-!
# Decoding what was encoded

The encoding of a value is decoded back wherever it stands in a buffer,
whatever follows it.  The induction is on the nesting levels the decoder still
allows; a container hands the statement for its children to the loop that
decodes them.
-/

namespace RtmpCore.Amf0

open RtmpCore.Core List

mutual

/-- Every length inside the value fits the field that announces it, and every
property list is shorter than the decoder's sanity limit. -/
def Amf0Value.fits : Amf0Value → Bool
  | .string bytes => bytes.length < 2 ^ 32
  | .object properties => properties.length < kMaxProperties && propertiesFit properties
  | .ecmaArray properties => properties.length < kMaxProperties && propertiesFit properties
  | .strictArray items => items.length < 2 ^ 32 && itemsFit items
  | .number _ | .boolean _ | .null | .undefined | .date _ _ => true

def propertiesFit : List (Bytes × Amf0Value) → Bool
  | [] => true
  | (name, value) :: rest =>
    (1 ≤ name.length && name.length ≤ 65535) && value.fits && propertiesFit rest

def itemsFit : List Amf0Value → Bool
  | [] => true
  | item :: rest => item.fits && itemsFit rest

end

theorem propertiesFit_iff {props : Amf0PropertyList} :
    propertiesFit props = true ↔ ∀ property ∈ props,
      (1 ≤ property.1.length ∧ property.1.length ≤ 65535) ∧ property.2.fits = true := by
  induction props with
  | nil => simp [propertiesFit]
  | cons head rest ih => simp [propertiesFit, ih]

theorem itemsFit_iff {items : List Amf0Value} :
    itemsFit items = true ↔ ∀ item ∈ items, item.fits = true := by
  induction items with
  | nil => simp [itemsFit]
  | cons head rest ih => simp [itemsFit, ih]

/-! ## Reading placed fields -/

section Fields

variable {data : Bytes} {offset : ℕ}

theorem require_placed {x : Bytes} {needed : ℕ}
    (h : Placed data offset x) (hneeded : needed = x.length) :
    require data offset needed = .ok () := by
  have hle := h.add_length_le
  exact if_neg (by omega)

theorem byteAt_placed {byte : UInt8} (h : Placed data offset [byte]) :
    byteAt data offset = byte := by
  rw [byteAt, List.getD, h.getElem?_eq, Option.getD_some]

theorem readU16BeAt_placed {value : UInt16} (h : Placed data offset (writeU16Be value)) :
    readU16BeAt data offset = value := by
  rw [readU16BeAt, byteAt_placed h.head, byteAt_placed h.tail, readU16Be_write]

theorem readU32BeAt_placed {value : UInt32} (h : Placed data offset (writeU32Be value)) :
    readU32BeAt data offset = value := by
  rw [readU32BeAt, byteAt_placed h.head, byteAt_placed h.tail.head,
    byteAt_placed h.tail.tail.head, byteAt_placed h.tail.tail.tail, readU32Be_write]

theorem map_byteAt_placed {x : Bytes} (h : Placed data offset x) :
    (List.range x.length).map (fun i => byteAt data (offset + i)) = x := by
  induction x generalizing offset with
  | nil => rfl
  | cons byte rest ih =>
    have hrest := ih h.tail
    rw [length_cons, range_succ_eq_map, map_cons, Nat.add_zero, byteAt_placed h.head]
    simpa [Function.comp_def, Nat.add_assoc, Nat.add_comm 1] using hrest

theorem readF64BeAt_placed {bits : UInt64} (h : Placed data offset (appendF64Be bits)) :
    readF64BeAt data offset = bits := by
  have hby := map_byteAt_placed h
  rw [appendF64Be, length_writeU64Be] at hby
  rw [readF64BeAt, hby, foldl_shiftInByte_write]

theorem readBytesAsString_placed {x : Bytes} {len : ℕ}
    (h : Placed data offset x) (hlen : len = x.length) : readBytesAsString data offset len = x := by
  rw [readBytesAsString, hlen, h.take_drop]

end Fields

theorem toNat_ofNat_u16 {n : ℕ} (h : n ≤ 65535) : (UInt16.ofNat n).toNat = n := by
  rw [UInt16.toNat_ofNat', Nat.mod_eq_of_lt (by omega)]

theorem toNat_ofNat_u32 {n : ℕ} (h : n < 2 ^ 32) : (UInt32.ofNat n).toNat = n := by
  rw [UInt32.toNat_ofNat', Nat.mod_eq_of_lt h]

theorem toNat_nameLength {name : Bytes} (h : name.length ≤ 65535) :
    (UInt16.ofNat (name.length &&& 0xFFFF)).toNat = name.length := by
  have hmask : name.length &&& 0xFFFF = name.length := by
    rw [show 0xFFFF = 2 ^ 16 - 1 from rfl, Nat.and_two_pow_sub_one_eq_mod,
      Nat.mod_eq_of_lt (by omega)]
  rw [hmask, toNat_ofNat_u16 h]

theorem encode_length_pos (value : Amf0Value) : 0 < (encode value).length := by
  cases value <;> simp [encode, appendMarker]

theorem length_le_encodeItems (items : List Amf0Value) :
    items.length ≤ (encodeItems items).length := by
  induction items with
  | nil => exact le_rfl
  | cons item rest ih =>
    have hpos := encode_length_pos item
    rw [encodeItems, length_append, length_cons]
    omega

/-! ## Containers -/

section Containers

variable {data : Bytes} {child : ℕ → Except Error Amf0Decoded}

/-- The decoder `child` reads `value` back wherever its encoding stands. -/
def Restores (data : Bytes) (child : ℕ → Except Error Amf0Decoded) (value : Amf0Value) : Prop :=
  ∀ offset, Placed data offset (encode value) → child offset = .ok ⟨value, (encode value).length⟩

theorem decodePropertyLoop_placed {props : Amf0PropertyList} {rounds cursor : ℕ}
    (hfit : propertiesFit props = true)
    (hchild : ∀ property ∈ props, Restores data child property.2) (hrnds : props.length < rounds)
    (h : Placed data cursor (appendProperties props)) :
    decodePropertyLoop data child rounds cursor =
      .ok (props, cursor + (appendProperties props).length) := by
  induction props generalizing rounds cursor with
  | nil =>
    obtain ⟨rounds, rfl⟩ := Nat.exists_eq_succ_of_ne_zero hrnds.ne'
    have hlen : require data cursor 2 = .ok () := require_placed h.left rfl
    have hmark : require data (cursor + 2) 1 = .ok () := require_placed h.right rfl
    have hname := readU16BeAt_placed h.left
    have hend : byteAt data (cursor + 2) = Amf0Marker.objectEnd.toByte := byteAt_placed h.right
    rw [decodePropertyLoop, hlen, hname]
    simp [hmark, hend, appendProperties, appendMarker]
  | cons head rest ih =>
    obtain ⟨name, value⟩ := head
    obtain ⟨rounds, rfl⟩ := Nat.exists_eq_succ_of_ne_zero (Nat.ne_zero_of_lt hrnds)
    obtain ⟨⟨⟨hpos, hshort⟩, -⟩, hrestfit⟩ := forall_mem_cons.mp (propertiesFit_iff.mp hfit)
    rw [appendProperties, appendPropertyName, append_assoc] at h
    have hlen : require data cursor 2 = .ok () := require_placed h.left rfl
    have hname : (readU16BeAt data cursor).toNat = name.length := by
      rw [readU16BeAt_placed h.left, toNat_nameLength hshort]
    have hby : Placed data (cursor + 2) name := h.right.left
    have hval := hchild (name, value) (mem_cons_self ..) _ h.right.right.left
    have hrest := ih (propertiesFit_iff.mpr hrestfit)
      (fun property hmem => hchild property (mem_cons_of_mem _ hmem))
      (Nat.lt_of_succ_lt_succ hrnds) h.right.right.right
    rw [decodePropertyLoop, hlen, hname]
    simp only [if_neg (Nat.ne_of_gt hpos), require_placed hby rfl, ok_bind,
      readBytesAsString_placed hby rfl]
    rw [length_writeU16Be] at hval hrest
    rw [hval, ok_bind, hrest]
    simp [appendProperties, appendPropertyName, Nat.add_assoc]

theorem decodeItems_placed {items : List Amf0Value} {cursor : ℕ}
    (hchild : ∀ item ∈ items, Restores data child item)
    (h : Placed data cursor (encodeItems items)) :
    decodeItems child items.length cursor = .ok (items, cursor + (encodeItems items).length) := by
  induction items generalizing cursor with
  | nil => rfl
  | cons item rest ih =>
    have hitem := hchild item (mem_cons_self ..) cursor h.left
    have hrest := ih (fun next hnext => hchild next (mem_cons_of_mem _ hnext))
      h.right
    rw [length_cons, decodeItems, hitem, ok_bind, hrest]
    simp [encodeItems, Nat.add_assoc]

theorem decodeProperties_placed {budget offset : ℕ}
    {props : Amf0PropertyList} (hbudget : 0 < budget) (hfew : props.length < kMaxProperties)
    (hfit : propertiesFit props = true)
    (hchild : ∀ property ∈ props, Restores data child property.2)
    (h : Placed data offset (appendProperties props)) :
    decodeProperties data budget child offset = .ok (props, (appendProperties props).length) := by
  rw [decodeProperties, if_neg hbudget.ne', decodePropertyLoop_placed hfit hchild hfew h]
  simp

end Containers

/-! ## Bodies -/

section Bodies

variable {data : Bytes} {budget offset : ℕ} {child : ℕ → Except Error Amf0Decoded}

theorem decodeBody_number {bits : UInt64} (h : Placed data (offset + 1) (appendF64Be bits)) :
    decodeBody data budget child offset .number =
      .ok ⟨.number bits, 1 + (appendF64Be bits).length⟩ := by
  have hroom : require data (offset + 1) 8 = .ok () := require_placed h rfl
  rw [decodeBody, hroom, readF64BeAt_placed h]
  rfl

theorem decodeBody_boolean {flag : Bool} (h : Placed data (offset + 1) [if flag then 1 else 0]) :
    decodeBody data budget child offset .boolean = .ok ⟨.boolean flag, 2⟩ := by
  have hroom : require data (offset + 1) 1 = .ok () := require_placed h rfl
  rw [decodeBody, hroom, byteAt_placed h]
  cases flag <;> rfl

theorem decodeBody_string {s : Bytes} (hshort : s.length ≤ 65535)
    (h : Placed data (offset + 1) (writeU16Be (UInt16.ofNat s.length) ++ s)) :
    decodeBody data budget child offset .string = .ok ⟨.string s, 3 + s.length⟩ := by
  have hlen : require data (offset + 1) 2 = .ok () := require_placed h.left rfl
  have hby : Placed data (offset + 3) s := h.right
  rw [decodeBody, hlen, readU16BeAt_placed h.left, toNat_ofNat_u16 hshort]
  simp only [require_placed hby rfl, ok_bind, readBytesAsString_placed hby rfl, pure_eq_ok]

theorem decodeBody_longString {s : Bytes} (hlong : s.length < 2 ^ 32)
    (h : Placed data (offset + 1) (writeU32Be (UInt32.ofNat s.length) ++ s)) :
    decodeBody data budget child offset .longString = .ok ⟨.string s, 5 + s.length⟩ := by
  have hlen : require data (offset + 1) 4 = .ok () := require_placed h.left rfl
  have hby : Placed data (offset + 5) s := h.right
  rw [decodeBody, hlen, readU32BeAt_placed h.left, toNat_ofNat_u32 hlong]
  simp only [require_placed hby rfl, ok_bind, readBytesAsString_placed hby rfl, pure_eq_ok]

/-- The count check of a strict array passes: every element occupies a byte of
what remains. -/
theorem decodeBody_strictArray {items : List Amf0Value} (hcnt : items.length < 2 ^ 32)
    (hchild : ∀ item ∈ items, Restores data child item)
    (h : Placed data (offset + 1) (writeU32Be (UInt32.ofNat items.length) ++ encodeItems items)) :
    decodeBody data budget child offset .strictArray =
      .ok ⟨.strictArray items, 5 + (encodeItems items).length⟩ := by
  have hlen : require data (offset + 1) 4 = .ok () := require_placed h.left rfl
  have hitems : Placed data (offset + 5) (encodeItems items) := h.right
  have hroom := hitems.add_length_le
  have hby := length_le_encodeItems items
  have hcons : offset + 5 + (encodeItems items).length - offset =
      5 + (encodeItems items).length := by omega
  rw [decodeBody, hlen, ok_bind, readU32BeAt_placed h.left, toNat_ofNat_u32 hcnt]
  simp only [kMinValueBytes, Nat.div_one]
  rw [if_neg (by omega), decodeItems_placed hchild hitems, ok_bind, hcons, pure_eq_ok]

theorem decodeBody_date {milliseconds : UInt64} {timezone : Int16} (h : Placed data (offset + 1)
      (appendF64Be milliseconds ++ writeU16Be timezone.toUInt16)) :
    decodeBody data budget child offset .date = .ok ⟨.date milliseconds timezone, 11⟩ := by
  have hroom : require data (offset + 1) 10 = .ok () := require_placed h rfl
  have hzone : readU16BeAt data (offset + 9) = timezone.toUInt16 := readU16BeAt_placed h.right
  rw [decodeBody, hroom, readF64BeAt_placed h.left, hzone]
  rfl

end Bodies

/-! ## Values -/

section Values

variable {data : Bytes} {budget offset : ℕ} {value : Amf0Value}

theorem decodeValueAt_of_body {marker : Amf0Marker} {body : Bytes}
    (hencode : encode value = appendMarker marker ++ body) (h : Placed data offset (encode value))
    (hbody : Placed data (offset + 1) body →
      decodeBody data budget (decodeValueAt data budget) offset marker =
        .ok ⟨value, 1 + body.length⟩) :
    decodeValueAt data (budget + 1) offset = .ok ⟨value, (encode value).length⟩ := by
  rw [hencode] at h ⊢
  have hroom : require data offset 1 = .ok () := require_placed h.left rfl
  have hbyte : byteAt data offset = marker.toByte := byteAt_placed h.left
  rw [decodeValueAt, hroom, hbyte, Amf0Marker.ofByte_toByte]
  exact (hbody h.right).trans (by rw [length_append]; rfl)

theorem decodeValueAt_string {s : Bytes} (hlong : s.length < 2 ^ 32)
    (h : Placed data offset (encode (.string s))) :
    decodeValueAt data (budget + 1) offset = .ok ⟨.string s, (encode (.string s)).length⟩ := by
  by_cases hshort : s.length ≤ 0xFFFF
  · have hencode : encode (.string s) =
        appendMarker .string ++ (writeU16Be (UInt16.ofNat s.length) ++ s) := by
      rw [encode, appendStringBody, if_pos hshort, if_pos hshort]
    apply decodeValueAt_of_body hencode h
    intro hbody
    rw [decodeBody_string hshort hbody, length_append, length_writeU16Be, ← Nat.add_assoc]
  · have hencode : encode (.string s) =
        appendMarker .longString ++ (writeU32Be (UInt32.ofNat s.length) ++ s) := by
      rw [encode, appendStringBody, if_neg hshort, if_neg hshort]
    apply decodeValueAt_of_body hencode h
    intro hbody
    rw [decodeBody_longString hlong hbody, length_append, length_writeU32Be, ← Nat.add_assoc]

theorem decodeValueAt_placed (hfits : value.fits = true) (hnest : value.nesting < budget)
    (h : Placed data offset (encode value)) :
    decodeValueAt data budget offset = .ok ⟨value, (encode value).length⟩ := by
  induction budget generalizing value offset with
  | zero => exact absurd hnest (Nat.not_lt_zero _)
  | succ budget ih =>
    have hprops : ∀ {props : Amf0PropertyList}, propertiesFit props = true →
        propertiesNesting props < budget →
        ∀ property ∈ props, Restores data (decodeValueAt data budget) property.2 := by
      intro props hfit hdeep property hmem pos hplac
      exact ih (propertiesFit_iff.mp hfit property hmem).2
        ((nesting_le_propertiesNesting hmem).trans_lt hdeep) hplac
    cases value with
    | number bits => exact decodeValueAt_of_body rfl h decodeBody_number
    | boolean flag => exact decodeValueAt_of_body rfl h decodeBody_boolean
    | string s => exact decodeValueAt_string (of_decide_eq_true hfits) h
    | object props =>
      obtain ⟨hfew, hfit⟩ := (Bool.and_eq_true _ _).mp hfits
      have hdeep := Nat.lt_of_succ_lt_succ hnest
      apply decodeValueAt_of_body rfl h
      intro hbody
      rw [decodeBody, decodeProperties_placed (Nat.zero_lt_of_lt hdeep)
        (of_decide_eq_true hfew) hfit (hprops hfit hdeep) hbody]
      rfl
    | null | undefined => exact decodeValueAt_of_body rfl h fun _ => rfl
    | ecmaArray props =>
      obtain ⟨hfew, hfit⟩ := (Bool.and_eq_true _ _).mp hfits
      have hdeep := Nat.lt_of_succ_lt_succ hnest
      apply decodeValueAt_of_body rfl h
      intro hbody
      have hhint : require data (offset + 1) 4 = .ok () := require_placed hbody.left rfl
      have hlist : Placed data (offset + 5) (appendProperties props) := hbody.right
      rw [decodeBody, hhint, decodeProperties_placed
        (Nat.zero_lt_of_lt hdeep) (of_decide_eq_true hfew) hfit
        (hprops hfit hdeep) hlist, length_append, ← Nat.add_assoc]
      rfl
    | strictArray items =>
      obtain ⟨hcnt, hfit⟩ := (Bool.and_eq_true _ _).mp hfits
      apply decodeValueAt_of_body rfl h
      intro hbody
      have hitems : ∀ item ∈ items, Restores data (decodeValueAt data budget) item := by
        intro item hmem pos hplac
        exact ih (itemsFit_iff.mp hfit item hmem) ((nesting_lt_itemsNesting hmem).trans_le
            (Nat.le_of_lt_succ hnest)) hplac
      rw [decodeBody_strictArray (of_decide_eq_true hcnt) hitems hbody,
        length_append, length_writeU32Be, ← Nat.add_assoc]
    | date milliseconds timezone => exact decodeValueAt_of_body rfl h decodeBody_date

end Values

/-! ## Messages -/

theorem decodeAllFrom_of_decoded {data : Bytes} {offset : ℕ}
    {decoded : Amf0Decoded} (hlt : offset < data.length)
    (h : decodeValue data offset 0 = .ok decoded) : decodeAllFrom data offset = do
      let rest ← decodeAllFrom data (offset + decoded.bytesConsumed)
      return decoded.value :: rest := by
  rw [decodeAllFrom, if_pos hlt]
  split
  next heq =>
    rw [h] at heq
    cases heq
  next heq =>
    rw [h] at heq
    cases heq
    rfl

theorem decodeAllFrom_placed {values : List Amf0Value} (hfits : ∀ value ∈ values, value.fits = true)
    (hnest : ∀ value ∈ values, value.nesting ≤ kMaxNestingDepth) (before : Bytes) :
    decodeAllFrom (before ++ values.flatMap encode) before.length = .ok values := by
  induction values generalizing before with
  | nil => simp [decodeAllFrom]
  | cons value rest ih =>
    obtain ⟨hval, hrest⟩ := forall_mem_cons.mp hfits
    obtain ⟨hdeep, hdeeper⟩ := forall_mem_cons.mp hnest
    have hplac : Placed (before ++ (value :: rest).flatMap encode)
        before.length (encode value) := ⟨before, rest.flatMap encode, rfl, rfl⟩
    have hroom := hplac.add_length_le
    have hpos := encode_length_pos value
    have hnext := ih hrest hdeeper (before ++ encode value)
    rw [append_assoc, length_append] at hnext
    rw [decodeAllFrom_of_decoded (by omega)
      (decodeValueAt_placed hval (Nat.lt_succ_of_le hdeep) hplac),
      flatMap_cons, hnext, ok_bind, pure_eq_ok]

/-- Values whose lengths fit and whose nesting the decoder admits survive the
wire: a message of them is decoded to the same list, and each of them is
decoded off the front of any buffer with the exact length of its encoding. -/
theorem decodeAll_encode (values : List Amf0Value) (hfits : ∀ value ∈ values, value.fits = true)
    (hnesting : ∀ value ∈ values, value.nesting ≤ kMaxNestingDepth) :
    decodeAll (values.flatMap encode) = .ok values ∧ ∀ value ∈ values, ∀ rest : List UInt8,
        decode (encode value ++ rest) = .ok ⟨value, (encode value).length⟩ := by
  constructor
  · exact decodeAllFrom_placed hfits hnesting []
  · intro value hvalue rest
    exact decodeValueAt_placed (hfits value hvalue)
      (Nat.lt_succ_of_le (hnesting value hvalue)) (Placed.start _ _)

/-- The empty strict array at the deepest admitted level: 31 objects, one
inside the other, around a strict array of a strict array. -/
def deepestValue : ℕ → Amf0Value
  | 0 => .strictArray [.strictArray []]
  | levels + 1 => .object [([0x61], deepestValue levels)]

theorem decodeAll_encode_deepest : decodeAll ([deepestValue 31, .date 0 (-60)].flatMap encode) =
        .ok [deepestValue 31, .date 0 (-60)] ∧
      ∀ value ∈ [deepestValue 31, .date 0 (-60)], ∀ rest : List UInt8,
        decode (encode value ++ rest) = .ok ⟨value, (encode value).length⟩ :=
  decodeAll_encode _ (by decide +kernel) (by decide +kernel)

end RtmpCore.Amf0
