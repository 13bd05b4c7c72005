import ContentionGovernor.Lib.ByteCodec
import ContentionGovernor.Lib.CrcRegister

/-!
# CRC-32C

`digest.hpp` and `digest.cpp`: the table-driven checksum of the snapshot
payload, and that it is the register of `CrcRegister`.
-/

namespace ContentionGovernor

open Reader (littleEndian length_littleEndian ofLittleEndian_u32)

def kPoly : BitVec 32 := 0x82F63B78

/-- The inner loop that fills one entry of the table. -/
def tableEntry (i : BitVec 32) : BitVec 32 :=
  (fun c : BitVec 32 => if c &&& 1 ≠ 0 then kPoly ^^^ (c >>> 1) else c >>> 1)^[8] i

def table : Vector (BitVec 32) 256 := .ofFn fun i => tableEntry (BitVec.ofNat 32 i)

theorem low_byte_lt (x : BitVec 32) : (x &&& 0xFF).toNat < 256 := by
  have h : x.toNat &&& 0xFF ≤ 0xFF := Nat.and_le_right
  simp only [BitVec.toNat_and, BitVec.reduceToNat]
  omega

/-- The register `crc_` of a streaming checksum. -/
structure Crc32c where
  crc_ : BitVec 32 := 0xFFFFFFFF

/-- The loop body of `Crc32c::update`. -/
def updateByte (c : BitVec 32) (b : UInt8) : BitVec 32 :=
  table.get ⟨((c ^^^ b.toBitVec.setWidth 32) &&& 0xFF).toNat, low_byte_lt _⟩ ^^^ (c >>> 8)

def Crc32c.update (h : Crc32c) (data : List UInt8) : Crc32c := ⟨data.foldl updateByte h.crc_⟩

def Crc32c.final (h : Crc32c) : UInt32 := ⟨~~~h.crc_⟩

def crc32c (data : List UInt8) : UInt32 := (({} : Crc32c).update data).final

/-- The check value of the nine ASCII digits. -/
example : crc32c [49, 50, 51, 52, 53, 54, 55, 56, 57] = 0xE3069283 := by decide +kernel

theorem table_get (i : Fin 256) : table.get i = tableEntry (BitVec.ofNat 32 i) := by
  have h : table.get i = table[(i : ℕ)] := rfl
  rw [h, table, Vector.getElem_ofFn]

theorem tableEntry_eq (i : BitVec 32) : tableEntry i = CrcRegister.steps kPoly 8 i := by
  have hbit : (fun c : BitVec 32 => if c &&& 1 ≠ 0 then kPoly ^^^ (c >>> 1) else c >>> 1) =
      CrcRegister.bitStep kPoly := by
    funext c
    have hlow : (c &&& 1 ≠ 0) ↔ c.getLsbD 0 = true := by
      have h := BitVec.and_one_eq_setWidth_ofBool_getLsbD (x := c)
      rw [show c &&& 1 = _ from h]
      cases c.getLsbD 0 <;> decide
    simp only [CrcRegister.bitStep, hlow]
  rw [tableEntry, hbit, CrcRegister.steps]

theorem updateByte_eq (c : BitVec 32) (b : UInt8) :
    updateByte c b = CrcRegister.byteStep kPoly c b := by
  have hhigh : (c ^^^ b.toBitVec.setWidth 32) >>> 8 = c >>> 8 := by
    have hb : b.toBitVec.setWidth 32 >>> 8 = 0 := by
      apply BitVec.eq_of_toNat_eq
      have hlt := b.toNat_lt
      simp only [BitVec.toNat_ushiftRight, BitVec.toNat_setWidth, UInt8.toNat_toBitVec,
        Nat.shiftRight_eq_div_pow, BitVec.ofNat_eq_ofNat, BitVec.toNat_ofNat]
      omega
    rw [BitVec.ushiftRight_xor_distrib, hb]
    exact BitVec.xor_zero
  have hget : table.get ⟨((c ^^^ b.toBitVec.setWidth 32) &&& 0xFF).toNat, low_byte_lt _⟩ =
      CrcRegister.steps kPoly 8 ((c ^^^ b.toBitVec.setWidth 32) &&& 0xFF) := by
    rw [table_get, tableEntry_eq, BitVec.ofNat_toNat, BitVec.setWidth_eq]
  rw [updateByte, hget, CrcRegister.byteStep,
    CrcRegister.steps_eight_eq (c ^^^ b.toBitVec.setWidth 32), hhigh]
  rfl

/-- From any register, the table takes the steps of the register. -/
theorem update_eq_absorb (h : Crc32c) (data : List UInt8) :
    (h.update data).crc_ = CrcRegister.absorb kPoly h.crc_ data := by
  have hstep : updateByte = CrcRegister.byteStep kPoly := by
    funext c b
    exact updateByte_eq c b
  rw [Crc32c.update, hstep, CrcRegister.absorb]

theorem crc32c_eq_absorb (data : List UInt8) :
    crc32c data = ⟨~~~CrcRegister.absorb kPoly 0xFFFFFFFF data⟩ := by
  rw [crc32c, Crc32c.final, update_eq_absorb]

/-- A checksum is updated with a part and then the rest as with the whole. -/
theorem update_append (h : Crc32c) (a b : List UInt8) :
    h.update (a ++ b) = (h.update a).update b := by
  rw [Crc32c.update, List.foldl_append]
  rfl

/-- The checksum is the reflected one, taken bit by bit, and from any register it streams. -/
theorem crc32c_bit_by_bit :
    (∀ d, crc32c d = ⟨CrcRegister.feed (0x82F63B78 : BitVec 32) 0xFFFFFFFF (CrcRegister.bits d) ^^^
      0xFFFFFFFF⟩) ∧
    ∀ (c : BitVec 32) (a b : List UInt8),
      (Crc32c.mk c).update (a ++ b) = ((Crc32c.mk c).update a).update b := by
  constructor
  · intro d
    have hcomplement : ∀ x : BitVec 32, ~~~x = x ^^^ 0xFFFFFFFF := fun x => BitVec.xor_allOnes.symm
    rw [crc32c_eq_absorb, CrcRegister.absorb_eq_feed (by decide), hcomplement]
    rfl
  · exact fun c => update_append ⟨c⟩

/-- A change confined to four consecutive bytes changes the checksum. -/
theorem crc32c_window_injective {before bs bs' after : List UInt8}
    (hlen : bs.length = bs'.length) (hfour : bs.length ≤ 4)
    (h : crc32c (before ++ (bs ++ after)) = crc32c (before ++ (bs' ++ after))) : bs = bs' := by
  have htop : kPoly.msb = true := by decide
  rw [crc32c_eq_absorb, crc32c_eq_absorb, UInt32.ofBitVec.injEq, BitVec.not_inj] at h
  exact CrcRegister.absorb_window_injective htop hlen (by omega) h

/-- A list is its window of four bytes between the bytes before and behind it. -/
theorem split_window (p : List UInt8) (k : ℕ) :
    p = p.take k ++ ((p.drop k).take 4 ++ p.drop (k + 4)) := by
  rw [← List.drop_drop, List.take_append_drop, List.take_append_drop]

/-- Equal checksums and agreement outside four consecutive bytes leave no difference. -/
theorem eq_of_crc32c_eq {p p' : List UInt8} (k : ℕ) (hlen : p'.length = p.length)
    (hcrc : crc32c p' = crc32c p)
    (hsame : ∀ j, ¬(k ≤ j ∧ j < k + 4) → p'[j]? = p[j]?) : p' = p := by
  have hbefore : p'.take k = p.take k := by
    apply List.ext_getElem?
    intro j
    rw [List.getElem?_take, List.getElem?_take]
    split_ifs with hj
    · exact hsame j (by omega)
    · rfl
  have hafter : p'.drop (k + 4) = p.drop (k + 4) := by
    apply List.ext_getElem?
    intro j
    rw [List.getElem?_drop, List.getElem?_drop]
    exact hsame _ (by omega)
  have hwindow : ((p'.drop k).take 4).length = ((p.drop k).take 4).length := by
    simp only [List.length_take, List.length_drop, hlen]
  rw [split_window p' k, split_window p k, hbefore, hafter] at hcrc ⊢
  rw [crc32c_window_injective hwindow (List.length_take_le 4 _) hcrc]

/-! ## Sealed bodies -/

/-- A body followed by its checksum. -/
def sealed (body : List UInt8) : List UInt8 := body ++ littleEndian 4 (crc32c body).toNat

/-- A sealed body with one byte changed is not a sealed body of that length. -/
theorem sealed_set_ne {b b' : List UInt8} {i : ℕ} {v : UInt8} (hi : i < (sealed b).length)
    (hv : (sealed b)[i]? ≠ some v) (hlen : b'.length = b.length) :
    (sealed b).set i v ≠ sealed b' := by
  intro h
  have hother : ∀ j, j ≠ i → (sealed b')[j]? = (sealed b)[j]? := by
    intro j hj
    rw [← h, List.getElem?_set_ne (Ne.symm hj)]
  have hbody : ∀ j, j ≠ i → b'[j]? = b[j]? := by
    intro j hj
    by_cases hin : j < b.length
    · have hj := hother j hj
      rwa [sealed, sealed, List.getElem?_append_left (by omega),
        List.getElem?_append_left hin] at hj
    · rw [List.getElem?_eq_none (by omega), List.getElem?_eq_none (by omega)]
  have heq : b' = b := by
    by_cases hin : i < b.length
    · -- The checksums agree, and the bodies outside one byte.
      apply eq_of_crc32c_eq i hlen
      · rw [← ofLittleEndian_u32 (crc32c b'), ← ofLittleEndian_u32 (crc32c b)]
        congr 2
        apply List.ext_getElem?
        intro j
        have hj := hother (b.length + j) (by omega)
        rwa [sealed, sealed, List.getElem?_append_right (by omega),
          List.getElem?_append_right (by omega), hlen, Nat.add_sub_cancel_left] at hj
      · exact fun j hj => hbody j (by omega)
    · apply List.ext_getElem?
      intro j
      by_cases hj : j = i
      · rw [List.getElem?_eq_none (by omega), List.getElem?_eq_none (by omega)]
      · exact hbody j hj
  rw [heq] at h
  rw [← h, List.getElem?_set_self hi] at hv
  exact hv rfl

/-- Nor is it with any start before it. -/
theorem start_sealed_set_ne {start b b' : List UInt8} {i : ℕ} {v : UInt8}
    (hi : i < (start ++ sealed b).length) (hv : (start ++ sealed b)[i]? ≠ some v)
    (hlen : b'.length = b.length) : (start ++ sealed b).set i v ≠ start ++ sealed b' := by
  intro h
  by_cases hstart : i < start.length
  · rw [List.set_append_left i v hstart] at h
    rw [List.getElem?_append_left hstart] at hv
    obtain ⟨hsame, -⟩ := List.append_inj h (List.length_set ..)
    rw [← hsame, List.getElem?_set_self hstart] at hv
    exact hv rfl
  · have hbehind : start.length ≤ i := Nat.le_of_not_lt hstart
    rw [List.set_append_right i v hbehind] at h
    rw [List.getElem?_append_right hbehind] at hv
    rw [List.length_append] at hi
    exact sealed_set_ne (by omega) hv hlen (List.append_cancel_left h)

end ContentionGovernor
