import Mathlib.Logic.Function.Iterate
import Mathlib.Data.BitVec
import ContentionGovernor.Lib.ByteCodec

/-!
# The register of a reflected cyclic redundancy check

A register of `w` bits takes one step for every input bit: it is shifted right,
and the polynomial is added when the bit shifted out is one.  The step is linear
over the two-element field, and injective when the top bit of the polynomial is
set, so a changed input window of at most `w` bits changes the register.
-/

namespace CrcRegister

variable {w : ℕ} (poly : BitVec w)

def bitStep (c : BitVec w) : BitVec w :=
  if c.getLsbD 0 then poly ^^^ (c >>> 1) else c >>> 1

def steps (n : ℕ) (c : BitVec w) : BitVec w := (bitStep poly)^[n] c

/-- Eight steps after the input byte has been added to the low end. -/
def byteStep (c : BitVec w) (b : UInt8) : BitVec w :=
  steps poly 8 (c ^^^ b.toBitVec.setWidth w)

def absorb (c : BitVec w) (bs : List UInt8) : BitVec w := bs.foldl (byteStep poly) c

variable {poly}

/-! ## Linearity and injectivity -/

theorem bitStep_xor (a b : BitVec w) :
    bitStep poly (a ^^^ b) = bitStep poly a ^^^ bitStep poly b := by
  have hcancel : (poly ^^^ (a >>> 1)) ^^^ (poly ^^^ (b >>> 1)) = (a >>> 1) ^^^ (b >>> 1) := by
    rw [BitVec.xor_comm poly (a >>> 1), BitVec.xor_assoc, ← BitVec.xor_assoc poly poly,
      BitVec.xor_self, BitVec.zero_xor]
  unfold bitStep
  rw [BitVec.getLsbD_xor, BitVec.ushiftRight_xor_distrib]
  cases a.getLsbD 0 <;> cases b.getLsbD 0
  · rfl
  · rw [if_neg Bool.false_ne_true, ← BitVec.xor_assoc, BitVec.xor_comm poly, BitVec.xor_assoc]
    rfl
  · exact (BitVec.xor_assoc poly (a >>> 1) (b >>> 1)).symm
  · exact hcancel.symm

/-- With the top bit of the polynomial set, only the zero register steps to zero. -/
theorem bitStep_eq_zero (hp : poly.msb = true) {c : BitVec w} (h : bitStep poly c = 0#w) :
    c = 0#w := by
  unfold bitStep at h
  split_ifs at h with hc
  · have he : poly = c >>> 1 := BitVec.xor_eq_zero_iff.mp h
    have hm : (c >>> 1).msb = false := by
      simp
    rw [he, hm] at hp
    cases hp
  · apply BitVec.eq_of_getLsbD_eq
    intro i hi
    rcases Nat.eq_zero_or_pos i with rfl | hpos
    · simpa using hc
    · have hb := congrArg (fun x : BitVec w => x.getLsbD (i - 1)) h
      simpa [BitVec.getLsbD_ushiftRight, show 1 + (i - 1) = i by omega] using hb

theorem steps_succ (n : ℕ) (c : BitVec w) : steps poly (n + 1) c = steps poly n (bitStep poly c) :=
  rfl

theorem steps_add (m n : ℕ) (c : BitVec w) :
    steps poly (m + n) c = steps poly m (steps poly n c) := Function.iterate_add_apply _ m n c

theorem steps_xor (n : ℕ) (a b : BitVec w) :
    steps poly n (a ^^^ b) = steps poly n a ^^^ steps poly n b := by
  induction n generalizing a b with
  | zero => rfl
  | succ n ih => simp only [steps_succ, bitStep_xor, ih]

theorem steps_eq_zero (hp : poly.msb = true) {n : ℕ} {c : BitVec w}
    (h : steps poly n c = 0#w) : c = 0#w := by
  induction n generalizing c with
  | zero => exact h
  | succ n ih => exact bitStep_eq_zero hp (ih h)

theorem steps_injective (hp : poly.msb = true) (n : ℕ) :
    Function.Injective (steps poly n) := by
  intro a b h
  have hz : steps poly n (a ^^^ b) = 0#w := by rw [steps_xor, h, BitVec.xor_self]
  exact BitVec.xor_eq_zero_iff.mp (steps_eq_zero hp hz)

/-- Zero low bits are shifted out without a trace of the polynomial. -/
theorem steps_shiftLeft (n : ℕ) {x : BitVec w} (h : x.toNat * 2 ^ n < 2 ^ w) :
    steps poly n (x <<< n) = x := by
  induction n with
  | zero => simp [steps]
  | succ n ih =>
    have hn : x.toNat * 2 ^ n < 2 ^ w := by
      refine Nat.lt_of_le_of_lt ?_ h
      exact Nat.mul_le_mul_left _ (Nat.pow_le_pow_right (by omega) (by omega))
    have hlow : (x <<< (n + 1)).getLsbD 0 = false := by simp
    have hshift : (x <<< (n + 1)) >>> 1 = x <<< n := by
      apply BitVec.eq_of_toNat_eq
      rw [BitVec.toNat_ushiftRight, BitVec.toNat_shiftLeft, BitVec.toNat_shiftLeft,
        Nat.shiftLeft_eq, Nat.shiftLeft_eq, Nat.mod_eq_of_lt h, Nat.mod_eq_of_lt hn,
        Nat.shiftRight_eq_div_pow, pow_succ, ← Nat.mul_assoc]
      exact Nat.mul_div_cancel _ (by omega)
    rw [steps_succ, bitStep, hlow, if_neg Bool.false_ne_true, hshift, ih hn]

/-! ## Words -/

/-- The bytes of an input window as one register word, first byte lowest. -/
def word (w : ℕ) (bs : List UInt8) : BitVec w := BitVec.ofNat w (Reader.ofLittleEndian bs)

theorem word_cons (b : UInt8) (bs : List UInt8) :
    word w (b :: bs) = b.toBitVec.setWidth w ^^^ (word w bs <<< 8) := by
  have hb : b.toNat < 2 ^ 8 := b.toNat_lt
  apply BitVec.eq_of_getLsbD_eq
  intro i hi
  have hsum : Reader.ofLittleEndian (b :: bs) = 2 ^ 8 * Reader.ofLittleEndian bs + b.toNat := by
    rw [Reader.ofLittleEndian]
    omega
  simp only [word, hsum, BitVec.getLsbD_xor, BitVec.getLsbD_ofNat, BitVec.getLsbD_setWidth,
    BitVec.getLsbD_shiftLeft, hi, decide_true, Bool.true_and, Nat.testBit_two_pow_mul_add _ hb]
  split_ifs with h
  · simp [h, BitVec.getLsbD]
  · have hz : b.toBitVec.getLsbD i = false := BitVec.getLsbD_of_ge _ _ (by omega)
    have hi' : i - 8 < w := by omega
    simp [h, hz, hi']

theorem toNat_word {bs : List UInt8} (h : 8 * bs.length ≤ w) :
    (word w bs).toNat = Reader.ofLittleEndian bs := by
  have hlt := Reader.ofLittleEndian_lt bs
  have hpow : 256 ^ bs.length ≤ 2 ^ w := by
    rw [show 256 = 2 ^ 8 from rfl, ← pow_mul]
    exact Nat.pow_le_pow_right (by omega) h
  rw [word, BitVec.toNat_ofNat, Nat.mod_eq_of_lt (by omega)]

theorem word_injective {bs bs' : List UInt8} (hlen : bs.length = bs'.length)
    (hw : 8 * bs.length ≤ w) (h : word w bs = word w bs') : bs = bs' := by
  have hn := congrArg BitVec.toNat h
  rw [toNat_word hw, toNat_word (hlen ▸ hw)] at hn
  rw [← Reader.littleEndian_ofLittleEndian bs, ← Reader.littleEndian_ofLittleEndian bs', hn, hlen]

/-! ## Absorbing bytes -/

theorem absorb_append (c : BitVec w) (bs cs : List UInt8) :
    absorb poly c (bs ++ cs) = absorb poly (absorb poly c bs) cs := List.foldl_append

/-- A window that fits the register is absorbed as one word. -/
theorem absorb_eq_steps (c : BitVec w) {bs : List UInt8} (h : 8 * bs.length ≤ w) :
    absorb poly c bs = steps poly (8 * bs.length) (c ^^^ word w bs) := by
  induction bs generalizing c with
  | nil => simp [absorb, steps, word, Reader.ofLittleEndian]
  | cons b bs ih =>
    have hlen : 8 * bs.length + 8 ≤ w := by
      rw [List.length_cons] at h
      omega
    have hfit : (word w bs).toNat * 2 ^ 8 < 2 ^ w := by
      have hlt := Reader.ofLittleEndian_lt bs
      have hpow : 256 ^ bs.length * 2 ^ 8 ≤ 2 ^ w := by
        rw [show 256 = 2 ^ 8 from rfl, ← pow_mul, ← pow_add]
        exact Nat.pow_le_pow_right (by omega) hlen
      rw [toNat_word (by omega)]
      omega
    calc absorb poly c (b :: bs)
        = steps poly (8 * bs.length) (steps poly 8 (c ^^^ b.toBitVec.setWidth w) ^^^ word w bs) :=
          ih _ (by omega)
      _ = steps poly (8 * bs.length)
            (steps poly 8 ((c ^^^ b.toBitVec.setWidth w) ^^^ (word w bs <<< 8))) := by
          rw [steps_xor 8 _ (word w bs <<< 8), steps_shiftLeft 8 hfit]
      _ = steps poly (8 * (b :: bs).length) (c ^^^ word w (b :: bs)) := by
          rw [← steps_add, word_cons, BitVec.xor_assoc, List.length_cons, Nat.mul_succ]

theorem absorb_register_injective (hp : poly.msb = true) (bs : List UInt8) :
    Function.Injective fun c : BitVec w => absorb poly c bs := by
  induction bs with
  | nil => exact fun _ _ h => h
  | cons b bs ih =>
    intro c c' h
    have hstep := steps_injective hp 8 (ih h)
    exact (BitVec.xor_left_inj _).mp hstep

/-- Two inputs of one length that differ only inside a window as wide as the
register leave different registers. -/
theorem absorb_window_injective (hp : poly.msb = true) {c : BitVec w}
    {before bs bs' after : List UInt8} (hlen : bs.length = bs'.length) (hw : 8 * bs.length ≤ w)
    (h : absorb poly c (before ++ (bs ++ after)) = absorb poly c (before ++ (bs' ++ after))) :
    bs = bs' := by
  simp only [absorb_append] at h
  have hwin := absorb_register_injective hp after h
  rw [absorb_eq_steps _ hw, absorb_eq_steps _ (hlen ▸ hw : 8 * bs'.length ≤ w), hlen] at hwin
  exact word_injective hlen hw ((BitVec.xor_right_inj _).mp (steps_injective hp _ hwin))

/-- One byte at a time through a table of the low byte: eight steps of the low
byte, and the rest of the register shifted down. -/
theorem steps_eight_eq (y : BitVec w) :
    steps poly 8 y = steps poly 8 (y &&& 0xFF#w) ^^^ (y >>> 8) := by
  have hfit : (y >>> 8).toNat * 2 ^ 8 < 2 ^ w := by
    have hy := y.isLt
    rw [BitVec.toNat_ushiftRight, Nat.shiftRight_eq_div_pow]
    omega
  have hsplit : y = (y &&& 0xFF#w) ^^^ ((y >>> 8) <<< 8) := by
    apply BitVec.eq_of_getLsbD_eq
    intro i hi
    have hmask : Nat.testBit 0xFF i = decide (i < 8) := Nat.testBit_two_pow_sub_one 8 i
    simp only [BitVec.getLsbD_xor, BitVec.getLsbD_and, BitVec.getLsbD_ofNat, hmask,
      BitVec.getLsbD_shiftLeft, BitVec.getLsbD_ushiftRight, hi, decide_true, Bool.true_and]
    by_cases h : i < 8
    · simp [h]
    · simp [h, show 8 + (i - 8) = i by omega]
  calc steps poly 8 y
      = steps poly 8 ((y &&& 0xFF#w) ^^^ ((y >>> 8) <<< 8)) := by rw [← hsplit]
    _ = steps poly 8 (y &&& 0xFF#w) ^^^ (y >>> 8) := by
        rw [steps_xor, steps_shiftLeft 8 hfit]

/-! ## Bit by bit -/

/-- The bits of a byte string in the order they are fed, lowest bit of each byte first. -/
def bits (bs : List UInt8) : List Bool :=
  bs.flatMap fun b => (List.range 8).map b.toNat.testBit

variable (poly) in
/-- The reference: every input bit is added to the low end before one step. -/
def feed (c : BitVec w) (bs : List Bool) : BitVec w :=
  bs.foldl (fun c b => bitStep poly (c ^^^ BitVec.ofNat w b.toNat)) c

/-- The number with the given bits, lowest first. -/
def ofBits : List Bool → ℕ
  | [] => 0
  | b :: bs => b.toNat + 2 * ofBits bs

theorem ofBits_lt (bs : List Bool) : ofBits bs < 2 ^ bs.length := by
  induction bs with
  | nil => exact Nat.one_pos
  | cons b bs ih =>
    have hb : b.toNat ≤ 1 := Bool.toNat_le b
    rw [ofBits, List.length_cons, pow_succ]
    omega

theorem ofBits_testBit (k n : ℕ) : ofBits ((List.range k).map n.testBit) = n % 2 ^ k := by
  induction k generalizing n with
  | zero => rw [pow_zero, Nat.mod_one, List.range_zero, List.map_nil, ofBits]
  | succ k ih =>
    have hrest : n.testBit ∘ Nat.succ = (n / 2).testBit := by
      funext i
      exact Nat.testBit_succ n i
    rw [List.range_succ_eq_map, List.map_cons, List.map_map, hrest, ofBits, ih,
      Nat.toNat_testBit, pow_zero, Nat.div_one, pow_succ', Nat.mod_mul]

theorem ofNat_ofBits_cons (b : Bool) (bs : List Bool) : BitVec.ofNat w (ofBits (b :: bs)) =
    BitVec.ofNat w b.toNat ^^^ (BitVec.ofNat w (ofBits bs) <<< 1) := by
  have hb : b.toNat < 2 ^ 1 := Nat.lt_succ_of_le (Bool.toNat_le b)
  have hsum : ofBits (b :: bs) = 2 ^ 1 * ofBits bs + b.toNat := by
    rw [ofBits]
    omega
  apply BitVec.eq_of_getLsbD_eq
  intro i hi
  simp only [hsum, BitVec.getLsbD_xor, BitVec.getLsbD_ofNat, BitVec.getLsbD_shiftLeft, hi,
    decide_true, Bool.true_and, Nat.testBit_two_pow_mul_add _ hb]
  split_ifs with h
  · simp [h]
  · have hhigh : b.toNat.testBit i = false := by
      apply Nat.testBit_lt_two_pow
      exact Nat.lt_of_lt_of_le hb (Nat.pow_le_pow_right (by omega) (by omega))
    have hi' : i - 1 < w := by omega
    simp [h, hhigh, hi']

/-- Bits that fit the register are fed as one word. -/
theorem feed_eq_steps (c : BitVec w) {bs : List Bool} (h : bs.length ≤ w) :
    feed poly c bs = steps poly bs.length (c ^^^ BitVec.ofNat w (ofBits bs)) := by
  induction bs generalizing c with
  | nil => simp [feed, steps, ofBits]
  | cons b bs ih =>
    have hlen : bs.length + 1 ≤ w := h
    have hfit : (BitVec.ofNat w (ofBits bs)).toNat * 2 ^ 1 < 2 ^ w := by
      have hlt := ofBits_lt bs
      have hpow : 2 ^ bs.length * 2 ^ 1 ≤ 2 ^ w := by
        rw [← pow_add]
        exact Nat.pow_le_pow_right (by omega) hlen
      rw [BitVec.toNat_ofNat, Nat.mod_eq_of_lt (by omega)]
      omega
    calc feed poly c (b :: bs)
        = steps poly bs.length
            (steps poly 1 (c ^^^ BitVec.ofNat w b.toNat) ^^^ BitVec.ofNat w (ofBits bs)) :=
          ih _ (by omega)
      _ = steps poly bs.length (steps poly 1
            ((c ^^^ BitVec.ofNat w b.toNat) ^^^ (BitVec.ofNat w (ofBits bs) <<< 1))) := by
          rw [steps_xor 1 _ (BitVec.ofNat w (ofBits bs) <<< 1), steps_shiftLeft 1 hfit]
      _ = steps poly (b :: bs).length (c ^^^ BitVec.ofNat w (ofBits (b :: bs))) := by
          rw [← steps_add, ofNat_ofBits_cons, BitVec.xor_assoc, List.length_cons]

/-- Absorbing bytes is feeding their bits. -/
theorem absorb_eq_feed (hw : 8 ≤ w) (c : BitVec w) (bs : List UInt8) :
    absorb poly c bs = feed poly c (bits bs) := by
  induction bs generalizing c with
  | nil => rfl
  | cons b bs ih =>
    have hbyte : BitVec.ofNat w (b.toNat % 2 ^ 8) = b.toBitVec.setWidth w := by
      rw [Nat.mod_eq_of_lt b.toNat_lt]
      exact BitVec.ofNat_toNat w b.toBitVec
    have hstep : feed poly c ((List.range 8).map b.toNat.testBit) = byteStep poly c b := by
      rw [feed_eq_steps c (by simpa using hw), ofBits_testBit, hbyte, List.length_map,
        List.length_range]
      rfl
    calc absorb poly c (b :: bs)
        = feed poly (byteStep poly c b) (bits bs) := ih _
      _ = feed poly c (bits (b :: bs)) := by
          rw [← hstep, feed, feed, ← List.foldl_append]
          rfl

end CrcRegister
