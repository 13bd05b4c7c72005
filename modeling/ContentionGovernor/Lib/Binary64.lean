import Mathlib

/-!
# Binary64 words

A binary64 number as its 64 bits, so that a copy keeps the payload of a NaN.
Arithmetic and comparison go through the core model of IEEE 754; the lemmas
here give the comparisons the rules of a linear order away from NaN.
-/

structure Binary64 where
  bits : UInt64
deriving DecidableEq, Inhabited

namespace Binary64

open Float.Model

def model (x : Binary64) : Float.Model := Float.Model.ofBits x.bits

def ofModel (m : Float.Model) : Binary64 := ⟨m.toBits⟩

instance : LT Binary64 := ⟨fun a b => a.model < b.model⟩
instance : LE Binary64 := ⟨fun a b => a.model ≤ b.model⟩

instance : DecidableLT Binary64 := fun a b => inferInstanceAs (Decidable (a.model < b.model))
instance : DecidableLE Binary64 := fun a b => inferInstanceAs (Decidable (a.model ≤ b.model))

/-- The comparison `==`: false on a NaN, true on two zeros of different sign. -/
def same (a b : Binary64) : Bool := a.model == b.model

def isFinite (x : Binary64) : Bool := x.model.isFinite

def isNaN (x : Binary64) : Bool := x.model.isNaN

instance : Sub Binary64 := ⟨fun a b => ofModel (a.model - b.model)⟩
instance : Mul Binary64 := ⟨fun a b => ofModel (a.model * b.model)⟩
instance : Div Binary64 := ⟨fun a b => ofModel (a.model / b.model)⟩

instance : OfScientific Binary64 where
  ofScientific m negative e :=
    ofModel (Float.Model.ofScientific m (if negative then -(e : ℤ) else e))

/-- `std::max`: the first argument unless it is less than the second. -/
def maximum (a b : Binary64) : Binary64 := if a < b then b else a

/-- `std::min`: the first argument unless the second is less than it. -/
def minimum (a b : Binary64) : Binary64 := if b < a then b else a

/-- The rational that a finite number stands for; an infinity or a NaN stands for none and
gives zero. -/
def toRat (x : Binary64) : ℚ :=
  match x.model.unpack with
  | .finite .positive m e _ => m * 2 ^ e
  | .finite .negative m e _ => -(m * 2 ^ e)
  | _ => 0

example : (0.25 : Binary64) < (100.0 - 60.0) / 100.0 := by decide +kernel

example : (0.25 - 1.0 : Binary64).toRat = -3 / 4 := by decide +kernel

/-! ## The order away from NaN -/

/-- The place of a number on the extended line: sign class, exponent, mantissa. -/
def rank : UnpackedFloat → ℤ ×ₗ ℤ ×ₗ ℤ
  | .notANumber => toLex (0, toLex (0, 0))
  | .infinity .negative => toLex (-2, toLex (0, 0))
  | .finite .negative m e _ => toLex (-1, toLex (-e, -(m : ℤ)))
  | .zero _ => toLex (0, toLex (0, 0))
  | .finite .positive m e _ => toLex (1, toLex (e, (m : ℤ)))
  | .infinity .positive => toLex (2, toLex (0, 0))

theorem compare_eq_lt {x y : UnpackedFloat} (hx : x.isNaN = false) (hy : y.isNaN = false) :
    x.compare y = some .lt ↔ rank x < rank y := by
  rcases x with (_ | _) | _ | (_ | _) | ⟨_ | _, m, e, _⟩ <;>
    rcases y with (_ | _) | _ | (_ | _) | ⟨_ | _, m', e', _⟩ <;>
    simp_all [UnpackedFloat.compare, UnpackedFloat.isNaN, rank, Prod.Lex.toLex_lt_toLex,
      Ordering.then_eq_lt, Ordering.then_eq_gt, Int.compare_eq_lt, Int.compare_eq_gt,
      Nat.compare_eq_lt, Nat.compare_eq_gt]
  rfl

theorem compare_eq_eq {x y : UnpackedFloat} (hx : x.isNaN = false) (hy : y.isNaN = false) :
    x.compare y = some .eq ↔ rank x = rank y := by
  rcases x with (_ | _) | _ | (_ | _) | ⟨_ | _, m, e, _⟩ <;>
    rcases y with (_ | _) | _ | (_ | _) | ⟨_ | _, m', e', _⟩ <;>
    simp_all [UnpackedFloat.compare, UnpackedFloat.isNaN, rank, Ordering.then_eq_eq]
  all_goals rfl

/-- A NaN is incomparable with everything. -/
theorem compare_eq_none {x y : UnpackedFloat} :
    x.compare y = none ↔ x.isNaN = true ∨ y.isNaN = true := by
  rcases x with (_ | _) | _ | (_ | _) | ⟨_ | _, m, e, _⟩ <;>
    rcases y with (_ | _) | _ | (_ | _) | ⟨_ | _, m', e', _⟩ <;>
    simp [UnpackedFloat.compare, UnpackedFloat.isNaN]

def place (x : Binary64) : ℤ ×ₗ ℤ ×ₗ ℤ := rank x.model.unpack

theorem lt_iff {a b : Binary64} :
    a < b ↔ a.isNaN = false ∧ b.isNaN = false ∧ a.place < b.place := by
  have h : a < b ↔ a.model.unpack.compare b.model.unpack = some .lt := beq_iff_eq
  rw [h]
  by_cases hn : a.isNaN = false ∧ b.isNaN = false
  · rw [compare_eq_lt hn.1 hn.2]
    simp [hn, place]
  · have hc : a.model.unpack.compare b.model.unpack = none := by
      simp only [Classical.not_and_iff_not_or_not, Bool.not_eq_false] at hn
      rw [compare_eq_none]
      exact hn
    rw [hc]
    simp only [reduceCtorEq, false_iff]
    tauto

theorem le_iff {a b : Binary64} :
    a ≤ b ↔ a.isNaN = false ∧ b.isNaN = false ∧ a.place ≤ b.place := by
  have h : a ≤ b ↔ (a.model.unpack.compare b.model.unpack).any (·.isLE) = true := Iff.rfl
  rw [h]
  by_cases hn : a.isNaN = false ∧ b.isNaN = false
  · have hlt := compare_eq_lt hn.1 hn.2
    have heq := compare_eq_eq hn.1 hn.2
    rw [le_iff_lt_or_eq, place, place, ← hlt, ← heq]
    cases hc : a.model.unpack.compare b.model.unpack with
    | none => simp
    | some o => cases o <;> simp [hn]
  · have hc : a.model.unpack.compare b.model.unpack = none := by
      simp only [Classical.not_and_iff_not_or_not, Bool.not_eq_false] at hn
      rw [compare_eq_none]
      exact hn
    rw [hc]
    simp only [Option.any_none, Bool.false_eq_true, false_iff]
    tauto

theorem same_iff {a b : Binary64} :
    a.same b ↔ a.isNaN = false ∧ b.isNaN = false ∧ a.place = b.place := by
  have h : a.same b ↔ a.model.unpack.compare b.model.unpack = some .eq := by
    change (a.model.unpack.compare b.model.unpack == some .eq) = true ↔ _
    rw [beq_iff_eq]
  rw [h]
  by_cases hn : a.isNaN = false ∧ b.isNaN = false
  · rw [compare_eq_eq hn.1 hn.2]
    simp [hn, place]
  · have hc : a.model.unpack.compare b.model.unpack = none := by
      simp only [Classical.not_and_iff_not_or_not, Bool.not_eq_false] at hn
      rw [compare_eq_none]
      exact hn
    rw [hc]
    simp only [reduceCtorEq, false_iff]
    tauto

theorem le_trans {a b c : Binary64} (h : a ≤ b) (h' : b ≤ c) : a ≤ c := by
  rw [le_iff] at *
  exact ⟨h.1, h'.2.1, h.2.2.trans h'.2.2⟩

/-- Away from NaN the order is total. -/
theorem le_of_not_lt {a b : Binary64} (ha : a.isNaN = false) (hb : b.isNaN = false)
    (h : ¬b < a) : a ≤ b := by
  rw [lt_iff] at h
  rw [le_iff]
  exact ⟨ha, hb, not_lt.mp fun h' => h ⟨hb, ha, h'⟩⟩

theorem lt_trans {a b c : Binary64} (h : a < b) (h' : b < c) : a < c := by
  rw [lt_iff] at *
  exact ⟨h.1, h'.2.1, h.2.2.trans h'.2.2⟩

theorem lt_of_lt_of_le {a b c : Binary64} (h : a < b) (h' : b ≤ c) : a < c := by
  rw [lt_iff] at h ⊢
  rw [le_iff] at h'
  exact ⟨h.1, h'.2.1, h.2.2.trans_le h'.2.2⟩

theorem lt_of_le_of_lt {a b c : Binary64} (h : a ≤ b) (h' : b < c) : a < c := by
  rw [lt_iff] at h' ⊢
  rw [le_iff] at h
  exact ⟨h.1, h'.2.1, h.2.2.trans_lt h'.2.2⟩

theorem not_le_of_lt {a b : Binary64} (h : a < b) : ¬b ≤ a := by
  rw [lt_iff] at h
  rw [le_iff]
  exact fun h' => absurd h'.2.2 (not_le.mpr h.2.2)

theorem lt_of_not_le {a b : Binary64} (ha : a.isNaN = false) (hb : b.isNaN = false)
    (h : ¬b ≤ a) : a < b := by
  rw [le_iff] at h
  rw [lt_iff]
  exact ⟨ha, hb, not_le.mp fun h' => h ⟨hb, ha, h'⟩⟩

theorem lt_of_le_of_not_same {a b : Binary64} (h : a ≤ b) (hne : ¬a.same b) : a < b := by
  rw [le_iff] at h
  rw [same_iff] at hne
  rw [lt_iff]
  exact ⟨h.1, h.2.1, lt_of_le_of_ne h.2.2 fun heq => hne ⟨h.1, h.2.1, heq⟩⟩

theorem le_of_lt {a b : Binary64} (h : a < b) : a ≤ b := by
  rw [lt_iff] at h
  rw [le_iff]
  exact ⟨h.1, h.2.1, h.2.2.le⟩

theorem same_symm {a b : Binary64} (h : a.same b) : b.same a := by
  rw [same_iff] at *
  exact ⟨h.2.1, h.1, h.2.2.symm⟩

theorem le_of_same {a b : Binary64} (h : a.same b) : b ≤ a := by
  rw [same_iff] at h
  rw [le_iff]
  exact ⟨h.2.1, h.1, h.2.2.ge⟩

/-! ## Finite numbers -/

/-- The finite numbers lie between the two infinities. -/
theorem isFinite_iff {a : Binary64} :
    a.isFinite ↔ a.isNaN = false ∧ -2 < (ofLex a.place).1 ∧ (ofLex a.place).1 < 2 := by
  unfold isFinite isNaN Float.Model.isFinite Float.Model.isNaN place
  rcases a.model.unpack with (_ | _) | _ | (_ | _) | ⟨_ | _, m, e, _⟩ <;>
    simp [UnpackedFloat.isFinite, UnpackedFloat.isNaN, rank]

theorem le_refl_of_finite {a : Binary64} (h : a.isFinite) : a ≤ a := by
  rw [isFinite_iff] at h
  rw [le_iff]
  exact ⟨h.1, h.1, le_refl _⟩

/-- What lies between two finite numbers is finite. -/
theorem isFinite_of_between {a b c : Binary64} (ha : a.isFinite) (hc : c.isFinite) (hab : a ≤ b)
    (hbc : b ≤ c) : b.isFinite := by
  rw [isFinite_iff] at ha hc ⊢
  rw [le_iff] at hab hbc
  have hlow := Prod.Lex.monotone_fst _ _ hab.2.2
  have hhigh := Prod.Lex.monotone_fst _ _ hbc.2.2
  exact ⟨hab.2.1, ha.2.1.trans_le hlow, hhigh.trans_lt hc.2.2⟩

/-! ## The larger of two -/

theorem maximum_lt {a b c : Binary64} (ha : a < c) (hb : b < c) : maximum a b < c := by
  unfold maximum
  split_ifs
  · exact hb
  · exact ha

theorem lt_of_maximum_lt {a b c : Binary64} (h : maximum a b < c) : a < c := by
  unfold maximum at h
  split_ifs at h with hab
  · exact lt_trans hab h
  · exact h

end Binary64
