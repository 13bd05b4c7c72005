import Mathlib.Data.List.Nodup

/-!
# Enumerations held in one byte

An enumeration with an 8-bit underlying type: its byte, and the value a byte
stands for when it stands for one.
-/

class ByteEnum (α : Type*) where
  raw : α → UInt8
  ofRaw : UInt8 → Option α
  ofRaw_raw : ∀ a, ofRaw (raw a) = some a
  raw_ofRaw : ∀ n a, ofRaw n = some a → raw a = n

namespace ByteEnum

variable {α : Type*}

theorem ofNat_idxOf [DecidableEq α] {xs : List α} (hxs : xs.Nodup) {n : UInt8} {a : α}
    (h : xs[n.toNat]? = some a) : UInt8.ofNat (xs.idxOf a) = n := by
  obtain ⟨hn, rfl⟩ := List.getElem?_eq_some_iff.mp h
  rw [hxs.idxOf_getElem, UInt8.ofNat_toNat]

/-- The numbering of the enumerators in the order of their declaration. -/
abbrev ofEnumerators [DecidableEq α] (xs : List α)
    (h : ∀ a, xs[(UInt8.ofNat (xs.idxOf a)).toNat]? = some a) (hxs : xs.Nodup) :
    ByteEnum α where
  raw a := UInt8.ofNat (xs.idxOf a)
  ofRaw n := xs[n.toNat]?
  ofRaw_raw := h
  raw_ofRaw _ _ ha := ofNat_idxOf hxs ha

end ByteEnum
