import Mathlib.Data.List.Sort
import Mathlib.Data.Prod.Lex

/-!
# The least element of a sorted list

A comparison that agrees on a list with a key in a linear order.  The head of the sorted
list is then one of least key, and when the key tells the elements apart it depends on the
members of the list alone.
-/

namespace LeastByKey

variable {α κ : Type*} [LinearOrder κ] {key : α → κ} {r : α → α → Prop}

/-- The comparison is the order of the keys, on the members of the list. -/
def Agrees (key : α → κ) (r : α → α → Prop) (l : List α) : Prop :=
  ∀ a ∈ l, ∀ b ∈ l, r a b ↔ key a ≤ key b

theorem Agrees.of_subset {l l' : List α} (h : Agrees key r l) (hsub : l' ⊆ l) :
    Agrees key r l' := fun a ha b hb => h a (hsub ha) b (hsub hb)

variable [DecidableRel r]

theorem least_of_head {l : List α} {a : α} (h : Agrees key r l)
    (ha : (l.insertionSort r).head? = some a) : ∀ b ∈ l, key a ≤ key b := by
  obtain ⟨rest, hsort⟩ := List.head?_eq_some_iff.mp ha
  intro b hb
  have hmap := List.map_insertionSort r (· ≤ ·) key l h
  rw [hsort, List.map_cons] at hmap
  have hsorted := List.pairwise_insertionSort (α := κ) (· ≤ ·) (l.map key)
  rw [← hmap] at hsorted
  have hmem := (List.mem_insertionSort r).mpr hb
  rw [hsort] at hmem
  rcases List.mem_cons.mp hmem with rfl | hrest
  · exact le_rfl
  · exact List.rel_of_pairwise_cons hsorted (List.mem_map_of_mem hrest)

theorem head_mem {l : List α} {a : α} (ha : (l.insertionSort r).head? = some a) : a ∈ l :=
  (List.mem_insertionSort r).mp (List.mem_of_head? ha)

/-- Neither the order of the list nor a repetition in it matters to the head. -/
theorem head_eq_of_mem_iff {l l' : List α} (h : Agrees key r l)
    (hinj : ∀ a ∈ l, ∀ b ∈ l, key a = key b → a = b) (hmem : ∀ x, x ∈ l' ↔ x ∈ l) :
    (l'.insertionSort r).head? = (l.insertionSort r).head? := by
  have h' : Agrees key r l' := h.of_subset fun x hx => (hmem x).mp hx
  cases ha : (l.insertionSort r).head? with
  | none =>
    rw [List.head?_eq_none_iff] at ha ⊢
    apply List.eq_nil_iff_forall_not_mem.mpr
    intro x hx
    have hin := (List.mem_insertionSort r).mpr ((hmem x).mp ((List.mem_insertionSort r).mp hx))
    rw [ha] at hin
    cases hin
  | some a =>
    cases ha' : (l'.insertionSort r).head? with
    | none =>
      rw [List.head?_eq_none_iff] at ha'
      have hin := (List.mem_insertionSort r).mpr ((hmem a).mpr (head_mem ha))
      rw [ha'] at hin
      cases hin
    | some a' =>
      have hin := (hmem a').mp (head_mem ha')
      have hle := least_of_head h ha a' hin
      have hge := least_of_head h' ha' a ((hmem a).mpr (head_mem ha))
      rw [hinj a (head_mem ha) a' hin (le_antisymm hle hge)]

end LeastByKey
