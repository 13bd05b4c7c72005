import Mathlib.Data.List.Forall2
import ContentionGovernor.Lib.ByteCodec

/-!
# Two readers of the same bytes

One reader tracks another when it accepts wherever the other does, stops at the same
position and returns a related value.
-/

namespace Reader

variable {ε ε' α α' β β' : Type} {P : α → α' → Prop} {Q : β → β' → Prop}

theorem bind_ok {r : Reader ε α} {f : α → Reader ε β} {d : List UInt8} {p q : ℕ} {b : β} :
    (r >>= f) d p = .ok (b, q) ↔ ∃ a t, r d p = .ok (a, t) ∧ f a d t = .ok (b, q) := by
  rw [bind_apply]
  cases r d p with
  | error e => simp
  | ok x =>
    obtain ⟨a, t⟩ := x
    constructor
    · exact fun h => ⟨a, t, rfl, h⟩
    · rintro ⟨_, _, ⟨⟩, h⟩
      exact h

theorem named_ok {reason : ε'} {r : Reader ε α} {d : List UInt8} {p : ℕ} {x : α × ℕ} :
    named reason r d p = .ok x ↔ r d p = .ok x := by
  unfold Reader.named
  split <;> simp_all

theorem bytes_ok {reason : ε} {k : ℕ} {d bs : List UInt8} {p q : ℕ} :
    bytes reason k d p = .ok (bs, q) ↔
      p + k ≤ d.length ∧ bs = (d.drop p).take k ∧ q = p + k := by
  by_cases h : p + k ≤ d.length
  · rw [bytes_eq h]
    simp [h, eq_comm]
  · rw [bytes_short (by omega)]
    simp [h]

theorem u8_ok {reason : ε} {d : List UInt8} {p q : ℕ} {b : UInt8} :
    u8 reason d p = .ok (b, q) ↔ d[p]? = some b ∧ q = p + 1 := by
  have hfirst : ∀ h : p < d.length, (d.drop p).take 1 = [d[p]] := by
    intro h
    rw [List.drop_eq_getElem_cons h]
    rfl
  rw [u8, bind_ok]
  constructor
  · rintro ⟨bs, t, hbytes, h⟩
    cases h
    obtain ⟨hlt, rfl, rfl⟩ := bytes_ok.mp hbytes
    refine ⟨?_, rfl⟩
    rw [List.getElem?_eq_getElem hlt, hfirst hlt]
    simp [ofLittleEndian]
  · rintro ⟨hb, rfl⟩
    obtain ⟨hlt, rfl⟩ := List.getElem?_eq_some_iff.mp hb
    exact ⟨[d[p]], p + 1, bytes_ok.mpr ⟨hlt, (hfirst hlt).symm, rfl⟩, by simp [ofLittleEndian]; rfl⟩

theorem u64_next {reason : ε} {d : List UInt8} {p q : ℕ} {v : UInt64}
    (h : u64 reason d p = .ok (v, q)) : q = p + 8 := by
  obtain ⟨bs, t, hbytes, h⟩ := bind_ok.mp h
  cases h
  exact (bytes_ok.mp hbytes).2.2

/-! ## Tracking -/

def Tracks (r : Reader ε α) (r' : Reader ε' α') (P : α → α' → Prop) : Prop :=
  ∀ d p a q, r d p = .ok (a, q) → ∃ a', r' d p = .ok (a', q) ∧ P a a'

theorem Tracks.refl (r : Reader ε α) : Tracks r r Eq := fun _ _ a _ h => ⟨a, h, rfl⟩

theorem Tracks.pure {a : α} {a' : α'} (h : P a a') :
    Tracks (Pure.pure a : Reader ε α) (Pure.pure a' : Reader ε' α') P := by
  intro d p b q hb
  cases hb
  exact ⟨a', rfl, h⟩

theorem Tracks.bind {r : Reader ε α} {r' : Reader ε' α'} {f : α → Reader ε β}
    {f' : α' → Reader ε' β'} (h : Tracks r r' P) (hf : ∀ a a', P a a' → Tracks (f a) (f' a') Q) :
    Tracks (r >>= f) (r' >>= f') Q := by
  intro d p b q hb
  obtain ⟨a, t, ha, hb⟩ := bind_ok.mp hb
  obtain ⟨a', ha', hP⟩ := h d p a t ha
  obtain ⟨b', hb', hQ⟩ := hf a a' hP d t b q hb
  exact ⟨b', bind_ok.mpr ⟨a', t, ha', hb'⟩, hQ⟩

/-- A field that both read alike. -/
theorem Tracks.same {r : Reader ε α} {f : α → Reader ε β} {f' : α → Reader ε β'}
    (hf : ∀ a, Tracks (f a) (f' a) Q) : Tracks (r >>= f) (r >>= f') Q :=
  (Tracks.refl r).bind fun a _ ha => ha ▸ hf a

theorem Tracks.named {r : Reader ε α} {r' : Reader ε' α'} {ε₁ ε₂ : Type} (reason : ε₁)
    (reason' : ε₂) (h : Tracks r r' P) : Tracks (named reason r) (named reason' r') P := by
  intro d p a q ha
  unfold Reader.named at ha
  split at ha <;> cases ha
  obtain ⟨a', ha', hP⟩ := h d p a q ‹_›
  exact ⟨a', by rw [Reader.named, ha'], hP⟩

theorem Tracks.times {r : Reader ε α} {r' : Reader ε' α'} (h : Tracks r r' P) (n : ℕ) :
    Tracks (times r n) (times r' n) (List.Forall₂ P) := by
  induction n with
  | zero => exact Tracks.pure .nil
  | succ n ih => exact h.bind fun _ _ ha => ih.bind fun _ _ has => Tracks.pure (.cons ha has)

theorem Tracks.counted {r : Reader ε α} {r' : Reader ε α'} (reason : ε) (limit : ℕ)
    (h : Tracks r r' P) : Tracks (counted reason limit r) (counted reason limit r')
      (List.Forall₂ P) := by
  refine Tracks.same fun n => ?_
  split_ifs
  · exact nofun
  · exact h.times n.toNat

end Reader
