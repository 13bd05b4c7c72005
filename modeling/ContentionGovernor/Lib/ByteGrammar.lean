import ContentionGovernor.Lib.ByteCodec

/-!
# What a reader has read

`Spells r G`: the bytes that the reader `r` takes for a value are ones that `G` has for it.
With `Reads` for those bytes it says which buffers the reader accepts.
-/

namespace Reader

variable {ε ε' α β : Type}

def Spells (r : Reader ε α) (G : α → List UInt8 → Prop) : Prop :=
  ∀ d p a q, r d p = .ok (a, q) → ∃ bs, G a bs ∧ d.drop p = bs ++ d.drop q

theorem Spells.pure {G : α → List UInt8 → Prop} {a : α} (h : G a []) :
    Spells (Pure.pure a : Reader ε α) G := by
  intro d p b q hok
  cases hok
  exact ⟨[], h, rfl⟩

theorem Spells.reject (reason : ε) (G : α → List UInt8 → Prop) : Spells (reject reason) G := by
  intro d p a q hok
  cases hok

theorem Spells.mono {r : Reader ε α} {G H : α → List UInt8 → Prop} (h : Spells r G)
    (hGH : ∀ a bs, G a bs → H a bs) : Spells r H := by
  intro d p a q hok
  obtain ⟨bs, hbs, hdrop⟩ := h d p a q hok
  exact ⟨bs, hGH a bs hbs, hdrop⟩

/-- The first part is spelled out, then what follows it in the place it leaves. -/
theorem Spells.bind {r : Reader ε α} {f : α → Reader ε β} {G : α → List UInt8 → Prop}
    {H : β → List UInt8 → Prop} (h : Spells r G)
    (h' : ∀ a bs, G a bs → Spells (f a) fun b cs => H b (bs ++ cs)) : Spells (r >>= f) H := by
  intro d p b t hok
  rw [bind_apply] at hok
  cases hr : r d p with
  | error e =>
    rw [hr] at hok
    cases hok
  | ok x =>
    rw [hr] at hok
    obtain ⟨bs, hbs, hfirst⟩ := h d p x.1 x.2 hr
    obtain ⟨cs, hcs, hrest⟩ := h' x.1 bs hbs d x.2 b t hok
    exact ⟨bs ++ cs, hcs, by rw [hfirst, hrest, List.append_assoc]⟩

theorem Spells.ite {c : Prop} [Decidable c] {r r' : Reader ε α} {G : α → List UInt8 → Prop}
    (h : c → Spells r G) (h' : ¬c → Spells r' G) : Spells (if c then r else r') G := by
  split_ifs with hc
  · exact h hc
  · exact h' hc

theorem Spells.bytes (reason : ε) (k : ℕ) :
    Spells (bytes reason k) fun as bs => bs = as ∧ as.length = k := by
  intro d p as q hok
  by_cases h : p + k ≤ d.length
  · rw [bytes_eq h, Except.ok.injEq, Prod.mk.injEq] at hok
    obtain ⟨rfl, rfl⟩ := hok
    refine ⟨_, ⟨rfl, ?_⟩, ?_⟩
    · rw [List.length_take, List.length_drop]
      omega
    · rw [← List.drop_drop, List.take_append_drop]
  · rw [bytes_short (by omega)] at hok
    cases hok

theorem Spells.u8 (reason : ε) : Spells (u8 reason) fun v bs => bs = [v] := by
  refine (Spells.bytes reason 1).bind fun as bs ⟨hbs, hlen⟩ => Spells.pure ?_
  obtain ⟨v, rfl⟩ := List.length_eq_one_iff.mp hlen
  simp [hbs, ofLittleEndian]

theorem Spells.u64 (reason : ε) :
    Spells (u64 reason) fun v bs => bs = littleEndian 8 v.toNat := by
  refine (Spells.bytes reason 8).bind fun as bs ⟨hbs, hlen⟩ => Spells.pure ?_
  have hlt := ofLittleEndian_lt as
  rw [hlen] at hlt
  rw [hbs, List.append_nil, UInt64.toNat_ofNat_of_lt' hlt, ← hlen, littleEndian_ofLittleEndian]

section Lists

variable {r : Reader ε α} {P : α → Prop} {write : α → List UInt8}

theorem Spells.times (h : Spells r fun a bs => P a ∧ bs = write a) (n : ℕ) :
    Spells (times r n) fun as bs =>
      as.length = n ∧ (∀ a ∈ as, P a) ∧ bs = as.flatMap write := by
  induction n with
  | zero => exact Spells.pure ⟨rfl, by simp, rfl⟩
  | succ n ih =>
    refine h.bind fun a bs ⟨ha, hbs⟩ => ih.bind fun as cs ⟨hlen, has, hcs⟩ => Spells.pure ?_
    refine ⟨by rw [List.length_cons, hlen], List.forall_mem_cons.mpr ⟨ha, has⟩, ?_⟩
    rw [hbs, hcs, List.append_nil, List.flatMap_cons]

theorem Spells.counted (reason : ε) (limit : ℕ) (h : Spells r fun a bs => P a ∧ bs = write a) :
    Spells (counted reason limit r) fun as bs => as.length ≤ limit ∧ (∀ a ∈ as, P a) ∧
      bs = littleEndian 8 as.length ++ as.flatMap write := by
  refine (Spells.u64 reason).bind fun n bs hbs => Spells.ite (fun _ => Spells.reject _ _) ?_
  intro hn d p as q hok
  obtain ⟨cs, ⟨hlen, has, hcs⟩, hdrop⟩ := h.times n.toNat d p as q hok
  exact ⟨cs, ⟨by omega, has, by rw [hbs, hcs, hlen]⟩, hdrop⟩

end Lists

end Reader
