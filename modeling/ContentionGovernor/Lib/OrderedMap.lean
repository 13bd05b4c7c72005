import Mathlib.Data.List.Basic
import Mathlib.Data.List.Forall2
import Mathlib.Order.Lattice

/-!
# Ordered finite maps

A map is the list of its entries in strictly increasing key order, the order in
which an ordered container is iterated.  The order is a field of the structure,
so two maps with the same lookups are equal, and a fold over `entries` depends
on nothing but the lookups.
-/

/-- A finite map with its entries in strictly increasing key order. -/
structure OrderedMap (K V : Type*) [LinearOrder K] where
  entries : List (K × V)
  increasing : entries.Pairwise fun a b => a.1 < b.1

namespace OrderedMap

variable {K V : Type*} [LinearOrder K]

/-! ## Entry lists -/

def lookup (k : K) : List (K × V) → Option V
  | [] => none
  | e :: es => if e.1 = k then some e.2 else lookup k es

def place (k : K) (v : V) : List (K × V) → List (K × V)
  | [] => [(k, v)]
  | e :: es =>
    if k < e.1 then (k, v) :: e :: es
    else if e.1 = k then (k, v) :: es
    else e :: place k v es

theorem mem_place {k : K} {v : V} {e : K × V} {es : List (K × V)} (h : e ∈ place k v es) :
    e = (k, v) ∨ e ∈ es := by
  induction es with
  | nil => simpa [place] using h
  | cons a es ih =>
    unfold place at h
    split_ifs at h with hlt heq
    · simpa using h
    · rcases List.mem_cons.mp h with h | h
      · exact .inl h
      · exact .inr (List.mem_cons_of_mem _ h)
    · rcases List.mem_cons.mp h with rfl | h
      · exact .inr List.mem_cons_self
      · exact (ih h).imp_right (List.mem_cons_of_mem _)

theorem place_increasing (k : K) (v : V) {es : List (K × V)}
    (h : es.Pairwise fun a b => a.1 < b.1) : (place k v es).Pairwise fun a b => a.1 < b.1 := by
  induction es with
  | nil => simp [place]
  | cons a es ih =>
    obtain ⟨ha, hes⟩ := List.pairwise_cons.mp h
    unfold place
    split_ifs with hlt heq
    · refine List.pairwise_cons.mpr ⟨?_, h⟩
      intro b hb
      rcases List.mem_cons.mp hb with rfl | hb
      · exact hlt
      · exact hlt.trans (ha b hb)
    · subst heq
      exact List.pairwise_cons.mpr ⟨ha, hes⟩
    · refine List.pairwise_cons.mpr ⟨?_, ih hes⟩
      intro b hb
      rcases mem_place hb with rfl | hb
      · exact lt_of_le_of_ne (not_lt.mp hlt) heq
      · exact ha b hb

theorem lookup_place_self (k : K) (v : V) (es : List (K × V)) :
    lookup k (place k v es) = some v := by
  induction es with
  | nil => simp [place, lookup]
  | cons a es ih =>
    unfold place
    split_ifs with hlt heq
    · simp [lookup]
    · simp [lookup]
    · simp [lookup, heq, ih]

theorem lookup_place_of_ne {k j : K} (hne : j ≠ k) (v : V) (es : List (K × V)) :
    lookup j (place k v es) = lookup j es := by
  induction es with
  | nil => simp [place, lookup, hne.symm]
  | cons a es ih =>
    unfold place
    split_ifs with hlt heq
    · simp [lookup, hne.symm]
    · simp [lookup, heq, hne.symm]
    · simp only [lookup, ih]

theorem lookup_eq_some {k : K} {v : V} {es : List (K × V)}
    (h : es.Pairwise fun a b => a.1 < b.1) : lookup k es = some v ↔ (k, v) ∈ es := by
  induction es with
  | nil => simp [lookup]
  | cons a es ih =>
    obtain ⟨ha, hes⟩ := List.pairwise_cons.mp h
    rw [lookup]
    split_ifs with heq
    · subst heq
      constructor
      · rintro ⟨rfl⟩
        exact List.mem_cons_self
      · intro hm
        rcases List.mem_cons.mp hm with he | hm
        · exact congrArg (fun e : K × V => some e.2) he.symm
        · exact absurd (ha _ hm) (lt_irrefl _)
    · rw [ih hes, List.mem_cons]
      constructor
      · exact .inr
      · rintro (rfl | hm)
        · exact absurd rfl heq
        · exact hm

theorem lookup_map (f : V → V) (k : K) (es : List (K × V)) :
    lookup k (es.map fun e => (e.1, f e.2)) = (lookup k es).map f := by
  induction es with
  | nil => rfl
  | cons e es ih =>
    simp only [List.map_cons, lookup]
    split_ifs
    · rfl
    · exact ih

theorem length_place_le (k : K) (v : V) (es : List (K × V)) :
    (place k v es).length ≤ es.length + 1 := by
  induction es with
  | nil => simp [place]
  | cons a es ih =>
    unfold place
    split_ifs <;> simp only [List.length_cons] <;> omega

/-- Placing adds an entry exactly when the key is not there. -/
theorem length_place (k : K) (v : V) {es : List (K × V)}
    (h : es.Pairwise fun a b => a.1 < b.1) :
    (place k v es).length = if (lookup k es).isSome then es.length else es.length + 1 := by
  induction es with
  | nil => rfl
  | cons a es ih =>
    obtain ⟨ha, hes⟩ := List.pairwise_cons.mp h
    rw [place, lookup]
    by_cases hlt : k < a.1
    · -- The keys behind `a` are above `k` as well.
      have hnone : lookup k es = none := by
        rw [Option.eq_none_iff_forall_ne_some]
        intro w hw
        exact lt_irrefl k (hlt.trans (ha _ ((lookup_eq_some hes).mp hw)))
      rw [if_pos hlt, if_neg hlt.ne', hnone]
      rfl
    · rw [if_neg hlt]
      by_cases heq : a.1 = k
      · rw [if_pos heq, if_pos heq]
        rfl
      · rw [if_neg heq, if_neg heq, List.length_cons, ih hes, List.length_cons]
        split_ifs <;> rfl

/-- Placing above every key appends. -/
theorem place_of_forall_lt {k : K} (v : V) {es : List (K × V)} (h : ∀ e ∈ es, e.1 < k) :
    place k v es = es ++ [(k, v)] := by
  induction es with
  | nil => rfl
  | cons a es ih =>
    have ha := h a List.mem_cons_self
    rw [place, if_neg (not_lt.mpr ha.le), if_neg ha.ne,
      ih fun e he => h e (List.mem_cons_of_mem _ he), List.cons_append]

theorem place_place (k : K) (v w : V) (es : List (K × V)) :
    place k w (place k v es) = place k w es := by
  induction es with
  | nil => simp [place]
  | cons a es ih =>
    rw [place, place]
    split_ifs with hlt heq
    · simp [place]
    · simp [place]
    · rw [place, if_neg hlt, if_neg heq, ih]

/-! ## Maps -/

def empty : OrderedMap K V := ⟨[], List.Pairwise.nil⟩

instance : Inhabited (OrderedMap K V) := ⟨empty⟩

def find (m : OrderedMap K V) (k : K) : Option V := lookup k m.entries

def insert (m : OrderedMap K V) (k : K) (v : V) : OrderedMap K V :=
  ⟨place k v m.entries, place_increasing k v m.increasing⟩

def mapValues (f : V → V) (m : OrderedMap K V) : OrderedMap K V :=
  ⟨m.entries.map fun e => (e.1, f e.2), List.pairwise_map.mpr m.increasing⟩

def size (m : OrderedMap K V) : ℕ := m.entries.length

/-- The map that inserting the entries one after another into `m` builds. -/
def insertAll (m : OrderedMap K V) (es : List (K × V)) : OrderedMap K V :=
  es.foldl (fun m e => m.insert e.1 e.2) m

theorem entries_injective {m n : OrderedMap K V} (h : m.entries = n.entries) : m = n := by
  cases m
  cases n
  cases h
  rfl

instance [DecidableEq V] : DecidableEq (OrderedMap K V) := fun m n =>
  decidable_of_iff (m.entries = n.entries) ⟨entries_injective, congrArg entries⟩

@[simp] theorem find_empty (k : K) : (empty : OrderedMap K V).find k = none := rfl

@[simp] theorem find_insert_self (m : OrderedMap K V) (k : K) (v : V) :
    (m.insert k v).find k = some v := lookup_place_self k v m.entries

theorem find_insert_of_ne (m : OrderedMap K V) {k j : K} (h : j ≠ k) (v : V) :
    (m.insert k v).find j = m.find j := lookup_place_of_ne h v m.entries

@[simp] theorem insert_insert (m : OrderedMap K V) (k : K) (v w : V) :
    (m.insert k v).insert k w = m.insert k w := entries_injective (place_place k v w m.entries)

theorem find_insert (m : OrderedMap K V) (k j : K) (v : V) :
    (m.insert k v).find j = if j = k then some v else m.find j := by
  split_ifs with h
  · rw [h, find_insert_self]
  · exact find_insert_of_ne m h v

theorem find_insert_cases {m : OrderedMap K V} {k j : K} {v w : V}
    (h : (m.insert k v).find j = some w) : (j = k ∧ v = w) ∨ (j ≠ k ∧ m.find j = some w) := by
  rw [find_insert] at h
  split_ifs at h with hj
  · exact .inl ⟨hj, Option.some.inj h⟩
  · exact .inr ⟨hj, h⟩

@[simp] theorem find_mapValues (f : V → V) (m : OrderedMap K V) (k : K) :
    (m.mapValues f).find k = (m.find k).map f := lookup_map f k m.entries

theorem mem_entries {m : OrderedMap K V} {k : K} {v : V} :
    (k, v) ∈ m.entries ↔ m.find k = some v := (lookup_eq_some m.increasing).symm

theorem size_insert_le (m : OrderedMap K V) (k : K) (v : V) :
    (m.insert k v).size ≤ m.size + 1 := length_place_le k v m.entries

theorem size_insert (m : OrderedMap K V) (k : K) (v : V) :
    (m.insert k v).size = if (m.find k).isSome then m.size else m.size + 1 :=
  length_place k v m.increasing

theorem size_insertAll_le (m : OrderedMap K V) (es : List (K × V)) :
    (m.insertAll es).size ≤ m.size + es.length := by
  induction es generalizing m with
  | nil => exact Nat.le_refl _
  | cons e es ih =>
    have h := ih (m.insert e.1 e.2)
    have h' := size_insert_le m e.1 e.2
    simp only [insertAll, List.foldl_cons, List.length_cons] at h ⊢
    omega

theorem mem_insertAll {m : OrderedMap K V} {es : List (K × V)} {e : K × V}
    (h : e ∈ (m.insertAll es).entries) : e ∈ m.entries ∨ e ∈ es := by
  induction es generalizing m with
  | nil => exact .inl h
  | cons a es ih =>
    rcases ih h with h | h
    · rcases mem_place h with rfl | h
      · exact .inr List.mem_cons_self
      · exact .inl h
    · exact .inr (List.mem_cons_of_mem _ h)

/-- Entries inserted in increasing order above every key are appended. -/
theorem entries_insertAll {m : OrderedMap K V} {es : List (K × V)}
    (h : (m.entries ++ es).Pairwise fun a b => a.1 < b.1) :
    (m.insertAll es).entries = m.entries ++ es := by
  induction es generalizing m with
  | nil => simp [insertAll]
  | cons a es ih =>
    have ha : (m.insert a.1 a.2).entries = m.entries ++ [a] :=
      place_of_forall_lt a.2 fun e he =>
        (List.pairwise_append.mp h).2.2 e he a List.mem_cons_self
    have h' := ih (m := m.insert a.1 a.2) (by simpa [ha] using h)
    rw [show m.insertAll (a :: es) = (m.insert a.1 a.2).insertAll es from rfl, h', ha,
      List.append_assoc, List.singleton_append]

/-- Inserting a map's entries into the empty map rebuilds the map. -/
theorem insertAll_entries (m : OrderedMap K V) : insertAll empty m.entries = m :=
  entries_injective (entries_insertAll (m := empty) m.increasing)

/-- Inserting related entries keeps the values under each key related. -/
theorem insertAll_rel {V' : Type*} {P : V → V' → Prop} {m : OrderedMap K V}
    {n : OrderedMap K V'} {es : List (K × V)} {fs : List (K × V')}
    (h : List.Forall₂ (fun a b => a.1 = b.1 ∧ P a.2 b.2) es fs)
    (hmn : ∀ k, Option.Rel P (m.find k) (n.find k)) (k : K) :
    Option.Rel P ((m.insertAll es).find k) ((n.insertAll fs).find k) := by
  induction h generalizing m n with
  | nil => exact hmn k
  | cons hab _ ih =>
    refine ih fun j => ?_
    rw [find_insert, find_insert, hab.1]
    split_ifs
    · exact .some hab.2
    · exact hmn j

/-! ## Searches -/

/-- A search that one element at most can meet is membership. -/
theorem search_eq_some_iff {α : Type*} {p : α → Bool} {xs : List α}
    (huniq : ∀ a ∈ xs, ∀ b ∈ xs, p a → p b → a = b) {a : α} :
    xs.find? p = some a ↔ a ∈ xs ∧ p a := by
  constructor
  · exact fun h => ⟨List.mem_of_find?_eq_some h, List.find?_some h⟩
  · rintro ⟨ha, hp⟩
    cases hfound : xs.find? p with
    | none => exact absurd hp (List.find?_eq_none.mp hfound a ha)
    | some b =>
      have hb := huniq b (List.mem_of_find?_eq_some hfound) a ha (List.find?_some hfound) hp
      rw [hb]

/-- Such a search does not depend on the order of the list. -/
theorem search_perm {α : Type*} {p : α → Bool} {xs ys : List α} (h : xs.Perm ys)
    (huniq : ∀ a ∈ ys, ∀ b ∈ ys, p a → p b → a = b) : xs.find? p = ys.find? p := by
  have huniq' : ∀ a ∈ xs, ∀ b ∈ xs, p a → p b → a = b :=
    fun a ha b hb => huniq a (h.mem_iff.mp ha) b (h.mem_iff.mp hb)
  apply Option.ext
  intro a
  rw [search_eq_some_iff huniq', search_eq_some_iff huniq, h.mem_iff]

/-! ## Maps with related values -/

/-- The maps have the same keys, and the values under each key are related. -/
def Related (P : K → V → V → Prop) (m n : OrderedMap K V) : Prop :=
  ∀ k, Option.Rel (P k) (m.find k) (n.find k)

variable {P Q : K → V → V → Prop} {m n : OrderedMap K V}

theorem Related.refl (hP : ∀ k v, P k v v) (m : OrderedMap K V) : Related P m m := by
  intro k
  cases m.find k with
  | none => exact .none
  | some v => exact .some (hP k v)

theorem Related.mono (h : Related P m n) (hPQ : ∀ k v w, P k v w → Q k v w) : Related Q m n := by
  intro k
  have hk := h k
  generalize m.find k = a, n.find k = b at hk ⊢
  cases hk with
  | none => exact .none
  | some hv => exact .some (hPQ k _ _ hv)

theorem Related.insert (hP : ∀ k v, P k v v) {k : K} {v w : V} (hk : m.find k = some v)
    (hvw : P k v w) : Related P m (m.insert k w) := by
  intro j
  rw [find_insert]
  split_ifs with hj
  · rw [hj, hk]
    exact .some hvw
  · exact Related.refl hP m j

theorem Related.mapValues {f : V → V} (hf : ∀ k v, P k v (f v)) (m : OrderedMap K V) :
    Related P m (m.mapValues f) := by
  intro k
  rw [find_mapValues]
  cases m.find k with
  | none => exact .none
  | some v => exact .some (hf k v)

theorem Related.exists_right (h : Related P m n) {k : K} {v : V} (hk : m.find k = some v) :
    ∃ w, n.find k = some w ∧ P k v w := by
  have hr := h k
  rw [hk] at hr
  cases hn : n.find k with
  | none => rw [hn] at hr; cases hr
  | some w =>
    rw [hn] at hr
    cases hr with
    | some hvw => exact ⟨w, rfl, hvw⟩

theorem Related.exists_left (h : Related P m n) {k : K} {w : V} (hk : n.find k = some w) :
    ∃ v, m.find k = some v ∧ P k v w := by
  have hr := h k
  rw [hk] at hr
  cases hm : m.find k with
  | none => rw [hm] at hr; cases hr
  | some v =>
    rw [hm] at hr
    cases hr with
    | some hvw => exact ⟨v, rfl, hvw⟩

/-! ## Counting -/

/-- How many entries meet the test. -/
def count (p : K → V → Bool) (m : OrderedMap K V) : ℕ := m.entries.countP fun e => p e.1 e.2

theorem count_le_size (p : K → V → Bool) (m : OrderedMap K V) : m.count p ≤ m.size :=
  List.countP_le_length

theorem countP_place {p : K × V → Bool} (k : K) (v : V) {es : List (K × V)}
    (h : lookup k es = none) :
    (place k v es).countP p = es.countP p + if p (k, v) then 1 else 0 := by
  induction es with
  | nil => simp [place, List.countP_cons]
  | cons a es ih =>
    rw [lookup] at h
    split_ifs at h with heq
    by_cases hlt : k < a.1
    · rw [place, if_pos hlt, List.countP_cons]
    · rw [place, if_neg hlt, if_neg heq, List.countP_cons, ih h, List.countP_cons]
      omega

/-- An entry under a new key counts once, or not at all. -/
theorem count_insert {p : K → V → Bool} {m : OrderedMap K V} {k : K} (h : m.find k = none)
    (v : V) : (m.insert k v).count p = m.count p + if p k v then 1 else 0 := countP_place k v h

theorem size_insert_of_none {m : OrderedMap K V} {k : K} (h : m.find k = none) (v : V) :
    (m.insert k v).size = m.size + 1 := by
  rw [size_insert, h, if_neg]
  exact Bool.false_ne_true

theorem lookup_none_of_forall_lt {k : K} {es : List (K × V)} (h : ∀ e ∈ es, k < e.1) :
    lookup k es = none := by
  induction es with
  | nil => rfl
  | cons a es ih =>
    rw [lookup, if_neg (h a List.mem_cons_self).ne']
    exact ih fun e he => h e (List.mem_cons_of_mem _ he)

theorem Related.tail {a b : K × V} {xs ys : List (K × V)} (ha : ∀ e ∈ xs, a.1 < e.1)
    (hb : ∀ e ∈ ys, b.1 < e.1) (hkey : a.1 = b.1)
    (h : ∀ k, Option.Rel (P k) (lookup k (a :: xs)) (lookup k (b :: ys))) (k : K) :
    Option.Rel (P k) (lookup k xs) (lookup k ys) := by
  have hk := h k
  rw [lookup, lookup, ← hkey] at hk
  split_ifs at hk with heq
  · subst heq
    rw [lookup_none_of_forall_lt ha, lookup_none_of_forall_lt (hkey ▸ hb)]
    exact .none
  · exact hk

/-- Related maps have their entries in the same order. -/
theorem Related.entries {xs ys : List (K × V)} (hx : xs.Pairwise fun a b => a.1 < b.1)
    (hy : ys.Pairwise fun a b => a.1 < b.1)
    (h : ∀ k, Option.Rel (P k) (lookup k xs) (lookup k ys)) :
    List.Forall₂ (fun a b => a.1 = b.1 ∧ P a.1 a.2 b.2) xs ys := by
  induction xs generalizing ys with
  | nil =>
    cases ys with
    | nil => exact .nil
    | cons b ys =>
      have hb := h b.1
      rw [lookup, lookup, if_pos rfl] at hb
      cases hb
  | cons a xs ih =>
    obtain ⟨ha, hxs⟩ := List.pairwise_cons.mp hx
    cases ys with
    | nil =>
      have hk := h a.1
      rw [lookup, lookup, if_pos rfl] at hk
      cases hk
    | cons b ys =>
      obtain ⟨hb, hys⟩ := List.pairwise_cons.mp hy
      -- Each first key is looked up in the other list, so neither is below the other.
      have hkey : a.1 = b.1 := by
        have hfirst := h (min a.1 b.1)
        rcases lt_trichotomy a.1 b.1 with hlt | heq | hgt
        · rw [min_eq_left hlt.le, lookup, if_pos rfl, lookup, if_neg hlt.ne',
            lookup_none_of_forall_lt fun e he => hlt.trans (hb e he)] at hfirst
          cases hfirst
        · exact heq
        · rw [min_eq_right hgt.le, lookup, if_neg hgt.ne', lookup, if_pos rfl,
            lookup_none_of_forall_lt fun e he => hgt.trans (ha e he)] at hfirst
          cases hfirst
      have hvalues := h a.1
      rw [lookup, if_pos rfl, lookup, if_pos hkey.symm] at hvalues
      cases hvalues with
      | some hvalue => exact .cons ⟨hkey, hvalue⟩ (ih hxs hys (Related.tail ha hb hkey h))

/-- Maps with the same lookups are equal. -/
theorem find_injective : Function.Injective (find : OrderedMap K V → K → Option V) := by
  intro m n h
  have hrel : ∀ k, Option.Rel Eq (lookup k m.entries) (lookup k n.entries) := by
    intro k
    have hk : lookup k m.entries = lookup k n.entries := congrFun h k
    rw [hk]
    cases lookup k n.entries with
    | none => exact .none
    | some v => exact .some rfl
  have hentries := Related.entries (P := fun _ => Eq) m.increasing n.increasing hrel
  apply entries_injective
  rw [← List.forall₂_eq_eq_eq]
  exact hentries.imp fun a b hab => Prod.ext hab.1 hab.2

/-- Insertions under different keys commute. -/
theorem insert_comm (m : OrderedMap K V) {j k : K} (h : j ≠ k) (v w : V) :
    (m.insert j v).insert k w = (m.insert k w).insert j v := by
  apply find_injective
  funext i
  simp only [find_insert]
  split_ifs with hk hj
  · exact absurd (hj.symm.trans hk) h
  · rfl
  · rfl
  · rfl

/-- A test that the relation keeps finds related entries in related maps. -/
theorem Related.search {p : K × V → Bool} (h : Related P m n)
    (hp : ∀ k v w, P k v w → p (k, w) = p (k, v)) :
    Option.Rel (fun a b => a.1 = b.1 ∧ P a.1 a.2 b.2) (m.entries.find? p) (n.entries.find? p) := by
  have hentries := Related.entries m.increasing n.increasing h
  generalize m.entries = xs, n.entries = ys at hentries
  induction hentries with
  | nil => exact .none
  | @cons a b xs ys hab _ ih =>
    have hb : b = (a.1, b.2) := Prod.ext hab.1.symm rfl
    have hsame : p b = p a := by
      rw [hb]
      exact hp a.1 a.2 b.2 hab.2
    rw [List.find?_cons, List.find?_cons, hsame]
    cases p a with
    | true => exact .some hab
    | false => exact ih

omit [LinearOrder K] in
theorem countP_entries {p : K → V → Bool} {xs ys : List (K × V)}
    (h : List.Forall₂ (fun a b => a.1 = b.1 ∧ P a.1 a.2 b.2) xs ys)
    (hp : ∀ k v w, P k v w → p k w = p k v) :
    ys.countP (fun e => p e.1 e.2) = xs.countP fun e => p e.1 e.2 := by
  induction h with
  | nil => rfl
  | cons hab _ ih => rw [List.countP_cons, List.countP_cons, ih, ← hab.1, hp _ _ _ hab.2]

/-- Related maps count alike what the relation keeps. -/
theorem Related.count {p : K → V → Bool} (h : Related P m n)
    (hp : ∀ k v w, P k v w → p k w = p k v) : n.count p = m.count p :=
  countP_entries (Related.entries m.increasing n.increasing h) hp

theorem Related.size (h : Related P m n) : n.size = m.size :=
  (Related.entries m.increasing n.increasing h).length_eq.symm

end OrderedMap
