import Mathlib.Data.List.Range
import ContentionGovernor.Lib.ByteCodec

/-!
# Readers in 64-bit arithmetic

A program is a reader with the way it is built from the primitive ones.  Run on a window of a
buffer, with positions and indices of 64 bits that wrap, it records every index it reads.  On
windows of buffers below 2^63 bytes the run follows the reader: no sum wraps, every index
lies in the window, and every byte that the position passes is read.
-/

/-- A computation that can be rejected, with the indices it has read. -/
structure Access (ε α : Type) where
  indices : List ℕ
  value : Except ε α

namespace Access

variable {ε ε' α β : Type}

/-- A computation behind what was read before it. -/
def behind (is : List ℕ) (x : Access ε α) : Access ε α := ⟨is ++ x.indices, x.value⟩

instance : Monad (Access ε) where
  pure a := ⟨[], .ok a⟩
  bind x f :=
    match x.value with
    | .error e => ⟨x.indices, .error e⟩
    | .ok a => (f a).behind x.indices

def reject (e : ε) : Access ε α := ⟨[], .error e⟩

def rejectIf (c : Prop) [Decidable c] (e : ε) : Access ε Unit := if c then reject e else pure ()

/-- Any rejection becomes the given one. -/
def named (reason : ε') (x : Access ε α) : Access ε' α where
  indices := x.indices
  value :=
    match x.value with
    | .ok a => .ok a
    | .error _ => .error reason

/-- The bytes at `start`, `start + 1`, and so on. -/
def load (data : List UInt8) (start : UInt64) (k : ℕ) : Access ε (List UInt8) :=
  let indices := (List.range k).map fun i => (start + UInt64.ofNat i).toNat
  ⟨indices, .ok (indices.map fun i => data.getD i 0)⟩

theorem ok_bind (is : List ℕ) (a : α) (f : α → Access ε β) :
    ((⟨is, .ok a⟩ : Access ε α) >>= f) = (f a).behind is := rfl

theorem ok_bind_pure (is : List ℕ) (a : α) (f : α → β) :
    ((⟨is, .ok a⟩ : Access ε α) >>= fun a => pure (f a)) = ⟨is, .ok (f a)⟩ := by
  rw [ok_bind, behind]
  congr 1
  exact List.append_nil is

theorem rejectIf_bind {c : Prop} [Decidable c] {e : ε} {f : Unit → Access ε β} :
    (rejectIf c e >>= f) = if c then reject e else f () := by
  unfold rejectIf
  split_ifs <;> rfl

theorem bind_ok {x : Access ε α} {f : α → Access ε β} {b : β} (h : (x >>= f).value = .ok b) :
    ∃ a, x.value = .ok a ∧ (f a).value = .ok b := by
  obtain ⟨is, value⟩ := x
  cases value with
  | error e => cases h
  | ok a => exact ⟨a, rfl, h⟩

theorem rejectIf_bind_ok {c : Prop} [Decidable c] {e : ε} {f : Unit → Access ε β} {b : β}
    (h : (rejectIf c e >>= f).value = .ok b) : ¬c ∧ (f ()).value = .ok b := by
  rw [rejectIf_bind] at h
  split_ifs at h with hc
  · cases h
  · exact ⟨hc, h⟩

theorem toNat_add_ofNat {p : UInt64} {k : ℕ} (h : p.toNat + k < 2 ^ 64) :
    (p + UInt64.ofNat k).toNat = p.toNat + k := by
  rw [UInt64.toNat_add, UInt64.toNat_ofNat_of_lt' (show k < 2 ^ 64 by omega), Nat.mod_eq_of_lt h]

theorem map_getD_range' (data : List UInt8) {start k : ℕ} (h : start + k ≤ data.length) :
    (List.range' start k).map (fun i => data.getD i 0) = (data.drop start).take k := by
  apply List.ext_getElem
  · simp only [List.length_map, List.length_range', List.length_take, List.length_drop]
    omega
  · intro i hi hi'
    simp only [List.length_map, List.length_range'] at hi
    have hlt : start + i < data.length := by omega
    simp [hlt]

theorem load_eq {data : List UInt8} {start : UInt64} {k : ℕ}
    (h : start.toNat + k ≤ data.length) (hdata : data.length < 2 ^ 63) :
    (load data start k : Access ε (List UInt8)) =
      ⟨List.range' start.toNat k, .ok ((data.drop start.toNat).take k)⟩ := by
  have hindices : (List.range k).map (fun i => (start + UInt64.ofNat i).toNat) =
      List.range' start.toNat k := by
    rw [List.range'_eq_map_range]
    apply List.map_congr_left
    intro i hi
    have hlt := List.mem_range.mp hi
    exact toNat_add_ofNat (by omega)
  unfold load
  dsimp only
  rw [hindices, map_getD_range' data h]

/-! ## What a computation meets -/

/-- Every index is below `n`, and the result satisfies `Q`, with all indices read up to then,
or is a rejection that satisfies `E`. -/
def Meets (n : ℕ) (seen : List ℕ) (x : Access ε α) (Q : List ℕ → α → Prop) (E : ε → Prop) :
    Prop :=
  (∀ i ∈ x.indices, i < n) ∧
    match x.value with
    | .ok a => Q (seen ++ x.indices) a
    | .error e => E e

variable {n : ℕ} {seen : List ℕ} {Q : List ℕ → β → Prop} {R : List ℕ → α → Prop} {E : ε → Prop}

theorem meets_pure {b : β} (h : Q seen b) : Meets n seen (pure b) Q E := by
  refine ⟨fun i hi => ?_, ?_⟩
  · cases hi
  · show Q (seen ++ []) b
    rwa [List.append_nil]

theorem meets_reject {e : ε} (h : E e) : Meets n seen (reject e) Q E := by
  refine ⟨fun i hi => ?_, h⟩
  cases hi

theorem Meets.imp {x : Access ε β} {Q' : List ℕ → β → Prop} {E' : ε → Prop}
    (h : Meets n seen x Q E) (hQ : ∀ s b, Q s b → Q' s b) (hE : ∀ e, E e → E' e) :
    Meets n seen x Q' E' := by
  obtain ⟨is, value⟩ := x
  obtain ⟨hinside, hvalue⟩ := h
  cases value with
  | error e => exact ⟨hinside, hE e hvalue⟩
  | ok b => exact ⟨hinside, hQ _ b hvalue⟩

theorem Meets.behind {x : Access ε β} {is : List ℕ} (h : Meets n (seen ++ is) x Q E)
    (his : ∀ i ∈ is, i < n) : Meets n seen (x.behind is) Q E := by
  obtain ⟨hinside, hvalue⟩ := h
  refine ⟨fun i hi => ?_, ?_⟩
  · rcases List.mem_append.mp hi with hi | hi
    · exact his i hi
    · exact hinside i hi
  · rwa [List.append_assoc] at hvalue

theorem Meets.bind {x : Access ε α} {f : α → Access ε β} (h : Meets n seen x R E)
    (hf : ∀ s a, R s a → Meets n s (f a) Q E) : Meets n seen (x >>= f) Q E := by
  obtain ⟨is, value⟩ := x
  obtain ⟨hinside, hvalue⟩ := h
  cases value with
  | error e => exact ⟨hinside, hvalue⟩
  | ok a => exact (hf _ a hvalue).behind hinside

theorem meets_rejectIf {c : Prop} [Decidable c] {e : ε} {f : Unit → Access ε β} (h : c → E e)
    (h' : ¬c → Meets n seen (f ()) Q E) : Meets n seen (rejectIf c e >>= f) Q E := by
  rw [rejectIf_bind]
  split_ifs with hc
  · exact meets_reject (h hc)
  · exact h' hc

theorem meets_load {data : List UInt8} {start : UInt64} {k : ℕ} {f : List UInt8 → Access ε β}
    (hfits : start.toNat + k ≤ data.length) (hdata : data.length < 2 ^ 63)
    (h : Meets data.length (seen ++ List.range' start.toNat k)
      (f ((data.drop start.toNat).take k)) Q E) :
    Meets data.length seen (load data start k >>= f) Q E := by
  have hload : Meets data.length seen (load data start k : Access ε (List UInt8))
      (fun s a => s = seen ++ List.range' start.toNat k ∧ a = (data.drop start.toNat).take k)
      E := by
    rw [load_eq hfits hdata]
    refine ⟨fun i hi => ?_, rfl, rfl⟩
    rw [List.mem_range'_1] at hi
    omega
  refine hload.bind ?_
  rintro s a ⟨rfl, rfl⟩
  exact h

end Access

/-- A part of a buffer, as a pointer into it and a length. -/
structure Window where
  data : List UInt8
  base : UInt64
  length : UInt64

namespace Window

def bytes (v : Window) : List UInt8 := (v.data.drop v.base.toNat).take v.length.toNat

/-- The window lies in a buffer below 2^63 bytes. -/
structure Inside (v : Window) : Prop where
  fits : v.base.toNat + v.length.toNat ≤ v.data.length
  small : v.data.length < 2 ^ 63

theorem Inside.length_bytes {v : Window} (h : v.Inside) : v.bytes.length = v.length.toNat := by
  have := h.fits
  simp only [bytes, List.length_take, List.length_drop]
  omega

theorem Inside.slice {v : Window} {p k : ℕ} (h : p + k ≤ v.length.toNat) :
    (v.bytes.drop p).take k = (v.data.drop (v.base.toNat + p)).take k := by
  rw [bytes, List.drop_take, List.take_take, List.drop_drop, Nat.min_eq_left (by omega)]

end Window

namespace Reader

variable {ε ε' α β : Type}

/-- The most bytes that one primitive reader takes. -/
def maxRead : ℕ := 2 ^ 20

/-- How a reader is built. -/
inductive Program : {ε α : Type} → Reader ε α → Type 1
  | pure {ε α : Type} (a : α) : Program (Pure.pure a : Reader ε α)
  | reject {ε α : Type} (reason : ε) : Program (Reader.reject reason : Reader ε α)
  | bytes {ε : Type} (reason : ε) (k : ℕ) (hk : k ≤ maxRead) : Program (Reader.bytes reason k)
  | bind {ε α β : Type} {r : Reader ε α} {f : α → Reader ε β} (p : Program r)
      (q : ∀ a, Program (f a)) : Program (r >>= f)
  | named {ε ε' α : Type} (reason : ε') {r : Reader ε α} (p : Program r) :
      Program (Reader.named reason r)
  | ite {ε α : Type} {c : Prop} [Decidable c] {r r' : Reader ε α} (p : c → Program r)
      (q : ¬c → Program r') : Program (if c then r else r')

namespace Program

def run : {ε α : Type} → {r : Reader ε α} → Program r → Window → UInt64 → Access ε (α × UInt64)
  | _, _, _, .pure a, _, p => Pure.pure (a, p)
  | _, _, _, .reject reason, _, _ => Access.reject reason
  | _, _, _, .bytes reason k _, v, p =>
    if v.length < p + UInt64.ofNat k then Access.reject reason
    else do
      let bs ← Access.load v.data (v.base + p) k
      return (bs, p + UInt64.ofNat k)
  | _, _, _, .bind first rest, v, p => do
    let (a, p) ← first.run v p
    (rest a).run v p
  | _, _, _, .named reason inner, v, p => Access.named reason (inner.run v p)
  | _, _, _, @Program.ite _ _ _ decision _ _ yes no, v, p =>
    match decision with
    | .isTrue h => (yes h).run v p
    | .isFalse h => (no h).run v p

def u8 (reason : ε) : Program (Reader.u8 reason) :=
  .bind (.bytes reason 1 (by decide)) fun _ => .pure _

def u32 (reason : ε) : Program (Reader.u32 reason) :=
  .bind (.bytes reason 4 (by decide)) fun _ => .pure _

def u64 (reason : ε) : Program (Reader.u64 reason) :=
  .bind (.bytes reason 8 (by decide)) fun _ => .pure _

def times {r : Reader ε α} (p : Program r) : (n : ℕ) → Program (Reader.times r n)
  | 0 => .pure []
  | n + 1 => .bind p fun _ => .bind (times p n) fun _ => .pure _

def counted (reason : ε) (limit : ℕ) {r : Reader ε α} (p : Program r) :
    Program (Reader.counted reason limit r) :=
  .bind (u64 reason) fun n => .ite (fun _ => .reject reason) fun _ => p.times n.toNat

/-- A run from a position against the reader on the bytes of the window. -/
inductive Follows (v : Window) (p : UInt64) :
    Access ε (α × UInt64) → Except (ReadError ε) (α × ℕ) → Prop
  | ok {is : List ℕ} {a : α} {q : UInt64}
      (inside : ∀ i ∈ is, i < v.base.toNat + v.length.toNat)
      (forward : p.toNat ≤ q.toNat) (bounded : q.toNat ≤ v.length.toNat)
      (covered : ∀ i, v.base.toNat + p.toNat ≤ i → i < v.base.toNat + q.toNat → i ∈ is) :
      Follows v p ⟨is, .ok (a, q)⟩ (.ok (a, q.toNat))
  | rejected {is : List ℕ} {e : ε} (inside : ∀ i ∈ is, i < v.base.toNat + v.length.toNat) :
      Follows v p ⟨is, .error e⟩ (.error (.rejected e))

variable {v : Window} {p : UInt64}

theorem Follows.value_eq {x : Access ε (α × UInt64)} {a : α} {n : ℕ}
    (h : Follows v p x (.ok (a, n))) : x.value = .ok (a, UInt64.ofNat n) := by
  generalize hy : (.ok (a, n) : Except (ReadError ε) (α × ℕ)) = y at h
  cases h with
  | ok =>
    cases hy
    rw [UInt64.ofNat_toNat]
  | rejected => cases hy

theorem follows_pure (hp : p.toNat ≤ v.length.toNat) (a : α) :
    Follows (ε := ε) v p (Pure.pure (a, p)) (.ok (a, p.toNat)) := by
  refine .ok (fun i hi => ?_) (Nat.le_refl _) hp fun i hle hlt => ?_
  · cases hi
  · omega

theorem follows_reject (e : ε) :
    Follows (α := α) v p (Access.reject e) (.error (.rejected e)) := by
  refine .rejected fun i hi => ?_
  cases hi

theorem follows_bytes (hv : v.Inside) (hp : p.toNat ≤ v.length.toNat) (reason : ε) {k : ℕ}
    (hk : k ≤ maxRead) :
    Follows v p ((Program.bytes reason k hk).run v p) (Reader.bytes reason k v.bytes p.toNat) := by
  have hfits := hv.fits
  have hsmall := hv.small
  have hk' : k ≤ 2 ^ 20 := hk
  have hadd : (p + UInt64.ofNat k).toNat = p.toNat + k := Access.toNat_add_ofNat (by omega)
  have hcheck : v.length < p + UInt64.ofNat k ↔ v.length.toNat < p.toNat + k := by
    rw [UInt64.lt_iff_toNat_lt, hadd]
  rw [Program.run]
  by_cases hlen : v.length.toNat < p.toNat + k
  · rw [if_pos (hcheck.mpr hlen), bytes_short (by rw [hv.length_bytes]; exact hlen)]
    exact follows_reject reason
  · have hbase : (v.base + p).toNat = v.base.toNat + p.toNat := by
      rw [UInt64.toNat_add, Nat.mod_eq_of_lt (by omega)]
    rw [if_neg (mt hcheck.mp hlen), bytes_eq (by rw [hv.length_bytes]; omega),
      Access.load_eq (by omega) hsmall, Window.Inside.slice (by omega), hbase, ← hadd,
      Access.ok_bind_pure]
    refine .ok (fun i hi => ?_) (by omega) (by omega) fun i hle hlt => ?_
    · rw [List.mem_range'_1] at hi
      omega
    · rw [List.mem_range'_1]
      omega

theorem follows_bind {x : Access ε (α × UInt64)} {y : Except (ReadError ε) (α × ℕ)}
    (h : Follows v p x y) {f : α × UInt64 → Access ε (β × UInt64)}
    {g : α → ℕ → Except (ReadError ε) (β × ℕ)}
    (hf : ∀ a q, q.toNat ≤ v.length.toNat → Follows v q (f (a, q)) (g a q.toNat)) :
    Follows v p (x >>= f) (match y with | .error e => .error e | .ok (a, q) => g a q) := by
  cases h with
  | rejected inside => exact .rejected inside
  | @ok is a q inside forward bounded covered =>
    have hrest := hf a q bounded
    rw [Access.ok_bind, Access.behind]
    dsimp only
    generalize f (a, q) = z at hrest
    generalize g a q.toNat = w at hrest
    cases hrest with
    | rejected inside' =>
      refine .rejected fun i hi => ?_
      rcases List.mem_append.mp hi with hi | hi
      · exact inside i hi
      · exact inside' i hi
    | @ok js b t inside' forward' bounded' covered' =>
      refine .ok (fun i hi => ?_) (forward.trans forward') bounded' fun i hle hlt => ?_
      · rcases List.mem_append.mp hi with hi | hi
        · exact inside i hi
        · exact inside' i hi
      · rw [List.mem_append]
        by_cases hi : i < v.base.toNat + q.toNat
        · exact .inl (covered i hle hi)
        · exact .inr (covered' i (Nat.le_of_not_lt hi) hlt)

theorem follows_named {r : Reader ε α} {d : List UInt8} {n : ℕ} {x : Access ε (α × UInt64)}
    (h : Follows v p x (r d n)) (reason : ε') :
    Follows v p (Access.named reason x) (Reader.named reason r d n) := by
  unfold Reader.named
  generalize r d n = y at h
  cases h with
  | ok inside forward bounded covered => exact .ok inside forward bounded covered
  | rejected inside => exact .rejected inside

/-- A program run in 64-bit arithmetic follows its reader. -/
theorem run_follows {r : Reader ε α} (P : Program r) (hv : v.Inside) {p : UInt64}
    (hp : p.toNat ≤ v.length.toNat) : Follows v p (P.run v p) (r v.bytes p.toNat) := by
  induction P generalizing p with
  | pure a => exact follows_pure hp a
  | reject reason => exact follows_reject reason
  | bytes reason k hk => exact follows_bytes hv hp reason hk
  | bind first rest ihfirst ihrest =>
    exact follows_bind (ihfirst hp) fun a q hq => ihrest a hq
  | named reason inner ih => exact follows_named (ih hp) reason
  | @ite ε α c decision r r' yes no ihyes ihno =>
    cases decision with
    | isTrue h => exact ihyes h hp
    | isFalse h => exact ihno h hp

/-- A run inside a computation: it rejects what its reader rejects, and otherwise has read all
bytes up to the position it goes on from. -/
theorem meets_run {r : Reader ε α} (P : Program r) (hv : v.Inside) {p : UInt64}
    (hp : p.toNat ≤ v.length.toNat) {seen : List ℕ} {f : α × UInt64 → Access ε β}
    {Q : List ℕ → β → Prop} {E : ε → Prop}
    (hrejected : ∀ e, r v.bytes p.toNat = .error (.rejected e) → E e)
    (hf : ∀ a q s, r v.bytes p.toNat = .ok (a, q.toNat) → q.toNat ≤ v.length.toNat →
      (∀ i ∈ seen, i ∈ s) →
      (∀ i, v.base.toNat + p.toNat ≤ i → i < v.base.toNat + q.toNat → i ∈ s) →
      Access.Meets v.data.length s (f (a, q)) Q E) :
    Access.Meets v.data.length seen (P.run v p >>= f) Q E := by
  have hfits := hv.fits
  have hfollows := run_follows P hv hp
  generalize P.run v p = x at hfollows
  have hx : Access.Meets v.data.length seen x (fun s a => r v.bytes p.toNat = .ok (a.1, a.2.toNat) ∧
      a.2.toNat ≤ v.length.toNat ∧ (∀ i ∈ seen, i ∈ s) ∧
      ∀ i, v.base.toNat + p.toNat ≤ i → i < v.base.toNat + a.2.toNat → i ∈ s) E := by
    generalize hy : r v.bytes p.toNat = y at hfollows
    cases hfollows with
    | ok inside forward bounded covered =>
      refine ⟨fun i hi => Nat.lt_of_lt_of_le (inside i hi) hfits, rfl, bounded, ?_, ?_⟩
      · exact fun i hi => List.mem_append_left _ hi
      · exact fun i hle hlt => List.mem_append_right _ (covered i hle hlt)
    | rejected inside =>
      exact ⟨fun i hi => Nat.lt_of_lt_of_le (inside i hi) hfits, hrejected _ hy⟩
  refine hx.bind ?_
  rintro s ⟨a, q⟩ ⟨hr, hq, hseen, hcovered⟩
  exact hf a q s hr hq hseen hcovered

end Program

end Reader
