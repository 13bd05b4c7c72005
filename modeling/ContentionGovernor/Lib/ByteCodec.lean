import Mathlib.Data.Nat.Basic
import Mathlib.Algebra.Order.Group.Nat
import Mathlib.Tactic.Ring

/-!
# Bounded readers over a byte buffer

A reader takes the buffer and a position.  It either rejects, or returns a value
and the next position, or has touched an index outside the buffer: that last
outcome is kept apart, so that memory safety is a statement.

* `Reads r bs a`: wherever the bytes `bs` stand, `r` reads them as `a`.
* `Refuses r bs`: wherever the bytes `bs` stand, `r` rejects them.
* `Accepts r P`: `r` stays inside the buffer, and what it returns satisfies `P`.
* `Rejects r E`: the reasons `r` rejects with satisfy `E`.
-/

inductive ReadError (ε : Type)
  | rejected (reason : ε)
  | outOfBounds

def Reader (ε α : Type) := List UInt8 → ℕ → Except (ReadError ε) (α × ℕ)

namespace Reader

variable {ε ε' α β : Type}

instance : Monad (Reader ε) where
  pure a := fun _ p => .ok (a, p)
  bind r f := fun d p =>
    match r d p with
    | .error e => .error e
    | .ok (a, q) => f a d q

def reject (reason : ε) : Reader ε α := fun _ _ => .error (.rejected reason)

/-- One access to the buffer. -/
def access (d : List UInt8) (i : ℕ) : Except (ReadError ε) UInt8 :=
  match d[i]? with
  | some b => .ok b
  | none => .error .outOfBounds

def accessMany (d : List UInt8) : ℕ → ℕ → Except (ReadError ε) (List UInt8)
  | _, 0 => .ok []
  | i, k + 1 => do
    let b ← access d i
    let bs ← accessMany d (i + 1) k
    return b :: bs

/-- The next `k` bytes, after a check that they are there. -/
def bytes (reason : ε) (k : ℕ) : Reader ε (List UInt8) := fun d p =>
  if d.length < p + k then .error (.rejected reason)
  else
    match accessMany d p k with
    | .error e => .error e
    | .ok bs => .ok (bs, p + k)

/-- Any rejection becomes the given one. -/
def named (reason : ε') (r : Reader ε α) : Reader ε' α := fun d p =>
  match r d p with
  | .ok x => .ok x
  | .error (.rejected _) => .error (.rejected reason)
  | .error .outOfBounds => .error .outOfBounds

/-- The reader run `n` times. -/
def times (r : Reader ε α) : ℕ → Reader ε (List α)
  | 0 => pure []
  | n + 1 => do
    let a ← r
    let as ← times r n
    pure (a :: as)

/-! ## Little-endian integers -/

def ofLittleEndian : List UInt8 → ℕ
  | [] => 0
  | b :: bs => b.toNat + 256 * ofLittleEndian bs

def littleEndian : ℕ → ℕ → List UInt8
  | 0, _ => []
  | k + 1, v => UInt8.ofNat v :: littleEndian k (v / 256)

@[simp] theorem length_littleEndian (k v : ℕ) : (littleEndian k v).length = k := by
  induction k generalizing v with
  | zero => rfl
  | succ k ih => simp [littleEndian, ih]

theorem ofLittleEndian_littleEndian (k v : ℕ) :
    ofLittleEndian (littleEndian k v) = v % 256 ^ k := by
  induction k generalizing v with
  | zero => simp [littleEndian, ofLittleEndian, Nat.mod_one]
  | succ k ih =>
    have hb : (UInt8.ofNat v).toNat = v % 256 := UInt8.toNat_ofNat'
    rw [littleEndian, ofLittleEndian, ih, hb, Nat.pow_succ', Nat.mod_mul]

theorem ofLittleEndian_lt (bs : List UInt8) : ofLittleEndian bs < 256 ^ bs.length := by
  induction bs with
  | nil => simp [ofLittleEndian]
  | cons b bs ih =>
    have hb := b.toNat_lt
    rw [ofLittleEndian, List.length_cons, pow_succ']
    omega

theorem littleEndian_ofLittleEndian (bs : List UInt8) :
    littleEndian bs.length (ofLittleEndian bs) = bs := by
  induction bs with
  | nil => rfl
  | cons b bs ih =>
    have hb := b.toNat_lt
    have hdiv : (b.toNat + 256 * ofLittleEndian bs) / 256 = ofLittleEndian bs := by omega
    rw [List.length_cons, ofLittleEndian, littleEndian, hdiv, ih]
    congr 1
    apply UInt8.toNat_inj.mp
    rw [UInt8.toNat_ofNat']
    omega

theorem ofLittleEndian_u32 (v : UInt32) :
    UInt32.ofNat (ofLittleEndian (littleEndian 4 v.toNat)) = v := by
  have hv : v.toNat % 256 ^ 4 = v.toNat := Nat.mod_eq_of_lt v.toNat_lt
  rw [ofLittleEndian_littleEndian, hv, UInt32.ofNat_toNat]

theorem u32_ofLittleEndian {bs : List UInt8} (h : bs.length = 4) :
    littleEndian 4 (UInt32.ofNat (ofLittleEndian bs)).toNat = bs := by
  have hlt := ofLittleEndian_lt bs
  rw [h] at hlt
  rw [UInt32.toNat_ofNat_of_lt' hlt, ← h, littleEndian_ofLittleEndian]

def u8 (reason : ε) : Reader ε UInt8 := do
  let bs ← bytes reason 1
  pure (UInt8.ofNat (ofLittleEndian bs))

def u32 (reason : ε) : Reader ε UInt32 := do
  let bs ← bytes reason 4
  pure (UInt32.ofNat (ofLittleEndian bs))

def u64 (reason : ε) : Reader ε UInt64 := do
  let bs ← bytes reason 8
  pure (UInt64.ofNat (ofLittleEndian bs))

/-- A list behind its length, which is checked against a limit first. -/
def counted (reason : ε) (limit : ℕ) (r : Reader ε α) : Reader ε (List α) := do
  let n ← u64 reason
  if limit < n.toNat then reject reason else times r n.toNat

/-! ## Buffer accesses -/

theorem accessMany_eq {d : List UInt8} {p k : ℕ} (h : p + k ≤ d.length) :
    accessMany (ε := ε) d p k = .ok ((d.drop p).take k) := by
  induction k generalizing p with
  | zero => simp [accessMany]
  | succ k ih =>
    have hp : p < d.length := by omega
    rw [accessMany, access, List.getElem?_eq_getElem hp, ih (by omega),
      List.drop_eq_getElem_cons hp, List.take_succ_cons]
    rfl

theorem bytes_eq {reason : ε} {d : List UInt8} {p k : ℕ} (h : p + k ≤ d.length) :
    bytes reason k d p = .ok ((d.drop p).take k, p + k) := by
  rw [bytes, if_neg (by omega), accessMany_eq h]

theorem bytes_short {reason : ε} {d : List UInt8} {p k : ℕ} (h : d.length < p + k) :
    bytes reason k d p = .error (.rejected reason) := if_pos h

theorem bind_apply (r : Reader ε α) (f : α → Reader ε β) (d : List UInt8) (p : ℕ) :
    (r >>= f) d p = match r d p with
      | .error e => .error e
      | .ok (a, q) => f a d q := rfl

/-! ## Reading what was written -/

def Reads (r : Reader ε α) (bs : List UInt8) (a : α) : Prop :=
  ∀ before after, r (before ++ (bs ++ after)) before.length =
    .ok (a, before.length + bs.length)

theorem Reads.pure (a : α) : Reads (Pure.pure a : Reader ε α) [] a := fun _ _ => rfl

theorem Reads.bind {r : Reader ε α} {f : α → Reader ε β} {bs cs : List UInt8} {a : α} {b : β}
    (h : Reads r bs a) (h' : Reads (f a) cs b) : Reads (r >>= f) (bs ++ cs) b := by
  intro before after
  have hr := h before (cs ++ after)
  have hf := h' (before ++ bs) after
  rw [bind_apply, List.append_assoc, hr]
  simpa [Nat.add_assoc] using hf

/-- The last value of a reader: nothing is read after it. -/
theorem Reads.map {r : Reader ε α} {f : α → β} {bs : List UInt8} {a : α} (h : Reads r bs a) :
    Reads (r >>= fun a => Pure.pure (f a)) bs (f a) := by
  have h' := h.bind (f := fun a => Pure.pure (f a)) (Reads.pure (f a))
  rwa [List.append_nil] at h'

theorem Reads.bytes (reason : ε) (bs : List UInt8) : Reads (bytes reason bs.length) bs bs := by
  intro before after
  rw [bytes_eq (by simp), List.drop_left, List.take_left]

theorem Reads.u8 (reason : ε) (v : UInt8) : Reads (u8 reason) [v] v := by
  have h := (Reads.bytes reason [v]).map (f := fun bs => UInt8.ofNat (ofLittleEndian bs))
  have hv : UInt8.ofNat (ofLittleEndian [v]) = v := by simp [ofLittleEndian]
  rw [hv] at h
  exact h

theorem Reads.u32 (reason : ε) (v : UInt32) :
    Reads (u32 reason) (littleEndian 4 v.toNat) v := by
  have h := (Reads.bytes reason (littleEndian 4 v.toNat)).map
    (f := fun bs => UInt32.ofNat (ofLittleEndian bs))
  have hv : v.toNat % 256 ^ 4 = v.toNat := Nat.mod_eq_of_lt v.toNat_lt
  rw [length_littleEndian, ofLittleEndian_littleEndian, hv, UInt32.ofNat_toNat] at h
  exact h

theorem Reads.u64 (reason : ε) (v : UInt64) :
    Reads (u64 reason) (littleEndian 8 v.toNat) v := by
  have h := (Reads.bytes reason (littleEndian 8 v.toNat)).map
    (f := fun bs => UInt64.ofNat (ofLittleEndian bs))
  have hv : v.toNat % 256 ^ 8 = v.toNat := Nat.mod_eq_of_lt v.toNat_lt
  rw [length_littleEndian, ofLittleEndian_littleEndian, hv, UInt64.ofNat_toNat] at h
  exact h

theorem Reads.named {r : Reader ε α} {bs : List UInt8} {a : α} (reason : ε')
    (h : Reads r bs a) : Reads (named reason r) bs a := by
  intro before after
  rw [Reader.named, h]

theorem Reads.times {r : Reader ε α} {write : α → List UInt8} {as : List α}
    (h : ∀ a ∈ as, Reads r (write a) a) : Reads (times r as.length) (as.flatMap write) as := by
  induction as with
  | nil => exact Reads.pure []
  | cons a as ih =>
    have ha := h a List.mem_cons_self
    have has := ih fun b hb => h b (List.mem_cons_of_mem _ hb)
    exact ha.bind (has.map (f := fun as => a :: as))

theorem Reads.length (reason : ε) {n : ℕ} (h : n < 2 ^ 64) :
    Reads (Reader.u64 reason) (littleEndian 8 n) (UInt64.ofNat n) := by
  have hu := Reads.u64 reason (UInt64.ofNat n)
  rwa [UInt64.toNat_ofNat_of_lt' h] at hu

theorem Reads.counted {reason : ε} {limit : ℕ} {r : Reader ε α} {write : α → List UInt8}
    {as : List α} (h : ∀ a ∈ as, Reads r (write a) a) (hlen : as.length ≤ limit)
    (hlimit : limit < 2 ^ 64) :
    Reads (counted reason limit r) (littleEndian 8 as.length ++ as.flatMap write) as := by
  have hn : (UInt64.ofNat as.length).toNat = as.length :=
    UInt64.toNat_ofNat_of_lt' (Nat.lt_of_le_of_lt hlen hlimit)
  refine (Reads.length reason (by omega)).bind ?_
  rw [hn, if_neg (by omega)]
  exact Reads.times h

/-- One field of a record: its bytes come first, the other fields follow. -/
theorem Reads.field {r : Reader ε α} {f : α → Reader ε β} {bs : List UInt8}
    {rest : List (List UInt8)} {a : α} {b : β} (h : Reads r bs a)
    (h' : Reads (f a) rest.flatten b) : Reads (r >>= f) (bs :: rest).flatten b := h.bind h'

theorem Reads.finish (a : α) : Reads (Pure.pure a : Reader ε α) (List.flatten []) a :=
  Reads.pure a

/-! ## Refusing what was written -/

def Refuses (r : Reader ε α) (bs : List UInt8) : Prop :=
  ∀ before after, ∃ e, r (before ++ (bs ++ after)) before.length = .error (.rejected e)

theorem Refuses.reject (reason : ε) (bs : List UInt8) : Refuses (reject reason : Reader ε α) bs :=
  fun _ _ => ⟨reason, rfl⟩

/-- A refused first part is refused with all that follows. -/
theorem Refuses.bind {r : Reader ε α} (f : α → Reader ε β) {bs : List UInt8} (h : Refuses r bs)
    (cs : List UInt8) : Refuses (r >>= f) (bs ++ cs) := by
  intro before after
  obtain ⟨e, he⟩ := h before (cs ++ after)
  refine ⟨e, ?_⟩
  rw [bind_apply, List.append_assoc, he]

theorem Reads.bind_refuses {r : Reader ε α} {f : α → Reader ε β} {bs cs : List UInt8} {a : α}
    (h : Reads r bs a) (h' : Refuses (f a) cs) : Refuses (r >>= f) (bs ++ cs) := by
  intro before after
  have hr := h before (cs ++ after)
  obtain ⟨e, he⟩ := h' (before ++ bs) after
  refine ⟨e, ?_⟩
  rw [bind_apply, List.append_assoc, hr]
  simpa [Nat.add_assoc] using he

theorem Refuses.named {r : Reader ε α} {bs : List UInt8} (reason : ε') (h : Refuses r bs) :
    Refuses (named reason r) bs := by
  intro before after
  obtain ⟨e, he⟩ := h before after
  exact ⟨reason, by rw [Reader.named, he]⟩

/-- A count above the limit. -/
theorem refuses_long {reason : ε} {limit n : ℕ} (r : Reader ε α) (hlong : limit < n)
    (hn : n < 2 ^ 64) (bs : List UInt8) :
    Refuses (counted reason limit r) (littleEndian 8 n ++ bs) := by
  refine (Reads.length reason hn).bind_refuses ?_
  rw [UInt64.toNat_ofNat_of_lt' hn, if_pos hlong]
  exact Refuses.reject reason bs

/-- A refused element behind a count that is read. -/
theorem Refuses.counted (reason : ε) {limit n : ℕ} {r : Reader ε α} {bs : List UInt8}
    (h : Refuses r bs) (hpos : n + 1 ≤ limit) (hn : limit < 2 ^ 64) (cs : List UInt8) :
    Refuses (counted reason limit r) (littleEndian 8 (n + 1) ++ (bs ++ cs)) := by
  have hlt : n + 1 < 2 ^ 64 := by omega
  refine (Reads.length reason hlt).bind_refuses ?_
  rw [UInt64.toNat_ofNat_of_lt' hlt, if_neg (by omega)]
  exact h.bind _ cs

/-- A refused field of a record. -/
theorem Refuses.field {r : Reader ε α} (f : α → Reader ε β) {bs : List UInt8} (h : Refuses r bs)
    (rest : List (List UInt8)) : Refuses (r >>= f) (bs :: rest).flatten := h.bind f rest.flatten

theorem Reads.field_refuses {r : Reader ε α} {f : α → Reader ε β} {bs : List UInt8}
    {rest : List (List UInt8)} {a : α} (h : Reads r bs a) (h' : Refuses (f a) rest.flatten) :
    Refuses (r >>= f) (bs :: rest).flatten := h.bind_refuses h'

/-! ## What an accepted buffer yields -/

def Accepts (r : Reader ε α) (P : α → Prop) : Prop :=
  ∀ d p, p ≤ d.length → (∃ e, r d p = .error (.rejected e)) ∨
    ∃ a q, r d p = .ok (a, q) ∧ p ≤ q ∧ q ≤ d.length ∧ P a

theorem Accepts.pure {P : α → Prop} {a : α} (h : P a) :
    Accepts (Pure.pure a : Reader ε α) P :=
  fun _ p hp => .inr ⟨a, p, rfl, Nat.le_refl _, hp, h⟩

theorem Accepts.reject (reason : ε) (P : α → Prop) : Accepts (reject reason) P :=
  fun _ _ _ => .inl ⟨reason, rfl⟩

theorem Accepts.bind {r : Reader ε α} {f : α → Reader ε β} {P : α → Prop} {Q : β → Prop}
    (h : Accepts r P) (h' : ∀ a, P a → Accepts (f a) Q) : Accepts (r >>= f) Q := by
  intro d p hp
  rcases h d p hp with ⟨e, he⟩ | ⟨a, q, hr, hpq, hq, ha⟩
  · exact .inl ⟨e, by rw [bind_apply, he]⟩
  · rcases h' a ha d q hq with ⟨e, he⟩ | ⟨b, t, hf, hqt, ht, hb⟩
    · exact .inl ⟨e, by rw [bind_apply, hr]; exact he⟩
    · exact .inr ⟨b, t, by rw [bind_apply, hr]; exact hf, hpq.trans hqt, ht, hb⟩

theorem Accepts.mono {r : Reader ε α} {P Q : α → Prop} (h : Accepts r P)
    (hPQ : ∀ a, P a → Q a) : Accepts r Q := by
  intro d p hp
  rcases h d p hp with he | ⟨a, q, hr, hpq, hq, ha⟩
  · exact .inl he
  · exact .inr ⟨a, q, hr, hpq, hq, hPQ a ha⟩

theorem Accepts.ite {c : Prop} [Decidable c] {r r' : Reader ε α} {P : α → Prop}
    (h : c → Accepts r P) (h' : ¬c → Accepts r' P) : Accepts (if c then r else r') P := by
  split_ifs with hc
  · exact h hc
  · exact h' hc

theorem Accepts.bytes (reason : ε) (k : ℕ) :
    Accepts (bytes reason k) fun bs => bs.length = k := by
  intro d p hp
  by_cases h : p + k ≤ d.length
  · refine .inr ⟨_, _, bytes_eq h, by omega, h, ?_⟩
    simp only [List.length_take, List.length_drop]
    omega
  · exact .inl ⟨reason, bytes_short (by omega)⟩

theorem Accepts.u8 (reason : ε) : Accepts (u8 reason) fun _ => True :=
  (Accepts.bytes reason 1).bind fun _ _ => Accepts.pure trivial

theorem Accepts.u32 (reason : ε) : Accepts (u32 reason) fun _ => True :=
  (Accepts.bytes reason 4).bind fun _ _ => Accepts.pure trivial

theorem Accepts.u64 (reason : ε) : Accepts (u64 reason) fun _ => True :=
  (Accepts.bytes reason 8).bind fun _ _ => Accepts.pure trivial

theorem Accepts.named {r : Reader ε α} {P : α → Prop} (reason : ε') (h : Accepts r P) :
    Accepts (named reason r) P := by
  intro d p hp
  rcases h d p hp with ⟨e, he⟩ | ⟨a, q, hr, rest⟩
  · exact .inl ⟨reason, by rw [Reader.named, he]⟩
  · exact .inr ⟨a, q, by rw [Reader.named, hr], rest⟩

theorem Accepts.times {r : Reader ε α} {P : α → Prop} (h : Accepts r P) (n : ℕ) :
    Accepts (times r n) fun as => as.length = n ∧ ∀ a ∈ as, P a := by
  induction n with
  | zero => exact Accepts.pure ⟨rfl, by simp⟩
  | succ n ih =>
    refine h.bind fun a ha => ih.bind fun as has => Accepts.pure ⟨by simp [has.1], ?_⟩
    intro b hb
    rcases List.mem_cons.mp hb with rfl | hb
    · exact ha
    · exact has.2 b hb

theorem Accepts.counted {r : Reader ε α} {P : α → Prop} (reason : ε) (limit : ℕ)
    (h : Accepts r P) :
    Accepts (counted reason limit r) fun as => as.length ≤ limit ∧ ∀ a ∈ as, P a := by
  refine (Accepts.u64 reason).bind fun n _ => Accepts.ite (fun _ => Accepts.reject _ _) ?_
  intro hn
  refine (h.times n.toNat).mono fun as has => ⟨?_, has.2⟩
  rw [has.1]
  exact Nat.le_of_not_lt hn

/-! ## Reasons of rejection -/

def Rejects (r : Reader ε α) (E : ε → Prop) : Prop :=
  ∀ d p e, r d p = .error (.rejected e) → E e

variable {E : ε → Prop}

theorem Rejects.pure (a : α) : Rejects (Pure.pure a : Reader ε α) E := by
  intro d p e h
  cases h

theorem Rejects.reject {reason : ε} (h : E reason) : Rejects (reject reason : Reader ε α) E := by
  intro d p e he
  cases he
  exact h

theorem Rejects.bind {r : Reader ε α} {f : α → Reader ε β} (h : Rejects r E)
    (h' : ∀ a, Rejects (f a) E) : Rejects (r >>= f) E := by
  intro d p e he
  rw [bind_apply] at he
  cases hr : r d p with
  | error e' =>
    rw [hr] at he
    cases he
    exact h d p e hr
  | ok x =>
    rw [hr] at he
    exact h' x.1 d x.2 e he

theorem Rejects.ite {c : Prop} [Decidable c] {r r' : Reader ε α} (h : Rejects r E)
    (h' : Rejects r' E) : Rejects (if c then r else r') E := by
  split_ifs
  · exact h
  · exact h'

theorem Rejects.bytes {reason : ε} (h : E reason) (k : ℕ) : Rejects (bytes reason k) E := by
  intro d p e he
  by_cases hk : p + k ≤ d.length
  · rw [bytes_eq hk] at he
    cases he
  · rw [bytes_short (by omega)] at he
    cases he
    exact h

theorem Rejects.u32 {reason : ε} (h : E reason) : Rejects (u32 reason) E :=
  (Rejects.bytes h 4).bind fun _ => Rejects.pure _

theorem Rejects.u64 {reason : ε} (h : E reason) : Rejects (u64 reason) E :=
  (Rejects.bytes h 8).bind fun _ => Rejects.pure _

theorem Rejects.named {r : Reader ε' α} {reason : ε} (h : E reason) :
    Rejects (named reason r) E := by
  intro d p e he
  unfold Reader.named at he
  split at he <;> cases he
  exact h

theorem Rejects.times {r : Reader ε α} (h : Rejects r E) (n : ℕ) : Rejects (times r n) E := by
  induction n with
  | zero => exact Rejects.pure []
  | succ n ih => exact h.bind fun _ => ih.bind fun _ => Rejects.pure _

theorem Rejects.counted {r : Reader ε α} {reason : ε} (hreason : E reason) (limit : ℕ)
    (h : Rejects r E) : Rejects (counted reason limit r) E :=
  (Rejects.u64 hreason).bind fun n => (Rejects.reject hreason).ite (h.times n.toNat)

end Reader
