import Mathlib.Data.List.Basic
import Mathlib.Order.Basic

/-!
# Frames in a stream

Frames are words over an alphabet, and a reader looks for one at the front of a
buffer.  A receiver fills its buffer with the chunks that a stream arrives in,
up to a limit, until the reader finds a frame.
-/

/-- A reader that finds exactly the words of valid frames, and waits at the proper
prefixes of one. -/
structure Framing (α φ ε : Type*) where
  word : φ → List α
  Valid : φ → Prop
  peek : List α → Except ε (Option (φ × List α))
  word_ne_nil : ∀ f, word f ≠ []
  peek_eq_some : ∀ b f rest, peek b = .ok (some (f, rest)) ↔ Valid f ∧ b = word f ++ rest
  peek_partial : ∀ b c f, Valid f → b ++ c = word f → c ≠ [] → peek b = .ok none

namespace Framing

variable {α φ ε : Type*} (F : Framing α φ ε)

def stream (fs : List φ) : List α := fs.flatMap F.word

variable {F} {f g : φ} {fs gs : List φ} {a b : List α}

@[simp] theorem stream_nil : F.stream [] = [] := rfl

@[simp] theorem stream_cons : F.stream (f :: fs) = F.word f ++ F.stream fs := rfl

@[simp] theorem stream_append : F.stream (fs ++ gs) = F.stream fs ++ F.stream gs :=
  List.flatMap_append

/-- No valid word begins another one. -/
theorem word_append_inj (hf : F.Valid f) (hg : F.Valid g) (h : F.word f ++ a = F.word g ++ b) :
    f = g ∧ a = b := by
  have hpeek := (F.peek_eq_some _ f a).mpr ⟨hf, rfl⟩
  rw [h, (F.peek_eq_some _ g b).mpr ⟨hg, rfl⟩] at hpeek
  simp only [Except.ok.injEq, Option.some.injEq, Prod.mk.injEq] at hpeek
  exact ⟨hpeek.1.symm, hpeek.2.symm⟩

/-- A stream is read in one way only. -/
theorem stream_injective (hfs : ∀ f ∈ fs, F.Valid f) (hgs : ∀ g ∈ gs, F.Valid g)
    (h : F.stream fs = F.stream gs) : fs = gs := by
  induction fs generalizing gs with
  | nil =>
    cases gs with
    | nil => rfl
    | cons g gs =>
      rw [stream_nil, stream_cons] at h
      exact absurd (List.append_eq_nil_iff.mp h.symm).1 (F.word_ne_nil g)
  | cons f fs ih =>
    cases gs with
    | nil =>
      rw [stream_nil, stream_cons] at h
      exact absurd (List.append_eq_nil_iff.mp h).1 (F.word_ne_nil f)
    | cons g gs =>
      rw [List.forall_mem_cons] at hfs hgs
      obtain ⟨rfl, htail⟩ := word_append_inj hfs.1 hgs.1 h
      rw [ih hfs.2 hgs.2 htail]

/-- A buffer shorter than the first word of the stream it begins is read no further. -/
theorem peek_short {c : List α} (hf : F.Valid f) (h : b ++ a = F.word f ++ c)
    (hlen : b.length < (F.word f).length) : F.peek b = .ok none := by
  -- Otherwise the whole word would be a part of the buffer.
  obtain ⟨c, hc, -⟩ := List.append_eq_append_iff.mp h |>.resolve_right (by
    rintro ⟨c, hb, -⟩
    rw [hb, List.length_append] at hlen
    omega)
  refine F.peek_partial b c f hf hc.symm ?_
  rintro rfl
  rw [hc, List.append_nil] at hlen
  exact Nat.lt_irrefl _ hlen

/-! ## The receiver -/

variable (F) (limit : ℕ) (full : ε) (ended : List α → ε)

/-- One call: the frame at the front of the buffer, after as many chunks as it takes, then
the buffer and the chunks left. -/
def pull : List (List α) → List α → Except ε φ × List α × List (List α)
  | [], buf =>
    match F.peek buf with
    | .error e => (.error e, buf, [])
    | .ok (some (f, rest)) => (.ok f, rest, [])
    | .ok none => (.error (ended buf), buf, [])
  | chunk :: chunks, buf =>
    match F.peek buf with
    | .error e => (.error e, buf, chunk :: chunks)
    | .ok (some (f, rest)) => (.ok f, rest, chunk :: chunks)
    | .ok none =>
      if limit < (buf ++ chunk).length then (.error full, buf ++ chunk, chunks)
      else pull chunks (buf ++ chunk)

/-- The results of successive calls. -/
def pulls : ℕ → List (List α) → List α → List (Except ε φ)
  | 0, _, _ => []
  | n + 1, chunks, buf =>
    let r := F.pull limit full ended chunks buf
    r.1 :: pulls n r.2.2 r.2.1

/-- The length of the frames that lie wholly within the first `n` places of their stream. -/
def whole : List φ → ℕ → ℕ
  | [], _ => 0
  | f :: fs, n =>
    if (F.word f).length ≤ n then (F.word f).length + whole fs (n - (F.word f).length) else 0

/-- After `n` places, each chunk leaves no more than the limit beyond the frames that were
whole before it. -/
def Roomy (fs : List φ) : ℕ → List (List α) → Prop
  | _, [] => True
  | n, chunk :: chunks =>
    n + chunk.length ≤ F.whole fs n + limit ∧ Roomy fs (n + chunk.length) chunks

variable {F limit full ended} {chunks : List (List α)} {buf : List α} {n : ℕ}

theorem pull_of_peek {rest : List α} (h : F.peek buf = .ok (some (f, rest))) :
    F.pull limit full ended chunks buf = (.ok f, rest, chunks) := by
  cases chunks <;> rw [pull, h]

theorem pull_chunk {chunk : List α} (h : F.peek buf = .ok none)
    (hroom : (buf ++ chunk).length ≤ limit) :
    F.pull limit full ended (chunk :: chunks) buf =
      F.pull limit full ended chunks (buf ++ chunk) := by
  rw [pull, h]
  exact if_neg (Nat.not_lt.mpr hroom)

theorem pull_full {chunk : List α} (h : F.peek buf = .ok none)
    (hroom : limit < (buf ++ chunk).length) :
    F.pull limit full ended (chunk :: chunks) buf = (.error full, buf ++ chunk, chunks) := by
  rw [pull, h]
  exact if_pos hroom

/-- A first frame that has arrived is out of the way. -/
theorem roomy_cons (h : (F.word f).length ≤ n) :
    F.Roomy limit (f :: fs) n chunks ↔ F.Roomy limit fs (n - (F.word f).length) chunks := by
  induction chunks generalizing n with
  | nil => rfl
  | cons chunk chunks ih =>
    have hnext : n + chunk.length - (F.word f).length =
        n - (F.word f).length + chunk.length := by omega
    rw [Roomy, Roomy, ih (Nat.le_trans h (Nat.le_add_right _ _)), hnext, whole, if_pos h]
    refine and_congr_left fun _ => ?_
    omega

theorem pulls_succ (k : ℕ) : F.pulls limit full ended (k + 1) chunks buf =
    (F.pull limit full ended chunks buf).1 ::
      F.pulls limit full ended k (F.pull limit full ended chunks buf).2.2
        (F.pull limit full ended chunks buf).2.1 := rfl

/-- The room for some chunks is the room for each part of them in turn. -/
theorem roomy_append {as bs : List (List α)} :
    F.Roomy limit fs n (as ++ bs) ↔
      F.Roomy limit fs n as ∧ F.Roomy limit fs (n + as.flatten.length) bs := by
  induction as generalizing n with
  | nil => exact (and_iff_right trivial).symm
  | cons a as ih =>
    rw [List.cons_append, Roomy, Roomy, ih, List.flatten_cons, List.length_append, Nat.add_assoc,
      and_assoc]

/-- With the first frame in the buffer a call returns it and reads nothing. -/
theorem pulls_front (k : ℕ) (hf : F.Valid f) :
    F.pulls limit full ended (k + 1) chunks (F.word f ++ buf) =
      .ok f :: F.pulls limit full ended k chunks buf := by
  have hpeek := (F.peek_eq_some _ f buf).mpr ⟨hf, rfl⟩
  rw [pulls_succ, pull_of_peek hpeek]

/-- A stream that starts with a frame no longer than the buffer has it in the buffer. -/
theorem exists_rest {c : List α} (h : buf ++ c = F.word f ++ b)
    (hlen : (F.word f).length ≤ buf.length) : ∃ rest, buf = F.word f ++ rest ∧ rest ++ c = b := by
  rcases List.append_eq_append_iff.mp h with ⟨x, hx, rfl⟩ | ⟨x, rfl, rfl⟩
  · have hnil : x = [] := by
      rw [hx, List.length_append] at hlen
      exact List.length_eq_zero_iff.mp (by omega)
    subst hnil
    exact ⟨[], by simpa using hx.symm, rfl⟩
  · exact ⟨x, rfl, rfl⟩

/-- The calls return the frames of the stream exactly when there is room for each chunk. -/
theorem pulls_eq_iff (hfs : ∀ f ∈ fs, F.Valid f) (hchunks : ∀ chunk ∈ chunks, chunk ≠ [])
    (h : buf ++ chunks.flatten = F.stream fs) :
    F.pulls limit full ended fs.length chunks buf = fs.map .ok ↔
      F.Roomy limit fs buf.length chunks := by
  -- Each call takes a frame off or a chunk in: induction on the chunks, then on the frames.
  induction chunks generalizing buf fs with
  | nil =>
    refine iff_of_true ?_ trivial
    induction fs generalizing buf with
    | nil => rfl
    | cons f fs ih =>
      rw [List.forall_mem_cons] at hfs
      rw [List.flatten_nil, List.append_nil, stream_cons] at h
      rw [h, List.length_cons, pulls_front _ hfs.1, ih hfs.2 (List.append_nil _), List.map_cons]
  | cons chunk chunks ih =>
    rw [List.forall_mem_cons] at hchunks
    rw [List.flatten_cons] at h
    induction fs generalizing buf with
    | nil =>
      rw [stream_nil] at h
      have hchunk := (List.append_eq_nil_iff.mp (List.append_eq_nil_iff.mp h).2).1
      exact absurd hchunk hchunks.1
    | cons f fs ihf =>
      have hvalid := List.forall_mem_cons.mp hfs
      rw [stream_cons] at h
      by_cases hlen : (F.word f).length ≤ buf.length
      · -- The first frame is in the buffer: a call returns it and reads nothing.
        obtain ⟨rest, rfl, hrest⟩ := exists_rest h hlen
        have hsub : (F.word f ++ rest).length - (F.word f).length = rest.length := by
          rw [List.length_append]
          omega
        rw [List.length_cons, pulls_front _ hvalid.1, List.map_cons, List.cons_inj_right,
          ihf hvalid.2 hrest, roomy_cons hlen, hsub]
      · -- It is not, so the call reads the next chunk and the guard decides.
        have hpeek := peek_short hvalid.1 h (Nat.lt_of_not_le hlen)
        have hwhole : F.whole (f :: fs) buf.length = 0 := by rw [whole, if_neg hlen]
        rw [Roomy, hwhole, Nat.zero_add, ← List.length_append]
        by_cases hroom : (buf ++ chunk).length ≤ limit
        · rw [List.length_cons, pulls_succ, pull_chunk hpeek hroom, ← pulls_succ,
            ← List.length_cons, ih hfs hchunks.2 (by rw [List.append_assoc, h, stream_cons])]
          exact (and_iff_right hroom).symm
        · rw [List.length_cons, pulls_succ, pull_full hpeek (Nat.lt_of_not_le hroom),
            List.map_cons]
          refine iff_of_false (fun heq => ?_) fun hroomy => hroom hroomy.1
          cases (List.cons_eq_cons.mp heq).1

/-! ## Torn streams

A stream that is still being written ends within a word.  `g` is the frame of that word and
`t` what is there of it. -/

variable {t rest : List α}

/-- A buffer at the front of such a stream holds its first frame, or ends within a word. -/
theorem peek_next (hvalid : ∀ f ∈ g :: fs, F.Valid f) (htorn : ∃ c, c ≠ [] ∧ t ++ c = F.word g)
    (h : buf ++ rest = F.stream fs ++ t) :
    (∃ f fs' buf', fs = f :: fs' ∧ F.peek buf = .ok (some (f, buf')) ∧
      buf' ++ rest = F.stream fs' ++ t) ∨
    F.peek buf = .ok none ∧ ∃ f ∈ g :: fs, buf.length < (F.word f).length := by
  rw [List.forall_mem_cons] at hvalid
  cases fs with
  | nil =>
    obtain ⟨c, hc, hword⟩ := htorn
    rw [stream_nil, List.nil_append] at h
    rw [← h, List.append_assoc] at hword
    have hrest : rest ++ c ≠ [] := fun hnil => hc (List.append_eq_nil_iff.mp hnil).2
    refine .inr ⟨F.peek_partial buf _ g hvalid.1 hword hrest, g, List.mem_cons_self, ?_⟩
    have hpos := List.length_pos_of_ne_nil hrest
    rw [← hword, List.length_append]
    omega
  | cons f fs =>
    have hf := hvalid.2 f List.mem_cons_self
    rw [stream_cons, List.append_assoc] at h
    by_cases hlen : (F.word f).length ≤ buf.length
    · obtain ⟨buf', rfl, hbuf'⟩ := exists_rest h hlen
      exact .inl ⟨f, fs, buf', rfl, (F.peek_eq_some _ f buf').mpr ⟨hf, rfl⟩, hbuf'⟩
    · have hshort := Nat.lt_of_not_le hlen
      exact .inr ⟨peek_short hf h hshort, f, by simp, hshort⟩

variable (F limit full ended) (waits : ε)

/-- One call that does not wait: the frame at the front of the buffer, or at most one chunk
into it. -/
def poll (chunks : List (List α)) (buf : List α) : Except ε φ × List α × List (List α) :=
  match F.peek buf with
  | .error e => (.error e, buf, chunks)
  | .ok (some (f, rest)) => (.ok f, rest, chunks)
  | .ok none =>
    match chunks with
    | [] => (.error (ended buf), buf, [])
    | chunk :: chunks =>
      if limit < (buf ++ chunk).length then (.error full, buf ++ chunk, chunks)
      else (.error waits, buf ++ chunk, chunks)

def call (blocking : Bool) (chunks : List (List α)) (buf : List α) :
    Except ε φ × List α × List (List α) :=
  if blocking then F.pull limit full ended chunks buf
  else F.poll limit full ended waits chunks buf

/-- The results of successive calls, each blocking or not. -/
def calls : List Bool → List (List α) → List α → List (Except ε φ)
  | [], _, _ => []
  | blocking :: bs, chunks, buf =>
    let r := F.call limit full ended waits blocking chunks buf
    r.1 :: calls bs r.2.2 r.2.1

variable {F limit full ended waits}

/-- The frames among the results. -/
def returned (rs : List (Except ε φ)) : List φ := rs.filterMap Except.toOption

@[simp] theorem returned_nil : returned ([] : List (Except ε φ)) = [] := rfl

@[simp] theorem returned_ok (rs : List (Except ε φ)) :
    returned (.ok f :: rs) = f :: returned rs := rfl

@[simp] theorem returned_error (e : ε) (rs : List (Except ε φ)) :
    returned (.error e :: rs : List (Except ε φ)) = returned rs := rfl

variable (F limit) in
/-- What is buffered and what is to come of a torn stream, where the buffer takes each chunk
behind any part of a word. -/
structure Arriving (g : φ) (t : List α) (fs : List φ) (chunks : List (List α)) (buf : List α) :
    Prop where
  valid : ∀ f ∈ g :: fs, F.Valid f
  room : ∀ f ∈ g :: fs, ∀ chunk ∈ chunks, (F.word f).length + chunk.length ≤ limit + 1
  torn : ∃ c, c ≠ [] ∧ t ++ c = F.word g
  split : buf ++ chunks.flatten = F.stream fs ++ t

namespace Arriving

theorem peek (h : F.Arriving limit g t fs chunks buf) :
    (∃ f fs' buf', fs = f :: fs' ∧ F.peek buf = .ok (some (f, buf')) ∧
      F.Arriving limit g t fs' chunks buf') ∨
    F.peek buf = .ok none ∧ ∃ f ∈ g :: fs, buf.length < (F.word f).length := by
  rcases peek_next h.valid h.torn h.split with ⟨f, fs', buf', rfl, hpeek, hsplit⟩ | hnone
  · refine .inl ⟨f, fs', buf', rfl, hpeek, ?_, ?_, h.torn, hsplit⟩
    · exact fun a ha => h.valid a (List.cons_subset_cons g (List.subset_cons_self f fs') ha)
    · exact fun a ha => h.room a (List.cons_subset_cons g (List.subset_cons_self f fs') ha)
  · exact .inr hnone

/-- A chunk behind a part of a word fits. -/
theorem chunk {chunk : List α} (h : F.Arriving limit g t fs (chunk :: chunks) buf)
    (hpart : ∃ f ∈ g :: fs, buf.length < (F.word f).length) :
    (buf ++ chunk).length ≤ limit ∧ F.Arriving limit g t fs chunks (buf ++ chunk) := by
  obtain ⟨f, hf, hlen⟩ := hpart
  have hroom := h.room f hf chunk List.mem_cons_self
  refine ⟨?_, h.valid, ?_, h.torn, ?_⟩
  · rw [List.length_append]
    omega
  · exact fun a ha c hc => h.room a ha c (List.mem_cons_of_mem chunk hc)
  · rw [List.append_assoc, ← h.split, List.flatten_cons]

/-- With no chunk to come, only the torn word is left behind the frames. -/
theorem last (h : F.Arriving limit g t fs [] buf) (hpeek : F.peek buf = .ok none) :
    fs = [] ∧ buf = t := by
  have hsplit := h.split
  rw [List.flatten_nil, List.append_nil] at hsplit
  cases fs with
  | nil => exact ⟨rfl, hsplit⟩
  | cons f fs =>
    rw [stream_cons, List.append_assoc] at hsplit
    rw [(F.peek_eq_some _ f _).mpr ⟨h.valid f (by simp), hsplit⟩] at hpeek
    cases hpeek

/-- A call returns the first frame, says that it would wait and takes a chunk, or ends at the
torn word. -/
theorem call (blocking : Bool) (h : F.Arriving limit g t fs chunks buf) :
    (∃ f fs' buf' chunks', fs = f :: fs' ∧ chunks'.length ≤ chunks.length ∧
      F.call limit full ended waits blocking chunks buf = (.ok f, buf', chunks') ∧
      F.Arriving limit g t fs' chunks' buf') ∨
    (∃ buf' chunks', chunks'.length < chunks.length ∧
      F.call limit full ended waits blocking chunks buf = (.error waits, buf', chunks') ∧
      F.Arriving limit g t fs chunks' buf') ∨
    fs = [] ∧ F.call limit full ended waits blocking chunks buf = (.error (ended t), t, []) ∧
      F.Arriving limit g t [] [] t := by
  unfold Framing.call
  cases blocking with
  | true =>
    rw [if_pos rfl]
    -- A blocking call goes on until a frame is there: induction on the chunks.
    induction chunks generalizing buf with
    | nil =>
      rcases h.peek with ⟨f, fs', buf', hfs, hpeek, hrest⟩ | ⟨hpeek, -⟩
      · exact .inl ⟨f, fs', buf', [], hfs, Nat.le_refl _, pull_of_peek hpeek, hrest⟩
      · obtain ⟨rfl, rfl⟩ := h.last hpeek
        refine .inr (.inr ⟨rfl, ?_, h⟩)
        rw [pull, hpeek]
    | cons chunk chunks ih =>
      rcases h.peek with ⟨f, fs', buf', hfs, hpeek, hrest⟩ | ⟨hpeek, hpart⟩
      · exact .inl ⟨f, fs', buf', _, hfs, Nat.le_refl _, pull_of_peek hpeek, hrest⟩
      · obtain ⟨hroom, hnext⟩ := h.chunk hpart
        rw [pull_chunk hpeek hroom]
        rcases ih hnext with ⟨f, fs', buf', cs, hfs, hlen, hcall⟩ | ⟨buf', cs, hlen, hcall⟩ | hend
        · exact .inl ⟨f, fs', buf', cs, hfs, Nat.le_succ_of_le hlen, hcall⟩
        · exact .inr (.inl ⟨buf', cs, Nat.lt_succ_of_lt hlen, hcall⟩)
        · exact .inr (.inr hend)
  | false =>
    rw [if_neg Bool.false_ne_true]
    unfold poll
    rcases h.peek with ⟨f, fs', buf', hfs, hpeek, hrest⟩ | ⟨hpeek, hpart⟩
    · rw [hpeek]
      exact .inl ⟨f, fs', buf', chunks, hfs, Nat.le_refl _, rfl, hrest⟩
    · rw [hpeek]
      cases chunks with
      | nil =>
        obtain ⟨rfl, rfl⟩ := h.last hpeek
        exact .inr (.inr ⟨rfl, rfl, h⟩)
      | cons chunk chunks =>
        obtain ⟨hroom, hnext⟩ := h.chunk hpart
        refine .inr (.inl ⟨buf ++ chunk, chunks, Nat.lt_succ_self _, ?_, hnext⟩)
        exact if_neg (Nat.not_lt.mpr hroom)

/-- Calls of either kind return the frames in order, all of them once there are as many calls
as frames and chunks.  They fail where a call would wait, and at the end of the stream. -/
theorem calls (bs : List Bool) (h : F.Arriving limit g t fs chunks buf) :
    let rs := F.calls limit full ended waits bs chunks buf
    returned rs <+: fs ∧
    (fs.length + chunks.length ≤ bs.length → returned rs = fs) ∧
    ∀ pre e post, rs = pre ++ .error e :: post →
      e = waits ∨ e = ended t ∧ returned pre = fs := by
  induction bs generalizing fs chunks buf with
  | nil =>
    refine ⟨List.nil_prefix, fun hlen => ?_, fun pre e post hrs => ?_⟩
    · rw [List.length_nil] at hlen
      exact (List.length_eq_zero_iff.mp (by omega)).symm
    · exact absurd hrs (by simp [Framing.calls])
  | cons b bs ih =>
    rw [Framing.calls]
    rcases h.call b with
      ⟨f, fs', buf', cs, rfl, hcs, hcall, hnext⟩ | ⟨buf', cs, hcs, hcall, hnext⟩ |
      ⟨rfl, hcall, hnext⟩
    all_goals
      rw [hcall]
      obtain ⟨hpre, hall, herror⟩ := ih hnext
      dsimp only
    · refine ⟨?_, fun hlen => ?_, fun pre e post hrs => ?_⟩
      · exact List.cons_prefix_cons.mpr ⟨rfl, hpre⟩
      · rw [List.length_cons, List.length_cons] at hlen
        rw [returned_ok, hall (by omega)]
      · cases pre with
        | nil => cases hrs
        | cons r pre =>
          obtain ⟨rfl, htail⟩ := List.cons_eq_cons.mp hrs
          exact (herror pre e post htail).imp_right fun hend => ⟨hend.1, by rw [returned_ok, hend.2]⟩
    · refine ⟨hpre, fun hlen => ?_, fun pre e post hrs => ?_⟩
      · rw [List.length_cons] at hlen
        exact hall (by omega)
      · cases pre with
        | nil =>
          cases hrs
          exact .inl rfl
        | cons r pre =>
          obtain ⟨rfl, htail⟩ := List.cons_eq_cons.mp hrs
          exact herror pre e post htail
    · refine ⟨hpre, fun _ => List.prefix_nil.mp hpre, fun pre e post hrs => ?_⟩
      cases pre with
      | nil =>
        cases hrs
        exact .inr ⟨rfl, rfl⟩
      | cons r pre =>
        obtain ⟨rfl, htail⟩ := List.cons_eq_cons.mp hrs
        exact herror pre e post htail

end Arriving

end Framing
