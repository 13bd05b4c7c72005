import ContentionGovernor.DistProtocol
import ContentionGovernor.Lib.ByteGrammar

/-!
# The payloads that the messages accept

Which bytes the four decoders of the protocol accept, and as what.
-/

namespace ContentionGovernor.Dist

open Reader (Reads Spells)

/-! ## Fields -/

theorem spells_u64 : Spells R.u64 fun v bs => bs = W.u64 v := Spells.u64 ()

theorem spells_f64 : Spells R.f64 fun v bs => bs = W.f64 v := by
  refine spells_u64.bind fun u bs hbs => Spells.pure ?_
  rw [hbs, List.append_nil]
  rfl

theorem spells_id {d : Domain} : Spells (R.id (d := d)) fun i bs => bs = W.wid i := by
  refine spells_u64.bind fun u bs hbs => Spells.pure ?_
  rw [hbs, List.append_nil]
  rfl

/-- Every byte other than 0 is a set flag. -/
theorem spells_flag : Spells R.flag fun b bs => ∃ raw : UInt8, b = (raw != 0) ∧ bs = [raw] :=
  (Spells.u8 ()).bind fun raw bs hbs => Spells.pure ⟨raw, rfl, by rw [hbs, List.append_nil]⟩

theorem spells_enum {α : Type} [ByteEnum α] (count : UInt8) :
    Spells (R.enum (α := α) count) fun a bs => ByteEnum.raw a < count ∧ bs = W.enum a := by
  refine (Spells.u8 ()).bind fun raw bs hbs => Spells.ite (fun _ => Spells.reject _ _) ?_
  intro hcount
  cases ha : ByteEnum.ofRaw (α := α) raw with
  | none => exact Spells.reject _ _
  | some a =>
    have hraw := ByteEnum.raw_ofRaw raw a ha
    refine Spells.pure ⟨?_, ?_⟩
    · rw [hraw]
      exact UInt8.not_le.mp hcount
    · rw [hbs, W.enum, W.u8, hraw, List.append_nil]

theorem spells_str : Spells R.str fun s bs => StringFits s ∧ bs = W.str s := by
  refine spells_u64.bind fun n bs hbs => Spells.ite (fun _ => Spells.reject _ _) fun hn => ?_
  refine (Spells.bytes () n.toNat).bind fun as cs ⟨hcs, hlen⟩ => Spells.pure ⟨?_, ?_⟩
  · rw [StringFits, hlen]
    exact Nat.le_of_not_lt hn
  · rw [hbs, hcs, W.str, W.size, hlen, List.append_nil]
    rfl

/-! ## Messages -/

/-- The bytes of an acknowledgement: any byte other than 0 acknowledges. -/
def AckBytes (a : WireAck) (bs : List UInt8) : Prop :=
  StringFits a.note ∧ ∃ raw : UInt8, a.acknowledged = (raw != 0) ∧
    bs = List.flatten [W.wid a.id, W.wid a.attempt, [raw], W.str a.note]

/-- An observation as it comes from the wire, without the derived fractions. -/
structure FromWire (e : InterferenceEvidence) : Prop extends WireFits e where
  degradation : e.degradation = 0.0
  improvement : e.improvement = 0.0

theorem spells_hello :
    Spells readHello fun h bs => StringFits h.role ∧ bs = encodeHello h := by
  refine spells_id.bind fun worker _ hworker => spells_id.bind fun boot _ hboot => ?_
  refine spells_id.bind fun workloadGen _ hgen => spells_str.bind fun role _ hrole => ?_
  refine Spells.pure ⟨hrole.1, ?_⟩
  rw [hworker, hboot, hgen, hrole.2]
  rfl

theorem spells_action : Spells readAction fun a bs => bs = encodeAction a := by
  refine spells_id.bind fun id _ hid => spells_id.bind fun target _ htarget => ?_
  refine spells_id.bind fun attempt _ hattempt => (spells_enum 21).bind fun cls _ hcls => ?_
  refine spells_f64.bind fun intensity _ hintensity => Spells.pure ?_
  rw [hid, htarget, hattempt, hcls.2, hintensity]
  rfl

theorem spells_ack : Spells readAck AckBytes := by
  refine spells_id.bind fun id _ hid => spells_id.bind fun attempt _ hattempt => ?_
  refine spells_flag.bind fun acknowledged _ hflag => spells_str.bind fun note _ hnote => ?_
  obtain ⟨raw, hraw, hbyte⟩ := hflag
  refine Spells.pure ⟨hnote.1, raw, hraw, ?_⟩
  rw [hid, hattempt, hbyte, hnote.2]
  rfl

theorem spells_evidence :
    Spells readEvidence fun e bs => FromWire e ∧ bs = encodeEvidence e := by
  have hword : Spells R.id fun (w : WorkloadId) bs => True ∧ bs = W.wid w :=
    spells_id.mono fun _ _ h => ⟨trivial, h⟩
  have hids := Spells.counted () kMaxWireList hword
  refine spells_id.bind fun id _ h₁ => spells_id.bind fun generation _ h₂ => ?_
  refine spells_id.bind fun victim _ h₃ => hids.bind fun neighbors _ h₄ => ?_
  refine (spells_enum 14).bind fun domain _ h₅ => (spells_enum 2).bind fun metric _ h₆ => ?_
  refine spells_f64.bind fun isolatedBaseline _ h₇ => ?_
  refine spells_f64.bind fun coRunObservation _ h₈ => ?_
  refine (spells_enum 6).bind fun attribution _ h₉ => ?_
  refine spells_f64.bind fun confidence _ h₁₀ => spells_u64.bind fun sampleCount _ h₁₁ => ?_
  refine (spells_enum 8).bind fun status _ h₁₂ => spells_u64.bind fun sampledAt _ h₁₃ => ?_
  refine spells_u64.bind fun maxAgeMs _ h₁₄ => (spells_enum 6).bind fun label _ h₁₅ => ?_
  refine spells_str.bind fun sourceId _ h₁₆ => spells_str.bind fun sourceHealth _ h₁₇ => ?_
  refine spells_id.bind fun workerBoot _ h₁₈ => spells_id.bind fun workloadGeneration _ h₁₉ => ?_
  refine spells_id.bind fun deviceGeneration _ h₂₀ => ?_
  refine spells_id.bind fun hostGeneration _ h₂₁ => ?_
  refine spells_id.bind fun topologyGeneration _ h₂₂ => ?_
  refine spells_id.bind fun resourceGeneration _ h₂₃ => ?_
  refine spells_id.bind fun placementGeneration _ h₂₄ => ?_
  refine spells_u64.bind fun activeFrom _ h₂₅ => spells_u64.bind fun activeUntil _ h₂₆ => ?_
  refine (Spells.counted () kMaxWireList spells_str).bind fun confounders _ h₂₇ => ?_
  refine Spells.pure ⟨⟨⟨h₄.1, h₉.1, h₁₆.1, h₁₇.1, h₂₇.1, h₂₇.2.1⟩, rfl, rfl⟩, ?_⟩
  rw [h₁, h₂, h₃, h₄.2.2, h₅.2, h₆.2, h₇, h₈, h₉.2, h₁₀, h₁₁, h₁₂.2, h₁₃, h₁₄, h₁₅.2, h₁₆.2,
    h₁₇.2, h₁₈, h₁₉, h₂₀, h₂₁, h₂₂, h₂₃, h₂₄, h₂₅, h₂₆, h₂₇.2.2]
  rfl

theorem reads_ackBytes {a : WireAck} {bs : List UInt8} (h : AckBytes a bs) :
    Reads readAck bs a := by
  obtain ⟨hnote, raw, hraw, rfl⟩ := h
  have hflag := reads_anyFlag raw
  rw [← hraw] at hflag
  unfold readAck
  refine (reads_id _).field ((reads_id _).field (hflag.field ?_))
  exact (reads_str hnote).field (Reads.finish _)

theorem reads_fromWire {e : InterferenceEvidence} (h : FromWire e) :
    Reads readEvidence (encodeEvidence e) e := by
  have hreads := reads_wireEvidence h.toWireFits
  obtain ⟨-, hdegradation, himprovement⟩ := h
  cases e
  dsimp only at hdegradation himprovement
  rw [hdegradation, himprovement]
  exact hreads

/-! ## Payloads -/

/-- The decoder accepts exactly the payloads that begin with bytes that the grammar has for the
value, and none of these when they are cut short. -/
structure DecodesExactly {α : Type} (dec : List UInt8 → Option α) (G : α → List UInt8 → Prop) :
    Prop where
  accepts : ∀ d a, dec d = some a ↔ ∃ bs, G a bs ∧ bs <+: d
  cut : ∀ a bs k, G a bs → k < bs.length → dec (bs.take k) = none

variable {α : Type} {read : Reader Unit α} {G : α → List UInt8 → Prop}

theorem decode_iff (hreads : ∀ a bs, G a bs → Reads read bs a) (hspells : Spells read G)
    (d : List UInt8) (a : α) : decode read d = some a ↔ ∃ bs, G a bs ∧ bs <+: d := by
  constructor
  · intro h
    unfold decode at h
    cases hr : read d 0 with
    | error e =>
      rw [hr] at h
      cases h
    | ok x =>
      rw [hr] at h
      cases h
      obtain ⟨bs, hbs, hdrop⟩ := hspells d 0 x.1 x.2 hr
      exact ⟨bs, hbs, d.drop x.2, hdrop.symm⟩
  · rintro ⟨bs, hbs, rest, rfl⟩
    have hd := hreads a bs hbs [] rest
    simp only [List.nil_append, List.length_nil] at hd
    simp [decode, hd]

/-- Where the bytes of a value are all of one length. -/
theorem decodesExactly (hreads : ∀ a bs, G a bs → Reads read bs a) (hspells : Spells read G)
    (hlength : ∀ a bs bs', G a bs → G a bs' → bs'.length = bs.length) :
    DecodesExactly (decode read) G := by
  have haccepts := decode_iff hreads hspells
  refine ⟨haccepts, fun a bs k hbs hk => ?_⟩
  apply Option.eq_none_iff_forall_ne_some.mpr
  intro a' h'
  -- What is accepted of the beginning is accepted of the whole, as the same value.
  obtain ⟨bs', hbs', hpre⟩ := (haccepts _ _).mp h'
  have hwhole := (haccepts bs a').mpr ⟨bs', hbs', hpre.trans (List.take_prefix k bs)⟩
  rw [(haccepts bs a).mpr ⟨bs, hbs, List.prefix_rfl⟩, Option.some.injEq] at hwhole
  subst hwhole
  have hsame := hlength a bs bs' hbs hbs'
  have hle := hpre.length_le
  rw [List.length_take] at hle
  omega

theorem ackBytes_length {a : WireAck} {bs bs' : List UInt8} (h : AckBytes a bs)
    (h' : AckBytes a bs') : bs'.length = bs.length := by
  obtain ⟨-, raw, -, rfl⟩ := h
  obtain ⟨-, raw', -, rfl⟩ := h'
  simp

/-- Each decoder of the protocol accepts exactly the payloads that begin with an encoding of
what it returns, within the bounds of the wire, and leaves what stands behind it unread; an
acknowledgement is one by any byte other than 0.  No encoding is accepted cut short. -/
theorem decoders_exact :
    DecodesExactly decodeHello (fun h bs => StringFits h.role ∧ bs = encodeHello h) ∧
    DecodesExactly decodeEvidence (fun e bs => FromWire e ∧ bs = encodeEvidence e) ∧
    DecodesExactly decodeAction (fun a bs => bs = encodeAction a) ∧
    DecodesExactly decodeAck AckBytes := by
  refine ⟨decodesExactly ?_ spells_hello ?_, decodesExactly ?_ spells_evidence ?_,
    decodesExactly ?_ spells_action ?_,
    decodesExactly (fun _ _ => reads_ackBytes) spells_ack fun _ _ _ => ackBytes_length⟩
  · rintro h bs ⟨hrole, rfl⟩
    exact reads_hello hrole
  · rintro h bs bs' ⟨-, rfl⟩ ⟨-, rfl⟩
    rfl
  · rintro e bs ⟨he, rfl⟩
    exact reads_fromWire he
  · rintro e bs bs' ⟨-, rfl⟩ ⟨-, rfl⟩
    rfl
  · rintro a bs rfl
    exact reads_action a
  · rintro a bs bs' rfl rfl
    rfl

end ContentionGovernor.Dist
