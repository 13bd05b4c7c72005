import ContentionGovernor.DistProtocol
import ContentionGovernor.Operations

/-!
# Observations received over the wire

An observation arrives without its two derived fractions.  The governor computes both again
from fields that are on the wire, and checks of the degradation only that it is a finite
number and not negative, as the default is.
-/

namespace ContentionGovernor.Dist

/-- What a fresh object holds once an observation is decoded into it. -/
def received (e : InterferenceEvidence) : InterferenceEvidence :=
  { e with degradation := 0.0, improvement := 0.0 }

theorem derived_received (e : InterferenceEvidence) : (received e).derived = e.derived := rfl

/-- On the direct path the degradation that the caller put is checked as well. -/
theorem structurallyValid_iff_received (e : InterferenceEvidence) :
    structurallyValid e ↔
      structurallyValid (received e) ∧ e.degradation.isFinite ∧ ¬e.degradation < 0.0 := by
  have hdefault : ¬(¬Binary64.isFinite (0.0 : Double) = true ∨ (0.0 : Double) < 0.0) := by decide
  unfold structurallyValid received
  rw [if_neg hdefault]
  split_ifs with hfinite hbaseline hconfidence hdegradation hcount <;> simp_all
  intro hfin
  exact hdegradation.resolve_left (by simp [hfin])

theorem validateEvidence_isOk_iff (e : InterferenceEvidence) :
    (validateEvidence e).isOk ↔ e.victim.value ≠ 0 ∧ structurallyValid e := by
  unfold validateEvidence
  split_ifs with hvictim hstructure <;> simp_all [Status.isOk, Status.bad]

theorem validateEvidence_received {e : InterferenceEvidence} (h : (validateEvidence e).isOk) :
    (validateEvidence (received e)).isOk := by
  rw [validateEvidence_isOk_iff] at h ⊢
  exact ⟨h.1, ((structurallyValid_iff_received e).mp h.2).1⟩

theorem ingestEvidence_received {e : InterferenceEvidence} (h : (validateEvidence e).isOk)
    (s : GovernorState) : ingestEvidence (received e) s = ingestEvidence e s := by
  unfold ingestEvidence
  rw [if_neg (not_not.mpr h), if_neg (not_not.mpr (validateEvidence_received h)),
    derived_received]

theorem submitPostActionEvidence_received {e : InterferenceEvidence}
    (h : (validateEvidence e).isOk) (s : GovernorState) :
    submitPostActionEvidence (received e) s = submitPostActionEvidence e s := by
  unfold submitPostActionEvidence
  rw [if_neg (not_not.mpr h), if_neg (not_not.mpr (validateEvidence_received h)),
    derived_received]

/-- An observation that is accepted and fits the wire has the same effect on either path, and
the other messages arrive as they were sent. -/
theorem wire_path_direct {e : InterferenceEvidence} (hvalid : (validateEvidence e).isOk)
    (hfits : WireFits e) :
    (decodeEvidence (encodeEvidence e) = some { e with degradation := 0.0, improvement := 0.0 } ∧
      ∀ d, decodeEvidence (encodeEvidence e) = some d → ∀ s,
        ingestEvidence d s = ingestEvidence e s ∧
          submitPostActionEvidence d s = submitPostActionEvidence e s) ∧
    (∀ h : WorkerHello, StringFits h.role → decodeHello (encodeHello h) = some h) ∧
    (∀ a : WireAction, decodeAction (encodeAction a) = some a) ∧
    ∀ a : WireAck, StringFits a.note → decodeAck (encodeAck a) = some a := by
  have hdecoded := decodeEvidence_encodeEvidence hfits
  refine ⟨⟨hdecoded, ?_⟩, fun _ => decodeHello_encodeHello, decodeAction_encodeAction,
    fun _ => decodeAck_encodeAck⟩
  intro d hd s
  rw [hdecoded] at hd
  cases hd
  exact ⟨ingestEvidence_received hvalid s, submitPostActionEvidence_received hvalid s⟩

/-- A slowdown, for which both fractions are computed. -/
theorem wire_path_direct_slowdown :
    (decodeEvidence (encodeEvidence slowdown) =
        some { slowdown with degradation := 0.0, improvement := 0.0 } ∧
      ∀ d, decodeEvidence (encodeEvidence slowdown) = some d → ∀ s,
        ingestEvidence d s = ingestEvidence slowdown s ∧
          submitPostActionEvidence d s = submitPostActionEvidence slowdown s) ∧
    (∀ h : WorkerHello, StringFits h.role → decodeHello (encodeHello h) = some h) ∧
    (∀ a : WireAction, decodeAction (encodeAction a) = some a) ∧
    ∀ a : WireAck, StringFits a.note → decodeAck (encodeAck a) = some a := by
  apply wire_path_direct
  · decide
  · exact ⟨by decide, by decide, Nat.zero_le _, Nat.zero_le _, by decide, by simp [slowdown]⟩

end ContentionGovernor.Dist
