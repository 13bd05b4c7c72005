import ContentionGovernor.ActionBudget
import ContentionGovernor.EvidenceStore

/-!
# Rejections

An operation that is refused leaves the durable state as it was, except that a dispatch
moves the record it refuses to SUPERSEDED.
-/

namespace ContentionGovernor

/-- What refusals leave of the state, for each operation and all of its arguments. -/
structure RejectsAtomically (s : GovernorState) : Prop where
  setPolicy : ∀ p, ¬(setPolicy p s).1.isOk → (setPolicy p s).2 = s
  ingestEvidence : ∀ e, ¬(ingestEvidence e s).1.isOk → (ingestEvidence e s).2 = s
  submitPostActionEvidence : ∀ e, ¬(submitPostActionEvidence e s).1.isOk →
    (submitPostActionEvidence e s).2 = s
  onAcknowledge : ∀ id attempt now, ¬(onAcknowledge id attempt now s).1.isOk →
    (onAcknowledge id attempt now s).2 = s
  onActionFailed : ∀ id attempt note, ¬(onActionFailed id attempt note s).1.isOk →
    (onActionFailed id attempt note s).2 = s
  authorizeAndDispatch : ∀ id cls now now' adapters r,
    authorizeAndDispatch id cls now now' adapters s = .ok r → ¬r.1.isOk → r.2 = s
  load : ∀ opts readable file r, load opts readable file s = .ok r → ¬r.1.isOk → r.2 = s
  authorize : ∀ id cls now s', authorize id cls now s = .ok (none, s') → s' = s
  dispatch : ∀ id now adapters, ¬(dispatch id now adapters s).1.isOk →
    (¬∃ u t, InvokesAdapter s (.dispatch id now adapters) id u t) ∧
      ((dispatch id now adapters s).2 = s ∨
        ∃ r, s.engine.interventions.find id = some r ∧ r.state = .authorized ∧
          (dispatch id now adapters s).2 = setIntervention s id { r with state := .superseded })

theorem setPolicy_rejected {p : ContentionPolicy} {s : GovernorState}
    (h : ¬(setPolicy p s).1.isOk) : (setPolicy p s).2 = s := by
  refine setPolicy_of_invalid fun hv => h ?_
  rw [setPolicy, if_neg (not_not.mpr hv)]
  rfl

theorem ingestEvidence_rejected {e : InterferenceEvidence} {s : GovernorState}
    (h : ¬(ingestEvidence e s).1.isOk) : (ingestEvidence e s).2 = s := by
  refine ingestEvidence_of_invalid fun hv => h ?_
  rw [ingestEvidence, if_neg (not_not.mpr hv)]
  rfl

theorem submitPostActionEvidence_rejected {e : InterferenceEvidence} {s : GovernorState}
    (h : ¬(submitPostActionEvidence e s).1.isOk) : (submitPostActionEvidence e s).2 = s := by
  refine submitPostActionEvidence_of_invalid fun hv => h ?_
  rw [submitPostActionEvidence, if_neg (not_not.mpr hv)]
  rfl

theorem onAcknowledge_rejected {id : InterventionId} {attempt : AttemptId} {now : TimeMs}
    {s : GovernorState} (h : ¬(onAcknowledge id attempt now s).1.isOk) :
    (onAcknowledge id attempt now s).2 = s := by
  unfold onAcknowledge at h ⊢
  split at h
  · rfl
  · split_ifs at h ⊢
    · rfl
    · exact absurd rfl h

theorem onActionFailed_rejected {id : InterventionId} {attempt : AttemptId} {note : ByteString}
    {s : GovernorState} (h : ¬(onActionFailed id attempt note s).1.isOk) :
    (onActionFailed id attempt note s).2 = s := by
  unfold onActionFailed at h ⊢
  split at h
  · rfl
  · exact absurd rfl h

theorem loadFromBytes_rejected {data : List UInt8} {s : GovernorState}
    {r : Status × GovernorState} (h : loadFromBytes data s = .ok r) (hr : ¬r.1.isOk) :
    r.2 = s := by
  unfold loadFromBytes at h
  split at h <;> cases h
  · exact absurd rfl hr
  · rfl

theorem load_rejected {opts : Options} {readable : Bool} {file : Option (List UInt8)}
    {s : GovernorState} {r : Status × GovernorState} (h : load opts readable file s = .ok r)
    (hr : ¬r.1.isOk) : r.2 = s := by
  unfold load at h
  split_ifs at h
  · cases h
    rfl
  · unfold loadState at h
    split at h
    · cases h
      rfl
    · split_ifs at h
      · cases h
        rfl
      · exact loadFromBytes_rejected h hr
      · cases h
        rfl

/-- A load that replaces the state. -/
def Op.restores (s : GovernorState) : Op → Bool
  | .load opts readable file => opts.persistEnable && opts.persistPath ≠ "" &&
    (loadState readable file s).toOption.any fun r => r.1.isOk
  | _ => false

/-- A load that restores nothing leaves the state as it is. -/
theorem load_of_not_restores {s s' : GovernorState} {opts : Options} {readable : Bool}
    {file : Option (List UInt8)} (h : step s (.load opts readable file) = some s')
    (hrestores : ¬(Op.load opts readable file).restores s) : s' = s := by
  obtain ⟨r, hr, rfl⟩ := map_toOption h
  by_cases hok : r.1.isOk
  · unfold load at hr
    split_ifs at hr with hoff
    · cases hr
      rfl
    · refine absurd ?_ hrestores
      simp only [not_or, not_not] at hoff
      simp only [Op.restores, hr, Except.toOption, Option.any_some, hok, hoff.1, Bool.true_and,
        Bool.and_true]
      exact decide_eq_true hoff.2
  · exact load_rejected hr hok

/-- A refused dispatch has stopped in its first section: the second one finds the record
that the first has written. -/
theorem dispatch_rejected {id : InterventionId} {now : TimeMs} {adapters : Option AdapterRegistry}
    {s : GovernorState} (h : ¬(dispatch id now adapters s).1.isOk) :
    ∃ e, dispatchBegin id now s = (.error e, (dispatch id now adapters s).2) := by
  unfold dispatch at h ⊢
  split at h
  · rename_i e s' hbegin
    exact ⟨e, by rw [hbegin]⟩
  · rename_i t s' hbegin
    obtain ⟨r, -, -, -, rfl, rfl⟩ := dispatchBegin_ok hbegin
    rw [dispatchFinish] at h
    simp only [setIntervention, OrderedMap.find_insert_self] at h
    exact absurd rfl h

/-- The composite refuses before it changes anything: a grant that was just made passes
revalidation again. -/
theorem authorizeAndDispatch_rejected {id : ConflictId} {cls : InterventionClass}
    {now now' : TimeMs} {adapters : Option AdapterRegistry} {s : GovernorState}
    {r : Status × GovernorState} (h : authorizeAndDispatch id cls now now' adapters s = .ok r)
    (hr : ¬r.1.isOk) : r.2 = s := by
  rcases authorizeAndDispatch_cases h with hs | ⟨g, hg, rfl⟩
  · exact hs
  · rw [dispatch_of_granted (granted_of_checks hg)] at hr
    exact absurd rfl hr

/-- In every state each refusal leaves the state as it was; a refused dispatch may move its
record from AUTHORIZED to SUPERSEDED, and does not invoke the adapter. -/
theorem rejection_atomic (s : GovernorState) : RejectsAtomically s where
  setPolicy := fun _ => setPolicy_rejected
  ingestEvidence := fun _ => ingestEvidence_rejected
  submitPostActionEvidence := fun _ => submitPostActionEvidence_rejected
  onAcknowledge := fun _ _ _ => onAcknowledge_rejected
  onActionFailed := fun _ _ _ => onActionFailed_rejected
  authorizeAndDispatch := fun _ _ _ _ _ _ => authorizeAndDispatch_rejected
  load := fun _ _ _ _ => load_rejected
  authorize := by
    intro id cls now s' h
    rcases authorize_cases h with ⟨-, hnone⟩ | ⟨g, -, hsome⟩
    · exact (Prod.mk.inj hnone).2
    · cases hsome
  dispatch := by
    intro id now adapters h
    obtain ⟨e, hbegin⟩ := dispatch_rejected h
    constructor
    · rintro ⟨u, t, -, rfl, hticket⟩
      rw [hbegin] at hticket
      cases hticket
    · exact dispatchBegin_error hbegin

example : (authorizeAndDispatch ⟨1⟩ .throttle 2000 2000 none (reached throttleNeighbor)).toOption.map
    (·.1) = some (.bad .noLegalIntervention "no legal intervention") := by decide +kernel

end ContentionGovernor
