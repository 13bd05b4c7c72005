import ContentionGovernor.Operations

/-!
# Terminal lifecycle states

Of the operations that write the lifecycle state of an intervention, only
`on_action_failed` writes it without looking at it.
-/

namespace ContentionGovernor

/-- The record under an id is in the given lifecycle state. -/
def HasState (s : GovernorState) (id : InterventionId) (x : LifecycleState) : Prop :=
  ∃ r, s.engine.interventions.find id = some r ∧ r.state = x

/-- Every record in a terminal state is in the same state after the step. -/
def StaysTerminal (s s' : GovernorState) : Prop :=
  ∀ id x, x.isTerminal → HasState s id x → HasState s' id x

/-- A failure is reported only for a record that is not in another terminal state, and an
authorization finds no terminal record under the id it takes. -/
def FailsOnlyLive (s : GovernorState) : Op → Prop
  | .onActionFailed id _ _ => ∀ r, s.engine.interventions.find id = some r →
      r.state.isTerminal → r.state = .failed
  | .authorize _ _ _ | .authorizeAndDispatch _ _ _ _ _ =>
    ∀ r, s.engine.interventions.find ⟨s.nextInterventionId⟩ = some r → ¬r.state.isTerminal
  | .load _ _ _ => False
  | _ => True

theorem step_staysTerminal {s s' : GovernorState} {op : Op} (h : step s op = some s')
    (hop : FailsOnlyLive s op) : StaysTerminal s s' := by
  rintro id x hterm ⟨r, hr, rfl⟩
  have hload : ¬op.isLoad := by
    intro hl
    cases op <;> first | exact hop | cases hl
  have hmoved : ∀ {r'}, RecordStep s op id r r' → r'.state = r.state := by
    intro r' hstep
    rcases state_of_moves hstep.2 hterm with h | ⟨attempt, note, rfl, hfailed⟩
    · exact h
    · rw [hfailed, hop r hr hterm]
  rcases step_interventions h hload with ⟨-, hrel⟩ | ⟨g, new, hauth, -, -, hrel⟩
  · obtain ⟨r', hr', hstep⟩ := hrel.exists_right hr
    exact ⟨r', hr', hmoved hstep⟩
  · have hne : id ≠ ⟨s.nextInterventionId⟩ := by
      rintro rfl
      cases op with
      | authorize | authorizeAndDispatch => exact hop r hr hterm
      | _ => exact hauth.2
    have hfind := OrderedMap.find_insert_of_ne s.engine.interventions hne new
    obtain ⟨r', hr', hstep⟩ := hrel.exists_right (hfind.trans hr)
    exact ⟨r', hr', hmoved hstep⟩

/-- For a failure report the condition is exact. -/
theorem onActionFailed_staysTerminal_iff (s : GovernorState) (id : InterventionId)
    (attempt : AttemptId) (note : ByteString) :
    StaysTerminal s (onActionFailed id attempt note s).2 ↔
      FailsOnlyLive s (.onActionFailed id attempt note) := by
  constructor
  · intro h r hr hterm
    obtain ⟨r', hr', hstate⟩ := h id r.state hterm ⟨r, hr, rfl⟩
    simp only [onActionFailed, hr, setIntervention, OrderedMap.find_insert_self,
      Option.some.injEq] at hr'
    rw [← hstate, ← hr']
  · exact fun h => step_staysTerminal rfl h

/-- In a run whose failure reports are only for records that are live or failed already,
a terminal state reached at any point is kept to the end. -/
theorem terminal_stays_terminal {s t : GovernorState} {ops : List Op}
    (hops : Runs.Guarded step FailsOnlyLive s ops) (hrun : Runs.exec step s ops = some t) :
    StaysTerminal s t := by
  intro id x hterm hs
  have hkept : ∀ u op u', HasState u id x → FailsOnlyLive u op → step u op = some u' →
      HasState u' id x := fun u op u' hu hop hstep => step_staysTerminal hstep hop id x hterm hu
  have hend := Runs.invariant_of_guarded hkept hops hrun hs
  exact hend

instance (s : GovernorState) : (op : Op) → Decidable (FailsOnlyLive s op)
  | .onActionFailed id _ _ => inferInstanceAs (Decidable
      (∀ r ∈ s.engine.interventions.find id, r.state.isTerminal → r.state = .failed))
  | .authorize _ _ _ | .authorizeAndDispatch _ _ _ _ _ => inferInstanceAs (Decidable
      (∀ r ∈ s.engine.interventions.find ⟨s.nextInterventionId⟩, ¬r.state.isTerminal))
  | .load _ _ _ => .isFalse id
  | .setPolicy _ | .setAuthority _ | .recordWorkerBoot _ _ | .recordWorkloadGeneration _ _
  | .advanceEpoch | .evaluate _ | .ingestEvidence _ | .submitPostActionEvidence _
  | .dispatch _ _ _ | .onAcknowledge _ _ _ | .save => .isTrue trivial

/-- A second throttle is authorized and reported as lost, and the first one acknowledged. -/
def secondLost : List Op :=
  [.ingestEvidence slowdown, .authorize ⟨1⟩ .throttle 60000, .onActionFailed ⟨2⟩ ⟨2⟩ "lost",
    .onAcknowledge ⟨1⟩ ⟨1⟩ 61000]

/-- The first throttle has an unknown outcome after a restart, and the second one fails. -/
theorem terminal_stays_terminal_after_restart : ∃ s,
    Runs.exec step (reached (throttleNeighbor ++ [.advanceEpoch])) secondLost = some s ∧
    HasState s ⟨2⟩ .failed ∧ StaysTerminal (reached (throttleNeighbor ++ [.advanceEpoch])) s := by
  have hend : (Runs.exec step (reached (throttleNeighbor ++ [.advanceEpoch])) secondLost).map
      (fun s => (s.engine.interventions.find ⟨2⟩).map (·.state)) = some (some .failed) := by
    decide +kernel
  obtain ⟨s, hrun, hstate⟩ := Option.map_eq_some_iff.mp hend
  exact ⟨s, hrun, Option.map_eq_some_iff.mp hstate,
    terminal_stays_terminal (by decide +kernel) hrun⟩

/-- An intervention whose outcome is unknown after a restart is moved to FAILED. -/
theorem failure_report_overwrites_terminal :
    ¬∀ ops s op s', Runs.exec step {} ops = some s → ¬op.isLoad → step s op = some s' →
      StaysTerminal s s' := by
  intro h
  have hrun := @exec_reached (throttleNeighbor ++ [.advanceEpoch]) (by decide +kernel)
  have hstay := h _ _ (.onActionFailed ⟨1⟩ ⟨1⟩ "") _ hrun Bool.false_ne_true rfl
  have hbefore : ((reached (throttleNeighbor ++ [.advanceEpoch])).engine.interventions.find
      ⟨1⟩).map (·.state) = some .outcomeUnknown := by decide +kernel
  have hafter : ((onActionFailed ⟨1⟩ ⟨1⟩ ""
      (reached (throttleNeighbor ++ [.advanceEpoch]))).2.engine.interventions.find
      ⟨1⟩).map (·.state) = some .failed := by decide +kernel
  obtain ⟨r, hr, hstate⟩ := Option.map_eq_some_iff.mp hbefore
  obtain ⟨r', hr', hsame⟩ := hstay ⟨1⟩ .outcomeUnknown rfl ⟨r, hr, hstate⟩
  rw [hr', Option.map_some, hsame] at hafter
  cases hafter

end ContentionGovernor
