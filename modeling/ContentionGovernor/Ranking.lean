import ContentionGovernor.Requests
import ContentionGovernor.Lib.LeastByKey

/-!
# The ranked choice

The comparator of the ranking is the lexicographic order of seven keys, which tell the
candidates of an evaluation apart.  So the choice is the one candidate of least key,
whatever the order in which workloads and classes are enumerated.
-/

namespace ContentionGovernor

/-! ## The order of the comparator -/

/-- A number as a place on the extended line. -/
abbrev Place := ℤ ×ₗ ℤ ×ₗ ℤ

/-- Conflict reduction, neighbor degradation, value of the target, cost, reversibility, class
order and target id; more reduction and more reversibility come first, and otherwise less. -/
def rankKey (p : ContentionPolicy) (c : InterventionCandidate) :
    Placeᵒᵈ ×ₗ Place ×ₗ Place ×ₗ Place ×ₗ Placeᵒᵈ ×ₗ ℕ ×ₗ WorkloadId :=
  toLex (OrderDual.toDual c.expectedConflictReduction.place,
    toLex (c.expectedNeighborDegradation.place,
      toLex ((workloadPolicyFor p c.target).value.place,
        toLex (c.expectedCost.place,
          toLex (OrderDual.toDual c.reversibility.place,
            toLex (classIndex c.cls, c.target))))))

/-- What the comparator reads of the candidate are numbers. -/
structure Numeric (p : ContentionPolicy) (c : InterventionCandidate) : Prop where
  reduction : c.expectedConflictReduction.isNaN = false
  neighbor : c.expectedNeighborDegradation.isNaN = false
  value : (workloadPolicyFor p c.target).value.isNaN = false
  cost : c.expectedCost.isNaN = false
  reversibility : c.reversibility.isNaN = false

/-- One level of the comparator that puts the smaller number first. -/
theorem ascending_iff {x y : Double} (hx : x.isNaN = false) (hy : y.isNaN = false) {rest : Bool}
    {P : Prop} (hrest : rest ↔ P) : (if ¬x.same y then decide (x < y) else rest) ↔
      x.place < y.place ∨ x.place = y.place ∧ P := by
  have hsame : x.same y ↔ x.place = y.place := by
    rw [Binary64.same_iff]
    simp [hx, hy]
  have hlt : x < y ↔ x.place < y.place := by
    rw [Binary64.lt_iff]
    simp [hx, hy]
  rw [← hrest, ← hlt, ← hsame]
  by_cases h : x.same y
  · have hnot : ¬x < y := by
      rw [hlt, hsame.mp h]
      exact lt_irrefl _
    simp [h, hnot]
  · simp [h]

/-- One level that puts the larger number first. -/
theorem descending_iff {x y : Double} (hx : x.isNaN = false) (hy : y.isNaN = false)
    {rest : Bool} {P : Prop} (hrest : rest ↔ P) :
    (if ¬x.same y then decide (y < x) else rest) ↔
      OrderDual.toDual x.place < OrderDual.toDual y.place ∨
        OrderDual.toDual x.place = OrderDual.toDual y.place ∧ P := by
  have hcomm : x.same y = y.same x := by
    rw [Bool.eq_iff_iff, Binary64.same_iff, Binary64.same_iff]
    constructor
    · exact fun h => ⟨h.2.1, h.1, h.2.2.symm⟩
    · exact fun h => ⟨h.2.1, h.1, h.2.2.symm⟩
  rw [OrderDual.toDual_lt_toDual, OrderDual.toDual_inj, hcomm, @eq_comm _ x.place,
    ← ascending_iff hy hx hrest]

theorem classIndex_injective : Function.Injective classIndex := by
  intro a b h
  have hall : ∀ c : InterventionClass, c ∈ classOrder := by
    intro c
    cases c <;> decide
  exact (List.idxOf_inj (hall a)).mp h

/-- The last two levels; equal classes leave the final comparison of classes false. -/
theorem tieBreak_iff {a b : InterventionCandidate} :
    (if classIndex a.cls ≠ classIndex b.cls then decide (classIndex a.cls < classIndex b.cls)
      else if a.target ≠ b.target then decide (a.target < b.target)
      else decide (ByteEnum.raw a.cls < ByteEnum.raw b.cls)) ↔
      classIndex a.cls < classIndex b.cls ∨
        classIndex a.cls = classIndex b.cls ∧ a.target < b.target := by
  by_cases hindex : classIndex a.cls = classIndex b.cls
  · have hcls := classIndex_injective hindex
    by_cases htarget : a.target = b.target
    · simp [hcls, htarget]
    · simp [hindex, htarget]
  · simp [hindex]

/-- Away from NaN the comparator is the order of the keys. -/
theorem better_iff {p : ContentionPolicy} {a b : InterventionCandidate} (ha : Numeric p a)
    (hb : Numeric p b) : better p a b ↔ rankKey p a < rankKey p b := by
  unfold better rankKey
  simp only [Prod.Lex.toLex_lt_toLex]
  apply descending_iff ha.reduction hb.reduction
  apply ascending_iff ha.neighbor hb.neighbor
  apply ascending_iff ha.value hb.value
  apply ascending_iff ha.cost hb.cost
  apply descending_iff ha.reversibility hb.reversibility
  exact tieBreak_iff

/-! ## The candidates of an evaluation -/

/-- The workload values of the policy are finite. -/
def FiniteValues (p : ContentionPolicy) : Prop :=
  ∀ w wp, p.workloads.find w = some wp → wp.value.isFinite

theorem finiteValues_of_valid {p : ContentionPolicy} (hp : (validatePolicy p).isOk) :
    FiniteValues p := by
  intro w wp hw
  have hvalid := (validatePolicy_valid hp).workloads (w, wp) (OrderedMap.mem_entries.mpr hw)
  exact not_not.mp (passed_check hvalid).1

theorem value_number {p : ContentionPolicy} (h : FiniteValues p) (w : WorkloadId) :
    (workloadPolicyFor p w).value.isNaN = false := by
  unfold workloadPolicyFor
  cases hw : p.workloads.find w with
  | none =>
    change (0.0 : Double).isNaN = false
    decide +kernel
  | some wp => exact (Binary64.le_iff.mp (Binary64.le_refl_of_finite (h w wp hw))).1

/-- The effects that the model of the source gives to the classes are numbers. -/
theorem effectModel_numbers (cls : InterventionClass) :
    (effectModel cls).1.isNaN = false ∧ (effectModel cls).2.1.isNaN = false ∧
      (0.1 * (effectModel cls).2.1).isNaN = false ∧
      (effectModel cls).2.2.1.isNaN = false := by
  cases cls <;> decide +kernel

theorem numeric_effect {p : ContentionPolicy} (h : FiniteValues p) (cls : InterventionClass)
    (w : WorkloadId) : Numeric p (defaultEffect cls w) := by
  obtain ⟨hreduction, hneighbor, hcost, hreversibility⟩ := effectModel_numbers cls
  exact ⟨hreduction, hneighbor, value_number h w, hcost, hreversibility⟩

theorem numeric_buildCandidate {s : EngineState} (h : FiniteValues s.policy)
    (ctx : AuthorityContext) (c : ContentionConflict) (primary : InterferenceEvidence)
    (w : WorkloadId) (cls : InterventionClass) :
    Numeric s.policy (buildCandidate s ctx c primary w cls) :=
  have heffect := numeric_effect h cls w
  ⟨heffect.reduction, heffect.neighbor, heffect.value, heffect.cost, heffect.reversibility⟩

/-- The decision when the workloads and the classes are enumerated as in these lists. -/
def decisionOver (s : EngineState) (ctx : AuthorityContext) (c : ContentionConflict)
    (primary : InterferenceEvidence) (targets : List WorkloadId)
    (classes : List InterventionClass) : Option InterventionDecision :=
  rankedDecision s.policy (targets.flatMap fun target =>
    (classes.filter (classEligible s.policy)).map (buildCandidate s ctx c primary target))

/-- A candidate of an enumeration is determined by its workload and its class. -/
theorem mem_enumerated {s : EngineState} {ctx : AuthorityContext} {c : ContentionConflict}
    {primary : InterferenceEvidence} {targets : List WorkloadId}
    {classes : List InterventionClass} {cand : InterventionCandidate} :
    cand ∈ feasibleCandidates (targets.flatMap fun target =>
      (classes.filter (classEligible s.policy)).map (buildCandidate s ctx c primary target)) ↔
      cand = buildCandidate s ctx c primary cand.target cand.cls ∧ cand.target ∈ targets ∧
        cand.cls ∈ classes ∧ classEligible s.policy cand.cls ∧ cand.feasible = .feasible := by
  unfold feasibleCandidates
  simp only [List.mem_filter, List.mem_flatMap, List.mem_map, decide_eq_true_eq]
  constructor
  · rintro ⟨⟨w, hw, cls, ⟨hcls, heligible⟩, rfl⟩, hfeasible⟩
    exact ⟨rfl, hw, hcls, heligible, hfeasible⟩
  · rintro ⟨heq, hw, hcls, heligible, hfeasible⟩
    exact ⟨⟨cand.target, hw, cand.cls, ⟨hcls, heligible⟩, heq.symm⟩, hfeasible⟩

/-- The comparator orders the candidates of an enumeration by their keys. -/
theorem agrees_enumerated {s : EngineState} (h : FiniteValues s.policy) {ctx : AuthorityContext}
    {c : ContentionConflict} {primary : InterferenceEvidence} {cs : List InterventionCandidate}
    (hcs : ∀ cand ∈ cs, cand = buildCandidate s ctx c primary cand.target cand.cls) :
    LeastByKey.Agrees (rankKey s.policy) (fun a b => ¬better s.policy b a) cs := by
  have hnumeric : ∀ cand ∈ cs, Numeric s.policy cand := by
    intro cand hcand
    rw [hcs cand hcand]
    exact numeric_buildCandidate h ctx c primary _ _
  intro a ha b hb
  exact (not_congr (better_iff (hnumeric b hb) (hnumeric a ha))).trans not_lt

/-- The key tells actions apart. -/
theorem action_of_rankKey {p : ContentionPolicy} {a b : InterventionCandidate}
    (h : rankKey p a = rankKey p b) : a.cls = b.cls ∧ a.target = b.target := by
  unfold rankKey at h
  simp only [EmbeddingLike.apply_eq_iff_eq, Prod.mk.injEq] at h
  obtain ⟨-, -, -, -, -, hindex, htarget⟩ := h
  exact ⟨classIndex_injective hindex, htarget⟩

/-- So it tells candidates of one evaluation apart. -/
theorem eq_of_rankKey {s : EngineState} {ctx : AuthorityContext} {c : ContentionConflict}
    {primary : InterferenceEvidence} {a b : InterventionCandidate}
    (ha : a = buildCandidate s ctx c primary a.target a.cls)
    (hb : b = buildCandidate s ctx c primary b.target b.cls)
    (h : rankKey s.policy a = rankKey s.policy b) : a = b := by
  obtain ⟨hcls, htarget⟩ := action_of_rankKey h
  rw [ha, hb, htarget, hcls]

/-- Only the sets of workloads and classes matter to the decision. -/
theorem decisionOver_congr {s : EngineState} (h : FiniteValues s.policy) {ctx : AuthorityContext}
    {c : ContentionConflict} {primary : InterferenceEvidence} {targets targets' : List WorkloadId}
    {classes classes' : List InterventionClass} (htargets : ∀ w, w ∈ targets' ↔ w ∈ targets)
    (hclasses : ∀ cls, cls ∈ classes' ↔ cls ∈ classes) :
    decisionOver s ctx c primary targets' classes' =
      decisionOver s ctx c primary targets classes := by
  unfold decisionOver rankedDecision rank
  refine congrArg (Option.map _) (LeastByKey.head_eq_of_mem_iff
    (agrees_enumerated h fun cand hcand => (mem_enumerated.mp hcand).1) ?_ ?_)
  · intro a ha b hb hkey
    exact eq_of_rankKey (mem_enumerated.mp ha).1 (mem_enumerated.mp hb).1 hkey
  · intro cand
    rw [mem_enumerated, mem_enumerated, htargets, hclasses]

/-! ## Evaluations that reach the ranking -/

/-- The conflict passes every gate before the candidates are built. -/
structure ReachesCandidates (s : EngineState) (id : ConflictId) (c : ContentionConflict)
    (primary : InterferenceEvidence) : Prop where
  conflict : s.conflicts.find id = some c
  evidence : (currentEvidence s c).head? = some primary
  magnitude : ¬c.degradation < s.policy.actionabilityThreshold
  associated : c.associated ≠ []
  gate : disruptiveRejections s.policy primary = []

theorem Decided.reaches {s : EngineState} {id : ConflictId} {ctx : AuthorityContext}
    {c : ContentionConflict} {primary : InterferenceEvidence} {d : InterventionDecision}
    (h : Decided s id ctx c primary d) : ReachesCandidates s id c primary :=
  ⟨h.conflict, h.evidence, h.magnitude, List.ne_nil_of_mem h.target_mem, h.gate⟩

/-- The candidates are then those of the sorted workloads, and the decision ranks them. -/
theorem ReachesCandidates.evaluation {s : EngineState} {id : ConflictId} {c : ContentionConflict}
    {primary : InterferenceEvidence} (h : ReachesCandidates s id c primary)
    (ctx : AuthorityContext) :
    (evaluateConflict s id ctx).candidates =
        buildCandidates s ctx c primary (c.associated.insertionSort (· ≤ ·)) ∧
      (evaluateConflict s id ctx).decision = decisionOver s ctx c primary
        (c.associated.insertionSort (· ≤ ·)) eligibleClasses := by
  obtain ⟨rest, hevidence⟩ := List.head?_eq_some_iff.mp h.evidence
  unfold evaluateConflict
  rw [h.conflict]
  dsimp only
  rw [hevidence]
  dsimp only
  rw [if_neg h.magnitude, if_neg h.associated, if_neg (not_not.mpr h.gate)]
  unfold evaluateCandidates
  dsimp only
  have hover : decisionOver s ctx c primary (c.associated.insertionSort (· ≤ ·)) eligibleClasses =
      rankedDecision s.policy
        (buildCandidates s ctx c primary (c.associated.insertionSort (· ≤ ·))) := rfl
  rw [hover]
  cases rankedDecision s.policy
      (buildCandidates s ctx c primary (c.associated.insertionSort (· ≤ ·))) with
  | none => exact ⟨rfl, rfl⟩
  | some d => exact ⟨rfl, rfl⟩

/-- The same state with other associated workloads of the conflict. -/
def withAssociated (s : EngineState) (id : ConflictId) (c : ContentionConflict)
    (associated : List WorkloadId) : EngineState :=
  { s with conflicts := s.conflicts.insert id { c with associated := associated } }

theorem ReachesCandidates.withAssociated {s : EngineState} {id : ConflictId}
    {c : ContentionConflict} {primary : InterferenceEvidence}
    (h : ReachesCandidates s id c primary) {associated : List WorkloadId}
    (hne : associated ≠ []) :
    ReachesCandidates (withAssociated s id c associated) id
      { c with associated := associated } primary where
  conflict := OrderedMap.find_insert_self ..
  evidence := h.evidence
  magnitude := h.magnitude
  associated := hne
  gate := h.gate

/-- What the evaluation of a conflict that reaches the ranking gives. -/
structure DecidesBest (s : EngineState) (id : ConflictId) (ctx : AuthorityContext)
    (c : ContentionConflict) (primary : InterferenceEvidence) : Prop where
  /-- One candidate for each associated workload, as often as it is listed, and class. -/
  listed : (evaluateConflict s id ctx).candidates.Perm
    ((c.associated.product (eligibleClasses.filter (classEligible s.policy))).map fun x =>
      buildCandidate s ctx c primary x.1 x.2)
  judged : ∀ cand ∈ (evaluateConflict s id ctx).candidates,
    (⟨cand.feasible, cand.infeasibilityReasons⟩ : FeasibilityResult) =
      checkFeasibility s cand.target cand.cls (candidateFence ctx c primary cand.target)
  decides : (∃ d, (evaluateConflict s id ctx).decision = some d) ↔
    ∃ cand ∈ (evaluateConflict s id ctx).candidates, cand.feasible = .feasible
  best : ∀ d, (evaluateConflict s id ctx).decision = some d →
    d.chosen ∈ (evaluateConflict s id ctx).candidates ∧ d.chosen.feasible = .feasible ∧
      ∀ cand ∈ (evaluateConflict s id ctx).candidates, cand.feasible = .feasible →
        ¬rankKey s.policy cand < rankKey s.policy d.chosen
  /-- The order and the number of the associated workloads do not matter, -/
  reordered : ∀ associated, (∀ w, w ∈ associated ↔ w ∈ c.associated) →
    (evaluateConflict (withAssociated s id c associated) id ctx).decision =
      (evaluateConflict s id ctx).decision
  /-- and neither does the order in which workloads and classes are enumerated. -/
  enumerated : ∀ targets classes, (∀ w, w ∈ targets ↔ w ∈ c.associated) →
    (∀ cls, cls ∈ classes ↔ cls ∈ eligibleClasses) →
    decisionOver s ctx c primary targets classes = (evaluateConflict s id ctx).decision

theorem decides_iff {s : EngineState} {id : ConflictId} {ctx : AuthorityContext} :
    (∃ d, (evaluateConflict s id ctx).decision = some d) ↔
      ∃ cand ∈ (evaluateConflict s id ctx).candidates, cand.feasible = .feasible := by
  rcases evaluateConflict_cases s id ctx with ⟨hnone, hcands⟩ | ⟨c, primary, d, hd, hcands, hdec⟩
  · rw [hnone]
    refine iff_of_false (by simp) ?_
    rintro ⟨cand, hmem, hfeasible⟩
    have hin : cand ∈ feasibleCandidates (evaluateConflict s id ctx).candidates :=
      List.mem_filter.mpr ⟨hmem, decide_eq_true hfeasible⟩
    rw [hcands] at hin
    cases hin
  · rw [hd, hcands]
    exact iff_of_true ⟨d, rfl⟩ ⟨d.chosen, hdec.chosen, hdec.feasible⟩

/-- The choice has a least key among the feasible candidates. -/
theorem least_of_decision {s : EngineState} {id : ConflictId} {c : ContentionConflict}
    {primary : InterferenceEvidence} (h : ReachesCandidates s id c primary)
    (hvalues : FiniteValues s.policy) {ctx : AuthorityContext} {d : InterventionDecision}
    (hd : (evaluateConflict s id ctx).decision = some d) :
    ∀ cand ∈ (evaluateConflict s id ctx).candidates, cand.feasible = .feasible →
      rankKey s.policy d.chosen ≤ rankKey s.policy cand := by
  obtain ⟨hcandidates, hover⟩ := h.evaluation ctx
  rw [hover] at hd
  obtain ⟨chosen, hhead, rfl⟩ := Option.map_eq_some_iff.mp hd
  intro cand hmem hfeasible
  refine LeastByKey.least_of_head
    (agrees_enumerated hvalues fun cand hcand => (mem_enumerated.mp hcand).1) hhead cand ?_
  rw [hcandidates] at hmem
  exact List.mem_filter.mpr ⟨hmem, decide_eq_true hfeasible⟩

/-- With finite workload values, a conflict that reaches the ranking is decided for its best
feasible candidate, whatever the order of enumeration. -/
theorem decision_optimal (s : EngineState) (id : ConflictId) (ctx : AuthorityContext)
    (c : ContentionConflict) (primary : InterferenceEvidence)
    (h : ReachesCandidates s id c primary) (hvalues : FiniteValues s.policy) :
    DecidesBest s id ctx c primary := by
  obtain ⟨hcandidates, hover⟩ := h.evaluation ctx
  refine ⟨?_, ?_, decides_iff, fun d hd => ?_, fun associated hassociated => ?_,
    fun targets classes htargets hclasses => ?_⟩
  · rw [hcandidates, List.product, List.map_flatMap]
    simp only [List.map_map]
    exact (List.perm_insertionSort _ _).flatMap_right _
  · intro cand hcand
    rw [hcandidates] at hcand
    obtain ⟨w, -, cls, -, -, rfl⟩ := mem_buildCandidates hcand
    rfl
  · obtain ⟨c', primary', hdec, hcands⟩ := decided_of_decision hd
    refine ⟨by rw [hcands]; exact hdec.chosen, hdec.feasible, fun cand hmem hfeasible => ?_⟩
    exact not_lt.mpr (least_of_decision h hvalues hd cand hmem hfeasible)
  · have hne : associated ≠ [] := by
      obtain ⟨w, hw⟩ := List.exists_mem_of_ne_nil _ h.associated
      exact List.ne_nil_of_mem ((hassociated w).mpr hw)
    obtain ⟨-, hover'⟩ := (h.withAssociated hne).evaluation ctx
    rw [hover', hover]
    refine decisionOver_congr (s := s) hvalues (fun w => ?_) fun _ => Iff.rfl
    rw [List.mem_insertionSort, List.mem_insertionSort, hassociated]
  · rw [hover]
    refine decisionOver_congr hvalues (fun w => ?_) hclasses
    rw [List.mem_insertionSort, htargets]

theorem decision_optimal_slowdown : ∃ c primary,
    DecidesBest (reached (registerNeighbor ++ [.ingestEvidence slowdown])).engine ⟨1⟩
      (reached (registerNeighbor ++ [.ingestEvidence slowdown])).engine.authority c primary := by
  have hdecided : (evaluate ⟨1⟩
      (reached (registerNeighbor ++ [.ingestEvidence slowdown]))).decision.isSome := by
    decide +kernel
  have hworkloads : (reached (registerNeighbor ++
      [.ingestEvidence slowdown])).engine.policy.workloads.entries = [] := by decide +kernel
  obtain ⟨d, hd⟩ := Option.isSome_iff_exists.mp hdecided
  obtain ⟨c, primary, hdec, -⟩ := decided_of_decision hd
  refine ⟨c, primary, decision_optimal _ _ _ c primary hdec.reaches fun w wp hwp => ?_⟩
  have hmem := OrderedMap.mem_entries.mpr hwp
  rw [hworkloads] at hmem
  cases hmem

end ContentionGovernor
