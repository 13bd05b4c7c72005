import ContentionGovernor.Persistence

/-!
# Queries

The `const` member functions of `governor.cpp`, and the digest of `digest.hpp`.
-/

namespace ContentionGovernor

def kFnvOffset : UInt64 := 14695981039346656037
def kFnvPrime : UInt64 := 1099511628211

def fnv1aUpdate (h : UInt64) (data : List UInt8) : UInt64 :=
  data.foldl (fun h b => (h ^^^ b.toUInt64) * kFnvPrime) h

def fnv1aBytes (data : List UInt8) : UInt64 := fnv1aUpdate kFnvOffset data

/-- In the order of the map. -/
def conflictIds (st : GovernorState) : List ConflictId := st.engine.conflicts.entries.map Prod.fst

def conflict (id : ConflictId) (st : GovernorState) : Option ContentionConflict :=
  st.engine.conflicts.find id

def intervention (id : InterventionId) (st : GovernorState) : Option InterventionRecord :=
  st.engine.interventions.find id

def fairness (w : WorkloadId) (st : GovernorState) : Option FairnessRecord :=
  st.engine.fairness.find w

def actionBudget (st : GovernorState) : ActionBudget := st.engine.policy.budget

/-- The digest is taken of a copy whose own digest field is 0. -/
def digest (st : GovernorState) : UInt64 := fnv1aBytes (saveToBytes { st with lastDigest := 0 })

def persistenceBytes (st : GovernorState) : ℕ := (saveToBytes st).length

end ContentionGovernor
