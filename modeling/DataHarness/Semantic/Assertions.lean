import DataHarness.Models
import DataHarness.Library.Component
import Mathlib.Algebra.Order.Field.Rat

/-!
# Semantic assertions

`AssertionGraph` with its two time axes. `active` reads the clock when it is asked for no
instant, and `equivalence_cluster` asks it again in every round of its loop, so every internal
call takes its own reading. A graph keeps its assertions in the order they were appended.
-/

namespace DataHarness

/-- `AssertionPredicate`. -/
inductive AssertionPredicate
  | sameAs
  | notSameAs
  | mentions
deriving DecidableEq

/-- `SemanticAssertion`. -/
structure SemanticAssertion where
  assertionId : String
  subjectId : String
  predicate : AssertionPredicate
  objectId : String
  confidence : ℚ
  assertedAt : DateTime
  validFrom : DateTime
  validTo : Option DateTime
  policyDigest : String
  lineage : List LineageRef
  required : ∀ value ∈ [assertionId, subjectId, objectId, policyDigest], value ≠ ""
  /-- An entity cannot be declared different from itself. -/
  distinct : ¬ (subjectId = objectId ∧ predicate = .notSameAs)
  bounded : 0 ≤ confidence ∧ confidence ≤ 1
  sourced : lineage ≠ []
  aware : assertedAt.aware = true ∧ validFrom.aware = true ∧
    ∀ time ∈ validTo, time.aware = true
  lasting : ∀ time ∈ validTo, validFrom.instant < time.instant

/-- Certainty is within the bounds of a confidence. -/
theorem certain : (0 : ℚ) ≤ 1 ∧ (1 : ℚ) ≤ 1 := by decide

/-- An assertion from noon on, for small runs. -/
def SemanticAssertion.small (assertionId subjectId objectId : String)
    (predicate : AssertionPredicate) (validFrom : DateTime) (validTo : Option DateTime)
    (named : assertionId ≠ "" ∧ subjectId ≠ "" ∧ objectId ≠ "" ∧ subjectId ≠ objectId)
    (aware : validFrom.aware = true ∧ ∀ time ∈ validTo, time.aware = true)
    (lasting : ∀ time ∈ validTo, validFrom.instant < time.instant) : SemanticAssertion where
  assertionId := assertionId
  subjectId := subjectId
  predicate := predicate
  objectId := objectId
  confidence := 1
  assertedAt := noon
  validFrom := validFrom
  validTo := validTo
  policyDigest := "policy"
  lineage := [.asset]
  required := by simp [named.1, named.2.1, named.2.2.1]
  distinct := fun same => named.2.2.2 same.1
  bounded := certain
  sourced := by simp
  aware := ⟨rfl, aware⟩
  lasting := lasting

/-- An assertion without an end lasts. -/
theorem noon_lasting : ∀ time ∈ (none : Option DateTime), noon.instant < time.instant := by decide

/-- `AssertionRetraction`. -/
structure AssertionRetraction where
  assertionId : String
  retractedAt : DateTime
  reason : String
  required : retractedAt.aware = true ∧ reason ≠ ""

/-- What the semantic modules raise. -/
inductive SemanticError
  | valueError (message : String)
  | keyError (message : String)
  | permissionError (message : String)
  | assertionError
  | semanticContradiction (message : String)
deriving DecidableEq

/-- The two instants one call of `active` reads from the clock. -/
structure Reading where
  /-- `valid_at`. -/
  validAt : DateTime
  /-- `known_at`. -/
  knownAt : DateTime

/-- `AssertionGraph`. -/
structure AssertionGraph where
  assertions : Dict SemanticAssertion
  retractions : Dict AssertionRetraction

/-- An assertion holds at an instant. -/
def SemanticAssertion.validDuring (item : SemanticAssertion) (moment : DateTime) : Bool :=
  decide (item.validFrom.instant ≤ moment.instant) &&
    item.validTo.all fun time => decide (moment.instant < time.instant)

namespace AssertionGraph

/-- `AssertionGraph()`. -/
def empty : AssertionGraph := ⟨.empty, .empty⟩

/-- The assertion under a key is known at an instant: asserted by then and not yet retracted. -/
def known (graph : AssertionGraph) (key : String) (item : SemanticAssertion) (moment : DateTime) :
    Bool :=
  decide (item.assertedAt.instant ≤ moment.instant) &&
    (graph.retractions.get? key).all fun retraction =>
      decide (moment.instant < retraction.retractedAt.instant)

/-- `active`, with aware instants. -/
def active (graph : AssertionGraph) (reading : Reading) : List SemanticAssertion :=
  (graph.assertions.entries.filter fun entry =>
    graph.known entry.1 entry.2 reading.knownAt && entry.2.validDuring reading.validAt).map Prod.snd

/-- The pairs of entities that a list of assertions declares the same. -/
def sameEdges (items : List SemanticAssertion) : List (String × String) :=
  (items.filter fun item => item.predicate = .sameAs).map fun item =>
    (item.subjectId, item.objectId)

/-- `equivalence_cluster`, which reads the clock from a given reading on: the cluster and the
number of the next reading. Every round but the last adds an entity of an assertion. -/
def equivalenceCluster (graph : AssertionGraph) (clock : Nat → Reading) (read : Nat)
    (entityId : String) : List String × Nat :=
  Component.grow (fun round => sameEdges (graph.active (clock round)))
    (2 * graph.assertions.entries.length + 1) read [entityId]

/-- An assertion separates two clusters. -/
def separates (item : SemanticAssertion) (left right : List String) : Bool :=
  decide (item.predicate = .notSameAs) &&
    (decide (item.subjectId ∈ left) && decide (item.objectId ∈ right) ||
      decide (item.subjectId ∈ right) && decide (item.objectId ∈ left))

/-- The checks of `append` that depend on its predicate. -/
def checkIdentity (graph : AssertionGraph) (clock : Nat → Reading)
    (assertion : SemanticAssertion) : Except SemanticError Unit :=
  match assertion.predicate with
  | .notSameAs =>
    if assertion.objectId ∈ (graph.equivalenceCluster clock 0 assertion.subjectId).1 then
      .error (.semanticContradiction "not_same_as contradicts an active identity cluster")
    else .ok ()
  | .sameAs =>
    let (left, read) := graph.equivalenceCluster clock 0 assertion.subjectId
    let (right, next) := graph.equivalenceCluster clock read assertion.objectId
    if (graph.active (clock next)).any fun item => separates item left right then
      .error (.semanticContradiction "same_as would merge explicitly distinct clusters")
    else .ok ()
  | .mentions => .ok ()

/-- `append`, with the readings of the clock it makes in order. -/
def append (graph : AssertionGraph) (clock : Nat → Reading) (assertion : SemanticAssertion) :
    Except SemanticError AssertionGraph :=
  match graph.assertions.get? assertion.assertionId with
  | some _ => .error (.valueError ("assertion already exists: " ++ assertion.assertionId))
  | none =>
    match graph.checkIdentity clock assertion with
    | .error error => .error error
    | .ok () => .ok { graph with
        assertions := graph.assertions.set assertion.assertionId assertion }

/-- `retract`. -/
def retract (graph : AssertionGraph) (retraction : AssertionRetraction) :
    Except SemanticError AssertionGraph :=
  match graph.assertions.get? retraction.assertionId with
  | none => .error (.keyError ("unknown assertion: " ++ retraction.assertionId))
  | some item =>
    match graph.retractions.get? retraction.assertionId with
    | some _ => .error (.valueError ("assertion already retracted: " ++ retraction.assertionId))
    | none =>
      if retraction.retractedAt.instant < item.assertedAt.instant then
        .error (.valueError "retraction cannot predate its assertion")
      else .ok { graph with
        retractions := graph.retractions.set retraction.assertionId retraction }

end AssertionGraph

end DataHarness
