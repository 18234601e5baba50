import Mathlib.Data.List.Perm.Basic

/-!
# Promotion readiness

`PromotionReadinessEvaluator` collapses the evidence to one item for each kind, the last one of
the tuple. What it reports is fail-closed and independent of the order exactly for evidence
whose items of one kind agree.
-/

namespace DataHarness

/-- `EvidenceKind`. -/
inductive EvidenceKind
  | source
  | ci
  | runtime
  | stakeholder
deriving DecidableEq

/-- The text of a kind. -/
def EvidenceKind.value : EvidenceKind → String
  | .source => "source"
  | .ci => "ci"
  | .runtime => "runtime"
  | .stakeholder => "stakeholder"

/-- Every kind, sorted by its text. -/
def EvidenceKind.sorted : List EvidenceKind := [.ci, .runtime, .source, .stakeholder]

/-- No kind is left out. -/
@[simp] theorem EvidenceKind.mem_sorted (kind : EvidenceKind) : kind ∈ sorted := by
  cases kind <;> simp [sorted]

/-- The list is in the order of the texts. -/
theorem EvidenceKind.sorted_values : (sorted.map value).Pairwise (· ≤ ·) := by decide

/-- `EvidenceStatus`. -/
inductive EvidenceStatus
  | passed
  | failed
  | missing
deriving DecidableEq

/-- `re.fullmatch(r"[0-9a-f]{40}", revision)`. -/
def exactRevision (revision : String) : Bool :=
  revision.length == 40 &&
    revision.toList.all fun c => c.isDigit || (decide ('a' ≤ c) && decide (c ≤ 'f'))

/-- `PromotionEvidence`. -/
structure PromotionEvidence where
  evidenceId : String
  kind : EvidenceKind
  status : EvidenceStatus
  revision : String
  digest : String
  required : evidenceId ≠ "" ∧ digest ≠ ""
  exact : exactRevision revision = true

/-- `CompatibilityEntry`. -/
structure CompatibilityEntry where
  component : String
  revision : String
  compatible : Bool
  evidenceId : String
  required : component ≠ "" ∧ evidenceId ≠ ""
  exact : exactRevision revision = true

/-- `CompatibilityMatrix`. -/
structure CompatibilityMatrix where
  releaseSet : String
  entries : List CompatibilityEntry

/-- `CompatibilityMatrix.compatible`. -/
def CompatibilityMatrix.compatible (matrix : CompatibilityMatrix) : Bool :=
  !matrix.entries.isEmpty && decide (matrix.entries.map (·.component)).Nodup &&
    matrix.entries.all (·.compatible)

/-- `PromotionReadiness`. -/
structure PromotionReadiness where
  readyForAdlcDecision : Bool
  failedKinds : List EvidenceKind
  missingKinds : List EvidenceKind
  compatibilityReady : Bool
deriving DecidableEq

namespace PromotionReadinessEvaluator

/-- `by_kind.get(kind)`: the last item of a kind. -/
def byKind (evidence : List PromotionEvidence) (kind : EvidenceKind) :
    Option PromotionEvidence :=
  evidence.reverse.find? fun item => item.kind = kind

/-- `evaluate`. -/
def evaluate (evidence : List PromotionEvidence) (matrix : CompatibilityMatrix) :
    PromotionReadiness :=
  let missing := EvidenceKind.sorted.filter fun kind =>
    (byKind evidence kind).all fun item => item.status == .missing
  let failed := EvidenceKind.sorted.filter fun kind =>
    (byKind evidence kind).any fun item => item.status == .failed
  let nonpassing := EvidenceKind.sorted.any fun kind =>
    (byKind evidence kind).any fun item => item.status != .passed
  let ready := missing.isEmpty && failed.isEmpty && !nonpassing && matrix.compatible
  ⟨ready, failed, missing, matrix.compatible⟩

/-- What is reported is fail-closed and the same for every order of the evidence. -/
structure FailClosed (evidence : List PromotionEvidence) (matrix : CompatibilityMatrix) :
    Prop where
  passed : (evaluate evidence matrix).readyForAdlcDecision = true →
    ∀ item ∈ evidence, item.status = .passed
  present : (evaluate evidence matrix).readyForAdlcDecision = true →
    ∀ kind, ∃ item ∈ evidence, item.kind = kind
  reported : ∀ item ∈ evidence, item.status = .failed →
    item.kind ∈ (evaluate evidence matrix).failedKinds
  ordered : ∀ permuted, permuted.Perm evidence → evaluate permuted matrix = evaluate evidence matrix

/-- Items of one kind have one status. -/
def Agreeing (evidence : List PromotionEvidence) : Prop :=
  ∀ left ∈ evidence, ∀ right ∈ evidence, left.kind = right.kind → left.status = right.status

variable {evidence : List PromotionEvidence} {matrix : CompatibilityMatrix}

/-! ## The status that counts -/

/-- The status of the last item of a kind. -/
def statusOf (evidence : List PromotionEvidence) (kind : EvidenceKind) : Option EvidenceStatus :=
  (byKind evidence kind).map (·.status)

/-- A kind failed when its last item did. -/
@[simp] theorem mem_failedKinds (kind : EvidenceKind) :
    kind ∈ (evaluate evidence matrix).failedKinds ↔ statusOf evidence kind = some .failed := by
  cases found : byKind evidence kind <;> simp [evaluate, statusOf, found]

/-- A kind is missing when it has no item, or its last item says so. -/
@[simp] theorem mem_missingKinds (kind : EvidenceKind) :
    kind ∈ (evaluate evidence matrix).missingKinds ↔
      statusOf evidence kind = none ∨ statusOf evidence kind = some .missing := by
  cases found : byKind evidence kind <;> simp [evaluate, statusOf, found]

/-- A ready release has a passed item last, for every kind. -/
theorem ready_passed (ready : (evaluate evidence matrix).readyForAdlcDecision = true)
    (kind : EvidenceKind) : statusOf evidence kind = some .passed := by
  simp only [evaluate, Bool.and_eq_true, List.isEmpty_iff, List.filter_eq_nil_iff,
    EvidenceKind.mem_sorted, true_implies, Bool.not_eq_true', List.any_eq_false] at ready
  obtain ⟨⟨⟨present, -⟩, passing⟩, -⟩ := ready
  have present := present kind
  have passing := passing kind
  cases found : byKind evidence kind with
  | none => simp [found] at present
  | some item =>
    have passed : item.status = .passed := by simpa [found] using passing
    simp [statusOf, found, passed]

/-- Only these statuses are reported on. -/
theorem evaluate_congr {permuted : List PromotionEvidence}
    (same : ∀ kind, statusOf permuted kind = statusOf evidence kind) :
    evaluate permuted matrix = evaluate evidence matrix := by
  have none? : ∀ (items : List PromotionEvidence) kind (test : EvidenceStatus → Bool),
      ((byKind items kind).any fun item => test item.status) = (statusOf items kind).any test := by
    intro items kind test
    simp [statusOf, Option.any_map]
  have all? : ∀ (items : List PromotionEvidence) kind (test : EvidenceStatus → Bool),
      ((byKind items kind).all fun item => test item.status) = (statusOf items kind).all test := by
    intro items kind test
    simp [statusOf, Option.all_map]
  unfold evaluate
  simp only [none? _ _ (· == .failed), none? _ _ (· != .passed), all? _ _ (· == .missing), same]

/-- The last item is the one of its kind that counts. -/
theorem statusOf_snoc (front : List PromotionEvidence) (item : PromotionEvidence) :
    statusOf (front ++ [item]) item.kind = some item.status := by
  simp [statusOf, byKind]

/-- The status of a kind is that of an item. -/
theorem of_statusOf {kind : EvidenceKind} {status : EvidenceStatus}
    (counts : statusOf evidence kind = some status) :
    ∃ item ∈ evidence, item.kind = kind ∧ item.status = status := by
  obtain ⟨item, found, rfl⟩ := Option.map_eq_some_iff.mp counts
  refine ⟨item, ?_, ?_, rfl⟩
  · exact List.mem_reverse.mp (List.mem_of_find?_eq_some found)
  · simpa using List.find?_some found

/-- A kind that has an item has one that counts. -/
theorem exists_statusOf {item : PromotionEvidence} (here : item ∈ evidence) :
    ∃ status, statusOf evidence item.kind = some status := by
  cases counts : byKind evidence item.kind with
  | none =>
    rw [byKind, List.find?_eq_none] at counts
    have absent := counts item (List.mem_reverse.mpr here)
    simp at absent
  | some other => exact ⟨other.status, by simp [statusOf, counts]⟩

/-- Where the items of a kind agree, any of them counts. -/
theorem Agreeing.statusOf (agreeing : Agreeing evidence) {item : PromotionEvidence}
    (here : item ∈ evidence) :
    PromotionReadinessEvaluator.statusOf evidence item.kind = some item.status := by
  obtain ⟨status, counts⟩ := exists_statusOf here
  obtain ⟨other, there, kind, same⟩ := of_statusOf counts
  rw [counts, ← same, agreeing other there item here kind]

/-- A permutation of agreeing items agrees. -/
theorem Agreeing.perm (agreeing : Agreeing evidence) {permuted : List PromotionEvidence}
    (perm : permuted.Perm evidence) : Agreeing permuted := by
  intro left leftMem right rightMem
  exact agreeing left (perm.mem_iff.mp leftMem) right (perm.mem_iff.mp rightMem)

/-- It counts the same statuses. -/
theorem Agreeing.statusOf_perm (agreeing : Agreeing evidence) {permuted : List PromotionEvidence}
    (perm : permuted.Perm evidence) (kind : EvidenceKind) :
    PromotionReadinessEvaluator.statusOf permuted kind =
      PromotionReadinessEvaluator.statusOf evidence kind := by
  cases counts : PromotionReadinessEvaluator.statusOf evidence kind with
  | some status =>
    obtain ⟨item, here, rfl, rfl⟩ := of_statusOf counts
    exact (agreeing.perm perm).statusOf (perm.mem_iff.mpr here)
  | none =>
    cases other : PromotionReadinessEvaluator.statusOf permuted kind with
    | none => rfl
    | some status =>
      obtain ⟨item, here, rfl, -⟩ := of_statusOf other
      have counted := agreeing.statusOf (perm.mem_iff.mp here)
      simp [counts] at counted

/-! ## When the report can be trusted -/

/-- Any item can be brought last. -/
theorem exists_perm_last {item : PromotionEvidence} (here : item ∈ evidence) :
    ∃ front, (front ++ [item]).Perm evidence := by
  obtain ⟨before, after, rfl⟩ := List.append_of_mem here
  refine ⟨before ++ after, ?_⟩
  rw [List.append_assoc]
  exact List.Perm.append_left before List.perm_append_comm

/-- A report that is the same for every order counts every item. -/
theorem FailClosed.statusOf (closed : FailClosed evidence matrix) {item : PromotionEvidence}
    (here : item ∈ evidence) :
    PromotionReadinessEvaluator.statusOf evidence item.kind = some item.status := by
  obtain ⟨front, perm⟩ := exists_perm_last here
  have same := closed.ordered (front ++ [item]) perm
  have last := statusOf_snoc front item
  have failed : item.kind ∈ (evaluate (front ++ [item]) matrix).failedKinds ↔
      item.kind ∈ (evaluate evidence matrix).failedKinds := by rw [same]
  have missing : item.kind ∈ (evaluate (front ++ [item]) matrix).missingKinds ↔
      item.kind ∈ (evaluate evidence matrix).missingKinds := by rw [same]
  rw [mem_failedKinds, mem_failedKinds, last] at failed
  rw [mem_missingKinds, mem_missingKinds, last] at missing
  -- The two lists of kinds tell the three statuses and an absent kind apart.
  obtain ⟨status, counts⟩ := exists_statusOf here
  rw [counts] at failed missing ⊢
  cases status <;> cases own : item.status <;> simp_all

/-- The report is fail-closed and the same for every order exactly for evidence whose items of
one kind agree. -/
theorem failClosed_iff (evidence : List PromotionEvidence) (matrix : CompatibilityMatrix) :
    FailClosed evidence matrix ↔ Agreeing evidence := by
  constructor
  · intro closed left leftMem right rightMem kind
    have counted := closed.statusOf leftMem
    rw [kind, closed.statusOf rightMem] at counted
    exact (Option.some.inj counted).symm
  · intro agreeing
    refine ⟨?_, ?_, ?_, ?_⟩
    · intro ready item here
      have counted := agreeing.statusOf here
      rw [ready_passed ready item.kind] at counted
      exact (Option.some.inj counted).symm
    · intro ready kind
      obtain ⟨item, here, same, -⟩ := of_statusOf (ready_passed ready kind)
      exact ⟨item, here, same⟩
    · intro item here failed
      rw [mem_failedKinds, agreeing.statusOf here, failed]
    · intro permuted perm
      exact evaluate_congr fun kind => agreeing.statusOf_perm perm kind

/-! ## A failed item that is not counted -/

/-- An item of a kind, for small runs. -/
def item (kind : EvidenceKind) (status : EvidenceStatus) : PromotionEvidence where
  evidenceId := kind.value
  kind := kind
  status := status
  revision := "0123456789abcdef0123456789abcdef01234567"
  digest := "sha256:evidence"
  required := by cases kind <;> simp [EvidenceKind.value]
  exact := by decide

/-- A matrix of one compatible component. -/
def oneComponent : CompatibilityMatrix where
  releaseSet := "release"
  entries := [⟨"component", "0123456789abcdef0123456789abcdef01234567", true, "evidence",
    by decide, by decide⟩]

/-- Source evidence that failed stands before source evidence that passed. -/
def failedFirst : List PromotionEvidence :=
  [item .source .failed, item .source .passed, item .ci .passed, item .runtime .passed,
    item .stakeholder .passed]

/-- The release is reported ready with no failed kind; with the first two items exchanged it is
not. -/
theorem failedFirst_ready :
    evaluate failedFirst oneComponent = ⟨true, [], [], true⟩ ∧
      item .source .failed ∈ failedFirst ∧
      (evaluate [item .source .passed, item .source .failed, item .ci .passed,
        item .runtime .passed, item .stakeholder .passed] oneComponent) =
          ⟨false, [.source], [], true⟩ ∧
      ¬ FailClosed failedFirst oneComponent := by
  have ready : evaluate failedFirst oneComponent = ⟨true, [], [], true⟩ := by decide
  have here : item .source .failed ∈ failedFirst := by simp [failedFirst]
  refine ⟨ready, here, by decide, fun closed => ?_⟩
  have passed := closed.passed (by rw [ready]) _ here
  simp [item] at passed

end PromotionReadinessEvaluator

end DataHarness
