import DataHarness.Decode.Numbers
import DataHarness.Library.Register
import DataHarness.Semantic.Routing

/-!
# Checkpoints and observations

`CheckpointLedger` keeps the checkpoint of each stream and `FreshnessRegistry` the last observation
of each asset. Both refuse what would move backwards, so that both are stores of registers: what is
held after any calls, refused ones among them, is told by the calls of one stream or one asset.
-/

namespace DataHarness

/-! ## Checkpoints -/

/-- `CheckpointToken`. -/
structure CheckpointToken where
  sourceId : String
  streamId : String
  position : String
  observedAt : DateTime
  connectorVersion : String
  required : sourceId ≠ "" ∧ streamId ≠ "" ∧ position ≠ "" ∧ connectorVersion ≠ ""
  aware : observedAt.aware = true
deriving DecidableEq

/-- The names of the telemetry stream and a version are not empty. -/
theorem telemetry_filled :
    "whitegoods.telemetry" ≠ "" ∧ "telemetry_events" ≠ "" ∧ "1.0.0" ≠ "" := by decide

/-- The time of a checkpoint tells its zone. -/
theorem checkpoint_zoned : noon.aware = true := noon_aware.1

/-- A checkpoint of the telemetry stream. -/
def CheckpointToken.telemetry (position : String) (filled : position ≠ "") : CheckpointToken :=
  ⟨"whitegoods.telemetry", "telemetry_events", position, noon, "1.0.0",
    ⟨telemetry_filled.1, telemetry_filled.2.1, filled, telemetry_filled.2.2⟩, checkpoint_zoned⟩

/-- The stream a checkpoint is kept under. -/
def CheckpointToken.key (token : CheckpointToken) : String × String :=
  (token.sourceId, token.streamId)

/-- What `record` raises: a `ValueError`, or a `CheckpointRegression`. -/
inductive CheckpointError
  | value (message : String)
  | regression (message : String)
deriving DecidableEq

/-- `int(position)`. -/
def readPosition (position : String) : Except CheckpointError Int :=
  match intOfText position with
  | some number => .ok number
  | none => .error (.value "the v1 checkpoint ledger requires an integer position")

/-- `CheckpointLedger`. -/
abbrev CheckpointLedger := Table CheckpointToken (String × String) CheckpointToken.key

namespace CheckpointLedger

/-- What `record` checks a checkpoint for, given the one of its stream; times of fixed offsets
compare as instants. -/
def check : Register CheckpointToken CheckpointError
  | none, token => (readPosition token.position).map fun _ => ()
  | some previous, token => do
    let position ← readPosition token.position
    let previousPosition ← readPosition previous.position
    if token.connectorVersion ≠ previous.connectorVersion then
      .error (.regression "connector version changed; explicit migration is required")
    else if position < previousPosition then
      .error (.regression "checkpoint position regressed")
    else if token.observedAt.instant < previous.observedAt.instant then
      .error (.regression "checkpoint observation time regressed")
    else .ok ()

/-- `record`. -/
def record (ledger : CheckpointLedger) (token : CheckpointToken) :
    Except CheckpointError CheckpointLedger := Table.record check ledger token

/-- `resume`. -/
def resume (ledger : CheckpointLedger) (sourceId streamId : String) : Option CheckpointToken :=
  ledger.find? (sourceId, streamId)

/-- A ledger keeps a register for each stream. -/
def registers : Registers CheckpointLedger CheckpointToken (String × String) CheckpointError :=
  Table.registers check

/-- The ledger after several calls of `record`, those that raise among them. -/
def run (ledger : CheckpointLedger) (tokens : List CheckpointToken) : CheckpointLedger :=
  registers.run ledger tokens

/-- Calls one after another. -/
theorem run_append (ledger : CheckpointLedger) (front back : List CheckpointToken) :
    ledger.run (front ++ back) = (ledger.run front).run back := List.foldl_append

/-- A call that goes through leaves the new ledger. -/
theorem run_recorded {ledger next : CheckpointLedger} {token : CheckpointToken}
    (recorded : ledger.record token = .ok next) : ledger.run [token] = next := by
  show registers.offer ledger token = next
  unfold Registers.offer
  rw [show registers.record ledger token = .ok next from recorded]

/-- The position of a checkpoint, where it is a number. -/
def position (token : CheckpointToken) : Int := (intOfText token.position).getD 0

/-- One checkpoint is not behind another of the same connector version. -/
structure Reaches (early late : CheckpointToken) : Prop where
  version : late.connectorVersion = early.connectorVersion
  position : position early ≤ position late
  observed : early.observedAt.instant ≤ late.observedAt.instant

/-- A checkpoint reaches itself. -/
theorem Reaches.refl (token : CheckpointToken) : Reaches token token :=
  ⟨rfl, le_refl _, le_refl _⟩

/-- What a checkpoint reaches, every later one reaches. -/
theorem Reaches.trans (early middle late : CheckpointToken) (first : Reaches early middle)
    (second : Reaches middle late) : Reaches early late :=
  ⟨second.version.trans first.version, le_trans first.position second.position,
    le_trans first.observed second.observed⟩

/-- A position that is read is a number. -/
theorem readPosition_eq_ok {text : String} {number : Int} (read : readPosition text = .ok number) :
    intOfText text = some number := by
  unfold readPosition at read
  cases found : intOfText text with
  | none =>
    rw [found] at read
    cases read
  | some other =>
    rw [found] at read
    rw [Except.ok.inj read]

/-- The position of a checkpoint that is taken is a number. -/
theorem numeric_of_takes {previous : Option CheckpointToken} {token : CheckpointToken}
    (takes : check.Takes previous token) : intOfText token.position = some (position token) := by
  have read : ∃ number, readPosition token.position = .ok number := by
    cases answer : readPosition token.position with
    | ok number => exact ⟨number, rfl⟩
    | error error =>
      have refused : check previous token = .error error := by
        cases previous with
        | none =>
          show (readPosition token.position).map _ = _
          rw [answer]
          rfl
        | some before =>
          show (readPosition token.position >>= _) = _
          rw [answer]
          rfl
      rw [show check previous token = .ok () from takes] at refused
      cases refused
  obtain ⟨number, read⟩ := read
  have found := readPosition_eq_ok read
  unfold position
  rw [found, Option.getD_some]

/-- A checkpoint that is taken reaches the one before it. -/
theorem forward_check : check.Forward Reaches := by
  intro previous token takes
  have numeric := numeric_of_takes takes
  have answer : check (some previous) token = .ok () := takes
  unfold check at answer
  obtain ⟨number, first, answer⟩ := of_bind_ok answer
  obtain ⟨old, second, answer⟩ := of_bind_ok answer
  have new : number = position token := by
    rw [readPosition_eq_ok first] at numeric
    exact Option.some.inj numeric
  have before : old = position previous := by
    unfold position
    rw [readPosition_eq_ok second, Option.getD_some]
  by_cases changed : token.connectorVersion ≠ previous.connectorVersion
  · rw [if_pos changed] at answer
    cases answer
  · rw [if_neg changed] at answer
    by_cases back : number < old
    · rw [if_pos back] at answer
      cases answer
    · rw [if_neg back] at answer
      by_cases earlier : token.observedAt.instant < previous.observedAt.instant
      · rw [if_pos earlier] at answer
        cases answer
      · rw [new, before] at back
        exact ⟨not_not.mp changed, not_lt.mp back, not_lt.mp earlier⟩

/-- What a stream resumes from after any calls is told by the calls of that stream. -/
theorem resume_run (ledger : CheckpointLedger) (tokens : List CheckpointToken)
    (sourceId streamId : String) :
    (ledger.run tokens).resume sourceId streamId =
      check.run (ledger.resume sourceId streamId)
        (registers.offersOf (sourceId, streamId) tokens) :=
  registers.find?_run ledger tokens (sourceId, streamId)

/-- A recorded checkpoint is the one its stream resumes from. -/
theorem resume_record {ledger next : CheckpointLedger} {token : CheckpointToken}
    (recorded : ledger.record token = .ok next) :
    next.resume token.sourceId token.streamId = some token := by
  unfold record Table.record at recorded
  obtain ⟨done, -, made⟩ := of_bind_ok recorded
  obtain rfl := Except.ok.inj made
  show (Table.put ledger token).find? token.key = some token
  rw [Table.find?_put, if_pos rfl]

/-- A stream that resumes from a checkpoint goes on from one that reaches it. -/
theorem resume_reaches {ledger : CheckpointLedger} {sourceId streamId : String}
    {early : CheckpointToken} (held : ledger.resume sourceId streamId = some early)
    (tokens : List CheckpointToken) :
    ∃ late, (ledger.run tokens).resume sourceId streamId = some late ∧ Reaches early late := by
  obtain ⟨late, ran, reaches⟩ := forward_check.run Reaches.refl Reaches.trans early
    (registers.offersOf (sourceId, streamId) tokens)
  refine ⟨late, ?_, reaches⟩
  rw [resume_run, held, ran]

/-- The position of the checkpoint a stream resumes from is a number. -/
theorem numeric_resume {tokens : List CheckpointToken} {sourceId streamId : String}
    {held : CheckpointToken}
    (resumed : (run Table.empty tokens).resume sourceId streamId = some held) :
    intOfText held.position = some (position held) := by
  rw [resume_run, Register.run_eq] at resumed
  rcases Option.or_eq_some_iff.mp resumed with last | ⟨-, before⟩
  · obtain ⟨previous, takes⟩ := Register.takes_of_mem_taken (List.mem_of_getLast? last)
    exact numeric_of_takes takes
  · cases before

end CheckpointLedger

/-! ## Observations -/

namespace FreshnessRegistry

/-- What `record` checks an observation for, given the last one of its asset; times of fixed offsets
compare as instants. -/
def check : Register FreshnessObservation String
  | none, _ => .ok ()
  | some previous, observation =>
    if observation.observedAt.instant < previous.observedAt.instant then
      .error "freshness observations must be recorded monotonically"
    else .ok ()

/-- The check against an observation before. -/
theorem check_some (previous observation : FreshnessObservation) :
    check (some previous) observation =
      if observation.observedAt.instant < previous.observedAt.instant then
        .error "freshness observations must be recorded monotonically"
      else .ok () := rfl

/-- An observation that is taken is not earlier than the one before it. -/
theorem takes_some {previous observation : FreshnessObservation} :
    check.Takes (some previous) observation ↔
      ¬ observation.observedAt.instant < previous.observedAt.instant := by
  unfold Register.Takes
  rw [check_some]
  by_cases back : observation.observedAt.instant < previous.observedAt.instant
  · rw [if_pos back]
    constructor
    · intro answer
      cases answer
    · intro forward
      exact absurd back forward
  · rw [if_neg back]
    exact ⟨fun _ => back, fun _ => rfl⟩

/-- A registry keeps a register for each asset. -/
def registers : Registers FreshnessRegistry FreshnessObservation (String × String) String where
  find? := Table.find?
  key := FreshnessObservation.key
  record := record
  register := check
  refused := by
    intro registry observation error refused
    unfold record
    split
    · rename_i missing
      rw [missing] at refused
      cases refused
    · rename_i previous found
      rw [found, check_some] at refused
      split at refused
      · rename_i back
        rw [if_pos back, ← Except.error.inj refused]
      · cases refused
  recorded := by
    intro registry observation takes
    have accepted : ∃ next, registry.record observation = .ok next := by
      unfold record
      split
      · exact ⟨_, rfl⟩
      · rename_i previous found
        rw [found, takes_some] at takes
        rw [if_neg takes]
        exact ⟨_, rfl⟩
    obtain ⟨next, recorded⟩ := accepted
    exact ⟨next, recorded, find?_record recorded⟩

/-- The registry after several calls of `record`, those that raise among them. -/
def run (registry : FreshnessRegistry) (observations : List FreshnessObservation) :
    FreshnessRegistry := registers.run registry observations

/-- One observation is not later than another. -/
def NotLater (early late : FreshnessObservation) : Prop :=
  early.observedAt.instant ≤ late.observedAt.instant

/-- Observations move a registry forward. -/
theorem forward_check : check.Forward NotLater := by
  intro previous observation takes
  exact not_lt.mp (takes_some.mp takes)

/-- Only an observation that is earlier than the one before it is refused. -/
theorem eager_check : check.Eager NotLater := by
  intro held observation error refused
  cases held with
  | none => cases refused
  | some previous =>
    refine ⟨previous, rfl, ?_⟩
    rw [check_some] at refused
    split at refused
    · rename_i back
      exact le_of_lt back
    · cases refused

/-- The observations of one asset. -/
abbrev observationsOf (sourceId assetId : String) (observations : List FreshnessObservation) :
    List FreshnessObservation :=
  observations.filter fun observation => observation.key = (sourceId, assetId)

/-- What an asset is assessed as by one observation of it. -/
def assessedBy (observation : FreshnessObservation) (slo : FreshnessSLO) (time : DateTime) :
    Except String FreshnessAssessment :=
  (observation.ageAt time).map fun age =>
    ⟨observation.sourceId, observation.assetId, decide (0 ≤ age ∧ age ≤ slo.maxAge),
      milliseconds age, observation.watermark,
      if decide (0 ≤ age ∧ age ≤ slo.maxAge) then none else some slo.onBreach⟩

/-- An asset that was observed is assessed by the observation that is held. -/
theorem assess_held {registry : FreshnessRegistry} {observation : FreshnessObservation}
    {sourceId assetId : String} (held : registry.find? (sourceId, assetId) = some observation)
    (slo : FreshnessSLO) (time : DateTime) :
    registry.assess sourceId assetId slo time = assessedBy observation slo time := by
  have key : observation.key = (sourceId, assetId) := Table.key_of_find? held
  obtain ⟨source, asset⟩ := Prod.mk.inj key
  unfold assess assessedBy
  rw [held, ← source, ← asset]
  show (observation.ageAt time >>= _) = _
  cases observation.ageAt time <;> rfl

/-- Whatever calls of `record` were made on an empty registry, in any order and with any of them
refused, an asset is assessed by the latest of its observations, and one that has none is missing;
their times have fixed offsets, so that the last one taken is the latest.
Where no two observations of the asset were made at one time, the order of the calls does not
change any assessment of it. -/
theorem assess_run (observations : List FreshnessObservation) (sourceId assetId : String) :
    (observationsOf sourceId assetId observations = [] →
      ∀ slo time, (run Table.empty observations).assess sourceId assetId slo time =
        .ok ⟨sourceId, assetId, false, -1, "missing", some slo.onBreach⟩) ∧
    (observationsOf sourceId assetId observations ≠ [] →
      ∃ latest ∈ observationsOf sourceId assetId observations,
        (∀ other ∈ observationsOf sourceId assetId observations, NotLater other latest) ∧
        ∀ slo time, (run Table.empty observations).assess sourceId assetId slo time =
          assessedBy latest slo time) ∧
    ∀ others : List FreshnessObservation, observations.Perm others →
      (∀ a ∈ observationsOf sourceId assetId observations,
        ∀ b ∈ observationsOf sourceId assetId observations,
          a.observedAt.instant = b.observedAt.instant → a = b) →
      ∀ slo time, (run Table.empty observations).assess sourceId assetId slo time =
        (run Table.empty others).assess sourceId assetId slo time := by
  have refl : ∀ observation, NotLater observation observation := fun _ => le_refl _
  have trans : ∀ a b c, NotLater a b → NotLater b c → NotLater a c := fun _ _ _ => le_trans
  have found : ∀ list : List FreshnessObservation,
      (run Table.empty list).find? (sourceId, assetId) =
        check.run none (observationsOf sourceId assetId list) := fun list =>
    registers.find?_run Table.empty list (sourceId, assetId)
  refine ⟨?_, ?_, ?_⟩
  · intro none slo time
    have missing : (run Table.empty observations).find? (sourceId, assetId) = .none := by
      rw [found, none]
      rfl
    unfold assess
    rw [missing]
  · intro some
    obtain ⟨first, member⟩ := List.exists_mem_of_ne_nil _ some
    obtain ⟨latest, ran, -⟩ := forward_check.offered_le eager_check refl trans none _ first member
    refine ⟨latest, (Register.mem_of_run ran).resolve_left (by simp), ?_, ?_⟩
    · intro other among
      obtain ⟨same, again, behind⟩ :=
        forward_check.offered_le eager_check refl trans none _ other among
      rw [ran, Option.some.injEq] at again
      rw [again]
      exact behind
    · apply assess_held
      rw [found, ran]
  · intro others perm strict slo time
    have same : (run Table.empty observations).find? (sourceId, assetId) =
        (run Table.empty others).find? (sourceId, assetId) := by
      rw [found, found]
      apply forward_check.run_perm eager_check refl trans (perm.filter _)
      intro a first b second early late
      exact strict a first b second (le_antisymm early late)
    unfold assess
    rw [same]

end FreshnessRegistry

end DataHarness
