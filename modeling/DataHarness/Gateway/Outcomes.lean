import DataHarness.Gateway.Quiet

/-!
# Journals of gateway runs

The journal after a run of any gateways is the replay of the transactions its labels show
(`run_journal`), all with bound receipts (`run_bound`), so what is known of replays holds of
runs. Verification of such a journal alarms on a recorded failure, and on nothing else while
action ids name bindings.
-/

namespace DataHarness

open Effect

/-- The write transaction of a step, also when it raised. -/
def transaction? : Label gatewaySignature Owner → Option JournalTx
  | .perform _ _ (.journal tx) _ => some tx
  | _ => none

/-- The write transactions of a run. -/
def transactions (labels : List (Label gatewaySignature Owner)) : List JournalTx :=
  labels.filterMap transaction?

/-- One more label adds its transaction. -/
theorem transactions_snoc (labels : List (Label gatewaySignature Owner))
    (label : Label gatewaySignature Owner) :
    transactions (labels ++ [label]) = transactions labels ++ transactions [label] := by
  simp [transactions]

section Runs

variable [Stdlib] {key : IntegrityKey} {kinds : Nat → GatewayKind}
  {labels : List (Label gatewaySignature Owner)}
  {pool : Pool gatewaySignature ActionError Returned Owner Shared}

/-- A step changes the journal by the transaction its label shows. -/
theorem step_journal {after : Pool gatewaySignature ActionError Returned Owner Shared}
    {label : Label gatewaySignature Owner}
    (step : (gateways key kinds).Step pool label after) :
    after.shared.journal = Journal.replay key pool.shared.journal (transactions [label]) := by
  cases step with
  | spawn owner => rfl
  | perform index owner op next world ready =>
    refine (perform_journal key owner.gateway world pool.shared op).trans ?_
    cases op <;> rfl
  | kill index => rfl
  | crash => rfl

/-- The journal of a run is the replay of its transactions. -/
theorem run_journal (run : (gateways key kinds).system.Run ⟨.initial, []⟩ labels pool) :
    pool.shared.journal = Journal.replay key .empty (transactions labels) := by
  induction run with
  | nil => rfl
  | snoc before step ih =>
    rw [step_journal step, ih, transactions_snoc]
    simp [Journal.replay]

/-- Every transaction of a run has a bound receipt. -/
theorem run_bound (run : (gateways key kinds).system.Run ⟨.initial, []⟩ labels pool) :
    ∀ tx ∈ transactions labels, tx.Bound := by
  intro tx member
  obtain ⟨label, inside, shown⟩ := List.mem_filterMap.mp member
  have within := Machine.run_makes (fun _ op => ∀ tx, op = GatewayOp.journal tx → tx.Bound)
    (fun owner => program_makes (fun op quiet tx same => by
        subst same
        cases quiet.2)
      (fun tx bound other same => by
        cases same
        exact bound)
      (fun action tx same => by cases same) (kinds owner.gateway) owner.call) run
  simp only [transaction?] at shown
  split at shown
  · rename_i index owner tx' reply
    obtain rfl := Option.some.inj shown
    exact within index owner (.journal tx') reply inside tx' rfl
  · cases shown

/-! ## Small runs -/

/-- Surroundings that allow everything at noon, with one result for every connector call. -/
def obliging (result : Except ActionError PyValue) : World gatewaySignature
  | .now => noon
  | .verifyApproval _ _ _ _ _ => .ok true
  | .evaluate _ => .ok ⟨true, "allow", "allowed"⟩
  | .emit _ => .ok ()
  | .connector _ => .ok ⟨true, true⟩
  | .invoke _ => ()
  | .await _ => result
  | .afterMutation _ _ => .ok ()
  | .audit _ _ _ _ => .error .assertionError
  | .auditLength => (0 : Nat)
  | .lookup _ => none
  | .remember _ _ _ => ()
  | .journal _ => .ok none
  | .get _ => .ok none

/-- A call of `execute` on a gateway, for a plan that needs no approval. -/
def smallExecution (gateway : Nat) (action : SourceActionPlan) : Owner :=
  ⟨gateway, .execute action action.smallPreview .small none⟩

/-- A task makes so many calls in a row. -/
def calls (index count : Nat) (world : World gatewaySignature) :
    List (Machine.Choice gatewaySignature Owner) :=
  List.replicate count (.perform index world)

/-- Durable gateways that share a journal. -/
def durableGateways : Machine gatewaySignature ActionError Returned Owner Shared :=
  gateways .small fun _ => .durable

/-! ## Verification of outcomes -/

/-- The journal of a run whose action ids name bindings verifies exactly when no record has
failed. -/
theorem verify_run_iff (collisions : Sha256Injective) (injective : HmacInjective)
    (run : (gateways key kinds).system.Run ⟨.initial, []⟩ labels pool)
    (actions : pool.shared.journal.DistinctActions) :
    pool.shared.journal.verify key = .ok true ↔
      ∀ row ∈ pool.shared.journal.records.rows, row.state ≠ DurableActionState.failed.value := by
  rw [run_journal run] at actions ⊢
  rw [verify_replay_iff collisions injective key _ (run_bound run)]
  exact and_iff_right actions

end Runs

/-- A script whose last pool passes a check is a run to such a pool. -/
theorem played (machine : Machine gatewaySignature ActionError Returned Owner Shared)
    (script : List (Machine.Choice gatewaySignature Owner))
    (check : List (Label gatewaySignature Owner) →
      Pool gatewaySignature ActionError Returned Owner Shared → Bool)
    (passed : (machine.play ⟨.initial, []⟩ script).any (fun last => check last.1 last.2) = true) :
    ∃ labels pool, machine.system.Run ⟨.initial, []⟩ labels pool ∧ check labels pool = true := by
  obtain ⟨⟨labels, pool⟩, ran, checked⟩ := (Option.any_eq_true _ _).mp passed
  exact ⟨labels, pool, Machine.play_run ran, checked⟩

/-- A script whose steps pass a test and whose last pool passes a check is a run of such steps to
such a pool. -/
theorem played_within (machine : Machine gatewaySignature ActionError Returned Owner Shared)
    (allows : Pool gatewaySignature ActionError Returned Owner Shared →
      Label gatewaySignature Owner → Bool)
    (script : List (Machine.Choice gatewaySignature Owner))
    (check : List (Label gatewaySignature Owner) →
      Pool gatewaySignature ActionError Returned Owner Shared → Bool)
    (allowed : machine.passes allows ⟨.initial, []⟩ script = true)
    (passed : (machine.play ⟨.initial, []⟩ script).any (fun last => check last.1 last.2) = true) :
    ∃ labels pool, (machine.within allows).Run ⟨.initial, []⟩ labels pool ∧
      check labels pool = true := by
  obtain ⟨⟨labels, pool⟩, ran, checked⟩ := (Option.any_eq_true _ _).mp passed
  exact ⟨labels, pool, Machine.play_within ran allowed, checked⟩

/-- Two scripts, one after the other, the second one with steps that pass a test, whose pools
pass a check, are a run that goes on with such steps. -/
theorem played_on (machine : Machine gatewaySignature ActionError Returned Owner Shared)
    (allows : Pool gatewaySignature ActionError Returned Owner Shared →
      Label gatewaySignature Owner → Bool)
    (script more : List (Machine.Choice gatewaySignature Owner))
    (check : Pool gatewaySignature ActionError Returned Owner Shared →
      Pool gatewaySignature ActionError Returned Owner Shared → Bool)
    (passed : (machine.play ⟨.initial, []⟩ script).any (fun first =>
      machine.passes allows first.2 more &&
        (machine.play first.2 more).any fun last => check first.2 last.2) = true) :
    ∃ labels pool later last, machine.system.Run ⟨.initial, []⟩ labels pool ∧
      (machine.within allows).Run pool later last ∧ check pool last = true := by
  obtain ⟨⟨labels, pool⟩, ran, onward⟩ := (Option.any_eq_true _ _).mp passed
  rw [Bool.and_eq_true] at onward
  obtain ⟨⟨later, last⟩, continued, checked⟩ := (Option.any_eq_true _ _).mp onward.2
  exact ⟨labels, pool, later, last, Machine.play_run ran, Machine.play_within continued onward.1,
    checked⟩

/-- The connector's answer when an action did not succeed. -/
def unsuccessful : PyValue := .mapping [(.str "success", .bool false)] "unsuccessful"

/-- The connector's answer when an action succeeded. -/
def successful : PyValue :=
  .mapping [(.str "success", .bool true), (.str "postconditions_met", .bool true)] "successful"

/-- A run of one execution, all its calls answered the same way. -/
def oneExecution [Stdlib] (result : PyValue) : List (Machine.Choice gatewaySignature Owner) :=
  .spawn (smallExecution 0 .first) ::
    calls 0 17 (obliging (.ok result))

/-- Action ids name bindings, and the records are in these states. -/
def journalIn (states : List DurableActionState) (_ : List (Label gatewaySignature Owner))
    (pool : Pool gatewaySignature ActionError Returned Owner Shared) : Bool :=
  decide pool.shared.journal.DistinctActions &&
    pool.shared.journal.records.rows.map RecordRow.state == states.map DurableActionState.value

/-- A successful execution leaves a journal that verifies, because no record failed. -/
theorem verify_run_successful : letI := Stdlib.transparent
    ∃ labels pool, durableGateways.system.Run ⟨.initial, []⟩ labels pool ∧
      pool.shared.journal.verify .small = .ok true := by
  let := Stdlib.transparent
  obtain ⟨labels, pool, run, seen⟩ := played durableGateways (oneExecution successful)
    (journalIn [.executed]) (by decide +kernel)
  simp only [journalIn, Bool.and_eq_true, decide_eq_true_eq, beq_iff_eq] at seen
  obtain ⟨actions, states⟩ := seen
  refine ⟨labels, pool, run, (verify_run_iff Stdlib.transparent_sha256 Stdlib.transparent_hmac run
    actions).mpr fun row member failed => ?_⟩
  have among := List.mem_map.mpr ⟨row, member, failed⟩
  rw [states] at among
  exact absurd among (by decide)

/-- An execution whose connector reports no success leaves a journal that fails verification,
although action ids name bindings. -/
theorem verify_run_unsuccessful : letI := Stdlib.transparent
    ∃ labels pool, durableGateways.system.Run ⟨.initial, []⟩ labels pool ∧
      pool.shared.journal.DistinctActions ∧ pool.shared.journal.verify .small = .ok false := by
  let := Stdlib.transparent
  obtain ⟨labels, pool, run, seen⟩ := played durableGateways (oneExecution unsuccessful)
    (journalIn [.failed]) (by decide +kernel)
  simp only [journalIn, Bool.and_eq_true, decide_eq_true_eq, beq_iff_eq] at seen
  obtain ⟨actions, states⟩ := seen
  refine ⟨labels, pool, run, actions, ?_⟩
  rw [run_journal run] at states ⊢
  obtain ⟨verdict, decided⟩ := verify_replay_decides .small (transactions labels)
  cases verdict with
  | false => exact decided
  | true =>
    have unfailed := ((verify_replay_iff Stdlib.transparent_sha256 Stdlib.transparent_hmac .small _
      (run_bound run)).mp decided).2
    have failed : DurableActionState.failed.value ∈
        (Journal.replay .small .empty (transactions labels)).records.rows.map RecordRow.state := by
      rw [states]
      decide
    obtain ⟨row, member, same⟩ := List.mem_map.mp failed
    exact absurd same (unfailed row member)

end DataHarness
