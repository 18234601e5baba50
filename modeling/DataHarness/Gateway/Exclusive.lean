import DataHarness.Gateway.Progress

/-!
# In-memory idempotency on one event loop

Calls of one `ActionGateway` on one event loop. The table of idempotency keys is read before
`connector.mutate` and written after it, and `mutate` suspends in between, so the table alone
excludes nothing: what excludes a second mutation is that no call finds its key unbound while
another one is suspended in a mutation under it (`looksAlone`).
-/

namespace DataHarness

open Effect Program Transition

/-! ## What a run shows -/

/-- The key of a mutation whose answer a step took, and whether it reported success. -/
def answered? : Label gatewaySignature Owner → Option (Binding × Bool)
  | .perform _ _ (.await (.mutate sourceId request)) answer =>
    some ((sourceId, request.idempotencyKey), reportsSuccess answer)
  | _ => none

/-- How often a mutation under a key was answered with success. -/
def successes (labels : List (Label gatewaySignature Owner)) (binding : Binding) : Nat :=
  labels.countP fun label => answered? label = some (binding, true)

/-- How often a mutation under a key ended without success. -/
def failures (labels : List (Label gatewaySignature Owner)) (binding : Binding) : Nat :=
  labels.countP fun label => answered? label = some (binding, false)

section Runs

variable [Stdlib]

/-- How far the calls of a run have come. -/
def progressOf (labels : List (Label gatewaySignature Owner)) : List Progress :=
  Machine.locals progressProtocol (fun owner => owner.call.progress) labels

/-- How many calls are in a phase with a key. -/
def inPhase (phase : Phase) (labels : List (Label gatewaySignature Owner)) (binding : Binding) :
    Nat :=
  (progressOf labels).countP fun state => state.phase = phase ∧ state.binding = binding

/-- What holds of a run, given the task that runs and the table of keys: mutations under a key are
accounted for, and at most one is open or has succeeded. -/
structure Exclusive (labels : List (Label gatewaySignature Owner)) (current : Option Nat)
    (table : Binding → Option (String × Receipt)) : Prop where
  balance : ∀ binding, dispatches labels binding =
    failures labels binding + successes labels binding + inPhase .pending labels binding
  saved : ∀ binding, successes labels binding =
    inPhase .unsaved labels binding + if (table binding).isSome then 1 else 0
  once : ∀ binding, successes labels binding + inPhase .pending labels binding ≤ 1
  fresh : ∀ (index : Nat) (state : Progress), current = some index →
    (progressOf labels)[index]? = some state → state.phase = .missed →
      successes labels state.binding + inPhase .pending labels state.binding = 0
  known : ∀ (index : Nat) (state : Progress), (progressOf labels)[index]? = some state →
    state.phase = .bound → ∃ receipt, table state.binding = some (state.digest, receipt)
  answered : ∀ index owner op reply binding, Label.perform index owner op reply ∈ labels →
    answered? (.perform index owner op reply) = some (binding, true) →
      ∃ state, (progressOf labels)[index]? = some state ∧
        (state.phase = .unsaved ∨ state.phase = .bound)

variable {labels : List (Label gatewaySignature Owner)} {current : Option Nat}
  {table : Binding → Option (String × Receipt)} {index : Nat} {state : Progress}

/-- A call moves its own task between phases. -/
theorem inPhase_perform (here : (progressOf labels)[index]? = some state) (owner : Owner)
    (op : GatewayOp) (reply : op.Reply) (phase : Phase) (binding : Binding) :
    inPhase phase (labels ++ [.perform index owner op reply]) binding +
        (if state.phase = phase ∧ state.binding = binding then 1 else 0) =
      inPhase phase labels binding +
        (if (progressProtocol.next state op reply).phase = phase ∧ state.binding = binding
          then 1 else 0) := by
  have counted := Machine.countP_modify
    (fun state : Progress => decide (state.phase = phase ∧ state.binding = binding))
    (fun state => progressProtocol.next state op reply) here
  simp only [decide_eq_true_eq, (progress_own state op reply).1] at counted
  simpa only [inPhase, progressOf, Machine.locals_snoc, Machine.advance] using counted

/-- The progress of each task after a call of one. -/
theorem progressOf_perform (here : (progressOf labels)[index]? = some state) (owner : Owner)
    (op : GatewayOp) (reply : op.Reply) (other : Nat) :
    (progressOf (labels ++ [.perform index owner op reply]))[other]? =
      if other = index then some (progressProtocol.next state op reply)
      else (progressOf labels)[other]? := by
  simp only [progressOf, Machine.locals_snoc, Machine.advance, List.getElem?_modify]
  by_cases same : other = index
  · subst same
    simp only [progressOf] at here
    simp [here]
  · simp [same, Ne.symm same]

omit [Stdlib] in
/-- A step without dispatch and answer leaves what the labels show. -/
theorem shown_snoc (labels : List (Label gatewaySignature Owner))
    {label : Label gatewaySignature Owner} (silent : dispatched? label = none)
    (still : answered? label = none) (binding : Binding) :
    dispatches (labels ++ [label]) binding = dispatches labels binding ∧
      successes (labels ++ [label]) binding = successes labels binding ∧
        failures (labels ++ [label]) binding = failures labels binding := by
  simp [dispatches, successes, failures, silent, still]

/-- A step that leaves the counts and the table as they are, and gives no task a phase it did not
have, keeps the invariant. -/
theorem Exclusive.unchanged (holds : Exclusive labels current table)
    {label : Label gatewaySignature Owner} {running : Option Nat}
    (silent : dispatched? label = none) (still : answered? label = none)
    (counts : ∀ phase binding, phase ≠ .idle → phase ≠ .missed → phase ≠ .bound →
      inPhase phase (labels ++ [label]) binding = inPhase phase labels binding)
    (fresh : ∀ (index : Nat) (state : Progress), running = some index →
      (progressOf (labels ++ [label]))[index]? = some state → state.phase = .missed →
        successes labels state.binding + inPhase .pending labels state.binding = 0)
    (known : ∀ (index : Nat) (state : Progress),
      (progressOf (labels ++ [label]))[index]? = some state → state.phase = .bound →
        ∃ receipt, table state.binding = some (state.digest, receipt))
    (kept : ∀ (index : Nat) (state : Progress), (progressOf labels)[index]? = some state →
      state.phase = .unsaved ∨ state.phase = .bound →
        (progressOf (labels ++ [label]))[index]? = some state) :
    Exclusive (labels ++ [label]) running table where
  balance binding := by
    have shown := shown_snoc labels silent still binding
    rw [shown.1, shown.2.1, shown.2.2, counts .pending binding nofun nofun nofun]
    exact holds.balance binding
  saved binding := by
    rw [(shown_snoc labels silent still binding).2.1, counts .unsaved binding nofun nofun nofun]
    exact holds.saved binding
  once binding := by
    rw [(shown_snoc labels silent still binding).2.1, counts .pending binding nofun nofun nofun]
    exact holds.once binding
  fresh index state current here missed := by
    rw [(shown_snoc labels silent still _).2.1, counts .pending _ nofun nofun nofun]
    exact fresh index state current here missed
  known := known
  answered index owner op reply binding member success := by
    rcases List.mem_append.mp member with old | new
    · obtain ⟨state, here, done⟩ := holds.answered index owner op reply binding old success
      exact ⟨state, kept index state here done, done⟩
    · obtain rfl := List.mem_singleton.mp new
      cases still.symm.trans success

/-- A new call starts before its lookup. -/
theorem Exclusive.step_spawn (holds : Exclusive labels current table) (owner : Owner) :
    Exclusive (labels ++ [.spawn owner]) (some (progressOf labels).length) table := by
  have added : progressOf (labels ++ [.spawn owner]) =
      progressOf labels ++ [owner.call.progress] := by
    simp [progressOf, Machine.advance]
  have old : ∀ (index : Nat) (state : Progress), (progressOf labels)[index]? = some state →
      (progressOf (labels ++ [.spawn owner]))[index]? = some state := by
    intro index state here
    rw [added, List.getElem?_append_left (List.getElem?_eq_some_iff.mp here).1]
    exact here
  have cases : ∀ (index : Nat) (state : Progress),
      (progressOf (labels ++ [.spawn owner]))[index]? = some state → state.phase ≠ .idle →
        index ≠ (progressOf labels).length ∧ (progressOf labels)[index]? = some state := by
    intro index state here started
    rw [added, List.getElem?_append] at here
    split at here
    · rename_i inside
      exact ⟨Nat.ne_of_lt inside, here⟩
    · rw [List.getElem?_singleton] at here
      split at here
      · obtain rfl := Option.some.inj here
        exact absurd rfl started
      · cases here
  refine holds.unchanged rfl rfl (fun phase binding other _ _ => ?_) ?_ ?_ fun index state here _ =>
    old index state here
  · simp [inPhase, added, show owner.call.progress.phase = .idle from rfl, Ne.symm other]
  · rintro index state ⟨⟩ here missed
    exact absurd rfl (cases _ state here (by simp [missed])).1
  · intro index state here bound
    exact holds.known index state (cases index state here (by simp [bound])).2 bound

/-- A call that leaves its task in its phase and dispatches and answers nothing keeps the
invariant. -/
theorem Exclusive.step_still (holds : Exclusive labels current table)
    (here : (progressOf labels)[index]? = some state) {owner : Owner} {op : GatewayOp}
    {reply : op.Reply} (silent : dispatched? (.perform index owner op reply) = none)
    (still : answered? (.perform index owner op reply) = none)
    (stays : progressProtocol.next state op reply = state)
    (running : state.phase = .missed → current = some index) :
    Exclusive (labels ++ [.perform index owner op reply]) (some index) table := by
  have same : progressOf (labels ++ [.perform index owner op reply]) = progressOf labels := by
    apply List.ext_getElem?
    intro other
    rw [progressOf_perform here, stays]
    split
    · rename_i position
      rw [position, here]
    · rfl
  refine holds.unchanged silent still (fun phase binding _ _ _ => ?_) ?_ ?_ ?_
  · simp only [inPhase, same]
  · rintro other found ⟨⟩ there missed
    rw [same, here] at there
    obtain rfl := Option.some.inj there
    exact holds.fresh index state (running missed) here missed
  · rw [same]
    exact holds.known
  · intro other found there _
    rwa [same]

/-- A lookup keeps the invariant when nothing is open under a key it finds unbound. -/
theorem Exclusive.step_lookup (holds : Exclusive labels current table)
    (here : (progressOf labels)[index]? = some state) (idle : state.phase = .idle) (owner : Owner)
    (alone : table state.binding = none → inPhase .pending labels state.binding = 0 ∧
      inPhase .unsaved labels state.binding = 0) :
    Exclusive (labels ++ [.perform index owner (.lookup state.binding) (table state.binding)])
      (some index) table := by
  have moved := progressOf_perform here owner (.lookup state.binding) (table state.binding)
  have own := progress_own state (.lookup state.binding) (table state.binding)
  have counts : ∀ phase binding, phase ≠ .idle → phase ≠ .missed → phase ≠ .bound →
      inPhase phase (labels ++ [.perform index owner (.lookup state.binding) (table state.binding)])
        binding = inPhase phase labels binding := by
    intro phase binding started searching finished
    have counted := inPhase_perform here owner (.lookup state.binding) (table state.binding) phase
      binding
    cases found : table state.binding with
    | none =>
      simp only [found, idle, progressProtocol, Ne.symm started, Ne.symm searching, false_and,
        if_false] at counted
      simpa [found] using counted
    | some existing =>
      simp only [found, idle, progressProtocol, Ne.symm started, false_and, if_false] at counted
      split at counted
      · simpa [found, Ne.symm finished] using counted
      · simpa [found, Ne.symm started] using counted
  refine holds.unchanged rfl rfl counts ?_ ?_ ?_
  · rintro other found ⟨⟩ there missed
    rw [moved, if_pos rfl] at there
    obtain rfl := Option.some.inj there
    rw [own.1]
    cases absent : table state.binding with
    | none =>
      have saved := holds.saved state.binding
      obtain ⟨pending, unsaved⟩ := alone absent
      rw [absent, unsaved] at saved
      rw [saved, pending]
      rfl
    | some existing =>
      simp only [absent, progressProtocol] at missed
      split at missed <;> cases missed
  · intro other found there bound
    rw [moved] at there
    split at there
    · obtain rfl := Option.some.inj there
      rw [own.1, own.2]
      cases present : table state.binding with
      | none =>
        simp only [present, progressProtocol] at bound
        cases bound
      | some existing =>
        simp only [present, progressProtocol] at bound
        by_cases same : existing.1 = state.digest
        · exact ⟨existing.2, by rw [← same]⟩
        · rw [if_neg same] at bound
          cases bound
    · exact holds.known other found there bound
  · intro other found there done
    rw [moved]
    split
    · rename_i position
      subst position
      obtain rfl := Option.some.inj (here.symm.trans there)
      rcases done with unsaved | bound
      · cases idle.symm.trans unsaved
      · cases idle.symm.trans bound
    · exact there

/-- A call of a task that leaves it bound only when its key is keeps what bound tasks know. -/
theorem Exclusive.known_perform (holds : Exclusive labels current table)
    (here : (progressOf labels)[index]? = some state) {owner : Owner} {op : GatewayOp}
    {reply : op.Reply} (unbound : (progressProtocol.next state op reply).phase ≠ .bound)
    (other : Nat) (found : Progress)
    (there : (progressOf (labels ++ [.perform index owner op reply]))[other]? = some found)
    (bound : found.phase = .bound) : ∃ receipt, table found.binding = some (found.digest, receipt) := by
  rw [progressOf_perform here] at there
  split at there
  · obtain rfl := Option.some.inj there
    exact absurd bound unbound
  · exact holds.known other found there bound

/-- A task answered with success stays unsaved or bound. -/
theorem Exclusive.answered_perform (holds : Exclusive labels current table)
    (here : (progressOf labels)[index]? = some state) {owner : Owner} {op : GatewayOp}
    {reply : op.Reply}
    (kept : state.phase = .unsaved ∨ state.phase = .bound ∨ (∃ binding,
      answered? (.perform index owner op reply) = some (binding, true)) →
        (progressProtocol.next state op reply).phase = .unsaved ∨
          (progressProtocol.next state op reply).phase = .bound)
    (other : Nat) (maker : Owner) (call : GatewayOp) (answer : call.Reply) (binding : Binding)
    (member : Label.perform other maker call answer ∈ labels ++ [.perform index owner op reply])
    (success : answered? (.perform other maker call answer) = some (binding, true)) :
    ∃ found, (progressOf (labels ++ [.perform index owner op reply]))[other]? = some found ∧
      (found.phase = .unsaved ∨ found.phase = .bound) := by
  rw [progressOf_perform here]
  rcases List.mem_append.mp member with old | new
  · obtain ⟨found, there, done⟩ := holds.answered other maker call answer binding old success
    by_cases same : other = index
    · subst same
      obtain rfl := Option.some.inj (here.symm.trans there)
      rw [if_pos rfl]
      exact ⟨_, rfl, kept (done.imp_right .inl)⟩
    · rw [if_neg same]
      exact ⟨found, there, done⟩
  · have same : (Label.perform other maker call answer : Label gatewaySignature Owner) =
        .perform index owner op reply := by
      simpa using new
    have position : other = index := by
      cases same
      rfl
    rw [if_pos position]
    exact ⟨_, rfl, kept (.inr (.inr ⟨binding, same ▸ success⟩))⟩

/-- A task that has left its lookup is not about to dispatch. -/
theorem moved_on (here : (progressOf labels)[index]? = some state) {owner : Owner}
    {op : GatewayOp} {reply : op.Reply}
    (moved : (progressProtocol.next state op reply).phase ≠ .missed) {other : Nat}
    {found : Progress} (running : some index = some other)
    (there : (progressOf (labels ++ [.perform index owner op reply]))[other]? = some found) :
    found.phase ≠ .missed := by
  obtain rfl := Option.some.inj running
  rw [progressOf_perform here, if_pos rfl] at there
  obtain rfl := Option.some.inj there
  exact moved

/-- The running task, whose key was unbound, calls the connector. -/
theorem Exclusive.step_invoke (holds : Exclusive labels current table)
    (here : (progressOf labels)[index]? = some state) (missed : state.phase = .missed)
    (running : current = some index) (owner : Owner) {sourceId : String}
    {request : MutationRequest} (own : (sourceId, request.idempotencyKey) = state.binding) :
    Exclusive (labels ++ [.perform index owner (.invoke (.mutate sourceId request)) ()])
      (some index) table := by
  have moved := inPhase_perform here owner (.invoke (.mutate sourceId request)) ()
  have shown : ∀ binding,
      successes (labels ++ [.perform index owner (.invoke (.mutate sourceId request)) ()]) binding =
          successes labels binding ∧
        failures (labels ++ [.perform index owner (.invoke (.mutate sourceId request)) ()]) binding =
          failures labels binding ∧
        dispatches (labels ++ [.perform index owner (.invoke (.mutate sourceId request)) ()]) binding =
          dispatches labels binding + if state.binding = binding then 1 else 0 := by
    intro binding
    simp [successes, failures, dispatches, answered?, dispatched?, own, List.countP_singleton]
  refine ⟨fun binding => ?_, fun binding => ?_, fun binding => ?_,
    fun other found running there missed => absurd missed
      (moved_on here (by simp [progressProtocol]) running there),
    holds.known_perform here (by simp [progressProtocol]), holds.answered_perform here ?_⟩
  · have counted := moved .pending binding
    simp only [missed, progressProtocol, reduceCtorEq, false_and, if_false, true_and] at counted
    rw [(shown binding).1, (shown binding).2.1, (shown binding).2.2, holds.balance binding]
    omega
  · have counted := moved .unsaved binding
    simp only [missed, progressProtocol, reduceCtorEq, false_and, if_false] at counted
    have saved := holds.saved binding
    rw [(shown binding).1]
    omega
  · have counted := moved .pending binding
    simp only [missed, progressProtocol, reduceCtorEq, false_and, if_false, true_and] at counted
    have once := holds.once binding
    rw [(shown binding).1]
    by_cases same : state.binding = binding
    · subst same
      have fresh := holds.fresh index state running here missed
      rw [if_pos rfl] at counted
      omega
    · rw [if_neg same] at counted
      omega
  · rintro (unsaved | bound | ⟨binding, success⟩)
    · cases missed.symm.trans unsaved
    · cases missed.symm.trans bound
    · cases success

/-- The connector answers. -/
theorem Exclusive.step_answer (holds : Exclusive labels current table)
    (here : (progressOf labels)[index]? = some state) (pending : state.phase = .pending)
    (owner : Owner) {sourceId : String} {request : MutationRequest}
    (own : (sourceId, request.idempotencyKey) = state.binding)
    (answer : Except ActionError PyValue) :
    Exclusive (labels ++ [.perform index owner (.await (.mutate sourceId request)) answer])
      (some index) table := by
  have moved := inPhase_perform here owner (.await (.mutate sourceId request)) answer
  have silent : ∀ binding,
      dispatches (labels ++ [.perform index owner (.await (.mutate sourceId request)) answer])
        binding = dispatches labels binding := by
    intro binding
    simp [dispatches, dispatched?]
  have shown : ∀ binding,
      successes (labels ++ [.perform index owner (.await (.mutate sourceId request)) answer])
          binding = successes labels binding +
            (if reportsSuccess answer = true ∧ state.binding = binding then 1 else 0) ∧
        failures (labels ++ [.perform index owner (.await (.mutate sourceId request)) answer])
          binding = failures labels binding +
            (if reportsSuccess answer = false ∧ state.binding = binding then 1 else 0) := by
    intro binding
    simp [successes, failures, answered?, own, List.countP_singleton, and_comm]
  have settled : ∀ phase, phase ≠ .unsaved → phase ≠ .idle →
      (progressProtocol.next state (.await (.mutate sourceId request)) answer).phase ≠ phase := by
    intro phase
    simp only [progressProtocol]
    split
    · exact fun other _ => Ne.symm other
    · exact fun _ other => Ne.symm other
  refine ⟨fun binding => ?_, fun binding => ?_, fun binding => ?_,
    fun other found running there missed =>
      absurd missed (moved_on here (settled _ (by decide) (by decide)) running there),
    holds.known_perform here (settled _ (by decide) (by decide)), holds.answered_perform here ?_⟩
  · have counted := moved .pending binding
    have balance := holds.balance binding
    obtain ⟨succeeded, failed⟩ := shown binding
    rw [silent, succeeded, failed]
    cases answered : reportsSuccess answer <;>
      simp only [answered, pending, progressProtocol, if_true, reduceCtorEq, if_false, true_and,
        false_and, Bool.false_eq_true] at counted ⊢ <;> omega
  · have counted := moved .unsaved binding
    have saved := holds.saved binding
    obtain ⟨succeeded, -⟩ := shown binding
    rw [succeeded]
    cases answered : reportsSuccess answer <;>
      simp only [answered, pending, progressProtocol, if_true, reduceCtorEq, if_false, true_and,
        false_and, Bool.false_eq_true] at counted ⊢ <;> omega
  · have counted := moved .pending binding
    have once := holds.once binding
    obtain ⟨succeeded, -⟩ := shown binding
    rw [succeeded]
    cases answered : reportsSuccess answer <;>
      simp only [answered, pending, progressProtocol, if_true, reduceCtorEq, if_false, true_and,
        false_and, Bool.false_eq_true] at counted ⊢ <;> omega
  · rintro (unsaved | bound | ⟨binding, success⟩)
    · cases pending.symm.trans unsaved
    · cases pending.symm.trans bound
    · have reported : reportsSuccess answer = true := by
        simp only [answered?, Option.some.injEq, Prod.mk.injEq] at success
        exact success.2
      exact .inl (by simp [progressProtocol, reported])

/-- A success binds its key. -/
theorem Exclusive.step_remember (holds : Exclusive labels current table)
    (here : (progressOf labels)[index]? = some state) (unsaved : state.phase = .unsaved)
    (owner : Owner) (receipt : Receipt) :
    Exclusive (labels ++ [.perform index owner (.remember state.binding state.digest receipt) ()])
      (some index) fun binding =>
        if binding = state.binding then some (state.digest, receipt) else table binding := by
  have moved := inPhase_perform here owner (.remember state.binding state.digest receipt) ()
  have shown := @shown_snoc labels
    (.perform index owner (.remember state.binding state.digest receipt) ()) rfl rfl
  have opened : 0 < inPhase .unsaved labels state.binding := by
    refine List.countP_pos_iff.mpr ⟨state, List.mem_of_getElem? here, ?_⟩
    simp [unsaved]
  -- the success that is open is the only one, so the key is still unbound
  have absent : table state.binding = none := by
    have once := holds.once state.binding
    have saved := holds.saved state.binding
    cases found : table state.binding with
    | none => rfl
    | some existing =>
      rw [found] at saved
      simp only [Option.isSome_some, if_true] at saved
      omega
  have counts : ∀ phase binding, phase ≠ .unsaved → phase ≠ .bound →
      inPhase phase (labels ++ [.perform index owner (.remember state.binding state.digest receipt) ()])
        binding = inPhase phase labels binding := by
    intro phase binding closed other
    have counted := moved phase binding
    simp only [unsaved, progressProtocol, Ne.symm closed, Ne.symm other, false_and,
      if_false] at counted
    exact counted
  refine ⟨fun binding => ?_, fun binding => ?_, fun binding => ?_,
    fun other found running there missed => absurd missed
      (moved_on here (by simp [progressProtocol]) running there), ?_, holds.answered_perform here ?_⟩
  · rw [(shown binding).1, (shown binding).2.1, (shown binding).2.2,
      counts .pending binding (by decide) (by decide)]
    exact holds.balance binding
  · have counted := moved .unsaved binding
    have saved := holds.saved binding
    rw [(shown binding).2.1]
    by_cases same : binding = state.binding
    · subst same
      simp only [unsaved, progressProtocol, true_and, if_true, reduceCtorEq, false_and,
        if_false] at counted
      simp only [absent, Option.isSome_none, Bool.false_eq_true, if_false] at saved
      simp only [if_true, Option.isSome_some]
      omega
    · simp only [unsaved, progressProtocol, Ne.symm same, and_false, if_false] at counted
      rw [if_neg same]
      omega
  · rw [(shown binding).2.1, counts .pending binding (by decide) (by decide)]
    exact holds.once binding
  · intro other found there bound
    have there := (progressOf_perform here owner
      (.remember state.binding state.digest receipt) () other).symm.trans there
    by_cases position : other = index
    · rw [if_pos position] at there
      obtain rfl := Option.some.inj there
      exact ⟨receipt, by simp [progressProtocol]⟩
    · rw [if_neg position] at there
      obtain ⟨earlier, known⟩ := holds.known other found there bound
      have different : found.binding ≠ state.binding := fun same => by
        rw [same, absent] at known
        cases known
      exact ⟨earlier, by rw [if_neg different, known]⟩
  · exact fun _ => .inr rfl

/-! ## Runs of one gateway -/

/-- A step of calls on one gateway object: a call is started on it, or a task makes a call. -/
def onGateway : Label gatewaySignature Owner → Bool
  | .spawn owner => owner.gateway == 0
  | .perform _ _ _ _ => true
  | .kill _ => false
  | .crash => false

/-- The task is suspended in a mutation under a key. -/
def awaitsMutation (binding : Binding)
    (task : Task gatewaySignature ActionError Returned Owner) : Bool :=
  match task.rest with
  | some (.call (.await (.mutate sourceId request)) _) =>
    decide ((sourceId, request.idempotencyKey) = binding)
  | _ => false

/-- No call finds its key unbound while another one is suspended in a mutation under it, every clock
reading is timezone-aware, and the version that a successful mutation names can be written. -/
def looksAlone (loop : Loop gatewaySignature ActionError Returned Owner Shared) :
    Label gatewaySignature Owner → Bool
  | .perform _ _ .now time => DateTime.aware time
  | .perform _ _ (.lookup binding) existing =>
    Option.isSome existing || !loop.pool.tasks.any (awaitsMutation binding)
  | .perform _ _ (.await (.mutate _ _)) (.ok result) => ActionGateway.versioned result
  | _ => true

/-- The table of keys of the gateway. -/
def Shared.bindings (shared : Shared) (binding : Binding) : Option (String × Receipt) :=
  (shared.gateways 0).idempotency.lookup binding

variable {key : IntegrityKey} {loop after : Loop gatewaySignature ActionError Returned Owner Shared}

/-- Only binding a key changes the table of keys. -/
theorem perform_table (world : World gatewaySignature) (shared : Shared) {op : GatewayOp}
    (other : ∀ binding digest receipt, op ≠ .remember binding digest receipt) :
    (perform key 0 world shared op).2.bindings = shared.bindings := by
  cases op with
  | audit eventType actionId occurredAt attributes =>
    simp only [perform]
    split
    · funext binding
      simp [Shared.bindings, Shared.set]
    · rfl
  | remember binding digest receipt => exact absurd rfl (other binding digest receipt)
  | _ => rfl

/-- The ledger refuses only entries with a naive time. -/
theorem audit_possible (key : IntegrityKey) (gateway : Nat) (world : World gatewaySignature)
    (shared : Shared) (eventType actionId : String) (occurredAt : DateTime)
    (attributes : List (String × Json.Value)) :
    progressProtocol.can (.audit eventType actionId occurredAt attributes)
      (perform key gateway world shared (.audit eventType actionId occurredAt attributes)).1 := by
  by_cases aware : occurredAt.aware = true
  · simp [perform, ActionAuditLedger.append, progressProtocol, aware]
  · simp [perform, ActionAuditLedger.append, progressProtocol, aware]

/-- Binding a key. -/
theorem remember_table (world : World gatewaySignature) (shared : Shared) (bound : Binding)
    (digest : String) (receipt : Receipt) :
    (perform key 0 world shared (.remember bound digest receipt)).2.bindings = fun binding =>
      if binding = bound then some (digest, receipt) else shared.bindings binding := by
  funext binding
  simp only [perform, Shared.bindings, Shared.set, if_true, List.lookup_cons]
  split <;> simp_all

/-- A call that waits for its mutation is seen to wait. -/
theorem none_pending {binding : Binding}
    (tracks : Machine.TracksTo progressProtocol (fun _ => returnsBound) (progressOf labels)
      loop.pool.tasks)
    (running : ∀ task ∈ loop.pool.tasks, task.rest.isSome = true)
    (alone : loop.pool.tasks.any (awaitsMutation binding) = false) :
    inPhase .pending labels binding = 0 := by
  refine List.countP_eq_zero.mpr fun state member => ?_
  obtain ⟨index, here⟩ := List.mem_iff_getElem?.mp member
  simp only [decide_eq_true_eq]
  rintro ⟨pending, rfl⟩
  have inside : index < loop.pool.tasks.length := by
    rw [← tracks.length]
    exact (List.getElem?_eq_some_iff.mp here).1
  obtain ⟨program, left⟩ := Option.isSome_iff_exists.mp (running _ (List.getElem_mem inside))
  have follows := tracks.follows index state _ program here (List.getElem?_eq_getElem inside) left
  cases program with
  | ret value => exact absurd pending follows.2.1
  | raise error => exact absurd pending follows.2.1
  | call op next =>
    have permitted := follows.1
    simp only [progressProtocol, pending] at permitted
    obtain ⟨sourceId, request, rfl, own⟩ := permitted
    have waits := List.any_eq_false.mp alone _ (List.getElem_mem inside)
    simp [awaitsMutation, left, own] at waits

/-- The steps of calls on one in-memory gateway, each of which looks its key up alone. -/
def alone (loop : Loop gatewaySignature ActionError Returned Owner Shared)
    (label : Label gatewaySignature Owner) : Prop :=
  onGateway label = true ∧ looksAlone loop label = true

omit [Stdlib] in
/-- The reply to an awaited call is one the protocol reckons with. -/
theorem awaited_possible {index : Nat} {owner : Owner} {call : ConnectorCall}
    {reply : GatewayOp.Reply (.await call)}
    (met : looksAlone loop (.perform index owner (.await call) reply) = true) :
    progressProtocol.can (.await call) reply := by
  cases call with
  | mutate sourceId request =>
    cases reply with
    | error error => trivial
    | ok result => exact met
  | reconcile sourceId request => trivial

/-- In a run of such steps every task is tracked, none was stopped, and only the running one has a
success to save. -/
theorem run_progress
    (run : ((Loop.system (gateways key fun _ => .action) GatewayOp.suspends).restrict alone).Run
      ⟨⟨.initial, []⟩, none⟩ labels loop) :
    Machine.TracksTo progressProtocol (fun _ => returnsBound) (progressOf labels) loop.pool.tasks ∧
      (∀ task ∈ loop.pool.tasks, task.rest.isSome = true) ∧
        ∀ (index : Nat) (state : Progress), loop.current ≠ some index →
          (progressOf labels)[index]? = some state → state.phase ≠ .unsaved := by
  refine Loop.run_settled (fun owner => program_progress owner.call)
    (fun _ _ _ ends => ends.1) (fun state op permitted suspending unsaved => ?_) ?_
    (fun _ met => nomatch met.1) run
  · simp only [progressProtocol, unsaved] at permitted
    rcases permitted with ⟨-, still⟩ | ⟨receipt, rfl⟩
    · exact absurd suspending (by simp [still])
    · cases suspending
  · rintro loop label after step met index owner op reply rfl
    cases step with
    | perform _ _ _ next world ready turn =>
      cases op with
      | now => exact met.2
      | audit eventType actionId occurredAt attributes =>
        exact audit_possible key owner.gateway world loop.pool.shared _ _ _ _
      | await call => exact awaited_possible met.2
      | _ => trivial

omit [Stdlib] in
/-- A plain call dispatches and answers nothing. -/
theorem silent_of_plain (index : Nat) (owner : Owner) {op : GatewayOp} (plain : op.plain = true)
    (reply : op.Reply) : dispatched? (.perform index owner op reply) = none ∧
      answered? (.perform index owner op reply) = none := by
  cases op with
  | invoke | await => cases plain
  | _ => exact ⟨rfl, rfl⟩

/-- A call of a task keeps the invariant when it finds its key unbound alone. -/
theorem Exclusive.step_perform (holds : Exclusive labels current loop.pool.shared.bindings)
    (here : (progressOf labels)[index]? = some state) (owner : Owner) {op : GatewayOp}
    (permitted : progressProtocol.may state op) (world : World gatewaySignature)
    (turn : current = some index ∨ op.suspends = true)
    (clear : ∀ binding, op = .lookup binding → loop.pool.shared.bindings binding = none →
      inPhase .pending labels binding = 0 ∧ inPhase .unsaved labels binding = 0) :
    Exclusive (labels ++ [.perform index owner op (perform key 0 world loop.pool.shared op).1])
      (some index) (perform key 0 world loop.pool.shared op).2.bindings := by
  have plainly : op.plain = true → (state.phase = .missed → current = some index) →
      Exclusive (labels ++ [.perform index owner op (perform key 0 world loop.pool.shared op).1])
        (some index) (perform key 0 world loop.pool.shared op).2.bindings := by
    intro plain running
    obtain ⟨silent, still⟩ := silent_of_plain index owner plain
      (perform key 0 world loop.pool.shared op).1
    rw [perform_table world loop.pool.shared (by rintro _ _ _ rfl; cases plain)]
    exact holds.step_still here silent still (progress_next plain state _) running
  cases phase : state.phase with
  | idle =>
    simp only [progressProtocol, phase] at permitted
    rcases permitted with plain | rfl
    · exact plainly plain (by simp [phase])
    · exact holds.step_lookup here phase owner (clear state.binding rfl)
  | missed =>
    simp only [progressProtocol, phase] at permitted
    rcases permitted with ⟨sourceId, rfl⟩ | ⟨sourceId, request, rfl, own⟩
    · exact plainly rfl fun _ => turn.resolve_right (by simp [GatewayOp.suspends])
    · exact holds.step_invoke here phase (turn.resolve_right (by simp [GatewayOp.suspends])) owner own
  | pending =>
    simp only [progressProtocol, phase] at permitted
    obtain ⟨sourceId, request, rfl, own⟩ := permitted
    exact holds.step_answer here phase owner own _
  | unsaved =>
    simp only [progressProtocol, phase] at permitted
    rcases permitted with ⟨plain, -⟩ | ⟨receipt, rfl⟩
    · exact plainly plain (by simp [phase])
    · rw [remember_table]
      exact holds.step_remember here phase owner receipt
  | bound =>
    simp only [progressProtocol, phase] at permitted
    exact plainly permitted (by simp [phase])

/-- The calls of one gateway keep to its table. -/
theorem run_exclusive
    (run : ((Loop.system (gateways key fun _ => .action) GatewayOp.suspends).restrict alone).Run
      ⟨⟨.initial, []⟩, none⟩ labels loop) :
    (∀ task ∈ loop.pool.tasks, task.owner.gateway = 0) ∧
      Exclusive labels loop.current loop.pool.shared.bindings := by
  induction run with
  | nil =>
    refine ⟨by simp, ?_⟩
    exact ⟨fun _ => rfl, fun _ => rfl, fun _ => Nat.zero_le 1, by simp, by simp [progressOf],
      by simp⟩
  | @snoc labels loop label after before step ih =>
    obtain ⟨owned, holds⟩ := ih
    obtain ⟨tracks, running, others⟩ := run_progress before
    obtain ⟨step, single, met⟩ := step
    cases step with
    | spawn owner parked =>
      refine ⟨fun task member => ?_, ?_⟩
      · rcases List.mem_append.mp member with old | new
        · exact owned task old
        · obtain rfl := List.mem_singleton.mp new
          simpa [onGateway] using single
      · simpa only [tracks.length] using holds.step_spawn owner
    | perform index owner op next world ready turn =>
      have gateway : owner.gateway = 0 := owned _ (List.mem_of_getElem? ready)
      obtain ⟨state, here, permitted⟩ := tracks.permitted ready
      refine ⟨fun task member => ?_, ?_⟩
      · rcases List.mem_or_eq_of_mem_set member with old | rfl
        · exact owned task old
        · exact gateway
      · have performed : (gateways key fun _ => .action).perform owner world loop.pool.shared op =
            perform key 0 world loop.pool.shared op := by
          rw [← gateway]
          rfl
        simp only [performed] at met ⊢
        refine holds.step_perform here owner permitted world (turn.imp_right And.right) ?_
        rintro binding rfl unbound
        have current : loop.current = some index := turn.resolve_right fun both => nomatch both.2
        have none_waits : loop.pool.tasks.any (awaitsMutation binding) = false := by
          have missing : (perform key 0 world loop.pool.shared (.lookup binding)).1 = none := unbound
          simpa [looksAlone, missing] using met
        refine ⟨none_pending tracks running none_waits, ?_⟩
        refine List.countP_eq_zero.mpr fun found member => ?_
        obtain ⟨position, there⟩ := List.mem_iff_getElem?.mp member
        simp only [decide_eq_true_eq]
        rintro ⟨unsaved, -⟩
        by_cases same : position = index
        · subst same
          obtain rfl := Option.some.inj (here.symm.trans there)
          simp only [progressProtocol, unsaved] at permitted
          rcases permitted with ⟨plain, -⟩ | ⟨receipt, saves⟩
          · cases plain
          · cases saves
        · refine others position found (fun running => same ?_) there unsaved
          exact Option.some.inj (running.symm.trans current)
    | crash => cases single

/-- A plan with a digest has succeeded under a key: the mutation of a call that executes it was
answered with success, or the call has returned a receipt. -/
def Succeeded (labels : List (Label gatewaySignature Owner))
    (loop : Loop gatewaySignature ActionError Returned Owner Shared) (binding : Binding)
    (digest : String) : Prop :=
  ∃ index task, loop.pool.tasks[index]? = some task ∧
    task.owner.call.executed.binding = binding ∧ task.owner.call.executed.digest = digest ∧
      ((∃ owner sourceId request answer, reportsSuccess answer = true ∧
          (.perform index owner (.await (.mutate sourceId request)) answer :
            Label gatewaySignature Owner) ∈ labels) ∨
        ∃ receipt, task.rest = some (.ret (.receipt receipt)))

/-- A call whose plan has succeeded is unsaved or bound. -/
theorem progress_of_succeeded {binding : Binding} {digest : String}
    (run : ((Loop.system (gateways key fun _ => .action) GatewayOp.suspends).restrict alone).Run
      ⟨⟨.initial, []⟩, none⟩ labels loop) (succeeded : Succeeded labels loop binding digest) :
    ∃ (index : Nat) (phase : Phase), (progressOf labels)[index]? = some ⟨binding, digest, phase⟩ ∧
      (phase = .unsaved ∨ phase = .bound) := by
  obtain ⟨tracks, running, -⟩ := run_progress run
  obtain ⟨-, holds⟩ := run_exclusive run
  have owns : ∀ (index : Nat) (state : Progress)
      (task : Task gatewaySignature ActionError Returned Owner),
      (progressOf labels)[index]? = some state → loop.pool.tasks[index]? = some task →
        state.binding = task.owner.call.executed.binding ∧
          state.digest = task.owner.call.executed.digest := by
    refine (Machine.run_locals (fun (owner : Owner) (state : Progress) =>
      state.binding = owner.call.executed.binding ∧ state.digest = owner.call.executed.digest)
      (fun owner => ⟨rfl, rfl⟩) (fun owner state op reply own => ?_)
      (Loop.run_pool run.unrestrict)).2
    rw [(progress_own state op reply).1, (progress_own state op reply).2]
    exact own
  obtain ⟨index, task, there, rfl, rfl, done⟩ := succeeded
  have inside : index < (progressOf labels).length := by
    rw [tracks.length]
    exact (List.getElem?_eq_some_iff.mp there).1
  have here := List.getElem?_eq_getElem inside
  obtain ⟨binding, digest⟩ := owns index _ task here there
  refine ⟨index, (progressOf labels)[index].phase, ?_, ?_⟩
  · rw [here, ← binding, ← digest]
  · rcases done with ⟨owner, sourceId, request, answer, success, member⟩ | ⟨receipt, left⟩
    · have seen : answered? (.perform index owner (.await (.mutate sourceId request)) answer) =
          some ((sourceId, request.idempotencyKey), true) := by
        simp only [answered?, success]
      obtain ⟨state, found, done⟩ := holds.answered index owner _ _ _ member seen
      obtain rfl := Option.some.inj (here.symm.trans found)
      exact done
    · exact .inr ((tracks.follows index _ task _ here there left).2.2 receipt rfl)

/-- While every call looks its key up alone, at most one mutation under a key is in progress or has
succeeded, and plans that succeed under one key have one digest. -/
theorem exclusive_of_alone
    (run : ((Loop.system (gateways key fun _ => .action) GatewayOp.suspends).restrict alone).Run
      ⟨⟨.initial, []⟩, none⟩ labels loop) (binding : Binding) :
    dispatches labels binding ≤ failures labels binding + 1 ∧
      ∀ left right, Succeeded labels loop binding left → Succeeded labels loop binding right →
        left = right := by
  obtain ⟨-, -, others⟩ := run_progress run
  obtain ⟨-, holds⟩ := run_exclusive run
  constructor
  · have balance := holds.balance binding
    have once := holds.once binding
    omega
  · intro left right first second
    obtain ⟨index, phase, here, done⟩ := progress_of_succeeded run first
    obtain ⟨other, later, there, ended⟩ := progress_of_succeeded run second
    -- a success that is not saved yet is the only one, and the key is still unbound
    have lone : ∀ (index : Nat) (digest : String),
        (progressOf labels)[index]? = some ⟨binding, digest, .unsaved⟩ →
          loop.current = some index ∧ loop.pool.shared.bindings binding = none := by
      intro index digest here
      refine ⟨Classical.byContradiction fun other => others index _ other here rfl, ?_⟩
      have opened : 0 < inPhase .unsaved labels binding :=
        List.countP_pos_iff.mpr ⟨_, List.mem_of_getElem? here, by simp⟩
      have saved := holds.saved binding
      have once := holds.once binding
      cases found : loop.pool.shared.bindings binding with
      | none => rfl
      | some existing =>
        rw [found] at saved
        simp only [Option.isSome_some, if_true] at saved
        omega
    rcases done with rfl | rfl
    · obtain ⟨running, unbound⟩ := lone index left here
      rcases ended with rfl | rfl
      · obtain ⟨again, -⟩ := lone other right there
        obtain rfl := Option.some.inj (running.symm.trans again)
        have both := Option.some.inj (here.symm.trans there)
        simp only [Progress.mk.injEq] at both
        exact both.2.1
      · obtain ⟨receipt, bound⟩ := holds.known other _ there rfl
        exact nomatch unbound.symm.trans bound
    · obtain ⟨receipt, bound⟩ := holds.known index _ here rfl
      rcases ended with rfl | rfl
      · obtain ⟨-, unbound⟩ := lone other right there
        exact nomatch unbound.symm.trans bound
      · obtain ⟨again, known⟩ := holds.known other _ there rfl
        have both := Option.some.inj (bound.symm.trans known)
        simp only [Prod.mk.injEq] at both
        exact both.1

end Runs

/-! ## Two plans under one key -/

section Two

/-- In-memory gateways. -/
def memoryGateways [Stdlib] : Machine gatewaySignature ActionError Returned Owner Shared :=
  gateways .small fun _ => .action

/-- Another plan under the key of the shared one. -/
abbrev rival : SourceActionPlan := .small "rival" "first" (by decide)

/-- The task has returned a receipt for a plan with a digest under the shared key. -/
def returned [Stdlib] (digest : String)
    (task : Task gatewaySignature ActionError Returned Owner) : Bool :=
  decide (task.owner.call.executed.binding = shared.binding) &&
    decide (task.owner.call.executed.digest = digest) &&
      match task.rest with
      | some (.ret (.receipt _)) => true
      | _ => false

/-- A plan whose call has returned a receipt has succeeded. -/
theorem succeeded_of_returned [Stdlib] {labels : List (Label gatewaySignature Owner)}
    {loop : Loop gatewaySignature ActionError Returned Owner Shared} {index : Nat}
    {digest : String} (seen : loop.pool.tasks[index]?.any (returned digest) = true) :
    Succeeded labels loop shared.binding digest := by
  obtain ⟨task, there, done⟩ := (Option.any_eq_true _ _).mp seen
  simp only [returned, Bool.and_eq_true, decide_eq_true_eq] at done
  obtain ⟨⟨binding, digest⟩, left⟩ := done
  split at left
  · rename_i receipt rest
    exact ⟨index, task, there, binding, digest, .inr ⟨receipt, rest⟩⟩
  · cases left

/-- Two executions, the second one started once the first has returned. -/
def inTurn [Stdlib] : List (Machine.Choice gatewaySignature Owner) :=
  .spawn (smallExecution 0 shared) :: calls 0 12 (obliging (.ok successful)) ++
    .spawn (smallExecution 0 shared) :: calls 1 6 (obliging (.ok successful))

/-- Two executions of different plans under one key, each looking it up before the other's mutation
is answered. -/
def overlapping [Stdlib] : List (Machine.Choice gatewaySignature Owner) :=
  .spawn (smallExecution 0 shared) :: calls 0 6 (obliging (.ok successful)) ++
    .spawn (smallExecution 0 rival) :: calls 1 6 (obliging (.ok successful)) ++
      calls 0 6 (obliging (.ok successful)) ++ calls 1 6 (obliging (.ok successful))

end Two

/-- Executions in turn dispatch once. -/
theorem exclusive_in_turn : letI := Stdlib.transparent
    ∃ labels loop, ((Loop.system memoryGateways GatewayOp.suspends).restrict alone).Run
      ⟨⟨.initial, []⟩, none⟩ labels loop ∧ 0 < dispatches labels shared.binding ∧
        loop.pool.tasks.all (returned shared.digest) = true ∧
          dispatches labels shared.binding ≤ failures labels shared.binding + 1 := by
  let := Stdlib.transparent
  have passed : (Loop.play memoryGateways GatewayOp.suspends ⟨⟨.initial, []⟩, none⟩ inTurn).any
      (fun last => decide (0 < dispatches last.1 shared.binding) &&
        last.2.pool.tasks.all (returned shared.digest)) = true := by
    decide +kernel
  have allowed : Loop.passes memoryGateways GatewayOp.suspends
      (fun loop label => onGateway label && looksAlone loop label) ⟨⟨.initial, []⟩, none⟩
        inTurn = true := by
    decide +kernel
  obtain ⟨⟨labels, loop⟩, ran, seen⟩ := (Option.any_eq_true _ _).mp passed
  simp only [Bool.and_eq_true, decide_eq_true_eq] at seen
  have run := (Loop.play_within ran allowed).widen alone fun loop label met => by
    simpa only [alone, Bool.and_eq_true] using met
  exact ⟨labels, loop, run, seen.1, seen.2, (exclusive_of_alone run shared.binding).1⟩

/-- Two plans with different digests are dispatched at once, and both succeed under one key. -/
theorem exclusive_overlapping : letI := Stdlib.transparent
    ∃ labels loop, ((Loop.system memoryGateways GatewayOp.suspends).restrict fun _ label =>
        onGateway label = true).Run ⟨⟨.initial, []⟩, none⟩ labels loop ∧
      onlyExecutes labels = true ∧ failures labels shared.binding + 1 < dispatches labels shared.binding ∧
        Succeeded labels loop shared.binding shared.digest ∧
          Succeeded labels loop shared.binding rival.digest ∧ shared.digest ≠ rival.digest := by
  let := Stdlib.transparent
  have passed : (Loop.play memoryGateways GatewayOp.suspends ⟨⟨.initial, []⟩, none⟩
      overlapping).any (fun last => onlyExecutes last.1 &&
        decide (failures last.1 shared.binding + 1 < dispatches last.1 shared.binding) &&
          (last.2.pool.tasks[0]?.any (returned shared.digest) &&
            last.2.pool.tasks[1]?.any (returned rival.digest))) = true := by
    decide +kernel
  have allowed : Loop.passes memoryGateways GatewayOp.suspends (fun _ label => onGateway label)
      ⟨⟨.initial, []⟩, none⟩ overlapping = true := by
    decide +kernel
  obtain ⟨⟨labels, loop⟩, ran, seen⟩ := (Option.any_eq_true _ _).mp passed
  simp only [Bool.and_eq_true, decide_eq_true_eq] at seen
  obtain ⟨⟨executes, twice⟩, first, second⟩ := seen
  exact ⟨labels, loop, Loop.play_within ran allowed, executes, twice, succeeded_of_returned first,
    succeeded_of_returned second, by decide +kernel⟩

end DataHarness
