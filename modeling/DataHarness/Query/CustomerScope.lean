import DataHarness.Query.Structured
import DataHarness.Query.WhiteGoods

/-!
# The customer scope of structured queries

The laboratory's policy checks the customer a request states against the filter that its plan has
for every asset. The structured connector does not read that filter where the plan keeps filters by
asset, so that a stated customer limits what is delivered only where every filter that is read asks
for that customer. A value that cannot be written raises as soon as a row is compared with it, of
whatever customer.
-/

namespace DataHarness

/-- The first value under a key is that of an entry. -/
theorem mem_of_lookupKey {α : Type} {key : String} {entries : List (PyKey × α)} {value : α}
    (found : lookupKey key entries = some value) : (PyKey.str key, value) ∈ entries := by
  induction entries with
  | nil => cases found
  | cons item rest ih =>
    rw [lookupKey] at found
    by_cases here : item.1 = .str key
    · rw [if_pos here] at found
      rw [← here, ← Option.some.inj found]
      exact List.mem_cons_self
    · rw [if_neg here] at found
      exact List.mem_cons_of_mem _ (ih found)

namespace StructuredConnector

variable {schema : StructuredSchema}

/-- The row is one of a customer. -/
def isOf (customer : String) (row : Dict String) : Bool :=
  (row.get? "customer_id").any fun own => own == customer

/-- The tables with the rows of one customer. -/
def only (connector : StructuredConnector schema) (customer : String) :
    StructuredConnector schema where
  rows asset := (connector.rows asset).filter (isOf customer)
  version := connector.version
  shaped := fun asset row member => connector.shaped asset row (List.mem_of_mem_filter member)
  versioned := connector.versioned

/-- A row of nobody or of another customer is found to differ from the filters of a scan. -/
def Scan.Pins (schema : StructuredSchema) (own : Scan) (customer : String) : Prop :=
  ∀ row : Dict String, row.keys = schema.columns own.asset → isOf customer row = false →
    compare row own.filters = .ok false

/-- The checks of a request come to the scan of one of its assets. -/
def Reached (schema : StructuredSchema) (request : QueryRequest) (own : Scan) : Prop :=
  ∃ shape before asset after, scopes request.plan = .ok shape ∧
    request.assetIds = before ++ asset :: after ∧
    (∀ other ∈ before, ∃ reached, scan schema shape other = .ok reached) ∧
    scan schema shape asset = .ok own

variable {connector : StructuredConnector schema} {customer : String}

/-! ## Scans that ask for the customer -/

/-- A scan reads the filter of its asset, over columns of it. -/
theorem filters_of_scan {shape : Scopes} {asset : String} {own : Scan}
    (scanned : scan schema shape asset = .ok own) :
    ∃ text, (shape.filter asset).getD (.mapping [] "") = .mapping own.filters text ∧
      keysSubset own.filters (schema.columns own.asset) = true := by
  unfold scan at scanned
  split at scanned
  · cases scanned
  obtain ⟨selected, -, scanned⟩ := of_bind_ok scanned
  split at scanned
  · rename_i filters text read
    split at scanned
    · cases scanned
    rename_i within
    split at scanned
    · cases scanned
    split at scanned
    · cases scanned
    split at scanned
    · cases scanned
    obtain rfl := Except.ok.inj scanned
    exact ⟨text, read, not_not.mp within⟩
  · cases scanned

/-- A row that the filters of a scan match is one of the customer they ask for. -/
theorem isOf_of_matches {own : Scan} {value : PyValue}
    (within : keysSubset own.filters (schema.columns own.asset) = true)
    (asked : lookupKey "customer_id" own.filters = some value) (text : value.told = .ok customer)
    {row : Dict String} (shaped : row.keys = schema.columns own.asset)
    (matching : matchesFilters own.filters row = true) : isOf customer row = true := by
  have member := mem_of_lookupKey asked
  obtain ⟨column, present, same⟩ := keysSubset_iff.mp within _ member
  have named : "customer_id" ∈ row.keys := by
    rw [shaped, PyKey.str.inj same]
    exact present
  obtain ⟨customerId, found⟩ := Dict.mem_keys.mp named
  have equal := cell_of_matches matching _ member
  simp only [text, cell, found, Option.getD_some, Except.ok.injEq] at equal
  unfold isOf
  rw [found, equal]
  exact beq_self_eq_true customerId

/-- A scan whose filters are written and ask for a customer finds every other row to differ. -/
theorem pins_of_filter {own : Scan} {value : PyValue}
    (within : keysSubset own.filters (schema.columns own.asset) = true)
    (asked : lookupKey "customer_id" own.filters = some value) (text : value.told = .ok customer)
    (written : ∀ item ∈ own.filters, item.2.Written) : own.Pins schema customer := by
  intro row shaped foreign
  obtain ⟨same, compared⟩ := compare_of_written written row
  cases same with
  | false => exact compared
  | true =>
    rw [isOf_of_matches within asked text shaped (matchesFilters_iff.mpr compared)] at foreign
    cases foreign

/-- Without filters by asset, the filter of every scan is the one the policy checked. -/
theorem pins_of_shared {request : QueryRequest} {identity : RequestIdentity}
    (planned : WhiteGoodsPolicy.plannedCustomer (request.authorization identity) = .str customer)
    (selections : given request.plan "select_by_asset" = none)
    (filters : given request.plan "where_by_asset" = none) {own : Scan}
    (reached : Reached schema request own) (written : ∀ item ∈ own.filters, item.2.Written) :
    own.Pins schema customer := by
  obtain ⟨shape, before, asset, after, read, -, -, scanned⟩ := reached
  unfold scopes at read
  rw [selections, filters] at read
  obtain rfl := Except.ok.inj read
  obtain ⟨text, filter, within⟩ := filters_of_scan scanned
  have same : (lookupKey "where" request.plan).getD (.mapping [] "") =
      .mapping own.filters text := filter
  cases found : lookupKey "where" request.plan with
  | none =>
    unfold WhiteGoodsPolicy.plannedCustomer at planned
    rw [show lookupKey "where" (request.authorization identity).parameters = none from found]
      at planned
    cases planned
  | some value =>
    rw [found, Option.getD_some] at same
    unfold WhiteGoodsPolicy.plannedCustomer at planned
    rw [show lookupKey "where" (request.authorization identity).parameters = some value from found,
      same] at planned
    cases asked : lookupKey "customer_id" own.filters with
    | none =>
      simp only [Option.getD_some, asked] at planned
      cases planned
    | some customerValue =>
      simp only [Option.getD_some, asked] at planned
      exact pins_of_filter within asked (by rw [planned]; rfl) written

/-! ## What is delivered -/

/-- Scans that ask for a customer find the same rows among those of that customer. -/
theorem matched_only {own : Scan} (pins : own.Pins schema customer) (limit : Int) :
    (connector.only customer).matched limit own = connector.matched limit own := by
  unfold matched only
  rw [List.filter_filter]
  congr 1
  apply List.filter_congr
  intro row member
  cases kept : isOf customer row with
  | true => exact Bool.and_true _
  | false =>
    have differs := pins row (connector.shaped own.asset row member) kept
    unfold matchesFilters
    rw [differs]
    rfl

/-- Their batches are the same. -/
theorem batch_only {own : Scan} (pins : own.Pins schema customer) (limit : Int) :
    (connector.only customer).batch limit own = connector.batch limit own := by
  have rows : (connector.only customer).matched limit own = connector.matched limit own :=
    matched_only pins limit
  unfold batch
  simp only [rows]
  rfl

/-- So are their visits. -/
theorem visit_only {shape : Scopes} {asset : String}
    (pins : ∀ own, scan schema shape asset = .ok own → own.Pins schema customer) :
    (connector.only customer).visit shape asset = connector.visit shape asset := by
  unfold visit
  cases scanned : scan schema shape asset with
  | error error => rfl
  | ok own =>
    have same : compareRows own.filters ((connector.rows own.asset).filter (isOf customer)) =
        compareRows own.filters (connector.rows own.asset) :=
      compareRows_filter fun row member foreign =>
        pins own scanned row (connector.shaped own.asset row member) foreign
    exact congrArg (fun compared => compared >>= fun _ => Except.ok own) same

/-- Assets whose scans ask for a customer give the same batches. -/
theorem batches_only (limit : Int) (shape : Scopes) (assets : List String)
    (pins : ∀ before asset after own, assets = before ++ asset :: after →
      (∀ other ∈ before, ∃ reached, scan schema shape other = .ok reached) →
        scan schema shape asset = .ok own → own.Pins schema customer) :
    (connector.only customer).batches limit shape assets =
      connector.batches limit shape assets := by
  induction assets with
  | nil => rfl
  | cons asset rest ih =>
    have first : ∀ own, scan schema shape asset = .ok own → own.Pins schema customer := by
      intro own scanned
      apply pins [] asset rest own rfl ?_ scanned
      intro other member
      cases member
    unfold batches
    rw [visit_only first]
    cases visited : connector.visit shape asset with
    | error error => rfl
    | ok own =>
      have scanned := (visit_eq_ok.mp visited).1
      have later := ih fun before other after reached split earlier found => by
        apply pins (asset :: before) other after reached (by rw [split]; rfl) ?_ found
        intro one member
        rcases List.mem_cons.mp member with same | among
        · rw [same]
          exact ⟨own, scanned⟩
        · exact earlier one among
      simp only [later, batch_only (first own scanned)]

/-- A request whose scans ask for a customer is answered as if there were no other customer. -/
theorem execute_only {request : QueryRequest}
    (pins : ∀ own, Reached schema request own → own.Pins schema customer) (available : Bool) :
    (connector.only customer).execute available request = connector.execute available request := by
  unfold execute
  by_cases up : available = true
  · rw [if_pos up, if_pos up]
    cases read : scopes request.plan with
    | error error => rfl
    | ok shape =>
      exact batches_only request.limit shape request.assetIds
        fun before asset after own split earlier scanned =>
          pins own ⟨shape, before, asset, after, read, split, earlier, scanned⟩
  · rw [if_neg up, if_neg up]

/-- So is it through the gateway, whatever stops the query. -/
theorem gateway_only {request : QueryRequest}
    (pins : ∀ own, Reached schema request own → own.Pins schema customer) (available : Bool)
    (policy : AuthorizationRequest → PolicyDecision) (interruptions : Interruptions)
    (identity : RequestIdentity) :
    ((connector.only customer).gateway available policy).execute interruptions request identity =
      (connector.gateway available policy).execute interruptions request identity := by
  by_cases source : request.sourceId = connectorId
  · have same : ((connector.only customer).gateway available policy).authorize interruptions request
        identity = (connector.gateway available policy).authorize interruptions request identity :=
      rfl
    cases authorized : (connector.gateway available policy).authorize interruptions request
        identity with
    | error error =>
      rw [execute_unauthorized source authorized,
        execute_unauthorized source (same.trans authorized)]
    | ok done =>
      rw [execute_authorized source authorized, execute_authorized source (same.trans authorized),
        execute_only pins]
  · unfold HarnessGateway.execute
    rw [unregistered source, unregistered source]

/-! ## Scans that do not -/

/-- A scan that is reached is reached at the first place of its asset. -/
theorem Reached.first {request : QueryRequest} {own : Scan}
    (reached : Reached schema request own) :
    ∃ shape before asset after, scopes request.plan = .ok shape ∧
      request.assetIds = before ++ asset :: after ∧ asset ∉ before ∧
      (∀ other ∈ before, ∃ reached, scan schema shape other = .ok reached) ∧
      scan schema shape asset = .ok own := by
  obtain ⟨shape, before, asset, after, read, split, earlier, scanned⟩ := reached
  obtain ⟨prior, later, placed, first, -, fine⟩ := exists_first_scan split earlier scanned
  exact ⟨shape, prior, asset, later, read, placed, first, fine, scanned⟩

/-- Tables with one row. -/
def single (asset : StructuredAsset) (row : Dict String)
    (shaped : row.keys = schema.columns asset) : StructuredConnector schema where
  rows other := if other = asset then [row] else []
  version := "sha256:rows"
  shaped := by
    intro other found member
    by_cases same : other = asset
    · rw [if_pos same] at member
      rw [List.mem_singleton.mp member, same]
      exact shaped
    · rw [if_neg same] at member
      cases member
  versioned := rows_versioned

/-- Where no other table has a row, the batches of the assets before a scan come first. -/
theorem batches_before_scan (limit : Int) {shape : Scopes} {before : List String} {asset : String}
    {own : Scan} (scanned : scan schema shape asset = .ok own) (first : asset ∉ before)
    (earlier : ∀ other ∈ before, ∃ reached, scan schema shape other = .ok reached)
    (others : ∀ other, other ≠ own.asset → connector.rows other = []) (after : List String) :
    ∃ front, (connector.batches limit shape (before ++ asset :: after)).items =
      front ++ (connector.batches limit shape (asset :: after)).items ∧
        front.length = before.length := by
  apply batches_append
  intro other member
  obtain ⟨reached, found⟩ := earlier other member
  have elsewhere : reached.asset ≠ own.asset := by
    intro same
    have names := name_of_scan found
    rw [same, name_of_scan scanned] at names
    exact first (names ▸ member)
  refine ⟨reached, visit_of_scan found ?_⟩
  rw [others _ elsewhere]
  simp

/-- One table has the row. -/
theorem rows_single {asset : StructuredAsset} {row : Dict String}
    (shaped : row.keys = schema.columns asset) : (single asset row shaped).rows asset = [row] :=
  if_pos rfl

/-- The others have none. -/
theorem rows_single_ne {asset other : StructuredAsset} {row : Dict String}
    (shaped : row.keys = schema.columns asset) (differs : other ≠ asset) :
    (single asset row shaped).rows other = [] := if_neg differs

/-- Nor has any table among those of a customer that the row is not of. -/
theorem rows_only_single {asset : StructuredAsset} {row : Dict String}
    (shaped : row.keys = schema.columns asset) (foreign : isOf customer row = false)
    (other : StructuredAsset) : ((single asset row shaped).only customer).rows other = [] := by
  unfold only
  by_cases same : other = asset
  · subst same
    simp only [rows_single, List.filter_cons, foreign, Bool.false_eq_true, if_false,
      List.filter_nil]
  · simp only [rows_single_ne shaped same, List.filter_nil]

/-- A reached scan that a row of nobody or of another customer is not found to differ from shows
that row. -/
theorem execute_only_ne {request : QueryRequest} {own : Scan}
    (reached : Reached schema request own) {row : Dict String}
    (shaped : row.keys = schema.columns own.asset) (foreign : isOf customer row = false)
    (noticed : compare row own.filters ≠ .ok false) :
    ((single own.asset row shaped).only customer).execute true request ≠
      (single own.asset row shaped).execute true request := by
  intro same
  obtain ⟨shape, before, asset, after, read, split, first, earlier, scanned⟩ := reached.first
  unfold execute at same
  rw [if_pos rfl, if_pos rfl, read, split] at same
  have items := congrArg Feed.items same
  have hidden := rows_only_single shaped foreign
  obtain ⟨front, left, firstLength⟩ := batches_before_scan request.limit scanned first earlier
    (fun other _ => hidden other) after
  obtain ⟨start, right, secondLength⟩ := batches_before_scan request.limit scanned first earlier
    (fun other differs => rows_single_ne shaped differs) after
  -- Behind the assets before it, the scan has a batch without the row and not the same with it.
  have tails := (List.append_inj (left.symm.trans (items.trans right))
    (firstLength.trans secondLength.symm)).2
  have unseen : ((single own.asset row shaped).only customer).visit shape asset = .ok own := by
    apply visit_of_scan scanned
    rw [hidden]
    simp
  rw [batches, batches, unseen] at tails
  cases visited : (single own.asset row shaped).visit shape asset with
  | error error =>
    rw [visited] at tails
    cases tails
  | ok seen =>
    obtain ⟨also, compared⟩ := visit_eq_ok.mp visited
    obtain rfl := Except.ok.inj (scanned.symm.trans also)
    rw [visited] at tails
    have counts := congrArg DataBatch.rowCount (List.cons.inj tails).1
    rw [rowCount_batch, rowCount_batch, Option.some.injEq] at counts
    obtain ⟨_, compared⟩ := exists_ok compared
    rw [rows_single shaped] at compared
    obtain ⟨result, found⟩ := compareRows_eq_ok.mp compared row List.mem_cons_self
    have matching : matchesFilters own.filters row = true := by
      cases result with
      | false => exact absurd found noticed
      | true => exact matchesFilters_iff.mpr found
    have positive : 0 < request.limit.toNat := by
      have limited := request.limited
      omega
    have none : ((single own.asset row shaped).only customer).matched request.limit own = [] := by
      unfold matched
      rw [hidden, List.filter_nil, List.take_nil]
    have one : (single own.asset row shaped).matched request.limit own = [row] := by
      unfold matched
      rw [rows_single shaped, List.filter_singleton, matching]
      exact List.take_of_length_le positive
    rw [none, one] at counts
    cases counts

/-- A request that the policy allows and that states a customer states a granted one. What the
connector answers does not depend on the rows of others exactly when every scan that the request
comes to finds them to differ from its filters; then the gateway delivers the same too. Without
filters by asset every scan does whose values are written. -/
theorem customer_scope_iff (schema : StructuredSchema) (numbers : Scalar → PyValue → Bool)
    (identity : RequestIdentity) (request : QueryRequest)
    (allowed : (WhiteGoodsPolicy.evaluate numbers (request.authorization identity)).allowed = true)
    (stated : WhiteGoodsPolicy.statedOf (request.authorization identity) "customer_id" ≠ .none) :
    ∃ customer grant, WhiteGoodsPolicy.grantOf identity.agentId = some grant ∧
      customer ∈ grant.customers ∧
      WhiteGoodsPolicy.statedOf (request.authorization identity) "customer_id" = .str customer ∧
      ((∀ connector : StructuredConnector schema,
          (connector.only customer).execute true request = connector.execute true request) ↔
        ∀ own, Reached schema request own → own.Pins schema customer) ∧
      ((∀ own, Reached schema request own → own.Pins schema customer) →
        ∀ (connector : StructuredConnector schema) available policy interruptions,
          ((connector.only customer).gateway available policy).execute interruptions request
              identity =
            (connector.gateway available policy).execute interruptions request identity) ∧
      (given request.plan "select_by_asset" = none → given request.plan "where_by_asset" = none →
        ∀ own, Reached schema request own → (∀ item ∈ own.filters, item.2.Written) →
          own.Pins schema customer) := by
  obtain ⟨grant, known, -, -, agrees⟩ :=
    (WhiteGoodsPolicy.evaluate_allowed numbers (request.authorization identity)).mp allowed
  rcases agrees with ⟨unstated, -⟩ | ⟨customer, granted, same, planned⟩
  · exact absurd unstated stated
  refine ⟨customer, grant, known, granted, same, ⟨?_, ?_⟩, ?_, ?_⟩
  · intro alike own reached row shaped foreign
    by_contra noticed
    exact execute_only_ne reached shaped foreign noticed (alike (single own.asset row shaped))
  · intro pins connector
    exact execute_only pins true
  · intro pins connector available policy interruptions
    exact gateway_only pins available policy interruptions identity
  · intro selections filters own reached
    exact pins_of_shared planned selections filters reached

/-! ## A scope that is stated and not read -/

/-- Tables with a customer besides the primary key. -/
def owned : StructuredSchema where
  columns asset := if asset = .customers then ["customer_id"] else [asset.primaryKey, "customer_id"]
  distinct asset := by cases asset <;> decide
  keyed asset := by cases asset <;> decide

/-- A plan that states the first customer, and keeps its filters by asset. -/
def unreadScope : QueryRequest where
  sourceId := "whitegoods.erp"
  assetIds := ["service_orders"]
  plan := [
    (.str "where",
      .mapping [(.str "customer_id", .str "C001")] "\x7b'customer_id': 'C001'\x7d"),
    (.str "select_by_asset", .mapping [] "{}"), (.str "where_by_asset", .mapping [] "{}")]
  limit := 1
  deadlineMs := 1
  purpose := "analysis"
  policyAttributes := [("customer_id", .str "C001")]
  scope := by decide
  limited := Int.one_pos
  timed := Int.one_pos
  purposed := analysis_purposed

/-- The plan is allowed for the first customer, and the connector comes to a scan that asks for no
customer. -/
theorem customer_scope_iff_unread :
    (WhiteGoodsPolicy.evaluate (fun _ _ => false)
        (unreadScope.authorization .lab)).allowed = true ∧
      Reached owned unreadScope ⟨.serviceOrders, [], []⟩ ∧
      ∃ customer grant, WhiteGoodsPolicy.grantOf RequestIdentity.lab.agentId = some grant ∧
        customer ∈ grant.customers ∧
        WhiteGoodsPolicy.statedOf (unreadScope.authorization .lab) "customer_id" =
          .str customer ∧
        ((∀ connector : StructuredConnector owned,
            (connector.only customer).execute true unreadScope =
              connector.execute true unreadScope) ↔
          ∀ own, Reached owned unreadScope own → own.Pins owned customer) ∧
        ((∀ own, Reached owned unreadScope own → own.Pins owned customer) →
          ∀ (connector : StructuredConnector owned) available policy interruptions,
            ((connector.only customer).gateway available policy).execute interruptions unreadScope
                .lab =
              (connector.gateway available policy).execute interruptions unreadScope .lab) ∧
        (given unreadScope.plan "select_by_asset" = none →
          given unreadScope.plan "where_by_asset" = none → ∀ own, Reached owned unreadScope own →
            (∀ item ∈ own.filters, item.2.Written) → own.Pins owned customer) :=
  have allowed : (WhiteGoodsPolicy.evaluate (fun _ _ => false)
      (unreadScope.authorization .lab)).allowed = true := by decide
  have stated : WhiteGoodsPolicy.statedOf (unreadScope.authorization .lab) "customer_id" ≠
      .none := by
    show Scalar.str "C001" ≠ .none
    intro none
    cases none
  ⟨allowed, ⟨.canonical [] [], [], "service_orders", [], rfl, rfl, by simp, rfl⟩,
    customer_scope_iff owned _ .lab unreadScope allowed stated⟩

end StructuredConnector

end DataHarness
