import DataHarness.Query.Structured
import Mathlib.Algebra.GroupWithZero.Nat
import Mathlib.Algebra.Order.BigOperators.Group.List

/-!
# Field confidentiality of structured queries

A field policy in front of the structured connector checks the fields a request selects. The
connector returns whole rows where nothing is selected, and an empty selection passes the policy.
A request, its grants and the columns decide whether some contents of the tables can show a
caller a field no grant lists.
-/

namespace DataHarness

/-- The keys of the rows of a payload. -/
def Payload.keys : Payload → List String
  | .json (.arr rows) => rows.flatMap fun row =>
    match row with
    | .obj members => members.map Prod.fst
    | _ => []
  | _ => []

/-- Some grant for an identity and a source lists a field of an asset. -/
def Granted (grants : List QueryAccessGrant) (identity : RequestIdentity)
    (sourceId asset field : String) : Prop :=
  ∃ grant ∈ grants, grant.covers identity sourceId = true ∧ field ∈ (grant.fields asset).getD []

/-- Every key of every row of every batch is a granted field of the asset of the batch. -/
def Confidential (grants : List QueryAccessGrant) (identity : RequestIdentity)
    (sourceId : String) (batches : List DataBatch) : Prop :=
  ∀ batch ∈ batches, ∀ ref ∈ batch.lineage, ∀ key ∈ batch.payload.keys,
    Granted grants identity sourceId ref.assetId key

namespace FieldRelationshipPolicy

variable {base : AuthorizationRequest → PolicyDecision} {grants : List QueryAccessGrant}
  {request : AuthorizationRequest}

/-- An allowed query selects granted fields of exactly its assets. -/
theorem of_evaluate (query : request.capability = .query)
    (allowed : (evaluate base grants request).allowed = true) :
    ∃ grant ∈ grants, grant.covers request.identity request.sourceId = true ∧
      ∃ selections, scope "select_by_asset" request.parameters = some selections ∧
        keysEqual selections request.assetIds = true ∧
          selectionsGranted grant selections = true := by
  unfold evaluate at allowed
  split at allowed
  · rename_i refused
    rcases refused with denied | other
    · rw [denied] at allowed
      cases allowed
    · exact absurd query other
  split at allowed
  · cases allowed
  rename_i grant kept
  split at allowed
  · cases allowed
  split at allowed
  · cases allowed
  rename_i selections selected
  split at allowed
  · cases allowed
  rename_i covered
  split at allowed
  · cases allowed
  rename_i fields
  have covers := List.find?_some kept
  have member := List.mem_reverse.mp (List.mem_of_find?_eq_some kept)
  exact ⟨grant, member, covers, selections, selected, not_not.mp covered, not_not.mp fields⟩

/-- A granted selection names granted fields. -/
theorem of_selectionsGranted {grant : QueryAccessGrant} {selections : List (PyKey × PyValue)}
    (granted : selectionsGranted grant selections = true) {asset : String} {value : PyValue}
    (found : lookupKey asset selections = some value) :
    ∃ fields text, value = .sequence fields text ∧
      ∀ field ∈ fields, ∃ name, field.told = .ok name ∧
        name ∈ (grant.fields asset).getD [] := by
  induction selections with
  | nil => cases found
  | cons item selections ih =>
    obtain ⟨key, own⟩ := item
    rw [selectionsGranted, List.all_cons, Bool.and_eq_true] at granted
    rw [lookupKey] at found
    split at found
    · rename_i here
      obtain rfl : key = .str asset := here
      obtain rfl := Option.some.inj found
      have first := granted.1
      cases own with
      | sequence fields text =>
        cases listed : grant.fields asset with
        | none => simp [listed] at first
        | some allowed => exact ⟨fields, text, rfl, by simpa [listed] using first⟩
      | _ => simp at first
    · exact ih granted.2 found

end FieldRelationshipPolicy

namespace StructuredConnector

variable {schema : StructuredSchema} {base : AuthorizationRequest → PolicyDecision}
  {grants : List QueryAccessGrant} {identity : RequestIdentity} {request : QueryRequest}

/-! ## What the columns let through -/

/-- A way to show a caller a column nobody granted: an asset of an allowed request is reached,
nothing is selected of it, and a row its filters match is small enough to be delivered after the
assets before it. -/
structure Exposure (schema : StructuredSchema) (base : AuthorizationRequest → PolicyDecision)
    (grants : List QueryAccessGrant) (identity : RequestIdentity) (request : QueryRequest) where
  before : List String
  asset : String
  after : List String
  shape : Scopes
  own : Scan
  row : Dict String
  column : String
  source : request.sourceId = connectorId
  allowed : (FieldRelationshipPolicy.evaluate base grants
    (request.authorization identity)).allowed = true
  assets : request.assetIds = before ++ asset :: after
  first : asset ∉ before
  read : scopes request.plan = .ok shape
  earlier : ∀ other ∈ before, ∃ reached, scan schema shape other = .ok reached
  scanned : scan schema shape asset = .ok own
  whole : own.fields = []
  shaped : row.keys = schema.columns own.asset
  matching : matchesFilters own.filters row = true
  present : column ∈ schema.columns own.asset
  ungranted : ¬ Granted grants identity connectorId asset column
  small : 2 * before.length + (Json.dumps (.arr [rowJson row])).utf8ByteSize ≤ maxResultBytes

/-- A scan reads the selection of its asset. -/
theorem fields_of_scan {scopes : Scopes} {asset : String} {own : Scan}
    (scanned : scan schema scopes asset = .ok own) :
    ∃ selected, tuple (scopes.selection asset) = .ok selected ∧
      fieldNames selected = some own.fields := by
  unfold scan at scanned
  split at scanned
  · cases scanned
  obtain ⟨selected, taken, scanned⟩ := of_bind_ok scanned
  split at scanned
  · split at scanned
    · cases scanned
    split at scanned
    · cases scanned
    split at scanned
    · cases scanned
    rename_i named
    split at scanned
    · cases scanned
    obtain rfl := Except.ok.inj scanned
    exact ⟨selected, taken, named⟩
  · cases scanned

/-- Selected strings are selected values with these texts. -/
theorem text_of_fieldNames {values : List PyValue} {names : List String}
    (named : fieldNames values = some names) {name : String} (member : name ∈ names) :
    ∃ value ∈ values, value.told = .ok name := by
  induction values generalizing names with
  | nil =>
    obtain rfl := Option.some.inj named
    cases member
  | cons value values ih =>
    simp only [fieldNames, Option.bind_eq_bind, Option.bind_eq_some_iff] at named
    obtain ⟨own, text, rest, later, same⟩ := named
    obtain rfl := Option.some.inj same
    rcases List.mem_cons.mp member with rfl | inside
    · refine ⟨value, List.mem_cons_self, ?_⟩
      cases value <;> simp_all [string?, PyValue.told]
    · obtain ⟨other, among, same⟩ := ih later inside
      exact ⟨other, List.mem_cons_of_mem _ among, same⟩

/-- Policy and connector read one selection of each asset. -/
theorem selection_of_scope {scopes : Scopes}
    (shape : StructuredConnector.scopes request.plan = .ok scopes)
    {selections : List (PyKey × PyValue)}
    (selected : FieldRelationshipPolicy.scope "select_by_asset" request.plan = some selections)
    (covered : keysEqual selections request.assetIds = true) (asset : String) :
    scopes.selection asset = lookupKey asset selections := by
  unfold FieldRelationshipPolicy.scope at selected
  split at selected
  · obtain rfl := Option.some.inj selected
    have empty : request.assetIds = [] := by
      simpa [keysEqual, stringKeys, subset, List.eq_nil_iff_forall_not_mem] using covered
    exact absurd empty request.scope.2.1
  · rename_i entries text found
    obtain rfl := Option.some.inj selected
    have given : given request.plan "select_by_asset" = some (.mapping entries text) := by
      unfold given
      rw [found]
    unfold StructuredConnector.scopes at shape
    rw [given] at shape
    split at shape
    · rename_i none _
      cases none
    · rename_i same _
      obtain rfl := Except.ok.inj shape
      cases same
      rfl
    · cases shape
  · cases selected

/-- An allowed query scans granted fields, where it selects any. -/
theorem granted_of_scan (source : request.sourceId = connectorId)
    (allowed : (FieldRelationshipPolicy.evaluate base grants
      (request.authorization identity)).allowed = true) {scopes : Scopes}
    (shape : StructuredConnector.scopes request.plan = .ok scopes) {asset : String} {own : Scan}
    (scanned : scan schema scopes asset = .ok own) :
    ∀ field ∈ own.fields, Granted grants identity connectorId asset field := by
  intro field member
  obtain ⟨grant, here, covers, selections, selected, covered, granted⟩ :=
    FieldRelationshipPolicy.of_evaluate rfl allowed
  have covers : grant.covers identity connectorId = true := by
    rw [← source]
    exact covers
  have canonical := selection_of_scope shape selected covered asset
  obtain ⟨values, taken, named⟩ := fields_of_scan scanned
  obtain ⟨value, among, same⟩ := text_of_fieldNames named member
  rw [canonical] at taken
  cases found : lookupKey asset selections with
  | none =>
    rw [found] at taken
    obtain rfl := Except.ok.inj taken
    cases among
  | some selection =>
    obtain ⟨items, text, rfl, inside⟩ :=
      FieldRelationshipPolicy.of_selectionsGranted granted found
    rw [found] at taken
    obtain rfl := Except.ok.inj taken
    obtain ⟨name, told, listed⟩ := inside value among
    obtain rfl := Except.ok.inj (same.symm.trans told)
    exact ⟨grant, here, covers, listed⟩

/-! ## What is delivered -/

variable {connector : StructuredConnector schema} {available : Bool}
  {interruptions : Interruptions} {policy : AuthorizationRequest → PolicyDecision}

/-- A delivered batch is one of an allowed request, and was accounted for with those before it. -/
theorem of_delivered {batch : DataBatch} (delivered : batch ∈
    ((connector.gateway available policy).execute interruptions request identity).items) :
    request.sourceId = connectorId ∧ (policy (request.authorization identity)).allowed = true ∧
      ∃ shape, scopes request.plan = .ok shape ∧ ∃ front back final,
        (connector.batches request.limit shape request.assetIds).items = front ++ batch :: back ∧
          (front ++ [batch]).foldlM (HarnessGateway.account maxResultBytes request) ⟨0, 0⟩ =
            .ok final := by
  have source : request.sourceId = connectorId := by
    by_contra other
    unfold HarnessGateway.execute at delivered
    rw [unregistered other] at delivered
    cases delivered
  cases authorized : (connector.gateway available policy).authorize interruptions request
      identity with
  | error error =>
    rw [execute_unauthorized source authorized] at delivered
    cases delivered
  | ok _ =>
    have allowed : (policy (request.authorization identity)).allowed = true := by
      unfold HarnessGateway.authorize at authorized
      split at authorized
      · cases authorized
      dsimp only at authorized
      split at authorized
      · rename_i allowed
        exact allowed
      · cases authorized
    rw [execute_authorized source authorized] at delivered
    obtain ⟨total, rest, split, folded, -⟩ := Feed.deliver_spec
      (interruptions.stops request.sourceId) (HarnessGateway.account maxResultBytes request)
      (connector.execute available request).raised 0 ⟨0, 0⟩
      (connector.execute available request).items
    obtain ⟨front, back, placed⟩ := List.append_of_mem delivered
    rw [placed, List.append_cons, List.foldlM_append] at folded
    obtain ⟨final, folded, -⟩ := of_bind_ok folded
    rw [placed, List.append_assoc, List.cons_append] at split
    unfold execute at split
    split at split
    · split at split
      · simp at split
      · rename_i shape read
        exact ⟨source, allowed, shape, read, front, _, final, split, folded⟩
    · simp at split

/-- The keys of a projected row are the selected fields, or the columns where nothing is
selected. -/
theorem keys_project {fields : List String} {row : Dict String} {key : String}
    (member : key ∈ (project fields row).keys) : key ∈ fields ∨ fields = [] ∧ key ∈ row.keys := by
  unfold project at member
  split at member
  · rename_i none
    exact .inr ⟨none, member⟩
  · left
    have grows : ∀ (fields : List String) (start : Dict String),
        key ∈ (fields.foldl (fun result key => result.set key ((row.get? key).getD ""))
          start).keys → key ∈ fields ∨ key ∈ start.keys := by
      intro fields
      induction fields with
      | nil =>
        intro start inside
        exact .inr inside
      | cons field fields ih =>
        intro start inside
        rcases ih _ inside with later | set
        · exact .inl (List.mem_cons_of_mem _ later)
        · rw [Dict.mem_keys] at set
          obtain ⟨value, found⟩ := set
          rw [Dict.get?_set] at found
          split at found
          · rename_i same
            exact .inl (by simp [same])
          · exact .inr (Dict.mem_keys.mpr ⟨value, found⟩)
    rcases grows fields .empty member with inside | none
    · exact inside
    · cases none

/-- A key of a batch is that of a matched row. -/
theorem of_keys_batch {limit : Int} {own : Scan} {key : String}
    (member : key ∈ (connector.batch limit own).payload.keys) :
    ∃ row ∈ connector.matched limit own, key ∈ (project own.fields row).keys := by
  simp only [batch, Payload.keys, List.mem_flatMap, List.mem_map] at member
  obtain ⟨json, ⟨row, among, rfl⟩, inside⟩ := member
  refine ⟨row, among, ?_⟩
  simpa [rowJson, Dict.keys, Function.comp_def] using inside

/-- Lineage names the asset. -/
theorem assetId_of_lineage {limit : Int} {own : Scan} {ref : LineageRef}
    (member : ref ∈ (connector.batch limit own).lineage) : ref.assetId = own.asset.name := by
  simp only [batch, lineage] at member
  split at member
  · obtain rfl := List.mem_singleton.mp member
    rfl
  · obtain ⟨row, -, rfl⟩ := List.mem_map.mp member
    rfl

/-- Every batch of the connector is counted, and takes two bytes at least. -/
theorem counts_of_batches (source : request.sourceId = connectorId) {limit : Int} {shape : Scopes}
    {assets : List String} {batch : DataBatch}
    (member : batch ∈ (connector.batches limit shape assets).items) :
    HarnessGateway.Counts request batch (batch.payload.encoded.getD 0) (batch.rowCount.getD 0) ∧
      2 ≤ batch.payload.encoded.getD 0 := by
  obtain ⟨front, back, split⟩ := List.append_of_mem member
  obtain ⟨_, _, _, own, _, _, _, _, rfl⟩ := of_batches split
  rw [encoded_batch]
  exact ⟨counts_batch source limit own, Json.two_le_size _⟩

/-- A matched row is one of the table, and a delivery of it takes its bytes. -/
theorem of_matched {limit : Int} {own : Scan} {row : Dict String}
    (among : row ∈ connector.matched limit own) :
    row.keys = schema.columns own.asset ∧ matchesFilters own.filters row = true ∧
      (own.fields = [] → (Json.dumps (.arr [rowJson row])).utf8ByteSize ≤
        connector.bytes limit own) := by
  have inside := List.mem_filter.mp (List.mem_of_mem_take among)
  refine ⟨connector.shaped own.asset row inside.1, inside.2, fun whole => ?_⟩
  have same : project own.fields row = row := by
    rw [whole]
    exact if_pos rfl
  apply Json.size_singleton_le
  refine List.mem_map.mpr ⟨row, ?_, rfl⟩
  exact List.mem_map.mpr ⟨row, among, same⟩

/-- A delivered key that nobody granted is an exposure. -/
theorem exposure_of_delivered {batch : DataBatch} (delivered : batch ∈
    ((connector.gateway available (FieldRelationshipPolicy.evaluate base grants)).execute
      interruptions request identity).items) {ref : LineageRef} (named : ref ∈ batch.lineage)
    {key : String} (member : key ∈ batch.payload.keys)
    (ungranted : ¬ Granted grants identity request.sourceId ref.assetId key) :
    Nonempty (Exposure schema base grants identity request) := by
  obtain ⟨source, allowed, shape, read, front, back, final, split, folded⟩ := of_delivered delivered
  obtain ⟨before, asset, after, own, assets, length, earlier, scanned, rfl⟩ := of_batches split
  have asset_eq : ref.assetId = asset := by
    rw [assetId_of_lineage named]
    exact name_of_scan scanned
  rw [asset_eq, source] at ungranted
  obtain ⟨row, among, inside⟩ := of_keys_batch member
  obtain ⟨shaped, matching, small⟩ := of_matched among
  have unselected : key ∉ own.fields := by
    intro selects
    exact ungranted (granted_of_scan source allowed read scanned key selects)
  obtain ⟨whole, present⟩ := (keys_project inside).resolve_left unselected
  -- The bytes of the batches up to this one are within the limit.
  have counts : ∀ other ∈ front ++ [connector.batch request.limit own],
      HarnessGateway.Counts request other (other.payload.encoded.getD 0)
        (other.rowCount.getD 0) ∧ 2 ≤ other.payload.encoded.getD 0 := by
    intro other place
    apply counts_of_batches source
    rw [split, List.append_cons]
    exact List.mem_append_left back place
  have limits := HarnessGateway.limits_of_fold (by simp; exact request.limited.le)
    (Nat.zero_le _) folded
  have sums := HarnessGateway.totals_of_fold (fun other place => (counts other place).1) folded
  rw [List.map_append, List.sum_append, List.map_singleton, List.sum_singleton, encoded_batch,
    Option.getD_some] at sums
  have least := List.card_nsmul_le_sum (front.map fun other => other.payload.encoded.getD 0) 2
    (by
      intro size place
      obtain ⟨other, there, rfl⟩ := List.mem_map.mp place
      exact (counts other (List.mem_append_left _ there)).2)
  rw [List.length_map, Nat.nsmul_eq_mul] at least
  have bound := small whole
  -- The asset may occur earlier in the request: its first occurrence was delivered as well.
  obtain ⟨prior, later, placed, first, shorter, fine⟩ := exists_first_scan assets earlier scanned
  refine ⟨⟨prior, asset, later, shape, own, row, key, source, allowed, placed, first, read, fine,
    scanned, whole, shaped, matching, shaped ▸ present, ungranted, ?_⟩⟩
  dsimp only at sums
  omega

/-! ## Tables that show an exposure -/

namespace Exposure

variable (exposure : Exposure schema base grants identity request)

/-- The tables are empty up to the exposed row. -/
def tables : StructuredConnector schema where
  rows asset := if asset = exposure.own.asset then [exposure.row] else []
  version := "sha256:exposed"
  shaped := by
    intro asset row member
    split at member
    · rename_i here
      obtain rfl := List.mem_singleton.mp member
      rw [here]
      exact exposure.shaped
    · cases member
  versioned := by decide

/-- The exposed row is matched. -/
theorem matched_own (request : QueryRequest) :
    exposure.tables.matched request.limit exposure.own = [exposure.row] := by
  have positive : 0 < request.limit.toNat := by
    have limited := request.limited
    omega
  simp only [matched, tables, if_true]
  rw [List.filter_singleton, exposure.matching]
  exact List.take_of_length_le positive

/-- So its table can be compared with the filters of its scan. -/
theorem visit_own : exposure.tables.visit exposure.shape exposure.asset = .ok exposure.own := by
  apply visit_of_scan exposure.scanned
  intro row member
  simp only [tables, if_true, List.mem_singleton] at member
  rw [member]
  exact ⟨true, matchesFilters_iff.mp exposure.matching⟩

/-- Another table has no row to compare. -/
theorem visit_other {asset : String} {own : Scan}
    (scanned : scan schema exposure.shape asset = .ok own)
    (other : own.asset ≠ exposure.own.asset) :
    exposure.tables.visit exposure.shape asset = .ok own := by
  apply visit_of_scan scanned
  intro row member
  simp only [tables, if_neg other, List.not_mem_nil] at member

/-- Nothing is matched in another table. -/
theorem matched_other (limit : Int) {own : Scan} (other : own.asset ≠ exposure.own.asset) :
    exposure.tables.matched limit own = [] := by
  simp [matched, tables, other]

/-- The batches before the exposed one are empty. -/
theorem batches_before (assets after : List String)
    (earlier : ∀ other ∈ assets, ∃ reached, scan schema exposure.shape other = .ok reached)
    (fresh : exposure.asset ∉ assets) :
    ∃ front, (exposure.tables.batches request.limit exposure.shape
        (assets ++ exposure.asset :: after)).items =
          front ++ exposure.tables.batch request.limit exposure.own ::
            (exposure.tables.batches request.limit exposure.shape after).items ∧
      front.length = assets.length ∧
        ∀ batch ∈ front, batch.payload.encoded.getD 0 = 2 ∧ batch.rowCount.getD 0 = 0 := by
  induction assets with
  | nil =>
    refine ⟨[], ?_, rfl, by simp⟩
    rw [List.nil_append, batches, exposure.visit_own]
    rfl
  | cons asset assets ih =>
    obtain ⟨front, split, length, empty⟩ :=
      ih (fun other member => earlier other (List.mem_cons_of_mem _ member))
        (fun member => fresh (List.mem_cons_of_mem _ member))
    obtain ⟨reached, scanned⟩ := earlier asset List.mem_cons_self
    have other : reached.asset ≠ exposure.own.asset := by
      intro same
      have names := name_of_scan exposure.scanned
      rw [← same, name_of_scan scanned] at names
      exact fresh (names ▸ List.mem_cons_self)
    have none := exposure.matched_other request.limit other
    refine ⟨exposure.tables.batch request.limit reached :: front, ?_, by simp [length], ?_⟩
    · rw [List.cons_append, batches, exposure.visit_other scanned other]
      simp only [Feed.items_push, split, List.cons_append]
    · intro batch member
      rcases List.mem_cons.mp member with rfl | inside
      · constructor
        · rw [encoded_batch, bytes, none, List.map_nil, List.map_nil]
          decide
        · rw [rowCount_batch, none]
          rfl
      · exact empty batch inside

/-- The exposed batch is delivered when nothing stops the delivery. -/
theorem delivered : exposure.tables.batch request.limit exposure.own ∈
    ((exposure.tables.gateway true (FieldRelationshipPolicy.evaluate base grants)).execute .none
      request identity).items := by
  have authorized : (exposure.tables.gateway true
      (FieldRelationshipPolicy.evaluate base grants)).authorize .none request identity = .ok () :=
    if_pos exposure.allowed
  have answered : exposure.tables.execute true request =
      exposure.tables.batches request.limit exposure.shape request.assetIds := by
    rw [execute, if_pos rfl, exposure.read]
  obtain ⟨front, split, length, empty⟩ :=
    exposure.batches_before exposure.before exposure.after exposure.earlier exposure.first
  rw [← exposure.assets] at split
  rw [execute_authorized exposure.source authorized, answered, split, List.append_cons]
  have counts : ∀ batch ∈ front ++ [exposure.tables.batch request.limit exposure.own],
      HarnessGateway.Counts request batch (batch.payload.encoded.getD 0)
        (batch.rowCount.getD 0) := by
    intro batch member
    have inside : batch ∈ (exposure.tables.batches request.limit exposure.shape
        request.assetIds).items := by
      rw [split, List.append_cons]
      exact List.mem_append_left _ member
    exact (counts_of_batches exposure.source inside).1
  have sizes : (front.map fun batch => batch.payload.encoded.getD 0).sum =
      2 * exposure.before.length := by
    rw [List.map_congr_left fun batch member => (empty batch member).1, List.map_const',
      List.sum_replicate, length]
    exact Nat.mul_comm _ _
  have rows : (front.map fun batch => batch.rowCount.getD 0).sum = 0 := by
    rw [List.map_congr_left fun batch member => (empty batch member).2, List.map_const',
      List.sum_replicate]
    exact Nat.mul_zero _
  have own : exposure.tables.bytes request.limit exposure.own =
      (Json.dumps (.arr [rowJson exposure.row])).utf8ByteSize := by
    rw [bytes, exposure.matched_own]
    simp [project, exposure.whole]
  have one : (exposure.tables.batch request.limit exposure.own).rowCount.getD 0 = 1 := by
    rw [rowCount_batch, exposure.matched_own]
    rfl
  have limited := request.limited
  have small := exposure.small
  have accepted : ∃ final, (front ++ [exposure.tables.batch request.limit exposure.own]).foldlM
      (HarnessGateway.account maxResultBytes request) ⟨0, 0⟩ = .ok final := by
    apply HarnessGateway.exists_fold ⟨0, 0⟩ counts
    · simp only [List.map_append, List.sum_append, sizes, List.map_singleton, List.sum_singleton,
        encoded_batch, Option.getD_some, own]
      omega
    · simp only [List.map_append, List.sum_append, rows, List.map_singleton, List.sum_singleton,
        one]
      omega
  obtain ⟨final, accepted⟩ := accepted
  have placed := Feed.prefix_deliver accepted
    (exposure.tables.batches request.limit exposure.shape request.assetIds).raised 0
    (exposure.tables.batches request.limit exposure.shape exposure.after).items
  exact placed.subset (by simp)

/-- The exposed batch is not confidential. -/
theorem not_confidential : ¬ Confidential grants identity request.sourceId
    ((exposure.tables.gateway true (FieldRelationshipPolicy.evaluate base grants)).execute .none
      request identity).items := by
  intro confidential
  have matched := exposure.matched_own request
  have named : lineageRef exposure.own.asset ((exposure.row.get?
      exposure.own.asset.primaryKey).getD "") ∈
        (exposure.tables.batch request.limit exposure.own).lineage := by
    simp [batch, matched, lineage]
  have key : exposure.column ∈
      (exposure.tables.batch request.limit exposure.own).payload.keys := by
    have column : exposure.column ∈ exposure.row.keys := by
      rw [exposure.shaped]
      exact exposure.present
    simpa [batch, matched, Payload.keys, project, exposure.whole, rowJson, Dict.keys,
      Function.comp_def] using column
  have granted := confidential _ exposure.delivered _ named _ key
  rw [exposure.source] at granted
  have asset : exposure.own.asset.name = exposure.asset := name_of_scan exposure.scanned
  exact exposure.ungranted (asset ▸ granted)

end Exposure

/-- Whatever the tables hold and whatever stops the query, only granted fields are delivered,
exactly when the request, the grants and the columns leave no exposure. -/
theorem confidential_iff (schema : StructuredSchema) (base : AuthorizationRequest → PolicyDecision)
    (grants : List QueryAccessGrant) (identity : RequestIdentity) (request : QueryRequest) :
    (∀ (connector : StructuredConnector schema) available interruptions,
      Confidential grants identity request.sourceId
        ((connector.gateway available (FieldRelationshipPolicy.evaluate base grants)).execute
          interruptions request identity).items) ↔
      IsEmpty (Exposure schema base grants identity request) := by
  constructor
  · intro confidential
    exact ⟨fun exposure => exposure.not_confidential (confidential exposure.tables true .none)⟩
  · intro closed connector available interruptions batch delivered ref named key member
    by_contra ungranted
    obtain ⟨exposure⟩ := exposure_of_delivered delivered named member ungranted
    exact closed.false exposure

/-! ## An empty selection -/

/-- Tables with one column besides the primary key. -/
def priced : StructuredSchema where
  columns asset := [asset.primaryKey, "cost"]
  distinct asset := by cases asset <;> decide
  keyed := by simp

/-- One record in each table. -/
def pricedRecord : StructuredConnector priced where
  rows asset := [⟨[(asset.primaryKey, "1"), ("cost", "9")], by cases asset <;> decide⟩]
  version := "sha256:rows"
  shaped := by simp [priced, Dict.keys]
  versioned := rows_versioned

/-- A grant of the primary key of the products. -/
def productIds : QueryAccessGrant where
  organizationId := "organization"
  solutionId := "solution"
  agentId := "agent"
  sourceId := "whitegoods.erp"
  assetFields := ⟨[("products", ["product_id"])], by simp⟩
  relationships := []
  required := by decide
  assets := by simp

/-- A request that selects no field of the products. -/
def emptySelection : QueryRequest where
  sourceId := "whitegoods.erp"
  assetIds := ["products"]
  plan := [(.str "select_by_asset", .mapping [(.str "products", .sequence [] "[]")] "dict(…)"),
    (.str "where_by_asset", .mapping [] "dict()")]
  limit := 1
  deadlineMs := 1
  purpose := "analysis"
  policyAttributes := []
  scope := by decide
  limited := Int.one_pos
  timed := Int.one_pos
  purposed := analysis_purposed

/-- The caller gets the whole row, of which one column is not granted. -/
theorem emptySelection_exposed :
    (pricedRecord.gateway true (FieldRelationshipPolicy.evaluate
        (fun _ => ⟨true, "allow", "allowed"⟩) [productIds])).execute .none emptySelection .small =
      ⟨[pricedRecord.batch 1 ⟨.products, [], []⟩], none⟩ ∧
    (pricedRecord.batch 1 ⟨.products, [], []⟩).payload.keys = ["product_id", "cost"] ∧
      ¬ Confidential [productIds] .small "whitegoods.erp"
        [pricedRecord.batch 1 ⟨.products, [], []⟩] := by
  have keys : (pricedRecord.batch 1 ⟨.products, [], []⟩).payload.keys = ["product_id", "cost"] := by
    rfl
  refine ⟨rfl, keys, fun confidential => ?_⟩
  have named : lineageRef .products "1" ∈
      (pricedRecord.batch 1 ⟨.products, [], []⟩).lineage := List.mem_singleton.mpr rfl
  obtain ⟨grant, member, -, cost⟩ :=
    confidential _ (List.mem_singleton.mpr rfl) _ named "cost" (by rw [keys]; decide)
  obtain rfl := List.mem_singleton.mp member
  revert cost
  decide

end StructuredConnector

end DataHarness
