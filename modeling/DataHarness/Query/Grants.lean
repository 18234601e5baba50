import DataHarness.Query.Planning

/-!
# What a set of grants allows

The policy keeps one grant for an organization, solution, agent and source, the last one given. A
grant says itself which queries it authorizes; the policy allows exactly those when the grants with
one key agree on them, and otherwise the order of the grants decides.
-/

namespace DataHarness

/-! ## What one grant authorizes -/

namespace QueryAccessGrant

/-- The field is granted for the asset. -/
def Grants (grant : QueryAccessGrant) (asset field : String) : Prop :=
  ∃ allowed, grant.fields asset = some allowed ∧ field ∈ allowed

/-- The mapping under a key of the parameters, empty when it is missing. -/
def Mapped (key : String) (parameters entries : List (PyKey × PyValue)) : Prop :=
  (lookupKey key parameters = none ∧ entries = []) ∨
    ∃ text, lookupKey key parameters = some (.mapping entries text)

/-- The selections name each of the assets and no other, with granted fields. -/
structure Selects (grant : QueryAccessGrant) (assets : List String)
    (entries : List (PyKey × PyValue)) : Prop where
  each : ∀ item ∈ entries, ∃ asset ∈ assets, ∃ fields text,
    item = (.str asset, .sequence fields text) ∧
      ∀ field ∈ fields, ∃ name, field.told = .ok name ∧ grant.Grants asset name
  every : ∀ asset ∈ assets, ∃ item ∈ entries, item.1 = .str asset

/-- The filters name assets of the request, with granted fields. -/
def Restricts (grant : QueryAccessGrant) (assets : List String)
    (entries : List (PyKey × PyValue)) : Prop :=
  ∀ item ∈ entries, ∃ asset ∈ assets, ∃ filters text, item = (.str asset, .mapping filters text) ∧
    ∀ filter ∈ filters, ∃ field, filter.1 = .str field ∧ grant.Grants asset field

/-- The grant covers the assets, selections, relationships and filters of a request. -/
structure Authorizes (grant : QueryAccessGrant) (request : AuthorizationRequest) : Prop where
  assets : ∀ asset ∈ request.assetIds, asset ∈ grant.assetFields.keys
  selections : ∃ entries, Mapped "select_by_asset" request.parameters entries ∧
    grant.Selects request.assetIds entries
  relationships : ∀ value, lookupKey "relationships" request.parameters = some value →
    ∃ items text, value = .sequence items text ∧
      ∀ item ∈ items, ∃ name, item.told = .ok name ∧ name ∈ grant.relationships
  filters : ∃ entries, Mapped "where_by_asset" request.parameters entries ∧
    grant.Restricts request.assetIds entries

end QueryAccessGrant

namespace FieldRelationshipPolicy

open QueryAccessGrant

/-! ## The checks of the policy -/

/-- A scope is read exactly when its mapping is there or nothing is. -/
theorem scope_eq_some {key : String} {parameters entries : List (PyKey × PyValue)} :
    scope key parameters = some entries ↔ Mapped key parameters entries := by
  unfold scope Mapped
  cases lookupKey key parameters with
  | none => simp [eq_comm]
  | some value => cases value <;> simp

/-- What is said of some mapping of a scope that is read is said of what was read. -/
theorem exists_mapped_iff {key : String} {parameters entries : List (PyKey × PyValue)}
    (read : scope key parameters = some entries) {kind : List (PyKey × PyValue) → Prop} :
    (∃ mapped, Mapped key parameters mapped ∧ kind mapped) ↔ kind entries := by
  constructor
  · rintro ⟨mapped, here, holds⟩
    have same := read.symm.trans (scope_eq_some.mpr here)
    rw [Option.some.inj same]
    exact holds
  · intro holds
    exact ⟨entries, scope_eq_some.mp read, holds⟩

/-- A scope that is not read has no mapping. -/
theorem not_mapped {key : String} {parameters entries : List (PyKey × PyValue)}
    (unread : scope key parameters = none) : ¬ Mapped key parameters entries := by
  intro mapped
  have read := scope_eq_some.mpr mapped
  rw [unread] at read
  cases read

/-- Fields pass exactly when each of them is written and granted. -/
theorem toldSubset_fields_iff {grant : QueryAccessGrant} {asset : String} {allowed : List String}
    {fields : List PyValue} (found : grant.fields asset = some allowed) :
    toldSubset fields allowed = true ↔
      ∀ field ∈ fields, ∃ name, field.told = .ok name ∧ grant.Grants asset name := by
  rw [toldSubset_iff]
  unfold Grants
  simp [found]

/-- Of the assets of a grant, selections pass exactly when they select granted fields of each. -/
theorem selects_iff {grant : QueryAccessGrant} {assets : List String}
    {entries : List (PyKey × PyValue)}
    (inside : ∀ asset ∈ assets, asset ∈ grant.assetFields.keys) :
    keysEqual entries assets = true ∧ selectionsGranted grant entries = true ↔
      grant.Selects assets entries := by
  rw [keysEqual_iff, keysSubset_iff, selectionsGranted, List.all_eq_true]
  constructor
  · rintro ⟨⟨named, every⟩, granted⟩
    refine ⟨?_, every⟩
    intro item here
    obtain ⟨asset, member, own⟩ := named item here
    obtain ⟨allowed, found⟩ := exists_fields (inside asset member)
    obtain ⟨key, value⟩ := item
    obtain rfl : key = .str asset := own
    have passes := granted _ here
    cases value with
    | sequence fields text =>
      simp only [found] at passes
      exact ⟨asset, member, fields, text, rfl, (toldSubset_fields_iff found).mp passes⟩
    | _ => cases passes
  · rintro ⟨each, every⟩
    refine ⟨⟨?_, every⟩, ?_⟩
    · intro item here
      obtain ⟨asset, member, fields, text, rfl, _⟩ := each item here
      exact ⟨asset, member, rfl⟩
    · intro item here
      obtain ⟨asset, member, fields, text, rfl, fine⟩ := each item here
      obtain ⟨allowed, found⟩ := exists_fields (inside asset member)
      simp only [found]
      exact (toldSubset_fields_iff found).mpr fine

/-- Of the assets of a grant, filters pass exactly when they are over granted fields of some. -/
theorem restricts_iff {grant : QueryAccessGrant} {assets : List String}
    {entries : List (PyKey × PyValue)}
    (inside : ∀ asset ∈ assets, asset ∈ grant.assetFields.keys) :
    keysSubset entries assets = true ∧ filtersGranted grant entries = true ↔
      grant.Restricts assets entries := by
  rw [keysSubset_iff, filtersGranted, List.all_eq_true]
  constructor
  · rintro ⟨named, granted⟩ item here
    obtain ⟨asset, member, own⟩ := named item here
    obtain ⟨allowed, found⟩ := exists_fields (inside asset member)
    obtain ⟨key, value⟩ := item
    obtain rfl : key = .str asset := own
    have passes := granted _ here
    cases value with
    | mapping filters text =>
      simp only [found] at passes
      have fine := keysSubset_iff.mp passes
      refine ⟨asset, member, filters, text, rfl, ?_⟩
      intro filter listed
      obtain ⟨field, allows, same⟩ := fine filter listed
      exact ⟨field, same, allowed, found, allows⟩
    | _ => cases passes
  · intro each
    constructor
    · intro item here
      obtain ⟨asset, member, filters, text, rfl, _⟩ := each item here
      exact ⟨asset, member, rfl⟩
    · intro item here
      obtain ⟨asset, member, filters, text, rfl, fine⟩ := each item here
      obtain ⟨allowed, found⟩ := exists_fields (inside asset member)
      simp only [found]
      refine keysSubset_iff.mpr ?_
      intro filter listed
      obtain ⟨field, same, other, also, allows⟩ := fine filter listed
      rw [found] at also
      rw [← Option.some.inj also] at allows
      exact ⟨field, allows, same⟩

/-- Relationships pass exactly when they are missing or a sequence of granted ones. -/
theorem relationshipsGranted_iff {grant : QueryAccessGrant}
    {parameters : List (PyKey × PyValue)} :
    relationshipsGranted grant parameters = true ↔
      ∀ value, lookupKey "relationships" parameters = some value →
        ∃ items text, value = .sequence items text ∧
          ∀ item ∈ items, ∃ name, item.told = .ok name ∧ name ∈ grant.relationships := by
  unfold relationshipsGranted
  cases lookupKey "relationships" parameters with
  | none => simp
  | some value => cases value <;> simp

variable {base : AuthorizationRequest → PolicyDecision} {grants : List QueryAccessGrant}
  {request : AuthorizationRequest} {grant : QueryAccessGrant}

/-- A query that the base allows is allowed exactly when the grant kept for it authorizes it. -/
theorem evaluate_iff_of_kept (allows : (base request).allowed = true)
    (query : request.capability = .query) (kept : grantFor grants request = some grant) :
    (evaluate base grants request).allowed = true ↔ grant.Authorizes request := by
  have denied : ∀ reason, (deny request reason).allowed = true ↔ False := by simp [deny]
  unfold evaluate
  rw [if_neg (by simp [allows, query])]
  simp only [kept]
  by_cases inside : subset request.assetIds grant.assetFields.keys = true
  · have assets := subset_iff.mp inside
    rw [if_neg (not_not.mpr inside)]
    -- Each check that fails denies, and what it checks is a part of the authorization.
    cases selects : scope "select_by_asset" request.parameters with
    | none =>
      rw [denied, false_iff]
      rintro ⟨_, ⟨entries, mapped, _⟩, _, _⟩
      exact not_mapped selects mapped
    | some selections =>
      have selected : keysEqual selections request.assetIds = true ∧
          selectionsGranted grant selections = true ↔
            ∃ entries, Mapped "select_by_asset" request.parameters entries ∧
              grant.Selects request.assetIds entries := by
        rw [selects_iff assets, exists_mapped_iff selects]
      cases wheres : scope "where_by_asset" request.parameters with
      | none =>
        have other : ¬ grant.Authorizes request := by
          rintro ⟨_, _, _, ⟨entries, mapped, _⟩⟩
          exact not_mapped wheres mapped
        dsimp only
        split_ifs <;> simp [denied, other]
      | some filters =>
        have filtered : keysSubset filters request.assetIds = true ∧
            filtersGranted grant filters = true ↔
              ∃ entries, Mapped "where_by_asset" request.parameters entries ∧
                grant.Restricts request.assetIds entries := by
          rw [restricts_iff assets, exists_mapped_iff wheres]
        have authorized : grant.Authorizes request ↔
            (keysEqual selections request.assetIds = true ∧
              selectionsGranted grant selections = true) ∧
              relationshipsGranted grant request.parameters = true ∧
                keysSubset filters request.assetIds = true ∧
                  filtersGranted grant filters = true := by
          rw [selected, filtered, relationshipsGranted_iff]
          constructor
          · intro granted
            exact ⟨granted.selections, granted.relationships, granted.filters⟩
          · rintro ⟨selections, relationships, filters⟩
            exact ⟨assets, selections, relationships, filters⟩
        rw [authorized]
        dsimp only
        split_ifs <;> simp_all
  · rw [if_pos inside, denied, false_iff]
    intro granted
    exact inside (subset_iff.mpr granted.assets)

/-- The grant kept for a request is one of those with its key. -/
theorem of_grantFor (kept : grantFor grants request = some grant) :
    grant ∈ grants ∧ grant.covers request.identity request.sourceId = true := by
  unfold grantFor at kept
  have here := List.mem_reverse.mp (List.mem_of_find?_eq_some kept)
  rw [List.find?_eq_some_iff_append] at kept
  exact ⟨here, kept.1⟩

/-- A grant is kept when there is one with the key. -/
theorem exists_grantFor (here : grant ∈ grants)
    (covers : grant.covers request.identity request.sourceId = true) :
    ∃ kept, grantFor grants request = some kept := by
  unfold grantFor
  apply Option.isSome_iff_exists.mp
  rw [List.find?_isSome]
  exact ⟨grant, List.mem_reverse.mpr here, covers⟩

/-- A grant with the key that is the last one given is kept. -/
theorem grantFor_append (covers : grant.covers request.identity request.sourceId = true)
    (front : List QueryAccessGrant) : grantFor (front ++ [grant]) request = some grant := by
  unfold grantFor
  simp [covers]

/-- Without a grant a query is not allowed. -/
theorem not_allowed_of_grantFor (query : request.capability = .query)
    (missing : grantFor grants request = none) :
    (evaluate base grants request).allowed = false := by
  unfold evaluate
  split
  · rename_i refused
    exact refused.resolve_right (not_not.mpr query)
  · rw [missing]
    rfl

/-! ## Exact and free of order -/

/-- The policy allows a query exactly when the base does and some grant with its key authorizes it,
and allows the same in every order of the grants. -/
structure ExactlyGranted (base : AuthorizationRequest → PolicyDecision)
    (grants : List QueryAccessGrant) (request : AuthorizationRequest) : Prop where
  allowed : (evaluate base grants request).allowed = true ↔
    (base request).allowed = true ∧ ∃ grant ∈ grants,
      grant.covers request.identity request.sourceId = true ∧ grant.Authorizes request
  orderFree : ∀ others, others.Perm grants →
    (evaluate base others request).allowed = (evaluate base grants request).allowed

/-- The grants with the key of a request agree on it. -/
def Agreed (grants : List QueryAccessGrant) (request : AuthorizationRequest) : Prop :=
  ∀ one ∈ grants, ∀ other ∈ grants, one.covers request.identity request.sourceId = true →
    other.covers request.identity request.sourceId = true →
      one.Authorizes request → other.Authorizes request

/-- When the grants with the key agree, a query is allowed exactly when one of them authorizes
it. -/
theorem evaluate_iff_of_agreed (query : request.capability = .query)
    (agreed : Agreed grants request) :
    (evaluate base grants request).allowed = true ↔
      (base request).allowed = true ∧ ∃ grant ∈ grants,
        grant.covers request.identity request.sourceId = true ∧ grant.Authorizes request := by
  by_cases allows : (base request).allowed = true
  · cases kept : grantFor grants request with
    | none =>
      rw [not_allowed_of_grantFor query kept]
      apply iff_of_false Bool.false_ne_true
      rintro ⟨_, grant, here, covers, _⟩
      obtain ⟨other, found⟩ := exists_grantFor here covers
      rw [kept] at found
      cases found
    | some grant =>
      have own := of_grantFor kept
      rw [evaluate_iff_of_kept allows query kept]
      constructor
      · intro authorizes
        exact ⟨allows, grant, own.1, own.2, authorizes⟩
      · rintro ⟨_, other, here, covers, authorizes⟩
        exact agreed other here grant own.1 covers own.2 authorizes
  · have refused : evaluate base grants request = base request := by
      unfold evaluate
      rw [if_pos (.inl (by simpa using allows))]
    rw [refused]
    simp [allows]

/-- The policy is exact and free of order exactly when the base denies the query or the grants with
its key agree on it. -/
theorem exactlyGranted_iff (base : AuthorizationRequest → PolicyDecision)
    (grants : List QueryAccessGrant) (request : AuthorizationRequest)
    (query : request.capability = .query) :
    ExactlyGranted base grants request ↔
      ((base request).allowed = true → Agreed grants request) := by
  constructor
  · intro granted allows one here other there covers also authorizes
    -- The other grant can be the last one given.
    obtain ⟨front, back, parts⟩ := List.append_of_mem there
    have last : (front ++ back ++ [other]).Perm grants := by
      rw [parts, List.append_assoc]
      exact List.Perm.append_left front (List.perm_append_singleton other back)
    have allowed : (evaluate base grants request).allowed = true :=
      granted.allowed.mpr ⟨allows, one, here, covers, authorizes⟩
    rw [← granted.orderFree _ last] at allowed
    exact (evaluate_iff_of_kept allows query (grantFor_append also _)).mp allowed
  · intro agreed
    by_cases allows : (base request).allowed = true
    · have agreed := agreed allows
      refine ⟨evaluate_iff_of_agreed query agreed, ?_⟩
      intro others same
      have also : Agreed others request := by
        intro one here other there
        exact agreed one (same.mem_iff.mp here) other (same.mem_iff.mp there)
      rw [Bool.eq_iff_iff, evaluate_iff_of_agreed query also, evaluate_iff_of_agreed query agreed]
      simp only [same.mem_iff]
    · have refused : ∀ grants, evaluate base grants request = base request := by
        intro grants
        unfold evaluate
        rw [if_pos (.inl (by simpa using allows))]
      refine ⟨?_, ?_⟩
      · rw [refused]
        simp [allows]
      · intro others _
        rw [refused, refused]

/-! ## Two grants with one key -/

/-- A grant of another asset to the same agent at the same source. -/
def parts : QueryAccessGrant :=
  { QueryAccessGrant.small with
    assetFields := ⟨[("parts", ["id"])], by simp⟩
    assets := by simp }

/-- A query of the status of the orders. -/
def ordersRequest : AuthorizationRequest where
  identity := .small
  sourceId := "erp"
  capability := .query
  assetIds := ["orders"]
  purpose := "analysis"
  attributes := []
  parameters := [(.str "select_by_asset",
    .mapping [(.str "orders", .sequence [.str "status"] "['status']")] "dict")]

/-- A grant of more fields of the orders to the same agent at the same source. -/
def wider : QueryAccessGrant :=
  { QueryAccessGrant.small with
    assetFields := ⟨[("orders", ["status", "total"])], by simp⟩
    assets := by simp }

/-- A grant that is given last and lets the query pass authorizes it. -/
theorem authorizes_of_last (grants : List QueryAccessGrant) {grant : QueryAccessGrant}
    (covers : grant.covers ordersRequest.identity ordersRequest.sourceId = true)
    (allowed : (evaluate allowAll (grants ++ [grant]) ordersRequest).allowed = true) :
    grant.Authorizes ordersRequest :=
  (evaluate_iff_of_kept rfl rfl (grantFor_append covers grants)).mp allowed

/-- A grant that is given last and does not let the query pass does not authorize it. -/
theorem not_authorizes_of_last (grants : List QueryAccessGrant) {grant : QueryAccessGrant}
    (covers : grant.covers ordersRequest.identity ordersRequest.sourceId = true)
    (denied : (evaluate allowAll (grants ++ [grant]) ordersRequest).allowed = false) :
    ¬ grant.Authorizes ordersRequest := by
  intro authorizes
  rw [(evaluate_iff_of_kept rfl rfl (grantFor_append covers grants)).mpr authorizes] at denied
  cases denied

/-- Of two grants with one key the policy is exact where both authorize the query, and it is not
where only one does. -/
theorem exactlyGranted_small :
    ExactlyGranted allowAll [wider, .small] ordersRequest ∧
      ¬ ExactlyGranted allowAll [parts, .small] ordersRequest := by
  have own : QueryAccessGrant.small.Authorizes ordersRequest :=
    authorizes_of_last [wider] (by decide) (by decide +kernel)
  constructor
  · apply (exactlyGranted_iff allowAll [wider, .small] ordersRequest rfl).mpr
    intro _ one _ other there _ _ _
    have also : wider.Authorizes ordersRequest :=
      authorizes_of_last [.small] (by decide) (by decide +kernel)
    simp only [List.mem_cons, List.not_mem_nil, or_false] at there
    rcases there with rfl | rfl
    · exact also
    · exact own
  · intro granted
    have agreed := (exactlyGranted_iff allowAll [parts, .small] ordersRequest rfl).mp granted rfl
    have foreign : ¬ parts.Authorizes ordersRequest :=
      not_authorizes_of_last [.small] (by decide) (by decide +kernel)
    exact foreign (agreed .small (List.mem_cons_of_mem _ List.mem_cons_self) parts
      List.mem_cons_self (by decide) (by decide) own)

/-- A query that a grant authorizes is allowed when the grant is given last, and denied when
another grant with its key is. -/
theorem parts_hide_orders :
    QueryAccessGrant.small.covers ordersRequest.identity ordersRequest.sourceId = true ∧
      QueryAccessGrant.small.Authorizes ordersRequest ∧
      (evaluate allowAll [parts, .small] ordersRequest).allowed = true ∧
      evaluate allowAll [.small, parts] ordersRequest =
        ⟨false, "field:request:asset_not_authorized", "asset_not_authorized"⟩ := by
  have allowed : (evaluate allowAll [parts, .small] ordersRequest).allowed = true := by
    decide +kernel
  exact ⟨by decide, authorizes_of_last [parts] (by decide) allowed, allowed, rfl⟩

end FieldRelationshipPolicy

end DataHarness
