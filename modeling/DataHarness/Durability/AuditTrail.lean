import DataHarness.Durability.History
import DataHarness.Library.Document

/-!
# What a trusted head says of an audit ledger

A ledger that verifies is a chain from the genesis digest in which every digest is taken over its
entry. Whoever trusts the last digest therefore trusts the whole ledger: two ledgers that verify and
end in one digest hold the same entries (`trusted_head`).
-/

namespace DataHarness

/-- The head of a ledger: the digest of its last entry. -/
def ActionAuditLedger.head (ledger : ActionAuditLedger) : String :=
  lastDigest genesis ledger.entries

section Ledgers

variable [Stdlib]

/-- What the digest of an entry is taken over, when it verifies. -/
def AuditEntry.body (entry : AuditEntry) : Json.Value :=
  auditBody entry.sequence entry.eventType entry.actionId entry.occurredAt entry.attributes
    entry.previousDigest

/-- Entries are equal: their timestamps in text, and their attributes in any order. -/
structure AuditEntry.Same (left right : AuditEntry) : Prop where
  sequence : left.sequence = right.sequence
  eventType : left.eventType = right.eventType
  actionId : left.actionId = right.actionId
  occurredAt : isoformat left.occurredAt = isoformat right.occurredAt
  attributes : (Json.canonicalMembers left.attributes).Perm
    (Json.canonicalMembers right.attributes)
  previousDigest : left.previousDigest = right.previousDigest
  digest : left.digest = right.digest

omit [Stdlib] in
/-- Objects with one canonical form have the same members, in any order. -/
theorem perm_of_canonical {left right : List (String × Json.Value)}
    (same : Json.canonical (.obj left) = Json.canonical (.obj right)) :
    (Json.canonicalMembers left).Perm (Json.canonicalMembers right) := by
  rw [Json.canonical_obj, Json.canonical_obj] at same
  have sorted := Json.Value.obj.inj same
  have first := (Json.perm_sortMembers (Json.canonicalMembers left)).symm
  rw [sorted] at first
  exact first.trans (Json.perm_sortMembers (Json.canonicalMembers right))

/-- Entries with one digest over their bodies are equal. -/
theorem AuditEntry.same_of_digest (injective : Sha256Injective) {left right : AuditEntry}
    (first : left.digest = DataHarness.digest left.body)
    (second : right.digest = DataHarness.digest right.body) (same : left.digest = right.digest) :
    left.Same right := by
  have digests : DataHarness.digest left.body = DataHarness.digest right.body := by
    rw [← first, ← second]
    exact same
  have bodies := digest_injective injective digests
  obtain ⟨sequence, eventType, actionId, occurredAt, attributes, previous⟩ :=
    eventBody_canonical bodies
  exact ⟨Int.ofNat.inj sequence, eventType, actionId, occurredAt, perm_of_canonical attributes,
    previous, same⟩

namespace ActionAuditLedger

/-- Entries verify exactly when they are a chain, every digest taken over its entry. -/
theorem verifyFrom_iff {previous : String} {entries : List AuditEntry} :
    verifyFrom previous entries = true ↔
      Chain.Linked AuditEntry.previousDigest AuditEntry.digest previous entries ∧
        ∀ entry ∈ entries, entry.digest = DataHarness.digest entry.body := by
  induction entries generalizing previous with
  | nil => simp [verifyFrom, Chain.Linked]
  | cons entry entries ih =>
    unfold verifyFrom
    by_cases refers : entry.previousDigest = previous
    · have own : DataHarness.digest (auditBody entry.sequence entry.eventType entry.actionId
          entry.occurredAt entry.attributes previous) = DataHarness.digest entry.body := by
        rw [← refers]
        rfl
      rw [own]
      by_cases signed : entry.digest = DataHarness.digest entry.body
      · rw [if_neg (by simp [refers, signed]), ih]
        simp [Chain.Linked, refers, signed]
      · rw [if_pos (.inr signed)]
        simp [signed]
    · rw [if_pos (.inl refers)]
      simp [Chain.Linked, refers]

omit [Stdlib] in
/-- The head of a ledger is the end of its chain. -/
theorem head_eq_tip (ledger : ActionAuditLedger) :
    ledger.head = Chain.tip AuditEntry.digest genesis ledger.entries := by
  unfold head lastDigest
  rcases List.eq_nil_or_concat ledger.entries with none | ⟨front, last, some⟩
  · rw [none]
    rfl
  · rw [some, List.concat_eq_append, Chain.tip_append_singleton, List.getLast?_append,
      List.getLast?_singleton]
    rfl

/-- A ledger that was built by `append` alone. -/
inductive Built : ActionAuditLedger → Prop
  | empty : Built ⟨[]⟩
  | append {ledger after : ActionAuditLedger} {eventType actionId : String}
    {occurredAt : DateTime} {attributes : List (String × Json.Value)} {entry : AuditEntry} :
    Built ledger →
      ledger.append eventType actionId occurredAt attributes = .ok (entry, after) → Built after

/-- A ledger that was built by `append` alone verifies. -/
theorem Built.verify {ledger : ActionAuditLedger} (built : Built ledger) :
    ledger.verify = true := by
  induction built with
  | empty => rfl
  | append _ appended ih => exact verify_append ih appended

/-- When SHA-256 has no collision and no entry hashes to the genesis digest, two ledgers that verify
and have one head have the same entries; and every ledger that was built by `append` alone
verifies. -/
theorem trusted_head (injective : Sha256Injective) :
    (∀ left right : ActionAuditLedger, left.verify = true → right.verify = true →
      (∀ entry ∈ left.entries ++ right.entries, entry.digest ≠ genesis) →
      left.head = right.head → List.Forall₂ AuditEntry.Same left.entries right.entries) ∧
    ∀ ledger, Built ledger → ledger.verify = true := by
  refine ⟨?_, fun ledger built => built.verify⟩
  intro left right first second free same
  obtain ⟨linked, signed⟩ := verifyFrom_iff.mp first
  obtain ⟨chained, sealed⟩ := verifyFrom_iff.mp second
  rw [head_eq_tip, head_eq_tip] at same
  refine Chain.agree_of_tip linked chained free ?_ same
  intro one member other inside digests
  have agree := AuditEntry.same_of_digest injective (signed one member) (sealed other inside) digests
  exact ⟨agree, agree.previousDigest⟩

end ActionAuditLedger

end Ledgers

namespace ActionAuditLedger

/-- A ledger with one preview, in a library that hides nothing. -/
def preview (attributes : List (String × Json.Value)) : ActionAuditLedger :=
  ⟨[⟨1, "action.previewed", "a1", noon, attributes, genesis,
    @DataHarness.digest .transparent
      (@auditBody .transparent 1 "action.previewed" "a1" noon attributes genesis)⟩]⟩

/-- It was built by `append`. -/
theorem preview_built (attributes : List (String × Json.Value)) :
    @Built .transparent (preview attributes) :=
  @Built.append .transparent ⟨[]⟩ _ "action.previewed" "a1" noon attributes _
    (@Built.empty .transparent) rfl

/-- An object is written with a brace in front. -/
theorem head_render_obj (members : List (String × Json.Value)) :
    (Json.render (.obj members)).head? = some '{' := by
  cases members with
  | nil => rfl
  | cons member members => rfl

/-- Its digest is not the genesis digest. -/
theorem preview_free (attributes : List (String × Json.Value)) :
    ∀ entry ∈ (preview attributes).entries, entry.digest ≠ genesis := by
  intro entry member same
  rw [List.mem_singleton.mp member] at same
  have texts := congrArg String.toList ((String.append_right_inj _).mp same)
  have heads : (String.ofList (Json.render (Json.canonical (@auditBody .transparent 1
      "action.previewed" "a1" noon attributes genesis)))).toList.head? = some '0' := by
    have first := congrArg List.head? texts
    rw [String.toList_ofList] at first
    exact first
  unfold auditBody at heads
  rw [String.toList_ofList, Json.canonical_obj, head_render_obj] at heads
  cases heads

/-- Two ledgers whose entries differ in the order of their attributes have one head, and the same
entries. -/
theorem trusted_head_reordered :
    List.Forall₂ (@AuditEntry.Same .transparent)
      (preview [("risk", .str "high"), ("allowed", .bool true)]).entries
      (preview [("allowed", .bool true), ("risk", .str "high")]).entries := by
  have trusted := @trusted_head .transparent Stdlib.transparent_sha256
  refine trusted.1 _ _ (trusted.2 _ (preview_built _)) (trusted.2 _ (preview_built _)) ?_ rfl
  intro entry member
  rcases List.mem_append.mp member with first | second
  · exact preview_free _ entry first
  · exact preview_free _ entry second

end ActionAuditLedger

end DataHarness
