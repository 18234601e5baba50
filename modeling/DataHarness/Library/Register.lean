import DataHarness.Library.Table
import Mathlib.Order.Defs.Unbundled

/-!
# Registers that move only forward

A register holds one item at most. An item that is offered to it is checked against the one it
holds, and takes its place or is refused. What a register holds after any offers is the last item it
took, and where it takes the items that are not behind the one it holds and refuses the others,
every item offered is behind that one. A store that keeps a register under each key answers the
offers of each key as that register alone would, however the offers of different keys are
interleaved.
-/

/-- How an offered item is checked against the one that is held. -/
abbrev Register (τ ε : Type) : Type := Option τ → τ → Except ε Unit

namespace Register

variable {τ ε : Type} (register : Register τ ε)

/-- The item takes the place of the one that is held. -/
def Takes (held : Option τ) (item : τ) : Prop := register held item = .ok ()

/-- What is held after one offer. -/
def offer (held : Option τ) (item : τ) : Option τ :=
  match register held item with
  | .ok _ => some item
  | .error _ => held

/-- What is held after several offers. -/
def run (held : Option τ) (items : List τ) : Option τ := items.foldl register.offer held

/-- The items that were taken, in order. -/
def taken (held : Option τ) : List τ → List τ
  | [] => []
  | item :: rest =>
    match register held item with
    | .ok _ => item :: taken (some item) rest
    | .error _ => taken held rest

variable {register} {held : Option τ} {item : τ}

/-- An item that is taken is held. -/
theorem offer_taken (takes : register.Takes held item) : register.offer held item = some item := by
  unfold offer
  rw [show register held item = .ok () from takes]

/-- An item that is refused leaves the register as it is. -/
theorem offer_refused {error : ε} (refused : register held item = .error error) :
    register.offer held item = held := by
  unfold offer
  rw [refused]

/-- An item is taken, or refused with an error. -/
theorem takes_or_refused (register : Register τ ε) (held : Option τ) (item : τ) :
    register.Takes held item ∨ ∃ error, register held item = .error error := by
  cases answer : register held item with
  | ok done => exact .inl answer
  | error error => exact .inr ⟨error, rfl⟩

/-- No item leaves what is held. -/
@[simp] theorem run_nil (held : Option τ) : register.run held [] = held := rfl

/-- Items are taken one after the other. -/
@[simp] theorem run_cons (held : Option τ) (item : τ) (rest : List τ) :
    register.run held (item :: rest) = register.run (register.offer held item) rest := rfl

/-- Offers one after another. -/
theorem run_append (held : Option τ) (front back : List τ) :
    register.run held (front ++ back) = register.run (register.run held front) back :=
  List.foldl_append

/-- A taken item is the first of those taken. -/
theorem taken_cons_taken (takes : register.Takes held item) (rest : List τ) :
    register.taken held (item :: rest) = item :: register.taken (some item) rest := by
  rw [taken, show register held item = .ok () from takes]

/-- A refused item is not among those taken. -/
theorem taken_cons_refused {error : ε} (refused : register held item = .error error)
    (rest : List τ) : register.taken held (item :: rest) = register.taken held rest := by
  rw [taken, refused]

/-- What is taken was offered, in its order. -/
theorem taken_sublist (register : Register τ ε) (held : Option τ) (items : List τ) :
    List.Sublist (register.taken held items) items := by
  induction items generalizing held with
  | nil => exact List.Sublist.slnil
  | cons item rest ih =>
    rcases takes_or_refused register held item with takes | ⟨error, refused⟩
    · rw [taken_cons_taken takes]
      exact (ih (some item)).cons_cons item
    · rw [taken_cons_refused refused]
      exact (ih held).cons item

/-- An item among those taken was taken when it was offered. -/
theorem takes_of_mem_taken {items : List τ} {item : τ} (member : item ∈ register.taken held items) :
    ∃ before, register.Takes before item := by
  induction items generalizing held with
  | nil => cases member
  | cons first rest ih =>
    rcases takes_or_refused register held first with takes | ⟨error, refused⟩
    · rw [taken_cons_taken takes] at member
      rcases List.mem_cons.mp member with same | among
      · rw [same]
        exact ⟨held, takes⟩
      · exact ih among
    · rw [taken_cons_refused refused] at member
      exact ih member

/-- What is held is the last item taken, or what was held before any. -/
theorem run_eq (register : Register τ ε) (held : Option τ) (items : List τ) :
    register.run held items = ((register.taken held items).getLast?).or held := by
  induction items generalizing held with
  | nil => rfl
  | cons item rest ih =>
    rcases takes_or_refused register held item with takes | ⟨error, refused⟩
    · rw [run_cons, offer_taken takes, taken_cons_taken takes, ih, List.getLast?_cons]
      cases (register.taken (some item) rest).getLast? <;> rfl
    · rw [run_cons, offer_refused refused, taken_cons_refused refused, ih]

/-- What is held after offers was held before, or is one of them. -/
theorem mem_of_run {items : List τ} {final : τ} (after : register.run held items = some final) :
    held = some final ∨ final ∈ items := by
  rw [run_eq] at after
  rcases Option.or_eq_some_iff.mp after with last | ⟨-, before⟩
  · exact .inr ((taken_sublist register held items).subset (List.mem_of_getLast? last))
  · exact .inl before

/-! ## Order -/

/-- Only items that are not behind the held one are taken. -/
def Forward (register : Register τ ε) (le : τ → τ → Prop) : Prop :=
  ∀ held item, register.Takes (some held) item → le held item

/-- Every item that is refused is behind the held one, and the first is never refused. -/
def Eager (register : Register τ ε) (le : τ → τ → Prop) : Prop :=
  ∀ held item error, register held item = .error error →
    ∃ before, held = some before ∧ le item before

variable {le : τ → τ → Prop}

/-- One offer moves a register forward. -/
theorem Forward.offer (forward : register.Forward le) (refl : ∀ item, le item item) {before : τ} :
    ∃ after, register.offer (some before) item = some after ∧ le before after := by
  rcases takes_or_refused register (some before) item with takes | ⟨error, refused⟩
  · exact ⟨item, offer_taken takes, forward before item takes⟩
  · exact ⟨before, offer_refused refused, refl before⟩

/-- Offers move a register forward. -/
theorem Forward.run (forward : register.Forward le) (refl : ∀ item, le item item)
    (trans : ∀ a b c, le a b → le b c → le a c) (before : τ) (items : List τ) :
    ∃ after, register.run (some before) items = some after ∧ le before after := by
  induction items generalizing before with
  | nil => exact ⟨before, rfl, refl before⟩
  | cons item rest ih =>
    obtain ⟨middle, offered, first⟩ := @Forward.offer _ _ _ item _ forward refl before
    obtain ⟨after, ran, second⟩ := ih middle
    refine ⟨after, ?_, trans before middle after first second⟩
    rw [run_cons, offered, ran]

/-- Where only what is behind is refused, every item offered is behind the one held in the end. -/
theorem Forward.offered_le (forward : register.Forward le) (eager : register.Eager le)
    (refl : ∀ item, le item item) (trans : ∀ a b c, le a b → le b c → le a c) (held : Option τ)
    (items : List τ) :
    ∀ item ∈ items, ∃ final, register.run held items = some final ∧ le item final := by
  induction items generalizing held with
  | nil =>
    intro item member
    cases member
  | cons first rest ih =>
    intro item member
    rw [run_cons]
    rcases List.mem_cons.mp member with same | among
    · rw [same]
      rcases takes_or_refused register held first with takes | ⟨error, refused⟩
      · rw [offer_taken takes]
        exact forward.run refl trans first rest
      · obtain ⟨before, held_eq, behind⟩ := eager held first error refused
        obtain ⟨final, ran, further⟩ := forward.run refl trans before rest
        refine ⟨final, ?_, trans first before final behind further⟩
        rw [offer_refused refused, held_eq, ran]
    · exact ih (register.offer held first) item among

/-- Where no two of the items stand level, the order in which they are offered does not matter. -/
theorem Forward.run_perm (forward : register.Forward le) (eager : register.Eager le)
    (refl : ∀ item, le item item) (trans : ∀ a b c, le a b → le b c → le a c)
    {items others : List τ} (perm : items.Perm others)
    (strict : ∀ a ∈ items, ∀ b ∈ items, le a b → le b a → a = b) :
    register.run none items = register.run none others := by
  have single : ∀ {list : List τ}, list ≠ [] →
      ∃ final ∈ list, register.run none list = some final ∧ ∀ item ∈ list, le item final := by
    intro list some
    obtain ⟨first, rest, rfl⟩ := List.exists_cons_of_ne_nil some
    obtain ⟨final, ran, -⟩ :=
      forward.offered_le eager refl trans none (first :: rest) first List.mem_cons_self
    refine ⟨final, (mem_of_run ran).resolve_left (by simp), ran, ?_⟩
    intro item member
    obtain ⟨other, same, behind⟩ := forward.offered_le eager refl trans none _ item member
    rw [ran, Option.some.injEq] at same
    rw [same]
    exact behind
  by_cases empty : items = []
  · subst empty
    rw [perm.symm.eq_nil]
  · have filled : others ≠ [] := by
      intro none
      subst none
      exact empty perm.eq_nil
    obtain ⟨left, among, first, above⟩ := single empty
    obtain ⟨right, within, second, beyond⟩ := single filled
    have same : left = right := strict left among right (perm.mem_iff.mpr within)
      (beyond left (perm.mem_iff.mp among)) (above right (perm.mem_iff.mpr within))
    rw [first, second, same]

end Register

/-! ## Stores -/

/-- A store that keeps a register under each key. -/
structure Registers (σ τ κ ε : Type) [DecidableEq κ] where
  /-- What is held under a key. -/
  find? : σ → κ → Option τ
  /-- The key of an item. -/
  key : τ → κ
  /-- Offer an item to the register of its key. -/
  record : σ → τ → Except ε σ
  /-- How items are checked. -/
  register : Register τ ε
  /-- An item that is refused leaves no new store. -/
  refused : ∀ {store item error}, register (find? store (key item)) item = .error error →
    record store item = .error error
  /-- An item that is taken is held, and nothing else changes. -/
  recorded : ∀ {store item}, register.Takes (find? store (key item)) item →
    ∃ next, record store item = .ok next ∧
      ∀ k, find? next k = if k = key item then some item else find? store k

namespace Registers

variable {σ τ κ ε : Type} [DecidableEq κ] (registers : Registers σ τ κ ε)

/-- The store after an offer, which stays as it is where the item is refused. -/
def offer (store : σ) (item : τ) : σ :=
  match registers.record store item with
  | .ok next => next
  | .error _ => store

/-- The store after several offers. -/
def run (store : σ) (items : List τ) : σ := items.foldl registers.offer store

/-- The offers of one key. -/
def offersOf (k : κ) (items : List τ) : List τ := items.filter fun item => registers.key item = k

/-- An offer is one to the register of its key. -/
theorem find?_offer (store : σ) (item : τ) (k : κ) :
    registers.find? (registers.offer store item) k =
      if registers.key item = k then
        registers.register.offer (registers.find? store k) item
      else registers.find? store k := by
  unfold offer
  rcases Register.takes_or_refused registers.register
    (registers.find? store (registers.key item)) item with takes | ⟨error, refused⟩
  · obtain ⟨next, recorded, found⟩ := registers.recorded takes
    rw [recorded, found k]
    by_cases same : registers.key item = k
    · subst same
      rw [if_pos rfl, if_pos rfl, Register.offer_taken takes]
    · rw [if_neg same, if_neg (Ne.symm same)]
  · rw [registers.refused refused]
    by_cases same : registers.key item = k
    · subst same
      rw [if_pos rfl, Register.offer_refused refused]
    · rw [if_neg same]

/-- What is held under a key after any offers is what its own register holds after its own. -/
theorem find?_run (store : σ) (items : List τ) (k : κ) :
    registers.find? (registers.run store items) k =
      registers.register.run (registers.find? store k) (registers.offersOf k items) := by
  induction items generalizing store with
  | nil => rfl
  | cons item rest ih =>
    show registers.find? (registers.run (registers.offer store item) rest) k = _
    rw [ih, find?_offer]
    unfold offersOf
    rw [List.filter_cons]
    by_cases same : registers.key item = k
    · rw [if_pos same, if_pos (decide_eq_true same), Register.run_cons]
    · rw [if_neg same, if_neg (by simp [same])]

end Registers

/-! ## Tables as stores -/

namespace Table

variable {ρ κ ε : Type} {key : ρ → κ} [DecidableEq κ]

/-- Put a row in the place of the one under its key, or behind the others. -/
def put (table : Table ρ κ key) (row : ρ) : Table ρ κ key :=
  match fresh : table.find? (key row) with
  | none => table.insert row fresh
  | some _ => table.update (key row) (fun old => if key old = key row then row else old) (by
      intro old
      split
      · rename_i same
        exact same.symm
      · rfl)

/-- A row that was put is found, and nothing else changes. -/
theorem find?_put (table : Table ρ κ key) (row : ρ) (k : κ) :
    (table.put row).find? k = if k = key row then some row else table.find? k := by
  unfold put
  split
  · rw [find?_insert]
    by_cases same : key row = k
    · rw [if_pos same, if_pos same.symm]
    · rw [if_neg same, if_neg (Ne.symm same)]
  · rename_i old found
    rw [find?_update]
    by_cases same : k = key row
    · rw [if_pos same, if_pos same, found, Option.map_some, if_pos (key_of_find? found)]
    · rw [if_neg same, if_neg same]

/-- Check a row against the one under its key, and put it there. -/
def record (register : Register ρ ε) (table : Table ρ κ key) (row : ρ) :
    Except ε (Table ρ κ key) := do
  register (table.find? (key row)) row
  return table.put row

/-- A table keeps a register under each key. -/
def registers (register : Register ρ ε) : Registers (Table ρ κ key) ρ κ ε where
  find? := find?
  key := key
  record := record register
  register := register
  refused := by
    intro table row error refused
    unfold record
    rw [refused]
    rfl
  recorded := by
    intro table row takes
    refine ⟨table.put row, ?_, find?_put table row⟩
    unfold record
    rw [show register (table.find? (key row)) row = .ok () from takes]
    rfl

end Table
