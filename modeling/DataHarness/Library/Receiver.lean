import Mathlib.Data.List.Nodup

/-!
# Receivers that apply a key once

A receiver answers requests one after the other and holds an outcome under the key of every request
it has applied. A request changes what is held under its own key only, and nothing at all once its
key holds an outcome (`Receiver`). So what is held is kept, no key is applied twice, and a measure
that grows with each application counts them, whatever requests come and however often.
-/

namespace Effect

/-- A party that answers requests and holds outcomes by key. -/
structure Receiver (σ ρ α κ β : Type) where
  /-- The answer to a request and the state after it. -/
  receive : σ → ρ → α × σ
  /-- What is held under a key. -/
  held : σ → κ → Option β
  /-- The key of a request. -/
  key : ρ → κ
  /-- A request changes what is held under its own key only. -/
  own : ∀ state request other, other ≠ key request →
    held (receive state request).2 other = held state other
  /-- A request under a key that holds an outcome changes nothing. -/
  settled : ∀ state request outcome, held state (key request) = some outcome →
    (receive state request).2 = state

namespace Receiver

variable {σ ρ α κ β : Type} (receiver : Receiver σ ρ α κ β)

/-- The state after some requests. -/
def after (state : σ) (requests : List ρ) : σ :=
  requests.foldl (fun state request => (receiver.receive state request).2) state

/-- No request leaves the state. -/
@[simp] theorem after_nil (state : σ) : receiver.after state [] = state := rfl

/-- Requests are taken one after the other. -/
@[simp] theorem after_cons (state : σ) (request : ρ) (requests : List ρ) :
    receiver.after state (request :: requests) =
      receiver.after (receiver.receive state request).2 requests := rfl

/-- Requests that follow others start where those ended. -/
@[simp] theorem after_append (state : σ) (first second : List ρ) :
    receiver.after state (first ++ second) =
      receiver.after (receiver.after state first) second := by
  simp [after]

/-- The request makes its key hold an outcome. -/
def applies (state : σ) (request : ρ) : Bool :=
  (receiver.held state (receiver.key request)).isNone &&
    (receiver.held (receiver.receive state request).2 (receiver.key request)).isSome

/-- The requests of a run that made their keys hold an outcome, in order. -/
def applied (state : σ) : List ρ → List ρ
  | [] => []
  | request :: requests =>
    if receiver.applies state request then
      request :: applied (receiver.receive state request).2 requests
    else applied (receiver.receive state request).2 requests

/-- A run applies its first request, or not, and then the others. -/
theorem applied_cons (state : σ) (request : ρ) (requests : List ρ) :
    receiver.applied state (request :: requests) =
      if receiver.applies state request then
        request :: receiver.applied (receiver.receive state request).2 requests
      else receiver.applied (receiver.receive state request).2 requests := rfl

variable {receiver} {state : σ}

/-- What is held is kept by a request. -/
theorem held_receive (request : ρ) {key : κ} {outcome : β}
    (holds : receiver.held state key = some outcome) :
    receiver.held (receiver.receive state request).2 key = some outcome := by
  by_cases here : key = receiver.key request
  · rw [here] at holds
    rw [receiver.settled state request outcome holds, here]
    exact holds
  · rw [receiver.own state request key here]
    exact holds

/-- What is held is kept by every run. -/
theorem held_after (requests : List ρ) {key : κ} {outcome : β}
    (holds : receiver.held state key = some outcome) :
    receiver.held (receiver.after state requests) key = some outcome := by
  induction requests generalizing state with
  | nil => exact holds
  | cons request requests ih => exact ih (held_receive request holds)

/-- A request that does not apply leaves every key as it was. -/
theorem held_of_idle {request : ρ} (idle : receiver.applies state request = false) (key : κ) :
    receiver.held (receiver.receive state request).2 key = receiver.held state key := by
  by_cases here : key = receiver.key request
  · subst here
    cases before : receiver.held state (receiver.key request) with
    | some outcome => exact held_receive request before
    | none => simpa [applies, before] using idle
  · exact receiver.own state request key here

/-- A request that applies finds its key free. -/
theorem free_of_applies {request : ρ} (applies : receiver.applies state request = true) :
    receiver.held state (receiver.key request) = none := by
  simp only [Receiver.applies, Bool.and_eq_true, Option.isNone_iff_eq_none] at applies
  exact applies.1

/-- Only requests under keys that are free are applied. -/
theorem free_of_applied {request : ρ} {requests : List ρ}
    (member : request ∈ receiver.applied state requests) :
    receiver.held state (receiver.key request) = none := by
  induction requests generalizing state with
  | nil => cases member
  | cons first requests ih =>
    have later : request ∈ receiver.applied (receiver.receive state first).2 requests →
        receiver.held state (receiver.key request) = none := by
      intro member
      cases before : receiver.held state (receiver.key request) with
      | none => rfl
      | some outcome =>
        have after := held_receive first before
        rw [ih member] at after
        cases after
    rw [applied_cons] at member
    split at member
    · rename_i applies
      rcases List.mem_cons.mp member with rfl | member
      · exact free_of_applies applies
      · exact later member
    · exact later member

/-- No key is applied twice. -/
theorem nodup_applied (state : σ) (requests : List ρ) :
    ((receiver.applied state requests).map receiver.key).Nodup := by
  induction requests generalizing state with
  | nil => exact List.nodup_nil
  | cons request requests ih =>
    rw [applied_cons]
    split
    · rename_i applies
      rw [List.map_cons, List.nodup_cons]
      refine ⟨fun member => ?_, ih _⟩
      obtain ⟨again, member, same⟩ := List.mem_map.mp member
      have free := free_of_applied member
      rw [same] at free
      simp [Receiver.applies, free] at applies
    · exact ih _

/-- A key holds an outcome after a run exactly if it did before or one of the requests that were
applied is under it. -/
theorem held_iff_applied (requests : List ρ) (key : κ) :
    (receiver.held (receiver.after state requests) key).isSome = true ↔
      (receiver.held state key).isSome = true ∨
        ∃ request ∈ receiver.applied state requests, receiver.key request = key := by
  induction requests generalizing state with
  | nil => simp [applied]
  | cons request requests ih =>
    rw [after_cons, ih, applied_cons]
    split
    · rename_i applies
      have free := free_of_applies applies
      have made : (receiver.held (receiver.receive state request).2
          (receiver.key request)).isSome = true := by
        simp only [Receiver.applies, Bool.and_eq_true] at applies
        exact applies.2
      by_cases here : key = receiver.key request
      · subst here
        simp [made]
      · rw [receiver.own state request key here]
        simp [Ne.symm here]
    · rename_i idle
      rw [held_of_idle (Bool.eq_false_iff.mpr idle)]

/-- A request that was applied was received in a state in which its key was free, and what it made
its key hold is held at the end. -/
theorem received_of_applied {request : ρ} {requests : List ρ}
    (member : request ∈ receiver.applied state requests) :
    ∃ before later outcome, requests = before ++ request :: later ∧
      receiver.applies (receiver.after state before) request = true ∧
      receiver.held (receiver.receive (receiver.after state before) request).2
          (receiver.key request) = some outcome ∧
        receiver.held (receiver.after state requests) (receiver.key request) = some outcome := by
  induction requests generalizing state with
  | nil => cases member
  | cons first requests ih =>
    have later : request ∈ receiver.applied (receiver.receive state first).2 requests →
        ∃ before later outcome, first :: requests = before ++ request :: later ∧
          receiver.applies (receiver.after state before) request = true ∧
          receiver.held (receiver.receive (receiver.after state before) request).2
              (receiver.key request) = some outcome ∧
            receiver.held (receiver.after state (first :: requests)) (receiver.key request) =
              some outcome := by
      intro member
      obtain ⟨before, later, outcome, rfl, applies, made, kept⟩ := ih member
      exact ⟨first :: before, later, outcome, rfl, applies, made, kept⟩
    rw [applied_cons] at member
    split at member
    · rename_i applies
      rcases List.mem_cons.mp member with rfl | member
      · have both := applies
        simp only [Receiver.applies, Bool.and_eq_true] at both
        obtain ⟨outcome, made⟩ := Option.isSome_iff_exists.mp both.2
        exact ⟨[], requests, outcome, rfl, applies, made, held_after requests made⟩
      · exact later member
    · exact later member

end Receiver

end Effect
