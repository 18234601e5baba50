import Mathlib.Data.List.Basic
import Mathlib.Logic.Function.Iterate

/-!
# Metered delivery of a feed

A consumer takes the items of a feed one at a time, accounts for each before handing it on, and
stops at the first item the account refuses. A delivery can also be stopped from outside, before
an item is taken or after it is accounted for. Whatever stops it, what was delivered is a prefix
the account accepted, and an item the account refuses is the one after that prefix.

A feed is finite. A source answers every time it is asked, with or without an end; a delivery from
a source is a state that advances by one item, and agrees with that of a feed where there is one.
-/

/-- Items in order, and the error that ends them, if any. -/
structure Feed (β ε : Type) where
  items : List β
  raised : Option ε

namespace Feed

variable {β ε σ : Type}

/-- One more item in front. -/
def push (item : β) (feed : Feed β ε) : Feed β ε := ⟨item :: feed.items, feed.raised⟩

/-- An item that is pushed comes first. -/
@[simp] theorem items_push (item : β) (feed : Feed β ε) :
    (feed.push item).items = item :: feed.items := rfl

/-- What ends a feed ends it with one more item too. -/
@[simp] theorem raised_push (item : β) (feed : Feed β ε) :
    (feed.push item).raised = feed.raised := rfl

/-- What can stop a delivery from outside, by the number of the item. -/
structure Stops (ε : Type) where
  /-- Before the item is taken. -/
  taken : Nat → Option ε
  /-- After the item is accounted for. -/
  accounted : Nat → Option ε

/-- Nothing stops the delivery. -/
def Stops.never : Stops ε := ⟨fun _ => none, fun _ => none⟩

/-- An error comes from outside. -/
def Stops.Raises (stops : Stops ε) (error : ε) : Prop :=
  ∃ index, stops.taken index = some error ∨ stops.accounted index = some error

/-- Nothing comes from outside when nothing stops the delivery. -/
theorem Stops.never_raises {error : ε} : ¬ (never : Stops ε).Raises error := by
  rintro ⟨index, taken | accounted⟩
  · cases taken
  · cases accounted

/-- What is delivered of a feed, from the item of a number on. -/
def deliver (stops : Stops ε) (account : σ → β → Except ε σ) (ending : Option ε) :
    Nat → σ → List β → Feed β ε
  | index, _, [] => ⟨[], (stops.taken index).or ending⟩
  | index, total, item :: rest =>
    match stops.taken index with
    | some error => ⟨[], some error⟩
    | none =>
      match account total item with
      | .error error => ⟨[], some error⟩
      | .ok next =>
        match stops.accounted index with
        | some error => ⟨[], some error⟩
        | none => (deliver stops account ending (index + 1) next rest).push item

/-- Why a delivery ended, with the total before the items that are left. -/
inductive Ended (stops : Stops ε) (account : σ → β → Except ε σ) (ending : Option ε) (final : σ)
    (rest : List β) : Option ε → Prop
  | finished : rest = [] → Ended stops account ending final rest ending
  | stopped {error : ε} : stops.Raises error → Ended stops account ending final rest (some error)
  | refused {error : ε} {item : β} {later : List β} : rest = item :: later →
      account final item = .error error → Ended stops account ending final rest (some error)

/-- What is delivered is a prefix the account accepts. -/
theorem deliver_spec (stops : Stops ε) (account : σ → β → Except ε σ) (ending : Option ε)
    (index : Nat) (total : σ) (items : List β) :
    ∃ final rest, items = (deliver stops account ending index total items).items ++ rest ∧
      (deliver stops account ending index total items).items.foldlM account total = .ok final ∧
      Ended stops account ending final rest
        (deliver stops account ending index total items).raised := by
  induction items generalizing index total with
  | nil =>
    refine ⟨total, [], rfl, rfl, ?_⟩
    unfold deliver
    cases taken : stops.taken index with
    | none => exact .finished rfl
    | some error => exact .stopped ⟨index, .inl taken⟩
  | cons item rest ih =>
    unfold deliver
    cases taken : stops.taken index with
    | some error => exact ⟨total, item :: rest, rfl, rfl, .stopped ⟨index, .inl taken⟩⟩
    | none =>
      cases counted : account total item with
      | error error => exact ⟨total, item :: rest, rfl, rfl, .refused rfl counted⟩
      | ok next =>
        cases accounted : stops.accounted index with
        | some error => exact ⟨total, item :: rest, rfl, rfl, .stopped ⟨index, .inr accounted⟩⟩
        | none =>
          obtain ⟨final, left, split, folded, ended⟩ := ih (index + 1) next
          refine ⟨final, left, ?_, ?_, ended⟩
          · simp only [items_push, List.cons_append]
            rw [← split]
          · simp only [items_push, List.foldlM_cons, counted]
            exact folded

/-- Where nothing stops it, a prefix the account accepts is delivered. -/
theorem prefix_deliver {account : σ → β → Except ε σ} {total final : σ} {front : List β}
    (accepted : front.foldlM account total = .ok final) (ending : Option ε) (index : Nat)
    (rest : List β) :
    front <+: (deliver .never account ending index total (front ++ rest)).items := by
  induction front generalizing index total with
  | nil => exact List.nil_prefix
  | cons item front ih =>
    rw [List.foldlM_cons] at accepted
    cases counted : account total item with
    | error error =>
      rw [counted] at accepted
      cases accepted
    | ok next =>
      rw [counted] at accepted
      have later := ih accepted (index + 1)
      simp only [List.cons_append, deliver, Stops.never, counted, items_push]
      exact List.cons_prefix_cons.mpr ⟨rfl, later⟩

/-! ## Sources with or without an end -/

/-- What a producer answers when it is asked for one more item. -/
inductive Pull (β ε : Type)
  | item (item : β)
  | finished
  | raised (error : ε)

/-- A producer, by the number of the item it is asked for. -/
def Source (β ε : Type) : Type := Nat → Pull β ε

/-- A source starts with these items. -/
def Source.Starts (source : Source β ε) (front : List β) : Prop :=
  ∀ index item, front[index]? = some item → source index = .item item

/-- Every source starts with nothing. -/
theorem Source.Starts.nil {source : Source β ε} : source.Starts [] := by
  intro index item found
  rw [List.getElem?_nil] at found
  cases found

/-- A source that starts with some items and answers one more starts with that one too. -/
theorem Source.Starts.append {source : Source β ε} {front : List β} {item : β}
    (starts : source.Starts front) (next : source front.length = .item item) :
    source.Starts (front ++ [item]) := by
  intro index other found
  by_cases earlier : index < front.length
  · rw [List.getElem?_append_left earlier] at found
    exact starts index other found
  · have position : index < (front ++ [item]).length := by
      by_contra beyond
      rw [List.getElem?_eq_none (by omega)] at found
      cases found
    have last : index = front.length := by
      rw [List.length_append, List.length_singleton] at position
      omega
    subst last
    rw [List.getElem?_concat_length] at found
    rw [next, Option.some.inj found]

/-- A feed as a source. -/
def pulls (feed : Feed β ε) : Source β ε := fun index =>
  match feed.items[index]? with
  | some item => .item item
  | none =>
    match feed.raised with
    | some error => .raised error
    | none => .finished

/-- A delivery on its way. -/
structure Delivery (σ β ε : Type) where
  total : σ
  delivered : List β
  /-- How it ended, once it has. -/
  ended : Option (Option ε)

namespace Delivery

/-- Nothing is delivered yet. -/
def start (total : σ) : Delivery σ β ε := ⟨total, [], none⟩

/-- One more item is asked for, unless the delivery has ended. -/
def advance (stops : Stops ε) (account : σ → β → Except ε σ) (source : Source β ε)
    (delivery : Delivery σ β ε) : Delivery σ β ε :=
  match delivery.ended with
  | some _ => delivery
  | none =>
    match stops.taken delivery.delivered.length with
    | some error => { delivery with ended := some (some error) }
    | none =>
      match source delivery.delivered.length with
      | .finished => { delivery with ended := some none }
      | .raised error => { delivery with ended := some (some error) }
      | .item item =>
        match account delivery.total item with
        | .error error => { delivery with ended := some (some error) }
        | .ok next =>
          match stops.accounted delivery.delivered.length with
          | some error => { delivery with ended := some (some error) }
          | none => ⟨next, delivery.delivered ++ [item], none⟩

variable {stops : Stops ε} {account : σ → β → Except ε σ} {source : Source β ε} {total final : σ}

/-- A delivery that has ended stays as it is. -/
theorem advance_ended {delivery : Delivery σ β ε} {outcome : Option ε}
    (ended : delivery.ended = some outcome) :
    delivery.advance stops account source = delivery := by
  unfold advance
  rw [ended]

/-- The same for every number of steps. -/
theorem iterate_ended {delivery : Delivery σ β ε} {outcome : Option ε}
    (ended : delivery.ended = some outcome) (steps : Nat) :
    (advance stops account source)^[steps] delivery = delivery :=
  Function.iterate_fixed (advance_ended ended) steps

/-- What was delivered is what the source starts with, and the account accepted it. -/
structure Follows (account : σ → β → Except ε σ) (source : Source β ε) (total : σ)
    (delivery : Delivery σ β ε) : Prop where
  starts : source.Starts delivery.delivered
  folded : delivery.delivered.foldlM account total = .ok delivery.total

/-- At the start nothing has to be shown. -/
theorem Follows.start : Follows account source total (start total) where
  starts := .nil
  folded := rfl

/-- One step keeps it, whatever stops the delivery. -/
theorem Follows.advance {delivery : Delivery σ β ε}
    (follows : Follows account source total delivery) :
    Follows account source total (delivery.advance stops account source) := by
  have ending : ∀ outcome, Follows account source total { delivery with ended := outcome } :=
    fun _ => ⟨follows.starts, follows.folded⟩
  unfold Delivery.advance
  cases delivery.ended with
  | some outcome => exact follows
  | none =>
    cases stops.taken delivery.delivered.length with
    | some error => exact ending _
    | none =>
      cases answered : source delivery.delivered.length with
      | finished => exact ending _
      | raised error => exact ending _
      | item item =>
        cases counted : account delivery.total item with
        | error error =>
          simp only [counted]
          exact ending _
        | ok next =>
          cases stops.accounted delivery.delivered.length with
          | some error =>
            simp only [counted]
            exact ending _
          | none =>
            simp only [counted]
            refine ⟨follows.starts.append answered, ?_⟩
            rw [List.foldlM_append, follows.folded]
            show [item].foldlM account delivery.total = .ok next
            rw [List.foldlM_cons, counted]
            rfl

/-- Every run of a delivery follows its source and its account. -/
theorem follows_iterate (steps : Nat) :
    Follows account source total ((advance stops account source)^[steps] (start total)) := by
  induction steps with
  | zero => exact .start
  | succ steps ih =>
    rw [Function.iterate_succ_apply']
    exact ih.advance

/-- A step that is stopped before it asks ends the delivery. -/
theorem advance_taken {front : List β} {error : ε}
    (taken : stops.taken front.length = some error) :
    advance stops account source ⟨total, front, none⟩ = ⟨total, front, some (some error)⟩ := by
  unfold advance
  simp only [taken]

/-- An item that the account accepts is delivered where nothing stops it. -/
theorem advance_item {front : List β} {item : β} {next : σ}
    (taken : stops.taken front.length = none) (answered : source front.length = .item item)
    (counted : account total item = .ok next) (accounted : stops.accounted front.length = none) :
    advance stops account source ⟨total, front, none⟩ = ⟨next, front ++ [item], none⟩ := by
  unfold advance
  simp only [taken, answered, counted, accounted]

/-- An item that the account refuses ends the delivery. -/
theorem advance_refused {front : List β} {item : β} {error : ε}
    (taken : stops.taken front.length = none) (answered : source front.length = .item item)
    (refused : account total item = .error error) :
    advance stops account source ⟨total, front, none⟩ = ⟨total, front, some (some error)⟩ := by
  unfold advance
  simp only [taken, answered, refused]

/-- An item that is stopped after it is accounted for is withheld. -/
theorem advance_withheld {front : List β} {item : β} {next : σ} {error : ε}
    (taken : stops.taken front.length = none) (answered : source front.length = .item item)
    (counted : account total item = .ok next)
    (accounted : stops.accounted front.length = some error) :
    advance stops account source ⟨total, front, none⟩ = ⟨total, front, some (some error)⟩ := by
  unfold advance
  simp only [taken, answered, counted, accounted]

/-- Where nothing stops it, items that the account accepts are delivered one a step. -/
theorem iterate_accepted {earlier items : List β} (starts : source.Starts (earlier ++ items))
    (accepted : items.foldlM account total = .ok final) :
    (advance .never account source)^[items.length] ⟨total, earlier, none⟩ =
      ⟨final, earlier ++ items, none⟩ := by
  induction items generalizing earlier total with
  | nil =>
    rw [List.append_nil, Except.ok.inj accepted]
    rfl
  | cons item items ih =>
    rw [List.foldlM_cons] at accepted
    cases counted : account total item with
    | error error =>
      rw [counted] at accepted
      cases accepted
    | ok next =>
      rw [counted] at accepted
      have answered : source earlier.length = .item item := by
        apply starts
        rw [List.getElem?_append_right (by omega), Nat.sub_self]
        rfl
      rw [List.append_cons] at starts
      rw [List.length_cons, Function.iterate_succ_apply, advance_item rfl answered counted rfl,
        ih starts accepted, ← List.append_cons]

/-- Where nothing stops it, the first item that the account refuses is withheld with everything
after it. -/
theorem iterate_refused {front : List β} {item : β} {error : ε} {steps : Nat}
    (starts : source.Starts front) (accepted : front.foldlM account total = .ok final)
    (answered : source front.length = .item item) (refused : account final item = .error error)
    (enough : front.length < steps) :
    (advance .never account source)^[steps] (start total) = ⟨final, front, some (some error)⟩ := by
  have count : steps = (steps - (front.length + 1)) + 1 + front.length := by omega
  rw [count, Function.iterate_add_apply, Function.iterate_succ_apply]
  have reached : (advance .never account source)^[front.length] ⟨total, [], none⟩ =
      ⟨final, [] ++ front, none⟩ := iterate_accepted starts accepted
  rw [List.nil_append] at reached
  rw [start, reached, advance_refused rfl answered refused]
  exact iterate_ended rfl _

/-- A delivery from a feed that is asked often enough is the delivery of the feed. -/
theorem iterate_pulls (stops : Stops ε) (account : σ → β → Except ε σ) (ending : Option ε)
    (earlier items : List β) (total : σ) (steps : Nat) (enough : items.length < steps) :
    ∃ final, (advance stops account (pulls ⟨earlier ++ items, ending⟩))^[steps]
        ⟨total, earlier, none⟩ =
      ⟨final, earlier ++ (deliver stops account ending earlier.length total items).items,
        some (deliver stops account ending earlier.length total items).raised⟩ := by
  induction items generalizing earlier total steps with
  | nil =>
    obtain ⟨later, rfl⟩ : ∃ later, steps = later + 1 := ⟨steps - 1, by grind⟩
    refine ⟨total, ?_⟩
    have answered : pulls ⟨earlier ++ [], ending⟩ earlier.length =
        match ending with
        | some error => .raised error
        | none => .finished := by
      unfold pulls
      rw [List.append_nil, List.getElem?_eq_none (by exact Nat.le_refl _)]
    rw [Function.iterate_succ_apply]
    unfold deliver
    cases taken : stops.taken earlier.length with
    | some error =>
      rw [advance_taken taken, iterate_ended rfl, List.append_nil]
      rfl
    | none =>
      have ended : advance stops account (pulls ⟨earlier ++ [], ending⟩) ⟨total, earlier, none⟩ =
          ⟨total, earlier, some ending⟩ := by
        unfold advance
        simp only [taken, answered]
        cases ending <;> rfl
      rw [ended, iterate_ended rfl, List.append_nil]
      rfl
  | cons item rest ih =>
    obtain ⟨later, rfl⟩ : ∃ later, steps = later + 1 := ⟨steps - 1, by grind⟩
    rw [List.length_cons] at enough
    have answered : pulls ⟨earlier ++ item :: rest, ending⟩ earlier.length = .item item := by
      unfold pulls
      rw [List.getElem?_append_right (Nat.le_refl _), Nat.sub_self]
      rfl
    rw [Function.iterate_succ_apply]
    unfold deliver
    cases taken : stops.taken earlier.length with
    | some error =>
      rw [advance_taken taken, iterate_ended rfl]
      exact ⟨total, by rw [List.append_nil]⟩
    | none =>
      cases counted : account total item with
      | error error =>
        rw [advance_refused taken answered counted, iterate_ended rfl]
        exact ⟨total, by rw [List.append_nil]⟩
      | ok next =>
        cases accounted : stops.accounted earlier.length with
        | some error =>
          rw [advance_withheld taken answered counted accounted, iterate_ended rfl]
          exact ⟨total, by rw [List.append_nil]⟩
        | none =>
          rw [advance_item taken answered counted accounted, List.append_cons]
          obtain ⟨final, reached⟩ := ih (earlier ++ [item]) next later (by omega)
          refine ⟨final, ?_⟩
          rw [reached]
          simp only [List.length_append, List.length_singleton, items_push, raised_push,
            List.append_assoc, List.singleton_append]

end Delivery

end Feed
