import DataHarness.Library.Sequential

/-!
# Two programs side by side

Two programs run on two states, each state with its own way to act. A relational triple says what
two such runs have in common: what is seen of their calls, how their outcomes are related, and how
the states after them. The rules follow the programs: a call of both, a call of one of them that
nobody sees, one program after another, and `try`.
-/

namespace Effect

variable {S : Signature} {ε α β γ δ σ τ ω υ κ : Type}

namespace Program

/-- Every record of an evaluation is that of a call. -/
theorem mem_evaluate {act : σ → (op : S.Op) → ω × S.Reply op × σ} {program : Program S ε α}
    {state : σ} {record : ω} (member : record ∈ (program.evaluate act state).1) :
    ∃ before op, record = (act before op).1 := by
  induction program generalizing state with
  | ret value => cases member
  | raise error => cases member
  | call op next ih =>
    rcases List.mem_cons.mp member with first | later
    · exact ⟨state, op, first⟩
    · exact ih _ later

/-- Evaluating programs in order evaluates the second where the first one returned. -/
theorem evaluate_bind (act : σ → (op : S.Op) → ω × S.Reply op × σ) (program : Program S ε α)
    (rest : α → Program S ε β) (state : σ) :
    (program.bind rest).evaluate act state =
      match program.evaluate act state with
      | (records, .ok value, middle) =>
        (records ++ ((rest value).evaluate act middle).1, ((rest value).evaluate act middle).2)
      | (records, .error error, final) => (records, .error error, final) := by
  induction program generalizing state with
  | ret value => rfl
  | raise error => rfl
  | call op next ih =>
    simp only [call_bind, evaluate, ih]
    split <;> simp_all

/-- The outcome of a program under `try`. -/
def attempted (catches : ε → Bool) : Except ε α → Except ε (Except ε α)
  | .ok value => .ok (.ok value)
  | .error error => if catches error then .ok (.error error) else .error error

/-- Evaluating a program under `try` evaluates it. -/
theorem evaluate_attempt (act : σ → (op : S.Op) → ω × S.Reply op × σ) (catches : ε → Bool)
    (program : Program S ε α) (state : σ) :
    (program.attempt catches).evaluate act state =
      ((program.evaluate act state).1, attempted catches (program.evaluate act state).2.1,
        (program.evaluate act state).2.2) := by
  induction program generalizing state with
  | ret value => rfl
  | raise error =>
    unfold attempt
    by_cases caught : catches error = true
    · rw [if_pos caught]
      simp [evaluate, attempted, caught]
    · rw [if_neg caught]
      simp [evaluate, attempted, caught]
  | call op next ih => simp only [attempt, evaluate, ih]

/-- An outcome evaluates to itself. -/
@[simp] theorem evaluate_ofExcept (act : σ → (op : S.Op) → ω × S.Reply op × σ)
    (outcome : Except ε α) (state : σ) :
    (ofExcept outcome).evaluate act state = ([], outcome, state) := by
  cases outcome <;> rfl

end Program

/-- Two ways to act, and what is seen of the records of each. Only runs on the left whose records
are all fine are compared. -/
structure Sides (S : Signature) (σ τ ω υ κ : Type) where
  left : σ → (op : S.Op) → ω × S.Reply op × σ
  right : τ → (op : S.Op) → υ × S.Reply op × τ
  seenLeft : ω → List κ
  seenRight : υ → List κ
  fine : ω → Prop

/-- From related states both programs show the same, and end with related outcomes and states. -/
def Sides.Relates (sides : Sides S σ τ ω υ κ) (before : σ → τ → Prop) (first : Program S ε α)
    (second : Program S ε β) (after : Except ε α → Except ε β → σ → τ → Prop) : Prop :=
  ∀ start other, before start other →
    (∀ record ∈ (first.evaluate sides.left start).1, sides.fine record) →
      (first.evaluate sides.left start).1.flatMap sides.seenLeft =
          (second.evaluate sides.right other).1.flatMap sides.seenRight ∧
        after (first.evaluate sides.left start).2.1 (second.evaluate sides.right other).2.1
          (first.evaluate sides.left start).2.2 (second.evaluate sides.right other).2.2

namespace Sides.Relates

variable {sides : Sides S σ τ ω υ κ} {before : σ → τ → Prop} {first : Program S ε α}
  {second : Program S ε β} {after : Except ε α → Except ε β → σ → τ → Prop}

/-- The rule of consequence. -/
theorem mono (relates : sides.Relates before first second after) {stronger : σ → τ → Prop}
    {weaker : Except ε α → Except ε β → σ → τ → Prop}
    (narrow : ∀ start other, stronger start other → before start other)
    (wide : ∀ outcome result final last, after outcome result final last →
      weaker outcome result final last) : sides.Relates stronger first second weaker := by
  intro start other related fine
  obtain ⟨same, ended⟩ := relates start other (narrow start other related) fine
  exact ⟨same, wide _ _ _ _ ended⟩

/-- What is known before may be assumed. -/
theorem assuming {fact : Prop} (relates : fact → sides.Relates before first second after) :
    sides.Relates (fun start other => fact ∧ before start other) first second after :=
  fun start other related => relates related.1 start other related.2

/-- Both programs end. -/
theorem ends {outcome : Except ε α} {result : Except ε β}
    (related : ∀ start other, before start other → after outcome result start other) :
    sides.Relates before (.ofExcept outcome) (.ofExcept result) after := by
  intro start other here _
  rw [Program.evaluate_ofExcept, Program.evaluate_ofExcept]
  exact ⟨rfl, related start other here⟩

/-- Both programs return. -/
theorem ret {value : α} {result : β}
    (related : ∀ start other, before start other → after (.ok value) (.ok result) start other) :
    sides.Relates before (.ret value) (.ret result) after :=
  @ends _ _ _ _ _ _ _ _ _ sides before after (.ok value) (.ok result) related

/-- Both programs raise. -/
theorem raise {error thrown : ε}
    (related : ∀ start other, before start other →
      after (.error error) (.error thrown) start other) :
    sides.Relates before (.raise error) (.raise thrown) after :=
  @ends _ _ _ _ _ _ _ _ _ sides before after (.error error) (.error thrown) related

/-- Both programs make a call, and show the same of it. -/
theorem call {op action : S.Op} {next : S.Reply op → Program S ε α}
    {onward : S.Reply action → Program S ε β} (middle : S.Reply op → S.Reply action → σ → τ → Prop)
    (step : ∀ start other, before start other → sides.fine (sides.left start op).1 →
      sides.seenLeft (sides.left start op).1 = sides.seenRight (sides.right other action).1 ∧
        middle (sides.left start op).2.1 (sides.right other action).2.1 (sides.left start op).2.2
          (sides.right other action).2.2)
    (rest : ∀ reply answer, sides.Relates (middle reply answer) (next reply) (onward answer)
      after) :
    sides.Relates before (.call op next) (.call action onward) after := by
  intro start other related fine
  obtain ⟨shown, between⟩ := step start other related (fine _ List.mem_cons_self)
  obtain ⟨same, ended⟩ := rest _ _ _ _ between fun record member =>
    fine record (List.mem_cons_of_mem _ member)
  refine ⟨?_, ended⟩
  simp only [Program.evaluate, List.flatMap_cons]
  rw [shown, same]

/-- The left program makes a call of which nothing is seen. -/
theorem callLeft {op : S.Op} {next : S.Reply op → Program S ε α}
    (middle : S.Reply op → σ → τ → Prop)
    (step : ∀ start other, before start other → sides.fine (sides.left start op).1 →
      sides.seenLeft (sides.left start op).1 = [] ∧
        middle (sides.left start op).2.1 (sides.left start op).2.2 other)
    (rest : ∀ reply, sides.Relates (middle reply) (next reply) second after) :
    sides.Relates before (.call op next) second after := by
  intro start other related fine
  obtain ⟨shown, between⟩ := step start other related (fine _ List.mem_cons_self)
  obtain ⟨same, ended⟩ := rest _ _ _ between fun record member =>
    fine record (List.mem_cons_of_mem _ member)
  refine ⟨?_, ended⟩
  simp only [Program.evaluate, List.flatMap_cons]
  rw [shown, List.nil_append]
  exact same

/-- The right program makes a call of which nothing is seen. -/
theorem callRight {op : S.Op} {next : S.Reply op → Program S ε β}
    (middle : S.Reply op → σ → τ → Prop)
    (step : ∀ start other, before start other →
      sides.seenRight (sides.right other op).1 = [] ∧
        middle (sides.right other op).2.1 start (sides.right other op).2.2)
    (rest : ∀ reply, sides.Relates (middle reply) first (next reply) after) :
    sides.Relates before first (.call op next) after := by
  intro start other related fine
  obtain ⟨shown, between⟩ := step start other related
  obtain ⟨same, ended⟩ := rest _ _ _ between fine
  refine ⟨?_, ended⟩
  simp only [Program.evaluate, List.flatMap_cons]
  rw [shown, List.nil_append]
  exact same

/-- The sequencing rule: where the first programs end with values, the second ones go on. -/
theorem bind {rest : α → Program S ε γ} {onward : β → Program S ε δ}
    {last : Except ε γ → Except ε δ → σ → τ → Prop}
    (middle : Except ε α → Except ε β → σ → τ → Prop)
    (begins : sides.Relates before first second middle)
    (values : ∀ value result, sides.Relates (middle (.ok value) (.ok result)) (rest value)
      (onward result) last)
    (errors : ∀ error thrown start other, middle (.error error) (.error thrown) start other →
      last (.error error) (.error thrown) start other)
    (aligned : ∀ outcome result start other, middle outcome result start other →
      (outcome.isOk = result.isOk)) :
    sides.Relates before (first.bind rest) (second.bind onward) last := by
  intro start other related fine
  rw [Program.evaluate_bind] at fine ⊢
  rw [Program.evaluate_bind]
  have begun := begins start other related
  have level := aligned (first.evaluate sides.left start).2.1
    (second.evaluate sides.right other).2.1 (first.evaluate sides.left start).2.2
    (second.evaluate sides.right other).2.2
  revert fine begun level
  generalize first.evaluate sides.left start = ran
  generalize second.evaluate sides.right other = went
  obtain ⟨records, outcome, final⟩ := ran
  obtain ⟨marks, result, end_⟩ := went
  dsimp only
  intro fine begun level
  cases outcome with
  | error error =>
    obtain ⟨same, ended⟩ := begun fine
    cases result with
    | error thrown => exact ⟨same, errors error thrown final end_ ended⟩
    | ok value => cases level ended
  | ok value =>
    obtain ⟨same, ended⟩ := begun fun record member => fine record (List.mem_append_left _ member)
    cases result with
    | error thrown => cases level ended
    | ok answer =>
      obtain ⟨shown, done⟩ := values value answer final end_ ended fun record member =>
        fine record (List.mem_append_right _ member)
      refine ⟨?_, done⟩
      dsimp only
      rw [List.flatMap_append, List.flatMap_append, same, shown]

/-- The rule of `try`. -/
theorem attempt {catches : ε → Bool} {last : Except ε (Except ε α) → Except ε (Except ε β) → σ →
      τ → Prop} (middle : Except ε α → Except ε β → σ → τ → Prop)
    (body : sides.Relates before first second middle)
    (tried : ∀ outcome result start other, middle outcome result start other →
      last (Program.attempted catches outcome) (Program.attempted catches result) start other) :
    sides.Relates before (first.attempt catches) (second.attempt catches) last := by
  intro start other related fine
  rw [Program.evaluate_attempt] at fine ⊢
  rw [Program.evaluate_attempt]
  obtain ⟨same, ended⟩ := body start other related fine
  exact ⟨same, tried _ _ _ _ ended⟩

end Sides.Relates

/-! ## Runs that keep a relation -/

/-- Two outcomes are both values or both errors, and related as such. -/
inductive Together (values : α → β → Prop) (errors : ε → ε → Prop) :
    Except ε α → Except ε β → Prop
  | ok {value : α} {result : β} :
    values value result → Together values errors (.ok value) (.ok result)
  | error {error thrown : ε} :
    errors error thrown → Together values errors (.error error) (.error thrown)

namespace Together

variable {values : α → β → Prop} {errors : ε → ε → Prop} {outcome : Except ε α}
  {result : Except ε β}

/-- An outcome goes together with itself. -/
theorem refl {values : α → α → Prop} (same : ∀ value, values value value)
    (alike : ∀ error, errors error error) (outcome : Except ε α) :
    Together values errors outcome outcome := by
  cases outcome with
  | ok value => exact .ok (same value)
  | error error => exact .error (alike error)

/-- Outcomes that go together are both values or both errors. -/
theorem aligned (together : Together values errors outcome result) :
    outcome.isOk = result.isOk := by
  cases together <;> rfl

/-- Changing the values of outcomes that go together. -/
theorem map {changed : γ → δ → Prop} {change : α → γ} {adapt : β → δ}
    (together : Together values errors outcome result)
    (keeps : ∀ value result, values value result → changed (change value) (adapt result)) :
    Together changed errors (outcome.map change) (result.map adapt) := by
  cases together with
  | ok related => exact .ok (keeps _ _ related)
  | error alike => exact .error alike

/-- Steps that go together, one after the other. -/
theorem bind {changed : γ → δ → Prop} {next : α → Except ε γ} {onward : β → Except ε δ}
    (together : Together values errors outcome result)
    (keeps : ∀ value result, values value result →
      Together changed errors (next value) (onward result)) :
    Together changed errors (outcome.bind next) (result.bind onward) := by
  cases together with
  | ok related => exact keeps _ _ related
  | error alike => exact .error alike

end Together

/-- From states in a relation both programs show the same, end in states in that relation, and with
outcomes that go together. -/
def Sides.Keeps (sides : Sides S σ τ ω υ κ) (level : σ → τ → Prop) (values : α → β → Prop)
    (errors : ε → ε → Prop) (first : Program S ε α) (second : Program S ε β) : Prop :=
  sides.Relates level first second fun outcome result final last =>
    Together values errors outcome result ∧ level final last

namespace Sides.Keeps

variable {sides : Sides S σ τ ω υ κ} {level : σ → τ → Prop} {values : α → β → Prop}
  {errors : ε → ε → Prop} {first : Program S ε α} {second : Program S ε β}

/-- Both programs return related values. -/
theorem ret {value : α} {result : β} (related : values value result) :
    sides.Keeps level values errors (.ret value) (.ret result) :=
  Relates.ret fun _ _ here => ⟨.ok related, here⟩

/-- Both programs raise related exceptions. -/
theorem raise {error thrown : ε} (alike : errors error thrown) :
    sides.Keeps level values errors (.raise error : Program S ε α)
      (.raise thrown : Program S ε β) :=
  Relates.raise fun _ _ here => ⟨.error alike, here⟩

/-- Both programs end with outcomes that go together. -/
theorem ends {outcome : Except ε α} {result : Except ε β}
    (together : Together values errors outcome result) :
    sides.Keeps level values errors (.ofExcept outcome) (.ofExcept result) :=
  Relates.ends fun _ _ here => ⟨together, here⟩

/-- Both programs make a call that keeps the relation, and go on from related replies. -/
theorem call {op action : S.Op} {next : S.Reply op → Program S ε α}
    {onward : S.Reply action → Program S ε β} (replies : S.Reply op → S.Reply action → Prop)
    (step : ∀ start other, level start other →
      sides.seenLeft (sides.left start op).1 = sides.seenRight (sides.right other action).1 ∧
        replies (sides.left start op).2.1 (sides.right other action).2.1 ∧
          level (sides.left start op).2.2 (sides.right other action).2.2)
    (rest : ∀ reply answer, replies reply answer →
      sides.Keeps level values errors (next reply) (onward answer)) :
    sides.Keeps level values errors (.call op next) (.call action onward) := by
  apply Relates.call fun reply answer start other => replies reply answer ∧ level start other
  · intro start other here _
    exact step start other here
  · intro reply answer
    apply Relates.assuming
    intro related
    exact rest reply answer related

/-- One program after another. -/
theorem bind {changed : γ → δ → Prop} {rest : α → Program S ε γ} {onward : β → Program S ε δ}
    (begins : sides.Keeps level values errors first second)
    (goes : ∀ value result, values value result →
      sides.Keeps level changed errors (rest value) (onward result)) :
    sides.Keeps level changed errors (first.bind rest) (second.bind onward) := by
  apply Relates.bind _ begins
  · intro value result
    apply Relates.assuming
    intro together
    cases together with
    | ok related => exact goes value result related
  · intro error thrown start other ended
    cases ended.1 with
    | error alike => exact ⟨.error alike, ended.2⟩
  · intro outcome result start other ended
    exact ended.1.aligned

/-- Programs under `try`, where related exceptions are both caught or both not. -/
theorem attempt {catches : ε → Bool} (body : sides.Keeps level values errors first second)
    (fair : ∀ error thrown, errors error thrown → catches error = catches thrown) :
    sides.Keeps level (Together values errors) errors (first.attempt catches)
      (second.attempt catches) := by
  apply Relates.attempt _ body
  rintro outcome result start other ⟨together, here⟩
  refine ⟨?_, here⟩
  cases together with
  | ok related => exact .ok (.ok related)
  | @error error thrown alike =>
    unfold Program.attempted
    dsimp only
    rw [fair error thrown alike]
    split
    · exact .ok (.error alike)
    · exact .error alike

/-- Weaker relations between the outcomes. -/
theorem mono {weaker : α → β → Prop} (keeps : sides.Keeps level values errors first second)
    (wide : ∀ value result, values value result → weaker value result) :
    sides.Keeps level weaker errors first second := by
  apply Relates.mono keeps
  · intro start other here
    exact here
  · rintro outcome result final last ⟨together, here⟩
    refine ⟨?_, here⟩
    cases together with
    | ok related => exact .ok (wide _ _ related)
    | error alike => exact .error alike

end Sides.Keeps

end Effect
