import DataHarness.Library.JsonReader

/-!
# The literals of a JSON value

The reader meets literals one after the other and builds values of them. Whatever literal is in
the value at the end was met on the way (`literals_of_ending`), so a reader that refuses some of
those it meets gives no value with one of them. The reverse does not hold: a member of an object
is replaced by a later one of the same key.
-/

namespace Json

/-! ## Values -/

mutual

/-- The literals of a value, those of members that were replaced left out. -/
def Tree.literals : Tree → List Literal
  | .literal literal => [literal]
  | .arr items => itemLiterals items
  | .obj members => memberLiterals members
  | _ => []

/-- The literals of items. -/
def itemLiterals : List Tree → List Literal
  | [] => []
  | item :: items => item.literals ++ itemLiterals items

/-- The literals of members. -/
def memberLiterals : List (List Nat × Tree) → List Literal
  | [] => []
  | member :: members => member.2.literals ++ memberLiterals members

end

/-- The literals of items are those of each. -/
theorem mem_itemLiterals {items : List Tree} {literal : Literal} :
    literal ∈ itemLiterals items ↔ ∃ item ∈ items, literal ∈ item.literals := by
  induction items with
  | nil => simp [itemLiterals]
  | cons item items ih => simp [itemLiterals, ih]

/-- The literals of members are those of each. -/
theorem mem_memberLiterals {members : List (List Nat × Tree)} {literal : Literal} :
    literal ∈ memberLiterals members ↔ ∃ member ∈ members, literal ∈ member.2.literals := by
  induction members with
  | nil => simp [memberLiterals]
  | cons member members ih =>
    rw [memberLiterals, List.mem_append, ih]
    simp

/-- Setting a member adds no literals but its own. -/
theorem setMember_literals {members : List (List Nat × Tree)} {key : List Nat} {tree : Tree}
    {literal : Literal} (inside : literal ∈ memberLiterals (setMember members key tree)) :
    literal ∈ memberLiterals members ∨ literal ∈ tree.literals := by
  obtain ⟨member, among, own⟩ := mem_memberLiterals.mp inside
  unfold setMember at among
  split at among
  · obtain ⟨other, there, same⟩ := List.mem_map.mp among
    split at same
    · rw [← same] at own
      exact .inr own
    · rw [← same] at own
      exact .inl (mem_memberLiterals.mpr ⟨other, there, own⟩)
  · rcases List.mem_append.mp among with there | last
    · exact .inl (mem_memberLiterals.mpr ⟨member, there, own⟩)
    · rw [List.mem_singleton.mp last] at own
      exact .inr own

/-- The literals of what was read of a container. -/
def Frame.literals : Frame → List Literal
  | array items => itemLiterals items
  | object members _ => memberLiterals members

/-! ## The reader -/

namespace Machine

/-- The literals of the containers that are open were met. -/
def Held (machine : Machine) : Prop :=
  ∀ frame ∈ machine.stack, frame.literals ⊆ machine.literals

/-- So were those of the value that is complete. -/
structure Accounted (machine : Machine) : Prop where
  held : machine.Held
  done : ∀ tree, machine.mode = .done tree → tree.literals ⊆ machine.literals

/-- A value of literals that were met is complete. -/
theorem complete_accounted {machine : Machine} {tree : Tree} (held : machine.Held)
    (met : tree.literals ⊆ machine.literals) : (machine.complete tree).Accounted := by
  unfold complete
  split
  · rename_i empty
    refine ⟨held, fun other same => ?_⟩
    obtain rfl := Mode.done.inj same
    exact met
  · rename_i items rest stack
    unfold Held at held
    rw [stack] at held
    refine ⟨fun frame member => ?_, fun other same => by cases same⟩
    rcases List.mem_cons.mp member with rfl | below
    · intro literal inside
      obtain ⟨item, among, own⟩ := mem_itemLiterals.mp inside
      rcases List.mem_append.mp among with there | last
      · exact held _ List.mem_cons_self (mem_itemLiterals.mpr ⟨item, there, own⟩)
      · rw [List.mem_singleton.mp last] at own
        exact met own
    · exact held frame (List.mem_cons_of_mem _ below)
  · rename_i members key rest stack
    unfold Held at held
    rw [stack] at held
    refine ⟨fun frame member => ?_, fun other same => by cases same⟩
    rcases List.mem_cons.mp member with rfl | below
    · intro literal inside
      rcases setMember_literals inside with there | last
      · exact held _ List.mem_cons_self there
      · exact met last
    · exact held frame (List.mem_cons_of_mem _ below)

/-- A literal is met when it is complete. -/
theorem completeLiteral_accounted {machine : Machine} {literal : Literal} (held : machine.Held) :
    (machine.completeLiteral literal).Accounted := by
  apply complete_accounted
  · intro frame member other inside
    exact List.mem_append_left _ (held frame member inside)
  · intro other inside
    exact List.mem_append_right _ inside

/-- A word is a literal, or has none. -/
theorem completeWord_accounted {machine : Machine} {keyword : Keyword} (held : machine.Held) :
    (machine.completeWord keyword).Accounted := by
  cases keyword with
  | null => exact complete_accounted held (List.nil_subset _)
  | true => exact complete_accounted held (List.nil_subset _)
  | false => exact complete_accounted held (List.nil_subset _)
  | nan => exact completeLiteral_accounted held
  | infinity => exact completeLiteral_accounted held
  | minusInfinity => exact completeLiteral_accounted held

/-- The container on top of the stack is complete. -/
theorem close_accounted {machine : Machine} {tree : Tree} (held : machine.Held)
    (met : tree.literals ⊆ machine.literals) : (machine.close tree).Accounted :=
  complete_accounted (fun frame below => held frame (List.mem_of_mem_tail below)) met

/-- Where the reader goes on, the literals are accounted for. -/
def Keeps (outcome : Except Stop Machine) : Prop :=
  ∀ next, outcome = .ok next → next.Accounted

/-- A reader that goes on. -/
theorem keeps_ok {machine : Machine} (accounted : machine.Accounted) : Keeps (.ok machine) := by
  intro next read
  rw [← Except.ok.inj read]
  exact accounted

/-- A reader that goes on with something else due. -/
theorem keeps_due {machine : Machine} {mode : Mode} (held : machine.Held)
    (due : ∀ tree, mode ≠ .done tree) : Keeps (.ok { machine with mode }) :=
  keeps_ok ⟨held, fun tree same => absurd same (due tree)⟩

/-- A reader that stops. -/
theorem keeps_fail (machine : Machine) (failure : Failure) : Keeps (machine.fail failure) := by
  intro next read
  cases read

/-- Both ways. -/
theorem keeps_ite {condition : Prop} [Decidable condition] {first second : Except Stop Machine}
    (yes : Keeps first) (no : Keeps second) : Keeps (if condition then first else second) := by
  split
  · exact yes
  · exact no

/-- A container is opened without literals. -/
theorem keeps_enter {limit : Nat} {machine : Machine} {frame : Frame} {mode : Mode}
    (held : machine.Held) (empty : frame.literals = []) (due : ∀ tree, mode ≠ .done tree) :
    Keeps (machine.enter limit frame mode) := by
  refine keeps_ite (keeps_fail _ _) (keeps_ok ⟨fun other member => ?_, fun tree same => ?_⟩)
  · rcases List.mem_cons.mp member with rfl | below
    · rw [empty]
      exact List.nil_subset _
    · exact held other below
  · exact absurd same (due tree)

/-- A value starts. -/
theorem keeps_start {limit : Nat} {machine : Machine} {c : Char} (held : machine.Held) :
    Keeps (machine.start limit c) := by
  unfold start
  refine keeps_ite (keeps_due held (by simp)) ?_
  refine keeps_ite (keeps_enter held rfl (by simp)) ?_
  refine keeps_ite (keeps_enter held rfl (by simp)) ?_
  refine keeps_ite (keeps_due held (by simp)) ?_
  refine keeps_ite (keeps_due held (by simp)) ?_
  refine keeps_ite (keeps_due held (by simp)) ?_
  refine keeps_ite (keeps_due held (by simp)) ?_
  refine keeps_ite (keeps_due held (by simp)) ?_
  refine keeps_ite (keeps_due held (by simp)) ?_
  split
  · exact keeps_due held (by simp)
  · exact keeps_fail _ _

/-- A character follows a value. -/
theorem keeps_follow {machine : Machine} {c : Char} (accounted : machine.Accounted) :
    Keeps (machine.follow c) := by
  have held := accounted.held
  unfold follow
  refine keeps_ite (keeps_ok accounted) ?_
  split
  · rename_i items rest stack
    have top : Frame.array items ∈ machine.stack := by simp [stack]
    exact keeps_ite (keeps_due held (by simp))
      (keeps_ite (keeps_ok (close_accounted held (held _ top))) (keeps_fail _ _))
  · rename_i members key rest stack
    have top : Frame.object members key ∈ machine.stack := by simp [stack]
    exact keeps_ite (keeps_due held (by simp))
      (keeps_ite (keeps_ok (close_accounted held (held _ top))) (keeps_fail _ _))
  · exact keeps_fail _ _

/-- A number ends. -/
theorem keeps_endNumber {machine : Machine} {phase : Phase} {numeral : Numeral}
    (held : machine.Held) : Keeps (machine.endNumber phase numeral) :=
  keeps_ite (keeps_fail _ _)
    (keeps_ite (keeps_ok (completeLiteral_accounted held)) (keeps_fail _ _))

/-- A string is complete: a key, or a value without literals. -/
theorem completeString_accounted {machine : Machine} {isKey : Bool} {units : List Nat}
    (held : machine.Held) : (machine.completeString isKey units).Accounted := by
  unfold completeString
  dsimp only
  split
  · rename_i members key rest stack
    unfold Held at held
    rw [stack] at held
    refine ⟨fun frame member => ?_, fun tree same => by cases same⟩
    rcases List.mem_cons.mp member with rfl | below
    · exact held (.object members key) List.mem_cons_self
    · exact held frame (List.mem_cons_of_mem _ below)
  · exact complete_accounted held (List.nil_subset _)

/-- One character keeps the literals accounted for. -/
theorem keeps_step {limit : Nat} {machine : Machine} {c : Char} (accounted : machine.Accounted) :
    Keeps (machine.step limit c) := by
  have held := accounted.held
  have stays := keeps_ok accounted
  unfold step
  split
  · exact keeps_ite stays (keeps_start held)
  · exact keeps_ite stays (keeps_ite (keeps_ok (close_accounted held (List.nil_subset _)))
      (keeps_start held))
  · exact keeps_ite stays (keeps_ite (keeps_due held (by simp))
      (keeps_ite (keeps_ok (close_accounted held (List.nil_subset _))) (keeps_fail _ _)))
  · exact keeps_ite stays (keeps_ite (keeps_due held (by simp)) (keeps_fail _ _))
  · exact keeps_ite stays (keeps_ite (keeps_due held (by simp)) (keeps_fail _ _))
  · exact keeps_follow accounted
  · exact keeps_follow accounted
  · exact keeps_ite (keeps_ok (completeString_accounted held))
      (keeps_ite (keeps_due held (by simp))
        (keeps_ite (keeps_fail _ _) (keeps_due held (by simp))))
  · unfold readEscape
    refine keeps_ite (keeps_due held (by simp)) ?_
    split
    · exact keeps_due held (by simp)
    · exact keeps_fail _ _
  · unfold readHex
    split
    · exact keeps_ite (keeps_due held (by simp)) (keeps_due held (by simp))
    · exact keeps_fail _ _
  · exact keeps_ite (keeps_ite (keeps_ok (completeWord_accounted held))
      (keeps_due held (by simp))) (keeps_fail _ _)
  · rename_i phase numeral _
    unfold readNumber
    split
    · exact keeps_due held (by simp)
    · refine keeps_ite (keeps_due held (by simp)) ?_
      split
      · rename_i ended own
        exact keeps_follow (keeps_endNumber held ended own)
      · intro next read
        cases read

/-- A text keeps them accounted for. -/
theorem accounted_of_run {limit : Nat} {text : List Char} {machine last : Machine}
    (accounted : machine.Accounted) (read : text.foldlM (step limit) machine = .ok last) :
    last.Accounted := by
  induction text generalizing machine with
  | nil =>
    rw [← Except.ok.inj read]
    exact accounted
  | cons c text ih =>
    rw [List.foldlM_cons] at read
    cases next : machine.step limit c with
    | error stop =>
      rw [next] at read
      cases read
    | ok later =>
      rw [next] at read
      exact ih (keeps_step accounted later next) read

end Machine

/-- The literals of the value a text holds are among those that are met in it. -/
theorem literals_of_ending {limit : Nat} {text : List Char} {tree : Tree}
    (whole : (scan limit text).ending = .ok tree) :
    tree.literals ⊆ (scan limit text).literals := by
  have start : Machine.initial.Accounted := by
    refine ⟨fun frame member => ?_, fun other same => by cases same⟩
    cases member
  unfold scan at whole ⊢
  cases read : text.foldlM (Machine.step limit) .initial with
  | error stop =>
    rw [read] at whole
    cases whole
  | ok machine =>
    rw [read] at whole
    have accounted := Machine.accounted_of_run start read
    simp only [Machine.finish] at whole ⊢
    split at whole
    · rename_i value mode
      obtain rfl := Except.ok.inj whole
      exact accounted.done _ mode
    · rename_i phase numeral mode
      split at whole
      · rename_i ended own
        have last := Machine.keeps_endNumber accounted.held ended own
        split at whole
        · rename_i value done
          obtain rfl := Except.ok.inj whole
          exact last.done _ done
        · cases whole
      · cases whole
    · cases whole

end Json
