import Mathlib.Data.List.Forall2
import Mathlib.Data.List.Induction
import Mathlib.Data.List.Nodup

/-!
# Chains of entries linked by digests

Every entry names the digest of the one before it, and the first one names a seed. When the
digests of a chain are distinct, a second chain whose entries all come from the first, in
increasing order of position, is a segment of it (`Chain.segment`); one that also has the
first and the last entry is the whole of it (`Chain.whole`).
-/

namespace Chain

variable {ε δ : Type} {previous digest : ε → δ}

/-- Every entry refers to the digest of the one before it, the first one to a seed. -/
def Linked (previous digest : ε → δ) : δ → List ε → Prop
  | _, [] => True
  | seed, entry :: entries => previous entry = seed ∧ Linked previous digest (digest entry) entries

/-- The digest the next entry of a chain refers to. -/
def tip (digest : ε → δ) : δ → List ε → δ
  | seed, [] => seed
  | _, entry :: entries => tip digest (digest entry) entries

/-- The digest after the last entry of a chain is its own. -/
@[simp] theorem tip_append_singleton (digest : ε → δ) (seed : δ) (entries : List ε) (last : ε) :
    tip digest seed (entries ++ [last]) = digest last := by
  induction entries generalizing seed with
  | nil => rfl
  | cons entry entries ih => exact ih (digest entry)

/-- Chains are linked end to end. -/
theorem linked_append (seed : δ) (front back : List ε) :
    Linked previous digest seed (front ++ back) ↔
      Linked previous digest seed front ∧ Linked previous digest (tip digest seed front) back := by
  induction front generalizing seed with
  | nil => simp [Linked, tip]
  | cons entry entries ih => simp [Linked, tip, ih, and_assoc]

/-- One more entry that refers to the end of a chain links it. -/
theorem linked_snoc {seed : δ} {entries : List ε} {last : ε}
    (linked : Linked previous digest seed entries)
    (refers : previous last = tip digest seed entries) :
    Linked previous digest seed (entries ++ [last]) :=
  (linked_append seed entries [last]).mpr ⟨linked, refers, trivial⟩

/-- Inside a chain an entry refers to its neighbour. -/
theorem linked_neighbour {seed : δ} (front back : List ε) {left right : ε}
    (linked : Linked previous digest seed (front ++ left :: right :: back)) :
    previous right = digest left :=
  ((linked_append seed front (left :: right :: back)).mp linked).2.2.1

/-- Two chains from one seed that end in one digest agree entry by entry, when a digest determines
its entry and what it refers to, and none is the seed. -/
theorem agree_of_tip {agrees : ε → ε → Prop} {seed : δ} {left right : List ε}
    (first : Linked previous digest seed left) (second : Linked previous digest seed right)
    (free : ∀ entry ∈ left ++ right, digest entry ≠ seed)
    (determines : ∀ one ∈ left, ∀ other ∈ right, digest one = digest other →
      agrees one other ∧ previous one = previous other)
    (same : tip digest seed left = tip digest seed right) : List.Forall₂ agrees left right := by
  induction left using List.reverseRecOn generalizing right with
  | nil =>
    rcases List.eq_nil_or_concat right with rfl | ⟨front, last, rfl⟩
    · exact .nil
    · rw [List.concat_eq_append, tip_append_singleton] at same
      exact absurd same.symm (free last (by simp))
  | append_singleton before one ih =>
    rw [tip_append_singleton] at same
    rcases List.eq_nil_or_concat right with rfl | ⟨front, other, rfl⟩
    · exact absurd same (free one (by simp))
    · rw [List.concat_eq_append] at second free determines same ⊢
      rw [tip_append_singleton] at same
      obtain ⟨agree, refers⟩ := determines one (by simp) other (by simp) same
      obtain ⟨earlier, own, -⟩ := (linked_append seed before [one]).mp first
      obtain ⟨former, its, -⟩ := (linked_append seed front [other]).mp second
      have tips : tip digest seed before = tip digest seed front := by
        rw [← own, ← its]
        exact refers
      have rest : List.Forall₂ agrees before front := by
        refine ih earlier former ?_ ?_ tips
        · intro entry member
          rcases List.mem_append.mp member with inside | inside
          · exact free entry (by simp [inside])
          · exact free entry (by simp [inside])
        · intro entry member another inside
          exact determines entry (by simp [member]) another (by simp [inside])
      exact List.rel_append rest (.cons agree .nil)

section Segments

variable {position : ε → Int}

/-- Two entries of a list with distinct digests are one when their digests are. -/
theorem eq_of_digest {entries : List ε} (distinct : (entries.map digest).Nodup) {left right : ε}
    (first : left ∈ entries) (second : right ∈ entries) (same : digest left = digest right) :
    left = right := List.inj_on_of_nodup_map distinct first second same

/-- A chain whose entries each agree with one of another chain, in increasing order of
position, agrees with a segment of it. -/
theorem segment {agrees : ε → ε → Prop} {seed start : δ} {whole part : List ε}
    (linked : Linked previous digest seed whole) (distinct : (whole.map digest).Nodup)
    (ordered : whole.Pairwise fun left right => position left < position right)
    (agree : ∀ left right, agrees left right → position left = position right ∧
      previous left = previous right ∧ digest left = digest right)
    (chained : Linked previous digest start part)
    (rising : part.Pairwise fun left right => position left < position right)
    (known : ∀ entry ∈ part, ∃ original ∈ whole, agrees entry original) :
    ∃ front middle back, whole = front ++ middle ++ back ∧ List.Forall₂ agrees part middle := by
  induction part generalizing start with
  | nil => exact ⟨[], [], whole, by simp, .nil⟩
  | cons entry entries ih =>
    obtain ⟨original, member, matched⟩ := known entry (by simp)
    obtain ⟨front, middle, back, split, rest⟩ := ih chained.2 (List.pairwise_cons.mp rising).2
      fun other inside => known other (by simp [inside])
    cases rest with
    | nil =>
      obtain ⟨before, after, rfl⟩ := List.append_of_mem member
      exact ⟨before, [original], after, by simp, .cons matched .nil⟩
    | @cons second other entries' middle' paired rest =>
      have refers : previous other = digest original := by
        rw [← (agree _ _ paired).2.1, chained.2.1, (agree _ _ matched).2.2]
      rcases List.eq_nil_or_concat front with rfl | ⟨front, last, rfl⟩
      · -- the second entry would be the first of all, yet another one precedes it
        exfalso
        have below : position original < position other := by
          rw [← (agree _ _ matched).1, ← (agree _ _ paired).1]
          exact (List.pairwise_cons.mp rising).1 second (by simp)
        subst split
        rcases List.mem_cons.mp member with rfl | later
        · omega
        · have above := (List.pairwise_cons.mp ordered).1 original later
          omega
      · have neighbour : previous other = digest last := by
          apply linked_neighbour front (middle' ++ back)
          simpa [split] using linked
        have found : original = last := by
          refine eq_of_digest distinct member (by simp [split]) ?_
          rw [← refers, neighbour]
        subst found
        exact ⟨front, original :: other :: middle', back, by simp [split],
          .cons matched (.cons paired rest)⟩

/-- A chain that agrees with a segment of another one, and has its first and its last entry,
agrees with the whole of it. -/
theorem whole {agrees : ε → ε → Prop} {entries front middle back part : List ε}
    (distinct : (entries.map digest).Nodup)
    (agree : ∀ left right, agrees left right → digest left = digest right)
    (split : entries = front ++ middle ++ back) (matched : List.Forall₂ agrees part middle)
    (first : ∀ entry, entries.head? = some entry → digest entry ∈ part.map digest)
    (last : ∀ entry, entries.getLast? = some entry → digest entry ∈ part.map digest) :
    List.Forall₂ agrees part entries := by
  have digests : part.map digest = middle.map digest := by
    clear split first last
    induction matched with
    | nil => rfl
    | cons pair _ ih => simp [agree _ _ pair, ih]
  rw [digests] at first last
  subst split
  simp only [List.map_append, List.nodup_append, List.mem_append] at distinct
  have opening : front = [] := by
    cases front with
    | nil => rfl
    | cons entry front =>
      have inside := first entry (by simp)
      exact absurd rfl (distinct.1.2.2 (digest entry) (by simp) _ inside)
  have closing : back = [] := by
    rcases List.eq_nil_or_concat back with rfl | ⟨back, entry, rfl⟩
    · rfl
    · have inside := last entry (by simp)
      exact absurd rfl (distinct.2.2 _ (.inr inside) (digest entry) (by simp))
  subst opening closing
  simpa using matched

end Segments

end Chain
