import Mathlib

/-!
# Joins, groups and orders of query results

The relational operators that the queries need, on lists of rows: an inner join, a left join,
grouping by a key, and a sort in which the server breaks ties as it likes. The theorems say when
these collapse: a join along a reference to exactly one row adds columns and loses nothing, and
a left join grouped by the key of its left side is one group for each left row, holding exactly
its matches.
-/
namespace Relational

variable {α β κ : Type}

/-- `left JOIN right ON on`. -/
def join (on : α → β → Bool) (left : List α) (right : List β) : List (α × β) :=
  left.flatMap fun row => (right.filter (on row)).map fun found => (row, found)

/-- The rows a left join produces for one row of its left side. -/
def leftJoinRow (on : α → β → Bool) (right : List β) (row : α) : List (α × Option β) :=
  match right.filter (on row) with
  | [] => [(row, none)]
  | found => found.map fun match_ => (row, some match_)

/-- `left LEFT JOIN right ON on`. -/
def leftJoin (on : α → β → Bool) (left : List α) (right : List β) : List (α × Option β) :=
  left.flatMap (leftJoinRow on right)

/-- `GROUP BY key`: the rows of each key, one group for each key that occurs. -/
def groupBy [DecidableEq κ] (key : α → κ) (rows : List α) : List (List α) :=
  (rows.map key).dedup.map fun group => rows.filter fun row => key row = group

/-- `COUNT(column)` of the right side of a left join: absent matches do not count. -/
def countPresent (group : List (α × Option β)) : Nat :=
  group.countP fun row => row.2.isSome

/-- A join along a reference that every left row makes to exactly one right row. -/
theorem join_reference (on : α → β → Bool) (left : List α) (right : List β) (target : α → β)
    (references : ∀ row ∈ left, right.filter (on row) = [target row]) :
    join on left right = left.map fun row => (row, target row) := by
  induction left with
  | nil => rfl
  | cons row left ih =>
    have here := references row List.mem_cons_self
    have rest := ih fun other present => references other (List.mem_cons_of_mem row present)
    simp only [join, List.flatMap_cons, List.map_cons, here] at rest ⊢
    simp [rest]

/-- A condition on the left side may be applied before the join. -/
theorem join_filter (on : α → β → Bool) (keep : α → Bool) (left : List α) (right : List β) :
    (join on left right).filter (fun row => keep row.1) = join on (left.filter keep) right := by
  induction left with
  | nil => rfl
  | cons row left ih =>
    simp only [join, List.flatMap_cons, List.filter_append] at ih ⊢
    rw [ih]
    cases kept : keep row <;> simp [kept, Function.comp_def, List.filter_map]

/-- A condition on the left side may be applied before the left join. -/
theorem leftJoin_filter (on : α → β → Bool) (keep : α → Bool) (left : List α) (right : List β) :
    (leftJoin on left right).filter (fun row => keep row.1) =
      leftJoin on (left.filter keep) right := by
  have one (row : α) : (leftJoinRow on right row).filter (fun found => keep found.1) =
      if keep row then leftJoinRow on right row else [] := by
    unfold leftJoinRow
    split <;> cases kept : keep row <;> simp [kept, Function.comp_def, List.filter_map]
  induction left with
  | nil => rfl
  | cons row left ih =>
    simp only [leftJoin, List.flatMap_cons, List.filter_append] at ih ⊢
    rw [ih, one row]
    cases kept : keep row <;> simp [kept]

/-- A left join produces at least one row for each left row. -/
theorem leftJoinRow_ne_nil (on : α → β → Bool) (right : List β) (row : α) :
    leftJoinRow on right row ≠ [] := by
  unfold leftJoinRow
  split
  · simp
  · rename_i found
    simpa using found

/-- The rows a left join produces for a left row hold that row. -/
theorem fst_of_mem_leftJoinRow (on : α → β → Bool) (right : List β) (row : α)
    {found : α × Option β} (present : found ∈ leftJoinRow on right row) : found.1 = row := by
  unfold leftJoinRow at present
  split at present
  · rw [List.mem_singleton.mp present]
  · obtain ⟨_, _, rfl⟩ := List.mem_map.mp present
    rfl

/-- The count over the rows of one left row is its number of matches. -/
theorem countPresent_leftJoinRow (on : α → β → Bool) (right : List β) (row : α) :
    countPresent (leftJoinRow on right row) = right.countP (on row) := by
  rw [List.countP_eq_length_filter]
  unfold leftJoinRow countPresent
  split
  · rename_i none
    simp [none]
  · simp [List.countP_map, Function.comp_def]

/-- The distinct keys of consecutive nonempty blocks, each under a key of its own. -/
private theorem dedup_blocks [DecidableEq κ] (key : β → κ) (own : α → κ) (block : α → List β)
    (left : List α) (nonempty : ∀ row ∈ left, block row ≠ [])
    (keyed : ∀ row ∈ left, ∀ found ∈ block row, key found = own row)
    (distinct : (left.map own).Nodup) :
    ((left.flatMap block).map key).dedup = left.map own := by
  induction left with
  | nil => rfl
  | cons row left ih =>
    simp only [List.map_cons, List.nodup_cons] at distinct
    have rest := ih (fun other present => nonempty other (List.mem_cons_of_mem row present))
      (fun other present => keyed other (List.mem_cons_of_mem row present)) distinct.2
    have fresh : own row ∉ (left.flatMap block).map key := by
      intro present
      obtain ⟨found, inside, same⟩ := List.mem_map.mp present
      obtain ⟨other, stored, produced⟩ := List.mem_flatMap.mp inside
      refine distinct.1 (List.mem_map.mpr ⟨other, stored, ?_⟩)
      rw [← keyed other (List.mem_cons_of_mem row stored) found produced, same]
    have first (found : List β) (some : found ≠ [])
        (same : ∀ one ∈ found, key one = own row) :
        (found.map key ++ (left.flatMap block).map key).dedup =
          own row :: ((left.flatMap block).map key).dedup := by
      induction found with
      | nil => exact absurd rfl some
      | cons one found again =>
        rw [List.map_cons, same one List.mem_cons_self, List.cons_append]
        by_cases last : found = []
        · subst last
          simpa using List.dedup_cons_of_notMem fresh
        · obtain ⟨other, more⟩ := List.exists_mem_of_ne_nil found last
          have seen : own row ∈ found.map key ++ (left.flatMap block).map key := by
            refine List.mem_append_left _ (List.mem_map.mpr ⟨other, more, ?_⟩)
            exact same other (List.mem_cons_of_mem one more)
          rw [List.dedup_cons_of_mem seen]
          exact again last fun other present => same other (List.mem_cons_of_mem one present)
    rw [List.flatMap_cons, List.map_append, List.map_cons,
      first (block row) (nonempty row List.mem_cons_self) (keyed row List.mem_cons_self), rest]

/-- Only the block of a row lies under the key of that row. -/
private theorem filter_blocks [DecidableEq κ] (key : β → κ) (own : α → κ) (block : α → List β)
    (left : List α) (keyed : ∀ row ∈ left, ∀ found ∈ block row, key found = own row)
    (distinct : (left.map own).Nodup) (row : α) (present : row ∈ left) :
    (left.flatMap block).filter (fun found => key found = own row) = block row := by
  induction left with
  | nil => simp at present
  | cons first left ih =>
    simp only [List.map_cons, List.nodup_cons] at distinct
    have others (other : α) (stored : other ∈ left) : own other ≠ own first := fun same =>
      distinct.1 (List.mem_map.mpr ⟨other, stored, same⟩)
    have keyedLater : ∀ other ∈ left, ∀ found ∈ block other, key found = own other :=
      fun other stored => keyed other (List.mem_cons_of_mem first stored)
    rw [List.flatMap_cons, List.filter_append]
    rcases List.mem_cons.mp present with rfl | later
    · have whole : (block row).filter (fun found => key found = own row) = block row :=
        List.filter_eq_self.mpr fun found inside => by
          simpa using keyed row List.mem_cons_self found inside
      have nothing : (left.flatMap block).filter (fun found => key found = own row) = [] := by
        apply List.filter_eq_nil_iff.mpr
        intro found inside
        obtain ⟨other, stored, produced⟩ := List.mem_flatMap.mp inside
        simpa [keyedLater other stored found produced] using others other stored
      rw [whole, nothing, List.append_nil]
    · have nothing : (block first).filter (fun found => key found = own row) = [] := by
        apply List.filter_eq_nil_iff.mpr
        intro found inside
        simpa [keyed first List.mem_cons_self found inside] using (others row later).symm
      rw [nothing, List.nil_append]
      exact ih keyedLater distinct.2 later

/-- Grouping a left join by the key of its left side gives one group for each left row. -/
theorem groupBy_leftJoin [DecidableEq κ] (on : α → β → Bool) (own : α → κ) (left : List α)
    (right : List β) (distinct : (left.map own).Nodup) :
    groupBy (fun row : α × Option β => own row.1) (leftJoin on left right) =
      left.map (leftJoinRow on right) := by
  have keyed : ∀ row ∈ left, ∀ found ∈ leftJoinRow on right row, own found.1 = own row :=
    fun row _ found present => by rw [fst_of_mem_leftJoinRow on right row present]
  unfold groupBy leftJoin
  rw [dedup_blocks (fun row : α × Option β => own row.1) own _ left
    (fun row _ => leftJoinRow_ne_nil on right row) keyed distinct, List.map_map]
  apply List.map_congr_left
  intro row present
  exact filter_blocks (fun row : α × Option β => own row.1) own _ left keyed distinct row present

/-- When no right row matches two left rows, the matches of all left rows together are the right
rows that match any. -/
theorem sum_countP (on : α → β → Bool) (left : List α) (right : List β)
    (apart : left.Pairwise fun first second => ∀ found ∈ right,
      on first found = true → on second found = false) :
    (left.map fun row => right.countP (on row)).sum =
      right.countP fun found => left.any fun row => on row found := by
  induction left with
  | nil => simp
  | cons row left ih =>
    obtain ⟨alone, later⟩ := List.pairwise_cons.mp apart
    have split (found : List β) (inside : ∀ one ∈ found, one ∈ right) :
        (found.countP fun one => on row one || left.any fun other => on other one) =
          found.countP (on row) + found.countP fun one => left.any fun other => on other one := by
      induction found with
      | nil => rfl
      | cons one found again =>
        have rest := again fun other present => inside other (List.mem_cons_of_mem one present)
        simp only [List.countP_cons, rest]
        cases hit : on row one with
        | false => simp only [Bool.false_or, Bool.false_eq_true, ↓reduceIte]; omega
        | true =>
          have miss : (left.any fun other => on other one) = false :=
            List.any_eq_false.mpr fun other stored => by
              simp [alone other stored one (inside one List.mem_cons_self) hit]
          simp only [miss, Bool.true_or, ↓reduceIte, Bool.false_eq_true]
          omega
    simp only [List.map_cons, List.sum_cons, List.any_cons]
    rw [ih later, split right fun _ present => present]

end Relational
