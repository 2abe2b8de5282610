import Mathlib

/-!
# Tables under a uniqueness constraint

A table is a list of rows, in insertion order, no two of which clash. The clash relation says
when two rows violate a key of the table: it is whatever the primary key and the unique indexes
of the table forbid together. An insertion is refused when the new row clashes with a stored
one, and a modification is admitted when it creates no clash, so the constraint is never
re-proved by the code that uses a table. A table that has not been created is `none`.
-/
namespace Relational

/-- Rows in insertion order, with the uniqueness constraint as a field. -/
@[ext]
structure Table (Row : Type) (Clash : Row → Row → Prop) where
  /-- Stored rows, oldest first. -/
  rows : List Row
  /-- No later row clashes with an earlier one. -/
  distinct : rows.Pairwise (fun earlier later => ¬ Clash earlier later)

namespace Table

variable {Row : Type} {Clash : Row → Row → Prop}

/-- The table just after its creation. -/
def empty : Table Row Clash := ⟨[], List.Pairwise.nil⟩

/-- The rows of a table that may not have been created. -/
def rowsOf : Option (Table Row Clash) → List Row
  | none => []
  | some table => table.rows

@[simp] theorem rowsOf_none : rowsOf (none : Option (Table Row Clash)) = [] := rfl

@[simp] theorem rowsOf_some (table : Table Row Clash) : rowsOf (some table) = table.rows := rfl

@[simp] theorem rows_empty : (empty : Table Row Clash).rows = [] := rfl

/-- `CREATE TABLE IF NOT EXISTS`: the table itself, or an empty one in place of none. -/
def ensure (table : Option (Table Row Clash)) : Option (Table Row Clash) :=
  some (table.getD empty)

@[simp] theorem isSome_ensure (table : Option (Table Row Clash)) : (ensure table).isSome = true :=
  rfl

@[simp] theorem rowsOf_ensure (table : Option (Table Row Clash)) :
    rowsOf (ensure table) = rowsOf table := by
  cases table <;> rfl

/-- Append a row, refused when it clashes with a stored one. -/
def insert [DecidableRel Clash] (table : Table Row Clash) (row : Row) :
    Option (Table Row Clash) :=
  if free : ∀ old ∈ table.rows, ¬ Clash old row then
    some ⟨table.rows ++ [row], by
      rw [List.pairwise_append]
      refine ⟨table.distinct, List.pairwise_singleton _ _, ?_⟩
      intro old stored new added
      rw [List.mem_singleton.mp added]
      exact free old stored⟩
  else none

/-- An accepted insertion appends exactly its row. -/
theorem insert_rows [DecidableRel Clash] {table next : Table Row Clash} {row : Row}
    (inserted : table.insert row = some next) : next.rows = table.rows ++ [row] := by
  unfold insert at inserted
  split at inserted
  · obtain rfl := Option.some.inj inserted
    rfl
  · contradiction

/-- An insertion is refused exactly on a clash with a stored row. -/
theorem insert_eq_none [DecidableRel Clash] (table : Table Row Clash) (row : Row) :
    table.insert row = none ↔ ∃ old ∈ table.rows, Clash old row := by
  simp [insert]

/-- Rewrite every row by a map that creates no clash. -/
def modify (table : Table Row Clash) (change : Row → Row)
    (keeps : ∀ left right, Clash (change left) (change right) → Clash left right) :
    Table Row Clash where
  rows := table.rows.map change
  distinct := by
    rw [List.pairwise_map]
    exact table.distinct.imp (fun apart clash => apart (keeps _ _ clash))

@[simp] theorem rows_modify (table : Table Row Clash) (change : Row → Row)
    (keeps : ∀ left right, Clash (change left) (change right) → Clash left right) :
    (table.modify change keeps).rows = table.rows.map change := rfl

/-- Two stored rows that clash are one row. -/
theorem unique (table : Table Row Clash)
    (symmetric : ∀ left right, Clash left right → Clash right left) {left right : Row}
    (leftStored : left ∈ table.rows) (rightStored : right ∈ table.rows)
    (clash : Clash left right) : left = right := by
  by_contra different
  have apart : Std.Symm (fun earlier later => ¬ Clash earlier later) :=
    ⟨fun earlier later free clash => free (symmetric later earlier clash)⟩
  exact table.distinct.forall leftStored rightStored different clash

/-- `unique` for a table that may not have been created. -/
theorem rowsOf_unique {table : Option (Table Row Clash)}
    (symmetric : ∀ left right, Clash left right → Clash right left) {left right : Row}
    (leftStored : left ∈ rowsOf table) (rightStored : right ∈ rowsOf table)
    (clash : Clash left right) : left = right := by
  cases table with
  | none => simp at leftStored
  | some table => exact table.unique symmetric leftStored rightStored clash

/-- No two stored rows clash. -/
theorem rowsOf_distinct (table : Option (Table Row Clash)) :
    (rowsOf table).Pairwise fun earlier later => ¬ Clash earlier later := by
  cases table with
  | none => exact List.Pairwise.nil
  | some table => exact table.distinct

/-- At most one stored row has a key that makes rows clash. -/
theorem rowsOf_countP_le_one (table : Option (Table Row Clash)) (key : Row → Bool)
    (keyed : ∀ left right, key left = true → key right = true → Clash left right) :
    (rowsOf table).countP key ≤ 1 := by
  rw [List.countP_eq_length_filter]
  have alone : ((rowsOf table).filter key).Pairwise fun _ _ => False :=
    ((rowsOf_distinct table).filter key).imp_of_mem fun left right apart =>
      apart (keyed _ _ (List.mem_filter.mp left).2 (List.mem_filter.mp right).2)
  match found : (rowsOf table).filter key with
  | [] => simp
  | [_] => simp
  | first :: second :: rest =>
    rw [found] at alone
    exact absurd List.mem_cons_self ((List.pairwise_cons.mp alone).1 second)

/-- A key that makes rows clash selects the stored row that has it, and no other. -/
theorem rowsOf_filter {table : Option (Table Row Clash)} {key : Row → Bool} {row : Row}
    (keyed : ∀ left right, key left = true → key right = true → Clash left right)
    (stored : row ∈ rowsOf table) (own : key row = true) : (rowsOf table).filter key = [row] := by
  have few := rowsOf_countP_le_one table key keyed
  have selected : row ∈ (rowsOf table).filter key := List.mem_filter.mpr ⟨stored, own⟩
  rw [List.countP_eq_length_filter] at few
  match found : (rowsOf table).filter key with
  | [] => simp [found] at selected
  | [other] =>
    rw [found] at selected
    rw [List.mem_singleton.mp selected]
  | _ :: _ :: _ => simp [found] at few

/-- The last row of a table clashes with none before it. -/
theorem rowsOf_fresh {table : Option (Table Row Clash)} {older : List Row} {row : Row}
    (grown : rowsOf table = older ++ [row]) : ∀ old ∈ older, ¬ Clash old row := by
  intro old stored
  have distinct : (older ++ [row]).Pairwise fun earlier later => ¬ Clash earlier later :=
    grown ▸ rowsOf_distinct table
  exact (List.pairwise_append.mp distinct).2.2 old stored row List.mem_cons_self

end Table

end Relational
