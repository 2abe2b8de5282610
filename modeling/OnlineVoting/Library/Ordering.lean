import Mathlib

/-!
# ORDER BY ... DESC, ties, and LIMIT

A query that orders its rows by a key leaves the order of ties to the server, here the order of
a rank that it chooses. The theorems say what does not depend on that choice: how many rows come
before a row, and when a limited listing of rows that were stored in the order of their keys is
certain to show the newest of them, newest first.
-/
namespace Relational

variable {α β : Type}

/-- `ORDER BY key DESC`: rows with one key come in the order of a rank. -/
def Descending (key rank : α → Nat) (left right : α) : Prop :=
  key right < key left ∨ (key left = key right ∧ rank left ≤ rank right)

instance (key rank : α → Nat) : DecidableRel (Descending key rank) :=
  fun _ _ => inferInstanceAs (Decidable (_ ∨ _))

instance (key rank : α → Nat) : Std.Total (Descending key rank) where
  total left right := by
    unfold Descending
    omega

instance (key rank : α → Nat) : IsTrans α (Descending key rank) where
  trans first second third := by
    unfold Descending
    omega

/-- A descending order is one of the keys. -/
theorem Descending.key_le {key rank : α → Nat} {left right : α}
    (ordered : Descending key rank left right) : key right ≤ key left := by
  unfold Descending at ordered
  omega

/-- Sorted rows descend. -/
theorem pairwise_descending (key rank : α → Nat) (rows : List α) :
    (rows.insertionSort (Descending key rank)).Pairwise (Descending key rank) :=
  List.pairwise_insertionSort _ rows

/-- Before a row come all rows with a greater key, and of the rows with its own key those that
the server puts there. -/
theorem length_before {key : α → Nat} {before after : List α} {row : α}
    (sorted : (before ++ row :: after).Pairwise fun left right => key right ≤ key left) :
    before.length = ((before ++ row :: after).countP fun other => key row < key other) +
      before.countP fun other => key other = key row := by
  obtain ⟨_, rest, across⟩ := List.pairwise_append.mp sorted
  have least : ∀ other ∈ before, key row ≤ key other :=
    fun other early => across other early row List.mem_cons_self
  have greatest : ∀ other ∈ after, key other ≤ key row := (List.pairwise_cons.mp rest).1
  have none : (row :: after).countP (fun other => key row < key other) = 0 := by
    rw [List.countP_eq_zero]
    intro other late
    rcases List.mem_cons.mp late with rfl | late
    · simp
    · have bound := greatest other late
      simpa using bound
  have split : before.length = before.countP (fun other => key row < key other) +
      before.countP (fun other => ¬ decide (key row < key other) = true) :=
    List.length_eq_countP_add_countP _
  have ties : before.countP (fun other => ¬ decide (key row < key other) = true) =
      before.countP fun other => key other = key row := by
    apply List.countP_congr
    intro other early
    have bound := least other early
    simp only [decide_eq_true_eq]
    omega
  rw [List.countP_append, none, Nat.add_zero, ← ties]
  exact split

/-! ## Rows stored in the order of their keys -/

/-- Rows that descend have the same keys in the same places as the rows sorted. -/
theorem keys_sorted {key : α → Nat} (rank : α → Nat) {rows : List α}
    (stored : rows.Pairwise fun older newer => key older ≤ key newer) :
    (rows.insertionSort (Descending key rank)).map key = rows.reverse.map key := by
  have sorted := pairwise_descending key rank rows
  have newest : rows.reverse.Pairwise fun newer older => key older ≤ key newer :=
    List.pairwise_reverse.mpr stored
  have same : ((rows.insertionSort (Descending key rank)).map key).Perm (rows.reverse.map key) :=
    ((List.perm_insertionSort _ rows).trans (List.reverse_perm rows).symm).map key
  refine @List.Perm.eq_of_pairwise Nat (fun left right => right ≤ left) _ _ ?_ ?_ ?_ same
  · intro left right _ _ first second
    omega
  · exact List.pairwise_map.mpr (sorted.imp Descending.key_le)
  · exact List.pairwise_map.mpr newest

/-- The server can put any row first among those with its key. -/
theorem exists_foremost (key : α → Nat) {id : α → Nat} {rows : List α} (ids : (rows.map id).Nodup)
    {row : α} (present : row ∈ rows) : ∃ rank : Nat → Nat,
      (rows.insertionSort (Descending key fun other => rank (id other)))[
        rows.countP fun other => key row < key other]? = some row := by
  let rank (own : Nat) : Nat := if own = id row then 0 else 1
  refine ⟨rank, ?_⟩
  have sorted := pairwise_descending key (fun other => rank (id other)) rows
  have same := List.perm_insertionSort (Descending key fun other => rank (id other)) rows
  obtain ⟨before, after, split⟩ := List.append_of_mem (same.mem_iff.mpr present)
  have apart := (same.map id).nodup_iff.mpr ids
  rw [← same.countP_eq]
  rw [split] at sorted apart ⊢
  have alone : before.countP (fun other => key other = key row) = 0 := by
    rw [List.countP_eq_zero]
    intro other early tied
    have ordered := (List.pairwise_append.mp sorted).2.2 other early row List.mem_cons_self
    have tied := of_decide_eq_true tied
    have ranked : rank (id other) ≤ rank (id row) := by
      rcases ordered with less | equal
      · omega
      · exact equal.2
    have own : id other = id row := by
      by_contra different
      simp [rank, different] at ranked
    rw [List.map_append, List.nodup_append] at apart
    exact apart.2.2 _ (List.mem_map_of_mem early) _ (by simp) own
  have place := length_before (sorted.imp Descending.key_le)
  rw [alone, Nat.add_zero] at place
  rw [← place]
  simp

/-- A limited listing is sure to show the newest rows, newest first, exactly if every row that
shares its key with one of them looks the same. -/
theorem limit_iff {key id : α → Nat} (view : α → β) {rows : List α} (ids : (rows.map id).Nodup)
    (stored : rows.Pairwise fun older newer => key older ≤ key newer) (limit : Nat) :
    (∀ rank : Nat → Nat,
      ((rows.insertionSort (Descending key fun row => rank (id row))).take limit).map view =
        (rows.reverse.take limit).map view) ↔
      ∀ shown ∈ rows.reverse.take limit, ∀ other ∈ rows, key other = key shown →
        view other = view shown := by
  have newest : rows.reverse.Pairwise fun newer older => key older ≤ key newer :=
    List.pairwise_reverse.mpr stored
  constructor
  · intro certain shown listed other present tied
    have early : (rows.countP fun row => key shown < key row) < limit := by
      obtain ⟨before, after, split⟩ := List.append_of_mem listed
      have whole : rows.reverse = before ++ shown :: (after ++ rows.reverse.drop limit) := by
        rw [← List.cons_append, ← List.append_assoc, ← split, List.take_append_drop]
      have short : before.length < limit := by
        have bound := List.length_take_le limit rows.reverse
        rw [split, List.length_append, List.length_cons] at bound
        omega
      rw [whole] at newest
      have place := length_before newest
      rw [← whole, List.countP_reverse] at place
      omega
    have foremost (row : α) (inside : row ∈ rows) (same : key row = key shown) :
        ((rows.reverse.take limit).map view)[rows.countP fun other => key shown < key other]? =
          some (view row) := by
      obtain ⟨rank, found⟩ := exists_foremost key ids inside
      rw [same] at found
      rw [← certain rank, List.getElem?_map, List.getElem?_take_of_lt early, found]
      rfl
    have own : shown ∈ rows := List.mem_reverse.mp (List.mem_of_mem_take listed)
    have both := (foremost other present tied).symm.trans (foremost shown own rfl)
    exact Option.some.inj both
  · intro alike rank
    have keys := keys_sorted (fun row => rank (id row)) stored
    set sorted := rows.insertionSort (Descending key fun row => rank (id row)) with sort
    have lengths : sorted.length = rows.reverse.length := by
      simpa using congrArg List.length keys
    apply List.ext_getElem (by simp [lengths])
    intro place left right
    have inSorted : place < sorted.length := by
      simp only [List.length_map, List.length_take] at left
      omega
    have inRows : place < rows.reverse.length := by omega
    have tied : key sorted[place] = key rows.reverse[place] := by
      have same : (sorted.map key)[place]? = (rows.reverse.map key)[place]? := by rw [keys]
      rw [List.getElem?_map, List.getElem?_map, List.getElem?_eq_getElem inSorted,
        List.getElem?_eq_getElem inRows] at same
      exact Option.some.inj same
    have listed : rows.reverse[place] ∈ rows.reverse.take limit := by
      simp only [List.length_map, List.length_take] at right
      exact List.mem_take_iff_getElem.mpr ⟨place, by omega, rfl⟩
    have present : sorted[place] ∈ rows :=
      (List.mem_insertionSort _).mp (List.getElem_mem inSorted)
    simp only [List.getElem_map, List.getElem_take]
    exact alike _ listed _ present tied

end Relational
