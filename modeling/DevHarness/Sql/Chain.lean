import DevHarness.Sql.Table

/-!
# Chains of rows

Rows that are numbered 1, 2, 3, … and of which each but the first names the one before
it.  On such rows the orders by number, ascending and descending, are the order in which
the rows were inserted and its reverse, so the row with the largest number is the last.
-/

namespace Sql

/-- How the rows of a chain are numbered and linked. -/
structure Numbering (Row Id : Type) where
  number : Row → ℕ
  id : Row → Id
  previous : Row → Option Id

/-- Rows numbered 1, 2, 3, …, each but the first naming the one before it. -/
inductive Chain {Row Id : Type} (n : Numbering Row Id) : List Row → Prop
  | nil : Chain n []
  | snoc {rows : List Row} {row : Row} (hrows : Chain n rows)
      (hnumber : n.number row = rows.length + 1)
      (hprevious : n.previous row = rows.getLast?.map n.id) : Chain n (rows ++ [row])

/-- `ORDER BY number`. -/
def ascending {Row Id : Type} (n : Numbering Row Id) (a b : Row) : Bool :=
  decide (n.number a ≤ n.number b)

/-- `ORDER BY number DESC`. -/
def descending {Row Id : Type} (n : Numbering Row Id) (a b : Row) : Bool :=
  decide (n.number b ≤ n.number a)

/-- No row is numbered higher. -/
structure Newest {Row Id : Type} (n : Numbering Row Id) (rows : List Row) (row : Row) :
    Prop where
  mem : row ∈ rows
  largest : ∀ other ∈ rows, n.number other ≤ n.number row

section Chain

variable {Row Id : Type} {n : Numbering Row Id} {rows : List Row} {row last : Row}

section

variable (h : Chain n rows)

include h

theorem Chain.number_le_length (hmem : row ∈ rows) : n.number row ≤ rows.length := by
  induction h with
  | nil => exact absurd hmem List.not_mem_nil
  | @snoc rows next hrows hnumber hprevious ih =>
      rw [List.length_append, List.length_singleton]
      rcases List.mem_append.mp hmem with hold | hnew
      · have hle := ih hold
        omega
      · rw [List.mem_singleton.mp hnew]
        omega

theorem Chain.number_pos (hmem : row ∈ rows) : 0 < n.number row := by
  induction h with
  | nil => exact absurd hmem List.not_mem_nil
  | @snoc rows next hrows hnumber hprevious ih =>
      rcases List.mem_append.mp hmem with hold | hnew
      · exact ih hold
      · rw [List.mem_singleton.mp hnew]
        omega

theorem Chain.number_of_getLast? (hlast : rows.getLast? = some last) :
    n.number last = rows.length := by
  cases h with
  | nil => cases hlast
  | @snoc rows next hrows hnumber hprevious =>
      obtain rfl : next = last := by simpa using hlast
      rw [hnumber, List.length_append, List.length_singleton]

theorem Chain.number_next : (rows.getLast?.map n.number).getD 0 = rows.length := by
  cases hlast : rows.getLast? with
  | none =>
      rw [List.getLast?_eq_none_iff.mp hlast]
      rfl
  | some last =>
      rw [Option.map_some, Option.getD_some]
      exact h.number_of_getLast? hlast

/-- No row but the last has its number or a larger one. -/
theorem Chain.eq_of_number_le (hmem : row ∈ rows) (hlast : rows.getLast? = some last)
    (hle : n.number last ≤ n.number row) : row = last := by
  cases h with
  | nil => cases hlast
  | @snoc rows next hrows hnumber hprevious =>
      obtain rfl : next = last := by simpa using hlast
      rcases List.mem_append.mp hmem with hold | hnew
      · have hlt := hrows.number_le_length hold
        omega
      · exact List.mem_singleton.mp hnew

theorem Chain.number_le_last (hmem : row ∈ rows) (hlast : rows.getLast? = some last) :
    n.number row ≤ n.number last := by
  rw [h.number_of_getLast? hlast]
  exact h.number_le_length hmem

theorem Chain.newest_iff : Newest n rows row ↔ rows.getLast? = some row := by
  constructor
  · intro hnewest
    have hlast := List.getLast?_eq_some_getLast (List.ne_nil_of_mem hnewest.mem)
    have hle := hnewest.largest _ (List.mem_of_getLast? hlast)
    have heq := h.eq_of_number_le hnewest.mem hlast hle
    exact hlast.trans (congrArg some heq.symm)
  · intro hlast
    exact ⟨List.mem_of_getLast? hlast, fun other hother => h.number_le_last hother hlast⟩

theorem Chain.exists_number_one (hne : rows ≠ []) : ∃ row ∈ rows, n.number row = 1 := by
  induction h with
  | nil => exact absurd rfl hne
  | @snoc rows next hrows hnumber hprevious ih =>
      by_cases hrows_nil : rows = []
      · refine ⟨next, by simp, ?_⟩
        rw [hnumber, hrows_nil, List.length_nil]
      · obtain ⟨row, hrow, hone⟩ := ih hrows_nil
        exact ⟨row, List.mem_append_left _ hrow, hone⟩

theorem Chain.pairwise : rows.Pairwise fun a b => n.number a < n.number b := by
  induction h with
  | nil => exact List.Pairwise.nil
  | @snoc rows next hrows hnumber hprevious ih =>
      refine List.pairwise_append.mpr ⟨ih, List.pairwise_singleton _ _, ?_⟩
      intro a ha b hb
      have hle := hrows.number_le_length ha
      rw [List.mem_singleton.mp hb]
      omega

end

/-- A chain that goes on from an earlier one, and no further than the last row of that
one, is the earlier one. -/
theorem Chain.eq_of_isPrefix {later : List Row} (h : Chain n later) (hearlier : rows <+: later)
    (hmem : row ∈ rows) (hlast : later.getLast? = some row) : rows = later := by
  obtain ⟨added, rfl⟩ := hearlier
  by_cases hadded : added = []
  · rw [hadded, List.append_nil]
  · have hpairwise := (List.pairwise_append.mp h.pairwise).2.2
    rw [List.getLast?_append_of_ne_nil _ hadded] at hlast
    have hlt := hpairwise row hmem row (List.mem_of_getLast? hlast)
    omega

theorem Chain.orderBy_ascending (h : Chain n rows) : orderBy (ascending n) rows = rows := by
  refine List.Pairwise.insertionSort_eq (h.pairwise.imp ?_)
  intro a b hlt
  exact decide_eq_true (Nat.le_of_lt hlt)

/-- `ORDER BY number DESC LIMIT 1` finds the last row of a chain. -/
theorem Chain.first_descending (h : Chain n rows) :
    first (descending n) rows = rows.getLast? := by
  cases h with
  | nil => rfl
  | @snoc rows next hrows hnumber hprevious =>
      rw [List.getLast?_append_of_ne_nil _ (by simp), List.getLast?_singleton]
      refine first_append_singleton fun earlier hearlier => ?_
      have hle := hrows.number_le_length hearlier
      refine decide_eq_false ?_
      omega

/-- A row that follows the last row makes a chain longer. -/
theorem Chain.append (h : Chain n rows)
    (hnumber : n.number row = (rows.getLast?.map n.number).getD 0 + 1)
    (hprevious : n.previous row = rows.getLast?.map n.id) : Chain n (rows ++ [row]) := by
  refine .snoc h ?_ hprevious
  rw [hnumber, h.number_next]

theorem Chain.singleton (hnumber : n.number row = 1) (hprevious : n.previous row = none) :
    Chain n [row] :=
  .snoc .nil hnumber hprevious

theorem Chain.map {f : Row → Row} (h : Chain n rows)
    (hnumber : ∀ row ∈ rows, n.number (f row) = n.number row)
    (hid : ∀ row ∈ rows, n.id (f row) = n.id row)
    (hprevious : ∀ row ∈ rows, n.previous (f row) = n.previous row) :
    Chain n (rows.map f) := by
  induction h with
  | nil => exact .nil
  | @snoc rows next hrows hnext hlink ih =>
      have hmem : ∀ {row}, row ∈ rows → row ∈ rows ++ [next] :=
        fun hrow => List.mem_append_left _ hrow
      have hself : next ∈ rows ++ [next] := List.mem_append_right _ (List.mem_singleton_self _)
      rw [List.map_append]
      refine .snoc (ih (fun row hrow => hnumber row (hmem hrow))
        (fun row hrow => hid row (hmem hrow)) fun row hrow => hprevious row (hmem hrow)) ?_ ?_
      · rw [hnumber next hself, hnext, List.length_map]
      · rw [hprevious next hself, hlink, List.getLast?_map, Option.map_map]
        cases hend : rows.getLast? with
        | none => rfl
        | some row =>
            have hrow : row ∈ rows := List.mem_of_getLast? hend
            simp [hid row (hmem hrow)]

end Chain

end Sql
