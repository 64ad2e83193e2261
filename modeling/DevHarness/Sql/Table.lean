import Mathlib.Data.List.Nodup
import Mathlib.Data.List.Pairwise
import Mathlib.Data.List.Sort

/-!
# Tables with a primary key

A table is a list of rows, no two of which have the same key; the list order is
the order in which the rows were inserted.  A statement that updates rows where
some condition holds acts on the row of each key separately, so what a
statement does to a table is said key by key.
-/

namespace Sql

/-- The rows of a table with primary key `key`. -/
structure Table {Row Key : Type} (key : Row → Key) where
  rows : List Row
  nodup : (rows.map key).Nodup

namespace Table

variable {Row Key : Type} {key : Row → Key}

def empty (key : Row → Key) : Table key where
  rows := []
  nodup := List.nodup_nil

/-- `UPDATE … SET f WHERE p`; an update leaves the key alone. -/
def updateWhere (t : Table key) (p : Row → Bool) (f : Row → Row)
    (hkey : ∀ row, key (f row) = key row) : Table key where
  rows := t.rows.map fun row => if p row then f row else row
  nodup := by
    have hmap : (t.rows.map fun row => if p row then f row else row).map key =
        t.rows.map key := by
      rw [List.map_map]
      refine List.map_congr_left fun row _ => ?_
      by_cases hp : p row
      · simp [hp, hkey]
      · simp [hp]
    rw [hmap]
    exact t.nodup

theorem eq_of_key_eq {t : Table key} {row row' : Row} (h : row ∈ t.rows) (h' : row' ∈ t.rows)
    (hkey : key row = key row') : row = row' :=
  List.inj_on_of_nodup_map t.nodup h h' hkey

variable [DecidableEq Key]

def get (t : Table key) (k : Key) : Option Row :=
  t.rows.find? fun row => key row = k

/-- `INSERT … ON CONFLICT DO NOTHING`. -/
def insertNew (t : Table key) (row : Row) : Table key :=
  if h : key row ∈ t.rows.map key then t
  else
    { rows := t.rows ++ [row]
      nodup := by
        rw [List.map_append, List.map_singleton]
        exact List.nodup_append.mpr
          ⟨t.nodup, List.nodup_singleton _, fun a ha b hb hab =>
            h (List.mem_singleton.mp hb ▸ hab ▸ ha)⟩ }

variable {t : Table key} {k : Key} {row row' : Row}

theorem key_of_get (h : t.get k = some row) : key row = k := by
  have hfound := List.find?_some h
  simpa using hfound

theorem mem_of_get (h : t.get k = some row) : row ∈ t.rows :=
  List.mem_of_find?_eq_some h

theorem get_of_mem (h : row ∈ t.rows) : t.get (key row) = some row := by
  cases hget : t.get (key row) with
  | none =>
      have hnone := List.find?_eq_none.mp hget row h
      simp at hnone
  | some found =>
      rw [eq_of_key_eq (mem_of_get hget) h (key_of_get hget)]

theorem get_eq_some_iff : t.get k = some row ↔ row ∈ t.rows ∧ key row = k := by
  constructor
  · intro h
    exact ⟨mem_of_get h, key_of_get h⟩
  · rintro ⟨h, rfl⟩
    exact get_of_mem h

theorem get_updateWhere {p : Row → Bool} {f : Row → Row}
    {hkey : ∀ row, key (f row) = key row} :
    (t.updateWhere p f hkey).get k =
      (t.get k).map fun row => if p row then f row else row := by
  have hstep : ∀ row, key (if p row then f row else row) = key row := by
    intro row
    by_cases hp : p row
    · simp [hp, hkey]
    · simp [hp]
  cases hget : t.get k with
  | none =>
      rw [Option.map_none]
      refine List.find?_eq_none.mpr fun row' hrow' => ?_
      obtain ⟨row, hrow, rfl⟩ := List.mem_map.mp hrow'
      rw [hstep]
      exact List.find?_eq_none.mp hget row hrow
  | some row =>
      rw [Option.map_some, get_eq_some_iff]
      exact ⟨List.mem_map_of_mem (mem_of_get hget), (hstep row).trans (key_of_get hget)⟩

/-- An insertion adds a row, or leaves the table alone. -/
theorem get_insertNew : (t.insertNew row).get k =
    if key row = k ∧ t.get k = none then some row else t.get k := by
  have hnone : t.get (key row) = none ↔ key row ∉ t.rows.map key := by
    simp [get, List.find?_eq_none]
  unfold insertNew
  split
  · next h =>
    split
    · next hk =>
      rw [← hk.1] at hk
      exact absurd h (hnone.mp hk.2)
    · rfl
  · next h =>
    by_cases hk : key row = k
    · subst hk
      rw [if_pos ⟨rfl, hnone.mpr h⟩, get_eq_some_iff]
      exact ⟨List.mem_append_right _ (List.mem_singleton.mpr rfl), rfl⟩
    · rw [if_neg fun h => hk h.1]
      simp only [get, List.find?_append]
      simp [hk]

theorem mem_insertNew (h : row ∈ t.rows) : row ∈ (t.insertNew row').rows := by
  unfold insertNew
  split
  · exact h
  · exact List.mem_append_left _ h

theorem of_mem_insertNew (h : row ∈ (t.insertNew row').rows) : row = row' ∨ row ∈ t.rows := by
  unfold insertNew at h
  split at h
  · exact .inr h
  · rcases List.mem_append.mp h with hold | hnew
    · exact .inr hold
    · exact .inl (List.mem_singleton.mp hnew)

end Table

/-- A table with a unique index beside its primary key. -/
structure Indexed {Row Key Index : Type} (key : Row → Key) (index : Row → Index)
    extends Table key where
  unique : (rows.map index).Nodup

namespace Indexed

variable {Row Key Index : Type} {key : Row → Key} {index : Row → Index}

def empty (key : Row → Key) (index : Row → Index) : Indexed key index where
  toTable := Table.empty key
  unique := List.nodup_nil

variable {t next : Indexed key index} {row row' : Row}

theorem eq_of_index_eq (h : row ∈ t.rows) (h' : row' ∈ t.rows) (hindex : index row = index row') :
    row = row' :=
  List.inj_on_of_nodup_map t.unique h h' hindex

variable [DecidableEq Key] [DecidableEq Index]

/-- `INSERT`; none where the key or the index value is taken. -/
def insert (t : Indexed key index) (row : Row) : Option (Indexed key index) :=
  if h : key row ∉ t.rows.map key ∧ index row ∉ t.rows.map index then
    some
      { rows := t.rows ++ [row]
        nodup := by
          rw [List.map_append]
          exact t.nodup.append (List.nodup_singleton _)
            (List.disjoint_singleton.mpr h.1)
        unique := by
          rw [List.map_append]
          exact t.unique.append (List.nodup_singleton _)
            (List.disjoint_singleton.mpr h.2) }
  else none

/-- `UPDATE … SET f WHERE key = k`; an update leaves the key and the index value alone. -/
def update (t : Indexed key index) (k : Key) (f : Row → Row) (hkey : ∀ row, key (f row) = key row)
    (hindex : ∀ row, index (f row) = index row) : Indexed key index where
  toTable := t.toTable.updateWhere (fun row => key row = k) f hkey
  unique := by
    have hmap : (t.toTable.updateWhere (fun row => key row = k) f hkey).rows.map index =
        t.rows.map index := by
      rw [Table.updateWhere, List.map_map]
      refine List.map_congr_left fun row _ => ?_
      by_cases hrow : key row = k
      · simp [hrow, hindex]
      · simp [hrow]
    rw [hmap]
    exact t.unique

theorem rows_of_insert (h : t.insert row = some next) : next.rows = t.rows ++ [row] := by
  unfold insert at h
  split at h
  · rw [← Option.some.inj h]
  · cases h

theorem get_of_insert {k : Key} (h : t.insert row = some next) (hget : t.get k = some row') :
    next.get k = some row' := by
  rw [Table.get_eq_some_iff, rows_of_insert h]
  exact ⟨List.mem_append_left _ (Table.mem_of_get hget), Table.key_of_get hget⟩

theorem get_insert_self (h : t.insert row = some next) : next.get (key row) = some row := by
  rw [Table.get_eq_some_iff, rows_of_insert h]
  exact ⟨List.mem_append_right _ (List.mem_singleton_self _), rfl⟩

end Indexed

/-! ## `ORDER BY` -/

/-- The rows in the order in which `before a b` means that `a` comes no later
than `b`. -/
def orderBy {Row : Type} (before : Row → Row → Bool) (rows : List Row) : List Row :=
  rows.insertionSort fun a b => before a b = true

variable {Row : Type} {Key : Type} {α : Type} {rest : Row → Row → Bool} {before : Row → Row → Bool}
  {rows : List Row} {row : Row} {key : Row → α} {a b : Row}

@[simp] theorem mem_orderBy : row ∈ orderBy before rows ↔ row ∈ rows :=
  List.mem_insertionSort _

/-- `ORDER BY key`. -/
def byKey {Row α : Type} [LinearOrder α] (key : Row → α) (a b : Row) : Bool :=
  decide (key a ≤ key b)

/-- `ORDER BY key, …`. -/
def thenBy {Row α : Type} [LinearOrder α] (key : Row → α) (rest : Row → Row → Bool)
    (a b : Row) : Bool :=
  decide (key a < key b) || (decide (key a = key b) && rest a b)

/-- `ORDER BY key DESC`. -/
def byKeyDesc {Row α : Type} [LinearOrder α] (key : Row → α) (a b : Row) : Bool :=
  decide (key b ≤ key a)

/-- `ORDER BY key DESC, …`. -/
def thenByDesc {Row α : Type} [LinearOrder α] (key : Row → α) (rest : Row → Row → Bool)
    (a b : Row) : Bool :=
  decide (key b < key a) || (decide (key a = key b) && rest a b)

/-- `SELECT DISTINCT ON (key)`: the first row of each key. -/
def distinctOn {Row Key : Type} [DecidableEq Key] (key : Row → Key) (rows : List Row) : List Row :=
  rows.eraseDupsBy fun a b => key a = key b

theorem mem_of_distinctOn [DecidableEq Key] {key : Row → Key} (h : row ∈ distinctOn key rows) :
    row ∈ rows := by
  induction hn : rows.length using Nat.strong_induction_on generalizing rows with
  | _ n ih =>
      cases rows with
      | nil => exact h
      | cons first rows =>
          rw [distinctOn, List.eraseDupsBy_cons] at h
          rcases List.mem_cons.mp h with rfl | hrest
          · exact List.mem_cons_self
          · have hlength := List.length_filter_le (fun b => decide (key b = key first) = false) rows
            have hmem := ih _ (by rw [← hn, List.length_cons]; omega) hrest rfl
            exact List.mem_cons_of_mem _ (List.mem_filter.mp hmem).1

theorem nodup_distinctOn [DecidableEq Key] (key : Row → Key) (rows : List Row) :
    ((distinctOn key rows).map key).Nodup := by
  induction hn : rows.length using Nat.strong_induction_on generalizing rows with
  | _ n ih =>
      cases rows with
      | nil => exact List.nodup_nil
      | cons first rows =>
          have hlength := List.length_filter_le (fun b => decide (key b = key first) = false) rows
          have hrest := ih _ (by rw [← hn, List.length_cons]; omega)
            (rows.filter fun b => decide (key b = key first) = false) rfl
          rw [distinctOn, List.eraseDupsBy_cons, List.map_cons, List.nodup_cons]
          refine ⟨?_, hrest⟩
          intro hmem
          obtain ⟨row, hrow, hkey⟩ := List.mem_map.mp hmem
          have hother := (List.mem_filter.mp (mem_of_distinctOn hrow)).2
          simp only [hkey, decide_true, Bool.true_eq_false, decide_false] at hother
          cases hother

/-- `LEFT JOIN`: a row without a partner is kept. -/
def leftJoin {Row Other : Type} (row : Row) (others : List Other) : List (Row × Option Other) :=
  match others with
  | [] => [(row, none)]
  | _ => others.map fun other => (row, some other)

/-- An order in which any two rows compare, and which is transitive. -/
structure Orders {Row : Type} (before : Row → Row → Bool) : Prop where
  total : ∀ a b, before a b = true ∨ before b a = true
  trans : ∀ a b c, before a b = true → before b c = true → before a c = true

theorem orders_byKey [LinearOrder α] (key : Row → α) : Orders (byKey key) where
  total a b := by
    simp only [byKey, decide_eq_true_eq]
    exact le_total _ _
  trans a b c := by
    simp only [byKey, decide_eq_true_eq]
    exact le_trans

theorem thenBy_eq_true [LinearOrder α] :
    thenBy key rest a b = true ↔ key a < key b ∨ (key a = key b ∧ rest a b = true) := by
  simp [thenBy]

theorem orders_thenBy [LinearOrder α] (key : Row → α) (hrest : Orders rest) :
    Orders (thenBy key rest) where
  total a b := by
    simp only [thenBy_eq_true]
    rcases lt_trichotomy (key a) (key b) with hlt | heq | hgt
    · exact .inl (.inl hlt)
    · rcases hrest.total a b with h | h
      · exact .inl (.inr ⟨heq, h⟩)
      · exact .inr (.inr ⟨heq.symm, h⟩)
    · exact .inr (.inl hgt)
  trans a b c := by
    simp only [thenBy_eq_true]
    rintro (hab | ⟨hab, hab'⟩) (hbc | ⟨hbc, hbc'⟩)
    · exact .inl (hab.trans hbc)
    · exact .inl (hbc ▸ hab)
    · exact .inl (hab ▸ hbc)
    · exact .inr ⟨hab.trans hbc, hrest.trans a b c hab' hbc'⟩

section OrderBy

variable {Row : Type} {before : Row → Row → Bool} {rows : List Row}

theorem pairwise_orderBy (horders : Orders before) (rows : List Row) :
    (orderBy before rows).Pairwise fun a b => before a b = true := by
  have htotal : Std.Total (fun a b : Row => before a b = true) := ⟨horders.total⟩
  have htrans : IsTrans Row (fun a b => before a b = true) := ⟨horders.trans⟩
  exact List.pairwise_insertionSort _ rows

theorem perm_orderBy (before : Row → Row → Bool) (rows : List Row) :
    (orderBy before rows).Perm rows :=
  List.perm_insertionSort _ rows

end OrderBy

variable {p : Row → Bool}

/-- The first row of those with some property, in an order: it comes before every such
row. -/
theorem first_of_orderBy (horders : Orders before)
    (hfirst : ((orderBy before rows).filter p).head? = some row) :
    row ∈ rows ∧ p row = true ∧ ∀ other ∈ rows, p other = true → before row other = true := by
  have hmem := List.mem_filter.mp (List.mem_of_mem_head? hfirst)
  refine ⟨mem_orderBy.mp hmem.1, hmem.2, fun other hother hp => ?_⟩
  have hsorted := (pairwise_orderBy horders rows).filter p
  have hother' : other ∈ (orderBy before rows).filter p :=
    List.mem_filter.mpr ⟨mem_orderBy.mpr hother, hp⟩
  obtain ⟨rest, hlist⟩ := List.head?_eq_some_iff.mp hfirst
  rw [hlist] at hsorted hother'
  rcases List.mem_cons.mp hother' with rfl | hrest
  · exact (horders.total other other).elim id id
  · exact (List.pairwise_cons.mp hsorted).1 other hrest

/-- The last row of those with some property, in an order: no such row comes after
it. -/
theorem last_of_orderBy (horders : Orders before)
    (hlast : ((orderBy before rows).filter p).getLast? = some row) :
    row ∈ rows ∧ p row = true ∧ ∀ other ∈ rows, p other = true → before other row = true := by
  have hmem := List.mem_filter.mp (List.mem_of_getLast? hlast)
  refine ⟨mem_orderBy.mp hmem.1, hmem.2, fun other hother hp => ?_⟩
  have hsorted := pairwise_orderBy horders rows
  have hrefl : Std.Refl (fun a b : Row => before a b = true) := 
    ⟨fun a => (horders.total a a).elim id id⟩
  have hfiltered := hsorted.filter p
  have hne : (orderBy before rows).filter p ≠ [] := List.ne_nil_of_mem (List.mem_of_getLast? hlast)
  have hother' : other ∈ (orderBy before rows).filter p :=
    List.mem_filter.mpr ⟨mem_orderBy.mpr hother, hp⟩
  have hle := hfiltered.rel_getLast hother'
  rw [List.getLast?_eq_some_getLast hne] at hlast
  rw [← Option.some.inj hlast]
  exact hle

theorem exists_last_of_orderBy (hrow : row ∈ rows) (hp : p row = true) :
    ∃ last, ((orderBy before rows).filter p).getLast? = some last := by
  have hmem : row ∈ (orderBy before rows).filter p :=
    List.mem_filter.mpr ⟨mem_orderBy.mpr hrow, hp⟩
  exact ⟨_, List.getLast?_eq_some_getLast (List.ne_nil_of_mem hmem)⟩

/-- `ORDER BY … LIMIT 1`: the first row in that order. -/
def first {Row : Type} (before : Row → Row → Bool) : List Row → Option Row
  | [] => none
  | row :: rows =>
    match first before rows with
    | none => some row
    | some best => if before row best then some row else some best

theorem first_eq_none : first before rows = none ↔ rows = [] := by
  cases rows with
  | nil => simp [first]
  | cons head tail =>
      simp only [first, reduceCtorEq, iff_false]
      split
      · simp
      · split <;> simp

theorem mem_of_first (hfirst : first before rows = some row) : row ∈ rows := by
  induction rows with
  | nil => cases hfirst
  | cons head tail ih =>
      simp only [first] at hfirst
      split at hfirst
      · obtain rfl := Option.some.inj hfirst
        exact List.mem_cons_self
      · next best hbest =>
        split at hfirst
        · obtain rfl := Option.some.inj hfirst
          exact List.mem_cons_self
        · obtain rfl := Option.some.inj hfirst
          exact List.mem_cons_of_mem _ (ih hbest)

theorem first_append_singleton (hrow : ∀ earlier ∈ rows, before earlier row = false) :
    first before (rows ++ [row]) = some row := by
  induction rows with
  | nil => rfl
  | cons head tail ih =>
      have htail := ih fun earlier h => hrow earlier (List.mem_cons_of_mem _ h)
      have hhead : before head row = false := hrow head List.mem_cons_self
      rw [List.cons_append, first, htail]
      simp [hhead]

end Sql
