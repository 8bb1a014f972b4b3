import Mathlib.Data.List.Basic

/-!
# Tables of rows

A table of a small database is the list of its rows, in the order they were put in, and a row is the
list of its values. A statement binds the values of a new row to its parameters by their numbers,
which start at 1, and the columns of a row are read by theirs, which start at 0. What has been bound
to a parameter is read from the column in front of it (`getElem?_bindRow`). The rows with a key are
selected, deleted and put in without regard to the rows with other keys.
-/

set_option autoImplicit false

namespace ZipGateway.Lib.RowTable

open List

/-- A value of a table. -/
inductive Value where
  | null
  | int (value : Int32)
  | blob (bytes : List UInt8)
  | text (bytes : List UInt8)
deriving DecidableEq, Repr

abbrev Row := List Value

abbrev Table := List Row

/-- The row that a statement with `columns` parameters puts in. A parameter that is not bound is
`NULL`. -/
def bindRow (columns : ℕ) (binds : List (ℕ × Value)) : Row :=
  (List.range columns).map fun column ↦ (binds.lookup (column + 1)).getD .null

/-- The integer of a column; a value of another type counts as 0. -/
def Row.int (row : Row) (column : ℕ) : Int32 :=
  match row[column]? with
  | some (.int value) => value
  | _ => 0

/-- The bytes of a column; an integer has none. -/
def Row.bytes (row : Row) (column : ℕ) : List UInt8 :=
  match row[column]? with
  | some (.blob bytes) => bytes
  | some (.text bytes) => bytes
  | _ => []

def Row.hasKey (column : ℕ) (key : Int32) (row : Row) : Bool := row[column]? = some (.int key)

/-- `SELECT * FROM table WHERE column = key`. -/
def select (column : ℕ) (key : Int32) (table : Table) : Table :=
  table.filter (Row.hasKey column key)

/-- `DELETE FROM table WHERE column = key`. -/
def deleteWhere (column : ℕ) (key : Int32) (table : Table) : Table :=
  table.filter fun row ↦ !Row.hasKey column key row

/-- `INSERT` into a table with a primary key: it fails where the key is there already. -/
def insertKeyed (column : ℕ) (row : Row) (table : Table) : Option Table :=
  if table.any fun other ↦ other[column]? = row[column]? then none else some (table ++ [row])

section Binding

variable {columns column : ℕ} {binds : List (ℕ × Value)}

/-- A column has what was bound to the parameter behind it. -/
theorem getElem?_bindRow (hcolumn : column < columns) :
    (bindRow columns binds)[column]? = some ((binds.lookup (column + 1)).getD .null) := by
  unfold bindRow
  rw [List.getElem?_map, List.getElem?_range hcolumn]
  rfl

theorem int_bindRow (hcolumn : column < columns) {value : Int32}
    (hbound : binds.lookup (column + 1) = some (.int value)) :
    Row.int (bindRow columns binds) column = value := by
  unfold Row.int
  rw [getElem?_bindRow hcolumn, hbound]
  rfl

theorem bytes_bindRow_blob (hcolumn : column < columns) {bytes : List UInt8}
    (hbound : binds.lookup (column + 1) = some (.blob bytes)) :
    Row.bytes (bindRow columns binds) column = bytes := by
  unfold Row.bytes
  rw [getElem?_bindRow hcolumn, hbound]
  rfl

theorem bytes_bindRow_text (hcolumn : column < columns) {bytes : List UInt8}
    (hbound : binds.lookup (column + 1) = some (.text bytes)) :
    Row.bytes (bindRow columns binds) column = bytes := by
  unfold Row.bytes
  rw [getElem?_bindRow hcolumn, hbound]
  rfl

theorem hasKey_bindRow (hcolumn : column < columns) {value : Int32}
    (hbound : binds.lookup (column + 1) = some (.int value)) (key : Int32) :
    Row.hasKey column key (bindRow columns binds) = decide (value = key) := by
  unfold Row.hasKey
  rw [getElem?_bindRow hcolumn, hbound]
  simp

end Binding

section Keys

variable {column : ℕ} {key other : Int32} {row : Row} {table : Table}

theorem hasKey_iff : Row.hasKey column key row = true ↔ row[column]? = some (.int key) :=
  decide_eq_true_iff

theorem hasKey_of_ne (hrow : Row.hasKey column key row = true) (hne : key ≠ other) :
    Row.hasKey column other row = false := by
  refine Bool.eq_false_iff.mpr ?_
  intro hother
  exact hne (Value.int.inj
    (Option.some.inj ((hasKey_iff.mp hrow).symm.trans (hasKey_iff.mp hother))))

@[simp] theorem select_append (column : ℕ) (key : Int32) (first second : Table) :
    select column key (first ++ second) = select column key first ++ select column key second :=
  filter_append _ _

theorem select_of_forall (h : ∀ row ∈ table, Row.hasKey column key row = true) :
    select column key table = table :=
  filter_eq_self.mpr h

theorem select_of_forall_not (h : ∀ row ∈ table, Row.hasKey column key row = false) :
    select column key table = [] := by
  refine filter_eq_nil_iff.mpr ?_
  intro row hrow
  rw [h row hrow]
  exact Bool.false_ne_true

@[simp] theorem select_deleteWhere_self (column : ℕ) (key : Int32) (table : Table) :
    select column key (deleteWhere column key table) = [] := by
  unfold select deleteWhere
  rw [filter_filter, filter_eq_nil_iff]
  intro row _
  simp

theorem select_deleteWhere_of_ne (hne : key ≠ other) (table : Table) :
    select column other (deleteWhere column key table) = select column other table := by
  unfold select deleteWhere
  rw [filter_filter]
  refine filter_congr ?_
  intro row _
  cases hrow : Row.hasKey column key row with
  | false => simp
  | true => simp [hasKey_of_ne hrow hne]

/-- When the rows with its key have been deleted, a row can be put in. -/
theorem insertKeyed_deleteWhere (hrow : Row.hasKey column key row = true) (table : Table) :
    insertKeyed column row (deleteWhere column key table) = some
      (deleteWhere column key table ++ [row]) := by
  unfold insertKeyed
  rw [if_neg]
  rw [any_eq_true]
  rintro ⟨found, hmem, hsame⟩
  have hfound : Row.hasKey column key found = true :=
    hasKey_iff.mpr ((of_decide_eq_true hsame).trans (hasKey_iff.mp hrow))
  have hkept := (mem_filter.mp hmem).2
  rw [hfound] at hkept
  exact Bool.false_ne_true hkept

end Keys

end ZipGateway.Lib.RowTable
