import Mathlib.Data.List.Sort
import Mathlib.Tactic.Common

/-!
# Object sessions that write back changed columns

An object session loads rows into memory, lets the program change the objects,
and at a flush sends one UPDATE per object that names only the columns whose
value differs from the one loaded. Two facts about such sessions decide what a
program on top of them does: a query sees the rows as last flushed and never the
objects in memory, and an UPDATE overwrites a changed column whatever another
transaction has committed there in the meantime.

`mergeColumn` is the second fact for one column, `Entity.writeBack` for one row.
`UnitOfWork` is a session over one table with automatic flushing turned off.
-/

namespace TenderPhase1.ObjectSession

/-! ## One column -/

section Column

variable {Value : Type*} [DecidableEq Value]

/-- The stored value after the UPDATE of an object: written only where the object was changed. -/
def mergeColumn (loaded current stored : Value) : Value :=
  if current = loaded then stored else current

@[simp]
theorem mergeColumn_unchanged (loaded stored : Value) : mergeColumn loaded loaded stored = stored := by
  simp [mergeColumn]

theorem mergeColumn_changed {loaded current : Value} (h : current ≠ loaded) (stored : Value) :
    mergeColumn loaded current stored = current := by
  simp [mergeColumn, h]

/-- Without an intervening commit the column ends up as the object has it. -/
@[simp]
theorem mergeColumn_loaded (loaded current : Value) : mergeColumn loaded current loaded = current := by
  unfold mergeColumn
  split
  · rename_i h
    exact h.symm
  · rfl

theorem mergeColumn_cases (loaded current stored : Value) :
    mergeColumn loaded current stored = stored ∧ current = loaded ∨
      mergeColumn loaded current stored = current ∧ current ≠ loaded := by
  by_cases h : current = loaded
  · exact Or.inl ⟨by simp [mergeColumn, h], h⟩
  · exact Or.inr ⟨mergeColumn_changed h stored, h⟩

end Column

/-! ## One row -/

/-- Rows with a primary key, and the effect of the UPDATE that flushes a changed object. -/
class Entity (Row : Type*) where
  key : Row → ℕ
  writeBack : (loaded current stored : Row) → Row
  key_writeBack : ∀ loaded current stored, key (writeBack loaded current stored) = key stored
  writeBack_unchanged : ∀ loaded stored, writeBack loaded loaded stored = stored

attribute [simp] Entity.key_writeBack Entity.writeBack_unchanged

/-! ## Queries -/

/-- The WHERE, ORDER BY and LIMIT clauses of a SELECT on one table. -/
structure Query (Row : Type*) where
  filter : Row → Bool
  order : Row → Row → Bool := fun _ _ ↦ true
  limit : Option ℕ := none

section Queries

variable {Row : Type*}

/-- The rows a SELECT returns; rows that the ORDER BY does not tell apart come as they are stored. -/
def Query.rows (query : Query Row) (rows : List Row) : List Row :=
  let sorted := (rows.filter query.filter).insertionSort (fun row other ↦ query.order row other)
  match query.limit with
  | some limit => sorted.take limit
  | none => sorted

theorem filter_of_mem_rows {query : Query Row} {rows : List Row} {row : Row} (h : row ∈ query.rows rows) :
    row ∈ rows ∧ query.filter row := by
  unfold Query.rows at h
  have hsorted : row ∈ (rows.filter query.filter).insertionSort (fun row other ↦ query.order row other) := by
    split at h
    · exact List.mem_of_mem_take h
    · exact h
  rw [List.mem_insertionSort] at hsorted
  exact List.mem_filter.mp hsorted

/-- The first row of a query is missing exactly when no row matches. -/
theorem head?_rows_eq_none_iff {query : Query Row} {rows : List Row} :
    ({ query with limit := some 1 } : Query Row).rows rows = [] ↔ ∀ row ∈ rows, ¬ query.filter row := by
  have hlength : ({ query with limit := some 1 } : Query Row).rows rows = [] ↔ rows.filter query.filter = [] := by
    simp [Query.rows, ← List.length_eq_zero_iff, List.length_insertionSort]
  rw [hlength, List.filter_eq_nil_iff]

end Queries

/-! ## One table of a session -/

/-- An object of the identity map: the row as loaded and the object as it is in memory. -/
structure Tracked (Row : Type*) where
  loaded : Row
  current : Row

/-- `committed` are the rows other transactions see, `visible` the rows the session's own
queries see: the committed ones with its flushed writes on top. -/
structure UnitOfWork (Row : Type*) where
  committed : List Row
  visible : List Row
  tracked : List (Tracked Row)
  added : List Row

variable {Row : Type*}

def UnitOfWork.opened (rows : List Row) : UnitOfWork Row := ⟨rows, rows, [], []⟩

variable [Entity Row]

def UnitOfWork.identity (work : UnitOfWork Row) (key : ℕ) : Option (Tracked Row) :=
  work.tracked.find? (Entity.key ·.loaded = key)

/-- The object a query returns for a row: the one in the identity map, where there is one. -/
def UnitOfWork.object (work : UnitOfWork Row) (row : Row) : Row :=
  ((work.identity (Entity.key row)).map Tracked.current).getD row

/-- Enter a row that a query returned into the identity map, unless it is there already. -/
def UnitOfWork.track (work : UnitOfWork Row) (row : Row) : UnitOfWork Row :=
  if (work.identity (Entity.key row)).isSome then work
  else { work with tracked := work.tracked ++ [⟨row, row⟩] }

/-- A SELECT. Its WHERE clause runs on the visible rows, not on the objects. -/
def UnitOfWork.select (work : UnitOfWork Row) (query : Query Row) : List Row × UnitOfWork Row :=
  let rows := query.rows work.visible
  (rows.map work.object, rows.foldl UnitOfWork.track work)

def UnitOfWork.scalar (work : UnitOfWork Row) (query : Query Row) : Option Row × UnitOfWork Row :=
  let (rows, work) := work.select { query with limit := some 1 }
  (rows.head?, work)

/-- Lookup by primary key, answered from the identity map where the key is loaded. -/
def UnitOfWork.get (work : UnitOfWork Row) (key : ℕ) : Option Row × UnitOfWork Row :=
  match work.identity key with
  | some tracked => (some tracked.current, work)
  | none =>
      match work.visible.find? (Entity.key · = key) with
      | some row => (some row, work.track row)
      | none => (none, work)

/-- Assign to the attributes of a loaded object. Nothing is sent to the database. -/
def UnitOfWork.assign (work : UnitOfWork Row) (object : Row) : UnitOfWork Row :=
  { work with
    tracked := work.tracked.map fun tracked ↦
      if Entity.key tracked.loaded = Entity.key object then { tracked with current := object } else tracked }

def UnitOfWork.add (work : UnitOfWork Row) (row : Row) : UnitOfWork Row :=
  { work with added := work.added ++ [row] }

/-- The visible rows once every changed object is written back and every new one inserted. -/
def UnitOfWork.flushedRows (work : UnitOfWork Row) : List Row :=
  work.visible.map (fun row ↦
    match work.identity (Entity.key row) with
    | some tracked => Entity.writeBack tracked.loaded tracked.current row
    | none => row) ++ work.added

/-- Send the pending UPDATEs and INSERTs. The caller has checked the table's constraints. -/
def UnitOfWork.flush (work : UnitOfWork Row) : UnitOfWork Row :=
  { work with
    visible := work.flushedRows
    tracked := work.tracked.map (fun tracked ↦ ⟨tracked.current, tracked.current⟩) ++
      work.added.map fun row ↦ ⟨row, row⟩
    added := [] }

def UnitOfWork.commit (work : UnitOfWork Row) : UnitOfWork Row :=
  { work.flush with committed := work.flush.visible }

/-- Drop the transaction: its writes and its objects are gone. -/
def UnitOfWork.rollback (work : UnitOfWork Row) : UnitOfWork Row := .opened work.committed

/-! ## What each operation leaves alone -/

section Frame

variable (work : UnitOfWork Row)

@[simp]
theorem track_committed (row : Row) : (work.track row).committed = work.committed := by
  unfold UnitOfWork.track
  split <;> rfl

@[simp]
theorem track_visible (row : Row) : (work.track row).visible = work.visible := by
  unfold UnitOfWork.track
  split <;> rfl

theorem foldl_track_frame (rows : List Row) :
    (rows.foldl UnitOfWork.track work).committed = work.committed ∧
      (rows.foldl UnitOfWork.track work).visible = work.visible := by
  induction rows generalizing work with
  | nil => exact ⟨rfl, rfl⟩
  | cons row rows ih => simpa using ih (work.track row)

@[simp]
theorem select_committed (query : Query Row) : (work.select query).2.committed = work.committed :=
  (foldl_track_frame work _).1

@[simp]
theorem select_visible (query : Query Row) : (work.select query).2.visible = work.visible :=
  (foldl_track_frame work _).2

@[simp]
theorem scalar_committed (query : Query Row) : (work.scalar query).2.committed = work.committed :=
  select_committed work _

@[simp]
theorem scalar_visible (query : Query Row) : (work.scalar query).2.visible = work.visible :=
  select_visible work _

@[simp]
theorem assign_committed (object : Row) : (work.assign object).committed = work.committed := rfl

@[simp]
theorem assign_visible (object : Row) : (work.assign object).visible = work.visible := rfl

/-- A query answers from the rows as flushed: it finds nothing exactly when no such row matches. -/
theorem scalar_eq_none_iff (query : Query Row) :
    (work.scalar query).1 = none ↔ ∀ row ∈ work.visible, ¬ query.filter row := by
  rw [← head?_rows_eq_none_iff]
  simp [UnitOfWork.scalar, UnitOfWork.select, Query.rows]

/-- A session that has loaded nothing gets the rows themselves. -/
theorem select_opened (rows : List Row) (query : Query Row) :
    ((UnitOfWork.opened rows).select query).1 = query.rows rows := by
  have hobject : (UnitOfWork.opened rows).object = id := by
    funext row
    rfl
  change (query.rows rows).map (UnitOfWork.opened rows).object = _
  rw [hobject, List.map_id]

end Frame

end TenderPhase1.ObjectSession
