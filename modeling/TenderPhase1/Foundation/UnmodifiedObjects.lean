import TenderPhase1.Foundation.ObjectSession

/-!
# Sessions that have changed nothing yet

In a session that has loaded rows and assigned to none of them, a query returns rows of the table
themselves. A single assignment then changes one row when the session is flushed, and a second
flush changes nothing more.
-/

namespace TenderPhase1.ObjectSession

/-! ## The first row of a query -/

section FirstRow

variable {Row : Type*} {query : Query Row} {rows : List Row} {row : Row}

/-- The row that `scalar` looks at. -/
def Query.firstRow (query : Query Row) (rows : List Row) : Option Row :=
  (({ query with limit := some 1 } : Query Row).rows rows).head?

theorem firstRow_eq_none_iff : query.firstRow rows = none ↔ ∀ row ∈ rows, ¬ query.filter row := by
  rw [← head?_rows_eq_none_iff, Query.firstRow, List.head?_eq_none_iff]

theorem firstRow_mem (h : query.firstRow rows = some row) : row ∈ rows ∧ query.filter row := by
  have hmem : row ∈ ({ query with limit := some 1 } : Query Row).rows rows := List.mem_of_mem_head? h
  have hfound := filter_of_mem_rows hmem
  exact hfound

/-- No matching row comes before the first one. -/
theorem firstRow_order (htotal : ∀ row other, query.order row other ∨ query.order other row)
    (htrans : ∀ row other last, query.order row other → query.order other last → query.order row last)
    (h : query.firstRow rows = some row) : ∀ other ∈ rows, query.filter other → query.order row other := by
  have : Std.Total fun row other ↦ query.order row other = true := ⟨htotal⟩
  have : IsTrans Row fun row other ↦ query.order row other = true := ⟨htrans⟩
  intro other hother hfilter
  set sorted := (rows.filter query.filter).insertionSort fun row other ↦ query.order row other with hsorted
  have hpairwise : sorted.Pairwise fun row other ↦ query.order row other = true := List.pairwise_insertionSort _ _
  have hmem : other ∈ sorted := by
    rw [hsorted, List.mem_insertionSort]
    exact List.mem_filter.mpr ⟨hother, hfilter⟩
  have hhead : (sorted.take 1).head? = some row := h
  cases hlist : sorted with
  | nil => simp [hlist] at hmem
  | cons first rest =>
    rw [hlist] at hhead hmem hpairwise
    obtain rfl : first = row := by simpa using hhead
    rcases List.mem_cons.mp hmem with rfl | hrest
    · exact (htotal other other).elim id id
    · exact (List.pairwise_cons.mp hpairwise).1 other hrest

/-- A row is the first one when every row that could come first in its place is the row itself. -/
theorem firstRow_eq_some (htotal : ∀ row other, query.order row other ∨ query.order other row)
    (htrans : ∀ row other last, query.order row other → query.order other last → query.order row last)
    (hrow : row ∈ rows) (hfilter : query.filter row)
    (hfirst : ∀ other ∈ rows, query.filter other → query.order other row → other = row) :
    query.firstRow rows = some row := by
  cases hfound : query.firstRow rows with
  | none => exact absurd hfilter (firstRow_eq_none_iff.mp hfound row hrow)
  | some other =>
    obtain ⟨hother, hmatches⟩ := firstRow_mem hfound
    rw [hfirst other hother hmatches (firstRow_order htotal htrans hfound row hrow hfilter)]

end FirstRow

/-! ## Unmodified sessions -/

variable {Row : Type*}

/-- The session has loaded rows of the table, and its objects are as they were loaded. -/
structure UnitOfWork.Unmodified (work : UnitOfWork Row) (rows : List Row) : Prop where
  committed : work.committed = rows
  visible : work.visible = rows
  tracked : ∀ tracked ∈ work.tracked, tracked.current = tracked.loaded ∧ tracked.loaded ∈ rows
  added : work.added = []

theorem unmodified_opened (rows : List Row) : (UnitOfWork.opened rows).Unmodified rows where
  committed := rfl
  visible := rfl
  tracked _ h := nomatch h
  added := rfl

section Unmodified

variable [Entity Row] {work : UnitOfWork Row} {rows : List Row} {row object : Row} {query : Query Row}

theorem unmodified_track (h : work.Unmodified rows) (hrow : row ∈ rows) : (work.track row).Unmodified rows := by
  unfold UnitOfWork.track
  split
  · exact h
  · refine ⟨h.committed, h.visible, ?_, h.added⟩
    intro tracked htracked
    rcases List.mem_append.mp htracked with hold | hnew
    · exact h.tracked tracked hold
    · rw [List.mem_singleton.mp hnew]
      exact ⟨rfl, hrow⟩

theorem unmodified_foldl_track (h : work.Unmodified rows) (loaded : List Row) (hloaded : ∀ row ∈ loaded, row ∈ rows) :
    (loaded.foldl UnitOfWork.track work).Unmodified rows := by
  induction loaded generalizing work with
  | nil => exact h
  | cons row loaded ih =>
    exact ih (unmodified_track h (hloaded row List.mem_cons_self))
      fun other hother ↦ hloaded other (List.mem_cons_of_mem row hother)

/-- Two rows of a table with one key are one row. -/
theorem eq_of_key_eq (hkeys : (rows.map Entity.key).Nodup) (hrow : row ∈ rows) (hobject : object ∈ rows)
    (h : Entity.key row = Entity.key object) : row = object :=
  List.inj_on_of_nodup_map hkeys hrow hobject h

/-- What the identity map has for a row is that row. -/
theorem identity_unmodified (h : work.Unmodified rows) (hkeys : (rows.map Entity.key).Nodup) (hrow : row ∈ rows)
    {tracked : Tracked Row} (htracked : work.identity (Entity.key row) = some tracked) : tracked = ⟨row, row⟩ := by
  have hkey : Entity.key tracked.loaded = Entity.key row := by simpa using List.find?_some htracked
  obtain ⟨hcurrent, hloaded⟩ := h.tracked tracked (List.mem_of_find?_eq_some htracked)
  have hsame := eq_of_key_eq hkeys hloaded hrow hkey
  cases tracked
  dsimp only at hcurrent hsame
  rw [hcurrent, hsame]

theorem object_unmodified (h : work.Unmodified rows) (hkeys : (rows.map Entity.key).Nodup) (hrow : row ∈ rows) :
    work.object row = row := by
  unfold UnitOfWork.object
  cases hidentity : work.identity (Entity.key row) with
  | none => rfl
  | some tracked =>
    rw [identity_unmodified h hkeys hrow hidentity]
    rfl

theorem unmodified_scalar (h : work.Unmodified rows) (query : Query Row) : (work.scalar query).2.Unmodified rows := by
  apply unmodified_foldl_track h
  intro row hrow
  rw [h.visible] at hrow
  exact (filter_of_mem_rows hrow).1

theorem scalar_unmodified (h : work.Unmodified rows) (hkeys : (rows.map Entity.key).Nodup) (query : Query Row) :
    (work.scalar query).1 = query.firstRow rows := by
  change ((({ query with limit := some 1 } : Query Row).rows work.visible).map work.object).head? = _
  rw [h.visible, List.head?_map, Query.firstRow]
  cases hfirst : (({ query with limit := some 1 } : Query Row).rows rows).head? with
  | none => rfl
  | some row =>
    have hmem : row ∈ rows ∧ query.filter row := firstRow_mem hfirst
    rw [Option.map_some, object_unmodified h hkeys hmem.1]

theorem identity_track_self (h : work.Unmodified rows) (hkeys : (rows.map Entity.key).Nodup) (hrow : row ∈ rows) :
    (work.track row).identity (Entity.key row) = some ⟨row, row⟩ := by
  unfold UnitOfWork.track
  split
  · rename_i hsome
    obtain ⟨tracked, htracked⟩ := Option.isSome_iff_exists.mp hsome
    rw [htracked, identity_unmodified h hkeys hrow htracked]
  · rename_i hnone
    have hmissing : work.identity (Entity.key row) = none := by simpa using hnone
    change (work.tracked ++ [(⟨row, row⟩ : Tracked Row)]).find? _ = _
    rw [List.find?_append]
    change (work.identity (Entity.key row)).or _ = _
    simp [hmissing]

/-- The first row of a query is loaded. -/
theorem identity_scalar (h : work.Unmodified rows) (hkeys : (rows.map Entity.key).Nodup)
    (hfirst : query.firstRow rows = some row) :
    (work.scalar query).2.identity (Entity.key row) = some ⟨row, row⟩ := by
  have hselected : ({ query with limit := some 1 } : Query Row).rows work.visible = [row] := by
    have hlength : (({ query with limit := some 1 } : Query Row).rows work.visible).length ≤ 1 := by
      simp only [Query.rows]
      exact List.length_take_le 1 _
    rw [h.visible] at hlength ⊢
    cases hlist : ({ query with limit := some 1 } : Query Row).rows rows with
    | nil =>
      rw [Query.firstRow, hlist] at hfirst
      cases hfirst
    | cons first rest =>
      rw [hlist] at hlength
      have hrest : rest = [] := by
        apply List.eq_nil_of_length_eq_zero
        simp only [List.length_cons] at hlength
        omega
      rw [Query.firstRow, hlist] at hfirst
      rw [hrest, Option.some.inj hfirst]
  change ((({ query with limit := some 1 } : Query Row).rows work.visible).foldl UnitOfWork.track work).identity _ = _
  rw [hselected]
  exact identity_track_self h hkeys (firstRow_mem hfirst).1

/-! ## Flushing -/

/-- A flush sends nothing for objects that are as they were loaded. -/
theorem flushedRows_of_unchanged (hsame : ∀ tracked ∈ work.tracked, tracked.current = tracked.loaded)
    (hadded : work.added = []) : work.flushedRows = work.visible := by
  rw [UnitOfWork.flushedRows, hadded, List.append_nil]
  conv_rhs => rw [← List.map_id work.visible]
  apply List.map_congr_left
  intro row _
  cases hidentity : work.identity (Entity.key row) with
  | none => rfl
  | some tracked => simp [hsame tracked (List.mem_of_find?_eq_some hidentity)]

theorem identity_assign (work : UnitOfWork Row) (object : Row) (key : ℕ) :
    (work.assign object).identity key = (work.identity key).map fun tracked ↦
      if Entity.key tracked.loaded = Entity.key object then { tracked with current := object } else tracked := by
  unfold UnitOfWork.identity UnitOfWork.assign
  dsimp only
  rw [List.find?_map]
  congr 1
  congr 1
  funext tracked
  simp only [Function.comp]
  split <;> rfl

/-- After one assignment the flush writes one row. -/
theorem flushedRows_assign (h : work.Unmodified rows) (hkeys : (rows.map Entity.key).Nodup) (hrow : row ∈ rows)
    (hloaded : work.identity (Entity.key row) = some ⟨row, row⟩) (hkey : Entity.key object = Entity.key row) :
    (work.assign object).flushedRows =
      rows.map fun other ↦ if Entity.key other = Entity.key row then Entity.writeBack row object row else other := by
  have hadded : (work.assign object).added = [] := h.added
  rw [UnitOfWork.flushedRows, hadded, List.append_nil, assign_visible, h.visible]
  apply List.map_congr_left
  intro other hother
  rw [identity_assign]
  by_cases hsame : Entity.key other = Entity.key row
  · rw [if_pos hsame, eq_of_key_eq hkeys hother hrow hsame, hloaded]
    simp [hkey]
  · rw [if_neg hsame]
    cases hidentity : work.identity (Entity.key other) with
    | none => rfl
    | some tracked =>
      rw [identity_unmodified h hkeys hother hidentity, Option.map_some, hkey, if_neg hsame]
      exact Entity.writeBack_unchanged other other

/-- A session that has just been flushed has nothing left to send. -/
theorem flushedRows_flush (work : UnitOfWork Row) : work.flush.flushedRows = work.flush.visible := by
  have hsame : ∀ tracked ∈ work.flush.tracked, tracked.current = tracked.loaded := by
    intro tracked htracked
    rcases List.mem_append.mp htracked with hold | hnew
    · obtain ⟨before, -, rfl⟩ := List.mem_map.mp hold
      rfl
    · obtain ⟨row, -, rfl⟩ := List.mem_map.mp hnew
      rfl
  exact flushedRows_of_unchanged hsame rfl

/-- A flush keeps the keys of the rows and appends those of the new ones. -/
theorem map_key_flushedRows (work : UnitOfWork Row) :
    work.flushedRows.map Entity.key = work.visible.map Entity.key ++ work.added.map Entity.key := by
  rw [UnitOfWork.flushedRows, List.map_append, List.map_map]
  congr 1
  apply List.map_congr_left
  intro row _
  simp only [Function.comp]
  cases work.identity (Entity.key row) with
  | none => rfl
  | some tracked => exact Entity.key_writeBack _ _ _

end Unmodified

end TenderPhase1.ObjectSession
