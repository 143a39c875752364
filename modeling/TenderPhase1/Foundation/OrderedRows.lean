import Mathlib.Algebra.BigOperators.Group.List.Lemmas
import Mathlib.Data.List.Dedup
import Mathlib.Data.List.Sort
import Mathlib.Algebra.Ring.Nat

/-!
# Ordered, numbered and paged rows

The meaning of ORDER BY over several expressions, of row numbers and counts over
the partitions of a query, and of LIMIT and OFFSET. Where the expressions tell any
two rows apart, none of them depends on the order in which the rows are read.
-/

namespace TenderPhase1.OrderedRows

open Std

variable {Row Key Value : Type*}

/-! ## Sort keys -/

/-- An expression of an ORDER BY: how it compares two rows. -/
structure SortKey (Row : Type*) where
  compare : Row → Row → Ordering
  transCmp : TransCmp compare

/-- Rows in ascending order of a column. -/
def SortKey.on (cmp : Value → Value → Ordering) [TransCmp cmp] (column : Row → Value) : SortKey Row where
  compare a b := cmp (column a) (column b)
  transCmp :=
    { eq_swap := OrientedCmp.eq_swap
      isLE_trans := TransCmp.isLE_trans }

def SortKey.desc (key : SortKey Row) : SortKey Row where
  compare a b := key.compare b a
  transCmp :=
    have := key.transCmp
    TransCmp.opposite

/-- A null is either less or greater than every value. -/
def compareNullable (nullsLeast : Bool) (cmp : Value → Value → Ordering) : Option Value → Option Value → Ordering
  | some x, some y => cmp x y
  | none, none => .eq
  | none, some _ => if nullsLeast then .lt else .gt
  | some _, none => if nullsLeast then .gt else .lt

instance (nullsLeast : Bool) (cmp : Value → Value → Ordering) [TransCmp cmp] :
    TransCmp (compareNullable nullsLeast cmp) where
  eq_swap {x y} := by
    match x, y with
    | some x, some y =>
      have hswap : cmp x y = (cmp y x).swap := OrientedCmp.eq_swap
      exact hswap
    | none, none => rfl
    | none, some _ | some _, none => cases nullsLeast <;> rfl
  isLE_trans {x y z} hxy hyz := by
    match x, y, z with
    | some x, some y, some z =>
      have htrans : (cmp x y).isLE → (cmp y z).isLE → (cmp x z).isLE := TransCmp.isLE_trans
      exact htrans hxy hyz
    | none, none, _ => exact hyz
    | some _, some _, none => exact hyz
    | some _, none, none => exact hxy
    | none, some _, some _ => exact hxy
    | none, some _, none => rfl
    | some _, none, some _ => cases nullsLeast <;> contradiction

/-- Rows by the first key that tells them apart. -/
def compareBy : List (SortKey Row) → Row → Row → Ordering
  | [] => fun _ _ ↦ .eq
  | key :: keys => compareLex key.compare (compareBy keys)

instance (keys : List (SortKey Row)) : TransCmp (compareBy keys) := by
  induction keys with
  | nil => exact { eq_swap := rfl, isLE_trans := fun _ _ ↦ rfl }
  | cons key keys ih =>
    have := key.transCmp
    exact inferInstanceAs (TransCmp (compareLex key.compare (compareBy keys)))

theorem compareBy_eq_eq {keys : List (SortKey Row)} {a b : Row} :
    compareBy keys a b = .eq ↔ ∀ key ∈ keys, key.compare a b = .eq := by
  induction keys with
  | nil => simp [compareBy]
  | cons key keys ih =>
    rw [compareBy, compareLex_eq_eq, ih, List.forall_mem_cons]

/-! ## ORDER BY -/

def orderBy (keys : List (SortKey Row)) (rows : List Row) : List Row :=
  rows.mergeSort fun a b ↦ (compareBy keys a b).isLE

section OrderBy

variable {keys : List (SortKey Row)} {rows others : List Row}

theorem orderBy_perm : (orderBy keys rows).Perm rows := List.mergeSort_perm rows _

@[simp]
theorem mem_orderBy {row : Row} : row ∈ orderBy keys rows ↔ row ∈ rows := List.mem_mergeSort

@[simp]
theorem length_orderBy : (orderBy keys rows).length = rows.length := List.length_mergeSort rows

theorem pairwise_orderBy : (orderBy keys rows).Pairwise fun a b ↦ (compareBy keys a b).isLE := by
  have htrans (a b c : Row) :
      (compareBy keys a b).isLE → (compareBy keys b c).isLE → (compareBy keys a c).isLE := TransCmp.isLE_trans
  refine List.pairwise_mergeSort htrans ?_ rows
  intro a b
  have hswap : compareBy keys a b = (compareBy keys b a).swap := OrientedCmp.eq_swap
  rw [hswap]
  cases compareBy keys b a <;> rfl

/-- The order of the keys does not depend on the order in which the rows are read. -/
theorem orderBy_congr (hperm : rows.Perm others)
    (hkeys : ∀ a ∈ rows, ∀ b ∈ rows, compareBy keys a b = .eq → a = b) : orderBy keys rows = orderBy keys others := by
  have hsorted : (orderBy keys rows).Perm (orderBy keys others) :=
    orderBy_perm.trans (hperm.trans orderBy_perm.symm)
  refine hsorted.eq_of_pairwise ?_ pairwise_orderBy pairwise_orderBy
  intro a b ha hb hab hba
  exact hkeys a (mem_orderBy.mp ha) b (hperm.mem_iff.mpr (mem_orderBy.mp hb)) (OrientedCmp.isLE_antisymm hab hba)

/-- The first row of an ordered list comes before all of its rows. -/
theorem isLE_of_head?_orderBy {first : Row} (hfirst : (orderBy keys rows).head? = some first) :
    ∀ row ∈ rows, (compareBy keys first row).isLE := by
  intro row hrow
  obtain ⟨rest, hrest⟩ := List.head?_eq_some_iff.mp hfirst
  have hsorted : (first :: rest).Pairwise fun a b ↦ (compareBy keys a b).isLE := by
    rw [← hrest]
    exact pairwise_orderBy
  have hmem : row ∈ first :: rest := by
    rw [← hrest]
    exact mem_orderBy.mpr hrow
  rcases List.mem_cons.mp hmem with rfl | hmem
  · exact ReflCmp.isLE_rfl
  · exact List.rel_of_pairwise_cons hsorted hmem

end OrderBy

/-! ## Windows -/

/-- A row with its number in its partition and the number of rows of its partition. -/
structure Windowed (Row : Type*) where
  row : Row
  number : ℕ
  count : ℕ

/-- `row_number() OVER (PARTITION BY … ORDER BY …)` and `count(*) OVER (PARTITION BY …)` on each row of a
partition -/
def numbered (keys : List (SortKey Row)) (group : List Row) : List (Windowed Row) :=
  (orderBy keys group).zipIdx 1 |>.map fun (row, number) ↦ ⟨row, number, group.length⟩

section Windows

variable [DecidableEq Key] (partitionBy : Row → Key) (keys : List (SortKey Row))

def group (rows : List Row) (value : Key) : List Row := rows.filter (partitionBy · = value)

def window (rows : List Row) : List (Windowed Row) :=
  (rows.map partitionBy).dedup.flatMap fun value ↦ numbered keys (group partitionBy rows value)

def firsts (rows : List Row) : List (Windowed Row) := (window partitionBy keys rows).filter (·.number = 1)

variable {partitionBy keys} {rows others : List Row} {found : Windowed Row}

theorem filter_numbered (rows : List Row) :
    (numbered keys rows).filter (·.number = 1) =
      ((orderBy keys rows).head?.map fun row ↦ ⟨row, 1, rows.length⟩).toList := by
  unfold numbered
  cases orderBy keys rows with
  | nil => rfl
  | cons first rest =>
    have hrest : (rest.zipIdx 2).filter (fun entry ↦ decide (entry.2 = 1)) = [] := by
      rw [List.filter_eq_nil_iff]
      intro entry hentry
      have := List.le_snd_of_mem_zipIdx hentry
      simp only [decide_eq_true_eq]
      omega
    rw [List.zipIdx_cons, List.map_cons, List.filter_cons_of_pos (by simp), List.filter_map]
    simpa [Function.comp_def] using hrest

theorem firsts_eq_flatMap (rows : List Row) :
    firsts partitionBy keys rows = (rows.map partitionBy).dedup.flatMap fun value ↦
      ((orderBy keys (group partitionBy rows value)).head?.map
        fun row ↦ ⟨row, 1, (group partitionBy rows value).length⟩).toList := by
  unfold firsts window
  rw [List.filter_flatMap]
  congr 1
  funext value
  exact filter_numbered _

/-- A first row is one of its partition, before all the rows of which it comes. -/
theorem mem_firsts (hfound : found ∈ firsts partitionBy keys rows) :
    found.row ∈ rows ∧ found.count = (group partitionBy rows (partitionBy found.row)).length ∧
      ∀ row ∈ rows, partitionBy row = partitionBy found.row → (compareBy keys found.row row).isLE := by
  rw [firsts_eq_flatMap, List.mem_flatMap] at hfound
  obtain ⟨value, -, hfound⟩ := hfound
  rw [Option.mem_toList, Option.map_eq_some_iff] at hfound
  obtain ⟨first, hfirst, rfl⟩ := hfound
  have hmem : first ∈ group partitionBy rows value := mem_orderBy.mp (List.mem_of_head? hfirst)
  have hmem' := List.mem_filter.mp hmem
  have hvalue : partitionBy first = value := by simpa using hmem'.2
  subst hvalue
  refine ⟨hmem'.1, rfl, ?_⟩
  intro row hrow hkey
  refine isLE_of_head?_orderBy hfirst row (List.mem_filter.mpr ⟨hrow, ?_⟩)
  simpa using hkey

/-- There is one first row for each value of the partition expression. -/
theorem map_firsts (rows : List Row) :
    (firsts partitionBy keys rows).map (fun found ↦ partitionBy found.row) = (rows.map partitionBy).dedup := by
  rw [firsts_eq_flatMap, List.map_flatMap]
  have hsingle : ∀ value ∈ (rows.map partitionBy).dedup,
      List.map (fun found : Windowed Row ↦ partitionBy found.row)
        ((orderBy keys (group partitionBy rows value)).head?.map
          fun row ↦ (⟨row, 1, (group partitionBy rows value).length⟩ : Windowed Row)).toList = [value] := by
    intro value hvalue
    obtain ⟨row, hrow, hkey⟩ := List.mem_map.mp (List.mem_dedup.mp hvalue)
    have hgroup : row ∈ orderBy keys (group partitionBy rows value) :=
      mem_orderBy.mpr (List.mem_filter.mpr ⟨hrow, by simpa using hkey⟩)
    cases hhead : (orderBy keys (group partitionBy rows value)).head? with
    | none => exact absurd hgroup (by simp [List.head?_eq_none_iff.mp hhead])
    | some first =>
      have hfirst := List.mem_filter.mp (mem_orderBy.mp (List.mem_of_head? hhead))
      simpa using hfirst.2
  rw [List.flatMap_congr hsingle, List.flatMap_singleton']

theorem length_firsts_le (rows : List Row) : (firsts partitionBy keys rows).length ≤ rows.length := by
  calc (firsts partitionBy keys rows).length
      = (rows.map partitionBy).dedup.length := by rw [← map_firsts rows, List.length_map]
    _ ≤ (rows.map partitionBy).length := (List.dedup_sublist _).length_le
    _ = rows.length := List.length_map _

/-- The counts of the first rows add up to the number of rows. -/
theorem sum_count_firsts (rows : List Row) : ((firsts partitionBy keys rows).map Windowed.count).sum = rows.length := by
  have hcount : ∀ found ∈ firsts partitionBy keys rows,
      found.count = (rows.map partitionBy).count (partitionBy found.row) := by
    intro found hfound
    rw [(mem_firsts hfound).2.1, group, ← List.countP_eq_length_filter, List.count, List.countP_map]
    congr 1
  calc ((firsts partitionBy keys rows).map Windowed.count).sum
      = (((firsts partitionBy keys rows).map fun found ↦ partitionBy found.row).map
          fun value ↦ (rows.map partitionBy).count value).sum := by
        rw [List.map_map, List.map_congr_left hcount]
        rfl
    _ = (rows.map partitionBy).length := by
        rw [map_firsts, List.sum_map_count_dedup_eq_length]
    _ = rows.length := List.length_map _

/-- The first rows do not depend on the order in which the rows are read. -/
theorem firsts_perm (hperm : rows.Perm others)
    (hkeys : ∀ a ∈ rows, ∀ b ∈ rows, compareBy keys a b = .eq → a = b) :
    (firsts partitionBy keys rows).Perm (firsts partitionBy keys others) := by
  have hgroup (value : Key) : (group partitionBy rows value).Perm (group partitionBy others value) := hperm.filter _
  have horder (value : Key) :
      orderBy keys (group partitionBy rows value) = orderBy keys (group partitionBy others value) := by
    refine orderBy_congr (hgroup value) ?_
    intro a ha b hb
    exact hkeys a (List.mem_filter.mp ha).1 b (List.mem_filter.mp hb).1
  rw [firsts_eq_flatMap, firsts_eq_flatMap]
  simp only [horder, (hgroup _).length_eq]
  exact ((hperm.map partitionBy).dedup).flatMap_right _

end Windows

/-! ## LIMIT and OFFSET -/

/-- `LIMIT limit OFFSET offset` -/
def page (limit offset : ℕ) (rows : List Row) : List Row := (rows.drop offset).take limit

/-- The first pages make up the rows before the next one. -/
theorem flatMap_page (limit n : ℕ) (rows : List Row) :
    (List.range n).flatMap (fun i ↦ page limit (i * limit) rows) = rows.take (n * limit) := by
  induction n with
  | zero => simp
  | succ n ih =>
    rw [List.range_succ, List.flatMap_append, ih, List.flatMap_singleton, page, Nat.succ_mul, List.take_add]

end TenderPhase1.OrderedRows
