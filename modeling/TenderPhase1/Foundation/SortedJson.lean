import TenderPhase1.Foundation.JsonText
import TenderPhase1.Foundation.OrderedRows

/-!
# JSON texts with sorted keys

`json.dumps(value, sort_keys=True)` gives two values the same text exactly where they are equal up to the order of the
keys in their dictionaries.
-/

namespace TenderPhase1.JsonText

open OrderedRows

variable {Float : Type}

def byKey : List (SortKey (String × Value Float)) := [SortKey.on compare Prod.fst]

mutual

/-- The order in which the entries are written. -/
def sortKeys : Value Float → Value Float
  | .list items => .list (sortItems items)
  | .dict entries => .dict (orderBy byKey (sortEntries entries))
  | .null => .null
  | .bool value => .bool value
  | .int value => .int value
  | .float value => .float value
  | .str text => .str text

def sortItems : List (Value Float) → List (Value Float)
  | [] => []
  | item :: items => sortKeys item :: sortItems items

def sortEntries : List (String × Value Float) → List (String × Value Float)
  | [] => []
  | (key, value) :: entries => (key, sortKeys value) :: sortEntries entries

end

mutual

/-- Equality of values as Python has it for dictionaries: the keys stand for the same values. -/
def Same : Value Float → Value Float → Prop
  | .list items, .list others => SameItems items others
  | .dict entries, .dict others => entries.length = others.length ∧ SameEntries entries others
  | .null, .null => True
  | .bool value, .bool other => value = other
  | .int value, .int other => value = other
  | .float value, .float other => value = other
  | .str text, .str other => text = other
  | _, _ => False

def SameItems : List (Value Float) → List (Value Float) → Prop
  | [], [] => True
  | item :: items, other :: others => Same item other ∧ SameItems items others
  | _, _ => False

/-- Every entry of the one has its key in the other. -/
def SameEntries : List (String × Value Float) → List (String × Value Float) → Prop
  | [], _ => True
  | (key, value) :: entries, others =>
    (∃ other, others.lookup key = some other ∧ Same value other) ∧ SameEntries entries others

end

section Sorted

variable {entries others : List (String × Value Float)} {key : String} {value sorted : Value Float}

theorem sortEntries_eq_map (entries : List (String × Value Float)) :
    sortEntries entries = entries.map fun entry ↦ (entry.1, sortKeys entry.2) := by
  induction entries with
  | nil => rfl
  | cons entry entries ih =>
    obtain ⟨key, value⟩ := entry
    rw [sortEntries, ih, List.map_cons]

theorem nodup_keys_sortEntries (h : (entries.map Prod.fst).Nodup) : ((sortEntries entries).map Prod.fst).Nodup := by
  have hkeys : (sortEntries entries).map Prod.fst = entries.map Prod.fst := by
    rw [sortEntries_eq_map, List.map_map]
    rfl
  rwa [hkeys]

theorem mem_sortEntries_iff (hkeys : (entries.map Prod.fst).Nodup) :
    (key, sorted) ∈ sortEntries entries ↔ ∃ value, entries.lookup key = some value ∧ sortKeys value = sorted := by
  rw [sortEntries_eq_map, List.mem_map]
  constructor
  · rintro ⟨⟨first, value⟩, hmem, heq⟩
    obtain ⟨rfl, rfl⟩ := Prod.mk.inj heq
    exact ⟨value, (lookup_eq_some_iff hkeys).mpr hmem, rfl⟩
  · rintro ⟨value, hlookup, rfl⟩
    exact ⟨(key, value), (lookup_eq_some_iff hkeys).mp hlookup, rfl⟩

theorem eq_of_compareBy_byKey {a b : String × Value Float} (h : compareBy byKey a b = .eq) : a.1 = b.1 := by
  have hkey : compare a.1 b.1 = .eq := compareBy_eq_eq.mp h (SortKey.on compare Prod.fst) List.mem_cons_self
  exact Std.LawfulEqCmp.eq_of_compare hkey

/-- Dictionaries are in the same order as soon as they have the same entries. -/
theorem orderBy_byKey_eq_iff (hkeys : (entries.map Prod.fst).Nodup) :
    orderBy byKey entries = orderBy byKey others ↔ entries.length = others.length ∧ entries ⊆ others := by
  constructor
  · intro h
    have hordered : (orderBy byKey entries).Perm others := h.symm ▸ orderBy_perm
    have hperm : entries.Perm others := orderBy_perm.symm.trans hordered
    exact ⟨hperm.length_eq, hperm.subset⟩
  · rintro ⟨hlength, hsubset⟩
    have hperm : entries.Perm others :=
      ((List.subperm_of_subset hkeys.of_map hsubset).perm_of_length_le hlength.ge)
    refine orderBy_congr hperm fun a ha b hb hcompare ↦ ?_
    exact List.inj_on_of_nodup_map hkeys ha hb (eq_of_compareBy_byKey hcompare)

mutual

/-- Sorting leaves the keys distinct. -/
theorem distinct_sortKeys : ∀ value : Value Float, value.Distinct → (sortKeys value).Distinct
  | .list items, h => by
    rw [Value.Distinct] at h
    rw [sortKeys, Value.Distinct]
    exact distinct_sortItems items h
  | .dict entries, h => by
    rw [Value.Distinct] at h
    rw [sortKeys, Value.Distinct]
    refine ⟨?_, ?_⟩
    · exact ((orderBy_perm.map Prod.fst).nodup_iff).mpr (nodup_keys_sortEntries h.1)
    · have hsorted := distinctEntries_iff.mp (distinct_sortEntries entries h.2)
      exact distinctEntries_iff.mpr fun entry hentry ↦ hsorted entry (mem_orderBy.mp hentry)
  | .null, h => h
  | .bool _, h => h
  | .int _, h => h
  | .float _, h => h
  | .str _, h => h

theorem distinct_sortItems : ∀ items : List (Value Float), DistinctItems items → DistinctItems (sortItems items)
  | [], h => h
  | item :: items, h => ⟨distinct_sortKeys item h.1, distinct_sortItems items h.2⟩

theorem distinct_sortEntries : ∀ entries : List (String × Value Float), DistinctEntries entries →
    DistinctEntries (sortEntries entries)
  | [], h => h
  | (_, value) :: entries, h => ⟨distinct_sortKeys value h.1, distinct_sortEntries entries h.2⟩

end

mutual

/-- Sorted values are equal where the values are the same but for the order of their keys. -/
theorem sortKeys_eq_iff : ∀ value other : Value Float, value.Distinct → other.Distinct →
    (sortKeys value = sortKeys other ↔ Same value other)
  | .list items, other, h, hother => by
    cases other with
    | list others =>
      rw [sortKeys, sortKeys, Value.list.injEq, Same]
      exact sortItems_eq_iff items others h hother
    | _ => simp [sortKeys, Same]
  | .dict entries, other, h, hother => by
    cases other with
    | dict others =>
      rw [Value.Distinct] at h hother
      have hsubset := sortEntries_subset_iff entries others h.2 hother.1 hother.2
      have hkeys : ((sortEntries entries).map Prod.fst).Nodup := nodup_keys_sortEntries h.1
      have hlength (entries : List (String × Value Float)) : (sortEntries entries).length = entries.length := by
        rw [sortEntries_eq_map, List.length_map]
      rw [sortKeys, sortKeys, Value.dict.injEq, Same, orderBy_byKey_eq_iff hkeys, hlength, hlength, hsubset]
    | _ => simp [sortKeys, Same]
  | .null, other, _, _ => by cases other <;> simp [sortKeys, Same]
  | .bool _, other, _, _ => by cases other <;> simp [sortKeys, Same]
  | .int _, other, _, _ => by cases other <;> simp [sortKeys, Same]
  | .float _, other, _, _ => by cases other <;> simp [sortKeys, Same]
  | .str _, other, _, _ => by cases other <;> simp [sortKeys, Same]

theorem sortItems_eq_iff : ∀ items others : List (Value Float), DistinctItems items → DistinctItems others →
    (sortItems items = sortItems others ↔ SameItems items others)
  | [], others, _, _ => by cases others <;> simp [sortItems, SameItems]
  | item :: items, others, h, hothers => by
    cases others with
    | nil => simp [sortItems, SameItems]
    | cons other others =>
      rw [sortItems, sortItems, List.cons.injEq, SameItems, sortKeys_eq_iff item other h.1 hothers.1,
        sortItems_eq_iff items others h.2 hothers.2]

theorem sortEntries_subset_iff : ∀ entries others : List (String × Value Float), DistinctEntries entries →
    (others.map Prod.fst).Nodup → DistinctEntries others →
    (sortEntries entries ⊆ sortEntries others ↔ SameEntries entries others)
  | [], others, _, _, _ => by simp [sortEntries, SameEntries]
  | (key, value) :: entries, others, h, hkeys, hothers => by
    rw [sortEntries, SameEntries, List.cons_subset, mem_sortEntries_iff hkeys,
      sortEntries_subset_iff entries others h.2 hkeys hothers]
    refine and_congr_left fun _ ↦ exists_congr fun other ↦ and_congr_right fun hlookup ↦ ?_
    have hother : other.Distinct := distinctEntries_iff.mp hothers _ ((lookup_eq_some_iff hkeys).mp hlookup)
    rw [eq_comm, sortKeys_eq_iff value other h.1 hother]

end

/-- `json.dumps(value, ensure_ascii=False, sort_keys=True, separators=(",", ":"))` -/
def canonicalText (floats : FloatFormat Float) (value : Value Float) : Option (List Char) :=
  write floats compact (sortKeys value)

variable {floats : FloatFormat Float} {other : Value Float} {text : List Char}

theorem canonicalText_eq_of_same (h : value.Distinct) (hother : other.Distinct) (hsame : Same value other) :
    canonicalText floats value = canonicalText floats other := by
  rw [canonicalText, canonicalText, (sortKeys_eq_iff value other h hother).mpr hsame]

/-- The text tells values apart. -/
theorem same_of_canonicalText (h : value.Distinct) (hother : other.Distinct)
    (htext : canonicalText floats value = some text) (hsame : canonicalText floats other = some text) : Same value other :=
  (sortKeys_eq_iff value other h hother).mp
    (write_injective (distinct_sortKeys value h) (distinct_sortKeys other hother) htext hsame)

end Sorted

end TenderPhase1.JsonText
