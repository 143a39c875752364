import TenderPhase1.Crawler.Instances
import TenderPhase1.Crawler.RecordFrame

/-!
# The keys that identify a notice

A writer gives the keys of its item to the notice it finds by the first of them that
leads to one. The external id leads first, so it never belongs to another notice. The
source duplicate key and the hash may: then two notices share the one, or the call
fails on the constraint of the other. Where no other notice holds them, the keys of the
notices of a source stay distinct.
-/

namespace TenderPhase1.Crawler

open Jobs Raising Transition

/-! ## Distinct identities -/

def TenderNotice.duplicateKey (row : TenderNotice) : Option (ℕ × String) :=
  row.sourceDuplicateKey.map (row.sourceSiteId, ·)

/-- The notices of one source differ in each of the three keys that they have. -/
structure DistinctIdentities (notices : List TenderNotice) : Prop where
  unique : uniqueNotices notices
  duplicateKeys : (notices.filterMap TenderNotice.duplicateKey).Nodup

def TenderNotice.identity (notice : TenderNotice) : ℕ × Option String × Option String × Option String :=
  (notice.sourceSiteId, notice.externalId, notice.dedupHash, notice.sourceDuplicateKey)

/-- The notice belongs to the source, and has the key in the column. -/
def TenderNotice.Holds (column : TenderNotice → Option String) (sourceSiteId : ℕ) (key : Option String)
    (notice : TenderNotice) : Prop :=
  notice.sourceSiteId = sourceSiteId ∧ ∃ text, key = some text ∧ column notice = some text

section Rows

variable {rows : List TenderNotice} {notice merged : TenderNotice}

theorem DistinctIdentities.ids_nodup (h : DistinctIdentities rows) : (rows.map TenderNotice.id).Nodup :=
  (uniqueNotices_iff.mp h.unique).1

/-- A row may be replaced by one with the same identity. -/
theorem DistinctIdentities.putRow_of_identity (h : DistinctIdentities rows) (hmem : notice ∈ rows)
    (hid : merged.id = notice.id) (hidentity : merged.identity = notice.identity) :
    DistinctIdentities (putRow TenderNotice.id merged rows) := by
  simp only [TenderNotice.identity, Prod.mk.injEq] at hidentity
  obtain ⟨hsource, hexternal, hhash, hduplicate⟩ := hidentity
  refine ⟨uniqueNotices_putRow h.unique hmem hid ?_ ?_, ?_⟩
  · simp only [TenderNotice.externalIdKey, hsource, hexternal]
  · simp only [TenderNotice.dedupHashKey, hsource, hhash]
  · rw [filterMap_putRow h.ids_nodup hmem hid]
    · exact h.duplicateKeys
    · simp only [TenderNotice.duplicateKey, hsource, hduplicate]

/-- One key of a replaced row: the value of the item where it has one, and no other row of the source
holds that. -/
theorem nodup_keyed_putRow {column : TenderNotice → Option String} {value : Option String}
    (hids : (rows.map TenderNotice.id).Nodup)
    (hkeys : (rows.filterMap fun row ↦ (column row).map (row.sourceSiteId, ·)).Nodup) (hmem : notice ∈ rows)
    (hid : merged.id = notice.id) (hsource : merged.sourceSiteId = notice.sourceSiteId)
    (hcolumn : column merged = (value <|> column notice))
    (hfree : ∀ other ∈ rows, other.id ≠ notice.id → ¬ other.Holds column notice.sourceSiteId value) :
    ((putRow TenderNotice.id merged rows).filterMap fun row ↦ (column row).map (row.sourceSiteId, ·)).Nodup := by
  apply nodup_filterMap_putRow hids hkeys
  intro other hother hne pair hpair hotherPair
  obtain ⟨key, hkey, rfl⟩ := Option.map_eq_some_iff.mp hpair
  obtain ⟨otherKey, hotherKey, hsame⟩ := Option.map_eq_some_iff.mp hotherPair
  obtain ⟨hotherSource, rfl⟩ := Prod.mk.inj hsame
  rw [hid] at hne
  rw [hcolumn] at hkey
  cases hvalue : value with
  | some given =>
    rw [hvalue] at hkey
    exact hfree other hother hne ⟨hotherSource.trans hsource, otherKey, hvalue.trans hkey, hotherKey⟩
  | none =>
    rw [hvalue] at hkey
    apply hne
    refine (nodup_filterMap_iff hids).mp hkeys other hother notice hmem (merged.sourceSiteId, otherKey) ?_ ?_
    · rw [hotherKey, Option.map_some, hotherSource]
    · rw [show column notice = some otherKey from hkey, Option.map_some, hsource]

/-- One key of an appended row that no other row of the source holds. -/
theorem nodup_keyed_append {column : TenderNotice → Option String}
    (hkeys : (rows.filterMap fun row ↦ (column row).map (row.sourceSiteId, ·)).Nodup)
    (hfree : ∀ other ∈ rows, ¬ other.Holds column notice.sourceSiteId (column notice)) :
    ((rows ++ [notice]).filterMap fun row ↦ (column row).map (row.sourceSiteId, ·)).Nodup := by
  apply nodup_filterMap_append hkeys
  intro pair hpair other hother hotherPair
  obtain ⟨key, hkey, rfl⟩ := Option.map_eq_some_iff.mp hpair
  obtain ⟨otherKey, hotherKey, hsame⟩ := Option.map_eq_some_iff.mp hotherPair
  obtain ⟨hsource, rfl⟩ := Prod.mk.inj hsame
  exact hfree other hother ⟨hsource, otherKey, hkey, hotherKey⟩

end Rows

/-! ## The keys of an item -/

/-- No notice of the source but the one with the id holds a key of the item. -/
structure Item.KeysFree (item : Item) (sourceSiteId id : ℕ) (rows : List TenderNotice) : Prop where
  externalId : ∀ other ∈ rows, other.id ≠ id → ¬ other.Holds TenderNotice.externalId sourceSiteId item.resolvedExternalId
  dedupHash : ∀ other ∈ rows, other.id ≠ id → ¬ other.Holds TenderNotice.dedupHash sourceSiteId item.resolvedDedupHash
  sourceDuplicateKey : ∀ other ∈ rows, other.id ≠ id →
    ¬ other.Holds TenderNotice.sourceDuplicateKey sourceSiteId item.sourceDuplicateKey.asStr

/-- The keys of the item belong to two notices of its source: the key that leads to its notice to the
one, and a key that its notice must not share to the other. -/
inductive Item.KeysDisagree (conn : Connection) (item : Item) (sourceSiteId : ℕ) (rows : List TenderNotice) : Prop where
  | externalId {notice other : TenderNotice} (hnotice : notice ∈ rows) (hother : other ∈ rows)
      (hne : other.id ≠ notice.id)
      (hkey : notice.Holds TenderNotice.externalId sourceSiteId item.resolvedExternalId)
      (hheld : other.Holds TenderNotice.sourceDuplicateKey sourceSiteId item.sourceDuplicateKey.asStr ∨
        other.Holds TenderNotice.dedupHash sourceSiteId item.resolvedDedupHash)
  | sourceDuplicateKey {notice other : TenderNotice} (hnotice : notice ∈ rows) (hother : other ∈ rows)
      (hne : other.id ≠ notice.id)
      (hexternal : ∀ row ∈ rows, ¬ row.Holds TenderNotice.externalId sourceSiteId item.resolvedExternalId)
      (hkey : notice.Holds TenderNotice.sourceDuplicateKey sourceSiteId item.sourceDuplicateKey.asStr)
      (hheld : other.Holds TenderNotice.dedupHash sourceSiteId item.resolvedDedupHash)
  | dedupKey {notice other : TenderNotice} {key : String} (hother : other ∈ rows) (hne : other.id ≠ notice.id)
      (hexternal : ∀ row ∈ rows, ¬ row.Holds TenderNotice.externalId sourceSiteId item.resolvedExternalId)
      (hduplicate : ∀ row ∈ rows,
        ¬ row.Holds TenderNotice.sourceDuplicateKey sourceSiteId item.sourceDuplicateKey.asStr)
      (hkey : item.dedupKey.asStr = some key)
      (hfirst : conn.first (fun row ↦ row.sourceSiteId = sourceSiteId && row.dedupKey = some key) rows = some notice)
      (hheld : other.Holds TenderNotice.dedupHash sourceSiteId item.resolvedDedupHash)

section Keys

variable {python : Python} {conn : Connection} {item : Item} {sourceSiteId : ℕ} {rows : List TenderNotice}
  {notice merged other : TenderNotice} {key : Option String}

theorem leadsTo_of_externalId (h : other.Holds TenderNotice.externalId sourceSiteId item.resolvedExternalId) :
    item.leadsTo sourceSiteId other := by
  obtain ⟨hsource, text, hitem, hkey⟩ := h
  refine ⟨fun notice ↦ notice.sourceSiteId = sourceSiteId && notice.externalId = some text, ?_, ?_⟩
  · exact List.mem_filterMap.mpr ⟨_, List.mem_cons_self, congrArg (Option.map _) hitem⟩
  · simp [hsource, hkey]

theorem leadsTo_of_sourceDuplicateKey
    (h : other.Holds TenderNotice.sourceDuplicateKey sourceSiteId item.sourceDuplicateKey.asStr) :
    item.leadsTo sourceSiteId other := by
  obtain ⟨hsource, text, hitem, hkey⟩ := h
  refine ⟨fun notice ↦ notice.sourceSiteId = sourceSiteId && notice.sourceDuplicateKey = some text, ?_, ?_⟩
  · exact List.mem_filterMap.mpr ⟨_, List.mem_cons_of_mem _ List.mem_cons_self, congrArg (Option.map _) hitem⟩
  · simp [hsource, hkey]

theorem leadsTo_of_dedupHash (h : other.Holds TenderNotice.dedupHash sourceSiteId item.resolvedDedupHash) :
    item.leadsTo sourceSiteId other := by
  obtain ⟨hsource, text, hitem, hkey⟩ := h
  refine ⟨fun notice ↦ notice.sourceSiteId = sourceSiteId && notice.dedupHash = some text, ?_, ?_⟩
  · exact List.mem_filterMap.mpr ⟨_, List.mem_cons_of_mem _ (List.mem_cons_of_mem _
      (List.mem_cons_of_mem _ List.mem_cons_self)), congrArg (Option.map _) hitem⟩
  · simp [hsource, hkey]

/-- Where no key of the item leads to a notice, no notice of the source holds one of its keys. -/
theorem keysFree_of_not_leadsTo {id : ℕ} (h : ∀ other ∈ rows, ¬ item.leadsTo sourceSiteId other) :
    item.KeysFree sourceSiteId id rows where
  externalId other hother _ hheld := h other hother (leadsTo_of_externalId hheld)
  dedupHash other hother _ hheld := h other hother (leadsTo_of_dedupHash hheld)
  sourceDuplicateKey other hother _ hheld := h other hother (leadsTo_of_sourceDuplicateKey hheld)

theorem Item.KeysFree.append {id : ℕ} (h : item.KeysFree sourceSiteId id rows) (hid : notice.id = id) :
    item.KeysFree sourceSiteId id (rows ++ [notice]) := by
  have hrow (other : TenderNotice) (hother : other ∈ rows ++ [notice]) (hne : other.id ≠ id) : other ∈ rows := by
    rcases List.mem_append.mp hother with hold | hnew
    · exact hold
    · exact absurd (List.mem_singleton.mp hnew ▸ hid) hne
  exact ⟨fun other hother hne ↦ h.externalId other (hrow other hother hne) hne,
    fun other hother hne ↦ h.dedupHash other (hrow other hother hne) hne,
    fun other hother hne ↦ h.sourceDuplicateKey other (hrow other hother hne) hne⟩

/-- Two notices of a source that hold one key are one notice. -/
theorem id_eq_of_holds {column : TenderNotice → Option String} (hids : (rows.map TenderNotice.id).Nodup)
    (hkeys : (rows.filterMap fun row ↦ (column row).map (row.sourceSiteId, ·)).Nodup) (hnotice : notice ∈ rows)
    (hother : other ∈ rows) (hholds : notice.Holds column sourceSiteId key)
    (hheld : other.Holds column sourceSiteId key) : other.id = notice.id := by
  obtain ⟨hsource, text, rfl, hkey⟩ := hholds
  obtain ⟨hotherSource, same, ⟨⟩, hotherKey⟩ := hheld
  refine (nodup_filterMap_iff hids).mp hkeys other hother notice hnotice (sourceSiteId, text) ?_ ?_
  · rw [hotherKey, Option.map_some, hotherSource]
  · rw [hkey, Option.map_some, hsource]

/-- What the lookup by one key comes to: a notice that holds the key, or none where no notice does. -/
theorem first_holds (conn : Connection) (column : TenderNotice → Option String) (sourceSiteId : ℕ)
    (key : Option String) (rows : List TenderNotice) :
    match (key.map fun text (row : TenderNotice) ↦ row.sourceSiteId = sourceSiteId && column row = some text).bind
        (conn.first · rows) with
    | some notice => notice ∈ rows ∧ notice.Holds column sourceSiteId key
    | none => ∀ row ∈ rows, ¬ row.Holds column sourceSiteId key := by
  cases key with
  | none => exact fun _ _ hheld ↦ by simpa using hheld.2
  | some text =>
    rw [Option.map_some, Option.bind_some]
    split
    · rename_i notice hfirst
      obtain ⟨hmem, hmatches⟩ := mem_of_head?_answer hfirst
      simp only [Bool.and_eq_true, decide_eq_true_eq] at hmatches
      exact ⟨hmem, hmatches.1, text, rfl, hmatches.2⟩
    · rename_i hfirst
      rintro row hrow ⟨hsource, same, ⟨⟩, hkey⟩
      have hmissing := filter_eq_false_of_head?_answer hfirst row hrow
      simp [hsource, hkey] at hmissing

/-- The lookups by the four keys, one after the other. -/
theorem findSome?_noticeQueries (found : (TenderNotice → Bool) → Option TenderNotice) :
    (item.noticeQueries sourceSiteId).findSome? found =
      ((item.resolvedExternalId.map fun text (row : TenderNotice) ↦
          row.sourceSiteId = sourceSiteId && row.externalId = some text).bind found <|>
        (item.sourceDuplicateKey.asStr.map fun text (row : TenderNotice) ↦
          row.sourceSiteId = sourceSiteId && row.sourceDuplicateKey = some text).bind found <|>
        (item.dedupKey.asStr.map fun text (row : TenderNotice) ↦
          row.sourceSiteId = sourceSiteId && row.dedupKey = some text).bind found <|>
        (item.resolvedDedupHash.map fun text (row : TenderNotice) ↦
          row.sourceSiteId = sourceSiteId && row.dedupHash = some text).bind found) := by
  unfold Item.noticeQueries
  generalize item.resolvedExternalId.map _ = external
  generalize item.sourceDuplicateKey.asStr.map _ = duplicate
  generalize item.dedupKey.asStr.map _ = dedup
  generalize item.resolvedDedupHash.map _ = hash
  have hcons (query : Option (TenderNotice → Bool)) (queries : List (Option (TenderNotice → Bool))) :
      ((query :: queries).filterMap id).findSome? found = (query.bind found <|> (queries.filterMap id).findSome? found) := by
    cases query with
    | none => rfl
    | some query =>
      change (query :: queries.filterMap id).findSome? found = _
      rw [List.findSome?_cons, Option.bind_some]
      cases found query <;> rfl
  rw [hcons, hcons, hcons, hcons]
  simp

/-- Where the keys of the item belong to one notice, it may give them to the notice it finds. -/
theorem keysFree_of_noticeIn (h : DistinctIdentities rows)
    (hfound : item.noticeIn python conn sourceSiteId rows = .ok (some notice))
    (hagree : ¬ item.KeysDisagree conn sourceSiteId rows) : item.KeysFree sourceSiteId notice.id rows := by
  obtain ⟨hids, hexternalKeys, hhashKeys⟩ := uniqueNotices_iff.mp h.unique
  have hexternal := first_holds conn TenderNotice.externalId sourceSiteId item.resolvedExternalId rows
  have hduplicate := first_holds conn TenderNotice.sourceDuplicateKey sourceSiteId item.sourceDuplicateKey.asStr rows
  have hhash := first_holds conn TenderNotice.dedupHash sourceSiteId item.resolvedDedupHash rows
  unfold Item.noticeIn at hfound
  rw [findSome?_noticeQueries] at hfound
  -- the first key that leads to a notice decides which key another notice may hold
  cases hfirst : (item.resolvedExternalId.map fun text (row : TenderNotice) ↦
      row.sourceSiteId = sourceSiteId && row.externalId = some text).bind (conn.first · rows) with
  | some first =>
    rw [hfirst] at hexternal hfound
    obtain rfl : first = notice := Option.some.inj (Except.ok.inj hfound)
    obtain ⟨hmem, hkey⟩ := hexternal
    refine ⟨?_, ?_, ?_⟩
    · exact fun other hother hne hheld ↦ hne (id_eq_of_holds hids hexternalKeys hmem hother hkey hheld)
    · exact fun other hother hne hheld ↦ hagree (.externalId hmem hother hne hkey (Or.inr hheld))
    · exact fun other hother hne hheld ↦ hagree (.externalId hmem hother hne hkey (Or.inl hheld))
  | none =>
    rw [hfirst] at hexternal hfound
    cases hsecond : (item.sourceDuplicateKey.asStr.map fun text (row : TenderNotice) ↦
        row.sourceSiteId = sourceSiteId && row.sourceDuplicateKey = some text).bind (conn.first · rows) with
    | some first =>
      rw [hsecond] at hduplicate hfound
      obtain rfl : first = notice := Option.some.inj (Except.ok.inj hfound)
      obtain ⟨hmem, hkey⟩ := hduplicate
      refine ⟨fun other hother _ ↦ hexternal other hother, ?_, ?_⟩
      · exact fun other hother hne hheld ↦ hagree (.sourceDuplicateKey hmem hother hne hexternal hkey hheld)
      · exact fun other hother hne hheld ↦ hne (id_eq_of_holds hids h.duplicateKeys hmem hother hkey hheld)
    | none =>
      rw [hsecond] at hduplicate hfound
      refine ⟨fun other hother _ ↦ hexternal other hother, ?_, fun other hother _ ↦ hduplicate other hother⟩
      intro other hother hne hheld
      cases hthird : (item.dedupKey.asStr.map fun text (row : TenderNotice) ↦
          row.sourceSiteId = sourceSiteId && row.dedupKey = some text).bind (conn.first · rows) with
      | some first =>
        rw [hthird] at hfound
        obtain rfl : first = notice := Option.some.inj (Except.ok.inj hfound)
        obtain ⟨query, hquery, hleads⟩ := Option.bind_eq_some_iff.mp hthird
        obtain ⟨text, hkey, rfl⟩ := Option.map_eq_some_iff.mp hquery
        exact hagree (.dedupKey hother hne hexternal hduplicate hkey hleads hheld)
      | none =>
        rw [hthird] at hfound
        cases hlast : (item.resolvedDedupHash.map fun text (row : TenderNotice) ↦
            row.sourceSiteId = sourceSiteId && row.dedupHash = some text).bind (conn.first · rows) with
        | some first =>
          rw [hlast] at hhash hfound
          obtain rfl : first = notice := Option.some.inj (Except.ok.inj hfound)
          exact hne (id_eq_of_holds hids hhashKeys hhash.1 hother hhash.2 hheld)
        | none =>
          rw [hlast] at hhash
          exact hhash other hother hheld

theorem applyFields_identity (h : notice.applyFields python item = .ok merged) :
    merged.id = notice.id ∧ merged.sourceSiteId = notice.sourceSiteId ∧
      merged.externalId = (item.resolvedExternalId <|> notice.externalId) ∧
      merged.dedupHash = (item.resolvedDedupHash <|> notice.dedupHash) ∧
      merged.sourceDuplicateKey = (item.sourceDuplicateKey.asStr <|> notice.sourceDuplicateKey) := by
  obtain ⟨published, first, latest, rfl⟩ := applyFields_eq_ok h
  exact ⟨rfl, rfl, rfl, rfl, rfl⟩

/-- Merging an item into a notice keeps the identities distinct where the keys of the item are free. -/
theorem DistinctIdentities.merge (h : DistinctIdentities rows) (hmem : notice ∈ rows)
    (hsource : notice.sourceSiteId = sourceSiteId) (happlied : notice.applyFields python item = .ok merged)
    (hfree : item.KeysFree sourceSiteId notice.id rows) :
    DistinctIdentities (putRow TenderNotice.id merged rows) := by
  obtain ⟨hid, hmergedSource, hexternal, hhash, hduplicate⟩ := applyFields_identity happlied
  obtain ⟨hids, hexternalKeys, hhashKeys⟩ := uniqueNotices_iff.mp h.unique
  subst hsource
  refine ⟨uniqueNotices_iff.mpr ⟨?_, ?_, ?_⟩, ?_⟩
  · rw [map_id_putRow]
    exact hids
  · exact nodup_keyed_putRow hids hexternalKeys hmem hid hmergedSource hexternal hfree.externalId
  · exact nodup_keyed_putRow hids hhashKeys hmem hid hmergedSource hhash hfree.dedupHash
  · exact nodup_keyed_putRow hids h.duplicateKeys hmem hid hmergedSource hduplicate hfree.sourceDuplicateKey

/-- A new notice keeps the identities distinct where no notice of the source holds a key of its item. -/
theorem DistinctIdentities.append {title : String} (h : DistinctIdentities rows)
    (hnone : ∀ other ∈ rows, ¬ item.leadsTo sourceSiteId other) :
    DistinctIdentities
      (rows ++ [item.newNotice python (conn.nextId (rows.map TenderNotice.id)) sourceSiteId title]) := by
  obtain ⟨hids, hexternalKeys, hhashKeys⟩ := uniqueNotices_iff.mp h.unique
  refine ⟨uniqueNotices_iff.mpr ⟨?_, ?_, ?_⟩, ?_⟩
  · exact nodup_map_append hids fun other hother ↦ conn.nextId_ne hother
  · exact nodup_keyed_append hexternalKeys fun other hother hheld ↦ hnone other hother (leadsTo_of_externalId hheld)
  · exact nodup_keyed_append hhashKeys fun other hother hheld ↦ hnone other hother (leadsTo_of_dedupHash hheld)
  · exact nodup_keyed_append h.duplicateKeys fun other hother hheld ↦
      hnone other hother (leadsTo_of_sourceDuplicateKey hheld)

end Keys

/-! ## The calls that merge an item -/

section Calls

variable {python : Python} {conn : Connection} {item : Item} {sourceSiteId : ℕ} {state : CallState}
  {notice : TenderNotice}

def CallState.IdentitiesDistinct (state : CallState) : Prop := DistinctIdentities state.work.notices

/-- The identities are distinct, and a row has the id and the identity of the notice. -/
structure CallState.HoldsIdentity (notice : TenderNotice) (state : CallState) : Prop where
  distinct : state.IdentitiesDistinct
  held : ∃ row ∈ state.work.notices, row.id = notice.id ∧ row.identity = notice.identity

theorem CallState.HoldsIdentity.of_notices {after : CallState} (h : state.HoldsIdentity notice)
    (hnotices : after.work.notices = state.work.notices) : after.HoldsIdentity notice := by
  obtain ⟨hdistinct, hheld⟩ := h
  refine ⟨?_, ?_⟩
  · unfold CallState.IdentitiesDistinct
    rw [hnotices]
    exact hdistinct
  · rw [hnotices]
    exact hheld

theorem keeps_holdsIdentity_update {change : Db → Db} (h : ∀ db, (change db).notices = db.notices) :
    Keeps (CallState.HoldsIdentity notice) (update change) := by
  apply keeps_update
  exact fun state hstate ↦ hstate.of_notices (h state.work)

theorem keeps_holdsIdentity_of_records {Result : Type} {program : Call Result}
    (h : ∀ records, Keeps (fun state ↦ state.records = records) program) :
    Keeps (CallState.HoldsIdentity notice) program := by
  intro state hstate
  apply ends_mono (h state.records state rfl)
  exact fun outcome after hrecords ↦ hstate.of_notices (congrArg Prod.fst hrecords)

/-- The row of the notice may be replaced by one with its identity. -/
theorem HoldsIdentity.putRow {put : TenderNotice} (hstate : state.HoldsIdentity notice) (hid : put.id = notice.id)
    (hidentity : put.identity = notice.identity) :
    DistinctIdentities (putRow TenderNotice.id put state.work.notices) ∧
      ∃ row ∈ putRow TenderNotice.id put state.work.notices, row.id = notice.id ∧ row.identity = notice.identity := by
  obtain ⟨hdistinct, row, hrow, hrowId, hrowIdentity⟩ := hstate
  have hsame : put.id = row.id := hid.trans hrowId.symm
  refine ⟨?_, put, mem_putRow hrow hsame, hid, hidentity⟩
  exact DistinctIdentities.putRow_of_identity hdistinct hrow hsame (hidentity.trans hrowIdentity.symm)

theorem keeps_holdsIdentity_putNotice {put : TenderNotice} (hid : put.id = notice.id)
    (hidentity : put.identity = notice.identity) : Keeps (CallState.HoldsIdentity notice) (putNotice put) := by
  apply keeps_update
  intro state hstate
  obtain ⟨hdistinct, hheld⟩ := HoldsIdentity.putRow hstate hid hidentity
  exact ⟨hdistinct, hheld⟩

theorem keeps_holdsIdentity_promoteCurrent (version : NoticeVersion) :
    Keeps (CallState.HoldsIdentity notice) (promoteCurrent version notice) := by
  unfold promoteCurrent
  split
  · apply keeps_update
    intro state hstate
    have hid : ({ notice with currentVersionId := some version.id } : TenderNotice).id = notice.id := rfl
    obtain ⟨hdistinct, hheld⟩ := HoldsIdentity.putRow hstate hid rfl
    exact ⟨hdistinct, hheld⟩
  · exact keeps_pure ()

theorem keeps_holdsIdentity_recordStats (deltas : JobCounters) :
    Keeps (CallState.HoldsIdentity notice) (recordStats python conn item deltas) :=
  keeps_holdsIdentity_of_records fun _ ↦ keeps_records_recordStats deltas

theorem keeps_holdsIdentity_createVersion (noticeId : ℕ) (versionNo : ℤ) :
    Keeps (CallState.HoldsIdentity notice) (createVersion python conn item noticeId versionNo) := by
  unfold createVersion
  split
  · apply keeps_bind keeps_get
    intro state
    refine keeps_bind (keeps_holdsIdentity_update ?_) fun _ ↦ ?_
    · exact fun _ ↦ rfl
    · exact keeps_bind (keeps_flush _) fun _ ↦ keeps_pure _
  · exact keeps_pure none

theorem keeps_holdsIdentity_resolveVersionByNumber (noticeId : ℕ) :
    Keeps (CallState.HoldsIdentity notice) (resolveVersionByNumber python conn item noticeId) := by
  apply keeps_bind (keeps_scalar _ _)
  intro found
  cases found with
  | none => exact keeps_holdsIdentity_createVersion noticeId _
  | some version =>
    dsimp only
    split
    · exact keeps_pure _
    · apply keeps_bind (keeps_flush _)
      intro _
      exact keeps_bind keeps_get fun _ ↦ keeps_holdsIdentity_createVersion noticeId _

theorem keeps_holdsIdentity_resolveNoticeVersion (noticeId : ℕ) :
    Keeps (CallState.HoldsIdentity notice) (resolveNoticeVersion python conn item noticeId) := by
  unfold resolveNoticeVersion
  split
  · exact keeps_holdsIdentity_resolveVersionByNumber noticeId
  · apply keeps_bind (keeps_scalar _ _)
    intro found
    cases found with
    | some version => exact keeps_pure _
    | none => exact keeps_holdsIdentity_resolveVersionByNumber noticeId

theorem widenPublished_identity {published : Option DateTime} {widened : TenderNotice}
    (h : notice.widenPublished published = .ok widened) :
    widened.id = notice.id ∧ widened.identity = notice.identity := by
  obtain ⟨first, latest, rfl⟩ := widenPublished_eq_ok h
  exact ⟨rfl, rfl⟩

/-- Storing a version leaves the identity of its notice. -/
theorem keeps_holdsIdentity_storeFoundVersion (found : NoticeVersion) (created : Bool) :
    Keeps (CallState.HoldsIdentity notice) (storeFoundVersion python conn item sourceSiteId notice found created) := by
  apply keeps_bind (keeps_rawDocumentIdByHash _)
  intro rawDocumentId
  refine keeps_bind (keeps_holdsIdentity_update ?_) fun _ ↦ ?_
  · exact fun _ ↦ rfl
  apply keeps_bind (keeps_flush _)
  intro _
  apply keeps_bind (keeps_holdsIdentity_promoteCurrent _)
  intro _
  apply keeps_bind_raisePython
  intro widened hwidened
  obtain ⟨hid, hidentity⟩ := widenPublished_identity hwidened
  refine keeps_bind (keeps_holdsIdentity_putNotice ?_ ?_) fun _ ↦ ?_
  · rw [hid]
    split <;> rfl
  · rw [hidentity]
    split <;> rfl
  · exact keeps_bind (keeps_holdsIdentity_recordStats _) fun _ ↦ keeps_pure true

/-- Where no key of the item leads to a notice, a new notice may have its keys. -/
theorem upholds_identities_resolveNotice (hdistinct : state.IdentitiesDistinct) :
    Upholds CallState.IdentitiesDistinct (fun found after ↦ Resolved python conn item sourceSiteId state found after ∧
        ∀ notice created, found = some (notice, created) →
          item.noticeIn python conn sourceSiteId state.work.notices = .ok (if created then none else some notice))
      (resolveNotice python conn item sourceSiteId) state := by
  have hkept : Upholds CallState.IdentitiesDistinct (fun _ _ ↦ True) (resolveNotice python conn item sourceSiteId)
      state := by
    apply upholds_bind
    refine (keeps_of_yields (yields_firstNotice _)).upholds (ensures_mono (ensures_firstNotice _) ?_) hdistinct
    rintro found after ⟨rfl, hfound⟩
    cases found with
    | some notice => exact upholds_pure hdistinct trivial
    | none =>
      have hnone (other : TenderNotice) (hother : other ∈ after.work.notices) : ¬ item.leadsTo sourceSiteId other := by
        rintro ⟨query, hquery, hmatches⟩
        rw [hfound other hother query hquery] at hmatches
        cases hmatches
      apply upholds_bind
      refine keeps_findNoticeByHighSimilarity.upholds (ensures_mono ensures_findNoticeByHighSimilarity ?_) hdistinct
      rintro similar last ⟨rfl, -⟩
      cases similar with
      | some notice => exact upholds_pure hdistinct trivial
      | none =>
        dsimp only
        cases item.title.asStr with
        | none => exact upholds_pure hdistinct trivial
        | some title =>
          apply upholds_bind
          apply upholds_bind
          apply upholds_get hdistinct
          apply upholds_bind
          have happended : DistinctIdentities (last.work.notices ++
              [item.newNotice python (conn.nextId (last.work.notices.map TenderNotice.id)) sourceSiteId title]) :=
            DistinctIdentities.append hdistinct hnone
          apply upholds_update happended
          apply upholds_bind
          apply upholds_flush happended
          exact upholds_pure happended (upholds_pure happended trivial)
  exact ⟨hkept.1, ensures_and ensures_resolveNotice ensures_noticeIn⟩

/-- Where its keys belong to one notice, an item is merged into a notice without taking a key from another. -/
theorem upholds_identities_mergedNotice (hdistinct : state.IdentitiesDistinct)
    (hagree : ¬ item.KeysDisagree conn sourceSiteId state.work.notices) :
    Upholds CallState.IdentitiesDistinct (fun found after ↦ ∀ pair, found = some pair → after.HoldsIdentity pair.1)
      (mergedNotice python conn item sourceSiteId) state := by
  apply upholds_bind
  refine upholds_mono (upholds_identities_resolveNotice hdistinct) ?_
  rintro found resolved hresolvedDistinct ⟨hresolved, hin⟩
  cases found with
  | none => exact upholds_pure hresolvedDistinct fun _ h ↦ (nomatch h)
  | some pair =>
    obtain ⟨notice, created⟩ := pair
    obtain ⟨hmem, hsource⟩ := hresolved.mem
    have hfree : item.KeysFree sourceSiteId notice.id resolved.work.notices := by
      cases hresolved with
      | found _ _ _ _ => exact keysFree_of_noticeIn hdistinct (hin notice false rfl) hagree
      | created _ hkey _ => exact (keysFree_of_not_leadsTo hkey).append rfl
    apply upholds_bind
    apply upholds_raisePython hresolvedDistinct
    intro merged hmerged
    have hput := DistinctIdentities.merge hresolvedDistinct hmem hsource hmerged hfree
    have hrow := mem_putRow hmem (applyFields_identity hmerged).1
    apply upholds_bind
    apply upholds_update hput
    refine upholds_pure ?_ ?_
    · exact hput
    · rintro _ ⟨⟩
      exact ⟨hput, merged, hrow, rfl, rfl⟩

/-- The call merges its item into a notice: a notice item that is stored already does not come so far. -/
def WriterCall.Merges (item : Item) (sourceSiteId : ℕ) (db : Db) : WriterCall → Prop
  | .notice _ => item.suppressedIn sourceSiteId db = false
  | .noticeVersion _ | .attachment _ => True
  | .rawDocument _ | .error _ => False

theorem keeps_identities_of_records {Result : Type} {program : Call Result}
    (h : ∀ records, Keeps (fun state ↦ state.records = records) program) :
    Keeps CallState.IdentitiesDistinct program :=
  keeps_of_view h fun records ↦ DistinctIdentities records.1

/-- What comes after the merge keeps the identities where it keeps that of the merged notice. -/
theorem ends_identities_merging {next : Option (TenderNotice × Bool) → Call Bool} (hdistinct : state.IdentitiesDistinct)
    (hagree : ¬ item.KeysDisagree conn sourceSiteId state.work.notices)
    (hnone : Keeps CallState.IdentitiesDistinct (next none))
    (hsome : ∀ pair, Keeps (CallState.HoldsIdentity pair.1) (next (some pair))) :
    Ends (fun _ after ↦ after.IdentitiesDistinct) (mergedNotice python conn item sourceSiteId >>= next) state := by
  rw [ends_bind]
  apply ends_mono (upholds_identities_mergedNotice hdistinct hagree)
  rintro outcome after ⟨hafter, hheld⟩
  cases outcome with
  | error error => exact hafter
  | ok found =>
    cases found with
    | none => exact hnone after hafter
    | some pair =>
      apply ends_mono (hsome pair after (hheld _ rfl pair rfl))
      exact fun outcome last hlast ↦ hlast.distinct

/-- A store whose calls merge only items whose keys belong to one notice keeps the identities distinct. -/
theorem ends_identities_store {call : WriterCall} (hdistinct : state.IdentitiesDistinct)
    (hagree : call.Merges item sourceSiteId state.work → ¬ item.KeysDisagree conn sourceSiteId state.work.notices) :
    Ends (fun _ after ↦ after.IdentitiesDistinct) (call.store python conn item sourceSiteId) state := by
  cases call with
  | rawDocument _ => exact keeps_identities_of_records (fun _ ↦ keeps_records_storeRawDocument) state hdistinct
  | error _ => exact keeps_identities_of_records (fun _ ↦ keeps_records_storeError) state hdistinct
  | notice _ =>
    change Ends _ (storeNotice python conn item sourceSiteId) state
    unfold storeNotice
    rw [ends_bind]
    apply ends_mono (ends_and (keeps_suppressed state hdistinct) ensures_suppressedIn)
    rintro outcome after ⟨hafter, hfound⟩
    cases outcome with
    | error error => exact hafter
    | ok suppressed =>
      obtain ⟨rfl, hsuppressed⟩ := hfound suppressed rfl
      cases suppressed with
      | true =>
        have hcounted : Keeps CallState.IdentitiesDistinct (do
            recordStats python conn item { deduplicatedCount := 1, sourceDuplicatesSuppressed := 1 }
            return true) :=
          keeps_bind (keeps_identities_of_records fun _ ↦ keeps_records_recordStats _) fun _ ↦ keeps_pure true
        exact hcounted after hafter
      | false =>
        refine ends_identities_merging hafter (hagree hsuppressed.symm) (keeps_pure false) fun pair ↦ ?_
        exact keeps_bind (keeps_holdsIdentity_recordStats _) fun _ ↦ keeps_pure true
  | noticeVersion _ =>
    refine ends_identities_merging hdistinct (hagree trivial) (keeps_pure false) fun pair ↦ ?_
    apply keeps_bind (keeps_holdsIdentity_resolveNoticeVersion _)
    intro found
    cases found with
    | none => exact keeps_pure false
    | some found => exact keeps_holdsIdentity_storeFoundVersion _ _
  | attachment _ =>
    refine ends_identities_merging hdistinct (hagree trivial) (keeps_pure false) fun pair ↦ ?_
    apply keeps_bind (keeps_raisePython _)
    intro file
    cases file with
    | none => exact keeps_pure true
    | some file => exact keeps_holdsIdentity_of_records fun _ ↦ keeps_records_storeFile

end Calls

/-! ## Runs -/

/-- No two notices of one source have the same source duplicate key. -/
def Db.DuplicateKeysDistinct (db : Db) : Prop :=
  ∀ notice ∈ db.notices, ∀ other ∈ db.notices, notice.sourceSiteId = other.sourceSiteId →
    notice.sourceDuplicateKey.isSome → notice.sourceDuplicateKey = other.sourceDuplicateKey → notice = other

def Db.DistinctExternalIds (db : Db) : Prop := (db.notices.filterMap TenderNotice.externalIdKey).Nodup

def Db.DistinctDedupHashes (db : Db) : Prop := (db.notices.filterMap TenderNotice.dedupHashKey).Nodup

/-- The call merges an item whose keys belong to two notices. -/
def MergesDisagreeing (python : Python) (context : Context) (event : Connection × WriterCall) : Prop :=
  ∃ item, event.2.normalized python = .ok item ∧
    event.2.Merges item (context.sourceIdOf event.1 item) context.db ∧
      item.KeysDisagree event.1 (context.sourceIdOf event.1 item) context.db.notices

section Runs

variable {python : Python} {conn : Connection} {context : Context} {call : WriterCall} {db : Db}

/-- With unique rows, identities are distinct exactly where no two notices share a key. -/
theorem distinctIdentities_iff (h : uniqueNotices db.notices) :
    DistinctIdentities db.notices ↔ db.DuplicateKeysDistinct := by
  have hids := (uniqueNotices_iff.mp h).1
  have hkeys : (db.notices.filterMap TenderNotice.duplicateKey).Nodup ↔ db.DuplicateKeysDistinct := by
    rw [nodup_filterMap_iff hids]
    constructor
    · intro hnodup notice hnotice other hother hsource hsome hsame
      obtain ⟨key, hkey⟩ := Option.isSome_iff_exists.mp hsome
      refine eq_of_id_eq hids hother hnotice (hnodup notice hnotice other hother (notice.sourceSiteId, key) ?_ ?_)
      · rw [TenderNotice.duplicateKey, hkey, Option.map_some]
      · rw [TenderNotice.duplicateKey, ← hsame, hkey, Option.map_some, hsource]
    · intro hdistinct notice hnotice other hother pair hpair hotherPair
      obtain ⟨key, hkey, rfl⟩ := Option.map_eq_some_iff.mp hpair
      obtain ⟨otherKey, hotherKey, hsame⟩ := Option.map_eq_some_iff.mp hotherPair
      obtain ⟨hsource, rfl⟩ := Prod.mk.inj hsame
      rw [hdistinct notice hnotice other hother hsource.symm]
      · rw [hkey, Option.isSome_some]
      · rw [hkey, hotherKey]
  exact ⟨fun hdistinct ↦ hkeys.mp hdistinct.duplicateKeys, fun hdistinct ↦ ⟨h, hkeys.mpr hdistinct⟩⟩

/-- A commit changes no identity. -/
theorem DistinctIdentities.stored (h : DistinctIdentities db.notices) (conn : Connection) (committed : Db) :
    DistinctIdentities (Db.stored conn committed db).notices := by
  obtain ⟨hunique, hduplicate⟩ := h
  refine ⟨?_, ?_⟩
  · rw [uniqueNotices_iff] at hunique ⊢
    dsimp only [Db.stored]
    rw [map_storedRows, filterMap_storedRows, filterMap_storedRows]
    · exact hunique
    all_goals exact fun _ ↦ rfl
  · dsimp only [Db.stored]
    rw [filterMap_storedRows]
    · exact hduplicate
    · exact fun _ ↦ rfl

theorem keeps_identities_commit : Keeps CallState.IdentitiesDistinct (commit conn) := by
  intro state hdistinct
  rw [ends_commit]
  cases conn.refusal .commit state.work with
  | some error => exact hdistinct
  | none => exact DistinctIdentities.stored hdistinct conn state.committed

theorem suppressedIn_of_records {item : Item} {id : ℕ} {state after : CallState} (h : after.records = state.records) :
    item.suppressedIn id after.work = item.suppressedIn id state.work := by
  obtain ⟨hnotices, hversions⟩ := Prod.mk.inj h
  unfold Item.suppressedIn
  rw [hnotices, hversions]

/-- Whatever source the call finds, what it stores keeps the identities distinct. -/
theorem ends_identities_stored {item : Item} {found : CallState} (hdistinct : DistinctIdentities context.db.notices)
    (hagree : ¬ MergesDisagreeing python context (conn, call)) (hitem : call.normalized python = .ok item)
    (hfound : SourceFound python conn item context.opened (context.sourceIdOf conn item) found) :
    Ends (fun _ after ↦ after.IdentitiesDistinct) (call.store python conn item (context.sourceIdOf conn item)) found := by
  have hrecords := hfound.records_eq
  have hnotices : found.work.notices = context.db.notices := congrArg Prod.fst hrecords
  apply ends_identities_store
  · unfold CallState.IdentitiesDistinct
    rw [hnotices]
    exact hdistinct
  · intro hmerges hdisagree
    rw [hnotices] at hdisagree
    refine hagree ⟨item, hitem, ?_, hdisagree⟩
    cases call with
    | notice _ => exact (suppressedIn_of_records hrecords).symm.trans hmerges
    | noticeVersion _ => trivial
    | attachment _ => trivial
    | rawDocument _ => exact hmerges
    | error _ => exact hmerges

theorem ends_identities_program (hdistinct : DistinctIdentities context.db.notices)
    (hagree : ¬ MergesDisagreeing python context (conn, call)) :
    Ends (fun _ after ↦ after.IdentitiesDistinct) (call.program python conn) context.opened := by
  apply ends_program_of_store
  · exact hdistinct
  · exact fun item ↦ keeps_identities_of_records fun _ ↦ keeps_records_itemSourceSiteId
  · exact keeps_identities_commit
  · exact fun item found hitem hfound _ ↦ ends_identities_stored hdistinct hagree hitem hfound

theorem identities_step (hdistinct : DistinctIdentities context.db.notices)
    (hagree : ¬ MergesDisagreeing python context (conn, call)) :
    DistinctIdentities (context.step python (conn, call)).db.notices := by
  rcases step_cases python context conn call with hkept | ⟨item, found, last, hcommitted⟩
  · rw [hkept]
    exact hdistinct
  · have hlast := ends_identities_stored hdistinct hagree hcommitted.normalized hcommitted.sourceFound
    unfold Ends at hlast
    rw [hcommitted.run] at hlast
    rw [hcommitted.step]
    exact DistinctIdentities.stored hlast conn context.db

end Runs

/-- In every run of which no call merges an item whose keys belong to two notices, after each call no two
notices of a source share a source duplicate key, and no call fails on the constraints of the other two keys. -/
theorem identities_distinct (python : Python) (context : Context) (hunique : context.db.unique)
    (hkeys : context.db.DuplicateKeysDistinct) (events : List (Connection × WriterCall))
    (hagree : Along (Context.step python) (fun before event ↦ ¬ MergesDisagreeing python before event) context events) :
    Along (Context.step python) (fun before event ↦
      (before.step python event).db.DuplicateKeysDistinct ∧ ¬ FailsOn python Db.DistinctExternalIds before event ∧
        ¬ FailsOn python Db.DistinctDedupHashes before event) context events := by
  have hkeep (before : Context) (event : Connection × WriterCall) (hbefore : DistinctIdentities before.db.notices)
      (hevent : ¬ MergesDisagreeing python before event) :
      DistinctIdentities (before.step python event).db.notices := identities_step hbefore hevent
  refine along_of_invariant hkeep ?_ context events
    ((distinctIdentities_iff (unique_iff.mp hunique).2.2.1).mpr hkeys) hagree
  intro before event hbefore hevent
  have hafter := hkeep before event hbefore hevent
  have hends : Ends (fun _ after ↦ after.IdentitiesDistinct) (event.2.program python event.1) before.opened :=
    ends_identities_program hbefore hevent
  refine ⟨(distinctIdentities_iff hafter.unique).mp hafter, ?_, ?_⟩
  · exact not_failsOn_of_ends (ends_mono hends fun _ after hlast ↦ (uniqueNotices_iff.mp hlast.unique).2.1)
  · exact not_failsOn_of_ends (ends_mono hends fun _ after hlast ↦ (uniqueNotices_iff.mp hlast.unique).2.2)

/-- An item of the source a with the three keys. -/
def keyedNotice (externalId sourceDuplicateKey dedupHash : String) : Item where
  sourceCode := some (.str "a")
  title := some (.str "t")
  externalId := some (.str externalId)
  dedupKey := some (.str sourceDuplicateKey)
  sourceDuplicateKey := some (.str sourceDuplicateKey)
  dedupHash := some (.str dedupHash)

/-- Two notices with keys of their own stay apart. -/
theorem identities_distinct_keyed :
    Along (Context.step (plainPython titleDigests)) (fun before event ↦
      (before.step (plainPython titleDigests) event).db.DuplicateKeysDistinct ∧
        ¬ FailsOn (plainPython titleDigests) Db.DistinctExternalIds before event ∧
        ¬ FailsOn (plainPython titleDigests) Db.DistinctDedupHashes before event)
      ⟨[], emptyDb⟩ [(sqlite epoch, .notice (keyedNotice "1" "k" "h")), (sqlite epoch, .notice (keyedNotice "2" "l" "g"))] := by
  have honly (before : Context) (event : Connection × WriterCall)
      (hnotices : ∀ notice ∈ before.db.notices, notice.id = 1) :
      ¬ MergesDisagreeing (plainPython titleDigests) before event := by
    rintro ⟨item, -, -, hdisagree⟩
    have hsame {notice other : TenderNotice} (hnotice : notice ∈ before.db.notices) (hother : other ∈ before.db.notices)
        (hne : other.id ≠ notice.id) : False :=
      hne ((hnotices other hother).trans (hnotices notice hnotice).symm)
    cases hdisagree with
    | externalId hnotice hother hne _ _ => exact hsame hnotice hother hne
    | sourceDuplicateKey hnotice hother hne _ _ _ => exact hsame hnotice hother hne
    | dedupKey hother hne _ _ _ hfirst _ => exact hsame (mem_of_head?_answer hfirst).1 hother hne
  refine identities_distinct (plainPython titleDigests) ⟨[], emptyDb⟩ (by decide) (fun _ h ↦ (nomatch h)) _
    ⟨honly _ _ fun _ h ↦ (nomatch h), honly _ _ ?_, trivial⟩
  decide +kernel

/-- A notice whose external id belongs to the first of two notices and its source duplicate key to the
second: both have that key then. -/
theorem identities_clash_keyed :
    ¬ Along (Context.step (plainPython titleDigests)) (fun before event ↦
      (before.step (plainPython titleDigests) event).db.DuplicateKeysDistinct ∧
        ¬ FailsOn (plainPython titleDigests) Db.DistinctExternalIds before event ∧
        ¬ FailsOn (plainPython titleDigests) Db.DistinctDedupHashes before event)
      ⟨[], emptyDb⟩ [(sqlite epoch, .notice (keyedNotice "1" "k" "h")), (sqlite epoch, .notice (keyedNotice "2" "l" "g")),
        (sqlite epoch, .notice (keyedNotice "1" "l" "f"))] := by
  intro h
  have hrows : ∃ notice ∈ ((((⟨[], emptyDb⟩ : Context).step (plainPython titleDigests)
        (sqlite epoch, .notice (keyedNotice "1" "k" "h"))).step (plainPython titleDigests)
        (sqlite epoch, .notice (keyedNotice "2" "l" "g"))).step (plainPython titleDigests)
        (sqlite epoch, .notice (keyedNotice "1" "l" "f"))).db.notices,
      ∃ other ∈ ((((⟨[], emptyDb⟩ : Context).step (plainPython titleDigests)
        (sqlite epoch, .notice (keyedNotice "1" "k" "h"))).step (plainPython titleDigests)
        (sqlite epoch, .notice (keyedNotice "2" "l" "g"))).step (plainPython titleDigests)
        (sqlite epoch, .notice (keyedNotice "1" "l" "f"))).db.notices,
      notice.id ≠ other.id ∧ notice.sourceSiteId = other.sourceSiteId ∧ notice.sourceDuplicateKey.isSome ∧
        notice.sourceDuplicateKey = other.sourceDuplicateKey := by decide +kernel
  obtain ⟨notice, hnotice, other, hother, hne, hsource, hsome, hkey⟩ := hrows
  exact hne (congrArg TenderNotice.id (h.2.2.1.1 notice hnotice other hother hsource hsome hkey))

end TenderPhase1.Crawler
