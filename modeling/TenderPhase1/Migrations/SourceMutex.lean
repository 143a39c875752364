import TenderPhase1.Foundation.OrderedRows
import TenderPhase1.Foundation.PyText
import TenderPhase1.Jobs.RowCoherence

/-!
# The migration to one active job per source

Revision 20260322_0011 adds the partial unique index that lets a source have one active job only. Before it
does so it fails the active jobs of a source except the newest one. It is a loop of statements over the sources
with several active jobs, and each of its rounds reads what the rounds before have left.
-/

namespace TenderPhase1.Jobs

open PyText OrderedRows

/-! ## The statements -/

/-- `COALESCE(picked_at, started_at, queued_at, created_at)` -/
def CrawlJob.lastMoved (job : CrawlJob) : Instant := ((job.pickedAt <|> job.startedAt) <|> job.queuedAt).getD job.createdAt

/-- The order of the active rows of a source: newest first, then the highest id. -/
def newestFirst : List (SortKey CrawlJob) :=
  [(SortKey.on compare CrawlJob.lastMoved).desc, (SortKey.on compare CrawlJob.id).desc]

/-- `status IN ('pending', 'running')` in a source -/
def CrawlJob.activeIn (job : CrawlJob) (sourceSiteId : ℕ) : Bool :=
  job.sourceSiteId = sourceSiteId && job.status.isActive

def activeRows (table : List CrawlJob) (sourceSiteId : ℕ) : List CrawlJob :=
  orderBy newestFirst (table.filter (·.activeIn sourceSiteId))

/-- GROUP BY source_site_id HAVING COUNT(*) > 1 -/
def duplicateSourceIds (table : List CrawlJob) : List ℕ :=
  ((table.filter (·.status.isActive)).map CrawlJob.sourceSiteId).dedup.filter fun sourceSiteId ↦
    1 < table.countP (·.activeIn sourceSiteId)

def appendMessage (existing : Option String) (extra : String) : String :=
  let original := strip (existing.getD "")
  if original = "" then extra else original ++ "; " ++ extra

def mutexFailureReason (keepJobId : ℕ) : String := "来源级互斥迁移修复：同一来源仅保留最新活跃任务 #" ++ toString keepJobId

def mutexFailureMessage (keepJobId : ℕ) : String :=
  "run_stage=source_mutex_migration; failure_reason=" ++ mutexFailureReason keepJobId

/-- The columns that `_FAILED_DUPLICATE_UPDATE` sets -/
def CrawlJob.failedDuplicate (job : CrawlJob) (moment : Instant) (message : String) : CrawlJob :=
  { job with
    status := .failed
    startedAt := some ((((job.startedAt <|> job.pickedAt) <|> job.queuedAt) <|> some job.createdAt).getD moment)
    finishedAt := some moment
    heartbeatAt := some (job.heartbeatAt.getD moment)
    timeoutAt := none
    leaseExpiresAt := none
    message := some message }

/-- `WHERE id = :job_id` -/
def updateById (jobId : ℕ) (change : CrawlJob → CrawlJob) (table : List CrawlJob) : List CrawlJob :=
  table.map fun job ↦ if job.id = jobId then change job else job

/-- The loop over the active rows after the newest one, with the messages that were read with them -/
def failDuplicates (moment : Instant) (keepJobId : ℕ) (rows table : List CrawlJob) : List CrawlJob :=
  rows.foldl
    (fun table row ↦
      updateById row.id (·.failedDuplicate moment (appendMessage row.message (mutexFailureMessage keepJobId))) table)
    table

/-- What happens to the active rows that a round has read -/
def keepFirst (moment : Instant) (table : List CrawlJob) : List CrawlJob → List CrawlJob
  | [] | [_] => table
  | kept :: others => failDuplicates moment kept.id others table

/-- One round of `_collapse_legacy_active_duplicates` -/
def collapseSource (moment : Instant) (table : List CrawlJob) (sourceSiteId : ℕ) : List CrawlJob :=
  keepFirst moment table (activeRows table sourceSiteId)

/-- `_collapse_legacy_active_duplicates`, with the sources in the order in which they were read -/
def collapseLegacyActiveDuplicates (moment : Instant) (duplicates : List ℕ) (table : List CrawlJob) : List CrawlJob :=
  if duplicates = [] then table else duplicates.foldl (collapseSource moment) table

/-- `create_index(..., unique=True)` over the active rows. The table does not have the index: it is new, or a
`downgrade`, which only drops the index, came before. -/
def createMutexIndex (table : List CrawlJob) : Except ServiceError (List CrawlJob) :=
  if ((table.filter (·.status.isActive)).map CrawlJob.sourceSiteId).Nodup then .ok table
  else .error (.integrityError "uq_crawl_job_source_active")

/-- `upgrade` -/
def upgradeSourceMutex (moment : Instant) (duplicates : List ℕ) (table : List CrawlJob) :
    Except ServiceError (List CrawlJob) :=
  createMutexIndex (collapseLegacyActiveDuplicates moment duplicates table)

/-! ## What a row becomes -/

/-- A row of a source with these active rows: an active row after the first one is failed, any other row stays. -/
def CrawlJob.settled (job : CrawlJob) (moment : Instant) : List CrawlJob → CrawlJob
  | [] => job
  | kept :: _ =>
      if job.status.isActive ∧ job.id ≠ kept.id then
        job.failedDuplicate moment (appendMessage job.message (mutexFailureMessage kept.id))
      else job

section Rounds

variable {moment : Instant} {table : List CrawlJob} {job kept : CrawlJob} {others : List CrawlJob} {sourceSiteId : ℕ}

theorem mem_activeRows : job ∈ activeRows table sourceSiteId ↔ job ∈ table ∧ job.activeIn sourceSiteId := by
  rw [activeRows, mem_orderBy, List.mem_filter]

theorem activeIn_iff : job.activeIn sourceSiteId ↔ job.sourceSiteId = sourceSiteId ∧ job.status.isActive := by
  rw [CrawlJob.activeIn, Bool.and_eq_true, decide_eq_true_eq]

theorem nodup_ids_activeRows (hids : (table.map CrawlJob.id).Nodup) :
    ((activeRows table sourceSiteId).map CrawlJob.id).Nodup := by
  have hperm : (activeRows table sourceSiteId).Perm (table.filter (·.activeIn sourceSiteId)) := orderBy_perm
  exact ((hperm.map CrawlJob.id).nodup_iff).mpr (hids.sublist (List.filter_sublist.map _))

@[simp]
theorem sourceSiteId_failedDuplicate (message : String) :
    (job.failedDuplicate moment message).sourceSiteId = job.sourceSiteId := rfl

@[simp]
theorem id_settled (rows : List CrawlJob) : (job.settled moment rows).id = job.id := by
  unfold CrawlJob.settled
  split
  · rfl
  · split_ifs <;> rfl

@[simp]
theorem sourceSiteId_settled (rows : List CrawlJob) : (job.settled moment rows).sourceSiteId = job.sourceSiteId := by
  unfold CrawlJob.settled
  split
  · rfl
  · split_ifs <;> rfl

/-- The updates of a round reach each of its rows once, and they find the message that was read. -/
theorem failDuplicates_eq (keepJobId : ℕ) (rows : List CrawlJob) (hrows : (rows.map CrawlJob.id).Nodup)
    (hread : ∀ row ∈ rows, ∀ job ∈ table, job.id = row.id → job.message = row.message) :
    failDuplicates moment keepJobId rows table = table.map fun job ↦
      if job.id ∈ rows.map CrawlJob.id then
        job.failedDuplicate moment (appendMessage job.message (mutexFailureMessage keepJobId))
      else job := by
  induction rows generalizing table with
  | nil =>
    simp [failDuplicates]
  | cons row rows ih =>
    rw [List.map_cons, List.nodup_cons] at hrows
    have hnext : ∀ other ∈ rows, ∀ job ∈ updateById row.id
          (·.failedDuplicate moment (appendMessage row.message (mutexFailureMessage keepJobId))) table,
        job.id = other.id → job.message = other.message := by
      intro other hother job hjob hid
      obtain ⟨before, hbefore, rfl⟩ := List.mem_map.mp hjob
      by_cases hsame : before.id = row.id
      · rw [if_pos hsame] at hid
        exact absurd (List.mem_map.mpr ⟨other, hother, hid.symm.trans hsame⟩) hrows.1
      · rw [if_neg hsame] at hid ⊢
        exact hread other (List.mem_cons_of_mem _ hother) before hbefore hid
    have hstep := ih hrows.2 hnext
    rw [failDuplicates, List.foldl_cons]
    refine hstep.trans ?_
    rw [updateById, List.map_map]
    refine List.map_congr_left fun job hjob ↦ ?_
    by_cases hsame : job.id = row.id
    · have hmessage := hread row List.mem_cons_self job hjob hsame
      have hlater : (job.failedDuplicate moment (appendMessage row.message (mutexFailureMessage keepJobId))).id ∉
          rows.map CrawlJob.id := by
        change job.id ∉ _
        rw [hsame]
        exact hrows.1
      rw [Function.comp_apply, if_pos hsame, if_neg hlater, if_pos (by simp [hsame]), hmessage]
    · have hmem : job.id ∈ (row :: rows).map CrawlJob.id ↔ job.id ∈ rows.map CrawlJob.id := by
        rw [List.map_cons, List.mem_cons]
        exact or_iff_right hsame
      rw [Function.comp_apply, if_neg hsame, if_congr hmem rfl rfl]

theorem keepFirst_cons (kept : CrawlJob) (others : List CrawlJob) :
    keepFirst moment table (kept :: others) = failDuplicates moment kept.id others table := by
  cases others <;> rfl

/-- A round settles the rows of its source. -/
theorem collapseSource_eq (hids : (table.map CrawlJob.id).Nodup) (sourceSiteId : ℕ) :
    collapseSource moment table sourceSiteId = table.map fun job ↦
      if job.sourceSiteId = sourceSiteId then job.settled moment (activeRows table sourceSiteId) else job := by
  have hnodup : ((activeRows table sourceSiteId).map CrawlJob.id).Nodup := nodup_ids_activeRows hids
  have hactive : ∀ job ∈ table, job.sourceSiteId = sourceSiteId ∧ job.status.isActive ↔
      job.id ∈ (activeRows table sourceSiteId).map CrawlJob.id := by
    intro job hjob
    rw [← activeIn_iff]
    constructor
    · exact fun hactive ↦ List.mem_map.mpr ⟨job, mem_activeRows.mpr ⟨hjob, hactive⟩, rfl⟩
    · intro hid
      obtain ⟨row, hrow, hsame⟩ := List.mem_map.mp hid
      obtain ⟨hrow, hactive⟩ := mem_activeRows.mp hrow
      rwa [← List.inj_on_of_nodup_map hids hrow hjob hsame]
  have hread : ∀ row ∈ activeRows table sourceSiteId, ∀ job ∈ table, job.id = row.id → job.message = row.message := by
    intro row hrow job hjob hsame
    rw [List.inj_on_of_nodup_map hids hjob (mem_activeRows.mp hrow).1 hsame]
  rw [collapseSource]
  generalize activeRows table sourceSiteId = rows at hnodup hactive hread
  cases rows with
  | nil => simp [keepFirst, CrawlJob.settled]
  | cons kept others =>
    rw [List.map_cons, List.nodup_cons] at hnodup
    refine (keepFirst_cons kept others).trans ?_
    refine (failDuplicates_eq kept.id others hnodup.2 fun row hrow ↦ hread row (List.mem_cons_of_mem _ hrow)).trans ?_
    refine List.map_congr_left fun job hjob ↦ ?_
    have hduplicate : job.id ∈ others.map CrawlJob.id ↔
        job.sourceSiteId = sourceSiteId ∧ job.status.isActive ∧ job.id ≠ kept.id := by
      rw [← and_assoc, hactive job hjob, List.map_cons, List.mem_cons]
      constructor
      · exact fun hmem ↦ ⟨Or.inr hmem, fun hsame ↦ hnodup.1 (hsame ▸ hmem)⟩
      · exact fun hmem ↦ hmem.1.resolve_left hmem.2
    unfold CrawlJob.settled
    by_cases hsource : job.sourceSiteId = sourceSiteId
    · rw [if_pos hsource]
      exact if_congr (by rw [hduplicate]; exact and_iff_right hsource) rfl rfl
    · rw [if_neg hsource, if_neg (by rw [hduplicate]; exact fun hmem ↦ hsource hmem.1)]

/-- Rows of other sources do not matter to the order of a source's active rows. -/
theorem activeRows_map {change : CrawlJob → CrawlJob} (hsource : ∀ job, (change job).sourceSiteId = job.sourceSiteId)
    (hkeep : ∀ job, job.sourceSiteId = sourceSiteId → change job = job) :
    activeRows (table.map change) sourceSiteId = activeRows table sourceSiteId := by
  have hfilter : (table.map change).filter (·.activeIn sourceSiteId) = table.filter (·.activeIn sourceSiteId) := by
    induction table with
    | nil => rfl
    | cons job table ih =>
      by_cases hjob : job.sourceSiteId = sourceSiteId
      · rw [List.map_cons, hkeep job hjob, List.filter_cons, List.filter_cons, ih]
      · have hinactive : job.activeIn sourceSiteId = false := by simp [CrawlJob.activeIn, hjob]
        have hchanged : (change job).activeIn sourceSiteId = false := by simp [CrawlJob.activeIn, hsource, hjob]
        rw [List.map_cons, List.filter_cons, List.filter_cons, hinactive, hchanged, ih]
        rfl
  rw [activeRows, activeRows, hfilter]

/-- The rows of some sources settled -/
def settledIn (moment : Instant) (table : List CrawlJob) (sources : List ℕ) (job : CrawlJob) : CrawlJob :=
  if job.sourceSiteId ∈ sources then job.settled moment (activeRows table job.sourceSiteId) else job

@[simp]
theorem id_settledIn (sources : List ℕ) : (settledIn moment table sources job).id = job.id := by
  unfold settledIn
  split_ifs <;> simp

@[simp]
theorem sourceSiteId_settledIn (sources : List ℕ) :
    (settledIn moment table sources job).sourceSiteId = job.sourceSiteId := by
  unfold settledIn
  split_ifs <;> simp

theorem map_id_settledIn (sources : List ℕ) (rows : List CrawlJob) :
    (rows.map (settledIn moment table sources)).map CrawlJob.id = rows.map CrawlJob.id := by
  simp only [List.map_map, Function.comp_def, id_settledIn]

/-- The rounds over different sources settle the rows of these. -/
theorem foldl_collapseSource (hids : (table.map CrawlJob.id).Nodup) {sources : List ℕ} (hsources : sources.Nodup) :
    sources.foldl (collapseSource moment) table = table.map (settledIn moment table sources) := by
  induction sources using List.reverseRecOn with
  | nil =>
    have hkeep : settledIn moment table [] = id := funext fun job ↦ if_neg List.not_mem_nil
    rw [hkeep, List.map_id]
    rfl
  | append_singleton sources sourceSiteId ih =>
    rw [List.nodup_append] at hsources
    have hnew : sourceSiteId ∉ sources := fun hmem ↦ hsources.2.2 _ hmem _ (List.mem_singleton_self _) rfl
    have hkept : ((table.map (settledIn moment table sources)).map CrawlJob.id).Nodup := by
      rwa [map_id_settledIn]
    have hactive : activeRows (table.map (settledIn moment table sources)) sourceSiteId =
        activeRows table sourceSiteId := by
      refine activeRows_map (fun job ↦ sourceSiteId_settledIn sources) fun job hjob ↦ ?_
      exact if_neg (hjob ▸ hnew)
    rw [List.foldl_append, ih hsources.1, List.foldl_cons, List.foldl_nil, collapseSource_eq hkept, hactive,
      List.map_map]
    refine List.map_congr_left fun job _ ↦ ?_
    rw [Function.comp_apply, sourceSiteId_settledIn]
    by_cases hjob : job.sourceSiteId = sourceSiteId
    · have hout : settledIn moment table sources job = job := if_neg (hjob ▸ hnew)
      have hin : job.sourceSiteId ∈ sources ++ [sourceSiteId] := by simp [hjob]
      rw [if_pos hjob, hout, settledIn, if_pos hin, hjob]
    · have hmem : job.sourceSiteId ∈ sources ++ [sourceSiteId] ↔ job.sourceSiteId ∈ sources := by simp [hjob]
      rw [if_neg hjob, settledIn, settledIn, if_congr hmem rfl rfl]

/-! ## The whole table -/

/-- A source that is not read has at most one active row, and its rows stay. -/
theorem settled_eq_self (hjob : job ∈ table) (hsingle : job.sourceSiteId ∉ duplicateSourceIds table) :
    job.settled moment (activeRows table job.sourceSiteId) = job := by
  cases hrows : activeRows table job.sourceSiteId with
  | nil => rfl
  | cons kept others =>
    refine if_neg fun hduplicate ↦ ?_
    have hmem : job ∈ activeRows table job.sourceSiteId :=
      mem_activeRows.mpr ⟨hjob, activeIn_iff.mpr ⟨rfl, hduplicate.1⟩⟩
    have hother : job ∈ others := by
      rw [hrows, List.mem_cons] at hmem
      exact hmem.resolve_left fun hsame ↦ hduplicate.2 (congrArg CrawlJob.id hsame)
    have hcount : table.countP (·.activeIn job.sourceSiteId) = (kept :: others).length := by
      rw [← hrows, activeRows, length_orderBy, List.countP_eq_length_filter]
    refine hsingle (List.mem_filter.mpr ⟨?_, decide_eq_true ?_⟩)
    · rw [List.mem_dedup]
      exact List.mem_map.mpr ⟨job, List.mem_filter.mpr ⟨hjob, hduplicate.1⟩, rfl⟩
    · rw [hcount, List.length_cons]
      exact Nat.lt_add_of_pos_left (List.length_pos_of_mem hother)

variable {duplicates : List ℕ}

/-- In whatever order the sources are read, every row is settled. -/
theorem collapse_eq (hids : (table.map CrawlJob.id).Nodup) (hread : duplicates.Perm (duplicateSourceIds table)) :
    collapseLegacyActiveDuplicates moment duplicates table =
      table.map fun job ↦ job.settled moment (activeRows table job.sourceSiteId) := by
  have hnodup : duplicates.Nodup := hread.nodup_iff.mpr ((List.nodup_dedup _).filter _)
  have hloop : collapseLegacyActiveDuplicates moment duplicates table =
      duplicates.foldl (collapseSource moment) table := by
    unfold collapseLegacyActiveDuplicates
    split_ifs with hempty
    · rw [hempty]
      rfl
    · rfl
  rw [hloop, foldl_collapseSource hids hnodup]
  refine List.map_congr_left fun job hjob ↦ ?_
  unfold settledIn
  split_ifs with hmem
  · rfl
  · exact (settled_eq_self hjob fun hin ↦ hmem (hread.mem_iff.mpr hin)).symm

end Rounds

/-! ## One active job -/

/-- The job moved last later than the other one, or as late under a higher id. -/
def CrawlJob.NewerThan (kept job : CrawlJob) : Prop :=
  job.lastMoved < kept.lastMoved ∨ job.lastMoved = kept.lastMoved ∧ job.id < kept.id

/-- What the migration does to a table: of the active jobs of a source the newest one stays and the others fail,
and every row that was not active stays. -/
structure LeavesNewest (moment : Instant) (before after : List CrawlJob) : Prop where
  ids_eq : after.map CrawlJob.id = before.map CrawlJob.id
  mutex : ((after.filter (·.status.isActive)).map CrawlJob.sourceSiteId).Nodup
  newest : ∀ sourceSiteId, (∃ job ∈ before, job.activeIn sourceSiteId) →
    ∃ kept ∈ before, kept.activeIn sourceSiteId ∧ kept ∈ after ∧
      ∀ job ∈ before, job.activeIn sourceSiteId → job ≠ kept → kept.NewerThan job ∧
        job.failedDuplicate moment (appendMessage job.message (mutexFailureMessage kept.id)) ∈ after
  inactive : ∀ job ∈ before, job.status.isFinal → job ∈ after
  coherent : (∀ job ∈ before, job.Coherent) → ∀ job ∈ after, job.Coherent

section Upgrade

variable {moment : Instant} {table : List CrawlJob} {job kept : CrawlJob} {others : List CrawlJob} {sourceSiteId : ℕ}

/-- The first job is the one that moved last, and of several the one with the greatest id. -/
theorem compareBy_newestFirst :
    (compareBy newestFirst kept job).isLE ↔ job.lastMoved < kept.lastMoved ∨
      job.lastMoved = kept.lastMoved ∧ job.id ≤ kept.id := by
  have hsplit : compareBy newestFirst kept job = (compare job.lastMoved kept.lastMoved).then (compare job.id kept.id) := by
    simp only [newestFirst, compareBy, compareLex, SortKey.desc, SortKey.on, Ordering.then_eq]
  rw [hsplit]
  cases hmoved : compare job.lastMoved kept.lastMoved with
  | lt =>
    rw [compare_lt_iff_lt] at hmoved
    simp [hmoved]
  | eq =>
    rw [compare_eq_iff_eq] at hmoved
    simp [hmoved, Nat.isLE_compare]
  | gt =>
    rw [compare_gt_iff_gt] at hmoved
    simp [hmoved.ne', hmoved.le]

/-- The first active row of a source is the newest one. -/
theorem newerThan_of_activeRows (hids : (table.map CrawlJob.id).Nodup)
    (hrows : activeRows table sourceSiteId = kept :: others) (hjob : job ∈ table) (hactive : job.activeIn sourceSiteId)
    (hne : job ≠ kept) : kept.NewerThan job := by
  have hle : (compareBy newestFirst kept job).isLE := by
    refine isLE_of_head?_orderBy (by rw [← activeRows, hrows]; rfl) job ?_
    exact List.mem_filter.mpr ⟨hjob, hactive⟩
  have hkept : kept ∈ table := (mem_activeRows.mp (hrows ▸ List.mem_cons_self)).1
  have hid : job.id ≠ kept.id := fun hsame ↦ hne (List.inj_on_of_nodup_map hids hjob hkept hsame)
  rcases compareBy_newestFirst.mp hle with hlater | ⟨hsame, hid'⟩
  · exact Or.inl hlater
  · exact Or.inr ⟨hsame, lt_of_le_of_ne hid' hid⟩

theorem coherent_failedDuplicate (message : String) : (job.failedDuplicate moment message).Coherent where
  lease := rfl
  pending h := by cases h
  running h := by cases h
  final _ := ⟨by simp [CrawlJob.failedDuplicate], by simp [CrawlJob.failedDuplicate], rfl⟩

theorem activeIn_failedDuplicate (message : String) : (job.failedDuplicate moment message).activeIn sourceSiteId = false := by
  simp [CrawlJob.activeIn, CrawlJob.failedDuplicate, JobStatus.isFinal]

theorem settled_of_isFinal (h : job.status.isFinal) (rows : List CrawlJob) : job.settled moment rows = job := by
  cases rows with
  | nil => rfl
  | cons kept others => exact if_neg fun hduplicate ↦ by simp [h] at hduplicate

theorem settled_eq_or (job : CrawlJob) (moment : Instant) (rows : List CrawlJob) :
    job.settled moment rows = job ∨ ∃ message, job.settled moment rows = job.failedDuplicate moment message := by
  cases rows with
  | nil => exact Or.inl rfl
  | cons kept others =>
    rw [CrawlJob.settled]
    split_ifs
    · exact Or.inr ⟨_, rfl⟩
    · exact Or.inl rfl

/-- A row that is still active is the first one of its source. -/
theorem head_of_activeIn_settled (hjob : job ∈ table)
    (hactive : (job.settled moment (activeRows table job.sourceSiteId)).activeIn sourceSiteId) :
    ∃ kept others, activeRows table sourceSiteId = kept :: others ∧ job.id = kept.id := by
  have hsource : job.sourceSiteId = sourceSiteId := by
    have := (activeIn_iff.mp hactive).1
    rwa [sourceSiteId_settled] at this
  subst hsource
  have hstill : job.status.isActive := by
    by_contra hfinal
    rw [JobStatus.isActive_eq_not_isFinal, Bool.not_eq_true, Bool.not_eq_false'] at hfinal
    rw [settled_of_isFinal hfinal] at hactive
    simp [activeIn_iff, hfinal] at hactive
  have hmem : job ∈ activeRows table job.sourceSiteId := mem_activeRows.mpr ⟨hjob, activeIn_iff.mpr ⟨rfl, hstill⟩⟩
  cases hrows : activeRows table job.sourceSiteId with
  | nil => simp [hrows] at hmem
  | cons kept others =>
    refine ⟨kept, others, rfl, ?_⟩
    by_contra hne
    rw [hrows, CrawlJob.settled, if_pos ⟨hstill, hne⟩, activeIn_failedDuplicate] at hactive
    cases hactive

/-- No two active rows of the settled table have one source. -/
theorem nodup_active_settled (hids : (table.map CrawlJob.id).Nodup) :
    (((table.map fun job ↦ job.settled moment (activeRows table job.sourceSiteId)).filter (·.status.isActive)).map
      CrawlJob.sourceSiteId).Nodup := by
  have hafter : ((table.map fun job ↦ job.settled moment (activeRows table job.sourceSiteId)).filter
      (·.status.isActive)).Nodup := by
    refine List.Nodup.filter _ (List.Nodup.of_map CrawlJob.id ?_)
    simpa only [List.map_map, Function.comp_def, id_settled] using hids
  refine hafter.map_on ?_
  intro first hfirst second hsecond hsource
  obtain ⟨hfirst, hfirstActive⟩ := List.mem_filter.mp hfirst
  obtain ⟨hsecond, hsecondActive⟩ := List.mem_filter.mp hsecond
  obtain ⟨before, hbefore, rfl⟩ := List.mem_map.mp hfirst
  obtain ⟨other, hother, rfl⟩ := List.mem_map.mp hsecond
  obtain ⟨kept, others, hrows, hid⟩ := head_of_activeIn_settled hbefore (activeIn_iff.mpr ⟨rfl, hfirstActive⟩)
  obtain ⟨kept', others', hrows', hid'⟩ := head_of_activeIn_settled hother (activeIn_iff.mpr ⟨rfl, hsecondActive⟩)
  have hkept : kept = kept' := by
    rw [hsource, hrows'] at hrows
    exact (List.cons.inj hrows).1.symm
  have hsame : before = other := List.inj_on_of_nodup_map hids hbefore hother (by rw [hid, hid', hkept])
  rw [hsame]

/-- A table whose rows are settled has its newest active jobs left. -/
theorem leavesNewest_settled (hids : (table.map CrawlJob.id).Nodup) :
    LeavesNewest moment table (table.map fun job ↦ job.settled moment (activeRows table job.sourceSiteId)) where
  ids_eq := by simp only [List.map_map, Function.comp_def, id_settled]
  mutex := nodup_active_settled hids
  newest sourceSiteId hsome := by
    obtain ⟨job, hjob, hactive⟩ := hsome
    have hmem : job ∈ activeRows table sourceSiteId := mem_activeRows.mpr ⟨hjob, hactive⟩
    cases hrows : activeRows table sourceSiteId with
    | nil => simp [hrows] at hmem
    | cons kept others =>
      obtain ⟨hkept, hkeptActive⟩ := mem_activeRows.mp (hrows ▸ List.mem_cons_self : kept ∈ activeRows table sourceSiteId)
      have hsource := (activeIn_iff.mp hkeptActive).1
      refine ⟨kept, hkept, hkeptActive, ?_, ?_⟩
      · refine List.mem_map.mpr ⟨kept, hkept, ?_⟩
        rw [hsource, hrows]
        exact if_neg fun hduplicate ↦ hduplicate.2 rfl
      · intro other hother hotherActive hne
        refine ⟨newerThan_of_activeRows hids hrows hother hotherActive hne, List.mem_map.mpr ⟨other, hother, ?_⟩⟩
        obtain ⟨hotherSource, hstatus⟩ := activeIn_iff.mp hotherActive
        rw [hotherSource, hrows]
        exact if_pos ⟨hstatus, fun hsame ↦ hne (List.inj_on_of_nodup_map hids hother hkept hsame)⟩
  inactive job hjob hfinal := List.mem_map.mpr ⟨job, hjob, settled_of_isFinal hfinal _⟩
  coherent hall := by
    intro job hjob
    obtain ⟨before, hbefore, rfl⟩ := List.mem_map.mp hjob
    rcases settled_eq_or before moment (activeRows table before.sourceSiteId) with hkeep | ⟨message, hfailed⟩
    · rw [hkeep]
      exact hall before hbefore
    · rw [hfailed]
      exact coherent_failedDuplicate message

/-- Where the mutex holds there is nothing to collapse. -/
theorem duplicateSourceIds_eq_nil (hmutex : ((table.filter (·.status.isActive)).map CrawlJob.sourceSiteId).Nodup) :
    duplicateSourceIds table = [] := by
  refine List.filter_eq_nil_iff.mpr fun sourceSiteId _ hcount ↦ ?_
  have hle : ((table.filter (·.status.isActive)).map CrawlJob.sourceSiteId).count sourceSiteId ≤ 1 :=
    List.nodup_iff_count_le_one.mp hmutex sourceSiteId
  have heq : ((table.filter (·.status.isActive)).map CrawlJob.sourceSiteId).count sourceSiteId =
      table.countP (·.activeIn sourceSiteId) := by
    rw [List.count, List.countP_map, List.countP_filter]
    refine List.countP_congr fun job _ ↦ ?_
    simp [CrawlJob.activeIn]
  rw [decide_eq_true_eq] at hcount
  omega

/-- The index can be created over the settled rows. -/
theorem upgradeSourceMutex_eq {duplicates : List ℕ} (hids : (table.map CrawlJob.id).Nodup)
    (hread : duplicates.Perm (duplicateSourceIds table)) :
    upgradeSourceMutex moment duplicates table =
      .ok (table.map fun job ↦ job.settled moment (activeRows table job.sourceSiteId)) := by
  rw [upgradeSourceMutex, collapse_eq hids hread, createMutexIndex, if_pos (nodup_active_settled hids)]

end Upgrade

/-- Whatever the table, the index can be created: of the active jobs of a source the newest one stays, the others
are failed and name it, and a second upgrade, after a downgrade, changes nothing. -/
theorem upgradeSourceMutex_leavesNewest (moment : Instant) (table : List CrawlJob)
    (hids : (table.map CrawlJob.id).Nodup) (duplicates : List ℕ)
    (hread : duplicates.Perm (duplicateSourceIds table)) :
    ∃ after, upgradeSourceMutex moment duplicates table = .ok after ∧ LeavesNewest moment table after ∧
      ∀ again rest, rest.Perm (duplicateSourceIds after) → upgradeSourceMutex again rest after = .ok after := by
  have hleaves : LeavesNewest moment table _ := leavesNewest_settled hids
  refine ⟨_, upgradeSourceMutex_eq hids hread, hleaves, ?_⟩
  intro again rest hrest
  rw [duplicateSourceIds_eq_nil hleaves.mutex] at hrest
  rw [upgradeSourceMutex, collapseLegacyActiveDuplicates, if_pos hrest.eq_nil, createMutexIndex, if_pos hleaves.mutex]

/-- A source with a running job, which has told its stage, and two pending ones, of which the first was queued last. -/
def queuedLast : CrawlJob := .created 2 1 { jobType := .manual } 30 30

def legacyTable : List CrawlJob :=
  let running : CrawlJob :=
    { CrawlJob.created 1 1 { jobType := .manual } 10 10 with
      status := .running
      pickedAt := some 15
      startedAt := some 15
      message := some "run_stage=running; failure_reason=-" }
  [running, queuedLast, .created 3 1 { jobType := .manual } 20 20]

theorem eq_queuedLast {kept : CrawlJob} (hkept : kept ∈ legacyTable)
    (hnewer : queuedLast ≠ kept → kept.NewerThan queuedLast) : kept = queuedLast := by
  have hlatest : ∀ job ∈ legacyTable, job ≠ queuedLast → job.lastMoved < queuedLast.lastMoved := by decide
  by_contra hne
  have hearlier := hlatest kept hkept hne
  rcases hnewer (Ne.symm hne) with hlater | ⟨hequal, -⟩
  · exact absurd hlater hearlier.not_gt
  · exact absurd hequal hearlier.ne'

theorem upgradeSourceMutex_leavesNewest_legacyTable :
    ∃ after, upgradeSourceMutex 100 [1] legacyTable = .ok after ∧ queuedLast ∈ after := by
  have hids : (legacyTable.map CrawlJob.id).Nodup := by decide
  have hread : [1].Perm (duplicateSourceIds legacyTable) := by decide
  obtain ⟨after, hafter, hleaves, -⟩ := upgradeSourceMutex_leavesNewest 100 legacyTable hids [1] hread
  obtain ⟨kept, hkept, -, hstays, hnewer⟩ := hleaves.newest 1 ⟨queuedLast, by decide, by decide⟩
  have hsame := eq_queuedLast hkept fun hne ↦ (hnewer queuedLast (by decide) (by decide) hne).1
  exact ⟨after, hafter, hsame ▸ hstays⟩

end TenderPhase1.Jobs
