import TenderPhase1.Crawler.RecordFrame

/-!
# Errors and sources are only ever appended

No writer changes or removes an error or a source: a call appends to the two tables
or leaves them alone, whether it commits or not.
-/

namespace TenderPhase1.Crawler

open Jobs Sources Raising

/-- The errors and the sources of `before` come first in the tables. -/
structure Db.Extends (before db : Db) : Prop where
  errors : before.errors <+: db.errors
  sources : before.sources <+: db.sources

theorem extends_self (db : Db) : db.Extends db := ⟨List.prefix_rfl, List.prefix_rfl⟩

theorem Db.Extends.trans {first second third : Db} (h : first.Extends second) (hnext : second.Extends third) :
    first.Extends third :=
  ⟨h.errors.trans hnext.errors, h.sources.trans hnext.sources⟩

structure Db.KeysDistinct (db : Db) : Prop where
  errors : (db.errors.map CrawlError.id).Nodup
  sources : (db.sources.map SourceSite.id).Nodup
  sourceCodes : (db.sources.map SourceSite.code).Nodup

/-- A call over the rows of `before`: all of them are still there, committed and in the session. -/
structure Appending (before : Db) (state : CallState) : Prop where
  committed : before.Extends state.committed
  work : state.committed.Extends state.work
  keys : state.committed.KeysDistinct

section Appending

variable {python : Python} {conn : Connection} {item : Item} {sourceSiteId : ℕ} {before : Db}

theorem keeps_appending_update {change : Db → Db} (h : ∀ db : Db, db.Extends (change db)) :
    Keeps (Appending before) (update change) := by
  apply keeps_update
  intro state happending
  exact { happending with work := happending.work.trans (h state.work) }

/-- Looking up a source appends at most the source. -/
theorem keeps_appending_itemSourceSiteId : Keeps (Appending before) (itemSourceSiteId python conn item) := by
  apply keeps_bind (keeps_raisePython _)
  intro sourceUrl
  apply keeps_bind keeps_get
  intro state
  split
  · exact keeps_pure _
  · have hload : Keeps (Appending before)
        (loadSource conn item.writtenSourceCode item.sourceSiteName.asStr sourceUrl) := by
      apply keeps_bind (keeps_scalar _ _)
      intro found
      cases found with
      | some source => exact keeps_pure _
      | none =>
        apply keeps_bind keeps_get
        intro state
        have hinsert : Keeps (Appending before) (update fun db ↦
            { db with sources := db.sources ++ [newSourceSite (conn.nextId (state.work.sources.map SourceSite.id))
              item.writtenSourceCode item.sourceSiteName.asStr sourceUrl] }) :=
          keeps_appending_update fun db ↦ ⟨List.prefix_rfl, List.prefix_append _ _⟩
        exact keeps_bind hinsert fun _ ↦ keeps_bind (keeps_flush _) fun _ ↦ keeps_pure _
    apply keeps_bind hload
    intro id
    have hcache : Keeps (Appending before)
        (modify fun state ↦ { state with sourceCache := (item.writtenSourceCode, id) :: state.sourceCache } : Call Unit) :=
      fun _ happending ↦ { happending with }
    exact keeps_bind hcache fun _ ↦ keeps_pure _

def Db.appendView (db : Db) : List CrawlError × List SourceSite := (db.errors, db.sources)

/-- Storing an item appends to the errors or leaves both tables alone. -/
theorem keeps_extends_store {base : Db} (call : WriterCall) :
    Keeps (fun state ↦ base.Extends state.work) (call.store python conn item sourceSiteId) := by
  have hview {Result : Type} {program : Call Result}
      (h : ∀ seen, Keeps (fun state ↦ state.work.appendView = seen) program) :
      Keeps (fun state ↦ base.Extends state.work) program := by
    intro state hextends
    apply ends_mono (h state.work.appendView state rfl)
    intro outcome after hseen
    obtain ⟨herrors, hsources⟩ := Prod.mk.inj hseen
    exact ⟨herrors ▸ hextends.errors, hsources ▸ hextends.sources⟩
  cases call with
  | rawDocument _ =>
    exact hview fun _ ↦ keeps_view_storeRawDocument Db.appendView (fun _ _ ↦ rfl) fun _ _ ↦ rfl
  | notice _ => exact hview fun _ ↦ keeps_view_storeNotice Db.appendView (fun _ _ ↦ rfl) fun _ _ ↦ rfl
  | noticeVersion _ =>
    exact hview fun _ ↦ keeps_view_storeNoticeVersion Db.appendView (fun _ _ ↦ rfl) (fun _ _ ↦ rfl) fun _ _ ↦ rfl
  | attachment _ =>
    exact hview fun _ ↦ keeps_view_storeAttachment Db.appendView (fun _ _ ↦ rfl) (fun _ _ ↦ rfl) fun _ _ ↦ rfl
  | error _ =>
    have happend : Keeps (fun state ↦ base.Extends state.work) (update fun db ↦
        { db with errors := db.errors ++
          [item.crawlError python conn (conn.nextId (db.errors.map CrawlError.id)) sourceSiteId] }) := by
      apply keeps_update
      intro state hextends
      exact ⟨hextends.errors.trans (List.prefix_append _ _), hextends.sources⟩
    refine keeps_bind happend fun _ ↦ keeps_bind (keeps_recordStats _ ?_) fun _ ↦ keeps_pure true
    exact fun state jobs hextends ↦ ⟨hextends.errors, hextends.sources⟩

/-- The rows of a table that were there come out of a commit as they were. -/
theorem prefix_storedRows {Row : Type} [DecidableEq Row] {stored : Row → Row} {committed work : List Row}
    (h : committed <+: work) : committed <+: storedRows stored committed work := by
  obtain ⟨rest, rfl⟩ := h
  have hkept : committed.map (fun row ↦ if row ∈ committed then row else stored row) = committed.map id := by
    apply List.map_congr_left
    intro row hrow
    exact if_pos hrow
  rw [storedRows, List.map_append, hkept, List.map_id]
  exact List.prefix_append _ _

/-- A commit, whether it succeeds or not, leaves the earlier errors as they are. -/
theorem keeps_appending_commit : Keeps (Appending before) (commit conn) := by
  intro state happending
  rw [ends_commit]
  cases hrefusal : conn.refusal .commit state.work with
  | some error => exact happending
  | none =>
    obtain ⟨-, haccepts⟩ := refusal_eq_none.mp hrefusal
    obtain ⟨hsources, -, -, -, -, herrors, -⟩ := accepts_iff.mp haccepts
    have hstored : state.committed.Extends (Db.stored conn state.committed state.work) :=
      ⟨prefix_storedRows happending.work.errors, happending.work.sources⟩
    refine ⟨happending.committed.trans hstored, extends_self _, ⟨?_, ?_, ?_⟩⟩
    · have hids : (Db.stored conn state.committed state.work).errors.map CrawlError.id =
          state.work.errors.map CrawlError.id := by
        apply map_storedRows
        exact fun _ ↦ rfl
      rw [hids]
      exact herrors
    · exact (of_decide_eq_true hsources).1
    · exact (of_decide_eq_true hsources).2

end Appending

section Runs

variable {python : Python} {context : Context} {before : Db}

/-- Between two calls: what a call leaves. -/
def Context.Appends (before : Db) (context : Context) : Prop :=
  before.Extends context.db ∧ context.db.KeysDistinct

/-- No writer call removes or changes an error. -/
theorem appends_step (event : Connection × WriterCall) (h : context.Appends before) :
    (context.step python event).Appends before := by
  have hopened : Appending before context.opened := ⟨h.1, extends_self _, h.2⟩
  suffices hends : Ends (fun _ after ↦ Appending before after) (event.2.program python event.1) context.opened from
    ⟨hends.committed, hends.keys⟩
  apply ends_program_of_store hopened (fun _ ↦ keeps_appending_itemSourceSiteId) keeps_appending_commit
  intro item found hitem hsource happending
  have hconfined : Confined found.sourceCache context.db found.work.sources (context.sourceIdOf event.1 item) found :=
    ⟨rfl, hsource.committed_eq, rfl, hsource.writesFor⟩
  have hstore : Yields (Confined found.sourceCache context.db found.work.sources (context.sourceIdOf event.1 item))
      (fun reached ↦ event.2.complete item → reached = true)
      (event.2.store python event.1 item (context.sourceIdOf event.1 item)) := yields_confined_store event.2
  apply ends_mono (ends_and (hstore found hconfined) (keeps_extends_store event.2 found happending.work))
  rintro outcome after ⟨hafter, hextends⟩
  have hcommitted : after.committed = found.committed := hafter.1.nothingCommitted.trans hsource.committed_eq.symm
  rw [← hcommitted] at hextends
  exact ⟨hcommitted ▸ happending.committed, hextends, hcommitted ▸ happending.keys⟩

theorem appends_run (events : List (Connection × WriterCall)) (h : context.Appends before) :
    (events.foldl (Context.step python) context).Appends before := by
  induction events generalizing context with
  | nil => exact h
  | cons event events ih => exact ih (appends_step event h)

end Runs

end TenderPhase1.Crawler
