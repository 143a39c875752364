import TenderPhase1.Crawler.Constraints

/-!
# Finding a notice and merging an item into it

What `_resolve_notice` and `_apply_notice_fields` do where they return: the notice
they come to, the one row they change, and the columns it has then.
-/

namespace TenderPhase1.Crawler

open Jobs Raising

section Rules

variable {conn : Connection} {state : CallState}

theorem ensures_flush {post : Unit → CallState → Prop} {stage : Stage}
    (hpost : conn.accepts state.work → post () state) : Ensures post (flush conn stage) state := by
  unfold Ensures
  rw [ends_flush]
  cases hrefusal : conn.refusal stage state.work with
  | some error => exact fun _ h ↦ (nomatch h)
  | none => exact ensures_pure (hpost (refusal_eq_none.mp hrefusal).2)

theorem ensures_update {post : Unit → CallState → Prop} {change : Db → Db}
    (hpost : post () { state with work := change state.work }) : Ensures post (update change) state :=
  ensures_pure hpost

theorem ensures_raisePython {Result : Type} {post : Result → CallState → Prop} {result : Except PyError Result}
    (hpost : ∀ value, result = .ok value → post value state) : Ensures post (raisePython result) state := by
  cases result with
  | error error => exact ensures_throw _
  | ok value => exact ensures_pure (hpost value rfl)

theorem ensures_scalars {Row : Type} {post : List Row → CallState → Prop} {table : Db → List Row}
    {filter : Row → Bool}
    (hpost : conn.accepts state.work → post (conn.answer ((table state.work).filter filter)) state) :
    Ensures post (scalars conn table filter) state := by
  apply ensures_bind
  apply ensures_flush
  intro haccepts
  apply ensures_bind
  exact ensures_get (ensures_pure (hpost haccepts))

theorem ensures_scalar {Row : Type} {post : Option Row → CallState → Prop} {table : Db → List Row}
    {filter : Row → Bool}
    (hpost : conn.accepts state.work → post (conn.answer ((table state.work).filter filter)).head? state) :
    Ensures post (scalar conn table filter) state := by
  apply ensures_bind
  apply ensures_scalars
  intro haccepts
  exact ensures_pure (hpost haccepts)

theorem ensures_commit {post : Unit → CallState → Prop}
    (hpost : conn.accepts state.work →
      post () { state with
        committed := Db.stored conn state.committed state.work
        work := Db.stored conn state.committed state.work }) : Ensures post (commit conn) state := by
  apply ensures_bind
  apply ensures_flush
  intro haccepts
  exact ensures_pure (hpost haccepts)

/-- A program that keeps every invariant changes nothing. -/
theorem ensures_of_reads {Result : Type} {program : Call Result} {post : Result → CallState → Prop}
    (hreads : ∀ inv : CallState → Prop, Keeps inv program) (hpost : ∀ result, post result state) :
    Ensures post program state := by
  intro result _
  have hsame : (program.run.run state).2 = state := hreads (· = state) state rfl
  rw [hsame]
  exact hpost result

end Rules

section Resolve

variable {python : Python} {conn : Connection} {item : Item} {sourceSiteId : ℕ} {state : CallState}

/-! ## The notice of an item -/

/-- One of the item's keys leads to the notice. -/
def Item.leadsTo (item : Item) (sourceSiteId : ℕ) (notice : TenderNotice) : Prop :=
  ∃ query ∈ item.noticeQueries sourceSiteId, query notice

/-- What `_resolve_notice` comes to: a notice that a key leads to, or, where none does, a similar
one, a new one, or none. -/
inductive Resolved (python : Python) (conn : Connection) (item : Item) (sourceSiteId : ℕ) (state : CallState) :
    Option (TenderNotice × Bool) → CallState → Prop where
  | found {notice : TenderNotice} (hmem : notice ∈ state.work.notices) (haccepts : conn.accepts state.work)
      (hsource : notice.sourceSiteId = sourceSiteId)
      (hkey : item.leadsTo sourceSiteId notice ∨ ∀ other ∈ state.work.notices, ¬ item.leadsTo sourceSiteId other) :
      Resolved python conn item sourceSiteId state (some (notice, false)) state
  | created {title : String} (htitle : item.title.asStr = some title)
      (hkey : ∀ other ∈ state.work.notices, ¬ item.leadsTo sourceSiteId other)
      (haccepts : conn.accepts { state.work with notices := state.work.notices ++
        [item.newNotice python (conn.nextId (state.work.notices.map TenderNotice.id)) sourceSiteId title] }) :
      Resolved python conn item sourceSiteId state
        (some (item.newNotice python (conn.nextId (state.work.notices.map TenderNotice.id)) sourceSiteId title, true))
        { state with work := { state.work with notices := state.work.notices ++
          [item.newNotice python (conn.nextId (state.work.notices.map TenderNotice.id)) sourceSiteId title] } }
  | missing (htitle : item.title.asStr = none) : Resolved python conn item sourceSiteId state none state

/-- The first query that matches a notice decides. -/
theorem ensures_firstNotice (queries : List (TenderNotice → Bool)) :
    Ensures (fun found after ↦ after = state ∧ match found with
        | some notice => notice ∈ state.work.notices ∧ conn.accepts state.work ∧ ∃ query ∈ queries, query notice
        | none => ∀ other ∈ state.work.notices, ∀ query ∈ queries, query other = false)
      (firstNotice conn queries) state := by
  induction queries with
  | nil => exact ensures_pure ⟨rfl, fun _ _ _ h ↦ absurd h List.not_mem_nil⟩
  | cons query queries ih =>
    apply ensures_bind
    apply ensures_scalar
    intro haccepts
    cases hfound : (conn.answer (state.work.notices.filter query)).head? with
    | some notice =>
      obtain ⟨hmem, hmatches⟩ := mem_of_head?_answer hfound
      exact ensures_pure ⟨rfl, hmem, haccepts, query, List.mem_cons_self, hmatches⟩
    | none =>
      refine ensures_mono ih ?_
      rintro later after ⟨hsame, hlater⟩
      refine ⟨hsame, ?_⟩
      cases later with
      | some notice =>
        obtain ⟨hmem, haccepts, other, hother, hmatches⟩ := hlater
        exact ⟨hmem, haccepts, other, List.mem_cons_of_mem _ hother, hmatches⟩
      | none =>
        intro other hother asked hasked
        rcases List.mem_cons.mp hasked with rfl | htail
        · exact filter_eq_false_of_head?_answer hfound other hother
        · exact hlater other hother asked htail

/-- A similar notice is one of the same source. -/
theorem ensures_findNoticeByHighSimilarity :
    Ensures (fun found after ↦ after = state ∧ ∀ notice ∈ found, notice ∈ state.work.notices ∧
        conn.accepts state.work ∧ notice.sourceSiteId = sourceSiteId)
      (findNoticeByHighSimilarity python conn sourceSiteId item) state := by
  unfold findNoticeByHighSimilarity
  apply ensures_bind
  apply ensures_raisePython
  intro normalizedDate _
  split
  · apply ensures_bind
    apply ensures_raisePython
    intro bounds _
    apply ensures_bind
    apply ensures_scalars
    intro haccepts
    split
    · exact ensures_pure ⟨rfl, fun _ h ↦ (nomatch h)⟩
    · apply ensures_bind
      apply ensures_raisePython
      intro budget _
      apply ensures_raisePython
      intro found hfound
      refine ⟨rfl, ?_⟩
      intro notice hnotice
      obtain rfl : found = some notice := hnotice
      have hcandidate := (conn.answer_perm _).mem_iff.mp (firstSimilar_mem hfound)
      obtain ⟨hmem, hfilter⟩ := List.mem_filter.mp hcandidate
      simp only [Bool.decide_and, Bool.and_eq_true, decide_eq_true_eq] at hfilter
      exact ⟨hmem, haccepts, hfilter.1⟩
  · exact ensures_pure ⟨rfl, fun _ h ↦ (nomatch h)⟩

/-- Resolving finds a notice that one of the queries matches, or creates one that none matches. -/
theorem ensures_resolveNotice :
    Ensures (Resolved python conn item sourceSiteId state) (resolveNotice python conn item sourceSiteId) state := by
  apply ensures_bind
  refine ensures_mono (ensures_firstNotice _) ?_
  rintro found after ⟨rfl, hfound⟩
  cases found with
  | some notice =>
    obtain ⟨hmem, haccepts, query, hquery, hmatches⟩ := hfound
    exact ensures_pure
      (.found hmem haccepts (sourceSiteId_of_noticeQuery hquery hmatches) (Or.inl ⟨query, hquery, hmatches⟩))
  | none =>
    have hnone (other : TenderNotice) (hother : other ∈ after.work.notices) : ¬ item.leadsTo sourceSiteId other := by
      rintro ⟨query, hquery, hmatches⟩
      rw [hfound other hother query hquery] at hmatches
      cases hmatches
    apply ensures_bind
    refine ensures_mono ensures_findNoticeByHighSimilarity ?_
    rintro similar last ⟨rfl, hsimilar⟩
    cases similar with
    | some notice =>
      obtain ⟨hmem, haccepts, hsource⟩ := hsimilar notice rfl
      exact ensures_pure (.found hmem haccepts hsource (Or.inr hnone))
    | none =>
      dsimp only
      cases htitle : item.title.asStr with
      | none => exact ensures_pure (.missing htitle)
      | some title =>
        apply ensures_bind
        apply ensures_bind
        apply ensures_get
        apply ensures_bind
        apply ensures_update
        apply ensures_bind
        apply ensures_flush
        intro haccepts
        exact ensures_pure (ensures_pure (.created htitle hnone haccepts))

/-! ## Merging -/

/-- What `_resolve_notice` and `_apply_notice_fields` come to: the notice in its row, merged. -/
inductive Merged (python : Python) (conn : Connection) (item : Item) (sourceSiteId : ℕ) (state : CallState) :
    Option (TenderNotice × Bool) → CallState → Prop where
  | merged {notice merged : TenderNotice} {created : Bool} {resolved : CallState}
      (hresolved : Resolved python conn item sourceSiteId state (some (notice, created)) resolved)
      (happlied : notice.applyFields python item = .ok merged) :
      Merged python conn item sourceSiteId state (some (merged, created))
        { resolved with work :=
          { resolved.work with notices := putRow TenderNotice.id merged resolved.work.notices } }
  | missing (htitle : item.title.asStr = none) : Merged python conn item sourceSiteId state none state

/-- The merged notice is the found one with the fields of the item, or a new one. -/
theorem ensures_mergedNotice :
    Ensures (Merged python conn item sourceSiteId state) (mergedNotice python conn item sourceSiteId) state := by
  apply ensures_bind
  refine ensures_mono ensures_resolveNotice ?_
  intro found resolved hresolved
  cases found with
  | none =>
    cases hresolved with
    | missing htitle => exact ensures_pure (.missing htitle)
  | some pair =>
    apply ensures_bind
    apply ensures_raisePython
    intro merged hmerged
    apply ensures_bind
    apply ensures_update
    exact ensures_pure (.merged hresolved hmerged)

end Resolve

end TenderPhase1.Crawler
