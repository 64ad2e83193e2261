import DevHarness.Sql.Versions
import DevHarness.Text.Decimals
import DevHarness.Workbench.PageRoute

/-!
# The validators of pages

Two answers with the same validator show the same page, whenever they were given and
whatever was asked: the validator has the revision of every row that was read, and a
revision of a row is published once.
-/

namespace DevHarness.Workbench

open JsText

/-! ## Publish histories -/

def isPrintedUuid (text : JsString) : Bool :=
  text.length = 36 && text.zipIdx.all fun (u, i) =>
    if i ∈ [8, 13, 18, 23] then u = 0x2D else u ∈ js "0123456789abcdef"

/-- Publishes in the order of their transactions.  The columns of a scope are UUIDs. -/
structure PublishHistory where
  inputs : List PublishInput
  organization_uuid : ∀ input ∈ inputs, isPrintedUuid input.scope.organizationId = true
  project_uuid : ∀ input ∈ inputs, isPrintedUuid input.scope.projectId = true

def publishAll (inputs : List PublishInput) : ProjectionTable :=
  inputs.foldl (fun table input => (ProjectionTable.publish table input).2)
    (Sql.Table.empty Projection.scope)

def PublishHistory.tableAt (history : PublishHistory) (n : ℕ) : ProjectionTable :=
  publishAll (history.inputs.take n)

variable {table : ProjectionTable} {row' : StoredSnapshot} {scopeId : JsString}
  {visibility visibility' : ActorVisibilityScope}

section Histories

variable {input : PublishInput} {inputs : List PublishInput} {scope : WorkbenchProjectionScope}
  {row : Projection}

theorem get_publish_of_ne (hscope : scope ≠ input.scope) :
    (ProjectionTable.publish table input).2.get scope = table.get scope := by
  obtain ⟨⟨result, next⟩, hpublish⟩ :
      ∃ published, ProjectionTable.publish table input = published := ⟨_, rfl⟩
  rw [hpublish]
  cases result with
  | error error => rw [ProjectionTable.publish_error hpublish]
  | ok state =>
      cases ProjectionTable.published_of_publish hpublish with
      | advanced current hcurrent hdigest =>
          rw [ProjectionTable.get_advance]
          simp only [hscope, if_false, Option.map_id']
      | created hdigest =>
          rw [ProjectionTable.get_put]
          exact if_neg hscope

theorem supersedes_publish (table : ProjectionTable) (input : PublishInput) :
    Sql.Table.Supersedes Projection.stored StoredSnapshot.revision
      (ProjectionTable.publish table input).2 table := by
  intro scope row hrow
  by_cases hscope : scope = input.scope
  · subst hscope
    obtain ⟨⟨result, next⟩, hpublish⟩ :
        ∃ published, ProjectionTable.publish table input = published := ⟨_, rfl⟩
    rw [hpublish]
    cases result with
    | error error =>
        rw [ProjectionTable.publish_error hpublish]
        exact ⟨row, hrow, .inl rfl⟩
    | ok state =>
        cases ProjectionTable.published_of_publish hpublish with
        | advanced current hcurrent hdigest =>
            refine ⟨{ row with cursor := input.cursor }, ?_, .inl rfl⟩
            rw [ProjectionTable.get_advance, hrow]
            exact congrArg some (if_pos rfl)
        | created hdigest =>
            refine ⟨_, by rw [ProjectionTable.get_put]; exact if_pos rfl, .inr ?_⟩
            rw [hrow]
            exact Nat.lt_succ_self row.revision
  · exact ⟨row, by rw [get_publish_of_ne hscope, hrow], .inl rfl⟩

theorem publishAll_append (inputs added : List PublishInput) :
    publishAll (inputs ++ added) =
      added.foldl (fun table input => (ProjectionTable.publish table input).2)
        (publishAll inputs) :=
  List.foldl_append

theorem supersedes_publishAll (inputs added : List PublishInput) :
    Sql.Table.Supersedes Projection.stored StoredSnapshot.revision
      (publishAll (inputs ++ added)) (publishAll inputs) := by
  induction added using List.reverseRecOn with
  | nil =>
      rw [List.append_nil]
      exact .refl _
  | append_singleton added input ih =>
      rw [← List.append_assoc, publishAll_append (inputs ++ added) [input]]
      exact (supersedes_publish _ input).trans ih

theorem PublishHistory.supersedes (history : PublishHistory) {m n : ℕ} (h : m ≤ n) :
    Sql.Table.Supersedes Projection.stored StoredSnapshot.revision
      (history.tableAt n) (history.tableAt m) := by
  obtain ⟨added, hadded⟩ := List.take_prefix_take_left (l := history.inputs) h
  rw [tableAt, ← hadded]
  exact supersedes_publishAll _ _

theorem exists_input_of_get (hrow : (publishAll inputs).get scope = some row) :
    ∃ input ∈ inputs, input.scope = scope := by
  induction inputs using List.reverseRecOn generalizing scope row with
  | nil => cases hrow
  | append_singleton inputs input ih =>
      rw [publishAll_append] at hrow
      by_cases hscope : input.scope = scope
      · exact ⟨input, by simp, hscope⟩
      · have hold : (publishAll inputs).get scope = some row := by
          rw [← get_publish_of_ne (Ne.symm hscope)]
          exact hrow
        obtain ⟨other, hother, hsame⟩ := ih hold
        exact ⟨other, List.mem_append_left _ hother, hsame⟩

theorem PublishHistory.uuid_of_get {history : PublishHistory} {n : ℕ}
    (hrow : (history.tableAt n).get scope = some row) :
    isPrintedUuid scope.organizationId = true ∧ isPrintedUuid scope.projectId = true := by
  obtain ⟨input, hinput, rfl⟩ := exists_input_of_get hrow
  have hmem := List.mem_of_mem_take hinput
  exact ⟨history.organization_uuid input hmem, history.project_uuid input hmem⟩

end Histories

section Tags

variable {text : JsString} {row : StoredSnapshot} {u : UInt16}

theorem mem_of_isPrintedUuid (h : isPrintedUuid text = true) (hu : u ∈ text) :
    u ∈ js "0123456789abcdef-" := by
  obtain ⟨i, hi, rfl⟩ := List.mem_iff_getElem.mp hu
  have hall := (Bool.and_eq_true _ _ ▸ h : _ ∧ _).2
  have hunit := List.all_eq_true.mp hall (text[i], i)
    (by rw [List.mem_zipIdx_iff_getElem?]; exact List.getElem?_eq_getElem hi)
  simp only at hunit
  split at hunit
  · rw [decide_eq_true_eq.mp hunit]
    decide
  · have hsub : ∀ u ∈ js "0123456789abcdef", u ∈ js "0123456789abcdef-" := by decide
    exact hsub _ (decide_eq_true_eq.mp hunit)

theorem not_mem_of_isPrintedUuid (h : isPrintedUuid text = true) :
    0x2F ∉ text ∧ 0x3A ∉ text ∧ 0x7C ∉ text := by
  have hnot : ∀ u ∈ js "0123456789abcdef-", u ≠ 0x2F ∧ u ≠ 0x3A ∧ u ≠ 0x7C := by decide
  refine ⟨fun hu => ?_, fun hu => ?_, fun hu => ?_⟩
  · exact (hnot _ (mem_of_isPrintedUuid h hu)).1 rfl
  · exact (hnot _ (mem_of_isPrintedUuid h hu)).2.1 rfl
  · exact (hnot _ (mem_of_isPrintedUuid h hu)).2.2 rfl

theorem not_mem_js_toString (hu : 0x39 < u.toNat) (n : ℕ) : u ∉ js (toString n) := by
  intro hmem
  have hle := (isDecimal_of_mem hmem).2
  omega

theorem bar_not_mem_padded (width value : ℕ) : 0x7C ∉ padded width value := by
  rw [padded, List.mem_append]
  rintro (h | h)
  · exact absurd (List.eq_of_mem_replicate h) (by decide)
  · exact not_mem_js_toString (by decide) value h

theorem bar_not_mem_toISOString (date : ℤ) : 0x7C ∉ toISOString date := by
  have hyear : ∀ year, 0x7C ∉ isoYear year := by
    intro year
    unfold isoYear
    split
    · exact bar_not_mem_padded _ _
    · rw [List.mem_append]
      rintro (h | h)
      · split at h <;> exact absurd h (by decide)
      · exact bar_not_mem_padded _ _ h
  have hsign : ∀ sign ∈ ["-", "T", ":", ".", "Z"], 0x7C ∉ js sign := by decide
  have happend : ∀ {a b c : JsString}, 0x7C ∉ a → 0x7C ∉ b → 0x7C ∉ c → 0x7C ∉ a ++ b ++ c := by
    intro a b c ha hb hc
    exact List.not_mem_append (List.not_mem_append ha hb) hc
  have hdate := happend (happend (hyear (civilDate (date / 86400000)).year)
    (hsign "-" (by decide)) (bar_not_mem_padded 2 (civilDate (date / 86400000)).month))
    (hsign "-" (by decide)) (bar_not_mem_padded 2 (civilDate (date / 86400000)).day)
  have hhour := happend hdate (hsign "T" (by decide))
    (bar_not_mem_padded 2 ((date % 86400000).toNat / 3600000))
  have hminute := happend hhour (hsign ":" (by decide))
    (bar_not_mem_padded 2 ((date % 86400000).toNat / 60000 % 60))
  have hsecond := happend hminute (hsign ":" (by decide))
    (bar_not_mem_padded 2 ((date % 86400000).toNat / 1000 % 60))
  have hmillisecond := happend hsecond (hsign "." (by decide))
    (bar_not_mem_padded 3 ((date % 86400000).toNat % 1000))
  exact List.not_mem_append hmillisecond (hsign "Z" (by decide))

def StoredSnapshot.cacheTag (row : StoredSnapshot) : JsString :=
  row.scope.organizationId ++ js "/" ++ row.scope.projectId ++ js ":" ++
    js (toString row.revision) ++ js ":" ++ toISOString row.generatedAt

theorem StoredSnapshot.cacheTag_eq (row : StoredSnapshot) : row.cacheTag =
    row.scope.organizationId ++ 0x2F :: (row.scope.projectId ++ 0x3A ::
      (js (toString row.revision) ++ 0x3A :: toISOString row.generatedAt)) := by
  have hslash : js "/" = [0x2F] := by decide
  have hcolon : js ":" = [0x3A] := by decide
  simp only [StoredSnapshot.cacheTag, hslash, hcolon, List.append_assoc, List.cons_append,
    List.nil_append]

structure PrintedScope (row : StoredSnapshot) : Prop where
  organization : isPrintedUuid row.scope.organizationId = true
  project : isPrintedUuid row.scope.projectId = true

theorem PrintedScope.bar_not_mem (h : PrintedScope row) : 0x7C ∉ row.cacheTag := by
  have horganization := (not_mem_of_isPrintedUuid h.organization).2.2
  have hproject := (not_mem_of_isPrintedUuid h.project).2.2
  have hrevision := not_mem_js_toString (u := 0x7C) (by decide) row.revision
  have hdate := bar_not_mem_toISOString row.generatedAt
  rw [StoredSnapshot.cacheTag_eq]
  simp only [List.mem_append, List.mem_cons, not_or]
  exact ⟨horganization, by decide, hproject, by decide, hrevision, by decide, hdate⟩

theorem PrintedScope.eq_of_cacheTag (h : PrintedScope row) (h' : PrintedScope row')
    (htag : row.cacheTag = row'.cacheTag) :
    row.scope.organizationId = row'.scope.organizationId ∧
      row.scope.projectId = row'.scope.projectId ∧ row.revision = row'.revision := by
  rw [StoredSnapshot.cacheTag_eq, StoredSnapshot.cacheTag_eq] at htag
  obtain ⟨horganization, htag⟩ := append_separator_inj_left
    (not_mem_of_isPrintedUuid h.organization).1 (not_mem_of_isPrintedUuid h'.organization).1 htag
  obtain ⟨hproject, htag⟩ := append_separator_inj_left
    (not_mem_of_isPrintedUuid h.project).2.1 (not_mem_of_isPrintedUuid h'.project).2.1 htag
  obtain ⟨hrevision, -⟩ := append_separator_inj_left
    (not_mem_js_toString (by decide) _) (not_mem_js_toString (by decide) _) htag
  exact ⟨horganization, hproject, js_toString_injective hrevision⟩

end Tags

section EqualTags

variable {history : PublishHistory} {m n : ℕ} {snapshot : StoredSnapshot} {row : StoredSnapshot}

theorem cacheTag_eq_join (snapshots : List StoredSnapshot) :
    cacheTag snapshots = join [0x7C] (snapshots.map StoredSnapshot.cacheTag) := by
  have hbar : js "|" = [0x7C] := by decide
  rw [cacheTag, hbar]
  rfl

/-- Lists with the same images are equal, where the images tell their members apart. -/
theorem eq_of_map_eq {α β : Type} {f : α → β} {l l' : List α}
    (hinj : ∀ a ∈ l, ∀ b ∈ l', f a = f b → a = b) (h : l.map f = l'.map f) : l = l' := by
  induction l generalizing l' with
  | nil => exact (List.map_eq_nil_iff.mp h.symm).symm
  | cons a l ih =>
      cases l' with
      | nil => cases h
      | cons b l' =>
          obtain ⟨hhead, htail⟩ := List.cons.inj h
          have hab := hinj a List.mem_cons_self b List.mem_cons_self hhead
          have hrest := ih (fun c hc d hd => hinj c (List.mem_cons_of_mem a hc) d
            (List.mem_cons_of_mem b hd)) htail
          rw [hab, hrest]

theorem printedScope_of_mem
    (h : snapshot ∈ visibleSnapshots scopeId visibility (history.tableAt n)) :
    PrintedScope snapshot := by
  obtain ⟨-, row, hrow, -⟩ := mem_visibleSnapshots.mp h
  obtain ⟨horganization, hproject⟩ := PublishHistory.uuid_of_get hrow
  exact ⟨horganization, hproject⟩

theorem scopeId_of_mem {table : ProjectionTable}
    (h : snapshot ∈ visibleSnapshots scopeId visibility table) : snapshot.scope.scopeId = scopeId :=
  (of_decide_eq_true (mem_visibleSnapshots.mp h).1).1

theorem eq_of_cacheTag_of_le (hle : m ≤ n)
    (hrow : row ∈ visibleSnapshots scopeId visibility (history.tableAt m))
    (hrow' : row' ∈ visibleSnapshots scopeId visibility' (history.tableAt n))
    (htag : row.cacheTag = row'.cacheTag) : row = row' := by
  obtain ⟨horganization, hproject, hrevision⟩ :=
    (printedScope_of_mem hrow).eq_of_cacheTag (printedScope_of_mem hrow') htag
  have hscope : row.scope = row'.scope := by
    have hscopeId := (scopeId_of_mem hrow).trans (scopeId_of_mem hrow').symm
    cases hfirst : row.scope
    cases hsecond : row'.scope
    simp_all
  obtain ⟨-, stored, hget, rfl⟩ := mem_visibleSnapshots.mp hrow
  obtain ⟨-, stored', hget', rfl⟩ := mem_visibleSnapshots.mp hrow'
  rw [← hscope] at hget'
  exact (history.supersedes hle).read_eq hget hget' hrevision

theorem eq_of_cacheTag (hrow : row ∈ visibleSnapshots scopeId visibility (history.tableAt m))
    (hrow' : row' ∈ visibleSnapshots scopeId visibility' (history.tableAt n))
    (htag : row.cacheTag = row'.cacheTag) : row = row' := by
  rcases Nat.le_total m n with hle | hle
  · exact eq_of_cacheTag_of_le hle hrow hrow' htag
  · exact (eq_of_cacheTag_of_le hle hrow' hrow htag.symm).symm

theorem visibleSnapshots_eq_of_cacheTag
    (h : cacheTag (visibleSnapshots scopeId visibility (history.tableAt m)) =
      cacheTag (visibleSnapshots scopeId visibility' (history.tableAt n))) :
    visibleSnapshots scopeId visibility (history.tableAt m) =
      visibleSnapshots scopeId visibility' (history.tableAt n) := by
  have hfree : ∀ {visibility : ActorVisibilityScope} {n : ℕ},
      ∀ tag ∈ (visibleSnapshots scopeId visibility (history.tableAt n)).map
        StoredSnapshot.cacheTag, 0x7C ∉ tag ∧ tag ≠ [] := by
    intro visibility n tag htag
    obtain ⟨row, hrow, rfl⟩ := List.mem_map.mp htag
    refine ⟨(printedScope_of_mem hrow).bar_not_mem, ?_⟩
    rw [StoredSnapshot.cacheTag_eq]
    simp
  rw [cacheTag_eq_join, cacheTag_eq_join] at h
  exact eq_of_map_eq (fun row hrow row' hrow' => eq_of_cacheTag hrow hrow')
    (join_inj hfree hfree h)

end EqualTags

section Validators

variable {table' : ProjectionTable} {query : WorkbenchQuery} {result : WorkbenchPage}

theorem bar_not_mem_toBase36 (n : ℕ) : 0x7C ∉ toBase36 n := by
  have hdigit : ∀ d < 36, 0x7C ≠ base36Digit d := by decide
  unfold toBase36
  split
  · simpa using hdigit 0 (by decide)
  · rw [List.mem_reverse, List.mem_map]
    rintro ⟨d, hd, hsame⟩
    exact hdigit d (Nat.digits_lt_base (by decide) hd) hsame.symm

theorem validatorText_inj {tag tag' : JsString} {params params' : SearchParams}
    (h : validatorText visibility tag params = validatorText visibility' tag' params') :
    tag = tag' ∧ params = params' := by
  have hbar : js "|" = [0x7C] := by decide
  have hfields : ∀ visibility tag params, validatorText visibility tag params =
      visibilityScopeKey visibility ++ 0x7C :: (tag ++ 0x7C :: params.text) := by
    intro visibility tag params
    simp only [validatorText, hbar, join, List.append_assoc, List.cons_append, List.nil_append]
  rw [hfields, hfields] at h
  obtain ⟨-, hrest⟩ := append_separator_inj_left (bar_not_mem_toBase36 _)
    (bar_not_mem_toBase36 _) h
  obtain ⟨htag, htext⟩ := append_separator_inj_right (SearchParams.bar_not_mem_text params)
    (SearchParams.bar_not_mem_text params') hrest
  exact ⟨htag, SearchParams.text_injective htext⟩

theorem etagOf_injective : Function.Injective etagOf := by
  intro hash hash' h
  exact List.append_cancel_left (List.append_cancel_right h)

theorem getWorkbench_congr (hvisible : visibleSnapshots scopeId visibility table =
      visibleSnapshots scopeId visibility' table') :
    getWorkbench scopeId table false visibility query =
      getWorkbench scopeId table' false visibility' query := by
  have hpage : ∀ offset limit,
      readPage table ⟨scopeId, visibility, query.goalId, query.filter, offset, limit⟩ =
        readPage table' ⟨scopeId, visibility', query.goalId, query.filter, offset, limit⟩ := by
    intro offset limit
    rw [readPage, readPage, hvisible]
    rfl
  unfold getWorkbench
  simp only [hpage]

/-- A page is only read when the database does not fail, and it has the tag of the rows. -/
theorem getWorkbench_ok {databaseFails : Bool}
    (h : getWorkbench scopeId table databaseFails visibility query = .ok result) :
    databaseFails = false ∧
      result.cacheTag = cacheTag (visibleSnapshots scopeId visibility table) := by
  unfold getWorkbench at h
  simp only at h
  split at h
  · cases h
  · split at h
    · cases h
    · split at h
      · cases h
      · next hserved =>
        split at h
        · cases h
        · refine ⟨Bool.eq_false_iff.mpr fun hfails => hserved (.inl hfails), ?_⟩
          rw [← Except.ok.inj h]
          rfl

def WorkbenchCall.unconditional (call : WorkbenchCall) : WorkbenchCall :=
  { call with ifNoneMatch := none }

def hashedText (scopeId : JsString) (table : ProjectionTable) (call : WorkbenchCall) :
    Option JsString :=
  match parseQuery call.params, call.visibility with
  | .ok query, some visibility =>
    (getWorkbench scopeId table call.databaseFails visibility query).toOption.map fun result =>
      validatorText visibility result.cacheTag call.params
  | _, _ => none

/-- The page that the validator of a call is about. -/
structure ValidatedPage (responseHash : JsString → JsString) (scopeId : JsString)
    (table : ProjectionTable) (call : WorkbenchCall) (etag : JsString)
    (visibility : ActorVisibilityScope) (query : WorkbenchQuery) (result : WorkbenchPage) :
    Prop where
  query_parsed : parseQuery call.params = .ok query
  read : getWorkbench scopeId table false visibility query = .ok result
  hashed : hashedText scopeId table call =
    some (validatorText visibility result.cacheTag call.params)
  etag_eq : etag = pageEtag responseHash visibility result.cacheTag call.params
  content_mem : (handleWorkbenchRequest responseHash scopeId table call).content ∈
    [none, some (result.data, result.page)]
  content_unconditional :
    (handleWorkbenchRequest responseHash scopeId table call.unconditional).content =
      some (result.data, result.page)

theorem exists_validatedPage {responseHash : JsString → JsString} {call : WorkbenchCall}
    {etag : JsString}
    (h : (handleWorkbenchRequest responseHash scopeId table call).etag = some etag) :
    ∃ visibility query result,
      ValidatedPage responseHash scopeId table call etag visibility query result := by
  cases hquery : parseQuery call.params with
  | error problem =>
      simp only [handleWorkbenchRequest, hquery] at h
      cases h
  | ok query =>
      cases hvisibility : call.visibility with
      | none =>
          simp only [handleWorkbenchRequest, hquery, hvisibility] at h
          cases h
      | some visibility =>
          by_cases hprojects : hasVisibleProjects visibility = true
          · cases hpage : getWorkbench scopeId table call.databaseFails visibility query with
            | error failure =>
                simp only [handleWorkbenchRequest, hquery, hvisibility, hprojects, hpage,
                  if_true] at h
                cases failure <;> cases h
            | ok result =>
                have hanswer : ∀ ifNoneMatch,
                    handleWorkbenchRequest responseHash scopeId table
                      { call with ifNoneMatch := ifNoneMatch } =
                    if ifNoneMatch =
                        some (pageEtag responseHash visibility result.cacheTag call.params) then
                      .notModified (responseHeaders
                        (pageEtag responseHash visibility result.cacheTag call.params)
                        (js "postgres"))
                    else .ok (responseHeaders
                        (pageEtag responseHash visibility result.cacheTag call.params)
                        (js "postgres")) ⟨result.data, result.page, call.requestId⟩ := by
                  intro ifNoneMatch
                  simp only [handleWorkbenchRequest, hquery, hvisibility, hprojects, hpage,
                    if_true]
                have hcall := hanswer call.ifNoneMatch
                obtain ⟨hserved, -⟩ := getWorkbench_ok hpage
                refine ⟨visibility, query, result, hquery, hserved ▸ hpage, ?_, ?_, ?_, ?_⟩
                · simp only [hashedText, hquery, hvisibility, hpage, Except.toOption,
                    Option.map_some]
                · rw [hcall] at h
                  split at h <;> exact (Option.some.inj h).symm
                · rw [hcall]
                  split
                  · exact List.mem_cons_self
                  · exact List.mem_cons_of_mem _ List.mem_cons_self
                · rw [WorkbenchCall.unconditional, hanswer none, if_neg nofun]
                  rfl
          · simp only [handleWorkbenchRequest, hquery, hvisibility, hprojects, if_false,
              Bool.false_eq_true] at h
            cases h

/-- Two answers with the same validator, given at any two times of a history to any two
calls, are about one page: either has its content, or no body at all, and it is the content
that each call would have been sent without a validator of its own. -/
theorem content_eq_of_etag_eq (responseHash : JsString → JsString) (scopeId : JsString)
    (history : PublishHistory) (m n : ℕ) (call call' : WorkbenchCall) (etag : JsString)
    (hcollision : ∀ text ∈ hashedText scopeId (history.tableAt m) call,
      ∀ text' ∈ hashedText scopeId (history.tableAt n) call',
        responseHash text = responseHash text' → text = text')
    (hetag : (handleWorkbenchRequest responseHash scopeId (history.tableAt m) call).etag =
      some etag)
    (hetag' : (handleWorkbenchRequest responseHash scopeId (history.tableAt n) call').etag =
      some etag) :
    ∃ content,
      (handleWorkbenchRequest responseHash scopeId (history.tableAt m) call).content ∈
        [none, some content] ∧
      (handleWorkbenchRequest responseHash scopeId (history.tableAt n) call').content ∈
        [none, some content] ∧
      (handleWorkbenchRequest responseHash scopeId (history.tableAt m)
        call.unconditional).content = some content ∧
      (handleWorkbenchRequest responseHash scopeId (history.tableAt n)
        call'.unconditional).content = some content := by
  obtain ⟨visibility, query, result, hpage⟩ := exists_validatedPage hetag
  obtain ⟨visibility', query', result', hpage'⟩ := exists_validatedPage hetag'
  have htexts : validatorText visibility result.cacheTag call.params =
      validatorText visibility' result'.cacheTag call'.params := by
    apply hcollision _ hpage.hashed _ hpage'.hashed
    exact etagOf_injective (hpage.etag_eq.symm.trans hpage'.etag_eq)
  obtain ⟨htag, hparams⟩ := validatorText_inj htexts
  have hquery : query = query' := by
    apply Except.ok.inj
    rw [← hpage.query_parsed, hparams, hpage'.query_parsed]
  have hvisible : visibleSnapshots scopeId visibility (history.tableAt m) =
      visibleSnapshots scopeId visibility' (history.tableAt n) := by
    apply visibleSnapshots_eq_of_cacheTag
    rw [← (getWorkbench_ok hpage.read).2, htag, (getWorkbench_ok hpage'.read).2]
  have hresult : result = result' := by
    apply Except.ok.inj
    rw [← hpage.read, ← hpage'.read, ← hquery]
    exact getWorkbench_congr hvisible
  subst hresult
  exact ⟨_, hpage.content_mem, hpage'.content_mem, hpage.content_unconditional,
    hpage'.content_unconditional⟩

end Validators

section NotModified

def emptyPublish (digit : String) : PublishInput where
  scope :=
    { scopeId := js "global"
      organizationId := js "00000000-0000-4000-8000-000000000001"
      projectId := js "00000000-0000-4000-8000-00000000000" ++ js digit }
  cursor := none
  digest := js "digest"
  snapshot :=
    { revision := 1
      generatedAt := 1767225600000
      summary := ⟨[], ⟨0, 0, 0, 0, 0, 0⟩⟩
      tasks := [] }

def twoProjects : PublishHistory where
  inputs := [emptyPublish "2", emptyPublish "3"]
  organization_uuid := by decide +kernel
  project_uuid := by decide +kernel

def firstProjectCall (ifNoneMatch : Option JsString) : WorkbenchCall where
  params := [("filter", "all")]
  ifNoneMatch := ifNoneMatch
  requestId := js "req"
  visibility := some ⟨js "owner", [], [(emptyPublish "2").scope.projectId]⟩
  databaseFails := false

def firstProjectHash : JsString :=
  js "5f7ce9f5764198148094292bb13ae35aed8cc237df99450f9d03735d7bc14bbf"

/-- A publish of another project comes between the two answers; the second has no body. -/
theorem content_eq_of_etag_eq_notModified :
    ∃ content,
      (handleWorkbenchRequest (fun _ => firstProjectHash) (js "global")
        (twoProjects.tableAt 1) (firstProjectCall none)).content ∈ [none, some content] ∧
      (handleWorkbenchRequest (fun _ => firstProjectHash) (js "global")
        (twoProjects.tableAt 2) (firstProjectCall (some (etagOf firstProjectHash)))).content ∈
          [none, some content] ∧
      (handleWorkbenchRequest (fun _ => firstProjectHash) (js "global")
        (twoProjects.tableAt 1) (firstProjectCall none).unconditional).content =
          some content ∧
      (handleWorkbenchRequest (fun _ => firstProjectHash) (js "global")
        (twoProjects.tableAt 2)
        (firstProjectCall (some (etagOf firstProjectHash))).unconditional).content =
          some content := by
  refine content_eq_of_etag_eq (fun _ => firstProjectHash) (js "global") twoProjects 1 2
    (firstProjectCall none) (firstProjectCall (some (etagOf firstProjectHash)))
    (etagOf firstProjectHash) ?_ (by decide +kernel) (by decide +kernel)
  have hsame : hashedText (js "global") (twoProjects.tableAt 2)
        (firstProjectCall (some (etagOf firstProjectHash))) =
      hashedText (js "global") (twoProjects.tableAt 1) (firstProjectCall none) := by
    decide +kernel
  intro text htext text' htext' _
  rw [hsame] at htext'
  exact Option.mem_unique htext htext'

end NotModified

end DevHarness.Workbench
