import DevHarness.Workbench.TaskService

/-!
# Repeated deliveries of a task command

A key has at most one receipt and a version of a task has at most one that has not failed,
whatever interleaves.  A repeated delivery looks for its task before it looks for its key, so
it has the first receipt again as long as it finds the task where the first one found it.
-/

namespace DevHarness.Workbench

open JsText Interleave Program
open ControlPlane (Thrown)

/-! ## What is claimed -/

structure SameCommand (delivery delivery' : TaskDelivery) : Prop where
  taskId : delivery.taskId = delivery'.taskId
  actorId : delivery.actorId = delivery'.actorId
  idempotencyKey : delivery.idempotencyKey = delivery'.idempotencyKey
  body : delivery.body = delivery'.body

structure TaskVersionKey where
  organizationId : JsString
  projectId : JsString
  taskId : JsString
  taskVersion : ℕ

def TaskReceipt.versionKey (row : TaskReceipt) : TaskVersionKey where
  organizationId := row.command.organizationId
  projectId := row.projectId
  taskId := row.command.taskId
  taskVersion := row.taskVersion

/-- Process `pid` delivers a command that had already succeeded, with the receipt of that
id. -/
def Follows (past : List TaskEvent) (pid : ℕ) (delivery : TaskDelivery) (receiptId : JsString) :
    Prop :=
  ∃ recent older pid₀ delivery₀ receipt₀, past = recent ++ .spawned pid (.submit delivery) :: older ∧
    .spawned pid₀ (.submit delivery₀) ∈ older ∧ .finished pid₀ (.ok receipt₀) ∈ older ∧
    SameCommand delivery delivery₀ ∧ receipt₀.receiptId = receiptId

/-- A statement of process `pid`, or the authorizer, has failed. -/
def Disturbed (past : List TaskEvent) (pid : ℕ) : Prop :=
  ∃ command error, .performed pid command (.error (.outside error)) ∈ past

/-- Task commands are exactly-once in all runs whose steps meet `cond`. -/
structure ExactlyOnce (runtime : TaskRuntime) (scopeId : JsString) (projections : ProjectionTable)
    (cond : TaskCondition) : Prop where
  oneReceipt : ∀ {c}, Run (taskSystem runtime scopeId) cond (.ofProjections projections) c →
    ∀ row ∈ c.now.state.receipts.rows, ∀ row' ∈ c.now.state.receipts.rows,
      row.command = row'.command → row = row'
  oneOwner : ∀ {c}, Run (taskSystem runtime scopeId) cond (.ofProjections projections) c →
    ∀ row ∈ c.now.state.receipts.rows, ∀ row' ∈ c.now.state.receipts.rows,
      row.status ≠ .failed → row'.status ≠ .failed → row.versionKey = row'.versionKey → row = row'
  replayed : ∀ {c pid delivery receiptId result},
    Run (taskSystem runtime scopeId) cond (.ofProjections projections) c →
    Follows c.now.past pid delivery receiptId → .finished pid result ∈ c.now.past →
    ¬ Disturbed c.now.past pid → ∃ receipt, result = .ok receipt ∧ receipt.receiptId = receiptId

/-- A delivery of a command that has succeeded sees one task under the id, and in the
organization of the receipt. -/
def FindsTask (scopeId : JsString) : TaskCondition := fun m attempt =>
  match attempt with
  | .perform pid (.findTask visibility taskId) => ∀ delivery receiptId,
    Follows m.past pid delivery receiptId →
    ∃ task, visibleTasks scopeId visibility taskId m.state.projections = [task] ∧
      ∃ row ∈ m.state.receipts.rows, exposedReceiptId row.id = receiptId ∧
        row.command.organizationId = task.organizationId
  | _ => True

section Ids

variable {id id' : Uuid}

def uuidUnits : JsString := js "0123456789abcdef-"

theorem mem_uuidUnits {text : JsString} (h : isUuid text = true) {u : UInt16} (hu : u ∈ text) :
    u ∈ uuidUnits := by
  obtain ⟨i, hi, rfl⟩ := List.mem_iff_getElem.mp hu
  have hall := (Bool.and_eq_true _ _ ▸ h : _ ∧ _).2
  have hunit := List.all_eq_true.mp hall (text[i], i)
    (by rw [List.mem_zipIdx_iff_getElem?]; exact List.getElem?_eq_getElem hi)
  simp only at hunit
  split at hunit
  · rw [decide_eq_true_eq.mp hunit]
    decide
  · split at hunit
    · have hsub : ∀ u ∈ js "12345", u ∈ uuidUnits := by decide
      exact hsub _ (decide_eq_true_eq.mp hunit)
    · split at hunit
      · have hsub : ∀ u ∈ js "89ab", u ∈ uuidUnits := by decide
        exact hsub _ (decide_eq_true_eq.mp hunit)
      · have hsub : ∀ u ∈ js "0123456789abcdef", u ∈ uuidUnits := by decide
        exact hsub _ (decide_eq_true_eq.mp hunit)

theorem map_foldCase_uuid (id : Uuid) : id.text.map foldCase = id.text := by
  have hfold : ∀ u ∈ uuidUnits, foldCase u = u := by decide
  refine (List.map_congr_left fun u hu => ?_).trans (List.map_id _)
  exact hfold u (mem_uuidUnits id.valid hu)

@[simp] theorem receiptUuid_exposedReceiptId : receiptUuid (exposedReceiptId id) = some id := by
  have hprefix : (js "rcpt_").map foldCase = js "rcpt_" := by decide
  have hlength : (js "rcpt_").length = 5 := by decide
  have hfolded : (exposedReceiptId id).map foldCase = js "rcpt_" ++ id.text := by
    rw [exposedReceiptId, List.map_append, hprefix, map_foldCase_uuid]
  have htake : (js "rcpt_" ++ id.text).take 5 = js "rcpt_" := by
    rw [← hlength, List.take_left]
  have hdrop : (js "rcpt_" ++ id.text).drop 5 = id.text := by
    rw [← hlength, List.drop_left]
  have hvalid : isUuid ((js "rcpt_" ++ id.text).drop 5) = true := by
    rw [hdrop]
    exact id.valid
  simp only [receiptUuid, hfolded, htake, if_true, dif_pos hvalid, Option.some.injEq]
  obtain ⟨text, valid⟩ := id
  simp only [Uuid.mk.injEq]
  exact hdrop

theorem exposedReceiptId_inj (h : exposedReceiptId id = exposedReceiptId id') : id = id' := by
  have hsame := congrArg receiptUuid h
  rw [receiptUuid_exposedReceiptId, receiptUuid_exposedReceiptId] at hsame
  exact Option.some.inj hsame

end Ids

/-! ## What the statements keep -/

/-- The idempotency record that `accept` writes with a receipt. -/
def TaskReceipt.record (row : TaskReceipt) : TaskIdempotencyRecord where
  scope :=
    { organizationId := row.command.organizationId
      actorId := row.command.actorId
      endpoint := actionEndpoint row.command.taskId
      key := row.command.idempotencyKey }
  requestHash := row.requestHash
  status := .completed
  responseRef := some (exposedReceiptId row.id)

/-- Every idempotency record is that of a receipt, and no version of a task has two receipts
that have not failed. -/
structure TaskInvariant (store : TaskStore) : Prop where
  linked : ∀ record ∈ store.idempotency.rows, ∃ row ∈ store.receipts.rows, record = row.record
  owned : ∀ row ∈ store.receipts.rows, ∀ row' ∈ store.receipts.rows, row.status ≠ .failed →
    row'.status ≠ .failed → row.versionKey = row'.versionKey → row = row'

variable {α : Type} {scopeId receiptId : JsString} {store next : TaskStore} {outside : TaskOutside}
  {input : AcceptTaskActionInput} {receipt : CommandReceipt} {lookup : TaskIdempotencyLookup}
  {runtime : TaskRuntime} {delivery : TaskDelivery} {pid : ℕ}

section Statements

variable {task : GlobalTask} {update : TransitionTaskReceiptInput} {row : TaskReceipt} {id : Uuid}
  {visibility : ActorVisibilityScope} {found : ScopedWorkbenchTask} {taskId : JsString}

theorem checked_eq_ok {ok : Bool} {error : TaskError} {u : Unit} :
    checked ok error = .ok u ↔ ok = true := by
  cases ok <;> simp [checked]

theorem bind_eq_ok {β : Type} {x : Except TaskError α} {f : α → Except TaskError β} {b : β} :
    (x >>= f) = .ok b ↔ ∃ a, x = .ok a ∧ f a = .ok b := by
  cases x with
  | ok a =>
      constructor
      · intro h
        exact ⟨a, rfl, h⟩
      · rintro ⟨a', ha, h⟩
        rw [Except.ok.inj ha]
        exact h
  | error e =>
      constructor
      · intro h
        cases h
      · rintro ⟨a', ha, h⟩
        cases ha

theorem TaskOutside.answering_cases {answer : Except TaskError α × TaskStore}
    {resp : Except TaskError α} (h : outside.answering store answer = (resp, next)) :
    (resp, next) = answer ∨
      (∃ error, resp = .error (.outside error)) ∧ (next = store ∨ next = answer.2) := by
  unfold TaskOutside.answering at h
  split at h
  · next failure hfailure =>
    obtain ⟨rfl, rfl⟩ := Prod.mk.inj h
    refine .inr ⟨⟨failure.error, rfl⟩, ?_⟩
    by_cases hcommitted : failure.committed = true
    · rw [if_pos hcommitted]
      exact .inr rfl
    · rw [if_neg hcommitted]
      exact .inl rfl
  · exact .inl h.symm

theorem record_eq_ok (h : store.record input task = .ok (receipt, next)) :
    store.versionClaimed input.scopedTask task = false ∧
      receipt = mapReceipt (TaskStore.acceptedReceipt input task) ∧
      ∃ receipts, store.receipts.insert (TaskStore.acceptedReceipt input task) = some receipts ∧
        next =
          { store with
            receipts := receipts
            idempotency := store.idempotency.insertNew
              { scope := input.scope
                requestHash := input.requestHash
                status := .completed
                responseRef := some receipt.receiptId } } := by
  simp only [TaskStore.record, TaskStore.checkTask, bind_eq_ok, checked_eq_ok] at h
  obtain ⟨_, ⟨_, -, _, -, hclaimed⟩, inserted, hinserted, hpure⟩ := h
  obtain ⟨hreceipt, hnext⟩ := Prod.mk.inj (Except.ok.inj hpure)
  unfold TaskStore.insertReceipt at hinserted
  split at hinserted
  · cases hinserted
  · split at hinserted
    · next receipts hreceipts =>
      obtain rfl := Except.ok.inj hinserted
      refine ⟨?_, hreceipt.symm, receipts, hreceipts, ?_⟩
      · simpa using hclaimed
      · rw [← hnext, ← hreceipt]
    · cases hinserted

theorem execTask_cases {command : TaskCommand} {resp : Except TaskError command.Answer}
    (hexec : execTask scopeId outside command store = some (resp, next)) :
    next = store ∨
      (∃ input task receipt, command = .accept input ∧
        store.lockedTask scopeId input.scopedTask = some task ∧
        store.record input task = .ok (receipt, next)) ∨
      ∃ update id row, command = .transition update ∧ store.receipts.get id = some row ∧
        TaskStore.checkTransition update row = .ok () ∧
        next =
          { store with
            receipts := store.receipts.update id (TaskStore.transitioned update) (fun _ => rfl)
              (fun _ => rfl) } := by
  have hsame : ∀ {α : Type} {answer : Except TaskError α × TaskStore} {r : Except TaskError α},
      outside.answering store answer = (r, next) → next = store ∨ next = answer.2 := by
    intro α answer r h
    rcases TaskOutside.answering_cases h with heq | ⟨-, hnext⟩
    · rw [← heq]
      exact .inr rfl
    · exact hnext
  cases command with
  | accept input =>
      rcases hsame (Option.some.inj hexec) with h | h
      · exact .inl h
      · unfold TaskStore.accept at h
        split at h
        · exact .inl h
        · split at h
          · exact .inl h
          · next task htask =>
            split at h
            · exact .inl h
            · split at h
              · next receipt next' hrecord =>
                rw [h]
                exact .inr (.inl ⟨input, task, receipt, rfl, htask, hrecord⟩)
              · exact .inl h
  | transition update =>
      rcases hsame (Option.some.inj hexec) with h | h
      · exact .inl h
      · unfold TaskStore.transition at h
        split at h
        · exact .inl h
        · next id hid =>
          split at h
          · exact .inl h
          · next row hrow =>
            split at h
            · exact .inl h
            · next hchecked => exact .inr (.inr ⟨update, id, row, rfl, hrow, hchecked, h⟩)
  | idFactory => exact .inl (Prod.mk.inj (Option.some.inj hexec)).2.symm
  | clock => exact .inl (Prod.mk.inj (Option.some.inj hexec)).2.symm
  | findTask visibility taskId => exact .inl ((hsame (Option.some.inj hexec)).elim id id)
  | authorize input => exact .inl ((hsame (Option.some.inj hexec)).elim id id)
  | selectIdempotency scope => exact .inl ((hsame (Option.some.inj hexec)).elim id id)
  | selectReceipt uuid => exact .inl ((hsame (Option.some.inj hexec)).elim id id)

theorem id_of_lockedTask {scopedTask : ScopedWorkbenchTask}
    (h : store.lockedTask scopeId scopedTask = some task) : task.id = scopedTask.task.id := by
  obtain ⟨projection, -, hfind⟩ := Option.bind_eq_some_iff.mp h
  simpa using List.find?_some hfind

theorem findTask_of_visible
    (h : visibleTasks scopeId visibility taskId store.projections = [found]) :
    store.findTask scopeId visibility taskId = .ok (some found) := by
  unfold TaskStore.findTask
  rw [h]

theorem id_of_findTask (h : store.findTask scopeId visibility taskId = .ok (some found)) :
    found.task.id = taskId := by
  have hmem : found ∈ visibleTasks scopeId visibility taskId store.projections := by
    unfold TaskStore.findTask at h
    split at h
    · cases h
    · next task htask =>
      rw [htask, Option.some.inj (Except.ok.inj h)]
      exact List.mem_singleton_self _
    · cases h
  obtain ⟨snapshot, -, hsnapshot⟩ := List.mem_flatMap.mp hmem
  obtain ⟨task, htask, rfl⟩ := List.mem_map.mp hsnapshot
  simpa using (List.mem_filter.mp htask).2

theorem invariant_record (h : TaskInvariant store)
    (hlocked : store.lockedTask scopeId input.scopedTask = some task)
    (hrecord : store.record input task = .ok (receipt, next)) : TaskInvariant next := by
  obtain ⟨hclaimed, hreceipt, receipts, hinsert, rfl⟩ := record_eq_ok hrecord
  have hrows := Sql.Indexed.rows_of_insert hinsert
  have hnew : ∀ row ∈ store.receipts.rows, row.status ≠ .failed →
      row.versionKey ≠ (TaskStore.acceptedReceipt input task).versionKey := by
    intro row hrow hstatus hkey
    have hnot := List.any_eq_false.mp hclaimed row hrow
    apply hnot
    obtain ⟨horganization, hproject, htask, hversion⟩ := TaskVersionKey.mk.inj hkey
    simp only [TaskStore.acceptedReceipt] at horganization hproject htask hversion
    simp [horganization, hproject, htask, hversion, hstatus]
  constructor
  · intro record hmem
    simp only at hmem ⊢
    rw [hrows]
    rcases Sql.Table.of_mem_insertNew hmem with rfl | hold
    · refine ⟨_, List.mem_append_right _ (List.mem_singleton_self _), ?_⟩
      rw [hreceipt]
      simp [TaskReceipt.record, TaskStore.acceptedReceipt, AcceptTaskActionInput.scope, mapReceipt,
        id_of_lockedTask hlocked]
    · obtain ⟨row, hrow, rfl⟩ := h.linked record hold
      exact ⟨row, List.mem_append_left _ hrow, rfl⟩
  · intro row hrow row' hrow' hstatus hstatus' hkey
    simp only at hrow hrow'
    rw [hrows] at hrow hrow'
    rcases List.mem_append.mp hrow with hold | hlast
    · rcases List.mem_append.mp hrow' with hold' | hlast'
      · exact h.owned row hold row' hold' hstatus hstatus' hkey
      · rw [List.mem_singleton.mp hlast'] at hkey
        exact absurd hkey (hnew row hold hstatus)
    · rcases List.mem_append.mp hrow' with hold' | hlast'
      · rw [List.mem_singleton.mp hlast] at hkey
        exact absurd hkey.symm (hnew row' hold' hstatus')
      · rw [List.mem_singleton.mp hlast, List.mem_singleton.mp hlast']

theorem invariant_transition (h : TaskInvariant store) (hget : store.receipts.get id = some row)
    (hchecked : TaskStore.checkTransition update row = .ok ()) :
    TaskInvariant
      { store with
        receipts := store.receipts.update id (TaskStore.transitioned update) (fun _ => rfl)
          (fun _ => rfl) } := by
  have hopen : row.status ≠ .failed := by
    simp only [TaskStore.checkTransition, bind_eq_ok, checked_eq_ok] at hchecked
    obtain ⟨_, hterminal, -⟩ := hchecked
    simp only [Bool.and_eq_true, decide_eq_true_eq] at hterminal
    exact hterminal.2
  have hsource : ∀ changed ∈ (store.receipts.update id (TaskStore.transitioned update)
      (fun _ => rfl) (fun _ => rfl)).rows, changed.status ≠ .failed →
      ∃ source ∈ store.receipts.rows, source.status ≠ .failed ∧
        source.versionKey = changed.versionKey ∧
        changed = if source.id = id then TaskStore.transitioned update source else source := by
    intro changed hmem hstatus
    obtain ⟨source, hsource, rfl⟩ := List.mem_map.mp hmem
    by_cases hid : source.id = id
    · have hrow : source = row := by
        rw [← hid, Sql.Table.get_of_mem hsource] at hget
        exact Option.some.inj hget
      refine ⟨source, hsource, ?_, ?_, by simp⟩
      · rw [hrow]
        exact hopen
      · simp [hid, TaskStore.transitioned, TaskReceipt.versionKey]
    · refine ⟨source, hsource, ?_, ?_, by simp⟩
      · simpa [hid] using hstatus
      · simp [hid]
  constructor
  · intro record hmem
    obtain ⟨source, hsource', rfl⟩ := h.linked record hmem
    refine ⟨_, List.mem_map_of_mem hsource', ?_⟩
    by_cases hid : source.id = id
    · simp [hid, TaskStore.transitioned, TaskReceipt.record]
    · simp [hid]
  · intro changed hmem changed' hmem' hstatus hstatus' hkey
    obtain ⟨source, hmemSource, hopenSource, hkeySource, hchanged⟩ := hsource changed hmem hstatus
    obtain ⟨source', hmemSource', hopenSource', hkeySource', hchanged'⟩ :=
      hsource changed' hmem' hstatus'
    have heq : source = source' := h.owned source hmemSource source' hmemSource' hopenSource
      hopenSource' (hkeySource.trans (hkey.trans hkeySource'.symm))
    rw [hchanged, hchanged', heq]

end Statements

/-! ## What a delivery returns -/

/-- The key has been used for a request, and its record refers to the receipt. -/
def Recorded (store : TaskStore) (lookup : TaskIdempotencyLookup) (receiptId : JsString) : Prop :=
  ∃ record ∈ store.idempotency.rows, record.scope = lookup.scope ∧
    record.requestHash = lookup.requestHash ∧ record.responseRef = some receiptId

/-- The exchanges in which `findIdempotent` finds a receipt. -/
def Found (ex : List (Exchange TaskCommand TaskCommand.Answer TaskError))
    (lookup : TaskIdempotencyLookup) (receipt : CommandReceipt) : Prop :=
  ∃ record id row, ⟨.selectIdempotency lookup.scope, .ok (some record)⟩ ∈ ex ∧
    resolveReplay lookup record = .ok id ∧ ⟨.selectReceipt id, .ok (some row)⟩ ∈ ex ∧
    receipt = mapReceipt row

section Replays

variable {record : TaskIdempotencyRecord} {id : Uuid}

theorem resolveReplay_eq_ok : resolveReplay lookup record = .ok id ↔
    record.requestHash = lookup.requestHash ∧ record.status = .completed ∧
      record.responseRef.bind receiptUuid = some id := by
  simp only [resolveReplay, bind_eq_ok, checked_eq_ok, Bool.and_eq_true, decide_eq_true_eq]
  constructor
  · rintro ⟨_, hhash, _, ⟨hstatus, -⟩, hresolved⟩
    refine ⟨hhash, hstatus, ?_⟩
    split at hresolved
    · next found hfound => rw [hfound, Except.ok.inj hresolved]
    · cases hresolved
  · rintro ⟨hhash, hstatus, hresolved⟩
    refine ⟨(), hhash, (), ⟨hstatus, ?_⟩, ?_⟩
    · obtain ⟨ref, href, -⟩ := Option.bind_eq_some_iff.mp hresolved
      rw [href]
      rfl
    · rw [hresolved]

theorem TaskInvariant.row (h : TaskInvariant store) (hrecord : record ∈ store.idempotency.rows) :
    ∃ row, store.receipts.get row.id = some row ∧ record = row.record := by
  obtain ⟨row, hrow, heq⟩ := h.linked record hrecord
  exact ⟨row, Sql.Table.get_of_mem hrow, heq⟩

theorem TaskInvariant.ref (h : TaskInvariant store) (hrecord : record ∈ store.idempotency.rows)
    (hid : record.responseRef.bind receiptUuid = some id) :
    record.responseRef = some (exposedReceiptId id) := by
  obtain ⟨row, -, rfl⟩ := h.row hrecord
  have hsame : some row.id = some id := by
    simpa [TaskReceipt.record] using hid
  rw [← Option.some.inj hsame]
  rfl

theorem Recorded.exec {command : TaskCommand} {resp : Except TaskError command.Answer}
    (h : Recorded store lookup receiptId)
    (hexec : execTask scopeId outside command store = some (resp, next)) :
    Recorded next lookup receiptId := by
  obtain ⟨record, hmem, hrecord⟩ := h
  rcases execTask_cases hexec with rfl | ⟨input, task, receipt, -, -, hok⟩ |
    ⟨update, id, row, -, -, -, rfl⟩
  · exact ⟨record, hmem, hrecord⟩
  · obtain ⟨-, -, receipts, -, rfl⟩ := record_eq_ok hok
    exact ⟨record, Sql.Table.mem_insertNew hmem, hrecord⟩
  · exact ⟨record, hmem, hrecord⟩

theorem recorded_of_accept (h : TaskInvariant store)
    (haccept : store.accept scopeId input = (.ok receipt, next)) :
    Recorded next ⟨input.scope, input.requestHash⟩ receipt.receiptId := by
  have hreplay : ∀ answer, store.replayed input.scope input.requestHash = some answer →
      answer = .ok receipt →
      Recorded store ⟨input.scope, input.requestHash⟩ receipt.receiptId := by
    intro answer hreplayed hanswer
    obtain ⟨record, hget, hresolved⟩ := Option.map_eq_some_iff.mp hreplayed
    rw [hanswer] at hresolved
    have hmem := Sql.Table.mem_of_get hget
    split at hresolved
    · cases hresolved
    · next hhash =>
      split at hresolved
      · cases hresolved
      · next id hid =>
        split at hresolved
        · cases hresolved
        · next row hrow =>
          refine ⟨record, hmem, Sql.Table.key_of_get hget, not_ne_iff.mp hhash, ?_⟩
          rw [h.ref hmem hid, ← Except.ok.inj hresolved]
          rw [← Sql.Table.key_of_get hrow]
          rfl
  unfold TaskStore.accept at haccept
  split at haccept
  · next answer hreplayed =>
    obtain ⟨hanswer, rfl⟩ := Prod.mk.inj haccept
    exact hreplay answer hreplayed hanswer
  · next hfree =>
    have hnone : store.idempotency.get input.scope = none := Option.map_eq_none_iff.mp hfree
    split at haccept
    · cases (Prod.mk.inj haccept).1
    · next task htask =>
      simp only at haccept
      split at haccept
      · next receipt' next' hrecord =>
        obtain ⟨hanswer, rfl⟩ := Prod.mk.inj haccept
        obtain rfl := Except.ok.inj hanswer
        obtain ⟨-, -, receipts, -, rfl⟩ := record_eq_ok hrecord
        have hget : (store.idempotency.insertNew
            { scope := input.scope
              requestHash := input.requestHash
              status := .completed
              responseRef := some receipt'.receiptId }).get input.scope = some _ :=
          Sql.Table.get_insertNew.trans (if_pos ⟨rfl, hnone⟩)
        exact ⟨_, Sql.Table.mem_of_get hget, rfl, rfl, rfl⟩
      · cases (Prod.mk.inj haccept).1

end Replays

variable {result : Except TaskError CommandReceipt}

section Deliveries

variable {ex : List (Exchange TaskCommand TaskCommand.Answer TaskError)} {organizationId : JsString}
  {parsed : ExecuteTaskActionRequest} {id : Uuid}

theorem Found.mono {ex' : List (Exchange TaskCommand TaskCommand.Answer TaskError)}
    (h : Found ex lookup receipt) (hsub : ∀ x ∈ ex, x ∈ ex') : Found ex' lookup receipt := by
  obtain ⟨record, id, row, hrecord, hid, hrow, hreceipt⟩ := h
  exact ⟨record, id, row, hsub _ hrecord, hid, hsub _ hrow, hreceipt⟩

theorem ends_findIdempotent_ok (h : Ends (findIdempotent lookup) ex (.ok (some receipt))) :
    Found ex lookup receipt := by
  unfold findIdempotent at h
  obtain ⟨found, ex₁, rfl, h₁⟩ := ends_request_bind_iff.mp h
  cases found with
  | none =>
      obtain ⟨-, hnone⟩ := ends_pure_iff.mp h₁
      cases hnone
  | some record =>
      obtain ⟨id, hid, h₂⟩ := ends_done_bind_iff.mp h₁
      obtain ⟨row, ex₂, rfl, h₃⟩ := ends_request_bind_iff.mp h₂
      cases row with
      | none =>
          obtain ⟨-, herror⟩ := ends_throw_iff.mp h₃
          cases herror
      | some row =>
          obtain ⟨rfl, hreceipt⟩ := ends_pure_iff.mp h₃
          refine ⟨record, id, row, List.mem_cons_self, hid,
            List.mem_cons_of_mem _ List.mem_cons_self, ?_⟩
          exact Option.some.inj (Except.ok.inj hreceipt)

/-- A receipt that `accept` returns was answered by its transaction, or found after it. -/
theorem ends_accept_ok {input : AcceptTaskActionInput} (h : Ends (accept input) ex (.ok receipt)) :
    ⟨.accept input, .ok receipt⟩ ∈ ex ∨ Found ex ⟨input.scope, input.requestHash⟩ receipt := by
  rcases ends_handle_ok h with hanswered | ⟨error, ex₁, ex₂, rfl, -, hrecovered⟩
  · obtain rfl := ends_request_iff.mp hanswered
    exact .inl (List.mem_singleton_self _)
  · right
    unfold recover at hrecovered
    split at hrecovered
    · obtain ⟨replayed, ex₃, ex₄, rfl, hfound, hrest⟩ := ends_bind_ok_iff.mp hrecovered
      cases replayed with
      | none =>
          obtain ⟨-, herror⟩ := ends_throw_iff.mp hrest
          cases herror
      | some found =>
          obtain ⟨rfl, hreceipt⟩ := ends_pure_iff.mp hrest
          rw [Except.ok.inj hreceipt]
          refine (ends_findIdempotent_ok hfound).mono fun x hx => ?_
          exact List.mem_append_right _ (List.mem_append_left _ hx)
    · obtain ⟨-, herror⟩ := ends_throw_iff.mp hrecovered
      cases herror

theorem ends_submit_ok (h : Ends (submit runtime delivery) ex (.ok receipt))
    (hfind : ∀ task, ⟨.findTask delivery.visibility delivery.taskId, .ok (some task)⟩ ∈ ex →
      task.task.id = delivery.taskId) :
    ∃ parsed organizationId, checkDelivery delivery = .ok parsed ∧
      (Found ex ⟨delivery.scope organizationId, requestHash runtime delivery parsed⟩ receipt ∨
        ∃ input, input.scope = delivery.scope organizationId ∧
          input.requestHash = requestHash runtime delivery parsed ∧
          ⟨.accept input, .ok receipt⟩ ∈ ex) := by
  unfold submit at h
  obtain ⟨parsed, hparsed, h₁⟩ := ends_done_bind_iff.mp h
  obtain ⟨found, ex₁, rfl, h₂⟩ := ends_request_bind_iff.mp h₁
  cases found with
  | none =>
      obtain ⟨-, herror⟩ := ends_throw_iff.mp h₂
      cases herror
  | some scopedTask =>
      have hid := hfind scopedTask List.mem_cons_self
      refine ⟨parsed, scopedTask.organizationId, hparsed, ?_⟩
      change Ends (submitOn runtime delivery parsed scopedTask) ex₁ _ at h₂
      unfold submitOn at h₂
      obtain ⟨-, ex₂, rfl, h₃⟩ := ends_request_bind_iff.mp h₂
      obtain ⟨replay, ex₃, ex₄, rfl, hreplay, h₄⟩ := ends_bind_ok_iff.mp h₃
      cases replay with
      | some found =>
          left
          obtain ⟨rfl, hreceipt⟩ := ends_pure_iff.mp h₄
          rw [Except.ok.inj hreceipt]
          refine (ends_findIdempotent_ok hreplay).mono fun x hx => ?_
          exact List.mem_cons_of_mem _ (List.mem_cons_of_mem _ (List.mem_append_left _ hx))
      | none =>
          change Ends (submitNew delivery parsed scopedTask _) ex₄ _ at h₄
          unfold submitNew at h₄
          obtain ⟨-, -, h₅⟩ := ends_done_bind_iff.mp h₄
          obtain ⟨receiptUuid, ex₅, rfl, h₆⟩ := ends_request_bind_iff.mp h₅
          obtain ⟨submittedAt, ex₆, rfl, h₇⟩ := ends_request_bind_iff.mp h₆
          have hscope : ({ organizationId := scopedTask.organizationId
                           actorId := delivery.actorId
                           endpoint := actionEndpoint scopedTask.task.id
                           key := delivery.idempotencyKey } : TaskIdempotencyScope) =
              delivery.scope scopedTask.organizationId := by
            rw [hid]
            rfl
          have hsub : ∀ {a b c d : Exchange TaskCommand TaskCommand.Answer TaskError},
              ∀ x ∈ ex₆, x ∈ a :: b :: (ex₃ ++ (c :: d :: ex₆)) := by
            intro a b c d x hx
            refine List.mem_cons_of_mem _ (List.mem_cons_of_mem _ (List.mem_append_right _ ?_))
            exact List.mem_cons_of_mem _ (List.mem_cons_of_mem _ hx)
          rcases ends_accept_ok h₇ with hanswered | hfound
          · refine .inr ⟨_, ?_, ?_, hsub _ hanswered⟩
            · exact hscope
            · rfl
          · left
            rw [← hscope]
            exact hfound.mono hsub

theorem ends_findIdempotent {r : Except TaskError (Option CommandReceipt)}
    (hselect : ∀ answer, ⟨.selectIdempotency lookup.scope, answer⟩ ∈ ex →
      ∃ record, answer = .ok (some record) ∧ resolveReplay lookup record = .ok id)
    (hreceipt : ∀ answer, ⟨.selectReceipt id, answer⟩ ∈ ex →
      ∃ row, answer = .ok (some row) ∧ row.id = id)
    (h : Ends (findIdempotent lookup) ex r) :
    ∃ row, r = .ok (some (mapReceipt row)) ∧ row.id = id := by
  unfold findIdempotent at h
  obtain ⟨answer, ex₁, rfl, h₁⟩ := exists_of_ends_request_bind h
  obtain ⟨record, rfl, hid⟩ := hselect answer List.mem_cons_self
  have h₂ := h₁ _ rfl
  simp only [hid] at h₂
  obtain ⟨answer', ex₂, rfl, h₃⟩ := exists_of_ends_request_bind h₂
  obtain ⟨row, rfl, hrow⟩ := hreceipt answer' (List.mem_cons_of_mem _ List.mem_cons_self)
  obtain ⟨-, hr⟩ := ends_pure_iff.mp (h₃ _ rfl)
  exact ⟨row, hr, hrow⟩

/-- A delivery that finds its task where the key has been used returns the receipt of the
record. -/
theorem ends_submit_of_recorded (organizationId : JsString)
    (hparsed : checkDelivery delivery = .ok parsed)
    (hfind : ∀ answer, ⟨.findTask delivery.visibility delivery.taskId, answer⟩ ∈ ex → ∃ task,
      answer = .ok (some task) ∧ task.organizationId = organizationId)
    (hauthorize : ∀ input answer, ⟨.authorize input, answer⟩ ∈ ex → answer = .ok ())
    (hselect : ∀ answer, ⟨.selectIdempotency (delivery.scope organizationId), answer⟩ ∈ ex → ∃
      record, answer = .ok (some record) ∧ resolveReplay ⟨delivery.scope organizationId,
      requestHash runtime delivery parsed⟩ record = .ok id)
    (hreceipt : ∀ answer, ⟨.selectReceipt id, answer⟩ ∈ ex → ∃ row, answer = .ok (some row) ∧
      row.id = id) (h : Ends (submit runtime delivery) ex result) :
    ∃ receipt, result = .ok receipt ∧ receipt.receiptId = exposedReceiptId id := by
  unfold submit at h
  simp only [hparsed] at h
  obtain ⟨answer, ex₁, rfl, h₁⟩ := exists_of_ends_request_bind h
  obtain ⟨scopedTask, rfl, rfl⟩ := hfind answer List.mem_cons_self
  have h₂ : Ends (submitOn runtime delivery parsed scopedTask) ex₁ result := h₁ _ rfl
  unfold submitOn at h₂
  obtain ⟨answer', ex₂, rfl, h₃⟩ := exists_of_ends_request_bind h₂
  obtain rfl := hauthorize _ answer' (List.mem_cons_of_mem _ List.mem_cons_self)
  have hmem : ∀ {a b x : Exchange TaskCommand TaskCommand.Answer TaskError}, x ∈ ex₂ →
      x ∈ a :: b :: ex₂ := fun hx => List.mem_cons_of_mem _ (List.mem_cons_of_mem _ hx)
  have hlookup : ∀ {ex₃ r}, (∀ x ∈ ex₃, x ∈ ex₂) →
      Ends (findIdempotent ⟨delivery.scope scopedTask.organizationId,
        requestHash runtime delivery parsed⟩) ex₃ r →
      ∃ row, r = .ok (some (mapReceipt row)) ∧ row.id = id := by
    intro ex₃ r hsub hends
    exact ends_findIdempotent (fun answer hx => hselect answer (hmem (hsub _ hx)))
      (fun answer hx => hreceipt answer (hmem (hsub _ hx))) hends
  rcases ends_bind (h₃ _ rfl) with ⟨error, herror, -⟩ | ⟨replay, ex₃, ex₄, rfl, hreplay, h₄⟩
  · obtain ⟨row, hr, -⟩ := hlookup (fun x hx => hx) herror
    cases hr
  · obtain ⟨row, hr, hrow⟩ := hlookup (fun x hx => List.mem_append_left _ hx) hreplay
    obtain rfl := Except.ok.inj hr
    obtain ⟨-, hresult⟩ := ends_pure_iff.mp h₄
    refine ⟨mapReceipt row, hresult, ?_⟩
    rw [← hrow]
    rfl

end Deliveries

section Runs

variable {projections : ProjectionTable} {cond : TaskCondition} {c d : TaskConfig}

theorem invariant_of_run
    (hrun : Run (taskSystem runtime scopeId) cond (.ofProjections projections) c) :
    TaskInvariant c.now.state := by
  refine hrun.invariant ?_ ?_ ?_
  · exact ⟨fun _ h => absurd h List.not_mem_nil, fun _ h => absurd h List.not_mem_nil⟩
  · intro outside command resp store next hexec h
    rcases execTask_cases hexec with rfl | ⟨input, task, receipt, -, hlocked, hrecord⟩ |
      ⟨update, id, row, -, hget, hchecked, rfl⟩
    · exact h
    · exact invariant_record h hlocked hrecord
    · exact invariant_transition h hget hchecked
  · intro m input next _ henv h
    obtain rfl := Option.some.inj henv
    exact ⟨h.linked, h.owned⟩

theorem recorded_of_steps (hsteps : Relation.ReflTransGen (Step (taskSystem runtime scopeId) cond) c d)
    (h : Recorded c.now.state lookup receiptId) : Recorded d.now.state lookup receiptId := by
  refine steps_invariant (I := fun store => Recorded store lookup receiptId) hsteps h ?_ ?_
  · intro outside command resp store next hexec hrecorded
    exact hrecorded.exec hexec
  · intro m input next _ henv hrecorded
    obtain rfl := Option.some.inj henv
    exact hrecorded

theorem taskAnswer_of_answering {outside : TaskOutside} {store next : TaskStore}
    {answer : Except TaskError α × TaskStore} {resp : Except TaskError α}
    (hexec : some (outside.answering store answer) = some (resp, next))
    (hclean : ∀ error, resp ≠ .error (.outside error)) : answer = (resp, next) := by
  rcases TaskOutside.answering_cases (Option.some.inj hexec) with h | ⟨⟨error, h⟩, -⟩
  · exact h.symm
  · exact absurd h (hclean error)

section

variable (hrun : Run (taskSystem runtime scopeId) cond (.ofProjections projections) c)

include hrun

theorem recorded_of_found {ex : List (Exchange TaskCommand TaskCommand.Answer TaskError)}
    (hmem : ∀ x ∈ ex, .performed pid x.cmd x.answer ∈ c.now.past) (h : Found ex lookup receipt) :
    Recorded c.now.state lookup receipt.receiptId := by
  obtain ⟨record, id, row, hrecord, hid, hrow, rfl⟩ := h
  obtain ⟨hhash, -, hresolved⟩ := resolveReplay_eq_ok.mp hid
  obtain ⟨c₀, c₁, outside, hrun₀, hsince, -, hexec⟩ := exec_of_mem hrun (hmem _ hrecord)
  obtain ⟨hget, hstate⟩ := Prod.mk.inj (taskAnswer_of_answering hexec nofun)
  obtain ⟨d₀, d₁, outside', -, -, -, hexec'⟩ := exec_of_mem hrun (hmem _ hrow)
  obtain ⟨hget', -⟩ := Prod.mk.inj (taskAnswer_of_answering hexec' nofun)
  have hstored := Except.ok.inj hget
  refine recorded_of_steps hsince ?_
  rw [← hstate]
  refine ⟨record, Sql.Table.mem_of_get hstored, Sql.Table.key_of_get hstored, hhash, ?_⟩
  rw [(invariant_of_run hrun₀).ref (Sql.Table.mem_of_get hstored) hresolved,
    ← Sql.Table.key_of_get (Except.ok.inj hget')]
  rfl

theorem recorded_of_finished (hspawned : .spawned pid (.submit delivery) ∈ c.now.past)
    (hfinished : .finished pid (.ok receipt) ∈ c.now.past) :
    ∃ parsed organizationId, checkDelivery delivery = .ok parsed ∧
      Recorded c.now.state
        ⟨delivery.scope organizationId, requestHash runtime delivery parsed⟩ receipt.receiptId := by
  obtain ⟨ex, hends, hmem⟩ := ends_of_finished hrun hspawned hfinished
  have hfind : ∀ task, ⟨.findTask delivery.visibility delivery.taskId, .ok (some task)⟩ ∈ ex →
      task.task.id = delivery.taskId := by
    intro task hx
    obtain ⟨c₀, c₁, outside, -, -, -, hexec⟩ := exec_of_mem hrun (hmem _ hx)
    obtain ⟨hfound, -⟩ := Prod.mk.inj (taskAnswer_of_answering hexec nofun)
    exact id_of_findTask hfound
  obtain ⟨parsed, organizationId, hparsed, hfound | ⟨input, hscope, hhash, hanswered⟩⟩ :=
    ends_submit_ok hends hfind
  · exact ⟨parsed, organizationId, hparsed, recorded_of_found hrun hmem hfound⟩
  · refine ⟨parsed, organizationId, hparsed, ?_⟩
    obtain ⟨c₀, c₁, outside, hrun₀, hsince, -, hexec⟩ := exec_of_mem hrun (hmem _ hanswered)
    have haccept := taskAnswer_of_answering hexec nofun
    rw [← hscope, ← hhash]
    exact recorded_of_steps hsince (recorded_of_accept (invariant_of_run hrun₀) haccept)

end

theorem Follows.extend {past since : List TaskEvent} (h : Follows past pid delivery receiptId) :
    Follows (since ++ past) pid delivery receiptId := by
  obtain ⟨recent, older, pid₀, delivery₀, receipt₀, rfl, hrest⟩ := h
  exact ⟨since ++ recent, older, pid₀, delivery₀, receipt₀, (List.append_assoc _ _ _).symm, hrest⟩

theorem SameCommand.looked_up {delivery₀ : TaskDelivery} (runtime : TaskRuntime)
    (h : SameCommand delivery delivery₀) :
    checkDelivery delivery = checkDelivery delivery₀ ∧
      (∀ organizationId, delivery.scope organizationId = delivery₀.scope organizationId) ∧
      ∀ parsed, requestHash runtime delivery parsed = requestHash runtime delivery₀ parsed := by
  obtain ⟨htask, hactor, hkey, hbody⟩ := h
  refine ⟨?_, fun organizationId => ?_, fun parsed => ?_⟩
  · simp only [checkDelivery, htask, hkey, hbody]
  · simp only [TaskDelivery.scope, htask, hactor, hkey]
  · simp only [requestHash, htask, hactor]

theorem row_of_recorded {store : TaskStore} (h : TaskInvariant store)
    (hrecorded : Recorded store lookup receiptId) :
    ∃ row, store.receipts.get row.id = some row ∧ exposedReceiptId row.id = receiptId ∧
      row.record.scope = lookup.scope ∧ store.idempotency.get lookup.scope = some row.record ∧
      resolveReplay lookup row.record = .ok row.id := by
  obtain ⟨record, hmem, hscope, hhash, href⟩ := hrecorded
  obtain ⟨row, hrow, rfl⟩ := h.row hmem
  refine ⟨row, hrow, Option.some.inj href, hscope, ?_, ?_⟩
  · rw [← hscope]
    exact Sql.Table.get_of_mem hmem
  · refine resolveReplay_eq_ok.mpr ⟨hhash, rfl, ?_⟩
    simp [TaskReceipt.record]

/-- A statement of a delivery was answered in a state in which its key was recorded. -/
def AnsweredRecorded (scopeId : JsString) (pid : ℕ) (delivery : TaskDelivery)
    (receiptId : JsString) (lookup : TaskIdempotencyLookup) (command : TaskCommand)
    (resp : Except TaskError command.Answer) : Prop :=
  ∃ (m : TaskMoment) (next : TaskStore) (outside : TaskOutside),
    FindsTask scopeId m (.perform pid command) ∧
      execTask scopeId outside command m.state = some (resp, next) ∧
      (∀ error, resp ≠ .error (.outside error)) ∧ Follows m.past pid delivery receiptId ∧
      TaskInvariant m.state ∧ Recorded m.state lookup receiptId

theorem answered_of_performed {b b' : TaskConfig} {command : TaskCommand}
    {resp : Except TaskError command.Answer}
    (hrun : Run (taskSystem runtime scopeId) (FindsTask scopeId) (.ofProjections projections) b)
    (hstep : Step (taskSystem runtime scopeId) (FindsTask scopeId) b b')
    (hspawned : b'.now.past = .spawned pid (.submit delivery) :: b.now.past)
    (hsteps : Relation.ReflTransGen (Step (taskSystem runtime scopeId) (FindsTask scopeId)) b' c)
    (hfollows : Follows b'.now.past pid delivery receiptId)
    (hrecorded : Recorded b.now.state lookup receiptId) (hclean : ¬ Disturbed c.now.past pid)
    (hperformed : .performed pid command resp ∈ c.now.past) :
    AnsweredRecorded scopeId pid delivery receiptId lookup command resp := by
  obtain ⟨c₀, c₁, outside, hsince, hcond, hexec, -⟩ :=
    performed_since_spawn hrun hstep hspawned hsteps hperformed
  obtain ⟨since, hsuffix⟩ := past_suffix_of_steps hsince
  refine ⟨c₀.now, c₁.now.state, outside, hcond, hexec, ?_, ?_, ?_, ?_⟩
  · rintro error rfl
    exact hclean ⟨command, error, hperformed⟩
  · rw [← hsuffix]
    exact hfollows.extend
  · exact invariant_of_run ((hrun.tail hstep).trans hsince)
  · exact recorded_of_steps ((Relation.ReflTransGen.single hstep).trans hsince) hrecorded

theorem replayed_of_follows
    (hrun : Run (taskSystem runtime scopeId) (FindsTask scopeId) (.ofProjections projections) c)
    (hfollows : Follows c.now.past pid delivery receiptId)
    (hfinished : .finished pid result ∈ c.now.past) (hclean : ¬ Disturbed c.now.past pid) :
    ∃ receipt, result = .ok receipt ∧ receipt.receiptId = receiptId := by
  obtain ⟨recent, older, pid₀, delivery₀, receipt₀, hpast, hspawned₀, hfinished₀, hsame, hid⟩ :=
    id hfollows
  obtain ⟨b, b', hrunB, hstep, hsteps, hpastB, hpastB'⟩ := hrun.split hpast
  rw [← hpastB] at hspawned₀ hfinished₀
  obtain ⟨parsed, organizationId, hparsed, hrecorded⟩ :=
    recorded_of_finished hrunB hspawned₀ hfinished₀
  obtain ⟨hcheck, hscope, hhash⟩ := hsame.looked_up runtime
  rw [← hscope, ← hhash, hid] at hrecorded
  rw [← hcheck] at hparsed
  have hspawned : .spawned pid (.submit delivery) ∈ c.now.past := by
    rw [hpast]
    exact List.mem_append_right _ List.mem_cons_self
  have hfollowsB : Follows b'.now.past pid delivery receiptId := by
    rw [hpastB', ← hpastB]
    exact ⟨[], _, pid₀, delivery₀, receipt₀, rfl, hspawned₀, hfinished₀, hsame, hid⟩
  have hanswered : ∀ {command resp}, .performed pid command resp ∈ c.now.past →
      AnsweredRecorded scopeId pid delivery receiptId
        ⟨delivery.scope organizationId, requestHash runtime delivery parsed⟩ command resp :=
    answered_of_performed hrunB hstep (hpastB'.trans (by rw [hpastB])) hsteps hfollowsB hrecorded
      hclean
  obtain ⟨row, -, hrowId, -⟩ := row_of_recorded (invariant_of_run hrunB) hrecorded
  obtain ⟨ex, hends, hperformed⟩ := ends_of_finished hrun hspawned hfinished
  have hmem : ∀ {command answer}, ⟨command, answer⟩ ∈ ex →
      .performed pid command answer ∈ c.now.past := fun hx => hperformed _ hx
  rw [← hrowId]
  refine ends_submit_of_recorded organizationId hparsed ?_ ?_ ?_ ?_ hends
  · intro answer hx
    obtain ⟨m, next, outside, hfinds, hexec, hresp, hfollows₀, hinv, hrecorded₀⟩ :=
      hanswered (hmem hx)
    obtain ⟨task, htask, row', hrow', hrowId', horganization⟩ := hfinds delivery receiptId hfollows₀
    obtain ⟨hanswer, -⟩ := Prod.mk.inj (taskAnswer_of_answering hexec hresp)
    refine ⟨task, ?_, ?_⟩
    · exact hanswer.symm.trans (findTask_of_visible htask)
    · obtain ⟨row₀, hget, hrowId₀, hscope₀, -⟩ := row_of_recorded hinv hrecorded₀
      have hrows : row₀ = row' := Sql.Table.eq_of_key_eq (Sql.Table.mem_of_get hget) hrow'
        (exposedReceiptId_inj (hrowId₀.trans hrowId'.symm))
      rw [← horganization, ← hrows]
      exact congrArg TaskIdempotencyScope.organizationId hscope₀
  · intro input answer hx
    obtain ⟨m, next, outside, -, hexec, hresp, -⟩ := hanswered (hmem hx)
    exact (Prod.mk.inj (taskAnswer_of_answering hexec hresp)).1.symm
  · intro answer hx
    obtain ⟨m, next, outside, -, hexec, hresp, -, hinv, hrecorded₀⟩ := hanswered (hmem hx)
    obtain ⟨hanswer, -⟩ := Prod.mk.inj (taskAnswer_of_answering hexec hresp)
    obtain ⟨row₀, -, hrowId₀, -, hget, hresolved⟩ := row_of_recorded hinv hrecorded₀
    refine ⟨row₀.record, ?_, ?_⟩
    · rw [← hanswer, hget]
    · rw [hresolved, exposedReceiptId_inj (hrowId₀.trans hrowId.symm)]
  · intro answer hx
    obtain ⟨m, next, outside, -, hexec, hresp, -, hinv, hrecorded₀⟩ := hanswered (hmem hx)
    obtain ⟨hanswer, -⟩ := Prod.mk.inj (taskAnswer_of_answering hexec hresp)
    obtain ⟨row₀, hget, hrowId₀, -⟩ := row_of_recorded hinv hrecorded₀
    have hsameId := exposedReceiptId_inj (hrowId₀.trans hrowId.symm)
    refine ⟨row₀, ?_, hsameId⟩
    rw [← hanswer, ← hsameId, hget]

/-- In every run in which a repeated delivery finds its task where the first one found it,
task commands are exactly-once. -/
theorem exactlyOnce_of_findsTask (runtime : TaskRuntime) (scopeId : JsString)
    (projections : ProjectionTable) :
    ExactlyOnce runtime scopeId projections (FindsTask scopeId) where
  oneReceipt := fun _ _ hrow _ hrow' hcommand => Sql.Indexed.eq_of_index_eq hrow hrow' hcommand
  oneOwner := fun hrun => (invariant_of_run hrun).owned
  replayed := replayed_of_follows

end Runs

/-! ## A task that has left the projection -/

def sampleTask : GlobalTask where
  id := js "task-1"
  version := 1
  goalId := js "goal"
  title := js "title"
  kind := .issue
  priority := .p1
  stage := .running
  status := ⟨js "running", js "Running", .info⟩
  progress := ⟨50, 0⟩
  attention := ⟨false, 0, .none, js "", js "", js "", none, none, none⟩
  execution := ⟨.worker, none, js "worker", 0, js "checkpoint"⟩
  action := ⟨.inspectRun, js "Inspect", true, .viewer, none⟩
  detail := ⟨js "", js "", js ""⟩
  deliveryEvidence := none

def publishTasks (digest : String) (tasks : List GlobalTask) : PublishInput where
  scope := ⟨js "workbench", js "organization", js "project"⟩
  cursor := none
  digest := js digest
  snapshot :=
    { revision := 0
      generatedAt := 0
      summary := { metrics := [], taskCounts := taskCounts tasks }
      tasks := tasks }

theorem natAbs_one_le : Int.natAbs 1 ≤ 9007199254740991 := by decide

def inspection : TaskDelivery where
  taskId := js "task-1"
  actorId := js "actor"
  visibility := ⟨js "actor", [js "organization"], []⟩
  requestId := js "request-1"
  idempotencyKey := js "inspect-1"
  body := .object [(js "action", .string (js "inspect_run")),
    (js "expectedVersion", .number (.safeInteger 1 natAbs_one_le))]

def constantRuntime : TaskRuntime where
  sha256 := fun _ => List.replicate 64 0x61
  before := fun _ _ => true

def firstUuid : Uuid where
  text := js "00000000-0000-4000-8000-000000000001"
  valid := by decide

def answered : TaskOutside where
  failure := none
  id := firstUuid
  clock := 0

def departed : List (Action TaskCall TaskOutside PublishInput) :=
  [.change (publishTasks "1" [sampleTask]), .spawn (.submit inspection)] ++
    List.replicate 6 (.perform 0 answered) ++
    [.finish 0, .change (publishTasks "2" [])]

def submittedBy (pid : ℕ) (past : List TaskEvent) : List TaskCall :=
  past.filterMap fun e => match e with
    | .spawned pid' submitted => if pid' = pid then some submitted else none
    | _ => none

def returnedBy (pid : ℕ) (past : List TaskEvent) : List (Except TaskError CommandReceipt) :=
  past.filterMap fun e => match e with
    | .finished pid' result => if pid' = pid then some result else none
    | _ => none

def isDisturbance (pid : ℕ) (e : TaskEvent) : Bool :=
  match e with
  | .performed pid' _ (.error (.outside _)) => pid' = pid
  | _ => false

variable {past : List TaskEvent}

theorem mem_of_mem_submittedBy {call : TaskCall} (h : call ∈ submittedBy pid past) :
    .spawned pid call ∈ past := by
  obtain ⟨e, he, hmatch⟩ := List.mem_filterMap.mp h
  split at hmatch
  · next pid' call' =>
    by_cases hpid : pid' = pid
    · rw [if_pos hpid] at hmatch
      obtain rfl := Option.some.inj hmatch
      rw [← hpid]
      exact he
    · rw [if_neg hpid] at hmatch
      cases hmatch
  · cases hmatch

theorem mem_of_mem_returnedBy (h : result ∈ returnedBy pid past) : .finished pid result ∈ past := by
  obtain ⟨e, he, hmatch⟩ := List.mem_filterMap.mp h
  split at hmatch
  · next pid' result' =>
    by_cases hpid : pid' = pid
    · rw [if_pos hpid] at hmatch
      obtain rfl := Option.some.inj hmatch
      rw [← hpid]
      exact he
    · rw [if_neg hpid] at hmatch
      cases hmatch
  · cases hmatch

theorem not_disturbed (h : past.any (isDisturbance pid) = false) : ¬ Disturbed past pid := by
  rintro ⟨command, error, hmem⟩
  have hnot := List.any_eq_false.mp h _ hmem
  exact hnot (by simp [isDisturbance])

def receiptIdOf : Except TaskError CommandReceipt → Option JsString
  | .ok receipt => some receipt.receiptId
  | .error _ => none

/-- What is seen before the command is delivered again, and what the second delivery
returns. -/
structure RedeliveryView where
  calls : List TaskCall
  returned : List (Option JsString)
  next : ℕ
  redelivered : Option (List (Option JsString) × Bool)
  deriving DecidableEq

def redeliveryView (c : TaskConfig) : RedeliveryView where
  calls := submittedBy 0 c.now.past
  returned := (returnedBy 0 c.now.past).map receiptIdOf
  next := c.next
  redelivered := (execute (taskSystem constantRuntime (js "workbench")) c
    [.spawn (.submit inspection), .perform 1 answered, .finish 1]).map fun d =>
      ((returnedBy 1 d.now.past).map receiptIdOf, d.now.past.any (isDisturbance 1))

/-- The second delivery does not find the task, and so does not look for the receipt. -/
theorem not_exactlyOnce : ¬ ExactlyOnce constantRuntime (js "workbench") (Sql.Table.empty _)
    fun _ _ => True := by
  intro hclaim
  have hexec : (execute (taskSystem constantRuntime (js "workbench"))
      (Config.initial (.ofProjections (Sql.Table.empty _))) departed).map redeliveryView = some
        { calls := [.submit inspection]
          returned := [some (exposedReceiptId firstUuid)]
          next := 1
          redelivered := some ([none], false) } := by
    decide +kernel
  obtain ⟨c, hc, hview⟩ := Option.map_eq_some_iff.mp hexec
  obtain ⟨hcalls, hreturned, hnext, hredelivered⟩ := RedeliveryView.mk.inj hview
  obtain ⟨d, hd, hrefused⟩ := Option.map_eq_some_iff.mp hredelivered
  obtain ⟨hnone, hclean⟩ := Prod.mk.inj hrefused
  obtain ⟨result₀, hresult₀, hid⟩ := List.map_eq_singleton_iff.mp hreturned
  obtain ⟨result, hresult, hfailed⟩ := List.map_eq_singleton_iff.mp hnone
  have hspawned : .spawned 0 (.submit inspection) ∈ c.now.past :=
    mem_of_mem_submittedBy (by rw [hcalls]; exact List.mem_singleton_self _)
  have hfinished : .finished 0 result₀ ∈ c.now.past :=
    mem_of_mem_returnedBy (by rw [hresult₀]; exact List.mem_singleton_self _)
  cases result₀ with
  | error error => cases hid
  | ok receipt₀ =>
      obtain ⟨c', hstep, hrest⟩ : ∃ c', step (taskSystem constantRuntime (js "workbench")) c
          (.spawn (.submit inspection)) = some c' ∧
          execute (taskSystem constantRuntime (js "workbench")) c'
            [.perform 1 answered, .finish 1] = some d := ⟨_, rfl, hd⟩
      have hpast : c'.now.past = .spawned 1 (.submit inspection) :: c.now.past := by
        rw [← hnext, ← Option.some.inj hstep]
        rfl
      have hfollows : Follows c'.now.past 1 inspection receipt₀.receiptId := by
        rw [hpast]
        exact ⟨[], _, 0, inspection, receipt₀, rfl, hspawned, hfinished, ⟨rfl, rfl, rfl, rfl⟩, rfl⟩
      have hsteps := execute_sound hrest
      obtain ⟨since, hsuffix⟩ := past_suffix_of_steps hsteps
      have hrun := ((reached_of_execute hc).tail (step_sound hstep)).trans hsteps
      obtain ⟨receipt, hok, -⟩ := hclaim.replayed hrun (hsuffix ▸ hfollows.extend)
        (mem_of_mem_returnedBy (by rw [hresult]; exact List.mem_singleton_self _))
        (not_disturbed hclean)
      rw [hok] at hfailed
      cases hfailed

end DevHarness.Workbench
