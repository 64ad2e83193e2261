import DevHarness.TaskQueue.ImportReceipts

/-!
# Imports are exact

A new plan is imported issue by issue, or not at all.
-/

namespace DevHarness.TaskQueue

open PyText Sequence

def Queue.importRecords? (queue : Queue) : Option (List Value) :=
  (queue.imports.getD (.list [])).list?

/-- The record is a mapping whose keys can be read. -/
def ReadableRecord (value : Value) : Prop :=
  ∃ record keys, value.dict? = some record ∧ storedKeys record = .ok keys

/-- The record is one of the plan, or is bound to the key. -/
def RecordOf (document : ImportDocument) (key : PyString) (value : Value) : Prop :=
  ∃ record, value.dict? = some record ∧
    ((member record "issue_plan_id").isText document.issuePlanId = true ∨
      ∃ keys, storedKeys record = .ok keys ∧ key ∈ keys)

/-- No import of the plan, and none by the key, is on record. -/
def Queue.NoRecord (queue : Queue) (document : ImportDocument) (key : PyString) : Prop :=
  ∀ imports, queue.importRecords? = some imports → ∀ value ∈ imports, ¬ RecordOf document key value

/-! ## The property -/

/-- The added tasks stand for the issues one by one, and a dependency on an issue is written as the
identifier of the task that stands for it. -/
def Translates (document : ImportDocument) (added : List Task) : Prop :=
  List.Forall₂ (fun imported task => comesFrom document imported.issueKey task = true ∧
    List.Forall₂ (fun key dependencyId => ∃ other ∈ added,
      comesFrom document key other = true ∧ other.ownId = dependencyId)
      imported.dependencies task.dependencyIds) document.tasks added

section Digest

variable (hexdigest : PyString → PyString)

/-- The import appends the tasks of the plan, and gives a receipt for them. -/
def ImportsExactly (outside : Outside) (payload idempotencyKey : Value) (document : ImportDocument)
    (queue : Queue) : Prop :=
  ∃ queue' receipt added,
    importPlan hexdigest outside payload idempotencyKey queue = .ok (queue', receipt) ∧
      queue'.tasks = queue.tasks ++ added ∧ Translates document added ∧
      (added.map Task.ownId).Nodup ∧
      (∀ task ∈ added, task.ownId ∉ queue.tasks.map Task.ownId) ∧ queue'.Valid ∧
      validateStoredReceipt hexdigest receipt document queue'.tasks = .ok receipt

/-- An import that raises leaves the stored document as it is. -/
def ImportsAtomically : Prop :=
  ∀ outside payload idempotencyKey queue error,
    importPlan hexdigest outside payload idempotencyKey queue = .error error →
      after hexdigest queue (outside, .importPlan payload idempotencyKey) = queue

end Digest

/-- The largest number of an identifier `H-…`. -/
def Queue.largestNumber (queue : Queue) : ℕ :=
  maxNumber (queue.tasks.map fun task => task.textOf .id)

def Queue.NumbersBelow (queue : Queue) (bound : ℕ) : Prop :=
  ∀ task ∈ queue.tasks, ∀ n, hNumber (task.textOf .id) = some n → n < (bound : ℤ)

/-- Nothing stands in the way of the import: the records can be read, the identity of the plan can
be encoded, and no task is written with blanks before one of the next numbers. -/
structure Importable (document : ImportDocument) (queue : Queue) : Prop where
  records : ∃ imports, queue.importRecords? = some imports ∧
    ∀ value ∈ imports, ReadableRecord value
  encodable : ∀ c ∈ document.issuePlanId, ¬ (0xD800 ≤ c ∧ c ≤ 0xDFFF)
  free : ∀ task ∈ queue.tasks, ∀ n, task.ownId = numberedId n →
    n ≤ queue.largestNumber ∨ queue.largestNumber + document.tasks.length < n

section Steps

variable {hexdigest : PyString → PyString} {outside : Outside} {payload idempotencyKey : Value}
  {document : ImportDocument} {key : PyString} {queue : Queue} {tasks : List Task}
  {imports : List Value} {result : Queue × Value}

/-- Where no record is one of the plan or the key, the loop goes to the end of the records, or
fails at one that cannot be read. -/
theorem scanRecords_of_noRecord (hnew : ∀ value ∈ imports, ¬ RecordOf document key value)
    {result : Option (Option (List Value) × Value)} :
    scanRecords hexdigest document key tasks imports = .ok result ↔
      result = none ∧ ∀ value ∈ imports, ReadableRecord value := by
  induction imports generalizing result with
  | nil =>
      rw [scanRecords, Except.ok.injEq, eq_comm]
      simp
  | cons value imports ih =>
      obtain ⟨hfirst, hrest⟩ := List.forall_mem_cons.mp hnew
      rw [scanRecords, List.forall_mem_cons]
      cases hrecord : value.dict? with
      | none => simp [ReadableRecord, hrecord]
      | some record =>
          cases hkeys : storedKeys record with
          | error error =>
              have hunreadable : ¬ ReadableRecord value := by
                rintro ⟨other, keys, hother, hread⟩
                obtain rfl := Option.some.inj (hrecord.symm.trans hother)
                rw [hkeys] at hread
                cases hread
              simp [hunreadable, hkeys, bind, Except.bind]
          | ok keys =>
              have hreadable : ReadableRecord value := ⟨record, keys, hrecord, hkeys⟩
              have hplan : (member record "issue_plan_id").isText document.issuePlanId = false :=
                Bool.eq_false_iff.mpr fun h => hfirst ⟨record, hrecord, Or.inl h⟩
              have hkey : key ∉ keys :=
                fun h => hfirst ⟨record, hrecord, Or.inr ⟨keys, hkeys, h⟩⟩
              simp only [hkeys, ok_bind, hplan, hkey, decide_false, Bool.false_and,
                Bool.false_or, Bool.false_eq_true, if_false, bind_eq_ok, ih hrest,
                Except.ok.injEq]
              constructor
              · rintro ⟨found, ⟨rfl, hall⟩, rfl⟩
                exact ⟨rfl, hreadable, hall⟩
              · rintro ⟨rfl, -, hall⟩
                exact ⟨none, ⟨rfl, hall⟩, rfl⟩

theorem importPlan_of_noRecord (hvalid : queue.Valid)
    (hdocument : validateImportRequest payload = .ok document)
    (hkey : boundedText idempotencyKey 255 = .ok key) (hnew : queue.NoRecord document key) :
    importPlan hexdigest outside payload idempotencyKey queue = .ok result ↔
      ∃ imports, queue.importRecords? = some imports ∧ (∀ value ∈ imports, ReadableRecord value) ∧
        appendImport hexdigest outside document key imports queue.loaded = .ok result := by
  have hread : readQueue queue = .ok queue.loaded := readQueue_eq_ok.mpr ⟨hvalid, rfl⟩
  have hloaded : (queue.loaded.imports.getD (.list [])).list? = queue.importRecords? := rfl
  simp only [importPlan, hdocument, hkey, hread, ok_bind, hloaded]
  cases himports : queue.importRecords? with
  | none => simp
  | some imports =>
      have hscan : ∀ result, scanRecords hexdigest document key queue.loaded.tasks imports =
          .ok result ↔ result = none ∧ ∀ value ∈ imports, ReadableRecord value :=
        fun result => scanRecords_of_noRecord (hnew imports himports)
      constructor
      · intro h
        rw [bind_eq_ok] at h
        obtain ⟨found, hfound, h⟩ := h
        obtain ⟨rfl, hall⟩ := (hscan found).mp hfound
        exact ⟨imports, rfl, hall, h⟩
      · rintro ⟨_, hsame, hall, h⟩
        obtain rfl := Option.some.inj hsame
        exact bind_eq_ok.mpr ⟨none, (hscan none).mpr ⟨rfl, hall⟩, h⟩

/-- The identity of the plan can be encoded when its name can: the digest is hexadecimal. -/
theorem exists_importId (hdigest : validDigest document.planDigest = true) :
    (∃ identity, importId hexdigest document = .ok identity) ↔
      ∀ c ∈ document.issuePlanId, ¬ (0xD800 ≤ c ∧ c ≤ 0xDFFF) := by
  have hclean : ∀ c ∈ py ":" ++ document.planDigest, ¬ (0xD800 ≤ c ∧ c ≤ 0xDFFF) := by
    intro c hc
    rcases List.mem_append.mp hc with hc | hc
    · have hcolon : ∀ c ∈ py ":", ¬ (0xD800 ≤ c ∧ c ≤ 0xDFFF) := by decide
      exact hcolon c hc
    · rw [validDigest, Bool.and_eq_true, List.all_eq_true] at hdigest
      have hhex := hdigest.2 c hc
      rw [Bool.or_eq_true, Bool.and_eq_true, Bool.and_eq_true, decide_eq_true_eq,
        decide_eq_true_eq, decide_eq_true_eq, decide_eq_true_eq] at hhex
      rintro ⟨hlow, -⟩
      rcases hhex with ⟨-, hhigh⟩ | ⟨-, hhigh⟩
      · exact absurd (hlow.trans hhigh) (by decide)
      · exact absurd (hlow.trans hhigh) (by decide)
  rw [importId]
  by_cases hany : (document.issuePlanId ++ py ":" ++ document.planDigest).any
      (fun c => 0xD800 ≤ c && c ≤ 0xDFFF) = true
  · rw [if_pos hany]
    obtain ⟨c, hc, hsurrogate⟩ := List.any_eq_true.mp hany
    rw [Bool.and_eq_true, decide_eq_true_eq, decide_eq_true_eq] at hsurrogate
    rw [List.append_assoc, List.mem_append] at hc
    constructor
    · rintro ⟨identity, h⟩
      cases h
    · intro hall
      rcases hc with hc | hc
      · exact absurd hsurrogate (hall c hc)
      · exact absurd hsurrogate (hclean c hc)
  · rw [if_neg hany]
    constructor
    · intro _ c hc hsurrogate
      apply hany
      rw [List.any_eq_true]
      refine ⟨c, ?_, by simpa using hsurrogate⟩
      rw [List.append_assoc]
      exact List.mem_append_left _ hc
    · intro _
      exact ⟨_, rfl⟩

def withImport (outside : Outside) (document : ImportDocument) (key : PyString)
    (imports : List Value) (identity : PyString) (queue : Queue) : Queue :=
  { queue with
    tasks := queue.tasks ++ queueTasks outside document queue.tasks
    imports := some (.list (imports ++ [newRecord outside document key
      (newReceipt document queue.tasks identity)])) }

/-- The end of the import succeeds when the plan can be identified and the result is accepted. -/
theorem appendImport_eq_ok :
    appendImport hexdigest outside document key imports queue = .ok result ↔
      ∃ identity, importId hexdigest document = .ok identity ∧ result.1.Valid ∧
        result.2 = newReceipt document queue.tasks identity ∧
        result.1 = withImport outside document key imports identity queue := by
  obtain ⟨queue', receipt⟩ := result
  simp only [appendImport, bind_eq_ok, Except.ok.injEq, Prod.mk.injEq]
  constructor
  · rintro ⟨identity, hidentity, ⟨⟩, hvalid, rfl, rfl⟩
    exact ⟨identity, hidentity, validateQueue_eq_ok.mp hvalid, rfl, rfl⟩
  · rintro ⟨identity, hidentity, hvalid, rfl, rfl⟩
    exact ⟨identity, hidentity, (), validateQueue_eq_ok.mpr hvalid, rfl, rfl⟩

end Steps

section Allocation

variable {document : ImportDocument} {queue : Queue}

/-- The identifiers that the import hands out. -/
structure AllocatedFor (document : ImportDocument) (queue : Queue) (taskIds : List PyString) :
    Prop where
  length : taskIds.length = document.tasks.length
  nodup : taskIds.Nodup
  wellFormed : ∀ taskId ∈ taskIds, strip taskId = taskId ∧ validTaskId taskId = true
  raw : ∀ task ∈ queue.tasks, task.textOf .id ∉ taskIds
  mem : ∀ taskId, taskId ∈ taskIds ↔ ∃ n, queue.largestNumber < n ∧
    n ≤ queue.largestNumber + document.tasks.length ∧ taskId = numberedId n

theorem allocatedFor (hlimit : document.tasks.length ≤ 100)
    (hnumbers : queue.NumbersBelow (10 ^ 100)) :
    AllocatedFor document queue (allocateTaskIds queue.tasks document.tasks.length) := by
  have hlargest : queue.largestNumber < 10 ^ 100 := by
    apply maxNumber_lt (Nat.pow_pos (by decide))
    intro rawId hrawId n hn
    obtain ⟨task, htask, rfl⟩ := List.mem_map.mp hrawId
    exact hnumbers task htask n hn
  have hshort : ∀ n ≤ queue.largestNumber + document.tasks.length, HasShortNumber n := by
    intro n hn
    apply hasShortNumber_of_lt
    calc n ≤ queue.largestNumber + document.tasks.length := hn
      _ < 10 ^ 100 + 10 ^ 100 := add_lt_add_of_lt_of_le hlargest (hlimit.trans (by norm_num))
      _ ≤ 10 ^ 126 := by norm_num
  have heq : allocateTaskIds queue.tasks document.tasks.length =
      followingIds queue.largestNumber document.tasks.length := allocateTaskIds_eq hshort
  rw [heq]
  refine ⟨length_followingIds, nodup_followingIds, ?_, ?_, fun taskId => mem_followingIds⟩
  · intro taskId htaskId
    obtain ⟨n, -, hhigh, rfl⟩ := mem_followingIds.mp htaskId
    exact ⟨strip_numberedId n, validTaskId_numberedId (hshort n hhigh)⟩
  · intro task htask hmem
    obtain ⟨n, hlow, hhigh, heq⟩ := mem_followingIds.mp hmem
    have hle : n ≤ queue.largestNumber :=
      le_maxNumber (List.mem_map.mpr ⟨task, htask, heq⟩) (hshort n hhigh)
    omega

/-- An identifier that is handed out is taken when a task is written with blanks before it. -/
theorem AllocatedFor.free_iff {taskIds : List PyString} (h : AllocatedFor document queue taskIds) :
    (∀ task ∈ queue.tasks, task.ownId ∉ taskIds) ↔
      ∀ task ∈ queue.tasks, ∀ n, task.ownId = numberedId n →
        n ≤ queue.largestNumber ∨ queue.largestNumber + document.tasks.length < n := by
  apply forall₂_congr
  intro task _
  rw [h.mem]
  constructor
  · intro hfree n hn
    by_contra hbetween
    exact hfree ⟨n, by omega, by omega, hn⟩
  · rintro hfree ⟨n, hlow, hhigh, hn⟩
    have hbetween := hfree n hn
    omega

end Allocation

/-! ## A plan and a queue -/

def onePlan : Value :=
  .dict [(.str (py "schemaVersion"), .str (py "autodev-queue-import.v1")),
    (.str (py "atomic"), .bool true), (.str (py "issuePlanId"), .str (py "plan")),
    (.str (py "planDigest"), .str (List.replicate 64 0x61)),
    (.str (py "tasks"), .list [.dict [(.str (py "issueKey"), .str (py "A-1")),
      (.str (py "title"), .str (py "title")), (.str (py "goal"), .str (py "goal")),
      (.str (py "developmentPrompt"), .str (List.replicate 80 0x61)),
      (.str (py "acceptance"), .list []), (.str (py "verify"), textList [py "true"]),
      (.str (py "completionEvidence"), .list [.dict [(.str (py "kind"), .str (py "test")),
        (.str (py "description"), .str (py "tests")), (.str (py "required"), .bool true)]]),
      (.str (py "dependencies"), .list []), (.str (py "expectedFiles"), .list []),
      (.str (py "wave"), .int 1), (.str (py "capabilityTier"), .str (py "frontier")),
      (.str (py "reasoningEffort"), .str (py "high")),
      (.str (py "routingPolicyRevision"), .str (py "1"))]])]

def onePlanDocument : ImportDocument where
  issuePlanId := py "plan"
  planDigest := List.replicate 64 0x61
  tasks :=
    [{ issueKey := py "A-1"
       title := py "title"
       goal := py "goal"
       developmentPrompt := List.replicate 80 0x61
       acceptance := []
       verify := [py "true"]
       completionEvidence := [⟨py "test", py "tests", true⟩]
       dependencies := []
       expectedFiles := []
       wave := 1
       capabilityTier := py "frontier"
       reasoningEffort := py "high"
       routingPolicyRevision := py "1" }]

theorem validateImportRequest_onePlan : validateImportRequest onePlan = .ok onePlanDocument := by
  rfl

def finishedQueue (rawId : PyString) : Queue where
  schemaVersion := some (.int 1)
  policy := none
  tasks := [.ofEntries [(.id, .str rawId), (.status, .str (py "done"))]]
  imports := none

theorem noRecord_finishedQueue (rawId key : PyString) :
    (finishedQueue rawId).NoRecord onePlanDocument key := by
  intro imports himports value hvalue
  obtain rfl := Option.some.inj himports
  cases hvalue

theorem numbersBelow_finishedQueue {rawId : PyString} {n bound : ℕ}
    (hread : ((finishedQueue rawId).tasks.map fun task => hNumber (task.textOf .id)) = [some (n : ℤ)])
    (hn : n < bound) : (finishedQueue rawId).NumbersBelow bound := by
  intro task htask m hm
  have hmem := List.mem_map_of_mem (f := fun task : Task => hNumber (task.textOf .id)) htask
  rw [hread, List.mem_singleton, hm] at hmem
  obtain rfl := Option.some.inj hmem
  exact Int.ofNat_lt.mpr hn

section Main

variable {hexdigest : PyString → PyString} {outside : Outside} {payload idempotencyKey : Value}
  {document : ImportDocument} {key : PyString} {queue : Queue} {taskIds : List PyString}

theorem translates_madeTasks (hdocument : document.WellFormed)
    (hlength : taskIds.length = document.tasks.length)
    (hclean : ∀ taskId ∈ taskIds, strip taskId = taskId) :
    Translates document (madeTasks outside document taskIds) := by
  have hfst : (document.tasks.zip taskIds).map Prod.fst = document.tasks :=
    List.map_fst_zip (ge_of_eq hlength)
  have hpairs : List.Forall₂ (fun imported task => ∃ taskId,
      (imported, taskId) ∈ document.tasks.zip taskIds ∧
        task = queueTask outside document taskIds imported taskId)
      ((document.tasks.zip taskIds).map Prod.fst) (madeTasks outside document taskIds) := by
    rw [madeTasks, List.forall₂_map_left_iff, List.forall₂_map_right_iff, List.forall₂_same]
    intro pair hpair
    exact ⟨pair.2, hpair, rfl⟩
  rw [hfst] at hpairs
  apply hpairs.imp
  rintro imported task ⟨taskId, hpair, rfl⟩
  refine ⟨comesFrom_queueTask.mpr rfl, ?_⟩
  rw [dependencyIds_queueTask, List.forall₂_map_right_iff, List.forall₂_same]
  intro key hkey
  obtain ⟨other, otherId, hother, hsame, -, hid⟩ := exists_dependency hdocument hlength hclean
    (List.of_mem_zip hpair).1 hkey
  refine ⟨queueTask outside document taskIds other otherId,
    List.mem_map.mpr ⟨(other, otherId), hother, rfl⟩, comesFrom_queueTask.mpr hsame, ?_⟩
  rw [hid, ownId_queueTask (hclean otherId (List.of_mem_zip hother).2)]

theorem valid_withImport_iff {imports : List Value} {identity : PyString} (hvalid : queue.Valid)
    (hdocument : document.WellFormed)
    (hids : AllocatedFor document queue (allocateTaskIds queue.tasks document.tasks.length)) :
    (withImport outside document key imports identity queue.loaded).Valid ↔
      ∀ task ∈ queue.tasks, task.ownId ∉ allocateTaskIds queue.tasks document.tasks.length := by
  have htasks : (withImport outside document key imports identity queue.loaded).tasks =
      queue.tasks ++ madeTasks outside document
        (allocateTaskIds queue.tasks document.tasks.length) := rfl
  have hschema : checkSchema (withImport outside document key imports identity queue.loaded) =
      .ok () := checkSchema_loaded hvalid.schema
  exact valid_madeTasks_iff hvalid hdocument hids.length hids.nodup hids.wellFormed hschema htasks

theorem importsAtomically : ImportsAtomically hexdigest := by
  intro outside payload idempotencyKey queue error h
  rw [after, perform, h]
  rfl

section

variable (hvalid : queue.Valid) (hdocument : validateImportRequest payload = .ok document)
  (hkey : boundedText idempotencyKey 255 = .ok key) (hnew : queue.NoRecord document key)
  (hnumbers : queue.NumbersBelow (10 ^ 100))

include hvalid hdocument hkey hnew hnumbers

theorem importable_of_importsExactly
    (h : ImportsExactly hexdigest outside payload idempotencyKey document queue) :
    Importable document queue := by
  obtain ⟨hlimit, hdigest⟩ := validateImportRequest_limits hdocument
  have hwell := validateImportRequest_eq_ok hdocument
  have hids := allocatedFor hlimit hnumbers
  obtain ⟨queue', receipt, -, himport, -⟩ := h
  obtain ⟨imports, himports, hreadable, happend⟩ :=
    (importPlan_of_noRecord hvalid hdocument hkey hnew).mp himport
  obtain ⟨identity, hidentity, hvalid', -, hqueue⟩ := appendImport_eq_ok.mp happend
  refine ⟨⟨imports, himports, hreadable⟩, (exists_importId hdigest).mp ⟨identity, hidentity⟩, ?_⟩
  rw [show queue' = _ from hqueue] at hvalid'
  exact hids.free_iff.mp ((valid_withImport_iff hvalid hwell hids).mp hvalid')

theorem importsExactly_of_importable (h : Importable document queue) :
    ImportsExactly hexdigest outside payload idempotencyKey document queue := by
  obtain ⟨hlimit, hdigest⟩ := validateImportRequest_limits hdocument
  have hwell := validateImportRequest_eq_ok hdocument
  have hids := allocatedFor hlimit hnumbers
  obtain ⟨identity, hidentity⟩ : ∃ identity, importId hexdigest document = .ok identity :=
    (exists_importId hdigest).mpr h.encodable
  obtain ⟨imports, himports, hreadable⟩ := h.records
  have hfree := hids.free_iff.mpr h.free
  have hclean := fun taskId htaskId => (hids.wellFormed taskId htaskId).1
  have hown : (madeTasks outside document
      (allocateTaskIds queue.tasks document.tasks.length)).map Task.ownId = _ :=
    map_ownId_madeTasks hids.length hclean
  have hvalid' : (withImport outside document key imports identity queue.loaded).Valid :=
    (valid_withImport_iff hvalid hwell hids).mpr hfree
  have happend : appendImport hexdigest outside document key imports queue.loaded =
      .ok (withImport outside document key imports identity queue.loaded,
        newReceipt document queue.tasks identity) :=
    appendImport_eq_ok.mpr ⟨identity, hidentity, hvalid', rfl, rfl⟩
  refine ⟨_, _, madeTasks outside document (allocateTaskIds queue.tasks document.tasks.length),
    (importPlan_of_noRecord hvalid hdocument hkey hnew).mpr
    ⟨imports, himports, hreadable, happend⟩, rfl,
    translates_madeTasks hwell hids.length hclean, ?_, ?_, hvalid', ?_⟩
  · rw [hown]
    exact hids.nodup
  · intro task htask hold
    have hmem := List.mem_map_of_mem (f := Task.ownId) htask
    obtain ⟨other, hother, hid⟩ := List.mem_map.mp hold
    rw [hown, ← hid] at hmem
    exact hfree other hother hmem
  · apply validateStoredReceipt_made hwell hids.length hids.nodup hids.raw hidentity
    rw [keyPairs, List.map_map]
    rfl

end

/-- A new plan is imported exactly, or not at all; it is imported exactly when nothing stands in
the way. -/
theorem importsExactly_iff (hvalid : queue.Valid)
    (hdocument : validateImportRequest payload = .ok document)
    (hkey : boundedText idempotencyKey 255 = .ok key) (hnew : queue.NoRecord document key)
    (hnumbers : queue.NumbersBelow (10 ^ 100)) :
    (ImportsExactly hexdigest outside payload idempotencyKey document queue ∧
      ImportsAtomically hexdigest) ↔ Importable document queue := by
  constructor
  · rintro ⟨h, -⟩
    exact importable_of_importsExactly hvalid hdocument hkey hnew hnumbers h
  · intro h
    exact ⟨importsExactly_of_importable hvalid hdocument hkey hnew hnumbers h, importsAtomically⟩

theorem importsExactly_iff_finishedQueue :
    (ImportsExactly (fun _ => []) ⟨[], []⟩ onePlan (.str (py "key")) onePlanDocument
      (finishedQueue (py "H-001")) ∧ ImportsAtomically fun _ => []) ↔
      Importable onePlanDocument (finishedQueue (py "H-001")) :=
  importsExactly_iff (by decide +kernel) validateImportRequest_onePlan rfl
    (noRecord_finishedQueue _ _) (numbersBelow_finishedQueue (n := 1) (by decide +kernel)
      (Nat.one_lt_pow (by decide) (by decide)))

/-- A task whose identifier has a blank before it: the allocator takes no notice of it, and the
validator does. -/
theorem not_importsExactly : ¬ ∀ (hexdigest : PyString → PyString) (outside : Outside)
    (payload idempotencyKey : Value) (document : ImportDocument) (key : PyString) (queue : Queue),
    queue.Valid → validateImportRequest payload = .ok document →
      boundedText idempotencyKey 255 = .ok key → queue.NoRecord document key →
      queue.NumbersBelow (10 ^ 100) →
      ImportsExactly hexdigest outside payload idempotencyKey document queue ∧
        ImportsAtomically hexdigest := by
  intro h
  have hvalid : (finishedQueue (py " H-001")).Valid := by decide +kernel
  have hkey : boundedText (.str (py "key")) 255 = .ok (py "key") := rfl
  have hnew := noRecord_finishedQueue (py " H-001") (py "key")
  have hnumbers : (finishedQueue (py " H-001")).NumbersBelow (10 ^ 100) := by
    intro task htask n hn
    obtain rfl := List.mem_singleton.mp htask
    cases hn
  obtain ⟨hexactly, -⟩ := h (fun _ => []) ⟨[], []⟩ onePlan (.str (py "key")) onePlanDocument
    (py "key") _ hvalid validateImportRequest_onePlan hkey hnew hnumbers
  have himportable := importable_of_importsExactly hvalid validateImportRequest_onePlan hkey hnew
    hnumbers hexactly
  have htaken := himportable.free _ List.mem_cons_self 1 (by decide +kernel)
  revert htaken
  decide +kernel

end Main

end DevHarness.TaskQueue
