import DevHarness.Text.Decimals
import DevHarness.Workbench.PageRoute

/-!
# Following the pages

A reader follows `nextCursor` from page to page.  The pages are cut from the visible tasks of
all projects, by rank; but a rank is the place of a task among those of its own project.
-/

namespace DevHarness.Workbench

open JsText

variable {offset : ℕ}

/-- `getWorkbench` of `PostgresWorkbenchReadRepository` over a store whose `readPage` may
throw. -/
def getWorkbenchFrom
    (readPage : ReadPersistedTasksInput → Except PageFailure PersistedWorkbenchPage)
    (scopeId : JsString) (visibility : ActorVisibilityScope) (query : WorkbenchQuery) :
    Except PageFailure WorkbenchPage :=
  let limit := query.limit.getD 50
  if limit < 1 ∨ 100 < limit then .error (.query limitProblem)
  else
    match decodeWorkbenchCursor query.cursor with
    | .error problem => .error (.query problem)
    | .ok offset =>
      match readPage
          { scopeId := scopeId
            visibility := visibility
            goalId := query.goalId
            filter := query.filter
            offset := offset
            limit := limit } with
      | .error failure => .error failure
      | .ok page =>
        if page.total < offset then
          .error (.query ⟨js "cursor 超出当前结果范围", .cursor⟩)
        else
          let nextOffset := offset + page.tasks.length
          .ok
            { data :=
                { revision := page.snapshot.revision
                  generatedAt := page.snapshot.generatedAt
                  summary := page.snapshot.summary
                  tasks := page.tasks }
              page :=
                { nextCursor :=
                    if nextOffset < page.total then some (encodeWorkbenchCursor nextOffset)
                    else none
                  total := page.total }
              cacheTag := page.snapshot.cacheTag }

/-! ## Following the cursors -/

/-- The pages that are read from a cursor on, until a page names no next one. -/
inductive FollowsPages (read : Option JsString → Except PageFailure WorkbenchPage) :
    Option JsString → List WorkbenchPage → Prop
  | last {cursor page} (hread : read cursor = .ok page) (hlast : page.page.nextCursor = none) :
      FollowsPages read cursor [page]
  | more {cursor page next pages} (hread : read cursor = .ok page)
      (hnext : page.page.nextCursor = some next) (hrest : FollowsPages read (some next) pages) :
      FollowsPages read cursor (page :: pages)

section Following

variable {read : Option JsString → Except PageFailure WorkbenchPage} {cursor : Option JsString}
  {pages pages' : List WorkbenchPage}

theorem FollowsPages.unique (h : FollowsPages read cursor pages) (h' : FollowsPages read cursor pages') :
    pages = pages' := by
  induction h generalizing pages' with
  | last hread hlast =>
      cases h' with
      | last hread' hlast' => rw [Except.ok.inj (hread.symm.trans hread')]
      | more hread' hnext' hrest' =>
          obtain rfl := Except.ok.inj (hread.symm.trans hread')
          cases hlast.symm.trans hnext'
  | more hread hnext hrest ih =>
      cases h' with
      | last hread' hlast' =>
          obtain rfl := Except.ok.inj (hread.symm.trans hread')
          cases hlast'.symm.trans hnext
      | more hread' hnext' hrest' =>
          obtain rfl := Except.ok.inj (hread.symm.trans hread')
          obtain rfl := Option.some.inj (hnext.symm.trans hnext')
          rw [ih hrest']

end Following

/-! ## The pages of the node-postgres store -/

/-- `readPage` of `NodePostgresWorkbenchReadStore`.  The counts of its queries are cast to
`integer`, which throws from `2 ^ 31` on, as an offset does that is no `bigint`. -/
def readNodePage (runtime : ReadRuntime) (tables : WorkbenchTables)
    (input : ReadPersistedTasksInput) : Except PageFailure PersistedWorkbenchPage :=
  if 2 ^ 31 ≤ tables.tasks.rows.countP (NodePostgresWorkbenchReadStore.whereClause input false) ∨
      2 ^ 63 ≤ input.offset then
    .error .other
  else .ok (NodePostgresWorkbenchReadStore.readPage runtime tables input)

/-- What a reader asks for: whose projects, and which tasks of them. -/
structure PagedQuery where
  scopeId : JsString
  visibility : ActorVisibilityScope
  goalId : Option JsString
  filter : Option TaskFilter
  limit : Option ℕ

def PagedQuery.read (query : PagedQuery) (runtime : ReadRuntime) (tables : WorkbenchTables)
    (cursor : Option JsString) : Except PageFailure WorkbenchPage :=
  getWorkbenchFrom (readNodePage runtime tables) query.scopeId query.visibility
    { goalId := query.goalId
      filter := query.filter
      cursor := cursor
      limit := query.limit }

def PagedQuery.input (query : PagedQuery) (offset : ℕ) : ReadPersistedTasksInput where
  scopeId := query.scopeId
  visibility := query.visibility
  goalId := query.goalId
  filter := query.filter
  offset := offset
  limit := query.limit.getD 50

def PagedQuery.rows (query : PagedQuery) (tables : WorkbenchTables) (includeListFilter : Bool) :
    List WorkbenchTaskRow :=
  tables.tasks.rows.filter
    (NodePostgresWorkbenchReadStore.whereClause (query.input 0) includeListFilter)

section Paged

variable {runtime : ReadRuntime} {tables : WorkbenchTables} {query : PagedQuery}

def PagedQuery.listed (query : PagedQuery) (tables : WorkbenchTables) : List WorkbenchTaskRow :=
  Sql.orderBy WorkbenchTaskRow.listedBefore (query.rows tables true)

section

variable (hlimit : 1 ≤ query.limit.getD 50 ∧ query.limit.getD 50 ≤ 100)

include hlimit

end

end Paged

end DevHarness.Workbench
