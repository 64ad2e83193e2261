import Mathlib.Data.Nat.Digits.Defs
import DevHarness.Text.SearchParams
import DevHarness.Text.Stringify
import DevHarness.Workbench.ReadStores

/-!
# The workbench page over HTTP

`GET /api/v1/workbench`: the query is read from the search parameters, the page from the
rows that the actor can see, and the answer carries a validator, a digest of the visibility
scope, the revisions that were read and the search parameters.  A request whose validator
is still current is answered without a body.
-/

namespace DevHarness.Workbench

open JsText
open ControlPlane (Thrown)

/-! ## Queries -/

inductive WorkbenchQueryField
  | goalId
  | filter
  | cursor
  | limit

structure WorkbenchQuery where
  goalId : Option JsString
  filter : Option TaskFilter
  cursor : Option JsString
  limit : Option ℕ

/-- What is wrong with a query: `WorkbenchRepositoryError`, and the argument of
`validationError`. -/
structure QueryProblem where
  message : JsString
  field : WorkbenchQueryField

def taskFilters : List TaskFilter :=
  [.all, .attention, .running, .review, .blocked, .waiting]

/-- `value || undefined`. -/
def orUndefined (value : Option JsString) : Option JsString :=
  value.filter fun text => !text.isEmpty

def limitProblem : QueryProblem where
  message := js "limit 必须是 1 到 100 的整数"
  field := .limit

/-- `/^[A-Za-z0-9_-]{1,64}$/`. -/
def isGoalId (text : JsString) : Bool :=
  0 < text.length && text.length ≤ 64 && text.all fun u => isLetterOrDigit u || u ∈ js "_-"

def parseFilter (params : SearchParams) : Except QueryProblem (Option TaskFilter) :=
  match orUndefined (params.get "filter") with
  | none => .ok none
  | some text =>
    match taskFilters.find? fun filter => filter.text = text with
    | some filter => .ok (some filter)
    | none => .error ⟨js "不支持的 filter：" ++ text, .filter⟩

def parseLimit (params : SearchParams) : Except QueryProblem (Option ℕ) :=
  match orUndefined (params.get "limit") with
  | none => .ok none
  | some text =>
    if text.all isDigit then
      if digitsValue text < 1 ∨ 100 < digitsValue text then .error limitProblem
      else .ok (some (digitsValue text))
    else .error limitProblem

def parseGoalId (params : SearchParams) : Except QueryProblem (Option JsString) :=
  match orUndefined ((params.get "goalId").map trim) with
  | none => .ok none
  | some text =>
    if isGoalId text then .ok (some text) else .error ⟨js "goalId 格式无效", .goalId⟩

def parseQuery (params : SearchParams) : Except QueryProblem WorkbenchQuery := do
  let filter ← parseFilter params
  let limit ← parseLimit params
  let goalId ← parseGoalId params
  pure
    { goalId := goalId
      filter := filter
      cursor := orUndefined (params.get "cursor")
      limit := limit }

/-! ## Pages -/

/-- `Number(digits)`: the nearest double, and of two the even one. -/
def nearestDouble (n : ℕ) : ℕ :=
  if n < 2 ^ 53 then n
  else
    let unit := 2 ^ (n.log2 - 52)
    let below := n / unit
    if 2 * (n % unit) < unit ∨ 2 * (n % unit) = unit ∧ below % 2 = 0 then below * unit
    else (below + 1) * unit

def cursorText : JsString := js "wb1_"

/-- `/^wb1_(\d+)$/`. -/
def decodeWorkbenchCursor (cursor : Option JsString) : Except QueryProblem ℕ :=
  match orUndefined cursor with
  | none => .ok 0
  | some text =>
    let digits := text.drop cursorText.length
    if cursorText.isPrefixOf text ∧ digits ≠ [] ∧ digits.all isDigit then
      .ok (nearestDouble (digitsValue digits))
    else .error ⟨js "cursor 格式无效或已过期", .cursor⟩

def encodeWorkbenchCursor (offset : ℕ) : JsString :=
  cursorText ++ js (toString offset)

structure WorkbenchPageInfo where
  nextCursor : Option JsString
  total : ℕ

structure WorkbenchPage where
  data : WorkbenchSnapshot
  page : WorkbenchPageInfo
  cacheTag : JsString

/-- What `getWorkbench` throws. -/
inductive PageFailure
  | query (problem : QueryProblem)
  | other

/-- `getWorkbench` of `PostgresWorkbenchReadRepository`.  The database may fail, and does
for an offset that is no `bigint`. -/
def getWorkbench (scopeId : JsString) (table : ProjectionTable) (databaseFails : Bool)
    (visibility : ActorVisibilityScope) (query : WorkbenchQuery) :
    Except PageFailure WorkbenchPage :=
  let limit := query.limit.getD 50
  if limit < 1 ∨ 100 < limit then .error (.query limitProblem)
  else
    match decodeWorkbenchCursor query.cursor with
    | .error problem => .error (.query problem)
    | .ok offset =>
      if databaseFails ∨ 2 ^ 63 ≤ offset then .error .other
      else
        let page := readPage table
          { scopeId := scopeId
            visibility := visibility
            goalId := query.goalId
            filter := query.filter
            offset := offset
            limit := limit }
        if page.total < offset then
          .error (.query ⟨js "cursor 超出当前结果范围", .cursor⟩)
        else
          let nextOffset := offset + page.tasks.length
          .ok
            { data :=
                { revision := page.snapshot.revision
                  generatedAt := page.snapshot.generatedAt
                  summary := page.snapshot.summary
                  tasks := page.tasks }
              page :=
                { nextCursor :=
                    if nextOffset < page.total then some (encodeWorkbenchCursor nextOffset)
                    else none
                  total := page.total }
              cacheTag := page.snapshot.cacheTag }

/-- `[...new Set(values)].sort()`. -/
def uniqueSorted (values : List JsString) : List JsString :=
  sorted values.dedup

/-- The text that `visibilityScopeKey` hashes. -/
def canonicalScope (scope : ActorVisibilityScope) : JsString :=
  stringify (.array
    [.string scope.actorId,
      .array ((uniqueSorted scope.organizationIds).map Json.string),
      .array ((uniqueSorted scope.projectIds).map Json.string)])

/-- A digit of `toString(36)`. -/
def base36Digit (n : ℕ) : UInt16 :=
  if n < 10 then (0x30 + n).toUInt16 else (0x57 + n).toUInt16

def toBase36 (n : ℕ) : JsString :=
  if n = 0 then [base36Digit 0] else ((Nat.digits 36 n).map base36Digit).reverse

/-- `Math.imul` multiplies modulo 2^32. -/
def visibilityScopeKey (scope : ActorVisibilityScope) : JsString :=
  let hash : UInt32 := (canonicalScope scope).foldl
    (fun hash u => (hash ^^^ u.toUInt32) * 16777619) 2166136261
  toBase36 hash.toNat

/-- The text that `responseHash` hashes; all of it is ASCII. -/
def validatorText (visibility : ActorVisibilityScope) (cacheTag : JsString)
    (params : SearchParams) : JsString :=
  join (js "|") [visibilityScopeKey visibility, cacheTag, params.text]

def etagOf (hash : JsString) : JsString :=
  js "\"workbench-" ++ hash ++ js "\""

/-! ## Responses -/

inductive ApiErrorCode
  | validationFailed
  | forbidden
  | internalError

structure ApiErrorEnvelope where
  code : ApiErrorCode
  message : JsString
  impact : JsString
  preservedState : JsString
  nextAction : JsString
  fieldErrors : Option (WorkbenchQueryField × List JsString)
  requestId : JsString

structure ResponseHeaders where
  cacheControl : JsString
  etag : JsString
  source : JsString

structure WorkbenchResponse where
  data : WorkbenchSnapshot
  page : WorkbenchPageInfo
  requestId : JsString

inductive Response
  | error (status : ℕ) (cacheControl : Option JsString) (body : ApiErrorEnvelope)
  | notModified (headers : ResponseHeaders)
  | ok (headers : ResponseHeaders) (body : WorkbenchResponse)

def validationError (requestId : JsString) (problem : QueryProblem) : Response :=
  .error 400 none
    { code := .validationFailed
      message := problem.message
      impact := js "工作台数据未加载"
      preservedState := js "当前页面已有数据不会被覆盖"
      nextAction := js "修正查询条件后重试"
      fieldErrors := some (problem.field, [problem.message])
      requestId := requestId }

def internalError (requestId : JsString) : Response :=
  .error 500 none
    { code := .internalError
      message := js "工作台数据暂时不可用"
      impact := js "本次刷新未完成"
      preservedState := js "浏览器会继续保留上一次成功加载的数据"
      nextAction := js "稍后重试；如持续失败，请提供请求 ID"
      fieldErrors := none
      requestId := requestId }

def accessError (requestId : JsString) (status : ℕ) : Response :=
  .error status (some (js "private, no-store"))
    { code := .forbidden
      message := if status = 401 then js "需要有效登录会话" else js "当前账号没有可见项目"
      impact := js "工作台数据未加载"
      preservedState := js "任何组织、项目或 Goal 数据均未返回"
      nextAction := if status = 401 then js "重新登录后再试" else js "联系组织管理员分配角色"
      fieldErrors := none
      requestId := requestId }

def responseHeaders (etag source : JsString) : ResponseHeaders where
  cacheControl := js "private, no-cache"
  etag := etag
  source := source

/-- A request, the visibility scope that its session resolves to, and whether the database
fails it. -/
structure WorkbenchCall where
  params : SearchParams
  ifNoneMatch : Option JsString
  requestId : JsString
  visibility : Option ActorVisibilityScope
  databaseFails : Bool

section Handle

variable (responseHash : JsString → JsString) (scopeId : JsString) (table : ProjectionTable)

def pageEtag (visibility : ActorVisibilityScope) (cacheTag : JsString) (params : SearchParams) :
    JsString :=
  etagOf (responseHash (validatorText visibility cacheTag params))

def handleWorkbenchRequest (call : WorkbenchCall) : Response :=
  match parseQuery call.params with
  | .error problem => validationError call.requestId problem
  | .ok query =>
    match call.visibility with
    | none => accessError call.requestId 401
    | some visibility =>
      if hasVisibleProjects visibility then
        match getWorkbench scopeId table call.databaseFails visibility query with
        | .error (.query problem) => validationError call.requestId problem
        | .error .other => internalError call.requestId
        | .ok result =>
          let etag := pageEtag responseHash visibility result.cacheTag call.params
          let headers := responseHeaders etag (js "postgres")
          if call.ifNoneMatch = some etag then .notModified headers
          else .ok headers
            { data := result.data
              page := result.page
              requestId := call.requestId }
      else accessError call.requestId 403

end Handle

namespace Response

def etag : Response → Option JsString
  | .error .. => none
  | .notModified headers => some headers.etag
  | .ok headers _ => some headers.etag

def content : Response → Option (WorkbenchSnapshot × WorkbenchPageInfo)
  | .ok _ body => some (body.data, body.page)
  | _ => none

end Response

end DevHarness.Workbench
