import DevHarness.Workbench.ReadStore

/-!
# Live updates

A client keeps the page that it has loaded and the revision of it.  The server polls the
revision of the page and sends what is larger than what it has sent; the client drops what
is not larger than its own, and reads the page for the rest.
-/

namespace DevHarness.Workbench

open JsText Interleave

/-! ## The client -/

/-- A call of `getWorkbench` for a notice, and the rows that the server has read for it. -/
structure Refresh where
  id : ℕ
  advertisedRevision : ℕ
  response : Option (List StoredSnapshot)
  deriving DecidableEq

/-- A notice whose handler awaits a refresh. -/
structure AwaitingNotice where
  revision : ℕ
  refreshId : ℕ
  deriving DecidableEq

/-- The event stream.  An open one has the largest revision that the server has sent, and
what it has sent and the client has not received. -/
inductive EventSource
  | closed
  | connecting (afterRevision : ℕ)
  | opened (current : ℕ) (inbox : List ℕ)

/-- `WorkbenchRealtimeClient`, with the rows that the shown page was made of and those of
the page that it is to be started with. -/
structure RealtimeClient where
  running : Bool
  currentRevision : ℕ
  source : EventSource
  reconnectTimer : Bool
  refreshPromise : Option ℕ
  refreshes : List Refresh
  awaiting : List AwaitingNotice
  nextRefresh : ℕ
  shown : Option (List StoredSnapshot)
  loaded : Option (List StoredSnapshot)

namespace RealtimeClient

def idle : RealtimeClient where
  running := false
  currentRevision := 0
  source := .closed
  reconnectTimer := false
  refreshPromise := none
  refreshes := []
  awaiting := []
  nextRefresh := 0
  shown := none
  loaded := none

variable (client : RealtimeClient)

def connect : RealtimeClient :=
  if client.running then { client with source := .connecting client.currentRevision }
  else client

/-- `start`, with the revision of a page that has been loaded and is shown. -/
def start (page : List StoredSnapshot) : RealtimeClient :=
  if client.running then client
  else connect
    { client with
      running := true
      currentRevision := maximumRevision page
      shown := some page
      loaded := none }

def stop : RealtimeClient :=
  { client with running := false, source := .closed, reconnectTimer := false }

def scheduleReconnect : RealtimeClient :=
  if !client.running || client.reconnectTimer then client
  else { client with source := .closed, reconnectTimer := true }

/-- `this.refreshPromise = this.refresh(revision)`. -/
def startRefresh (revision : ℕ) : RealtimeClient :=
  { client with
    refreshPromise := some client.nextRefresh
    refreshes := client.refreshes ++ [⟨client.nextRefresh, revision, none⟩]
    nextRefresh := client.nextRefresh + 1 }

/-- `handleInvalidation`, until it awaits something. -/
def handleInvalidation (revision : ℕ) : RealtimeClient :=
  if !client.running then client
  else if revision ≤ client.currentRevision then client
  else
    match client.refreshPromise with
    | some refreshId => { client with awaiting := client.awaiting ++ [⟨revision, refreshId⟩] }
    | none => client.startRefresh revision

/-- `handleInvalidation`, after the refresh that it has awaited. -/
def resume (notice : AwaitingNotice) : RealtimeClient :=
  let next := { client with awaiting := client.awaiting.erase notice }
  if notice.revision ≤ client.currentRevision then next else next.startRefresh notice.revision

def serve (refresh : Refresh) (page : List StoredSnapshot) : RealtimeClient :=
  { client with
    refreshes := client.refreshes.map fun other =>
      if other = refresh then { refresh with response := some page } else other }

/-- A refresh has settled, and `handleInvalidation` ends. -/
def settle (refresh : Refresh) : RealtimeClient :=
  { client with refreshPromise := none, refreshes := client.refreshes.erase refresh }

/-- `refresh`, from the response on. -/
def respond (refresh : Refresh) (page : List StoredSnapshot) : RealtimeClient :=
  let next := client.settle refresh
  if maximumRevision page < refresh.advertisedRevision then next.scheduleReconnect
  else if client.currentRevision ≤ maximumRevision page then
    { next with currentRevision := maximumRevision page, shown := some page }
  else next

end RealtimeClient

/-! ## The system -/

/-- The stored projections and one client. -/
structure LiveState where
  projections : ProjectionTable
  client : RealtimeClient

inductive LiveAction
  /-- A projector publishes. -/
  | publish (input : PublishInput)
  /-- The page is loaded for the client. -/
  | load
  | start
  | stop
  /-- The server accepts the connection of the event stream. -/
  | accept
  /-- The event stream fails. -/
  | disconnect
  /-- The reconnect timer fires. -/
  | reconnect
  /-- The server polls the revision. -/
  | poll
  /-- The client receives the next notice. -/
  | deliver
  | resume (notice : AwaitingNotice)
  /-- The server reads the page for a refresh. -/
  | serve (refresh : Refresh)
  | respond (refresh : Refresh)
  /-- The request of a refresh fails. -/
  | fail (refresh : Refresh)

section Steps

variable (scopeId : JsString) (visibility : ActorVisibilityScope)

def LiveState.visible (s : LiveState) : List StoredSnapshot :=
  visibleSnapshots scopeId visibility s.projections

def LiveState.resolveRevision (s : LiveState) : Option ℕ :=
  if hasVisibleProjects visibility then
    some (workbenchData scopeId visibility 1 (s.visible scopeId visibility)).revision
  else none

/-- The notice that the server sends after `current`, if any. -/
def notify (current revision : ℕ) (inbox : List ℕ) : EventSource :=
  if current < revision then .opened revision (inbox ++ [revision]) else .opened current inbox

def liveStep (s : LiveState) : LiveAction → Option LiveState
  | .publish input => some
      { s with projections := (ProjectionTable.publish s.projections input).2 }
  | .load =>
    if hasVisibleProjects visibility && !s.client.running then
      some { s with client := { s.client with loaded := some (s.visible scopeId visibility) } }
    else none
  | .start => s.client.loaded.map fun page => { s with client := s.client.start page }
  | .stop => some { s with client := s.client.stop }
  | .accept =>
    match s.client.source with
    | .connecting afterRevision =>
      (s.resolveRevision scopeId visibility).map fun revision =>
        { s with client := { s.client with source := notify afterRevision revision [] } }
    | _ => none
  | .disconnect =>
    match s.client.source with
    | .closed => none
    | _ => some { s with client := s.client.scheduleReconnect }
  | .reconnect =>
    let client := { s.client with reconnectTimer := false }
    if s.client.reconnectTimer then some { s with client := client.connect } else none
  | .poll =>
    match s.client.source with
    | .opened current inbox =>
      (s.resolveRevision scopeId visibility).map fun revision =>
        { s with client := { s.client with source := notify current revision inbox } }
    | _ => none
  | .deliver =>
    match s.client.source with
    | .opened current (revision :: inbox) =>
      let client := { s.client with source := .opened current inbox }
      some { s with client := client.handleInvalidation revision }
    | _ => none
  | .resume notice =>
    if notice ∈ s.client.awaiting ∧ ∀ refresh ∈ s.client.refreshes, refresh.id ≠ notice.refreshId
    then some { s with client := s.client.resume notice }
    else none
  | .serve refresh =>
    if hasVisibleProjects visibility ∧ refresh ∈ s.client.refreshes ∧ refresh.response = none
    then some { s with client := s.client.serve refresh (s.visible scopeId visibility) }
    else none
  | .respond refresh =>
    match refresh.response with
    | some page =>
      if refresh ∈ s.client.refreshes then
        some { s with client := s.client.respond refresh page }
      else none
    | none => none
  | .fail refresh =>
    if refresh ∈ s.client.refreshes then
      some { s with client := (s.client.settle refresh).scheduleReconnect }
    else none

/-- All of it happens around the client, and no routine of another party is followed. -/
def liveSystem : System LiveState Empty (fun _ => Unit) Empty Empty Unit Unit LiveAction where
  program := Empty.elim
  exec := fun _ command _ => command.elim
  environment := fun action s => liveStep scopeId visibility s action

end Steps

abbrev LiveConfig := Config LiveState Empty (fun _ => Unit) Empty Empty Unit LiveAction

abbrev LiveMoment := Moment LiveState Empty (fun _ => Unit) Empty Empty Unit LiveAction

abbrev LiveCondition := LiveMoment → Attempt Empty Empty LiveAction → Prop

def LiveState.ofTable (projections : ProjectionTable) : LiveState where
  projections := projections
  client := .idle

end DevHarness.Workbench
