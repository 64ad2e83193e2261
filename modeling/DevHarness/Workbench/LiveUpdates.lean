import DevHarness.Workbench.Realtime

/-!
# Lost updates

The revision of a page is the largest revision of its projects, so a publish of a project
that is behind another one does not change it.  A client misses such a publish when its page
has that revision, and no other.
-/

namespace DevHarness.Workbench

open JsText Interleave

namespace RealtimeClient

/-- The client shows the page, or is going to unless the request fails. -/
def Holds (client : RealtimeClient) (page : List StoredSnapshot) : Prop :=
  client.shown = some page ∨ client.loaded = some page ∨
    ∃ refresh ∈ client.refreshes, refresh.response = some page ∧
      refresh.advertisedRevision ≤ maximumRevision page

end RealtimeClient

section Claim

variable (scopeId : JsString) (visibility : ActorVisibilityScope)

def QuietStep (s s' : LiveState) : Prop :=
  ∃ action, (∀ input, action ≠ .publish input) ∧ liveStep scopeId visibility s action = some s'

/-- The page that the client shows is made of the stored rows. -/
def LiveState.Current (s : LiveState) : Prop :=
  s.client.shown = some (s.visible scopeId visibility)

/-- No update is lost: in all runs whose steps meet `cond`, a page that has been overtaken has
a smaller revision than the feed; a client that has nothing pending, and whose next poll is
silent, shows the current page; and any client can get there without another publish. -/
structure NoLostUpdate (projections : ProjectionTable) (cond : LiveCondition) : Prop where
  noticed : ∀ {c page}, Run (liveSystem scopeId visibility) cond (.ofTable projections) c →
    c.now.state.client.shown = some page → page ≠ c.now.state.visible scopeId visibility →
    ∀ revision ∈ c.now.state.resolveRevision scopeId visibility,
      c.now.state.client.currentRevision < revision
  atRest : ∀ {c current}, Run (liveSystem scopeId visibility) cond (.ofTable projections) c →
    c.now.state.client.source = .opened current [] → c.now.state.client.refreshes = [] →
    c.now.state.client.awaiting = [] →
    (∀ revision ∈ c.now.state.resolveRevision scopeId visibility, revision ≤ current) →
    c.now.state.Current scopeId visibility
  recovers : ∀ {c}, Run (liveSystem scopeId visibility) cond (.ofTable projections) c →
    c.now.state.client.running = true →
    ∃ s, Relation.ReflTransGen (QuietStep scopeId visibility) c.now.state s ∧
      s.Current scopeId visibility

/-- A publish that stores a new revision of a visible project brings it past all projects of
each page that the client holds, unless another project is past them already. -/
def PassesHeldPages : LiveCondition :=
  fun m attempt =>
    match attempt with
    | .change (.publish input) =>
      PublishesVisible scopeId visibility m.state.projections input →
        ∀ page, m.state.client.Holds page →
          (∀ row ∈ page, row.revision < m.state.projections.nextRevision input.scope) ∨
          ∃ other ∈ m.state.visible scopeId visibility, ∀ row ∈ page, row.revision < other.revision
    | _ => True

end Claim

/-! ## What the client keeps -/

def EventSource.inbox : EventSource → List ℕ
  | .opened _ inbox => inbox
  | _ => []

namespace RealtimeClient

/-- A notice of the revision has been sent, and has not been dealt with. -/
def Pending (client : RealtimeClient) (revision : ℕ) : Prop :=
  revision ∈ client.source.inbox ∨
    (∃ notice ∈ client.awaiting, notice.revision = revision) ∨
    ∃ refresh ∈ client.refreshes, refresh.advertisedRevision = revision

/-- What the server has sent is known to the client, or on its way. -/
def Knows (client : RealtimeClient) (current : ℕ) : Prop :=
  current ≤ client.currentRevision ∨ ∃ n, client.Pending n ∧ current ≤ n

def Connected (client : RealtimeClient) : Prop :=
  match client.source with
  | .closed => client.reconnectTimer = client.running
  | .connecting afterRevision =>
    client.running = true ∧ client.reconnectTimer = false ∧
      afterRevision ≤ client.currentRevision
  | .opened current _ =>
    client.running = true ∧ client.reconnectTimer = false ∧ client.Knows current

/-- The state of a client while `visible` is what is stored. -/
structure Consistent (visible : List StoredSnapshot) (client : RealtimeClient) : Prop where
  behind : ∀ page, client.Holds page →
    page = visible ∨ maximumRevision page < maximumRevision visible
  shown : client.currentRevision = (client.shown.map maximumRevision).getD 0
  started : client.running = true → ∃ page, client.shown = some page
  promised : ∀ id, client.refreshPromise = some id → ∃ r ∈ client.refreshes, r.id = id
  advertised : ∀ n, client.Pending n → n ≤ maximumRevision visible
  connected : client.Connected

def admitted (client : RealtimeClient) : Bool :=
  client.running || client.loaded.isSome

section Admitted

variable (client : RealtimeClient)

theorem admitted_connect : client.connect.admitted = client.admitted := by
  unfold RealtimeClient.connect
  split <;> rfl

theorem admitted_scheduleReconnect : client.scheduleReconnect.admitted = client.admitted := by
  unfold RealtimeClient.scheduleReconnect
  split <;> rfl

theorem admitted_handleInvalidation (revision : ℕ) :
    (client.handleInvalidation revision).admitted = client.admitted := by
  unfold RealtimeClient.handleInvalidation
  split
  · rfl
  · split
    · rfl
    · split <;> rfl

theorem admitted_resume (notice : AwaitingNotice) :
    (client.resume notice).admitted = client.admitted := by
  unfold RealtimeClient.resume
  simp only
  split <;> rfl

section

variable (refresh : Refresh) (page : List StoredSnapshot)

include refresh page

theorem admitted_respond : (client.respond refresh page).admitted = client.admitted := by
  unfold RealtimeClient.respond
  simp only
  split
  · exact admitted_scheduleReconnect _
  · split <;> rfl

theorem running_respond : (client.respond refresh page).running = client.running := by
  unfold RealtimeClient.respond RealtimeClient.scheduleReconnect
  simp only
  split
  · split <;> rfl
  · split <;> rfl

theorem refreshes_respond :
    (client.respond refresh page).refreshes = client.refreshes.erase refresh := by
  unfold RealtimeClient.respond RealtimeClient.scheduleReconnect
  simp only
  split
  · split <;> rfl
  · split <;> rfl

theorem awaiting_respond : (client.respond refresh page).awaiting = client.awaiting := by
  unfold RealtimeClient.respond RealtimeClient.scheduleReconnect
  simp only
  split
  · split <;> rfl
  · split <;> rfl

end

end Admitted

section Operations

variable {visible : List StoredSnapshot} {client : RealtimeClient} {client' : RealtimeClient}
  {n : ℕ} {page : List StoredSnapshot} {revision : ℕ} {refresh : Refresh}

theorem consistent_idle : idle.Consistent visible where
  behind page := by simp [Holds, idle]
  shown := rfl
  started := by simp [idle]
  promised := by simp [idle]
  advertised n := by simp [Pending, EventSource.inbox, idle]
  connected := by simp [Connected, idle]

theorem pending_of_inbox (h : client'.Pending n) (hinbox : client'.source.inbox = [])
    (hawaiting : client'.awaiting = client.awaiting)
    (hrefreshes : client'.refreshes = client.refreshes) : client.Pending n := by
  unfold Pending at h
  rw [hinbox, hawaiting, hrefreshes] at h
  rcases h with hnone | hpending
  · cases hnone
  · exact .inr hpending

theorem Consistent.le_of_holds (h : client.Consistent visible) (hpage : client.Holds page) :
    maximumRevision page ≤ maximumRevision visible := by
  rcases h.behind page hpage with rfl | hlt
  · exact le_rfl
  · exact hlt.le

theorem Consistent.revision_of_shown (h : client.Consistent visible)
    (hpage : client.shown = some page) : client.currentRevision = maximumRevision page := by
  rw [h.shown, hpage]
  rfl

theorem Consistent.currentRevision_le (h : client.Consistent visible) :
    client.currentRevision ≤ maximumRevision visible := by
  cases hshown : client.shown with
  | none =>
      rw [h.shown, hshown]
      exact Nat.zero_le _
  | some page =>
      rw [h.revision_of_shown hshown]
      exact h.le_of_holds (.inl hshown)

theorem Knows.of_nothing_pending {current sent : ℕ} (h : client.Knows current)
    (hsource : client.source = .opened sent []) (hrefreshes : client.refreshes = [])
    (hawaiting : client.awaiting = []) : current ≤ client.currentRevision := by
  rcases h with hle | ⟨n, hn, -⟩
  · exact hle
  · simp [Pending, EventSource.inbox, hsource, hrefreshes, hawaiting] at hn

theorem Consistent.publish {visible' : List StoredSnapshot} (h : client.Consistent visible)
    (hmono : maximumRevision visible ≤ maximumRevision visible')
    (hpages : ∀ page, client.Holds page → maximumRevision page < maximumRevision visible') :
    client.Consistent visible' where
  behind page hpage := .inr (hpages page hpage)
  shown := h.shown
  started := h.started
  promised := h.promised
  advertised n hn := (h.advertised n hn).trans hmono
  connected := h.connected

theorem Consistent.load (h : client.Consistent visible) :
    Consistent visible { client with loaded := some visible } where
  behind page hpage := by
    rcases hpage with hshown | hloaded | hresponse
    · exact h.behind page (.inl hshown)
    · exact .inl (Option.some.inj hloaded).symm
    · exact h.behind page (.inr (.inr hresponse))
  shown := h.shown
  started := h.started
  promised := h.promised
  advertised := h.advertised
  connected := h.connected

theorem Connected.of_knows (h : client.Connected) (hrunning : client'.running = client.running)
    (htimer : client'.reconnectTimer = client.reconnectTimer)
    (hsource : client'.source = client.source)
    (hrevision : client.currentRevision ≤ client'.currentRevision)
    (hknows : ∀ n, client.Pending n → client'.Knows n) : client'.Connected := by
  unfold Connected at h ⊢
  rw [hrunning, htimer, hsource]
  split at h
  · exact h
  · exact ⟨h.1, h.2.1, h.2.2.trans hrevision⟩
  · refine ⟨h.1, h.2.1, ?_⟩
    rcases h.2.2 with hle | ⟨n, hn, hle⟩
    · exact .inl (hle.trans hrevision)
    · rcases hknows n hn with hle' | ⟨n', hn', hle'⟩
      · exact .inl (hle.trans hle')
      · exact .inr ⟨n', hn', hle.trans hle'⟩

section

variable (h : client.Consistent visible)

include h

theorem Consistent.source_of_timer (htimer : client.reconnectTimer = true) :
    client.source = .closed ∧ client.running = true := by
  have hconnected := h.connected
  unfold Connected at hconnected
  split at hconnected
  · next hsource => exact ⟨hsource, hconnected ▸ htimer⟩
  · rw [hconnected.2.1] at htimer
    cases htimer
  · rw [hconnected.2.1] at htimer
    cases htimer

theorem Consistent.source_of_not_running (hrunning : ¬ client.running = true) :
    client.source = .closed ∧ client.reconnectTimer = false := by
  have hconnected := h.connected
  unfold Connected at hconnected
  split at hconnected
  · next hsource => exact ⟨hsource, hconnected.trans (Bool.eq_false_iff.mpr hrunning)⟩
  · exact (hrunning hconnected.1).elim
  · exact (hrunning hconnected.1).elim

theorem Consistent.reconnect (htimer : client.reconnectTimer = true) : Consistent visible
      (RealtimeClient.connect { client with reconnectTimer := false }) := by
  obtain ⟨hclosed, hrunning⟩ := h.source_of_timer htimer
  unfold RealtimeClient.connect
  rw [if_pos hrunning]
  refine ⟨h.behind, h.shown, h.started, h.promised, fun n hn => h.advertised n ?_, ?_⟩
  · exact pending_of_inbox hn rfl rfl rfl
  · exact ⟨hrunning, rfl, le_rfl⟩

theorem Consistent.start (hpage : client.loaded = some page) :
    (client.start page).Consistent visible := by
  unfold RealtimeClient.start
  split
  · exact h
  · next hrunning =>
    obtain ⟨hclosed, htimer⟩ := h.source_of_not_running hrunning
    unfold RealtimeClient.connect
    rw [if_pos rfl]
    refine ⟨?_, ?_, fun _ => ⟨page, rfl⟩, h.promised, ?_, rfl, htimer, le_rfl⟩
    · rintro other (hshown | hloaded | hresponse)
      · exact h.behind other (.inr (.inl (hpage.trans hshown)))
      · cases hloaded
      · exact h.behind other (.inr (.inr hresponse))
    · rfl
    · exact fun n hn => h.advertised n (pending_of_inbox hn rfl rfl rfl)

theorem Consistent.stop : client.stop.Consistent visible where
  behind page hpage := h.behind page hpage
  shown := h.shown
  started := by simp [RealtimeClient.stop]
  promised := h.promised
  advertised n hn := h.advertised n (pending_of_inbox hn rfl rfl rfl)
  connected := rfl

theorem Consistent.scheduleReconnect_eq (hrunning : client'.running = client.running)
    (htimer : client'.reconnectTimer = client.reconnectTimer)
    (hsource : client'.source = client.source) :
    client'.scheduleReconnect =
      { client' with source := .closed, reconnectTimer := client'.running } := by
  unfold RealtimeClient.scheduleReconnect
  split
  · next hskipped =>
    have hclosed : client.source = .closed ∧ client.reconnectTimer = client.running := by
      rw [hrunning, htimer] at hskipped
      by_cases hset : client.reconnectTimer = true
      · obtain ⟨hclosed, hrunning⟩ := h.source_of_timer hset
        exact ⟨hclosed, hset.trans hrunning.symm⟩
      · simp only [hset, Bool.or_false, Bool.not_eq_true'] at hskipped
        obtain ⟨hclosed, htimer⟩ := h.source_of_not_running (Bool.eq_false_iff.mp hskipped)
        exact ⟨hclosed, htimer.trans hskipped.symm⟩
    have hsource' : client'.source = .closed := hsource.trans hclosed.1
    have htimer' : client'.reconnectTimer = client'.running := by
      rw [htimer, hclosed.2, hrunning]
    cases client'
    simp only at hsource' htimer' ⊢
    rw [hsource', htimer']
  · next hopen =>
    simp only [Bool.or_eq_true, Bool.not_eq_true', not_or, Bool.not_eq_false] at hopen
    rw [hopen.1]

theorem Consistent.scheduleReconnect : client.scheduleReconnect.Consistent visible := by
  rw [h.scheduleReconnect_eq rfl rfl rfl]
  exact ⟨h.behind, h.shown, h.started, h.promised,
    fun n hn => h.advertised n (pending_of_inbox hn rfl rfl rfl), rfl⟩

theorem Consistent.notify {current : ℕ} (hrunning : client.running = true)
    (htimer : client.reconnectTimer = false) (hknown : client.Knows current) :
    Consistent visible { client with
      source := Workbench.notify current (maximumRevision visible) client.source.inbox } := by
  by_cases hnew : current < maximumRevision visible
  · refine ⟨h.behind, h.shown, h.started, h.promised, ?_, ?_⟩
    · intro n hn
      simp only [Pending, Workbench.notify, if_pos hnew, EventSource.inbox, List.mem_append,
        List.mem_singleton] at hn
      rcases hn with (hold | rfl) | hpending
      · exact h.advertised n (.inl hold)
      · exact le_rfl
      · exact h.advertised n (.inr hpending)
    · simp only [Connected, Workbench.notify, if_pos hnew]
      refine ⟨hrunning, htimer, .inr ⟨_, .inl ?_, le_rfl⟩⟩
      exact List.mem_append_right _ (List.mem_singleton_self _)
  · refine ⟨h.behind, h.shown, h.started, h.promised, ?_, ?_⟩
    · intro n hn
      simp only [Pending, Workbench.notify, if_neg hnew, EventSource.inbox] at hn
      exact h.advertised n hn
    · simp only [Connected, Workbench.notify, if_neg hnew]
      exact ⟨hrunning, htimer, hknown⟩

end

/-- A notice that was pending is dealt with, or pending in another place. -/
structure Forwards (client client' : RealtimeClient) : Prop where
  running : client'.running = client.running
  reconnectTimer : client'.reconnectTimer = client.reconnectTimer
  currentRevision : client'.currentRevision = client.currentRevision
  shown : client'.shown = client.shown
  source : client'.source = client.source ∨ ∃ current inbox inbox',
    client.source = .opened current inbox ∧ client'.source = .opened current inbox'
  pending : ∀ n, client'.Pending n → client.Pending n
  known : ∀ n, client.Pending n → client'.Pending n ∨ n ≤ client.currentRevision

theorem Consistent.forward (h : client.Consistent visible) (hforwards : client.Forwards client')
    (hholds : ∀ page, client'.Holds page → client.Holds page ∨ page = visible)
    (hpromised : ∀ id, client'.refreshPromise = some id → ∃ r ∈ client'.refreshes, r.id = id) :
    client'.Consistent visible := by
  refine ⟨fun page hpage => ?_, ?_, ?_, hpromised,
    fun n hn => h.advertised n (hforwards.pending n hn), ?_⟩
  · rcases hholds page hpage with hheld | hcurrent
    · exact h.behind page hheld
    · exact .inl hcurrent
  · rw [hforwards.shown, hforwards.currentRevision]
    exact h.shown
  · rw [hforwards.running, hforwards.shown]
    exact h.started
  · have hknows : ∀ n, client.Pending n → client'.Knows n := by
      intro n hn
      rcases hforwards.known n hn with hpending | hdropped
      · exact .inr ⟨n, hpending, le_rfl⟩
      · exact .inl (hforwards.currentRevision ▸ hdropped)
    rcases hforwards.source with hsource | ⟨current, inbox, inbox', hsource, hsource'⟩
    · exact h.connected.of_knows hforwards.running hforwards.reconnectTimer hsource
        hforwards.currentRevision.ge hknows
    · have hconnected := h.connected
      simp only [Connected, hsource] at hconnected
      simp only [Connected, hsource', hforwards.running, hforwards.reconnectTimer]
      refine ⟨hconnected.1, hconnected.2.1, ?_⟩
      rcases hconnected.2.2 with hle | ⟨n, hn, hle⟩
      · exact .inl (hforwards.currentRevision ▸ hle)
      · rcases hknows n hn with hle' | ⟨n', hn', hle'⟩
        · exact .inl (hle.trans hle')
        · exact .inr ⟨n', hn', hle.trans hle'⟩

theorem pending_startRefresh {revision n : ℕ} :
    (client.startRefresh revision).Pending n ↔ client.Pending n ∨ n = revision := by
  simp only [Pending, RealtimeClient.startRefresh, List.mem_append, List.mem_singleton]
  grind

theorem holds_startRefresh (h : (client.startRefresh revision).Holds page) : client.Holds page := by
  rcases h with hshown | hloaded | ⟨refresh, hrefresh, hresponse, hle⟩
  · exact .inl hshown
  · exact .inr (.inl hloaded)
  · rcases List.mem_append.mp hrefresh with hold | hnew
    · exact .inr (.inr ⟨refresh, hold, hresponse, hle⟩)
    · rw [List.mem_singleton.mp hnew] at hresponse
      cases hresponse

theorem promised_startRefresh (id : ℕ)
    (h : (client.startRefresh revision).refreshPromise = some id) :
    ∃ r ∈ (client.startRefresh revision).refreshes, r.id = id :=
  ⟨_, List.mem_append_right _ (List.mem_singleton_self _), Option.some.inj h⟩

theorem Consistent.deliver {current revision : ℕ} {inbox : List ℕ}
    (h : client.Consistent visible) (hsource : client.source = .opened current (revision :: inbox)) :
    Consistent visible (RealtimeClient.handleInvalidation
      { client with source := .opened current inbox } revision) := by
  have hrunning : client.running = true := by
    have hconnected := h.connected
    simp only [Connected, hsource] at hconnected
    exact hconnected.1
  have hpending : ∀ n, client.Pending n ↔
      RealtimeClient.Pending { client with source := .opened current inbox } n ∨ n = revision := by
    intro n
    simp only [Pending, hsource, EventSource.inbox, List.mem_cons]
    grind
  unfold RealtimeClient.handleInvalidation
  split
  · next hstopped =>
    simp only [hrunning] at hstopped
    cases hstopped
  · split
    · next hold =>
      refine h.forward ⟨rfl, rfl, rfl, rfl, .inr ⟨current, _, inbox, hsource, rfl⟩, ?_, ?_⟩
        (fun page hpage => .inl hpage) h.promised
      · exact fun n hn => (hpending n).mpr (.inl hn)
      · intro n hn
        rcases (hpending n).mp hn with hstays | rfl
        · exact .inl hstays
        · exact .inr hold
    · split
      · next refreshId hpromise =>
        refine h.forward ⟨rfl, rfl, rfl, rfl, .inr ⟨current, _, inbox, hsource, rfl⟩, ?_, ?_⟩
          (fun page hpage => .inl hpage) h.promised
        · intro n hn
          rw [hpending]
          simp only [Pending, List.mem_append, List.mem_singleton] at hn ⊢
          grind
        · intro n hn
          rw [hpending] at hn
          simp only [Pending, List.mem_append, List.mem_singleton] at hn ⊢
          grind
      · refine h.forward ⟨rfl, rfl, rfl, rfl, .inr ⟨current, _, inbox, hsource, rfl⟩, ?_, ?_⟩
          (fun page hpage => .inl (holds_startRefresh hpage)) promised_startRefresh
        · exact fun n hn => (hpending n).mpr (pending_startRefresh.mp hn)
        · exact fun n hn => .inl (pending_startRefresh.mpr ((hpending n).mp hn))

theorem Consistent.resume {notice : AwaitingNotice} (h : client.Consistent visible)
    (hnotice : notice ∈ client.awaiting) : (client.resume notice).Consistent visible := by
  have hpending : ∀ n, client.Pending n ↔ RealtimeClient.Pending
      { client with awaiting := client.awaiting.erase notice } n ∨ n = notice.revision := by
    intro n
    simp only [Pending]
    constructor
    · rintro (hinbox | ⟨other, hother, rfl⟩ | hrefresh)
      · exact .inl (.inl hinbox)
      · by_cases hsame : other = notice
        · exact .inr (congrArg _ hsame)
        · exact .inl (.inr (.inl ⟨other, (List.mem_erase_of_ne hsame).mpr hother, rfl⟩))
      · exact .inl (.inr (.inr hrefresh))
    · rintro ((hinbox | ⟨other, hother, rfl⟩ | hrefresh) | rfl)
      · exact .inl hinbox
      · exact .inr (.inl ⟨other, List.mem_of_mem_erase hother, rfl⟩)
      · exact .inr (.inr hrefresh)
      · exact .inr (.inl ⟨notice, hnotice, rfl⟩)
  unfold RealtimeClient.resume
  simp only
  split
  · next hold =>
    refine h.forward ⟨rfl, rfl, rfl, rfl, .inl rfl, ?_, ?_⟩ (fun page hpage => .inl hpage) h.promised
    · exact fun n hn => (hpending n).mpr (.inl hn)
    · intro n hn
      rcases (hpending n).mp hn with hstays | rfl
      · exact .inl hstays
      · exact .inr hold
  · refine h.forward ⟨rfl, rfl, rfl, rfl, .inl rfl, ?_, ?_⟩
      (fun page hpage => .inl (holds_startRefresh hpage)) promised_startRefresh
    · exact fun n hn => (hpending n).mpr (pending_startRefresh.mp hn)
    · exact fun n hn => .inl (pending_startRefresh.mpr ((hpending n).mp hn))

theorem Consistent.serve (h : client.Consistent visible) (hrefresh : refresh ∈ client.refreshes) :
    (client.serve refresh visible).Consistent visible := by
  have hserved : ∀ {other}, other ∈ (client.serve refresh visible).refreshes →
      other ∈ client.refreshes ∨ other = { refresh with response := some visible } := by
    intro other hother
    obtain ⟨before, hbefore, rfl⟩ := List.mem_map.mp hother
    split
    · exact .inr rfl
    · exact .inl hbefore
  have hstays : ∀ {other}, other ∈ client.refreshes →
      ∃ after ∈ (client.serve refresh visible).refreshes, after.id = other.id ∧
        after.advertisedRevision = other.advertisedRevision := by
    intro other hother
    refine ⟨_, List.mem_map_of_mem hother, ?_⟩
    split
    · next hsame => exact ⟨hsame ▸ rfl, hsame ▸ rfl⟩
    · exact ⟨rfl, rfl⟩
  refine h.forward ⟨rfl, rfl, rfl, rfl, .inl rfl, ?_, ?_⟩ ?_ ?_
  · rintro n (hinbox | hnotice | ⟨other, hother, rfl⟩)
    · exact .inl hinbox
    · exact .inr (.inl hnotice)
    · rcases hserved hother with hold | rfl
      · exact .inr (.inr ⟨other, hold, rfl⟩)
      · exact .inr (.inr ⟨refresh, hrefresh, rfl⟩)
  · rintro n (hinbox | hnotice | ⟨other, hother, rfl⟩)
    · exact .inl (.inl hinbox)
    · exact .inl (.inr (.inl hnotice))
    · obtain ⟨after, hafter, -, hadvertised⟩ := hstays hother
      exact .inl (.inr (.inr ⟨after, hafter, hadvertised⟩))
  · rintro page (hshown | hloaded | ⟨other, hother, hresponse, hle⟩)
    · exact .inl (.inl hshown)
    · exact .inl (.inr (.inl hloaded))
    · rcases hserved hother with hold | rfl
      · exact .inl (.inr (.inr ⟨other, hold, hresponse, hle⟩))
      · exact .inr (Option.some.inj hresponse).symm
  · intro id hid
    obtain ⟨other, hother, rfl⟩ := h.promised id hid
    obtain ⟨after, hafter, hsame, -⟩ := hstays hother
    exact ⟨after, hafter, hsame⟩

theorem holds_settle (h : (client.settle refresh).Holds page) : client.Holds page := by
  rcases h with hshown | hloaded | ⟨other, hother, hresponse⟩
  · exact .inl hshown
  · exact .inr (.inl hloaded)
  · exact .inr (.inr ⟨other, List.mem_of_mem_erase hother, hresponse⟩)

theorem pending_of_settle (h : (client.settle refresh).Pending n) : client.Pending n := by
  rcases h with hinbox | hnotice | ⟨other, hother, hrevision⟩
  · exact .inl hinbox
  · exact .inr (.inl hnotice)
  · exact .inr (.inr ⟨other, List.mem_of_mem_erase hother, hrevision⟩)

theorem pending_settle (h : client.Pending n) :
    (client.settle refresh).Pending n ∨ n = refresh.advertisedRevision := by
  rcases h with hinbox | hnotice | ⟨other, hother, rfl⟩
  · exact .inl (.inl hinbox)
  · exact .inl (.inr (.inl hnotice))
  · by_cases hsame : other = refresh
    · exact .inr (congrArg _ hsame)
    · exact .inl (.inr (.inr ⟨other, (List.mem_erase_of_ne hsame).mpr hother, rfl⟩))

theorem Consistent.fail (h : client.Consistent visible) :
    (client.settle refresh).scheduleReconnect.Consistent visible := by
  have hclosed : (client.settle refresh).scheduleReconnect = { client.settle refresh with
      source := .closed, reconnectTimer := (client.settle refresh).running } :=
    h.scheduleReconnect_eq rfl rfl rfl
  rw [hclosed]
  refine ⟨fun page hpage => h.behind page (holds_settle hpage), h.shown, h.started, ?_, ?_, rfl⟩
  · intro id hid
    cases hid
  · intro n hn
    have hpending : (client.settle refresh).Pending n := pending_of_inbox hn rfl rfl rfl
    exact h.advertised n (pending_of_settle hpending)

theorem Consistent.respond (h : client.Consistent visible) (hrefresh : refresh ∈ client.refreshes)
    (hresponse : refresh.response = some page) :
    (client.respond refresh page).Consistent visible := by
  unfold RealtimeClient.respond
  simp only
  split
  · exact h.fail
  · next hadvertised =>
    have hknows : ∀ {client' : RealtimeClient}, (∀ n, (client.settle refresh).Pending n →
        client'.Pending n) → refresh.advertisedRevision ≤ client'.currentRevision →
        ∀ n, client.Pending n → client'.Knows n := by
      intro client' hkept hle n hn
      rcases pending_settle hn with hpending | hsame
      · exact .inr ⟨n, hkept n hpending, le_rfl⟩
      · exact .inl (hsame.le.trans hle)
    split
    · next hcurrent =>
      refine ⟨?_, ?_, fun _ => ⟨page, rfl⟩, ?_, fun n hn => h.advertised n (pending_of_settle hn), ?_⟩
      · rintro other (hshown | hrest)
        · rw [← Option.some.inj hshown]
          exact h.behind page
            (.inr (.inr ⟨refresh, hrefresh, hresponse, Nat.le_of_not_lt hadvertised⟩))
        · exact h.behind other (holds_settle (.inr hrest))
      · rfl
      · intro id hid
        cases hid
      · exact h.connected.of_knows rfl rfl rfl hcurrent
          (hknows (fun n hn => hn) (Nat.le_of_not_lt hadvertised))
    · next hcurrent =>
      refine ⟨fun page hpage => h.behind page (holds_settle hpage), h.shown, h.started, ?_,
        fun n hn => h.advertised n (pending_of_settle hn), ?_⟩
      · intro id hid
        cases hid
      · refine h.connected.of_knows rfl rfl rfl le_rfl (hknows (fun n hn => hn) ?_)
        exact (Nat.le_of_not_lt hadvertised).trans (Nat.le_of_not_le hcurrent)

end Operations

end RealtimeClient

section Runs

variable {scopeId : JsString} {visibility : ActorVisibilityScope} {s s' : LiveState}
  {action : LiveAction} {input : PublishInput} {page : List StoredSnapshot} {revision : ℕ}
  {inbox : List ℕ} {current : ℕ}

/-- The client is as it should be, and has been let in. -/
structure LiveState.Sound (scopeId : JsString) (visibility : ActorVisibilityScope)
    (s : LiveState) : Prop where
  consistent : s.client.Consistent (s.visible scopeId visibility)
  admitted : s.client.admitted = true → hasVisibleProjects visibility = true

theorem maximumRevision_lt_of_passes {table : ProjectionTable}
    (hpublish : PublishesVisible scopeId visibility table input)
    (hpasses : (∀ row ∈ page, row.revision < table.nextRevision input.scope) ∨ ∃ other ∈
      visibleSnapshots scopeId visibility table, ∀ row ∈ page, row.revision < other.revision) :
    maximumRevision page < maximumRevision
      (visibleSnapshots scopeId visibility (ProjectionTable.publish table input).2) := by
  have hnext : table.nextRevision input.scope ≤ maximumRevision
      (visibleSnapshots scopeId visibility (ProjectionTable.publish table input).2) :=
    revision_le_maximumRevision (mem_visibleSnapshots_of_publish hpublish)
  refine maximumRevision_lt_iff.mpr ⟨(Nat.succ_pos _).trans_le hnext, fun row hrow => ?_⟩
  rcases hpasses with hpassed | ⟨other, hother, hpassed⟩
  · exact (hpassed row hrow).trans_le hnext
  · have hmono := maximumRevision_publish_mono scopeId visibility table input
    exact ((hpassed row hrow).trans_le (revision_le_maximumRevision hother)).trans_le hmono

theorem LiveState.Sound.publish (h : s.Sound scopeId visibility)
    (hpasses : PublishesVisible scopeId visibility s.projections input →
      ∀ page, s.client.Holds page →
        (∀ row ∈ page, row.revision < s.projections.nextRevision input.scope) ∨
        ∃ other ∈ s.visible scopeId visibility, ∀ row ∈ page, row.revision < other.revision) :
    LiveState.Sound scopeId visibility
      { s with projections := (ProjectionTable.publish s.projections input).2 } := by
  refine ⟨?_, h.admitted⟩
  by_cases hvisible : PublishesVisible scopeId visibility s.projections input
  · exact h.consistent.publish (maximumRevision_publish_mono _ _ _ _) fun page hpage =>
      maximumRevision_lt_of_passes hvisible (hpasses hvisible page hpage)
  · have hsame := visibleSnapshots_publish_of_not hvisible
    unfold LiveState.visible
    rw [hsame]
    exact h.consistent

theorem revision_of_resolve (h : s.resolveRevision scopeId visibility = some revision) :
    revision = maximumRevision (s.visible scopeId visibility) := by
  unfold LiveState.resolveRevision at h
  split at h
  · exact (Option.some.inj h).symm
  · cases h

theorem admitted_of_step (hstep : liveStep scopeId visibility s action = some s')
    (h : s.client.admitted = true → hasVisibleProjects visibility = true) :
    s'.client.admitted = true → hasVisibleProjects visibility = true := by
  cases action with
  | publish input =>
      obtain rfl := Option.some.inj hstep
      exact h
  | load =>
      simp only [liveStep] at hstep
      split at hstep
      · next hvisible => exact fun _ => (Bool.and_eq_true_iff.mp hvisible).1
      · cases hstep
  | start =>
      obtain ⟨page, hpage, rfl⟩ := Option.map_eq_some_iff.mp hstep
      refine fun _ => h ?_
      simp [RealtimeClient.admitted, hpage]
  | stop =>
      obtain rfl := Option.some.inj hstep
      refine fun hloaded => h ?_
      simpa [RealtimeClient.admitted, RealtimeClient.stop] using .inr hloaded
  | accept =>
      simp only [liveStep] at hstep
      split at hstep
      · obtain ⟨_, -, rfl⟩ := Option.map_eq_some_iff.mp hstep
        exact h
      · cases hstep
  | disconnect =>
      simp only [liveStep] at hstep
      split at hstep
      · cases hstep
      · obtain rfl := Option.some.inj hstep
        rwa [RealtimeClient.admitted_scheduleReconnect]
  | reconnect =>
      simp only [liveStep] at hstep
      split at hstep
      · obtain rfl := Option.some.inj hstep
        rwa [RealtimeClient.admitted_connect]
      · cases hstep
  | poll =>
      simp only [liveStep] at hstep
      split at hstep
      · obtain ⟨_, -, rfl⟩ := Option.map_eq_some_iff.mp hstep
        exact h
      · cases hstep
  | deliver =>
      simp only [liveStep] at hstep
      split at hstep
      · obtain rfl := Option.some.inj hstep
        rwa [RealtimeClient.admitted_handleInvalidation]
      · cases hstep
  | resume notice =>
      simp only [liveStep] at hstep
      split at hstep
      · obtain rfl := Option.some.inj hstep
        rwa [RealtimeClient.admitted_resume]
      · cases hstep
  | serve refresh =>
      simp only [liveStep] at hstep
      split at hstep
      · obtain rfl := Option.some.inj hstep
        exact h
      · cases hstep
  | respond refresh =>
      simp only [liveStep] at hstep
      split at hstep
      · split at hstep
        · obtain rfl := Option.some.inj hstep
          rwa [RealtimeClient.admitted_respond]
        · cases hstep
      · cases hstep
  | fail refresh =>
      simp only [liveStep] at hstep
      split at hstep
      · obtain rfl := Option.some.inj hstep
        rwa [RealtimeClient.admitted_scheduleReconnect]
      · cases hstep

theorem LiveState.Sound.step (h : s.Sound scopeId visibility)
    (hstep : liveStep scopeId visibility s action = some s')
    (hquiet : ∀ input, action ≠ .publish input) : s'.Sound scopeId visibility := by
  refine ⟨?_, admitted_of_step hstep h.admitted⟩
  have hcon := h.consistent
  cases action with
  | publish input => exact (hquiet input rfl).elim
  | load =>
      simp only [liveStep] at hstep
      split at hstep
      · obtain rfl := Option.some.inj hstep
        exact hcon.load
      · cases hstep
  | start =>
      obtain ⟨page, hpage, rfl⟩ := Option.map_eq_some_iff.mp hstep
      exact hcon.start hpage
  | stop =>
      obtain rfl := Option.some.inj hstep
      exact hcon.stop
  | accept =>
      simp only [liveStep] at hstep
      split at hstep
      · next afterRevision hsource =>
        obtain ⟨revision, hrevision, rfl⟩ := Option.map_eq_some_iff.mp hstep
        have hconnected := hcon.connected
        simp only [RealtimeClient.Connected, hsource] at hconnected
        rw [revision_of_resolve hrevision]
        have hnotified := hcon.notify hconnected.1 hconnected.2.1 (.inl hconnected.2.2)
        rw [hsource] at hnotified
        exact hnotified
      · cases hstep
  | disconnect =>
      simp only [liveStep] at hstep
      split at hstep
      · cases hstep
      · obtain rfl := Option.some.inj hstep
        exact hcon.scheduleReconnect
  | reconnect =>
      simp only [liveStep] at hstep
      split at hstep
      · next htimer =>
        obtain rfl := Option.some.inj hstep
        exact hcon.reconnect htimer
      · cases hstep
  | poll =>
      simp only [liveStep] at hstep
      split at hstep
      · next current inbox hsource =>
        obtain ⟨revision, hrevision, rfl⟩ := Option.map_eq_some_iff.mp hstep
        have hconnected := hcon.connected
        simp only [RealtimeClient.Connected, hsource] at hconnected
        rw [revision_of_resolve hrevision]
        have hnotified := hcon.notify hconnected.1 hconnected.2.1 hconnected.2.2
        rw [hsource] at hnotified
        exact hnotified
      · cases hstep
  | deliver =>
      simp only [liveStep] at hstep
      split at hstep
      · next current revision inbox hsource =>
        obtain rfl := Option.some.inj hstep
        exact hcon.deliver hsource
      · cases hstep
  | resume notice =>
      simp only [liveStep] at hstep
      split at hstep
      · next hready =>
        obtain rfl := Option.some.inj hstep
        exact hcon.resume hready.1
      · cases hstep
  | serve refresh =>
      simp only [liveStep] at hstep
      split at hstep
      · next hready =>
        obtain rfl := Option.some.inj hstep
        exact hcon.serve hready.2.1
      · cases hstep
  | respond refresh =>
      simp only [liveStep] at hstep
      split at hstep
      · next page hresponse =>
        split at hstep
        · next hrefresh =>
          obtain rfl := Option.some.inj hstep
          exact hcon.respond hrefresh hresponse
        · cases hstep
      · cases hstep
  | fail refresh =>
      simp only [liveStep] at hstep
      split at hstep
      · obtain rfl := Option.some.inj hstep
        exact hcon.fail
      · cases hstep

/-! ### A way to the current page -/

/-- The client can come to the current page without another publish. -/
def LiveState.CanRecover (scopeId : JsString) (visibility : ActorVisibilityScope)
    (s : LiveState) : Prop :=
  ∃ s', Relation.ReflTransGen (QuietStep scopeId visibility) s s' ∧ s'.Current scopeId visibility

theorem LiveState.CanRecover.of_step (hstep : liveStep scopeId visibility s action = some s')
    (hquiet : ∀ input, action ≠ .publish input) (h : s'.CanRecover scopeId visibility) :
    s.CanRecover scopeId visibility := by
  obtain ⟨s'', hsteps, hcurrent⟩ := h
  exact ⟨s'', .head ⟨action, hquiet, hstep⟩ hsteps, hcurrent⟩

section

variable (h : s.Sound scopeId visibility) (hrunning : s.client.running = true)

include h hrunning

theorem LiveState.Sound.hasVisible : hasVisibleProjects visibility = true :=
  h.admitted (by simp [RealtimeClient.admitted, hrunning])

theorem LiveState.Sound.resolve : s.resolveRevision scopeId visibility =
      some (maximumRevision (s.visible scopeId visibility)) := by
  unfold LiveState.resolveRevision
  rw [if_pos (h.hasVisible hrunning)]
  rfl

theorem canRecover_of_unserved {refresh : Refresh} (hrefresh : refresh ∈ s.client.refreshes)
    (hresponse : refresh.response = none) : s.CanRecover scopeId visibility := by
  let visible := s.visible scopeId visibility
  let served : Refresh := { refresh with response := some visible }
  let client := s.client.serve refresh visible
  have hserve : liveStep scopeId visibility s (.serve refresh) =
      some { s with client := client } :=
    if_pos ⟨h.hasVisible hrunning, hrefresh, hresponse⟩
  have hserved : served ∈ client.refreshes :=
    List.mem_map.mpr ⟨refresh, hrefresh, if_pos rfl⟩
  have hrespond : liveStep scopeId visibility { s with client := client } (.respond served) =
      some { s with client := client.respond served visible } :=
    if_pos hserved
  refine .of_step hserve (by simp) (.of_step hrespond (by simp) ⟨_, .refl, ?_⟩)
  have hadvertised : ¬ maximumRevision visible < served.advertisedRevision :=
    Nat.not_lt.mpr (h.consistent.advertised _ (.inr (.inr ⟨refresh, hrefresh, rfl⟩)))
  have hcurrent : client.currentRevision ≤ maximumRevision visible :=
    h.consistent.currentRevision_le
  unfold LiveState.Current RealtimeClient.respond
  simp only [hadvertised, if_false, hcurrent, if_true]
  rfl

end

theorem canRecover_of_startRefresh {client : RealtimeClient}
    (h : LiveState.Sound scopeId visibility { s with client := client.startRefresh revision })
    (hrunning : client.running = true) : LiveState.CanRecover scopeId visibility
      { s with client := client.startRefresh revision } :=
  canRecover_of_unserved h hrunning (List.mem_append_right _ (List.mem_singleton_self _)) rfl

theorem LiveState.Sound.current_or_lt (h : s.Sound scopeId visibility)
    (hrunning : s.client.running = true) : s.Current scopeId visibility ∨
      s.client.currentRevision < maximumRevision (s.visible scopeId visibility) := by
  obtain ⟨page, hpage⟩ := h.consistent.started hrunning
  rw [h.consistent.revision_of_shown hpage]
  rcases h.consistent.behind page (.inl hpage) with rfl | hlt
  · exact .inl hpage
  · exact .inr hlt

/-- What the client does with the next notice, when no refresh is on its way: it drops the
notice, or it starts a refresh. -/
theorem LiveState.Sound.canRecover_deliver {current revision : ℕ} (h : s.Sound scopeId visibility)
    (hsource : s.client.source = .opened current (revision :: inbox))
    (hrefreshes : s.client.refreshes = [])
    (hdropped : revision ≤ s.client.currentRevision → LiveState.Sound scopeId visibility { s with
      client := { s.client with source := .opened current inbox } } → LiveState.CanRecover scopeId
      visibility { s with client := { s.client with source := .opened current inbox } }) :
    s.CanRecover scopeId visibility := by
  have hconnected := h.consistent.connected
  simp only [RealtimeClient.Connected, hsource] at hconnected
  have hpromise : s.client.refreshPromise = none := by
    by_contra hsome
    obtain ⟨id, hid⟩ := Option.ne_none_iff_exists'.mp hsome
    obtain ⟨refresh, hrefresh, -⟩ := h.consistent.promised id hid
    rw [hrefreshes] at hrefresh
    cases hrefresh
  obtain ⟨received, hreceived⟩ : ∃ client : RealtimeClient,
      { s.client with source := .opened current inbox } = client := ⟨_, rfl⟩
  rw [hreceived] at hdropped
  have hrunning : received.running = true := hreceived ▸ hconnected.1
  have hpromise' : received.refreshPromise = none := hreceived ▸ hpromise
  have hrevision : received.currentRevision = s.client.currentRevision := hreceived ▸ rfl
  have hstep : liveStep scopeId visibility s .deliver =
      some { s with client := received.handleInvalidation revision } := by
    simp only [liveStep, hsource, hreceived]
  have hsound := h.step hstep (by simp)
  refine .of_step hstep (by simp) ?_
  unfold RealtimeClient.handleInvalidation at hsound ⊢
  simp only [hrunning, hpromise', hrevision, Bool.not_true, Bool.false_eq_true, if_false]
    at hsound ⊢
  split at hsound
  · next hold =>
    rw [if_pos hold]
    exact hdropped hold hsound
  · next hnew =>
    rw [if_neg hnew]
    exact canRecover_of_startRefresh hsound hrunning

section

variable (h : s.Sound scopeId visibility)

include h

theorem canRecover_of_poll (hsource : s.client.source = .opened current [])
    (hrefreshes : s.client.refreshes = []) (hawaiting : s.client.awaiting = []) :
    s.CanRecover scopeId visibility := by
  have hconnected := h.consistent.connected
  simp only [RealtimeClient.Connected, hsource] at hconnected
  obtain ⟨hrunning, -, hknows⟩ := hconnected
  rcases h.current_or_lt hrunning with hcurrent | hlt
  · exact ⟨s, .refl, hcurrent⟩
  · have hsent := hknows.of_nothing_pending hsource hrefreshes hawaiting
    have hstep : liveStep scopeId visibility s .poll = some
        { s with client := { s.client with
          source := .opened (maximumRevision (s.visible scopeId visibility))
            [maximumRevision (s.visible scopeId visibility)] } } := by
      simp only [liveStep, hsource, h.resolve hrunning, Option.map_some, notify,
        if_pos (hsent.trans_lt hlt), List.nil_append]
    have hsound := h.step hstep (by simp)
    refine .of_step hstep (by simp) (hsound.canRecover_deliver rfl hrefreshes fun hold => ?_)
    exact (Nat.not_le.mpr hlt hold).elim

theorem canRecover_of_opened (hsource : s.client.source = .opened current inbox)
    (hrefreshes : s.client.refreshes = []) (hawaiting : s.client.awaiting = []) :
    s.CanRecover scopeId visibility := by
  induction inbox generalizing s with
  | nil => exact canRecover_of_poll h hsource hrefreshes hawaiting
  | cons revision inbox ih =>
      exact h.canRecover_deliver hsource hrefreshes fun _ hsound =>
        ih hsound rfl hrefreshes hawaiting

theorem canRecover_of_connecting {afterRevision : ℕ}
    (hsource : s.client.source = .connecting afterRevision) (hrefreshes : s.client.refreshes = [])
    (hawaiting : s.client.awaiting = []) : s.CanRecover scopeId visibility := by
  have hconnected := h.consistent.connected
  simp only [RealtimeClient.Connected, hsource] at hconnected
  have hstep : liveStep scopeId visibility s .accept = some
      { s with client := { s.client with
        source := notify afterRevision (maximumRevision (s.visible scopeId visibility)) [] } } := by
    simp only [liveStep, hsource, h.resolve hconnected.1, Option.map_some]
  have hsound := h.step hstep (by simp)
  refine .of_step hstep (by simp) ?_
  obtain ⟨current, inbox, hopened⟩ : ∃ current inbox,
      notify afterRevision (maximumRevision (s.visible scopeId visibility)) [] =
        .opened current inbox := by
    unfold notify
    split
    · exact ⟨_, _, rfl⟩
    · exact ⟨_, _, rfl⟩
  exact canRecover_of_opened hsound hopened hrefreshes hawaiting

theorem canRecover_of_settled (hrunning : s.client.running = true)
    (hrefreshes : s.client.refreshes = []) (hawaiting : s.client.awaiting = []) :
    s.CanRecover scopeId visibility := by
  cases hsource : s.client.source with
  | closed =>
      have hconnected := h.consistent.connected
      simp only [RealtimeClient.Connected, hsource, hrunning] at hconnected
      have hstep : liveStep scopeId visibility s .reconnect = some
          { s with client := { s.client with
            reconnectTimer := false, source := .connecting s.client.currentRevision } } := by
        simp only [liveStep, hconnected, if_true, RealtimeClient.connect, hrunning]
      have hsound := h.step hstep (by simp)
      exact .of_step hstep (by simp) (canRecover_of_connecting hsound rfl hrefreshes hawaiting)
  | connecting afterRevision => exact canRecover_of_connecting h hsource hrefreshes hawaiting
  | opened current inbox => exact canRecover_of_opened h hsource hrefreshes hawaiting

/-- What is on its way comes first: a refresh that has been served ends, and a handler that
waits goes on. -/
theorem canRecover_of_running {n : ℕ} (hrunning : s.client.running = true)
    (hn : s.client.refreshes.length + s.client.awaiting.length = n) :
    s.CanRecover scopeId visibility := by
  induction n generalizing s with
  | zero =>
      have hrefreshes : s.client.refreshes = [] := List.length_eq_zero_iff.mp (by omega)
      have hawaiting : s.client.awaiting = [] := List.length_eq_zero_iff.mp (by omega)
      exact canRecover_of_settled h hrunning hrefreshes hawaiting
  | succ n ih =>
      by_cases hrefreshes : s.client.refreshes = []
      · obtain ⟨notice, hnotice⟩ : ∃ notice, notice ∈ s.client.awaiting := by
          apply List.exists_mem_of_length_pos
          rw [hrefreshes, List.length_nil] at hn
          omega
        have hstep : liveStep scopeId visibility s (.resume notice) =
            some { s with client := s.client.resume notice } :=
          if_pos ⟨hnotice, fun refresh hrefresh => by
            rw [hrefreshes] at hrefresh
            cases hrefresh⟩
        have hsound := h.step hstep (by simp)
        refine .of_step hstep (by simp) ?_
        by_cases hold : notice.revision ≤ s.client.currentRevision
        · simp only [RealtimeClient.resume, if_pos hold] at hsound ⊢
          refine ih hsound hrunning ?_
          have hlength := List.length_erase_of_mem hnotice
          have hpos := List.length_pos_of_mem hnotice
          simp only [hlength]
          omega
        · simp only [RealtimeClient.resume, if_neg hold] at hsound ⊢
          exact canRecover_of_startRefresh hsound hrunning
      · obtain ⟨refresh, hrefresh⟩ := List.exists_mem_of_ne_nil _ hrefreshes
        cases hresponse : refresh.response with
        | none => exact canRecover_of_unserved h hrunning hrefresh hresponse
        | some page =>
            have hstep : liveStep scopeId visibility s (.respond refresh) =
                some { s with client := s.client.respond refresh page } := by
              simp only [liveStep, hresponse, if_pos hrefresh]
            refine .of_step hstep (by simp) (ih (h.step hstep (by simp)) ?_ ?_)
            · exact (RealtimeClient.running_respond _ _ _).trans hrunning
            · have hlength := List.length_erase_of_mem hrefresh
              have hpos := List.length_pos_of_mem hrefresh
              rw [RealtimeClient.refreshes_respond, RealtimeClient.awaiting_respond, hlength]
              omega

end

/-- The page that is shown has been overtaken, and the feed is not ahead of it. -/
def LiveState.Lost (scopeId : JsString) (visibility : ActorVisibilityScope) (s : LiveState) :
    Prop :=
  ∃ page, s.client.shown = some page ∧ page ≠ s.visible scopeId visibility ∧
    maximumRevision (s.visible scopeId visibility) ≤ s.client.currentRevision

/-- The condition leaves nothing out: where a publish does not pass a page that the client
holds, the update is lost, at once or when the page is shown. -/
theorem lost_of_not_passes (h : s.Sound scopeId visibility)
    (hpublish : PublishesVisible scopeId visibility s.projections input)
    (hpage : s.client.Holds page)
    (hpasses : ¬ ((∀ row ∈ page, row.revision < s.projections.nextRevision input.scope) ∨ ∃ other ∈
      s.visible scopeId visibility, ∀ row ∈ page, row.revision < other.revision)) :
    ∃ s', Relation.ReflTransGen (QuietStep scopeId visibility)
        { s with projections := (ProjectionTable.publish s.projections input).2 } s' ∧
      s'.Lost scopeId visibility := by
  obtain ⟨hnext, hothers⟩ := not_or.mp hpasses
  let published : LiveState :=
    { s with projections := (ProjectionTable.publish s.projections input).2 }
  have hbehind : maximumRevision (published.visible scopeId visibility) ≤ maximumRevision page := by
    refine maximumRevision_le fun row hrow => ?_
    rcases of_mem_visibleSnapshots_publish hpublish hrow with hold | hnew
    · by_contra hlt
      exact hothers ⟨row, hold, fun other hother =>
        (revision_le_maximumRevision hother).trans_lt (Nat.not_le.mp hlt)⟩
    · push Not at hnext
      obtain ⟨other, hother, hle⟩ := hnext
      rw [hnew]
      exact hle.trans (revision_le_maximumRevision hother)
  have hcurrent : page = s.visible scopeId visibility := by
    have hmono := maximumRevision_publish_mono scopeId visibility s.projections input
    exact (h.consistent.behind page hpage).resolve_right
      (Nat.not_lt.mpr (hmono.trans hbehind))
  have hne : page ≠ published.visible scopeId visibility := by
    intro hsame
    have hnew := mem_visibleSnapshots_of_publish hpublish
    change _ ∈ published.visible scopeId visibility at hnew
    rw [← hsame, hcurrent] at hnew
    exact not_mem_visibleSnapshots_nextRevision hnew
  rcases hpage with hshown | hloaded | ⟨refresh, hrefresh, hresponse, hadvertised⟩
  · refine ⟨published, .refl, page, hshown, hne, ?_⟩
    exact hbehind.trans (h.consistent.revision_of_shown hshown).ge
  · -- The page is what the client is started with.
    let stopped := s.client.stop
    have hstop : QuietStep scopeId visibility published { published with client := stopped } :=
      ⟨.stop, by simp, rfl⟩
    have hstart : QuietStep scopeId visibility { published with client := stopped }
        { published with client := stopped.start page } :=
      ⟨.start, by simp, congrArg (Option.map _) hloaded⟩
    exact ⟨_, .head hstop (.single hstart), page, rfl, hne, hbehind⟩
  · have hstep : QuietStep scopeId visibility published
        { published with client := s.client.respond refresh page } := by
      refine ⟨.respond refresh, by simp, ?_⟩
      simp only [liveStep, hresponse, published, if_pos hrefresh]
    refine ⟨_, .single hstep, page, ?_⟩
    have hle : s.client.currentRevision ≤ maximumRevision page :=
      h.consistent.currentRevision_le.trans (hcurrent ▸ le_rfl)
    simp only [RealtimeClient.respond, Nat.not_lt.mpr hadvertised, hle, if_false, if_true]
    exact ⟨trivial, hne, hbehind⟩

variable {projections : ProjectionTable} {c : LiveConfig}

theorem sound_of_passes (hrun : Run (liveSystem scopeId visibility)
    (PassesHeldPages scopeId visibility) (.ofTable projections) c) :
    c.now.state.Sound scopeId visibility := by
  refine hrun.invariant ⟨RealtimeClient.consistent_idle, fun h => by cases h⟩
    (fun {_ cmd} => cmd.elim) ?_
  intro m action s' hcond hstep h
  by_cases hpublish : ∃ input, action = .publish input
  · obtain ⟨input, rfl⟩ := hpublish
    obtain rfl := Option.some.inj hstep
    exact h.publish hcond
  · exact h.step hstep fun input hinput => hpublish ⟨input, hinput⟩

end Runs

/-- In every run in which each publish of a visible project passes the pages that the client
holds, no update is lost. -/
theorem noLostUpdate_of_passes (scopeId : JsString) (visibility : ActorVisibilityScope)
    (projections : ProjectionTable) :
    NoLostUpdate scopeId visibility projections (PassesHeldPages scopeId visibility) where
  noticed := by
    intro c page hrun hpage hne revision hrevision
    have hsound := sound_of_passes hrun
    rw [revision_of_resolve hrevision, hsound.consistent.revision_of_shown hpage]
    exact (hsound.consistent.behind page (.inl hpage)).resolve_left hne
  atRest := by
    intro c current hrun hsource hrefreshes hawaiting hsilent
    have hsound := sound_of_passes hrun
    have hconnected := hsound.consistent.connected
    simp only [RealtimeClient.Connected, hsource] at hconnected
    obtain ⟨hrunning, -, hknows⟩ := hconnected
    rcases hsound.current_or_lt hrunning with hcurrent | hlt
    · exact hcurrent
    · have hsent := hknows.of_nothing_pending hsource hrefreshes hawaiting
      have hle := hsilent _ (hsound.resolve hrunning)
      omega
  recovers := fun hrun hrunning => canRecover_of_running (sound_of_passes hrun) hrunning rfl

/-! ## A project that is behind -/

def observer : ActorVisibilityScope where
  actorId := js "actor"
  organizationIds := [js "organization"]
  projectIds := []

def publishOf (project digest : String) : LiveAction :=
  .publish
    { scope :=
        { scopeId := js "workbench"
          organizationId := js "organization"
          projectId := js project }
      cursor := none
      digest := js digest
      snapshot :=
        { revision := 0
          generatedAt := 0
          summary := { metrics := [], taskCounts := taskCounts [] }
          tasks := [] } }

/-- The client starts when one project has two revisions and the other one has one; then the
other one is published again. -/
def behind : List (Action Empty Unit LiveAction) :=
  ([publishOf "ahead" "1", publishOf "ahead" "2", publishOf "behind" "1", .load, .start,
    publishOf "behind" "2"] : List LiveAction).map .change

/-- The revisions of the projects, where the page was made and now, and what the client and
the feed make of them. -/
structure LiveView where
  shown : Option (List ℕ)
  stored : List ℕ
  client : ℕ
  feed : Option ℕ
  deriving DecidableEq

def liveView (c : LiveConfig) : LiveView where
  shown := c.now.state.client.shown.map fun page => page.map (·.revision)
  stored := (c.now.state.visible (js "workbench") observer).map (·.revision)
  client := c.now.state.client.currentRevision
  feed := c.now.state.resolveRevision (js "workbench") observer

theorem not_noLostUpdate : ¬ NoLostUpdate (js "workbench") observer (Sql.Table.empty _)
    fun _ _ => True := by
  intro hclaim
  have hexec : (execute (liveSystem (js "workbench") observer)
      (Config.initial (.ofTable (Sql.Table.empty _))) behind).map liveView = some
        { shown := some [2, 1]
          stored := [2, 2]
          client := 2
          feed := some 2 } := by
    decide +kernel
  obtain ⟨c, hc, hview⟩ := Option.map_eq_some_iff.mp hexec
  obtain ⟨hshown, hstored, hclient, hfeed⟩ := LiveView.mk.inj hview
  obtain ⟨page, hpage, hrevisions⟩ := Option.map_eq_some_iff.mp hshown
  have hne : page ≠ c.now.state.visible (js "workbench") observer := by
    rintro rfl
    rw [hrevisions] at hstored
    exact absurd hstored (by decide)
  have hlt := hclaim.noticed (reached_of_execute hc) hpage hne 2 hfeed
  omega

end DevHarness.Workbench
