import DevHarness.ReleaseCenter.Acceptance

/-!
# The identity of canary events

An event is refused when its id, as the caller spells it, is the id of an event of the attempt.  What
is stored is the id without the white space around it.  Two spellings of one id are therefore both
recorded, and an alert is then looked up under the id that an earlier event has.
-/

namespace DevHarness.ReleaseCenter

open JsText Sequence

def CanaryEvent.identity (event : CanaryEvent) : ℕ × JsString :=
  (event.attempt, event.id)

/-- The alert at a place can be resolved under the id that is stored, whatever the reason and the
time. -/
def Resolvable (value : CanaryAggregate) (i : ℕ) (event : CanaryEvent) : Prop :=
  ∀ reason text now, required reason (js "reason") 4000 = .ok text →
    ∃ next, resolveCanaryAlert value event.id reason now = .ok next ∧
      next.events[i]? = some event.resolve

/-- Events of one attempt have different ids, and every alert of the current attempt that is not
resolved can be. -/
structure EventIdentity (value : CanaryAggregate) : Prop where
  distinct : value.events.Pairwise fun earlier later =>
    earlier.attempt = later.attempt → earlier.id ≠ later.id
  resolvable : value.status = .observing → ∀ i event severity, value.events[i]? = some event →
    event.attempt = value.attempt → event.kind = .alert severity false → Resolvable value i event

/-- A call that a canary has answered, with the canary before it. -/
structure CanaryCall where
  before : CanaryAggregate
  operation : CanaryOperation
  now : ℤ

/-- The calls that a canary has answered, newest first, and the canary after them.  A call that is
refused leaves the canary as it was. -/
inductive CanaryCourse (parse : JsString → Option ℤ) : List CanaryCall → CanaryAggregate → Prop
  | created (input : CreateCanaryInput) (now : ℤ) (value : CanaryAggregate)
      (hcreate : createCanary input now = .ok value) : CanaryCourse parse [] value
  | called (operation : CanaryOperation) (now : ℤ) (value next : CanaryAggregate)
      (calls : List CanaryCall) (hcourse : CanaryCourse parse calls value)
      (happly : operation.apply parse value now = .ok next) :
      CanaryCourse parse (⟨value, operation, now⟩ :: calls) next

/-- No event of the attempt has the id of an event that is recorded, once the white space around it
is gone. -/
def CanaryCall.RecordsNewId (call : CanaryCall) : Prop :=
  match call.operation with
  | .recordEvent _ event =>
    ∀ existing ∈ call.before.events, existing.attempt = call.before.attempt →
      existing.id ≠ trim event.id
  | _ => True

section Identity

variable {parse : JsString → Option ℤ} {value next : CanaryAggregate} {now : ℤ}
  {calls : List CanaryCall} {operation : CanaryOperation} {event : CanaryEvent} {eventId : JsString}

theorem identity_resolve (event : CanaryEvent) : event.resolve.identity = event.identity := by
  unfold CanaryEvent.resolve
  split <;> rfl

theorem id_eq_trim {text label stored : JsString} (h : id text label = .ok stored) :
    stored = trim text := by
  obtain ⟨bounded, hrequired, h⟩ := bind_eq_ok.mp h
  obtain ⟨-, h⟩ := check_bind_eq_ok.mp h
  obtain ⟨-, hbounded⟩ := check_bind_eq_ok.mp hrequired
  rw [← Except.ok.inj h, ← Except.ok.inj hbounded]

theorem events_of_recordCanaryEvent {actorId : JsString} {input : NewCanaryEvent}
    (h : recordCanaryEvent parse value actorId input now = .ok next) :
    ∃ event, next.events = value.events ++ [event] ∧
      event.identity = (value.attempt, trim input.id) := by
  obtain ⟨canaryStart, -, h⟩ := bind_eq_ok.mp h
  obtain ⟨-, h⟩ := check_bind_eq_ok.mp h
  obtain ⟨eventId, hid, h⟩ := bind_eq_ok.mp h
  obtain ⟨observedAt, -, h⟩ := bind_eq_ok.mp h
  obtain ⟨ownerId, -, h⟩ := bind_eq_ok.mp h
  obtain ⟨refs, -, h⟩ := bind_eq_ok.mp h
  obtain ⟨recordedBy, -, h⟩ := bind_eq_ok.mp h
  obtain ⟨-, h⟩ := check_bind_eq_ok.mp h
  obtain ⟨kind, -, h⟩ := bind_eq_ok.mp h
  obtain rfl := Except.ok.inj h
  refine ⟨_, rfl, ?_⟩
  rw [CanaryEvent.identity, id_eq_trim hid]

theorem identities_of_apply (happly : operation.apply parse value now = .ok next)
    (hother : ∀ actorId input, operation ≠ .recordEvent actorId input) :
    next.events.map CanaryEvent.identity = value.events.map CanaryEvent.identity := by
  cases operation with
  | approve actorId reason =>
      obtain ⟨-, happly⟩ := check_bind_eq_ok.mp happly
      obtain ⟨_, -, happly⟩ := bind_eq_ok.mp happly
      obtain ⟨ownerId, -, happly⟩ := bind_eq_ok.mp happly
      rw [← Except.ok.inj happly]
  | recordWindow actorId window =>
      obtain ⟨canaryStart, -, happly⟩ := bind_eq_ok.mp happly
      obtain ⟨-, happly⟩ := check_bind_eq_ok.mp happly
      obtain ⟨startedAt, -, happly⟩ := bind_eq_ok.mp happly
      obtain ⟨endedAt, -, happly⟩ := bind_eq_ok.mp happly
      obtain ⟨-, happly⟩ := check_bind_eq_ok.mp happly
      obtain ⟨-, happly⟩ := check_bind_eq_ok.mp happly
      obtain ⟨status, -, happly⟩ := bind_eq_ok.mp happly
      obtain ⟨p0Count, -, happly⟩ := bind_eq_ok.mp happly
      obtain ⟨p1Count, -, happly⟩ := bind_eq_ok.mp happly
      obtain ⟨refs, -, happly⟩ := bind_eq_ok.mp happly
      obtain ⟨recordedBy, -, happly⟩ := bind_eq_ok.mp happly
      rw [← Except.ok.inj happly]
      rfl
  | recordEvent actorId event => exact absurd rfl (hother actorId event)
  | resolveAlert eventId reason =>
      obtain ⟨-, happly⟩ := check_bind_eq_ok.mp happly
      obtain ⟨_, -, happly⟩ := bind_eq_ok.mp happly
      obtain ⟨-, happly⟩ := check_bind_eq_ok.mp happly
      rw [← Except.ok.inj happly]
      exact map_updateFirst identity_resolve
  | restart actorId reason =>
      obtain ⟨-, happly⟩ := check_bind_eq_ok.mp happly
      obtain ⟨_, -, happly⟩ := bind_eq_ok.mp happly
      obtain ⟨ownerId, -, happly⟩ := bind_eq_ok.mp happly
      rw [← Except.ok.inj happly]
  | finalize verification =>
      obtain ⟨finalizing, -, happly⟩ := bind_eq_ok.mp happly
      obtain ⟨verified, -, happly⟩ := bind_eq_ok.mp happly
      obtain ⟨result, -, happly⟩ := bind_eq_ok.mp happly
      rw [← Except.ok.inj happly]

theorem mem_identities {attempt : ℕ} :
    (attempt, eventId) ∈ value.events.map CanaryEvent.identity ↔
      ∃ event ∈ value.events, event.attempt = attempt ∧ event.id = eventId := by
  simp only [List.mem_map, CanaryEvent.identity, Prod.mk.injEq]

/-- An answered call keeps identities apart exactly when it records none that is there. -/
theorem nodup_identities_of_apply (happly : operation.apply parse value now = .ok next) :
    (next.events.map CanaryEvent.identity).Nodup ↔
      (value.events.map CanaryEvent.identity).Nodup ∧
        CanaryCall.RecordsNewId ⟨value, operation, now⟩ := by
  by_cases hrecord : ∃ actorId input, operation = .recordEvent actorId input
  · obtain ⟨actorId, input, rfl⟩ := hrecord
    obtain ⟨event, hevents, hidentity⟩ := events_of_recordCanaryEvent happly
    have hnew : (value.attempt, trim input.id) ∉ value.events.map CanaryEvent.identity ↔
        CanaryCall.RecordsNewId ⟨value, .recordEvent actorId input, now⟩ := by
      rw [mem_identities, not_exists]
      simp only [CanaryCall.RecordsNewId, not_and]
    rw [hevents, List.map_append, List.map_singleton, hidentity, ← hnew,
      List.nodup_append_comm, List.singleton_append, List.nodup_cons]
    exact and_comm
  · have hother : ∀ actorId input, operation ≠ .recordEvent actorId input :=
      fun actorId input hsame => hrecord ⟨actorId, input, hsame⟩
    have htrivial : CanaryCall.RecordsNewId ⟨value, operation, now⟩ := by
      unfold CanaryCall.RecordsNewId
      split
      · next actorId event hsame => exact absurd hsame (hother actorId event)
      · trivial
    rw [identities_of_apply happly hother]
    exact (and_iff_left htrivial).symm

theorem nodup_identities_iff (hcourse : CanaryCourse parse calls value) :
    (value.events.map CanaryEvent.identity).Nodup ↔ ∀ call ∈ calls, call.RecordsNewId := by
  induction hcourse with
  | created input now value hcreate =>
      obtain ⟨hfresh, -⟩ := created_of_createCanary hcreate
      rw [hfresh.events]
      simp
  | called operation now value next calls _ happly ih =>
      rw [nodup_identities_of_apply happly, ih, List.forall_mem_cons]
      exact and_comm

/-! ## Alerts -/

theorem distinct_iff (value : CanaryAggregate) :
    (value.events.Pairwise fun earlier later =>
      earlier.attempt = later.attempt → earlier.id ≠ later.id) ↔
      (value.events.map CanaryEvent.identity).Nodup := by
  rw [List.nodup_iff_pairwise_ne, List.pairwise_map]
  apply List.Pairwise.iff
  intro earlier later
  simp only [CanaryEvent.identity, ne_eq, Prod.mk.injEq, not_and]

def isNamed (value : CanaryAggregate) (eventId : JsString) (event : CanaryEvent) : Bool :=
  decide (event.attempt = value.attempt) && decide (event.id = eventId) && event.isAlert

theorem isNamed_iff : isNamed value eventId event = true ↔
    event.attempt = value.attempt ∧ event.id = eventId ∧ event.isAlert = true := by
  simp only [isNamed, Bool.and_eq_true, decide_eq_true_eq, and_assoc]

theorem resolveCanaryAlert_ok {eventId reason text : JsString} (hobserving : value.status = .observing)
    (hreason : required reason (js "reason") 4000 = .ok text) (hmem : event ∈ value.events)
    (hnamed : isNamed value eventId event = true) :
    resolveCanaryAlert value eventId reason now = .ok
      { value with
        events := updateFirst (isNamed value eventId) CanaryEvent.resolve value.events
        version := value.version + 1
        updatedAt := now } := by
  have hstatus : validate (value.status = .observing) (js "Canary is not observing") = .ok () := by
    rw [validate_eq_ok, hobserving]
    rfl
  have hany : validate (value.events.any (isNamed value eventId)) (js "Canary alert was not found") =
      .ok () :=
    validate_eq_ok.mpr (List.any_eq_true.mpr ⟨event, hmem, hnamed⟩)
  rw [resolveCanaryAlert, check_bind_ok hstatus, hreason, ok_bind]
  exact check_bind_ok hany

theorem resolvable_of_nodup (hnodup : (value.events.map CanaryEvent.identity).Nodup)
    (hobserving : value.status = .observing) {i : ℕ} {severity : Severity} {resolved : Bool}
    (hevent : value.events[i]? = some event) (hattempt : event.attempt = value.attempt)
    (halert : event.kind = .alert severity resolved) : Resolvable value i event := by
  intro reason text now hreason
  have hmem : event ∈ value.events := List.mem_of_getElem? hevent
  have hnamed : isNamed value event.id event = true := by
    rw [isNamed_iff, CanaryEvent.isAlert, halert]
    exact ⟨hattempt, rfl, rfl⟩
  have hunique : value.events.Pairwise fun x y =>
      ¬ (isNamed value event.id x = true ∧ isNamed value event.id y = true) := by
    apply ((distinct_iff value).mpr hnodup).imp
    rintro x y hne ⟨hx, hy⟩
    obtain ⟨hxattempt, hxid, -⟩ := isNamed_iff.mp hx
    obtain ⟨hyattempt, hyid, -⟩ := isNamed_iff.mp hy
    exact hne (hxattempt.trans hyattempt.symm) (hxid.trans hyid.symm)
  refine ⟨_, resolveCanaryAlert_ok hobserving hreason hmem hnamed, ?_⟩
  change (updateFirst (isNamed value event.id) CanaryEvent.resolve value.events)[i]? = _
  rw [updateFirst_eq_map hunique, List.getElem?_map, hevent, Option.map_some, if_pos hnamed]

/-- Events have identities of their own, after any calls, exactly when every event that was recorded
had an id that was new. -/
theorem eventIdentity_iff_recordsNewIds (hcourse : CanaryCourse parse calls value) :
    EventIdentity value ↔ ∀ call ∈ calls, call.RecordsNewId := by
  rw [← nodup_identities_iff hcourse]
  constructor
  · intro h
    exact (distinct_iff value).mp h.distinct
  · intro hnodup
    constructor
    · exact (distinct_iff value).mpr hnodup
    · intro hobserving i event severity hevent hattempt halert
      exact resolvable_of_nodup hnodup hobserving hevent hattempt halert

end Identity

/-! ## An id with a blank before it -/

def minuteAlert (eventId : String) : NewCanaryEvent where
  id := js eventId
  kind := js "alert"
  severity := js "P2"
  resolved := false
  status := []
  workaround := none
  reason := []
  observedAt := toISOString 0
  ownerId := js "oidc_owner"
  evidenceRefs := [js "alert:01"]

def alertedCanary (alerts : ℕ) : CanaryAggregate :=
  { observedCanary (js "oidc_owner") 0 with
    events := List.replicate alerts
      { id := js "alert-01"
        attempt := 1
        kind := .alert .p2 false
        observedAt := 0
        ownerId := js "oidc_owner"
        evidenceRefs := [js "alert:01"]
        recordedBy := js "oidc_operations" }
    version := alerts + 2 }

theorem eventIdentity_oneAlert : EventIdentity (alertedCanary 1) := by
  have happrove : CanaryOperation.apply parseHours draftCanary 0
      (.approve (js "oidc_owner") (js "bounded")) =
      .ok (observedCanary (js "oidc_owner") 0) := by decide +kernel
  have hrecord : CanaryOperation.apply parseHours (observedCanary (js "oidc_owner") 0) 0
      (.recordEvent (js "oidc_operations") (minuteAlert "alert-01")) =
      .ok (alertedCanary 1) := by decide +kernel
  have hcreated : CanaryCourse parseHours [] draftCanary :=
    .created canaryDraft 0 draftCanary createCanary_canaryDraft
  have happroved := CanaryCourse.called _ _ _ _ _ hcreated happrove
  have hcourse := CanaryCourse.called _ _ _ _ _ happroved hrecord
  refine (eventIdentity_iff_recordsNewIds hcourse).mpr ?_
  rw [List.forall_mem_cons, List.forall_mem_cons]
  refine ⟨?_, True.intro, fun call hcall => absurd hcall List.not_mem_nil⟩
  intro existing hexisting
  exact absurd hexisting List.not_mem_nil

/-- The same id is recorded once more when it is spelled with a blank. -/
theorem not_eventIdentity :
    ¬ ∀ (parse : JsString → Option ℤ) (calls : List CanaryCall) (value : CanaryAggregate),
      CanaryCourse parse calls value → EventIdentity value := by
  intro h
  have happrove : CanaryOperation.apply parseHours draftCanary 0
      (.approve (js "oidc_owner") (js "bounded")) =
      .ok (observedCanary (js "oidc_owner") 0) := by decide +kernel
  have hrecord : CanaryOperation.apply parseHours (observedCanary (js "oidc_owner") 0) 0
      (.recordEvent (js "oidc_operations") (minuteAlert "alert-01")) =
      .ok (alertedCanary 1) := by decide +kernel
  have hrepeat : CanaryOperation.apply parseHours (alertedCanary 1) 0
      (.recordEvent (js "oidc_operations") (minuteAlert " alert-01")) =
      .ok (alertedCanary 2) := by decide +kernel
  have hcreated : CanaryCourse parseHours [] draftCanary :=
    .created canaryDraft 0 draftCanary createCanary_canaryDraft
  have happroved := CanaryCourse.called _ _ _ _ _ hcreated happrove
  have halerted := CanaryCourse.called _ _ _ _ _ happroved hrecord
  have hidentity := h _ _ _ (CanaryCourse.called _ _ _ _ _ halerted hrepeat)
  have hdistinct := (distinct_iff _).mp hidentity.distinct
  revert hdistinct
  decide +kernel

end DevHarness.ReleaseCenter
