import Mathlib.Data.Fintype.EquivFin
import DevHarness.Auth.OidcService
import DevHarness.Interleave.Ending
import DevHarness.Sequence.Checks

/-!
# Sign-ins after failures

No failed request leaves a mark on the sign-ins that come after it, but one: what the first
discovery request is answered with is kept for good.  Where that answer is the provider's
document, every call that starts while the provider answers correctly succeeds, whatever
has failed before it.
-/

namespace DevHarness.Oidc

open Interleave Interleave.Program JsText

abbrev OidcEvent := Event Cmd Resp Failure Call Ret (Option Response)

abbrev OidcConfiguration := Config Service Cmd Resp Failure Call Ret (Option Response)

/-- The condition on the steps of a run. -/
abbrev OidcCondition :=
  Moment Service Cmd Resp Failure Call Ret (Option Response) →
    Attempt Cmd Call (Option Response) → Prop

/-- The provider that a service is configured for: its discovery document, which the
service accepts, and its keys. -/
structure Provider (platform : Platform) (config : OidcConfig) where
  document : Json
  discovery : DiscoveryDocument
  served : discoveryDocument platform config (some ⟨true, some document⟩) = .ok discovery
  keys : Json

/-- The iv and the ciphertext that a cookie carries. -/
def readEnvelope (value : JsString) : Option Envelope :=
  (envelopeParts value).bind fun parts =>
    (decodeBase64Url parts.1).bind fun iv =>
      (decodeBase64Url parts.2).map fun ciphertext => (iv, ciphertext)

/-- The readings of the clock, in order. -/
def clockReadings (ex : List (Exchange Cmd Resp Failure)) : List ℤ :=
  ex.filterMap fun
    | ⟨.clock, .ok time⟩ => some time
    | _ => none

/-- A call of `begin` has returned the cookie, in which it has sealed the transaction. -/
def Began (past : List OidcEvent) (cookie : JsString) (transaction : TransactionPayload) : Prop :=
  ∃ pid returnToValue, .spawned pid (.begin returnToValue) ∈ past ∧
    .performed pid (.sealCookie (.transaction transaction)) (.ok cookie) ∈ past

variable {platform : Platform} {config : OidcConfig} {transaction : TransactionPayload}
  {envelope : Envelope} {cond : OidcCondition} {c : OidcConfiguration} {pid : ℕ}

section Claims

variable (provider : Provider platform config)

/-- The provider serves its document and its keys.  What it answers to a token request
depends on the code. -/
def Provider.Correct : OidcEvent → Prop
  | .changed answer => answer = some ⟨true, some provider.document⟩
  | .performed _ (.fetchKeys _) answer => answer = .ok ⟨true, some provider.keys⟩
  | _ => True

/-- The provider accepts the code: it answers with an ID token that is valid for the nonce
at the time at which it is checked. -/
def Provider.Accepts (ex : List (Exchange Cmd Resp Failure)) (nonce : JsString) : Prop :=
  ∀ endpoint form answer, ⟨.fetchToken endpoint form, answer⟩ ∈ ex →
    ∃ body text token, answer = .ok ⟨true, some body⟩ ∧
      text? (js "id_token") body = some text ∧ readIdToken platform text = .ok token ∧
      ∀ now, (clockReadings ex)[1]? = some now →
        checkIdToken platform config provider.keys token nonce (now / 1000) = .ok token.payload

/-- Which calls are to succeed: every `begin`, and `complete` with an unexpired cookie, its
state, and a code that the provider accepts. -/
def Provider.Entitles (older : List OidcEvent) (ex : List (Exchange Cmd Resp Failure)) :
    Call → Prop
  | .begin _ => True
  | .complete input => truthy input.code = true ∧ ∃ cookie transaction,
      Began older cookie transaction ∧ input.transactionCookie = some cookie ∧
      input.state = some transaction.state ∧
      (∀ time, (clockReadings ex)[0]? = some time → time < transaction.expiresAt) ∧
      provider.Accepts ex transaction.nonce

/-- While the provider answers correctly since a call was started, the call succeeds. -/
def Recovers (c : OidcConfiguration) : Prop :=
  ∀ recent newer older pid call result,
    c.now.past = recent ++ .finished pid result :: (newer ++ .spawned pid call :: older) →
    (∀ e ∈ newer, provider.Correct e) → provider.Entitles older (exchangesOf pid newer) call →
    ∃ ret, result = .ok ret

/-- No call waits for ever: correct answers bring it to its end. -/
def Returns (cond : OidcCondition) (c : OidcConfiguration) : Prop :=
  ∀ pid p, c.procs pid = some p → ∃ c' recent result,
    Relation.ReflTransGen (Step (system platform config) cond) c c' ∧
    c'.now.past = .finished pid result :: (recent ++ c.now.past) ∧
    ∀ e ∈ recent, provider.Correct e

/-- Every session is for a call with the cookie of a `begin`, unexpired, and the state in
it, and for an ID token with its nonce, from the issuer and for the client that are
configured. -/
def Justified (platform : Platform) (config : OidcConfig) (c : OidcConfiguration) : Prop :=
  ∀ recent older pid returnTo sessionCookie,
    c.now.past = recent ++ .finished pid (.ok (.completed returnTo sessionCookie)) :: older →
    ∃ input presented cookie transaction time, .spawned pid (.complete input) ∈ older ∧
      Began older cookie transaction ∧ input.transactionCookie = some presented ∧
      (readEnvelope presented).isSome ∧ readEnvelope presented = readEnvelope cookie ∧
      (clockReadings (exchangesOf pid older))[0]? = some time ∧ time < transaction.expiresAt ∧
      input.state = some transaction.state ∧
      ∃ endpoint form response body text token,
        .performed pid (.fetchToken endpoint form) (.ok response) ∈ older ∧
        response.body = some body ∧ text? (js "id_token") body = some text ∧
        readIdToken platform text = .ok token ∧
        text? (js "iss") token.payload = some config.issuer ∧
        .string config.clientId ∈ audience token.payload ∧
        text? (js "nonce") token.payload = some transaction.nonce

/-- The discovery request is answered with the provider's document. -/
def Provider.Discovered : OidcCondition
  | _, .change answer => answer = some ⟨true, some provider.document⟩
  | _, _ => True

end Claims

/-! ## Cookies -/

section Cookies

variable {value : JsString} {opened : Envelope → Option Plaintext}

/-- A cookie carries what was sealed. -/
theorem readEnvelope_sealText (hiv : envelope.1 ≠ []) (hciphertext : envelope.2 ≠ []) :
    readEnvelope (sealText envelope) = some envelope := by
  have htext : sealText envelope = js "v1" ++ 0x2E ::
      (encodeBase64Url envelope.1 ++ 0x2E :: encodeBase64Url envelope.2) := by
    rw [sealText, List.append_assoc]
    rfl
  have hversion : (0x2E : UInt16) ∉ js "v1" := by decide
  have hparts : envelopeParts (sealText envelope) =
      some (encodeBase64Url envelope.1, encodeBase64Url envelope.2) := by
    rw [envelopeParts, htext, List.splitOn_append_cons_self_of_not_mem hversion,
      List.splitOn_append_cons_self_of_not_mem (dot_not_mem_encodeBase64Url _),
      List.splitOn_eq_singleton (dot_not_mem_encodeBase64Url _)]
    simp [encodeBase64Url_ne_nil hiv, encodeBase64Url_ne_nil hciphertext, truthy]
  simp [readEnvelope, hparts, decodeBase64Url_encodeBase64Url]

theorem truthy_of_readEnvelope (h : readEnvelope value = some envelope) :
    truthy (some value) = true := by
  cases value with
  | nil => cases h
  | cons u rest => rfl

/-- A cookie opens when its envelope does. -/
theorem unsealTransaction_ok_iff : unsealTransaction config opened value = .ok transaction ↔
    (∃ key, cookieKey config.cookieSecret = .ok key) ∧ ∃ envelope,
      readEnvelope value = some envelope ∧ opened envelope = some (.transaction transaction) := by
  unfold unsealTransaction readEnvelope
  rcases hparts : envelopeParts value with _ | parts
  · simp [require, Bind.bind, Except.bind]
  rcases hiv : decodeBase64Url parts.1 with _ | iv
  · simp [require, Bind.bind, Except.bind, hiv]
  rcases hkey : cookieKey config.cookieSecret with e | key
  · simp [require, Bind.bind, Except.bind, hiv]
  rcases hciphertext : decodeBase64Url parts.2 with _ | ciphertext
  · simp [require, Bind.bind, Except.bind, hiv, hciphertext]
  rcases hopened : opened (iv, ciphertext) with _ | ⟨payload⟩ | ⟨payload⟩
  · simp [require, Bind.bind, Except.bind, hiv, hciphertext, hopened]
  · simp [require, Bind.bind, Except.bind, hiv, hciphertext, hopened]
  · simp [require, Bind.bind, Except.bind, hiv, hciphertext, hopened]

end Cookies

/-! ## Steps -/

section Steps

variable {provider : Provider platform config} {choice : Choice} {cmd : Cmd}
  {answer : Except Failure (Resp cmd)} {s s' : Service} {plaintext : Plaintext} {cookie : JsString}

/-- What a command does to the service: it may start the discovery request, and it may seal one
cookie that is new. -/
theorem exec_cases (h : exec config choice cmd s = some (answer, s')) :
    (s'.discovery = s.discovery ∨ s'.discovery = s.discovery.or (some .pending)) ∧
    (s'.sealed = s.sealed ∨ ∃ envelope plaintext, envelope.1 ≠ [] ∧ envelope.2 ≠ [] ∧
      s.sealed.lookup envelope = none ∧ s'.sealed = (envelope, plaintext) :: s.sealed ∧
      (⟨cmd, answer⟩ : Exchange Cmd Resp Failure) =
        ⟨.sealCookie plaintext, .ok (sealText envelope)⟩) := by
  cases cmd with
  | startDiscovery =>
      obtain ⟨rfl, rfl⟩ := Prod.ext_iff.mp (Option.some.inj h)
      exact ⟨.inr rfl, .inl rfl⟩
  | sealCookie plaintext =>
      simp only [exec] at h
      split at h
      · obtain ⟨rfl, rfl⟩ := Prod.ext_iff.mp (Option.some.inj h)
        exact ⟨.inl rfl, .inl rfl⟩
      · split at h
        · next hfresh =>
          obtain ⟨rfl, rfl⟩ := Prod.ext_iff.mp (Option.some.inj h)
          refine ⟨.inl rfl, .inr ⟨_, _, ?_, hfresh.2.1, hfresh.2.2, rfl, rfl⟩⟩
          exact List.ne_nil_of_length_eq_add_one hfresh.1
        · cases h
  | awaitDiscovery | randomValue =>
      simp only [exec] at h
      split at h
      · obtain ⟨rfl, rfl⟩ := Prod.ext_iff.mp (Option.some.inj h)
        exact ⟨.inl rfl, .inl rfl⟩
      · cases h
  | _ =>
      obtain ⟨rfl, rfl⟩ := Prod.ext_iff.mp (Option.some.inj h)
      exact ⟨.inl rfl, .inl rfl⟩

theorem lookup_exec (h : exec config choice cmd s = some (answer, s'))
    (hsealed : s.sealed.lookup envelope = some plaintext) :
    s'.sealed.lookup envelope = some plaintext := by
  rcases (exec_cases h).2 with hsame | ⟨new, _, -, -, hfresh, hcons, -⟩
  · rw [hsame, hsealed]
  · have hne : (envelope == new) = false := by
      apply beq_false_of_ne
      rintro rfl
      rw [hsealed] at hfresh
      cases hfresh
    rw [hcons, List.lookup_cons, hne, hsealed]

theorem exec_unsealCookie_iff {answer : Except Failure TransactionPayload} :
    exec config choice (.unsealCookie cookie) s = some (answer, s') ↔
      unsealTransaction config (s.sealed.lookup ·) cookie = answer ∧ s = s' := by
  rw [exec, Option.some.injEq, Prod.mk.injEq]

theorem sealed_of_answerDiscovery {answer : Option Response}
    (h : answerDiscovery platform config answer s = some s') : s'.sealed = s.sealed := by
  simp only [answerDiscovery] at h
  split at h
  · exact congrArg (·.sealed) (Option.some.inj h).symm
  · cases h

section

variable (hrun : Run (system platform config) cond .start c)

include hrun

/-- A cookie that has been returned opens to what was sealed in it. -/
theorem sealed_of_performed
    (hmem : .performed pid (.sealCookie plaintext) (.ok cookie) ∈ c.now.past) :
    ∃ envelope, readEnvelope cookie = some envelope ∧
      c.now.state.sealed.lookup envelope = some plaintext := by
  obtain ⟨c₀, c₁, choice, -, hsince, -, hexec⟩ := exec_of_mem hrun hmem
  have hnow : ∃ envelope, readEnvelope cookie = some envelope ∧
      c₁.now.state.sealed.lookup envelope = some plaintext := by
    simp only [system, exec] at hexec
    split at hexec
    · cases (Prod.ext_iff.mp (Option.some.inj hexec)).1
    · split at hexec
      · next hfresh =>
        obtain ⟨hcookie, hstate⟩ := Prod.ext_iff.mp (Option.some.inj hexec)
        injection hcookie with hcookie
        change _ = c₁.now.state at hstate
        refine ⟨_, hcookie ▸ readEnvelope_sealText
          (List.ne_nil_of_length_eq_add_one hfresh.1) hfresh.2.1, ?_⟩
        rw [← hstate]
        exact List.lookup_cons_self
      · cases hexec
  obtain ⟨envelope, hread, hsealed⟩ := hnow
  exact ⟨envelope, hread, steps_invariant hsince hsealed lookup_exec fun _ hchange hold =>
    sealed_of_answerDiscovery hchange ▸ hold⟩

/-- What opens has been sealed by a call, in a cookie with the same envelope. -/
theorem exists_performed_of_lookup (h : c.now.state.sealed.lookup envelope = some plaintext) :
    ∃ pid cookie, .performed pid (.sealCookie plaintext) (.ok cookie) ∈ c.now.past ∧
      readEnvelope cookie = some envelope := by
  induction hrun with
  | refl => cases h
  | @tail d e _ hstep ih =>
      have hold : d.now.state.sealed.lookup envelope = some plaintext →
          ∃ pid cookie, .performed pid (.sealCookie plaintext) (.ok cookie) ∈ e.now.past ∧
            readEnvelope cookie = some envelope := by
        intro hsealed
        obtain ⟨pid, cookie, hmem, hread⟩ := ih hsealed
        exact ⟨pid, cookie, mem_past_of_steps (.single hstep) hmem, hread⟩
      cases hstep with
      | spawn => exact hold h
      | finish => exact hold h
      | crash => exact hold h
      | change answer state hcond hchange =>
          exact hold (sealed_of_answerDiscovery hchange ▸ h)
      | perform pid cmd next choice answer state hproc hcond hexec =>
          rcases (exec_cases hexec).2 with hsame | ⟨new, sealed, hiv, hct, -, hcons, hexchange⟩
          · exact hold (hsame ▸ h)
          · change state.sealed.lookup envelope = some plaintext at h
            rw [hcons, List.lookup_cons] at h
            split at h
            · next heq =>
              obtain rfl := eq_of_beq heq
              obtain rfl := Option.some.inj h
              injection hexchange with hcmd hanswer
              subst hcmd
              obtain rfl := eq_of_heq hanswer
              exact ⟨pid, _, List.mem_cons_self, readEnvelope_sealText hiv hct⟩
            · exact hold h

/-- Once requested, the discovery document stays requested. -/
theorem discovery_of_started {answer : Except Failure Unit}
    (hmem : .performed pid .startDiscovery answer ∈ c.now.past) : c.now.state.discovery ≠ none := by
  obtain ⟨c₀, c₁, choice, -, hsince, -, hexec⟩ := exec_of_mem hrun hmem
  have hor : ∀ memo : Option Promise, memo.or (some .pending) ≠ none := by
    intro memo
    cases memo <;> simp
  have hnow : c₁.now.state.discovery ≠ none := by
    have hstate := (Prod.ext_iff.mp (Option.some.inj hexec)).2
    rw [← show _ = c₁.now.state from hstate]
    exact hor _
  refine steps_invariant (I := fun s => s.discovery ≠ none) hsince hnow ?_ ?_
  · intro choice cmd answer s s' h hold
    rcases (exec_cases h).1 with hsame | hstarted
    · rwa [hsame]
    · rw [hstarted]
      exact hor _
  · intro m answer s' _ hchange _
    simp only [system, answerDiscovery] at hchange
    split at hchange
    · rw [← Option.some.inj hchange]
      exact Option.some_ne_none _
    · cases hchange

end

/-- Where the provider's document is the only answer, it is what the promise settles with. -/
theorem settled_of_discovered (hrun : Run (system platform config) provider.Discovered .start c)
    {result : Except Failure DiscoveryDocument}
    (h : c.now.state.discovery = some (.settled result)) : result = .ok provider.discovery := by
  refine hrun.invariant (I := fun s => ∀ result, s.discovery = some (.settled result) →
    result = .ok provider.discovery) nofun ?_ ?_ result h
  · intro choice cmd answer s s' hexec hold result hsettled
    rcases (exec_cases hexec).1 with hsame | hstarted
    · exact hold result (hsame ▸ hsettled)
    · rw [hstarted] at hsettled
      cases hdiscovery : s.discovery with
      | none =>
          rw [hdiscovery] at hsettled
          cases hsettled
      | some promise =>
          rw [hdiscovery] at hsettled
          exact hold result (hdiscovery.trans hsettled)
  · intro m answer s' hcond hchange _ result hsettled
    simp only [system, answerDiscovery] at hchange
    split at hchange
    · rw [← Option.some.inj hchange, show answer = _ from hcond, provider.served] at hsettled
      injection hsettled with hsettled
      injection hsettled with hsettled
      exact hsettled.symm
    · cases hchange

/-! ## Answers -/

/-- What is answered without the provider: it does not fail when the cookie key is valid. -/
def Answered (provider : Provider platform config) : Exchange Cmd Resp Failure → Prop
  | ⟨.awaitDiscovery, answer⟩ => answer = .ok provider.discovery
  | ⟨.startDiscovery, answer⟩ => ∃ a, answer = .ok a
  | ⟨.randomValue, answer⟩ => ∃ a, answer = .ok a
  | ⟨.clock, answer⟩ => ∃ a, answer = .ok a
  | ⟨.sealCookie _, answer⟩ => ∃ a, answer = .ok a
  | _ => True

theorem answered_of_performed (hrun : Run (system platform config) provider.Discovered .start c)
    {key : List UInt8} (hkey : cookieKey config.cookieSecret = .ok key)
    (hmem : .performed pid cmd answer ∈ c.now.past) : Answered provider ⟨cmd, answer⟩ := by
  obtain ⟨c₀, c₁, choice, hrun₀, -, -, hexec⟩ := exec_of_mem hrun hmem
  simp only [system] at hexec
  cases cmd with
  | awaitDiscovery =>
      simp only [exec] at hexec
      split at hexec
      · next hsettled =>
        obtain ⟨rfl, -⟩ := Prod.ext_iff.mp (Option.some.inj hexec)
        exact settled_of_discovered hrun₀ hsettled
      · cases hexec
  | startDiscovery | clock => exact ⟨_, (Prod.ext_iff.mp (Option.some.inj hexec)).1.symm⟩
  | randomValue | sealCookie =>
      simp only [exec, hkey] at hexec
      split at hexec
      · exact ⟨_, (Prod.ext_iff.mp (Option.some.inj hexec)).1.symm⟩
      · cases hexec
  | _ => trivial

end Steps

/-! ## Calls -/

section Calls

variable {provider : Provider platform config} {ex : List (Exchange Cmd Resp Failure)}
  {result : Except Failure Ret} {α : Type} {returnToValue : Option JsString}
  {code : OidcAuthenticationErrorCode} {input : Callback}

theorem discover_bind (f : DiscoveryDocument → Routine α) :
    (discover >>= f) = (await .startDiscovery >>= fun _ => await .awaitDiscovery >>= f) :=
  bind_assoc _ _ _

/-- A command that does not fail, and what follows it. -/
theorem exists_of_answered {cmd : Cmd} {f : Resp cmd → Routine Ret}
    (h : Ends (await cmd >>= f) ex result) (hanswered : ∀ x ∈ ex, Answered provider x)
    (hok : ∀ answer, Answered provider ⟨cmd, answer⟩ → ∃ a, answer = .ok a) :
    ∃ a ex', ex = ⟨cmd, .ok a⟩ :: ex' ∧ Answered provider ⟨cmd, .ok a⟩ ∧
      (∀ x ∈ ex', Answered provider x) ∧ Ends (f a) ex' result := by
  obtain ⟨answer, ex', rfl, hrest⟩ := exists_of_ends_request_bind h
  obtain ⟨hfirst, hanswered'⟩ := List.forall_mem_cons.mp hanswered
  obtain ⟨a, rfl⟩ := hok answer hfirst
  exact ⟨a, ex', rfl, hfirst, hanswered', hrest a rfl⟩

theorem parses_of_safeEndpoint {value : Option Json} {endpoint : JsString}
    (h : safeEndpoint platform value = .ok endpoint) : (platform.parseUrl endpoint).isSome := by
  unfold safeEndpoint at h
  split at h
  · split at h
    · cases h
    · next url hurl =>
      split at h
      · cases h
      · injection h with h
        exact h ▸ platform.parseUrl_href _ _ hurl
  · cases h

theorem Provider.parses (provider : Provider platform config) :
    (platform.parseUrl provider.discovery.authorizationEndpoint).isSome := by
  have hserved := provider.served
  simp only [discoveryDocument, Sequence.bind_eq_ok] at hserved
  obtain ⟨_, -, -, -, _, -, -, -, -, -, endpoint, hendpoint, _, -, _, -, hdocument⟩ := hserved
  injection hdocument with hdocument
  rw [← hdocument]
  exact parses_of_safeEndpoint hendpoint

theorem begin_ok (hanswered : ∀ x ∈ ex, Answered provider x)
    (h : Ends (begin platform config returnToValue) ex result) : ∃ ret, result = .ok ret := by
  rw [begin, discover_bind] at h
  obtain ⟨_, ex, rfl, -, hanswered, h⟩ := exists_of_answered h hanswered fun _ h => h
  obtain ⟨discovery, ex, rfl, hdiscovery, hafter, h⟩ :=
    exists_of_answered h hanswered fun _ h => ⟨_, h⟩
  injection hdiscovery with hdiscovery
  subst hdiscovery
  obtain ⟨state, ex, rfl, -, hanswered, h⟩ := exists_of_answered h hafter fun _ h => h
  obtain ⟨nonce, ex, rfl, -, hanswered, h⟩ := exists_of_answered h hanswered fun _ h => h
  obtain ⟨verifier, ex, rfl, -, hanswered, h⟩ := exists_of_answered h hanswered fun _ h => h
  obtain ⟨url, hurl⟩ := Option.isSome_iff_exists.mp provider.parses
  simp only [hurl] at h
  obtain ⟨now, ex, rfl, -, hanswered, h⟩ := exists_of_answered h hanswered fun _ h => h
  obtain ⟨cookie, ex, rfl, -, -, h⟩ := exists_of_answered h hanswered fun _ h => h
  obtain ⟨-, hresult⟩ := ends_done_iff.mp h
  exact ⟨_, hresult⟩

theorem check_eq_ok_iff {holds : Bool} : check holds code = .ok () ↔ holds = true := by
  cases holds <;> simp [check]

theorem require_eq_ok_iff {value : Option α} {a : α} :
    require value code = .ok a ↔ value = some a := by
  cases value <;> simp [require]

theorem json_eq_ok_iff {response : Response} {body : Json} :
    response.json = .ok body ↔ response.body = some body := by
  rw [Response.json]
  split
  · next hbody => simp [hbody]
  · next hnone => simp [hnone]

theorem attempt_ok_bind {α β : Type} {a : α} {f : α → Routine β} :
    (attempt (.ok a) >>= f) = f a := rfl

theorem complete_ok
    (hgiven : truthy input.code && truthy input.state && truthy input.transactionCookie)
    (hstate : input.state = some transaction.state)
    (hunsealed : ∀ answer, ⟨.unsealCookie (input.transactionCookie.getD []), answer⟩ ∈ ex → answer
      = .ok transaction)
    (hkeys : ∀ uri answer, ⟨.fetchKeys uri, answer⟩ ∈ ex → answer = .ok ⟨true, some
      provider.keys⟩)
    (hunexpired : ∀ time, (clockReadings ex)[0]? = some time → time < transaction.expiresAt)
    (haccepts : provider.Accepts ex transaction.nonce) (hanswered : ∀ x ∈ ex, Answered provider x)
    (h : Ends (complete platform config input) ex result) : ∃ ret, result = .ok ret := by
  rw [complete, check_eq_ok_iff.mpr hgiven, attempt_ok_bind] at h
  obtain ⟨answer, ex₁, rfl, hopened⟩ := exists_of_ends_request_bind h
  obtain rfl := hunsealed _ List.mem_cons_self
  have hrest := (List.forall_mem_cons.mp hanswered).2
  obtain ⟨time, ex₂, rfl, -, hrest, h⟩ :=
    exists_of_answered (hopened transaction rfl) hrest fun _ h => h
  rw [check_eq_ok_iff.mpr (decide_eq_true (hunexpired time rfl)), attempt_ok_bind,
    check_eq_ok_iff.mpr (decide_eq_true hstate), attempt_ok_bind, discover_bind] at h
  obtain ⟨_, ex₃, rfl, -, hrest, h⟩ := exists_of_answered h hrest fun _ h => h
  obtain ⟨discovery, ex₄, rfl, -, hrest, h⟩ := exists_of_answered h hrest fun _ h => ⟨_, h⟩
  obtain ⟨answer, ex₅, rfl, htokens⟩ := exists_of_ends_request_bind h
  obtain ⟨body, text, token, rfl, htext, htoken, hvalid⟩ := haccepts _ _ answer (by simp)
  have h := htokens _ rfl
  have hrest := (List.forall_mem_cons.mp hrest).2
  rw [check_eq_ok_iff.mpr rfl, attempt_ok_bind, Response.json, attempt_ok_bind, htext,
    require_eq_ok_iff.mpr rfl, attempt_ok_bind] at h
  obtain ⟨now, ex₆, rfl, -, hrest, h⟩ := exists_of_answered h hrest fun _ h => h
  rw [verifyIdToken, htoken, attempt_ok_bind, bind_assoc] at h
  obtain ⟨answer, ex₇, rfl, hfetched⟩ := exists_of_ends_request_bind h
  obtain rfl := hkeys _ answer (by simp)
  have h := hfetched _ rfl
  have hrest := (List.forall_mem_cons.mp hrest).2
  rw [check_eq_ok_iff.mpr rfl, attempt_ok_bind, Response.json, attempt_ok_bind, hvalid now rfl,
    attempt_ok_bind] at h
  obtain ⟨sessionId, ex₈, rfl, -, hrest, h⟩ := exists_of_answered h hrest fun _ h => h
  obtain ⟨cookie, ex₉, rfl, -, -, h⟩ := exists_of_answered h hrest fun _ h => h
  exact ⟨_, (ends_done_iff.mp h).2⟩

/-- The state of a transaction is drawn by the `begin` that seals it. -/
theorem drawn_of_reaches
    (h : Reaches (begin platform config returnToValue) ex (.sealCookie (.transaction
      transaction))) : ⟨.randomValue, .ok transaction.state⟩ ∈ ex := by
  rw [begin, discover_bind] at h
  obtain ⟨_, ex₁, rfl, h₁⟩ := reaches_behind h nofun
  obtain ⟨_, ex₂, rfl, h₂⟩ := reaches_behind h₁ nofun
  obtain ⟨state, ex₃, rfl, h₃⟩ := reaches_behind h₂ nofun
  obtain ⟨nonce, ex₄, rfl, h₄⟩ := reaches_behind h₃ nofun
  obtain ⟨verifier, ex₅, rfl, h₅⟩ := reaches_behind h₄ nofun
  obtain ⟨url, -, h₆⟩ := reaches_done_bind_iff.mp h₅
  obtain ⟨now, ex₇, rfl, h₇⟩ := reaches_behind h₆ nofun
  rcases reaches_request_bind_iff.mp h₇ with ⟨rfl, hcmd⟩ | ⟨_, _, -, hdone⟩
  · injection hcmd with hplaintext
    injection hplaintext with htransaction
    rw [htransaction]
    simp
  · exact absurd hdone not_reaches_done

/-- `complete` seals no transaction. -/
theorem complete_only :
    Only (fun cmd => ∀ transaction, cmd ≠ .sealCookie (.transaction transaction))
      (complete platform config input) := by
  simp only [complete, discover_bind, verifyIdToken, bind_assoc, only_request_bind_iff,
    only_done_bind_iff]
  simp

theorem started_of_reaches {f : DiscoveryDocument → Routine α}
    (h : Reaches (discover >>= f) ex .awaitDiscovery) :
    ∃ answer, ⟨.startDiscovery, answer⟩ ∈ ex := by
  rw [discover_bind] at h
  obtain ⟨_, ex₁, rfl, -⟩ := reaches_behind h nofun
  exact ⟨_, List.mem_cons_self⟩

/-- A call awaits the discovery document when it has been requested. -/
theorem started_of_awaiting {call : Call}
    (h : Reaches ((system platform config).program call) ex .awaitDiscovery) :
    ∃ answer, ⟨.startDiscovery, answer⟩ ∈ ex := by
  cases call with
  | begin returnToValue => exact started_of_reaches h
  | complete input =>
      obtain ⟨_, -, h₁⟩ := reaches_done_bind_iff.mp h
      obtain ⟨_, ex₁, rfl, h₂⟩ := reaches_behind h₁ nofun
      obtain ⟨_, ex₂, rfl, h₃⟩ := reaches_behind h₂ nofun
      obtain ⟨_, -, h₄⟩ := reaches_done_bind_iff.mp h₃
      obtain ⟨_, -, h₅⟩ := reaches_done_bind_iff.mp h₄
      obtain ⟨answer, hmem⟩ := started_of_reaches h₅
      exact ⟨answer, by simp [hmem]⟩

end Calls

/-! ## Runs -/

section Runs

variable {provider : Provider platform config} {key : List UInt8}

theorem state_ne_nil {cookie : JsString} (hrun : Run (system platform config) cond .start c)
    (hbegan : Began c.now.past cookie transaction) : transaction.state ≠ [] := by
  obtain ⟨pid, returnToValue, hspawned, hsealed⟩ := hbegan
  obtain ⟨recent, older, hpast⟩ := List.append_of_mem hsealed
  obtain ⟨call, hcall, hreaches⟩ := reaches_of_run hrun hpast
  have holder : ∀ e ∈ older, e ∈ c.now.past := by
    intro e he
    rw [hpast]
    simp [he]
  obtain rfl := spawned_unique_of_run hrun hspawned (holder _ hcall)
  have hdrawn := mem_exchangesOf.mp (drawn_of_reaches hreaches)
  obtain ⟨c₀, c₁, choice, -, -, -, hexec⟩ := exec_of_mem hrun (holder _ hdrawn)
  simp only [system, exec] at hexec
  split at hexec
  · next hlength =>
    injection (Prod.ext_iff.mp (Option.some.inj hexec)).1 with hstate
    rw [← hstate]
    exact encodeBase64Url_ne_nil (List.ne_nil_of_length_eq_add_one hlength)
  · cases hexec

theorem recovers_of_run (hkey : cookieKey config.cookieSecret = .ok key)
    (hrun : Run (system platform config) provider.Discovered .start c) : Recovers provider c := by
  intro recent newer older pid call result hpast hcorrect hentitled
  have hspawn : c.now.past = (recent ++ .finished pid result :: newer) ++
      .spawned pid call :: older := by
    rw [hpast, List.append_assoc]
    rfl
  obtain ⟨b, b', hrunb, hstep, hsince, hb, hb'⟩ := hrun.split hspawn
  rw [← hb] at hb'
  have hexchanges : exchangesOf pid (newer ++ .spawned pid call :: older) =
      exchangesOf pid newer := by
    have hnone : eventsOf pid older = [] := by
      refine List.filter_eq_nil_iff.mpr fun e he hpid => ?_
      exact not_mem_of_spawn hrunb hstep hb' (of_decide_eq_true hpid) (hb ▸ he)
    have hevents : eventsOf pid (newer ++ .spawned pid call :: older) =
        eventsOf pid newer ++ [.spawned pid call] := by
      rw [eventsOf, List.filter_append, ← eventsOf, ← eventsOf, eventsOf_cons_self rfl, hnone]
    simp [exchangesOf, hevents, Event.exchange?]
  obtain ⟨call', hcall, hends⟩ := ends_of_run hrun hpast
  have hcall_now : .spawned pid call' ∈ c.now.past := by
    rw [hpast]
    exact List.mem_append_right _ (.tail _ hcall)
  have hspawned : .spawned pid call ∈ c.now.past := by
    rw [hspawn]
    exact List.mem_append_right _ List.mem_cons_self
  obtain rfl := spawned_unique_of_run hrun hcall_now hspawned
  rw [hexchanges] at hends
  have hperformed : ∀ {cmd answer}, (⟨cmd, answer⟩ : Exchange Cmd Resp Failure) ∈
      exchangesOf pid newer → .performed pid cmd answer ∈ c.now.past := by
    intro cmd answer hx
    have hmem := mem_exchangesOf.mp hx
    rw [hpast]
    simp [hmem]
  have hanswered : ∀ x ∈ exchangesOf pid newer, Answered provider x := fun x hx =>
    answered_of_performed hrun hkey (hperformed hx)
  cases call' with
  | begin returnToValue => exact begin_ok hanswered hends
  | complete input =>
      obtain ⟨hcode, cookie, transaction, hbegan, hcookie, hstate, hunexpired, haccepts⟩ :=
        hentitled
      have hbegan_now : ∀ {d}, b'.now.past <:+ d.now.past →
          Began (d : OidcConfiguration).now.past cookie transaction := by
        intro d hsuffix
        obtain ⟨begun, returnToValue, hspawned, hsealed⟩ := hbegan
        exact ⟨begun, returnToValue, hsuffix.subset (hb' ▸ .tail _ (hb ▸ hspawned)),
          hsuffix.subset (hb' ▸ .tail _ (hb ▸ hsealed))⟩
      have hopens : ∀ {d}, Relation.ReflTransGen (Step (system platform config)
          provider.Discovered) b' d → ∃ envelope, readEnvelope cookie = some envelope ∧
            d.now.state.sealed.lookup envelope = some (.transaction transaction) := by
        intro d hsteps
        obtain ⟨_, _, -, hsealed⟩ := hbegan_now (past_suffix_of_steps hsteps)
        exact sealed_of_performed ((hrunb.tail hstep).trans hsteps) hsealed
      refine complete_ok ?_ hstate ?_ ?_ hunexpired haccepts hanswered hends
      · obtain ⟨envelope, hread, -⟩ := hopens .refl
        have hstate_ne := state_ne_nil hrun (hbegan_now (past_suffix_of_steps hsince))
        rw [hcode, hstate, hcookie, truthy_of_readEnvelope hread]
        simpa [truthy] using hstate_ne
      · intro answer hx
        obtain ⟨c₀, c₁, choice, hbefore, -, hexec, -⟩ :=
          performed_since_spawn hrunb hstep hb' hsince (hperformed hx)
        obtain ⟨envelope, hread, hsealed⟩ := hopens hbefore
        have hunsealed : exec config choice (.unsealCookie (input.transactionCookie.getD []))
            c₀.now.state = some (answer, c₁.now.state) := hexec
        rw [← (exec_unsealCookie_iff.mp hunsealed).1, hcookie]
        exact unsealTransaction_ok_iff.mpr ⟨⟨key, hkey⟩, envelope, hread, hsealed⟩
      · intro uri answer hx
        exact hcorrect _ (mem_exchangesOf.mp hx)

/-- Every command but the wait for the discovery document can be answered, and correctly. -/
theorem exists_exec (provider : Provider platform config) {cmd : Cmd} {s : Service} (pid : ℕ)
    (hsettled : cmd = .awaitDiscovery → ∃ result, s.discovery = some (.settled result)) :
    ∃ choice answer s', exec config choice cmd s = some (answer, s') ∧
      provider.Correct (.performed pid cmd answer) := by
  let quiet : Choice := ⟨List.replicate 32 0, [], 0, some ⟨true, some provider.keys⟩⟩
  cases cmd with
  | awaitDiscovery =>
      obtain ⟨result, hresult⟩ := hsettled rfl
      exact ⟨quiet, result, s, by rw [exec, hresult], trivial⟩
  | sealCookie plaintext =>
      cases hkey : cookieKey config.cookieSecret with
      | error e => exact ⟨quiet, .error e, s, by rw [exec, hkey], trivial⟩
      | ok key =>
          obtain ⟨ciphertext, hnew⟩ := Infinite.exists_notMem_finset
            (insert [] (s.sealed.map (·.1.2)).toFinset)
          simp only [Finset.mem_insert, List.mem_toFinset, List.mem_map, not_or, not_exists,
            not_and] at hnew
          have hfresh : s.sealed.lookup (List.replicate 12 0, ciphertext) = none := by
            refine List.lookup_eq_none_iff.mpr fun p hp => bne_iff_ne.mpr ?_
            rintro heq
            exact hnew.2 p hp (heq ▸ rfl)
          refine ⟨{ quiet with bytes := List.replicate 12 0, ciphertext },
            .ok (sealText (List.replicate 12 0, ciphertext)),
            { s with sealed := ((List.replicate 12 0, ciphertext), plaintext) :: s.sealed },
            ?_, trivial⟩
          rw [exec, hkey]
          exact if_pos ⟨rfl, hnew.1, hfresh⟩
  | fetchKeys uri => exact ⟨quiet, _, s, rfl, rfl⟩
  | startDiscovery | randomValue | clock | unsealCookie | fetchToken =>
      exact ⟨quiet, _, _, rfl, trivial⟩

/-- A wait for the discovery document ends when its request is answered. -/
theorem exists_settled {next : Except Failure DiscoveryDocument → Routine Ret}
    (hrun : Run (system platform config) provider.Discovered .start c)
    (hproc : c.procs pid = some (.call .awaitDiscovery next)) :
    ∃ d recent result, Relation.ReflTransGen (Step (system platform config)
        provider.Discovered) c d ∧ d.procs = c.procs ∧
      d.now.state.discovery = some (.settled result) ∧ d.now.past = recent ++ c.now.past ∧
      ∀ e ∈ recent, provider.Correct e := by
  obtain ⟨call, -, hpath⟩ := (tracked_of_run hrun).path _ _ hproc
  obtain ⟨answer, hstarted⟩ := started_of_awaiting ⟨next, hpath⟩
  have hmemo := discovery_of_started hrun (mem_exchangesOf.mp hstarted)
  rcases hdiscovery : c.now.state.discovery with _ | _ | result
  · exact absurd hdiscovery hmemo
  · have hchange : answerDiscovery platform config (some ⟨true, some provider.document⟩)
        c.now.state = some { c.now.state with discovery := some (.settled
          (discoveryDocument platform config (some ⟨true, some provider.document⟩))) } := by
      rw [answerDiscovery, hdiscovery]
    refine ⟨_, [_], _, .single (.change c _ _ rfl hchange), rfl, rfl, rfl, fun e he => ?_⟩
    rw [List.mem_singleton.mp he]
    rfl
  · exact ⟨c, [], result, .refl, rfl, hdiscovery, rfl, nofun⟩

theorem returns_of_run (hrun : Run (system platform config) provider.Discovered .start c) :
    Returns provider provider.Discovered c := by
  intro pid p hproc
  induction p generalizing c with
  | done result =>
      exact ⟨_, [], result, .single (.finish c pid result hproc trivial), rfl, nofun⟩
  | call cmd next ih =>
      obtain ⟨d, recent, hsteps, hprocs, hsettled, hpast, hcorrect⟩ : ∃ d recent,
          Relation.ReflTransGen (Step (system platform config) provider.Discovered) c d ∧
          d.procs = c.procs ∧ (cmd = .awaitDiscovery → ∃ result,
            d.now.state.discovery = some (.settled result)) ∧
          d.now.past = recent ++ c.now.past ∧ ∀ e ∈ recent, provider.Correct e := by
        by_cases hcmd : cmd = .awaitDiscovery
        · subst hcmd
          obtain ⟨d, recent, result, hsteps, hprocs, hsettled, hrest⟩ := exists_settled hrun hproc
          exact ⟨d, recent, hsteps, hprocs, fun _ => ⟨result, hsettled⟩, hrest⟩
        · exact ⟨c, [], .refl, rfl, fun h => absurd h hcmd, rfl, nofun⟩
      obtain ⟨choice, answer, s, hexec, hanswer⟩ := exists_exec provider pid hsettled
      have hstep : Step (system platform config) provider.Discovered d _ :=
        .perform d pid cmd next choice answer s (hprocs ▸ hproc) trivial hexec
      obtain ⟨e, later, result, hrest, hlast, hlater⟩ :=
        ih answer ((hrun.trans hsteps).tail hstep) (setProc_self _ _ _)
      refine ⟨e, later ++ .performed pid cmd answer :: recent, result,
        (hsteps.tail hstep).trans hrest, ?_, ?_⟩
      · rw [hlast]
        simp [Moment.push, hpast]
      · intro event hevent
        rcases List.mem_append.mp hevent with hmem | hmem
        · exact hlater event hmem
        · rcases List.mem_cons.mp hmem with rfl | hold
          · exact hanswer
          · exact hcorrect event hold

/-- What has opened was sealed by a `begin`. -/
theorem began_of_unsealed {presented : JsString}
    (hrun : Run (system platform config) cond .start c)
    (hmem : .performed pid (.unsealCookie presented) (.ok transaction) ∈ c.now.past) :
    ∃ cookie, Began c.now.past cookie transaction ∧ (readEnvelope presented).isSome ∧
      readEnvelope presented = readEnvelope cookie := by
  obtain ⟨recent, older, hpast⟩ := List.append_of_mem hmem
  obtain ⟨c₀, c₁, hrun₀, hstep, hsince, hpast₀, hpast₁⟩ := hrun.split hpast
  rw [← hpast₀] at hpast₁
  obtain ⟨-, -, choice, hexec⟩ := hstep.exec_of_performed hpast₁
  have hunseal : exec config choice (.unsealCookie presented) c₀.now.state =
      some (.ok transaction, c₁.now.state) := hexec
  obtain ⟨-, envelope, hread, hopened⟩ :=
    unsealTransaction_ok_iff.mp (exec_unsealCookie_iff.mp hunseal).1
  obtain ⟨sealer, cookie, hsealed, hcookie⟩ := exists_performed_of_lookup hrun₀ hopened
  refine ⟨cookie, ?_, hread ▸ rfl, hread.trans hcookie.symm⟩
  have hstill : ∀ e ∈ c₀.now.past, e ∈ c.now.past := fun e he =>
    mem_past_of_steps (.head hstep hsince) he
  obtain ⟨later, earlier, hsealing⟩ := List.append_of_mem hsealed
  obtain ⟨call, hcall, hreaches⟩ := reaches_of_run hrun₀ hsealing
  have hspawned : .spawned sealer call ∈ c₀.now.past := by
    rw [hsealing]
    exact List.mem_append_right _ (.tail _ hcall)
  cases call with
  | begin returnToValue => exact ⟨sealer, returnToValue, hstill _ hspawned, hstill _ hsealed⟩
  | complete input => exact absurd rfl (complete_only.of_reaches hreaches transaction)

/-- What an ID token that is checked contains. -/
theorem claims_of_checkIdToken {jwks payload : Json} {token : IdToken} {nonce : JsString}
    {nowSeconds : ℤ} (h : checkIdToken platform config jwks token nonce nowSeconds = .ok payload) :
    payload = token.payload ∧ text? (js "iss") token.payload = some config.issuer ∧
      .string config.clientId ∈ audience token.payload ∧
      text? (js "nonce") token.payload = some nonce := by
  simp only [checkIdToken, Sequence.bind_eq_ok] at h
  obtain ⟨_, -, _, -, _, -, valid, -, _, hcheck, hpayload⟩ := h
  have hholds := check_eq_ok_iff.mp hcheck
  injection hpayload with hpayload
  simp only [claimsAccepted, Bool.and_eq_true, decide_eq_true_eq] at hholds
  obtain ⟨-, ⟨⟨⟨⟨⟨hiss, -⟩, haud⟩, -⟩, hnonce⟩, -⟩, -⟩ := hholds
  exact ⟨hpayload.symm, hiss, List.contains_iff_mem.mp haud, hnonce⟩

theorem justified_of_run (hrun : Run (system platform config) cond .start c) :
    Justified platform config c := by
  intro recent older pid returnTo sessionCookie hpast
  obtain ⟨c₀, -, hrun₀, -, -, rfl, -⟩ := hrun.split hpast
  obtain ⟨call, hcall, hends⟩ := ends_of_run hrun hpast
  cases call with
  | begin returnToValue =>
      change Ends (begin platform config returnToValue) _ _ at hends
      simp only [begin, discover_bind, ends_request_bind_iff, ends_done_bind_iff] at hends
      obtain ⟨_, _, -, _, _, -, _, _, -, _, _, -, _, _, -, _, -, _, _, -, _, _, -, hends⟩ := hends
      cases (ends_done_iff.mp hends).2
  | complete input =>
      change Ends (complete platform config input) _ _ at hends
      simp only [complete, discover_bind, verifyIdToken, bind_assoc, ends_request_bind_iff,
        ends_done_bind_iff] at hends
      obtain ⟨_, hgiven, transaction, _, hunsealed, time, _, rfl, _, hexpiry, _, hstate, _, _, rfl,
        discovery, _, rfl, response, _, rfl, _, -, body, hbody, text, htext, now, _, rfl, token,
        htoken, _, _, rfl, _, -, jwks, -, claims, hclaims, -⟩ := hends
      have hmem : ∀ x ∈ exchangesOf pid c₀.now.past,
          .performed pid x.cmd x.answer ∈ c₀.now.past := fun x hx => mem_exchangesOf.mp hx
      simp only [hunsealed, List.forall_mem_cons] at hmem
      obtain ⟨hunseal, -, -, -, hfetch, -⟩ := hmem
      obtain ⟨cookie, hbegan, hread, hsame⟩ := began_of_unsealed hrun₀ hunseal
      obtain ⟨-, hiss, haud, hnonce⟩ := claims_of_checkIdToken hclaims
      have hpresented : input.transactionCookie = some (input.transactionCookie.getD []) := by
        have hcookie := ((Bool.and_eq_true _ _).mp (check_eq_ok_iff.mp hgiven)).2
        cases htransactionCookie : input.transactionCookie with
        | none =>
            rw [htransactionCookie] at hcookie
            cases hcookie
        | some value => rfl
      exact ⟨input, _, cookie, transaction, time, hcall, hbegan, hpresented, hread, hsame,
        by rw [hunsealed]; rfl, of_decide_eq_true (check_eq_ok_iff.mp hexpiry),
        of_decide_eq_true (check_eq_ok_iff.mp hstate), _, _, response, body, text, token, hfetch,
        json_eq_ok_iff.mp hbody, require_eq_ok_iff.mp htext, htoken, hiss, haud, hnonce⟩

end Runs

/-- Where the discovery request is answered with the provider's document, sign-ins recover.
In every run, sessions are justified. -/
theorem recovers_of_discovered {platform : Platform} {config : OidcConfig}
    (provider : Provider platform config) {key : List UInt8}
    (hkey : cookieKey config.cookieSecret = .ok key) :
    (∀ c, Run (system platform config) provider.Discovered .start c →
      Recovers provider c ∧ Returns provider provider.Discovered c) ∧
    ∀ c, Reached (system platform config) .start c → Justified platform config c :=
  ⟨fun _ hrun => ⟨recovers_of_run hkey hrun, returns_of_run hrun⟩,
    fun _ hrun => justified_of_run hrun⟩

section Sample

def samplePlatform : Platform where
  parseUrl text :=
    if js "https://idp.example/" <+: text then
      some { protocol := js "https:", hostname := js "idp.example"
             origin := js "https://idp.example", pathname := text.drop 19, search := [], hash := []
             href := text }
    else none
  resolveUrl _ _ := none
  withSearchParams url params := url.href ++ 0x3F :: (js "&").intercalate
    (params.map fun param => param.1 ++ 0x3D :: param.2)
  sha256 _ := List.replicate 32 0
  parseJson _ := none
  verifySignature _ _ _ := some false
  exceeds _ _ := false
  parseUrl_href text url h := by
    split at h
    · next hprefix =>
      rw [← Option.some.inj h, if_pos hprefix]
      rfl
    · cases h

def sampleConfig : OidcConfig where
  issuer := js "https://idp.example"
  clientId := js "harness"
  clientSecret := none
  redirectUri := js "https://harness.example/auth/callback"
  cookieSecret := encodeBase64Url (List.replicate 32 7)
  allowedReturnToPaths := [js "/"]
  sessionTtlSeconds := 28800
  transactionTtlSeconds := 600

def sampleProvider : Provider samplePlatform sampleConfig where
  document := .object [(js "issuer", .string (js "https://idp.example")),
    (js "authorization_endpoint", .string (js "https://idp.example/authorize")),
    (js "token_endpoint", .string (js "https://idp.example/token")),
    (js "jwks_uri", .string (js "https://idp.example/keys"))]
  discovery := { issuer := js "https://idp.example"
                 authorizationEndpoint := js "https://idp.example/authorize"
                 tokenEndpoint := js "https://idp.example/token"
                 jwksUri := js "https://idp.example/keys" }
  served := by rfl
  keys := .object [(js "keys", .array [])]

theorem cookieKey_sample : cookieKey sampleConfig.cookieSecret = .ok (List.replicate 32 7) := by
  have hdecoded : decodeBase64Url sampleConfig.cookieSecret = some (List.replicate 32 7) :=
    decodeBase64Url_encodeBase64Url _
  rw [cookieKey, hdecoded]
  rfl

def noChoice : Choice := ⟨[], [], 0, none⟩

/-- The document is answered to a `begin`, and a cookie that nobody has sealed is refused. -/
def refusedCookie : List (Action Call Choice (Option Response)) :=
  [.spawn (.begin none), .perform 0 noChoice, .change (some ⟨true, some sampleProvider.document⟩),
    .spawn (.complete ⟨some (js "code"), some (js "state"), some (js "v1")⟩), .perform 1 noChoice,
    .finish 1]

theorem recovers_refusedCookie : ∃ c, Run (system samplePlatform sampleConfig)
    sampleProvider.Discovered .start c ∧
    .finished 1 (.error (.authentication .invalidRequest)) ∈ c.now.past ∧
    Recovers sampleProvider c ∧ Returns sampleProvider sampleProvider.Discovered c ∧
    Justified samplePlatform sampleConfig c := by
  have hexec : (executeWhile (system samplePlatform sampleConfig) (fun _ attempt =>
      match attempt with
      | .change answer => answer = some ⟨true, some sampleProvider.document⟩
      | _ => true) (Config.initial .start) refusedCookie).map (fun c => c.now.past.head?) =
      some (some (.finished 1 (.error (.authentication .invalidRequest)))) := by
    rfl
  obtain ⟨c, hc, hlast⟩ := Option.map_eq_some_iff.mp hexec
  have hrun : Run (system samplePlatform sampleConfig) sampleProvider.Discovered .start c := by
    refine run_of_executeWhile (fun _ attempt h => ?_) hc
    cases attempt with
    | change answer => exact (of_decide_eq_true h : answer = _)
    | _ => trivial
  obtain ⟨hlive, hjustified⟩ := recovers_of_discovered sampleProvider cookieKey_sample
  obtain ⟨hrecovers, hreturns⟩ := hlive c hrun
  exact ⟨c, hrun, List.mem_of_mem_head? hlast, hrecovers, hreturns,
    hjustified c (hrun.mono fun _ _ _ => trivial)⟩

/-- The discovery request fails once, in the first `begin`; then the second one is made. -/
def failedDiscovery : List (Action Call Choice (Option Response)) :=
  [.spawn (.begin none), .perform 0 noChoice, .change none, .perform 0 noChoice, .finish 0,
    .spawn (.begin none), .perform 1 noChoice, .perform 1 noChoice, .finish 1]

theorem not_recovers : ∃ c, Reached (system samplePlatform sampleConfig) .start c ∧
    (∃ key, cookieKey sampleConfig.cookieSecret = .ok key) ∧ ¬ Recovers sampleProvider c := by
  have hexec : (execute (system samplePlatform sampleConfig) (Config.initial .start)
      failedDiscovery).map (fun c => c.now.past) = some
        [.finished 1 (.error .thrown), .performed 1 .awaitDiscovery (.error .thrown),
          .performed 1 .startDiscovery (.ok ()), .spawned 1 (.begin none),
          .finished 0 (.error .thrown), .performed 0 .awaitDiscovery (.error .thrown),
          .changed none, .performed 0 .startDiscovery (.ok ()), .spawned 0 (.begin none)] := by
    rfl
  obtain ⟨c, hc, hpast⟩ := Option.map_eq_some_iff.mp hexec
  refine ⟨c, reached_of_execute hc, ⟨_, cookieKey_sample⟩, fun hrecovers => ?_⟩
  obtain ⟨ret, hret⟩ := hrecovers [] [_, _] _ 1 (.begin none) _ hpast (by simp [Provider.Correct])
    trivial
  cases hret

end Sample

end DevHarness.Oidc
