import DevHarness.Interleave.System
import DevHarness.Text.Base64
import DevHarness.Text.Json

/-!
# Signing in with OpenID Connect

One `OidcService`: `begin` sends a browser to the provider, `complete` takes it back.
Both await the same discovery document, which is requested once and kept as a promise.
Cookies cannot be forged: the service opens the ciphertexts that it has sealed, and no
others.  URLs, hashes and signatures are the runtime's.
-/

namespace DevHarness.Oidc

open Interleave Interleave.Program JsText

inductive OidcAuthenticationErrorCode
  | configuration
  | expired
  | invalidRequest
  | invalidState
  | invalidToken
  | tokenExchangeFailed

/-- What a call rejects with: its own error, or what the runtime has thrown. -/
inductive Failure
  | authentication (code : OidcAuthenticationErrorCode)
  | thrown

structure OidcConfig where
  issuer : JsString
  clientId : JsString
  clientSecret : Option JsString
  redirectUri : JsString
  cookieSecret : JsString
  allowedReturnToPaths : List JsString
  sessionTtlSeconds : ℤ
  transactionTtlSeconds : ℤ

structure DiscoveryDocument where
  issuer : JsString
  authorizationEndpoint : JsString
  tokenEndpoint : JsString
  jwksUri : JsString

structure TransactionPayload where
  state : JsString
  nonce : JsString
  verifier : JsString
  returnTo : JsString
  expiresAt : ℤ
  deriving DecidableEq

structure SessionPayload where
  issuer : JsString
  subject : JsString
  actorId : JsString
  email : Option JsString
  displayName : JsString
  expiresAt : ℤ
  sessionId : JsString
  deriving DecidableEq

/-- What a cookie seals.  The two kinds are sealed for different audiences. -/
inductive Plaintext
  | transaction (payload : TransactionPayload)
  | session (payload : SessionPayload)
  deriving DecidableEq

structure Url where
  protocol : JsString
  hostname : JsString
  origin : JsString
  pathname : JsString
  search : JsString
  hash : JsString
  href : JsString

/-- The runtime that the service is written against.  A URL that is printed can be read. -/
structure Platform where
  parseUrl : JsString → Option Url
  resolveUrl : JsString → JsString → Option Url
  withSearchParams : Url → List (JsString × JsString) → JsString
  sha256 : JsString → List UInt8
  parseJson : List UInt8 → Option Json
  /-- `importKey` and `verify`: the key, the signature and the text that is signed. -/
  verifySignature : Json → List UInt8 → JsString → Option Bool
  /-- Whether a number that is no safe integer is greater than an integer. -/
  exceeds : JsString → ℤ → Bool
  parseUrl_href : ∀ text url, parseUrl text = some url → (parseUrl url.href).isSome

/-- An answer over HTTP; the body is absent when it is not JSON. -/
structure Response where
  ok : Bool
  body : Option Json
  deriving DecidableEq

def Response.json (response : Response) : Except Failure Json :=
  match response.body with
  | some body => .ok body
  | none => .error .thrown

/-- Throw unless `holds`. -/
def check (holds : Bool) (code : OidcAuthenticationErrorCode) : Except Failure Unit :=
  if holds then .ok () else .error (.authentication code)

/-- Throw where there is no value. -/
def require {α : Type} (value : Option α) (code : OidcAuthenticationErrorCode) :
    Except Failure α :=
  match value with
  | some a => .ok a
  | none => .error (.authentication code)

def isRecord : Json → Bool
  | .object _ => true
  | _ => false

/-- `value[name]`, where it is a string. -/
def text? (name : JsString) (value : Json) : Option JsString :=
  match value.get name with
  | some (.string s) => some s
  | _ => none

/-! ## Cookies -/

def cookieKey (secret : JsString) : Except Failure (List UInt8) :=
  match decodeBase64Url secret with
  | none => .error (.authentication .configuration)
  | some raw => if raw.length = 32 then .ok raw else .error (.authentication .configuration)

/-- The initialisation vector and the ciphertext. -/
abbrev Envelope := List UInt8 × List UInt8

def sealText (envelope : Envelope) : JsString :=
  js "v1." ++ encodeBase64Url envelope.1 ++ 0x2E :: encodeBase64Url envelope.2

/-- The two encoded parts of a cookie. -/
def envelopeParts (value : JsString) : Option (JsString × JsString) :=
  match value.splitOn 0x2E with
  | version :: encodedIv :: encodedCiphertext :: extra =>
    if version ≠ js "v1" ∨ encodedIv = [] ∨ encodedCiphertext = [] ∨ truthy extra.head? then none
    else some (encodedIv, encodedCiphertext)
  | _ => none

def unsealTransaction (config : OidcConfig) (opened : Envelope → Option Plaintext) (value : JsString) :
    Except Failure TransactionPayload := do
  let parts ← require (envelopeParts value) .invalidRequest
  let iv ← require (decodeBase64Url parts.1) .invalidRequest
  let _ ← cookieKey config.cookieSecret
  let ciphertext ← require (decodeBase64Url parts.2) .invalidRequest
  match opened (iv, ciphertext) with
  | some (.transaction payload) => .ok payload
  | _ => .error (.authentication .invalidRequest)

/-! ## URLs -/

section Urls

variable (platform : Platform)

def safeEndpoint (value : Option Json) : Except Failure JsString :=
  match value with
  | some (.string text) =>
    match platform.parseUrl text with
    | none => .error (.authentication .configuration)
    | some url =>
      if url.protocol ≠ js "https:" ∧ url.hostname ≠ js "localhost" then
        .error (.authentication .configuration)
      else .ok url.href
  | _ => .error (.authentication .configuration)

def normalizeReturnTo (value : Option JsString) (allowedPaths : List JsString) : JsString :=
  let value := value.getD []
  if ¬ js "/" <+: value ∨ js "//" <+: value then js "/"
  else if [js "\\", js "%2f", js "%2F", js "%5c", js "%5C"].any (· <:+: value) then js "/"
  else
    match platform.resolveUrl value (js "https://harness.invalid") with
    | none => js "/"
    | some url =>
      if url.origin ≠ js "https://harness.invalid" then js "/"
      else if url.pathname ∈ [js "/auth/login", js "/auth/callback", js "/auth/logout"] then
        js "/"
      else if allowedPaths.any (fun path =>
          if path = js "/" then decide (url.pathname = js "/")
          else decide (url.pathname = path ∨ path ++ js "/" <+: url.pathname)) then
        url.pathname ++ url.search ++ url.hash
      else js "/"

/-- What `discover` makes of the answer to its request. -/
def discoveryDocument (config : OidcConfig) (answer : Option Response) :
    Except Failure DiscoveryDocument := do
  let response ← answer.elim (.error .thrown) .ok
  check response.ok .configuration
  let value ← response.json
  check (isRecord value && text? (js "issuer") value = some config.issuer) .configuration
  check (match value.get (js "id_token_signing_alg_values_supported") with
    | some (.array supported) => supported.contains (.string (js "RS256"))
    | _ => true) .configuration
  let authorizationEndpoint ← safeEndpoint platform (value.get (js "authorization_endpoint"))
  let tokenEndpoint ← safeEndpoint platform (value.get (js "token_endpoint"))
  let jwksUri ← safeEndpoint platform (value.get (js "jwks_uri"))
  .ok { issuer := config.issuer, authorizationEndpoint, tokenEndpoint, jwksUri }

end Urls

/-! ## The service -/

inductive Cmd
  | startDiscovery
  | awaitDiscovery
  | randomValue
  | clock
  | sealCookie (plaintext : Plaintext)
  | unsealCookie (cookie : JsString)
  | fetchToken (endpoint : JsString) (form : List (JsString × JsString))
  | fetchKeys (uri : JsString)
  deriving DecidableEq

abbrev Resp : Cmd → Type
  | .startDiscovery => Unit
  | .awaitDiscovery => DiscoveryDocument
  | .randomValue => JsString
  | .clock => ℤ
  | .sealCookie _ => JsString
  | .unsealCookie _ => TransactionPayload
  | .fetchToken _ _ => Response
  | .fetchKeys _ => Response

abbrev Routine (α : Type) := Program Cmd Resp Failure α

abbrev await (cmd : Cmd) : Routine (Resp cmd) := request cmd

abbrev attempt {α : Type} (result : Except Failure α) : Routine α := Program.done result

structure Callback where
  code : Option JsString
  state : Option JsString
  transactionCookie : Option JsString

inductive Call
  | begin (returnToValue : Option JsString)
  | complete (input : Callback)

inductive Ret
  | started (authorizationUrl transactionCookie returnTo : JsString)
  | completed (returnTo sessionCookie : JsString)

section Routines

variable (platform : Platform) (config : OidcConfig)

def discover : Routine DiscoveryDocument := do
  await .startDiscovery
  await .awaitDiscovery

def begin (returnToValue : Option JsString) : Routine Ret := do
  let discovery ← discover
  let state ← await .randomValue
  let nonce ← await .randomValue
  let verifier ← await .randomValue
  let returnTo := normalizeReturnTo platform returnToValue config.allowedReturnToPaths
  let challenge := encodeBase64Url (platform.sha256 verifier)
  let authorization ← attempt
    ((platform.parseUrl discovery.authorizationEndpoint).elim (.error .thrown) .ok)
  let authorizationUrl := platform.withSearchParams authorization
    [(js "client_id", config.clientId), (js "redirect_uri", config.redirectUri),
      (js "response_type", js "code"), (js "scope", js "openid profile email"),
      (js "state", state), (js "nonce", nonce), (js "code_challenge", challenge),
      (js "code_challenge_method", js "S256")]
  let now ← await .clock
  let expiresAt := now + config.transactionTtlSeconds * 1000
  let transactionCookie ←
    await (.sealCookie (.transaction { state, nonce, verifier, returnTo, expiresAt }))
  pure (.started authorizationUrl transactionCookie returnTo)

/-- What is read from an ID token before its signature is checked. -/
structure IdToken where
  kid : JsString
  payload : Json
  signature : JsString
  signed : JsString

def decodeJwtPart (value : JsString) : Except Failure Json :=
  require ((decodeBase64Url value).bind platform.parseJson) .invalidToken

def readIdToken (token : JsString) : Except Failure IdToken :=
  match token.splitOn 0x2E with
  | [encodedHeader, encodedPayload, signature] => do
    let header ← decodeJwtPart platform encodedHeader
    let payload ← decodeJwtPart platform encodedPayload
    check (text? (js "alg") header = some (js "RS256")) .invalidToken
    let kid ← require (text? (js "kid") header) .invalidToken
    check (isRecord payload) .invalidToken
    .ok { kid, payload, signature, signed := encodedHeader ++ 0x2E :: encodedPayload }
  | _ => .error (.authentication .invalidToken)

def isSigningKey (kid : JsString) (key : Json) : Bool :=
  text? (js "kid") key = some kid && text? (js "kty") key = some (js "RSA") &&
    (key.get (js "alg") = none || text? (js "alg") key = some (js "RS256")) &&
    (key.get (js "use") = none || text? (js "use") key = some (js "sig"))

def numberExceeds (limit : ℤ) : JsNumber → Bool
  | .safeInteger n _ => limit < n
  | .other text _ => platform.exceeds text limit

/-- `claims.aud`, as a list; what is absent is in no list. -/
def audience (claims : Json) : List Json :=
  match claims.get (js "aud") with
  | some (.array items) => items
  | some value => [value]
  | none => []

def claimsAccepted (expectedNonce : JsString) (nowSeconds : ℤ) (claims : Json) : Bool :=
  text? (js "iss") claims = some config.issuer && truthy (text? (js "sub") claims) &&
    (audience claims).contains (.string config.clientId) &&
    ((audience claims).length ≤ 1 || text? (js "azp") claims = some config.clientId) &&
    text? (js "nonce") claims = some expectedNonce &&
    (match claims.get (js "exp") with
      | some (.number n) => numberExceeds platform nowSeconds n
      | _ => false) &&
    (match claims.get (js "iat") with
      | some (.number n) => !numberExceeds platform (nowSeconds + 60) n
      | _ => false)

/-- What `verifyIdToken` does once it has the provider's keys. -/
def checkIdToken (jwks : Json) (token : IdToken) (expectedNonce : JsString)
    (nowSeconds : ℤ) : Except Failure Json := do
  let keys ← require (match jwks.get (js "keys") with
    | some (.array keys) => some keys
    | _ => none) .invalidToken
  let jwk ← require (keys.find? (isSigningKey token.kid)) .invalidToken
  let signature ← require (decodeBase64Url token.signature) .invalidToken
  let signatureValid ←
    require (platform.verifySignature jwk signature token.signed) .invalidToken
  check (signatureValid && claimsAccepted platform config expectedNonce nowSeconds token.payload)
    .invalidToken
  .ok token.payload

def verifyIdToken (token jwksUri expectedNonce : JsString) (nowSeconds : ℤ) :
    Routine Json := do
  let idToken ← attempt (readIdToken platform token)
  let jwksResponse ← await (.fetchKeys jwksUri)
  attempt (check jwksResponse.ok .invalidToken)
  let jwks ← attempt jwksResponse.json
  attempt (checkIdToken platform config jwks idToken expectedNonce nowSeconds)

def tokenForm (code verifier : JsString) : List (JsString × JsString) :=
  [(js "grant_type", js "authorization_code"), (js "code", code),
    (js "client_id", config.clientId), (js "redirect_uri", config.redirectUri),
    (js "code_verifier", verifier)] ++
    (config.clientSecret.filter (· ≠ [])).toList.map fun secret => (js "client_secret", secret)

def hexByte (byte : UInt8) : JsString :=
  [byte / 16, byte % 16].map fun digit =>
    if digit < 10 then (48 + digit).toUInt16 else (87 + digit).toUInt16

def stableActorId (issuer subject : JsString) : JsString :=
  js "oidc_" ++ (platform.sha256 (issuer ++ 0 :: subject)).flatMap hexByte

def sessionOf (claims : Json) (now : ℤ) (sessionId : JsString) : SessionPayload :=
  let subject := (text? (js "sub") claims).getD []
  let email := text? (js "email") claims
  { issuer := config.issuer, subject, actorId := stableActorId platform config.issuer subject
    email, displayName := (text? (js "name") claims).getD (email.getD (js "Authenticated user"))
    expiresAt := now + config.sessionTtlSeconds * 1000, sessionId }

def complete (input : Callback) : Routine Ret := do
  attempt (check (truthy input.code && truthy input.state && truthy input.transactionCookie)
    .invalidRequest)
  let transaction ← await (.unsealCookie (input.transactionCookie.getD []))
  let time ← await .clock
  attempt (check (time < transaction.expiresAt) .expired)
  attempt (check (input.state = some transaction.state) .invalidState)
  let discovery ← discover
  let tokenResponse ← await (.fetchToken discovery.tokenEndpoint
    (tokenForm config (input.code.getD []) transaction.verifier))
  attempt (check tokenResponse.ok .tokenExchangeFailed)
  let tokenValue ← attempt tokenResponse.json
  let idToken ← attempt (require (text? (js "id_token") tokenValue) .tokenExchangeFailed)
  let now ← await .clock
  let claims ← verifyIdToken platform config idToken discovery.jwksUri transaction.nonce
    (now / 1000)
  let sessionId ← await .randomValue
  let sessionCookie ← await (.sealCookie (.session (sessionOf platform config claims now
    sessionId)))
  pure (.completed transaction.returnTo sessionCookie)

end Routines

/-! ## Runs -/

/-- The promise of the discovery document: it is pending until its request is answered,
and settled for good. -/
inductive Promise
  | pending
  | settled (result : Except Failure DiscoveryDocument)

structure Service where
  discovery : Option Promise
  sealed : List (Envelope × Plaintext)

def Service.start : Service := { discovery := none, sealed := [] }

/-- What the service does not decide: its random bytes, the ciphertext that they lead to,
the clock, and the answer to a request. -/
structure Choice where
  bytes : List UInt8
  ciphertext : List UInt8
  time : ℤ
  response : Option Response

def respond (response : Option Response) : Except Failure Response :=
  response.elim (.error .thrown) .ok

/-- One command.  No two cookies have the same random vector and ciphertext. -/
def exec (config : OidcConfig) (choice : Choice) :
    (cmd : Cmd) → Service → Option (Except Failure (Resp cmd) × Service)
  | .startDiscovery, s => some (.ok (), { s with discovery := s.discovery.or (some .pending) })
  | .awaitDiscovery, s =>
    match s.discovery with
    | some (.settled result) => some (result, s)
    | _ => none
  | .randomValue, s =>
    if choice.bytes.length = 32 then some (.ok (encodeBase64Url choice.bytes), s) else none
  | .clock, s => some (.ok choice.time, s)
  | .sealCookie plaintext, s =>
    match cookieKey config.cookieSecret with
    | .error e => some (.error e, s)
    | .ok _ =>
      let envelope := (choice.bytes, choice.ciphertext)
      if choice.bytes.length = 12 ∧ choice.ciphertext ≠ [] ∧ s.sealed.lookup envelope = none then
        some (.ok (sealText envelope), { s with sealed := (envelope, plaintext) :: s.sealed })
      else none
  | .unsealCookie cookie, s => some (unsealTransaction config (s.sealed.lookup ·) cookie, s)
  | .fetchToken _ _, s => some (respond choice.response, s)
  | .fetchKeys _, s => some (respond choice.response, s)

/-- The answer to the discovery request settles the promise. -/
def answerDiscovery (platform : Platform) (config : OidcConfig) (answer : Option Response)
    (s : Service) : Option Service :=
  match s.discovery with
  | some .pending =>
    some { s with discovery := some (.settled (discoveryDocument platform config answer)) }
  | _ => none

def system (platform : Platform) (config : OidcConfig) :
    System Service Cmd Resp Failure Call Ret Choice (Option Response) where
  program
    | .begin returnToValue => begin platform config returnToValue
    | .complete input => complete platform config input
  exec := exec config
  environment := answerDiscovery platform config

end DevHarness.Oidc
