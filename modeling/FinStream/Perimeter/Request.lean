import FinStream.Inbox.Signature
import FinStream.Integrations.Capture
import FinStream.Operations.WriteGate

/-! Requests as the layers in front of the handlers see them, and what these answer. -/

namespace FinStream.Perimeter

open Store Inbox

/-- A request: what it asks for, its headers and its body. -/
structure Request where
  method : Method
  path : String
  headers : HeaderMap
  body : List UInt8

/-- What a response carries. -/
inductive Body where
  | empty
  | text (content : String)
  | json (fields : List (String × String))
  deriving DecidableEq

/-- A response: its status, the headers that a layer sets, and its body. -/
structure Response where
  status : ℕ
  headers : List (String × String)
  body : Body
  deriving DecidableEq

/-- The text of a header whose bytes can be read as one. -/
def headerText (headers : HeaderMap) (name : String) : Option String :=
  (headers name).bind toStr

/-- Whether two texts are the same up to the case of ASCII letters. -/
def eqIgnoreAsciiCase (left right : String) : Bool :=
  left.toList.map Char.toLower == right.toList.map Char.toLower

/-! ### Paths -/

/-- Whether a path is the endpoint of webhook deliveries. -/
def isWebhookPath (path : String) : Bool := path == "/webhooks/resend"

/-- Whether a path is that of a static file. -/
def isStatic (path : String) : Bool :=
  path == "/static" || (stripLeading "/static/" path).isSome || path == "/dist" ||
    (stripLeading "/dist/" path).isSome || path == "/style.css"

/-- Whether a path is open to everyone. -/
def isPublic (path : String) : Bool :=
  path == "/login" || path == "/health" || path == "/healthz" || path == "/ready" || isStatic path

/-- Whether a client on a path reads JSON. -/
def wantsJson (path : String) (headers : HeaderMap) : Bool :=
  path == "/api" || (stripLeading "/api/" path).isSome || isWebhookPath path ||
    (headerText headers "accept").any (containsText "application/json")

/-! ### Origins -/

/--
Whether a request comes from a page of this site, or from no page at all.

An origin that can be parsed has an authority or lacks one; the parser is a parameter.
-/
def hasSameOrigin (authority : String → Option (Option String)) (headers : HeaderMap) : Bool :=
  match headers "origin" with
  | none => true
  | some origin =>
    match (toStr origin).bind authority, headerText headers "host" with
    | some part, some host =>
      part.any (eqIgnoreAsciiCase · host) ||
        (headerText headers "sec-fetch-site").any (eqIgnoreAsciiCase · "same-origin")
    | _, _ => false

/-! ### The bearer of scheduled runs -/

/-- A byte with its ASCII letter in lower case. -/
def lowerByte (byte : UInt8) : UInt8 := if 65 ≤ byte && byte ≤ 90 then byte + 32 else byte

/-- The digest of the configured token, if there is one. -/
structure CronAuthenticator where
  expectedDigest : Option (List UInt8)
  deriving DecidableEq

/-- Keeps the digest of a configured token. -/
def CronAuthenticator.new (digest : List UInt8 → List UInt8) (secret : Option String) :
    CronAuthenticator := ⟨secret.map fun token => digest (bytesOf token)⟩

/-- Whether a request bears the token that is known by its digest. -/
def CronAuthenticator.authorizes (digest : List UInt8 → List UInt8)
    (authenticator : CronAuthenticator) (headers : HeaderMap) : Bool :=
  match authenticator.expectedDigest, headers "authorization" with
  | some expected, some value =>
    if value.length ≤ 7 || (value.take 6).map lowerByte != bytesOf "bearer" ||
      value[6]? != some 32
    then false
    else expected == digest (value.drop 7)
  | _, _ => false

/-! ### Answers -/

/-- Tells a client where to go. -/
def redirectTo (location : String) : Response := ⟨303, [("location", location)], .empty⟩

/-- Refuses a delivery; some refusals invite another attempt. -/
def webhookError (status : ℕ) (code : String) (retryable : Bool) : Response where
  status := status
  headers := if retryable then [("retry-after", "60")] else []
  body := .json [("error", code)]

/-- Refuses a request on behalf of a scheduler. -/
def cronUnauthenticatedResponse : Response :=
  ⟨401, [("www-authenticate", "Bearer realm=\"cron\"")], .json [("error", "unauthorized")]⟩

/-- Refuses a method on behalf of a scheduler. -/
def cronMethodNotAllowedResponse : Response :=
  ⟨405, [("allow", "GET")], .json [("error", "method_not_allowed")]⟩

/-- Refuses a mutation that another site asked for. -/
def crossOriginResponse : Response := ⟨403, [], .text "Cross-origin mutation rejected."⟩

/-- Tells a client to come back when sessions can be read again. -/
def serviceUnavailableResponse : Response :=
  ⟨503, [], .text "Authentication service temporarily unavailable."⟩

/-- Sends a client without a session to the login, in the form it understands. -/
def unauthenticatedResponse (path : String) (headers : HeaderMap) : Response :=
  if (headerText headers "hx-request").any (eqIgnoreAsciiCase · "true") then
    ⟨200, [("hx-redirect", "/login")], .empty⟩
  else if wantsJson path headers then ⟨401, [], .json [("error", "unauthorized")]⟩
  else redirectTo "/login"

/-- The answer of the write gate as a response. -/
def Response.ofBlocked (blocked : BlockedResponse) : Response where
  status := blocked.status
  headers := [("retry-after", blocked.retryAfter)]
  body := match blocked.error with
    | some code => .json [("error", code), ("message", blocked.message)]
    | none => .text blocked.message

/-! ### Logins -/

/-- A row of `app_user`. -/
structure AppUser where
  id : ℤ
  email : String
  passwordHash : String
  displayName : Option String
  isActive : Bool
  deriving DecidableEq

/-- What a login is asked for with. -/
structure LoginForm where
  email : String
  password : String
  deriving DecidableEq

/-- A hash that no login is granted for; it makes unknown users cost as much work as known ones. -/
def dummyPasswordHash : String :=
  "$argon2id$v=19$m=19456,t=2,p=1$Het/Y30nArPvuld+9WgiAw$4iaKMEoLQ0Aq5yU0tvoxZhAQPF/kiyw8W5JCUlq8EG4"

/-- The active user of an email address; the column ignores the case of ASCII letters. -/
def activeUserForLogin (users : List AppUser) (email : String) : Option AppUser :=
  users.find? fun user => eqIgnoreAsciiCase user.email email && user.isActive

/-- Refuses a login without saying what was wrong. -/
def invalidLogin : Response := ⟨401, [], .text "Invalid email or password."⟩

/-- Tells a client to log in again later. -/
def loginUnavailable : Response := ⟨503, [], .text "Authentication is temporarily unavailable."⟩

/-- Packages that the layers are built on, and what the layers are configured with. -/
structure Config where
  /-- The tag of a text under a key. -/
  mac : List UInt8 → List UInt8 → List UInt8
  verifier : Option WebhookVerifier
  /-- The digest of a token. -/
  digest : List UInt8 → List UInt8
  cronAuthenticator : CronAuthenticator
  /-- Reads an origin, and its authority if it has one. -/
  authority : String → Option (Option String)
  /-- Reads a body as the form of a login. -/
  loginForm : List UInt8 → Option LoginForm
  /-- A text in lower case. -/
  toLowercase : String → String
  /-- Whether a password has a hash; the hash may be unusable. -/
  verifyPassword : String → String → Option Bool

variable (config : Config)

/-- The address a login is for. -/
def loginEmail (form : LoginForm) : String := config.toLowercase (trim form.email)

/-- Decides on a login over the users as they are stored, if they can be read. -/
def login (users : Option (List AppUser)) (form : LoginForm) : Except Response ℤ := do
  let email := loginEmail config form
  ensure (!(email.isEmpty || 320 < email.utf8ByteSize || form.password.isEmpty ||
    1024 < form.password.utf8ByteSize)) invalidLogin
  let users ← required users loginUnavailable
  let user := activeUserForLogin users email
  let passwordHash := (user.map AppUser.passwordHash).getD dummyPasswordHash
  let verified ← required (config.verifyPassword form.password passwordHash) loginUnavailable
  ensure verified invalidLogin
  let user ← required user invalidLogin
  pure user.id

/-! ### The layers before the session -/

/-- The longest body of a delivery, in bytes. -/
def maxWebhookBytes : ℕ := 256 * 1024

/-- Authenticates a delivery, and says whether the request is a verified one. -/
def authenticateWebhook (request : Request) (now : OffsetDateTime) : Except Response Bool := do
  if !isWebhookPath request.path then return false
  let verifier ← required config.verifier (webhookError 503 "webhook_unavailable" true)
  ensure (request.body.length ≤ maxWebhookBytes) (webhookError 413 "payload_too_large" false)
  let _ ← (verifier.verify config.mac request.headers request.body now).mapError
    fun _ => webhookError 401 "invalid_signature" false
  pure true

/-- On whose behalf a request goes on to the write gate. -/
inductive Standing where
  | webhook
  | cron
  | anyone
  | user (id : ℤ)
  deriving DecidableEq

/-- What authentication decides before it loads a session: who asks, if that is known by now. -/
def requireAuth (request : Request) (verified : Bool) : Except Response (Option Standing) := do
  if isWebhookPath request.path then
    ensure verified (webhookError 401 "invalid_signature" false)
    return some .webhook
  if isCronPath request.path then
    ensure (config.cronAuthenticator.authorizes config.digest request.headers)
      cronUnauthenticatedResponse
    -- A route for GET may match HEAD as well, and this endpoint mutates.
    ensure (request.method == .get) cronMethodNotAllowedResponse
    return some .cron
  ensure (!(request.method.mutates && !hasSameOrigin config.authority request.headers))
    crossOriginResponse
  if isPublic request.path then return some .anyone
  pure none

end FinStream.Perimeter
