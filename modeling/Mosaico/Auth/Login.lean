import Mosaico.Fabric.ReferenceResolution
import Mosaico.Fabric.Intake
import Mosaico.Rust.Text
import Mosaico.Transition.Run

/-!
# The login of the MCP server

An OAuth client opens the login page with its authorize parameters.  The page
carries them through hidden fields to the submission, and the server keeps what
it was asked for in a login challenge.  The parameters are read twice, once from
the query and once from the form, and the challenge compares the two readings.

The second half is the proof of identity that a submission brings, either a
secret key or an event signed by the browser's extension.
-/

namespace Mosaico

open Transition

/-! ## The parameters of a request -/

/-- What the login takes from its libraries: URLs, the hash of PKCE, keys and signed events. -/
structure LoginLibrary where
  /-- Whether `Url::parse` accepts the text. -/
  urlParses : String → Bool
  /-- The unpadded base64url form of the SHA-256 digest. -/
  s256 : String → String
  /-- The public key, in hex, that `Keys::parse` derives. -/
  parseKeys : String → Option String
  /-- The hex form of what `PublicKey::parse` reads. -/
  parsePublicKey : String → Option String
  eventFromJson : String → Option Event
  verifies : Event → Bool

/-- The path that the MCP resource is served under. -/
def normalizePath (path : String) : Except String String :=
  let path := Rust.trim path
  if path = "" then .error "MCP HTTP path must not be empty"
  else .ok (if path.toList.head? = some '/' then path else "/" ++ path)

theorem normalizePath_rooted {path resourcePath : String}
    (hpath : normalizePath path = .ok resourcePath) :
    resourcePath.toList.head? = some '/' := by
  unfold normalizePath at hpath
  simp only at hpath
  split at hpath
  · cases hpath
  · obtain rfl := Except.ok.inj hpath
    split
    · assumption
    · simp

/-- The configuration of the server; its path has been normalized. -/
structure AuthServer where
  library : LoginLibrary
  publicUrl : String
  resourcePath : String
  whitelisted : List String
  rooted : resourcePath.toList.head? = some '/'

namespace AuthServer

/-- `AuthState::new`, with the keys of the configuration. -/
def new (library : LoginLibrary) (publicUrl path : String) (whitelisted : List String) :
    Except String AuthServer :=
  match hpath : normalizePath path with
  | .error message => .error message
  | .ok resourcePath => .ok
      { library := library
        publicUrl := String.ofList (publicUrl.toList.reverse.dropWhile (· == '/')).reverse
        resourcePath := resourcePath
        whitelisted := whitelisted
        rooted := normalizePath_rooted hpath }

def resourceUrl (server : AuthServer) : String := server.publicUrl ++ server.resourcePath

def authorizeUrl (server : AuthServer) : String := server.publicUrl ++ "/oauth/authorize"

theorem resourceUrl_ne_empty (server : AuthServer) : server.resourceUrl ≠ "" := by
  intro hempty
  have hlist := congrArg String.toList hempty
  rw [resourceUrl, String.toList_append] at hlist
  have hpath : server.resourcePath.toList = [] := (List.append_eq_nil_iff.mp hlist).2
  have hrooted := server.rooted
  rw [hpath] at hrooted
  cases hrooted

end AuthServer

/-- The parameters of an authorize request. -/
structure AuthorizeParams where
  responseType : String
  clientId : String
  redirectUri : String
  state : Option String
  codeChallenge : String
  codeChallengeMethod : String
  resource : Option String
  scope : Option String
  deriving DecidableEq, Repr

/-- What the login page posts. -/
structure AuthorizeForm where
  nsec : Option String
  nip07Pubkey : Option String
  nip07Event : Option String
  loginChallenge : String
  responseType : String
  clientId : String
  redirectUri : String
  state : Option String
  codeChallenge : String
  codeChallengeMethod : String
  resource : Option String
  scope : Option String
  deriving DecidableEq, Repr

namespace AuthorizeParams

def resourceUrl (params : AuthorizeParams) (defaultResource : String) : String :=
  params.resource.getD defaultResource

def validate (params : AuthorizeParams) (library : LoginLibrary) (defaultResource : String) :
    Except String Unit := do
  ensure (params.responseType = "code") "response_type must be code"
  ensure (params.codeChallengeMethod = "S256") "PKCE S256 is required"
  ensure (params.resourceUrl defaultResource = defaultResource)
    "resource does not match this MCP server"
  ensure (library.urlParses params.redirectUri = true) "redirect_uri must be an absolute URL"

/-- The hidden fields of the login page; an absent parameter is rendered as an empty one. -/
def loginFields (params : AuthorizeParams) (challenge : String) : List (String × String) :=
  [("login_challenge", challenge),
    ("response_type", params.responseType),
    ("client_id", params.clientId),
    ("redirect_uri", params.redirectUri),
    ("state", params.state.getD ""),
    ("code_challenge", params.codeChallenge),
    ("code_challenge_method", params.codeChallengeMethod),
    ("resource", params.resource.getD ""),
    ("scope", params.scope.getD "")]

/-- What the second parser reads where the first read `params`. -/
def rendered (params : AuthorizeParams) : AuthorizeParams :=
  { params with
    state := some (params.state.getD "")
    resource := some (params.resource.getD "")
    scope := some (params.scope.getD "") }

end AuthorizeParams

namespace AuthorizeForm

/-- Form decoding: a field that is there is read as its text, the empty text included. -/
def decode (fields : List (String × String)) : Option AuthorizeForm := do
  let loginChallenge ← fields.lookup "login_challenge"
  let responseType ← fields.lookup "response_type"
  let clientId ← fields.lookup "client_id"
  let redirectUri ← fields.lookup "redirect_uri"
  let codeChallenge ← fields.lookup "code_challenge"
  let codeChallengeMethod ← fields.lookup "code_challenge_method"
  return {
    nsec := fields.lookup "nsec"
    nip07Pubkey := fields.lookup "nip07_pubkey"
    nip07Event := fields.lookup "nip07_event"
    loginChallenge := loginChallenge
    responseType := responseType
    clientId := clientId
    redirectUri := redirectUri
    state := fields.lookup "state"
    codeChallenge := codeChallenge
    codeChallengeMethod := codeChallengeMethod
    resource := fields.lookup "resource"
    scope := fields.lookup "scope" }

def params (form : AuthorizeForm) : AuthorizeParams where
  responseType := form.responseType
  clientId := form.clientId
  redirectUri := form.redirectUri
  state := form.state
  codeChallenge := form.codeChallenge
  codeChallengeMethod := form.codeChallengeMethod
  resource := form.resource
  scope := form.scope

/-- The page's fields come back under its challenge, with whatever keys the user added. -/
theorem decode_loginFields (params : AuthorizeParams) (challenge : String)
    (keys : List (String × String)) :
    decode (params.loginFields challenge ++ keys) = some
      { nsec := keys.lookup "nsec"
        nip07Pubkey := keys.lookup "nip07_pubkey"
        nip07Event := keys.lookup "nip07_event"
        loginChallenge := challenge
        responseType := params.responseType
        clientId := params.clientId
        redirectUri := params.redirectUri
        state := some (params.state.getD "")
        codeChallenge := params.codeChallenge
        codeChallengeMethod := params.codeChallengeMethod
        resource := some (params.resource.getD "")
        scope := some (params.scope.getD "") } := by
  simp [decode, AuthorizeParams.loginFields, List.lookup_cons]

end AuthorizeForm

/-! ## Login challenges -/

/-- What the login page was opened for. -/
structure LoginChallenge where
  clientId : String
  redirectUri : String
  codeChallenge : String
  resource : String
  scope : Option String
  expiresAt : Nat
  deriving DecidableEq, Repr

namespace LoginChallenge

def fromParams (params : AuthorizeParams) (defaultResource : String) (expiresAt : Nat) :
    LoginChallenge where
  clientId := params.clientId
  redirectUri := params.redirectUri
  codeChallenge := params.codeChallenge
  resource := params.resourceUrl defaultResource
  scope := params.scope
  expiresAt := expiresAt

def validate (challenge : LoginChallenge) (params : AuthorizeParams) (defaultResource : String)
    (now : Nat) : Except String Unit := do
  ensure (now < challenge.expiresAt) "login challenge expired"
  ensure (challenge.clientId = params.clientId) "client_id mismatch"
  ensure (challenge.redirectUri = params.redirectUri) "redirect_uri mismatch"
  ensure (challenge.codeChallenge = params.codeChallenge) "code_challenge mismatch"
  ensure (challenge.resource = params.resourceUrl defaultResource) "resource mismatch"
  ensure (challenge.scope = params.scope) "scope mismatch"

theorem validate_iff {challenge : LoginChallenge} {params : AuthorizeParams}
    {defaultResource : String} {now : Nat} :
    challenge.validate params defaultResource now = .ok () ↔
      now < challenge.expiresAt ∧
        challenge = fromParams params defaultResource challenge.expiresAt := by
  obtain ⟨clientId, redirectUri, codeChallenge, resource, scope, expiresAt⟩ := challenge
  simp [validate, fromParams]

end LoginChallenge

namespace AuthorizeParams

variable {params : AuthorizeParams} {library : LoginLibrary} {defaultResource : String}

theorem validate_iff :
    params.validate library defaultResource = .ok () ↔
      params.responseType = "code" ∧ params.codeChallengeMethod = "S256" ∧
        params.resourceUrl defaultResource = defaultResource ∧
        library.urlParses params.redirectUri = true := by
  simp [validate]

theorem some_getD_eq_iff {value : Option String} :
    some (value.getD "") = value ↔ value.isSome = true := by
  cases value with
  | none | some text => simp

/-- An accepted request is accepted again in its rendered form if it named the resource. -/
theorem validate_rendered_iff (hdefault : defaultResource ≠ "")
    (hvalid : params.validate library defaultResource = .ok ()) :
    params.rendered.validate library defaultResource = .ok () ↔
      params.resource.isSome = true := by
  obtain ⟨hresponse, hmethod, hresource, hredirect⟩ := validate_iff.mp hvalid
  have hrendered : params.rendered.validate library defaultResource = .ok () ↔
      params.rendered.resourceUrl defaultResource = defaultResource := by
    rw [validate_iff]
    exact ⟨fun h => h.2.2.1, fun h => ⟨hresponse, hmethod, h, hredirect⟩⟩
  rw [hrendered]
  cases hnamed : params.resource with
  | none =>
      simp only [resourceUrl, rendered, hnamed, Option.getD_none, Option.getD_some]
      simp [Ne.symm hdefault]
  | some resource =>
      simp only [resourceUrl, hnamed, Option.getD_some] at hresource
      simp [resourceUrl, rendered, hnamed, hresource]

/-- The challenge of a request accepts its rendered form if the request named its scope, as long
as the challenge lasts. -/
theorem challenge_validate_rendered {expiresAt now : Nat}
    (hnamed : params.resource.isSome = true) :
    (LoginChallenge.fromParams params defaultResource expiresAt).validate params.rendered
        defaultResource now = .ok () ↔
      now < expiresAt ∧ params.scope.isSome = true := by
  obtain ⟨resource, hresource⟩ := Option.isSome_iff_exists.mp hnamed
  rw [LoginChallenge.validate_iff, ← some_getD_eq_iff]
  simp only [LoginChallenge.fromParams, rendered, resourceUrl, hresource]
  simp [eq_comm]

end AuthorizeParams

/-! ## The key of a submission -/

def nip07Content : String := "mosaico OAuth login"

def nip07EventMaxBytes : Nat := 8192

def loginWindowSecs : Nat := 300

def futureSkewSecs : Nat := 120

/-- `Kind::HttpAuth`. -/
def kindHttpAuth : Nat := 27235

def LoginLibrary.normalizePubkey (library : LoginLibrary) (value : String) : String :=
  (library.parsePublicKey value).getD (Database.asciiLowercase value)

/-- The value as an error where it is missing. -/
def context {α : Type} (value : Option α) (message : String) : Except String α :=
  match value with
  | some found => .ok found
  | none => .error message

/-- The content of the first tag of the kind must be the expected one. -/
def verifyTag (event : Event) (name expected : String) : Except String Unit := do
  let actual ← context ((event.tags.find? (·.head? == some name)).bind (·[1]?))
    ("missing NIP-07 " ++ name ++ " tag")
  ensure (actual = expected) ("invalid NIP-07 " ++ name ++ " tag")

def verifyTimestamp (createdAt now : Nat) : Except String Unit := do
  ensure (createdAt ≤ now + futureSkewSecs) "NIP-07 event is from the future"
  ensure (now ≤ createdAt + loginWindowSecs) "NIP-07 event is stale"

namespace AuthServer

variable (server : AuthServer)

def verifyLoginEvent (eventJson claimedPubkey challenge : String) (now : Nat) :
    Except String String := do
  ensure (eventJson.utf8ByteSize ≤ nip07EventMaxBytes) "NIP-07 event too large"
  let event ← context (server.library.eventFromJson eventJson) "invalid NIP-07 event"
  ensure (server.library.verifies event = true) "invalid NIP-07 event signature"
  ensure (server.library.normalizePubkey claimedPubkey = event.pubkey) "NIP-07 pubkey mismatch"
  ensure (event.kind = kindHttpAuth) "NIP-07 event must be kind 27235"
  ensure (event.content = nip07Content) "unexpected NIP-07 content"
  verifyTimestamp event.createdAt now
  verifyTag event "u" server.authorizeUrl
  verifyTag event "method" "POST"
  verifyTag event "challenge" challenge
  return event.pubkey

def pubkeyForForm (form : AuthorizeForm) (challenge : String) (now : Nat) :
    Except String String := do
  let claimed ← context (form.nip07Pubkey.filter (!Rust.isBlank ·)) "missing NIP-07 pubkey"
  let eventJson ← context (form.nip07Event.filter (!Rust.isBlank ·))
    "missing NIP-07 signed event"
  server.verifyLoginEvent eventJson claimed challenge now

def ensureWhitelisted (pubkey : String) : Except String String := do
  ensure (∃ key ∈ server.whitelisted, server.library.normalizePubkey key = pubkey)
    "pubkey is not in whitelistedPubkeys"
  return pubkey

def pubkeyForNsec (nsec : String) : Except String String := do
  let pubkey ← context (server.library.parseKeys (Rust.trim nsec)) "invalid nsec"
  server.ensureWhitelisted pubkey

def pubkeyForLogin (form : AuthorizeForm) (challenge : String) (now : Nat) :
    Except String String := do
  match (form.nsec.map Rust.trim).filter (· ≠ "") with
  | some nsec => server.pubkeyForNsec nsec
  | none =>
      let pubkey ← server.pubkeyForForm form challenge now
      server.ensureWhitelisted pubkey

/-- The key is one of the configured ones, in whatever form the configuration writes it. -/
def Allowed (pubkey : String) : Prop :=
  ∃ key ∈ server.whitelisted, server.library.normalizePubkey key = pubkey

variable {server}

theorem ensureWhitelisted_eq_ok {pubkey allowed : String} :
    server.ensureWhitelisted pubkey = .ok allowed ↔ server.Allowed pubkey ∧ pubkey = allowed := by
  unfold ensureWhitelisted
  rw [bind_eq_ok]
  simp [Allowed]

/-- The submission shows that its sender has the key: it brings the secret one, or an event that
signs the challenge. -/
def Proves (server : AuthServer) (form : AuthorizeForm) (challenge pubkey : String) (now : Nat) :
    Prop :=
  match (form.nsec.map Rust.trim).filter (· ≠ "") with
  | some nsec => server.library.parseKeys nsec = some pubkey
  | none => server.pubkeyForForm form challenge now = .ok pubkey

/-- Whoever proves a whitelisted key logs in with it, and nobody else does. -/
theorem pubkeyForLogin_eq_ok {form : AuthorizeForm} {challenge pubkey : String} {now : Nat} :
    server.pubkeyForLogin form challenge now = .ok pubkey ↔
      server.Proves form challenge pubkey now ∧ server.Allowed pubkey := by
  unfold pubkeyForLogin Proves
  cases hpresent : (form.nsec.map Rust.trim).filter (· ≠ "") with
  | some nsec =>
      have htrimmed : Rust.trim nsec = nsec := by
        obtain ⟨hmap, _⟩ := Option.filter_eq_some_iff.mp hpresent
        obtain ⟨raw, _, rfl⟩ := Option.map_eq_some_iff.mp hmap
        exact Rust.trim_trim raw
      simp only [pubkeyForNsec, htrimmed]
      cases hkeys : server.library.parseKeys nsec with
      | none => simp [context]
      | some parsed =>
          have hparsed : (context (some parsed) "invalid nsec" >>= server.ensureWhitelisted) =
              server.ensureWhitelisted parsed := rfl
          rw [hparsed, ensureWhitelisted_eq_ok, Option.some_inj]
          constructor
          · rintro ⟨hallowed, rfl⟩
            exact ⟨rfl, hallowed⟩
          · rintro ⟨rfl, hallowed⟩
            exact ⟨hallowed, rfl⟩
  | none =>
      simp only [bind_eq_ok, ensureWhitelisted_eq_ok]
      constructor
      · rintro ⟨found, hfound, hallowed, rfl⟩
        exact ⟨hfound, hallowed⟩
      · rintro ⟨hfound, hallowed⟩
        exact ⟨pubkey, hfound, hallowed, rfl⟩

end AuthServer

end Mosaico
