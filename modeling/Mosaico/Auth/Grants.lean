import Mosaico.Auth.Login
import Mosaico.Concurrent.Tickets
import Mathlib.Tactic.Simps.Basic

/-!
# One-time grants

The server keeps its login challenges and its authorization codes in two maps.
A submission takes the challenge it names out of the first and, if it proves a
whitelisted key, leaves a code in the second; a token request takes the code
out.  Requests run concurrently: what a submission does after its challenge has
been taken comes in a later step, or never when its client goes away.

Next to the maps the state keeps a record of what was taken, granted and issued,
which the server itself does not read.
-/

namespace Mosaico

open Transition

/-! ## Codes and tokens -/

/-- What an authorization code stands for. -/
structure AuthCode where
  clientId : String
  redirectUri : String
  codeChallenge : String
  resource : String
  scope : String
  pubkey : String
  expiresAt : Nat
  deriving DecidableEq, Repr

structure TokenForm where
  grantType : String
  code : String
  redirectUri : String
  clientId : String
  codeVerifier : String
  resource : Option String
  deriving DecidableEq, Repr

/-- The claims that an access token signs. -/
structure TokenClaims where
  iss : String
  aud : String
  sub : String
  scope : String
  iat : Nat
  deriving DecidableEq, Repr

/-- How long a challenge and a code last, in seconds. -/
def grantSecs : Nat := 300

def defaultScope : String := "mosaico:read mosaico:write"

def validateTokenRequest (library : LoginLibrary) (form : TokenForm) (code : AuthCode)
    (defaultResource : String) (now : Nat) : Except String Unit := do
  ensure (now < code.expiresAt) "code expired"
  ensure (form.clientId = code.clientId) "client_id mismatch"
  ensure (form.redirectUri = code.redirectUri) "redirect_uri mismatch"
  ensure (form.resource.getD defaultResource = code.resource) "resource mismatch"
  ensure (library.s256 form.codeVerifier = code.codeChallenge) "PKCE verifier mismatch"

/-- The request is made in time, by the client, for the resource and with the verifier that the
code stands for. -/
structure TokenForm.Matches (form : TokenForm) (library : LoginLibrary) (code : AuthCode)
    (defaultResource : String) (now : Nat) : Prop where
  unexpired : now < code.expiresAt
  clientId : form.clientId = code.clientId
  redirectUri : form.redirectUri = code.redirectUri
  resource : form.resource.getD defaultResource = code.resource
  verifier : library.s256 form.codeVerifier = code.codeChallenge

theorem matches_of_validateTokenRequest {library : LoginLibrary} {form : TokenForm}
    {code : AuthCode} {defaultResource : String} {now : Nat}
    (hvalid : validateTokenRequest library form code defaultResource now = .ok ()) :
    form.Matches library code defaultResource now := by
  simp only [validateTokenRequest, bind_eq_ok, ensure_eq_ok, exists_const] at hvalid
  obtain ⟨hunexpired, hclient, hredirect, hresource, hverifier⟩ := hvalid
  exact ⟨hunexpired, hclient, hredirect, hresource, hverifier⟩

inductive Response where
  | oauthError (message : String)
  | loginPage (fields : List (String × String)) (error : Option String)
  | redirect (redirectUri code : String) (state : Option String)
  | jsonError (error description : String)
  | accessToken (claims : TokenClaims) (scope : String)
  deriving DecidableEq, Repr

/-! ## The server's state -/

/-- A submission that has given up or spent its challenge: its next page or its login is still to
come. -/
inductive Submission where
  | retry (params : AuthorizeParams) (error : String)
  | login (form : AuthorizeForm)
  deriving DecidableEq, Repr

structure AuthState where
  codes : String → Option AuthCode
  challenges : String → Option LoginChallenge
  pending : List Submission
  responses : List Response
  takenChallenges : List String
  takenCodes : List String
  granted : List (String × AuthCode)
  /-- The token requests that were answered with a token, each with its code and its time. -/
  issued : List (TokenForm × AuthCode × Nat)

namespace AuthState

/-- The server as it starts. -/
def initial : AuthState where
  codes := fun _ => none
  challenges := fun _ => none
  pending := []
  responses := []
  takenChallenges := []
  takenCodes := []
  granted := []
  issued := []

@[simps]
def respond (state : AuthState) (response : Response) : AuthState :=
  { state with responses := state.responses ++ [response] }

@[simps]
def enqueue (state : AuthState) (submission : Submission) : AuthState :=
  { state with pending := state.pending ++ [submission] }

/-- Drop the challenges that have expired. -/
@[simps]
def retain (state : AuthState) (now : Nat) : AuthState :=
  { state with
    challenges := fun key => (state.challenges key).filter (decide <| now < ·.expiresAt) }

@[simps]
def insertChallenge (state : AuthState) (key : String) (challenge : LoginChallenge) : AuthState :=
  { state with challenges := Function.update state.challenges key (some challenge) }

@[simps]
def takeChallenge (state : AuthState) (key : String) : AuthState :=
  { state with
    challenges := Function.update state.challenges key none
    takenChallenges := state.takenChallenges ++ [key] }

@[simps]
def insertCode (state : AuthState) (key : String) (code : AuthCode) : AuthState :=
  { state with
    codes := Function.update state.codes key (some code)
    granted := state.granted ++ [(key, code)] }

@[simps]
def takeCode (state : AuthState) (key : String) : AuthState :=
  { state with
    codes := Function.update state.codes key none
    takenCodes := state.takenCodes ++ [key] }

@[simps]
def issue (state : AuthState) (form : TokenForm) (code : AuthCode) (now : Nat) : AuthState :=
  { state with issued := state.issued ++ [(form, code, now)] }

end AuthState

/-- What can happen next.  A random token is drawn for the challenge of a page or for a code; the
draw may fail. -/
inductive Request where
  | page (params : AuthorizeParams) (drawn : Except String String) (now : Nat)
  | submit (form : AuthorizeForm) (now : Nat)
  /-- The submission in the given place goes on; it reads the clock for its signed event and once
  more for what it stores. -/
  | finish (index : Nat) (drawn : Except String String) (seen now : Nat)
  /-- The client of a submission goes away. -/
  | abandon (index : Nat)
  | token (form : TokenForm) (now : Nat)

namespace AuthServer

variable (server : AuthServer)

def loginPage (state : AuthState) (params : AuthorizeParams) (error : Option String)
    (drawn : Except String String) (now : Nat) : AuthState :=
  match drawn with
  | .error message => state.respond (.oauthError message)
  | .ok challenge =>
      ((state.retain now).insertChallenge challenge
        (.fromParams params server.resourceUrl (now + grantSecs))).respond
          (.loginPage (params.loginFields challenge) error)

def authorizePage (state : AuthState) (params : AuthorizeParams) (drawn : Except String String)
    (now : Nat) : AuthState :=
  match params.validate server.library server.resourceUrl with
  | .error message => state.respond (.oauthError message)
  | .ok _ => server.loginPage state params none drawn now

/-- The first half of a submission, up to what it does with its challenge. -/
def authorizeSubmit (state : AuthState) (form : AuthorizeForm) (now : Nat) : AuthState :=
  match form.params.validate server.library server.resourceUrl with
  | .error message => state.respond (.oauthError message)
  | .ok _ =>
      match state.challenges form.loginChallenge with
      | none => state.enqueue (.retry form.params "unknown login challenge")
      | some challenge =>
          match challenge.validate form.params server.resourceUrl now with
          | .error message =>
              (state.takeChallenge form.loginChallenge).enqueue (.retry form.params message)
          | .ok _ => (state.takeChallenge form.loginChallenge).enqueue (.login form)

/-- The code that a login leaves. -/
def record (params : AuthorizeParams) (pubkey : String) (now : Nat) : AuthCode where
  clientId := params.clientId
  redirectUri := params.redirectUri
  codeChallenge := params.codeChallenge
  resource := params.resourceUrl server.resourceUrl
  scope := params.scope.getD defaultScope
  pubkey := pubkey
  expiresAt := now + grantSecs

/-- The second half of a submission. -/
def finishSubmission (state : AuthState) (submission : Submission) (drawn : Except String String)
    (seen now : Nat) : AuthState :=
  match submission with
  | .retry params error => server.loginPage state params (some error) drawn now
  | .login form =>
      match server.pubkeyForLogin form form.loginChallenge seen with
      | .error message => server.loginPage state form.params (some message) drawn now
      | .ok pubkey =>
          match drawn with
          | .error message => state.respond (.oauthError message)
          | .ok code =>
              -- The redirect URI was parsed when the form was validated.
              (state.insertCode code (server.record form.params pubkey now)).respond
                (.redirect form.redirectUri code form.state)

def claims (code : AuthCode) (now : Nat) : TokenClaims where
  iss := server.publicUrl
  aud := code.resource
  sub := code.pubkey
  scope := code.scope
  iat := now

def token (state : AuthState) (form : TokenForm) (now : Nat) : AuthState :=
  if form.grantType ≠ "authorization_code" then
    state.respond (.jsonError "unsupported_grant_type" "authorization_code required")
  else
    match state.codes form.code with
    | none => state.respond (.jsonError "invalid_grant" "unknown authorization code")
    | some code =>
        match validateTokenRequest server.library form code server.resourceUrl now with
        | .error message =>
            (state.takeCode form.code).respond (.jsonError "invalid_grant" message)
        | .ok _ =>
            ((state.takeCode form.code).issue form code now).respond
              (.accessToken (server.claims code now) code.scope)

def step (state : AuthState) : Request → AuthState
  | .page params drawn now => server.authorizePage state params drawn now
  | .submit form now => server.authorizeSubmit state form now
  | .finish index drawn seen now =>
      match state.pending[index]? with
      | none => state
      | some submission =>
          server.finishSubmission { state with pending := state.pending.eraseIdx index }
            submission drawn seen now
  | .abandon index => { state with pending := state.pending.eraseIdx index }
  | .token form now => server.token state form now

end AuthServer

/-! ## One use of each token -/

/-- The token that the request draws. -/
def Request.drawn : Request → Option String
  | .page _ drawn _ => drawn.toOption
  | .finish _ drawn _ _ => drawn.toOption
  | .submit _ _ => none
  | .abandon _ => none
  | .token _ _ => none

/-- Where the server stands after the tokens `drawn`: each challenge and each code has been taken
at most once, and the tokens went to requests that matched a granted code. -/
structure AuthServer.Sound (server : AuthServer) (drawn : List String) (state : AuthState) :
    Prop where
  challenges : Concurrent.Tickets state.challenges state.takenChallenges drawn
  codes : Concurrent.Tickets state.codes state.takenCodes drawn
  live_granted : ∀ key code, state.codes key = some code → (key, code) ∈ state.granted
  granted_allowed : ∀ grant ∈ state.granted, server.Allowed grant.2.pubkey
  issued_granted : ∀ issue ∈ state.issued, (issue.1.code, issue.2.1) ∈ state.granted
  issued_matches : ∀ issue ∈ state.issued,
    issue.1.Matches server.library issue.2.1 server.resourceUrl issue.2.2
  issued_taken : (state.issued.map (·.1.code)).Sublist state.takenCodes

namespace AuthServer

variable {server : AuthServer} {drawn : List String} {state : AuthState}

theorem sound_initial (server : AuthServer) : server.Sound [] .initial where
  challenges := Concurrent.Tickets.empty
  codes := Concurrent.Tickets.empty
  live_granted := by simp [AuthState.initial]
  granted_allowed := by simp [AuthState.initial]
  issued_granted := by simp [AuthState.initial]
  issued_matches := by simp [AuthState.initial]
  issued_taken := by simp [AuthState.initial]

namespace Sound

theorem drawMore (hsound : server.Sound drawn state) (more : List String) :
    server.Sound (drawn ++ more) state :=
  { hsound with
    challenges := hsound.challenges.drawMore more
    codes := hsound.codes.drawMore more }

theorem respond (hsound : server.Sound drawn state) (response : Response) :
    server.Sound drawn (state.respond response) :=
  { hsound with }

theorem enqueue (hsound : server.Sound drawn state) (submission : Submission) :
    server.Sound drawn (state.enqueue submission) :=
  { hsound with }

theorem dequeue (hsound : server.Sound drawn state) (index : Nat) :
    server.Sound drawn { state with pending := state.pending.eraseIdx index } :=
  { hsound with }

theorem insertChallenge (hsound : server.Sound drawn state) {key : String} (hfresh : key ∉ drawn)
    (now : Nat) (challenge : LoginChallenge) :
    server.Sound (drawn ++ [key]) ((state.retain now).insertChallenge key challenge) :=
  { hsound.drawMore [key] with
    challenges := (hsound.challenges.filter _).insert hfresh challenge }

theorem takeChallenge (hsound : server.Sound drawn state) {key : String}
    {challenge : LoginChallenge} (hlive : state.challenges key = some challenge) :
    server.Sound drawn (state.takeChallenge key) :=
  { hsound with challenges := hsound.challenges.take hlive }

theorem insertCode (hsound : server.Sound drawn state) {key : String} (hfresh : key ∉ drawn)
    {code : AuthCode} (hallowed : server.Allowed code.pubkey) :
    server.Sound (drawn ++ [key]) (state.insertCode key code) where
  challenges := hsound.challenges.drawMore [key]
  codes := hsound.codes.insert hfresh code
  live_granted := by
    intro other stored hlive
    simp only [AuthState.insertCode_codes, AuthState.insertCode_granted] at hlive ⊢
    by_cases heq : other = key
    · rw [heq, Function.update_self] at hlive
      cases hlive
      simp [heq]
    · rw [Function.update_of_ne heq] at hlive
      exact List.mem_append_left _ (hsound.live_granted other stored hlive)
  granted_allowed := by
    intro grant hgrant
    rcases List.mem_append.mp hgrant with hbefore | hnow
    · exact hsound.granted_allowed grant hbefore
    · rw [List.mem_singleton.mp hnow]
      exact hallowed
  issued_granted := fun issue hissue => List.mem_append_left _ (hsound.issued_granted issue hissue)
  issued_matches := hsound.issued_matches
  issued_taken := hsound.issued_taken

theorem takeCode (hsound : server.Sound drawn state) {key : String} {code : AuthCode}
    (hlive : state.codes key = some code) : server.Sound drawn (state.takeCode key) :=
  { hsound with
    codes := hsound.codes.take hlive
    live_granted := by
      intro other stored hother
      simp only [AuthState.takeCode_codes, AuthState.takeCode_granted] at hother ⊢
      by_cases heq : other = key
      · rw [heq, Function.update_self] at hother
        cases hother
      · rw [Function.update_of_ne heq] at hother
        exact hsound.live_granted other stored hother
    issued_taken := hsound.issued_taken.trans (List.sublist_append_left _ _) }

theorem issue (hsound : server.Sound drawn state) {form : TokenForm} {code : AuthCode} {now : Nat}
    (hlive : state.codes form.code = some code)
    (hmatches : form.Matches server.library code server.resourceUrl now) :
    server.Sound drawn ((state.takeCode form.code).issue form code now) :=
  { hsound.takeCode hlive with
    issued_granted := by
      intro issue hissue
      rcases List.mem_append.mp hissue with hbefore | hnow
      · exact hsound.issued_granted issue hbefore
      · rw [List.mem_singleton.mp hnow]
        exact hsound.live_granted form.code code hlive
    issued_matches := by
      intro issue hissue
      rcases List.mem_append.mp hissue with hbefore | hnow
      · exact hsound.issued_matches issue hbefore
      · rw [List.mem_singleton.mp hnow]
        exact hmatches
    issued_taken := by
      simp only [AuthState.issue_issued, AuthState.issue_takenCodes, AuthState.takeCode_issued,
        AuthState.takeCode_takenCodes, List.map_append, List.map_cons, List.map_nil]
      exact hsound.issued_taken.append (List.Sublist.refl _) }

theorem loginPage (hsound : server.Sound drawn state) {token : Except String String}
    (hfresh : ∀ key, token.toOption = some key → key ∉ drawn) (params : AuthorizeParams)
    (error : Option String) (now : Nat) :
    server.Sound (drawn ++ token.toOption.toList)
      (server.loginPage state params error token now) := by
  cases token with
  | error message => exact (hsound.drawMore _).respond _
  | ok key => exact (hsound.insertChallenge (hfresh key rfl) now _).respond _

theorem authorizeSubmit (hsound : server.Sound drawn state) (form : AuthorizeForm) (now : Nat) :
    server.Sound drawn (server.authorizeSubmit state form now) := by
  unfold AuthServer.authorizeSubmit
  split
  · exact hsound.respond _
  · split
    · exact hsound.enqueue _
    · rename_i hlive
      split
      · exact (hsound.takeChallenge hlive).enqueue _
      · exact (hsound.takeChallenge hlive).enqueue _

theorem finishSubmission (hsound : server.Sound drawn state) {token : Except String String}
    (hfresh : ∀ key, token.toOption = some key → key ∉ drawn) (submission : Submission)
    (seen now : Nat) :
    server.Sound (drawn ++ token.toOption.toList)
      (server.finishSubmission state submission token seen now) := by
  cases submission with
  | retry params error => exact hsound.loginPage hfresh params (some error) now
  | login form =>
      unfold AuthServer.finishSubmission
      simp only
      split
      · exact hsound.loginPage hfresh form.params _ now
      · rename_i hlogin
        -- The draw is the code; only a whitelisted key gets this far.
        have hallowed := (pubkeyForLogin_eq_ok.mp hlogin).2
        split
        · exact (hsound.drawMore _).respond _
        · exact (hsound.insertCode (hfresh _ rfl) hallowed).respond _

theorem token (hsound : server.Sound drawn state) (form : TokenForm) (now : Nat) :
    server.Sound drawn (server.token state form now) := by
  unfold AuthServer.token
  split
  · exact hsound.respond _
  · split
    · exact hsound.respond _
    · rename_i hlive
      split
      · exact (hsound.takeCode hlive).respond _
      · rename_i hvalid
        exact (hsound.issue hlive (matches_of_validateTokenRequest hvalid)).respond _

theorem step (hsound : server.Sound drawn state) (request : Request)
    (hfresh : ∀ key, request.drawn = some key → key ∉ drawn) :
    server.Sound (drawn ++ request.drawn.toList) (server.step state request) := by
  cases request with
  | page params token now =>
      simp only [AuthServer.step, authorizePage]
      split
      · exact (hsound.drawMore _).respond _
      · exact hsound.loginPage hfresh params none now
  | submit form now =>
      simp only [Request.drawn, Option.toList_none, List.append_nil]
      exact hsound.authorizeSubmit form now
  | finish index token seen now =>
      simp only [AuthServer.step]
      split
      · exact hsound.drawMore _
      · exact (hsound.dequeue index).finishSubmission hfresh _ seen now
  | abandon index =>
      simp only [Request.drawn, Option.toList_none, List.append_nil]
      exact hsound.dequeue index
  | token form now =>
      simp only [Request.drawn, Option.toList_none, List.append_nil]
      exact hsound.token form now

/-- A run that draws no token twice keeps the server sound. -/
theorem run (hsound : server.Sound drawn state) (requests : List Request)
    (hdrawn : (drawn ++ requests.filterMap Request.drawn).Nodup) :
    server.Sound (drawn ++ requests.filterMap Request.drawn)
      (Transition.run server.step state requests) := by
  induction requests generalizing drawn state with
  | nil => simpa using hsound
  | cons request rest ih =>
      have hsplit : (request :: rest).filterMap Request.drawn =
          request.drawn.toList ++ rest.filterMap Request.drawn := by
        cases hrequest : request.drawn <;> simp [hrequest]
      rw [hsplit, ← List.append_assoc] at hdrawn ⊢
      rw [run_cons]
      refine ih (hsound.step request ?_) hdrawn
      intro key hkey hmem
      have hdisjoint := (List.nodup_append.mp (List.nodup_append.mp hdrawn).1).2.2
      exact hdisjoint key hmem key (by simp [hkey]) rfl

end Sound

end AuthServer

end Mosaico
