import Mosaico.Auth.Grants

/-!
# The way from the login page to a code

The page of an accepted request is submitted back before its challenge expires,
while other requests go on.  An absent resource or scope is rendered as an empty
field and comes back as the empty text, which neither validation takes for an
absent one; all other requests get through.
-/

namespace Mosaico

open Transition

namespace Request

/-- The times at which the request reads the clock. -/
def readings : Request → List Nat
  | .page _ _ now => [now]
  | .submit _ now => [now]
  | .finish _ _ seen now => [seen, now]
  | .abandon _ => []
  | .token _ now => [now]

/-- The request neither names the challenge nor draws its token once more. -/
structure Spares (challenge : String) (request : Request) : Prop where
  undrawn : request.drawn ≠ some challenge
  unnamed : ∀ form now, request = .submit form now → form.loginChallenge ≠ challenge

end Request

namespace AuthServer

variable {server : AuthServer} {state : AuthState} {key : String} {challenge : LoginChallenge}

/-- A page keeps the challenges of other pages until they expire. -/
theorem challenges_loginPage (hlive : state.challenges key = some challenge)
    {drawn : Except String String} (hdrawn : drawn.toOption ≠ some key) {now : Nat}
    (hnow : now < challenge.expiresAt) (params : AuthorizeParams) (error : Option String) :
    (server.loginPage state params error drawn now).challenges key = some challenge := by
  cases drawn with
  | error message => exact hlive
  | ok other =>
      have hne : key ≠ other := by
        rintro rfl
        exact hdrawn rfl
      simp [loginPage, Function.update_of_ne hne, hlive, hnow]

theorem challenges_authorizeSubmit (hlive : state.challenges key = some challenge)
    {form : AuthorizeForm} (hform : form.loginChallenge ≠ key) (now : Nat) :
    (server.authorizeSubmit state form now).challenges key = some challenge := by
  have htaken : (state.takeChallenge form.loginChallenge).challenges key = some challenge := by
    rw [AuthState.takeChallenge_challenges, Function.update_of_ne hform.symm, hlive]
  unfold authorizeSubmit
  split
  · exact hlive
  · split
    · exact hlive
    · split
      · exact htaken
      · exact htaken

theorem challenges_finishSubmission (hlive : state.challenges key = some challenge)
    {drawn : Except String String} (hdrawn : drawn.toOption ≠ some key) {now : Nat}
    (hnow : now < challenge.expiresAt) (submission : Submission) (seen : Nat) :
    (server.finishSubmission state submission drawn seen now).challenges key =
      some challenge := by
  cases submission with
  | retry params error => exact challenges_loginPage hlive hdrawn hnow params (some error)
  | login form =>
      simp only [finishSubmission]
      split
      · exact challenges_loginPage hlive hdrawn hnow form.params _
      · split
        · exact hlive
        · exact hlive

theorem challenges_token (form : TokenForm) (now : Nat) :
    (server.token state form now).challenges = state.challenges := by
  unfold token
  split
  · rfl
  · split
    · rfl
    · split
      · rfl
      · rfl

/-- A request that spares a challenge leaves it to its page until it expires. -/
theorem challenges_step (hlive : state.challenges key = some challenge) {request : Request}
    (hspares : request.Spares key)
    (htimely : ∀ reading ∈ request.readings, reading < challenge.expiresAt) :
    (server.step state request).challenges key = some challenge := by
  cases request with
  | page params drawn now =>
      simp only [step, authorizePage]
      split
      · exact hlive
      · exact challenges_loginPage hlive hspares.undrawn (htimely now (by simp [Request.readings]))
          params none
  | submit form now => exact challenges_authorizeSubmit hlive (hspares.unnamed form now rfl) now
  | finish index drawn seen now =>
      have hdequeued :
          ({ state with pending := state.pending.eraseIdx index } : AuthState).challenges key =
            some challenge := hlive
      simp only [step]
      split
      · exact hlive
      · exact challenges_finishSubmission hdequeued hspares.undrawn
          (htimely now (by simp [Request.readings])) _ seen
  | abandon index => exact hlive
  | token form now =>
      show (server.token state form now).challenges key = some challenge
      rw [challenges_token]
      exact hlive

theorem challenges_run (hlive : state.challenges key = some challenge) (requests : List Request)
    (hspares : ∀ request ∈ requests, request.Spares key)
    (htimely : ∀ request ∈ requests, ∀ reading ∈ request.readings,
      reading < challenge.expiresAt) :
    (run server.step state requests).challenges key = some challenge := by
  induction requests generalizing state with
  | nil => exact hlive
  | cons request rest ih =>
      rw [run_cons]
      have hnext : (server.step state request).challenges key = some challenge :=
        challenges_step hlive (hspares request List.mem_cons_self)
          (htimely request List.mem_cons_self)
      exact ih hnext (fun later hlater => hspares later (List.mem_cons_of_mem request hlater))
        (fun later hlater => htimely later (List.mem_cons_of_mem request hlater))

/-! ## Submissions of a page -/

/-- The form passes both validations and goes on to the login, where a whitelisted key obtains a
code for what `params` asked. -/
structure RoundTrips (server : AuthServer) (shown : AuthState) (params : AuthorizeParams)
    (form : AuthorizeForm) (now : Nat) : Prop where
  validated : form.params.validate server.library server.resourceUrl = .ok ()
  challenged : ∃ challenge, shown.challenges form.loginChallenge = some challenge ∧
    challenge.validate form.params server.resourceUrl now = .ok ()
  entered : (server.step shown (.submit form now)).pending = shown.pending ++ [.login form]
  granted : ∀ (state : AuthState) (index : Nat) (pubkey code : String) (seen later : Nat),
    state.pending[index]? = some (.login form) →
      server.Proves form form.loginChallenge pubkey seen → server.Allowed pubkey →
        let finished := server.step state (.finish index (.ok code) seen later)
        finished.codes code = some
            { clientId := params.clientId
              redirectUri := params.redirectUri
              codeChallenge := params.codeChallenge
              resource := params.resourceUrl server.resourceUrl
              scope := params.scope.getD defaultScope
              pubkey := pubkey
              expiresAt := later + grantSecs } ∧
          finished.responses =
            state.responses ++ [.redirect params.redirectUri code form.state]

theorem codes_finish {form : AuthorizeForm} {index : Nat}
    (hpending : state.pending[index]? = some (.login form)) {pubkey : String} {seen : Nat}
    (hproves : server.Proves form form.loginChallenge pubkey seen)
    (hallowed : server.Allowed pubkey) (code : String) (later : Nat) :
    let finished := server.step state (.finish index (.ok code) seen later)
    finished.codes code = some (server.record form.params pubkey later) ∧
      finished.responses = state.responses ++ [.redirect form.redirectUri code form.state] := by
  have hlogin := pubkeyForLogin_eq_ok.mpr ⟨hproves, hallowed⟩
  simp [step, hpending, finishSubmission, hlogin]

theorem pending_submit {shown : AuthState} {form : AuthorizeForm} {now : Nat}
    (hvalidated : form.params.validate server.library server.resourceUrl = .ok ())
    (hlive : shown.challenges form.loginChallenge = some challenge)
    (hchallenged : challenge.validate form.params server.resourceUrl now = .ok ()) :
    (server.step shown (.submit form now)).pending = shown.pending ++ [.login form] := by
  simp [step, authorizeSubmit, hvalidated, hlive, hchallenged]

/-- The page shows the fields of the request and leaves its challenge behind. -/
theorem page_shown {params : AuthorizeParams}
    (hvalid : params.validate server.library server.resourceUrl = .ok ()) (before : AuthState)
    (key : String) (opened : Nat) :
    let shown := server.step before (.page params (.ok key) opened)
    shown.responses = before.responses ++ [.loginPage (params.loginFields key) none] ∧
      shown.challenges key =
        some (.fromParams params server.resourceUrl (opened + grantSecs)) := by
  simp [step, authorizePage, hvalid, loginPage]

/-- What comes back from the page of `params`. -/
def returned (params : AuthorizeParams) (key : String) (keys : List (String × String)) :
    AuthorizeForm where
  nsec := keys.lookup "nsec"
  nip07Pubkey := keys.lookup "nip07_pubkey"
  nip07Event := keys.lookup "nip07_event"
  loginChallenge := key
  responseType := params.responseType
  clientId := params.clientId
  redirectUri := params.redirectUri
  state := some (params.state.getD "")
  codeChallenge := params.codeChallenge
  codeChallengeMethod := params.codeChallengeMethod
  resource := some (params.resource.getD "")
  scope := some (params.scope.getD "")

theorem roundTrips_returned_iff {params : AuthorizeParams}
    (hvalid : params.validate server.library server.resourceUrl = .ok ()) {shown : AuthState}
    {expiresAt : Nat} (hlive : shown.challenges key =
      some (.fromParams params server.resourceUrl expiresAt)) (keys : List (String × String))
    {now : Nat} (hnow : now < expiresAt) :
    server.RoundTrips shown params (returned params key keys) now ↔
      params.resource.isSome = true ∧ params.scope.isSome = true := by
  have hparams : (returned params key keys).params = params.rendered := rfl
  constructor
  · intro htrips
    have hvalidated := htrips.validated
    -- The rendered request defaults nothing any more: an absent resource has become the empty text.
    rw [hparams, AuthorizeParams.validate_rendered_iff server.resourceUrl_ne_empty hvalid]
      at hvalidated
    obtain ⟨challenge, hfound, hchallenged⟩ := htrips.challenged
    have hsame : LoginChallenge.fromParams params server.resourceUrl expiresAt = challenge :=
      Option.some_inj.mp (hlive.symm.trans hfound)
    rw [← hsame, hparams, AuthorizeParams.challenge_validate_rendered hvalidated] at hchallenged
    exact ⟨hvalidated, hchallenged.2⟩
  · rintro ⟨hresource, hscope⟩
    have hvalidated :=
      (AuthorizeParams.validate_rendered_iff server.resourceUrl_ne_empty hvalid).mpr hresource
    have hchallenged : LoginChallenge.validate _ params.rendered server.resourceUrl now = .ok () :=
      (AuthorizeParams.challenge_validate_rendered hresource).mpr ⟨hnow, hscope⟩
    refine ⟨hvalidated, ⟨_, hlive, hchallenged⟩, pending_submit hvalidated hlive hchallenged, ?_⟩
    intro state index pubkey code seen later hpending hproves hallowed
    obtain ⟨hcode, hresponses⟩ := codes_finish hpending hproves hallowed code later
    refine ⟨?_, hresponses⟩
    rw [hcode, hparams]
    obtain ⟨resource, hresource⟩ := Option.isSome_iff_exists.mp hresource
    obtain ⟨scope, hscope⟩ := Option.isSome_iff_exists.mp hscope
    simp [record, AuthorizeParams.rendered, AuthorizeParams.resourceUrl, hresource, hscope]

/-- The page of an accepted request, submitted back before its challenge expires, leads a
whitelisted key to a code for that request if and only if the request named its resource and its
scope.  In every run, moreover, each challenge and each code is taken at most once, and each token
goes to a request that matches a code which a whitelisted key obtained and which has not expired. -/
theorem login_returns_iff_named (server : AuthServer) :
    (∀ (before : AuthState) (params : AuthorizeParams) (key : String) (opened now : Nat)
        (between : List Request) (keys : List (String × String)),
      params.validate server.library server.resourceUrl = .ok () →
      (∀ request ∈ between, request.Spares key) →
      (∀ request ∈ between, ∀ reading ∈ request.readings, reading < opened + grantSecs) →
      now < opened + grantSecs →
      let page := Request.page params (.ok key) opened
      (server.step before page).responses =
          before.responses ++ [.loginPage (params.loginFields key) none] ∧
        ∃ form, AuthorizeForm.decode (params.loginFields key ++ keys) = some form ∧
          (server.RoundTrips (run server.step before (page :: between)) params form now ↔
            params.resource.isSome = true ∧ params.scope.isSome = true)) ∧
    ∀ requests : List Request, (requests.filterMap Request.drawn).Nodup →
      let state := run server.step .initial requests
      state.takenChallenges.Nodup ∧ state.takenCodes.Nodup ∧
        (state.issued.map (·.1.code)).Nodup ∧
        ∀ issue ∈ state.issued,
          (issue.1.code, issue.2.1) ∈ state.granted ∧ server.Allowed issue.2.1.pubkey ∧
            issue.1.Matches server.library issue.2.1 server.resourceUrl issue.2.2 := by
  constructor
  · intro before params key opened now between keys hvalid hspares htimely hnow
    obtain ⟨hresponses, hstored⟩ := page_shown hvalid before key opened
    refine ⟨hresponses, returned params key keys,
      AuthorizeForm.decode_loginFields params key keys, ?_⟩
    have hlive : (run server.step before (_ :: between)).challenges key = _ :=
      challenges_run hstored between hspares htimely
    exact roundTrips_returned_iff hvalid hlive keys hnow
  · intro requests hdrawn
    have hsound := (sound_initial server).run requests hdrawn
    refine ⟨hsound.challenges.nodup, hsound.codes.nodup,
      hsound.codes.nodup.sublist hsound.issued_taken, ?_⟩
    intro issue hissue
    have hgranted := hsound.issued_granted issue hissue
    exact ⟨hgranted, hsound.granted_allowed _ hgranted, hsound.issued_matches issue hissue⟩

end AuthServer

/-- A server at `https://mosaico.example/mcp`. -/
def exampleServer : AuthServer where
  library :=
    { urlParses := fun text => text = "https://client.example/callback"
      s256 := fun _ => "challenge"
      parseKeys := fun _ => none
      parsePublicKey := fun _ => none
      eventFromJson := fun _ => none
      verifies := fun _ => false }
  publicUrl := "https://mosaico.example"
  resourcePath := "/mcp"
  whitelisted := []
  rooted := by decide

/-- A request of a client, which may name its resource and its scope. -/
def clientParams (resource scope : Option String) : AuthorizeParams where
  responseType := "code"
  clientId := "https://client.example/client.json"
  redirectUri := "https://client.example/callback"
  state := none
  codeChallenge := "challenge"
  codeChallengeMethod := "S256"
  resource := resource
  scope := scope

/-- A request that leaves out its scope, or its resource, gets a page whose submission fails: the
one as a mismatch with the challenge, the other as a request for another resource. -/
theorem AuthServer.submissions_fail :
    (∀ params ∈ [clientParams (some "https://mosaico.example/mcp") none,
        clientParams none (some "mosaico:read")],
      params.validate exampleServer.library exampleServer.resourceUrl = .ok () ∧
      ∃ form, AuthorizeForm.decode (params.loginFields "challenge-1") = some form ∧
        ¬ exampleServer.RoundTrips
          (exampleServer.step .initial (.page params (.ok "challenge-1") 0)) params form 1) ∧
    ((run exampleServer.step .initial
        [.page (clientParams (some "https://mosaico.example/mcp") none) (.ok "challenge-1") 0,
          .submit (returned (clientParams (some "https://mosaico.example/mcp") none)
            "challenge-1" []) 1]).pending =
      [.retry (clientParams (some "https://mosaico.example/mcp") none).rendered
        "scope mismatch"]) ∧
    (run exampleServer.step .initial
        [.page (clientParams none (some "mosaico:read")) (.ok "challenge-1") 0,
          .submit (returned (clientParams none (some "mosaico:read")) "challenge-1" []) 1]
      ).responses.getLast? = some (.oauthError "resource does not match this MCP server") := by
  refine ⟨?_, by decide, by decide⟩
  intro params hparams
  have hvalid : params.validate exampleServer.library exampleServer.resourceUrl = .ok () := by
    rw [AuthorizeParams.validate_iff]
    rcases List.mem_pair.mp hparams with rfl | rfl
    · decide
    · decide
  obtain ⟨_, hlive⟩ := page_shown hvalid .initial "challenge-1" 0
  refine ⟨hvalid, returned params "challenge-1" [], ?_, ?_⟩
  · rw [← List.append_nil (params.loginFields "challenge-1")]
    exact AuthorizeForm.decode_loginFields params "challenge-1" []
  · rw [roundTrips_returned_iff hvalid hlive [] (by decide)]
    rcases List.mem_pair.mp hparams with rfl | rfl
    · decide
    · decide

/-- A page that is submitted back while another one is open. -/
def namedParams : AuthorizeParams :=
  clientParams (some "https://mosaico.example/mcp") (some "mosaico:read")

def namedPages : List Request :=
  [.page namedParams (.ok "challenge-1") 0, .page namedParams (.ok "challenge-2") 1]

theorem AuthServer.login_returns_named :
    (∃ form, AuthorizeForm.decode (namedParams.loginFields "challenge-1" ++ [("pubkey", "")]) =
        some form ∧
      exampleServer.RoundTrips (run exampleServer.step .initial namedPages) namedParams form 2) ∧
    (run exampleServer.step .initial namedPages).takenChallenges.Nodup := by
  obtain ⟨hreturns, honce⟩ := login_returns_iff_named exampleServer
  have hvalid : namedParams.validate exampleServer.library exampleServer.resourceUrl = .ok () := by
    rw [AuthorizeParams.validate_iff]
    decide
  have hspares : ∀ request ∈ [Request.page namedParams (.ok "challenge-2") 1],
      request.Spares "challenge-1" := by
    intro request hrequest
    rw [List.mem_singleton.mp hrequest]
    refine ⟨by decide, ?_⟩
    intro form now hsubmit
    cases hsubmit
  obtain ⟨_, form, hdecode, htrips⟩ := hreturns .initial namedParams "challenge-1" 0 2
    [.page namedParams (.ok "challenge-2") 1] [("pubkey", "")] hvalid hspares (by decide)
    (by decide)
  exact ⟨⟨form, hdecode, htrips.mpr ⟨rfl, rfl⟩⟩, (honce namedPages (by decide)).1⟩

end Mosaico
