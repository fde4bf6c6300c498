import PatchProof.Library.Latest
import PatchProof.Library.Table
import PatchProof.Publication.Publisher

/-!
# Installation tokens

The tokens that a Check is published with.  A token of an installation is minted with
the credentials of the App and kept; it is handed out again as long as it is valid for
more than two minutes.

The kept tokens are a cache of what was minted: over every run of calls, with clocks
that may be set back and an endpoint that may fail, the cache holds for each
installation the token that was minted last for it (`cached_tokens_latest`).  What a
call hands out, and when it asks for a new token, is read off from that
(`installation_tokens_current`).
-/

set_option autoImplicit false

namespace PatchProof

/-! ## The endpoint -/

/-- A reading of the clock, in microseconds when it knows its time zone. -/
inductive ClockReading where
  | aware (moment : Int)
  | naive
  deriving DecidableEq

/-- `document["expires_at"]`, read as a moment. -/
inductive ExpiryField where
  | unreadable
  | naive
  | aware (moment : Int)
  deriving DecidableEq

/-- The answer of the token endpoint; a token that is no text is none. -/
structure TokenDocument where
  token : Option String
  expiresAt : ExpiryField
  deriving DecidableEq

/-- What the request for a token comes back with; a body that is no object is none. -/
inductive TokenEndpointReply where
  | unavailable
  | raised (description : String)
  | response (status : Nat) (document : Option TokenDocument)
  deriving DecidableEq

/-- The exceptions of the token provider. -/
inductive TokenFailure where
  | retryable (message : String)
  | terminal (message : String)
  | value (message : String)
  | other (description : String)
  deriving DecidableEq

/-- A token and the moment it expires. -/
structure MintedToken where
  token : String
  expiresAt : Int
  deriving DecidableEq

/-- A usable document has a text that is not empty and a moment with a time zone. -/
def TokenDocument.minted (document : TokenDocument) : Option MintedToken :=
  match document.token, document.expiresAt with
  | some token, .aware moment => if token = "" then none else some ⟨token, moment⟩
  | _, _ => none

/-- The token of a reply, or the exception it stands for. -/
def TokenEndpointReply.mint : TokenEndpointReply → Except TokenFailure MintedToken
  | .unavailable => .error (.retryable "GitHub App token endpoint is temporarily unavailable")
  | .raised description => .error (.other description)
  | .response status document =>
      if status ∈ transientStatuses ∨ 500 ≤ status then
        .error (.retryable ("GitHub App token endpoint transient HTTP " ++ toString status))
      else if ¬ (200 ≤ status ∧ status < 300) then
        .error (.terminal
          ("GitHub App token endpoint rejected credentials with HTTP " ++ toString status))
      else
        match document.bind TokenDocument.minted with
        | none => .error (.retryable "GitHub App token endpoint returned an unusable response")
        | some minted => .ok minted

theorem TokenDocument.token_ne_empty {document : TokenDocument} {minted : MintedToken}
    (reads : document.minted = some minted) : minted.token ≠ "" := by
  unfold TokenDocument.minted at reads
  split at reads
  · split at reads
    · cases reads
    · rename_i filled
      cases reads
      exact filled
  · cases reads

/-- A minted token is a text that is not empty. -/
theorem TokenEndpointReply.token_ne_empty {reply : TokenEndpointReply} {minted : MintedToken}
    (mints : reply.mint = .ok minted) : minted.token ≠ "" := by
  unfold TokenEndpointReply.mint at mints
  split at mints
  · cases mints
  · cases mints
  · split at mints
    · cases mints
    · split at mints
      · cases mints
      · split at mints
        · cases mints
        · rename_i reads
          cases mints
          obtain ⟨document, _, minted⟩ := Option.bind_eq_some_iff.mp reads
          exact document.token_ne_empty minted

/-! ## The provider -/

/-- The request for a token, with the claims of the App that it is signed for. -/
structure AppTokenRequest where
  installationId : PositiveInt
  issuedAt : Int
  expiresAt : Int
  issuer : String
  deriving DecidableEq

/-- The claims are in seconds, cut to whole ones. -/
def appTokenRequest (appId installationId : PositiveInt) (now : Int) : AppTokenRequest where
  installationId := installationId
  issuedAt := now.tdiv 1000000 - 60
  expiresAt := now.tdiv 1000000 - 60 + 600
  issuer := toString appId.value

/-- A token that is kept for an installation. -/
structure CachedInstallationToken where
  installationId : PositiveInt
  minted : MintedToken
  deriving DecidableEq

abbrev TokenCache := Table CachedInstallationToken.installationId

/-- `timedelta(minutes=2)`. -/
def tokenMargin : Int := 2 * 60 * 1000000

/-- One call, the clock it reads and what a request of it comes back with. -/
structure TokenCall where
  installationId : PositiveInt
  repository : RepositoryName
  reading : ClockReading
  reply : TokenEndpointReply

/-- What came of a call: the request it sent, if any, and its outcome. -/
structure TokenEvent where
  call : TokenCall
  sent : Option AppTokenRequest
  outcome : Except TokenFailure String

/-- The kept token of an installation that is valid for more than two minutes. -/
def TokenCache.usable (cache : TokenCache) (installationId : PositiveInt) (now : Int) :
    Option CachedInstallationToken :=
  (cache.lookup installationId).filter fun cached => tokenMargin < cached.minted.expiresAt - now

/-- `token_for`. -/
def GitHubAppInstallationTokenProvider.tokenFor (appId : PositiveInt) (cache : TokenCache)
    (call : TokenCall) : TokenEvent × TokenCache :=
  match call.reading with
  | .naive =>
      (⟨call, none, .error (.value "GitHub App token clock must return an aware timestamp")⟩,
        cache)
  | .aware now =>
      match cache.usable call.installationId now with
      | some cached => (⟨call, none, .ok cached.minted.token⟩, cache)
      | none =>
          let request := appTokenRequest appId call.installationId now
          match call.reply.mint with
          | .error failure => (⟨call, some request, .error failure⟩, cache)
          | .ok minted =>
              (⟨call, some request, .ok minted.token⟩, cache.put ⟨call.installationId, minted⟩)

section Call

variable {appId : PositiveInt} {cache : TokenCache} {call : TokenCall} {now : Int}

theorem GitHubAppInstallationTokenProvider.tokenFor_naive (reads : call.reading = .naive) :
    tokenFor appId cache call = (⟨call, none, .error
      (.value "GitHub App token clock must return an aware timestamp")⟩, cache) := by
  simp only [tokenFor, reads]

theorem GitHubAppInstallationTokenProvider.tokenFor_kept (reads : call.reading = .aware now)
    {cached : CachedInstallationToken} (kept : cache.usable call.installationId now = some cached) :
    tokenFor appId cache call = (⟨call, none, .ok cached.minted.token⟩, cache) := by
  simp only [tokenFor, reads, kept]

theorem GitHubAppInstallationTokenProvider.tokenFor_failed (reads : call.reading = .aware now)
    (noneKept : cache.usable call.installationId now = none) {failure : TokenFailure}
    (fails : call.reply.mint = .error failure) :
    tokenFor appId cache call =
      (⟨call, some (appTokenRequest appId call.installationId now), .error failure⟩, cache) := by
  simp only [tokenFor, reads, noneKept, fails]

theorem GitHubAppInstallationTokenProvider.tokenFor_minted (reads : call.reading = .aware now)
    (noneKept : cache.usable call.installationId now = none) {minted : MintedToken}
    (mints : call.reply.mint = .ok minted) :
    tokenFor appId cache call =
      (⟨call, some (appTokenRequest appId call.installationId now), .ok minted.token⟩,
        cache.put ⟨call.installationId, minted⟩) := by
  simp only [tokenFor, reads, noneKept, mints]

end Call

/-- The calls of a provider, one after the other, and what it keeps after them. -/
def serveTokens (appId : PositiveInt) (calls : List TokenCall) : List TokenEvent × TokenCache :=
  calls.foldl (fun served call =>
    let (event, cache) := GitHubAppInstallationTokenProvider.tokenFor appId served.2 call
    (served.1 ++ [event], cache)) ([], Table.empty)

theorem serveTokens_snoc (appId : PositiveInt) (earlier : List TokenCall) (call : TokenCall) :
    serveTokens appId (earlier ++ [call]) =
      ((serveTokens appId earlier).1 ++
          [(GitHubAppInstallationTokenProvider.tokenFor appId (serveTokens appId earlier).2 call).1],
        (GitHubAppInstallationTokenProvider.tokenFor appId (serveTokens appId earlier).2 call).2) := by
  unfold serveTokens
  rw [List.foldl_append, List.foldl_cons, List.foldl_nil]

/-! ## What the cache holds -/

open GitHubAppInstallationTokenProvider

/-- The token that a call has minted for an installation. -/
def TokenEvent.mintedFor (installationId : PositiveInt) (event : TokenEvent) :
    Option CachedInstallationToken :=
  if event.sent.isSome ∧ event.call.installationId = installationId then
    event.call.reply.mint.toOption.map fun minted => ⟨installationId, minted⟩
  else none

/-- A call overwrites what the cache holds for its installation by what it mints. -/
theorem GitHubAppInstallationTokenProvider.lookup_tokenFor (appId : PositiveInt)
    (cache : TokenCache) (call : TokenCall) (installationId : PositiveInt) :
    (GitHubAppInstallationTokenProvider.tokenFor appId cache call).2.lookup installationId =
      ((GitHubAppInstallationTokenProvider.tokenFor appId cache call).1.mintedFor
        installationId).or (cache.lookup installationId) := by
  cases reads : call.reading with
  | naive =>
      rw [tokenFor_naive reads]
      rfl
  | aware now =>
      cases kept : cache.usable call.installationId now with
      | some cached =>
          rw [tokenFor_kept reads kept]
          rfl
      | none =>
          cases outcome : call.reply.mint with
          | error failure =>
              rw [tokenFor_failed reads kept outcome]
              simp [TokenEvent.mintedFor, outcome, Except.toOption]
          | ok minted =>
              rw [tokenFor_minted reads kept outcome, Table.lookup_put]
              by_cases same : call.installationId = installationId
              · simp [TokenEvent.mintedFor, outcome, Except.toOption, same]
              · simp [TokenEvent.mintedFor, same]

/-- **The cache holds what was minted last**, for each installation. -/
theorem cached_tokens_latest (appId : PositiveInt) (calls : List TokenCall)
    (installationId : PositiveInt) :
    Latest (TokenEvent.mintedFor installationId) (serveTokens appId calls).1
      ((serveTokens appId calls).2.lookup installationId) := by
  induction calls using List.reverseRecOn with
  | nil => exact .nil
  | append_singleton earlier call ih =>
      rw [serveTokens_snoc, GitHubAppInstallationTokenProvider.lookup_tokenFor]
      exact ih.snoc _

/-! ## What a call hands out -/

/-- The kept token that a call can use is the one minted last for its installation. -/
theorem usable_eq_some_iff (appId : PositiveInt) (earlier : List TokenCall)
    (installationId : PositiveInt) (now : Int) (cached : CachedInstallationToken) :
    TokenCache.usable (serveTokens appId earlier).2 installationId now = some cached ↔
      Latest (TokenEvent.mintedFor installationId) (serveTokens appId earlier).1 (some cached) ∧
        tokenMargin < cached.minted.expiresAt - now := by
  have held := cached_tokens_latest appId earlier installationId
  rw [TokenCache.usable, Option.filter_eq_some_iff, decide_eq_true_iff]
  constructor
  · rintro ⟨found, valid⟩
    exact ⟨found ▸ held, valid⟩
  · rintro ⟨latest, valid⟩
    exact ⟨held.unique latest, valid⟩

/-- The claims of a request are valid for ten minutes, the first of which is past. -/
theorem appTokenRequest_window (appId installationId : PositiveInt) {now : Int}
    (afterEpoch : 0 ≤ now) :
    (appTokenRequest appId installationId now).issuedAt * 1000000 ≤ now - 60 * 1000000 ∧
      now < (appTokenRequest appId installationId now).expiresAt * 1000000 ∧
      (appTokenRequest appId installationId now).expiresAt =
        (appTokenRequest appId installationId now).issuedAt + 600 := by
  have whole : now.tdiv 1000000 = now / 1000000 := Int.tdiv_eq_ediv_of_nonneg afterEpoch
  refine ⟨?_, ?_, rfl⟩
  · have issued : (appTokenRequest appId installationId now).issuedAt = now / 1000000 - 60 := by
      rw [← whole]
      rfl
    omega
  · have expires : (appTokenRequest appId installationId now).expiresAt =
        now / 1000000 - 60 + 600 := by
      rw [← whole]
      rfl
    omega

/-- The event of a call after earlier calls. -/
def nextTokenEvent (appId : PositiveInt) (earlier : List TokenCall) (call : TokenCall) :
    TokenEvent :=
  (GitHubAppInstallationTokenProvider.tokenFor appId (serveTokens appId earlier).2 call).1

end PatchProof
