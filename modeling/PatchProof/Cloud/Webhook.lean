import PatchProof.Library.Guard
import PatchProof.Storage.Acceptance

/-!
# The webhook

The control plane's route for a GitHub delivery, from the chunks of its body to the
answer: the bounded read, the signature over exactly the bytes that were read, the
delivery identifier, the event name, the payload, the allow-list, the acceptance in
the store and the hand-off to the task queue.

Header values are texts decoded as Latin-1.  The keyed hash and the decoding of a
payload into typed fields are parameters; every check that the payload models and
the route make on the decoded fields is written out here.
-/

set_option autoImplicit false

namespace PatchProof

open Guard

/-! ## Header values -/

/-- `str.lower` on one character of a header value. -/
def lowerHeaderChar (c : Char) : Char :=
  if 0xc0 ≤ c.toNat ∧ c.toNat ≤ 0xde ∧ c.toNat ≠ 0xd7 then Char.ofNat (c.toNat + 0x20)
  else c.toLower

def lowerHeader (text : String) : String := String.ofList (text.toList.map lowerHeaderChar)

def isDecimalDigit (c : Char) : Bool := '0' ≤ c && c ≤ '9'

/-- Digits in groups that single underscores separate, at most 4300 of them. -/
def isIntegerLiteral (digits : List Char) : Bool :=
  ((digits.splitOn '_').all fun group => !group.isEmpty && group.all isDecimalDigit) &&
    decide ((digits.filter isDecimalDigit).length ≤ 4300)

def naturalOf (digits : List Char) : Nat :=
  (digits.filter isDecimalDigit).foldl (fun number digit => 10 * number + (digit.toNat - 48)) 0

/-- `int(text)` on a header value. -/
def integerOf (text : String) : Option Int :=
  match (strip text).toList with
  | '-' :: digits => if isIntegerLiteral digits then some (-(naturalOf digits : Int)) else none
  | '+' :: digits => if isIntegerLiteral digits then some (naturalOf digits) else none
  | digits => if isIntegerLiteral digits then some (naturalOf digits) else none

/-! ## The bounded body -/

/-- An answer that refuses the request. -/
structure HttpException where
  statusCode : Nat
  detail : String
  deriving DecidableEq

def payloadTooLarge : HttpException := ⟨413, "webhook payload is too large"⟩

/-- The check of a declared length. -/
def checkDeclaredLength (maximumBytes : Nat) (header : String) : Except HttpException Unit :=
  match integerOf header with
  | none => .error ⟨400, "invalid Content-Length header"⟩
  | some declared => do
      require (0 ≤ declared) ⟨400, "invalid Content-Length header"⟩
      require (declared ≤ maximumBytes) payloadTooLarge

/-- One chunk of the stream. -/
def extendBody (maximumBytes : Nat) (body chunk : List UInt8) : Except HttpException (List UInt8) :=
  if maximumBytes < body.length + chunk.length then .error payloadTooLarge
  else .ok (body ++ chunk)

/-- `_read_bounded_body`. -/
def readBoundedBody (maximumBytes : Nat) (contentLength : Option String)
    (chunks : List (List UInt8)) : Except HttpException (List UInt8) := do
  match contentLength with
  | none => pure ()
  | some header => checkDeclaredLength maximumBytes header
  chunks.foldlM (extendBody maximumBytes) []

/-- How the stream is cut into chunks makes no difference. -/
theorem foldlM_extendBody {maximumBytes : Nat} (chunks : List (List UInt8)) {body : List UInt8}
    (within : body.length ≤ maximumBytes) :
    chunks.foldlM (extendBody maximumBytes) body =
      extendBody maximumBytes body chunks.flatten := by
  induction chunks generalizing body with
  | nil => simp [extendBody, Nat.not_lt.mpr within]
  | cons chunk rest ih =>
      rw [List.foldlM_cons, List.flatten_cons]
      by_cases exceeds : maximumBytes < body.length + chunk.length
      · have whole : maximumBytes < body.length + (chunk ++ rest.flatten).length := by
          rw [List.length_append]
          omega
        simp only [extendBody, if_pos exceeds, if_pos whole, error_bind]
      · have fits : (body ++ chunk).length ≤ maximumBytes := by
          rw [List.length_append]
          omega
        simp only [extendBody, if_neg exceeds, ok_bind] at ih ⊢
        rw [ih fits]
        simp only [List.length_append, List.append_assoc, Nat.add_assoc]

/-- A body that was read is the concatenation of the stream's chunks, within the limit. -/
theorem readBoundedBody_eq_ok {maximumBytes : Nat} {contentLength : Option String}
    {chunks : List (List UInt8)} {body : List UInt8}
    (returned : readBoundedBody maximumBytes contentLength chunks = .ok body) :
    body = chunks.flatten ∧ body.length ≤ maximumBytes := by
  have streamed : chunks.foldlM (extendBody maximumBytes) [] = .ok body := by
    cases contentLength with
    | none => exact returned
    | some header => exact (bind_eq_ok_iff.mp returned).choose_spec.2
  rw [foldlM_extendBody chunks (Nat.zero_le _), extendBody] at streamed
  split at streamed
  · cases streamed
  · rename_i within
    cases streamed
    simp only [List.length_nil, Nat.zero_add, Nat.not_lt] at within
    exact ⟨List.nil_append _, by simpa using within⟩

/-! ## The boundary checks -/

/-- The 64 digits of a signature header. -/
def signatureDigest (header : String) : Option String :=
  let text := (lowerHeader (strip header)).toList
  let digest := String.ofList (text.drop "sha256=".length)
  if "sha256=".toList.isPrefixOf text && isSha256 digest then some digest else none

/-- `verify_github_signature`, over the keyed hash. -/
def verifyGithubSignature (hmacSha256 : List UInt8 → List UInt8 → Sha256)
    (secret body : List UInt8) (signatureHeader : Option String) : Bool :=
  match signatureHeader with
  | none => false
  | some header =>
      !secret.isEmpty &&
        match signatureDigest header with
        | none => false
        | some digest => (hmacSha256 secret body).text == digest

/-- The pattern of a delivery identifier, without its length. -/
def isDeliveryChar (c : Char) : Bool :=
  ('A' ≤ c && c ≤ 'Z') || ('a' ≤ c && c ≤ 'z') || isDecimalDigit c || c == '.' || c == '_' ||
    c == ':' || c == '-'

/-- `validate_delivery_id`. -/
def validateDeliveryId (value : Option String) : Except String (BoundedText 1 128) :=
  let normalized := strip (value.getD "")
  if bounded : (1 ≤ normalized.length ∧ normalized.length ≤ 128) ∧
      normalized.toList.all isDeliveryChar = true then
    .ok ⟨normalized, bounded.1⟩
  else .error "X-GitHub-Delivery is missing or malformed"

/-- `normalize_repository_name`. -/
def normalizeRepositoryName (value : String) : Option RepositoryName :=
  let normalized := lower (strip value)
  if wellFormed : isRepositoryName normalized = true then some ⟨normalized, wellFormed⟩ else none

theorem text_of_normalizeRepositoryName {value : String} {name : RepositoryName}
    (normalized : normalizeRepositoryName value = some name) : name.text = lower (strip value) := by
  simp only [normalizeRepositoryName, Option.dite_none_right_eq_some, Option.some.injEq] at normalized
  obtain ⟨_, rfl⟩ := normalized
  rfl

/-- `PullRequestEvent.validate_full_sha`. -/
def validateFullSha (value : String) : Option GitSha :=
  let normalized := lower value
  if wellFormed : isGitSha normalized = true then some ⟨normalized, wellFormed⟩ else none

/-! ## The payload -/

/-- A decoded timestamp, with or without a timezone. -/
inductive DecodedTime where
  | aware (instant : Int)
  | naive
  deriving DecidableEq

/-- The fields the payload models take from a payload, before any bound is checked. -/
structure DecodedWebhook where
  action : String
  number : Int
  fullName : String
  isPrivate : Bool
  baseSha : String
  headSha : String
  updatedAt : DecodedTime
  title : Option String
  body : Option String
  installationId : Option Int
  deriving DecidableEq

/-- Minimal validated projection of a pull-request webhook. -/
structure GitHubPullRequestWebhook where
  action : BoundedText 1 64
  number : PositiveInt
  fullName : BoundedText 3 256
  isPrivate : Bool
  baseSha : String
  headSha : String
  updatedAt : Int
  title : String
  body : Option String
  installationId : Option PositiveInt
  deriving DecidableEq

def boundedText? (least most : Nat) (text : String) : Option (BoundedText least most) :=
  if bounded : least ≤ text.length ∧ text.length ≤ most then some ⟨text, bounded⟩ else none

def positiveInt? (number : Int) : Option PositiveInt :=
  if positive : 0 < number then some ⟨number, positive⟩ else none

/-- `GitHubPullRequestPayload.normalize_updated_at`. -/
def normalizeUpdatedAt : DecodedTime → Option Int
  | .aware instant => some instant
  | .naive => none

/-- `GitHubInstallationPayload`, where there is one. -/
def validateInstallation : Option Int → Option (Option PositiveInt)
  | none => some none
  | some number => (positiveInt? number).map some

/-- `GitHubPullRequestWebhook.model_validate_json`, from the decoded fields on. -/
def GitHubPullRequestWebhook.modelValidate (decoded : DecodedWebhook) :
    Option GitHubPullRequestWebhook := do
  let action ← boundedText? 1 64 decoded.action
  let number ← positiveInt? decoded.number
  let fullName ← boundedText? 3 256 decoded.fullName
  let updatedAt ← normalizeUpdatedAt decoded.updatedAt
  let installationId ← validateInstallation decoded.installationId
  return { action, number, fullName, updatedAt, installationId
           isPrivate := decoded.isPrivate
           baseSha := decoded.baseSha
           headSha := decoded.headSha
           title := decoded.title.getD "Untitled pull request"
           body := decoded.body }

/-- `" ".join(text.split())`. -/
def joinWords (text : String) : String :=
  " ".intercalate (((text.toList.splitOnP isSpace).filter (! ·.isEmpty)).map String.ofList)

/-- The title an event carries. -/
def webhookTitle (title : String) : String :=
  truncate 300 (orElseText (joinWords title) "Untitled pull request")

theorem webhookTitle_bounds (title : String) :
    1 ≤ (webhookTitle title).length ∧ (webhookTitle title).length ≤ 300 := by
  refine ⟨?_, length_truncate_le 300 _⟩
  have nonempty : orElseText (joinWords title) "Untitled pull request" ≠ "" := by
    unfold orElseText
    split
    · decide
    · assumption
  have positive : (orElseText (joinWords title) "Untitled pull request").length ≠ 0 :=
    fun zero => nonempty (String.length_eq_zero_iff.mp zero)
  rw [← String.length_toList] at positive
  simp only [webhookTitle, truncate, String.length_ofList, List.length_take]
  omega

/-- `GitHubPullRequestWebhook.to_event`; without a value where the event's own
validators refuse the repository or a revision. -/
def GitHubPullRequestWebhook.toEvent (webhook : GitHubPullRequestWebhook)
    (deliveryId : BoundedText 1 128) : Option PullRequestEvent := do
  let repository ← normalizeRepositoryName webhook.fullName.text
  let baseSha ← validateFullSha webhook.baseSha
  let headSha ← validateFullSha webhook.headSha
  return { deliveryId, repository, baseSha, headSha
           action := webhook.action
           prNumber := webhook.number
           headUpdatedAt := webhook.updatedAt
           title := ⟨webhookTitle webhook.title, webhookTitle_bounds webhook.title⟩
           body := ⟨truncate 8000 (webhook.body.getD ""), Nat.zero_le _, length_truncate_le 8000 _⟩
           installationId := webhook.installationId }

/-! ## What the route decides before the store -/

/-- What the route takes from outside the repository: the keyed hash, and the typed
fields of a payload. -/
structure WebhookPlatform where
  hmacSha256 : List UInt8 → List UInt8 → Sha256
  decode : List UInt8 → Option DecodedWebhook

/-- The settings the route reads. -/
structure ControlPlaneSettings where
  webhookSecret : List UInt8
  allowedRepositories : List RepositoryName
  maxPayloadBytes : Nat
  wellFormed : webhookSecret ≠ [] ∧ allowedRepositories ≠ [] ∧ 0 < maxPayloadBytes

/-- One request: the headers the route looks up, and its body as it streams in. -/
structure WebhookRequest where
  contentLength : Option String
  signature : Option String
  delivery : Option String
  eventName : Option String
  chunks : List (List UInt8)
  deriving DecidableEq

def supportedPullRequestActions : List String :=
  ["opened", "reopened", "synchronize", "ready_for_review"]

/-- A request that is refused no more: it is ignored, or its event is to be accepted. -/
inductive Admission where
  | ignored (detail : String)
  | event (event : PullRequestEvent)
  deriving DecidableEq

section Admission

variable (platform : WebhookPlatform) (settings : ControlPlaneSettings)

/-- The checks on a payload that has been decoded. -/
def admitPayload (deliveryId : BoundedText 1 128) (payload : GitHubPullRequestWebhook) :
    Except HttpException Admission :=
  if payload.action.text ∉ supportedPullRequestActions then
    .ok (.ignored ("unsupported pull-request action: " ++ payload.action.text))
  else do
    require (payload.isPrivate = false) ⟨403, "private repositories are not supported"⟩
    require (lower (strip payload.fullName.text) ∈ settings.allowedRepositories.map (·.text))
      ⟨403, "repository is not allowlisted"⟩
    match payload.toEvent deliveryId with
    | none => .error ⟨400, "invalid pull-request identity"⟩
    | some event => .ok (.event event)

/-- The delivery identifier, or the refusal that carries the validator's text. -/
def admitDelivery (delivery : Option String) : Except HttpException (BoundedText 1 128) :=
  (validateDeliveryId delivery).mapError (⟨400, ·⟩)

/-- The route up to the store. -/
def admitRequest (request : WebhookRequest) : Except HttpException Admission := do
  let body ← readBoundedBody settings.maxPayloadBytes request.contentLength request.chunks
  require (verifyGithubSignature platform.hmacSha256 settings.webhookSecret body
    request.signature = true) ⟨401, "invalid GitHub webhook signature"⟩
  let deliveryId ← admitDelivery request.delivery
  let eventName := lowerHeader (strip (request.eventName.getD ""))
  require (eventName ≠ "") ⟨400, "X-GitHub-Event is missing"⟩
  if eventName ≠ "pull_request" then
    return .ignored ("unsupported GitHub event: " ++ eventName)
  match (platform.decode body).bind GitHubPullRequestWebhook.modelValidate with
  | none => .error ⟨400, "malformed pull-request payload"⟩
  | some payload => admitPayload settings deliveryId payload

/-- The event of a request, with everything that has been established for it: the
signature is the one of the bytes received, and these name a public repository of
the allow-list and a supported action. -/
structure Authentic (request : WebhookRequest) (event : PullRequestEvent) : Prop where
  withinLimit : request.chunks.flatten.length ≤ settings.maxPayloadBytes
  signed : verifyGithubSignature platform.hmacSha256 settings.webhookSecret
    request.chunks.flatten request.signature = true
  named : validateDeliveryId request.delivery = .ok event.deliveryId
  supported : event.action.text ∈ supportedPullRequestActions
  allowed : event.repository ∈ settings.allowedRepositories
  described : ∃ decoded payload, platform.decode request.chunks.flatten = some decoded ∧
    GitHubPullRequestWebhook.modelValidate decoded = some payload ∧
    payload.isPrivate = false ∧ payload.toEvent event.deliveryId = some event

end Admission

theorem mem_allowedRepositories {allowed : List RepositoryName} {name : RepositoryName}
    (listed : name.text ∈ allowed.map (·.text)) : name ∈ allowed := by
  obtain ⟨other, present, same⟩ := List.mem_map.mp listed
  exact RepositoryName.ext_text same ▸ present

/-- The fields that an event takes over from its payload. -/
theorem GitHubPullRequestWebhook.toEvent_eq_some {webhook : GitHubPullRequestWebhook}
    {deliveryId : BoundedText 1 128} {event : PullRequestEvent}
    (made : webhook.toEvent deliveryId = some event) :
    event.deliveryId = deliveryId ∧ event.action = webhook.action ∧
      event.repository.text = lower (strip webhook.fullName.text) := by
  simp only [toEvent, Option.bind_eq_bind, Option.bind_eq_some_iff, Option.pure_def,
    Option.some.injEq] at made
  obtain ⟨repository, normalized, _, _, _, _, rfl⟩ := made
  exact ⟨rfl, rfl, text_of_normalizeRepositoryName normalized⟩

variable {platform : WebhookPlatform} {settings : ControlPlaneSettings}
  {request : WebhookRequest} {event : PullRequestEvent}

/-- **An event reaches the store only out of an authentic request.** -/
theorem authentic_of_admitRequest
    (admitted : admitRequest platform settings request = .ok (.event event)) :
    Authentic platform settings request event := by
  simp only [admitRequest, bind_eq_ok_iff, require_eq_ok_iff] at admitted
  obtain ⟨body, read, _, signed, deliveryId, named, _, _, decided⟩ := admitted
  obtain ⟨rfl, within⟩ := readBoundedBody_eq_ok read
  split at decided
  · cases decided
  · split at decided
    · cases decided
    · rename_i payload decoded
      obtain ⟨fields, decodes, validates⟩ := Option.bind_eq_some_iff.mp decoded
      unfold admitPayload at decided
      split at decided
      · cases decided
      · rename_i supported
        simp only [bind_eq_ok_iff, require_eq_ok_iff] at decided
        obtain ⟨_, isPublic, _, listed, decided⟩ := decided
        split at decided
        · cases decided
        · rename_i made
          cases decided
          obtain ⟨sameDelivery, sameAction, sameName⟩ :=
            GitHubPullRequestWebhook.toEvent_eq_some made
          have validated : validateDeliveryId request.delivery = .ok deliveryId := by
            unfold admitDelivery at named
            cases outcome : validateDeliveryId request.delivery with
            | error _ => rw [outcome] at named; cases named
            | ok _ => rw [outcome] at named; cases named; rfl
          exact {
            withinLimit := within
            signed := signed
            named := sameDelivery ▸ validated
            supported := sameAction ▸ not_not.mp supported
            allowed := mem_allowedRepositories (sameName ▸ listed)
            described := ⟨fields, payload, decodes, validates, isPublic, sameDelivery ▸ made⟩ }

end PatchProof
