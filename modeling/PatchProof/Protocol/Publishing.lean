import PatchProof.Protocol.Worker
import PatchProof.Publication.Publisher

/-!
# What a publish attempt may ask

The calls of a publish attempt as moves between the things it has found out: the
report that the stored evidence holds, a publication of that report, and the Check
that the publication is known by.  A run is moved to published only by an attempt
that has them all (`publish_advances`).
-/

set_option autoImplicit false

namespace PatchProof

variable {p : Platform}

/-! ## Routines that leave a role -/

section Idles

variable {ρ : Type} {protocol : Protocol (ServiceCall.Reply p) ρ} {role : ρ} {α β : Type}

/-- Every call is a move that leaves the role. -/
abbrev Idles (protocol : Protocol (ServiceCall.Reply p) ρ) (role : ρ) (program : Activity p α) :
    Prop :=
  Program.Follows protocol (fun moved _ => moved = role) (fun moved _ => moved = role) role program

theorem Idles.bind {program : Activity p α} {rest : α → Activity p β}
    (first : Idles protocol role program) (second : ∀ value, Idles protocol role (rest value)) :
    Idles protocol role (program >>= rest) :=
  Program.Follows.bind first fun _ value same => same ▸ second value

theorem idles_demand {condition : Prop} [Decidable condition] {exception : RaisedException} :
    Idles protocol role (Program.demand condition exception) :=
  .demand (fun _ => rfl) fun _ => rfl

theorem idles_perform {call : StoreCall p.Document}
    (moves : ∀ reply, protocol.Move role (.store call) reply role) :
    Idles protocol role (perform call) := by
  intro reply _
  refine ⟨role, moves reply, ?_⟩
  cases reply <;> rfl

theorem idles_acceptResponse {Body : Type} {unusable : String} {reply : HttpReply Body} :
    Idles protocol role (acceptResponse unusable reply) := by
  cases reply with
  | unavailable => rfl
  | response status body =>
      refine idles_demand.bind fun _ => ?_
      refine idles_demand.bind fun _ => ?_
      cases body <;> rfl

theorem idles_firstMatching {externalId : String} (listed : List ListedCheck) :
    Idles protocol role (firstMatching externalId listed) := by
  induction listed with
  | nil => rfl
  | cons entry rest ih =>
      unfold firstMatching
      split
      · cases entry.checkRunId <;> rfl
      · exact ih

section Asks

variable (asks : ∀ (kind : ExternalKind) (request : kind.Request p) reply,
  kind.asksGithub = true → protocol.Move role (.external kind request) reply role)

include asks

theorem idles_external {kind : ExternalKind} {request : kind.Request p}
    (github : kind.asksGithub = true) : Idles protocol role (external kind request) := by
  intro reply _
  refine ⟨role, asks kind request reply github, ?_⟩
  cases reply <;> rfl

/-- The Checks client only asks GitHub. -/
theorem idles_upsertCompleted {repository : RepositoryName} {installationId : Option PositiveInt}
    {payload : GitHubCheckPayload} {known : Option Int} :
    Idles protocol role (upsertCompleted repository installationId payload known) := by
  have accepting : ∀ (reply : HttpReply Int), Idles protocol role (do
      let remoteId ← acceptResponse "GitHub returned an unusable Check response" reply
      Program.demand (0 < remoteId) (.checkRetryable "GitHub returned an invalid Check ID")
      return remoteId) := fun reply =>
    idles_acceptResponse.bind fun remoteId => idles_demand.bind fun _ => rfl
  cases installationId with
  | none => rfl
  | some installationId =>
      have fetching : Idles protocol role (tokenFor installationId repository) := by
        refine (idles_external asks rfl).bind fun token => ?_
        cases token <;> rfl
      refine fetching.bind fun _ => ?_
      cases known with
      | some checkRunId => exact (idles_external asks rfl).bind accepting
      | none =>
          have finding : Idles protocol role (findExisting repository payload) := by
            refine (idles_external asks rfl).bind fun reply => ?_
            exact idles_acceptResponse.bind fun listed => idles_firstMatching listed
          refine finding.bind fun found => ?_
          cases found with
          | some checkRunId => exact (idles_external asks rfl).bind accepting
          | none => exact (idles_external asks rfl).bind accepting

end Asks

end Idles

/-! ## Moves -/

/-- What a publish attempt has found out. -/
inductive PublishStage (p : Platform) where
  | uninformed
  | informed (report : p.Report)
  | begun (report : p.Report)
  | identified (report : p.Report)

/-- The moves of a publish attempt for one run. -/
inductive PublishMove (runId : RunId) :
    PublishStage p → (call : ServiceCall p) → ServiceCall.Reply p call → PublishStage p → Prop
  | asks {stage kind request reply} : PublishMove runId stage (.external kind request) reply stage
  | reads {stage reply} : PublishMove runId stage (.store (.getRun runId)) reply stage
  | readsEvidence {stage reply} : PublishMove runId stage (.store (.getEvidence runId)) reply stage
  | learns {stored report} (decodes : p.decode stored.documentJson = .ok report) :
      PublishMove runId .uninformed (.store (.getEvidence runId)) (.ok (some stored))
        (.informed report)
  | readsPublication {stage reply} :
      PublishMove runId stage (.store (.getPublication runId)) reply stage
  | begins {report publication} :
      PublishMove runId (.informed report) (.store (.beginPublication runId
        (p.payloadSha256 (p.payload report)).text)) (.ok publication) (.begun report)
  | beginsNot {report exception} :
      PublishMove runId (.informed report) (.store (.beginPublication runId
        (p.payloadSha256 (p.payload report)).text)) (.error exception) (.informed report)
  | identifies {report checkRunId publication} :
      PublishMove runId (.begun report) (.store (.setCheckRunId runId checkRunId))
        (.ok publication) (.identified report)
  | identifiesNot {report checkRunId exception} :
      PublishMove runId (.begun report) (.store (.setCheckRunId runId checkRunId))
        (.error exception) (.begun report)
  | notes {stage error reply} :
      PublishMove runId stage (.store (.recordPublicationError runId error)) reply stage
  | moves {stage version state reply} (unpublished : state ≠ .published) :
      PublishMove runId stage (.store (.transitionRun runId version
        { publicationState := some state })) reply stage
  | publishes {report version reply} :
      PublishMove runId (.identified report) (.store (.transitionRun runId version
        { publicationState := some .published })) reply (.identified report)

/-- The protocol of a publish attempt for one run. -/
def publishProtocol (p : Platform) (runId : RunId) :
    Protocol (ServiceCall.Reply p) (PublishStage p) where
  Assumes := AnswersOwn
  Move := PublishMove runId

section Follows

variable {runId : RunId} {stage : PublishStage p} {report : p.Report} {α β : Type}

/-- From a stage on, an attempt follows the protocol and returns as stated. -/
abbrev Advances (runId : RunId) (onReturn : PublishStage p → α → Prop) (stage : PublishStage p)
    (program : Activity p α) : Prop :=
  Program.Follows (publishProtocol p runId) onReturn (fun _ _ => True) stage program

/-- The bind rule after a routine that leaves the stage. -/
theorem Idles.advances {after : PublishStage p → β → Prop} {program : Activity p α}
    {rest : α → Activity p β} (first : Idles (publishProtocol p runId) stage program)
    (second : ∀ value, Advances runId after stage (rest value)) :
    Advances runId after stage (program >>= rest) := by
  have advances : Advances runId (fun moved _ => moved = stage) stage program :=
    first.mono (fun _ _ same => same) fun _ _ _ => trivial
  exact advances.bind fun _ value same => same ▸ second value

/-- One call of the store that leaves the stage. -/
theorem stageKept_perform {call : StoreCall p.Document}
    (moves : ∀ reply, PublishMove runId stage (.store call) reply stage) :
    Idles (publishProtocol p runId) stage (perform call) :=
  idles_perform moves

theorem stageKept_movePublication {state : PublicationState} (unpublished : state ≠ .published) :
    Idles (publishProtocol p runId) stage (movePublication runId state) := by
  refine (stageKept_perform fun _ => .reads).bind fun latest => ?_
  exact (stageKept_perform fun _ => .moves unpublished).bind fun _ => rfl

theorem advances_withdraw {error : String} {state : PublicationState} {exception : RaisedException}
    (unpublished : state ≠ .published) :
    Advances runId (fun _ _ => False) stage (withdraw runId error state exception :
      Activity p α) := by
  refine (stageKept_perform fun _ => .notes).advances fun _ => ?_
  exact (stageKept_movePublication unpublished).advances fun _ => trivial

/-- An announcement that returns has identified the Check. -/
theorem advances_announceOrWithdraw {run : VerificationRun} {publication : CheckPublication} :
    Advances runId (fun moved _ => moved = .identified report) (.begun report)
      (announceOrWithdraw runId run (p.payload report) publication) := by
  have announcing : Advances runId (fun moved _ => moved = .identified report) (.begun report)
      (announce runId run (p.payload report) publication) := by
    refine (idles_upsertCompleted fun _ _ _ _ => PublishMove.asks).advances fun checkRunId => ?_
    intro reply _
    cases reply with
    | ok publication => exact ⟨.identified report, .identifies, rfl⟩
    | error exception => exact ⟨.begun report, .identifiesNot, trivial⟩
  refine announcing.catching fun moved exception _ => ?_
  have withdrawing : ∀ {error : String} {state : PublicationState} {exception : RaisedException},
      state ≠ .published → Advances runId (fun moved _ => moved = .identified report) moved
        (withdraw runId error state exception : Activity p CheckPublication) :=
    fun unpublished => (advances_withdraw unpublished).mono (fun _ _ never => never.elim)
      fun _ _ _ => trivial
  cases exception with
  | checkRetryable message => exact withdrawing (by simp)
  | checkTerminal message => exact withdrawing (by simp)
  | _ => trivial

theorem advances_deliver :
    Advances runId (fun _ _ => True) (.informed report)
      (deliver runId (p.payload report) : Activity p CheckPublication) := by
  have announcing : ∀ (run : VerificationRun) (publication : CheckPublication),
      Advances runId (fun _ _ => True) (.begun report) (do
        let publication ← announceOrWithdraw runId run (p.payload report) publication
        movePublication runId .published
        return publication : Activity p CheckPublication) := by
    intro run publication
    refine advances_announceOrWithdraw.bind fun moved publication identified => ?_
    subst identified
    have moving : Idles (publishProtocol p runId) (.identified report)
        (movePublication runId .published) := by
      refine (stageKept_perform fun _ => .reads).bind fun latest => ?_
      exact (stageKept_perform fun _ => .publishes).bind fun _ => rfl
    exact moving.advances fun _ => trivial
  intro reply _
  cases reply with
  | error exception => exact ⟨.informed report, .beginsNot, trivial⟩
  | ok publication =>
      refine ⟨.begun report, .begins, ?_⟩
      refine (stageKept_perform fun _ => .reads).advances fun run => ?_
      dsimp only
      split
      · exact (stageKept_perform fun _ => .moves (by simp)).advances fun run => announcing run publication
      · exact announcing run publication

/-- **A publish attempt follows the protocol.** -/
theorem publish_advances :
    Advances runId (fun _ _ => True) .uninformed (publish runId : Activity p CheckPublication) := by
  refine (stageKept_perform fun _ => .reads).advances fun run => ?_
  refine idles_demand.advances fun _ => ?_
  refine idles_demand.advances fun _ => ?_
  intro reply _
  cases reply with
  | error exception => exact ⟨.uninformed, .readsEvidence, trivial⟩
  | ok evidence =>
      cases evidence with
      | none => exact ⟨.uninformed, .readsEvidence, trivial⟩
      | some stored =>
          cases decodes : p.decode stored.documentJson with
          | error exception =>
              refine ⟨.uninformed, .readsEvidence, ?_⟩
              change Advances runId (fun _ _ => True) .uninformed
                (attempt (p.decode stored.documentJson) >>= _)
              rw [decodes]
              trivial
          | ok report =>
              refine ⟨.informed report, .learns decodes, ?_⟩
              change Advances runId (fun _ _ => True) (.informed report)
                (attempt (p.decode stored.documentJson) >>= _)
              rw [decodes]
              change Advances runId (fun _ _ => True) (.informed report)
                (if run.publicationState = .published then _ else _)
              split
              · refine (stageKept_perform fun _ => .readsPublication).advances fun publication => ?_
                cases publication with
                | none => trivial
                | some publication => exact idles_demand.advances fun _ => trivial
              · exact idles_demand.advances fun _ => advances_deliver

end Follows

end PatchProof
