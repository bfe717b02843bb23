import Mesh.Control.AgentEffects
import Mesh.Control.RouteEffects
import Mesh.Lib.Runs

/-!
# Mesh.Control.System

The control service as a transition system. A world is the stored state together with what is around
it: the clock, the requests that are between their transactions, the random values drawn so far, the
certificates signed so far and the answers given to enrolling nodes. The last three are history, which
no operation reads.

A request that signs runs in moves of its own, so any other action can come between them. A clock
reading is taken before its transaction and may be stale by then, but it is never ahead of the clock.
The random generator never repeats a value, and a fingerprint stands for one certificate: these are the
only promises made about other parties (`Admissible`).

`World.step_effect` says what any action does to the stored records, and `World.step_flights` where the
requests under way come from.
-/

namespace Mesh

/-- A transaction of the store: what the callback returned is stored if the validator accepts it. -/
def commit (s : State) : Result State := do
  validateStateGraph s
  pure s

theorem commit_eq_ok {s s' : State} : commit s = .ok s' ↔ ValidGraph s ∧ s = s' := by
  simp only [commit, bind_unit_eq_ok, validateStateGraph_eq_ok, pure_eq_ok]

/-! ## Operations of one transaction -/

/-- What most operations share: who asks, the identifier of the event, and the clock reading. -/
structure Stamp where
  actor : Option Actor := none
  eventID : String
  now : Int

inductive Op where
  | createNetwork (input : CreateNetworkInput) (material : NetworkMaterial) (id : String)
  | retireNetwork (networkID : String) (input : RetireNetworkInput)
  | createNode (networkID : String) (input : CreateNodeInput) (nodeID enrollmentID : String)
      (bearers : List String) (later : Int)
  | updateNodeTopology (nodeID : String) (input : UpdateNodeTopologyInput)
  | reissueEnrollment (nodeID : String) (bearers ids : List String)
  | cancelPendingNode (nodeID confirmationName : String)
  | archiveNode (nodeID : String) (input : ArchiveNodeInput)
  | revokeNode (nodeID rolloutEventID : String)
  | revokeNodeWithReceipt (nodeID : String) (input : RevokeNodeInput) (rolloutEventID : String)
  | replaceNode (nodeID : String) (expectedConfigRevision : Int) (rolloutEventID : String)
      (draws : ReplacementDraws)
  | updateNetworkDNS (networkID : String) (input : UpdateNetworkDNSInput)
  | updateNetworkRelays (networkID : String) (input : UpdateNetworkRelaysInput)
  | updateFirewallPolicy (networkID : String) (input : UpdateFirewallPolicyInput)
  | updateNetworkFirewallRollout (networkID : String) (input : UpdateNetworkFirewallRolloutInput)
  | updateNetworkRoutePolicy (networkID : String) (input : UpdateNetworkRoutePolicyInput)
  | updateNetworkCARotation (networkID : String) (input : UpdateNetworkCARotationInput)
  | startRouteTransfer (networkID : String) (input : StartRouteTransferInput)
  | updateRouteTransfer (networkID : String) (input : UpdateRouteTransferInput) (cancel : Bool)
  | startRouteProfileEdit (nodeID : String) (input : StartRouteProfileEditInput)
  | updateRouteProfileEdit (nodeID : String) (input : UpdateRouteProfileEditInput) (cancel : Bool)
  | heartbeat (token : String) (report : HeartbeatInput)
  | reportConfigApplyFailure (token : String) (input : ConfigApplyFailureInput)
  | rotateAgentCredential (token newTokenHash : String)
  | issueAgentRecovery (nodeID : String) (bearers ids : List String)

namespace Op

/-- The callback of the operation. A CA is prepared in two moves; here nothing was generated, so that
action is refused. -/
def run (c : Stamp) : Op → State → Result State
  | createNetwork input material id => Mesh.createNetwork c.actor input material id c.eventID c.now
  | retireNetwork networkID input => Mesh.retireNetwork c.actor networkID input c.eventID c.now
  | createNode networkID input nodeID enrollmentID bearers later =>
    Mesh.createNode c.actor networkID input nodeID enrollmentID bearers c.eventID c.now later
  | updateNodeTopology nodeID input => Mesh.updateNodeTopology c.actor nodeID input c.eventID c.now
  | reissueEnrollment nodeID bearers ids =>
    Mesh.reissueEnrollment c.actor nodeID bearers ids c.eventID c.now
  | cancelPendingNode nodeID name => Mesh.cancelPendingNode c.actor nodeID name c.eventID c.now
  | archiveNode nodeID input => Mesh.archiveNode c.actor nodeID input c.eventID c.now
  | revokeNode nodeID rolloutEventID => Mesh.revokeNode c.actor nodeID c.eventID rolloutEventID c.now
  | revokeNodeWithReceipt nodeID input rolloutEventID =>
    Mesh.revokeNodeWithReceipt c.actor nodeID input c.eventID rolloutEventID c.now
  | replaceNode nodeID expected rolloutEventID draws =>
    Mesh.replaceNode c.actor nodeID expected c.eventID rolloutEventID draws c.now
  | updateNetworkDNS networkID input => Mesh.updateNetworkDNS c.actor networkID input c.eventID c.now
  | updateNetworkRelays networkID input =>
    Mesh.updateNetworkRelays c.actor networkID input c.eventID c.now
  | updateFirewallPolicy networkID input =>
    Mesh.updateFirewallPolicy c.actor networkID input c.eventID c.now
  | updateNetworkFirewallRollout networkID input =>
    Mesh.updateNetworkFirewallRollout c.actor networkID input c.eventID c.now
  | updateNetworkRoutePolicy networkID input =>
    Mesh.updateNetworkRoutePolicy c.actor networkID input c.eventID c.now
  | updateNetworkCARotation networkID input =>
    Mesh.updateNetworkCARotation c.actor networkID input ("", "") c.eventID c.now
  | startRouteTransfer networkID input =>
    Mesh.startRouteTransfer c.actor networkID input c.eventID c.now
  | updateRouteTransfer networkID input cancel =>
    Mesh.updateRouteTransfer c.actor networkID input cancel c.eventID c.now
  | startRouteProfileEdit nodeID input =>
    Mesh.startRouteProfileEdit c.actor nodeID input c.eventID c.now
  | updateRouteProfileEdit nodeID input cancel =>
    Mesh.updateRouteProfileEdit c.actor nodeID input cancel c.eventID c.now
  | heartbeat token report => Mesh.heartbeat token report c.eventID c.now
  | reportConfigApplyFailure token input => Mesh.reportConfigApplyFailure token input c.eventID c.now
  | rotateAgentCredential token newTokenHash =>
    Mesh.rotateAgentCredential token newTokenHash c.eventID c.now
  | issueAgentRecovery nodeID bearers ids =>
    Mesh.issueAgentRecovery c.actor nodeID bearers ids c.eventID c.now

/-- The identifiers drawn for new records and the hashes of the bearers drawn for new tokens. -/
def draws : Op → List String
  | createNetwork _ _ id => [id]
  | createNode _ _ nodeID enrollmentID bearers _ => nodeID :: enrollmentID :: bearers.map hashToken
  | reissueEnrollment _ bearers ids | issueAgentRecovery _ bearers ids => ids ++ bearers.map hashToken
  | replaceNode _ _ _ d => d.nodeID :: (d.enrollmentIDs ++ d.bearers.map hashToken)
  | _ => []

def report : Op → Option (String × HeartbeatInput)
  | heartbeat token report => some (hashToken (trimSpace token), report.trimmed)
  | _ => none

/-- The route transfer the operation asks for: the network and the prefixes. -/
def starts : Op → List (String × List String)
  | startRouteTransfer networkID input =>
    match normalizeRoutedSubnets input.routedSubnets with
    | .ok routes => [(networkID, routes)]
    | .error _ => []
  | _ => []

def inputs (o : Op) : Inputs where
  drawn := o.draws
  report := o.report
  credential := match o with
    | rotateAgentCredential _ _ => true
    | _ => false
  recovery := match o with
    | issueAgentRecovery _ _ _ => true
    | _ => false
  starts := o.starts

/-- The network whose rollout the operation is asked to promote. -/
def promotes : Op → Option String
  | updateNetworkFirewallRollout networkID input => if input.action = .promote then some networkID else none
  | _ => none

/-- The clock readings of the operation besides the one in the stamp. -/
def readings : Op → List Int
  | createNode _ _ _ _ _ later => [later]
  | _ => []

end Op

/-! ## Worlds -/

/-- The answer to an enrolling node, and whether it comes from the commit or from a repeated request. -/
structure EnrollAnswer where
  request : EnrollRequest
  bundle : EnrollmentBundle
  committed : Bool

structure World where
  state : State
  clock : Int
  flights : List Flight := []
  drawn : List String := []
  issued : List Issued := []
  answers : List EnrollAnswer := []

inductive Action where
  | tick (now : Int)
  | op (c : Stamp) (o : Op)
  | enrollClaim (token publicKey agentTokenHash claimID : String) (now : Int)
  | renewClaim (token publicKey claimID : String) (now : Int)
  | recoverClaim (token publicKey newAgentTokenHash claimID : String) (now : Int)
  | rotateStart (actor : Option Actor) (nodeID : String) (input : RotateNodeCertificateInput) (now : Int)
  | groupsStart (actor : Option Actor) (nodeID : String) (input : UpdateNodeGroupsInput) (now : Int)
  | prepareCA (actor : Option Actor) (networkID : String) (expectedConfigRevision : Int)
  /-- The issuer answered the request at the index, which goes on to commit. -/
  | issue (i : Nat) (c : SignedCertificate) (eventID : String) (now : Int)
  | recover (i : Nat) (eventID : String) (now : Int)
  | generate (i : Nat) (certificate sealedKey eventID : String) (now : Int)
  /-- The request at the index failed and gives its claim back. -/
  | release (i : Nat)
  /-- The request at the index is lost with the process that served it. -/
  | abandon (i : Nat)

namespace Action

def draws : Action → List String
  | op _ o => o.draws
  | enrollClaim _ _ _ claimID _ | renewClaim _ _ claimID _ | recoverClaim _ _ _ claimID _ => [claimID]
  | _ => []

def promotes : Action → Option String
  | op _ o => o.promotes
  | _ => none

def inputs : Action → Inputs
  | op _ o => o.inputs
  | recover _ _ _ => { credential := true, recovery := true }
  | recoverClaim _ _ _ claimID _ => { drawn := [claimID], recovery := true }
  | release _ => { recovery := true }
  | a => { drawn := a.draws }

@[simp] theorem inputs_drawn (a : Action) : a.inputs.drawn = a.draws := by cases a <;> rfl

def readings : Action → List Int
  | op c o => c.now :: o.readings
  | enrollClaim _ _ _ _ now | renewClaim _ _ _ now | recoverClaim _ _ _ _ now | rotateStart _ _ _ now
  | groupsStart _ _ _ now | issue _ _ _ now | recover _ _ now | generate _ _ _ _ now => [now]
  | _ => []

end Action

namespace Flight

/-- The node and the network as they were read for signing. -/
def subject? : Flight → Option Snapshot
  | enroll f => some ⟨f.node, f.network⟩
  | renew f => some ⟨f.node, f.network⟩
  | rotate _ f => some f.snapshot
  | groups _ f => some f.snapshot
  | _ => none

/-- What the issuer is asked for. -/
def signing? : Flight → Option SigningRequest
  | enroll f => some f.signing
  | renew f => some f.signing
  | rotate _ f => some f.signing
  | groups _ f => some f.signing
  | _ => none

end Flight

namespace World

def noSuchFlight : Failure := internal "no request is under way there"

/-- The record of a certificate that was just stored with its node. -/
def signed (s : State) (kind : IssueKind) (nodeID : String) (request : SigningRequest)
    (c : SignedCertificate) : Issued :=
  let n := (findNode s nodeID).getD {}
  ⟨kind, n.id, n.networkID, request, c, n.certificateGeneration⟩

/-- The request at the index has stored its certificate. -/
def landed (w : World) (i : Nat) (s : State) (entry : Issued) : World :=
  { w with state := s, flights := w.flights.eraseIdx i, issued := entry :: w.issued }

/-- The last transaction of a request whose certificate was signed. -/
def land (env : Env) (w : World) (i : Nat) (c : SignedCertificate) (eventID : String) (now : Int) :
    Flight → Result World
  | .enroll f => do
    let (s, bundle) ← enrollCommit env f c eventID now w.state
    let s ← commit s
    pure { w.landed i s (signed s .enrolled f.node.id f.signing c) with
      answers := ⟨f.request, bundle, true⟩ :: w.answers }
  | .renew f => do
    let (s, _) ← renewCommit env f c eventID now w.state
    let s ← commit s
    pure (w.landed i s (signed s .renewed f.node.id f.signing c))
  | .rotate actor f => do
    match ← rotateCommit actor f c eventID w.state with
    | none => pure { w with flights := w.flights.eraseIdx i }
    | some s =>
      let s ← commit s
      pure (w.landed i s (signed s .rotated f.snapshot.node.id f.signing c))
  | .groups actor f => do
    match ← groupsCommit actor f c eventID w.state with
    | none => pure { w with flights := w.flights.eraseIdx i }
    | some s =>
      let s ← commit s
      pure (w.landed i s (signed s .regrouped f.snapshot.node.id f.signing c))
  | _ => .error noSuchFlight

/-- The state without the claim of a failed request. -/
def released (s : State) : Flight → State
  | .enroll f => releaseEnrollmentClaim f.enrollmentID f.claimID s
  | .renew f => releaseRenewalClaim f.node.id f.claimID s
  | .recover _ recoveryID claimID => releaseAgentRecoveryClaim recoveryID claimID s
  | _ => s

/-- What an action does to everything but the record of drawn values. -/
def move (env : Env) (w : World) : Action → Result World
  | .tick now => pure { w with clock := now }
  | .op c o => do
    let s ← o.run c w.state
    let s ← commit s
    pure { w with state := s }
  | .enrollClaim token publicKey agentTokenHash claimID now => do
    let request ← enrollRequest env token publicKey agentTokenHash
    let (s, outcome) ← enrollClaim env request claimID now w.state
    let s ← commit s
    match outcome with
    | .replay bundle => pure { w with state := s, answers := ⟨request, bundle, false⟩ :: w.answers }
    | .claimed f => pure { w with state := s, flights := w.flights ++ [.enroll f] }
  | .renewClaim token publicKey claimID now => do
    let (s, outcome) ← renewClaim env token publicKey claimID now w.state
    let s ← commit s
    match outcome with
    | .replay _ => pure { w with state := s }
    | .claimed f => pure { w with state := s, flights := w.flights ++ [.renew f] }
  | .recoverClaim token publicKey newAgentTokenHash claimID now => do
    let request ← recoverRequest env token publicKey newAgentTokenHash
    let (s, outcome) ← recoverClaim request claimID now w.state
    let s ← commit s
    match outcome with
    | .replay _ => pure { w with state := s }
    | .claimed r => pure { w with state := s, flights := w.flights ++ [.recover request r.id claimID] }
  | .rotateStart actor nodeID input now => do
    match ← rotateStart env nodeID input now w.state with
    | none => pure w
    | some f => pure { w with flights := w.flights ++ [.rotate actor f] }
  | .groupsStart actor nodeID input now => do
    match ← groupsStart env nodeID input now w.state with
    | none => pure w
    | some f => pure { w with flights := w.flights ++ [.groups actor f] }
  | .prepareCA actor networkID expected => do
    let _ ← caPreparationAllowed networkID expected w.state
    pure { w with flights := w.flights ++ [.prepareCA actor networkID expected] }
  | .issue i c eventID now => do
    let f ← require w.flights[i]? noSuchFlight
    w.land env i c eventID now f
  | .recover i eventID now => do
    match w.flights[i]? with
    | some (.recover request recoveryID claimID) =>
      let (s, _) ← recoverCommit env request recoveryID claimID eventID now w.state
      let s ← commit s
      pure { w with state := s, flights := w.flights.eraseIdx i }
    | _ => .error noSuchFlight
  | .generate i certificate sealedKey eventID now => do
    match w.flights[i]? with
    | some (.prepareCA actor networkID expected) =>
      let s ← updateNetworkCARotation actor networkID ⟨.prepare, expected⟩ (certificate, sealedKey) eventID
        now w.state
      let s ← commit s
      pure { w with state := s, flights := w.flights.eraseIdx i }
    | _ => .error noSuchFlight
  | .release i => do
    let f ← require w.flights[i]? noSuchFlight
    let s ← commit (released w.state f)
    pure { w with state := s, flights := w.flights.eraseIdx i }
  | .abandon i => pure { w with flights := w.flights.eraseIdx i }

def step (env : Env) (w : World) (a : Action) : Result World := do
  let w' ← w.move env a
  pure { w' with drawn := a.draws ++ w.drawn }

/-! ## Steps -/

/-- A fingerprint stands for one certificate: what was signed under it before was signed for the same
node with the same groups and expires at the same instant. -/
def FingerprintNamesOne (w : World) (f : Flight) (c : SignedCertificate) : Prop :=
  ∀ x ∈ w.issued, x.certificate.fingerprint = c.fingerprint →
    x.certificate = c ∧ f.signing?.map SigningRequest.groups = some x.request.groups ∧
      f.subject?.map (fun o => o.node.id) = some x.nodeID ∧
      f.subject?.map (fun o => o.node.networkID) = some x.networkID

/-- What the surroundings promise: clock readings that are not ahead of the clock, random values that
were not drawn before, and fingerprints that stand for one certificate. -/
structure Admissible (w : World) (a : Action) : Prop where
  readings : ∀ t ∈ a.readings, 0 < t ∧ t ≤ w.clock
  fresh : ∀ d ∈ a.draws, d ≠ "" ∧ d ∉ w.drawn
  forward : ∀ now, a = .tick now → w.clock ≤ now
  issuer : ∀ i c eventID now f, a = .issue i c eventID now → w.flights[i]? = some f →
    w.FingerprintNamesOne f c

def Step (env : Env) (w : World) (a : Action) (w' : World) : Prop :=
  Admissible w a ∧ w.step env a = .ok w'

/-- A service that has just been set up. -/
structure Initial (w : World) : Prop where
  current : Current w.state
  valid : ValidGraph w.state
  networks : w.state.networks = []
  nodes : w.state.nodes = []
  enrollments : w.state.enrollments = []
  agentRecoveries : w.state.agentRecoveries = []
  issuances : w.state.issuances = []
  revocations : w.state.revocations = []
  flights : w.flights = []
  issued : w.issued = []
  answers : w.answers = []

/-- The worlds of all runs. -/
abbrev Reachable (env : Env) : World → Prop := Runs.Reachable Initial (Step env)

end World
end Mesh
