import Mesh.Control.FirewallUpdates
import Mesh.Control.Graph
import Mesh.Control.Revocation
import Mesh.Control.RouteUpdates

/-!
# Mesh.Control.Effects

What one transaction can do, said once for all operations. An effect gives the five lists of records
after a transaction (networks, nodes, enrollments, issuances, revocations) and the guards its operation
checked; recoveries and audit events are left open. Invariants of runs are proved by cases on the
effect, and a changed operation only changes the lemma that names its effect.
-/

namespace Mesh

/-! ## Parts of records -/

/-- A node without its telemetry, its agent credential and its placement. -/
def Node.core (n : Node) : Node where
  id := n.id
  networkID := n.networkID
  name := n.name
  ip := n.ip
  routedSubnets := n.routedSubnets
  groups := n.groups
  role := n.role
  publicEndpoint := n.publicEndpoint
  status := n.status
  certificate := n.certificate
  certificateFingerprint := n.certificateFingerprint
  certificateAuthoritySHA256 := n.certificateAuthoritySHA256
  certificateExpiresAt := n.certificateExpiresAt
  certificateRenewAfter := n.certificateRenewAfter
  certificateGeneration := n.certificateGeneration
  publicKeyHash := n.publicKeyHash
  renewalClaimID := n.renewalClaimID
  createdAt := n.createdAt
  enrolledAt := n.enrolledAt
  revokedAt := n.revokedAt

/-- What the core determines is the same for nodes with the same core. -/
theorem Node.eq_of_core {β : Type} (f : Node → β) (hf : ∀ n, f n.core = f n) {n n' : Node}
    (h : n'.core = n.core) : f n' = f n := by rw [← hf, h, hf]

/-- What the agent last proved to run: the revision, the generation and the fingerprint. -/
def Node.report (n : Node) : Int × Int × String :=
  (n.appliedConfigRevision, n.appliedCertificateGeneration, n.reportedCertificateFingerprint)

/-- The same three of a report that is stored. -/
def HeartbeatInput.reportOn (input : HeartbeatInput) (n : Node) : Int × Int × String :=
  (input.appliedConfigRevision,
    if 0 < input.certificateGeneration then input.certificateGeneration
    else if input.certificateFingerprint = n.certificateFingerprint then n.certificateGeneration
    else n.appliedCertificateGeneration,
    input.certificateFingerprint)

/-- The agent credential of a node: the current one, and the one before it in its grace. -/
structure Credential where
  tokenHash : String
  expiresAt : Option Int
  generation : Int
  previousTokenHash : String
  previousExpiresAt : Option Int

def Node.credential (n : Node) : Credential where
  tokenHash := n.agentTokenHash
  expiresAt := n.agentCredentialExpiresAt
  generation := n.agentCredentialGeneration
  previousTokenHash := n.previousAgentTokenHash
  previousExpiresAt := n.previousAgentTokenExpiresAt

/-- The credential once its current bearer has been seen in use. -/
def Credential.confirmed (c : Credential) : Credential :=
  { c with previousTokenHash := "", previousExpiresAt := none }

/-- A network without the settings that an administrator changes directly. -/
def Network.core (w : Network) : Network where
  id := w.id
  name := w.name
  cidr := w.cidr
  caRotation := w.caRotation
  routeTransfer := w.routeTransfer
  routeProfileEdit := w.routeProfileEdit
  listenPort := w.listenPort
  certificateTTL := w.certificateTTL
  caCertificate := w.caCertificate
  encryptedCAKey := w.encryptedCAKey
  configSigningPublicKey := w.configSigningPublicKey
  encryptedConfigSigningKey := w.encryptedConfigSigningKey
  createdAt := w.createdAt

variable {w w' : Network} {inputs : Inputs} {s s' : State}

theorem Network.eq_of_core {β : Type} (f : Network → β) (hf : ∀ w, f w.core = f w) (h : w'.core = w.core) :
    f w' = f w := by rw [← hf, h, hf]

theorem Network.id_of_core (h : w'.core = w.core) : w'.id = w.id :=
  Network.eq_of_core Network.id (fun _ => rfl) h

/-- Why a certificate was issued. -/
inductive IssueKind where
  | enrolled
  | renewed
  | rotated
  | regrouped
deriving DecidableEq

/-- What was signed for a node and stored with it. -/
structure Issued where
  kind : IssueKind
  nodeID : String
  networkID : String
  request : SigningRequest
  certificate : SignedCertificate
  generation : Int

/-- A request between its first transaction and its last. -/
inductive Flight where
  | enroll (f : EnrollFlight)
  | renew (f : RenewFlight)
  | rotate (actor : Option Actor) (f : RotateFlight)
  | groups (actor : Option Actor) (f : GroupsFlight)
  | recover (request : RecoverRequest) (recoveryID claimID : String)
  | prepareCA (actor : Option Actor) (networkID : String) (expectedConfigRevision : Int)

/-- What the two replacements of a certificate have in common. -/
structure Replacement where
  kind : IssueKind
  snapshot : Snapshot
  request : SigningRequest
  expectedConfigRevision : Int

def Flight.replacement? : Flight → Option Replacement
  | .rotate _ f => some ⟨.rotated, f.snapshot, f.signing, f.input.expectedConfigRevision⟩
  | .groups _ f => some ⟨.regrouped, f.snapshot, f.signing, f.input.expectedConfigRevision⟩
  | _ => none

/-- A node that has only been created. -/
structure NewNode (n : Node) : Prop where
  status : n.status = .pending
  fingerprint : n.certificateFingerprint = ""
  report : n.report = (0, 0, "")
  claim : n.renewalClaimID = ""

/-- What a transaction takes from outside the store: the random values drawn for it, the report of an
agent with the hash of its credential, whether an agent asks for a new credential, whether the request is
about a recovery, and the route transfer it asks for: the network and the prefixes. -/
structure Inputs where
  drawn : List String := []
  report : Option (String × HeartbeatInput) := none
  credential : Bool := false
  recovery : Bool := false
  starts : List (String × List String) := []

/-- The record of a recovery without the placement of the node in its stored answer. -/
def AgentRecoveryToken.unplaced (r : AgentRecoveryToken) : AgentRecoveryToken :=
  { r with result := r.result.map fun b => { b with node := { b.node with site := "", failureDomain := "" } } }

/-- Only a request about recoveries adds a record of one or changes more of it than a placement. -/
def RecoveriesKept (inputs : Inputs) (s s' : State) : Prop :=
  inputs.recovery = false → ∀ r' ∈ s'.agentRecoveries, ∃ r ∈ s.agentRecoveries, r'.unplaced = r.unplaced

theorem RecoveriesKept.of_subset (h : s'.agentRecoveries ⊆ s.agentRecoveries) : RecoveriesKept inputs s s' :=
  fun _ r' hr' => ⟨r', h hr', rfl⟩

theorem RecoveriesKept.of_eq (h : s'.agentRecoveries = s.agentRecoveries) :
    RecoveriesKept inputs s s' := .of_subset fun _ hr => h ▸ hr

theorem RecoveriesKept.of_filter {p : AgentRecoveryToken → Bool}
    (h : s'.agentRecoveries = s.agentRecoveries.filter p) : RecoveriesKept inputs s s' :=
  .of_subset (h ▸ List.filter_subset_self _)

theorem RecoveriesKept.of_request (h : inputs.recovery = true) :
    RecoveriesKept inputs s s' := fun h' => absurd (h.symm.trans h') Bool.noConfusion

theorem RecoveriesKept.trans {s₁ : State} (h : RecoveriesKept inputs s s₁) (h' : RecoveriesKept inputs s₁ s') :
    RecoveriesKept inputs s s' := by
  intro hi r' hr'
  obtain ⟨r₁, hr₁, heq₁⟩ := h' hi r' hr'
  obtain ⟨r, hr, heq⟩ := h hi r₁ hr₁
  exact ⟨r, hr, heq₁.trans heq⟩

/-- The lists of records after a transaction. -/
structure Records (inputs : Inputs) (s s' : State) (networks : List Network) (nodes : List Node)
    (enrollments : List EnrollmentToken) (issuances : List CertificateIssuance)
    (revocations : List CertificateRevocation) : Prop where
  version : s'.version = s.version
  networks : s'.networks = networks
  nodes : s'.nodes = nodes
  enrollments : s'.enrollments = enrollments
  issuances : s'.issuances = issuances
  revocations : s'.revocations = revocations
  recoveries : RecoveriesKept inputs s s'

/-- The enrollment record that comes with a new node, or replaces its last one. -/
structure NewEnrollment (inputs : Inputs) (nodeID : String) (e : EnrollmentToken) : Prop where
  token : e.tokenHash ∈ inputs.drawn
  node : e.nodeID = nodeID
  unused : e.usedAt = none
  unclaimed : e.claimID = ""

/-! ## Changes of one network -/

/-- What a rotation action does, with the evidence it waits for. -/
inductive RotationStep (s : State) (w : Network) (now : Int) :
    NetworkCARotation → String → String → Prop where
  | prepared (certificate sealedKey : String) : w.caRotation.phase = .stable →
      RotationStep s w now (preparedRotation w certificate sealedKey now (w.configRevision + 1))
        w.caCertificate w.encryptedCAKey
  | activated : w.caRotation.phase = .prepared →
      (∀ n ∈ s.nodes, n.networkID = w.id → n.status = .active → caRotationNodeConverged w n = true) →
      RotationStep s w now { w.caRotation with
          phase := .rotating, stageStartedAt := now, stageConfigRevision := w.configRevision + 1 }
        w.caCertificate w.encryptedCAKey
  | finalized : w.caRotation.phase = .rotating →
      (∀ n ∈ s.nodes, n.networkID = w.id → n.status = .active → caRotationNodeConverged w n = true) →
      RotationStep s w now (finalizedRotation w now (w.configRevision + 1))
        w.caRotation.nextCACertificate w.caRotation.encryptedNextCAKey
  | aborted : w.caRotation.phase = .prepared →
      RotationStep s w now (abortedRotation w now (w.configRevision + 1)) w.caCertificate
        w.encryptedCAKey
  | completed : w.caRotation.phase = .finalizing ∨ w.caRotation.phase = .aborting →
      (∀ n ∈ s.nodes, n.networkID = w.id → n.status = .active → caRotationNodeConverged w n = true) →
      RotationStep s w now {} w.caCertificate w.encryptedCAKey

/-- The steps of a route transfer that leave ownership alone; the flag says whether the network gets
a new revision. -/
inductive TransferStep (s : State) (w : Network) (now : Int) : NetworkRouteTransfer → Bool → Prop where
  | started (requestID : String) (source target : Node) (routes : List String) :
      routeTransferTerminal w.routeTransfer = true → routeProfileEditTerminal w.routeProfileEdit = true →
      findNode s source.id = some source → findNode s target.id = some target → source.id ≠ target.id →
      checkTransferParticipants s w source target routes = .ok () → routes ≠ [] →
      TransferStep s w now (startedTransfer requestID source target routes now) true
  | cancelledEarly (target : Node) : w.routeTransfer.phase = .preparingTarget →
      findNode s w.routeTransfer.targetNodeID = some target →
      target.certificateGeneration < w.routeTransfer.targetCertificateGeneration →
      TransferStep s w now { w.routeTransfer with phase := .cancelled, finishedAt := now } true
  | cancellationStarted (target : Node) : w.routeTransfer.phase = .preparingTarget →
      findNode s w.routeTransfer.targetNodeID = some target →
      w.routeTransfer.targetCertificateGeneration ≤ target.certificateGeneration →
      TransferStep s w now { w.routeTransfer with
        phase := .cleaningTarget, targetCertificateGeneration := target.certificateGeneration + 1 } true
  | cancelled (target : Node) : w.routeTransfer.phase = .cleaningTarget →
      findNode s w.routeTransfer.targetNodeID = some target →
      routeTransferNodeConverged s w target w.routeTransfer.targetCertificateGeneration = true →
      TransferStep s w now { w.routeTransfer with phase := .cancelled, finishedAt := now } false
  | completed (source : Node) : w.routeTransfer.phase = .cleaningSource →
      findNode s w.routeTransfer.sourceNodeID = some source →
      routeTransferNodeConverged s w source w.routeTransfer.sourceCertificateGeneration = true →
      TransferStep s w now { w.routeTransfer with phase := .completed, finishedAt := now } false

/-- The steps of a route-profile edit that leave ownership alone. -/
inductive EditStep (s : State) (w : Network) (now : Int) : NetworkRouteProfileEdit → Bool → Prop where
  | started (requestID : String) (n : Node) (desired : List String) :
      routeTransferTerminal w.routeTransfer = true → routeProfileEditTerminal w.routeProfileEdit = true →
      findNode s n.id = some n → n.networkID = w.id → n.status = .active →
      routeProfileEditAdditions (draftedEdit requestID n desired now) ≠ [] →
      EditStep s w now { draftedEdit requestID n desired now with
        phase := .preparingOwner, preparedCertificateGeneration := n.certificateGeneration + 1 } true
  | cancelledEarly (n : Node) : w.routeProfileEdit.phase = .preparingOwner →
      findNode s w.routeProfileEdit.nodeID = some n →
      n.certificateGeneration < w.routeProfileEdit.preparedCertificateGeneration →
      EditStep s w now { w.routeProfileEdit with phase := .cancelled, finishedAt := now } true
  | cancellationStarted (n : Node) : w.routeProfileEdit.phase = .preparingOwner →
      findNode s w.routeProfileEdit.nodeID = some n →
      w.routeProfileEdit.preparedCertificateGeneration ≤ n.certificateGeneration →
      EditStep s w now { w.routeProfileEdit with
        phase := .cleaningCancelledOwner
        cleanupCertificateGeneration := n.certificateGeneration + 1 } true
  | cancelled (n : Node) : w.routeProfileEdit.phase = .cleaningCancelledOwner →
      findNode s w.routeProfileEdit.nodeID = some n →
      routeTransferNodeConverged s w n w.routeProfileEdit.cleanupCertificateGeneration = true →
      EditStep s w now { w.routeProfileEdit with phase := .cancelled, finishedAt := now } false
  | completed (n : Node) : w.routeProfileEdit.phase = .cleaningOwner →
      findNode s w.routeProfileEdit.nodeID = some n →
      routeTransferNodeConverged s w n w.routeProfileEdit.cleanupCertificateGeneration = true →
      EditStep s w now { w.routeProfileEdit with phase := .completed, finishedAt := now } false

/-- A transfer that was not active before was asked for. -/
def StartNamed (inputs : Inputs) (w w' : Network) : Prop :=
  routeTransferActive w'.routeTransfer = true → routeTransferActive w.routeTransfer = true ∨
    (w.id, w'.routeTransfer.routedSubnets) ∈ inputs.starts

theorem StartNamed.of_kept (h : w'.routeTransfer = w.routeTransfer) :
    StartNamed inputs w w' := fun ha => .inl (h ▸ ha)

theorem StartNamed.of_core (h : w'.core = w.core) :
    StartNamed inputs w w' := .of_kept (Network.eq_of_core Network.routeTransfer (fun _ => rfl) h)

/-- The network with a new revision, if it gets one. -/
def Network.bumped (bump : Bool) (now : Int) (w : Network) : Network :=
  if bump then { w with configRevision := w.configRevision + 1, configUpdatedAt := now } else w

inductive NetworkStep (s : State) (w : Network) : Network → Prop where
  | settings {w' : Network} : w'.core = w.core → w'.configRevision = w.configRevision + 1 →
      NetworkStep s w w'
  | rotation {now : Int} {rotation : NetworkCARotation} {ca key : String} :
      RotationStep s w now rotation ca key →
      NetworkStep s w { w with
        caRotation := rotation, caCertificate := ca, encryptedCAKey := key
        configRevision := w.configRevision + 1, configUpdatedAt := now }
  | transfer {now : Int} {t : NetworkRouteTransfer} {bump : Bool} : TransferStep s w now t bump →
      NetworkStep s w ({ w with routeTransfer := t }.bumped bump now)
  | edit {now : Int} {e : NetworkRouteProfileEdit} {bump : Bool} : EditStep s w now e bump →
      NetworkStep s w ({ w with routeProfileEdit := e }.bumped bump now)

/-! ## Revocations -/

/-- What a revocation of a node adds to the recorded revocations. -/
structure RevocationsOf (s : State) (n : Node) (now : Int) (after : List CertificateRevocation) : Prop where
  appended : ∃ extra, after = s.revocations ++ extra ∧ ∀ r ∈ extra, r.nodeID = n.id ∧
    r.networkID = n.networkID ∧ (r.fingerprint = n.certificateFingerprint ∨
      ∃ i ∈ s.issuances, i.nodeID = n.id ∧ i.fingerprint = r.fingerprint)
  issuances : ∀ i ∈ s.issuances, i.nodeID = n.id → now < i.expiresAt → i.fingerprint ≠ "" →
    ∃ r ∈ after, r.fingerprint = i.fingerprint
  current : n.certificateFingerprint ≠ "" → ∃ r ∈ after, r.fingerprint = n.certificateFingerprint

/-! ## Effects -/

/-- The certificate a transaction stored comes with the request it answers. -/
inductive Effect (inputs : Inputs) (s : State) : State → Option (Flight × Issued) → Prop where
  /-- Telemetry and credentials apart, nothing of the five lists changes. -/
  | touched {s' : State} {nodes : List Node} :
      Records inputs s s' s.networks nodes s.enrollments s.issuances s.revocations →
      nodes.map Node.core = s.nodes.map Node.core → nodes.map Node.report = s.nodes.map Node.report →
      (inputs.credential = false → nodes.map Node.credential = s.nodes.map Node.credential) →
      Effect inputs s s' none
  /-- An agent reported; a canary that stopped also ends the rollout of its network. -/
  | reported {s' : State} {networks : List Network} {n n' : Node} {w : Network} {tokenHash : String}
      {input : HeartbeatInput} {now : Int} :
      Records inputs s s' networks (Keyed.put Node.id n' s.nodes) s.enrollments s.issuances s.revocations →
      findNode s n.id = some n → n.status = .active → findNetwork s n.networkID = some w →
      n'.core = n.core → inputs.report = some (tokenHash, input) →
      (agentCredentialMatch n tokenHash now).1 = true →
      n.appliedConfigRevision ≤ input.appliedConfigRevision →
      input.appliedConfigRevision ≤ w.configRevision → n'.report = input.reportOn n →
      (networks = s.networks ∨ ∃ w', w'.core = w.core ∧ w'.configRevision = w.configRevision + 1 ∧
        networks = Keyed.put Network.id w' s.networks) →
      (n'.credential = n.credential ∨ n'.credential = n.credential.confirmed) →
      Effect inputs s s' none
  | renewalClaimed {s' : State} {n : Node} {claimID : String} {now : Int} :
      Records inputs s s' s.networks (Keyed.put Node.id
        { n with renewalClaimID := claimID, renewalClaimedAt := some now } s.nodes) s.enrollments
        s.issuances s.revocations →
      findNode s n.id = some n → n.status = .active → claimID ∈ inputs.drawn → Effect inputs s s' none
  | renewalReleased {s' : State} {nodeID claimID : String} :
      Records inputs s s' s.networks (releaseRenewalClaim nodeID claimID s).nodes s.enrollments s.issuances
        s.revocations →
      Effect inputs s s' none
  | enrollmentClaimed {s' : State} {e : EnrollmentToken} {claimID binding : String} {now : Int} :
      Records inputs s s' s.networks s.nodes (Keyed.put EnrollmentToken.id
        { e with claimID := claimID, claimedAt := some now, claimKeyHash := binding } s.enrollments)
        s.issuances s.revocations →
      e ∈ s.enrollments → e.usedAt = none → claimID ∈ inputs.drawn → Effect inputs s s' none
  | enrollmentReleased {s' : State} {enrollmentID claimID : String} :
      Records inputs s s' s.networks s.nodes (releaseEnrollmentClaim enrollmentID claimID s).enrollments
        s.issuances s.revocations →
      Effect inputs s s' none
  | reissued {s' : State} {n : Node} {e : EnrollmentToken} :
      Records inputs s s' s.networks s.nodes ((s.enrollments.filter fun e => e.nodeID ≠ n.id) ++ [e])
        s.issuances s.revocations →
      findNode s n.id = some n → n.status = .pending → NewEnrollment inputs n.id e → Effect inputs s s' none
  | networkCreated {s' : State} {w : Network} :
      Records inputs s s' (s.networks ++ [w]) s.nodes s.enrollments s.issuances s.revocations →
      w.id ∈ inputs.drawn → w.caRotation = {} → w.routeTransfer = {} → w.routeProfileEdit = {} → Effect inputs s s' none
  | networkRetired {s' : State} {networkID : String} :
      Records inputs s s' (Keyed.drop Network.id networkID s.networks)
        (s.nodes.filter fun n => n.networkID ≠ networkID)
        (s.enrollments.filter fun e => e.nodeID ∉ networkNodeIDs s networkID)
        (s.issuances.filter fun i => i.networkID ≠ networkID)
        (s.revocations.filter fun r => r.networkID ≠ networkID) →
      Effect inputs s s' none
  | nodeCreated {s' : State} {n : Node} {e : EnrollmentToken} :
      Records inputs s s' s.networks (s.nodes ++ [n]) (s.enrollments ++ [e]) s.issuances s.revocations →
      NewNode n → n.id ∈ inputs.drawn → NewEnrollment inputs n.id e →
      validateNewRoutedSubnets s n.routedSubnets = .ok () → Effect inputs s s' none
  /-- A pending node is gone; a relay among the pending nodes changes the network's settings. -/
  | nodeCancelled {s' : State} {n : Node} {w w' : Network} :
      Records inputs s s' (Keyed.put Network.id w' s.networks) (Keyed.drop Node.id n.id s.nodes)
        (s.enrollments.filter fun e => e.nodeID ≠ n.id) s.issuances s.revocations →
      findNode s n.id = some n → n.status = .pending → findNetwork s n.networkID = some w →
      w'.core = w.core → (w' = w ∨ w'.configRevision = w.configRevision + 1) → Effect inputs s s' none
  /-- A revoked node is gone, with its certificates, which have all expired. -/
  | nodeArchived {s' : State} {n : Node} {w w' : Network} {now : Int} :
      Records inputs s s' (Keyed.put Network.id w' s.networks) (Keyed.drop Node.id n.id s.nodes)
        (s.enrollments.filter fun e => e.nodeID ≠ n.id)
        (s.issuances.filter fun i => i.nodeID ≠ n.id) (s.revocations.filter fun r => r.nodeID ≠ n.id) →
      findNode s n.id = some n → n.status = .revoked → findNetwork s n.networkID = some w →
      w'.core = w.core →
      ((w' = w ∧ n.enrolledAt = none ∧ ∀ r ∈ s.revocations, r.nodeID ≠ n.id) ∨
        w'.configRevision = w.configRevision + 1) →
      (∀ i ∈ s.issuances, i.nodeID = n.id → i.expiresAt < now) → Effect inputs s s' none
  | networkChanged {s' : State} {w w' : Network} :
      Records inputs s s' (Keyed.put Network.id w' s.networks) s.nodes s.enrollments s.issuances
        s.revocations →
      findNetwork s w.id = some w → NetworkStep s w w' → StartNamed inputs w w' → Effect inputs s s' none
  | transferPromoted {s' : State} {w : Network} {source target : Node} {now : Int} :
      Records inputs s s' (Keyed.put Network.id { reconcileNetworkRoutePolicies
            (promoteOwnership s w.routeTransfer source target) w with
          routeTransfer := { w.routeTransfer with
            phase := .cleaningSource, promotedAt := now
            sourceCertificateGeneration := source.certificateGeneration + 1 }
          configRevision := w.configRevision + 1, configUpdatedAt := now } s.networks)
        (promoteOwnership s w.routeTransfer source target).nodes s.enrollments s.issuances
        s.revocations →
      findNetwork s w.id = some w → w.routeTransfer.phase = .preparingTarget →
      findNode s w.routeTransfer.sourceNodeID = some source →
      findNode s w.routeTransfer.targetNodeID = some target →
      routeTransferNodeConverged s w target w.routeTransfer.targetCertificateGeneration = true →
      Effect inputs s s' none
  | editPromoted {s' : State} {w : Network} {n : Node} {e : NetworkRouteProfileEdit} {now : Int} :
      Records inputs s s' (Keyed.put Network.id { reconcileNetworkRoutePolicies
            (putNode s { n with routedSubnets := w.routeProfileEdit.desiredSubnets }) w with
          routeProfileEdit := e, configRevision := w.configRevision + 1, configUpdatedAt := now }
          s.networks)
        (Keyed.put Node.id { n with routedSubnets := w.routeProfileEdit.desiredSubnets } s.nodes)
        s.enrollments s.issuances s.revocations →
      findNetwork s w.id = some w → w.routeProfileEdit.phase = .preparingOwner →
      findNode s w.routeProfileEdit.nodeID = some n →
      routeTransferNodeConverged s w n w.routeProfileEdit.preparedCertificateGeneration = true →
      promotedEdit w.routeProfileEdit n now = .ok e → Effect inputs s s' none
  | editNarrowed {s' : State} {w : Network} {n : Node} {requestID : String} {desired : List String}
      {now : Int} :
      Records inputs s s' (Keyed.put Network.id { reconcileNetworkRoutePolicies
            (putNode s { n with routedSubnets := desired }) w with
          routeProfileEdit := { draftedEdit requestID n desired now with
            phase := .cleaningOwner, promotedAt := now
            cleanupCertificateGeneration := n.certificateGeneration + 1 }
          configRevision := w.configRevision + 1, configUpdatedAt := now } s.networks)
        (Keyed.put Node.id { n with routedSubnets := desired } s.nodes) s.enrollments s.issuances
        s.revocations →
      findNetwork s w.id = some w → findNode s n.id = some n → n.networkID = w.id → n.status = .active →
      routeTransferTerminal w.routeTransfer = true → routeProfileEditTerminal w.routeProfileEdit = true →
      routeProfileEditAdditions (draftedEdit requestID n desired now) = [] → Effect inputs s s' none
  | enrolled {s' : State} {f : EnrollFlight} {c : SignedCertificate} {n : Node} {w : Network}
      {e : EnrollmentToken} {renewAfter now : Int} :
      Records inputs s s' (Keyed.put Network.id (enrolledNetwork (putNode s
            (enrolledNode s f.request (networkSigningAuthority w).1 c renewAfter now n))
          (enrolledNode s f.request (networkSigningAuthority w).1 c renewAfter now n) now w) s.networks)
        (Keyed.put Node.id (enrolledNode s f.request (networkSigningAuthority w).1 c renewAfter now n)
          s.nodes)
        (Keyed.put EnrollmentToken.id { e with usedAt := some now } s.enrollments)
        (s.issuances ++ [issuanceOf n c now]) s.revocations →
      findNode s f.node.id = some n → n.status = .pending → findNetwork s f.network.id = some w →
      (networkSigningAuthority f.network).1 = (networkSigningAuthority w).1 →
      Keyed.lookup EnrollmentToken.id f.enrollmentID s.enrollments = some e → e.usedAt = none →
      e.claimID = f.claimID → e.claimKeyHash = f.request.binding → fingerprintPattern c.fingerprint = true →
      Effect inputs s s' (some (.enroll f, ⟨.enrolled, n.id, n.networkID, f.signing, c, 1⟩))
  | renewed {s' : State} {f : RenewFlight} {c : SignedCertificate} {n : Node} {w : Network}
      {renewAfter now : Int} :
      Records inputs s s' s.networks
        (Keyed.put Node.id (renewedNode s (networkSigningAuthority w).1 c renewAfter now n) s.nodes)
        s.enrollments (s.issuances ++ [issuanceOf n c now]) s.revocations →
      findNode s f.node.id = some n → n.status = .active → findNetwork s f.node.networkID = some w →
      (networkSigningAuthority f.network).1 = (networkSigningAuthority w).1 →
      n.renewalClaimID = f.claimID → fingerprintPattern c.fingerprint = true →
      n.certificateGeneration < inc64 n.certificateGeneration →
      Effect inputs s s' (some (.renew f,
        ⟨.renewed, n.id, n.networkID, f.signing, c, inc64 n.certificateGeneration⟩))
  /-- An administrator replaced the certificate; the old one is on record as revoked. -/
  | replaced {s' : State} {flight : Flight} {r : Replacement} {c : SignedCertificate} {n : Node}
      {w : Network} {groups : List String} {reason : String} {renewAfter now : Int} :
      Records inputs s s' (Keyed.put Network.id
          { w with configRevision := w.configRevision + 1, configUpdatedAt := now } s.networks)
        (Keyed.put Node.id { renewedNode s (networkSigningAuthority w).1 c renewAfter now n with
          groups := groups } s.nodes)
        s.enrollments (s.issuances ++ [issuanceOf n c now])
        (s.revocations ++ [{ fingerprint := n.certificateFingerprint, nodeID := n.id
                             networkID := n.networkID, reason := reason, revokedAt := now
                             expiresAt := n.certificateExpiresAt }]) →
      flight.replacement? = some r → findNode s r.snapshot.node.id = some n → n.status = .active →
      findNetwork s n.networkID = some w → replacementUnavailable w n = false →
      networkSigningAuthority w = networkSigningAuthority r.snapshot.network →
      w.configRevision = r.expectedConfigRevision → fingerprintPattern c.fingerprint = true →
      (r.kind = .rotated ∧ groups = n.groups ∨ r.kind = .regrouped ∧ groups = r.request.groups) →
      Effect inputs s s' (some (flight,
        ⟨r.kind, n.id, n.networkID, r.request, c, inc64 n.certificateGeneration⟩))
  /-- A node is revoked and, when its identity is replaced, a pending node stands for it. -/
  | revoked {s' : State} {n : Node} {w w' : Network} {created : List (Node × EnrollmentToken)}
      {enrollments : List EnrollmentToken} {revocations : List CertificateRevocation} {now : Int} :
      Records inputs s s' (Keyed.put Network.id w' s.networks)
        (Keyed.put Node.id (revokedNode now n) s.nodes ++ created.map Prod.fst)
        (enrollments ++ created.map Prod.snd) s.issuances revocations →
      findNode s n.id = some n → n.status ≠ .revoked → findNetwork s n.networkID = some w →
      w'.core = w.core → w'.configRevision = w.configRevision + 1 →
      routeTransferIncludesNode w.routeTransfer n.id = false →
      routeProfileEditIncludesNode w.routeProfileEdit n.id = false →
      (enrollments = s.enrollments ∨ enrollments = s.enrollments.filter fun e => e.nodeID ≠ n.id) →
      (∀ p ∈ created, NewNode p.1 ∧ p.1.id ∈ inputs.drawn ∧ NewEnrollment inputs p.1.id p.2) →
      RevocationsOf s n now revocations →
      (∀ p ∈ created, p.1.networkID = n.networkID ∧ p.1.routedSubnets = n.routedSubnets) →
      Effect inputs s s' none

theorem Effect.recoveries {new : Option (Flight × Issued)} (h : Effect inputs s s' new) :
    RecoveriesKept inputs s s' := by
  cases h <;> exact Records.recoveries ‹_›

end Mesh
