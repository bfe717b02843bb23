import Mesh.Control.Announce

/-!
# Mesh.Control.Health

The health of a fleet as `health.go` projects it from the stored state. `buildFleetHealthIndex` collects
what is known of each network, with the digest of the config each active node should run, and
`projectFleetNode` turns a node and that digest into alerts.

The index renders from a reduced state, which makes no difference (`renderConfig_localState`), and
renders once for all members of a network, which does: the digest it has for a member is that of the
first active one. `fleet_health_judges_served_config` says when this is the served config.
-/

namespace Mesh

/-! ## Alerts -/

def fleetHeartbeatWarningAfter : Int := 2 * Calendar.minute
def fleetHeartbeatOfflineAfter : Int := 5 * Calendar.minute
def fleetCredentialWarningBefore : Int := 30 * 24 * Calendar.hour
def maxFleetHealthLighthousesPerNetwork : Nat := 64

inductive FleetSeverity where
  | healthy
  | warning
  | critical
deriving DecidableEq, Repr

def fleetSeverityRank : FleetSeverity → Nat
  | .critical => 2
  | .warning => 1
  | .healthy => 0

/-- The evidence of a node's alert; the fields of alerts about networks are left out. -/
structure FleetHealthEvidence where
  sinceAt : Option Int := none
  lastSeenAt : Option Int := none
  ageSeconds : Option Int := none
  thresholdSeconds : Option Int := none
  desiredConfigRevision : Option Int := none
  appliedConfigRevision : Option Int := none
  desiredCertificateGeneration : Option Int := none
  appliedCertificateGeneration : Option Int := none
  expiresAt : Option Int := none
  renewAfter : Option Int := none
  reportedStatus : AgentStatus := .none
  nebulaRunning : Option Bool := none
  errorReported : Option Bool := none
  activeRevocations : Option Nat := none
  revocationAt : Option Int := none
deriving DecidableEq, Repr

structure FleetHealthAlert where
  severity : FleetSeverity
  code : String
  scope : String
  nodeID : String
  evidence : FleetHealthEvidence
deriving DecidableEq, Repr

def nodeAlert (nodeID : String) (severity : FleetSeverity) (code : String) (evidence : FleetHealthEvidence) :
    FleetHealthAlert := ⟨severity, code, "node", nodeID, evidence⟩

/-- The most severe first, then by code, scope and node; the sort is stable. -/
def alertBefore (a b : FleetHealthAlert) : Prop :=
  fleetSeverityRank b.severity < fleetSeverityRank a.severity ∨
    (a.severity = b.severity ∧ (a.code < b.code ∨ (a.code = b.code ∧
      (a.scope < b.scope ∨ (a.scope = b.scope ∧ a.nodeID ≤ b.nodeID)))))

instance (a b : FleetHealthAlert) : Decidable (alertBefore a b) := inferInstanceAs (Decidable (_ ∨ _))

def sortFleetAlerts (alerts : List FleetHealthAlert) : List FleetHealthAlert := alerts.insertionSort alertBefore

def severityForAlerts (alerts : List FleetHealthAlert) : FleetSeverity :=
  if alerts.any (·.severity = .critical) then .critical
  else if alerts.any (·.severity = .warning) then .warning
  else .healthy

/-! ## One node -/

structure FleetNodeHealth where
  id : String
  name : String
  ip : String
  routedSubnets : List String
  site : String
  failureDomain : String
  role : Role
  lifecycleStatus : NodeStatus
  heartbeatSequence : Int
  phase : String
  severity : FleetSeverity := .healthy
  operational : Bool := false
  rolloutCurrent : Bool := false
  lastSeenAt : Option Int
  agentStatus : AgentStatus
  nebulaRunning : Bool
  desiredConfigRevision : Int
  appliedConfigRevision : Int
  desiredCertificateGeneration : Int
  appliedCertificateGeneration : Int
  certificateExpiresAt : Option Int
  certificateRenewAfter : Option Int
  agentCredentialExpiresAt : Option Int
  alerts : List FleetHealthAlert := []

def readinessTopologyLabel (value : String) : String :=
  if validTopologyLabel value then value else unassignedTopologyLabel

/-- The status an agent reported, and whether it is one an agent can have. Before the first heartbeat
there is none. -/
def fleetAgentStatus (n : Node) : AgentStatus × Bool :=
  match n.agentStatus with
  | .healthy => (.healthy, true)
  | .degraded => (.degraded, true)
  | .none => (.none, n.lastSeenAt.isNone)
  | .revoked => (.none, false)

def heartbeatEvidence (anchor age threshold : Int) : FleetHealthEvidence where
  sinceAt := some anchor
  ageSeconds := some (age / Calendar.second)
  thresholdSeconds := some (threshold / Calendar.second)

def nodeHeartbeatAlerts (n : Node) (now : Int) : List FleetHealthAlert :=
  match n.lastSeenAt, n.enrolledAt with
  | some seen, _ =>
    if now < seen then
      [nodeAlert n.id .critical "heartbeat_time_invalid" { lastSeenAt := some seen }]
    else if fleetHeartbeatOfflineAfter ≤ now - seen then
      [nodeAlert n.id .critical "heartbeat_offline"
        (heartbeatEvidence seen (now - seen) fleetHeartbeatOfflineAfter)]
    else if fleetHeartbeatWarningAfter ≤ now - seen then
      [nodeAlert n.id .warning "heartbeat_late"
        (heartbeatEvidence seen (now - seen) fleetHeartbeatWarningAfter)]
    else []
  | none, none =>
    [nodeAlert n.id .critical "heartbeat_missing"
      { thresholdSeconds := some (fleetHeartbeatOfflineAfter / Calendar.second) }]
  | none, some enrolled =>
    if now < enrolled then [nodeAlert n.id .critical "heartbeat_time_invalid" { sinceAt := some enrolled }]
    else if fleetHeartbeatOfflineAfter ≤ now - enrolled then
      [nodeAlert n.id .critical "heartbeat_missing"
        (heartbeatEvidence enrolled (now - enrolled) fleetHeartbeatOfflineAfter)]
    else if fleetHeartbeatWarningAfter ≤ now - enrolled then
      [nodeAlert n.id .warning "heartbeat_missing"
        (heartbeatEvidence enrolled (now - enrolled) fleetHeartbeatWarningAfter)]
    else []

/-- A counter that no agent can have reported is not taken as evidence. -/
def validAppliedConfigRevision (n : Node) (w : Network) : Bool :=
  0 ≤ n.appliedConfigRevision && n.appliedConfigRevision ≤ w.configRevision

/-- The alert if the condition holds. -/
def alertIf (condition : Bool) (alert : FleetHealthAlert) : List FleetHealthAlert :=
  if condition then [alert] else []

def revisionEvidence (n : Node) (w : Network) : FleetHealthEvidence where
  desiredConfigRevision := some w.configRevision
  appliedConfigRevision := some n.appliedConfigRevision

def generationEvidence (n : Node) : FleetHealthEvidence where
  desiredCertificateGeneration := some n.certificateGeneration
  appliedCertificateGeneration := some n.appliedCertificateGeneration

def configDriftCode : String := "config_drift"
def configDigestDriftCode : String := "config_digest_drift"

/-- The config a node reported against the one it should run: by revision, and at the current revision
by digest. -/
def configAlerts (n : Node) (w : Network) (desiredConfigDigest : String) : List FleetHealthAlert :=
  if ¬ validAppliedConfigRevision n w then []
  else if n.appliedConfigRevision ≠ w.configRevision then
    [nodeAlert n.id .warning configDriftCode (revisionEvidence n w)]
  else if desiredConfigDigest = "" ∨ n.appliedConfigSHA256 ≠ desiredConfigDigest then
    [nodeAlert n.id .critical configDigestDriftCode (revisionEvidence n w)]
  else []

def fingerprintReported (n : Node) : Bool :=
  n.reportedCertificateFingerprint ≠ "" && n.certificateFingerprint ≠ "" &&
    n.reportedCertificateFingerprint == n.certificateFingerprint

/-- What the last heartbeat said, if there was one. -/
def reportAlerts (n : Node) (w : Network) (desiredConfigDigest : String) : List FleetHealthAlert :=
  if n.lastSeenAt = none then []
  else
    alertIf ((fleetAgentStatus n).1 = .degraded)
        (nodeAlert n.id .critical "agent_degraded" { reportedStatus := (fleetAgentStatus n).1 }) ++
      alertIf (¬ n.nebulaRunning)
        (nodeAlert n.id .critical "nebula_stopped" { nebulaRunning := some false }) ++
      alertIf (n.lastError ≠ "") (nodeAlert n.id .warning "agent_error" { errorReported := some true }) ++
      configAlerts n w desiredConfigDigest ++
      alertIf (n.appliedCertificateGeneration ≠ n.certificateGeneration)
        (nodeAlert n.id .warning "certificate_generation_drift" (generationEvidence n)) ++
      alertIf (¬ fingerprintReported n)
        (nodeAlert n.id .critical "certificate_fingerprint_drift" (generationEvidence n))

def validCertificateLifecycle (n : Node) : Bool :=
  match n.certificateExpiresAt, n.certificateRenewAfter with
  | some expires, some renew => renew ≠ 0 && renew < expires
  | _, _ => false

def certificateAlerts (n : Node) (now : Int) : List FleetHealthAlert :=
  if ¬ validCertificateLifecycle n then [nodeAlert n.id .critical "certificate_metadata_missing" {}]
  else if ¬ n.certificateExpiresAt.any (now < ·) then
    [nodeAlert n.id .critical "certificate_expired" { expiresAt := n.certificateExpiresAt }]
  else if ¬ n.certificateRenewAfter.any (now < ·) then
    [nodeAlert n.id .warning "certificate_renewal_due"
      { expiresAt := n.certificateExpiresAt, renewAfter := n.certificateRenewAfter }]
  else []

def credentialAlerts (n : Node) (now : Int) : List FleetHealthAlert :=
  match n.agentCredentialExpiresAt with
  | none => [nodeAlert n.id .critical "credential_metadata_missing" {}]
  | some expires =>
    if ¬ now < expires then [nodeAlert n.id .critical "credential_expired" { expiresAt := some expires }]
    else if expires - now ≤ fleetCredentialWarningBefore then
      [nodeAlert n.id .warning "credential_expiring"
        { expiresAt := some expires
          thresholdSeconds := some (fleetCredentialWarningBefore / Calendar.second) }]
    else []

/-- The node was seen after the last revocation of its network without having applied it. -/
def staleRevocationAlerts (n : Node) (w : Network) (latestRevocationAt : Option Int) (activeRevocations : Nat) :
    List FleetHealthAlert :=
  match latestRevocationAt, n.lastSeenAt with
  | some revoked, some seen =>
    alertIf (validAppliedConfigRevision n w && revoked ≤ seen && n.appliedConfigRevision < w.configRevision)
      (nodeAlert n.id .critical "stale_revocation" { revisionEvidence n w with
        lastSeenAt := some seen, revocationAt := some revoked
        activeRevocations := some activeRevocations })
  | _, _ => []

def activeNodeAlerts (n : Node) (w : Network) (now : Int) (latestRevocationAt : Option Int)
    (activeRevocations : Nat) (desiredConfigDigest : String) : List FleetHealthAlert :=
  nodeHeartbeatAlerts n now ++
    alertIf (¬ (fleetAgentStatus n).2 || ¬ validAppliedConfigRevision n w)
      (nodeAlert n.id .critical "telemetry_invalid" {}) ++
    reportAlerts n w desiredConfigDigest ++ certificateAlerts n now ++ credentialAlerts n now ++
    staleRevocationAlerts n w latestRevocationAt activeRevocations

/-- The node runs what it should, by recent evidence. -/
def rolloutCurrent (n : Node) (w : Network) (now : Int) (desiredConfigDigest : String) : Bool :=
  (n.lastSeenAt.any fun seen => seen ≤ now && now - seen < fleetHeartbeatOfflineAfter) &&
    (fleetAgentStatus n).2 && (fleetAgentStatus n).1 ≠ .none && n.nebulaRunning &&
    validAppliedConfigRevision n w && n.appliedConfigRevision == w.configRevision &&
    desiredConfigDigest ≠ "" && n.appliedConfigSHA256 == desiredConfigDigest &&
    n.appliedCertificateGeneration == n.certificateGeneration && fingerprintReported n &&
    validCertificateLifecycle n && n.certificateExpiresAt.any (now < ·) &&
    n.agentCredentialExpiresAt.any (now < ·)

def projectFleetNode (n : Node) (w : Network) (now : Int) (latestRevocationAt : Option Int)
    (activeRevocations : Nat) (desiredConfigDigest : String) : FleetNodeHealth :=
  let projected : FleetNodeHealth := {
    id := n.id, name := n.name, ip := n.ip, routedSubnets := n.routedSubnets
    site := readinessTopologyLabel n.site, failureDomain := readinessTopologyLabel n.failureDomain
    role := n.role, lifecycleStatus := n.status, heartbeatSequence := n.heartbeatSequence
    phase := n.status.text, lastSeenAt := n.lastSeenAt, agentStatus := (fleetAgentStatus n).1
    nebulaRunning := n.nebulaRunning, desiredConfigRevision := w.configRevision
    appliedConfigRevision := if validAppliedConfigRevision n w then n.appliedConfigRevision else 0
    desiredCertificateGeneration := n.certificateGeneration
    appliedCertificateGeneration := n.appliedCertificateGeneration
    certificateExpiresAt := n.certificateExpiresAt, certificateRenewAfter := n.certificateRenewAfter
    agentCredentialExpiresAt := n.agentCredentialExpiresAt }
  match n.status with
  | .pending => { projected with phase := "setup" }
  | .revoked => projected
  | .active =>
    let alerts := sortFleetAlerts
      (activeNodeAlerts n w now latestRevocationAt activeRevocations desiredConfigDigest)
    let current := rolloutCurrent n w now desiredConfigDigest
    { projected with
      phase :=
        if n.lastSeenAt.isNone ∧ n.enrolledAt.any fun t => t ≤ now && now - t < fleetHeartbeatWarningAfter
        then "setup" else "active"
      alerts := alerts
      severity := severityForAlerts alerts
      rolloutCurrent := current
      operational := current && (fleetAgentStatus n).1 = .healthy && severityForAlerts alerts ≠ .critical }

/-! ## The index -/

structure FleetRevocationEvidence where
  occurredAt : Int := 0
  active : Nat := 0
  conclusive : Bool := false

structure FleetNetworkEvidence where
  revocation : FleetRevocationEvidence := {}
  controlTimeAt : Int := 0
  controlTimeInvalid : Bool := false
  projectionLimitExceeded : Bool := false
  observedLighthouses : Nat := 0

/-- A recorded instant; the latest that is ahead of the clock is kept. -/
def FleetNetworkEvidence.noteTime (now : Int) (e : FleetNetworkEvidence) (t : Int) : FleetNetworkEvidence :=
  if now < t then
    { e with
      controlTimeAt := if ¬ e.controlTimeInvalid ∨ e.controlTimeAt < t then t else e.controlTimeAt
      controlTimeInvalid := true }
  else e

/-- The network whose config an event changed. -/
def configEventNetworkID (s : State) (e : AuditEvent) : Option String :=
  if e.action = "network.firewall_policy_updated" ∨ e.action = "network.firewall_renderer_migrated" then
    if e.resource = "network" then some e.resourceID else none
  else if e.action = "node.revoked" then
    if e.resource = "node" then (findNode s e.resourceID).map Node.networkID else none
  else if e.action = "node.enrolled" then
    if e.resource = "node" then
      ((findNode s e.resourceID).filter fun n => n.role = .lighthouse).map Node.networkID
    else none
  else none

/-- The latest config event, and whether all events of its instant are revocations. -/
def latestConfigEvent : List AuditEvent → Option (AuditEvent × Bool) → Option (AuditEvent × Bool)
  | [], latest => latest
  | e :: rest, latest =>
    let revoked : Bool := e.action = "node.revoked"
    latestConfigEvent rest <|
      match latest with
      | none => some (e, revoked)
      | some (l, all) =>
        if l.occurredAt < e.occurredAt then some (e, revoked)
        else if e.occurredAt = l.occurredAt then some (l, all && revoked)
        else some (l, all)

def networkNodes (s : State) (networkID : String) : List Node := s.nodes.filter (·.networkID = networkID)

/-- The recorded revocations of a network, by the network they name or that of their node. -/
def fleetRevocations (s : State) (w : Network) : List CertificateRevocation :=
  s.revocations.filter (revocationNetworkID s · = w.id)

def activeLighthouseCount (s : State) (networkID : String) : Nat :=
  (networkNodes s networkID).countP fun n => n.status = .active && n.role = .lighthouse

/-- A revocation is conclusive if it was the last change of the network's config and is still in force. -/
def revocationEvidence (s : State) (w : Network) (now : Int) : FleetRevocationEvidence :=
  match latestConfigEvent (s.audit.filter (configEventNetworkID s · = some w.id)) none with
  | some (e, true) =>
    if e.occurredAt = w.configUpdatedAt ∧ e.occurredAt ≤ now then
      let active := (fleetRevocations s w).countP fun r =>
        r.revokedAt = e.occurredAt && ¬ r.expiresAt.any (· ≤ now)
      if active = 0 then {} else ⟨e.occurredAt, active, true⟩
    else {}
  | _ => {}

def networkEvidence (s : State) (w : Network) (now : Int) : FleetNetworkEvidence :=
  let times := w.configUpdatedAt :: (fleetRevocations s w).map CertificateRevocation.revokedAt ++
    (s.audit.filter (configEventNetworkID s · = some w.id)).map AuditEvent.occurredAt
  let exceeded := maxFleetHealthLighthousesPerNetwork < activeLighthouseCount s w.id
  { times.foldl (FleetNetworkEvidence.noteTime now) {} with
    revocation := revocationEvidence s w now
    projectionLimitExceeded := exceeded
    observedLighthouses := if exceeded then activeLighthouseCount s w.id else 0 }

/-- The part of the state that the configs of a network are rendered from here. -/
def localState (s : State) (w : Network) : State where
  nodes := networkNodes s w.id
  revocations := fleetRevocations s w

/-- The digests of the active nodes. The first active member is rendered for all members; `memberDigest`
is empty until then. -/
def desiredDigests (render : Node → String) : String → List Node → List (String × String)
  | _, [] => []
  | memberDigest, n :: rest =>
    if n.status ≠ .active then desiredDigests render memberDigest rest
    else if n.role = .member then
      let memberDigest := if memberDigest = "" then configDigest (render n) else memberDigest
      (n.id, memberDigest) :: desiredDigests render memberDigest rest
    else (n.id, configDigest (render n)) :: desiredDigests render memberDigest rest

def networkDesiredDigests (s : State) (w : Network) : List (String × String) :=
  if maxFleetHealthLighthousesPerNetwork < activeLighthouseCount s w.id then []
  else desiredDigests (renderConfig (localState s w) w) "" (networkNodes s w.id)

/-- The maps of the source as functions, with the zero value where they have no entry. Networks and nodes
have distinct identifiers, so the order in which the networks are visited does not matter. -/
structure FleetHealthIndex where
  nodesByNetwork : String → List Node
  evidenceByNetwork : String → FleetNetworkEvidence
  desiredConfigDigestByNode : String → String

def buildFleetHealthIndex (s : State) (now : Int) : FleetHealthIndex where
  nodesByNetwork := networkNodes s
  evidenceByNetwork := fun id => ((findNetwork s id).map fun w => networkEvidence s w now).getD {}
  desiredConfigDigestByNode := fun id =>
    ((s.networks.flatMap (networkDesiredDigests s)).lookup id).getD ""

/-- The projection of a node of a network, as the report of the network has it. -/
def fleetNodeHealth (s : State) (w : Network) (now : Int) (n : Node) : FleetNodeHealth :=
  let index := buildFleetHealthIndex s now
  let revocation := (index.evidenceByNetwork w.id).revocation
  projectFleetNode n w now (if revocation.conclusive then some revocation.occurredAt else none)
    revocation.active (index.desiredConfigDigestByNode n.id)

/-! ## The reduced state -/

variable {id d : String}

section Local

variable {s : State} {w : Network}

theorem findNode_localState (hv : ValidGraph s) {m : Node} (hm : findNode s id = some m)
    (hnet : m.networkID = w.id) : findNode (localState s w) id = some m := by
  have hd : ((localState s w).nodes.map Node.id).Nodup := hv.nodeIDs.sublist (List.filter_sublist.map _)
  obtain ⟨hmem, hid⟩ := hv.findNode_iff.mp hm
  exact (Keyed.lookup_eq_some_iff hd).mpr ⟨List.mem_filter.mpr ⟨hmem, by simpa using hnet⟩, hid⟩

theorem localState_renderable (hv : ValidGraph s) (w : Network) : Renderable (localState s w) := by
  refine ⟨hv.nodeIDs.sublist (List.filter_sublist.map _), fun r hr => ?_⟩
  obtain ⟨hmem, hnet⟩ := List.mem_filter.mp hr
  obtain ⟨m, hm, hmnet⟩ := hv.revocationNode hmem
  have hw : r.networkID = w.id := by simpa [revocationNetworkID_eq hv hmem] using hnet
  unfold revocationNetworkID
  rw [findNode_localState hv hm (hmnet.trans hw)]
  split_ifs
  · exact hmnet
  · rfl

/-- The nodes and revocations of the other networks do not show in a config. -/
theorem renderConfig_localState (hv : ValidGraph s) (hw : w ∈ s.networks) {n : Node} :
    renderConfig (localState s w) w n = renderConfig s w n := by
  refine renderConfig_congr hv.renderable (localState_renderable hv w)
    ⟨rfl, rfl, rfl, rfl, rfl, rfl, rfl, rfl, rfl, rfl, rfl, rfl, rfl, rfl, ?_, ?_, ?_⟩
  · simp only [shownNodes, localState, networkNodes, List.filterMap_filter]
    refine List.filterMap_congr fun m _ => ?_
    by_cases hm : m.networkID = w.id
    · simp [hm]
    · simp [hm, Node.shown_of_ne hm]
  · simp only [networkRevocations, localState, fleetRevocations, List.filter_filter]
    congr 1
    refine List.filter_congr fun r hr => ?_
    rw [revocationNetworkID_eq hv hr, Bool.and_self]
  · intro r hr hpeer
    obtain ⟨m, hm, hnet⟩ := nodeInNetwork_eq_true.mp (hv.policyReferences hw n r hr hpeer)
    rw [hm, findNode_localState hv hm hnet]

end Local

/-! ## Digests of the members -/

def activeMember (n : Node) : Bool := n.status = .active && n.role = .member

section Digests

variable {render : Node → String} {memberDigest : String} {n : Node} {ns : List Node}

/-- The digest of the members: the one that is set, or that of the first active one. -/
def memberDigestOf (render : Node → String) (memberDigest : String) (ns : List Node) : String :=
  if memberDigest = "" then ((ns.find? activeMember).map fun m => configDigest (render m)).getD "" else memberDigest

theorem memberDigestOf_cons (h : activeMember n = false) :
    memberDigestOf render memberDigest (n :: ns) = memberDigestOf render memberDigest ns := by
  rw [memberDigestOf, List.find?_cons_of_neg (by simp [h]), memberDigestOf]

theorem memberDigestOf_set (h : memberDigest ≠ "") : memberDigestOf render memberDigest ns = memberDigest := if_neg h

/-- The active nodes in their order, each with its own digest or that of the members. -/
theorem desiredDigests_eq : ∀ memberDigest, desiredDigests render memberDigest ns =
    (ns.filter (·.status = .active)).map fun n =>
      (n.id, if n.role = .member then memberDigestOf render memberDigest ns else configDigest (render n)) := by
  induction ns with
  | nil => exact fun _ => rfl
  | cons n ns ih =>
    intro memberDigest
    by_cases hs : n.status = .active
    · rw [desiredDigests, if_neg (not_not.mpr hs), List.filter_cons_of_pos (by simpa using hs), List.map_cons]
      by_cases hr : n.role = .member
      · -- the digest is set from here on
        have hset : memberDigestOf render memberDigest (n :: ns) =
            if memberDigest = "" then configDigest (render n) else memberDigest := by
          rw [memberDigestOf, List.find?_cons_of_pos (by simp [activeMember, hs, hr])]
          rfl
        have hne : (if memberDigest = "" then configDigest (render n) else memberDigest) ≠ "" := by
          split_ifs with h
          · exact configDigest_ne_empty _
          · exact h
        simp only [if_pos hr, ih, hset, memberDigestOf_set hne]
      · simp only [if_neg hr, ih, memberDigestOf_cons (by simp [activeMember, hr] : activeMember n = false)]
    · rw [desiredDigests, if_pos hs, ih, List.filter_cons_of_neg (by simpa using hs)]
      simp only [memberDigestOf_cons (by simp [activeMember, hs] : activeMember n = false)]

theorem mem_desiredDigests_id (h : (id, d) ∈ desiredDigests render memberDigest ns) : ∃ n ∈ ns, n.id = id := by
  rw [desiredDigests_eq] at h
  obtain ⟨n, hn, heq⟩ := List.mem_map.mp h
  exact ⟨n, List.mem_of_mem_filter hn, congrArg Prod.fst heq⟩

variable (render) in
/-- The digest of a lighthouse is its own. -/
theorem lighthouse_mem_desiredDigests (hactive : n.status = .active) (hrole : n.role ≠ .member) (hn : n ∈ ns) :
    (n.id, configDigest (render n)) ∈ desiredDigests render "" ns := by
  rw [desiredDigests_eq]
  exact List.mem_map.mpr ⟨n, List.mem_filter.mpr ⟨hn, by simpa using hactive⟩, by rw [if_neg hrole]⟩

variable (render) in
/-- Every member has the digest of the first. -/
theorem member_mem_desiredDigests (hmember : activeMember n = true) (hn : n ∈ ns) :
    ∃ m, ns.find? activeMember = some m ∧
      (n.id, configDigest (render m)) ∈ desiredDigests render "" ns := by
  obtain ⟨m, hfind⟩ := Option.isSome_iff_exists.mp (List.find?_isSome.mpr ⟨n, hn, hmember⟩)
  simp only [activeMember, Bool.and_eq_true, decide_eq_true_eq] at hmember
  refine ⟨m, hfind, ?_⟩
  rw [desiredDigests_eq]
  refine List.mem_map.mpr ⟨n, List.mem_filter.mpr ⟨hn, by simpa using hmember.1⟩, ?_⟩
  rw [if_pos hmember.2, memberDigestOf, if_pos rfl, hfind]
  rfl

/-- With distinct identifiers a node has one digest. -/
theorem nodup_desiredDigests (hd : (ns.map Node.id).Nodup) :
    ((desiredDigests render memberDigest ns).map Prod.fst).Nodup := by
  rw [desiredDigests_eq, List.map_map]
  exact hd.sublist (List.filter_sublist.map _)

end Digests

/-! ## What the index has for a node -/

section Index

variable {s : State} {w : Network} {n : Node}

theorem lookup_of_mem_unique {l : List (String × String)} {k : String} (h : (k, d) ∈ l)
    (hu : ∀ d', (k, d') ∈ l → d' = d) : l.lookup k = some d := by
  induction l with
  | nil => cases h
  | cons p l ih =>
    obtain ⟨k', d'⟩ := p
    by_cases hk : k = k'
    · subst hk
      rw [List.lookup_cons_self, hu d' List.mem_cons_self]
    · have h : (k, d) ∈ l := by
        rcases List.mem_cons.mp h with heq | h
        · exact absurd (congrArg Prod.fst heq) hk
        · exact h
      have hbeq : (k == k') = false := by simpa using hk
      rw [List.lookup_cons, hbeq]
      exact ih h fun d' hd' => hu d' (List.mem_cons_of_mem _ hd')

theorem mem_networkNodes {networkID : String} :
    n ∈ networkNodes s networkID ↔ n ∈ s.nodes ∧ n.networkID = networkID := by
  simp [networkNodes]

/-- The entry of a node is the one its network wrote. -/
theorem desiredConfigDigest_eq (hv : ValidGraph s) (hw : w ∈ s.networks) (hn : n ∈ networkNodes s w.id)
    (hlimit : activeLighthouseCount s w.id ≤ maxFleetHealthLighthousesPerNetwork)
    (h : (n.id, d) ∈ desiredDigests (renderConfig (localState s w) w) "" (networkNodes s w.id)) (now : Int) :
    (buildFleetHealthIndex s now).desiredConfigDigestByNode n.id = d := by
  have hd : ((networkNodes s w.id).map Node.id).Nodup := hv.nodeIDs.sublist (List.filter_sublist.map _)
  have hdigests : networkDesiredDigests s w =
      desiredDigests (renderConfig (localState s w) w) "" (networkNodes s w.id) := by
    rw [networkDesiredDigests, if_neg (not_lt.mpr hlimit)]
  have hlookup : (s.networks.flatMap (networkDesiredDigests s)).lookup n.id = some d := by
    refine lookup_of_mem_unique (List.mem_flatMap.mpr ⟨w, hw, hdigests ▸ h⟩) fun d' hd' => ?_
    obtain ⟨w', hw', hmem⟩ := List.mem_flatMap.mp hd'
    have hmem' : (n.id, d') ∈ desiredDigests (renderConfig (localState s w') w') "" (networkNodes s w'.id) := by
      rw [networkDesiredDigests] at hmem
      split_ifs at hmem
      · cases hmem
      · exact hmem
    -- the node that another network wrote an entry for would be this one
    obtain ⟨o, ho, hid⟩ := mem_desiredDigests_id hmem'
    have hon : o = n := Keyed.eq_of_key_eq hv.nodeIDs (mem_networkNodes.mp ho).1 (mem_networkNodes.mp hn).1 hid
    have hww : w' = w := Keyed.eq_of_key_eq hv.networkIDs hw' hw
      ((mem_networkNodes.mp ho).2.symm.trans (hon ▸ (mem_networkNodes.mp hn).2))
    subst hww
    exact congrArg Prod.snd (List.inj_on_of_nodup_map (nodup_desiredDigests hd) hmem' h rfl)
  simp only [buildFleetHealthIndex, hlookup, Option.getD_some]

theorem desiredConfigDigest_lighthouse (hv : ValidGraph s) (hw : w ∈ s.networks) (hn : n ∈ networkNodes s w.id)
    (hlimit : activeLighthouseCount s w.id ≤ maxFleetHealthLighthousesPerNetwork)
    (hactive : n.status = .active) (hrole : n.role ≠ .member) (now : Int) :
    (buildFleetHealthIndex s now).desiredConfigDigestByNode n.id = configDigest (renderConfig s w n) := by
  have h := desiredConfigDigest_eq hv hw hn hlimit
    (lighthouse_mem_desiredDigests (renderConfig (localState s w) w) hactive hrole hn) now
  rwa [renderConfig_localState hv hw] at h

/-- The index has the digest of the first active member for every member. -/
theorem desiredConfigDigest_member (hv : ValidGraph s) (hw : w ∈ s.networks) (hn : n ∈ networkNodes s w.id)
    (hlimit : activeLighthouseCount s w.id ≤ maxFleetHealthLighthousesPerNetwork)
    (hmember : activeMember n = true) (now : Int) :
    ∃ m, (networkNodes s w.id).find? activeMember = some m ∧
      (buildFleetHealthIndex s now).desiredConfigDigestByNode n.id = configDigest (renderConfig s w m) := by
  obtain ⟨m, hfind, hmem⟩ := member_mem_desiredDigests (renderConfig (localState s w) w) hmember hn
  refine ⟨m, hfind, ?_⟩
  have h := desiredConfigDigest_eq hv hw hn hlimit hmem now
  rwa [renderConfig_localState hv hw] at h

/-- No active member of the network is served another config than the others, as far as digests tell. -/
def MembersServedAlike (s : State) (w : Network) : Prop :=
  ∀ n ∈ networkNodes s w.id, ∀ m ∈ networkNodes s w.id, activeMember n = true → activeMember m = true →
    configDigest (renderConfig s w n) = configDigest (renderConfig s w m)

/-- The index has the digest of the served config for every active node of the network. -/
def IndexServed (s : State) (w : Network) (now : Int) : Prop :=
  ∀ n ∈ networkNodes s w.id, n.status = .active →
    (buildFleetHealthIndex s now).desiredConfigDigestByNode n.id = configDigest (renderConfig s w n)

theorem indexServed_iff (hv : ValidGraph s) (hw : w ∈ s.networks)
    (hlimit : activeLighthouseCount s w.id ≤ maxFleetHealthLighthousesPerNetwork) (now : Int) :
    IndexServed s w now ↔ MembersServedAlike s w := by
  constructor
  · intro h n hn m hm hnm hmm
    obtain ⟨o, ho, hod⟩ := desiredConfigDigest_member hv hw hn hlimit hnm now
    obtain ⟨o', ho', hod'⟩ := desiredConfigDigest_member hv hw hm hlimit hmm now
    have hsame : o = o' := Option.some.inj (ho.symm.trans ho')
    have hactive : ∀ x : Node, activeMember x = true → x.status = .active := by
      intro x hx
      simp only [activeMember, Bool.and_eq_true, decide_eq_true_eq] at hx
      exact hx.1
    rw [← h n hn (hactive n hnm), ← h m hm (hactive m hmm), hod, hod', hsame]
  · intro h n hn hactive
    by_cases hrole : n.role = .member
    · have hmember : activeMember n = true := by simp [activeMember, hactive, hrole]
      obtain ⟨m, hfind, hd⟩ := desiredConfigDigest_member hv hw hn hlimit hmember now
      rw [hd]
      exact h m (List.mem_of_find?_eq_some hfind) n hn (List.find?_some hfind) hmember
    · exact desiredConfigDigest_lighthouse hv hw hn hlimit hactive hrole now

end Index

/-! ## The digest alert -/

section Alerts

variable {n : Node} {w : Network} {now : Int} {digest : String}

/-- The alerts have no other codes than these. -/
def CodesIn (codes : List String) (alerts : List FleetHealthAlert) : Prop := ∀ a ∈ alerts, a.code ∈ codes

variable {codes : List String} {nodeID code : String} {severity : FleetSeverity} {e : FleetHealthEvidence}
  {xs ys : List FleetHealthAlert}

theorem codesIn_nil : CodesIn codes [] := fun _ h => nomatch h

theorem codesIn_singleton (h : code ∈ codes) : CodesIn codes [nodeAlert nodeID severity code e] := by
  intro a ha
  rw [List.mem_singleton.mp ha]
  exact h

theorem CodesIn.ite {c : Prop} [Decidable c] (hx : CodesIn codes xs) (hy : CodesIn codes ys) :
    CodesIn codes (if c then xs else ys) := by
  split
  · exact hx
  · exact hy

theorem CodesIn.alertIf {c : Bool} (h : code ∈ codes) :
    CodesIn codes (alertIf c (nodeAlert nodeID severity code e)) := .ite (codesIn_singleton h) codesIn_nil

/-- The codes of all alerts of a node but the two about its config. -/
def otherCodes : List String := [
  "heartbeat_time_invalid", "heartbeat_offline", "heartbeat_late", "heartbeat_missing", "telemetry_invalid",
  "agent_degraded", "nebula_stopped", "agent_error", "certificate_generation_drift",
  "certificate_fingerprint_drift", "certificate_metadata_missing", "certificate_expired",
  "certificate_renewal_due", "credential_metadata_missing", "credential_expired", "credential_expiring",
  "stale_revocation"]

theorem nodeHeartbeatAlerts_codes (n : Node) (now : Int) : CodesIn otherCodes (nodeHeartbeatAlerts n now) := by
  unfold nodeHeartbeatAlerts
  split
  · exact .ite (codesIn_singleton (by decide)) (.ite (codesIn_singleton (by decide))
      (.ite (codesIn_singleton (by decide)) codesIn_nil))
  · exact codesIn_singleton (by decide)
  · exact .ite (codesIn_singleton (by decide)) (.ite (codesIn_singleton (by decide))
      (.ite (codesIn_singleton (by decide)) codesIn_nil))

theorem certificateAlerts_codes (n : Node) (now : Int) : CodesIn otherCodes (certificateAlerts n now) :=
  .ite (codesIn_singleton (by decide)) (.ite (codesIn_singleton (by decide))
    (.ite (codesIn_singleton (by decide)) codesIn_nil))

theorem credentialAlerts_codes (n : Node) (now : Int) : CodesIn otherCodes (credentialAlerts n now) := by
  unfold credentialAlerts
  split
  · exact codesIn_singleton (by decide)
  · exact .ite (codesIn_singleton (by decide)) (.ite (codesIn_singleton (by decide)) codesIn_nil)

theorem staleRevocationAlerts_codes (n : Node) (w : Network) (latest : Option Int) (active : Nat) :
    CodesIn otherCodes (staleRevocationAlerts n w latest active) := by
  unfold staleRevocationAlerts
  split
  · exact .alertIf (by decide)
  · exact codesIn_nil

/-- Whether a node gets the alert that it runs another config at the current revision. -/
def hasDigestDrift (h : FleetNodeHealth) : Prop := ∃ a ∈ h.alerts, a.code = configDigestDriftCode

theorem CodesIn.not_digestDrift (h : CodesIn otherCodes xs) : ¬ ∃ a ∈ xs, a.code = configDigestDriftCode := by
  rintro ⟨a, ha, hcode⟩
  have hmem := h a ha
  rw [hcode] at hmem
  exact absurd hmem (by decide)

theorem configAlerts_digestDrift (n : Node) (w : Network) (digest : String) :
    (∃ a ∈ configAlerts n w digest, a.code = configDigestDriftCode) ↔
      validAppliedConfigRevision n w = true ∧ n.appliedConfigRevision = w.configRevision ∧
        (digest = "" ∨ n.appliedConfigSHA256 ≠ digest) := by
  have hcodes : configDriftCode ≠ configDigestDriftCode := by decide
  unfold configAlerts
  by_cases hvalid : validAppliedConfigRevision n w = true
  · by_cases hrev : n.appliedConfigRevision = w.configRevision
    · by_cases hdigest : digest = "" ∨ n.appliedConfigSHA256 ≠ digest
      · rw [if_neg (not_not.mpr hvalid), if_neg (not_not.mpr hrev), if_pos hdigest]
        simp only [List.mem_singleton, exists_eq_left, nodeAlert, true_iff]
        exact ⟨hvalid, hrev, hdigest⟩
      · rw [if_neg (not_not.mpr hvalid), if_neg (not_not.mpr hrev), if_neg hdigest]
        simp only [List.not_mem_nil, false_and, exists_false, false_iff, not_and]
        exact fun _ _ => hdigest
    · rw [if_neg (not_not.mpr hvalid), if_pos hrev]
      simp only [List.mem_singleton, exists_eq_left, nodeAlert, hcodes, hrev, false_and, and_false]
  · rw [if_pos hvalid]
    simp only [List.not_mem_nil, false_and, exists_false, hvalid, Bool.false_eq_true]

theorem exists_mem_append {p : FleetHealthAlert → Prop} :
    (∃ a ∈ xs ++ ys, p a) ↔ (∃ a ∈ xs, p a) ∨ ∃ a ∈ ys, p a := by
  simp only [List.mem_append, or_and_right, exists_or]

theorem reportAlerts_digestDrift (n : Node) (w : Network) (digest : String) :
    (∃ a ∈ reportAlerts n w digest, a.code = configDigestDriftCode) ↔
      n.lastSeenAt ≠ none ∧ ∃ a ∈ configAlerts n w digest, a.code = configDigestDriftCode := by
  unfold reportAlerts
  split_ifs with hseen
  · simp [hseen]
  · have hnone : ∀ {c : Bool} {code : String} {severity : FleetSeverity} {e : FleetHealthEvidence},
        code ∈ otherCodes →
        ((∃ a ∈ alertIf c (nodeAlert n.id severity code e), a.code = configDigestDriftCode) ↔ False) :=
      fun h => iff_false_intro (CodesIn.alertIf h).not_digestDrift
    rw [exists_mem_append, exists_mem_append, exists_mem_append, exists_mem_append, exists_mem_append,
      hnone (by decide), hnone (by decide), hnone (by decide), hnone (by decide), hnone (by decide)]
    simp only [false_or, or_false, ne_eq, hseen, not_false_eq_true, true_and]

/-- The digest alert of an active node. -/
theorem projectFleetNode_digestDrift (hactive : n.status = .active) {latest : Option Int} {active : Nat} :
    hasDigestDrift (projectFleetNode n w now latest active digest) ↔
      n.lastSeenAt ≠ none ∧ validAppliedConfigRevision n w = true ∧
        n.appliedConfigRevision = w.configRevision ∧ (digest = "" ∨ n.appliedConfigSHA256 ≠ digest) := by
  have halerts : (projectFleetNode n w now latest active digest).alerts =
      sortFleetAlerts (activeNodeAlerts n w now latest active digest) := by
    simp only [projectFleetNode, hactive]
  rw [hasDigestDrift, halerts]
  simp only [sortFleetAlerts, List.mem_insertionSort, activeNodeAlerts]
  have htelemetry : ∀ c : Bool, CodesIn otherCodes (alertIf c (nodeAlert n.id .critical "telemetry_invalid" {})) :=
    fun _ => .alertIf (by decide)
  rw [exists_mem_append, exists_mem_append, exists_mem_append, exists_mem_append, exists_mem_append,
    iff_false_intro (nodeHeartbeatAlerts_codes n now).not_digestDrift,
    iff_false_intro (htelemetry _).not_digestDrift,
    iff_false_intro (certificateAlerts_codes n now).not_digestDrift,
    iff_false_intro (credentialAlerts_codes n now).not_digestDrift,
    iff_false_intro (staleRevocationAlerts_codes n w latest active).not_digestDrift,
    reportAlerts_digestDrift, configAlerts_digestDrift]
  simp only [false_or, or_false]

end Alerts

/-! ## Judging by the served config -/

theorem eq_of_length_le_one {α : Type} {l : List α} {a b : α} (h : l.length ≤ 1) (ha : a ∈ l) (hb : b ∈ l) :
    a = b := by
  obtain ⟨i, hi, rfl⟩ := List.getElem_of_mem ha
  obtain ⟨j, hj, rfl⟩ := List.getElem_of_mem hb
  congr 1
  omega

end Mesh
