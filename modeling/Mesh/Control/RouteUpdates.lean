import Mesh.Control.Render

/-!
# Mesh.Control.RouteUpdates

The operations that move a staged route change along, and the update of one route policy. Each phase
of a change has its own function, from the changed network's point of view; the operation around them
checks the request, finds the network and records the event.
-/

namespace Mesh

/-- The schemas in which both staged changes exist. -/
def checkRouteSchema (s : State) (text : String) : Result Unit :=
  reject (s.version < controlStateVersionRouteProfileEdit ∨ controlStateVersionFirewallScopes < s.version)
    (conflict text)

/-- A state with a changed network and the event of the change. -/
def commitNetwork (s : State) (w : Network) (event : AuditEvent) : State := addAudit (putNetwork s w) event

/-! ## Route transfers -/

structure StartRouteTransferInput where
  sourceNodeID : String
  targetNodeID : String
  routedSubnets : List String
  expectedConfigRevision : Int
  requestID : String

/-- The participants of a transfer that may start. -/
def checkTransferParticipants (s : State) (w : Network) (source target : Node) (routes : List String) :
    Result Unit := do
  reject (source.networkID ≠ w.id ∨ target.networkID ≠ w.id ∨ source.status ≠ .active ∨
      target.status ≠ .active ∨ source.enrolledAt = none ∨ target.enrolledAt = none)
    (conflict "source and target must be active enrolled nodes in this network")
  reject (¬ subnetSetContainsAll source.routedSubnets routes)
    (conflict "source does not own every requested routed subnet")
  checkAll (fun route => reject ((activeRouteOwners s w.id route).map Node.id ≠ [source.id])
    (conflict ("routed subnet " ++ route ++ " has multiple gateways; change ECMP membership with the " ++
      "node route-profile workflow"))) routes
  let _ ← mapError (fun e => conflict ("target route profile would be invalid: " ++ e.text))
    (normalizeRoutedSubnets (target.routedSubnets ++ routes))
  reject (source.certificateGeneration < 1 ∨ target.certificateGeneration < 1 ∨
      target.certificateGeneration = maxInt64)
    (conflict "participant certificate generation cannot advance")

def startedTransfer (requestID : String) (source target : Node) (routes : List String) (now : Int) :
    NetworkRouteTransfer where
  requestID := requestID
  phase := .preparingTarget
  sourceNodeID := source.id
  targetNodeID := target.id
  routedSubnets := routes
  sourceOriginalSubnets := source.routedSubnets
  targetOriginalSubnets := target.routedSubnets
  targetCertificateGeneration := target.certificateGeneration + 1
  startedAt := now

def startRouteTransfer (actor : Option Actor) (networkID : String) (raw : StartRouteTransferInput)
    (eventID : String) (now : Int) (s : State) : Result State := do
  let sourceID := trimSpace raw.sourceNodeID
  let targetID := trimSpace raw.targetNodeID
  let requestID := trimSpace raw.requestID
  let err := invalid ("distinct source and target nodes, canonical routed_subnets, " ++
    "expected_config_revision, and a 16-128 character request_id are required")
  let routes ← mapError (fun _ => err) (normalizeRoutedSubnets raw.routedSubnets)
  reject (¬ validPersistedID networkID ∨ ¬ validPersistedID sourceID ∨ ¬ validPersistedID targetID ∨
    sourceID = targetID ∨ raw.expectedConfigRevision < 1 ∨ ¬ validRouteTransferRequestID requestID ∨
    routes = []) err
  checkRouteSchema s "route-transfer schema is not current"
  let w ← require (findNetwork s networkID) errNotFound
  if w.routeTransfer.requestID = requestID then
    reject (w.routeTransfer.sourceNodeID ≠ sourceID ∨ w.routeTransfer.targetNodeID ≠ targetID ∨
        w.routeTransfer.routedSubnets ≠ routes)
      (conflict "request_id is already bound to different transfer input")
    pure s
  else
    reject (¬ routeTransferTerminal w.routeTransfer) (conflict "another route transfer is active")
    reject (w.caRotation.phase ≠ .stable ∨ w.firewallRollout.phase ≠ .stable ∨
        ¬ routeProfileEditTerminal w.routeProfileEdit ∨ w.configRevision ≠ raw.expectedConfigRevision)
      (conflict "network is not at the requested stable revision")
    let notFound := conflict "source and target must be active enrolled nodes in this network"
    let source ← require (findNode s sourceID) notFound
    let target ← require (findNode s targetID) notFound
    checkTransferParticipants s w source target routes
    let nextRevision ← nextConfigRevision w.configRevision true
    let event ← newOptionalAttributedAudit eventID now "network.route_transfer_started" "network" w.id [
      ("request_id", .str requestID), ("source_node_id", .str source.id),
      ("target_node_id", .str target.id), ("routed_subnets", .str (joinWith "," routes)),
      ("previous_config_revision", .int raw.expectedConfigRevision),
      ("config_revision", .int nextRevision),
      ("target_certificate_generation", .int (target.certificateGeneration + 1))] actor
    pure (commitNetwork s { w with
      routeTransfer := startedTransfer requestID source target routes now
      configRevision := nextRevision, configUpdatedAt := now } event)

/-- Cancelling before the target has the widened certificate ends the transfer; after, the target
first needs one without the routes. -/
def cancelPreparedTransfer (t : NetworkRouteTransfer) (target : Node) (now : Int) :
    Result NetworkRouteTransfer := do
  if target.certificateGeneration < t.targetCertificateGeneration then
    pure { t with phase := .cancelled, finishedAt := now }
  else
    reject (target.certificateGeneration = maxInt64)
      (conflict "target certificate generation cannot advance")
    pure { t with
      phase := .cleaningTarget, targetCertificateGeneration := target.certificateGeneration + 1 }

/-- The network after a cancellation step; `none` when it was cancelled before. -/
def cancelTransfer (s : State) (w : Network) (target : Node) (now : Int) : Result (Option Network) := do
  let t := w.routeTransfer
  match t.phase with
  | .cancelled => pure none
  | .preparingTarget =>
    let nextRevision ← nextConfigRevision w.configRevision true
    let t' ← cancelPreparedTransfer t target now
    pure (some { w with routeTransfer := t', configRevision := nextRevision, configUpdatedAt := now })
  | .cleaningTarget =>
    reject (¬ routeTransferNodeConverged s w target t.targetCertificateGeneration)
      (conflict "target certificate cleanup has not converged")
    pure (some { w with routeTransfer := { t with phase := .cancelled, finishedAt := now } })
  | _ => .error (conflict "transfer can no longer be cancelled")

/-- Ownership moves from the source to the target. -/
def promoteOwnership (s : State) (t : NetworkRouteTransfer) (source target : Node) : State :=
  putNode (putNode s { target with
      routedSubnets := mergeSubnets t.targetOriginalSubnets t.routedSubnets })
    { source with routedSubnets := subtractSubnets t.sourceOriginalSubnets t.routedSubnets }

/-- The state and the network after a step forward; `none` when the transfer was completed before. -/
def advanceTransfer (s : State) (w : Network) (source target : Node) (now : Int) :
    Result (Option (State × Network)) := do
  let t := w.routeTransfer
  match t.phase with
  | .completed => pure none
  | .preparingTarget =>
    reject (¬ routeTransferNodeConverged s w target t.targetCertificateGeneration)
      (conflict "target gateway has not converged")
    reject (source.certificateGeneration = maxInt64)
      (conflict "source certificate generation cannot advance")
    let nextRevision ← nextConfigRevision w.configRevision true
    let s' := promoteOwnership s t source target
    pure (some (s', { reconcileNetworkRoutePolicies s' w with
      routeTransfer := { t with
        phase := .cleaningSource, promotedAt := now
        sourceCertificateGeneration := source.certificateGeneration + 1 }
      configRevision := nextRevision, configUpdatedAt := now }))
  | .cleaningSource =>
    reject (¬ routeTransferNodeConverged s w source t.sourceCertificateGeneration)
      (conflict "source certificate cleanup has not converged")
    pure (some (s, { w with routeTransfer := { t with phase := .completed, finishedAt := now } }))
  | _ => .error (conflict "transfer is not advanceable")

structure UpdateRouteTransferInput where
  expectedConfigRevision : Int
  requestID : String

/-- A step that was committed before may be asked for again. -/
def transferReplayed (w : Network) (cancel : Bool) (expectedConfigRevision : Int) : Bool :=
  w.routeTransfer.phase == (if cancel then .cancelled else .completed) &&
    terminalRouteTransitionReplayRevision expectedConfigRevision w.configRevision

def transferCancelledEvent (actor : Option Actor) (eventID : String) (now : Int) (w : Network) :
    Result AuditEvent :=
  let t := w.routeTransfer
  newOptionalAttributedAudit eventID now
    (if t.phase = .cleaningTarget then "network.route_transfer_cancellation_started"
      else "network.route_transfer_cancelled") "network" w.id
    [("request_id", .str t.requestID), ("phase", .str t.phase.text),
      ("config_revision", .int w.configRevision)] actor

def transferAdvancedEvent (actor : Option Actor) (eventID : String) (now : Int) (w : Network) :
    Result AuditEvent :=
  let t := w.routeTransfer
  newOptionalAttributedAudit eventID now
    (if t.phase = .completed then "network.route_transfer_completed"
      else "network.route_transfer_promoted") "network" w.id
    [("request_id", .str t.requestID), ("phase", .str t.phase.text),
      ("routed_subnets", .str (joinWith "," t.routedSubnets)), ("source_node_id", .str t.sourceNodeID),
      ("target_node_id", .str t.targetNodeID), ("config_revision", .int w.configRevision)] actor

def updateRouteTransfer (actor : Option Actor) (networkID : String) (raw : UpdateRouteTransferInput)
    (cancel : Bool) (eventID : String) (now : Int) (s : State) : Result State := do
  let requestID := trimSpace raw.requestID
  reject (¬ validPersistedID networkID ∨ raw.expectedConfigRevision < 1 ∨
      ¬ validRouteTransferRequestID requestID)
    (invalid "network ID, expected_config_revision, and request_id are required")
  checkRouteSchema s "route-transfer schema is not current"
  let w ← require (findNetwork s networkID) errNotFound
  reject (w.routeTransfer.requestID ≠ requestID)
    (conflict "request_id does not match the authoritative transfer")
  if transferReplayed w cancel raw.expectedConfigRevision then pure s
  else
    reject (w.configRevision ≠ raw.expectedConfigRevision)
      (revisionConflict raw.expectedConfigRevision w.configRevision)
    -- a participant that is missing is the zero node, which has converged to nothing
    let source := (findNode s w.routeTransfer.sourceNodeID).getD {}
    let target := (findNode s w.routeTransfer.targetNodeID).getD {}
    if cancel then
      match ← cancelTransfer s w target now with
      | none => pure s
      | some w' =>
        let event ← transferCancelledEvent actor eventID now w'
        pure (commitNetwork s w' event)
    else
      match ← advanceTransfer s w source target now with
      | none => pure s
      | some (s', w') =>
        let event ← transferAdvancedEvent actor eventID now w'
        pure (commitNetwork s' w' event)

/-! ## Route-profile edits -/

structure StartRouteProfileEditInput where
  routedSubnets : List String
  expectedConfigRevision : Int
  requestID : String

/-- The edit before it has a phase. -/
def draftedEdit (requestID : String) (n : Node) (desired : List String) (now : Int) :
    NetworkRouteProfileEdit where
  requestID := requestID
  nodeID := n.id
  originalSubnets := n.routedSubnets
  desiredSubnets := desired
  startedAt := now

/-- An edit with additions first asks for a certificate; one that only removes takes effect at once
and asks for a certificate without what it removed. -/
def beginEdit (s : State) (w : Network) (n : Node) (edit : NetworkRouteProfileEdit) (now : Int) :
    State × Network :=
  if routeProfileEditAdditions edit ≠ [] then
    (s, { w with routeProfileEdit := { edit with
      phase := .preparingOwner, preparedCertificateGeneration := n.certificateGeneration + 1 } })
  else
    let s' := putNode s { n with routedSubnets := edit.desiredSubnets }
    (s', { reconcileNetworkRoutePolicies s' w with routeProfileEdit := { edit with
      phase := .cleaningOwner, promotedAt := now
      cleanupCertificateGeneration := n.certificateGeneration + 1 } })

def startRouteProfileEdit (actor : Option Actor) (rawNodeID : String) (raw : StartRouteProfileEditInput)
    (eventID : String) (now : Int) (s : State) : Result State := do
  let nodeID := trimSpace rawNodeID
  let requestID := trimSpace raw.requestID
  let err := invalid ("node ID, canonical routed_subnets, expected_config_revision, and a 16-128 " ++
    "character request_id are required")
  let desired ← mapError (fun _ => err) (normalizeRoutedSubnets raw.routedSubnets)
  reject (¬ validPersistedID nodeID ∨ raw.expectedConfigRevision < 1 ∨
    ¬ validRouteTransferRequestID requestID) err
  reject (now = 0) (internal "route-profile edit requires a valid timestamp")
  checkRouteSchema s "route-profile-edit schema is not current"
  let n ← require (findNode s nodeID) errNotFound
  let w ← require (findNetwork s n.networkID) errNotFound
  if w.routeProfileEdit.requestID = requestID then
    reject (w.routeProfileEdit.nodeID ≠ nodeID ∨ w.routeProfileEdit.desiredSubnets ≠ desired)
      (conflict "request_id is already bound to different route-profile input")
    pure s
  else
    reject (¬ routeProfileEditTerminal w.routeProfileEdit ∨ ¬ routeTransferTerminal w.routeTransfer ∨
        w.caRotation.phase ≠ .stable ∨ w.firewallRollout.phase ≠ .stable ∨
        w.configRevision ≠ raw.expectedConfigRevision)
      (conflict "network is not at the requested stable revision")
    reject (n.status ≠ .active ∨ n.enrolledAt = none ∨ n.certificateGeneration < 1 ∨
        n.certificateGeneration = maxInt64)
      (conflict "route-profile owner must be an active enrolled node with an advanceable certificate")
    reject (n.routedSubnets = desired)
      (invalid "requested routed_subnets do not change the active profile")
    validateRouteProfileTransition n.routedSubnets desired
    validateRoutedSubnetsForNode s n.id desired
    let nextRevision ← nextConfigRevision w.configRevision true
    let edit := draftedEdit requestID n desired now
    let (s', w') := beginEdit s w n edit now
    let event ← newOptionalAttributedAudit eventID now "node.route_profile_edit_started" "node" n.id [
      ("request_id", .str requestID), ("phase", .str w'.routeProfileEdit.phase.text),
      ("original_routed_subnets", .str (joinWith "," edit.originalSubnets)),
      ("desired_routed_subnets", .str (joinWith "," edit.desiredSubnets)),
      ("additions", .str (joinWith "," (routeProfileEditAdditions edit))),
      ("removals", .str (joinWith "," (routeProfileEditRemovals edit))),
      ("previous_config_revision", .int raw.expectedConfigRevision),
      ("config_revision", .int nextRevision)] actor
    pure (commitNetwork s' { w' with configRevision := nextRevision, configUpdatedAt := now } event)

/-- Cancelling before the owner has the widened certificate ends the edit; after, the owner first
needs one without the additions. -/
def cancelPreparedEdit (e : NetworkRouteProfileEdit) (n : Node) (now : Int) :
    Result NetworkRouteProfileEdit := do
  if n.certificateGeneration < e.preparedCertificateGeneration then
    pure { e with phase := .cancelled, finishedAt := now }
  else
    reject (n.certificateGeneration = maxInt64)
      (conflict "owner certificate generation cannot advance")
    pure { e with
      phase := .cleaningCancelledOwner, cleanupCertificateGeneration := n.certificateGeneration + 1 }

/-- The network after a cancellation step; `none` when it was cancelled before. -/
def cancelEdit (s : State) (w : Network) (n : Node) (now : Int) : Result (Option Network) := do
  let e := w.routeProfileEdit
  match e.phase with
  | .cancelled => pure none
  | .preparingOwner =>
    let nextRevision ← nextConfigRevision w.configRevision true
    let e' ← cancelPreparedEdit e n now
    pure (some { w with routeProfileEdit := e', configRevision := nextRevision, configUpdatedAt := now })
  | .cleaningCancelledOwner =>
    reject (¬ routeTransferNodeConverged s w n e.cleanupCertificateGeneration)
      (conflict "cancelled owner certificate cleanup has not converged")
    pure (some { w with routeProfileEdit := { e with phase := .cancelled, finishedAt := now } })
  | _ => .error (conflict "route-profile edit can no longer be cancelled")

/-- A promoted edit with removals still asks for a certificate without them. -/
def promotedEdit (e : NetworkRouteProfileEdit) (n : Node) (now : Int) : Result NetworkRouteProfileEdit := do
  if routeProfileEditRemovals e ≠ [] then
    reject (n.certificateGeneration = maxInt64)
      (conflict "owner certificate generation cannot advance")
    pure { e with
      promotedAt := now, phase := .cleaningOwner
      cleanupCertificateGeneration := n.certificateGeneration + 1 }
  else pure { e with promotedAt := now, phase := .completed, finishedAt := now }

/-- The state and the network after a step forward; `none` when the edit was completed before. -/
def advanceEdit (s : State) (w : Network) (n : Node) (now : Int) : Result (Option (State × Network)) := do
  let e := w.routeProfileEdit
  match e.phase with
  | .completed => pure none
  | .preparingOwner =>
    reject (¬ routeTransferNodeConverged s w n e.preparedCertificateGeneration)
      (conflict "prepared owner certificate has not converged")
    let nextRevision ← nextConfigRevision w.configRevision true
    let e' ← promotedEdit e n now
    let s' := putNode s { n with routedSubnets := e.desiredSubnets }
    pure (some (s', { reconcileNetworkRoutePolicies s' w with
      routeProfileEdit := e', configRevision := nextRevision, configUpdatedAt := now }))
  | .cleaningOwner =>
    reject (¬ routeTransferNodeConverged s w n e.cleanupCertificateGeneration)
      (conflict "cleaned owner certificate has not converged")
    pure (some (s, { w with routeProfileEdit := { e with phase := .completed, finishedAt := now } }))
  | _ => .error (conflict "route-profile edit is not advanceable")

structure UpdateRouteProfileEditInput where
  expectedConfigRevision : Int
  requestID : String

def editReplayed (w : Network) (cancel : Bool) (expectedConfigRevision : Int) : Bool :=
  w.routeProfileEdit.phase == (if cancel then .cancelled else .completed) &&
    terminalRouteTransitionReplayRevision expectedConfigRevision w.configRevision

def editCancelledEvent (actor : Option Actor) (eventID : String) (now : Int) (nodeID : String)
    (w : Network) : Result AuditEvent :=
  let e := w.routeProfileEdit
  newOptionalAttributedAudit eventID now
    (if e.phase = .cleaningCancelledOwner then "node.route_profile_edit_cancellation_started"
      else "node.route_profile_edit_cancelled") "node" nodeID
    [("request_id", .str e.requestID), ("phase", .str e.phase.text),
      ("config_revision", .int w.configRevision)] actor

def editAdvancedEvent (actor : Option Actor) (eventID : String) (now : Int) (nodeID : String)
    (w : Network) : Result AuditEvent :=
  let e := w.routeProfileEdit
  newOptionalAttributedAudit eventID now
    (if e.phase = .completed then "node.route_profile_edit_completed"
      else "node.route_profile_edit_promoted") "node" nodeID
    [("request_id", .str e.requestID), ("phase", .str e.phase.text),
      ("desired_routed_subnets", .str (joinWith "," e.desiredSubnets)),
      ("config_revision", .int w.configRevision)] actor

def updateRouteProfileEdit (actor : Option Actor) (rawNodeID : String)
    (raw : UpdateRouteProfileEditInput) (cancel : Bool) (eventID : String) (now : Int) (s : State) :
    Result State := do
  let nodeID := trimSpace rawNodeID
  let requestID := trimSpace raw.requestID
  reject (¬ validPersistedID nodeID ∨ raw.expectedConfigRevision < 1 ∨
      ¬ validRouteTransferRequestID requestID)
    (invalid "node ID, expected_config_revision, and request_id are required")
  reject (now = 0) (internal "route-profile update requires a valid timestamp")
  checkRouteSchema s "route-profile-edit schema is not current"
  let n ← require (findNode s nodeID) errNotFound
  let w ← require ((findNetwork s n.networkID).filter fun w => w.routeProfileEdit.nodeID = n.id)
    errNotFound
  reject (w.routeProfileEdit.requestID ≠ requestID)
    (conflict "request_id does not match the authoritative route-profile edit")
  if editReplayed w cancel raw.expectedConfigRevision then pure s
  else
    reject (w.configRevision ≠ raw.expectedConfigRevision)
      (revisionConflict raw.expectedConfigRevision w.configRevision)
    if cancel then
      match ← cancelEdit s w n now with
      | none => pure s
      | some w' =>
        let event ← editCancelledEvent actor eventID now n.id w'
        pure (commitNetwork s w' event)
    else
      match ← advanceEdit s w n now with
      | none => pure s
      | some (s', w') =>
        let event ← editAdvancedEvent actor eventID now n.id w'
        pure (commitNetwork s' w' event)

/-! ## Route policies -/

structure UpdateNetworkRoutePolicyInput where
  subnet : String
  gateways : List NetworkRoutePolicyGateway
  mtu : Int
  metric : Int
  expectedConfigRevision : Int
  requestID : String

/-- The prefix and the gateways of a request in their canonical form. -/
def normalizeRoutePolicyInput (networkID : String) (raw : UpdateNetworkRoutePolicyInput) :
    Result (String × List NetworkRoutePolicyGateway) := do
  let err := invalid ("canonical prefix, complete gateways, bounded controls, " ++
    "expected_config_revision, and a 16-128 character request_id are required")
  let p ← mapError (fun _ => err) (parseCanonicalRoutedSubnet (trimSpace raw.subnet))
  let gateways ← mapError (fun _ => err) (normalizeRoutePolicyGatewayInput raw.gateways)
  mapError (fun _ => err) (validateRoutePolicyControls raw.mtu raw.metric)
  reject (¬ validPersistedID networkID ∨ raw.expectedConfigRevision < 1 ∨
    ¬ validRouteTransferRequestID (trimSpace raw.requestID)) err
  pure (p.text, gateways)

def updateNetworkRoutePolicy (actor : Option Actor) (rawNetworkID : String)
    (raw : UpdateNetworkRoutePolicyInput) (eventID : String) (now : Int) (s : State) :
    Result State := do
  let networkID := trimSpace rawNetworkID
  let requestID := trimSpace raw.requestID
  let (subnet, gateways) ← normalizeRoutePolicyInput networkID raw
  reject (now = 0) (internal "route-policy update requires a valid timestamp")
  reject (s.version < controlStateVersionRoutePolicies ∨ controlStateVersionFirewallScopes < s.version)
    (conflict "route-policy schema is not current")
  let w ← require (findNetwork s networkID) errNotFound
  let owners := activeRouteOwners s w.id subnet
  reject (owners = []) (Failure.mk .notFound "not found: routed prefix is not active in this network")
  reject (¬ routePolicyOwnersMatch gateways owners)
    (conflict "gateways must exactly match the current active certificate owners")
  match (storedRoutePolicy w subnet).filter fun existing => existing.requestID = requestID with
  | some existing =>
    reject (¬ routePolicySettingsEqual existing gateways raw.mtu raw.metric)
      (conflict "request_id is already bound to different route-policy input")
    pure s
  | none =>
    reject (¬ networkRoutePolicyUpdateAvailable w ∨ w.configRevision ≠ raw.expectedConfigRevision)
      (conflict "network is not at the requested stable revision")
    let nextRevision ← nextConfigRevision w.configRevision true
    let policy : NetworkRoutePolicy := {
      subnet := subnet, gateways := gateways, mtu := raw.mtu, metric := raw.metric
      requestID := requestID, configRevision := nextRevision, updatedAt := now }
    let event ← newOptionalAttributedAudit eventID now "network.route_policy_updated" "network" w.id [
      ("request_id", .str requestID), ("prefix", .str subnet), ("gateway_count", .int gateways.length),
      ("mtu", .int raw.mtu), ("metric", .int raw.metric),
      ("previous_config_revision", .int raw.expectedConfigRevision),
      ("config_revision", .int nextRevision)] actor
    pure (commitNetwork s { w with
      routePolicies := insertRoutePolicy policy w.routePolicies
      configRevision := nextRevision, configUpdatedAt := now } event)

end Mesh
