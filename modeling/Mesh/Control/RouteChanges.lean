import Mesh.Control.Routes

/-!
# Mesh.Control.RouteChanges

The two staged changes of certificate-authorized routes. A route transfer moves prefixes from one
active gateway to another; a route-profile edit replaces the whole prefix set of one active node.
Either first asks for a certificate that carries the union, then changes ownership, then asks for a
certificate without what was given up.

`certificateRoutedSubnets` is what the next certificate of a node must carry, and
`networkCertificateProfileRenewalRequired` says that its current one was issued before the stage.
-/

namespace Mesh

open Address

/-- `strings.ContainsAny(value, "\r\n\t ")`. -/
def containsBlank (s : String) : Bool :=
  s.toList.any fun c => c == '\r' || c == '\n' || c == '\t' || c == ' '

def validRouteTransferRequestID (raw : String) : Bool :=
  let value := trimSpace raw
  16 ≤ value.utf8ByteSize && value.utf8ByteSize ≤ 128 && !containsBlank value

/-! ## Route transfers -/

/-- What each phase says about the instants and generations of a transfer. -/
def validateRouteTransferPhase (t : NetworkRouteTransfer) : Result Unit := do
  reject (t.phase = .preparingTarget ∧
      (t.promotedAt ≠ 0 ∨ t.finishedAt ≠ 0 ∨ t.sourceCertificateGeneration ≠ 0))
    (internal "prepare phase has invalid transition metadata")
  reject (t.phase = .cleaningTarget ∧
      (t.promotedAt ≠ 0 ∨ t.finishedAt ≠ 0 ∨ t.sourceCertificateGeneration ≠ 0))
    (internal "target cleanup has invalid transition metadata")
  reject (t.phase = .cleaningSource ∧
      (t.promotedAt = 0 ∨ t.finishedAt ≠ 0 ∨ t.sourceCertificateGeneration < 1))
    (internal "source cleanup has invalid transition metadata")
  reject (t.phase = .completed ∧
      (t.promotedAt = 0 ∨ t.finishedAt = 0 ∨ t.sourceCertificateGeneration < 1))
    (internal "completion metadata is invalid")
  reject (t.phase = .cancelled ∧
      (t.promotedAt ≠ 0 ∨ t.finishedAt = 0 ∨ t.sourceCertificateGeneration ≠ 0))
    (internal "cancellation metadata is invalid")

/-- Ownership of an active transfer matches the snapshots of its phase. -/
def validateRouteTransferOwnership (s : State) (w : Network) : Result Unit := do
  let t := w.routeTransfer
  let err := internal "active transfer participants are not active nodes in the network"
  let source ← require (findNode s t.sourceNodeID) err
  let target ← require (findNode s t.targetNodeID) err
  reject (source.networkID ≠ w.id ∨ target.networkID ≠ w.id ∨ source.status ≠ .active ∨
    target.status ≠ .active) err
  if t.phase = .cleaningSource then
    reject (source.routedSubnets ≠ subtractSubnets t.sourceOriginalSubnets t.routedSubnets ∨
        target.routedSubnets ≠ mergeSubnets t.targetOriginalSubnets t.routedSubnets)
      (internal "promoted transfer ownership differs from its snapshots")
  else
    reject (source.routedSubnets ≠ t.sourceOriginalSubnets ∨
        target.routedSubnets ≠ t.targetOriginalSubnets)
      (internal "unpromoted transfer ownership differs from its snapshots")

def validateNetworkRouteTransfer (s : State) (w : Network) : Result Unit := do
  let t := w.routeTransfer
  if t = {} then pure ()
  else
    reject (¬ validRouteTransferRequestID t.requestID ∨ ¬ validPersistedID t.sourceNodeID ∨
        ¬ validPersistedID t.targetNodeID ∨ t.sourceNodeID = t.targetNodeID ∨ t.startedAt = 0)
      (internal "identity, request, or start metadata is invalid")
    reject (t.phase = .none) (internal "phase is invalid")
    mapError (fun _ => internal "transferred prefixes are invalid")
      (validateCanonicalRoutedSubnets t.routedSubnets)
    reject (t.routedSubnets = []) (internal "transferred prefixes are invalid")
    mapError (fun _ => internal "source prefix snapshot is invalid")
      (validateCanonicalRoutedSubnets t.sourceOriginalSubnets)
    reject (t.sourceOriginalSubnets = []) (internal "source prefix snapshot is invalid")
    mapError (fun _ => internal "target prefix snapshot is invalid")
      (validateCanonicalRoutedSubnets t.targetOriginalSubnets)
    reject (¬ subnetSetContainsAll t.sourceOriginalSubnets t.routedSubnets ∨
        t.targetCertificateGeneration < 1)
      (internal "transfer generations or source ownership are invalid")
    validateRouteTransferPhase t
    if routeTransferActive t then validateRouteTransferOwnership s w else pure ()

/-! ## Route-profile edits -/

/-- Additions may not overlap what the node has, and the staged union stays within the bound. -/
def validateRouteProfileTransition (original desired : List String) : Result Unit := do
  let additions := subnetDifference desired original
  checkAll (fun added => do
    let a ← require (parsePrefix4 added) (invalid "desired routed subnet is invalid")
    checkAll (fun existing => do
      let p ← require (parsePrefix4 existing) (conflict "current routed subnet is invalid")
      reject (prefixesOverlap a p)
        (invalid ("routed subnet " ++ a.text ++ " overlaps current routed subnet " ++ p.text ++
          "; remove the old prefix in one completed edit before adding the overlapping replacement")))
      original) additions
  reject (maxRoutedSubnetsPerNode < original.length + additions.length)
    (invalid ("certificate-first staging would require " ++
      toString (original.length + additions.length) ++ " routed subnets; complete removals first " ++
      "so the staged profile stays within " ++ toString maxRoutedSubnetsPerNode))

def routeProfileEditDesiredGeneration (e : NetworkRouteProfileEdit) : Int :=
  match e.phase with
  | .preparingOwner => e.preparedCertificateGeneration
  | .cleaningOwner | .cleaningCancelledOwner => e.cleanupCertificateGeneration
  | _ => 0

/-- What each phase says about the instants and generations of an edit. -/
def validateRouteProfileEditPhase (e : NetworkRouteProfileEdit) : Result Unit :=
  let additions := routeProfileEditAdditions e
  let removals := routeProfileEditRemovals e
  match e.phase with
  | .preparingOwner =>
    reject (additions = [] ∨ e.cleanupCertificateGeneration ≠ 0 ∨ e.promotedAt ≠ 0 ∨ e.finishedAt ≠ 0)
      (internal "prepare phase metadata is invalid")
  | .cleaningOwner =>
    reject (removals = [] ∨ e.cleanupCertificateGeneration < 1 ∨ e.promotedAt = 0 ∨ e.finishedAt ≠ 0)
      (internal "owner cleanup metadata is invalid")
  | .cleaningCancelledOwner =>
    reject (additions = [] ∨ e.cleanupCertificateGeneration < 1 ∨ e.promotedAt ≠ 0 ∨ e.finishedAt ≠ 0)
      (internal "cancelled-owner cleanup metadata is invalid")
  | .completed =>
    reject (e.promotedAt = 0 ∨ e.finishedAt = 0 ∨ (removals ≠ [] ∧ e.cleanupCertificateGeneration < 1) ∨
        (removals = [] ∧ e.cleanupCertificateGeneration ≠ 0))
      (internal "completion metadata is invalid")
  | .cancelled =>
    reject (e.promotedAt ≠ 0 ∨ e.finishedAt = 0) (internal "cancellation metadata is invalid")
  | .none => .ok ()

/-- The owner of an active edit: its generation is the one asked for or the one before, and its
routes are those of the phase. -/
def validateRouteProfileEditOwnership (s : State) (w : Network) : Result Unit := do
  let e := w.routeProfileEdit
  reject (routeTransferActive w.routeTransfer)
    (internal "route-profile edit overlaps an active route transfer")
  let err := internal "active route-profile owner is not an active enrolled node in the network"
  let owner ← require (findNode s e.nodeID) err
  reject (owner.networkID ≠ w.id ∨ owner.status ≠ .active ∨ owner.enrolledAt = none) err
  let desired := routeProfileEditDesiredGeneration e
  reject (desired ≠ owner.certificateGeneration ∧
      (owner.certificateGeneration = maxInt64 ∨ desired ≠ owner.certificateGeneration + 1))
    (internal "active route-profile desired certificate generation is not current or next")
  reject (owner.routedSubnets ≠
      if e.phase = .cleaningOwner then e.desiredSubnets else e.originalSubnets)
    (internal "active route-profile ownership differs from its durable phase snapshot")

def validateNetworkRouteProfileEdit (s : State) (w : Network) : Result Unit := do
  let e := w.routeProfileEdit
  if e = {} then pure ()
  else
    reject (¬ validRouteTransferRequestID e.requestID ∨ ¬ validPersistedID e.nodeID ∨ e.startedAt = 0)
      (internal "identity, request, or start metadata is invalid")
    reject (e.phase = .none) (internal "phase is invalid")
    mapError (fun _ => internal "original prefix snapshot is invalid")
      (validateCanonicalRoutedSubnets e.originalSubnets)
    mapError (fun _ => internal "desired prefix snapshot is invalid")
      (validateCanonicalRoutedSubnets e.desiredSubnets)
    let additions := routeProfileEditAdditions e
    let removals := routeProfileEditRemovals e
    reject (additions = [] ∧ removals = [])
      (internal "route profile edit does not change the prefix set")
    reject ((additions = [] ∧ e.preparedCertificateGeneration ≠ 0) ∨
        (additions ≠ [] ∧ e.preparedCertificateGeneration < 1))
      (internal "prepared certificate generation is inconsistent with additions")
    validateRouteProfileEditPhase e
    if routeProfileEditActive e then validateRouteProfileEditOwnership s w else pure ()

/-! ## What certificates must carry -/

/-- The subnets an active edit of the node asks for. -/
def routeProfileCertificateRoutedSubnets (w : Network) (n : Node) : Option (List String) :=
  let e := w.routeProfileEdit
  if n.id ≠ e.nodeID then none
  else
    match e.phase with
    | .preparingOwner => some (mergeSubnets e.originalSubnets e.desiredSubnets)
    | .cleaningOwner => some e.desiredSubnets
    | .cleaningCancelledOwner => some e.originalSubnets
    | _ => none

def certificateRoutedSubnets (w : Network) (n : Node) : List String :=
  let t := w.routeTransfer
  if t.phase = .preparingTarget ∧ n.id = t.targetNodeID then
    mergeSubnets t.targetOriginalSubnets t.routedSubnets
  else if t.phase = .cleaningTarget ∧ n.id = t.targetNodeID then t.targetOriginalSubnets
  else (routeProfileCertificateRoutedSubnets w n).getD n.routedSubnets

def routeProfileCertificateRenewalRequired (w : Network) (n : Node) : Bool :=
  if n.id ≠ w.routeProfileEdit.nodeID then false
  else
    let desired := routeProfileEditDesiredGeneration w.routeProfileEdit
    0 < desired && n.certificateGeneration < desired

def networkCertificateProfileRenewalRequired (w : Network) (n : Node) : Bool :=
  let t := w.routeTransfer
  match t.phase with
  | .preparingTarget | .cleaningTarget =>
    n.id == t.targetNodeID && n.certificateGeneration < t.targetCertificateGeneration
  | .cleaningSource =>
    n.id == t.sourceNodeID && n.certificateGeneration < t.sourceCertificateGeneration
  | _ => routeProfileCertificateRenewalRequired w n

/-- A terminal transition may be asked for again with the revision before it. -/
def terminalRouteTransitionReplayRevision (expected current : Int) : Bool :=
  expected == current || (1 < current && expected == current - 1)

end Mesh
