import Mesh.Control.State
import Mesh.Lib.Address

/-!
# Mesh.Control.Routes

Routed subnets: their canonical text form, the address space that is reserved by managed networks,
routed subnets and staged additions, and the phases in which a staged route change is in progress.
-/

namespace Mesh

open Address

def maxRoutedSubnetsPerNode : Nat := 8

def maxRoutePolicyGateways : Nat := 8

/-! ## Canonical subnets -/

/-- A canonical unicast IPv4 prefix that is not the default route. -/
def parseCanonicalRoutedSubnet (value : String) : Result Subnet := do
  reject (value = "" ∨ trimSpace value ≠ value)
    (internal "must be a canonical IPv4 CIDR without surrounding whitespace")
  let p ← require ((parsePrefix4 value).filter fun p => p = p.masked ∧ p.text = value)
    (internal "must be a canonical IPv4 CIDR")
  reject (p.bits < 1 ∨ ¬ isGlobalUnicast4 p.addr)
    (internal "must identify a non-default unicast IPv4 range")
  pure p

/-- The prefixes of the values in order, without duplicates. -/
def parseRoutedSubnets : Nat → List Subnet → List String → Result (List Subnet)
  | _, _, [] => .ok []
  | index, seen, raw :: rest => do
    let p ← mapError (fun e => invalid ("routed subnet " ++ toString index ++ ": " ++ e.text))
      (parseCanonicalRoutedSubnet (trimSpace raw))
    reject (p ∈ seen) (invalid ("routed subnet \"" ++ p.text ++ "\" is duplicated"))
    let ps ← parseRoutedSubnets (index + 1) (p :: seen) rest
    pure (p :: ps)

/-- `sort.Slice` by `compareIPv4Prefixes`. -/
def sortSubnets (ps : List Subnet) : List Subnet := ps.insertionSort fun p q => p.le q = true

/-- No two neighbours overlap. -/
def checkNeighbours : List Subnet → Result Unit
  | p :: q :: rest => do
    reject (prefixesOverlap p q)
      (invalid ("routed subnets " ++ p.text ++ " and " ++ q.text ++ " overlap"))
    checkNeighbours (q :: rest)
  | _ => .ok ()

def normalizeRoutedSubnets (values : List String) : Result (List String) := do
  reject (maxRoutedSubnetsPerNode < values.length)
    (invalid ("a node may own at most " ++ toString maxRoutedSubnetsPerNode ++ " routed subnets"))
  let ps ← parseRoutedSubnets 1 [] values
  checkNeighbours (sortSubnets ps)
  pure ((sortSubnets ps).map Subnet.text)

def validateCanonicalRoutedSubnets (values : List String) : Result Unit := do
  let normalized ← normalizeRoutedSubnets values
  reject (normalized.length ≠ values.length) (internal "routed subnets are not canonical")
  reject (normalized ≠ values)
    (internal "routed subnets are not canonical and deterministically ordered")

/-! ## Sets of subnets -/

/-- The values of the first list that are not in the second. -/
def subnetDifference (left right : List String) : List String := left.filter fun r => r ∉ right

def subtractSubnets (owner removed : List String) : List String := owner.filter fun r => r ∉ removed

def subnetSetContainsAll (owner requested : List String) : Bool := requested.all fun r => r ∈ owner

/-- The error of the normalization is dropped, and with it the result. -/
def mergeSubnets (left right : List String) : List String :=
  match normalizeRoutedSubnets (left ++ right) with
  | .ok result => result
  | .error _ => []

/-! ## Staged route changes -/

def routeTransferActive (t : NetworkRouteTransfer) : Bool :=
  t.phase == .preparingTarget || t.phase == .cleaningSource || t.phase == .cleaningTarget

def routeTransferTerminal (t : NetworkRouteTransfer) : Bool :=
  decide (t = {}) || t.phase == .completed || t.phase == .cancelled

def routeTransferIncludesNode (t : NetworkRouteTransfer) (nodeID : String) : Bool :=
  routeTransferActive t && (t.sourceNodeID == nodeID || t.targetNodeID == nodeID)

def routeProfileEditActive (e : NetworkRouteProfileEdit) : Bool :=
  e.phase == .preparingOwner || e.phase == .cleaningOwner || e.phase == .cleaningCancelledOwner

def routeProfileEditTerminal (e : NetworkRouteProfileEdit) : Bool :=
  decide (e = {}) || e.phase == .completed || e.phase == .cancelled

def routeProfileEditIncludesNode (e : NetworkRouteProfileEdit) (nodeID : String) : Bool :=
  routeProfileEditActive e && e.nodeID == nodeID

def routeProfileEditAdditions (e : NetworkRouteProfileEdit) : List String :=
  subnetDifference e.desiredSubnets e.originalSubnets

def routeProfileEditRemovals (e : NetworkRouteProfileEdit) : List String :=
  subnetDifference e.originalSubnets e.desiredSubnets

/-! ## Reserved address space -/

inductive ReservationKind where
  | managedNetwork
  | routedSubnet
deriving DecidableEq

def ReservationKind.text : ReservationKind → String
  | .managedNetwork => "managed network"
  | .routedSubnet => "routed subnet"

structure ReservedIPv4Prefix where
  subnet : Subnet
  owner : String
  networkID : String
  kind : ReservationKind
deriving DecidableEq

def networkReservation (w : Network) : Result ReservedIPv4Prefix := do
  let p ← require (parsePrefix4 w.cidr) (internal ("network " ++ w.id ++ " has an invalid CIDR"))
  pure ⟨p, w.id, w.id, .managedNetwork⟩

/-- The subnets `values` reserved for a node. -/
def nodeReservations (n : Node) (e : Failure) (values : List String) : Result (List ReservedIPv4Prefix) :=
  mapAll (fun value => do
    let p ← require (parsePrefix4 value) e
    pure ⟨p, n.id, n.networkID, .routedSubnet⟩) values

/-- What a staged edit reserves in advance: the additions its node does not own yet. -/
def stagedReservations (s : State) (w : Network) : Result (List ReservedIPv4Prefix) := do
  if ¬ routeProfileEditActive w.routeProfileEdit then pure []
  else
    let owner ← require (findNode s w.routeProfileEdit.nodeID)
      (internal ("network " ++ w.id ++ " has a route-profile edit for a missing node"))
    nodeReservations owner (internal ("network " ++ w.id ++ " has an invalid staged routed subnet"))
      ((routeProfileEditAdditions w.routeProfileEdit).filter fun v => v ∉ owner.routedSubnets)

def activeReservedIPv4Prefixes (s : State) : Result (List ReservedIPv4Prefix) := do
  let managed ← mapAll networkReservation s.networks
  let routed ← mapAll (fun n => nodeReservations n
    (internal ("node " ++ n.id ++ " has an invalid routed subnet")) n.routedSubnets)
    (s.nodes.filter fun n => n.status ≠ .revoked)
  let staged ← mapAll (stagedReservations s) s.networks
  pure (managed ++ routed.flatten ++ staged.flatten)

/-- The order of the validator: by prefix, then kind, then owner. -/
def ReservedIPv4Prefix.le (a b : ReservedIPv4Prefix) : Bool :=
  if a.subnet = b.subnet then
    if a.kind = b.kind then decide (a.owner ≤ b.owner)
    else decide (a.kind.text ≤ b.kind.text)
  else a.subnet.le b.subnet

/-- Two gateways of one network for the same prefix. -/
def sharedRoute (a b : ReservedIPv4Prefix) : Bool :=
  a.kind = .routedSubnet && b.kind = .routedSubnet && a.networkID = b.networkID && a.subnet = b.subnet

def checkReservations : List ReservedIPv4Prefix → Result Unit
  | previous :: current :: rest => do
    if prefixesOverlap previous.subnet current.subnet then
      if sharedRoute previous current then
        reject (maxRoutePolicyGateways < 1 + ((current :: rest).takeWhile (sharedRoute current)).length)
          (internal ("routed subnet " ++ current.subnet.text ++ " has more than " ++
            toString maxRoutePolicyGateways ++ " gateways"))
      else .error (internal (previous.kind.text ++ " " ++ previous.subnet.text ++ " owned by " ++
        previous.owner ++ " overlaps " ++ current.kind.text ++ " " ++ current.subnet.text ++
        " owned by " ++ current.owner))
    checkReservations (current :: rest)
  | _ => .ok ()

def validateReservedIPv4PrefixGraph (s : State) : Result Unit := do
  let reservations ← activeReservedIPv4Prefixes s
  checkReservations (reservations.insertionSort fun a b => a.le b = true)

/-- The prefix of a text the validator has accepted; `netip.ParsePrefix` with its error dropped
leaves the zero prefix, which no stored text reads as. -/
def storedSubnet (value : String) : Subnet := (parsePrefix4 value).getD ⟨0, 0⟩

def overlapError (p : Subnet) (r : ReservedIPv4Prefix) : Failure :=
  conflict ("routed subnet " ++ p.text ++ " overlaps " ++ r.kind.text ++ " " ++ r.subnet.text ++
    " owned by " ++ r.owner)

def validateNewRoutedSubnets (s : State) (subnets : List String) : Result Unit := do
  if subnets = [] then pure ()
  else
    let reservations ← activeReservedIPv4Prefixes s
    checkAll (fun value => checkAll (fun r =>
      reject (prefixesOverlap (storedSubnet value) r.subnet) (overlapError (storedSubnet value) r))
      reservations) subnets

/-- The reservation does not stand against a new route of the node: it is the node's own, or the
same route of another active gateway of its network. -/
def reservationAllowed (s : State) (node : Node) (p : Subnet) (r : ReservedIPv4Prefix) : Bool :=
  (r.kind = .routedSubnet && r.owner = node.id) ||
    (r.kind = .routedSubnet && r.networkID = node.networkID && p = r.subnet &&
      (findNode s r.owner).any fun owner => owner.status = .active && owner.enrolledAt.isSome)

def validateRoutedSubnetsForNode (s : State) (nodeID : String) (subnets : List String) : Result Unit := do
  let node ← require (findNode s nodeID) errNotFound
  let reservations ← activeReservedIPv4Prefixes s
  checkAll (fun value => checkAll (fun r =>
    reject (¬ reservationAllowed s node (storedSubnet value) r ∧
        prefixesOverlap (storedSubnet value) r.subnet)
      (overlapError (storedSubnet value) r)) reservations) subnets

/-- The routed or staged subnet a new managed network would overlap. -/
def managedCIDROverlapsRoutedSubnet (s : State) (cidr : String) : Option String :=
  match parsePrefix4 cidr with
  | none => none
  | some p =>
    let overlaps (value : String) : Bool := (parsePrefix4 value).any (prefixesOverlap p)
    (((s.nodes.filter fun n => n.status ≠ .revoked).flatMap Node.routedSubnets) ++
      (s.networks.filter fun w => routeProfileEditActive w.routeProfileEdit).flatMap fun w =>
        routeProfileEditAdditions w.routeProfileEdit).find? overlaps

end Mesh
