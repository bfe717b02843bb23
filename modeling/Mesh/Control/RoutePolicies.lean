import Mesh.Control.RouteChanges

/-!
# Mesh.Control.RoutePolicies

Route-specific controls of a live routed prefix. The gateways of a policy are exactly the active
enrolled owners of its prefix: `reconcileNetworkRoutePolicies` restores that after an ownership
change and `validateNetworkRoutePolicies` checks it in every stored state.
-/

namespace Mesh

open Address

def maxRoutePolicyWeight : Int := 1000

def maxRoutePolicyMTU : Int := 65535

def maxInt32 : Int := 2147483647

/-- The gateways with trimmed identifiers, checked in order against those before them. -/
def checkRoutePolicyGateways : Nat → List String → List NetworkRoutePolicyGateway →
    Result (List NetworkRoutePolicyGateway)
  | _, _, [] => .ok []
  | index, seen, g :: rest => do
    let id := trimSpace g.nodeID
    reject (¬ validPersistedID id)
      (internal ("gateway " ++ toString index ++ " has an invalid node_id"))
    reject (g.weight < 1 ∨ maxRoutePolicyWeight < g.weight)
      (internal ("gateway " ++ toString index ++ " weight must be in range 1-" ++
        toString maxRoutePolicyWeight))
    reject (id ∈ seen) (internal ("gateway node " ++ id ++ " is duplicated"))
    let gs ← checkRoutePolicyGateways (index + 1) (id :: seen) rest
    pure ({ g with nodeID := id } :: gs)

def sortGateways (gs : List NetworkRoutePolicyGateway) : List NetworkRoutePolicyGateway :=
  gs.insertionSort fun a b => a.nodeID ≤ b.nodeID

def normalizeRoutePolicyGatewayInput (values : List NetworkRoutePolicyGateway) :
    Result (List NetworkRoutePolicyGateway) := do
  reject (values.length < 1 ∨ maxRoutePolicyGateways < values.length)
    (internal ("a route policy requires 1-" ++ toString maxRoutePolicyGateways ++ " gateways"))
  let gs ← checkRoutePolicyGateways 1 [] values
  pure (sortGateways gs)

def validateRoutePolicyControls (mtu metric : Int) : Result Unit := do
  reject (mtu ≠ 0 ∧ (mtu < 500 ∨ maxRoutePolicyMTU < mtu))
    (internal ("MTU must be 0 or in range 500-" ++ toString maxRoutePolicyMTU))
  reject (metric < 0 ∨ maxInt32 < metric)
    (internal ("metric must be in range 0-" ++ toString maxInt32))

/-- The node takes part in routing for the network. -/
def liveIn (networkID : String) (n : Node) : Bool :=
  n.networkID == networkID && n.status == .active && n.enrolledAt.isSome

def sortNodesByID (ns : List Node) : List Node := ns.insertionSort fun a b => a.id ≤ b.id

def activeRouteOwners (s : State) (networkID subnet : String) : List Node :=
  sortNodesByID (s.nodes.filter fun n => liveIn networkID n && subnet ∈ n.routedSubnets)

/-- Policies are sorted by prefix, so the binary search of the source is a lookup. -/
def storedRoutePolicy (w : Network) (subnet : String) : Option NetworkRoutePolicy :=
  Keyed.lookup NetworkRoutePolicy.subnet subnet w.routePolicies

/-- The weight a policy stores for a gateway; an absent or zero weight counts as one. -/
def gatewayWeight (gs : List NetworkRoutePolicyGateway) (nodeID : String) : Int :=
  match (gs.reverse.find? fun g => g.nodeID == nodeID).map NetworkRoutePolicyGateway.weight with
  | none => 1
  | some weight => if weight = 0 then 1 else weight

def ownerGateways (gs : List NetworkRoutePolicyGateway) (owners : List Node) :
    List NetworkRoutePolicyGateway :=
  owners.map fun owner => ⟨owner.id, gatewayWeight gs owner.id⟩

def effectiveRoutePolicy (s : State) (w : Network) (subnet : String) : NetworkRoutePolicy :=
  let owners := activeRouteOwners s w.id subnet
  let policy := (storedRoutePolicy w subnet).getD { subnet := subnet }
  { policy with gateways := ownerGateways policy.gateways owners }

def routePolicyOwnersMatch (gs : List NetworkRoutePolicyGateway) (owners : List Node) : Bool :=
  gs.map NetworkRoutePolicyGateway.nodeID == owners.map Node.id

def routePolicySettingsEqual (policy : NetworkRoutePolicy) (gs : List NetworkRoutePolicyGateway)
    (mtu metric : Int) : Bool :=
  policy.mtu == mtu && policy.metric == metric && policy.gateways == gs

def networkRoutePolicyUpdateAvailable (w : Network) : Bool :=
  w.caRotation.phase == .stable && w.firewallRollout.phase == .stable &&
    routeTransferTerminal w.routeTransfer && routeProfileEditTerminal w.routeProfileEdit

/-- Stores a policy at its place in the order of prefixes. -/
def insertRoutePolicy (policy : NetworkRoutePolicy) : List NetworkRoutePolicy → List NetworkRoutePolicy
  | [] => [policy]
  | p :: ps =>
    if p.subnet = policy.subnet then policy :: ps
    else if policy.subnet < p.subnet then policy :: p :: ps
    else p :: insertRoutePolicy policy ps

/-- The policies whose prefix is still owned, with the owners as gateways. -/
def reconcileNetworkRoutePolicies (s : State) (w : Network) : Network :=
  { w with routePolicies := w.routePolicies.filterMap fun policy =>
      let owners := activeRouteOwners s w.id policy.subnet
      if owners = [] then none
      else some { policy with gateways := ownerGateways policy.gateways owners } }

def validateNetworkRoutePolicy (s : State) (w : Network) (policy : NetworkRoutePolicy) : Result Unit := do
  mapError (fun e => internal ("route policy " ++ policy.subnet ++ " controls: " ++ e.text))
    (validateRoutePolicyControls policy.mtu policy.metric)
  let err := internal ("route policy " ++ policy.subnet ++ " gateways are invalid or non-canonical")
  let gs ← mapError (fun _ => err) (normalizeRoutePolicyGatewayInput policy.gateways)
  reject (gs ≠ policy.gateways) err
  reject (¬ routePolicyOwnersMatch policy.gateways (activeRouteOwners s w.id policy.subnet))
    (internal ("route policy " ++ policy.subnet ++ " gateways do not match active certificate owners"))
  reject (¬ validRouteTransferRequestID policy.requestID ∨ policy.configRevision < 1 ∨
      w.configRevision < policy.configRevision ∨ policy.updatedAt = 0)
    (internal ("route policy " ++ policy.subnet ++ " receipt metadata is invalid"))

/-- Canonical prefixes in strictly increasing order, each with a valid policy. -/
def validateRoutePolicyList (s : State) (w : Network) : String → List NetworkRoutePolicy → Result Unit
  | _, [] => .ok ()
  | previous, policy :: rest => do
    let err := internal "route policies are not canonical and deterministically ordered"
    let _ ← mapError (fun _ => err) (parseCanonicalRoutedSubnet policy.subnet)
    reject (previous ≠ "" ∧ ¬ previous < policy.subnet) err
    validateNetworkRoutePolicy s w policy
    validateRoutePolicyList s w policy.subnet rest

def validateNetworkRoutePolicies (s : State) (w : Network) : Result Unit :=
  validateRoutePolicyList s w "" w.routePolicies

end Mesh
