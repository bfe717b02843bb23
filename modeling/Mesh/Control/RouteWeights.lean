import Mesh.Control.NodeSteps
import Mesh.Control.Play

/-!
# Mesh.Control.RouteWeights

Route policies follow ownership. In a valid state the gateways of a policy are the active owners of its prefix.
A transaction that touches nodes leaves the policies of a network as they are, or reconciles them with the owners
it leaves (`Routed`), and reconciling keeps the weight of every gateway that still owns
the prefix (`gateway_survives_iff`).
-/

namespace Mesh

open Keyed

/-! ## Owners -/

/-- The node is an active owner of the prefix in the network. -/
def OwnsRoute (networkID subnet : String) (n : Node) : Prop :=
  liveIn networkID n = true ∧ subnet ∈ n.routedSubnets

theorem mem_activeRouteOwners {s : State} {networkID subnet : String} {n : Node} :
    n ∈ activeRouteOwners s networkID subnet ↔ n ∈ s.nodes ∧ OwnsRoute networkID subnet n := by
  simp only [activeRouteOwners, sortNodesByID, List.mem_insertionSort, List.mem_filter, Bool.and_eq_true,
    decide_eq_true_eq, OwnsRoute]

/-! ## Weights -/

section Weights

variable {s s' : State} {w w' : Network} {p : NetworkRoutePolicy} {g : NetworkRoutePolicyGateway}

/-- The gateways of a stored policy are the active owners of its prefix. -/
theorem PolicyStored.mem_gateways (h : PolicyStored s w p) {id : String} :
    (∃ g ∈ p.gateways, g.nodeID = id) ↔ ∃ n ∈ s.nodes, n.id = id ∧ OwnsRoute w.id p.subnet n := by
  rw [← List.mem_map, h.owners, List.mem_map]
  refine exists_congr fun n => ?_
  rw [mem_activeRouteOwners]
  tauto

/-- The policy of a prefix that is still owned is reconciled and not dropped, and a gateway that is an owner
still has its weight in it. -/
theorem mem_reconciled (hp : p ∈ w.routePolicies) (hd : (p.gateways.map NetworkRoutePolicyGateway.nodeID).Nodup)
    (hg : g ∈ p.gateways) (hpos : 1 ≤ g.weight) {n : Node} (hn : n ∈ s'.nodes) (hid : n.id = g.nodeID)
    (howns : OwnsRoute w.id p.subnet n) :
    ∃ p' ∈ (reconcileNetworkRoutePolicies s' w).routePolicies, p'.subnet = p.subnet ∧ g ∈ p'.gateways := by
  have howner : n ∈ activeRouteOwners s' w.id p.subnet := mem_activeRouteOwners.mpr ⟨hn, howns⟩
  refine ⟨_, List.mem_filterMap.mpr ⟨p, hp, if_neg (List.ne_nil_of_mem howner)⟩, rfl, ?_⟩
  refine List.mem_map.mpr ⟨n, howner, ?_⟩
  rw [hid, gatewayWeight_eq hd hg hpos]

/-- After a transaction that touches nodes, a gateway has its weight in the policy of its prefix exactly when it
still owns the prefix. -/
theorem gateway_survives_iff (hv : ValidGraph s) (hc : Current s) (hv' : ValidGraph s') (hc' : Current s')
    (h : Routed s s') (hnodes : s'.nodes ≠ s.nodes) (hw : w ∈ s.networks) (hw' : w' ∈ s'.networks)
    (hid : w'.id = w.id) (hp : p ∈ w.routePolicies) (hg : g ∈ p.gateways) :
    (∃ p' ∈ w'.routePolicies, p'.subnet = p.subnet ∧ g ∈ p'.gateways) ↔
      ∃ n ∈ s'.nodes, n.id = g.nodeID ∧ OwnsRoute w.id p.subnet n := by
  have hstored := hv.policyStored hc hw p hp
  obtain ⟨-, hd, hpos⟩ := normalizeRoutePolicyGatewayInput_spec hstored.normal
  constructor
  · rintro ⟨p', hp', hsubnet, hg'⟩
    have := (hv'.policyStored hc' hw' p' hp').mem_gateways.mp ⟨g, hg', rfl⟩
    rwa [hsubnet, hid] at this
  · rintro ⟨n, hn, hnid, howns⟩
    cases h with
    | quiet hkept => exact absurd hkept hnodes
    | moved hmoved =>
      obtain ⟨v, hv₁, hwritten⟩ | hnew := hmoved w' hw'
      · obtain rfl : v = w := Keyed.eq_of_key_eq hv.networkIDs hv₁ hw (hwritten.id.symm.trans hid)
        rcases hwritten.policies with hsame | hreconciled
        · exact ⟨p, hsame ▸ hp, rfl, hg⟩
        · rw [hreconciled]
          exact mem_reconciled hp hd hg (hpos g hg) hn hnid howns
      · exact hnew.elim

end Weights

/-- A gateway with a weight of its own, and the enrollment of another gateway. -/
def weightRun : World.Passed (World.playLast (stepEval.1 Setting.env) Setting.start
    [Setting.network, Setting.node 2 { name := "", routedSubnets := ["192.168.0.0/24"] },
      Setting.claim 2 (Setting.minutes 3), .issue 0 (Setting.certificate 1) "e2" (Setting.minutes 4),
      .op { eventID := "e3", now := Setting.minutes 5 } (.updateNetworkRoutePolicy "w1"
        { subnet := "192.168.0.0/24", gateways := [⟨"n2", 7⟩], mtu := 0, metric := 0
          expectedConfigRevision := 2, requestID := "request-0123456789" }),
      Setting.node 6 { name := "", routedSubnets := ["192.168.1.0/24"] }, Setting.claim 6 (Setting.minutes 7)]
    (.issue 0 (Setting.certificate 2) "e8" (Setting.minutes 8)) fun w w' =>
    decide (w'.state.nodes.map Node.status ≠ w.state.nodes.map Node.status) &&
      w.state.networks.any fun v => w'.state.networks.any fun v' => decide (v'.id = v.id) &&
        v.routePolicies.any fun p => decide (p.gateways = [⟨"n2", 7⟩]) && w'.state.nodes.any fun n =>
          decide (n.id = "n2" ∧ liveIn v.id n = true ∧ p.subnet ∈ n.routedSubnets)) where
  holds := by decide +kernel

end Mesh
