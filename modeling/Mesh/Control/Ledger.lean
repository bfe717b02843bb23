import Mesh.Control.Effects

/-!
# Mesh.Control.Ledger

What a transaction may write over: the audit log only grows, a counter only takes its 64-bit successor,
and the firewall policy of a network with a rollout only gives way to a promotion. `Written` says this
of the states before and after a transaction, and `Routed` that the policies of the routes follow the
owners. An effect names the records a transaction leaves; these name the values that must not be lost in
them. `Performed` is the three together, which the modules that follow prove of each operation.
-/

namespace Mesh

open Keyed

/-! ## Records that are found -/

section
variable {s s' : State} {id : String} {n n' : Node} {w w' : Network}

theorem findNetwork_self (h : findNetwork s id = some w) : findNetwork s w.id = some w :=
  (Keyed.key_of_lookup h : w.id = id) ▸ h

theorem findNode_self (h : findNode s id = some n) : findNode s n.id = some n :=
  (Keyed.key_of_lookup h : n.id = id) ▸ h

theorem findNode_id (h : findNode s id = some n) : n.id = id := Keyed.key_of_lookup h

theorem findNetwork_id (h : findNetwork s id = some w) : w.id = id := Keyed.key_of_lookup h

theorem mem_of_findNetwork (h : findNetwork s id = some w) : w ∈ s.networks := Keyed.mem_of_lookup h

theorem mem_of_findNode (h : findNode s id = some n) : n ∈ s.nodes := Keyed.mem_of_lookup h

theorem findNetwork_put_self (hnets : s'.networks = Keyed.put Network.id w' s.networks)
    (hw : findNetwork s id = some w) (hid : w'.id = w.id) : findNetwork s' w.id = some w' := by
  rw [findNetwork, hnets, ← hid]
  exact Keyed.lookup_put_self (y := w) (by rw [hid]; exact findNetwork_self hw)

theorem findNode_put_self (hnodes : s'.nodes = Keyed.put Node.id n' s.nodes)
    (hn : findNode s id = some n) (hid : n'.id = n.id) : findNode s' n.id = some n' := by
  rw [findNode, hnodes, ← hid]
  exact Keyed.lookup_put_self (y := n) (by rw [hid]; exact findNode_self hn)

theorem ValidGraph.findNode_of_mem (hv : ValidGraph s) (hn : n ∈ s.nodes) : findNode s n.id = some n :=
  hv.findNode_iff.mpr ⟨hn, rfl⟩

end

/-! ## Counters -/

theorem inc64_of_ne {n : Int} (h : n ≠ maxInt64) : inc64 n = n + 1 := if_neg h

/-- The five counters of a node. -/
structure NodeCounters where
  certificateGeneration : Int
  agentCredentialGeneration : Int
  heartbeatSequence : Int
  appliedConfigRevision : Int
  appliedCertificateGeneration : Int

def Node.counters (n : Node) : NodeCounters where
  certificateGeneration := n.certificateGeneration
  agentCredentialGeneration := n.agentCredentialGeneration
  heartbeatSequence := n.heartbeatSequence
  appliedConfigRevision := n.appliedConfigRevision
  appliedCertificateGeneration := n.appliedCertificateGeneration

/-- A counter is kept or takes its successor; an enrollment starts it at one. -/
def Counted (n : Node) (before after : Int) : Prop :=
  after = before ∨ after = inc64 before ∨ (n.status = .pending ∧ after = 1)

/-- A node after a transaction, against the node before. -/
structure NodeWritten (n n' : Node) : Prop where
  id : n'.id = n.id
  pending : n'.status = .pending → n.status = .pending ∧ n'.certificateGeneration = n.certificateGeneration
  generation : Counted n n.certificateGeneration n'.certificateGeneration
  credential : Counted n n.agentCredentialGeneration n'.agentCredentialGeneration
  sequence : n.heartbeatSequence ≤ n'.heartbeatSequence
  applied : n.appliedConfigRevision ≤ n'.appliedConfigRevision
  appliedGeneration : n.appliedCertificateGeneration ≤ n'.appliedCertificateGeneration

/-- The counters are not touched. -/
theorem NodeWritten.of_counters {n n' : Node} (hid : n'.id = n.id)
    (hpending : n'.status = .pending → n.status = .pending) (h : n'.counters = n.counters) :
    NodeWritten n n' := by
  simp only [Node.counters, NodeCounters.mk.injEq] at h
  obtain ⟨hgen, hcred, hseq, happ, hag⟩ := h
  exact ⟨hid, fun hp => ⟨hpending hp, hgen⟩, .inl hgen, .inl hcred, hseq.ge, happ.ge, hag.ge⟩

theorem NodeWritten.refl (n : Node) : NodeWritten n n := .of_counters rfl (fun hp => hp) rfl

/-- A node that is new: its identifier was drawn for it and it has not been counted yet. -/
structure NodeAdded (drawn : List String) (n : Node) : Prop where
  id : n.id ∈ drawn
  counters : n.counters = ⟨0, 0, 0, 0, 0⟩

/-! ## Firewall policies -/

/-- Every canary of the running rollout has applied the target, as the server renders it now. -/
structure RolloutConverged (s : State) (w : Network) : Prop where
  phase : w.firewallRollout.phase = .canary
  canaries : ∀ id ∈ w.firewallRollout.canaryNodeIDs,
    ∃ n, findNode s id = some n ∧ firewallRolloutNodeConverged s w n = true

/-- What a transaction does to the active policy of a network; `promotes` names the network whose
rollout it was asked to promote. -/
inductive PolicyStep (promotes : Option String) (s : State) (w w' : Network) : Prop where
  | kept : w'.firewallPolicy = w.firewallPolicy → PolicyStep promotes s w w'
  | replaced : w.firewallRollout.phase = .stable → w'.firewallRollout = w.firewallRollout →
      PolicyStep promotes s w w'
  | promoted : promotes = some w.id → RolloutConverged s w →
      w'.firewallPolicy = w.firewallRollout.targetPolicy → w'.firewallRollout = {} →
      PolicyStep promotes s w w'

/-- A network after a transaction, against the network before. -/
structure NetworkWritten (promotes : Option String) (s : State) (w w' : Network) : Prop where
  id : w'.id = w.id
  revision : w'.configRevision = w.configRevision ∨ w'.configRevision = inc64 w.configRevision
  policy : PolicyStep promotes s w w'

theorem NetworkWritten.refl {promotes : Option String} {s : State} (w : Network) :
    NetworkWritten promotes s w w := ⟨rfl, .inl rfl, .kept rfl⟩

/-- The next revision under the policy the network has. -/
theorem NetworkWritten.revised {promotes : Option String} {s : State} {w w' : Network} (hid : w'.id = w.id)
    (hne : w.configRevision ≠ maxInt64) (hrev : w.configRevision + 1 = w'.configRevision)
    (hp : w'.firewallPolicy = w.firewallPolicy) : NetworkWritten promotes s w w' :=
  ⟨hid, .inr (by rw [inc64_of_ne hne, hrev]), .kept hp⟩

/-- The same revision. -/
theorem NetworkWritten.kept {promotes : Option String} {s : State} {w w' : Network} (hid : w'.id = w.id)
    (hrev : w'.configRevision = w.configRevision) (hp : w'.firewallPolicy = w.firewallPolicy) :
    NetworkWritten promotes s w w' := ⟨hid, .inl hrev, .kept hp⟩

structure NetworkAdded (drawn : List String) (w : Network) : Prop where
  id : w.id ∈ drawn
  revision : w.configRevision = 1

/-! ## Route policies -/

theorem activeRouteOwners_of_nodes {s t : State} (h : t.nodes = s.nodes) (networkID subnet : String) :
    activeRouteOwners t networkID subnet = activeRouteOwners s networkID subnet := by
  unfold activeRouteOwners
  rw [h]

/-- Pending nodes own nothing. -/
theorem activeRouteOwners_append {s t : State} {created : List Node} (h : t.nodes = s.nodes ++ created)
    (hpending : ∀ n ∈ created, n.status = .pending) (networkID subnet : String) :
    activeRouteOwners t networkID subnet = activeRouteOwners s networkID subnet := by
  have hnone : created.filter (fun n => liveIn networkID n && subnet ∈ n.routedSubnets) = [] := by
    rw [List.filter_eq_nil_iff]
    intro n hn
    simp [liveIn, hpending n hn]
  unfold activeRouteOwners
  rw [h, List.filter_append, hnone, List.append_nil]

theorem reconcile_congr {s t : State} {w : Network}
    (h : ∀ subnet, activeRouteOwners t w.id subnet = activeRouteOwners s w.id subnet) :
    reconcileNetworkRoutePolicies t w = reconcileNetworkRoutePolicies s w := by
  unfold reconcileNetworkRoutePolicies
  simp only [h]

/-- The policies of a network after a transaction with the state it leaves. -/
structure PoliciesWritten (s' : State) (w w' : Network) : Prop where
  id : w'.id = w.id
  policies : w'.routePolicies = w.routePolicies ∨
    w'.routePolicies = (reconcileNetworkRoutePolicies s' w).routePolicies

theorem PoliciesWritten.refl (s' : State) (w : Network) : PoliciesWritten s' w w := ⟨rfl, .inl rfl⟩

/-- A transaction that touches nodes keeps the policies or reconciles them. -/
inductive Routed (s s' : State) : Prop where
  | quiet : s'.nodes = s.nodes → Routed s s'
  | moved : Rewritten (PoliciesWritten s') (fun _ => False) s.networks s'.networks → Routed s s'

/-! ## Transactions -/

structure Written (promotes : Option String) (drawn : List String) (s s' : State) : Prop where
  audit : s.audit <+: s'.audit
  networks : Rewritten (NetworkWritten promotes s) (NetworkAdded drawn) s.networks s'.networks
  nodes : Rewritten NodeWritten (NodeAdded drawn) s.nodes s'.nodes

section
variable {promotes : Option String} {drawn : List String} {s s' : State}

theorem networks_kept (h : s'.networks = s.networks) :
    Rewritten (NetworkWritten promotes s) (NetworkAdded drawn) s.networks s'.networks :=
  .of_eq NetworkWritten.refl h

theorem nodes_kept (h : s'.nodes = s.nodes) :
    Rewritten NodeWritten (NodeAdded drawn) s.nodes s'.nodes := .of_eq NodeWritten.refl h

theorem Written.refl (s : State) : Written promotes drawn s s :=
  ⟨List.prefix_refl _, networks_kept rfl, nodes_kept rfl⟩

/-- One network changes, and the nodes as told. -/
theorem Written.network {w y : Network} {id : String} (hw : findNetwork s id = some w)
    (hwritten : NetworkWritten promotes s w y) (haudit : s.audit <+: s'.audit)
    (hnets : s'.networks = Keyed.put Network.id y s.networks)
    (hnodes : Rewritten NodeWritten (NodeAdded drawn) s.nodes s'.nodes) : Written promotes drawn s s' :=
  ⟨haudit, hnets ▸ Rewritten.put (.of_eq NetworkWritten.refl rfl) (mem_of_findNetwork hw) hwritten, hnodes⟩

/-- One node changes. -/
theorem nodes_put {n n' : Node} (hn : n ∈ s.nodes) (h : NodeWritten n n') :
    Rewritten NodeWritten (NodeAdded drawn) s.nodes (Keyed.put Node.id n' s.nodes) :=
  .put (.of_eq NodeWritten.refl rfl) hn h

theorem Routed.kept (h : s'.networks = s.networks) : Routed s s' :=
  .moved (.of_eq (PoliciesWritten.refl s') h)

theorem Routed.network {w y : Network} {id : String} (hw : findNetwork s id = some w)
    (hwritten : PoliciesWritten s' w y) (hnets : s'.networks = Keyed.put Network.id y s.networks) : Routed s s' :=
  .moved (hnets ▸ Rewritten.put (.of_eq (PoliciesWritten.refl s') rfl) (mem_of_findNetwork hw) hwritten)

/-- What a transaction writes over and how it leaves the route policies. -/
structure Transacted (promotes : Option String) (drawn : List String) (s s' : State) : Prop where
  written : Written promotes drawn s s'
  routed : Routed s s'

theorem Transacted.refl (s : State) : Transacted promotes drawn s s := ⟨.refl s, .quiet rfl⟩

/-- Neither networks nor nodes change. -/
theorem Transacted.quiet (haudit : s.audit <+: s'.audit) (hnets : s'.networks = s.networks)
    (hnodes : s'.nodes = s.nodes) : Transacted promotes drawn s s' :=
  ⟨⟨haudit, networks_kept hnets, nodes_kept hnodes⟩, .quiet hnodes⟩

/-- The networks stay, and the nodes change as told. -/
theorem Transacted.nodes (haudit : s.audit <+: s'.audit) (hnets : s'.networks = s.networks)
    (hnodes : Rewritten NodeWritten (NodeAdded drawn) s.nodes s'.nodes) : Transacted promotes drawn s s' :=
  ⟨⟨haudit, networks_kept hnets, hnodes⟩, .kept hnets⟩

/-- One network changes, and the nodes as told. -/
theorem Transacted.network {w y : Network} {id : String} (hw : findNetwork s id = some w)
    (hnets : s'.networks = Keyed.put Network.id y s.networks) (hwritten : NetworkWritten promotes s w y)
    (haudit : s.audit <+: s'.audit)
    (hnodes : Rewritten NodeWritten (NodeAdded drawn) s.nodes s'.nodes)
    (hpolicies : y.routePolicies = w.routePolicies ∨
      y.routePolicies = (reconcileNetworkRoutePolicies s' w).routePolicies) : Transacted promotes drawn s s' :=
  ⟨.network hw hwritten haudit hnets hnodes, .network hw ⟨hwritten.id, hpolicies⟩ hnets⟩

end

/-! ## Performed operations -/

/-- All that is said of the states before and after a transaction. -/
structure Performed (inputs : Inputs) (promotes : Option String) (s s' : State)
    (new : Option (Flight × Issued)) : Prop where
  effect : Effect inputs s s' new
  transacted : Transacted promotes inputs.drawn s s'

namespace Performed

variable {inputs : Inputs} {promotes : Option String} {s s' : State} {w w' : Network} {id : String} {e : AuditEvent}

/-- A request that changes nothing. -/
theorem refl (s : State) : Performed inputs promotes s s none :=
  ⟨.touched ⟨rfl, rfl, rfl, rfl, rfl, rfl, .of_eq rfl⟩ rfl rfl fun _ => rfl, .refl s⟩

/-- A new value of one network. -/
theorem changed (hw : findNetwork s id = some w) (hstep : NetworkStep s w w') (hstart : StartNamed inputs w w')
    (h : NetworkWritten promotes s w w') (haudit : s.audit <+: s'.audit) (hr : Records inputs s s'
      (Keyed.put Network.id w' s.networks) s.nodes s.enrollments s.issuances s.revocations) :
    Performed inputs promotes s s' none :=
  ⟨.networkChanged hr (findNetwork_self hw) hstep hstart,
    .network hw h haudit hr.networks (nodes_kept hr.nodes), .quiet hr.nodes⟩

theorem network (hw : findNetwork s id = some w) (hstep : NetworkStep s w w') (hstart : StartNamed inputs w w')
    (h : NetworkWritten promotes s w w') : Performed inputs promotes s (addAudit (putNetwork s w') e) none :=
  .changed hw hstep hstart h (List.prefix_append _ _) ⟨rfl, rfl, rfl, rfl, rfl, rfl, .of_eq rfl⟩

/-- A new value of a network's settings. -/
theorem settings (hw : findNetwork s id = some w) (hcore : w'.core = w.core)
    (hrev : w.configRevision ≠ maxInt64 ∧ w.configRevision + 1 = w'.configRevision)
    (hp : PolicyStep promotes s w w') : Performed inputs promotes s (addAudit (putNetwork s w') e) none :=
  .network hw (.settings hcore hrev.2.symm) (.of_core hcore)
    ⟨Network.id_of_core hcore, .inr (by rw [inc64_of_ne hrev.1, hrev.2]), hp⟩

end Performed

end Mesh
