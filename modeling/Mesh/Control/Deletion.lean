import Mesh.Control.Ownership
import Mesh.Control.Recoveries
import Mesh.Control.RouteWeights
import Mesh.Control.View

/-!
# Mesh.Control.Deletion

Archival, cancellation and retirement against the references between records. `State.namedNodes` and
`State.namedNetworks` list every identifier that the records hold, outside of the audit log; in a valid state each
is the identifier of a record that exists (`ValidGraph.node_of_named`), so what a deletion leaves cannot name what
it removed.

The exception is the last route transfer and the last route-profile edit of a network. They stay as a receipt when
they are finished, and the validator reads their nodes only while they run. `World.participantsKept` says what the
receipts can name: nodes of their own network that are past enrollment. A cancelled node is none of them, and a
retired network takes its receipts along; an archived node can stay on one.
-/

namespace Mesh

/-! ## Names -/

def FirewallPolicy.namedNodes (p : FirewallPolicy) : List String :=
  (p.inbound ++ p.outbound).flatMap fun r => [r.peerNodeID, r.targetNodeID]

def NetworkRouteTransfer.participants (t : NetworkRouteTransfer) : List String := [t.sourceNodeID, t.targetNodeID]

/-- The nodes of the last route transfer and the last route-profile edit, finished or not. -/
def Network.routeParticipants (w : Network) : List String :=
  w.routeTransfer.participants ++ [w.routeProfileEdit.nodeID]

/-- The nodes that the settings of a network name, with those of a route change that runs. -/
def Network.namedNodes (w : Network) : List String :=
  w.relaySettings.relayNodeIDs ++ w.firewallPolicy.namedNodes ++ w.firewallRollout.targetPolicy.namedNodes ++
    w.firewallRollout.canaryNodeIDs ++
    (w.routePolicies.flatMap fun p => p.gateways.map NetworkRoutePolicyGateway.nodeID) ++
    (if routeTransferActive w.routeTransfer then w.routeTransfer.participants else []) ++
    (if routeProfileEditActive w.routeProfileEdit then [w.routeProfileEdit.nodeID] else [])

def AgentRecoveryBundle.namedNodes (b : AgentRecoveryBundle) : List String :=
  [b.nodeID, b.node.id, b.recoveryReceipt.nodeID]

def AgentRecoveryBundle.namedNetworks (b : AgentRecoveryBundle) : List String :=
  [b.networkID, b.node.networkID, b.recoveryReceipt.networkID]

def AgentRecoveryToken.namedNodes (r : AgentRecoveryToken) : List String :=
  r.nodeID :: r.result.toList.flatMap AgentRecoveryBundle.namedNodes

/-- The nodes that the records name: all identifiers of nodes outside of the audit log and of finished route
changes. -/
def State.namedNodes (s : State) : List String :=
  s.nodes.map Node.id ++ s.networks.flatMap Network.namedNodes ++ s.enrollments.map EnrollmentToken.nodeID ++
    s.agentRecoveries.flatMap AgentRecoveryToken.namedNodes ++ s.issuances.map CertificateIssuance.nodeID ++
    s.revocations.map CertificateRevocation.nodeID

def State.routeParticipants (s : State) : List String := s.networks.flatMap Network.routeParticipants

/-- The networks that the records name, outside of the audit log. -/
def State.namedNetworks (s : State) : List String :=
  s.networks.map Network.id ++ s.nodes.map Node.networkID ++
    (s.agentRecoveries.flatMap fun r => r.result.toList.flatMap AgentRecoveryBundle.namedNetworks) ++
    s.issuances.map CertificateIssuance.networkID ++ s.revocations.map CertificateRevocation.networkID

/-! ## In a valid state the names are of records -/

variable {n : Node} {now : Int} {eventID nodeID : String}

variable {b : AgentRecoveryBundle} {input : ArchiveNodeInput} {networkID : String}

section Valid

variable {s : State} {w : Network} {id : String}

/-- The identifier is of a node in the state. -/
def State.HasNode (s : State) (id : String) : Prop := ∃ n ∈ s.nodes, n.id = id

def State.HasNetwork (s : State) (id : String) : Prop := ∃ w ∈ s.networks, w.id = id

/-- The node in a stored answer is of the network that the answer is for. -/
def AnswersLocal (s : State) : Prop :=
  ∀ r ∈ s.agentRecoveries, ∀ b, r.result = some b → b.node.networkID = b.networkID

theorem State.HasNode.of_find (h : findNode s id = some n) : s.HasNode id :=
  ⟨n, mem_of_findNode h, findNode_id h⟩

theorem hasNode_of_policy {p : FirewallPolicy} (h : validateFirewallPolicyReferences s w p = .ok ())
    (hid : id ∈ p.namedNodes) (hne : id ≠ "") : s.HasNode id := by
  obtain ⟨r, hr, hid⟩ := List.mem_flatMap.mp hid
  obtain ⟨n, hn, -⟩ := nodeInNetwork_eq_true.mp (validateFirewallPolicyReferences_spec h r hr id hid hne)
  exact .of_find hn

theorem hasNode_of_canary {ids : List String} :
    ∀ {previous : Option String}, checkCanaries s w previous ids = .ok () → ∀ id ∈ ids, s.HasNode id := by
  induction ids with
  | nil => simp
  | cons id ids ih =>
    intro previous h
    simp only [checkCanaries, bind_unit_eq_ok, reject_eq_ok, Decidable.not_not, Option.any_eq_true] at h
    obtain ⟨-, ⟨n, hn, -⟩, hrest⟩ := h
    intro q hq
    rcases List.mem_cons.mp hq with rfl | hq
    · exact .of_find hn
    · exact ih hrest q hq

theorem hasNode_of_relay (h : validateNetworkRelaySettings s w = .ok ())
    (hid : id ∈ w.relaySettings.relayNodeIDs) : s.HasNode id := by
  simp only [validateNetworkRelaySettings, bind_eq_ok, exists_unit, checkAll_eq_ok, require_eq_ok,
    Option.filter_eq_some_iff] at h
  obtain ⟨_, -, -, hall⟩ := h
  obtain ⟨n, ⟨hn, -⟩, -⟩ := hall id hid
  exact .of_find hn

namespace ValidGraph

theorem hasNode_of_rollout (hv : ValidGraph s) (hc : Current s) (hw : w ∈ s.networks)
    (hid : id ∈ w.firewallRollout.targetPolicy.namedNodes ++ w.firewallRollout.canaryNodeIDs) (hne : id ≠ "") :
    s.HasNode id := by
  have hrollout := (hv.networkRecord hc hw).rollout
  have href := hv.firewall w hw
  simp only [validateFirewallReferences, bind_unit_eq_ok, mapError_eq_ok] at href
  by_cases hstable : w.firewallRollout.phase = .stable
  · -- a stable network has no transition metadata at all
    simp only [validateNetworkFirewallRollout, hstable, if_true, reject_eq_ok, Decidable.not_not] at hrollout
    rw [hrollout] at hid
    simp [FirewallPolicy.namedNodes] at hid
  · rcases List.mem_append.mp hid with hid | hid
    · rw [if_pos hstable, mapError_eq_ok] at href
      exact hasNode_of_policy href.2 hid hne
    · simp only [validateNetworkFirewallRollout, hstable, if_false, bind_unit_eq_ok] at hrollout
      exact hasNode_of_canary hrollout.2.2.2.2.2.2.2.2.2.2 id hid

theorem hasNode_of_network (hv : ValidGraph s) (hc : Current s) (hw : w ∈ s.networks)
    (hid : id ∈ w.namedNodes) (hne : id ≠ "") : s.HasNode id := by
  have href := hv.firewall w hw
  simp only [validateFirewallReferences, bind_unit_eq_ok, mapError_eq_ok] at href
  simp only [Network.namedNodes, List.mem_append, List.mem_flatMap, List.mem_map] at hid
  rcases hid with (((((hid | hid) | hid) | hid) | ⟨p, hp, g, hg, rfl⟩) | hid) | hid
  · exact hasNode_of_relay (hv.networkRecord hc hw).relays hid
  · exact hasNode_of_policy href.1 hid hne
  · exact hv.hasNode_of_rollout hc hw (List.mem_append_left _ hid) hne
  · exact hv.hasNode_of_rollout hc hw (List.mem_append_right _ hid) hne
  · have hmem := (hv.policyStored hc hw p hp).owners ▸ List.mem_map_of_mem hg
    obtain ⟨n, hn, hn'⟩ := List.mem_map.mp hmem
    exact ⟨n, (mem_activeRouteOwners.mp hn).1, hn'⟩
  · split_ifs at hid with hactive
    · obtain ⟨source, target, ho⟩ := hv.transferOwners hc hw hactive
      simp only [NetworkRouteTransfer.participants, List.mem_cons, List.not_mem_nil, or_false] at hid
      obtain rfl | rfl := hid
      · exact .of_find ho.sourceFound
      · exact .of_find ho.targetFound
    · cases hid
  · split_ifs at hid with hactive
    · obtain ⟨n, ho⟩ := hv.editOwner hc hw hactive
      obtain rfl := List.mem_singleton.mp hid
      exact .of_find ho.owner
    · cases hid

variable {r : AgentRecoveryToken}

/-- What a stored answer of a recovery names: the node it is for, and its network. -/
theorem answer_named (hv : ValidGraph s) (hr : r ∈ s.agentRecoveries) (hb : r.result = some b) :
    ∃ n ∈ s.nodes, n.id = r.nodeID ∧ (∀ id ∈ b.namedNodes, id = n.id) ∧ b.networkID = n.networkID ∧
      b.recoveryReceipt.networkID = n.networkID := by
  obtain ⟨n, hp⟩ := hv.recoveries r hr
  have hn := hp.node.1
  cases hu : r.usedAt with
  | none =>
    rw [(hp.unusedResult hu).2.2] at hb
    cases hb
  | some usedAt =>
    obtain ⟨w, b', hused⟩ := hp.usedResult usedAt hu
    obtain rfl : b' = b := Option.some.inj (hused.result.symm.trans hb)
    have hmatch := hused.answered
    have hreceipt := hused.receipt
    simp only [recoveryResultMatches, recoveryReceiptMatches, Bool.and_eq_true, beq_iff_eq] at hmatch hreceipt
    obtain ⟨⟨⟨⟨⟨⟨⟨⟨⟨⟨hnode, hnet⟩, hid⟩, -⟩, -⟩, -⟩, -⟩, -⟩, -⟩, -⟩, -⟩ := hmatch
    obtain ⟨⟨⟨⟨⟨hrnode, hrnet⟩, -⟩, -⟩, -⟩, -⟩ := hreceipt
    refine ⟨n, mem_of_findNode hn, findNode_id hn, ?_, hnet, hrnet.trans hnet⟩
    simp [AgentRecoveryBundle.namedNodes, hrnode, hnode, hid, findNode_id hn]

theorem hasNode_of_recovery (hv : ValidGraph s) (hr : r ∈ s.agentRecoveries) (hid : id ∈ r.namedNodes) :
    s.HasNode id := by
  simp only [AgentRecoveryToken.namedNodes, List.mem_cons, List.mem_flatMap, Option.mem_toList] at hid
  rcases hid with rfl | ⟨b, hb, hid⟩
  · obtain ⟨n, hp⟩ := hv.recoveries r hr
    exact .of_find hp.node.1
  · obtain ⟨n, hn, -, hall, -⟩ := hv.answer_named hr hb
    exact ⟨n, hn, (hall id hid).symm⟩

theorem node_of_named (hv : ValidGraph s) (hc : Current s) (hid : id ∈ s.namedNodes) (hne : id ≠ "") :
    s.HasNode id := by
  simp only [State.namedNodes, List.mem_append, List.mem_flatMap, List.mem_map] at hid
  rcases hid with ((((⟨n, hn, rfl⟩ | ⟨w, hw, hid⟩) | ⟨e, he, rfl⟩) | ⟨r, hr, hid⟩) | ⟨i, hi, rfl⟩) | ⟨r, hr, rfl⟩
  · exact ⟨n, hn, rfl⟩
  · exact hv.hasNode_of_network hc hw hid hne
  · obtain ⟨n, hn⟩ := Option.ne_none_iff_exists'.mp (hv.enrollments e he).node
    exact .of_find hn
  · exact hv.hasNode_of_recovery hr hid
  · obtain ⟨n, hn, -⟩ := hv.issuanceNode hi
    exact .of_find hn
  · obtain ⟨n, hn, -⟩ := hv.revocationNode hr
    exact .of_find hn

theorem network_of_named (hv : ValidGraph s) (hlocal : AnswersLocal s) (hid : id ∈ s.namedNetworks) :
    s.HasNetwork id := by
  have hnode : ∀ n ∈ s.nodes, s.HasNetwork n.networkID := fun n hn => by
    obtain ⟨w, hw, hwid, -⟩ := hv.nodeNetwork hn
    exact ⟨w, hw, hwid⟩
  simp only [State.namedNetworks, List.mem_append, List.mem_flatMap, List.mem_map, Option.mem_toList] at hid
  rcases hid with (((⟨w, hw, rfl⟩ | ⟨n, hn, rfl⟩) | ⟨r, hr, b, hb, hid⟩) | ⟨i, hi, rfl⟩) | ⟨r, hr, rfl⟩
  · exact ⟨w, hw, rfl⟩
  · exact hnode n hn
  · obtain ⟨n, hn, -, -, hnet, hrnet⟩ := hv.answer_named hr hb
    simp only [AgentRecoveryBundle.namedNetworks, hlocal r hr b hb, hnet, hrnet, List.mem_cons, List.not_mem_nil,
      or_false, or_self] at hid
    exact hid ▸ hnode n hn
  · obtain ⟨n, hn, hnet⟩ := hv.issuanceNode hi
    exact hnet ▸ hnode n (mem_of_findNode hn)
  · obtain ⟨n, hn, hnet⟩ := hv.revocationNode hr
    exact hnet ▸ hnode n (mem_of_findNode hn)

end ValidGraph

end Valid

/-! ## What the receipts of route changes name -/

/-- The route changes on record of a network after an effect: one that runs, or the one of before. -/
structure ParticipantsKept (w w' : Network) : Prop where
  id : w'.id = w.id
  transfer : routeTransferActive w'.routeTransfer = true ∨
    w'.routeTransfer.participants = w.routeTransfer.participants
  edit : routeProfileEditActive w'.routeProfileEdit = true ∨ w'.routeProfileEdit.nodeID = w.routeProfileEdit.nodeID

section Effects

variable {inputs : Inputs} {s s' : State} {new : Option (Flight × Issued)} {w w' : Network}

theorem ParticipantsKept.refl (w : Network) : ParticipantsKept w w := ⟨rfl, .inr rfl, .inr rfl⟩

theorem ParticipantsKept.of_core (h : w'.core = w.core) : ParticipantsKept w w' :=
  ⟨Network.id_of_core h, .inr (Network.eq_of_core (·.routeTransfer.participants) (fun _ => rfl) h),
    .inr (Network.eq_of_core (·.routeProfileEdit.nodeID) (fun _ => rfl) h)⟩

variable {bump : Bool} {e : NetworkRouteProfileEdit}

theorem TransferStep.participants {t : NetworkRouteTransfer} (h : TransferStep s w now t bump) :
    routeTransferActive t = true ∨ t.participants = w.routeTransfer.participants := by
  cases h with
  | started => exact .inl rfl
  | cancellationStarted => exact .inl rfl
  | cancelledEarly | cancelled | completed => exact .inr rfl

theorem EditStep.participant (h : EditStep s w now e bump) :
    routeProfileEditActive e = true ∨ e.nodeID = w.routeProfileEdit.nodeID := by
  cases h with
  | started => exact .inl rfl
  | cancellationStarted => exact .inl rfl
  | cancelledEarly | cancelled | completed => exact .inr rfl

theorem promotedEdit_nodeID {e' : NetworkRouteProfileEdit} (h : promotedEdit e n now = .ok e') :
    e'.nodeID = e.nodeID := by
  unfold promotedEdit at h
  split_ifs at h
  · simp only [bind_unit_eq_ok, pure_eq_ok] at h
    rw [← h.2]
  · rw [pure_eq_ok] at h
    rw [← h]

theorem NetworkStep.participants (h : NetworkStep s w w') : ParticipantsKept w w' := by
  cases h with
  | settings hcore => exact .of_core hcore
  | rotation => exact ⟨rfl, .inr rfl, .inr rfl⟩
  | transfer ht =>
    simp only [Network.bumped]
    split_ifs
    · exact ⟨rfl, ht.participants, .inr rfl⟩
    · exact ⟨rfl, ht.participants, .inr rfl⟩
  | edit he =>
    simp only [Network.bumped]
    split_ifs
    · exact ⟨rfl, .inr rfl, he.participant⟩
    · exact ⟨rfl, .inr rfl, he.participant⟩

/-- A network after an effect is new, without route changes, or it keeps the participants of one before. -/
def RoutesKept (s s' : State) : Prop :=
  ∀ w' ∈ s'.networks, (w'.routeTransfer = {} ∧ w'.routeProfileEdit = {}) ∨ ∃ w ∈ s.networks, ParticipantsKept w w'

theorem RoutesKept.of_subset (h : s'.networks ⊆ s.networks) : RoutesKept s s' :=
  fun w' hw' => .inr ⟨w', h hw', .refl w'⟩

theorem RoutesKept.of_put {id : String} (hnets : s'.networks = Keyed.put Network.id w' s.networks)
    (hw : findNetwork s id = some w) (hk : ParticipantsKept w w') : RoutesKept s s' := by
  intro u hu
  rw [hnets] at hu
  rcases Keyed.mem_put.mp hu with ⟨hu, -⟩ | ⟨rfl, -⟩
  · exact .inr ⟨u, hu, .refl u⟩
  · exact .inr ⟨w, mem_of_findNetwork hw, hk⟩

theorem Effect.routesKept (h : Effect inputs s s' new) : RoutesKept s s' := by
  cases h with
  | touched hr | renewalClaimed hr | renewalReleased hr | enrollmentClaimed hr | enrollmentReleased hr
  | reissued hr | nodeCreated hr | renewed hr => exact .of_subset (hr.networks ▸ List.Subset.refl _)
  | reported hr _ _ hw _ _ _ _ _ _ hnets =>
    obtain hsame | ⟨w', hcore, -, hput⟩ := hnets
    · exact .of_subset (hr.networks ▸ hsame ▸ List.Subset.refl _)
    · exact .of_put (hr.networks.trans hput) hw (.of_core hcore)
  | networkCreated hr _ _ ht he =>
    intro u hu
    rw [hr.networks, List.mem_append, List.mem_singleton] at hu
    rcases hu with hu | rfl
    · exact .inr ⟨u, hu, .refl u⟩
    · exact .inl ⟨ht, he⟩
  | networkRetired hr => exact .of_subset (hr.networks ▸ List.filter_subset_self _)
  | nodeCancelled hr _ _ hw hcore => exact .of_put hr.networks hw (.of_core hcore)
  | nodeArchived hr _ _ hw hcore => exact .of_put hr.networks hw (.of_core hcore)
  | networkChanged hr hw hstep => exact .of_put hr.networks hw hstep.participants
  | transferPromoted hr hw => exact .of_put hr.networks hw ⟨rfl, .inl rfl, .inr rfl⟩
  | editPromoted hr hw _ _ _ he => exact .of_put hr.networks hw ⟨rfl, .inr rfl, .inr (promotedEdit_nodeID he)⟩
  | editNarrowed hr hw => exact .of_put hr.networks hw ⟨rfl, .inr rfl, .inl rfl⟩
  | enrolled hr _ _ hw =>
    refine .of_put hr.networks hw ?_
    simp only [enrolledNetwork]
    split_ifs <;> exact ⟨rfl, .inr rfl, .inr rfl⟩
  | replaced hr _ _ _ hw => exact .of_put hr.networks hw ⟨rfl, .inr rfl, .inr rfl⟩
  | revoked hr _ _ hw hcore => exact .of_put hr.networks hw (.of_core hcore)

/-- A node that is past enrollment stays so. -/
theorem NodeStep.not_pending {n' : Node} (h : NodeStep inputs s s' new n n') (hn : n.status ≠ .pending) :
    n'.status ≠ .pending := by
  cases h with
  | kept hcore | reported _ _ hcore => rwa [Node.eq_of_core Node.status (fun _ => rfl) hcore]
  | claimed | released | routed | renewed | replaced => exact hn
  | enrolled => exact NodeStatus.noConfusion
  | revoked => exact NodeStatus.noConfusion

end Effects

namespace World

variable {env : Env} {w w' : World} {a : Action}

/-- What the route changes of a network can name: nodes of the network that are past enrollment, or nodes that
are gone, whose identifiers are not drawn again. -/
def ParticipantsLocal (w : World) : Prop :=
  ∀ v ∈ w.state.networks, ∀ id ∈ v.routeParticipants, id ≠ "" →
    id ∈ w.drawn ∧ ∀ n ∈ w.state.nodes, n.id = id → n.networkID = v.id ∧ n.status ≠ .pending

variable {v : Network}

theorem mem_routeParticipants {id : String} : id ∈ v.routeParticipants ↔
    id ∈ v.routeTransfer.participants ∨ id = v.routeProfileEdit.nodeID := by
  simp [Network.routeParticipants]

/-- A participant of a change that runs is an active node of the network. -/
theorem participant_of_active {s : State} (hv : ValidGraph s) (hc : Current s) (hvm : v ∈ s.networks)
    {id : String} (hid : (routeTransferActive v.routeTransfer = true ∧ id ∈ v.routeTransfer.participants) ∨
      (routeProfileEditActive v.routeProfileEdit = true ∧ id = v.routeProfileEdit.nodeID)) :
    ∃ n, findNode s id = some n ∧ n.networkID = v.id ∧ n.status = .active := by
  rcases hid with ⟨hactive, hid⟩ | ⟨hactive, rfl⟩
  · obtain ⟨source, target, ho⟩ := hv.transferOwners hc hvm hactive
    simp only [NetworkRouteTransfer.participants, List.mem_cons, List.not_mem_nil, or_false] at hid
    rcases hid with rfl | rfl
    · exact ⟨source, ho.sourceFound, ho.sourceNetwork, ho.sourceActive⟩
    · exact ⟨target, ho.targetFound, ho.targetNetwork, ho.targetActive⟩
  · obtain ⟨n, ho⟩ := hv.editOwner hc hvm hactive
    exact ⟨n, ho.owner, ho.network, ho.active⟩

theorem participantsLocal (h : Reachable env w) : ParticipantsLocal w := by
  induction h with
  | start h0 =>
    intro v hv
    rw [h0.networks] at hv
    cases hv
  | @next w w' a hr hstep ih =>
    have hs := sound hr
    have hs' := sound (.next hr hstep)
    obtain ⟨new, he⟩ := step_effect hs hstep.2
    intro v' hv' id hid hne
    -- a change that runs names active nodes; any other names what it named before
    by_cases hactive : (routeTransferActive v'.routeTransfer = true ∧ id ∈ v'.routeTransfer.participants) ∨
        (routeProfileEditActive v'.routeProfileEdit = true ∧ id = v'.routeProfileEdit.nodeID)
    · obtain ⟨n, hn, hnet, hact⟩ := participant_of_active hs'.valid hs'.current hv' hactive
      refine ⟨findNode_id hn ▸ (traced (.next hr hstep)).drawn n (mem_of_findNode hn), fun m hm hmid => ?_⟩
      obtain rfl : n = m := Option.some.inj (hn.symm.trans (hs'.valid.findNode_iff.mpr ⟨hm, hmid⟩))
      exact ⟨hnet, by rw [hact]; decide⟩
    · rw [not_or, not_and, not_and] at hactive
      obtain ⟨ht, hed⟩ | ⟨v, hv, hk⟩ := he.effect.routesKept v' hv'
      · simp [Network.routeParticipants, NetworkRouteTransfer.participants, ht, hed, hne] at hid
      have hold : id ∈ v.routeParticipants := by
        rw [mem_routeParticipants] at hid ⊢
        refine hid.imp (fun hid => ?_) fun hid => ?_
        · exact (hk.transfer.resolve_left fun h => hactive.1 h hid) ▸ hid
        · exact hid.trans (hk.edit.resolve_left fun h => hactive.2 h hid)
      obtain ⟨hd, hlocal⟩ := ih v hv id hold hne
      refine ⟨he.drawn ▸ List.mem_append_right _ hd, fun n' hn' hid' => ?_⟩
      obtain ⟨n, hn, hnid, hst⟩ := he.node_of_drawn hs hstep.1 hn' (hid' ▸ hd)
      obtain ⟨hnet, hpend⟩ := hlocal n hn (hnid.trans hid')
      exact ⟨hst.identity.networkID.trans (hnet.trans hk.id.symm), hst.not_pending hpend⟩

theorem recoverCommit_answer {request : RecoverRequest} {recoveryID claimID : String} {s s' : State}
    (h : recoverCommit env request recoveryID claimID eventID now s = .ok (s', b)) :
    b.node.networkID = b.networkID := by
  simp only [recoverCommit, recoveryBundle, signNodeConfig, bind_eq_ok, exists_unit, require_eq_ok, pure_eq_ok,
    Prod.mk.injEq] at h
  obtain ⟨r, -, -, n, -, -, -, -, u, hu, b, ⟨signed, ⟨_, -, _, -, rfl⟩, _, -, _, -, rfl⟩, -, rfl⟩ := h
  exact (findNetwork_id hu).symm

theorem answersLocal (h : Reachable env w) : AnswersLocal w.state := by
  induction h with
  | start h0 =>
    intro r hr
    rw [h0.agentRecoveries] at hr
    cases hr
  | @next w w' a hr hstep ih =>
    intro r' hr' b hb
    cases recoveryStep (sound hr) hstep.2 hr' with
    | @kept _ r hold heq =>
      -- a placement changes neither of the two networks of an answer
      have hanswer := AgentRecoveryToken.eq_of_unplaced
        (fun r => r.result.map fun b => (b.node.networkID, b.networkID))
        (fun r => by simp only [AgentRecoveryToken.unplaced, Option.map_map, Function.comp_def]) heq
      rw [hb, Option.map_some, eq_comm, Option.map_eq_some_iff] at hanswer
      obtain ⟨c, hcr, hpair⟩ := hanswer
      have := ih r hold c hcr
      simp only [Prod.mk.injEq] at hpair
      rw [← hpair.1, ← hpair.2, this]
    | issued _ _ _ _ _ hnone => rw [hnone] at hb; cases hb
    | @claimed _ _ _ _ _ _ r _ hold _ _ heq => exact ih r hold b (by rw [← hb, heq])
    | @released _ r hold _ heq => exact ih r hold b (by rw [← hb, heq])
    | used =>
      obtain ⟨request, recoveryID, claimID, b', -, hcommit, -⟩ := step_recover hstep.2
      obtain ⟨r, n, hst⟩ := recoverCommit_spec hcommit
      rw [hst.recoveries] at hr'
      rcases Keyed.mem_put.mp (List.mem_of_mem_filter hr') with ⟨hold, -⟩ | ⟨rfl, -⟩
      · exact ih r' hold b hb
      · obtain rfl := Option.some.inj hb
        exact recoverCommit_answer hcommit

end World

/-! ## What the deletions leave -/

/-- A state without the records that belong to a node. -/
def State.withoutNode (s : State) (id : String) : State :=
  { s with
    nodes := s.nodes.filter fun n => n.id ≠ id
    enrollments := s.enrollments.filter fun e => e.nodeID ≠ id
    agentRecoveries := s.agentRecoveries.filter fun r => r.nodeID ≠ id
    issuances := s.issuances.filter fun i => i.nodeID ≠ id
    revocations := s.revocations.filter fun r => r.nodeID ≠ id }

/-- A state without the records that belong to a network or to one of its nodes. -/
def State.withoutNetwork (s : State) (networkID : String) : State :=
  { s with
    networks := s.networks.filter fun w => w.id ≠ networkID
    nodes := s.nodes.filter fun n => n.networkID ≠ networkID
    enrollments := s.enrollments.filter fun e => e.nodeID ∉ networkNodeIDs s networkID
    agentRecoveries := s.agentRecoveries.filter fun r => r.nodeID ∉ networkNodeIDs s networkID
    issuances := s.issuances.filter fun i => i.networkID ≠ networkID
    revocations := s.revocations.filter fun r => r.networkID ≠ networkID }

/-- The records of a node are gone and nothing names it. Apart from that there is one more event, and the network
of the node is as it was or, without the node among its settings (`strip`), has the next revision. -/
structure NodeRemoved (strip : Network → Network) (s s' : State) (n : Node) : Prop where
  frame : ∃ u u' event, findNetwork s n.networkID = some u ∧
    (u' = u ∨ ∃ now, u' = { strip u with configRevision := u.configRevision + 1, configUpdatedAt := now }) ∧
    s' = { s.withoutNode n.id with
      networks := Keyed.put Network.id u' s.networks, audit := s.audit ++ [event] }
  unnamed : n.id ∉ s'.namedNodes

/-- The records of a network are gone, with those of its nodes, and nothing names any of them. -/
structure NetworkRemoved (s s' : State) (networkID : String) : Prop where
  frame : ∃ event, s' = { s.withoutNetwork networkID with audit := s.audit ++ [event] }
  unnamed : networkID ∉ s'.namedNetworks
  nodes : ∀ n ∈ s.nodes, n.networkID = networkID → n.id ∉ s'.namedNodes ∧ n.id ∉ s'.routeParticipants

section Frames

variable {s s' : State}

variable {actor : Option Actor}

theorem archiveNode_frame (h : archiveNode actor nodeID input eventID now s = .ok s') :
    ∃ n u u' event, findNode s (trimSpace nodeID) = some n ∧ n.status = .revoked ∧
      findNetwork s n.networkID = some u ∧
      (u' = u ∨ u' = { u with configRevision := u.configRevision + 1, configUpdatedAt := now }) ∧
      s' = { s.withoutNode n.id with
        networks := Keyed.put Network.id u' s.networks, audit := s.audit ++ [event] } := by
  simp only [archiveNode, bind_eq_ok, exists_unit, require_eq_ok, reject_eq_ok, pure_eq_ok] at h
  obtain ⟨-, -, n, hn, hrevoked, _, -, -, u, hu, -, -, _, -, -, -, -, next, hnext, event, -, rfl⟩ := h
  refine ⟨n, u, _, event, hn, Decidable.not_not.mp hrevoked, hu, ?_, rfl⟩
  split
  · rename_i hblocked
    rw [hblocked, nextConfigRevision_true] at hnext
    exact .inr (by rw [hnext.2])
  · exact .inl rfl

theorem cancelPendingNode_frame {confirmationName : String}
    (h : cancelPendingNode actor nodeID confirmationName eventID now s = .ok s') :
    ∃ n u u' event, findNode s (trimSpace nodeID) = some n ∧ n.status = .pending ∧
      findNetwork s n.networkID = some u ∧
      (u' = u ∨ u' = { withoutRelay n.id u with configRevision := u.configRevision + 1, configUpdatedAt := now }) ∧
      s' = { s with
        networks := Keyed.put Network.id u' s.networks
        nodes := s.nodes.filter fun m => m.id ≠ n.id
        enrollments := s.enrollments.filter fun e => e.nodeID ≠ n.id
        audit := s.audit ++ [event] } := by
  simp only [cancelPendingNode, bind_eq_ok, exists_unit, require_eq_ok, reject_eq_ok, pure_eq_ok] at h
  obtain ⟨-, -, n, hn, hpending, -, u, hu, next, hnext, event, -, rfl⟩ := h
  refine ⟨n, u, _, event, hn, ?_, hu, ?_, rfl⟩
  · by_contra hc
    exact hpending (.inl hc)
  · split
    · rename_i hrelay
      rw [hrelay, nextConfigRevision_true] at hnext
      exact .inr (by rw [hnext.2])
    · exact .inl rfl

theorem retireNetwork_frame {input : RetireNetworkInput}
    (h : retireNetwork actor networkID input eventID now s = .ok s') :
    ∃ event, s' = { s.withoutNetwork networkID with audit := s.audit ++ [event] } := by
  simp only [retireNetwork, bind_eq_ok, exists_unit, require_eq_ok, pure_eq_ok] at h
  obtain ⟨-, -, r, hr, -, -, event, -, rfl⟩ := h
  exact ⟨event, rfl⟩

theorem ValidGraph.node_id_ne_empty (hv : ValidGraph s) (hn : n ∈ s.nodes) : n.id ≠ "" := by
  intro h
  have hid := (hv.nodes n hn).id
  rw [h] at hid
  exact absurd hid (by decide)

/-- Nothing in a valid state names a node that is not there. -/
theorem ValidGraph.not_named (hv : ValidGraph s) (hc : Current s) {id : String} (hne : id ≠ "")
    (hgone : ∀ n ∈ s.nodes, n.id ≠ id) : id ∉ s.namedNodes := by
  intro hid
  obtain ⟨n, hn, hnid⟩ := hv.node_of_named hc hid hne
  exact hgone n hn hnid

/-- Where no record of a kind names the node, the records are those without it. -/
theorem filter_ne_of_forall {α : Type} {f : α → String} {xs : List α} {id : String} (h : id ∉ xs.map f) :
    (xs.filter fun x => f x ≠ id) = xs := by
  rw [List.filter_eq_self]
  intro x hx
  exact decide_eq_true fun heq => h (List.mem_map.mpr ⟨x, hx, heq⟩)

end Frames

namespace World

variable {env : Env} {w w' : World} {c : Stamp}

/-- A successful operation ran on the state and its result passed the validator. -/
theorem step_op {o : Op} (h : w.step env (.op c o) = .ok w') : o.run c w.state = .ok w'.state := by
  simp only [step, move, bind_eq_ok, commit_eq_ok, pure_eq_ok] at h
  obtain ⟨_, ⟨s₁, hrun, s', ⟨-, rfl⟩, rfl⟩, rfl⟩ := h
  exact hrun

theorem archiveNode_removed (hr : Reachable env w) (hstep : Step env w (.op c (.archiveNode nodeID input)) w') :
    ∃ n, findNode w.state (trimSpace nodeID) = some n ∧ n.status = .revoked ∧
      NodeRemoved id w.state w'.state n := by
  have hs' := sound (.next hr hstep)
  obtain ⟨n, u, u', event, hn, hrevoked, hu, hu', hframe⟩ := archiveNode_frame (step_op hstep.2)
  refine ⟨n, hn, hrevoked, ⟨u, u', event, hu, hu'.imp_right fun h => ⟨_, h⟩, hframe⟩, ?_⟩
  refine hs'.valid.not_named hs'.current ((sound hr).valid.node_id_ne_empty (mem_of_findNode hn)) fun m hm => ?_
  rw [hframe] at hm
  simpa using (List.mem_filter.mp hm).2

theorem cancelPendingNode_removed (hr : Reachable env w) {name : String}
    (hstep : Step env w (.op c (.cancelPendingNode nodeID name)) w') :
    ∃ n, findNode w.state (trimSpace nodeID) = some n ∧ n.status = .pending ∧
      NodeRemoved (withoutRelay n.id) w.state w'.state n ∧ n.id ∉ w'.state.routeParticipants := by
  have hs := sound hr
  have hs' := sound (.next hr hstep)
  obtain ⟨n, u, u', event, hn, hpending, hu, hu', hframe⟩ := cancelPendingNode_frame (step_op hstep.2)
  have hmem := mem_of_findNode hn
  have hne := hs.valid.node_id_ne_empty hmem
  have hunnamed : n.id ∉ w'.state.namedNodes := by
    refine hs'.valid.not_named hs'.current hne fun m hm => ?_
    rw [hframe] at hm
    simpa using (List.mem_filter.mp hm).2
  refine ⟨n, hn, hpending, ⟨⟨u, u', event, hu, hu'.imp_right fun h => ⟨_, h⟩, ?_⟩, hunnamed⟩, fun hid => ?_⟩
  · -- a pending node has no other records: they would still name it
    rw [hframe] at hunnamed ⊢
    simp only [State.namedNodes, List.mem_append, not_or] at hunnamed
    obtain ⟨⟨⟨-, hrecoveries⟩, hissuances⟩, hrevocations⟩ := hunnamed
    have hrecoveries' : n.id ∉ w.state.agentRecoveries.map AgentRecoveryToken.nodeID := fun h => by
      obtain ⟨r, hr, hid⟩ := List.mem_map.mp h
      exact hrecoveries (List.mem_flatMap.mpr ⟨r, hr, hid ▸ List.mem_cons_self⟩)
    simp only [State.withoutNode, filter_ne_of_forall hrecoveries', filter_ne_of_forall hissuances,
      filter_ne_of_forall hrevocations]
  · -- and it takes no part in a route change
    obtain ⟨v', hv', hid⟩ := List.mem_flatMap.mp hid
    have hmem' : ∃ v ∈ w.state.networks, n.id ∈ v.routeParticipants := by
      rw [hframe] at hv'
      rcases Keyed.mem_put.mp hv' with ⟨hv, -⟩ | ⟨rfl, -⟩
      · exact ⟨v', hv, hid⟩
      · refine ⟨u, mem_of_findNetwork hu, ?_⟩
        rcases hu' with rfl | rfl
        · exact hid
        · exact hid
    obtain ⟨v, hv, hid⟩ := hmem'
    exact ((participantsLocal hr v hv n.id hid hne).2 n hmem rfl).2 hpending

theorem retireNetwork_removed (hr : Reachable env w) {input : RetireNetworkInput}
    (hstep : Step env w (.op c (.retireNetwork networkID input)) w') :
    NetworkRemoved w.state w'.state networkID := by
  have hs := sound hr
  have hs' := sound (.next hr hstep)
  obtain ⟨event, hframe⟩ := retireNetwork_frame (step_op hstep.2)
  have hnets : ∀ v ∈ w'.state.networks, v ∈ w.state.networks ∧ v.id ≠ networkID := by
    intro v hv
    rw [hframe] at hv
    simpa using List.mem_filter.mp hv
  have hnodes : ∀ m ∈ w'.state.nodes, m ∈ w.state.nodes ∧ m.networkID ≠ networkID := by
    intro m hm
    rw [hframe] at hm
    simpa using List.mem_filter.mp hm
  refine ⟨⟨event, hframe⟩, fun hid => ?_, fun n hn hnet => ⟨?_, fun hid => ?_⟩⟩
  · obtain ⟨v, hv, hvid⟩ := hs'.valid.network_of_named (answersLocal (.next hr hstep)) hid
    exact (hnets v hv).2 hvid
  · refine hs'.valid.not_named hs'.current (hs.valid.node_id_ne_empty hn) fun m hm hmid => ?_
    obtain rfl := Keyed.eq_of_key_eq hs.valid.nodeIDs (hnodes m hm).1 hn hmid
    exact (hnodes m hm).2 hnet
  · obtain ⟨v, hv, hid⟩ := List.mem_flatMap.mp hid
    obtain ⟨hv, hne⟩ := hnets v hv
    have hlocal := (participantsLocal hr v hv n.id hid (hs.valid.node_id_ne_empty hn)).2 n hn rfl
    exact hne (hlocal.1.symm.trans hnet)

end World

/-- In every reachable state, an archival or a cancellation removes exactly the records that belong to the node and
a retirement exactly those that belong to the network or to one of its nodes. What else there is stays, the audit
log with one more event, up to the relays and the revision of the node's network. Nothing outside of the log and of
finished route changes names what is gone; a cancelled node and the nodes of a retired network are on no route
change either. -/
theorem deletion_removes_own_records {env : Env} {w w' : World} {c : Stamp} (hr : World.Reachable env w) :
    (∀ nodeID input, World.Step env w (.op c (.archiveNode nodeID input)) w' →
      ∃ n, findNode w.state (trimSpace nodeID) = some n ∧ n.status = .revoked ∧
        NodeRemoved id w.state w'.state n) ∧
    (∀ nodeID name, World.Step env w (.op c (.cancelPendingNode nodeID name)) w' →
      ∃ n, findNode w.state (trimSpace nodeID) = some n ∧ n.status = .pending ∧
        NodeRemoved (withoutRelay n.id) w.state w'.state n ∧ n.id ∉ w'.state.routeParticipants) ∧
    ∀ networkID input, World.Step env w (.op c (.retireNetwork networkID input)) w' →
      NetworkRemoved w.state w'.state networkID :=
  ⟨fun _ _ hstep => World.archiveNode_removed hr hstep, fun _ _ hstep => World.cancelPendingNode_removed hr hstep,
    fun _ _ hstep => World.retireNetwork_removed hr hstep⟩

/-! ## Runs -/

/-- A member starts to edit its routes, takes that back and is revoked; its certificate expires. -/
def formerMember : List Action := memberRun ++ [
  .op { eventID := "e5", now := Setting.minutes 5 } (.startRouteProfileEdit "n2" {
    routedSubnets := ["192.168.0.0/24"], expectedConfigRevision := 1, requestID := "request-00000005" }),
  .op { eventID := "e6", now := Setting.minutes 6 } (.updateRouteProfileEdit "n2" {
    expectedConfigRevision := 2, requestID := "request-00000005" } true),
  .op { eventID := "e7", now := Setting.minutes 7 } (.revokeNode "n2" "f7"), .tick (Setting.minutes 600000)]

/-- The archival takes the revocation of the member away and leaves the edit that it cancelled. -/
def archiveRun : World.Passed (World.playLast (stepEval.1 Setting.env) Setting.start formerMember
    (.op { eventID := "e8", now := Setting.minutes 600000 } (.archiveNode "n2" ⟨4, "node2"⟩)) fun w w' =>
    decide (w.state.revocations.map CertificateRevocation.nodeID = ["n2"] ∧ w'.state.revocations = []) &&
      w'.state.networks.any fun v => decide (v.routeProfileEdit.nodeID = "n2")) where
  holds := by decide +kernel

def cancelRun : World.Passed (World.playLast (stepEval.1 Setting.env) Setting.start
    [Setting.network, Setting.node 2 { name := "" }]
    (.op { eventID := "e3", now := Setting.minutes 3 } (.cancelPendingNode "n2" "node2")) fun _ _ => true) where
  holds := by decide +kernel

def retireRun : World.Passed (World.playLast (stepEval.1 Setting.env) Setting.start memberRun
    (.op { eventID := "e5", now := Setting.minutes 5 } (.retireNetwork "w1" ⟨1, "net"⟩)) fun w _ =>
    w.state.nodes.any fun n => decide (n.id = "n2" ∧ n.networkID = "w1")) where
  holds := by decide +kernel

theorem deletion_removes_own_records_runs :
    (∃ w c input w' n, World.Reachable Setting.env w ∧
      World.Step Setting.env w (.op c (.archiveNode "n2" input)) w' ∧ NodeRemoved id w.state w'.state n) ∧
    (∃ w c name w' n, World.Reachable Setting.env w ∧
      World.Step Setting.env w (.op c (.cancelPendingNode "n2" name)) w' ∧
      NodeRemoved (withoutRelay n.id) w.state w'.state n ∧ n.id ∉ w'.state.routeParticipants) ∧
    ∃ w c input w', World.Reachable Setting.env w ∧
      World.Step Setting.env w (.op c (.retireNetwork "w1" input)) w' ∧ NetworkRemoved w.state w'.state "w1" ∧
      "n2" ∉ w'.state.namedNodes := by
  refine ⟨?_, ?_, ?_⟩
  · obtain ⟨w, w', hr, hstep, -⟩ := World.playLast_spec Setting.start_reachable archiveRun.holds
    obtain ⟨n, -, -, hremoved⟩ := (deletion_removes_own_records hr).1 _ _ hstep
    exact ⟨w, _, _, w', n, hr, hstep, hremoved⟩
  · obtain ⟨w, w', hr, hstep, -⟩ := World.playLast_spec Setting.start_reachable cancelRun.holds
    obtain ⟨n, -, -, hremoved, hroutes⟩ := (deletion_removes_own_records hr).2.1 _ _ hstep
    exact ⟨w, _, _, w', n, hr, hstep, hremoved, hroutes⟩
  · obtain ⟨w, w', hr, hstep, h⟩ := World.playLast_spec Setting.start_reachable retireRun.holds
    simp only [List.any_eq_true, decide_eq_true_eq] at h
    obtain ⟨n, hn, hid, hnet⟩ := h
    have hremoved := (deletion_removes_own_records hr).2.2 _ _ hstep
    exact ⟨w, _, _, w', hr, hstep, hremoved, hid ▸ (hremoved.nodes n hn hnet).1⟩

/-- An archival can remove revocations of the node, and leave a record other than events and revocations that
names it. -/
theorem archived_node_on_receipt :
    ∃ w w' c input, World.Reachable Setting.env w ∧ World.Step Setting.env w (.op c (.archiveNode "n2" input)) w' ∧
      (∃ r ∈ w.state.revocations, r.nodeID = "n2" ∧ r ∉ w'.state.revocations) ∧
      ∃ v ∈ w'.state.networks, v.routeProfileEdit.nodeID = "n2" := by
  obtain ⟨w, w', hr, hstep, h⟩ := World.playLast_spec Setting.start_reachable archiveRun.holds
  simp only [Bool.and_eq_true, List.any_eq_true, decide_eq_true_eq] at h
  obtain ⟨⟨hrevs, hnone⟩, v, hv, hedit⟩ := h
  obtain ⟨r, hr', hid⟩ := List.mem_map.mp (hrevs ▸ List.mem_singleton_self "n2")
  exact ⟨w, w', _, _, hr, hstep, ⟨r, hr', hid, by rw [hnone]; exact List.not_mem_nil⟩, v, hv, hedit⟩

end Mesh
