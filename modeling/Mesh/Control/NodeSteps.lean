import Mesh.Control.RouteGraph
import Mesh.Control.Steps

/-!
# Mesh.Control.NodeSteps

What an effect can do to one node. Of the nodes after an effect each is new, with a freshly drawn
identifier, or it is the node that had its identifier, after one of nine changes (`Effect.nodeStep`).
Invariants that speak of single nodes go by cases on the change.

`World.traced` collects the first of them: identifiers were drawn and never change hands, and a node
that is not enrolled has no certificate.
-/

namespace Mesh

variable {inputs : Inputs} {s s' : State} {new : Option (Flight × Issued)} {n n' : Node}

inductive NodeStep (inputs : Inputs) (s s' : State) : Option (Flight × Issued) → Node → Node → Prop where
  | kept {new : Option (Flight × Issued)} {n n' : Node} :
      n'.core = n.core → n'.report = n.report → NodeStep inputs s s' new n n'
  | reported {n n' : Node} {w : Network} {tokenHash : String} {input : HeartbeatInput} {now : Int} :
      n.status = .active → findNetwork s n.networkID = some w → n'.core = n.core →
      inputs.report = some (tokenHash, input) → (agentCredentialMatch n tokenHash now).1 = true →
      n.appliedConfigRevision ≤ input.appliedConfigRevision →
      input.appliedConfigRevision ≤ w.configRevision → n'.report = input.reportOn n →
      NodeStep inputs s s' none n n'
  | claimed {n : Node} {claimID : String} {now : Int} :
      n.status = .active → claimID ∈ inputs.drawn →
      NodeStep inputs s s' none n { n with renewalClaimID := claimID, renewalClaimedAt := some now }
  | released {n : Node} :
      NodeStep inputs s s' none n { n with renewalClaimID := "", renewalClaimedAt := none }
  | routed {n : Node} {w w' : Network} {subnets : List String} :
      n.status = .active → findNetwork s n.networkID = some w → findNetwork s' n.networkID = some w' →
      w'.configRevision = w.configRevision + 1 →
      NodeStep inputs s s' none n { n with routedSubnets := subnets }
  | enrolled {f : EnrollFlight} {c : SignedCertificate} {n : Node} {w : Network} {renewAfter now : Int} :
      findNode s f.node.id = some n → n.status = .pending → findNetwork s f.network.id = some w →
      fingerprintPattern c.fingerprint = true →
      NodeStep inputs s s' (some (.enroll f, ⟨.enrolled, n.id, n.networkID, f.signing, c, 1⟩)) n
        (enrolledNode s f.request (networkSigningAuthority w).1 c renewAfter now n)
  | renewed {f : RenewFlight} {c : SignedCertificate} {n : Node} {w : Network} {renewAfter now : Int} :
      findNode s f.node.id = some n → n.status = .active → findNetwork s f.node.networkID = some w →
      n.renewalClaimID = f.claimID → fingerprintPattern c.fingerprint = true →
      n.certificateGeneration < inc64 n.certificateGeneration →
      NodeStep inputs s s' (some (.renew f,
          ⟨.renewed, n.id, n.networkID, f.signing, c, inc64 n.certificateGeneration⟩)) n
        (renewedNode s (networkSigningAuthority w).1 c renewAfter now n)
  | replaced {flight : Flight} {r : Replacement} {c : SignedCertificate} {n : Node} {w w' : Network}
      {groups : List String} {renewAfter now : Int} :
      flight.replacement? = some r → findNode s r.snapshot.node.id = some n → n.status = .active →
      findNetwork s n.networkID = some w → w.configRevision = r.expectedConfigRevision →
      findNetwork s' n.networkID = some w' → w'.configRevision = w.configRevision + 1 →
      fingerprintPattern c.fingerprint = true →
      (r.kind = .rotated ∧ groups = n.groups ∨ r.kind = .regrouped ∧ groups = r.request.groups) →
      NodeStep inputs s s' (some (flight,
          ⟨r.kind, n.id, n.networkID, r.request, c, inc64 n.certificateGeneration⟩)) n
        { renewedNode s (networkSigningAuthority w).1 c renewAfter now n with groups := groups }
  | revoked {n : Node} {now : Int} : n.status ≠ .revoked → NodeStep inputs s s' none n (revokedNode now n)

/-- Identity and address of a node never change. -/
structure SameIdentity (n n' : Node) : Prop where
  id : n'.id = n.id
  networkID : n'.networkID = n.networkID
  name : n'.name = n.name
  ip : n'.ip = n.ip
  role : n'.role = n.role

theorem SameIdentity.of_core (h : n'.core = n.core) : SameIdentity n n' :=
  ⟨Node.eq_of_core Node.id (fun _ => rfl) h, Node.eq_of_core Node.networkID (fun _ => rfl) h,
    Node.eq_of_core Node.name (fun _ => rfl) h, Node.eq_of_core Node.ip (fun _ => rfl) h,
    Node.eq_of_core Node.role (fun _ => rfl) h⟩

theorem NodeStep.identity (h : NodeStep inputs s s' new n n') : SameIdentity n n' := by
  cases h with
  | kept hcore => exact .of_core hcore
  | reported _ _ hcore => exact .of_core hcore
  | claimed => exact ⟨rfl, rfl, rfl, rfl, rfl⟩
  | released => exact ⟨rfl, rfl, rfl, rfl, rfl⟩
  | routed => exact ⟨rfl, rfl, rfl, rfl, rfl⟩
  | enrolled => exact ⟨rfl, rfl, rfl, rfl, rfl⟩
  | renewed => exact ⟨rfl, rfl, rfl, rfl, rfl⟩
  | replaced => exact ⟨rfl, rfl, rfl, rfl, rfl⟩
  | revoked => exact ⟨rfl, rfl, rfl, rfl, rfl⟩

/-! ## From effects to nodes -/

theorem exists_of_map_eq {α β γ : Type} {f : α → β} {g : α → γ} {xs : List α} :
    ∀ {ys : List α}, ys.map f = xs.map f → ys.map g = xs.map g →
      ∀ y ∈ ys, ∃ x ∈ xs, f y = f x ∧ g y = g x := by
  induction xs with
  | nil =>
    intro ys hf _ y hy
    rw [List.map_nil, List.map_eq_nil_iff] at hf
    rw [hf] at hy
    cases hy
  | cons x xs ih =>
    intro ys hf hg y hy
    cases ys with
    | nil => cases hy
    | cons z zs =>
      rw [List.map_cons, List.map_cons, List.cons.injEq] at hf hg
      rcases List.mem_cons.mp hy with rfl | hy
      · exact ⟨x, List.mem_cons_self, hf.1, hg.1⟩
      · obtain ⟨x', hx', hxy⟩ := ih hf.2 hg.2 y hy
        exact ⟨x', List.mem_cons_of_mem _ hx', hxy⟩

/-- A node of the lists before that no change touched. -/
theorem NodeStep.exists_kept (hn : n ∈ s.nodes) : ∃ m ∈ s.nodes, m.id = n.id ∧ NodeStep inputs s s' new m n :=
  ⟨n, hn, rfl, .kept rfl rfl⟩

theorem NodeStep.exists_put {m : Node} (hm : m ∈ Keyed.put Node.id n' s.nodes)
    (hn : findNode s n.id = some n) (hid : n'.id = n.id) (hstep : NodeStep inputs s s' new n n') :
    ∃ o ∈ s.nodes, o.id = m.id ∧ NodeStep inputs s s' new o m := by
  rcases Keyed.mem_put.mp hm with ⟨hold, -⟩ | ⟨rfl, -⟩
  · exact exists_kept hold
  · exact ⟨n, mem_of_findNode hn, hid.symm, hstep⟩

theorem Effect.nodeStep (hv : ValidGraph s) (hc : Current s) (h : Effect inputs s s' new)
    (hn' : n' ∈ s'.nodes) :
    (NewNode n' ∧ n'.id ∈ inputs.drawn) ∨ ∃ n ∈ s.nodes, n.id = n'.id ∧ NodeStep inputs s s' new n n' := by
  cases h with
  | touched hr hcore hreport =>
    rw [hr.nodes] at hn'
    obtain ⟨n, hn, hc, hrep⟩ := exists_of_map_eq hcore hreport n' hn'
    exact .inr ⟨n, hn, (SameIdentity.of_core hc).id.symm, .kept hc hrep⟩
  | reported hr hn hactive hw hcore hinput hmatch hle hle' hreport =>
    rw [hr.nodes] at hn'
    exact .inr (NodeStep.exists_put hn' hn (SameIdentity.of_core hcore).id
      (.reported hactive hw hcore hinput hmatch hle hle' hreport))
  | renewalClaimed hr hn hactive hid =>
    rw [hr.nodes] at hn'
    exact .inr (NodeStep.exists_put hn' hn rfl (.claimed hactive hid))
  | renewalReleased hr =>
    rw [hr.nodes, releaseRenewalClaim, List.mem_map] at hn'
    obtain ⟨n, hn, rfl⟩ := hn'
    refine .inr ⟨n, hn, ?_⟩
    split_ifs
    · exact ⟨rfl, .released⟩
    · exact ⟨rfl, .kept rfl rfl⟩
  | enrollmentClaimed hr => exact .inr (NodeStep.exists_kept (hr.nodes ▸ hn'))
  | enrollmentReleased hr => exact .inr (NodeStep.exists_kept (hr.nodes ▸ hn'))
  | reissued hr => exact .inr (NodeStep.exists_kept (hr.nodes ▸ hn'))
  | networkCreated hr => exact .inr (NodeStep.exists_kept (hr.nodes ▸ hn'))
  | networkRetired hr =>
    rw [hr.nodes] at hn'
    exact .inr (NodeStep.exists_kept (List.mem_of_mem_filter hn'))
  | nodeCreated hr hnew hid =>
    rw [hr.nodes, List.mem_append, List.mem_singleton] at hn'
    rcases hn' with hn' | rfl
    · exact .inr (NodeStep.exists_kept hn')
    · exact .inl ⟨hnew, hid⟩
  | nodeCancelled hr =>
    rw [hr.nodes] at hn'
    exact .inr (NodeStep.exists_kept (Keyed.mem_drop.mp hn').1)
  | nodeArchived hr =>
    rw [hr.nodes] at hn'
    exact .inr (NodeStep.exists_kept (Keyed.mem_drop.mp hn').1)
  | networkChanged hr => exact .inr (NodeStep.exists_kept (hr.nodes ▸ hn'))
  | transferPromoted hr hw hphase hsource htarget =>
    obtain ⟨source', target', ho⟩ := hv.transferOwners hc (mem_of_findNetwork hw)
      (by simp [routeTransferActive, hphase])
    have hs := ho.sourceFound
    have ht := ho.targetFound
    rw [hsource, Option.some.injEq] at hs
    rw [htarget, Option.some.injEq] at ht
    subst hs ht
    rw [hr.nodes, promoteOwnership] at hn'
    have hw' := findNetwork_put_self hr.networks hw rfl
    rcases Keyed.mem_put.mp hn' with ⟨hn', -⟩ | ⟨rfl, -⟩
    · exact .inr (NodeStep.exists_put hn' (findNode_self htarget) rfl
        (.routed ho.targetActive (by rw [ho.targetNetwork]; exact hw)
          (by rw [ho.targetNetwork]; exact hw') rfl))
    · exact .inr ⟨_, mem_of_findNode hsource, rfl, .routed ho.sourceActive
        (by rw [ho.sourceNetwork]; exact hw) (by rw [ho.sourceNetwork]; exact hw') rfl⟩
  | editPromoted hr hw hphase hn =>
    obtain ⟨m, hm⟩ := hv.editOwner hc (mem_of_findNetwork hw) (by simp [routeProfileEditActive, hphase])
    have howner := hm.owner
    rw [hn, Option.some.injEq] at howner
    subst howner
    rw [hr.nodes] at hn'
    exact .inr (NodeStep.exists_put hn' (findNode_self hn) rfl
      (.routed hm.active (by rw [hm.network]; exact hw)
        (by rw [hm.network]; exact findNetwork_put_self hr.networks hw rfl) rfl))
  | editNarrowed hr hw hn hnet hactive =>
    rw [hr.nodes] at hn'
    exact .inr (NodeStep.exists_put hn' hn rfl
      (.routed hactive (by rw [hnet]; exact hw)
        (by rw [hnet]; exact findNetwork_put_self hr.networks hw rfl) rfl))
  | enrolled hr hn hpending hw _ _ _ _ _ hfp =>
    rw [hr.nodes] at hn'
    exact .inr (NodeStep.exists_put hn' (findNode_self hn) rfl (.enrolled hn hpending hw hfp))
  | renewed hr hn hactive hw _ hclaim hfp hgen =>
    rw [hr.nodes] at hn'
    exact .inr (NodeStep.exists_put hn' (findNode_self hn) rfl
      (.renewed hn hactive hw hclaim hfp hgen))
  | replaced hr hrep hn hactive hw _ _ hrev hfp hgroups =>
    have hid := findNetwork_id hw
    rw [hr.nodes] at hn'
    exact .inr (NodeStep.exists_put hn' (findNode_self hn) rfl
      (.replaced hrep hn hactive hw hrev (by rw [← hid]; exact findNetwork_put_self hr.networks hw rfl) rfl
        hfp hgroups))
  | revoked hr hn hstatus _ _ _ _ _ _ hcreated =>
    rw [hr.nodes, List.mem_append, List.mem_map] at hn'
    rcases hn' with hn' | ⟨p, hp, rfl⟩
    · exact .inr (NodeStep.exists_put hn' hn rfl (.revoked hstatus))
    · exact .inl ⟨(hcreated p hp).1, (hcreated p hp).2.1⟩

/-! ## Identifiers over runs -/

theorem Born.subject {drawn : List String} {s s' : State} {f : Flight} {o : Snapshot}
    (hb : Born drawn s s' f) (ho : f.subject? = some o) :
    o.network.id = o.node.networkID ∧ findNode s' o.node.id = some o.node := by
  cases hb with
  | enroll _ _ _ _ _ _ hnodes _ _ hn _ hw =>
    cases ho
    exact ⟨findNetwork_id hw, by rw [findNode, hnodes]; exact hn⟩
  | renew hn _ _ hw =>
    cases ho
    exact ⟨findNetwork_id hw, hn⟩
  | @replacement _ r hr hs hn _ hw =>
    have : o = r.snapshot := by
      cases f with
      | rotate | groups =>
        cases hr
        cases ho
        rfl
      | enroll | renew | recover | prepareCA => cases hr
    subst this hs
    exact ⟨findNetwork_id hw, hn⟩
  | recover => cases ho
  | prepareCA => cases ho

namespace World

variable {env : Env} {w w' : World} {a : Action}

/-- What a request under way read of its node and network stays true of them. -/
structure SubjectKept (w : World) (o : Snapshot) : Prop where
  network : o.network.id = o.node.networkID
  drawn : o.node.id ∈ w.drawn
  same : ∀ n ∈ w.state.nodes, n.id = o.node.id → n.networkID = o.node.networkID

structure Traced (w : World) : Prop where
  drawn : ∀ n ∈ w.state.nodes, n.id ∈ w.drawn
  unissued : ∀ n ∈ w.state.nodes, n.enrolledAt = none → n.certificateFingerprint = ""
  subjects : ∀ f ∈ w.flights, ∀ o, f.subject? = some o → SubjectKept w o

theorem StepEffect.nodeDrawn (hs : Sound w) {new : Option (Flight × Issued)}
    (he : StepEffect w a w' new) (hd : ∀ n ∈ w.state.nodes, n.id ∈ w.drawn) :
    ∀ n ∈ w'.state.nodes, n.id ∈ w'.drawn := by
  intro n' hn'
  rw [he.drawn, List.mem_append]
  obtain ⟨-, hid⟩ | ⟨n, hn, hid, -⟩ := he.effect.nodeStep hs.valid hs.current hn'
  · exact .inl (a.inputs_drawn ▸ hid)
  · exact .inr (hid ▸ hd n hn)

theorem StepEffect.unissued (hs : Sound w) {new : Option (Flight × Issued)} (he : StepEffect w a w' new)
    (hu : ∀ n ∈ w.state.nodes, n.enrolledAt = none → n.certificateFingerprint = "") :
    ∀ n ∈ w'.state.nodes, n.enrolledAt = none → n.certificateFingerprint = "" := by
  intro n' hn' hnone
  obtain ⟨hnew, -⟩ | ⟨n, hn, -, hstep⟩ := he.effect.nodeStep hs.valid hs.current hn'
  · exact hnew.fingerprint
  -- an active node is enrolled, so the certificates it gets are no exception
  have hactive : n.status = .active → n.enrolledAt ≠ none := hs.valid.enrolledAt_ne_none hs.current hn
  cases hstep with
  | kept hcore | reported _ _ hcore =>
    rw [Node.eq_of_core Node.enrolledAt (fun _ => rfl) hcore] at hnone
    rw [Node.eq_of_core Node.certificateFingerprint (fun _ => rfl) hcore]
    exact hu n hn hnone
  | claimed => exact hu n hn hnone
  | released => exact hu n hn hnone
  | routed => exact hu n hn hnone
  | revoked => exact hu n hn hnone
  | enrolled => cases hnone
  | renewed _ ha => exact absurd hnone (hactive ha)
  | replaced _ _ ha => exact absurd hnone (hactive ha)

/-- A node with the identifier of an older one is that node. -/
theorem StepEffect.node_of_drawn (hs : Sound w) (ha : Admissible w a) {new : Option (Flight × Issued)}
    (he : StepEffect w a w' new) {n' : Node} (hn' : n' ∈ w'.state.nodes) (hd : n'.id ∈ w.drawn) :
    ∃ n ∈ w.state.nodes, n.id = n'.id ∧ NodeStep a.inputs w.state w'.state new n n' := by
  obtain ⟨-, hid⟩ | h := he.effect.nodeStep hs.valid hs.current hn'
  · exact absurd hd (ha.fresh _ (a.inputs_drawn ▸ hid)).2
  · exact h

theorem traced (h : Reachable env w) : Traced w := by
  induction h with
  | start h0 =>
    refine ⟨fun n hn => ?_, fun n hn => ?_, fun f hf => ?_⟩
    · rw [h0.nodes] at hn
      cases hn
    · rw [h0.nodes] at hn
      cases hn
    · rw [h0.flights] at hf
      cases hf
  | @next w w' a hr hstep ih =>
    have hs := sound hr
    obtain ⟨new, he⟩ := step_effect hs hstep.2
    have hdrawn := he.nodeDrawn hs ih.drawn
    refine ⟨hdrawn, he.unissued hs ih.unissued, fun f hf o ho => ?_⟩
    obtain hold | hborn := he.flights f hf
    · have hk := ih.subjects f hold o ho
      refine ⟨hk.network, by rw [he.drawn]; exact List.mem_append_right _ hk.drawn, fun n' hn' hid => ?_⟩
      obtain ⟨n, hn, hnid, hst⟩ := he.node_of_drawn hs hstep.1 hn' (hid ▸ hk.drawn)
      rw [hst.identity.networkID]
      exact hk.same n hn (hnid.trans hid)
    · obtain ⟨hnet, hfound⟩ := hborn.subject ho
      refine ⟨hnet, hdrawn _ (mem_of_findNode hfound), fun n' hn' hid => ?_⟩
      rw [he.valid.findNode_iff.mpr ⟨hn', hid⟩, Option.some.injEq] at hfound
      rw [hfound]

end World

end Mesh
