import Mesh.Control.Counters
import Mesh.Control.Deletion

/-!
# Mesh.Control.Lifecycle

Certificates over whole runs. A certificate is signed between two transactions, for the node that the first
one read, and stored by the second with the node as it is by then. What the second one looks at again (the
pending status, the mark of the renewal, the revision of the network) is enough: the certificate that is
stored was signed for the node as it is (`World.fits`, `World.certifies_step`).
-/

namespace Mesh

variable {inputs : Inputs} {s s' : State} {new : Option (Flight × Issued)} {n n' : Node} {x : Issued}

/-! ## Requests under way -/

/-- A change of a node, for the requests that read the node before. -/
structure Reread (inputs : Inputs) (s s' : State) (n n' : Node) : Prop where
  pending : n'.status = .pending → n.status = .pending ∧ n'.groups = n.groups
  marked : n'.renewalClaimID = "" ∨ n'.renewalClaimID ∈ inputs.drawn ∨
    n'.renewalClaimID = n.renewalClaimID ∧ n'.groups = n.groups
  revised : n'.groups = n.groups ∨ ∃ v v', findNetwork s n.networkID = some v ∧
    findNetwork s' n.networkID = some v' ∧ v'.configRevision = v.configRevision + 1

theorem NodeStep.reread (h : NodeStep inputs s s' new n n') : Reread inputs s s' n n' := by
  have hne : n.status = .active → n.status ≠ .pending := fun ha hp => by cases ha.symm.trans hp
  cases h with
  | kept hcore | reported _ _ hcore =>
    have hgroups := Node.eq_of_core Node.groups (fun _ => rfl) hcore
    have hstatus := Node.eq_of_core Node.status (fun _ => rfl) hcore
    exact ⟨fun hp => ⟨hstatus ▸ hp, hgroups⟩,
      .inr (.inr ⟨Node.eq_of_core Node.renewalClaimID (fun _ => rfl) hcore, hgroups⟩), .inl hgroups⟩
  | claimed _ hid => exact ⟨fun hp => ⟨hp, rfl⟩, .inr (.inl hid), .inl rfl⟩
  | released => exact ⟨fun hp => ⟨hp, rfl⟩, .inl rfl, .inl rfl⟩
  | routed => exact ⟨fun hp => ⟨hp, rfl⟩, .inr (.inr ⟨rfl, rfl⟩), .inl rfl⟩
  | enrolled => exact ⟨by rintro ⟨⟩, .inr (.inr ⟨rfl, rfl⟩), .inl rfl⟩
  | renewed _ ha => exact ⟨fun hp => absurd hp (hne ha), .inl rfl, .inl rfl⟩
  | replaced _ _ ha hv _ hv' hrev => exact ⟨fun hp => absurd hp (hne ha), .inl rfl, .inr ⟨_, _, hv, hv', hrev⟩⟩
  | revoked => exact ⟨by rintro ⟨⟩, .inl rfl, .inl rfl⟩

/-- What the last transaction of a request looks at again. A change of groups stores the groups that it
signed, so it is not among them. -/
def Takes (s : State) (n : Node) : Flight → Prop
  | .enroll _ => n.status = .pending
  | .renew f => n.renewalClaimID = f.claimID
  | .rotate _ f => ∃ v, findNetwork s n.networkID = some v ∧ v.configRevision = f.input.expectedConfigRevision
  | _ => False

/-- The certificate is the one stored with the node, and it was signed for the node as it is. -/
def Issued.Certifies (x : Issued) (n : Node) : Prop :=
  x.nodeID = n.id ∧ x.certificate.certificate = n.certificate ∧
    x.certificate.fingerprint = n.certificateFingerprint ∧ x.generation = n.certificateGeneration ∧
    x.request.name = n.name ∧ x.request.groups = n.groups ∧ ∃ bits, x.request.address = n.ip ++ "/" ++ bits

namespace World

variable {env : Env} {w w' : World} {a : Action} {f : Flight}

theorem StepEffect.mem_drawn (he : StepEffect w a w' new) {d : String} (hd : d ∈ w.drawn) : d ∈ w'.drawn := by
  rw [he.drawn]
  exact List.mem_append_right _ hd

/-- A request under way: its mark is its own, the revision it read is not ahead, and what it read of its
node is still so if its last transaction takes the node. -/
structure Fits (w : World) (f : Flight) : Prop where
  mark : ∀ g, f = .renew g → g.claimID ≠ "" ∧ g.claimID ∈ w.drawn
  node : ∀ o, f.subject? = some o → ∀ n ∈ w.state.nodes, n.id = o.node.id →
    n.name = o.node.name ∧ n.ip = o.node.ip ∧ (Takes w.state n f → n.groups = o.node.groups) ∧
      ∀ actor g v, f = .rotate actor g → findNetwork w.state n.networkID = some v →
        g.input.expectedConfigRevision ≤ v.configRevision

/-- The network of a node that a step leaves has no lower revision than before. -/
theorem network_le (hr : Reachable env w) (h : Step env w a w') (hn : n ∈ w.state.nodes)
    (hnet : n'.networkID = n.networkID) {v' : Network} (hv' : findNetwork w'.state n'.networkID = some v') :
    ∃ v, findNetwork w.state n.networkID = some v ∧ v.configRevision ≤ v'.configRevision := by
  have hs := sound hr
  obtain ⟨v, hv, -⟩ := hs.valid.nodeRecord hs.current hn
  exact ⟨v, hv, revision_le hr h (mem_of_findNetwork hv) (mem_of_findNetwork hv')
    ((findNetwork_id hv').trans (hnet.trans (findNetwork_id hv).symm))⟩

theorem Fits.kept (hr : Reachable env w) (h : Step env w a w') (he : StepEffect w a w' new)
    (hf : f ∈ w.flights) (hfit : Fits w f) : Fits w' f := by
  refine ⟨fun g hg => (hfit.mark g hg).imp_right he.mem_drawn, fun o ho n' hn' hid => ?_⟩
  have hdrawn := ((traced hr).subjects f hf o ho).drawn
  obtain ⟨n, hn, hnid, hst⟩ := he.node_of_drawn (sound hr) h.1 hn' (hid ▸ hdrawn)
  obtain ⟨hname, hip, hgroups, hrev⟩ := hfit.node o ho n hn (hnid.trans hid)
  have hst' := hst.identity
  refine ⟨hst'.name.trans hname, hst'.ip.trans hip, fun ht => ?_, fun actor g v' hg hv' => ?_⟩
  · have hre := hst.reread
    cases f with
    | enroll f =>
      obtain ⟨hp, heq⟩ := hre.pending ht
      rw [heq]
      exact hgroups hp
    | renew f =>
      obtain ⟨hne, hd⟩ := hfit.mark f rfl
      rcases hre.marked with hm | hm | ⟨hm, heq⟩
      · exact absurd (ht.symm.trans hm) hne
      · -- a mark that was drawn just now is not the one of this request
        rw [ht, a.inputs_drawn] at hm
        exact absurd hd (h.1.fresh _ hm).2
      · rw [heq]
        exact hgroups (hm.symm.trans ht)
    | rotate actor f =>
      obtain ⟨v', hv', heq'⟩ := ht
      rcases hre.revised with heq | ⟨u, u', hu, hu', hstep⟩
      · obtain ⟨v, hv, hle⟩ := network_le hr h hn hst'.networkID hv'
        have := hrev actor f v rfl hv
        rw [heq]
        exact hgroups ⟨v, hv, by omega⟩
      · have := hrev actor f u rfl hu
        rw [hst'.networkID, hu', Option.some.injEq] at hv'
        subst hv'
        omega
    | groups | recover | prepareCA => exact ht.elim
  · obtain ⟨v, hv, hle⟩ := network_le hr h hn hst'.networkID hv'
    exact (hrev actor g v hg hv).trans hle

theorem Fits.born (he : StepEffect w a w' new) (hfresh : Admissible w a)
    (hb : Born a.draws w.state w'.state f) : Fits w' f := by
  refine ⟨?_, fun o ho n hn hid => ?_⟩
  · rintro g rfl
    cases hb with
    | renew _ _ _ _ hd => exact ⟨(hfresh.fresh _ hd).1, by rw [he.drawn]; exact List.mem_append_left _ hd⟩
    | replacement hr => cases hr
  obtain ⟨-, hfound⟩ := hb.subject ho
  rw [he.valid.findNode_iff.mpr ⟨hn, hid⟩, Option.some.injEq] at hfound
  subst hfound
  refine ⟨rfl, rfl, fun _ => rfl, ?_⟩
  rintro actor g v rfl hv
  cases ho
  cases hb with
  | replacement hr hs _ _ hnet hrev =>
    cases hr
    rw [hs, hnet, Option.some.injEq] at hv
    rw [← hv]
    exact hrev.ge

theorem fits (hr : Reachable env w) : ∀ f ∈ w.flights, Fits w f := by
  induction hr with
  | start h0 => simp [h0.flights]
  | @next w w' a hr h ih =>
    intro f hf
    obtain ⟨new, he⟩ := step_effect (sound hr) h.2
    obtain hold | hborn := he.flights f hf
    · exact (ih f hold).kept hr h he hold
    · exact .born he h.1 hborn

/-! ## The certificate of a node -/

theorem certifies_step (h : NodeStep inputs w.state s' new n n') (hn : n ∈ w.state.nodes)
    (hfit : ∀ f x, new = some (f, x) → Fits w f) :
    n'.status = .active → (n.status = .active ∧ ∀ x : Issued, x.Certifies n → x.Certifies n') ∨
      ∃ f x, new = some (f, x) ∧ x.Certifies n' := by
  intro hactive
  cases h with
  | kept hcore | reported _ _ hcore =>
    refine .inl ⟨Node.eq_of_core Node.status (fun _ => rfl) hcore ▸ hactive, fun x hx => ?_⟩
    rw [Node.eq_of_core x.Certifies (fun _ => rfl) hcore]
    exact hx
  | claimed | released | routed => exact .inl ⟨hactive, fun _ hx => hx⟩
  | revoked => cases hactive
  | enrolled hfound hp =>
    obtain ⟨hname, hip, hgroups, -⟩ := (hfit _ _ rfl).node _ rfl n hn (findNode_id hfound)
    exact .inr ⟨_, _, rfl, rfl, rfl, rfl, rfl, hname.symm, (hgroups hp).symm, _,
      congrArg (· ++ "/" ++ prefixLength _) hip.symm⟩
  | renewed hfound _ _ hmark =>
    obtain ⟨hname, hip, hgroups, -⟩ := (hfit _ _ rfl).node _ rfl n hn (findNode_id hfound)
    exact .inr ⟨_, _, rfl, rfl, rfl, rfl, rfl, hname.symm, (hgroups hmark).symm, _,
      congrArg (· ++ "/" ++ prefixLength _) hip.symm⟩
  | @replaced flight _ _ _ _ _ _ _ _ hrep hfound _ hv hrev _ _ _ hg =>
    cases flight with
    | rotate actor f =>
      cases hrep
      obtain ⟨hname, hip, hgroups, -⟩ := (hfit _ _ rfl).node _ rfl n hn (findNode_id hfound)
      obtain ⟨-, rfl⟩ | ⟨hkind, -⟩ := hg
      · exact .inr ⟨_, _, rfl, rfl, rfl, rfl, rfl, hname.symm, (hgroups ⟨_, hv, hrev⟩).symm, _,
          congrArg (· ++ "/" ++ prefixLength _) hip.symm⟩
      · cases hkind
    | groups actor f =>
      cases hrep
      obtain ⟨hname, hip, -⟩ := (hfit _ _ rfl).node _ rfl n hn (findNode_id hfound)
      obtain ⟨hkind, -⟩ | ⟨-, rfl⟩ := hg
      · cases hkind
      · exact .inr ⟨_, _, rfl, rfl, rfl, rfl, rfl, hname.symm, rfl, _,
          congrArg (· ++ "/" ++ prefixLength _) hip.symm⟩
    | enroll | renew | recover | prepareCA => cases hrep

/-- A certificate is only stored for a node that is not revoked. -/
theorem StepEffect.subject (he : StepEffect w a w' (some (f, x))) :
    ∃ n ∈ w.state.nodes, n.id = x.nodeID ∧ n.status ≠ .revoked := by
  cases he.effect with
  | enrolled _ hn h | renewed _ hn h | replaced _ _ hn h =>
    exact ⟨_, mem_of_findNode hn, rfl, fun hrev => by cases h.symm.trans hrev⟩

theorem StepEffect.mem_issued (he : StepEffect w a w' new) (x : Issued) :
    x ∈ w'.issued ↔ (∃ f, new = some (f, x)) ∨ x ∈ w.issued := by simp [he.issued]

end World

/-- Whatever requests were under way together: the certificate of an active node was signed for the name, the
address and the groups that the node has. -/
theorem active_certificate_certifies {env : Env} {w : World} (hr : World.Reachable env w) :
    ∀ n ∈ w.state.nodes, n.status = .active → ∃ x ∈ w.issued, x.Certifies n := by
  induction hr with
  | start h0 => simp [h0.nodes]
  | @next w w' a hr h ih =>
    intro n' hn' hactive
    have hs := World.sound hr
    obtain ⟨new, he⟩ := World.step_effect hs h.2
    have hfit : ∀ f x, new = some (f, x) → World.Fits w f := by
      intro f x hnew
      obtain ⟨i, -, -, -, hi⟩ := he.flight f x hnew
      exact World.fits hr f (List.mem_of_getElem? hi)
    obtain ⟨hnew, -⟩ | ⟨n, hn, -, hst⟩ := he.effect.nodeStep hs.valid hs.current hn'
    · cases hnew.status.symm.trans hactive
    · obtain ⟨hold, hkeep⟩ | ⟨f, x, hnew, hx⟩ := World.certifies_step hst hn hfit hactive
      · obtain ⟨x, hx, hcert⟩ := ih n hn hold
        exact ⟨x, (he.mem_issued x).mpr (.inr hx), hkeep x hcert⟩
      · exact ⟨x, (he.mem_issued x).mpr (.inl ⟨f, hnew⟩), hx⟩

/-- The member whose recovery is under way has the certificate it enrolled with. -/
theorem active_certificate_certifies_member :
    ∃ w n x, World.Reachable Setting.env w ∧ n ∈ w.state.nodes ∧ n.id = "n2" ∧ x ∈ w.issued ∧ x.Certifies n := by
  obtain ⟨w, -, -, -, -, hr, -, -, ⟨n, hn, hid, hauth⟩, -⟩ := recovery_run
  simp only [authenticates, Bool.and_eq_true, beq_iff_eq] at hauth
  obtain ⟨x, hx, hcert⟩ := active_certificate_certifies hr n hn hauth.1
  exact ⟨w, n, x, hr, hn, hid, hx, hcert⟩

/-! ## Enrollments -/

/-- All certificates ever issued, newest first: whatever attempts were under way together, the one that a node
enrolled with is its first, and a node with a certificate is never pending again. -/
theorem enrolled_once {env : Env} {w : World} (hr : World.Reachable env w) :
    (w.issued.Pairwise fun x y => x.kind = .enrolled → y.nodeID ≠ x.nodeID) ∧
      ∀ x ∈ w.issued, x.nodeID ∈ w.drawn ∧ ∀ n ∈ w.state.nodes, n.id = x.nodeID → n.status ≠ .pending := by
  induction hr with
  | start h0 => simp [h0.issued]
  | @next w w' a hr h ih =>
    obtain ⟨ihp, ihn⟩ := ih
    have hs := World.sound hr
    obtain ⟨new, he⟩ := World.step_effect hs h.2
    refine ⟨?_, fun x hx => ?_⟩
    · rw [he.issued]
      cases new with
      | none => exact ihp
      | some p =>
        refine List.pairwise_cons.mpr ⟨fun y hy hkind hyx => ?_, ihp⟩
        cases he.effect with
        | enrolled _ hn hp => exact (ihn y hy).2 _ (mem_of_findNode hn) hyx.symm hp
        | renewed => cases hkind
        | replaced _ _ _ _ _ _ _ _ _ hg => rcases hg with ⟨h, -⟩ | ⟨h, -⟩ <;> cases h.symm.trans hkind
    · obtain ⟨f, rfl⟩ | hx := (he.mem_issued x).mp hx
      · obtain ⟨m, hm⟩ := he.effect.issuedNode
        have hm' := mem_of_findNode hm.found
        have hid := findNode_id hm.found
        refine ⟨hid ▸ (World.traced (.next hr h)).drawn m hm', fun n hn hnid => ?_⟩
        rw [Keyed.eq_of_key_eq he.valid.nodeIDs hn hm' (hnid.trans hid.symm), hm.active]
        decide
      · obtain ⟨hd, hne⟩ := ihn x hx
        refine ⟨he.mem_drawn hd, fun n' hn' hid hp => ?_⟩
        obtain ⟨n, hn, hnid, hst⟩ := he.node_of_drawn hs h.1 hn' (hid ▸ hd)
        exact hne n hn (hnid.trans hid) (hst.reread.pending hp).1

theorem enrolled_once_member : ∃ w n, World.Reachable Setting.env w ∧ n ∈ w.state.nodes ∧
    w.issued.Pairwise fun x y => x.kind = .enrolled → y.nodeID ≠ x.nodeID := by
  obtain ⟨w, -, -, -, -, hr, -, -, ⟨n, hn, -⟩, -⟩ := recovery_run
  exact ⟨w, n, hr, hn, (enrolled_once hr).1⟩

/-! ## Revoked nodes -/

theorem NodeStep.revoked_stays (h : NodeStep inputs s s' new n n') (hn : n.status = .revoked) :
    n'.status = .revoked := by
  cases h with
  | kept hcore | reported _ _ hcore => rw [Node.eq_of_core Node.status (fun _ => rfl) hcore, hn]
  | released => exact hn
  | revoked => rfl
  | claimed h | routed h | enrolled _ h | renewed _ h | replaced _ _ h => cases h.symm.trans hn

/-- A revoked node stays revoked and gets no certificate any more, also not from a request that was under way
when it was revoked. -/
theorem revoked_for_good {env : Env} {w w' : World} {n : Node} (hr : World.Reachable env w)
    (hn : n ∈ w.state.nodes) (hrev : n.status = .revoked) (hl : Runs.Later (World.Step env) w w') :
    (∀ n' ∈ w'.state.nodes, n'.id = n.id → n'.status = .revoked) ∧
      w'.issued.filter (·.nodeID = n.id) = w.issued.filter (·.nodeID = n.id) := by
  suffices h : n.id ∈ w'.drawn ∧ (∀ n' ∈ w'.state.nodes, n'.id = n.id → n'.status = .revoked) ∧
      w'.issued.filter (·.nodeID = n.id) = w.issued.filter (·.nodeID = n.id) from h.2
  induction hl with
  | start h0 =>
    subst h0
    refine ⟨(World.traced hr).drawn n hn, fun n' hn' h => ?_, rfl⟩
    rw [Keyed.eq_of_key_eq (World.sound hr).valid.nodeIDs hn' hn h, hrev]
  | @next w₁ w₂ a hl h ih =>
    obtain ⟨hd, hstays, hissued⟩ := ih
    have hs := World.sound (hr.later hl)
    obtain ⟨new, he⟩ := World.step_effect hs h.2
    refine ⟨he.mem_drawn hd, fun n' hn' h' => ?_, ?_⟩
    · obtain ⟨m, hm, hmid, hst⟩ := he.node_of_drawn hs h.1 hn' (h' ▸ hd)
      exact hst.revoked_stays (hstays m hm (hmid.trans h'))
    · rw [he.issued, List.filter_append, hissued]
      cases new with
      | none => rfl
      | some p =>
        obtain ⟨m, hm, hmid, hne⟩ := he.subject
        have hother : p.2.nodeID ≠ n.id := fun h' => hne (hstays m hm (hmid.trans h'))
        simp [hother]

/-- The archival of a revoked member, with the certificates issued to it so far. -/
theorem revoked_for_good_member :
    ∃ w w' n, World.Reachable Setting.env w ∧ n ∈ w.state.nodes ∧ n.status = .revoked ∧
      Runs.Later (World.Step Setting.env) w w' ∧
      w'.issued.filter (·.nodeID = n.id) = w.issued.filter (·.nodeID = n.id) := by
  obtain ⟨w, w', hr, hstep, -⟩ := World.playLast_spec Setting.start_reachable archiveRun.holds
  obtain ⟨n, hfound, hrev, -⟩ := World.archiveNode_removed hr hstep
  have hn := mem_of_findNode hfound
  have hl : Runs.Later (World.Step Setting.env) w w' := .next (.start rfl) hstep
  exact ⟨w, w', n, hr, hn, hrev, hl, (revoked_for_good hr hn hrev hl).2⟩

end Mesh
