import Mesh.Control.System

/-!
# Mesh.Control.Steps

What one step of the system does, for all actions at once: its effect on the stored records and the
requests it starts (`World.step_effect`), and what it writes over (`World.step_transacted`). Together with
`World.sound` these are what invariants of runs are proved from.
-/

namespace Mesh

variable {env : Env}

/-! ## Where requests come from -/

/-- What holds of a request when its first move is done, in terms of the states around the move. -/
inductive Born (drawn : List String) (s s' : State) : Flight → Prop where
  | enroll {f : EnrollFlight} {e : EnrollmentToken} {now : Int} :
      e ∈ s.enrollments → e.usedAt = none → tokenEqual e.tokenHash f.request.token = true →
      e.id = f.enrollmentID → e.nodeID = f.node.id →
      s'.enrollments = Keyed.put EnrollmentToken.id
        { e with claimID := f.claimID, claimedAt := some now, claimKeyHash := f.request.binding }
        s.enrollments →
      s'.nodes = s.nodes → s'.networks = s.networks → f.claimID ∈ drawn →
      findNode s f.node.id = some f.node → f.node.status = .pending →
      findNetwork s f.node.networkID = some f.network →
      validTokenHash f.request.agentTokenHash = true → Born drawn s s' (.enroll f)
  | renew {f : RenewFlight} :
      findNode s' f.node.id = some f.node → f.node.status = .active → f.node.renewalClaimID = f.claimID →
      findNetwork s' f.node.networkID = some f.network → f.claimID ∈ drawn →
      tokenEqual f.node.publicKeyHash f.publicKey = true → Born drawn s s' (.renew f)
  | replacement {f : Flight} {r : Replacement} :
      f.replacement? = some r → s' = s → findNode s r.snapshot.node.id = some r.snapshot.node →
      r.snapshot.node.status = .active →
      findNetwork s r.snapshot.node.networkID = some r.snapshot.network →
      r.snapshot.network.configRevision = r.expectedConfigRevision →
      r.snapshot.node.certificateFingerprint ≠ "" →
      r.request.routedSubnets = r.snapshot.node.routedSubnets →
      tokenHashEqual r.snapshot.node.publicKeyHash (hashToken r.request.publicKey) = true →
      (r.kind = .rotated ∧ r.request.groups = r.snapshot.node.groups ∨ r.kind = .regrouped) →
      Born drawn s s' f
  | recover {request : RecoverRequest} {recoveryID claimID : String} :
      Born drawn s s' (.recover request recoveryID claimID)
  | prepareCA {actor : Option Actor} {networkID : String} {expected : Int} :
      Born drawn s s' (.prepareCA actor networkID expected)

variable {publicKey nodeID : String} {drawn : List String} {s s' : State} {now : Int} {f : Flight}
  {inputs : Inputs} {x : Issued}

variable {token claimID : String} {request : EnrollRequest} {n : Node} {actor : Option Actor}

theorem enrollRequest_spec {agentTokenHash : String}
    (h : enrollRequest env token publicKey agentTokenHash = .ok request) :
    validTokenHash request.agentTokenHash = true := by
  simp only [enrollRequest, bind_eq_ok, exists_unit, reject_eq_ok, pure_eq_ok, not_or,
    Decidable.not_not] at h
  obtain ⟨⟨-, hhash⟩, _, -, rfl⟩ := h
  exact hhash

theorem enrollClaim_born {f : EnrollFlight} (hid : claimID ∈ drawn)
    (hr : validTokenHash request.agentTokenHash = true)
    (h : enrollClaim env request claimID now s = .ok (s', .claimed f)) : Born drawn s s' (.enroll f) := by
  simp only [enrollClaim, bind_eq_ok, require_eq_ok] at h
  obtain ⟨e, he, h⟩ := h
  split at h
  · simp only [bind_eq_ok, pure_eq_ok, Prod.mk.injEq, reduceCtorEq, and_false, exists_false] at h
  · rename_i hused
    simp only [bind_eq_ok, exists_unit, require_eq_ok, pure_eq_ok, Prod.mk.injEq, EnrollClaim.claimed.injEq,
      Option.filter_eq_some_iff, decide_eq_true_eq] at h
    obtain ⟨-, -, n, ⟨hn, hpending⟩, w, hw, rfl, rfl⟩ := h
    have htoken := List.find?_some he
    simp only [Bool.and_eq_true] at htoken
    exact .enroll (List.mem_of_find?_eq_some he) (by simpa using hused) htoken.2 rfl
      (findNode_id hn).symm rfl rfl rfl hid (findNode_self hn) hpending hw hr

theorem renewClaim_born (hv : ValidGraph s) {f : RenewFlight} (hid : claimID ∈ drawn)
    (h : renewClaim env token publicKey claimID now s = .ok (s', .claimed f)) : Born drawn s s' (.renew f) := by
  simp only [renewClaim, bind_eq_ok, exists_unit, require_eq_ok, reject_eq_ok, Decidable.not_not] at h
  obtain ⟨-, pk, -, _, -, -, n, hn, hkey, w, hw, h⟩ := h
  obtain ⟨hmem, hactive, -⟩ := firstAgent_spec hn
  split at h
  · simp only [bind_eq_ok, pure_eq_ok, Prod.mk.injEq, reduceCtorEq, and_false, exists_false] at h
  · simp only [bind_eq_ok, exists_unit, require_eq_ok, pure_eq_ok, Prod.mk.injEq,
      RenewClaim.claimed.injEq] at h
    obtain ⟨-, _, -, -, -, -, rfl, rfl⟩ := h
    have hself := hv.findNode_of_mem hmem
    exact .renew (Keyed.lookup_put_self (y := n) hself) hactive rfl hw hid hkey

structure SnapshotRead (s : State) (o : Snapshot) (expected : Int) : Prop where
  node : findNode s o.node.id = some o.node
  active : o.node.status = .active
  network : findNetwork s o.node.networkID = some o.network
  revision : o.network.configRevision = expected
  fingerprint : o.node.certificateFingerprint ≠ ""

theorem fingerprintPattern_ne_empty {fp : String} (h : fingerprintPattern fp = true) : fp ≠ "" := by
  rintro rfl
  exact absurd h (by decide)

theorem replacementSnapshot_spec {inactive unavailable name : String} {expected : Int}
    {extra : Node → Result Unit} {o : Snapshot}
    (h : replacementSnapshot inactive unavailable nodeID name expected now extra s = .ok o) :
    SnapshotRead s o expected := by
  simp only [replacementSnapshot, bind_eq_ok, exists_unit, require_eq_ok, reject_eq_ok, pure_eq_ok, not_or,
    Decidable.not_not] at h
  obtain ⟨n, hn, ⟨hactive, -⟩, -, -, w, hw, hrev, -, hsource, rfl⟩ := h
  simp only [validateActiveCertificateRotationSource, bind_unit_eq_ok, reject_eq_ok, not_or,
    Decidable.not_not] at hsource
  obtain ⟨⟨-, hfp, -⟩, -⟩ := hsource
  exact ⟨findNode_self hn, hactive, hw, hrev, fingerprintPattern_ne_empty hfp⟩

theorem publicKeyFromNodeCertificate_spec (h : publicKeyFromNodeCertificate env n = .ok publicKey) :
    tokenHashEqual n.publicKeyHash (hashToken publicKey) = true := by
  simp only [publicKeyFromNodeCertificate, bind_eq_ok, exists_unit, reject_eq_ok, pure_eq_ok,
    Decidable.not_not] at h
  obtain ⟨_, -, _, -, hkey, rfl⟩ := h
  exact hkey

theorem rotateStart_born {input : RotateNodeCertificateInput} {f : RotateFlight}
    (h : rotateStart env nodeID input now s = .ok (some f)) : Born drawn s s (.rotate actor f) := by
  simp only [rotateStart, bind_eq_ok, exists_unit] at h
  obtain ⟨-, -, replay, -, h⟩ := h
  split at h
  · cases h
  simp only [bind_eq_ok, pure_eq_ok, Option.some.injEq] at h
  obtain ⟨o, ho, publicKey, hkey, _, -, rfl⟩ := h
  have hread := replacementSnapshot_spec ho
  exact .replacement (r := ⟨.rotated, o, _, input.expectedConfigRevision⟩) rfl rfl hread.node
    hread.active hread.network hread.revision hread.fingerprint rfl
    (publicKeyFromNodeCertificate_spec hkey) (.inl ⟨rfl, rfl⟩)

theorem groupsStart_born {input : UpdateNodeGroupsInput} {f : GroupsFlight}
    (h : groupsStart env nodeID input now s = .ok (some f)) : Born drawn s s (.groups actor f) := by
  simp only [groupsStart, bind_eq_ok, exists_unit] at h
  obtain ⟨groups, -, -, -, replay, -, h⟩ := h
  split at h
  · cases h
  simp only [bind_eq_ok, pure_eq_ok, Option.some.injEq] at h
  obtain ⟨o, ho, publicKey, hkey, _, -, rfl⟩ := h
  have hread := replacementSnapshot_spec ho
  exact .replacement (r := ⟨.regrouped, o, _, input.expectedConfigRevision⟩) rfl rfl hread.node
    hread.active hread.network hread.revision hread.fingerprint rfl
    (publicKeyFromNodeCertificate_spec hkey) (.inr rfl)

/-! ## Operations -/

theorem Op.performed (hv : ValidGraph s) (hc : Current s) {c : Stamp} {o : Op} (h : o.run c s = .ok s') :
    Performed o.inputs o.promotes s s' none := by
  cases o with
  | createNetwork => exact createNetwork_performed (by simp [Op.inputs, Op.draws]) h
  | retireNetwork => exact retireNetwork_performed h
  | createNode =>
    exact createNode_performed (by simp [Op.inputs, Op.draws])
      (fun b hb => by simp only [Op.inputs, Op.draws, List.mem_cons]; exact .inr (.inr (List.mem_map_of_mem hb))) h
  | updateNodeTopology => exact updateNodeTopology_performed hv h
  | reissueEnrollment =>
    exact reissueEnrollment_performed
      (fun b hb => by simp only [Op.inputs, Op.draws, List.mem_append]; exact .inr (List.mem_map_of_mem hb)) h
  | cancelPendingNode => exact cancelPendingNode_performed h
  | archiveNode => exact archiveNode_performed h
  | revokeNode => exact revokeNode_performed h
  | revokeNodeWithReceipt => exact revokeNodeWithReceipt_performed h
  | replaceNode =>
    exact replaceNode_performed (by simp [Op.inputs, Op.draws])
      (fun b hb => by
        simp only [Op.inputs, Op.draws, List.mem_cons, List.mem_append]
        exact .inr (.inr (List.mem_map_of_mem hb))) h
  | updateNetworkDNS => exact updateNetworkDNS_performed h
  | updateNetworkRelays => exact updateNetworkRelays_performed h
  | updateFirewallPolicy => exact updateFirewallPolicy_performed h
  | updateNetworkFirewallRollout => exact updateNetworkFirewallRollout_performed (fun hp => if_pos hp) h
  | updateNetworkRoutePolicy => exact updateNetworkRoutePolicy_performed h
  | updateNetworkCARotation => exact updateNetworkCARotation_performed h
  | startRouteTransfer =>
    exact startRouteTransfer_performed (fun routes hr => by simp [Op.inputs, Op.starts, hr]) h
  | updateRouteTransfer => exact updateRouteTransfer_performed hv hc h
  | startRouteProfileEdit => exact startRouteProfileEdit_performed h
  | updateRouteProfileEdit => exact updateRouteProfileEdit_performed h
  | heartbeat => exact heartbeat_performed hv hc rfl h
  | reportConfigApplyFailure => exact reportConfigApplyFailure_performed h
  | rotateAgentCredential => exact rotateAgentCredential_performed hv rfl h
  | issueAgentRecovery => exact issueAgentRecovery_performed rfl h

/-- The node of a certificate that was just stored. -/
structure IssuedNode (s : State) (x : Issued) (n : Node) : Prop where
  found : findNode s x.nodeID = some n
  networkID : n.networkID = x.networkID
  active : n.status = .active
  generation : n.certificateGeneration = x.generation
  fingerprint : n.certificateFingerprint = x.certificate.fingerprint

theorem Effect.issuedNode (h : Effect inputs s s' (some (f, x))) : ∃ n, IssuedNode s' x n := by
  cases h with
  | enrolled hr hn => exact ⟨_, findNode_put_self hr.nodes hn rfl, rfl, rfl, rfl, rfl⟩
  | renewed hr hn hactive => exact ⟨_, findNode_put_self hr.nodes hn rfl, rfl, hactive, rfl, rfl⟩
  | replaced hr _ hn hactive => exact ⟨_, findNode_put_self hr.nodes hn rfl, rfl, hactive, rfl, rfl⟩

theorem IssuedNode.signed_eq (h : IssuedNode s x n) (hid : nodeID = x.nodeID) :
    World.signed s x.kind nodeID x.request x.certificate = x := by
  have hn : n.id = x.nodeID := findNode_id h.found
  simp only [World.signed, hid, h.found, Option.getD_some, hn, h.networkID, h.generation]

theorem Effect.version {new : Option (Flight × Issued)} (h : Effect inputs s s' new) : s'.version = s.version := by
  cases h <;> rename_i hr _ <;> exact Records.version ‹_›

/-! ## Steps of the system -/

namespace World

variable {w w' : World} {a : Action}

/-- What every reachable world has: a stored state that the validator accepted, at the current version,
and replacements that read a certificate to revoke. -/
structure Sound (w : World) : Prop where
  valid : ValidGraph w.state
  current : Current w.state
  flights : ∀ f ∈ w.flights, ∀ r, f.replacement? = some r → r.snapshot.node.certificateFingerprint ≠ ""

/-- All that a step does; `new` is the certificate it stored, with the request that asked for it. -/
structure StepEffect (w : World) (a : Action) (w' : World) (new : Option (Flight × Issued)) : Prop where
  effect : Effect a.inputs w.state w'.state new
  valid : ValidGraph w'.state
  issued : w'.issued = (new.map Prod.snd).toList ++ w.issued
  flight : ∀ f x, new = some (f, x) →
    ∃ i eventID now, a = .issue i x.certificate eventID now ∧ w.flights[i]? = some f
  flights : ∀ f ∈ w'.flights, f ∈ w.flights ∨ Born a.draws w.state w'.state f
  drawn : w'.drawn = a.draws ++ w.drawn
  clock : w'.clock = w.clock ∨ a = .tick w'.clock

/-- The same, with what the step writes over. -/
structure StepPerformed (w : World) (a : Action) (w' : World) (new : Option (Flight × Issued)) : Prop where
  effect : StepEffect w a w' new
  transacted : Transacted a.promotes a.draws w.state w'.state

/-- A step that stores no certificate and starts no request. -/
theorem StepPerformed.quiet (h : Performed a.inputs a.promotes w.state w'.state none) (hv : ValidGraph w'.state)
    (hi : w'.issued = w.issued) (hf : ∀ f ∈ w'.flights, f ∈ w.flights)
    (hd : w'.drawn = a.draws ++ w.drawn) (hc : w'.clock = w.clock) : StepPerformed w a w' none :=
  ⟨⟨h.effect, hv, hi, fun _ _ h => (Option.some_ne_none _ h.symm).elim, fun f hfl => .inl (hf f hfl), hd, .inl hc⟩,
    a.inputs_drawn ▸ h.transacted⟩

/-- A step that starts a request. -/
theorem StepPerformed.start (h : Performed a.inputs a.promotes w.state w'.state none) (hv : ValidGraph w'.state)
    (hi : w'.issued = w.issued) (hf : w'.flights = w.flights ++ [f]) (hb : Born a.draws w.state w'.state f)
    (hd : w'.drawn = a.draws ++ w.drawn) (hc : w'.clock = w.clock) : StepPerformed w a w' none := by
  refine ⟨⟨h.effect, hv, hi, fun _ _ h => (Option.some_ne_none _ h.symm).elim, fun g hg => ?_, hd, .inl hc⟩,
    a.inputs_drawn ▸ h.transacted⟩
  rw [hf, List.mem_append, List.mem_singleton] at hg
  obtain hg | rfl := hg
  · exact .inl hg
  · exact .inr hb

variable {i : Nat} {eventID : String}

/-- A step that stores the certificate of the request at an index. -/
theorem StepPerformed.land {answers : List EnrollAnswer} (hi : w.flights[i]? = some f)
    (h : Performed {} none w.state s' (some (f, x))) (hv : ValidGraph s') (hid : nodeID = x.nodeID) :
    StepPerformed w (.issue i x.certificate eventID now)
      { w with state := s', flights := w.flights.eraseIdx i, answers := answers
               issued := signed s' x.kind nodeID x.request x.certificate :: w.issued }
      (some (f, x)) := by
  obtain ⟨n, hn⟩ := h.effect.issuedNode
  refine ⟨⟨h.effect, hv, ?_, ?_, fun g hg => .inl (List.mem_of_mem_eraseIdx hg), rfl, .inl rfl⟩, h.transacted⟩
  · rw [hn.signed_eq hid]
    rfl
  · rintro _ _ ⟨⟩
    exact ⟨i, eventID, now, rfl, hi⟩

theorem land_performed (hs : Sound w) {c : SignedCertificate} (hi : w.flights[i]? = some f)
    (h : w.land env i c eventID now f = .ok w') : ∃ new, StepPerformed w (.issue i c eventID now) w' new := by
  have hmem : f ∈ w.flights := List.mem_of_getElem? hi
  cases f with
  | enroll f =>
    simp only [land, bind_eq_ok, commit_eq_ok, pure_eq_ok, Prod.exists] at h
    obtain ⟨s₁, bundle, hc, s', ⟨hv, rfl⟩, rfl⟩ := h
    obtain ⟨n, hn, hdone⟩ := enrollCommit_performed hc
    exact ⟨_, .land hi hdone hv (findNode_id hn).symm⟩
  | renew f =>
    simp only [land, bind_eq_ok, commit_eq_ok, pure_eq_ok, Prod.exists] at h
    obtain ⟨s₁, bundle, hc, s', ⟨hv, rfl⟩, rfl⟩ := h
    obtain ⟨n, hn, hdone⟩ := renewCommit_performed hc
    exact ⟨_, .land hi hdone hv (findNode_id hn).symm⟩
  | rotate actor f =>
    rw [land, bind_eq_ok] at h
    obtain ⟨o, hc, h⟩ := h
    cases o with
    | none =>
      rw [pure_eq_ok] at h
      subst h
      exact ⟨_, .quiet (.refl _) hs.valid rfl (fun g hg => List.mem_of_mem_eraseIdx hg) rfl rfl⟩
    | some s₁ =>
      simp only [bind_eq_ok, commit_eq_ok, pure_eq_ok] at h
      obtain ⟨s', ⟨hv, rfl⟩, rfl⟩ := h
      obtain ⟨n, hn, hdone⟩ := rotateCommit_performed (hs.flights _ hmem _ rfl) hc
      exact ⟨_, .land hi hdone hv (findNode_id hn).symm⟩
  | groups actor f =>
    rw [land, bind_eq_ok] at h
    obtain ⟨o, hc, h⟩ := h
    cases o with
    | none =>
      rw [pure_eq_ok] at h
      subst h
      exact ⟨_, .quiet (.refl _) hs.valid rfl (fun g hg => List.mem_of_mem_eraseIdx hg) rfl rfl⟩
    | some s₁ =>
      simp only [bind_eq_ok, commit_eq_ok, pure_eq_ok] at h
      obtain ⟨s', ⟨hv, rfl⟩, rfl⟩ := h
      obtain ⟨n, hn, hdone⟩ := groupsCommit_performed (hs.flights _ hmem _ rfl) hc
      exact ⟨_, .land hi hdone hv (findNode_id hn).symm⟩
  | recover => cases h
  | prepareCA => cases h

theorem released_performed {promotes : Option String} (hi : inputs.recovery = true) (s : State) (f : Flight) :
    Performed inputs promotes s (released s f) none := by
  cases f with
  | enroll f => exact releaseEnrollmentClaim_performed _ _
  | renew f => exact releaseRenewalClaim_performed _ _
  | recover => exact releaseAgentRecoveryClaim_performed _ _ hi
  | rotate => exact .refl s
  | groups => exact .refl s
  | prepareCA => exact .refl s

theorem step_performed (hs : Sound w) (h : w.step env a = .ok w') : ∃ new, StepPerformed w a w' new := by
  simp only [step, bind_eq_ok, pure_eq_ok] at h
  obtain ⟨w₁, h, rfl⟩ := h
  have herase : ∀ {i : Nat} (f : Flight), f ∈ w.flights.eraseIdx i → f ∈ w.flights :=
    fun _ hf => List.mem_of_mem_eraseIdx hf
  cases a with
  | tick now =>
    simp only [move, pure_eq_ok] at h
    subst h
    exact ⟨none, ⟨(Performed.refl _ : Performed _ none _ _ none).effect, hs.valid, rfl,
      fun _ _ h => (Option.some_ne_none _ h.symm).elim, fun f hf => .inl hf, rfl, .inr rfl⟩, .refl _⟩
  | op c o =>
    simp only [move, bind_eq_ok, commit_eq_ok, pure_eq_ok] at h
    obtain ⟨s₁, hrun, s', ⟨hv, rfl⟩, rfl⟩ := h
    exact ⟨none, .quiet (Op.performed hs.valid hs.current hrun) hv rfl (fun f hf => hf) rfl rfl⟩
  | enrollClaim token publicKey agentTokenHash claimID now =>
    simp only [move, bind_eq_ok, commit_eq_ok, Prod.exists] at h
    obtain ⟨request, hr, s₁, outcome, hclaim, s', ⟨hv, rfl⟩, h⟩ := h
    have hid : claimID ∈ [claimID] := List.mem_singleton_self _
    cases outcome with
    | replay bundle =>
      rw [pure_eq_ok] at h
      subst h
      exact ⟨none, .quiet (enrollClaim_performed hid hclaim) hv rfl (fun f hf => hf) rfl rfl⟩
    | claimed f =>
      rw [pure_eq_ok] at h
      subst h
      exact ⟨none, .start (enrollClaim_performed hid hclaim) hv rfl rfl
        (enrollClaim_born hid (enrollRequest_spec hr) hclaim) rfl rfl⟩
  | renewClaim token publicKey claimID now =>
    simp only [move, bind_eq_ok, commit_eq_ok, Prod.exists] at h
    obtain ⟨s₁, outcome, hclaim, s', ⟨hv, rfl⟩, h⟩ := h
    have hid : claimID ∈ [claimID] := List.mem_singleton_self _
    cases outcome with
    | replay bundle =>
      rw [pure_eq_ok] at h
      subst h
      exact ⟨none, .quiet (renewClaim_performed hs.valid hid hclaim) hv rfl (fun f hf => hf) rfl rfl⟩
    | claimed f =>
      rw [pure_eq_ok] at h
      subst h
      exact ⟨none, .start (renewClaim_performed hs.valid hid hclaim) hv rfl rfl
        (renewClaim_born hs.valid hid hclaim) rfl rfl⟩
  | recoverClaim token publicKey newAgentTokenHash claimID now =>
    simp only [move, bind_eq_ok, commit_eq_ok, Prod.exists] at h
    obtain ⟨request, hr, s₁, outcome, hclaim, s', ⟨hv, rfl⟩, h⟩ := h
    cases outcome with
    | replay bundle =>
      rw [pure_eq_ok] at h
      subst h
      exact ⟨none, .quiet (recoverClaim_performed rfl hclaim) hv rfl (fun f hf => hf) rfl rfl⟩
    | claimed r =>
      rw [pure_eq_ok] at h
      subst h
      exact ⟨none, .start (recoverClaim_performed rfl hclaim) hv rfl rfl .recover rfl rfl⟩
  | rotateStart actor nodeID input now =>
    rw [move, bind_eq_ok] at h
    obtain ⟨o, hstart, h⟩ := h
    cases o with
    | none =>
      rw [pure_eq_ok] at h
      subst h
      exact ⟨none, .quiet (.refl _) hs.valid rfl (fun f hf => hf) rfl rfl⟩
    | some f =>
      rw [pure_eq_ok] at h
      subst h
      exact ⟨none, .start (.refl _) hs.valid rfl rfl (rotateStart_born hstart) rfl rfl⟩
  | groupsStart actor nodeID input now =>
    rw [move, bind_eq_ok] at h
    obtain ⟨o, hstart, h⟩ := h
    cases o with
    | none =>
      rw [pure_eq_ok] at h
      subst h
      exact ⟨none, .quiet (.refl _) hs.valid rfl (fun f hf => hf) rfl rfl⟩
    | some f =>
      rw [pure_eq_ok] at h
      subst h
      exact ⟨none, .start (.refl _) hs.valid rfl rfl (groupsStart_born hstart) rfl rfl⟩
  | prepareCA actor networkID expected =>
    simp only [move, bind_eq_ok, pure_eq_ok] at h
    obtain ⟨_, -, rfl⟩ := h
    exact ⟨none, .start (.refl _) hs.valid rfl rfl .prepareCA rfl rfl⟩
  | issue i c eventID now =>
    simp only [move, bind_eq_ok, require_eq_ok] at h
    obtain ⟨f, hi, h⟩ := h
    obtain ⟨new, hl⟩ := land_performed hs hi h
    have he := hl.effect
    exact ⟨new, ⟨he.effect, he.valid, he.issued, he.flight, he.flights, rfl, he.clock⟩, hl.transacted⟩
  | recover i eventID now =>
    simp only [move] at h
    split at h
    · simp only [bind_eq_ok, commit_eq_ok, pure_eq_ok, Prod.exists] at h
      obtain ⟨s₁, bundle, hc, s', ⟨hv, rfl⟩, rfl⟩ := h
      exact ⟨none, .quiet (recoverCommit_performed hs.valid rfl rfl hc) hv rfl herase rfl rfl⟩
    · cases h
  | generate i certificate sealedKey eventID now =>
    simp only [move] at h
    split at h
    · simp only [bind_eq_ok, commit_eq_ok, pure_eq_ok] at h
      obtain ⟨s₁, hc, s', ⟨hv, rfl⟩, rfl⟩ := h
      exact ⟨none, .quiet (updateNetworkCARotation_performed hc) hv rfl herase rfl rfl⟩
    · cases h
  | release i =>
    simp only [move, bind_eq_ok, require_eq_ok, commit_eq_ok, pure_eq_ok] at h
    obtain ⟨f, -, s', ⟨hv, rfl⟩, rfl⟩ := h
    exact ⟨none, .quiet (released_performed rfl _ f) hv rfl herase rfl rfl⟩
  | abandon i =>
    simp only [move, pure_eq_ok] at h
    subst h
    exact ⟨none, .quiet (.refl _) hs.valid rfl herase rfl rfl⟩

theorem step_effect (hs : Sound w) (h : w.step env a = .ok w') : ∃ new, StepEffect w a w' new := by
  obtain ⟨new, hdone⟩ := step_performed hs h
  exact ⟨new, hdone.effect⟩

theorem step_transacted (hs : Sound w) (h : w.step env a = .ok w') :
    Transacted a.promotes a.draws w.state w'.state := by
  obtain ⟨new, hdone⟩ := step_performed hs h
  exact hdone.transacted

/-! ## Reachable worlds -/

theorem sound (h : Reachable env w) : Sound w := by
  induction h with
  | start h0 =>
    exact ⟨h0.valid, h0.current, fun f hf => by rw [h0.flights] at hf; cases hf⟩
  | next _ hstep ih =>
    obtain ⟨new, he⟩ := step_effect ih hstep.2
    refine ⟨he.valid, he.effect.version.trans ih.current, fun f hf r hr => ?_⟩
    obtain hold | hborn := he.flights f hf
    · exact ih.flights f hold r hr
    · cases hborn with
      | replacement hr' _ _ _ _ _ hfp =>
        rw [hr', Option.some.injEq] at hr
        exact hr ▸ hfp
      | enroll => cases hr
      | renew => cases hr
      | recover => cases hr
      | prepareCA => cases hr

end World
end Mesh
