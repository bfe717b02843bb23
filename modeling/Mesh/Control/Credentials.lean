import Mesh.Control.NodeSteps

/-!
# Mesh.Control.Credentials

The agent credential of a node over runs. A credential has a generation, which each commit of a
rotation or a recovery raises by one, and a grace bearer, which only a rotation leaves behind.
`World.credentialStep` says what any step of the system does to the credential of one node; the hash a
step may put there is named by `World.registers`.
-/

namespace Mesh

namespace Credential

def rotated (hash : String) (now : Int) (c : Credential) : Credential where
  tokenHash := hash
  expiresAt := some (now + agentCredentialLifetime)
  generation := c.generation + 1
  previousTokenHash := c.tokenHash
  previousExpiresAt := some (now + credentialGraceLifetime)

def recovered (hash : String) (now : Int) (c : Credential) : Credential where
  tokenHash := hash
  expiresAt := some (now + agentCredentialLifetime)
  generation := c.generation + 1
  previousTokenHash := ""
  previousExpiresAt := none

end Credential

/-- What a step does to the agent credential of one node. -/
inductive CredentialStep (registers : Option String) (n n' : Node) : Prop where
  | kept : n'.credential = n.credential → CredentialStep registers n n'
  | confirmed : n'.credential = n.credential.confirmed → CredentialStep registers n n'
  | rotated {hash : String} {now : Int} : registers = some hash → n.status = .active →
      n'.credential = n.credential.rotated hash now → CredentialStep registers n n'
  | recovered {hash : String} {now : Int} : registers = some hash → n.status = .active →
      n'.credential = n.credential.recovered hash now → CredentialStep registers n n'
  | enrolled : registers = some n'.agentTokenHash → n.status = .pending →
      n'.agentCredentialGeneration = 1 → n'.previousAgentTokenHash = n.previousAgentTokenHash →
      CredentialStep registers n n'
  | revoked : n'.agentTokenHash = "" → n'.previousAgentTokenHash = "" →
      n'.agentCredentialGeneration = n.agentCredentialGeneration → CredentialStep registers n n'

/-! ## The two operations -/

section
variable {s s' : State} {n : Node} {now : Int}

/-- The node of a rotation that stores a credential. -/
structure RotationOf (s : State) (tokenHash newTokenHash : String) (now : Int) (n : Node) : Prop where
  mem : n ∈ s.nodes
  active : n.status = .active
  current : agentCredentialMatch n tokenHash now = (true, true)
  changed : n.agentTokenHash ≠ newTokenHash
  unused : strictCredentialHashInUse s newTokenHash = false

def rotatedNode (newTokenHash : String) (now : Int) (n : Node) : Node :=
  { n with
    previousAgentTokenHash := n.agentTokenHash
    previousAgentTokenExpiresAt := some (now + credentialGraceLifetime)
    agentTokenHash := newTokenHash
    agentCredentialExpiresAt := some (now + agentCredentialLifetime)
    agentCredentialGeneration := n.agentCredentialGeneration + 1
    agentCredentialLastUsedAt := some now }

theorem rotateAgentCredential_spec {token newTokenHash eventID : String}
    (h : rotateAgentCredential token newTokenHash eventID now s = .ok s') :
    ∃ n, firstAgent s (hashToken (trimSpace token)) now = some n ∧
      ((n.agentTokenHash = trimSpace newTokenHash ∧ s' = s) ∨
        (RotationOf s (hashToken (trimSpace token)) (trimSpace newTokenHash) now n ∧
          s'.nodes = Keyed.put Node.id (rotatedNode (trimSpace newTokenHash) now n) s.nodes ∧
          s'.agentRecoveries = s.agentRecoveries)) := by
  simp only [rotateAgentCredential, bind_eq_ok, exists_unit, require_eq_ok] at h
  obtain ⟨-, _, -, n, hn, h⟩ := h
  obtain ⟨hmem, hactive, hmatch⟩ := firstAgent_spec hn
  refine ⟨n, hn, ?_⟩
  split at h
  · rename_i hsame
    simp only [bind_unit_eq_ok, pure_eq_ok] at h
    exact .inl ⟨hsame, h.2.symm⟩
  · rename_i hne
    simp only [bind_unit_eq_ok, reject_eq_ok, Decidable.not_not, pure_eq_ok] at h
    obtain ⟨hcurrent, hunused, -, rfl⟩ := h
    exact .inr ⟨⟨hmem, hactive, Prod.ext hmatch hcurrent, hne, by simpa using hunused⟩, rfl, rfl⟩

/-- What the commit of a recovery finds and stores. -/
structure RecoveryStored (s s' : State) (request : RecoverRequest) (recoveryID claimID : String) (now : Int)
    (b : AgentRecoveryBundle) (r : AgentRecoveryToken) (n : Node) : Prop where
  record : Keyed.lookup AgentRecoveryToken.id recoveryID s.agentRecoveries = some r
  unused : r.usedAt = none
  claimed : r.claimID = claimID
  node : findNode s r.nodeID = some n
  active : n.status = .active
  generation : n.agentCredentialGeneration = r.claimedCredentialGeneration
  fresh : strictCredentialHashInUse s request.newAgentTokenHash = false
  nodes : s'.nodes = Keyed.put Node.id (recoveredNode request.newAgentTokenHash now n) s.nodes
  recoveries : s'.agentRecoveries = (Keyed.put AgentRecoveryToken.id { r with
      usedAt := some now, credentialGeneration := n.agentCredentialGeneration + 1
      credentialExpiresAt := some (now + agentCredentialLifetime), result := some b } s.agentRecoveries).filter
    fun c => c.nodeID ≠ n.id ∨ c.id = r.id

theorem recoverCommit_spec {env : Env} {request : RecoverRequest} {recoveryID claimID eventID : String}
    {b : AgentRecoveryBundle} (h : recoverCommit env request recoveryID claimID eventID now s = .ok (s', b)) :
    ∃ r n, RecoveryStored s s' request recoveryID claimID now b r n := by
  simp only [recoverCommit, bind_eq_ok, exists_unit, require_eq_ok, reject_eq_ok, pure_eq_ok,
    Prod.mk.injEq, Option.filter_eq_some_iff, not_or, Decidable.not_not, Bool.not_eq_true] at h
  obtain ⟨r, hr, ⟨hused, -, hclaim, -⟩, n, ⟨hn, hrec⟩, hgen, hfresh, -, w, -, _, -, rfl, rfl⟩ := h
  simp only [recoverableNode, Bool.and_eq_true, beq_iff_eq] at hrec
  exact ⟨r, n, hr, hused, hclaim, hn, hrec.1.1.1, hgen, hfresh, rfl, rfl⟩

end

/-! ## Every step -/

section
variable {inputs : Inputs} {s s' : State} {new : Option (Flight × Issued)} {n n' : Node}
  {registers registers' : Option String}

theorem CredentialStep.mono (hreg : ∀ hash, registers = some hash → registers' = some hash)
    (h : CredentialStep registers n n') : CredentialStep registers' n n' := by
  cases h with
  | kept h => exact .kept h
  | confirmed h => exact .confirmed h
  | rotated hr ha h => exact .rotated (hreg _ hr) ha h
  | recovered hr ha h => exact .recovered (hreg _ hr) ha h
  | enrolled hr hp h h' => exact .enrolled (hreg _ hr) hp h h'
  | revoked h h' hg => exact .revoked h h' hg

theorem CredentialStep.exists_kept (hn : n ∈ s.nodes) :
    ∃ m ∈ s.nodes, m.id = n.id ∧ CredentialStep registers m n := ⟨n, hn, rfl, .kept rfl⟩

theorem CredentialStep.exists_put {m : Node} (hm : m ∈ Keyed.put Node.id n' s.nodes)
    (hn : findNode s n.id = some n) (hid : n'.id = n.id) (hstep : CredentialStep registers n n') :
    ∃ o ∈ s.nodes, o.id = m.id ∧ CredentialStep registers o m := by
  rcases Keyed.mem_put.mp hm with ⟨hold, -⟩ | ⟨rfl, -⟩
  · exact exists_kept hold
  · exact ⟨n, mem_of_findNode hn, hid.symm, hstep⟩

/-- The credential that comes with an enrollment. -/
def enrolledHash : Option (Flight × Issued) → Option String
  | some (.enroll f, _) => some f.request.agentTokenHash
  | _ => none

theorem enrolledHash_eq_some {hash : String} (h : enrolledHash new = some hash) :
    ∃ f x, new = some (.enroll f, x) ∧ hash = f.request.agentTokenHash := by
  unfold enrolledHash at h
  split at h
  · rename_i f x
    exact ⟨f, x, rfl, (Option.some.inj h).symm⟩
  · cases h

/-- An effect that no request for a credential had. -/
theorem Effect.credentialStep (h : Effect inputs s s' new) (hi : inputs.credential = false)
    (hn' : n' ∈ s'.nodes) :
    n'.id ∈ inputs.drawn ∨ ∃ n ∈ s.nodes, n.id = n'.id ∧ CredentialStep (enrolledHash new) n n' := by
  cases h with
  | touched hr hcore _ hcredential =>
    rw [hr.nodes] at hn'
    obtain ⟨n, hn, hc, hcred⟩ := exists_of_map_eq hcore (hcredential hi) n' hn'
    exact .inr ⟨n, hn, (SameIdentity.of_core hc).id.symm, .kept hcred⟩
  | reported hr hn _ _ hcore _ _ _ _ _ _ hcredential =>
    rw [hr.nodes] at hn'
    exact .inr (CredentialStep.exists_put hn' hn (SameIdentity.of_core hcore).id
      (hcredential.elim .kept .confirmed))
  | renewalClaimed hr hn =>
    rw [hr.nodes] at hn'
    exact .inr (CredentialStep.exists_put hn' hn rfl (.kept rfl))
  | renewalReleased hr =>
    rw [hr.nodes, releaseRenewalClaim, List.mem_map] at hn'
    obtain ⟨n, hn, rfl⟩ := hn'
    refine .inr ⟨n, hn, ?_⟩
    split_ifs
    · exact ⟨rfl, .kept rfl⟩
    · exact ⟨rfl, .kept rfl⟩
  | enrollmentClaimed hr => exact .inr (CredentialStep.exists_kept (hr.nodes ▸ hn'))
  | enrollmentReleased hr => exact .inr (CredentialStep.exists_kept (hr.nodes ▸ hn'))
  | reissued hr => exact .inr (CredentialStep.exists_kept (hr.nodes ▸ hn'))
  | networkCreated hr => exact .inr (CredentialStep.exists_kept (hr.nodes ▸ hn'))
  | networkChanged hr => exact .inr (CredentialStep.exists_kept (hr.nodes ▸ hn'))
  | networkRetired hr =>
    rw [hr.nodes] at hn'
    exact .inr (CredentialStep.exists_kept (List.mem_of_mem_filter hn'))
  | nodeCreated hr _ hdrawn =>
    rw [hr.nodes, List.mem_append, List.mem_singleton] at hn'
    rcases hn' with hn' | rfl
    · exact .inr (CredentialStep.exists_kept hn')
    · exact .inl hdrawn
  | nodeCancelled hr =>
    rw [hr.nodes] at hn'
    exact .inr (CredentialStep.exists_kept (Keyed.mem_drop.mp hn').1)
  | nodeArchived hr =>
    rw [hr.nodes] at hn'
    exact .inr (CredentialStep.exists_kept (Keyed.mem_drop.mp hn').1)
  | transferPromoted hr _ _ hsource htarget =>
    -- first the target was put, then the source
    rw [hr.nodes, promoteOwnership] at hn'
    rcases Keyed.mem_put.mp hn' with ⟨hn', -⟩ | ⟨rfl, -⟩
    · exact .inr (CredentialStep.exists_put hn' (findNode_self htarget) rfl (.kept rfl))
    · exact .inr ⟨_, mem_of_findNode hsource, rfl, .kept rfl⟩
  | editPromoted hr _ _ hn =>
    rw [hr.nodes] at hn'
    exact .inr (CredentialStep.exists_put hn' (findNode_self hn) rfl (.kept rfl))
  | editNarrowed hr _ hn =>
    rw [hr.nodes] at hn'
    exact .inr (CredentialStep.exists_put hn' hn rfl (.kept rfl))
  | enrolled hr hn hpending =>
    rw [hr.nodes] at hn'
    exact .inr (CredentialStep.exists_put hn' (findNode_self hn) rfl (.enrolled rfl hpending rfl rfl))
  | renewed hr hn =>
    rw [hr.nodes] at hn'
    exact .inr (CredentialStep.exists_put hn' (findNode_self hn) rfl (.kept rfl))
  | replaced hr _ hn =>
    rw [hr.nodes] at hn'
    exact .inr (CredentialStep.exists_put hn' (findNode_self hn) rfl (.kept rfl))
  | revoked hr hn _ _ _ _ _ _ _ hcreated =>
    rw [hr.nodes, List.mem_append, List.mem_map] at hn'
    rcases hn' with hn' | ⟨p, hp, rfl⟩
    · exact .inr (CredentialStep.exists_put hn' hn rfl (.revoked rfl rfl rfl))
    · exact .inl (hcreated p hp).2.1

end

namespace World

variable {env : Env} {w w' : World} {a : Action}

/-- The hash of the agent credential that an action asks to be stored. -/
def registers (w : World) : Action → Option String
  | .op _ (.rotateAgentCredential _ newTokenHash) => some (trimSpace newTokenHash)
  | .recover i _ _ =>
    match w.flights[i]? with
    | some (.recover request _ _) => some request.newAgentTokenHash
    | _ => none
  | .issue i _ _ _ =>
    match w.flights[i]? with
    | some (.enroll f) => some f.request.agentTokenHash
    | _ => none
  | _ => none

theorem step_rotateAgentCredential {c : Stamp} {token newTokenHash : String}
    (h : w.step env (.op c (.rotateAgentCredential token newTokenHash)) = .ok w') :
    rotateAgentCredential token newTokenHash c.eventID c.now w.state = .ok w'.state ∧
      w'.flights = w.flights := by
  simp only [step, move, bind_eq_ok, commit_eq_ok, pure_eq_ok] at h
  obtain ⟨_, ⟨s, hrun, _, ⟨-, rfl⟩, rfl⟩, rfl⟩ := h
  exact ⟨hrun, rfl⟩

theorem step_recover {i : Nat} {eventID : String} {now : Int}
    (h : w.step env (.recover i eventID now) = .ok w') :
    ∃ request recoveryID claimID b, w.flights[i]? = some (.recover request recoveryID claimID) ∧
      recoverCommit env request recoveryID claimID eventID now w.state = .ok (w'.state, b) ∧
      w'.flights = w.flights.eraseIdx i := by
  simp only [step, move, bind_eq_ok, pure_eq_ok] at h
  obtain ⟨w₁, h, rfl⟩ := h
  split at h
  · rename_i request recoveryID claimID hi
    simp only [bind_eq_ok, commit_eq_ok, pure_eq_ok, Prod.exists] at h
    obtain ⟨s, b, hc, _, ⟨-, rfl⟩, rfl⟩ := h
    exact ⟨request, recoveryID, claimID, b, hi, hc, rfl⟩
  · cases h

theorem credentialStep (hs : Sound w) (h : w.step env a = .ok w') {n' : Node}
    (hn' : n' ∈ w'.state.nodes) :
    n'.id ∈ a.draws ∨ ∃ n ∈ w.state.nodes, n.id = n'.id ∧ CredentialStep (w.registers a) n n' := by
  by_cases hi : a.inputs.credential = false
  · obtain ⟨new, he⟩ := step_effect hs h
    rw [← a.inputs_drawn]
    refine (he.effect.credentialStep hi hn').imp_right fun ⟨n, hn, hid, hstep⟩ =>
      ⟨n, hn, hid, hstep.mono fun hash hhash => ?_⟩
    -- a credential that comes with an enrollment belongs to the request that is answered
    obtain ⟨f, x, rfl, rfl⟩ := enrolledHash_eq_some hhash
    obtain ⟨i, eventID, now, rfl, hf⟩ := he.flight _ x rfl
    rw [registers, hf]
  · refine .inr ?_
    cases a with
    | op c o =>
      cases o with
      | rotateAgentCredential token newTokenHash =>
        obtain ⟨n, -, ⟨-, hsame⟩ | ⟨hrot, hnodes, -⟩⟩ :=
          rotateAgentCredential_spec (step_rotateAgentCredential h).1
        · rw [hsame] at hn'
          exact CredentialStep.exists_kept hn'
        · rw [hnodes] at hn'
          exact CredentialStep.exists_put hn' (hs.valid.findNode_of_mem hrot.mem) rfl
            (.rotated rfl hrot.active rfl)
      | _ => exact absurd rfl hi
    | recover i eventID now =>
      obtain ⟨request, recoveryID, claimID, b, hi, hc, -⟩ := step_recover h
      obtain ⟨r, n, hst⟩ := recoverCommit_spec hc
      have hreg : w.registers (.recover i eventID now) = some request.newAgentTokenHash := by
        rw [registers, hi]
      rw [hst.nodes] at hn'
      exact CredentialStep.exists_put hn' (findNode_self hst.node) rfl (.recovered hreg hst.active rfl)
    | _ => exact absurd rfl hi

/-- A node with the identifier of an older one has its credential. -/
theorem credentialStep_of_drawn (hr : Reachable env w) (h : Step env w a w') {n' : Node}
    (hn' : n' ∈ w'.state.nodes) (hd : n'.id ∈ w.drawn) :
    ∃ n ∈ w.state.nodes, n.id = n'.id ∧ CredentialStep (w.registers a) n n' := by
  obtain hnew | h := credentialStep (sound hr) h.2 hn'
  · exact absurd hd (h.1.fresh _ hnew).2
  · exact h

theorem pending_credential (hs : Sound w) {n : Node} (hn : n ∈ w.state.nodes) (hp : n.status = .pending) :
    n.agentTokenHash = "" ∧ n.agentCredentialGeneration = 0 := by
  obtain ⟨v, -, hrec⟩ := hs.valid.nodeRecord hs.current hn
  have hstatus := hrec.status
  simp only [validateNodeStatus, hp, reject_eq_ok, not_or, Decidable.not_not] at hstatus
  exact ⟨hstatus.2.2.1, hstatus.2.2.2.2.1⟩

/-! ## Generations never go back -/

theorem generation_le_of_step (hs : Sound w) {n n' : Node} {registers : Option String}
    (hn : n ∈ w.state.nodes) (h : CredentialStep registers n n') :
    n.agentCredentialGeneration ≤ n'.agentCredentialGeneration := by
  cases h with
  | kept h => exact (congrArg Credential.generation h).ge
  | confirmed h => exact (congrArg Credential.generation h).ge
  | rotated _ _ h =>
    have : n'.agentCredentialGeneration = n.agentCredentialGeneration + 1 := congrArg Credential.generation h
    omega
  | recovered _ _ h =>
    have : n'.agentCredentialGeneration = n.agentCredentialGeneration + 1 := congrArg Credential.generation h
    omega
  | enrolled _ hp hone =>
    have := (pending_credential hs hn hp).2
    omega
  | revoked _ _ hg => exact hg.ge

end World

end Mesh
