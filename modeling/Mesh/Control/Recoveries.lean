import Mesh.Control.Credentials
import Mesh.Control.Play

/-!
# Mesh.Control.Recoveries

Recovery and rotation of agent credentials as two protocols on one record. `World.recoveryStep` says
where the recovery records after a step come from. A claim of a recovery fixes the generation it starts
from under an identifier that is never drawn again, so its commit finds that generation or fails
(`World.Claimed`); a rotation reads and writes in one transaction.

`credential_commits_linear` puts the two together: every commit raises the generation of its node by
one, two commits never start from one generation, and what a recovery cuts off stays out until its hash
is registered again. Nothing remembers a hash that was dropped: `recovered_bearer_returns` is a run in
which an agent takes up the old bearer after its recovery.
-/

namespace Mesh

variable {r : AgentRecoveryToken} {bearers ids : List String} {request : RecoverRequest}

theorem AgentRecoveryToken.eq_of_unplaced {β : Type} (f : AgentRecoveryToken → β) (hf : ∀ r, f r.unplaced = f r)
    {r' : AgentRecoveryToken} (h : r'.unplaced = r.unplaced) : f r' = f r := by
  rw [← hf, h, hf]

namespace World

variable {env : Env} {w w' : World} {a : Action}

/-! ## Records of recoveries -/

/-- Where a recovery record after a step comes from. -/
inductive RecoveryStep (w : World) (r' : AgentRecoveryToken) : Action → Prop where
  | kept {a : Action} {r : AgentRecoveryToken} : r ∈ w.state.agentRecoveries → r'.unplaced = r.unplaced →
      RecoveryStep w r' a
  | issued {c : Stamp} {nodeID : String} {bearers ids : List String} {token : String} :
      token ∈ bearers → r'.tokenHash = hashToken token → r'.nodeID = trimSpace nodeID →
      r'.usedAt = none → r'.claimID = "" → r'.result = none →
      RecoveryStep w r' (.op c (.issueAgentRecovery nodeID bearers ids))
  | claimed {token publicKey newAgentTokenHash claimID binding : String} {now : Int}
      {r : AgentRecoveryToken} {n : Node} : r ∈ w.state.agentRecoveries → r.usedAt = none →
      findNode w.state r.nodeID = some n →
      r' = { r with
        claimID := claimID, claimedAt := some now, claimKeyHash := binding
        claimedCredentialGeneration := n.agentCredentialGeneration } →
      RecoveryStep w r' (.recoverClaim token publicKey newAgentTokenHash claimID now)
  | used {i : Nat} {eventID : String} {now : Int} {r : AgentRecoveryToken} {n : Node}
      {b : AgentRecoveryBundle} : r ∈ w.state.agentRecoveries → r.usedAt = none →
      findNode w.state r.nodeID = some n →
      r' = { r with
        usedAt := some now, credentialGeneration := n.agentCredentialGeneration + 1
        credentialExpiresAt := some (now + agentCredentialLifetime), result := some b } →
      RecoveryStep w r' (.recover i eventID now)
  | released {i : Nat} {r : AgentRecoveryToken} : r ∈ w.state.agentRecoveries → r.usedAt = none →
      r' = { r with claimID := "", claimedAt := none, claimKeyHash := "", claimedCredentialGeneration := 0 } →
      RecoveryStep w r' (.release i)

end World

variable {eventID claimID token : String} {now : Int}

section
variable {s s' : State} {r' : AgentRecoveryToken}

/-- The record of a new token; what else was there stays or is gone. -/
theorem issueAgentRecovery_recoveries {actor : Option Actor} {nodeID : String}
    (h : issueAgentRecovery actor nodeID bearers ids eventID now s = .ok s') :
    ∃ recoveryID token, token ∈ bearers ∧ ∀ r' ∈ s'.agentRecoveries, r' ∈ s.agentRecoveries ∨
      r' = { id := recoveryID, nodeID := trimSpace nodeID, tokenHash := hashToken token, createdAt := now
             expiresAt := now + agentRecoveryLifetime } := by
  simp only [issueAgentRecovery, bind_eq_ok, exists_unit, require_eq_ok, pure_eq_ok] at h
  obtain ⟨n, -, -, token, htoken, id, -, event, -, rfl⟩ := h
  refine ⟨id, token, (firstUnusedBearer_spec htoken).2.2, fun r' hr' => ?_⟩
  rcases List.mem_append.mp hr' with hr' | hr'
  · exact .inl (List.mem_of_mem_filter hr')
  · exact .inr (List.mem_singleton.mp hr')

/-- What a claim finds: a live record of the token and the node it is for. -/
structure RecoveryFound (s : State) (request : RecoverRequest) (now : Int) (r : AgentRecoveryToken)
    (n : Node) : Prop where
  record : recoveryOfToken s request.token now = some r
  node : findNode s r.nodeID = some n
  recoverable : recoverableNode (hashToken request.publicKey) n = true

/-- A record with the claim of a request on it. -/
def claimedRecovery (request : RecoverRequest) (claimID : String) (now : Int) (n : Node)
    (r : AgentRecoveryToken) : AgentRecoveryToken :=
  { r with
    claimID := claimID, claimedAt := some now
    claimKeyHash := requestHash request.publicKey request.newAgentTokenHash
    claimedCredentialGeneration := n.agentCredentialGeneration }

theorem recoverClaim_spec {c : RecoverClaim} (h : recoverClaim request claimID now s = .ok (s', c)) :
    ∃ r n, RecoveryFound s request now r n ∧
      ((s' = s ∧ ∃ b, c = .replay b ∧ r.result = some b) ∨
        (r.usedAt = none ∧ s' = putRecovery s (claimedRecovery request claimID now n r) ∧
          c = .claimed (claimedRecovery request claimID now n r))) := by
  simp only [recoverClaim, bind_eq_ok, require_eq_ok, Option.filter_eq_some_iff] at h
  obtain ⟨r, hr, n, ⟨hn, hrec⟩, h⟩ := h
  refine ⟨r, n, ⟨hr, hn, hrec⟩, ?_⟩
  split at h
  · simp only [bind_eq_ok, exists_unit, pure_eq_ok, Prod.mk.injEq, require_eq_ok] at h
    obtain ⟨b, hb, -, hs, hc⟩ := h
    exact .inl ⟨hs.symm, b, hc.symm, hb⟩
  · rename_i hused
    simp only [bind_unit_eq_ok, pure_eq_ok, Prod.mk.injEq] at h
    obtain ⟨-, -, hs, hc⟩ := h
    exact .inr ⟨by simpa using hused, hs.symm, hc.symm⟩

theorem mem_of_recoveryOfToken (h : recoveryOfToken s token now = some r) :
    r ∈ s.agentRecoveries := List.mem_of_find?_eq_some h

end

namespace World

variable {env : Env} {w w' : World} {a : Action} {r' : AgentRecoveryToken}

variable {publicKey newAgentTokenHash : String} {n : Node}

theorem step_recoverClaim
    (h : w.step env (.recoverClaim token publicKey newAgentTokenHash claimID now) = .ok w') :
    ∃ request r n, recoverRequest env token publicKey newAgentTokenHash = .ok request ∧
      RecoveryFound w.state request now r n ∧
      ((w'.state = w.state ∧ w'.flights = w.flights ∧ ∃ b, r.result = some b) ∨
        (r.usedAt = none ∧ w'.state = putRecovery w.state (claimedRecovery request claimID now n r) ∧
          w'.flights = w.flights ++ [.recover request r.id claimID])) := by
  simp only [step, move, bind_eq_ok, commit_eq_ok, pure_eq_ok, Prod.exists] at h
  obtain ⟨w₁, ⟨request, hreq, s₁, outcome, hclaim, s₂, ⟨-, rfl⟩, h⟩, rfl⟩ := h
  obtain ⟨r, n, hfound, hout⟩ := recoverClaim_spec hclaim
  refine ⟨request, r, n, hreq, hfound, ?_⟩
  obtain ⟨rfl, b, rfl, hb⟩ | ⟨hused, rfl, rfl⟩ := hout
  · cases h
    exact .inl ⟨rfl, rfl, b, hb⟩
  · cases h
    exact .inr ⟨hused, rfl, rfl⟩

variable {i : Nat} {bearer : String}

theorem step_release (h : w.step env (.release i) = .ok w') :
    ∃ f, w.flights[i]? = some f ∧ w'.state = released w.state f ∧ w'.flights = w.flights.eraseIdx i := by
  simp only [step, move, bind_eq_ok, require_eq_ok, commit_eq_ok, pure_eq_ok] at h
  obtain ⟨_, ⟨f, hf, _, ⟨-, rfl⟩, rfl⟩, rfl⟩ := h
  exact ⟨f, hf, rfl, rfl⟩

theorem step_issueAgentRecovery {c : Stamp} {nodeID : String}
    (h : w.step env (.op c (.issueAgentRecovery nodeID bearers ids)) = .ok w') :
    issueAgentRecovery c.actor nodeID bearers ids c.eventID c.now w.state = .ok w'.state ∧
      w'.flights = w.flights := by
  simp only [step, move, bind_eq_ok, commit_eq_ok, pure_eq_ok] at h
  obtain ⟨_, ⟨s, hrun, _, ⟨-, rfl⟩, rfl⟩, rfl⟩ := h
  exact ⟨hrun, rfl⟩

theorem released_recoveries {f : Flight} {s : State} (hr' : r' ∈ (released s f).agentRecoveries) :
    r' ∈ s.agentRecoveries ∨ ∃ r ∈ s.agentRecoveries, r.usedAt = none ∧
      r' = { r with
        claimID := "", claimedAt := none, claimKeyHash := "", claimedCredentialGeneration := 0 } := by
  cases f with
  | recover request recoveryID claimID =>
    rw [released, releaseAgentRecoveryClaim, List.mem_map] at hr'
    obtain ⟨r, hr, rfl⟩ := hr'
    split_ifs with hmine
    · exact .inr ⟨r, hr, hmine.2.1, rfl⟩
    · exact .inl hr
  | _ => exact .inl hr'

/-- Every step, by what the requests about recoveries do; the others keep the records. -/
theorem recoveryStep (hs : Sound w) (h : w.step env a = .ok w') (hr' : r' ∈ w'.state.agentRecoveries) :
    RecoveryStep w r' a := by
  by_cases hi : a.inputs.recovery = false
  · obtain ⟨new, he⟩ := step_effect hs h
    obtain ⟨r, hr, heq⟩ := he.effect.recoveries hi r' hr'
    exact .kept hr heq
  · cases a with
    | op c o =>
      cases o with
      | issueAgentRecovery nodeID bearers ids =>
        obtain ⟨id, token, htoken, hrec⟩ := issueAgentRecovery_recoveries (step_issueAgentRecovery h).1
        obtain hold | rfl := hrec r' hr'
        · exact .kept hold rfl
        · exact .issued htoken rfl rfl rfl rfl rfl
      | _ => exact absurd rfl hi
    | recoverClaim token publicKey newAgentTokenHash claimID now =>
      obtain ⟨request, r, n, -, hfound, ⟨hsame, -⟩ | ⟨hused, hput, -⟩⟩ := step_recoverClaim h
      · exact .kept (hsame ▸ hr') rfl
      · rw [hput, putRecovery] at hr'
        rcases Keyed.mem_put.mp hr' with ⟨hold, -⟩ | ⟨rfl, -⟩
        · exact .kept hold rfl
        · exact .claimed (mem_of_recoveryOfToken hfound.record) hused hfound.node rfl
    | recover i eventID now =>
      obtain ⟨request, recoveryID, claimID, b, -, hc, -⟩ := step_recover h
      obtain ⟨r, n, hst⟩ := recoverCommit_spec hc
      rw [hst.recoveries] at hr'
      rcases Keyed.mem_put.mp (List.mem_of_mem_filter hr') with ⟨hold, -⟩ | ⟨rfl, -⟩
      · exact .kept hold rfl
      · exact .used (Keyed.mem_of_lookup hst.record) hst.unused hst.node rfl
    | release i =>
      obtain ⟨f, -, hrel, -⟩ := step_release h
      rw [hrel] at hr'
      obtain hold | ⟨r, hr, hused, rfl⟩ := released_recoveries hr'
      · exact .kept hold rfl
      · exact .released hr hused rfl
    | _ => exact absurd rfl hi

/-! ## Claims over runs -/

theorem claimID_drawn (h : Reachable env w) :
    ∀ r ∈ w.state.agentRecoveries, r.claimID = "" ∨ r.claimID ∈ w.drawn := by
  induction h with
  | start h0 =>
    intro r hr
    rw [h0.agentRecoveries] at hr
    cases hr
  | @next w w' a hr hstep ih =>
    obtain ⟨new, he⟩ := step_effect (sound hr) hstep.2
    have hold : ∀ r ∈ w.state.agentRecoveries, r.claimID = "" ∨ r.claimID ∈ w'.drawn := fun r hr =>
      (ih r hr).imp_right fun hd => he.drawn ▸ List.mem_append_right _ hd
    intro r' hr'
    cases recoveryStep (sound hr) hstep.2 hr' with
    | @kept _ r hr heq =>
      have : r'.claimID = r.claimID := AgentRecoveryToken.eq_of_unplaced (·.claimID) (fun _ => rfl) heq
      exact this ▸ hold r hr
    | issued _ _ _ _ hclaim => exact .inl hclaim
    | claimed _ _ _ heq =>
      subst heq
      exact .inr (he.drawn ▸ List.mem_append_left _ (List.mem_singleton_self _))
    | @used _ _ _ r _ _ hr _ _ heq =>
      subst heq
      exact hold r hr
    | released _ _ heq =>
      subst heq
      exact .inl rfl

/-- A claim was taken: a record with its identifier is for the node, at the generation. -/
structure Claimed (claimID nodeID : String) (generation : Int) (w : World) : Prop where
  nonempty : claimID ≠ ""
  drawn : claimID ∈ w.drawn
  records : ∀ r ∈ w.state.agentRecoveries, r.claimID = claimID →
    r.nodeID = nodeID ∧ r.claimedCredentialGeneration = generation

theorem Claimed.step {nodeID : String} {generation : Int} (hr : Reachable env w)
    (hc : Claimed claimID nodeID generation w) (h : Step env w a w') : Claimed claimID nodeID generation w' := by
  obtain ⟨new, he⟩ := step_effect (sound hr) h.2
  refine ⟨hc.nonempty, he.drawn ▸ List.mem_append_right _ hc.drawn, fun r' hr' hid => ?_⟩
  cases recoveryStep (sound hr) h.2 hr' with
  | @kept _ r hr heq =>
    have hclaim : r'.claimID = r.claimID := AgentRecoveryToken.eq_of_unplaced (·.claimID) (fun _ => rfl) heq
    have hnode : r'.nodeID = r.nodeID := AgentRecoveryToken.eq_of_unplaced (·.nodeID) (fun _ => rfl) heq
    have hgen : r'.claimedCredentialGeneration = r.claimedCredentialGeneration :=
      AgentRecoveryToken.eq_of_unplaced (·.claimedCredentialGeneration) (fun _ => rfl) heq
    rw [hnode, hgen]
    exact hc.records r hr (hclaim ▸ hid)
  | issued _ _ _ _ hempty => exact absurd (hid.symm.trans hempty) hc.nonempty
  | claimed _ _ _ heq =>
    -- the identifier of the new claim was not drawn before
    subst heq
    exact absurd hc.drawn (hid ▸ (h.1.fresh _ (List.mem_singleton_self _)).2)
  | @used _ _ _ r _ _ hr _ _ heq =>
    subst heq
    exact hc.records r hr hid
  | released _ _ heq =>
    subst heq
    exact absurd hid.symm hc.nonempty

/-- A request took a claim on a record of the node, which had the generation. -/
structure TakesClaim (env : Env) (w w' : World) (request : RecoverRequest) (recoveryID claimID nodeID : String)
    (generation : Int) : Prop where
  step : ∃ token publicKey newAgentTokenHash now,
    Step env w (.recoverClaim token publicKey newAgentTokenHash claimID now) w'
  flights : w'.flights = w.flights ++ [.recover request recoveryID claimID]
  node : ∃ n ∈ w.state.nodes, n.id = nodeID ∧ n.agentCredentialGeneration = generation ∧
    ∃ r ∈ w.state.agentRecoveries, r.id = recoveryID ∧ r.nodeID = nodeID

theorem TakesClaim.claimed {recoveryID nodeID : String} {generation : Int} (hr : Reachable env w)
    (h : TakesClaim env w w' request recoveryID claimID nodeID generation) :
    Claimed claimID nodeID generation w' := by
  obtain ⟨token, publicKey, newAgentTokenHash, now, hstep⟩ := h.step
  obtain ⟨n, hn, rfl, rfl, r₀, hr₀, hid₀, hnode₀⟩ := h.node
  have hs := sound hr
  have hfresh := hstep.1.fresh _ (List.mem_singleton_self claimID)
  obtain ⟨new, he⟩ := step_effect hs hstep.2
  refine ⟨hfresh.1, he.drawn ▸ List.mem_append_left _ (List.mem_singleton_self _), fun r' hr' hid => ?_⟩
  obtain ⟨request', r, m, -, hfound, ⟨-, hsame, -⟩ | ⟨-, hput, hflights⟩⟩ := step_recoverClaim hstep.2
  · -- a repeated request takes no claim
    have hlen := congrArg List.length (hsame.symm.trans h.flights)
    simp at hlen
  · have hflight : r.id = recoveryID := by
      have := List.append_cancel_left (hflights.symm.trans h.flights)
      simp only [List.cons.injEq, Flight.recover.injEq, and_true] at this
      exact this.2
    have hrec : r = r₀ := Keyed.eq_of_key_eq hs.valid.recoveryIDs (mem_of_recoveryOfToken hfound.record) hr₀
      (hflight.trans hid₀.symm)
    have hm : m = n := by
      have hfound' := hfound.node
      rw [hrec, hnode₀, hs.valid.findNode_of_mem hn, Option.some.injEq] at hfound'
      exact hfound'.symm
    rw [hput, putRecovery] at hr'
    rcases Keyed.mem_put.mp hr' with ⟨hold, -⟩ | ⟨rfl, -⟩
    · obtain hempty | hdrawn := claimID_drawn hr r' hold
      · exact absurd (hid.symm.trans hempty) hfresh.1
      · exact absurd (hid ▸ hdrawn) hfresh.2
    · exact ⟨hrec ▸ hnode₀, congrArg Node.agentCredentialGeneration hm⟩

/-! ## Commits -/

/-- The step commits an attempt that started when the node had the generation, and stores the hash. A
rotation starts where it commits, a recovery with its claim. -/
inductive Commits (env : Env) (w : World) (w' : World) (nodeID : String) (generation : Int) (hash : String) :
    Action → Prop where
  | rotation {c : Stamp} {token newTokenHash : String} {n : Node} :
      Step env w (.op c (.rotateAgentCredential token newTokenHash)) w' →
      firstAgent w.state (hashToken (trimSpace token)) c.now = some n →
      n.agentTokenHash ≠ trimSpace newTokenHash → n.id = nodeID → n.agentCredentialGeneration = generation →
      hash = trimSpace newTokenHash →
      Commits env w w' nodeID generation hash (.op c (.rotateAgentCredential token newTokenHash))
  | recovery {w₀ w₁ : World} {request : RecoverRequest} {recoveryID claimID eventID : String} {i : Nat}
      {now : Int} :
      Reachable env w₀ → TakesClaim env w₀ w₁ request recoveryID claimID nodeID generation →
      Runs.Later (Step env) w₁ w → Step env w (.recover i eventID now) w' →
      w.flights[i]? = some (.recover request recoveryID claimID) → hash = request.newAgentTokenHash →
      Commits env w w' nodeID generation hash (.recover i eventID now)

/-- The credential of the node before and after a commit. -/
structure Raised (w w' : World) (nodeID : String) (generation : Int) (hash : String) (n n' : Node) : Prop where
  before : findNode w.state nodeID = some n
  after : findNode w'.state nodeID = some n'
  started : n.agentCredentialGeneration = generation
  generation : n'.agentCredentialGeneration = n.agentCredentialGeneration + 1
  hash : n'.agentTokenHash = hash

variable {nodeID hash : String} {generation : Int}

/-- A recovery finds the generation of its claim and leaves no grace bearer behind. -/
theorem Commits.recovered (h : Commits env w w' nodeID generation hash (.recover i eventID now)) :
    ∃ n n', Raised w w' nodeID generation hash n n' ∧ n'.previousAgentTokenHash = "" ∧
      strictCredentialHashInUse w.state hash = false := by
  cases h with
  | @recovery w₀ w₁ request recoveryID claimID _ _ _ hr₀ htakes hlater hstep hflight hhash =>
    subst hhash
    obtain ⟨_, _, _, _, hclaim⟩ := htakes.step
    have hclaimed : Claimed claimID nodeID generation w :=
      Runs.Later.invariant (fun _ _ _ h => h) (.next hr₀ hclaim) (htakes.claimed hr₀)
        (fun _ _ _ hr hc hs => hc.step hr hs) hlater
    obtain ⟨request', recoveryID', claimID', b, hi, hc, -⟩ := step_recover hstep.2
    rw [hflight, Option.some.injEq, Flight.recover.injEq] at hi
    obtain ⟨rfl, rfl, rfl⟩ := hi
    obtain ⟨r, n, hst⟩ := recoverCommit_spec hc
    obtain ⟨rfl, rfl⟩ := hclaimed.records r (Keyed.mem_of_lookup hst.record) hst.claimed
    have hid := findNode_id hst.node
    exact ⟨n, _, ⟨hst.node, hid ▸ findNode_put_self hst.nodes hst.node rfl, hst.generation, rfl, rfl⟩, rfl,
      hst.fresh⟩

theorem Commits.raised (hr : Reachable env w) (h : Commits env w w' nodeID generation hash a) :
    ∃ n n', Raised w w' nodeID generation hash n n' := by
  cases a with
  | recover i eventID now =>
    obtain ⟨n, n', hraised, -⟩ := h.recovered
    exact ⟨n, n', hraised⟩
  | op c o =>
    cases h with
    | @rotation _ token newTokenHash n hstep hagent hne hid hgen hhash =>
      subst hid hgen hhash
      obtain ⟨m, hm, hout⟩ := rotateAgentCredential_spec (step_rotateAgentCredential hstep.2).1
      rw [hagent, Option.some.injEq] at hm
      subst hm
      obtain ⟨hsame, -⟩ | ⟨hrot, hnodes, -⟩ := hout
      · exact absurd hsame hne
      · have hfind := (sound hr).valid.findNode_of_mem hrot.mem
        exact ⟨n, _, hfind, findNode_put_self hnodes hfind rfl, rfl, rfl, rfl⟩
  | _ => cases h

/-- The generation of a node only grows, over any run. -/
theorem generation_le_of_later {v : World} {n' : Node} (hr : Reachable env w)
    (hn : findNode w.state nodeID = some n) (h : Runs.Later (Step env) w v)
    (hn' : findNode v.state nodeID = some n') : n.agentCredentialGeneration ≤ n'.agentCredentialGeneration := by
  have hinv : nodeID ∈ v.drawn ∧
      ∀ m ∈ v.state.nodes, m.id = nodeID → n.agentCredentialGeneration ≤ m.agentCredentialGeneration := by
    refine Runs.Later.invariant (I := fun v => nodeID ∈ v.drawn ∧ ∀ m ∈ v.state.nodes, m.id = nodeID →
      n.agentCredentialGeneration ≤ m.agentCredentialGeneration) (fun _ _ _ h => h) hr ⟨?_, ?_⟩ ?_ h
    · exact findNode_id hn ▸ (traced hr).drawn n (mem_of_findNode hn)
    · intro m hm hid
      rw [(sound hr).valid.findNode_iff.mpr ⟨hm, hid⟩, Option.some.injEq] at hn
      exact hn ▸ le_rfl
    · intro u a u' hu ⟨hdrawn, hle⟩ hstep
      obtain ⟨new, he⟩ := step_effect (sound hu) hstep.2
      refine ⟨he.drawn ▸ List.mem_append_right _ hdrawn, fun m' hm' hid => ?_⟩
      obtain ⟨m, hm, hmid, hcred⟩ := credentialStep_of_drawn hu hstep hm' (hid ▸ hdrawn)
      exact (hle m hm (hmid.trans hid)).trans (generation_le_of_step (sound hu) hm hcred)
  exact hinv.2 n' (mem_of_findNode hn') (findNode_id hn')

/-! ## Bearers that were cut off -/

/-- A bearer is accepted for the node at the instant. -/
def Accepts (w : World) (nodeID bearer : String) (now : Int) : Prop :=
  ∃ n ∈ w.state.nodes, n.id = nodeID ∧ authenticates (hashToken bearer) now n = true

theorem hashToken_ne_empty (bearer : String) : hashToken bearer ≠ "" := by
  intro h
  have hv := validTokenHash_hashToken bearer
  rw [h] at hv
  exact absurd hv (by decide)

theorem eq_of_tokenHashEqual {hash : String} (hv : hash ≠ "" → validTokenHash hash = true)
    (h : tokenHashEqual hash (hashToken bearer) = true) : hash = hashToken bearer := by
  by_cases he : hash = ""
  · have hdecode : Base64.decode "" = some [] := by decide
    simp only [he, tokenHashEqual, hdecode] at h
    split at h
    · simp_all
    · cases h
  · exact (tokenHashEqual_iff (hv he) (validTokenHash_hashToken bearer)).mp h

/-- A bearer is accepted by the hash of the current credential or of the one before. -/
theorem hash_of_authenticates (hs : Sound w) (hn : n ∈ w.state.nodes)
    (h : authenticates (hashToken bearer) now n = true) :
    n.agentTokenHash = hashToken bearer ∨ n.previousAgentTokenHash = hashToken bearer := by
  have hvalid := (hs.valid.nodes n hn).hashes
  simp only [nodeHashes, nodeCredentialHashes, List.mem_map, List.mem_filter, List.mem_cons,
    List.not_mem_nil, or_false, decide_eq_true_eq] at hvalid
  simp only [authenticates, agentCredentialMatch, Bool.and_eq_true] at h
  obtain ⟨-, h⟩ := h
  split at h
  · rename_i hcurrent
    exact .inl (eq_of_tokenHashEqual (fun hne => hvalid _ ⟨_, ⟨.inl rfl, hne⟩, rfl⟩) hcurrent.2)
  · split at h
    · rename_i hprevious
      exact .inr (eq_of_tokenHashEqual (fun hne => hvalid _ ⟨_, ⟨.inr rfl, hne⟩, rfl⟩) hprevious.2)
    · cases h

/-- The node has no trace of the hash. -/
structure Dropped (nodeID hash : String) (w : World) : Prop where
  drawn : nodeID ∈ w.drawn
  gone : ∀ n ∈ w.state.nodes, n.id = nodeID → n.agentTokenHash ≠ hash ∧ n.previousAgentTokenHash ≠ hash

theorem Dropped.step (hr : Reachable env w) (hne : hash ≠ "") (hd : Dropped nodeID hash w)
    (h : Step env w a w') (hreg : w.registers a ≠ some hash) : Dropped nodeID hash w' := by
  obtain ⟨new, he⟩ := step_effect (sound hr) h.2
  refine ⟨he.drawn ▸ List.mem_append_right _ hd.drawn, fun n' hn' hid => ?_⟩
  obtain ⟨n, hn, hnid, hcred⟩ := credentialStep_of_drawn hr h hn' (hid ▸ hd.drawn)
  obtain ⟨hcurrent, hprevious⟩ := hd.gone n hn (hnid.trans hid)
  cases hcred with
  | kept heq =>
    have h1 : n'.agentTokenHash = n.agentTokenHash := congrArg Credential.tokenHash heq
    have h2 : n'.previousAgentTokenHash = n.previousAgentTokenHash := congrArg Credential.previousTokenHash heq
    exact ⟨h1 ▸ hcurrent, h2 ▸ hprevious⟩
  | confirmed heq =>
    have h1 : n'.agentTokenHash = n.agentTokenHash := congrArg Credential.tokenHash heq
    have h2 : n'.previousAgentTokenHash = "" := congrArg Credential.previousTokenHash heq
    exact ⟨h1 ▸ hcurrent, h2 ▸ hne.symm⟩
  | @rotated stored _ hstored _ heq =>
    -- the credential so far is the grace bearer now
    have h1 : n'.agentTokenHash = stored := congrArg Credential.tokenHash heq
    have h2 : n'.previousAgentTokenHash = n.agentTokenHash := congrArg Credential.previousTokenHash heq
    refine ⟨fun hc => hreg ?_, h2 ▸ hcurrent⟩
    rw [hstored, ← h1, hc]
  | @recovered stored _ hstored _ heq =>
    have h1 : n'.agentTokenHash = stored := congrArg Credential.tokenHash heq
    have h2 : n'.previousAgentTokenHash = "" := congrArg Credential.previousTokenHash heq
    refine ⟨fun hc => hreg ?_, h2 ▸ hne.symm⟩
    rw [hstored, ← h1, hc]
  | enrolled hstored _ _ hprev =>
    refine ⟨fun hc => hreg ?_, hprev ▸ hprevious⟩
    rw [hstored, hc]
  | revoked h1 h2 => exact ⟨h1 ▸ hne.symm, h2 ▸ hne.symm⟩

theorem Commits.step (h : Commits env w w' nodeID generation hash a) : Step env w a w' := by
  cases h with
  | rotation hstep => exact hstep
  | recovery _ _ _ hstep => exact hstep

theorem Dropped.of_recovery (hr : Reachable env w)
    (h : Commits env w w' nodeID generation hash (.recover i eventID now)) {other : String} (hne : other ≠ "")
    (hother : other ≠ hash) : Dropped nodeID other w' := by
  obtain ⟨n, n', hraised, hprevious, -⟩ := h.recovered
  have hr' : Reachable env w' := .next hr h.step
  refine ⟨findNode_id hraised.after ▸ (traced hr').drawn n' (mem_of_findNode hraised.after),
    fun m hm hid => ?_⟩
  have hm' : m = n' := by
    have hfind := hraised.after
    rw [(sound hr').valid.findNode_iff.mpr ⟨hm, hid⟩, Option.some.injEq] at hfind
    exact hfind
  rw [hm', hraised.hash, hprevious]
  exact ⟨hother.symm, hne.symm⟩

/-- A bearer that is accepted when a recovery commits is not the one the recovery stores. -/
theorem Accepts.ne_of_recovery (hr : Reachable env w)
    (h : Commits env w w' nodeID generation hash (.recover i eventID now)) {t : Int}
    (ha : Accepts w nodeID bearer t) : hashToken bearer ≠ hash := by
  rintro rfl
  obtain ⟨-, -, -, -, hunused⟩ := h.recovered
  obtain ⟨n, hn, -, hauth⟩ := ha
  have hself : tokenHashEqual (hashToken bearer) (hashToken bearer) = true :=
    (tokenHashEqual_iff (validTokenHash_hashToken _) (validTokenHash_hashToken _)).mpr rfl
  simp only [strictCredentialHashInUse, Bool.or_eq_false_iff, List.any_eq_false] at hunused
  have hnode := hunused.1.1 n hn
  rcases hash_of_authenticates (sound hr) hn hauth with hcurrent | hprevious
  · simp [hcurrent, hself] at hnode
  · simp [hprevious, hself] at hnode

theorem Dropped.not_accepts (hr : Reachable env w) (hd : Dropped nodeID (hashToken bearer) w) (t : Int) :
    ¬ Accepts w nodeID bearer t := by
  rintro ⟨n, hn, hid, hauth⟩
  obtain ⟨hcurrent, hprevious⟩ := hd.gone n hn hid
  rcases hash_of_authenticates (sound hr) hn hauth with h | h
  · exact hcurrent h
  · exact hprevious h

/-- The steps that do not register the hash of the bearer. -/
def Leaves (env : Env) (bearer : String) : World → Action → World → Prop :=
  Runs.Restrict (Step env) fun w a => w.registers a ≠ some (hashToken bearer)

theorem TakesClaim.of_step (h : Step env w (.recoverClaim token publicKey newAgentTokenHash claimID now) w')
    (hflights : w'.flights.length = w.flights.length + 1) :
    ∃ request recoveryID nodeID generation,
      TakesClaim env w w' request recoveryID claimID nodeID generation := by
  obtain ⟨request, r, n, -, hfound, ⟨-, hsame, -⟩ | ⟨-, -, hnew⟩⟩ := step_recoverClaim h.2
  · rw [hsame] at hflights
    omega
  · have hid := findNode_id hfound.node
    exact ⟨request, r.id, n.id, _, ⟨_, _, _, _, h⟩, hnew, n, mem_of_findNode hfound.node, rfl, rfl, r,
      mem_of_recoveryOfToken hfound.record, rfl, hid.symm⟩

end World

/-- Commits of rotations and recoveries are linear. Each raises the generation of its node by one and
stores its credential; no later commit started from the same generation; and after a recovery a bearer is
accepted only if the recovery or a later step registered its hash, which the recovery never does for one
that was accepted until then. -/
theorem credential_commits_linear {env : Env} {w w' : World} {a : Action} {nodeID hash : String}
    {generation : Int} (hr : World.Reachable env w)
    (h : World.Commits env w w' nodeID generation hash a) :
    (∃ n n', World.Raised w w' nodeID generation hash n n') ∧
    (∀ v v' b generation' hash', Runs.Later (World.Step env) w' v →
      World.Commits env v v' nodeID generation' hash' b → generation' ≠ generation) ∧
    ∀ i eventID now bearer, a = .recover i eventID now →
      (∀ t, World.Accepts w nodeID bearer t → hashToken bearer ≠ hash) ∧
      (hashToken bearer ≠ hash → ∀ v, Runs.Later (World.Leaves env bearer) w' v → ∀ t,
        ¬ World.Accepts v nodeID bearer t) := by
  have hr' : World.Reachable env w' := .next hr h.step
  obtain ⟨n, n', hraised⟩ := h.raised hr
  refine ⟨⟨n, n', hraised⟩, ?_, ?_⟩
  · intro v v' b generation' hash' hlater h' heq
    obtain ⟨m, _, hraised'⟩ := h'.raised (hr'.later hlater)
    have hle := World.generation_le_of_later hr' hraised.after hlater hraised'.before
    have h1 := hraised.generation
    have h2 := hraised.started
    have h3 := hraised'.started
    omega
  · rintro i eventID now bearer rfl
    refine ⟨fun t ha => ha.ne_of_recovery hr h, fun hne v hlater t => ?_⟩
    have hd : World.Dropped nodeID (hashToken bearer) v :=
      Runs.Later.invariant (fun _ _ _ hs => hs.1) hr'
        (World.Dropped.of_recovery hr h (World.hashToken_ne_empty bearer) hne)
        (fun _ _ _ hu hd hs => hd.step hu (World.hashToken_ne_empty bearer) hs.1 hs.2) hlater
    have hrv : World.Reachable env v := hr'.later (hlater.mono fun _ _ _ hs => hs.1)
    exact hd.not_accepts hrv t

/-! ## A recovery, and a rotation back to the bearer it cut off -/

/-- A recovery token for the member of the network. -/
def recoveryRun : List Action := memberRun ++ [
  .op { eventID := "e3", now := Setting.minutes 5 } (.issueAgentRecovery "n2" [Setting.bytes32 50] ["r1"])]

def takeClaim : Action :=
  .recoverClaim (Setting.bytes32 50) "key2" (hashToken (Setting.bytes32 103)) "q1" (Setting.minutes 6)

def commitRecovery : Action := .recover 0 "e4" (Setting.minutes 7)

def rotateBack : Action :=
  .op { eventID := "e5", now := Setting.minutes 8 }
    (.rotateAgentCredential (Setting.bytes32 103) (hashToken (Setting.bytes32 102)))

/-- The bearer the member enrolled with is accepted. -/
def firstBearerAccepted (w : World) : Bool :=
  w.state.nodes.any fun n => n.id == "n2" && authenticates (hashToken (Setting.bytes32 102)) (Setting.minutes 9) n

theorem accepts_of_firstBearerAccepted {w : World} (h : firstBearerAccepted w = true) :
    w.Accepts "n2" (Setting.bytes32 102) (Setting.minutes 9) := by
  simp only [firstBearerAccepted, List.any_eq_true, Bool.and_eq_true, beq_iff_eq] at h
  exact h

def recoveryAndRotationBack : World.Passed
    (World.playThen (stepEval.1 Setting.env) Setting.start recoveryRun takeClaim [commitRecovery, rotateBack]
      (fun w w₁ v => w.flights.isEmpty && w.state.agentRecoveries.all (·.nodeID == "n2") &&
        w₁.flights.length == 1 && firstBearerAccepted w₁ && firstBearerAccepted v)) where
  holds := by decide +kernel

/-- The worlds of the run: with the claim, after the recovery, and after the rotation. -/
theorem recovery_run :
    ∃ w w' v generation hash, World.Reachable Setting.env w ∧
      World.Commits Setting.env w w' "n2" generation hash commitRecovery ∧
      World.Step Setting.env w' rotateBack v ∧ w.Accepts "n2" (Setting.bytes32 102) (Setting.minutes 9) ∧
      v.Accepts "n2" (Setting.bytes32 102) (Setting.minutes 9) := by
  obtain ⟨w₀, w, v, hr₀, hclaim, hplay, hcheck⟩ :=
    World.playThen_spec Setting.start_reachable recoveryAndRotationBack.holds
  simp only [Bool.and_eq_true, beq_iff_eq, List.isEmpty_iff, List.all_eq_true] at hcheck
  obtain ⟨⟨⟨⟨hnone, hmember⟩, hflights⟩, hbefore⟩, hafter⟩ := hcheck
  obtain ⟨w', hcommit, hplay⟩ := World.play_cons hplay
  obtain ⟨_, hback, ⟨⟩⟩ := World.play_cons hplay
  obtain ⟨request, recoveryID, nodeID, generation, htakes⟩ :=
    World.TakesClaim.of_step hclaim (by rw [hnone, hflights]; rfl)
  obtain ⟨-, -, -, -, r, hr, -, hnode⟩ := htakes.node
  have hid : nodeID = "n2" := hnode.symm.trans (hmember r hr)
  -- the claim is the only request under way
  have hfirst : w.flights[0]? = some (.recover request recoveryID "q1") := by
    rw [htakes.flights, hnone]
    rfl
  exact ⟨w, w', v, generation, _, .next hr₀ hclaim,
    .recovery hr₀ (hid ▸ htakes) (Runs.Later.refl w) hcommit hfirst rfl, hback,
    accepts_of_firstBearerAccepted hbefore, accepts_of_firstBearerAccepted hafter⟩

theorem credential_commits_linear_recovery :
    ∃ w w' generation hash n n', World.Reachable Setting.env w ∧
      World.Commits Setting.env w w' "n2" generation hash commitRecovery ∧
      World.Raised w w' "n2" generation hash n n' ∧ hashToken (Setting.bytes32 102) ≠ hash ∧
      ∀ t, ¬ w'.Accepts "n2" (Setting.bytes32 102) t := by
  obtain ⟨w, w', v, generation, hash, hr, hcommit, -, hbefore, -⟩ := recovery_run
  obtain ⟨⟨n, n', hraised⟩, -, hcut⟩ := credential_commits_linear hr hcommit
  obtain ⟨hother, hgone⟩ := hcut 0 "e4" (Setting.minutes 7) (Setting.bytes32 102) rfl
  exact ⟨w, w', generation, hash, n, n', hr, hcommit, hraised, hother _ hbefore,
    hgone (hother _ hbefore) w' (Runs.Later.refl w')⟩

/-- A bearer that a recovery cut off is accepted again once the agent rotates back to it. -/
theorem recovered_bearer_returns :
    ∃ w w' v generation hash i eventID now bearer t, World.Reachable Setting.env w ∧
      World.Commits Setting.env w w' "n2" generation hash (.recover i eventID now) ∧
      w.Accepts "n2" bearer t ∧ Runs.Later (World.Step Setting.env) w' v ∧ v.Accepts "n2" bearer t := by
  obtain ⟨w, w', v, generation, hash, hr, hcommit, hback, hbefore, hafter⟩ := recovery_run
  exact ⟨w, w', v, generation, hash, _, _, _, _, _, hr, hcommit, hbefore, .next (Runs.Later.refl w') hback,
    hafter⟩

end Mesh
