import Mesh.Control.NodeSteps
import Mesh.Control.Recoveries

/-!
# Mesh.Control.Counters

The counters of networks and nodes over runs. Several operations add one without looking at the upper
limit; what keeps a counter from wrapping there is the validator, which takes no state with a negative
one. So every counter stays within 64 bits (`World.ranged`) and none goes back.
-/

namespace Mesh

theorem inc64_le {n : Int} (h : n ≤ maxInt64) : inc64 n ≤ maxInt64 := by
  unfold inc64 maxInt64 at *
  split_ifs <;> omega

/-- A successor that is not negative did not wrap. -/
theorem inc64_of_nonneg {n : Int} (h : 0 ≤ inc64 n) : inc64 n = n + 1 := by
  unfold inc64 maxInt64 at *
  split_ifs at h with hmax
  · omega
  · rw [if_neg hmax]

/-! ## What the validator says of counters -/

variable {n : Node} {v : Network}

section
variable {s : State}

theorem ValidGraph.configRevision_pos (hv : ValidGraph s) (hmem : v ∈ s.networks) : 1 ≤ v.configRevision := by
  have hrec := (hv.networks v hmem).record
  simp only [validateNetworkRecord, bind_unit_eq_ok, reject_eq_ok, not_or, not_lt] at hrec
  exact hrec.2.1.2.2.2.2.1

/-- What the validator says of the counters of a node, its network apart. -/
structure CountersPassed (n : Node) : Prop where
  generation : 0 ≤ n.certificateGeneration
  credential : 0 ≤ n.agentCredentialGeneration
  pendingCredential : n.status = .pending → n.agentCredentialGeneration = 0
  sequence : 0 ≤ n.heartbeatSequence ∧ n.heartbeatSequence ≤ maxPersistedHeartbeatSequence
  appliedGeneration : 0 ≤ n.appliedCertificateGeneration ∧
    n.appliedCertificateGeneration ≤ n.certificateGeneration
  applied : 0 ≤ n.appliedConfigRevision

theorem ValidGraph.counters (hv : ValidGraph s) (hc : Current s) (hn : n ∈ s.nodes) :
    CountersPassed n ∧ ∃ v ∈ s.networks, n.appliedConfigRevision ≤ v.configRevision := by
  obtain ⟨v, hfound, hrec⟩ := hv.nodeRecord hc hn
  have htelemetry := hrec.telemetry
  simp only [validatePersistedNodeTelemetry, bind_unit_eq_ok, reject_eq_ok, not_or, not_lt] at htelemetry
  obtain ⟨-, -, -, ⟨happlied, hrevision⟩, hsequence, -⟩ := htelemetry
  obtain ⟨hgen, hagen, hle, hcred⟩ := hrec.generations
  refine ⟨⟨hgen, hcred, fun hp => ?_, hsequence, ⟨hagen, hle⟩, happlied⟩, v, mem_of_findNetwork hfound,
    hrevision⟩
  have hstatus := hrec.status
  simp only [validateNodeStatus, hp, reject_eq_ok, not_or, Decidable.not_not] at hstatus
  exact hstatus.2.2.2.2.1

end

namespace World

variable {env : Env} {w w' : World} {a : Action}

/-! ## Every counter is in range -/

variable {before after : Int} {n' : Node} {v' : Network}

theorem le_of_counted (h : Counted n before after) (hle : before ≤ maxInt64) : after ≤ maxInt64 := by
  rcases h with rfl | rfl | ⟨-, rfl⟩
  · exact hle
  · exact inc64_le hle
  · decide

/-- What `Ranged` says of one node. -/
structure NodeRanged (n : Node) : Prop where
  generation : n.certificateGeneration ≤ maxInt64
  credential : n.agentCredentialGeneration ≤ maxInt64
  pending : n.status = .pending → n.certificateGeneration = 0

theorem NodeRanged.written (h : NodeRanged n) (hw : NodeWritten n n') : NodeRanged n' := by
  refine ⟨le_of_counted hw.generation h.generation, le_of_counted hw.credential h.credential, fun hp => ?_⟩
  obtain ⟨hpending, heq⟩ := hw.pending hp
  rw [heq, h.pending hpending]

theorem NodeRanged.added {drawn : List String} (h : NodeAdded drawn n) : NodeRanged n := by
  have hzero := h.counters
  simp only [Node.counters, NodeCounters.mk.injEq] at hzero
  exact ⟨by rw [hzero.1]; decide, by rw [hzero.2.1]; decide, fun _ => hzero.1⟩

/-- What a run keeps of its counters, besides what the validator checks. -/
structure Ranged (w : World) : Prop where
  drawn : ∀ v ∈ w.state.networks, v.id ∈ w.drawn
  revisions : ∀ v ∈ w.state.networks, v.configRevision ≤ maxInt64
  nodes : ∀ n ∈ w.state.nodes, NodeRanged n

theorem Ranged.step (hr : Ranged w) (hw : Written a.promotes a.draws w.state w'.state)
    (hdrawn : w'.drawn = a.draws ++ w.drawn) : Ranged w' := by
  refine ⟨fun v' hv' => ?_, fun v' hv' => ?_, fun n' hn' => ?_⟩
  · rw [hdrawn, List.mem_append]
    obtain ⟨v, hv, hwritten⟩ | hadded := hw.networks v' hv'
    · exact .inr (hwritten.id ▸ hr.drawn v hv)
    · exact .inl hadded.id
  · obtain ⟨v, hv, hwritten⟩ | hadded := hw.networks v' hv'
    · obtain hkept | hinc := hwritten.revision
      · exact hkept ▸ hr.revisions v hv
      · exact hinc ▸ inc64_le (hr.revisions v hv)
    · rw [hadded.revision]
      decide
  · obtain ⟨n, hn, hwritten⟩ | hadded := hw.nodes n' hn'
    · exact (hr.nodes n hn).written hwritten
    · exact .added hadded

theorem ranged (h : Reachable env w) : Ranged w := by
  induction h with
  | start h0 =>
    refine ⟨fun v hv => ?_, fun v hv => ?_, fun n hn => ?_⟩
    · rw [h0.networks] at hv
      cases hv
    · rw [h0.networks] at hv
      cases hv
    · rw [h0.nodes] at hn
      cases hn
  | @next w w' a hr hstep ih =>
    have hs := sound hr
    obtain ⟨new, he⟩ := step_effect hs hstep.2
    exact ih.step (step_transacted hs hstep.2).written he.drawn

/-! ## No counter goes back -/

/-- A counter that is not negative afterwards did not go back; an enrollment counts from zero. -/
theorem le_counted (h : Counted n before after) (hafter : 0 ≤ after)
    (hpending : n.status = .pending → before = 0) : before ≤ after := by
  rcases h with rfl | rfl | ⟨hp, rfl⟩
  · exact le_refl _
  · rw [inc64_of_nonneg hafter]
    omega
  · rw [hpending hp]
    decide

structure CountersLe (n n' : Node) : Prop where
  certificateGeneration : n.certificateGeneration ≤ n'.certificateGeneration
  agentCredentialGeneration : n.agentCredentialGeneration ≤ n'.agentCredentialGeneration
  heartbeatSequence : n.heartbeatSequence ≤ n'.heartbeatSequence
  appliedConfigRevision : n.appliedConfigRevision ≤ n'.appliedConfigRevision
  appliedCertificateGeneration : n.appliedCertificateGeneration ≤ n'.appliedCertificateGeneration

/-- All counters of a node are values of a signed 64-bit integer that never wrapped. -/
structure CountersInRange (n : Node) : Prop where
  certificateGeneration : 0 ≤ n.certificateGeneration ∧ n.certificateGeneration ≤ maxInt64
  agentCredentialGeneration : 0 ≤ n.agentCredentialGeneration ∧ n.agentCredentialGeneration ≤ maxInt64
  heartbeatSequence : 0 ≤ n.heartbeatSequence ∧ n.heartbeatSequence ≤ maxInt64
  appliedConfigRevision : 0 ≤ n.appliedConfigRevision ∧ n.appliedConfigRevision ≤ maxInt64
  appliedCertificateGeneration :
    0 ≤ n.appliedCertificateGeneration ∧ n.appliedCertificateGeneration ≤ maxInt64

theorem countersInRange (hr : Reachable env w) (hn : n ∈ w.state.nodes) : CountersInRange n := by
  have hs := sound hr
  have hranged := ranged hr
  obtain ⟨hp, v, hv, hrevision⟩ := hs.valid.counters hs.current hn
  have hgen := (hranged.nodes n hn).generation
  have hseq : maxPersistedHeartbeatSequence ≤ maxInt64 := by decide
  exact ⟨⟨hp.generation, hgen⟩, ⟨hp.credential, (hranged.nodes n hn).credential⟩,
    ⟨hp.sequence.1, hp.sequence.2.trans hseq⟩, ⟨hp.applied, hrevision.trans (hranged.revisions v hv)⟩,
    ⟨hp.appliedGeneration.1, hp.appliedGeneration.2.trans hgen⟩⟩

/-- The network before a step that has the identifier of one after it. -/
theorem networkWritten_of_id (hr : Reachable env w) (h : Step env w a w') (hv : v ∈ w.state.networks)
    (hv' : v' ∈ w'.state.networks) (hid : v'.id = v.id) : NetworkWritten a.promotes w.state v v' := by
  have hs := sound hr
  obtain ⟨u, hu, hwritten⟩ | hadded := (step_transacted hs h.2).written.networks v' hv'
  · have : u = v := Keyed.eq_of_key_eq hs.valid.networkIDs hu hv (hwritten.id.symm.trans hid)
    exact this ▸ hwritten
  · exact absurd ((ranged hr).drawn v hv) (h.1.fresh v.id (hid ▸ hadded.id)).2

theorem nodeWritten_of_id (hr : Reachable env w) (h : Step env w a w') (hn : n ∈ w.state.nodes)
    (hn' : n' ∈ w'.state.nodes) (hid : n'.id = n.id) : NodeWritten n n' := by
  have hs := sound hr
  obtain ⟨m, hm, hwritten⟩ | hadded := (step_transacted hs h.2).written.nodes n' hn'
  · have : m = n := Keyed.eq_of_key_eq hs.valid.nodeIDs hm hn (hwritten.id.symm.trans hid)
    exact this ▸ hwritten
  · exact absurd ((traced hr).drawn n hn) (h.1.fresh n.id (hid ▸ hadded.id)).2

theorem revision_le (hr : Reachable env w) (h : Step env w a w') (hv : v ∈ w.state.networks)
    (hv' : v' ∈ w'.state.networks) (hid : v'.id = v.id) : v.configRevision ≤ v'.configRevision := by
  have hpos := (sound (.next hr h)).valid.configRevision_pos hv'
  obtain hkept | hinc := (networkWritten_of_id hr h hv hv' hid).revision
  · exact hkept.ge
  · rw [hinc] at hpos ⊢
    rw [inc64_of_nonneg (by omega)]
    omega

theorem countersLe (hr : Reachable env w) (h : Step env w a w') (hn : n ∈ w.state.nodes)
    (hn' : n' ∈ w'.state.nodes) (hid : n'.id = n.id) : CountersLe n n' := by
  have hs := sound hr
  have hwritten := nodeWritten_of_id hr h hn hn' hid
  have hrange := countersInRange (.next hr h) hn'
  obtain ⟨hpassed, -⟩ := hs.valid.counters hs.current hn
  exact ⟨le_counted hwritten.generation hrange.certificateGeneration.1 ((ranged hr).nodes n hn).pending,
    le_counted hwritten.credential hrange.agentCredentialGeneration.1 hpassed.pendingCredential,
    hwritten.sequence, hwritten.applied, hwritten.appliedGeneration⟩

end World

/-- No step of any run moves a counter back, and no counter it leaves has wrapped. -/
theorem counters_never_go_back {env : Env} {w w' : World} {a : Action} (hr : World.Reachable env w)
    (h : World.Step env w a w') :
    (∀ v ∈ w.state.networks, ∀ v' ∈ w'.state.networks, v'.id = v.id →
      v.configRevision ≤ v'.configRevision) ∧
    (∀ n ∈ w.state.nodes, ∀ n' ∈ w'.state.nodes, n'.id = n.id → World.CountersLe n n') ∧
    (∀ v' ∈ w'.state.networks, 1 ≤ v'.configRevision ∧ v'.configRevision ≤ maxInt64) ∧
    (∀ n' ∈ w'.state.nodes, World.CountersInRange n') := by
  have hr' : World.Reachable env w' := .next hr h
  refine ⟨?_, ?_, ?_, ?_⟩
  · intro v hv v' hv' hid
    exact World.revision_le hr h hv hv' hid
  · intro n hn n' hn' hid
    exact World.countersLe hr h hn hn' hid
  · intro v' hv'
    exact ⟨(World.sound hr').valid.configRevision_pos hv', (World.ranged hr').revisions v' hv'⟩
  · intro n' hn'
    exact World.countersInRange hr' hn'

/-- The commit of a recovery raises one counter of its node and leaves the others in range. -/
theorem counters_never_go_back_recovery :
    ∃ w w' n n', World.Reachable Setting.env w ∧ World.Step Setting.env w commitRecovery w' ∧
      n ∈ w.state.nodes ∧ n' ∈ w'.state.nodes ∧ n'.id = n.id ∧
      n'.agentCredentialGeneration = n.agentCredentialGeneration + 1 ∧ World.CountersLe n n' ∧
      World.CountersInRange n' := by
  obtain ⟨w, w', v, generation, hash, hr, hcommit, -⟩ := recovery_run
  obtain ⟨n, n', hraised, -⟩ := hcommit.recovered
  have hn := mem_of_findNode hraised.before
  have hn' := mem_of_findNode hraised.after
  have hid : n'.id = n.id := (findNode_id hraised.after).trans (findNode_id hraised.before).symm
  obtain ⟨-, hle, -, hrange⟩ := counters_never_go_back hr hcommit.step
  exact ⟨w, w', n, n', hr, hcommit.step, hn, hn', hid, hraised.generation, hle n hn n' hn' hid,
    hrange n' hn'⟩

end Mesh
