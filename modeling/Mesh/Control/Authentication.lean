import Mathlib
import Mesh.Control.Recoveries

/-!
# Mesh.Control.Authentication

A bearer names one party. The validator keeps every credential hash in canonical form and every hash in
one place, so the bytes of a hash decide the node it belongs to (`ValidGraph.node_of_match`), and what is
a credential is neither an enrolment token nor a recovery token.
-/

namespace Mesh

variable {s : State}

/-! ## Hashes and the bytes they stand for -/

variable {n : Node} {hash : String}

theorem validTokenHash_of_mem_nodeHashes (hv : ValidGraph s) (hn : n ∈ s.nodes) (hh : hash ∈ nodeHashes n) :
    validTokenHash hash = true := (hv.nodes n hn).hashes hash hh

theorem mem_nodeHashes :
    hash ∈ nodeHashes n ↔ hash ≠ "" ∧ (hash = n.agentTokenHash ∨ hash = n.previousAgentTokenHash) := by
  simp only [nodeHashes, nodeCredentialHashes, List.mem_map, List.mem_filter, List.mem_cons,
    List.not_mem_nil, or_false, decide_eq_true_eq, Prod.exists, Prod.mk.injEq]
  constructor
  · rintro ⟨hash, slot, ⟨⟨rfl, -⟩ | ⟨rfl, -⟩, hne⟩, rfl⟩
    · exact ⟨hne, .inl rfl⟩
    · exact ⟨hne, .inr rfl⟩
  · rintro ⟨hne, rfl | rfl⟩
    · exact ⟨_, _, ⟨.inl ⟨rfl, rfl⟩, hne⟩, rfl⟩
    · exact ⟨_, _, ⟨.inr ⟨rfl, rfl⟩, hne⟩, rfl⟩

theorem tokenHashEqual_empty (hash : String) : tokenHashEqual "" hash = false := by
  have hdecode : Base64.decode "" = some [] := by decide
  simp only [tokenHashEqual, hdecode]
  split <;> simp_all

/-- Two texts with the bytes of a third have the same bytes. -/
theorem tokenHashEqual_of_both {a b c : String} (ha : tokenHashEqual a c = true)
    (hb : tokenHashEqual b c = true) : tokenHashEqual a b = true := by
  simp only [tokenHashEqual] at *
  split at ha <;> split at hb <;> simp_all

/-- A match is a match with one of the node's hashes. -/
theorem hash_of_agentCredentialMatch {now : Int} (h : (agentCredentialMatch n hash now).1 = true) :
    ∃ own ∈ nodeHashes n, tokenHashEqual own hash = true := by
  have hne : ∀ own, tokenHashEqual own hash = true → own ≠ "" := by
    rintro _ hown rfl
    rw [tokenHashEqual_empty] at hown
    cases hown
  unfold agentCredentialMatch at h
  split at h
  · rename_i hcurrent
    exact ⟨_, mem_nodeHashes.mpr ⟨hne _ hcurrent.2, .inl rfl⟩, hcurrent.2⟩
  · split at h
    · rename_i hprevious
      exact ⟨_, mem_nodeHashes.mpr ⟨hne _ hprevious.2, .inr rfl⟩, hprevious.2⟩
    · cases h

/-- One hash has one node. -/
theorem ValidGraph.node_of_hash (hv : ValidGraph s) {m : Node} (hn : n ∈ s.nodes) (hm : m ∈ s.nodes)
    (hhn : hash ∈ nodeHashes n) (hhm : hash ∈ nodeHashes m) : n = m := by
  by_contra hne
  have hsymm : Std.Symm fun a b : Node => List.Disjoint (nodeHashes a) (nodeHashes b) :=
    ⟨fun _ _ h => h.symm⟩
  have hapart : s.nodes.Pairwise fun a b => List.Disjoint (nodeHashes a) (nodeHashes b) :=
    hv.nodesApart.imp fun hab x ha hb => hab.hashes x hb ha
  exact hapart.forall hn hm hne hhn hhm

/-- What one hash matches, at whatever instants, is one node. -/
theorem ValidGraph.node_of_match (hv : ValidGraph s) {m : Node} (hn : n ∈ s.nodes) (hm : m ∈ s.nodes)
    {t t' : Int} (hmn : (agentCredentialMatch n hash t).1 = true)
    (hmm : (agentCredentialMatch m hash t').1 = true) : n = m := by
  obtain ⟨a, ha, haeq⟩ := hash_of_agentCredentialMatch hmn
  obtain ⟨b, hb, hbeq⟩ := hash_of_agentCredentialMatch hmm
  have hab : a = b := (tokenHashEqual_iff (validTokenHash_of_mem_nodeHashes hv hn ha)
    (validTokenHash_of_mem_nodeHashes hv hm hb)).mp (tokenHashEqual_of_both haeq hbeq)
  exact hv.node_of_hash hn hm ha (hab ▸ hb)

/-! ## The three domains -/

/-- The hashes of current credentials and of those before them. -/
def credentialHashes (s : State) : Set String := {hash | ∃ n ∈ s.nodes, hash ∈ nodeHashes n}

def unusedEnrollmentHashes (s : State) : Set String :=
  {hash | ∃ e ∈ s.enrollments, e.usedAt = none ∧ e.tokenHash = hash}

def recoveryHashes (s : State) : Set String := {hash | ∃ r ∈ s.agentRecoveries, r.tokenHash = hash}

theorem ValidGraph.credential_enrollment_disjoint (hv : ValidGraph s) :
    Disjoint (credentialHashes s) (unusedEnrollmentHashes s) := by
  rw [Set.disjoint_left]
  rintro hash ⟨n, hn, hhash⟩ ⟨e, he, -, rfl⟩
  exact (hv.enrollments e he).unused n hn hhash

theorem ValidGraph.credential_recovery_disjoint (hv : ValidGraph s) :
    Disjoint (credentialHashes s) (recoveryHashes s) := by
  rw [Set.disjoint_left]
  rintro hash ⟨n, hn, hhash⟩ ⟨r, hr, rfl⟩
  obtain ⟨owner, hpassed⟩ := hv.recoveries r hr
  exact hpassed.unused.nodes n hn hhash

theorem ValidGraph.enrollment_recovery_disjoint (hv : ValidGraph s) :
    Disjoint (unusedEnrollmentHashes s) (recoveryHashes s) := by
  rw [Set.disjoint_left]
  rintro hash ⟨e, he, -, rfl⟩ ⟨r, hr, heq⟩
  obtain ⟨owner, hpassed⟩ := hv.recoveries r hr
  exact hpassed.unused.enrollments e he heq.symm

/-- In every state the service reaches, a bearer hash matches one node at most, and credentials, unused
enrolment tokens and recovery tokens have no hash in common. -/
theorem authentication_unambiguous {env : Env} {w : World} (hr : World.Reachable env w) :
    (∀ hash now, ∀ n ∈ w.state.nodes, ∀ m ∈ w.state.nodes,
      (agentCredentialMatch n hash now).1 = true → (agentCredentialMatch m hash now).1 = true → n = m) ∧
    Disjoint (credentialHashes w.state) (unusedEnrollmentHashes w.state) ∧
    Disjoint (credentialHashes w.state) (recoveryHashes w.state) ∧
    Disjoint (unusedEnrollmentHashes w.state) (recoveryHashes w.state) := by
  have hv := (World.sound hr).valid
  refine ⟨?_, hv.credential_enrollment_disjoint, hv.credential_recovery_disjoint,
    hv.enrollment_recovery_disjoint⟩
  intro hash now n hn m hm hmn hmm
  exact hv.node_of_match hn hm hmn hmm

/-- The member whose recovery is under way is the only node its bearer stands for. -/
theorem authentication_unambiguous_recovery :
    ∃ w n, World.Reachable Setting.env w ∧ n ∈ w.state.nodes ∧ n.id = "n2" ∧
      (agentCredentialMatch n (hashToken (Setting.bytes32 102)) (Setting.minutes 9)).1 = true ∧
      (∀ m ∈ w.state.nodes,
        (agentCredentialMatch m (hashToken (Setting.bytes32 102)) (Setting.minutes 9)).1 = true → m = n) ∧
      hashToken (Setting.bytes32 102) ∉ recoveryHashes w.state := by
  obtain ⟨w, w', v, generation, hash, hr, -, -, ⟨n, hn, hid, hauth⟩, -⟩ := recovery_run
  obtain ⟨hone, -, hrecovery, -⟩ := authentication_unambiguous hr
  have hown := World.hash_of_authenticates (World.sound hr) hn hauth
  simp only [authenticates, Bool.and_eq_true] at hauth
  refine ⟨w, n, hr, hn, hid, hauth.2, fun m hm hmatch => hone _ _ m hm n hn hmatch hauth.2, ?_⟩
  refine Set.disjoint_left.mp hrecovery ⟨n, hn, mem_nodeHashes.mpr ⟨World.hashToken_ne_empty _, ?_⟩⟩
  exact hown.imp Eq.symm Eq.symm

end Mesh
