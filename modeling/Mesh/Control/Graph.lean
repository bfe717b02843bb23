import Mesh.Control.Validate

/-!
# Mesh.Control.Graph

What it means that a state passes the graph validator. For each list of records the validator's loop
is split into what it asks of one record and what it asks of two, and `validateStateGraph_eq_ok`
collects the parts in the structure `ValidGraph`. Nothing below this module unfolds the loops again.
-/

namespace Mesh

variable {s : State}

/-! ## Networks -/

structure NetworkPassed (s : State) (w : Network) : Prop where
  id : validPersistedID w.id = true
  name : namePattern w.name = true
  record : validateNetworkRecord s w = .ok ()

structure NetworksApart (a b : Network) : Prop where
  id : a.id ≠ b.id
  name : toLower a.name ≠ toLower b.name
  cidr : cidrsOverlap a.cidr b.cidr = false

variable {seen : List AgentRecoveryToken} {w : Network} {hash : String} {n : Node}

theorem validateNetworkEntry_eq_ok {s : State} {seen : List Network} :
    validateNetworkEntry s seen w = .ok () ↔ NetworkPassed s w ∧ ∀ a ∈ seen, NetworksApart a w := by
  simp only [validateNetworkEntry, bind_unit_eq_ok, reject_eq_ok, rejectFound_eq_ok, List.any_eq_true,
    decide_eq_true_eq, List.find?_eq_none, not_exists, not_and, not_or, Decidable.not_not]
  constructor
  · rintro ⟨⟨hid, hname⟩, hids, hnames, hrec, hcidr⟩
    exact ⟨⟨hid, hname, hrec⟩, fun a ha => ⟨hids a ha, hnames a ha, by simpa using hcidr a ha⟩⟩
  · rintro ⟨⟨hid, hname, hrec⟩, hs⟩
    exact ⟨⟨hid, hname⟩, fun a ha => (hs a ha).id, fun a ha => (hs a ha).name, hrec,
      fun a ha => by simpa using (hs a ha).cidr⟩

/-! ## Nodes -/

/-- The credential hashes a node has. -/
def nodeHashes (n : Node) : List String := (nodeCredentialHashes n).map Prod.fst

theorem lookup_eq_none_iff {taken : CredentialHashes} : taken.lookup hash = none ↔ hash ∉ taken.map Prod.fst := by
  rw [List.lookup_eq_none_iff]
  simp only [List.mem_map, not_exists, not_and, bne_iff_ne, ne_eq]
  exact ⟨fun h p hp he => h p hp he.symm, fun h p hp he => h p hp he.symm⟩

@[simp] theorem map_fst_nodeHashOwners (n : Node) : (nodeHashOwners n).map Prod.fst = nodeHashes n := by
  simp [nodeHashOwners, nodeHashes, Function.comp_def]

theorem lookup_append_eq_none {a b : CredentialHashes} :
    (a ++ b).lookup hash = none ↔ a.lookup hash = none ∧ b.lookup hash = none := by
  simp only [lookup_eq_none_iff, List.map_append, List.mem_append, not_or]

theorem lookup_map_eq_none {α : Type} {owner : α → String × String} {xs : List α} :
    (xs.map owner).lookup hash = none ↔ ∀ x ∈ xs, (owner x).1 ≠ hash := by
  simp only [lookup_eq_none_iff, List.map_map, List.mem_map, Function.comp, not_exists, not_and, ne_eq]

theorem mem_nodeHashOwners_flatMap {ns : List Node} :
    hash ∈ (ns.flatMap nodeHashOwners).map Prod.fst ↔ ∃ n ∈ ns, hash ∈ nodeHashes n := by
  simp only [List.map_flatMap, map_fst_nodeHashOwners, List.mem_flatMap]

theorem lookup_nodeHashOwners_eq_none {ns : List Node} :
    (ns.flatMap nodeHashOwners).lookup hash = none ↔ ∀ n ∈ ns, hash ∉ nodeHashes n := by
  simp only [lookup_eq_none_iff, mem_nodeHashOwners_flatMap, not_exists, not_and]

theorem checkNodeHashes_eq_ok {hashes : CredentialHashes} :
    ∀ {taken : CredentialHashes}, checkNodeHashes n taken hashes = .ok () ↔
      (∀ h ∈ hashes.map Prod.fst, validTokenHash h = true) ∧ (hashes.map Prod.fst).Nodup ∧
        ∀ h ∈ hashes.map Prod.fst, h ∉ taken.map Prod.fst := by
  induction hashes with
  | nil => intro taken; simp [checkNodeHashes]
  | cons p hashes ih =>
    intro taken
    obtain ⟨hash, slot⟩ := p
    simp only [checkNodeHashes, bind_unit_eq_ok, reject_eq_ok, rejectFound_eq_ok, lookup_eq_none_iff, ih,
      List.map_cons, List.mem_cons, List.nodup_cons, forall_eq_or_imp, not_or, Decidable.not_not]
    grind

structure NodePassed (s : State) (n : Node) : Prop where
  id : validPersistedID n.id = true
  name : namePattern n.name = true
  record : ∃ w, findNetwork s n.networkID = some w ∧ validateNodeRecord s w n = .ok ()
  created : n.createdAt ≠ 0
  hashes : ∀ h ∈ nodeHashes n, validTokenHash h = true
  hashesDistinct : (nodeHashes n).Nodup

structure NodesApart (a b : Node) : Prop where
  id : a.id ≠ b.id
  address : a.networkID = b.networkID → nodeAddress a ≠ nodeAddress b
  hashes : ∀ h ∈ nodeHashes b, h ∉ nodeHashes a

theorem validateNodeEntry_eq_ok {s : State} {seen : List Node} :
    validateNodeEntry s seen n = .ok () ↔ NodePassed s n ∧ ∀ a ∈ seen, NodesApart a n := by
  simp only [validateNodeEntry, bind_eq_ok, exists_unit, reject_eq_ok, require_eq_ok,
    rejectFound_eq_ok, checkNodeHashes_eq_ok, List.any_eq_true, decide_eq_true_eq, List.find?_eq_none,
    mem_nodeHashOwners_flatMap, not_exists, not_and, not_or, Decidable.not_not]
  constructor
  · rintro ⟨w, hw, ⟨hid, hname⟩, hids, hrec, haddr, hcreated, hvalid, hnodup, htaken⟩
    exact ⟨⟨hid, hname, ⟨w, hw, hrec⟩, hcreated, hvalid, hnodup⟩,
      fun a ha => ⟨hids a ha, haddr a ha, fun h hh => htaken h hh a ha⟩⟩
  · rintro ⟨⟨hid, hname, ⟨w, hw, hrec⟩, hcreated, hvalid, hnodup⟩, hs⟩
    exact ⟨w, hw, ⟨hid, hname⟩, fun a ha => (hs a ha).id, hrec, fun a ha => (hs a ha).address, hcreated,
      hvalid, hnodup, fun h hh a ha => (hs a ha).hashes h hh⟩

/-! ## Enrollments -/

structure EnrollmentPassed (s : State) (e : EnrollmentToken) : Prop where
  id : validPersistedID e.id = true
  tokenHash : validTokenHash e.tokenHash = true
  created : e.createdAt ≠ 0
  lifetime : e.createdAt < e.expiresAt
  claim : validatePersistedEnrollmentClaim e = .ok ()
  node : findNode s e.nodeID ≠ none
  unused : ∀ n ∈ s.nodes, e.tokenHash ∉ nodeHashes n

structure EnrollmentsApart (a b : EnrollmentToken) : Prop where
  id : a.id ≠ b.id
  tokenHash : a.tokenHash ≠ b.tokenHash

theorem validateEnrollmentEntry_eq_ok {s : State} {seen : List EnrollmentToken} {e : EnrollmentToken} :
    validateEnrollmentEntry s seen e = .ok () ↔
      EnrollmentPassed s e ∧ ∀ a ∈ seen, EnrollmentsApart a e := by
  simp only [validateEnrollmentEntry, bind_unit_eq_ok, reject_eq_ok, rejectFound_eq_ok, mapError_eq_ok,
    lookup_append_eq_none, lookup_nodeHashOwners_eq_none, lookup_map_eq_none, List.any_eq_true,
    decide_eq_true_eq, enrollmentHashOwner, not_exists, not_and, not_or, Decidable.not_not]
  constructor
  · rintro ⟨⟨hid, hhash, hcreated, hlife⟩, hclaim, hnode, hids, hnodes, hseen⟩
    exact ⟨⟨hid, hhash, hcreated, hlife, hclaim, hnode, hnodes⟩, fun a ha => ⟨hids a ha, hseen a ha⟩⟩
  · rintro ⟨⟨hid, hhash, hcreated, hlife, hclaim, hnode, hnodes⟩, hs⟩
    exact ⟨⟨hid, hhash, hcreated, hlife⟩, hclaim, hnode, fun a ha => (hs a ha).id, hnodes,
      fun a ha => (hs a ha).tokenHash⟩

/-! ## Recoveries -/

/-- The hash is a credential of the node. -/
def OwnsHash (n : Node) (hash : String) : Prop :=
  tokenHashEqual n.agentTokenHash hash = true ∨ tokenHashEqual n.previousAgentTokenHash hash = true

/-- No node and no enrollment has the hash. -/
structure HashUnused (s : State) (hash : String) : Prop where
  nodes : ∀ n ∈ s.nodes, hash ∉ nodeHashes n
  enrollments : ∀ e ∈ s.enrollments, e.tokenHash ≠ hash

theorem credentialHashOwner_eq_none {s : State} :
    credentialHashOwner s seen hash = none ↔ HashUnused s hash ∧ ∀ r ∈ seen, r.tokenHash ≠ hash := by
  simp only [credentialHashOwner, lookup_append_eq_none, lookup_nodeHashOwners_eq_none,
    lookup_map_eq_none, enrollmentHashOwner, recoveryHashOwner]
  exact ⟨fun ⟨⟨h1, h2⟩, h3⟩ => ⟨⟨h1, h2⟩, h3⟩, fun ⟨⟨h1, h2⟩, h3⟩ => ⟨⟨h1, h2⟩, h3⟩⟩

/-- What the validator asks of a used recovery of a node, apart from the other recoveries. -/
structure UsedRecoveryPassed (s : State) (n : Node) (r : AgentRecoveryToken) (usedAt : Int)
    (w : Network) (b : AgentRecoveryBundle) : Prop where
  claimed : ∃ claimedAt, r.claimedAt = some claimedAt ∧ claimedAt ≤ usedAt
  result : r.result = some b
  inTime : usedAt ≤ r.expiresAt
  generation : r.credentialGeneration = inc64 r.claimedCredentialGeneration
  generationLe : r.credentialGeneration ≤ n.agentCredentialGeneration
  lifetime : ∃ expiresAt, r.credentialExpiresAt = some expiresAt ∧ usedAt < expiresAt ∧
    expiresAt ≤ usedAt + agentCredentialLifetime
  network : findNetwork s n.networkID = some w
  answered : recoveryResultMatches s w n r b = true
  material : validatePersistedRecoveryResultMaterial b w = .ok ()
  signed : verifyConfig b.configSigningPublicKey b.signatureMetadata b.config b.configSHA256
    b.configSignature = .ok ()
  receipt : recoveryReceiptMatches b = true
  receiptSigned : verifyRecoveryReceipt b.configSigningPublicKey b.recoveryReceipt = .ok ()
  hash : OwnsHash n b.recoveryReceipt.newAgentTokenHash ∨
    (HashUnused s b.recoveryReceipt.newAgentTokenHash ∧
      r.tokenHash ≠ b.recoveryReceipt.newAgentTokenHash)
  current : r.credentialGeneration = n.agentCredentialGeneration →
    n.agentCredentialExpiresAt = r.credentialExpiresAt ∧
      tokenHashEqual n.agentTokenHash b.recoveryReceipt.newAgentTokenHash = true

/-- What an earlier recovery may not have in common with a used one. -/
def RecoveredApart (a : AgentRecoveryToken) (n : Node) (b : AgentRecoveryBundle) : Prop :=
  recoveredHash a ≠ some b.recoveryReceipt.newAgentTokenHash ∧
    (OwnsHash n b.recoveryReceipt.newAgentTokenHash ∨
      a.tokenHash ≠ b.recoveryReceipt.newAgentTokenHash)

theorem validateUsedRecovery_eq_ok {s : State} {r : AgentRecoveryToken} {usedAt : Int} :
    validateUsedRecovery s seen n r usedAt = .ok () ↔
      ∃ w b, UsedRecoveryPassed s n r usedAt w b ∧ ∀ a ∈ seen, RecoveredApart a n b := by
  simp only [validateUsedRecovery, bind_eq_ok, exists_unit, reject_eq_ok, require_eq_ok,
    rejectFound_eq_ok, mapError_eq_ok, List.find?_eq_none, decide_eq_true_eq]
  constructor
  · rintro ⟨claimedAt, hclaimed, expiresAt, hexp, b, hb, hlife, w, hw, hmatch, hmat, hsig, hrec, hrsig,
      hseen, howner, hcur⟩
    simp only [not_or, not_lt, Decidable.not_not, ne_eq] at hlife
    obtain ⟨h1, h2, h3, h4, h5, h6⟩ := hlife
    have hown : OwnsHash n b.recoveryReceipt.newAgentTokenHash ∨
        credentialHashOwner s (r :: seen) b.recoveryReceipt.newAgentTokenHash = none := by
      simp only [OwnsHash]
      by_contra hc
      simp only [not_or] at hc
      exact howner ⟨Option.isSome_iff_ne_none.mpr hc.2, hc.1.1, hc.1.2⟩
    rw [credentialHashOwner_eq_none] at hown
    refine ⟨w, b, ⟨⟨claimedAt, hclaimed, h1⟩, hb, h2, h3, h4, ⟨expiresAt, hexp, not_le.mp h5, h6⟩, hw,
      by simpa using hmatch, hmat, hsig, by simpa using hrec, hrsig, ?_, ?_⟩, ?_⟩
    · exact hown.imp_right fun h => ⟨h.1, h.2 r List.mem_cons_self⟩
    · intro hg
      rw [hexp]
      by_contra hc
      exact hcur ⟨hg, by tauto⟩
    · intro a ha
      exact ⟨by simpa using hseen a ha, hown.imp_right fun h => h.2 a (List.mem_cons_of_mem _ ha)⟩
  · rintro ⟨w, b, ⟨⟨claimedAt, hclaimed, h1⟩, hb, h2, h3, h4, ⟨expiresAt, hexp, h5, h6⟩, hw, hmatch, hmat,
      hsig, hrec, hrsig, hhash, hcur⟩, hseen⟩
    refine ⟨claimedAt, hclaimed, expiresAt, hexp, b, hb, ?_, w, hw, by simpa using hmatch, hmat, hsig,
      by simpa using hrec, hrsig, fun a ha => by simpa using (hseen a ha).1, ?_, ?_⟩
    · simp only [not_or, not_lt, Decidable.not_not]
      exact ⟨h1, h2, h3, h4, not_le.mpr h5, h6⟩
    · rintro ⟨hsome, hn1, hn2⟩
      refine Option.isSome_iff_ne_none.mp hsome ?_
      have hno : ¬ OwnsHash n b.recoveryReceipt.newAgentTokenHash := by
        rintro (h | h)
        · exact hn1 h
        · exact hn2 h
      obtain ⟨hu, hr⟩ := hhash.resolve_left hno
      refine credentialHashOwner_eq_none.mpr ⟨hu, fun a ha => ?_⟩
      rcases List.mem_cons.mp ha with rfl | ha
      · exact hr
      · exact (hseen a ha).2.resolve_left hno
    · rintro ⟨hg, hne⟩
      obtain ⟨he, hh⟩ := hcur hg
      rw [hexp] at he
      exact hne.elim (fun h => h he) (fun h => h hh)

/-- The node a recovery may be for. -/
def RecoveryNode (s : State) (r : AgentRecoveryToken) (n : Node) : Prop :=
  findNode s r.nodeID = some n ∧ n.status = .active ∧ n.enrolledAt ≠ none ∧ n.revokedAt = none

structure RecoveryPassed (s : State) (r : AgentRecoveryToken) (n : Node) : Prop where
  id : validPersistedID r.id = true
  tokenHash : validTokenHash r.tokenHash = true
  created : r.createdAt ≠ 0
  lifetime : r.createdAt < r.expiresAt
  lifetimeLe : r.expiresAt - r.createdAt ≤ agentRecoveryLifetime
  node : RecoveryNode s r n
  enrollments : ∀ e ∈ s.enrollments, e.id ≠ r.id
  unused : HashUnused s r.tokenHash
  claim : validateRecoveryClaim r = .ok ()
  unusedResult : r.usedAt = none →
    r.credentialGeneration = 0 ∧ r.credentialExpiresAt = none ∧ r.result = none
  usedResult : ∀ usedAt, r.usedAt = some usedAt → ∃ w b, UsedRecoveryPassed s n r usedAt w b

structure RecoveriesApart (s : State) (a r : AgentRecoveryToken) : Prop where
  id : a.id ≠ r.id
  tokenHash : a.tokenHash ≠ r.tokenHash
  recovered : r.usedAt ≠ none → ∀ n b, findNode s r.nodeID = some n → r.result = some b →
    RecoveredApart a n b

theorem validateRecoveryEntry_eq_ok {s : State} {r : AgentRecoveryToken} :
    validateRecoveryEntry s seen r = .ok () ↔
      (∃ n, RecoveryPassed s r n) ∧ ∀ a ∈ seen, RecoveriesApart s a r := by
  simp only [validateRecoveryEntry, bind_eq_ok, exists_unit, reject_eq_ok, require_eq_ok,
    rejectFound_eq_ok, credentialHashOwner_eq_none, Option.filter_eq_some_iff, List.any_eq_true,
    decide_eq_true_eq, not_exists, not_and, not_or, not_lt, Decidable.not_not]
  constructor
  · rintro ⟨⟨hid, hhash, hcreated, hlife, hlife'⟩, n, hn, hids, henr, hhashes, ⟨hunused, hseen⟩, hclaim,
      hused⟩
    cases hu : r.usedAt with
    | none =>
      simp only [hu, reject_eq_ok, not_or, Decidable.not_not] at hused
      obtain ⟨h1, h2, h3⟩ := hused
      refine ⟨⟨n, hid, hhash, hcreated, not_le.mp hlife, hlife', hn, henr, hunused, hclaim,
        fun _ => ⟨h1, h2, by simpa using h3⟩, fun t ht => (by rw [hu] at ht; cases ht)⟩, fun a ha => ?_⟩
      exact ⟨hids a ha, hhashes a ha, fun h => absurd hu h⟩
    | some usedAt =>
      simp only [hu, validateUsedRecovery_eq_ok] at hused
      obtain ⟨w, b, hp, hs⟩ := hused
      refine ⟨⟨n, hid, hhash, hcreated, not_le.mp hlife, hlife', hn, henr, hunused, hclaim,
        fun h => (by rw [hu] at h; cases h), fun t ht => ?_⟩, fun a ha => ?_⟩
      · rw [hu, Option.some.injEq] at ht
        exact ⟨w, b, ht ▸ hp⟩
      · refine ⟨hids a ha, hhashes a ha, fun _ n' b' hn' hb' => ?_⟩
        rw [hn.1, Option.some.injEq] at hn'
        rw [hp.result, Option.some.injEq] at hb'
        exact hn' ▸ hb' ▸ hs a ha
  · rintro ⟨⟨n, hp⟩, hs⟩
    refine ⟨⟨hp.id, hp.tokenHash, hp.created, not_le.mpr hp.lifetime, hp.lifetimeLe⟩, n, hp.node,
      fun a ha => (hs a ha).id, hp.enrollments, fun a ha => (hs a ha).tokenHash,
      ⟨hp.unused, fun a ha => (hs a ha).tokenHash⟩, hp.claim, ?_⟩
    cases hu : r.usedAt with
    | none =>
      obtain ⟨h1, h2, h3⟩ := hp.unusedResult hu
      simp [h1, h2, h3]
    | some usedAt =>
      obtain ⟨w, b, hup⟩ := hp.usedResult usedAt hu
      exact validateUsedRecovery_eq_ok.mpr ⟨w, b, hup, fun a ha =>
        (hs a ha).recovered (by simp [hu]) n b hp.node.1 hup.result⟩

/-! ## Receipts -/

theorem validateReceipts_eq_ok {ρ : Type} {action label duplicateLabel : String}
    {parse : AuditEvent → Result (ρ × Int)} :
    validateReceipts action label duplicateLabel parse s = .ok () ↔
      (∀ e ∈ actionEvents action s, ∃ r, parse e = .ok r) ∧
        (actionEvents action s).Pairwise fun a b => a.requestID? ≠ b.requestID? := by
  refine checkSeen_nil_eq_ok fun seen e => ?_
  simp only [bind_eq_ok, mapError_eq_ok, reject_eq_ok, List.any_eq_true, beq_iff_eq, not_exists, not_and,
    exists_and_right, ne_eq]

structure TombstonePassed (s : State) (e : AuditEvent) : Prop where
  resource : e.resource = "node"
  id : validPersistedID e.resourceID = true
  gone : findNode s e.resourceID = none
  record : validateArchivedNodeTombstone e = .ok ()

theorem validateArchivedNodeTombstones_eq_ok :
    validateArchivedNodeTombstones s = .ok () ↔
      (∀ e ∈ actionEvents nodeArchivedAuditAction s, TombstonePassed s e) ∧
        (actionEvents nodeArchivedAuditAction s).Pairwise fun a b => a.resourceID ≠ b.resourceID := by
  refine checkSeen_nil_eq_ok fun seen e => ?_
  simp only [bind_unit_eq_ok, mapError_eq_ok, reject_eq_ok, List.any_eq_true, beq_iff_eq, not_exists, not_and,
    not_or, Decidable.not_not, Option.not_isSome_iff_eq_none]
  constructor
  · rintro ⟨⟨h1, h2⟩, h3, h4, h5⟩
    exact ⟨⟨h1, h2, h4, h5⟩, h3⟩
  · rintro ⟨⟨h1, h2, h4, h5⟩, h3⟩
    exact ⟨⟨h1, h2⟩, h3, h4, h5⟩

/-- The event of a retired network that stands against no network of the state. -/
def RetirementPassed (s : State) (e : AuditEvent) : Prop :=
  ∃ r, parseRetiredNetworkReservation e = .ok r ∧ ∀ w ∈ s.networks, r.clashes w.id w.name w.cidr = false

def RetirementsApart (a b : AuditEvent) : Prop :=
  ∀ r, parseRetiredNetworkReservation b = .ok r → retiredReservationClashes a r = false

theorem validateRetiredNetworkReservations_eq_ok :
    validateRetiredNetworkReservations s = .ok () ↔
      (∀ e ∈ actionEvents networkRetiredAuditAction s, RetirementPassed s e) ∧
        (actionEvents networkRetiredAuditAction s).Pairwise RetirementsApart := by
  refine checkSeen_nil_eq_ok fun seen e => ?_
  simp only [bind_eq_ok, exists_unit, checkAll_eq_ok, reject_eq_ok, Bool.not_eq_true, List.any_eq_false]
  constructor
  · rintro ⟨r, hr, hnets, hseen⟩
    refine ⟨⟨r, hr, hnets⟩, fun a ha r' hr' => ?_⟩
    rw [hr, Except.ok.injEq] at hr'
    exact hr' ▸ hseen a ha
  · rintro ⟨⟨r, hr, hnets⟩, hseen⟩
    exact ⟨r, hr, hnets, fun a ha => hseen a ha r hr⟩

/-! ## The whole graph -/

structure ValidGraph (s : State) : Prop where
  version : validateStateVersion s = .ok ()
  networks : ∀ w ∈ s.networks, NetworkPassed s w
  networksApart : s.networks.Pairwise NetworksApart
  nodes : ∀ n ∈ s.nodes, NodePassed s n
  nodesApart : s.nodes.Pairwise NodesApart
  firewall : ∀ w ∈ s.networks, validateFirewallReferences s w = .ok ()
  enrollments : ∀ e ∈ s.enrollments, EnrollmentPassed s e
  enrollmentsApart : s.enrollments.Pairwise EnrollmentsApart
  recoveries : ∀ r ∈ s.agentRecoveries, ∃ n, RecoveryPassed s r n
  recoveriesApart : s.agentRecoveries.Pairwise (RecoveriesApart s)
  issuances : ∀ i ∈ s.issuances, validateIssuance s i = .ok ()
  revocations : ∀ r ∈ s.revocations, validateRevocation s r = .ok ()
  reservations : validateReservedIPv4PrefixGraph s = .ok ()
  audit : ∀ e ∈ s.audit, validateAuditEvent e = .ok ()
  auditApart : s.audit.Pairwise fun a b => a.id ≠ b.id
  retired : validateRetiredNetworkReservations s = .ok ()
  archived : validateArchivedNodeTombstones s = .ok ()
  rotations : validateNodeCertificateRotationAudits s = .ok ()
  groups : validateNodeGroupAudits s = .ok ()
  nodeRevocations : validateNodeRevocationAudits s = .ok ()

theorem validateAuditEntry_eq_ok {seen : List AuditEvent} {e : AuditEvent} :
    validateAuditEntry seen e = .ok () ↔ validateAuditEvent e = .ok () ∧ ∀ a ∈ seen, a.id ≠ e.id := by
  simp only [validateAuditEntry, bind_unit_eq_ok, reject_eq_ok, List.any_eq_true, decide_eq_true_eq,
    not_exists, not_and]

/-- A state passes the validator exactly when its graph is valid. -/
theorem validateStateGraph_eq_ok {s : State} : validateStateGraph s = .ok () ↔ ValidGraph s := by
  have hnetworks : checkSeen (validateNetworkEntry s) [] s.networks = .ok () ↔
      (∀ w ∈ s.networks, NetworkPassed s w) ∧ s.networks.Pairwise NetworksApart :=
    checkSeen_nil_eq_ok (P := NetworkPassed s) (R := NetworksApart) fun _ _ => validateNetworkEntry_eq_ok
  have hnodes : checkSeen (validateNodeEntry s) [] s.nodes = .ok () ↔
      (∀ n ∈ s.nodes, NodePassed s n) ∧ s.nodes.Pairwise NodesApart :=
    checkSeen_nil_eq_ok (P := NodePassed s) (R := NodesApart) fun _ _ => validateNodeEntry_eq_ok
  have henrollments : checkSeen (validateEnrollmentEntry s) [] s.enrollments = .ok () ↔
      (∀ e ∈ s.enrollments, EnrollmentPassed s e) ∧ s.enrollments.Pairwise EnrollmentsApart :=
    checkSeen_nil_eq_ok (P := EnrollmentPassed s) (R := EnrollmentsApart)
      fun _ _ => validateEnrollmentEntry_eq_ok
  have hrecoveries : checkSeen (validateRecoveryEntry s) [] s.agentRecoveries = .ok () ↔
      (∀ r ∈ s.agentRecoveries, ∃ n, RecoveryPassed s r n) ∧
        s.agentRecoveries.Pairwise (RecoveriesApart s) :=
    checkSeen_nil_eq_ok (P := fun r => ∃ n, RecoveryPassed s r n) (R := RecoveriesApart s)
      fun _ _ => validateRecoveryEntry_eq_ok
  have haudit : checkSeen validateAuditEntry [] s.audit = .ok () ↔
      (∀ e ∈ s.audit, validateAuditEvent e = .ok ()) ∧ s.audit.Pairwise fun a b => a.id ≠ b.id :=
    checkSeen_nil_eq_ok (P := fun e => validateAuditEvent e = .ok ()) (R := fun a b => a.id ≠ b.id)
      fun _ _ => validateAuditEntry_eq_ok
  simp only [validateStateGraph, bind_unit_eq_ok, mapError_eq_ok, checkAll_eq_ok, hnetworks, hnodes,
    henrollments, hrecoveries, haudit]
  constructor
  · rintro ⟨h1, ⟨h2, h3⟩, ⟨h4, h5⟩, h6, ⟨h7, h8⟩, ⟨h9, h10⟩, h11, h12, h13, ⟨h14, h15⟩, h16, h17, h18,
      h19, h20⟩
    exact ⟨h1, h2, h3, h4, h5, h6, h7, h8, h9, h10, h11, h12, h13, h14, h15, h16, h17, h18, h19, h20⟩
  · rintro ⟨h1, h2, h3, h4, h5, h6, h7, h8, h9, h10, h11, h12, h13, h14, h15, h16, h17, h18, h19, h20⟩
    exact ⟨h1, ⟨h2, h3⟩, ⟨h4, h5⟩, h6, ⟨h7, h8⟩, ⟨h9, h10⟩, h11, h12, h13, ⟨h14, h15⟩, h16, h17, h18,
      h19, h20⟩

/-! ## Records at the current version -/

/-- The state has the schema the service runs with. -/
def Current (s : State) : Prop := s.version = controlStateVersionFirewallScopes

/-- The checks of one network, at the current version. -/
structure NetworkRecord (s : State) (w : Network) : Prop where
  cidr : validRetiredNetworkCIDR w.cidr = true
  listenPort : 1 ≤ w.listenPort ∧ w.listenPort ≤ 65535
  certificateTTL : 24 ≤ w.certificateTTL ∧ w.certificateTTL ≤ 8760
  revision : 1 ≤ w.configRevision
  created : w.createdAt ≠ 0
  updated : w.configUpdatedAt ≠ 0
  authority : trimSpace w.caCertificate ≠ "" ∧ trimSpace w.encryptedCAKey ≠ ""
  material : validatePersistedNetworkMaterial w = .ok ()
  policy : validateStoredFirewallPolicy w.firewallPolicy w.cidr = .ok ()
  dns : validateNetworkDNSInvariant w = .ok ()
  relays : validateNetworkRelaySettings s w = .ok ()
  rotation : validateNetworkCARotation w = .ok ()
  rollout : validateNetworkFirewallRollout s w = .ok ()
  transfer : validateNetworkRouteTransfer s w = .ok ()
  edit : validateNetworkRouteProfileEdit s w = .ok ()
  policies : validateNetworkRoutePolicies s w = .ok ()

theorem sinceVersion_current (hc : Current s) {v : Int} {absent : Prop} [Decidable absent]
    {early : Failure} {check : Result Unit} (hle : v ≤ controlStateVersionFirewallScopes) :
    sinceVersion s v absent early check = check := by
  unfold sinceVersion
  rw [if_neg (by rw [hc]; omega)]

theorem validateNetworkRecord_eq_ok (hc : Current s) : validateNetworkRecord s w = .ok () ↔ NetworkRecord s w := by
  have hscopes : ¬ s.version < controlStateVersionFirewallScopes := by rw [hc]; omega
  simp only [validateNetworkRecord, bind_unit_eq_ok, mapError_eq_ok, reject_eq_ok,
    sinceVersion_current hc (v := controlStateVersionNetworkDNS) (by decide),
    sinceVersion_current hc (v := controlStateVersionNetworkRelays) (by decide),
    sinceVersion_current hc (v := controlStateVersionCARotation) (by decide),
    sinceVersion_current hc (v := controlStateVersionFirewallRollout) (by decide),
    sinceVersion_current hc (v := controlStateVersionRouteTransfer) (by decide),
    sinceVersion_current hc (v := controlStateVersionRouteProfileEdit) (by decide),
    sinceVersion_current hc (v := controlStateVersionRoutePolicies) (by decide),
    hscopes, false_and, not_false_eq_true, true_and, not_or, not_lt, Decidable.not_not]
  constructor
  · rintro ⟨h1, ⟨h2, h3, h4, h5, h6, h7, h8⟩, h9, h10, h11, h12, h13, h14, h15, h16, h17, h18⟩
    exact ⟨h1, ⟨h2, h3⟩, ⟨h4, h5⟩, h6, h7, h8, h9, h10, h11, h12, h13, h14, h15, h16, h17, h18⟩
  · rintro ⟨h1, ⟨h2, h3⟩, ⟨h4, h5⟩, h6, h7, h8, h9, h10, h11, h12, h13, h14, h15, h16, h17, h18⟩
    exact ⟨h1, ⟨h2, h3, h4, h5, h6, h7, h8⟩, h9, h10, h11, h12, h13, h14, h15, h16, h17, h18⟩

/-- The checks of one node, at the current version. -/
structure NodeRecord (w : Network) (n : Node) : Prop where
  groups : validCanonicalNodeGroups n.groups = true
  subnets : validateCanonicalRoutedSubnets n.routedSubnets = .ok ()
  topology : validTopologyLabel n.site = true ∧ validTopologyLabel n.failureDomain = true
  endpoint : n.publicEndpoint ≠ "" → validateEndpoint n.publicEndpoint = .ok ()
  certificate : validBoundedUTF8 n.certificate maxNebulaHostCertificateSize true = true
  generations : 0 ≤ n.certificateGeneration ∧ 0 ≤ n.appliedCertificateGeneration ∧
    n.appliedCertificateGeneration ≤ n.certificateGeneration ∧ 0 ≤ n.agentCredentialGeneration
  authority : if n.certificate = "" then n.certificateAuthoritySHA256 = ""
    else fingerprintPattern n.certificateAuthoritySHA256 = true
  claim : (n.renewalClaimID = "" ∧ n.renewalClaimedAt = none) ∨
    (n.renewalClaimID ≠ "" ∧ n.renewalClaimedAt ≠ none ∧ validPersistedID n.renewalClaimID = true ∧
      n.renewalClaimedAt ≠ some 0)
  telemetry : validatePersistedNodeTelemetry n w = .ok ()
  previous : n.previousAgentTokenHash = "" ↔ n.previousAgentTokenExpiresAt = none
  status : validateNodeStatus n = .ok ()
  address : ((nodeAddress n).any fun a => (Address.parseCIDR4 w.cidr).any fun c => c.2.contains a) = true

theorem claimMetadata_iff :
    ¬ ((n.renewalClaimID ≠ "" ∧ n.renewalClaimedAt = none) ∨
      (n.renewalClaimID = "" ∧ n.renewalClaimedAt ≠ none) ∨
      (n.renewalClaimID ≠ "" ∧ (¬ validPersistedID n.renewalClaimID ∨ n.renewalClaimedAt = some 0))) ↔
    (n.renewalClaimID = "" ∧ n.renewalClaimedAt = none) ∨
      (n.renewalClaimID ≠ "" ∧ n.renewalClaimedAt ≠ none ∧ validPersistedID n.renewalClaimID = true ∧
        n.renewalClaimedAt ≠ some 0) := by
  by_cases hid : n.renewalClaimID = "" <;> by_cases hat : n.renewalClaimedAt = none <;> simp [hid, hat]

theorem validateNodeRecord_eq_ok (hc : Current s) : validateNodeRecord s w n = .ok () ↔ NodeRecord w n := by
  have hca : ¬ s.version < controlStateVersionCARotation := by rw [hc]; decide
  have hdns : ¬ s.version < controlStateVersionNativeDNS := by rw [hc]; decide
  have htopology : controlStateVersionTopology ≤ s.version := by rw [hc]; decide
  have hprevious : ¬ ((n.previousAgentTokenHash = "" ∧ n.previousAgentTokenExpiresAt ≠ none) ∨
      (n.previousAgentTokenHash ≠ "" ∧ n.previousAgentTokenExpiresAt = none)) ↔
      (n.previousAgentTokenHash = "" ↔ n.previousAgentTokenExpiresAt = none) := by tauto
  simp only [validateNodeRecord, bind_unit_eq_ok, ite_bind_eq_ok, ite_bind_bind_eq_ok, mapError_eq_ok,
    reject_eq_ok, if_neg hca, hdns, if_pos htopology, claimMetadata_iff, hprevious]
  simp only [false_and, not_false_eq_true, true_and, not_or, not_lt, Decidable.not_not]
  constructor
  · rintro ⟨h1, h2, h3, h4, h5, h6, h7, h8, h9, h10, h11, h12⟩
    exact ⟨h1, h2, h3, h4, h5, h6, h7, h8, h9, h10, h11, h12⟩
  · rintro ⟨h1, h2, h3, h4, h5, h6, h7, h8, h9, h10, h11, h12⟩
    exact ⟨h1, h2, h3, h4, h5, h6, h7, h8, h9, h10, h11, h12⟩

namespace ValidGraph

theorem networkIDs (h : ValidGraph s) : (s.networks.map Network.id).Nodup :=
  List.pairwise_map.mpr (h.networksApart.imp fun hab => hab.id)

theorem nodeIDs (h : ValidGraph s) : (s.nodes.map Node.id).Nodup :=
  List.pairwise_map.mpr (h.nodesApart.imp fun hab => hab.id)

theorem recoveryIDs (h : ValidGraph s) : (s.agentRecoveries.map AgentRecoveryToken.id).Nodup :=
  List.pairwise_map.mpr (h.recoveriesApart.imp fun hab => hab.id)

theorem findNode_iff (h : ValidGraph s) {id : String} :
    findNode s id = some n ↔ n ∈ s.nodes ∧ n.id = id := Keyed.lookup_eq_some_iff h.nodeIDs

theorem findNetwork_iff (h : ValidGraph s) {id : String} :
    findNetwork s id = some w ↔ w ∈ s.networks ∧ w.id = id := Keyed.lookup_eq_some_iff h.networkIDs

/-- Two nodes of a network have different addresses. -/
theorem ip_ne_of_ne (hv : ValidGraph s) {a b : Node} (ha : a ∈ s.nodes) (hb : b ∈ s.nodes)
    (hnet : a.networkID = b.networkID) (hid : a.id ≠ b.id) : a.ip ≠ b.ip := by
  intro hip
  have hsymm : Std.Symm fun a b : Node => a.networkID = b.networkID → nodeAddress a ≠ nodeAddress b :=
    ⟨fun a b h he => (h he.symm).symm⟩
  have happart := (hv.nodesApart.imp fun {a b} (h : NodesApart a b) => h.address).forall ha hb
    (fun he => hid (congrArg Node.id he))
  exact happart hnet (by simp only [nodeAddress, hip])

/-- Every node belongs to a network. -/
theorem nodeNetwork (h : ValidGraph s) (hn : n ∈ s.nodes) :
    ∃ w ∈ s.networks, w.id = n.networkID ∧ validateNodeRecord s w n = .ok () := by
  obtain ⟨w, hw, hrec⟩ := (h.nodes n hn).record
  obtain ⟨hmem, hid⟩ := h.findNetwork_iff.mp hw
  exact ⟨w, hmem, hid, hrec⟩

theorem nodeRecord (h : ValidGraph s) (hc : Current s) (hn : n ∈ s.nodes) :
    ∃ w, findNetwork s n.networkID = some w ∧ NodeRecord w n := by
  obtain ⟨w, hw, hrec⟩ := (h.nodes n hn).record
  exact ⟨w, hw, (validateNodeRecord_eq_ok hc).mp hrec⟩

theorem enrolledAt_ne_none (h : ValidGraph s) (hc : Current s) (hn : n ∈ s.nodes) (hactive : n.status = .active) :
    n.enrolledAt ≠ none := by
  obtain ⟨w, -, hrec⟩ := h.nodeRecord hc hn
  have hstatus := hrec.status
  unfold validateNodeStatus at hstatus
  rw [hactive] at hstatus
  simp only [reject_eq_ok, not_or] at hstatus
  exact hstatus.1

end ValidGraph

end Mesh
