import Mesh.Control.Persist
import Mesh.Control.Play

/-!
# Mesh.Control.RoundTrip

What writing a state and reading it back gives. All records come back as they were but two kinds: the node
inside the answer of a used recovery comes back without its credentials, and an audit detail comes back as
what an untyped reader makes of it (`State.reread`).
-/

namespace Mesh

open Fields

namespace Fields

variable {α β : Type}

theorem as_reread {f : Fields α} [f.Exact] {make : α → β} {parts : β → α} (b : β) :
    (f.as make parts).reread b = make (parts b) := congrArg make (f.reread_eq (parts b))

end Fields

/-! ## What is read back -/

def Node.withoutSecrets (n : Node) : Node :=
  { n with
    agentTokenHash := ""
    previousAgentTokenHash := ""
    previousAgentTokenExpiresAt := none
    publicKeyHash := ""
    renewalClaimID := ""
    renewalClaimedAt := none }

def AgentRecoveryBundle.withoutSecrets (b : AgentRecoveryBundle) : AgentRecoveryBundle :=
  { b with node := b.node.withoutSecrets }

def AgentRecoveryToken.reread (r : AgentRecoveryToken) : AgentRecoveryToken :=
  { r with result := r.result.map AgentRecoveryBundle.withoutSecrets }

def AuditEvent.reread (e : AuditEvent) : AuditEvent := { e with details := rereadDetails e.details }

def State.reread (s : State) : State :=
  { s with
    agentRecoveries := s.agentRecoveries.map AgentRecoveryToken.reread
    audit := s.audit.map AuditEvent.reread }

theorem nodeFields_reread (n : Node) : nodeFields.reread n = n.withoutSecrets :=
  Fields.as_reread n

instance : persistedNodeFields.Exact where
  reread_eq n := by
    have h : persistedNodeFields.reread n = { nodeFields.reread n with
        agentTokenHash := n.agentTokenHash
        previousAgentTokenHash := n.previousAgentTokenHash
        previousAgentTokenExpiresAt := (omitTime "").reread n.previousAgentTokenExpiresAt
        publicKeyHash := n.publicKeyHash
        renewalClaimID := n.renewalClaimID
        renewalClaimedAt := (omitTime "").reread n.renewalClaimedAt } := rfl
    rw [h, nodeFields_reread, Fields.reread_eq, Fields.reread_eq]
    rfl

instance : persistedNodeCodec.Exact := inferInstanceAs (Fields.codec _ _ _).Exact

theorem caRotationFields_reread (r : NetworkCARotation) :
    caRotationFields.reread r = { r with encryptedNextCAKey := "" } := Fields.as_reread r

instance : persistedNetworkFields.Exact where
  reread_eq w := by
    simp only [persistedNetworkFields, networkFields, Fields.as, Fields.and, field, Codec.reread_eq,
      Fields.reread_eq, caRotationCodec, Fields.codec, caRotationFields_reread]

instance : persistedNetworkCodec.Exact := inferInstanceAs (Fields.codec _ _ _).Exact

theorem recoveryBundleFields_reread (b : AgentRecoveryBundle) :
    recoveryBundleFields.reread b = b.withoutSecrets := by
  have hnode : nodeCodec.reread b.node = b.node.withoutSecrets := nodeFields_reread b.node
  simp only [recoveryBundleFields, enrollmentBundleFields, Fields.as, Fields.and, field, Codec.reread_eq,
    Fields.reread_eq, hnode]
  rfl

theorem recoveryFields_reread (r : AgentRecoveryToken) : recoveryFields.reread r = r.reread := by
  have hresult : (omitOption "result" recoveryBundleCodec codec_ne_null).reread r.result =
      r.result.map AgentRecoveryBundle.withoutSecrets :=
    Option.map_congr fun b _ => recoveryBundleFields_reread b
  simp only [recoveryFields, Fields.as, Fields.and, field, Codec.reread_eq, Fields.reread_eq, hresult]
  rfl

theorem persistedStateFields_reread (s : State) : persistedStateFields.reread s = s.reread := by
  have hrecoveries : (omitList "agent_recoveries" recoveryCodec).reread s.agentRecoveries =
      s.agentRecoveries.map AgentRecoveryToken.reread :=
    List.map_congr_left fun r _ => recoveryFields_reread r
  have haudit : (Codec.list auditEventCodec).reread s.audit = s.audit.map AuditEvent.reread :=
    List.map_congr_left fun e _ => rfl
  simp only [persistedStateFields, Fields.as, Fields.and, field, Codec.reread_eq, Fields.reread_eq,
    hrecoveries, haudit]
  rfl

/-! ## Networks of a valid state -/

/-- Files that are read back were written with all settings. -/
theorem restoredNetwork_eq {w : Network} (h : validateNetworkRecord s w = .ok ()) : restoredNetwork w = w := by
  simp only [validateNetworkRecord, bind_unit_eq_ok, mapError_eq_ok, reject_eq_ok, not_or] at h
  obtain ⟨-, ⟨-, -, -, -, hrevision, -, hupdated⟩, -, -, hpolicy, -⟩ := h
  simp only [validateStoredFirewallPolicy, bind_unit_eq_ok, reject_eq_ok] at hpolicy
  obtain ⟨hmode, hversion, -⟩ := hpolicy
  have hrenderer : w.firewallPolicy.rendererVersion ≠ 0 := by
    rintro h0
    rw [h0] at hversion
    exact hversion (by decide)
  have h0 : w.configRevision ≠ 0 := by omega
  simp only [restoredNetwork, if_neg h0, if_neg hupdated, if_neg hmode, if_neg hrenderer]

/-! ## Details -/

/-- No number of the details is changed by reading it as a float. -/
def AuditDetails.Exact (d : AuditDetails) : Prop := ∀ kv ∈ d, ∀ n, kv.2 = .int n → float64 n = n

def AuditValue.isExact : AuditValue → Bool
  | .int n => float64 n == n
  | _ => true

instance (d : AuditDetails) : Decidable d.Exact :=
  decidable_of_iff (d.all fun kv => kv.2.isExact) (by
    simp only [List.all_eq_true, AuditDetails.Exact]
    refine forall₂_congr fun kv _ => ?_
    cases kv.2 <;> simp [AuditValue.isExact])

theorem get_rereadDetails (d : AuditDetails) (key : String) :
    AuditDetails.get (rereadDetails d) key = (d.get key).map AuditValue.reread := by
  induction d with
  | nil => rfl
  | cons kv d ih =>
    obtain ⟨k, v⟩ := kv
    simp only [AuditDetails.get, rereadDetails, List.map_cons, List.lookup_cons] at ih ⊢
    split
    · rfl
    · exact ih

theorem AuditDetails.mem_of_get {d : AuditDetails} {key : String} {v : AuditValue} (h : d.get key = some v) :
    (key, v) ∈ d := by
  induction d with
  | nil => cases h
  | cons kv d ih =>
    obtain ⟨k, v'⟩ := kv
    simp only [AuditDetails.get, List.lookup_cons] at h ih
    split at h
    · rename_i hkey
      rw [Option.some.injEq] at h
      rw [beq_iff_eq.mp hkey, ← h]
      exact List.mem_cons_self
    · exact List.mem_cons_of_mem _ (ih h)

/-- What is read of one map is read of the other. -/
structure Reads (d d' : AuditDetails) : Prop where
  keys : d'.map Prod.fst = d.map Prod.fst
  has : ∀ key, d'.has key = d.has key
  text : ∀ {key v}, d.text? key = some v → d'.text? key = some v
  bool : ∀ key, d'.bool? key = d.bool? key
  texts : ∀ key, d'.texts? key = d.texts? key
  nat : ∀ key, d'.nat? key = d.nat? key
  time : ∀ {key t}, d.time? key = some t → d'.time? key = some t

theorem reads_reread {d : AuditDetails} (hexact : d.Exact)
    (ht : ∀ kv ∈ d, ∀ t ∈ auditValueCodec.times kv.2, Writable t) : Reads d (rereadDetails d) where
  keys := by simp [rereadDetails]
  has key := by simp [AuditDetails.has, get_rereadDetails]
  text {key v} h := by
    unfold AuditDetails.text? at h ⊢
    rw [get_rereadDetails]
    split at h
    · rename_i hget
      rw [hget]
      exact h
    · cases h
  bool key := by
    unfold AuditDetails.bool?
    rw [get_rereadDetails]
    cases d.get key with
    | none => rfl
    | some v => cases v <;> rfl
  texts key := by
    unfold AuditDetails.texts?
    rw [get_rereadDetails]
    cases d.get key with
    | none => rfl
    | some v => cases v <;> rfl
  nat key := by
    unfold AuditDetails.nat?
    rw [get_rereadDetails]
    cases hget : d.get key with
    | none => rfl
    | some v =>
      cases v with
      | int n =>
        have hn := hexact _ (AuditDetails.mem_of_get hget) n rfl
        simp only [Option.map_some, AuditValue.reread, hn]
      | _ => rfl
  time {key t} h := by
    unfold AuditDetails.time? at h ⊢
    rw [get_rereadDetails]
    split at h
    · rename_i hget
      rw [hget]
      exact h
    · rename_i t' hget
      split_ifs at h with hne
      rw [Option.some.injEq] at h
      subst h
      have hwritable := ht _ (AuditDetails.mem_of_get hget) t' (by simp [auditValueCodec])
      rw [hget]
      simp only [Option.map_some, AuditValue.reread,
        Calendar.parseRFC3339_rfc3339Nano hwritable.1 hwritable.2]
      simp [hne]
    · cases h

/-! ## Receipts -/

section Parsed

variable {e e' : AuditEvent} {d d' : AuditDetails}

theorem Reads.filter (h : Reads d d') {key v : String} {p : String → Bool}
    (hv : (d.text? key).filter p = some v) : (d'.text? key).filter p = some v := by
  rw [Option.filter_eq_some_iff] at hv ⊢
  exact ⟨h.text hv.1, hv.2⟩

theorem Reads.role (h : Reads d d') {key : String} {r : Role} (hr : d.role? key = some r) :
    d'.role? key = some r := by
  simp only [AuditDetails.role?, Option.bind_eq_some_iff] at hr ⊢
  obtain ⟨text, htext, hparse⟩ := hr
  exact ⟨text, h.text htext, hparse⟩

theorem Reads.isTrue (h : Reads d d') (key : String) : d'.isTrue key = d.isTrue key := by
  simp only [AuditDetails.isTrue, h.bool]

theorem Reads.groups (h : Reads d d') (key : String) : d'.groups? key = d.groups? key := by
  simp only [AuditDetails.groups?, h.texts]

theorem Reads.checkDetailKeys (h : Reads d d') {required : List String}
    (hd : checkDetailKeys required d = .ok ()) : checkDetailKeys required d' = .ok () := by
  simp only [Mesh.checkDetailKeys, bind_unit_eq_ok, checkAll_eq_ok, reject_eq_ok, Decidable.not_not,
    h.has] at hd ⊢
  refine ⟨fun kv hkv => ?_, hd.2⟩
  have hkey : kv.1 ∈ d.map Prod.fst := h.keys ▸ List.mem_map_of_mem hkv
  obtain ⟨kv', hkv', heq⟩ := List.mem_map.mp hkey
  exact heq ▸ hd.1 kv' hkv'

/-- The event with other details that read the same. -/
structure SameReading (e e' : AuditEvent) : Prop where
  id : e'.id = e.id
  action : e'.action = e.action
  resource : e'.resource = e.resource
  resourceID : e'.resourceID = e.resourceID
  occurredAt : e'.occurredAt = e.occurredAt
  details : Reads e.details e'.details

theorem parseNodeCertificateRotationEvent_reads (h : SameReading e e') {r : RotatedNodeCertificate × Int}
    (hp : parseNodeCertificateRotationEvent e = .ok r) : parseNodeCertificateRotationEvent e' = .ok r := by
  have hd := h.details
  simp only [parseNodeCertificateRotationEvent, bind_eq_ok, exists_unit, reject_eq_ok, require_eq_ok,
    h.resource, h.resourceID, h.occurredAt, hd.nat, hd.isTrue] at hp ⊢
  obtain ⟨hkeys, hresource, requestID, h1, networkID, h2, name, h3, ip, h4, role, h5, rotatedAt, h6, previous, h7,
    expiresAt, h8, renewAfter, h9, hrest⟩ := hp
  exact ⟨hd.checkDetailKeys hkeys, hresource, requestID, hd.filter h1, networkID, hd.filter h2, name, hd.filter h3,
    ip, hd.filter h4, role, hd.role h5, rotatedAt, hd.time h6, previous, hd.time h7, expiresAt, hd.time h8,
    renewAfter, hd.time h9, hrest⟩

theorem parseNodeGroupsEvent_reads (h : SameReading e e') {r : UpdatedNodeGroups × Int}
    (hp : parseNodeGroupsEvent e = .ok r) : parseNodeGroupsEvent e' = .ok r := by
  have hd := h.details
  simp only [parseNodeGroupsEvent, bind_eq_ok, exists_unit, reject_eq_ok, require_eq_ok, h.resource,
    h.resourceID, h.occurredAt, hd.nat, hd.isTrue, hd.groups] at hp ⊢
  obtain ⟨hresource, requestID, h1, networkID, h2, name, h3, ip, h4, previousGroups, h5, groups, h6, updatedAt, h7,
    previous, h8, expiresAt, h9, renewAfter, h10, hrest⟩ := hp
  exact ⟨hresource, requestID, hd.filter h1, networkID, hd.filter h2, name, hd.filter h3, ip, hd.filter h4,
    previousGroups, h5, groups, h6, updatedAt, hd.time h7, previous, hd.time h8, expiresAt, hd.time h9, renewAfter,
    hd.time h10, hrest⟩

theorem parseNodeRevocationEvent_reads (h : SameReading e e') {r : RevokedNodeReceipt × Int}
    (hp : parseNodeRevocationEvent e = .ok r) : parseNodeRevocationEvent e' = .ok r := by
  have hd := h.details
  simp only [parseNodeRevocationEvent, bind_eq_ok, exists_unit, reject_eq_ok, require_eq_ok, h.resource,
    h.resourceID, h.occurredAt, hd.nat, hd.bool, hd.isTrue] at hp ⊢
  obtain ⟨hkeys, hresource, requestID, h1, networkID, h2, name, h3, ip, h4, role, h5, revokedAt, h6, hrest⟩ := hp
  exact ⟨hd.checkDetailKeys hkeys, hresource, requestID, hd.filter h1, networkID, hd.filter h2, name, hd.filter h3,
    ip, hd.filter h4, role, hd.role h5, revokedAt, hd.time h6, hrest⟩

theorem validateArchivedNodeTombstone_reads (h : SameReading e e')
    (hp : validateArchivedNodeTombstone e = .ok ()) : validateArchivedNodeTombstone e' = .ok () := by
  have hd := h.details
  simp only [validateArchivedNodeTombstone, requireCount, bind_eq_ok, exists_unit, reject_eq_ok, require_eq_ok,
    h.occurredAt, hd.nat, hd.bool, hd.isTrue] at hp ⊢
  obtain ⟨hkeys, networkID, h1, name, h2, ip, h3, role, h4, revokedAt, h5, expiry, h6, hrest⟩ := hp
  exact ⟨hd.checkDetailKeys hkeys, networkID, hd.filter h1, name, hd.filter h2, ip, hd.filter h3, role, hd.role h4,
    revokedAt, hd.time h5, expiry, hd.text h6, hrest⟩

theorem parseRetiredNetworkReservation_reads (h : SameReading e e') {r : RetiredNetworkReservation}
    (hp : parseRetiredNetworkReservation e = .ok r) : parseRetiredNetworkReservation e' = .ok r := by
  have hd := h.details
  simp only [parseRetiredNetworkReservation, bind_eq_ok, exists_unit, reject_eq_ok, require_eq_ok,
    checkAll_eq_ok, h.resource, h.resourceID, hd.nat, hd.isTrue] at hp ⊢
  obtain ⟨hresource, name, h1, cidr, h2, hrest⟩ := hp
  exact ⟨hresource, name, hd.filter h1, cidr, hd.filter h2, hrest⟩

end Parsed

/-! ## Events -/

section Events

variable {e : AuditEvent} {v : AuditValue} {d : AuditDetails}

theorem validateAuditText_rfc3339Nano {t : Int} (h : Writable t) :
    validateAuditText (Calendar.rfc3339Nano t) = .ok () := by
  have hlen := Calendar.length_rfc3339NanoChars_le h.1 h.2
  have hsize := utf8ByteSize_ofList_le (Calendar.rfc3339NanoChars t)
  simp only [validateAuditText, reject_eq_ok, Decidable.not_not, validBoundedPlainText, validBoundedUTF8,
    Calendar.rfc3339Nano, String.toList_ofList, Bool.true_or, Bool.true_and, Bool.and_eq_true, decide_eq_true_eq,
    List.all_eq_true, maxAuditDetailStringBytes]
  refine ⟨?_, fun c hc => ?_⟩
  · exact decide_eq_true (by omega)
  rcases Calendar.mem_rfc3339NanoChars hc with hdigit | hsep
  · obtain ⟨h0, h9⟩ : 48 ≤ c.toNat ∧ c.toNat ≤ 57 := Char.isDigit_iff_toNat.mp hdigit
    exact ⟨by omega, by omega⟩
  · simp only [List.mem_cons, List.not_mem_nil, or_false] at hsep
    rcases hsep with rfl | rfl | rfl | rfl | rfl <;> decide

theorem validateAuditDetailValue_reread (ht : ∀ t ∈ auditValueCodec.times v, Writable t)
    (h : validateAuditDetailValue v = .ok ()) : validateAuditDetailValue v.reread = .ok () := by
  cases v with
  | time t => exact validateAuditText_rfc3339Nano (ht t (by simp [auditValueCodec]))
  | _ => exact h

theorem stringBytes_reread (v : AuditValue) : v.reread.stringBytes = v.stringBytes := by
  cases v <;> rfl

theorem scalars_reread (v : AuditValue) : v.reread.scalars = v.scalars := by
  cases v <;> rfl

theorem validateAuditDetails_reread (ht : ∀ kv ∈ d, ∀ t ∈ auditValueCodec.times kv.2, Writable t)
    (h : validateAuditDetails d = .ok ()) : validateAuditDetails (rereadDetails d) = .ok () := by
  simp only [validateAuditDetails, rereadDetails, bind_unit_eq_ok, reject_eq_ok, checkAll_eq_ok, mapError_eq_ok,
    List.length_map, List.map_map, Function.comp_def, List.mem_map, forall_exists_index, and_imp,
    forall_apply_eq_imp_iff₂, stringBytes_reread, scalars_reread] at h ⊢
  refine ⟨h.1, fun kv hkv => ?_, h.2.2⟩
  obtain ⟨hkey, hvalue⟩ := h.2.1 kv hkv
  exact ⟨hkey, validateAuditDetailValue_reread (ht kv hkv) hvalue⟩

theorem Reads.validateAuditActorMetadata {d' : AuditDetails} (h : Reads d d')
    (hd : validateAuditActorMetadata d = .ok ()) : Mesh.validateAuditActorMetadata d' = .ok () := by
  unfold Mesh.validateAuditActorMetadata at hd ⊢
  rw [show d'.has = d.has from funext h.has]
  simp only at hd ⊢
  split_ifs at hd ⊢ with hnone
  · rfl
  · simp only [bind_eq_ok, exists_unit, reject_eq_ok, require_eq_ok] at hd ⊢
    obtain ⟨hcount, id, hid, kind, hkind, session, hsession, hactor⟩ := hd
    exact ⟨hcount, id, h.text hid, kind, h.text hkind, session, h.text hsession, hactor⟩

/-- No detail of the event is lost on the way. -/
structure AuditEvent.Keeps (e : AuditEvent) : Prop where
  exact : AuditDetails.Exact e.details
  times : ∀ kv ∈ e.details, ∀ t ∈ auditValueCodec.times kv.2, Writable t

theorem AuditEvent.Keeps.sameReading (h : e.Keeps) : SameReading e e.reread :=
  ⟨rfl, rfl, rfl, rfl, rfl, reads_reread h.exact h.times⟩

theorem validateAuditEvent_reread (h : e.Keeps) (he : validateAuditEvent e = .ok ()) :
    validateAuditEvent e.reread = .ok () := by
  simp only [validateAuditEvent, bind_unit_eq_ok, reject_eq_ok, mapError_eq_ok] at he ⊢
  exact ⟨he.1, validateAuditDetails_reread h.times he.2.1, h.sameReading.details.validateAuditActorMetadata he.2.2⟩

end Events

/-! ## The graph -/

section Graph

variable {s : State} {w : Network} {n : Node} {r : AgentRecoveryToken} {b : AgentRecoveryBundle}

theorem checkRuleReferences_reread {direction : String} {rules : List FirewallRule} :
    ∀ {index : Nat}, checkRuleReferences s.reread w direction index rules =
      checkRuleReferences s w direction index rules := by
  induction rules with
  | nil => exact rfl
  | cons rule rules ih =>
    intro index
    simp only [checkRuleReferences, ih]
    rfl

theorem validateFirewallPolicyReferences_reread {p : FirewallPolicy} :
    validateFirewallPolicyReferences s.reread w p = validateFirewallPolicyReferences s w p := by
  simp only [validateFirewallPolicyReferences, checkRuleReferences_reread]

theorem checkCanaries_reread {ids : List String} :
    ∀ {previous : Option String}, checkCanaries s.reread w previous ids = checkCanaries s w previous ids := by
  induction ids with
  | nil => exact rfl
  | cons id ids ih =>
    intro previous
    simp only [checkCanaries, ih]
    rfl

theorem validateNetworkFirewallRollout_reread :
    validateNetworkFirewallRollout s.reread w = validateNetworkFirewallRollout s w := by
  simp only [validateNetworkFirewallRollout, validateFirewallPolicyReferences_reread, checkCanaries_reread]
  rfl

theorem validateRoutePolicyList_reread {ps : List NetworkRoutePolicy} :
    ∀ {previous : String}, validateRoutePolicyList s.reread w previous ps =
      validateRoutePolicyList s w previous ps := by
  induction ps with
  | nil => exact rfl
  | cons p ps ih =>
    intro previous
    simp only [validateRoutePolicyList, ih]
    rfl

theorem validateNetworkRecord_reread : validateNetworkRecord s.reread w = validateNetworkRecord s w := by
  simp only [validateNetworkRecord, validateNetworkFirewallRollout_reread, validateNetworkRoutePolicies,
    validateRoutePolicyList_reread]
  rfl

theorem UsedRecoveryPassed.reread {usedAt : Int} (h : UsedRecoveryPassed s n r usedAt w b) :
    UsedRecoveryPassed s.reread n r.reread usedAt w b.withoutSecrets where
  claimed := h.claimed
  result := by rw [AgentRecoveryToken.reread, h.result]; rfl
  inTime := h.inTime
  generation := h.generation
  generationLe := h.generationLe
  lifetime := h.lifetime
  network := h.network
  answered := h.answered
  material := h.material
  signed := h.signed
  receipt := h.receipt
  receiptSigned := h.receiptSigned
  hash := h.hash.imp_right fun hu => ⟨⟨hu.1.nodes, hu.1.enrollments⟩, hu.2⟩
  current := h.current

theorem RecoveryPassed.reread (h : RecoveryPassed s r n) : RecoveryPassed s.reread r.reread n where
  id := h.id
  tokenHash := h.tokenHash
  created := h.created
  lifetime := h.lifetime
  lifetimeLe := h.lifetimeLe
  node := h.node
  enrollments := h.enrollments
  unused := ⟨h.unused.nodes, h.unused.enrollments⟩
  claim := h.claim
  unusedResult hu := by
    obtain ⟨h1, h2, h3⟩ := h.unusedResult hu
    exact ⟨h1, h2, by rw [AgentRecoveryToken.reread, h3]; rfl⟩
  usedResult usedAt hu := by
    obtain ⟨w, b, hb⟩ := h.usedResult usedAt hu
    exact ⟨w, b.withoutSecrets, hb.reread⟩

theorem recoveredHash_reread : recoveredHash r.reread = recoveredHash r := by
  simp only [recoveredHash, AgentRecoveryToken.reread, Option.map_map]
  rfl

theorem RecoveriesApart.reread {a : AgentRecoveryToken} (h : RecoveriesApart s a r) :
    RecoveriesApart s.reread a.reread r.reread where
  id := h.id
  tokenHash := h.tokenHash
  recovered hu m b' hm hb' := by
    obtain ⟨b, hb, rfl⟩ := Option.map_eq_some_iff.mp hb'
    obtain ⟨h1, h2⟩ := h.recovered hu m b hm hb
    exact ⟨by rw [recoveredHash_reread]; exact h1, h2⟩

theorem mem_actionEvents {action : String} {e : AuditEvent} :
    e ∈ actionEvents action s ↔ e ∈ s.audit ∧ e.action = action := by
  simp [actionEvents]

theorem actionEvents_reread (action : String) :
    actionEvents action s.reread = (actionEvents action s).map AuditEvent.reread := by
  simp only [actionEvents, State.reread, List.filter_map]
  rfl

/-- A check of events that also holds of what is read back of them. -/
theorem forall_actionEvents_reread {P Q : AuditEvent → Prop} {action : String} (hkeep : ∀ e ∈ s.audit, e.Keeps)
    (hPQ : ∀ e, SameReading e e.reread → P e → Q e.reread) (h : ∀ e ∈ actionEvents action s, P e) :
    ∀ e ∈ actionEvents action s.reread, Q e := by
  rw [actionEvents_reread]
  intro e' he'
  obtain ⟨e, he, rfl⟩ := List.mem_map.mp he'
  exact hPQ e (hkeep e (mem_actionEvents.mp he).1).sameReading (h e he)

theorem validateReceipts_reread {ρ : Type} {action label duplicateLabel : String}
    {parse : AuditEvent → Result (ρ × Int)} (hkeep : ∀ e ∈ s.audit, e.Keeps)
    (hparse : ∀ e e' r, SameReading e e' → parse e = .ok r → parse e' = .ok r)
    (hid : ∀ e r, parse e = .ok r → ∃ id, e.requestID? = some id)
    (h : validateReceipts action label duplicateLabel parse s = .ok ()) :
    validateReceipts action label duplicateLabel parse s.reread = .ok () := by
  rw [validateReceipts_eq_ok] at h ⊢
  refine ⟨forall_actionEvents_reread hkeep (fun e hr ⟨r, hp⟩ => ⟨r, hparse e _ r hr hp⟩) h.1, ?_⟩
  have hsame : ∀ e ∈ actionEvents action s, e.reread.requestID? = e.requestID? := fun e he => by
    obtain ⟨r, hp⟩ := h.1 e he
    obtain ⟨id, hid⟩ := hid e r hp
    exact ((hkeep e (mem_actionEvents.mp he).1).sameReading.details.text hid).trans hid.symm
  rw [actionEvents_reread, List.pairwise_map]
  refine h.2.imp_of_mem fun ha hb hne => ?_
  rw [hsame _ ha, hsame _ hb]
  exact hne

theorem requestID?_of_rotation {e : AuditEvent} {r : RotatedNodeCertificate × Int}
    (h : parseNodeCertificateRotationEvent e = .ok r) : ∃ id, e.requestID? = some id := by
  simp only [parseNodeCertificateRotationEvent, bind_eq_ok, require_eq_ok, Option.filter_eq_some_iff] at h
  obtain ⟨-, -, -, -, id, ⟨hid, -⟩, -⟩ := h
  exact ⟨id, hid⟩

theorem requestID?_of_groups {e : AuditEvent} {r : UpdatedNodeGroups × Int}
    (h : parseNodeGroupsEvent e = .ok r) : ∃ id, e.requestID? = some id := by
  simp only [parseNodeGroupsEvent, bind_eq_ok, require_eq_ok, Option.filter_eq_some_iff] at h
  obtain ⟨-, -, id, ⟨hid, -⟩, -⟩ := h
  exact ⟨id, hid⟩

theorem requestID?_of_revocation {e : AuditEvent} {r : RevokedNodeReceipt × Int}
    (h : parseNodeRevocationEvent e = .ok r) : ∃ id, e.requestID? = some id := by
  simp only [parseNodeRevocationEvent, bind_eq_ok, require_eq_ok, Option.filter_eq_some_iff] at h
  obtain ⟨-, -, -, -, id, ⟨hid, -⟩, -⟩ := h
  exact ⟨id, hid⟩

theorem validateArchivedNodeTombstones_reread (hkeep : ∀ e ∈ s.audit, e.Keeps)
    (h : validateArchivedNodeTombstones s = .ok ()) : validateArchivedNodeTombstones s.reread = .ok () := by
  rw [validateArchivedNodeTombstones_eq_ok] at h ⊢
  refine ⟨forall_actionEvents_reread hkeep (fun e hr hp => ?_) h.1, ?_⟩
  · exact ⟨hp.resource, hp.id, hp.gone, validateArchivedNodeTombstone_reads hr hp.record⟩
  · rw [actionEvents_reread, List.pairwise_map]
    exact h.2

theorem validateRetiredNetworkReservations_reread (hkeep : ∀ e ∈ s.audit, e.Keeps)
    (h : validateRetiredNetworkReservations s = .ok ()) :
    validateRetiredNetworkReservations s.reread = .ok () := by
  rw [validateRetiredNetworkReservations_eq_ok] at h ⊢
  have hparse : ∀ e ∈ actionEvents networkRetiredAuditAction s,
      parseRetiredNetworkReservation e.reread = parseRetiredNetworkReservation e := fun e he => by
    obtain ⟨r, hr, -⟩ := h.1 e he
    rw [hr, parseRetiredNetworkReservation_reads (hkeep e (mem_actionEvents.mp he).1).sameReading hr]
  refine ⟨forall_actionEvents_reread hkeep (fun e hr hp => ?_) h.1, ?_⟩
  · obtain ⟨r, hp, hfree⟩ := hp
    exact ⟨r, parseRetiredNetworkReservation_reads hr hp, hfree⟩
  · rw [actionEvents_reread, List.pairwise_map]
    refine h.2.imp_of_mem fun ha hb hapart r hr => ?_
    rw [hparse _ hb] at hr
    have hclash := hapart r hr
    unfold retiredReservationClashes at hclash ⊢
    rwa [hparse _ ha]

/-- What is read back of a valid state is valid. -/
theorem ValidGraph.reread (hkeep : ∀ e ∈ s.audit, e.Keeps) (h : ValidGraph s) : ValidGraph s.reread where
  version := h.version
  networks w hw := ⟨(h.networks w hw).id, (h.networks w hw).name,
    validateNetworkRecord_reread.trans (h.networks w hw).record⟩
  networksApart := h.networksApart
  nodes n hn := ⟨(h.nodes n hn).id, (h.nodes n hn).name, (h.nodes n hn).record, (h.nodes n hn).created,
    (h.nodes n hn).hashes, (h.nodes n hn).hashesDistinct⟩
  nodesApart := h.nodesApart
  firewall w hw := by
    have hrefs := h.firewall w hw
    simp only [validateFirewallReferences, validateFirewallPolicyReferences_reread] at hrefs ⊢
    exact hrefs
  enrollments e he := ⟨(h.enrollments e he).id, (h.enrollments e he).tokenHash, (h.enrollments e he).created,
    (h.enrollments e he).lifetime, (h.enrollments e he).claim, (h.enrollments e he).node,
    (h.enrollments e he).unused⟩
  enrollmentsApart := h.enrollmentsApart
  recoveries r' hr' := by
    obtain ⟨r, hr, rfl⟩ := List.mem_map.mp hr'
    obtain ⟨n, hn⟩ := h.recoveries r hr
    exact ⟨n, hn.reread⟩
  recoveriesApart := List.pairwise_map.mpr (h.recoveriesApart.imp RecoveriesApart.reread)
  issuances := h.issuances
  revocations := h.revocations
  reservations := h.reservations
  audit e' he' := by
    obtain ⟨e, he, rfl⟩ := List.mem_map.mp he'
    exact validateAuditEvent_reread (hkeep e he) (h.audit e he)
  auditApart := List.pairwise_map.mpr h.auditApart
  retired := validateRetiredNetworkReservations_reread hkeep h.retired
  archived := validateArchivedNodeTombstones_reread hkeep h.archived
  rotations := validateReceipts_reread hkeep (fun _ _ _ hr => parseNodeCertificateRotationEvent_reads hr)
    (fun _ _ => requestID?_of_rotation) h.rotations
  groups := validateReceipts_reread hkeep (fun _ _ _ hr => parseNodeGroupsEvent_reads hr)
    (fun _ _ => requestID?_of_groups) h.groups
  nodeRevocations := validateReceipts_reread hkeep (fun _ _ _ hr => parseNodeRevocationEvent_reads hr)
    (fun _ _ => requestID?_of_revocation) h.nodeRevocations

end Graph

/-! ## Equal up to what is hidden -/

/-- The same value of a detail; an instant is the same when it is kept as its text. -/
def AuditValue.Same : AuditValue → AuditValue → Prop
  | .time t, .str text => Calendar.parseRFC3339 text = some t
  | v, v' => v' = v

structure AuditEvent.Same (e e' : AuditEvent) : Prop where
  rest : { e' with details := e.details } = e
  details : List.Forall₂ (fun kv kv' => kv'.1 = kv.1 ∧ AuditValue.Same kv.2 kv'.2) e.details e'.details

/-- The credentials of the node in an answer are not compared: they are hidden from its document. -/
structure AgentRecoveryToken.Same (r r' : AgentRecoveryToken) : Prop where
  rest : { r' with result := r.result } = r
  result : r'.result.map AgentRecoveryBundle.withoutSecrets = r.result.map AgentRecoveryBundle.withoutSecrets

structure State.Same (s s' : State) : Prop where
  rest : { s' with agentRecoveries := s.agentRecoveries, audit := s.audit } = s
  recoveries : List.Forall₂ AgentRecoveryToken.Same s.agentRecoveries s'.agentRecoveries
  audit : List.Forall₂ AuditEvent.Same s.audit s'.audit

section Same

variable {s s' : State}

theorem AuditValue.same_reread {v : AuditValue} :
    (∀ t ∈ auditValueCodec.times v, Writable t) →
      (v.Same v.reread ↔ ∀ n, v = .int n → float64 n = n) := by
  intro ht
  cases v with
  | int n => simp [AuditValue.Same, AuditValue.reread]
  | time t =>
    have hw : Writable t := ht t (by simp [auditValueCodec])
    simp [AuditValue.Same, AuditValue.reread, Calendar.parseRFC3339_rfc3339Nano hw.1 hw.2]
  | _ => simp [AuditValue.Same, AuditValue.reread]

theorem AuditEvent.same_reread {e : AuditEvent}
    (ht : ∀ kv ∈ e.details, ∀ t ∈ auditValueCodec.times kv.2, Writable t) :
    e.Same e.reread ↔ AuditDetails.Exact e.details := by
  have hdetails : List.Forall₂ (fun kv kv' => kv'.1 = kv.1 ∧ AuditValue.Same kv.2 kv'.2) e.details
      e.reread.details ↔ AuditDetails.Exact e.details := by
    refine Keyed.forall₂_map.trans (forall₂_congr fun kv hkv => ?_)
    rw [← AuditValue.same_reread (ht kv hkv)]
    exact and_iff_right rfl
  exact ⟨fun h => hdetails.mp h.details, fun h => ⟨rfl, hdetails.mpr h⟩⟩

theorem AgentRecoveryToken.same_reread (r : AgentRecoveryToken) : r.Same r.reread where
  rest := rfl
  result := by
    simp only [AgentRecoveryToken.reread, Option.map_map]
    rfl

theorem mem_times_of_audit {e : AuditEvent} (he : e ∈ s.audit) {kv : String × AuditValue} (hkv : kv ∈ e.details)
    {t : Int} (ht : t ∈ auditValueCodec.times kv.2) : t ∈ persistedStateCodec.times s := by
  have hevent : t ∈ auditEventCodec.times e := by
    iterate 5 refine List.mem_append_right _ ?_
    exact List.mem_flatMap.mpr ⟨kv, hkv, ht⟩
  iterate 9 refine List.mem_append_right _ ?_
  exact List.mem_flatMap.mpr ⟨e, he, hevent⟩

theorem State.same_reread (ht : ∀ t ∈ persistedStateCodec.times s, Writable t) :
    s.Same s.reread ↔ ∀ e ∈ s.audit, AuditDetails.Exact e.details := by
  have haudit : List.Forall₂ AuditEvent.Same s.audit s.reread.audit ↔
      ∀ e ∈ s.audit, AuditDetails.Exact e.details :=
    Keyed.forall₂_map.trans (forall₂_congr fun e he =>
      AuditEvent.same_reread fun kv hkv t h => ht t (mem_times_of_audit he hkv h))
  exact ⟨fun h => haudit.mp h.audit, fun h =>
    ⟨rfl, Keyed.forall₂_map.mpr fun r _ => r.same_reread, haudit.mpr h⟩⟩

/-- A valid state is written when its instants can be, and read back as `reread` says. -/
theorem decode_encodePersistedState (hfits : persistedStateCodec.Fits s) (hv : ValidGraph s)
    (ht : ∀ t ∈ persistedStateCodec.times s, Writable t) :
    ∃ j, encodePersistedState s = .ok j ∧ decodePersistedState j = .ok s.reread := by
  obtain ⟨j, hj, hread⟩ := persistedStateCodec.decode_encode hfits ht
  refine ⟨j, hj, ?_⟩
  have hnetworks : s.networks.map restoredNetwork = s.networks :=
    (List.map_congr_left fun w hw => restoredNetwork_eq (hv.networks w hw).record).trans s.networks.map_id
  have hreread : persistedStateCodec.reread s = s.reread := persistedStateFields_reread s
  simp only [decodePersistedState, hread, hreread, bind_eq_ok, pure_eq_ok]
  refine ⟨s.reread, rfl, ?_⟩
  rw [show s.reread.networks = s.networks from rfl, hnetworks]
  rfl

end Same

/-- A state whose log holds the receipt of one certificate rotation, made at the revision. -/
def rotationState (revision : Int) : State :=
  { Setting.start.state with
    audit := [{
      id := "e1"
      action := nodeCertificateRotatedAuditAction
      resource := "node"
      resourceID := "n1"
      occurredAt := Setting.minutes 1
      details := certificateRotationAuditDetails {
        requestID := "request-000000001"
        nodeID := "n1"
        networkID := "w1"
        name := "node1"
        ip := "10.0.0.1"
        role := .member
        rotatedAt := Setting.minutes 1
        previousCertificateExpiresAt := Setting.minutes 10
        certificateExpiresAt := Setting.minutes 20
        certificateRenewAfter := Setting.minutes 15
        previousCertificateGeneration := 1
        certificateGeneration := 2
        agentRecoveryRecordsInvalidated := 0
        certificateIssuancesAdded := 1
        blocklistEntriesAdded := 1
        previousCertificateBlocklisted := true
        configRevision := revision + 1 } revision }] }

theorem rotationState_fits (revision : Int) : persistedStateCodec.Fits (rotationState revision) := by
  have hkeys : rotationDetailKeys.Nodup := by decide
  have hevent : ∀ e ∈ (rotationState revision).audit, auditEventCodec.Fits e := by
    rintro e (_ | ⟨_, ⟨⟩⟩)
    exact ⟨trivial, trivial, trivial, trivial, trivial, hkeys⟩
  have hversion : Codec.int64.Fits controlStateVersionFirewallScopes :=
    show _ ≤ controlStateVersionFirewallScopes ∧ _ by decide
  exact ⟨hversion, trivial, trivial, List.forall_mem_nil _, List.forall_mem_nil _, List.forall_mem_nil _,
    List.forall_mem_nil _, List.forall_mem_nil _, List.forall_mem_nil _, hevent⟩

theorem rotationState_times (revision : Int) :
    ∀ t ∈ persistedStateCodec.times (rotationState revision), Writable t := by
  have htimes : persistedStateCodec.times (rotationState revision) = [Setting.minutes 1] := rfl
  rw [htimes]
  decide

end Mesh
