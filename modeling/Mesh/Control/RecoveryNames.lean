import Mesh.Control.Basics
import Mesh.Lib.JsonText

/-!
# Mesh.Control.RecoveryNames

The check of the names in a recovery snapshot before it is decoded. The text is walked along the type it will
be decoded to: no object has a name twice, and a name that folds to the name of a field is that name. So no
two members of an object go to one field, however a decoder folds names, and it makes no difference which of
two members for one field wins (`recovery_names_unambiguous`).
-/

namespace Mesh

open JsonText

/-! ## Types -/

/-- What `reflect` says of a type, with pointers followed and the fields of embedded structures in their place.
A leaf is a type without fields or elements, one that reads itself, or an interface. -/
inductive JsonType where
  | leaf
  | list (element : JsonType)
  | map (element : JsonType)
  | record (fields : List (String × JsonType))

def leaves (names : List String) : List (String × JsonType) := names.map fun name => (name, .leaf)

def networkDNSSettingsType : JsonType :=
  .record (leaves ["enabled", "listen_port", "native_resolver", "search_domain"])

def networkRelaySettingsType : JsonType := .record (leaves ["enabled"] ++ [("relay_node_ids", .list .leaf)])

def networkCARotationType : JsonType :=
  .record (leaves ["phase", "next_ca_certificate", "previous_trust_bundle_sha256", "target_ca_certificate_sha256",
    "started_at", "stage_started_at", "stage_config_revision"])

def firewallRuleType : JsonType :=
  .record (leaves ["proto", "port", "group", "host", "peer_node_id", "target_group", "target_node_id"])

def firewallPolicyType : JsonType :=
  .record (leaves ["mode", "renderer_version"] ++ [("inbound", .list firewallRuleType),
    ("outbound", .list firewallRuleType)])

def networkFirewallRolloutType : JsonType :=
  .record (leaves ["phase"] ++ [("target_policy", firewallPolicyType), ("canary_node_ids", .list .leaf)] ++ leaves
    ["started_at", "paused_at", "stage_config_revision"])

def networkRouteTransferType : JsonType :=
  .record (leaves ["request_id", "phase", "source_node_id", "target_node_id"] ++ [("routed_subnets", .list .leaf),
    ("source_original_subnets", .list .leaf), ("target_original_subnets", .list .leaf)] ++ leaves
    ["target_certificate_generation", "source_certificate_generation", "started_at", "promoted_at", "finished_at"])

def networkRouteProfileEditType : JsonType :=
  .record (leaves ["request_id", "phase", "node_id"] ++ [("original_subnets", .list .leaf), ("desired_subnets",
    .list .leaf)] ++ leaves ["prepared_certificate_generation", "cleanup_certificate_generation", "started_at",
    "promoted_at", "finished_at"])

def networkRoutePolicyGatewayType : JsonType := .record (leaves ["node_id", "weight"])

def networkRoutePolicyType : JsonType :=
  .record (leaves ["prefix"] ++ [("gateways", .list networkRoutePolicyGatewayType)] ++ leaves ["mtu", "metric",
    "request_id", "config_revision", "updated_at"])

def networkMembers : List (String × JsonType) :=
  leaves ["id", "name", "cidr"] ++ [("dns_settings", networkDNSSettingsType), ("relay_settings",
    networkRelaySettingsType), ("ca_rotation", networkCARotationType), ("firewall_rollout",
    networkFirewallRolloutType), ("route_transfer", networkRouteTransferType), ("route_profile_edit",
    networkRouteProfileEditType), ("route_policies", .list networkRoutePolicyType), ("firewall_policy",
    firewallPolicyType)] ++ leaves ["listen_port", "certificate_ttl_hours", "ca_certificate",
    "config_signing_public_key", "config_revision", "config_updated_at", "created_at"]

def persistedNetworkType : JsonType :=
  .record (networkMembers ++ leaves ["encrypted_ca_key", "encrypted_next_ca_key", "encrypted_config_signing_key"])

def nodeMembers : List (String × JsonType) :=
  leaves ["id", "network_id", "name", "ip"] ++ [("routed_subnets", .list .leaf)] ++ leaves ["site",
    "failure_domain"] ++ [("groups", .list .leaf)] ++ leaves ["role", "public_endpoint", "status", "certificate",
    "certificate_fingerprint", "certificate_authority_sha256", "certificate_expires_at", "certificate_renew_after",
    "certificate_generation", "applied_config_revision", "applied_certificate_generation", "applied_config_sha256",
    "reported_certificate_fingerprint", "nebula_running", "native_dns_active", "agent_version", "nebula_version",
    "agent_status", "agent_boot_id", "heartbeat_sequence", "last_error", "last_seen_at",
    "agent_credential_expires_at", "agent_credential_last_used_at", "agent_credential_generation",
    "last_renewed_at", "created_at", "enrolled_at", "revoked_at"]

def nodeType : JsonType := .record nodeMembers

def persistedNodeType : JsonType :=
  .record (nodeMembers ++ leaves ["agent_token_hash", "previous_agent_token_hash",
    "previous_agent_token_expires_at", "public_key_hash", "renewal_claim_id", "renewal_claimed_at"])

def enrollmentTokenType : JsonType :=
  .record (leaves ["id", "node_id", "token_hash", "created_at", "expires_at", "used_at", "claim_id", "claimed_at",
    "claim_key_hash"])

def enrollmentBundleMembers : List (String × JsonType) :=
  leaves ["node_id", "network_id"] ++ [("node", nodeType)] ++ leaves ["certificate", "ca", "config",
    "config_revision", "certificate_expires_at", "certificate_renew_after", "agent_credential_expires_at",
    "agent_credential_generation", "config_issued_at", "config_sha256", "ca_sha256", "previous_ca_sha256",
    "ca_rotation_required", "certificate_profile_renewal_required", "certificate_fingerprint",
    "certificate_generation", "public_key_hash", "config_signature", "config_signing_public_key"]

def recoveryReceiptType : JsonType :=
  .record (leaves ["node_id", "network_id", "new_agent_token_hash", "agent_credential_generation",
    "agent_credential_expires_at", "config_sha256", "config_signature", "signature"])

def agentRecoveryBundleType : JsonType :=
  .record (enrollmentBundleMembers ++ [("recovery_receipt", recoveryReceiptType)])

def agentRecoveryTokenType : JsonType :=
  .record (leaves ["id", "node_id", "token_hash", "created_at", "expires_at", "used_at", "claim_id", "claimed_at",
    "claim_key_hash", "claimed_credential_generation", "credential_generation", "credential_expires_at"] ++
    [("result", agentRecoveryBundleType)])

def certificateIssuanceType : JsonType :=
  .record (leaves ["fingerprint", "node_id", "network_id", "issued_at", "expires_at"])

def certificateRevocationType : JsonType :=
  .record (leaves ["fingerprint", "node_id", "network_id", "reason", "at", "expires_at"])

def auditEventType : JsonType :=
  .record (leaves ["id", "action", "resource", "resource_id", "at"] ++ [("details", .map .leaf)])

def persistedStateType : JsonType :=
  .record (leaves ["version", "master_key_verifier", "admin_credential_verifier"] ++ [("networks", .list
    persistedNetworkType), ("nodes", .list persistedNodeType), ("enrollments", .list enrollmentTokenType),
    ("agent_recoveries", .list agentRecoveryTokenType), ("issuances", .list certificateIssuanceType),
    ("revocations", .list certificateRevocationType), ("audit", .list auditEventType)])

/-! ## The check -/

section
variable (simpleFold : Char → Char)

def foldRecoveryJSONName (name : String) : String :=
  String.ofList (name.toList.map fun c => if c.toNat < 128 then c.toUpper else foldRune simpleFold 1114112 c)

/-- The fields of a structure. -/
def recordFields : Option JsonType → Option (List (String × JsonType))
  | some (.record fields) => some fields
  | _ => none

/-- `schema.fields[name]`; of two fields the later one. -/
def fieldType (fields : List (String × JsonType)) (name : String) : Option JsonType :=
  (fields.reverse.find? fun f => f.1 = name).map (·.2)

/-- `schema.folded`: the spelling of the field that a name folds to. -/
def canonicalName (fields : List (String × JsonType)) (name : String) : Option String :=
  (fields.reverse.find? fun f => foldRecoveryJSONName simpleFold f.1 = foldRecoveryJSONName simpleFold name).map (·.1)

def mapElement : Option JsonType → Option JsonType
  | some (.map element) => some element
  | _ => none

def listElement : Option JsonType → Option JsonType
  | some (.list element) => some element
  | _ => none

/-- What is expected at a place, and how deep it is. -/
structure RecoveryContext where
  expected : Option JsonType
  depth : Nat

def maxRecoveryJSONDepth : Nat := 64

def checkSchemaName (fields : List (String × JsonType)) (seen : List String) (name : String) : Result Unit :=
  match canonicalName simpleFold fields name with
  | none => pure ()
  | some canonical => do
    reject (seen.any fun other => foldRecoveryJSONName simpleFold other = foldRecoveryJSONName simpleFold name)
      (internal ("duplicate JSON object name \"" ++ name ++ "\" conflicts with schema field \"" ++ canonical ++ "\""))
    reject (name ≠ canonical)
      (internal ("JSON object name \"" ++ name ++ "\" must use exact schema spelling \"" ++ canonical ++ "\""))

def checkRecoveryName (context : RecoveryContext) (seen : List String) (name : String) : Result RecoveryContext := do
  reject (name ∈ seen) (internal ("duplicate JSON object name \"" ++ name ++ "\""))
  match recordFields context.expected with
  | none => pure ⟨mapElement context.expected, context.depth + 1⟩
  | some fields => do
    checkSchemaName simpleFold fields seen name
    pure ⟨fieldType fields name, context.depth + 1⟩

def recoveryWalker : Walker RecoveryContext Failure where
  enter context := reject (maxRecoveryJSONDepth < context.depth) (internal "JSON nesting exceeds its depth limit")
  name := checkRecoveryName simpleFold
  item context := ⟨listElement context.expected, context.depth + 1⟩
  syntaxError := internal "invalid JSON"
  objectEnd := internal "invalid JSON object closing delimiter"
  arrayEnd := internal "invalid JSON array closing delimiter"

def rejectDuplicateRecoveryJSONNames (raw : List Nat) : Result Unit := do
  let _ ← (recoveryWalker simpleFold).text (internal "JSON contains trailing data") ⟨some persistedStateType, 0⟩ raw
  pure ()

end

/-! ## Decoders -/

/-- What a decoder has read. -/
inductive Decoded where
  | leaf (v : Value)
  | items (values : List Decoded)
  | fields (values : List (String × Decoded))

/-- How a decoder finds the field of a member: a field of the very name is taken, and any other one only if the
two names fold alike. -/
structure Matching (simpleFold : Char → Char) where
  assign : List String → String → Option String
  exact : ∀ {fields name}, name ∈ fields → assign fields name = some name
  folds : ∀ {fields name field}, assign fields name = some field →
    field ∈ fields ∧ foldName simpleFold name = foldName simpleFold field

/-- Which of several members for one field wins. -/
structure Choice where
  choose : List Decoded → Option Decoded
  choose_nil : choose [] = none
  choose_one : ∀ d, choose [d] = some d

/-- The way of `encoding/json`. -/
def jsonMatching (simpleFold : Char → Char) : Matching simpleFold where
  assign := assignField simpleFold
  exact h := if_pos h
  folds {fields name field} h := by
    unfold assignField at h
    split at h
    · rename_i hmem
      cases h
      exact ⟨hmem, rfl⟩
    · have hfold := List.find?_some h
      exact ⟨List.mem_of_find?_eq_some h, (of_decide_eq_true hfold).symm⟩

namespace Matching

variable {simpleFold : Char → Char} (m : Matching simpleFold) (c : Choice)

/-- Where a member goes: to a field of a structure, or to the entry of its name. -/
def slot (expected : Option JsonType) (name : String) : Option String :=
  match recordFields expected with
  | some fields => m.assign (fields.map (·.1)) name
  | none => some name

/-- What is expected of a member. -/
def inner (expected : Option JsonType) (name : String) : Option JsonType :=
  match recordFields expected with
  | some fields => (m.assign (fields.map (·.1)) name).bind (fieldType fields)
  | none => mapElement expected

/-- One value for each place that something goes to. -/
def collect (parts : List (String × Decoded)) : List (String × Decoded) :=
  (parts.map (·.1)).dedup.filterMap fun place =>
    (c.choose ((parts.filter fun part => part.1 = place).map (·.2))).map fun d => (place, d)

mutual

/-- A decoder that skips members without a field. -/
def read : Option JsonType → Value → Decoded
  | expected, .array items => .items (readItems (listElement expected) items)
  | expected, .object members => .fields (collect c (readMembers expected members))
  | _, v => .leaf v

def readItems : Option JsonType → List Value → List Decoded
  | _, [] => []
  | expected, v :: vs => read expected v :: readItems expected vs

def readMembers : Option JsonType → List (String × Value) → List (String × Decoded)
  | _, [] => []
  | expected, (name, v) :: ms =>
    ((m.slot expected name).map fun place => (place, read (m.inner expected name) v)).toList ++ readMembers expected ms

end

mutual

/-- No object at any depth has two members that go to one place, or one name twice. -/
def Unambiguous : Option JsonType → Value → Prop
  | expected, .array items => UnambiguousItems (listElement expected) items
  | expected, .object members => (members.map (·.1)).Nodup ∧
      (members.filterMap fun member => m.slot expected member.1).Nodup ∧ UnambiguousMembers expected members
  | _, _ => True

def UnambiguousItems : Option JsonType → List Value → Prop
  | _, [] => True
  | expected, v :: vs => Unambiguous expected v ∧ UnambiguousItems expected vs

def UnambiguousMembers : Option JsonType → List (String × Value) → Prop
  | _, [] => True
  | expected, (name, v) :: ms => Unambiguous (m.inner expected name) v ∧ UnambiguousMembers expected ms

end

/-! ## Accepted texts -/

theorem canonicalName_eq_none {fields : List (String × JsonType)} {name : String} :
    canonicalName simpleFold fields name = none ↔
      ∀ field ∈ fields.map (·.1), foldName simpleFold field ≠ foldName simpleFold name := by
  simp only [canonicalName, Option.map_eq_none_iff, List.find?_eq_none, List.mem_reverse, decide_eq_true_eq,
    List.forall_mem_map]
  exact Iff.rfl

theorem mem_of_canonicalName {fields : List (String × JsonType)} {name canonical : String}
    (h : canonicalName simpleFold fields name = some canonical) : canonical ∈ fields.map (·.1) := by
  obtain ⟨field, hfield, rfl⟩ := Option.map_eq_some_iff.mp h
  exact List.mem_map_of_mem (List.mem_reverse.mp (List.mem_of_find?_eq_some hfield))

/-- What the check of a name says: it is a new name, it goes to no place that an earlier one went to, and the
type it is walked along is the one it is decoded to. -/
theorem checkRecoveryName_spec {context inner : RecoveryContext} {seen : List String} {name : String}
    (h : checkRecoveryName simpleFold context seen name = .ok inner) :
    name ∉ seen ∧ (∀ other ∈ seen, ∀ place, m.slot context.expected other = some place →
      m.slot context.expected name ≠ some place) ∧ inner.expected = m.inner context.expected name := by
  simp only [checkRecoveryName, bind_unit_eq_ok, reject_eq_ok] at h
  obtain ⟨hnew, h⟩ := h
  refine ⟨hnew, ?_⟩
  simp only [slot, Matching.inner]
  cases hrecord : recordFields context.expected with
  | none =>
    rw [hrecord] at h
    obtain rfl := pure_eq_ok.mp h
    refine ⟨?_, rfl⟩
    rintro other hother place hplace heq
    rw [Option.some.injEq] at hplace heq
    exact hnew (heq.trans hplace.symm ▸ hother)
  | some fields =>
    simp only [hrecord, bind_unit_eq_ok, pure_eq_ok] at h
    obtain ⟨hname, rfl⟩ := h
    dsimp only
    cases hcanonical : canonicalName simpleFold fields name with
    | none =>
      -- no field folds to the name, so it goes nowhere
      have hunknown := canonicalName_eq_none.mp hcanonical
      have hassign : m.assign (fields.map (·.1)) name = none := by
        cases hassign : m.assign (fields.map (·.1)) name with
        | none => rfl
        | some field => exact absurd (m.folds hassign).2.symm (hunknown field (m.folds hassign).1)
      have htype : fieldType fields name = none := by
        rw [fieldType, Option.map_eq_none_iff, List.find?_eq_none]
        intro field hfield heq
        rw [decide_eq_true_eq] at heq
        exact hunknown field.1 (List.mem_map_of_mem (List.mem_reverse.mp hfield)) (heq ▸ rfl)
      rw [hassign, htype]
      exact ⟨fun _ _ _ _ => by simp, rfl⟩
    | some canonical =>
      simp only [checkSchemaName, hcanonical, bind_unit_eq_ok, reject_eq_ok, ne_eq, not_not] at hname
      obtain ⟨hother, rfl⟩ := hname
      rw [m.exact (mem_of_canonicalName hcanonical)]
      refine ⟨?_, rfl⟩
      rintro other hmem place hplace heq
      cases heq
      -- an earlier name for the same field would have folded to the same
      refine hother (List.any_eq_true.mpr ⟨other, hmem, ?_⟩)
      exact decide_eq_true (m.folds hplace).2

/-- The members of an accepted object go to places that no earlier one went to. -/
theorem acceptsMembers_places {context : RecoveryContext} {ms : List (String × Value)} :
    ∀ {seen : List String}, (recoveryWalker simpleFold).AcceptsMembers context seen ms →
      (∀ other ∈ seen, ∀ member ∈ ms, other ≠ member.1 ∧ ∀ place, m.slot context.expected other = some place →
        m.slot context.expected member.1 ≠ some place) ∧
      (ms.map (·.1)).Nodup ∧ (ms.filterMap fun member => m.slot context.expected member.1).Nodup := by
  induction ms with
  | nil => simp
  | cons member ms ih =>
    obtain ⟨name, v⟩ := member
    intro seen h
    obtain ⟨⟨inner, hname, -⟩, hrest⟩ := h
    obtain ⟨hnew, hplace, -⟩ := checkRecoveryName_spec m hname
    obtain ⟨hseen, hnames, hplaces⟩ := ih hrest
    have hlater := hseen name (by simp)
    refine ⟨?_, ?_, ?_⟩
    · intro other hother member hmember
      rcases List.mem_cons.mp hmember with rfl | hmember
      · refine ⟨?_, hplace other hother⟩
        rintro rfl
        exact hnew hother
      · exact hseen other (List.mem_append_left _ hother) member hmember
    · rw [List.map_cons, List.nodup_cons]
      refine ⟨fun hmem => ?_, hnames⟩
      obtain ⟨member, hmember, heq⟩ := List.mem_map.mp hmem
      exact (hlater member hmember).1 heq.symm
    · rw [List.filterMap_cons]
      cases hslot : m.slot context.expected name with
      | none => exact hplaces
      | some place =>
        rw [List.nodup_cons]
        refine ⟨fun hmem => ?_, hplaces⟩
        obtain ⟨member, hmember, heq⟩ := List.mem_filterMap.mp hmem
        exact (hlater member hmember).2 place hslot heq

mutual

theorem unambiguous_of_accepts : (v : Value) → ∀ {context : RecoveryContext},
    (recoveryWalker simpleFold).Accepts context v → m.Unambiguous context.expected v
  | .array items, _, h => unambiguousItems_of_accepts items h.2
  | .object members, _, h =>
    have hplaces := acceptsMembers_places m h.2
    ⟨hplaces.2.1, hplaces.2.2, unambiguousMembers_of_accepts members h.2⟩
  | .null, _, _ => trivial
  | .bool _, _, _ => trivial
  | .number _, _, _ => trivial
  | .string _, _, _ => trivial

theorem unambiguousItems_of_accepts : (vs : List Value) → ∀ {context : RecoveryContext},
    (recoveryWalker simpleFold).AcceptsItems context vs → m.UnambiguousItems (listElement context.expected) vs
  | [], _, _ => trivial
  | v :: vs, _, h => ⟨unambiguous_of_accepts v h.1, unambiguousItems_of_accepts vs h.2⟩

theorem unambiguousMembers_of_accepts : (ms : List (String × Value)) → ∀ {context : RecoveryContext}
    {seen : List String}, (recoveryWalker simpleFold).AcceptsMembers context seen ms →
      m.UnambiguousMembers context.expected ms
  | [], _, _, _ => trivial
  | (name, v) :: ms, context, seen, h => by
    obtain ⟨⟨inner, hname, hin⟩, hrest⟩ := h
    obtain ⟨-, -, hinner⟩ := checkRecoveryName_spec m hname
    exact ⟨hinner ▸ unambiguous_of_accepts v hin, unambiguousMembers_of_accepts ms hrest⟩

end

/-! ## Decoders agree -/

/-- Where each place gets one value at most, nothing is chosen. -/
theorem collect_of_nodup (c c' : Choice) {parts : List (String × Decoded)} (h : (parts.map (·.1)).Nodup) :
    collect c parts = collect c' parts := by
  unfold collect
  refine List.filterMap_congr fun place _ => ?_
  have hone : ((parts.filter fun part => part.1 = place).map (·.2)).length ≤ 1 := by
    rw [List.length_map, ← List.countP_eq_length_filter]
    have hcount := List.nodup_iff_count_le_one.mp h place
    rw [List.count, List.countP_map] at hcount
    refine le_trans (le_of_eq (List.countP_congr fun part _ => ?_)) hcount
    simp
  cases hparts : (parts.filter fun part => part.1 = place).map (·.2) with
  | nil => rw [c.choose_nil, c'.choose_nil]
  | cons d rest =>
    have hrest : rest = [] := by
      rw [hparts, List.length_cons] at hone
      exact List.eq_nil_of_length_eq_zero (by omega)
    rw [hrest, c.choose_one, c'.choose_one]

theorem places_readMembers {expected : Option JsonType} (ms : List (String × Value)) :
    (m.readMembers c expected ms).map (·.1) = ms.filterMap fun member => m.slot expected member.1 := by
  induction ms with
  | nil => rfl
  | cons member ms ih =>
    obtain ⟨name, v⟩ := member
    rw [readMembers, List.map_append, ih, List.filterMap_cons]
    cases m.slot expected name <;> rfl

mutual

theorem read_eq (c c' : Choice) : (v : Value) → ∀ {expected : Option JsonType}, m.Unambiguous expected v →
    m.read c expected v = m.read c' expected v
  | .array items, _, h => by rw [read, read, readItems_eq c c' items h]
  | .object members, expected, h => by
    obtain ⟨-, hplaces, hmembers⟩ := h
    have hnodup : ((m.readMembers c' expected members).map (·.1)).Nodup := by rwa [places_readMembers]
    rw [read, read, readMembers_eq c c' members hmembers, collect_of_nodup c c' hnodup]
  | .null, _, _ => rfl
  | .bool _, _, _ => rfl
  | .number _, _, _ => rfl
  | .string _, _, _ => rfl

theorem readItems_eq (c c' : Choice) : (vs : List Value) → ∀ {expected : Option JsonType},
    m.UnambiguousItems expected vs → m.readItems c expected vs = m.readItems c' expected vs
  | [], _, _ => rfl
  | v :: vs, _, h => by rw [readItems, readItems, read_eq c c' v h.1, readItems_eq c c' vs h.2]

theorem readMembers_eq (c c' : Choice) : (ms : List (String × Value)) → ∀ {expected : Option JsonType},
    m.UnambiguousMembers expected ms → m.readMembers c expected ms = m.readMembers c' expected ms
  | [], _, _ => rfl
  | (name, v) :: ms, _, h => by
    rw [readMembers, readMembers, read_eq c c' v h.1, readMembers_eq c c' ms h.2]

end

end Matching

/-- No object of a text that the check accepts has two members that a decoder, by folding names as
`encoding/json` does or less, puts into one field, and decoders that differ only in which of several members
wins read the same. -/
theorem recovery_names_unambiguous (simpleFold : Char → Char) (raw : List Nat)
    (h : rejectDuplicateRecoveryJSONNames simpleFold raw = .ok ()) :
    ∃ v, readText raw = some v ∧ ∀ m : Matching simpleFold,
      m.Unambiguous (some persistedStateType) v ∧
        ∀ c c' : Choice, m.read c (some persistedStateType) v = m.read c' (some persistedStateType) v := by
  simp only [rejectDuplicateRecoveryJSONNames, bind_eq_ok, pure_eq_ok, and_true, Walker.text_eq_ok] at h
  obtain ⟨v, hread, haccepts⟩ := h
  refine ⟨v, hread, fun m => ?_⟩
  have hunambiguous := m.unambiguous_of_accepts v haccepts
  exact ⟨hunambiguous, fun c c' => m.read_eq c c' v hunambiguous⟩

/-- A snapshot of one network, with a name that no field has. -/
def snapshotText : String := "\x7b\"version\": 9, \"networks\": [\x7b\"id\": \"a\", \"ID-\": null\x7d]\x7d"

theorem recovery_names_unambiguous_snapshotText :
    ∃ v, readText (utf8Bytes snapshotText) = some v ∧ ∀ m : Matching Char.toUpper,
      m.Unambiguous (some persistedStateType) v ∧
        ∀ c c' : Choice, m.read c (some persistedStateType) v = m.read c' (some persistedStateType) v :=
  recovery_names_unambiguous Char.toUpper (utf8Bytes snapshotText) (by decide +kernel)

end Mesh
