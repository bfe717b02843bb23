import Mathlib.Data.List.Sort
import Mesh.Control.Basics
import Mesh.Control.Model
import Mesh.Lib.Calendar
import Mesh.Lib.Keyed

/-!
# Mesh.Control.State

Looking records up in a state and replacing them, the revision counter, and audit events with the
actor they are attributed to. Identifiers are unique in every stored state, so "the record at the
index of the loop" is the record with its identifier.
-/

namespace Mesh

/-! ## Records of a state -/

def findNetwork (s : State) (id : String) : Option Network := Keyed.lookup Network.id id s.networks

def findNode (s : State) (id : String) : Option Node := Keyed.lookup Node.id id s.nodes

def putNetwork (s : State) (w : Network) : State :=
  { s with networks := Keyed.put Network.id w s.networks }

def putNode (s : State) (n : Node) : State := { s with nodes := Keyed.put Node.id n s.nodes }

def putEnrollment (s : State) (e : EnrollmentToken) : State :=
  { s with enrollments := Keyed.put EnrollmentToken.id e s.enrollments }

def putRecovery (s : State) (r : AgentRecoveryToken) : State :=
  { s with agentRecoveries := Keyed.put AgentRecoveryToken.id r s.agentRecoveries }

/-- `state.Audit = append(state.Audit, event)`. -/
def addAudit (s : State) (e : AuditEvent) : State := { s with audit := s.audit ++ [e] }

/-- `sort.Strings`. -/
def sortStrings (xs : List String) : List String := xs.insertionSort (· ≤ ·)

/-! ## Versions -/

def controlStateVersionCredentialBinding : Int := 2
def controlStateVersionTopology : Int := 3
def controlStateVersionNetworkDNS : Int := 4
def controlStateVersionNetworkRelays : Int := 5
def controlStateVersionCARotation : Int := 6
def controlStateVersionFirewallRollout : Int := 7
def controlStateVersionFirewallPause : Int := 8
def controlStateVersionRouteTransfer : Int := 9
def controlStateVersionRouteProfileEdit : Int := 10
def controlStateVersionRoutePolicies : Int := 11
def controlStateVersionNativeDNS : Int := 12
def controlStateVersionFirewallScopes : Int := 13

/-! ## Revisions -/

/-- The next revision if the config changes; the largest `int64` has none. -/
def nextConfigRevision (current : Int) (changed : Bool) : Result Int := do
  if ¬ changed then pure current
  else
    reject (current = maxInt64) (conflict "network config revision is exhausted")
    pure (current + 1)

theorem nextConfigRevision_true {current next : Int} :
    nextConfigRevision current true = .ok next ↔ current ≠ maxInt64 ∧ current + 1 = next := by
  simp [nextConfigRevision]

/-! ## Actors -/

/-- The identity a mutation is attributed to. -/
structure Actor where
  id : String
  kind : String
  sessionID : String := ""
deriving DecidableEq

def actorKindOIDCAdmin : String := "oidc_admin"
def actorKindLegacyAdmin : String := "legacy_admin"
def actorKindServiceAccount : String := "service_account"
def actorKindBreakGlass : String := "break_glass"
def actorKindNodeAgent : String := "node_agent"
def legacyAdminActorID : String := "legacy_admin"

def auditActorIDKey : String := "actor_id"
def auditActorKindKey : String := "actor_kind"
def auditActorSessionIDKey : String := "actor_session_id"

/-- What follows `stem` in `s`, if `s` starts with it. -/
def afterStem (stem s : String) : Option String :=
  if stem.toList.isPrefixOf s.toList then some (String.ofList (s.toList.drop stem.toList.length))
  else none

def validateActorID (id kind sessionID : String) : Result Unit :=
  if kind = actorKindOIDCAdmin then
    reject (¬ ((afterStem "oidc_" id).any fun suffix =>
        suffix.utf8ByteSize == 43 && Base64.canonical 32 suffix))
      (invalid "oidc administrator actor id must contain a canonical SHA-256 base64url digest")
  else if kind = actorKindLegacyAdmin then
    reject (id ≠ legacyAdminActorID)
      (invalid ("legacy administrator actor id must be \"" ++ legacyAdminActorID ++ "\""))
  else if kind = actorKindServiceAccount then
    reject (¬ ((afterStem "service_" id).any validPersistedID))
      (invalid "service account actor id must use the canonical service record form")
  else if kind = actorKindBreakGlass then
    reject (¬ ((afterStem "breakglass_" id).any validPersistedID))
      (invalid "break-glass actor id must use the canonical code record form")
  else if kind = actorKindNodeAgent then
    reject (sessionID ≠ "") (invalid "node-agent actor cannot carry an administrator session")
  else .error (invalid ("unsupported actor kind \"" ++ kind ++ "\""))

def validateActor (actor : Actor) : Result Unit := do
  reject (¬ validPersistedID actor.id) (invalid "actor id must match [A-Za-z0-9_-]\x7b1,128\x7d")
  validateActorID actor.id actor.kind actor.sessionID
  reject (actor.sessionID ≠ "" ∧ ¬ validPersistedID actor.sessionID)
    (invalid "actor session id must be empty or match [A-Za-z0-9_-]\x7b1,128\x7d")

/-! ## Audit events -/

abbrev AuditDetails := List (String × AuditValue)

def AuditDetails.get (d : AuditDetails) (key : String) : Option AuditValue := List.lookup key d

def AuditDetails.has (d : AuditDetails) (key : String) : Bool := (d.get key).isSome

def AuditDetails.text? (d : AuditDetails) (key : String) : Option String :=
  match d.get key with
  | some (.str value) => some value
  | _ => none

def AuditDetails.bool? (d : AuditDetails) (key : String) : Option Bool :=
  match d.get key with
  | some (.bool value) => some value
  | _ => none

def AuditDetails.texts? (d : AuditDetails) (key : String) : Option (List String) :=
  match d.get key with
  | some (.strs values) => some values
  | _ => none

/-- `auditNonNegativeInteger`. -/
def AuditDetails.nat? (d : AuditDetails) (key : String) : Option Int :=
  match d.get key with
  | some (.int value) => if 0 ≤ value then some value else none
  | _ => none

/-- The event's random identifier is an argument. -/
def newAudit (eventID : String) (now : Int) (action resource id : String) (details : AuditDetails) :
    AuditEvent :=
  { id := eventID, action := action, resource := resource, resourceID := id, occurredAt := now,
    details := details }

def newAttributedAudit (eventID : String) (now : Int) (action resource id : String)
    (details : AuditDetails) (actor : Actor) : Result AuditEvent := do
  validateActor actor
  checkAll (fun key => reject (details.has key)
      (invalid ("audit detail key \"" ++ key ++ "\" is reserved for actor attribution")))
    [auditActorIDKey, auditActorKindKey, auditActorSessionIDKey]
  pure (newAudit eventID now action resource id (details ++
    [(auditActorIDKey, .str actor.id), (auditActorKindKey, .str actor.kind),
      (auditActorSessionIDKey, .str actor.sessionID)]))

def newOptionalAttributedAudit (eventID : String) (now : Int) (action resource id : String)
    (details : AuditDetails) : Option Actor → Result AuditEvent
  | none => .ok (newAudit eventID now action resource id details)
  | some actor => newAttributedAudit eventID now action resource id details actor

/-- An event keeps the action, the resource and the instant it was made with. -/
theorem newOptionalAttributedAudit_spec {eventID action resource id : String} {now : Int}
    {details : AuditDetails} {actor : Option Actor} {e : AuditEvent}
    (h : newOptionalAttributedAudit eventID now action resource id details actor = .ok e) :
    e.id = eventID ∧ e.action = action ∧ e.resource = resource ∧ e.resourceID = id ∧
      e.occurredAt = now := by
  cases actor with
  | none =>
    simp only [newOptionalAttributedAudit, Except.ok.injEq] at h
    subst h
    exact ⟨rfl, rfl, rfl, rfl, rfl⟩
  | some actor =>
    simp only [newOptionalAttributedAudit, newAttributedAudit, bind_unit_eq_ok, pure_eq_ok] at h
    obtain ⟨-, -, rfl⟩ := h
    exact ⟨rfl, rfl, rfl, rfl, rfl⟩

end Mesh
