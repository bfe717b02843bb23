import Mesh.Control.Settings

/-!
# Mesh.Control.CaRotation

Bounds on stored texts and key material, and the replacement of a network's CA: `prepared` publishes
the next CA beside the current one, `rotating` signs with the next one, `finalizing` (or `aborting`)
publishes the surviving CA alone, and completion returns to the stable state.
-/

namespace Mesh

/-! ## Bounded texts and key material -/

def secretBoxNonceBytes : Nat := 12
def secretBoxTagBytes : Nat := 16
def maxNebulaCAPrivateKeySize : Nat := 4096
def maxNebulaCACertificateSize : Nat := 131072
def maxNebulaCATrustBundleSize : Nat := 2 * maxNebulaCACertificateSize
def maxNebulaHostCertificateSize : Nat := 131072
def maxEncryptedCAKeyBytes : Nat :=
  ((maxNebulaCAPrivateKeySize + secretBoxNonceBytes + secretBoxTagBytes) * 8 + 5) / 6
def encryptedConfigSigningKeyBytes : Nat := ((64 + secretBoxNonceBytes + secretBoxTagBytes) * 8 + 5) / 6

/-- Texts of the model are valid UTF-8. -/
def validBoundedUTF8 (value : String) (maxBytes : Nat) (allowEmpty : Bool) : Bool :=
  (allowEmpty || value ≠ "") && value.utf8ByteSize ≤ maxBytes

def validBoundedPlainText (value : String) (maxBytes : Nat) (allowEmpty : Bool) : Bool :=
  validBoundedUTF8 value maxBytes allowEmpty &&
    value.toList.all fun c => 0x20 ≤ c.toNat && c.toNat ≠ 0x7f

def validateCanonicalRawURLBase64 (value : String) (maxEncoded minDecoded maxDecoded : Nat) :
    Result Unit := do
  reject (value = "" ∨ maxEncoded < value.utf8ByteSize)
    (internal "value is empty, oversized, or not valid UTF-8")
  reject (¬ ((Base64.decode value).any fun bytes =>
      minDecoded ≤ bytes.length && bytes.length ≤ maxDecoded && Base64.encode bytes == value))
    (internal "value is not canonical raw URL base64 or has an invalid decoded size")

def validateEncryptedCAKey (value : String) : Result Unit :=
  validateCanonicalRawURLBase64 value maxEncryptedCAKeyBytes (secretBoxNonceBytes + secretBoxTagBytes + 1)
    (maxNebulaCAPrivateKeySize + secretBoxNonceBytes + secretBoxTagBytes)

def validConfigSigningPublicKey (value : String) : Bool :=
  value.utf8ByteSize == 43 && Base64.canonical 32 value

def validatePersistedNetworkMaterial (w : Network) : Result Unit := do
  reject (¬ validBoundedUTF8 w.caCertificate maxNebulaCACertificateSize false)
    (internal "CA certificate is empty, oversized, or not valid UTF-8")
  mapError (Failure.wrap "encrypted CA key") (validateEncryptedCAKey w.encryptedCAKey)
  reject (w.configSigningPublicKey ≠ "" ∧ ¬ validConfigSigningPublicKey w.configSigningPublicKey)
    (internal "config signing public key is not canonical")
  reject (w.encryptedConfigSigningKey ≠ "" ∧
      ¬ (w.encryptedConfigSigningKey.utf8ByteSize = encryptedConfigSigningKeyBytes ∧
        Base64.canonical (64 + secretBoxNonceBytes + secretBoxTagBytes) w.encryptedConfigSigningKey))
    (internal "encrypted config signing key is not canonical")

def validateGeneratedCA (certificate privateKey : String) : Result Unit := do
  reject (¬ validBoundedUTF8 certificate maxNebulaCACertificateSize false)
    (internal "generated Nebula CA certificate is empty, oversized, or not valid UTF-8")
  reject (¬ validBoundedUTF8 privateKey maxNebulaCAPrivateKeySize false)
    (internal "generated Nebula CA private key is empty, oversized, or not valid UTF-8")

/-! ## Trust bundles -/

def concatenateCAs (first second : String) : String :=
  if second = "" then first
  else if hasSuffix first "\n" then first ++ second
  else first ++ "\n" ++ second

/-- The CA certificates nodes are told to trust. -/
def networkTrustBundle (w : Network) : String :=
  if w.caRotation.phase = .prepared ∨ w.caRotation.phase = .rotating then
    concatenateCAs w.caCertificate w.caRotation.nextCACertificate
  else w.caCertificate

/-- The CA that signs host certificates, and its sealed key. -/
def networkSigningAuthority (w : Network) : String × String :=
  if w.caRotation.phase = .rotating then
    (w.caRotation.nextCACertificate, w.caRotation.encryptedNextCAKey)
  else (w.caCertificate, w.encryptedCAKey)

def networkCARotationRequired (w : Network) (n : Node) : Bool :=
  w.caRotation.phase == .rotating &&
    n.certificateAuthoritySHA256 != w.caRotation.targetCACertificateSHA256

def validateNetworkCARotation (w : Network) : Result Unit := do
  let r := w.caRotation
  if r.phase = .stable then
    reject (r ≠ {}) (internal "stable CA rotation must have no transition metadata")
  else
    reject (¬ fingerprintPattern r.previousTrustBundleSHA256 ∨
        ¬ fingerprintPattern r.targetCACertificateSHA256 ∨ r.startedAt = 0 ∨ r.stageStartedAt = 0 ∨
        r.stageConfigRevision < 1 ∨ w.configRevision < r.stageConfigRevision)
      (internal "CA rotation lifecycle metadata is invalid")
    if r.phase = .prepared ∨ r.phase = .rotating then
      reject (¬ validBoundedUTF8 r.nextCACertificate maxNebulaCACertificateSize false)
        (internal "next CA certificate is empty, oversized, or invalid UTF-8")
      mapError (Failure.wrap "encrypted next CA key") (validateEncryptedCAKey r.encryptedNextCAKey)
      reject (configDigest r.nextCACertificate ≠ r.targetCACertificateSHA256 ∨
          r.nextCACertificate = w.caCertificate)
        (internal "next CA identity is inconsistent")
    else
      reject (r.nextCACertificate ≠ "" ∨ r.encryptedNextCAKey ≠ "")
        (internal "closing CA rotation retains next CA key material")
    reject (r.previousTrustBundleSHA256 = configDigest (networkTrustBundle w))
      (internal "CA rotation previous and current trust bundles are identical")

/-- The node has done what the stage waits for. -/
def caRotationNodeConverged (w : Network) (n : Node) : Bool :=
  if n.status ≠ .active then true
  else
    match w.caRotation.phase with
    | .prepared | .finalizing | .aborting => w.caRotation.stageConfigRevision ≤ n.appliedConfigRevision
    | .rotating =>
      n.certificateAuthoritySHA256 == w.caRotation.targetCACertificateSHA256 &&
        n.certificateGeneration ≤ n.appliedCertificateGeneration &&
        n.reportedCertificateFingerprint == n.certificateFingerprint &&
        w.caRotation.stageConfigRevision ≤ n.appliedConfigRevision
    | .stable => true

/-! ## Rotation -/

def hasResultFor (networkID : String) (r : AgentRecoveryToken) : Bool :=
  r.result.any fun b => b.networkID == networkID

def networkRecoveryReplayCount (s : State) (networkID : String) (now : Int) : Nat :=
  s.agentRecoveries.countP fun r => hasResultFor networkID r && now < r.expiresAt

/-- Drops the receipts that carry the trust bundle that is about to change. -/
def pruneExpiredNetworkRecoveryReplays (s : State) (networkID : String) (now : Int) : Result State := do
  reject (s.agentRecoveries.any fun r => hasResultFor networkID r && now < r.expiresAt)
    (conflict ("wait for " ++ toString (networkRecoveryReplayCount s networkID now) ++
      " in-flight agent recovery replay(s) to expire before changing the CA trust bundle"))
  pure { s with agentRecoveries := s.agentRecoveries.filter fun r => ¬ hasResultFor networkID r }

inductive CARotationAction where
  | prepare
  | activate
  | finalize
  | abort
  | complete
deriving DecidableEq

structure UpdateNetworkCARotationInput where
  action : CARotationAction
  expectedConfigRevision : Int

/-- The network stands at the revision a preparation asks for, with nothing in progress. -/
def caPreparationAllowed (networkID : String) (expectedConfigRevision : Int) (s : State) :
    Result Network := do
  let w ← require (findNetwork s networkID) errNotFound
  reject (s.version < controlStateVersionCARotation ∨ controlStateVersionFirewallScopes < s.version ∨
      w.caRotation.phase ≠ .stable ∨ w.firewallRollout.phase ≠ .stable ∨
      ¬ routeTransferTerminal w.routeTransfer ∨ ¬ routeProfileEditTerminal w.routeProfileEdit ∨
      w.configRevision ≠ expectedConfigRevision)
    (conflict "network is not at the requested stable revision")
  pure w

def finalizedRotation (w : Network) (now nextRevision : Int) : NetworkCARotation :=
  { w.caRotation with
    phase := .finalizing, nextCACertificate := "", encryptedNextCAKey := ""
    previousTrustBundleSHA256 := configDigest (networkTrustBundle w)
    stageStartedAt := now, stageConfigRevision := nextRevision }

def abortedRotation (w : Network) (now nextRevision : Int) : NetworkCARotation where
  phase := .aborting
  previousTrustBundleSHA256 := configDigest (networkTrustBundle w)
  targetCACertificateSHA256 := w.caRotation.targetCACertificateSHA256
  startedAt := w.caRotation.startedAt
  stageStartedAt := now
  stageConfigRevision := nextRevision

def preparedRotation (w : Network) (certificate sealedKey : String) (now nextRevision : Int) :
    NetworkCARotation where
  phase := .prepared
  nextCACertificate := certificate
  encryptedNextCAKey := sealedKey
  previousTrustBundleSHA256 := configDigest w.caCertificate
  targetCACertificateSHA256 := configDigest certificate
  startedAt := now
  stageStartedAt := now
  stageConfigRevision := nextRevision

/-- What an action does: the state without the pruned receipts, the changed network, the name of the
event and the details it adds. -/
def applyCARotation (action : CARotationAction) (generated : String × String) (now nextRevision : Int)
    (allConverged : Bool) (s : State) (w : Network) :
    Result (State × Network × String × AuditDetails) := do
  match action with
  | .prepare =>
    reject (w.caRotation.phase ≠ .stable ∨ w.firewallRollout.phase ≠ .stable ∨ generated.1 = "" ∨
        generated.2 = "")
      (conflict "CA rotation can only be prepared from stable state")
    let s ← pruneExpiredNetworkRecoveryReplays s w.id now
    pure (s, { w with caRotation := preparedRotation w generated.1 generated.2 now nextRevision },
      "network.ca_rotation_prepared", [("target_ca_sha256", .str (configDigest generated.1))])
  | .activate =>
    reject (w.caRotation.phase ≠ .prepared ∨ ¬ allConverged)
      (conflict "every active node must apply the prepared trust bundle before activation")
    pure (s, { w with caRotation := { w.caRotation with
      phase := .rotating, stageStartedAt := now, stageConfigRevision := nextRevision } },
      "network.ca_rotation_activated", [])
  | .finalize =>
    reject (w.caRotation.phase ≠ .rotating ∨ ¬ allConverged)
      (conflict "every active node must install a replacement certificate before finalization")
    let s ← pruneExpiredNetworkRecoveryReplays s w.id now
    pure (s, { w with
      caCertificate := w.caRotation.nextCACertificate
      encryptedCAKey := w.caRotation.encryptedNextCAKey
      caRotation := finalizedRotation w now nextRevision }, "network.ca_rotation_finalized", [])
  | .abort =>
    reject (w.caRotation.phase ≠ .prepared)
      (conflict "only a prepared CA rotation can be aborted")
    let s ← pruneExpiredNetworkRecoveryReplays s w.id now
    pure (s, { w with caRotation := abortedRotation w now nextRevision },
      "network.ca_rotation_aborted", [])
  | .complete =>
    reject ((w.caRotation.phase ≠ .finalizing ∧ w.caRotation.phase ≠ .aborting) ∨ ¬ allConverged)
      (conflict "every active node must apply the closing trust bundle before completion")
    pure (s, { w with caRotation := {} }, "network.ca_rotation_completed",
      [("outcome", .str (if w.caRotation.phase = .finalizing then "finalized" else "aborted"))])

/-- The transaction of a rotation action; `generated` is the CA certificate and sealed key that a
preparation created after `caPreparationAllowed`, and is empty for the other actions. -/
def updateNetworkCARotation (actor : Option Actor) (networkID : String)
    (input : UpdateNetworkCARotationInput) (generated : String × String) (eventID : String) (now : Int)
    (s : State) : Result State := do
  reject (¬ validPersistedID networkID ∨ input.expectedConfigRevision < 1)
    (invalid "network ID and expected_config_revision are required")
  reject (now = 0) (internal "CA rotation requires a valid timestamp")
  reject (s.version < controlStateVersionCARotation ∨ controlStateVersionFirewallScopes < s.version)
    (conflict "CA rotation schema is not current")
  let w ← require (findNetwork s networkID) errNotFound
  reject (w.configRevision ≠ input.expectedConfigRevision)
    (revisionConflict input.expectedConfigRevision w.configRevision)
  let allConverged := (s.nodes.filter fun n => n.networkID = w.id && n.status = .active).all
    (caRotationNodeConverged w)
  let nextRevision ← nextConfigRevision w.configRevision true
  let (s', w', action, details) ← applyCARotation input.action generated now nextRevision allConverged s w
  let event ← newOptionalAttributedAudit eventID now action "network" w.id
    ([("previous_config_revision", .int w.configRevision), ("config_revision", .int nextRevision)] ++
      details) actor
  pure (addAudit (putNetwork s' { w' with configRevision := nextRevision, configUpdatedAt := now }) event)

end Mesh
