import Mesh.Control.Crypto
import Mesh.Control.Model
import Mesh.Lib.X25519

/-!
# Mesh.NodeAgent.Model

The data of a node's agent and the checks it makes without asking anybody: what may be saved as state,
what a signed config must say to be accepted against the saved state, what makes a bundle complete, and
what a recovered or rotated credential must look like.

The agent has one server and one output directory. The fields that name them, and the version of the
state file, are left out together with their checks.
-/

namespace Mesh
namespace NodeAgent

/-! ## Errors -/

/-- An error of the agent. The first four are the sentinels that callers can test for. -/
inductive AgentError where
  | configRollback
  | configEquivocation
  | recoveryPending
  | recoveryResumeRequired
  /-- `APIError`: what the server answered instead of a result. -/
  | api (statusCode : Nat) (message : String)
  | text (message : String)
  /-- `fmt.Errorf("context: %w", cause)`. -/
  | wrap (context : String) (cause : AgentError)
  /-- `errors.Join`. -/
  | join (first second : AgentError)
  /-- `ConfigActivationError`. -/
  | activation (revision : Int) (digest : String) (cause : AgentError)
deriving DecidableEq, Repr

namespace AgentError

/-- `errors.Is`: the error or one that it wraps. -/
def is : AgentError → AgentError → Bool
  | wrap context cause, target => (wrap context cause == target) || cause.is target
  | join first second, target => (join first second == target) || first.is target || second.is target
  | activation revision digest cause, target =>
    (activation revision digest cause == target) || cause.is target
  | e, target => e == target

/-- The status of the first `APIError` that `errors.As` finds. -/
def apiStatus? : AgentError → Option Nat
  | api statusCode _ => some statusCode
  | wrap _ cause | activation _ _ cause => cause.apiStatus?
  | join first second => first.apiStatus? <|> second.apiStatus?
  | _ => none

/-- Errors of the control package have no sentinel the agent knows. -/
def ofFailure (f : Failure) : AgentError := .text f.text

end AgentError

abbrev Checked (α : Type) := Except AgentError α

/-! ## Identifiers and digests -/

def canonicalPublicKeyHash (publicKey : String) : String := hashToken (trimSpace publicKey ++ "\n")

def isIdentifierChar (c : Char) : Bool := isAlphanumeric c || c == '.' || c == '_' || c == '-'

def validIdentifier (value : String) : Bool :=
  let value := trimSpace value
  1 ≤ value.utf8ByteSize && value.utf8ByteSize ≤ 128 && value.toList.all isIdentifierChar

/-- Sixty-four hexadecimal digits in lower case. -/
def validDigest (value : String) : Bool := fingerprintPattern value

/-! ## The saved state -/

structure State where
  bearer : String := ""
  pendingBearer : String := ""
  pendingRecoveryToken : String := ""
  pendingRecoveryAllowsGenerationAdvance : Bool := false
  nodeID : String := ""
  networkID : String := ""
  configSigningPublicKey : String := ""
  caCertificateSHA256 : String := ""
  publicKeyHash : String := ""
  appliedConfigRevision : Int := 0
  appliedConfigSHA256 : String := ""
  lastSuccessfulConfigAt : Int := 0
  certificateFingerprint : String := ""
  certificateGeneration : Int := 0
  certificateExpiresAt : Int := 0
  certificateRenewAfter : Int := 0
  agentCredentialExpiresAt : Int := 0
  agentCredentialGeneration : Int := 0
  heartbeatSequence : Int := 0
  bootID : String := ""
deriving DecidableEq, Inhabited

def State.validate (s : State) : Checked Unit := do
  reject (¬ validBearerToken s.bearer) (.text "agent bearer is missing or too short")
  reject (s.pendingBearer ≠ "" ∧ ¬ validBearerToken s.pendingBearer)
    (.text "pending agent bearer is too short")
  reject (s.pendingBearer ≠ "" ∧ s.pendingBearer = s.bearer)
    (.text "pending agent bearer must differ from the active bearer")
  reject (s.pendingRecoveryToken ≠ "" ∧ ¬ validBearerToken s.pendingRecoveryToken)
    (.text "pending agent recovery token is invalid")
  reject (s.pendingRecoveryToken ≠ "" ∧ s.pendingBearer = "")
    (.text "pending agent recovery token requires a pending bearer")
  reject (s.pendingRecoveryAllowsGenerationAdvance ∧ s.pendingRecoveryToken = "")
    (.text "recovery generation advance is only valid for a pending agent recovery")
  reject (¬ validIdentifier s.nodeID ∨ ¬ validIdentifier s.networkID)
    (.text "node and network IDs are required")
  reject (((Base64.decode s.configSigningPublicKey).filter (·.length = 32)).isNone)
    (.text "invalid pinned config-signing public key")
  reject (¬ validDigest s.caCertificateSHA256) (.text "invalid pinned CA certificate digest")
  reject (¬ validTokenHash s.publicKeyHash) (.text "invalid pinned node public-key hash")
  reject (s.appliedConfigRevision < 0 ∨ s.heartbeatSequence < 0)
    (.text "agent revisions and sequences cannot be negative")
  reject (s.appliedConfigRevision = 0 ∧ s.appliedConfigSHA256 ≠ "")
    (.text "config digest cannot be set without an applied revision")
  reject (0 < s.appliedConfigRevision ∧ ¬ validDigest s.appliedConfigSHA256)
    (.text "applied config digest is invalid")
  reject (¬ validDigest s.certificateFingerprint) (.text "certificate fingerprint is invalid")
  reject (s.certificateGeneration < 1) (.text "certificate generation must be positive")
  reject (s.certificateExpiresAt = 0 ∨ s.certificateRenewAfter = 0 ∨
      ¬ s.certificateRenewAfter < s.certificateExpiresAt)
    (.text "certificate expiry and signed renewal time are invalid")
  reject (s.agentCredentialExpiresAt = 0) (.text "agent credential expiry is required")
  reject (¬ validIdentifier s.bootID) (.text "boot ID is invalid")
  reject (s.agentCredentialGeneration < 1) (.text "agent credential generation must be positive")

def rejectPendingAgentRecovery (s : State) : Checked Unit :=
  reject (s.pendingRecoveryToken ≠ "") .recoveryPending

/-! ## Bundles -/

/-- The private and the public half of the node's key, as PEM texts. -/
structure KeyPair where
  privateKey : String := ""
  publicKey : String := ""
deriving DecidableEq, Inhabited

/-- A signed config together with everything Nebula needs to run it. -/
structure Bundle where
  nodeID : String := ""
  networkID : String := ""
  revision : Int := 0
  issuedAt : Int := 0
  digest : String := ""
  signature : String := ""
  caCertificateSHA256 : String := ""
  previousCACertificateSHA256 : String := ""
  caRotationRequired : Bool := false
  certificateProfileRenewalRequired : Bool := false
  certificateFingerprint : String := ""
  certificateExpiresAt : Int := 0
  certificateRenewAfter : Int := 0
  certificateGeneration : Int := 0
  publicKeyHash : String := ""
  signedConfig : String := ""
  caCertificate : String := ""
  certificate : String := ""
  privateKey : String := ""
  publicKey : String := ""
deriving DecidableEq, Inhabited

def Bundle.signatureMetadata (b : Bundle) : ConfigSignatureMetadata where
  nodeID := b.nodeID
  networkID := b.networkID
  revision := b.revision
  issuedAt := b.issuedAt
  caCertificateSHA256 := b.caCertificateSHA256
  previousCACertificateSHA256 := b.previousCACertificateSHA256
  caRotationRequired := b.caRotationRequired
  certificateProfileRenewalRequired := b.certificateProfileRenewalRequired
  certificateFingerprint := b.certificateFingerprint
  certificateExpiresAt := b.certificateExpiresAt
  certificateRenewAfter := b.certificateRenewAfter
  certificateGeneration := b.certificateGeneration
  publicKeyHash := b.publicKeyHash

/-- The bundle with the signed config and what is signed with it replaced. -/
def Bundle.withDesired (b : Bundle) (desired : AgentConfig) : Bundle :=
  { b with
    revision := desired.revision
    issuedAt := desired.issuedAt
    digest := desired.sha256
    signature := desired.signature
    caCertificateSHA256 := desired.caCertificateSHA256
    previousCACertificateSHA256 := desired.previousCACertificateSHA256
    caRotationRequired := desired.caRotationRequired
    certificateProfileRenewalRequired := desired.certificateProfileRenewalRequired
    certificateFingerprint := desired.certificateFingerprint
    certificateExpiresAt := desired.certificateExpiresAt
    certificateRenewAfter := desired.certificateRenewAfter
    publicKeyHash := desired.publicKeyHash
    certificateGeneration := desired.certificateGeneration
    signedConfig := desired.config }

/-- A bundle of an answer that carries the certificate and the trust bundle as well. -/
def bundleOf (nodeID networkID : String) (desired : AgentConfig) (ca certificate : String)
    (keys : KeyPair) : Bundle :=
  ({ nodeID := nodeID, networkID := networkID, caCertificate := ca, certificate := certificate
     privateKey := keys.privateKey, publicKey := keys.publicKey } : Bundle).withDesired desired

/-- What a bootstrap says, in the form of a fetched config. -/
def desiredOfBootstrap (b : EnrollmentBundle) : AgentConfig where
  nodeID := b.nodeID
  networkID := b.networkID
  revision := b.configRevision
  config := b.config
  issuedAt := b.configIssuedAt
  sha256 := b.configSHA256
  signature := b.configSignature
  caCertificateSHA256 := b.caCertificateSHA256
  previousCACertificateSHA256 := b.previousCACertificateSHA256
  caRotationRequired := b.caRotationRequired
  certificateProfileRenewalRequired := b.certificateProfileRenewalRequired
  certificateFingerprint := b.certificateFingerprint
  publicKeyHash := b.publicKeyHash
  certificateGeneration := b.certificateGeneration
  certificateExpiresAt := b.certificateExpiresAt
  certificateRenewAfter := b.certificateRenewAfter

/-- What a renewal says, in the form of a fetched config. -/
def desiredOfRenewal (b : RenewalBundle) : AgentConfig where
  nodeID := b.nodeID
  networkID := b.networkID
  revision := b.configRevision
  config := b.config
  issuedAt := b.configIssuedAt
  sha256 := b.configSHA256
  signature := b.configSignature
  caCertificateSHA256 := b.caCertificateSHA256
  previousCACertificateSHA256 := b.previousCACertificateSHA256
  caRotationRequired := b.caRotationRequired
  certificateProfileRenewalRequired := b.certificateProfileRenewalRequired
  certificateFingerprint := b.certificateFingerprint
  publicKeyHash := b.publicKeyHash
  certificateGeneration := b.certificateGeneration
  certificateExpiresAt := b.certificateExpiresAt
  certificateRenewAfter := b.certificateRenewAfter

def sameSignedArtifact (current : Bundle) (desired : AgentConfig) : Bool :=
  current.nodeID = desired.nodeID &&
    current.networkID = desired.networkID &&
    current.revision = desired.revision &&
    current.issuedAt = desired.issuedAt &&
    current.digest = desired.sha256 &&
    current.signature = desired.signature &&
    current.caCertificateSHA256 = desired.caCertificateSHA256 &&
    current.previousCACertificateSHA256 = desired.previousCACertificateSHA256 &&
    current.caRotationRequired = desired.caRotationRequired &&
    current.certificateProfileRenewalRequired = desired.certificateProfileRenewalRequired &&
    current.certificateFingerprint = desired.certificateFingerprint &&
    current.certificateExpiresAt = desired.certificateExpiresAt &&
    current.certificateRenewAfter = desired.certificateRenewAfter &&
    current.certificateGeneration = desired.certificateGeneration &&
    current.publicKeyHash = desired.publicKeyHash &&
    current.signedConfig = desired.config

def maxBundleFileSize : Nat := maxManagedConfigBytes

/-- The texts of a bundle by name; the source ranges over them in no fixed order. -/
def Bundle.texts (b : Bundle) : List (String × String) := [
  ("config", b.signedConfig), ("CA certificate", b.caCertificate),
  ("node certificate", b.certificate), ("private key", b.privateKey), ("public key", b.publicKey)]

def checkBundleText (named : String × String) : Checked Unit := do
  reject (named.2 = "") (.text ("bundle " ++ named.1 ++ " is empty"))
  reject (maxBundleFileSize < named.2.utf8ByteSize) (.text ("bundle " ++ named.1 ++ " exceeds size limit"))

def validateBundle (bundle : Bundle)
    (nodeID networkID signingPublicKey caCertificateSHA256 publicKeyHash : String) : Checked Unit := do
  reject (nodeID = "" ∨ networkID = "" ∨ signingPublicKey = "" ∨ ¬ validDigest caCertificateSHA256 ∨
      ¬ validTokenHash publicKeyHash)
    (.text "pinned node identity, config-signing key, CA certificate, and public key are required")
  reject (bundle.nodeID ≠ nodeID ∨ bundle.networkID ≠ networkID)
    (.text "bundle identity does not match the pinned node")
  reject (bundle.revision < 1 ∨ ¬ validDigest bundle.digest)
    (.text "bundle revision or digest is invalid")
  mapError (fun f => .wrap "verify bundle config signature" (.ofFailure f))
    (verifyConfig signingPublicKey bundle.signatureMetadata bundle.signedConfig bundle.digest
      bundle.signature)
  reject (bundle.caCertificateSHA256 ≠ caCertificateSHA256 ∨
      configDigest bundle.caCertificate ≠ caCertificateSHA256)
    (.text "bundle CA certificate does not match the enrollment pin")
  reject (bundle.publicKeyHash ≠ publicKeyHash ∨ canonicalPublicKeyHash bundle.publicKey ≠ publicKeyHash)
    (.text "bundle public key does not match the enrollment pin")
  checkAll checkBundleText bundle.texts

/-! ## Signed configs against the saved state -/

/-- What is compared of an artifact, whether it is saved, live or fetched. -/
structure Applied where
  revision : Int
  digest : String
  caCertificateSHA256 : String
  certificateFingerprint : String
  certificateGeneration : Int
  certificateExpiresAt : Int
  certificateRenewAfter : Int
deriving DecidableEq

def State.applied (s : State) : Applied where
  revision := s.appliedConfigRevision
  digest := s.appliedConfigSHA256
  caCertificateSHA256 := s.caCertificateSHA256
  certificateFingerprint := s.certificateFingerprint
  certificateGeneration := s.certificateGeneration
  certificateExpiresAt := s.certificateExpiresAt
  certificateRenewAfter := s.certificateRenewAfter

def Bundle.applied (b : Bundle) : Applied where
  revision := b.revision
  digest := b.digest
  caCertificateSHA256 := b.caCertificateSHA256
  certificateFingerprint := b.certificateFingerprint
  certificateGeneration := b.certificateGeneration
  certificateExpiresAt := b.certificateExpiresAt
  certificateRenewAfter := b.certificateRenewAfter

def appliedOf (desired : AgentConfig) : Applied where
  revision := desired.revision
  digest := desired.sha256
  caCertificateSHA256 := desired.caCertificateSHA256
  certificateFingerprint := desired.certificateFingerprint
  certificateGeneration := desired.certificateGeneration
  certificateExpiresAt := desired.certificateExpiresAt
  certificateRenewAfter := desired.certificateRenewAfter

def verifySignedConfig (state : State) (desired : AgentConfig) : Checked Unit := do
  reject (desired.nodeID ≠ state.nodeID ∨ desired.networkID ≠ state.networkID)
    (.text "signed config identity does not match enrolled node")
  reject (desired.revision < 1 ∨ ¬ validDigest desired.sha256)
    (.text "signed config revision or digest is invalid")
  reject (desired.publicKeyHash ≠ state.publicKeyHash)
    (.text "signed config CA or public key does not match the enrollment pin")
  mapError (fun f => .wrap "verify pinned config signature" (.ofFailure f))
    (verifyConfig state.configSigningPublicKey desired.signatureMetadata desired.config desired.sha256
      desired.signature)
  reject (desired.caCertificateSHA256 ≠ state.caCertificateSHA256 ∧
      desired.previousCACertificateSHA256 ≠ state.caCertificateSHA256)
    (.text "signed config CA or public key transition does not descend from the enrollment pin")
  reject (desired.revision < state.appliedConfigRevision) .configRollback
  reject (desired.certificateGeneration < state.certificateGeneration) .configRollback
  reject (desired.certificateGeneration = state.certificateGeneration ∧
      state.certificateFingerprint ≠ "" ∧
      (desired.certificateFingerprint ≠ state.certificateFingerprint ∨
        desired.certificateExpiresAt ≠ state.certificateExpiresAt ∨
        desired.certificateRenewAfter ≠ state.certificateRenewAfter)) .configEquivocation
  reject (desired.revision = state.appliedConfigRevision ∧ 0 < state.appliedConfigRevision ∧
      desired.sha256 ≠ state.appliedConfigSHA256) .configEquivocation

def verifyBootstrapBundle (state : State) (keys : KeyPair) (bootstrap : EnrollmentBundle) :
    Checked (AgentConfig × Bundle) := do
  reject (bootstrap.configSigningPublicKey ≠ state.configSigningPublicKey)
    (.text "bootstrap config-signing key does not match the enrollment pin")
  reject (canonicalPublicKeyHash keys.publicKey ≠ state.publicKeyHash)
    (.text "bootstrap keypair does not match the enrolled public-key pin")
  let desired := desiredOfBootstrap bootstrap
  verifySignedConfig state desired
  let bundle := bundleOf desired.nodeID desired.networkID desired bootstrap.ca bootstrap.certificate keys
  validateBundle bundle state.nodeID state.networkID state.configSigningPublicKey
    desired.caCertificateSHA256 state.publicKeyHash
  pure (desired, bundle)

/-- The state after the artifact was activated. -/
def State.activated (state : State) (desired : AgentConfig) (certificateExpiresAt : Int) : State :=
  { state with
    appliedConfigRevision := desired.revision
    appliedConfigSHA256 := desired.sha256
    caCertificateSHA256 := desired.caCertificateSHA256
    certificateFingerprint := desired.certificateFingerprint
    certificateGeneration := desired.certificateGeneration
    certificateExpiresAt := certificateExpiresAt
    certificateRenewAfter := desired.certificateRenewAfter }

/-- The state after a bootstrap was activated, which tells the credential as well. -/
def State.bootstrapped (state : State) (bootstrap : EnrollmentBundle) (certificateExpiresAt : Int) : State :=
  { state.activated (desiredOfBootstrap bootstrap) certificateExpiresAt with
    agentCredentialExpiresAt := bootstrap.agentCredentialExpiresAt
    agentCredentialGeneration := bootstrap.agentCredentialGeneration }

/-- The live bundle is older than the saved state or contradicts it. -/
def checkLiveBundle (state : State) (current : Bundle) : Checked Unit := do
  reject (current.revision < state.appliedConfigRevision ∨
      current.certificateGeneration < state.certificateGeneration) .configRollback
  reject (current.revision = state.appliedConfigRevision ∧ 0 < state.appliedConfigRevision ∧
      current.digest ≠ state.appliedConfigSHA256) .configEquivocation
  reject (current.certificateGeneration = state.certificateGeneration ∧
      (current.certificateFingerprint ≠ state.certificateFingerprint ∨
        current.certificateExpiresAt ≠ state.certificateExpiresAt ∨
        current.certificateRenewAfter ≠ state.certificateRenewAfter)) .configEquivocation

/-- The saved state does not say what the live bundle says. -/
def liveBundleChanged (state : State) (current : Bundle) : Bool :=
  state.appliedConfigRevision < current.revision ||
    state.certificateGeneration < current.certificateGeneration ||
    current.digest != state.appliedConfigSHA256 ||
    current.certificateFingerprint != state.certificateFingerprint ||
    current.certificateExpiresAt != state.certificateExpiresAt ||
    current.certificateRenewAfter != state.certificateRenewAfter

/-- The state brought up to the live bundle. -/
def State.reconciled (state : State) (current : Bundle) : State :=
  { state with
    appliedConfigRevision := current.revision
    appliedConfigSHA256 := current.digest
    caCertificateSHA256 := current.caCertificateSHA256
    certificateFingerprint := current.certificateFingerprint
    certificateGeneration := current.certificateGeneration
    certificateExpiresAt := current.certificateExpiresAt
    certificateRenewAfter := current.certificateRenewAfter }

/-! ## Credentials -/

structure CredentialRotation where
  generation : Int
  expiresAt : Int
deriving DecidableEq, Inhabited

/-- The longest lifetime of a credential the agent accepts. -/
def maxCredentialLifetime : Int := 366 * 24 * Calendar.hour

def validateCredentialRotation (state : State) (rotation : CredentialRotation) (now : Int) :
    Checked Unit := do
  reject (rotation.generation ≠ inc64 state.agentCredentialGeneration)
    (.text "agent credential rotation returned a non-monotonic generation")
  reject (¬ now + Calendar.hour < rotation.expiresAt ∨ now + maxCredentialLifetime < rotation.expiresAt)
    (.text "agent credential rotation returned an invalid expiry")

/-- The generation a recovery may lead to. -/
def validRecoveryGeneration (state : State) (receipt : RecoveryReceipt) : Bool :=
  if state.pendingRecoveryAllowsGenerationAdvance then
    state.agentCredentialGeneration < receipt.agentCredentialGeneration
  else
    state.agentCredentialGeneration ≠ maxInt64 &&
      receipt.agentCredentialGeneration = state.agentCredentialGeneration + 1

def verifyRecoveredAgentBundle (state : State) (keys : KeyPair) (recovered : AgentRecoveryBundle)
    (pendingBearer : String) (now : Int) : Checked (AgentConfig × Bundle) := do
  let receipt := recovered.recoveryReceipt
  mapError (fun f => .wrap "verify pinned agent recovery receipt" (.ofFailure f))
    (verifyRecoveryReceipt state.configSigningPublicKey receipt)
  reject (¬ validRecoveryGeneration state receipt)
    (.text "agent recovery returned a non-monotonic credential generation")
  reject (receipt.nodeID ≠ state.nodeID ∨ receipt.networkID ≠ state.networkID)
    (.text "agent recovery receipt identity does not match the enrolled node")
  reject (¬ tokenHashEqual receipt.newAgentTokenHash (hashToken pendingBearer))
    (.text "agent recovery receipt does not authorize the pending bearer")
  reject (receipt.agentCredentialGeneration ≠ recovered.agentCredentialGeneration ∨
      receipt.agentCredentialExpiresAt ≠ recovered.agentCredentialExpiresAt)
    (.text "agent recovery receipt credential metadata does not match the bootstrap")
  reject (¬ now < receipt.agentCredentialExpiresAt ∨
      now + maxCredentialLifetime < receipt.agentCredentialExpiresAt)
    (.text "agent recovery returned an invalid credential expiry")
  reject (receipt.configSHA256 ≠ recovered.configSHA256 ∨
      receipt.configSignature ≠ recovered.configSignature)
    (.text "agent recovery receipt does not match the signed bootstrap artifact")
  mapError (.wrap "verify recovered signed bootstrap")
    (verifyBootstrapBundle state keys recovered.toEnrollmentBundle)

/-- The bootstrap fetched with the recovered bearer against the one the recovery returned. -/
def validateRecoveryBootstrapAdvance (recovered confirmed : EnrollmentBundle) (receipt : RecoveryReceipt) :
    Checked Unit := do
  reject (confirmed.nodeID ≠ recovered.nodeID ∨ confirmed.networkID ≠ recovered.networkID ∨
      confirmed.configSigningPublicKey ≠ recovered.configSigningPublicKey ∨
      confirmed.caCertificateSHA256 ≠ recovered.caCertificateSHA256 ∨
      confirmed.previousCACertificateSHA256 ≠ recovered.previousCACertificateSHA256 ∨
      confirmed.publicKeyHash ≠ recovered.publicKeyHash ∨ confirmed.ca ≠ recovered.ca)
    (.text "recovered bearer returned bootstrap data for different trust pins or identity")
  reject (confirmed.agentCredentialGeneration ≠ receipt.agentCredentialGeneration ∨
      confirmed.agentCredentialExpiresAt ≠ receipt.agentCredentialExpiresAt)
    (.text "recovered bearer did not confirm the receipt-authorized credential metadata")
  reject (confirmed.configRevision < recovered.configRevision ∨
      confirmed.certificateGeneration < recovered.certificateGeneration) .configRollback
  reject (confirmed.configRevision = recovered.configRevision ∧
      (confirmed.configSHA256 ≠ recovered.configSHA256 ∨ confirmed.config ≠ recovered.config))
    .configEquivocation
  reject (confirmed.certificateGeneration = recovered.certificateGeneration ∧
      (confirmed.certificateFingerprint ≠ recovered.certificateFingerprint ∨
        confirmed.certificateExpiresAt ≠ recovered.certificateExpiresAt ∨
        confirmed.certificateRenewAfter ≠ recovered.certificateRenewAfter ∨
        confirmed.certificate ≠ recovered.certificate)) .configEquivocation
  reject (confirmed.configRevision = recovered.configRevision ∧
      confirmed.certificateGeneration = recovered.certificateGeneration ∧
      (confirmed.configIssuedAt ≠ recovered.configIssuedAt ∨
        confirmed.configSignature ≠ recovered.configSignature)) .configEquivocation

/-! ## The recovery key pair -/

def nebulaX25519PrivateHeader : String := "-----BEGIN NEBULA X25519 PRIVATE KEY-----"
def nebulaX25519PrivateFooter : String := "-----END NEBULA X25519 PRIVATE KEY-----"
def nebulaX25519PublicHeader : String := "-----BEGIN NEBULA X25519 PUBLIC KEY-----"
def nebulaX25519PublicFooter : String := "-----END NEBULA X25519 PUBLIC KEY-----"

/-- The bytes of a key in the one form that is accepted: header, base64 text, footer. -/
def decodeCanonicalNebulaX25519Key (value header footer : String) : Checked (List Nat) :=
  match value.toList.splitOn ('\n') with
  | [first, payload, last, []] => do
    reject (first ≠ header.toList ∨ last ≠ footer.toList)
      (.text "key is not in canonical Nebula X25519 form")
    require (Base64.decodeStandard32 payload) (.text "key payload is not canonical 32-byte base64")
  | _ => .error (.text "key is not in canonical Nebula X25519 form")

def validateRecoveryKeyPair (keys : KeyPair) (expectedPublicKeyHash : String) : Checked Unit := do
  reject (canonicalPublicKeyHash keys.publicKey ≠ expectedPublicKeyHash)
    (.text "immutable node public key does not match the enrolled public-key pin")
  let privateBytes ← mapError (.wrap "invalid immutable node private key")
    (decodeCanonicalNebulaX25519Key keys.privateKey nebulaX25519PrivateHeader nebulaX25519PrivateFooter)
  let publicBytes ← mapError (.wrap "invalid immutable node public key")
    (decodeCanonicalNebulaX25519Key keys.publicKey nebulaX25519PublicHeader nebulaX25519PublicFooter)
  reject (X25519.publicKey privateBytes ≠ publicBytes)
    (.text "immutable node recovery keypair does not match")

end NodeAgent
end Mesh
