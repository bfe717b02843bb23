import Mesh.Control.Play
import Mesh.NodeAgent.Disk

/-!
# Mesh.NodeAgent.Play

Runs of the agent that compute. `Disk.handle` answers every call the way a sound disk does, and where a
call can be answered in many ways a `Reply` says which. The programs are evaluated in the form given
here, with the characters of a text read in one pass.
-/

namespace Mesh
namespace NodeAgent

/-! ## Checks in the form they are evaluated in -/

noncomputable def stateValidateEval : Evaluated State.validate := ⟨_, by
  delta State.validate validDigest validIdentifier
  simp only [toList_eq_chars, decodeEval.apply, fingerprintEval.apply, trimSpaceEval.apply,
    bearerTokenEval.apply, tokenHashEval.apply]
  rfl⟩

noncomputable def verifyConfigEval : Evaluated verifyConfig := ⟨_, by
  delta verifyConfig validateManagedConfig validateConfigSignatureMetadata containsLineBreak
  simp only [toList_eq_chars, decodeEval.apply, fingerprintEval.apply, tokenHashEval.apply]
  rfl⟩

noncomputable def validatePinnedEval : Evaluated validatePinned := ⟨_, by
  delta validatePinned validateBundle validDigest canonicalPublicKeyHash
  simp only [verifyConfigEval.2, fingerprintEval.apply, tokenHashEval.apply, trimSpaceEval.apply]
  rfl⟩

noncomputable def verifySignedConfigEval : Evaluated verifySignedConfig := ⟨_, by
  delta verifySignedConfig validDigest
  simp only [verifyConfigEval.2, fingerprintEval.apply]
  rfl⟩

noncomputable def verifyBootstrapBundleEval : Evaluated verifyBootstrapBundle := ⟨_, by
  delta verifyBootstrapBundle canonicalPublicKeyHash validateBundle validDigest
  simp only [verifySignedConfigEval.2, verifyConfigEval.2, fingerprintEval.apply, tokenHashEval.apply,
    trimSpaceEval.apply]
  rfl⟩

noncomputable def checkPKIPathsEval : Evaluated checkPKIPaths := ⟨_, by
  delta checkPKIPaths
  simp only [toList_eq_chars]
  rfl⟩

noncomputable def newClientEval : Evaluated newClient := ⟨_, by
  delta newClient
  simp only [trimSpaceEval.apply, bearerTokenEval.apply]
  rfl⟩

/-! ## Programs in the form they are evaluated in -/

noncomputable def readyEval : Evaluated Agent.ready := ⟨_, by
  delta Agent.ready
  simp only [trimSpaceEval.apply]
  rfl⟩

noncomputable def loadEval : Evaluated load := ⟨_, by
  delta load
  simp only [stateValidateEval.apply]
  rfl⟩

noncomputable def saveEval : Evaluated save := ⟨_, by
  delta save
  simp only [stateValidateEval.apply]
  rfl⟩

noncomputable def applyEval : Evaluated apply := ⟨_, by
  delta apply
  simp only [validatePinnedEval.2, checkPKIPathsEval.2]
  rfl⟩

noncomputable def currentBundleEval : Evaluated currentBundle := ⟨_, by
  delta currentBundle
  simp only [validatePinnedEval.2]
  rfl⟩

noncomputable def applyBootstrapEval : Evaluated applyBootstrap := ⟨_, by
  delta applyBootstrap
  simp only [verifyBootstrapBundleEval.2, applyEval.2, saveEval.2]
  rfl⟩

noncomputable def loadReconciledStateEval : Evaluated loadReconciledState := ⟨_, by
  delta loadReconciledState readOrRecover reconcile recoverCurrentBundle
  simp only [loadEval.2, saveEval.2, currentBundleEval.2, applyBootstrapEval.2, newClientEval.2]
  rfl⟩

noncomputable def renewCertificateLockedEval : Evaluated renewCertificateLocked := ⟨_, by
  delta renewCertificateLocked recoverRenewal activateRenewal
  simp only [loadEval.2, saveEval.2, currentBundleEval.2, applyBootstrapEval.2, applyEval.2, newClientEval.2,
    verifySignedConfigEval.2]
  rfl⟩

noncomputable def renewCertificateEval : Evaluated Agent.renewCertificate := ⟨_, by
  delta Agent.renewCertificate
  simp only [readyEval.2, renewCertificateLockedEval.2]
  rfl⟩

noncomputable def syncEval : Evaluated Agent.sync := ⟨_, by
  delta Agent.sync syncBootstrap syncConfig Agent.recordConfigSuccess
  simp only [readyEval.2, loadReconciledStateEval.2, renewCertificateLockedEval.2, applyBootstrapEval.2,
    applyEval.2, saveEval.2, newClientEval.2, verifySignedConfigEval.2]
  rfl⟩

/-! ## A disk that answers -/

/-- How a call is answered, where that is open. -/
inductive Reply where
  | done
  | failed (message : String)
  | time (now : Int)
  | drawn (bearer : String)
  | boot (id : Option String)
  | config (response : ConfigResponse)
  | bootstrap (bundle : EnrollmentBundle)
  | renewal (bundle : RenewalBundle)
  | rotation (rotation : CredentialRotation)
  | recovery (bundle : AgentRecoveryBundle)

/-- The answer of a disk that nothing is wrong with, and the answer of the reply for the server. -/
def Disk.handle (d : Disk) : Reply → (c : Call) → Option (c.Answer × Disk)
  | .done, .loadState => some (.ok d.state, d)
  | .done, .saveState state => some (.ok (), d.withState state)
  | .done, .loadRecoveryKeyPair => some (.ok d.keys, d)
  | .done, .readCurrent => d.live.map fun b => (.ok b, d)
  | .done, .prepareOutput => some (.ok d.live, d)
  | .done, .validate b => some (.ok (details b), d)
  | .done, .switchLink b => some (.ok (), d.withLive b)
  | .done, .removeLink => some (.ok (), { d with live := none })
  | .done, .acquireLock | .done, .stage _ | .done, .publish _ | .done, .syncOutput | .done, .reload
  | .done, .heartbeat _ _ | .done, .reportConfigApplyFailure _ _ => some (.ok (), d)
  | .time now, .now => some (.ok now, d)
  | .drawn bearer, .generateBearer => some (.ok bearer, d)
  | .boot id, .systemBootID => some (.ok id, d)
  | .config response, .getConfig _ _ => some (.ok response, d)
  | .bootstrap bundle, .bootstrap _ => some (.ok bundle, d)
  | .renewal bundle, .renewCertificate _ _ => some (.ok bundle, d)
  | .rotation rotation, .rotateCredential _ _ => some (.ok rotation, d)
  | .recovery bundle, .recoverAgent _ _ _ => some (.ok bundle, d)
  | .failed message, .getConfig _ _ | .failed message, .bootstrap _ | .failed message, .renewCertificate _ _
  | .failed message, .rotateCredential _ _ | .failed message, .recoverAgent _ _ _
  | .failed message, .heartbeat _ _ => some (.error (.text message), d)
  | _, _ => none

theorem Disk.handle_sound {sound : Bool} {d d' : Disk} {k : Reply} {c : Call} {x : c.Answer}
    (h : d.handle k c = some (x, d')) : Disk.does sound d c x d' := by
  unfold handle at h
  split at h <;> simp only [Option.some.injEq, Prod.mk.injEq, reduceCtorEq, Option.map_eq_some_iff] at h
  case h_4 =>
    obtain ⟨b, hb, rfl, rfl⟩ := h
    simp [does, hb, Reads]
  all_goals
    obtain ⟨rfl, rfl⟩ := h
    simp [does, Reads, Quiet.ok]

theorem Disk.exec_of_play {sound : Bool} {α : Type} {p : Host α} (replies : List Reply) {d d' : Disk}
    {ending : Ending AgentError α} (h : p.play Disk.handle replies d = some (ending, d')) :
    Program.Exec (Disk.does sound) p d ending d' := by
  refine Program.play_sound ?_ h
  intro d k c x d' h
  exact Disk.handle_sound h

/-! ## An agent and what it is sent -/

namespace Sample

open Mesh.Setting

/-- A config with the paths a bundle is rewritten at. -/
def configText (name : String) : String :=
  "# " ++ name ++ "\n/etc/nebula/ca.crt\n/etc/nebula/host.crt\n/etc/nebula/host.key\n"

/-- A config for the node with the certificate of the generation, as the network of `Setting` signs it. -/
def artifact (revision : Int) (generation : Nat) (name digest signature : String) : AgentConfig where
  nodeID := "n2"
  networkID := "w1"
  revision := revision
  config := configText name
  issuedAt := minutes revision
  sha256 := digest
  signature := signature
  caCertificateSHA256 := "6959097001d10501ac7d54c0bdb8db61420f658f2922cc26e46d536119a31126"
  certificateFingerprint := (certificate generation).fingerprint
  certificateGeneration := generation
  certificateExpiresAt := minutes 525600
  certificateRenewAfter := minutes 482400
  publicKeyHash := "9rgIU-ZCMuEIq38vjTCIOTzDBYYr4wV_IywtPDrPrgY"

def firstArtifact : AgentConfig :=
  artifact 1 1 "1" "56ff430d3d79d1e179c9fcdaaa15dff4d8d29b6d21bf216d486f42024ef1c5bd"
    "_cYGIuEY2A6ey-jomTLBfM-dqrPzUzfc2jCLh0DjoRoaSkfMF24Yrk332nVIQdvj4wSpdT1w98RgYIbbMnIADw"

/-- The second revision, with a renewed certificate. -/
def secondArtifact : AgentConfig :=
  artifact 2 2 "2" "118a5df54d9e66c2c4135da6b79a1f5bbecde8c508304c69a5a11ef430592d46"
    "d9aOc7p1xB2fiv2vjJiHQV4uZ74lxoL4nB8-Jv24LKipVLKoWjtmIre6pxSAZ-K9caL4pqLTPMFSQEj1fAISAQ"

def thirdArtifact : AgentConfig :=
  artifact 3 1 "3" "9f7333d0065e0ff9c7b69ed2f166e6e7c2b2bc8ee0c6aaad0b63867b25f28b58"
    "AuQOSY2QZI2JpXFr7duHgr5bfbh8Sin6xeF2vBcPhbZyyu-VPBCGgA9qEfofCe1hcOEDGtcu-4NvvS3QiksbAA"

def keys : KeyPair := ⟨"private", "pub"⟩

def agent : Agent := ⟨"1", 0⟩

/-- The agent once its enrollment is over. -/
def enrolledState : State where
  bearer := bytes32 102
  nodeID := "n2"
  networkID := "w1"
  configSigningPublicKey := "6kpsY-KcUgq-9VB7Ey7F-ZVHdq6-vnuSQh7qaRRG0iw"
  caCertificateSHA256 := firstArtifact.caCertificateSHA256
  publicKeyHash := firstArtifact.publicKeyHash
  appliedConfigRevision := 1
  appliedConfigSHA256 := firstArtifact.sha256
  certificateFingerprint := firstArtifact.certificateFingerprint
  certificateGeneration := 1
  certificateExpiresAt := firstArtifact.certificateExpiresAt
  certificateRenewAfter := firstArtifact.certificateRenewAfter
  agentCredentialExpiresAt := minutes 129600
  agentCredentialGeneration := 1
  bootID := "boot"

def bundle (desired : AgentConfig) : Bundle := bundleOf "n2" "w1" desired "ca" "cert" keys

def enrolledDisk : Disk := ⟨enrolledState, keys, some (bundle firstArtifact)⟩

end Sample

end NodeAgent
end Mesh
