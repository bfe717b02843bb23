import Mesh.Control.System
import Mesh.Lib.Chars

/-!
# Mesh.Control.Evaluate

The functions of a run, with the characters of a text read in one pass. Each is equal to the function
it stands for, and only evaluation of runs on given data uses it.
-/

namespace Mesh

/-- A value, in the form it is evaluated in. -/
abbrev Evaluated {α : Type} (a : α) : Type := { b : α // a = b }

namespace Evaluated

variable {α β γ : Type}

theorem apply {f : α → β} (e : Evaluated f) (x : α) : f x = e.1 x := congrFun e.2 x

theorem apply₂ {f : α → β → γ} (e : Evaluated f) (x : α) (y : β) : f x y = e.1 x y :=
  congrFun (congrFun e.2 x) y

/-- The function is evaluated once for each text. -/
def memo {f : String → α} (e : Evaluated f) : Evaluated f := ⟨forced e.1, by
  funext s
  rw [forced_eq, ← e.apply]⟩

end Evaluated

/-! ## Texts -/

theorem fingerprintPattern_sha256Hex (text : String) : fingerprintPattern (sha256Hex text) = true := by
  obtain ⟨hlength, hall⟩ := sha256Hex_toList text
  simp only [fingerprintPattern, Bool.and_eq_true, beq_iff_eq, List.all_eq_true]
  exact ⟨hlength, hall⟩

noncomputable def decodeEval : Evaluated Base64.decode := .memo ⟨_, by
  delta Base64.decode
  simp only [toList_eq_chars]
  rfl⟩

noncomputable def canonicalOfEval (size : Nat) : Evaluated (Base64.canonical size) := .memo ⟨_, by
  delta Base64.canonical
  simp only [decodeEval.apply]
  rfl⟩

noncomputable def canonicalEval : Evaluated Base64.canonical := ⟨fun size => (canonicalOfEval size).1, by
  funext size
  exact (canonicalOfEval size).2⟩

noncomputable def tokenHashEval : Evaluated validTokenHash := ⟨_, by
  delta validTokenHash
  simp only [canonicalEval.apply₂]
  rfl⟩

noncomputable def bearerTokenEval : Evaluated validBearerToken := ⟨_, by
  delta validBearerToken
  simp only [canonicalEval.apply₂]
  rfl⟩

noncomputable def tokenHashEqualEval : Evaluated tokenHashEqual := ⟨_, by
  delta tokenHashEqual
  simp only [decodeEval.apply]
  rfl⟩

noncomputable def fingerprintEval : Evaluated fingerprintPattern := .memo ⟨_, by
  delta fingerprintPattern
  simp only [toList_eq_chars]
  rfl⟩

noncomputable def trimSpaceEval : Evaluated trimSpace := .memo ⟨_, by
  delta trimSpace
  simp only [toList_eq_chars]
  rfl⟩

noncomputable def persistedIDEval : Evaluated validPersistedID := .memo ⟨_, by
  delta validPersistedID
  simp only [toList_eq_chars, trimSpaceEval.apply]
  rfl⟩

noncomputable def verifierEval : Evaluated validAdminCredentialVerifier := .memo ⟨_, by
  delta validAdminCredentialVerifier afterStem
  simp only [toList_eq_chars, tokenHashEval.2]
  rfl⟩

noncomputable def encryptedCAKeyEval : Evaluated validateEncryptedCAKey := .memo ⟨_, by
  delta validateEncryptedCAKey validateCanonicalRawURLBase64
  simp only [decodeEval.apply]
  rfl⟩

/-! ## Transactions -/

noncomputable def validateEval : Evaluated validateStateGraph := ⟨_, by
  delta validateStateGraph validateAuditEntry validateAuditEvent validateAuditActorMetadata validateActor
    validateActorID validateRevocation validateIssuance validateRecoveryEntry validateUsedRecovery
    verifyRecoveryReceipt recoveryReceiptPayload verifyConfig validatePersistedRecoveryResultMaterial
    recoveryResultMatches validateRecoveryClaim validateEnrollmentEntry validatePersistedEnrollmentClaim
    validateNodeEntry validateNodeRecord validateNodeStatus validatePersistedNodeTelemetry
    validateNetworkEntry validateNetworkRecord validateNetworkCARotation validatePersistedNetworkMaterial
    validConfigSigningPublicKey validateStateVersion validMasterKeyVerifier
    afterStem validateCanonicalRawURLBase64 validateManagedConfig
    validateConfigSignatureMetadata containsLineBreak
  simp only [toList_eq_chars, decodeEval.apply, canonicalEval.apply₂, tokenHashEval.apply,
    fingerprintEval.apply, trimSpaceEval.apply, tokenHashEqualEval.apply₂, persistedIDEval.apply,
    verifierEval.apply, encryptedCAKeyEval.apply]
  rfl⟩

noncomputable def signNodeConfigEval : Evaluated signNodeConfig := ⟨_, by
  delta signNodeConfig signConfig signatureMetadata configDigest validateManagedConfig
    validateConfigSignatureMetadata containsLineBreak
  simp only [fingerprintPattern_sha256Hex]
  simp only [toList_eq_chars, tokenHashEval.apply, fingerprintEval.apply]
  rfl⟩

noncomputable def recoverCommitEval : Evaluated recoverCommit := ⟨_, by
  delta recoverCommit recoveryBundle signRecoveryReceipt recoveryReceiptPayload strictCredentialHashInUse
    recoverableNode
  simp only [signNodeConfigEval.2, tokenHashEqualEval.apply₂, persistedIDEval.apply, tokenHashEval.apply,
    fingerprintEval.apply, canonicalEval.apply₂]
  rfl⟩

noncomputable def stepEval : Evaluated World.step := ⟨_, by
  delta World.step World.move World.land commit enrollCommit renewCommit enrollClaim enrollmentOfToken
    replayEnrollment renewClaim preflightAgentCredential findAgent firstAgent authenticates
    agentCredentialMatch enrollRequest recoverRequest strictCredentialHashInUse tokenEqual
  simp only [tokenHashEval.apply, bearerTokenEval.apply, trimSpaceEval.apply, validateEval.apply,
    signNodeConfigEval.2, tokenHashEqualEval.apply₂, recoverCommitEval.2]
  rfl⟩

end Mesh
