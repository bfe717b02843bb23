import Mesh.Control.Basics
import Mesh.Control.Model
import Mesh.Lib.Calendar
import Mesh.Lib.Ed25519
import Mesh.Lib.Lines

/-!
# Mesh.Control.Crypto

The signed desired artifact: the metadata a server may sign, the canonical text it signs in one of
three layouts, signing and verification, and the recovery receipt.

The layouts have different header lines, and inside a layout every value is a line of its own, so a
payload determines the fields its layout writes (`payload_eq_or_profile`). The layout of a profile
renewal does not write the previous CA digest.
-/

namespace Mesh

def maxManagedConfigBytes : Nat := 4194304

/-- `strconv.FormatInt(n, 10)`. -/
def formatInt (n : Int) : String := toString n

/-- `strconv.FormatBool`. -/
def formatBool (b : Bool) : String := if b then "true" else "false"

def configDigest (config : String) : String := sha256Hex config

def validateManagedConfig (config : String) : Result Unit :=
  reject (config = "" ∨ maxManagedConfigBytes < config.utf8ByteSize ∨ '\r' ∈ config.toList)
    (internal ("managed config must be nonempty valid UTF-8 without carriage returns and no larger " ++
      "than " ++ toString maxManagedConfigBytes ++ " bytes"))

def validateConfigSignatureMetadata (m : ConfigSignatureMetadata) : Result Unit := do
  reject (m.nodeID = "" ∨ m.networkID = "" ∨ containsLineBreak m.nodeID ∨ containsLineBreak m.networkID)
    (internal "invalid signed config identity")
  reject (m.revision < 1 ∨ m.certificateGeneration < 1 ∨ m.issuedAt = 0 ∨ m.certificateExpiresAt = 0 ∨
      m.certificateRenewAfter = 0 ∨ ¬ m.certificateRenewAfter < m.certificateExpiresAt)
    (internal "invalid signed config revision or timestamp")
  reject (¬ fingerprintPattern m.caCertificateSHA256 ∨ ¬ fingerprintPattern m.certificateFingerprint ∨
      ¬ validTokenHash m.publicKeyHash)
    (internal "invalid signed config certificate metadata")
  reject (m.previousCACertificateSHA256 ≠ "" ∧
      (¬ fingerprintPattern m.previousCACertificateSHA256 ∨
        m.previousCACertificateSHA256 = m.caCertificateSHA256))
    (internal "invalid signed config CA transition metadata")
  reject (m.caRotationRequired ∧ m.previousCACertificateSHA256 = "")
    (internal "CA rotation renewal requires an authenticated trust transition")
  reject (m.caRotationRequired ∧ m.certificateProfileRenewalRequired)
    (internal "CA rotation and certificate profile renewal cannot be required together")

/-- The lines every layout starts with. -/
def identityFields (m : ConfigSignatureMetadata) (digest : String) : List (String × String) := [
  ("node_id", m.nodeID),
  ("network_id", m.networkID),
  ("revision", formatInt m.revision),
  ("issued_at", Calendar.rfc3339Nano m.issuedAt),
  ("config_sha256", digest),
  ("ca_sha256", m.caCertificateSHA256)]

/-- The lines every layout ends with. -/
def certificateFields (m : ConfigSignatureMetadata) : List (String × String) := [
  ("certificate_fingerprint", m.certificateFingerprint),
  ("certificate_expires_at", Calendar.rfc3339Nano m.certificateExpiresAt),
  ("certificate_renew_after", Calendar.rfc3339Nano m.certificateRenewAfter),
  ("certificate_generation", formatInt m.certificateGeneration),
  ("public_key_hash", m.publicKeyHash)]

/-- Version 3 outside a transition, version 5 for a profile renewal, version 4 otherwise. -/
def configSigningText (m : ConfigSignatureMetadata) (digest : String) : String :=
  if m.previousCACertificateSHA256 = "" ∧ ¬ m.caRotationRequired ∧ ¬ m.certificateProfileRenewalRequired then
    Lines.document "mesh-desired-artifact-v3" (identityFields m digest ++ certificateFields m)
  else if m.certificateProfileRenewalRequired then
    Lines.document "mesh-desired-artifact-v5" (identityFields m digest ++
      [("certificate_profile_renewal_required", "true")] ++ certificateFields m)
  else
    Lines.document "mesh-desired-artifact-v4" (identityFields m digest ++
      [("previous_ca_sha256", m.previousCACertificateSHA256),
        ("ca_rotation_required", formatBool m.caRotationRequired)] ++ certificateFields m)

/-- The digest of the config and the bytes that are signed. -/
def configSigningPayload (m : ConfigSignatureMetadata) (config : String) : String × List Nat :=
  let digest := configDigest config
  (digest, utf8Bytes (configSigningText m digest))

/-- The digest and the encoded signature. -/
def signConfig (privateKey : List Nat) (m : ConfigSignatureMetadata) (config : String) :
    Result (String × String) := do
  reject (privateKey.length ≠ 64) (internal "invalid config signing private key")
  validateManagedConfig config
  validateConfigSignatureMetadata m
  let (digest, canonical) := configSigningPayload m config
  pure (digest, Base64.encode (Ed25519.sign privateKey canonical))

def verifyConfig (publicKeyEncoded : String) (m : ConfigSignatureMetadata)
    (config expectedDigest signatureEncoded : String) : Result Unit := do
  let publicKey ← require ((Base64.decode publicKeyEncoded).filter (·.length = 32))
    (internal "invalid config signing public key")
  validateConfigSignatureMetadata m
  validateManagedConfig config
  let signature ← require ((Base64.decode signatureEncoded).filter (·.length = 64))
    (internal "invalid config signature encoding")
  let (digest, canonical) := configSigningPayload m config
  reject (digest ≠ expectedDigest) (internal "config digest mismatch")
  reject (¬ Ed25519.verify publicKey canonical signature)
    (internal "config signature verification failed")

def recoveryReceiptPayload (r : RecoveryReceipt) : Result (List Nat) := do
  reject (¬ validPersistedID r.nodeID ∨ ¬ validPersistedID r.networkID)
    (internal "invalid recovery receipt identity")
  reject (¬ validTokenHash r.newAgentTokenHash ∨ r.agentCredentialGeneration < 1 ∨
      r.agentCredentialExpiresAt = 0)
    (internal "invalid recovery receipt credential metadata")
  reject (¬ fingerprintPattern r.configSHA256) (internal "invalid recovery receipt config digest")
  reject (¬ Base64.canonical 64 r.configSignature)
    (internal "invalid recovery receipt config signature")
  pure (utf8Bytes (Lines.document "mesh-agent-recovery-receipt-v1" [
    ("node_id", r.nodeID),
    ("network_id", r.networkID),
    ("new_agent_token_hash", r.newAgentTokenHash),
    ("agent_credential_generation", formatInt r.agentCredentialGeneration),
    ("agent_credential_expires_at", Calendar.rfc3339Nano r.agentCredentialExpiresAt),
    ("config_sha256", r.configSHA256),
    ("config_signature", r.configSignature)]))

def signRecoveryReceipt (privateKey : List Nat) (r : RecoveryReceipt) : Result String := do
  reject (privateKey.length ≠ 64) (internal "invalid config signing private key")
  let canonical ← recoveryReceiptPayload r
  pure (Base64.encode (Ed25519.sign privateKey canonical))

def verifyRecoveryReceipt (publicKeyEncoded : String) (r : RecoveryReceipt) : Result Unit := do
  reject (¬ Base64.canonical 32 publicKeyEncoded) (internal "invalid config signing public key")
  let signature ← require ((Base64.decode r.signature).filter (·.length = 64))
    (internal "invalid recovery receipt signature encoding")
  let canonical ← recoveryReceiptPayload r
  reject (¬ Ed25519.verify ((Base64.decode publicKeyEncoded).getD []) canonical signature)
    (internal "recovery receipt signature verification failed")

/-! ## What a payload determines -/

variable {s config config' : String} {m m' : ConfigSignatureMetadata}

theorem utf8Bytes_inj {t : String} (h : utf8Bytes s = utf8Bytes t) : s = t := by
  have hinj : Function.Injective UInt8.toNat := fun a b hab => UInt8.toNat_inj.mp hab
  have hdata := (List.map_injective_iff.mpr hinj) h
  have hbytes : s.toByteArray = t.toByteArray := by
    have := Array.toList_inj.mp hdata
    cases hs : s.toByteArray
    cases ht : t.toByteArray
    simp_all
  exact String.toByteArray_inj.mp hbytes

theorem formatInt_natCast (n : Nat) : (formatInt (n : Int)).toList = Nat.toDigits 10 n := by
  show (Nat.repr n).toList = _
  simp [Nat.repr]

theorem formatInt_inj {n m : Int} (hn : 1 ≤ n) (hm : 1 ≤ m) (h : formatInt n = formatInt m) :
    n = m := by
  obtain ⟨a, rfl⟩ := Int.eq_ofNat_of_zero_le (show 0 ≤ n by omega)
  obtain ⟨b, rfl⟩ := Int.eq_ofNat_of_zero_le (show 0 ≤ m by omega)
  have hdigits : Nat.toDigits 10 a = Nat.toDigits 10 b := by
    rw [← formatInt_natCast, ← formatInt_natCast, h]
  have hread := congrArg (fun ds => Nat.ofDigitChars 10 ds 0) hdigits
  simp only [Nat.ofDigitChars_ten_toDigits] at hread
  rw [hread]

theorem oneLine_formatInt {n : Int} (hn : 1 ≤ n) : Lines.OneLine (formatInt n) := by
  obtain ⟨a, rfl⟩ := Int.eq_ofNat_of_zero_le (show 0 ≤ n by omega)
  intro hmem
  rw [formatInt_natCast] at hmem
  have := Nat.isDigit_of_mem_toDigits (by decide) (by decide) hmem
  simp at this

theorem oneLine_of_not_containsLineBreak (h : containsLineBreak s = false) : Lines.OneLine s := by
  intro hmem
  simp only [containsLineBreak, List.any_eq_false] at h
  exact absurd (h '\n' hmem) (by simp)

theorem oneLine_of_fingerprintPattern (h : fingerprintPattern s = true) : Lines.OneLine s := by
  intro hmem
  simp only [fingerprintPattern, Bool.and_eq_true, List.all_eq_true] at h
  exact absurd (h.2 '\n' hmem) (by decide)

theorem oneLine_of_validTokenHash (h : validTokenHash s = true) : Lines.OneLine s := by
  obtain ⟨bytes, -, -, rfl⟩ := Base64.canonical_iff.mp h
  exact Base64.oneLine_encode bytes

theorem oneLine_configDigest (config : String) : Lines.OneLine (configDigest config) := by
  intro hmem
  exact absurd ((sha256Hex_toList config).2 '\n' hmem) (by decide)

theorem configDigest_ne_empty (config : String) : configDigest config ≠ "" := by
  intro h
  have hlen := (sha256Hex_toList config).1
  rw [configDigest] at h
  rw [h] at hlen
  cases hlen

/-- What the validator promises about the lines of a payload. -/
structure LinesOk (m : ConfigSignatureMetadata) : Prop where
  nodeID : Lines.OneLine m.nodeID
  networkID : Lines.OneLine m.networkID
  revision : 1 ≤ m.revision
  generation : 1 ≤ m.certificateGeneration
  ca : Lines.OneLine m.caCertificateSHA256
  previousCA : Lines.OneLine m.previousCACertificateSHA256
  fingerprint : Lines.OneLine m.certificateFingerprint
  publicKey : Lines.OneLine m.publicKeyHash

theorem linesOk_of_valid (h : validateConfigSignatureMetadata m = .ok ()) : LinesOk m := by
  simp only [validateConfigSignatureMetadata, bind_unit_eq_ok, reject_eq_ok, not_or] at h
  obtain ⟨⟨-, -, hnode, hnet⟩, ⟨hrev, hgen, -⟩, ⟨hca, hfp, hpk⟩, hprev, -⟩ := h
  refine ⟨oneLine_of_not_containsLineBreak (by simpa using hnode),
    oneLine_of_not_containsLineBreak (by simpa using hnet), by omega, by omega,
    oneLine_of_fingerprintPattern (by simpa using hca), ?_,
    oneLine_of_fingerprintPattern (by simpa using hfp),
    oneLine_of_validTokenHash (by simpa using hpk)⟩
  by_cases he : m.previousCACertificateSHA256 = ""
  · rw [he]; exact List.not_mem_nil
  · exact oneLine_of_fingerprintPattern (by by_contra hne; exact hprev ⟨he, .inl hne⟩)

theorem oneLine_identityFields (h : LinesOk m) (config : String) :
    ∀ f ∈ identityFields m (configDigest config), Lines.OneLine f.2 := by
  simp only [identityFields, List.forall_mem_cons]
  exact ⟨h.nodeID, h.networkID, oneLine_formatInt h.revision, Calendar.oneLine_rfc3339Nano _,
    oneLine_configDigest config, h.ca, by simp⟩

theorem oneLine_certificateFields (h : LinesOk m) : ∀ f ∈ certificateFields m, Lines.OneLine f.2 := by
  simp only [certificateFields, List.forall_mem_cons]
  exact ⟨h.fingerprint, Calendar.oneLine_rfc3339Nano _, Calendar.oneLine_rfc3339Nano _,
    oneLine_formatInt h.generation, h.publicKey, by simp⟩

/-- The fields that every layout writes agree. -/
structure SameCommon (m m' : ConfigSignatureMetadata) : Prop where
  nodeID : m.nodeID = m'.nodeID
  networkID : m.networkID = m'.networkID
  revision : m.revision = m'.revision
  issuedAt : m.issuedAt = m'.issuedAt
  ca : m.caCertificateSHA256 = m'.caCertificateSHA256
  fingerprint : m.certificateFingerprint = m'.certificateFingerprint
  expiresAt : m.certificateExpiresAt = m'.certificateExpiresAt
  renewAfter : m.certificateRenewAfter = m'.certificateRenewAfter
  generation : m.certificateGeneration = m'.certificateGeneration
  publicKey : m.publicKeyHash = m'.publicKeyHash

theorem SameCommon.eq (h : SameCommon m m')
    (hp : m.previousCACertificateSHA256 = m'.previousCACertificateSHA256)
    (hr : m.caRotationRequired = m'.caRotationRequired)
    (hc : m.certificateProfileRenewalRequired = m'.certificateProfileRenewalRequired) : m = m' := by
  obtain ⟨h1, h2, h3, h4, h5, h6, h7, h8, h9, h10⟩ := h
  cases m
  cases m'
  simp_all

/-- Equal lines have equal values, whatever stands between the two groups of lines. -/
theorem sameCommon_of_fields (h : LinesOk m) (h' : LinesOk m')
    (hid : identityFields m (configDigest config) = identityFields m' (configDigest config'))
    (hcert : certificateFields m = certificateFields m') :
    SameCommon m m' ∧ configDigest config = configDigest config' := by
  simp only [identityFields, certificateFields, List.cons.injEq, Prod.mk.injEq, true_and, and_true]
    at hid hcert
  obtain ⟨hnode, hnet, hrev, hissued, hdigest, hca⟩ := hid
  obtain ⟨hfp, hexp, hrenew, hgen, hpk⟩ := hcert
  exact ⟨⟨hnode, hnet, formatInt_inj h.revision h'.revision hrev, Calendar.rfc3339Nano_inj hissued, hca,
    hfp, Calendar.rfc3339Nano_inj hexp, Calendar.rfc3339Nano_inj hrenew,
    formatInt_inj h.generation h'.generation hgen, hpk⟩, hdigest⟩

/-- Lists of the same keys: the values before, between and after are equal group by group. -/
theorem fields_append_inj {xs ys : List (String × String)} (hlen : xs.length = ys.length)
    (h : identityFields m (configDigest config) ++ xs ++ certificateFields m =
      identityFields m' (configDigest config') ++ ys ++ certificateFields m') :
    identityFields m (configDigest config) = identityFields m' (configDigest config') ∧ xs = ys ∧
      certificateFields m = certificateFields m' := by
  obtain ⟨hleft, hcert⟩ := List.append_inj h (by simp [identityFields, hlen])
  obtain ⟨hid, hmid⟩ := List.append_inj hleft (by simp [identityFields])
  exact ⟨hid, hmid, hcert⟩

inductive Layout where
  | v3
  | v4
  | v5
deriving DecidableEq

def Layout.header : Layout → String
  | .v3 => "mesh-desired-artifact-v3"
  | .v4 => "mesh-desired-artifact-v4"
  | .v5 => "mesh-desired-artifact-v5"

/-- The lines a layout writes between the common ones. -/
def Layout.middle (m : ConfigSignatureMetadata) : Layout → List (String × String)
  | .v3 => []
  | .v4 => [("previous_ca_sha256", m.previousCACertificateSHA256),
      ("ca_rotation_required", formatBool m.caRotationRequired)]
  | .v5 => [("certificate_profile_renewal_required", "true")]

def layout (m : ConfigSignatureMetadata) : Layout :=
  if m.previousCACertificateSHA256 = "" ∧ ¬ m.caRotationRequired ∧ ¬ m.certificateProfileRenewalRequired then .v3
  else if m.certificateProfileRenewalRequired then .v5
  else .v4

theorem configSigningText_eq (m : ConfigSignatureMetadata) (digest : String) :
    configSigningText m digest = Lines.document (layout m).header
      (identityFields m digest ++ (layout m).middle m ++ certificateFields m) := by
  unfold configSigningText layout
  split_ifs <;> simp [Layout.header, Layout.middle]

theorem Layout.oneLine_header (l : Layout) : Lines.OneLine l.header := by
  cases l <;> (unfold Lines.OneLine; decide)

theorem Layout.header_inj {l l' : Layout} (h : l.header = l'.header) : l = l' := by
  cases l <;> cases l' <;> first
    | rfl
    | exact absurd h (by decide)

theorem Layout.oneLine_middle (h : LinesOk m) (l : Layout) : ∀ f ∈ l.middle m, Lines.OneLine f.2 := by
  have hbool : Lines.OneLine (formatBool m.caRotationRequired) := by
    cases m.caRotationRequired <;> (unfold Lines.OneLine; decide)
  cases l with
  | v3 => simp [Layout.middle]
  | v4 =>
    simp only [Layout.middle, List.forall_mem_cons]
    exact ⟨h.previousCA, hbool, by simp⟩
  | v5 =>
    simp only [Layout.middle, List.forall_mem_cons]
    exact ⟨by unfold Lines.OneLine; decide, by simp⟩

theorem Layout.keys_middle (m m' : ConfigSignatureMetadata) (l : Layout) :
    (l.middle m).map Prod.fst = (l.middle m').map Prod.fst := by
  cases l <;> rfl

/-- Inside one layout the optional fields agree, unless it is the layout of a profile renewal. -/
theorem layout_inj (hl : layout m = layout m') (hmid : (layout m).middle m = (layout m).middle m') :
    (m.certificateProfileRenewalRequired = true ∧ m'.certificateProfileRenewalRequired = true) ∨
      (m.previousCACertificateSHA256 = m'.previousCACertificateSHA256 ∧
        m.caRotationRequired = m'.caRotationRequired ∧
        m.certificateProfileRenewalRequired = m'.certificateProfileRenewalRequired) := by
  have hbool : ∀ {a b : Bool}, formatBool a = formatBool b → a = b := by decide
  unfold layout at hl hmid
  split_ifs at hl hmid with h1 h2 h3 h4
  · exact .inr (by simp_all)
  · exact .inl ⟨by assumption, by assumption⟩
  · simp only [Layout.middle, List.cons.injEq, Prod.mk.injEq, true_and, and_true] at hmid
    exact .inr ⟨hmid.1, hbool hmid.2, by simp_all⟩

/-- Two accepted metadata values with the same payload are equal, with equal config digests, unless
both ask for a profile renewal; then they agree on every field that layout writes. -/
theorem payload_eq_or_profile (hm : validateConfigSignatureMetadata m = .ok ())
    (hm' : validateConfigSignatureMetadata m' = .ok ())
    (h : (configSigningPayload m config).2 = (configSigningPayload m' config').2) :
    SameCommon m m' ∧ configDigest config = configDigest config' ∧
      ((m.certificateProfileRenewalRequired = true ∧ m'.certificateProfileRenewalRequired = true) ∨
        m = m') := by
  have hl := linesOk_of_valid hm
  have hl' := linesOk_of_valid hm'
  have htext : configSigningText m (configDigest config) = configSigningText m' (configDigest config') :=
    utf8Bytes_inj h
  rw [configSigningText_eq, configSigningText_eq] at htext
  have hlayout : layout m = layout m' := Layout.header_inj
    (Lines.document_header_inj (Layout.oneLine_header _) (Layout.oneLine_header _) htext).1
  have hlines : ∀ {n : ConfigSignatureMetadata} (c : String), LinesOk n →
      ∀ f ∈ identityFields n (configDigest c) ++ (layout n).middle n ++ certificateFields n,
        Lines.OneLine f.2 := by
    intro n c hn f hf
    simp only [List.mem_append] at hf
    rcases hf with (hf | hf) | hf
    · exact oneLine_identityFields hn c f hf
    · exact Layout.oneLine_middle hn _ f hf
    · exact oneLine_certificateFields hn f hf
  have hkeys : ((layout m).middle m).map Prod.fst = ((layout m').middle m').map Prod.fst := by
    rw [hlayout]
    exact Layout.keys_middle m m' _
  have hfields := Lines.document_inj (Layout.oneLine_header _) (Layout.oneLine_header _)
    (by simp [identityFields, certificateFields, hkeys]) (hlines config hl) (hlines config' hl') htext
  obtain ⟨hid, hmid, hcert⟩ := fields_append_inj (by simpa using congrArg List.length hkeys) hfields.2
  obtain ⟨hcommon, hdigest⟩ := sameCommon_of_fields hl hl' hid hcert
  refine ⟨hcommon, hdigest, (layout_inj hlayout (by rw [hmid, hlayout])).imp id ?_⟩
  rintro ⟨hp, hr, hc⟩
  exact hcommon.eq hp hr hc

/-! ## The layout of a profile renewal -/

/-- The same metadata with the other choice of a previous CA digest: none if there is one, else a
digest that is not the current one. -/
def withOtherPrevious (m : ConfigSignatureMetadata) : ConfigSignatureMetadata :=
  let zeros := String.ofList (List.replicate 64 '0')
  let ones := String.ofList (List.replicate 64 '1')
  { m with previousCACertificateSHA256 :=
      if m.previousCACertificateSHA256 = "" then
        if m.caCertificateSHA256 = zeros then ones else zeros
      else "" }

theorem withOtherPrevious_ne (m : ConfigSignatureMetadata) :
    (withOtherPrevious m).previousCACertificateSHA256 ≠ m.previousCACertificateSHA256 := by
  have hzeros : String.ofList (List.replicate 64 '0') ≠ "" := by decide
  have hones : String.ofList (List.replicate 64 '1') ≠ "" := by decide
  simp only [withOtherPrevious]
  split_ifs with h1 h2
  · rwa [h1]
  · rwa [h1]
  · exact fun h => h1 h.symm

theorem validate_withOtherPrevious (hm : validateConfigSignatureMetadata m = .ok ())
    (hp : m.certificateProfileRenewalRequired = true) :
    validateConfigSignatureMetadata (withOtherPrevious m) = .ok () := by
  have hzeros : fingerprintPattern (String.ofList (List.replicate 64 '0')) = true := by decide
  have hones : fingerprintPattern (String.ofList (List.replicate 64 '1')) = true := by decide
  have hdiff : String.ofList (List.replicate 64 '1') ≠ String.ofList (List.replicate 64 '0') := by decide
  simp only [validateConfigSignatureMetadata, bind_unit_eq_ok, reject_eq_ok] at hm ⊢
  obtain ⟨hid, hrev, hcert, -, -, hboth⟩ := hm
  have hrot : ¬ m.caRotationRequired = true := fun h => hboth ⟨h, hp⟩
  refine ⟨hid, hrev, hcert, ?_, fun h => hrot h.1, fun h => hrot h.1⟩
  rintro ⟨hne, hbad⟩
  simp only [withOtherPrevious] at hne hbad
  split_ifs at hne hbad with h1 h2
  · rcases hbad with hbad | hbad
    · exact hbad hones
    · exact hdiff (hbad.trans h2)
  · rcases hbad with hbad | hbad
    · exact hbad hzeros
    · exact h2 hbad.symm
  · exact hne rfl

theorem layout_of_profile (hp : m.certificateProfileRenewalRequired = true) : layout m = .v5 := by
  simp [layout, hp]

theorem payload_withOtherPrevious (config : String) (hp : m.certificateProfileRenewalRequired = true) :
    (configSigningPayload (withOtherPrevious m) config).2 = (configSigningPayload m config).2 := by
  simp only [configSigningPayload, configSigningText_eq]
  rw [layout_of_profile hp, layout_of_profile (m := withOtherPrevious m) hp]
  rfl

/-- A payload determines all the metadata and the config digest exactly when it does not ask for a
profile renewal. -/
theorem configSigningPayload_injective_iff (m : ConfigSignatureMetadata) (config : String)
    (hm : validateConfigSignatureMetadata m = .ok ()) :
    (∀ m' config', validateConfigSignatureMetadata m' = .ok () →
        (configSigningPayload m' config').2 = (configSigningPayload m config).2 →
        m' = m ∧ (configSigningPayload m' config').1 = (configSigningPayload m config).1) ↔
      m.certificateProfileRenewalRequired = false := by
  constructor
  · intro hinj
    by_contra hp
    rw [Bool.not_eq_false] at hp
    have heq := (hinj (withOtherPrevious m) config (validate_withOtherPrevious hm hp)
      (payload_withOtherPrevious config hp)).1
    exact withOtherPrevious_ne m (by rw [heq])
  · intro hp m' config' hm' hpay
    obtain ⟨-, hdigest, hcase⟩ := payload_eq_or_profile hm' hm hpay
    refine ⟨hcase.resolve_left fun h => ?_, hdigest⟩
    rw [hp] at h
    exact Bool.false_ne_true h.2

/-- Metadata of a profile renewal during a CA transition. -/
def profileRenewalMetadata : ConfigSignatureMetadata where
  nodeID := "node-1"
  networkID := "network-1"
  revision := 7
  issuedAt := 63000000000000000000
  caCertificateSHA256 := "c3c3c3c3c3c3c3c3c3c3c3c3c3c3c3c3c3c3c3c3c3c3c3c3c3c3c3c3c3c3c3c3"
  previousCACertificateSHA256 := "d2d2d2d2d2d2d2d2d2d2d2d2d2d2d2d2d2d2d2d2d2d2d2d2d2d2d2d2d2d2d2d2"
  certificateProfileRenewalRequired := true
  certificateFingerprint := "5e5e5e5e5e5e5e5e5e5e5e5e5e5e5e5e5e5e5e5e5e5e5e5e5e5e5e5e5e5e5e5e"
  certificateExpiresAt := 63000086400000000000
  certificateRenewAfter := 63000057600000000000
  certificateGeneration := 2
  publicKeyHash := "47DEQpj8HBSa-_TImW-5JCeuQeRkm5NMpJWZG3hSuFU"

theorem configSigningPayload_injective_iff_stable :
    validateConfigSignatureMetadata
        { profileRenewalMetadata with certificateProfileRenewalRequired := false } = .ok () ∧
      ∀ m' config', validateConfigSignatureMetadata m' = .ok () →
        (configSigningPayload m' config').2 = (configSigningPayload
          { profileRenewalMetadata with certificateProfileRenewalRequired := false } "pki: x50").2 →
        m' = { profileRenewalMetadata with certificateProfileRenewalRequired := false } ∧
          (configSigningPayload m' config').1 = (configSigningPayload
            { profileRenewalMetadata with certificateProfileRenewalRequired := false } "pki: x50").1 :=
  have hvalid : validateConfigSignatureMetadata
      { profileRenewalMetadata with certificateProfileRenewalRequired := false } = .ok () := by
    decide +kernel
  ⟨hvalid, (configSigningPayload_injective_iff _ "pki: x50" hvalid).mpr rfl⟩

/-- Two accepted metadata values that differ in the previous CA digest alone have one payload. -/
theorem configSigningPayload_drops_previous_ca :
    validateConfigSignatureMetadata profileRenewalMetadata = .ok () ∧
      validateConfigSignatureMetadata { profileRenewalMetadata with previousCACertificateSHA256 := "" } =
        .ok () ∧
      (configSigningPayload profileRenewalMetadata "pki: x50").2 = (configSigningPayload
        { profileRenewalMetadata with previousCACertificateSHA256 := "" } "pki: x50").2 ∧
      profileRenewalMetadata.previousCACertificateSHA256 ≠ "" := by
  decide +kernel

end Mesh
