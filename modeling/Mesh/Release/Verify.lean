import Mesh.Lib.Ed25519
import Mesh.Release.Model
import Mathlib.Data.List.Sort
import Mathlib.Data.String.Basic

/-!
# Mesh.Release.Verify

The trust decisions of the release package: a trust root and an update of it are checked, and a channel and a
release manifest are accepted when enough release keys of a root have signed them and they agree. A time of zero
is no time; `clock` is the wall clock that is read then.
-/

namespace Mesh
namespace Release

def defaultSkew : Int := 5 * Calendar.minute

def quote (s : String) : String := "\"" ++ s ++ "\""

/-! ## Trust roots -/

/-- The keys of a root in the order of their names. -/
def rootKeyTable (seen : List TrustedKey) : List PublicKeyFile → Result (List TrustedKey)
  | [] => pure seen
  | file :: rest => do
    let key ← mapError (Failure.wrap ("release root key " ++ toString seen.length)) (trustedKeyFromValue file)
    reject (seen.any (·.keyID = key.keyID)) (internal ("duplicate release root key " ++ key.keyID))
    reject (seen.getLast?.any fun previous => key.keyID ≤ previous.keyID)
      (internal "release root keys must be strictly sorted by key_id")
    rootKeyTable (seen ++ [key]) rest

def roleKeys (name : String) (keys : List TrustedKey) (seen : List TrustedKey) :
    List String → Result (List TrustedKey)
  | [] => pure seen
  | keyID :: rest => do
    reject (¬ keyIDPattern keyID)
      (internal (name ++ " role key id " ++ toString seen.length ++ " is not canonical"))
    reject (seen.getLast?.any fun previous => keyID ≤ previous.keyID)
      (internal (name ++ " role key ids must be strictly sorted"))
    let key ← require (keys.find? (·.keyID = keyID)) (internal (name ++ " role references missing key " ++ keyID))
    reject (seen.any (·.keyID = keyID)) (internal (name ++ " role contains duplicate key " ++ keyID))
    roleKeys name keys (seen ++ [key]) rest

def validateRootRole (name : String) (role : RootRole) (keys : List TrustedKey) : Result (List TrustedKey) := do
  reject (role.threshold < 2) (internal (name ++ " role threshold must be at least 2"))
  reject ((role.keyIDs.length : Int) < role.threshold)
    (internal (name ++ " role threshold " ++ toString role.threshold ++ " exceeds " ++
      toString role.keyIDs.length ++ " keys"))
  reject (maxTrustedKeys < role.keyIDs.length)
    (internal (name ++ " role key count must not exceed " ++ toString maxTrustedKeys))
  roleKeys name keys [] role.keyIDs

section
variable (wire : Wire)

/-- The only bytes of a root document. -/
def rootBytes (document : Root) : Bytes := wire.writeRoot document ++ [10]

def validateRoot (document : Root) : Result ParsedRoot := do
  reject (document.schema ≠ rootSchema) (internal ("unsupported release root schema " ++ quote document.schema))
  reject (document.version = 0) (internal "release root version must be positive")
  reject (¬ channelPattern document.channel) (internal "release root channel is not canonical")
  reject (document.releaseEpoch = 0) (internal "release epoch must be positive")
  reject (document.minimumReleaseSequence = 0) (internal "minimum release sequence must be positive")
  reject (document.minimumSecurityFloor = 0) (internal "minimum security floor must be positive")
  let issuedAt ← mapError (Failure.wrap "release root issued_at") (parseCanonicalTime document.issuedAt)
  let expiresAt ← mapError (Failure.wrap "release root expires_at") (parseCanonicalTime document.expiresAt)
  reject (expiresAt ≤ issuedAt) (internal "release root expires_at must be after issued_at")
  reject (maxRootLifetime < expiresAt - issuedAt) (internal "release root validity must not exceed 8784h0m0s")
  reject (document.keys = [] ∨ maxTrustedKeys < document.keys.length)
    (internal ("release root key count must be between 1 and " ++ toString maxTrustedKeys))
  let keys ← rootKeyTable [] document.keys
  let rootKeys ← validateRootRole "root" document.rootRole keys
  let releaseKeys ← validateRootRole "release" document.releaseRole keys
  rejectFound (rootKeys.find? fun key => releaseKeys.any (·.keyID = key.keyID))
    (fun key => internal ("key " ++ key.keyID ++ " appears in both root and release roles"))
  reject (rootKeys.length + releaseKeys.length ≠ keys.length)
    (internal "release root keys must be the exact union of root and release roles")
  rejectFound (keys.find? fun key => ¬ (rootKeys ++ releaseKeys).any (·.keyID = key.keyID))
    (fun key => internal ("release root key " ++ key.keyID ++ " is not assigned to a role"))
  reject (maxRootSize < (rootBytes wire document).length)
    (internal ("release root exceeds " ++ toString maxRootSize ++ " bytes"))
  pure {
    document := document, sha256 := Sha256.hex (Sha256.sum256 (rootBytes wire document)),
    issuedAt := issuedAt, expiresAt := expiresAt, rootKeys := rootKeys, releaseKeys := releaseKeys }

def sortRoot (document : Root) : Root :=
  { document with
    keys := document.keys.insertionSort fun a b => a.keyID ≤ b.keyID
    rootRole := { document.rootRole with keyIDs := document.rootRole.keyIDs.insertionSort (· ≤ ·) }
    releaseRole := { document.releaseRole with keyIDs := document.releaseRole.keyIDs.insertionSort (· ≤ ·) } }

def encodeRoot (input : Root) : Result Bytes := do
  let document := sortRoot input
  let _ ← validateRoot wire document
  pure (rootBytes wire document)

/-- Bytes of compact JSON that end in exactly one line feed. -/
def endsInOneLF (raw : Bytes) : Bool :=
  2 ≤ raw.length && raw.getLast? == some 10 && raw.dropLast.getLast? != some 10

def parseRoot (raw : Bytes) : Result ParsedRoot := do
  reject (raw = [] ∨ maxRootSize < raw.length)
    (internal ("release root size must be between 1 and " ++ toString maxRootSize ++ " bytes"))
  reject (¬ endsInOneLF raw) (internal "release root must be compact JSON followed by exactly one LF")
  let document ← wire.root raw
  let parsed ← validateRoot wire document
  reject (raw ≠ rootBytes wire document) (internal "release root JSON is not in canonical encoding")
  pure parsed

/-! ## Signatures -/

def bigEndian64 (n : Nat) : Bytes := (List.range 8).map fun i => n / 256 ^ (7 - i) % 256

def signatureDomain : String := "mesh-release-detached-signature-v1"

def signatureMessage (kind : ManifestKind) (rawManifest : Bytes) : Bytes :=
  utf8Bytes signatureDomain ++ [0] ++ bigEndian64 kind.text.utf8ByteSize ++ utf8Bytes kind.text ++
    bigEndian64 rawManifest.length ++ rawManifest

def ManifestKind.ofText (text : String) : Option ManifestKind :=
  [ManifestKind.root, .bootstrap, .channel, .release].find? (·.text = text)

/-- A vote: whose it is, for which kind of manifest, and the signature. -/
def parseSignatureEnvelope (raw : Bytes) : Result (String × ManifestKind × Bytes) := do
  reject (raw = [] ∨ maxEnvelopeSize < raw.length)
    (internal ("signature envelope size must be between 1 and " ++ toString maxEnvelopeSize ++ " bytes"))
  let envelope ← wire.envelope raw
  reject (envelope.schema ≠ signatureEnvelopeSchema)
    (internal ("unsupported signature envelope schema " ++ quote envelope.schema))
  let kind ← require (ManifestKind.ofText envelope.manifestType)
    (internal ("unsupported signature manifest_type " ++ quote envelope.manifestType))
  reject (¬ keyIDPattern envelope.keyID) (internal "signature key id is not canonical")
  let signature ← decodeCanonicalBase64 envelope.signature 64 "signature"
  pure (envelope.keyID, kind, signature)

/-- The valid votes so far, each key once for each kind, and the first envelope that was no vote. -/
structure Votes where
  cast : List (ManifestKind × String) := []
  trustedCount : Nat := 0
  firstInvalid : Option Failure := none
deriving DecidableEq

def Votes.byKind (votes : Votes) (kind : ManifestKind) : List String :=
  votes.cast.filterMap fun vote => if vote.1 = kind then some vote.2 else none

def Votes.noteInvalid (votes : Votes) (e : Failure) : Votes :=
  { votes with firstInvalid := votes.firstInvalid.or (some e) }

def trustedKeysValid (trustedKeys : List TrustedKey) : Nat → List TrustedKey → Result Unit
  | _, [] => pure ()
  | index, key :: rest => do
    reject (¬ keyIDPattern key.keyID ∨ key.publicKey.length ≠ 32)
      (internal ("trusted key " ++ toString index ++ " is invalid"))
    reject (keyIDOf key.publicKey ≠ key.keyID)
      (internal ("trusted key " ++ toString index ++ " id does not match key material"))
    reject ((trustedKeys.take index).any (·.keyID = key.keyID))
      (internal ("duplicate trusted key " ++ key.keyID))
    trustedKeysValid trustedKeys (index + 1) rest

def countVote (rawManifest : Bytes) (trustedKeys : List TrustedKey) (index : Nat) (rawEnvelope : Bytes)
    (votes : Votes) : Votes :=
  match parseSignatureEnvelope wire rawEnvelope with
  | .error e => votes.noteInvalid (e.wrap ("signature envelope " ++ toString index))
  | .ok (keyID, kind, signature) =>
    match trustedKeys.find? (·.keyID = keyID) with
    | none => votes
    | some key =>
      if (kind, keyID) ∈ votes.cast then votes
      else if Ed25519.verify key.publicKey (signatureMessage kind rawManifest) signature then
        { votes with cast := votes.cast ++ [(kind, keyID)] }
      else votes.noteInvalid
        (internal ("invalid signature from trusted key " ++ keyID ++ " in envelope " ++ toString index))

def countVotes (rawManifest : Bytes) (trustedKeys : List TrustedKey) : Nat → List Bytes → Votes → Votes
  | _, [], votes => votes
  | index, rawEnvelope :: rest, votes =>
    countVotes rawManifest trustedKeys (index + 1) rest (countVote wire rawManifest trustedKeys index rawEnvelope votes)

def collectSignatureVotes (rawManifest : Bytes) (rawEnvelopes : List Bytes) (trustedKeys : List TrustedKey) :
    Result Votes := do
  reject (maxSignatureEnvelopes < rawEnvelopes.length)
    (internal ("signature envelope count must not exceed " ++ toString maxSignatureEnvelopes))
  reject (maxTrustedKeys < trustedKeys.length)
    (internal ("trusted key count must not exceed " ++ toString maxTrustedKeys))
  trustedKeysValid trustedKeys 0 trustedKeys
  pure (countVotes wire rawManifest trustedKeys 0 rawEnvelopes { trustedCount := trustedKeys.length })

def Votes.shortfall (votes : Votes) (text : String) : Failure :=
  match votes.firstInvalid with
  | none => internal text
  | some e => internal (text ++ "; ignored invalid envelope: " ++ e.text)

/-! ## Root updates -/

/-- Envelopes in the order of their digests. -/
def sortSignatures (signatures : List Bytes) : List Bytes :=
  signatures.insertionSort fun a b => toLex (Sha256.sum256 a, a) ≤ toLex (Sha256.sum256 b, b)

def canonicalRootUpdate (input : RootUpdate) : Result RootUpdate := do
  reject (input.rootManifest = [] ∨ maxRootSize < input.rootManifest.length)
    (internal ("root manifest size must be between 1 and " ++ toString maxRootSize ++ " bytes"))
  let _ ← mapError (Failure.wrap "root update manifest") (parseRoot wire input.rootManifest)
  reject (input.signatures = [] ∨ maxRootTransitionSignatures < input.signatures.length)
    (internal ("root update signature count must be between 1 and " ++ toString maxRootTransitionSignatures))
  checkSeen (fun seen signature => do
    reject (signature = [] ∨ maxEnvelopeSize < signature.length)
      (internal ("root signature " ++ toString seen.length ++ " size must be between 1 and " ++
        toString maxEnvelopeSize ++ " bytes"))
    reject (signature ∈ seen)
      (internal ("duplicate root signature bytes at index " ++ toString seen.length))) [] input.signatures
  pure { input with signatures := sortSignatures input.signatures }

def encodeRootUpdate (input : RootUpdate) : Result Bytes := do
  let value ← canonicalRootUpdate wire input
  reject (maxRootUpdateSize < (wire.writeUpdate value ++ [10]).length)
    (internal ("root update exceeds " ++ toString maxRootUpdateSize ++ " bytes"))
  pure (wire.writeUpdate value ++ [10])

/-- The wire's reader has decoded the base64 of the members and checked their sizes. -/
def parseRootUpdate (raw : Bytes) : Result RootUpdate := do
  reject (raw = [] ∨ maxRootUpdateSize < raw.length)
    (internal ("root update size must be between 1 and " ++ toString maxRootUpdateSize ++ " bytes"))
  reject (¬ endsInOneLF raw) (internal "root update must be compact JSON followed by exactly one LF")
  let decoded ← wire.update raw
  let value ← canonicalRootUpdate wire decoded
  let canonical ← encodeRootUpdate wire value
  reject (raw ≠ canonical) (internal "root update JSON is not in canonical encoding")
  pure value

/-! ## Manifests -/

/-- What cannot come from a signed manifest itself. A number, a text or a time of zero asks for nothing. -/
structure VerificationPolicy where
  now : Int := 0
  clockSkew : Int := 0
  threshold : Int := 0
  minimumSequence : Nat := 0
  minimumSecurityFloor : Nat := 0
  supportedSecurityFloor : Nat := 0
  expectedChannel : String := ""
  expectedReleaseEpoch : Nat := 0
  minimumReleaseEpoch : Nat := 0
  allowLegacyEpochOne : Bool := false
  platformOS : String := ""
  platformArch : String := ""
deriving DecidableEq

structure ParsedManifest where
  kind : ManifestKind
  releaseEpoch : Nat
  channel : Option ChannelManifest := none
  release : Option ReleaseManifest := none
  issuedAt : Int
  expiresAt : Int
  selectedArtifact : Option Artifact := none
deriving DecidableEq

structure VerifiedManifest extends ParsedManifest where
  signerKeyIDs : List String
deriving DecidableEq

def validateManifestReleaseEpoch (legacy : Bool) (declared : Nat) (policy : VerificationPolicy) : Result Nat := do
  reject (legacy ∧ (policy.expectedReleaseEpoch ≠ 0 ∨ policy.minimumReleaseEpoch ≠ 0) ∧ ¬ policy.allowLegacyEpochOne)
    (internal "legacy v1 release metadata requires the explicit initial-root epoch-1 bridge")
  reject (¬ legacy ∧ declared = 0) (internal "release_epoch must be positive")
  let epoch := if legacy then 1 else declared
  reject (policy.minimumReleaseEpoch ≠ 0 ∧ epoch < policy.minimumReleaseEpoch)
    (internal ("release epoch " ++ toString epoch ++ " is below persisted epoch " ++
      toString policy.minimumReleaseEpoch))
  reject (policy.expectedReleaseEpoch ≠ 0 ∧ epoch ≠ policy.expectedReleaseEpoch)
    (internal ("release epoch " ++ toString epoch ++ " does not match trusted root epoch " ++
      toString policy.expectedReleaseEpoch))
  pure epoch

/-- What both manifests have in common apart from their times. -/
def validatePosition (channel : String) (sequence securityFloor : Nat) (policy : VerificationPolicy) :
    Result Unit := do
  reject (¬ channelPattern channel) (internal "channel is not canonical")
  reject (policy.expectedChannel ≠ "" ∧ channel ≠ policy.expectedChannel)
    (internal ("channel " ++ quote channel ++ " does not match expected channel " ++ quote policy.expectedChannel))
  reject (sequence = 0) (internal "sequence must be positive")
  reject (sequence < policy.minimumSequence)
    (internal ("sequence " ++ toString sequence ++ " is below replay floor " ++ toString policy.minimumSequence))
  reject (securityFloor = 0) (internal "minimum_security_floor must be positive")
  reject (securityFloor < policy.minimumSecurityFloor)
    (internal ("security floor " ++ toString securityFloor ++ " is below persisted floor " ++
      toString policy.minimumSecurityFloor))
  reject (policy.supportedSecurityFloor ≠ 0 ∧ policy.supportedSecurityFloor < securityFloor)
    (internal ("manifest requires security floor " ++ toString securityFloor ++ " but verifier supports " ++
      toString policy.supportedSecurityFloor))

def validateTimes (clock : Int) (issuedText expiresText : String) (policy : VerificationPolicy) :
    Result (Int × Int) := do
  let issuedAt ← mapError (Failure.wrap "issued_at") (parseCanonicalTime issuedText)
  let expiresAt ← mapError (Failure.wrap "expires_at") (parseCanonicalTime expiresText)
  let now := if policy.now = 0 then clock else policy.now
  let skew := if policy.clockSkew = 0 then defaultSkew else policy.clockSkew
  reject (expiresAt ≤ issuedAt) (internal "expires_at must be after issued_at")
  reject (skew < 0) (internal "clock skew cannot be negative")
  reject (now + skew < issuedAt) (internal "manifest issued_at is too far in the future")
  reject (expiresAt ≤ now) (internal ("manifest expired at " ++ formatTime expiresAt))
  pure (issuedAt, expiresAt)

def validateCommon (clock : Int) (channel : String) (sequence securityFloor : Nat)
    (issuedText expiresText : String) (policy : VerificationPolicy) : Result (Int × Int) := do
  validatePosition channel sequence securityFloor policy
  validateTimes clock issuedText expiresText policy

def validateSHA256 (value : String) : Result Unit :=
  reject (¬ sha256Pattern value) (internal "must be 64 lowercase hexadecimal characters")

def validateArtifactReference (artifact : Artifact) : Result Unit := do
  reject (¬ platformPattern artifact.os ∨ ¬ platformPattern artifact.arch) (internal "has invalid platform")
  reject (artifact.size ≤ 0 ∨ maxArtifactSize < artifact.size)
    (internal ("size must be between 1 and " ++ toString maxArtifactSize ++ " bytes"))
  mapError (Failure.wrap "sha256") (validateSHA256 artifact.sha256)
  mapError (Failure.wrap "URL") (wire.httpsURL artifact.url)

/-- What a channel manifest says apart from its times. -/
def validateReference (manifest : ChannelManifest) : Result Unit := do
  mapError (Failure.wrap "release version") (validateVersion manifest.release.version)
  reject (manifest.release.sequence = 0 ∨ manifest.release.sequence ≠ manifest.sequence)
    (internal "release sequence must equal channel sequence")
  reject (manifest.release.manifestSize ≤ 0 ∨ (maxManifestSize : Int) < manifest.release.manifestSize)
    (internal ("release manifest_size must be between 1 and " ++ toString maxManifestSize))
  mapError (Failure.wrap "release manifest_sha256") (validateSHA256 manifest.release.manifestSHA256)
  mapError (Failure.wrap "release manifest_url") (wire.httpsURL manifest.release.manifestURL)

def parseChannelManifest (clock : Int) (raw : Bytes) (policy : VerificationPolicy) (versionTwo : Bool) :
    Result ParsedManifest := do
  let manifest ← wire.channel raw
  reject (manifest.schema ≠ if versionTwo then channelSchemaV2 else channelSchema)
    (internal ("unsupported channel schema " ++ quote manifest.schema))
  let releaseEpoch ← validateManifestReleaseEpoch (!versionTwo) manifest.releaseEpoch policy
  let (issuedAt, expiresAt) ← validateCommon clock manifest.channel manifest.sequence
    manifest.minimumSecurityFloor manifest.issuedAt manifest.expiresAt policy
  validateReference wire manifest
  pure {
    kind := .channel, releaseEpoch := releaseEpoch, channel := some manifest, issuedAt := issuedAt,
    expiresAt := expiresAt }

/-- The artifacts of a release and the one for the platform that was asked for. -/
def selectArtifact (artifacts : List Artifact) (policy : VerificationPolicy) : Result (Option Artifact) := do
  reject (artifacts = []) (internal "release must contain at least one artifact")
  checkSeen (fun seen artifact => do
    mapError (fun e => internal ("artifact " ++ toString seen.length ++ " " ++ e.text))
      (validateArtifactReference wire artifact)
    reject (seen.any fun other => other.os = artifact.os ∧ other.arch = artifact.arch)
      (internal ("duplicate artifact platform " ++ artifact.os ++ "/" ++ artifact.arch))) [] artifacts
  let selected := if policy.platformOS ≠ "" ∧ policy.platformArch ≠ "" then
    artifacts.find? fun artifact => artifact.os = policy.platformOS ∧ artifact.arch = policy.platformArch else none
  reject ((policy.platformOS = "") ≠ (policy.platformArch = ""))
    (internal "platform OS and architecture must be supplied together")
  reject (policy.platformOS ≠ "" ∧ selected = none)
    (internal ("release has no artifact for " ++ policy.platformOS ++ "/" ++ policy.platformArch))
  pure selected

def parseReleaseManifest (clock : Int) (raw : Bytes) (policy : VerificationPolicy) (versionTwo : Bool) :
    Result ParsedManifest := do
  let manifest ← wire.release raw
  reject (manifest.schema ≠ if versionTwo then releaseSchemaV2 else releaseSchema)
    (internal ("unsupported release schema " ++ quote manifest.schema))
  let releaseEpoch ← validateManifestReleaseEpoch (!versionTwo) manifest.releaseEpoch policy
  let (issuedAt, expiresAt) ← validateCommon clock manifest.channel manifest.sequence
    manifest.minimumSecurityFloor manifest.issuedAt manifest.expiresAt policy
  mapError (Failure.wrap "version") (validateVersion manifest.version)
  let selected ← selectArtifact wire manifest.artifacts policy
  pure {
    kind := .release, releaseEpoch := releaseEpoch, release := some manifest, issuedAt := issuedAt,
    expiresAt := expiresAt, selectedArtifact := selected }

def parseManifest (clock : Int) (raw : Bytes) (policy : VerificationPolicy) : Result ParsedManifest := do
  reject (raw = [] ∨ maxManifestSize < raw.length)
    (internal ("manifest size must be between 1 and " ++ toString maxManifestSize ++ " bytes"))
  let schema ← wire.schema raw
  if schema = channelSchema then parseChannelManifest wire clock raw policy false
  else if schema = channelSchemaV2 then parseChannelManifest wire clock raw policy true
  else if schema = releaseSchema then parseReleaseManifest wire clock raw policy false
  else if schema = releaseSchemaV2 then parseReleaseManifest wire clock raw policy true
  else .error (internal ("unsupported manifest schema " ++ quote schema))

/-- The one kind that enough trusted keys have signed for. -/
def agreedKind (votes : Votes) (threshold : Int) : Result ManifestKind :=
  match [ManifestKind.channel, .release].filter fun kind => threshold ≤ ((votes.byKind kind).length : Int) with
  | [] => .error (votes.shortfall ("no manifest type reached signature threshold " ++ toString threshold ++
      " (channel=" ++ toString (votes.byKind .channel).length ++ ", release=" ++
      toString (votes.byKind .release).length ++ ")"))
  | [kind] => .ok kind
  | _ => .error (internal ("ambiguous authenticated manifest type: channel and release each reached signature " ++
      "threshold " ++ toString threshold))

/-- The signatures over a manifest, before a byte of it is read. -/
def authenticate (rawManifest : Bytes) (rawEnvelopes : List Bytes) (trustedKeys : List TrustedKey)
    (policy : VerificationPolicy) : Result (ManifestKind × List String) := do
  reject (rawManifest = [] ∨ maxManifestSize < rawManifest.length)
    (internal ("manifest size must be between 1 and " ++ toString maxManifestSize ++ " bytes"))
  reject (policy.supportedSecurityFloor = 0)
    (internal "supported security floor must be positive for verification")
  let threshold := if policy.threshold = 0 then defaultThreshold else policy.threshold
  reject (threshold < 1) (internal "signature threshold must be positive")
  let votes ← collectSignatureVotes wire rawManifest rawEnvelopes trustedKeys
  reject ((votes.trustedCount : Int) < threshold)
    (internal ("signature threshold " ++ toString threshold ++ " exceeds " ++ toString votes.trustedCount ++
      " distinct trusted keys"))
  let kind ← agreedKind votes threshold
  pure (kind, (votes.byKind kind).insertionSort (· ≤ ·))

def verifyManifest (clock : Int) (rawManifest : Bytes) (rawEnvelopes : List Bytes) (trustedKeys : List TrustedKey)
    (policy : VerificationPolicy) : Result VerifiedManifest := do
  let (kind, signers) ← authenticate wire rawManifest rawEnvelopes trustedKeys policy
  let parsed ← mapError (Failure.wrap "authenticated manifest semantics") (parseManifest wire clock rawManifest policy)
  reject (parsed.kind ≠ kind)
    (internal ("authenticated signatures declare " ++ kind.text ++ " but manifest schema declares " ++
      parsed.kind.text))
  pure { parsed with signerKeyIDs := signers }

/-- The release manifest is the one the channel manifest pins. -/
def matchReference (reference : ReleaseReference) (releaseRaw : Bytes) (channel : ChannelManifest)
    (release : ReleaseManifest) (channelEpoch releaseEpoch : Nat) : Result Unit := do
  reject ((releaseRaw.length : Int) ≠ reference.manifestSize)
    (internal "release manifest size does not match channel reference")
  reject (Sha256.hex (Sha256.sum256 releaseRaw) ≠ reference.manifestSHA256)
    (internal "release manifest SHA-256 does not match channel reference")
  reject (release.channel ≠ channel.channel ∨ release.version ≠ reference.version ∨
      release.sequence ≠ reference.sequence ∨ release.minimumSecurityFloor ≠ channel.minimumSecurityFloor ∨
      releaseEpoch ≠ channelEpoch)
    (internal "release manifest identity does not match channel reference")

def verifyChannelRelease (clock : Int) (channelRaw : Bytes) (channelEnvelopes : List Bytes) (releaseRaw : Bytes)
    (releaseEnvelopes : List Bytes) (trustedKeys : List TrustedKey) (policy : VerificationPolicy) :
    Result (VerifiedManifest × VerifiedManifest) := do
  let verifiedChannel ← mapError (Failure.wrap "channel manifest")
    (verifyManifest wire clock channelRaw channelEnvelopes trustedKeys
      { policy with platformOS := "", platformArch := "" })
  let channel ← require verifiedChannel.channel (internal "first manifest is not a channel manifest")
  let verifiedRelease ← mapError (Failure.wrap "release manifest")
    (verifyManifest wire clock releaseRaw releaseEnvelopes trustedKeys policy)
  let release ← require verifiedRelease.release (internal "second manifest is not a release manifest")
  matchReference channel.release releaseRaw channel release verifiedChannel.releaseEpoch verifiedRelease.releaseEpoch
  pure (verifiedChannel, verifiedRelease)

end

end Release
end Mesh
