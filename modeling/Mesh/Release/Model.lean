import Mesh.Control.Basics
import Mesh.Lib.Address
import Mesh.Lib.Calendar

/-!
# Mesh.Release.Model

The documents a release is published with: trust roots, channel and release manifests and detached
signatures, and the texts in them. A `uint64` is a natural number, an `int` an integer and a byte a number.

How a document is written as JSON is not looked at: `Wire` is what the strict reader makes of bytes and what
`json.Marshal` writes. Signatures and digests are over the bytes themselves.
-/

namespace Mesh
namespace Release

abbrev Bytes := List Nat

/-! ## Texts -/

/-- `^[first][rest]{0,31}$` over lower-case letters, digits and some marks. -/
def lowerLabel (marks : List Char) (s : String) : Bool :=
  matchesLabel (fun c => isLower c || isDecimal c) (fun c => isLower c || isDecimal c || c ∈ marks) 31 s

def channelPattern (s : String) : Bool := lowerLabel ['.', '_', '-'] s

def platformPattern (s : String) : Bool := lowerLabel ['_', '-'] s

def sha256Pattern (s : String) : Bool := fingerprintPattern s

def keyIDStem : String := "ed25519-sha256:"

def keyIDPattern (s : String) : Bool :=
  keyIDStem.toList.isPrefixOf s.toList && fingerprintPattern (String.ofList (s.toList.drop keyIDStem.toList.length))

/-- `strings.Split` at a character. -/
def splitAt (sep : Char) : List Char → List (List Char)
  | [] => [[]]
  | c :: cs =>
    match splitAt sep cs with
    | part :: rest => if c = sep then [] :: part :: rest else (c :: part) :: rest
    | [] => []

/-- `strings.SplitN(s, sep, 2)`. -/
def splitOnce (sep : Char) (cs : List Char) : List Char × Option (List Char) :=
  match Address.splitFirst sep cs with
  | some (before, after) => (before, some after)
  | none => (cs, none)

def validNumericIdentifier (cs : List Char) : Bool :=
  !cs.isEmpty && cs.all isDecimal && (cs.length == 1 || cs.head? != some '0')

def validIdentifiers (cs : List Char) (rejectNumericLeadingZero : Bool) : Bool :=
  (splitAt '.' cs).all fun part =>
    !part.isEmpty && part.all (fun c => isAlphanumeric c || c == '-') &&
      !(rejectNumericLeadingZero && part.all isDecimal && !validNumericIdentifier part)

/-- SemVer; the installers have a check of their own that takes the same versions. -/
def validateVersion (version : String) : Result Unit := do
  reject (version = "" ∨ 128 < version.utf8ByteSize)
    (internal "must be a non-empty SemVer string of at most 128 characters")
  reject (1 < version.toList.count '+') (internal "invalid SemVer build metadata")
  let (main, build) := splitOnce '+' version.toList
  reject (build.any fun b => !validIdentifiers b false) (internal "invalid SemVer build metadata")
  let (core, pre) := splitOnce '-' main
  reject ((splitAt '.' core).length ≠ 3) (internal "version must contain major.minor.patch")
  reject (¬ (splitAt '.' core).all validNumericIdentifier) (internal "version core numbers must be canonical")
  reject (pre.any fun p => !validIdentifiers p true) (internal "invalid SemVer prerelease")

/-! ## Times -/

/-- `t.Truncate(time.Second)`. -/
def truncateSecond (t : Int) : Int := t - t % Calendar.second

/-- `t.UTC().Format(time.RFC3339)`. -/
def formatTime (t : Int) : String := Calendar.rfc3339Nano (truncateSecond t)

def parseCanonicalTime (value : String) : Result Int := do
  let err := internal "must be canonical UTC RFC3339 without fractional seconds"
  let t ← require (Calendar.parseRFC3339 value) err
  reject (formatTime t ≠ value) err
  pure t

/-- A text that is the canonical form of an instant. -/
theorem parseCanonicalTime_eq_ok {value : String} {t : Int} :
    parseCanonicalTime value = .ok t ↔ Calendar.parseRFC3339 value = some t ∧ formatTime t = value := by
  simp only [parseCanonicalTime, bind_eq_ok, exists_unit, require_eq_ok, reject_eq_ok, ne_eq, Decidable.not_not,
    pure_eq_ok]
  constructor
  · rintro ⟨u, hu, hvalue, rfl⟩
    exact ⟨hu, hvalue⟩
  · rintro ⟨ht, hvalue⟩
    exact ⟨t, ht, hvalue, rfl⟩

/-! ## Keys -/

structure PublicKeyFile where
  schema : String := ""
  keyID : String := ""
  publicKey : String := ""
deriving DecidableEq, Inhabited

structure TrustedKey where
  keyID : String
  publicKey : Bytes
deriving DecidableEq, Inhabited

def publicKeySchema : String := "mesh-ed25519-public-key-v1"

/-- The name of a key of thirty-two bytes. -/
def keyIDOf (publicKey : Bytes) : String := keyIDStem ++ Sha256.hex (Sha256.sum256 publicKey)

def decodeCanonicalBase64 (value : String) (size : Nat) (label : String) : Result Bytes := do
  let err := internal (label ++ " must be canonical unpadded base64url encoding of " ++ toString size ++ " bytes")
  let decoded ← require (Base64.decode value) err
  reject (decoded.length ≠ size ∨ Base64.encode decoded ≠ value) err
  pure decoded

def trustedKeyFromValue (file : PublicKeyFile) : Result TrustedKey := do
  reject (file.schema ≠ publicKeySchema) (internal ("unsupported public key schema \"" ++ file.schema ++ "\""))
  reject (¬ keyIDPattern file.keyID) (internal "public key id is not canonical")
  let publicKey ← decodeCanonicalBase64 file.publicKey 32 "public key"
  reject (keyIDOf publicKey ≠ file.keyID) (internal "public key id does not match key material")
  pure ⟨file.keyID, publicKey⟩

/-! ## Documents -/

structure RootRole where
  threshold : Int := 0
  keyIDs : List String := []
deriving DecidableEq, Inhabited

structure Root where
  schema : String := ""
  version : Nat := 0
  channel : String := ""
  releaseEpoch : Nat := 0
  minimumReleaseSequence : Nat := 0
  minimumSecurityFloor : Nat := 0
  issuedAt : String := ""
  expiresAt : String := ""
  keys : List PublicKeyFile := []
  rootRole : RootRole := {}
  releaseRole : RootRole := {}
deriving DecidableEq, Inhabited

/-- A root that was checked, with the keys of its two roles. -/
structure ParsedRoot where
  document : Root := {}
  sha256 : String := ""
  issuedAt : Int := 0
  expiresAt : Int := 0
  rootKeys : List TrustedKey := []
  releaseKeys : List TrustedKey := []
deriving DecidableEq, Inhabited

structure Artifact where
  os : String := ""
  arch : String := ""
  url : String := ""
  size : Int := 0
  sha256 : String := ""
deriving DecidableEq, Inhabited

structure ReleaseReference where
  version : String := ""
  sequence : Nat := 0
  manifestURL : String := ""
  manifestSize : Int := 0
  manifestSHA256 : String := ""
deriving DecidableEq, Inhabited

/-- `releaseEpoch` is zero where the document has none. -/
structure ChannelManifest where
  schema : String := ""
  channel : String := ""
  releaseEpoch : Nat := 0
  sequence : Nat := 0
  minimumSecurityFloor : Nat := 0
  issuedAt : String := ""
  expiresAt : String := ""
  release : ReleaseReference := {}
deriving DecidableEq, Inhabited

structure ReleaseManifest where
  schema : String := ""
  channel : String := ""
  releaseEpoch : Nat := 0
  version : String := ""
  sequence : Nat := 0
  minimumSecurityFloor : Nat := 0
  issuedAt : String := ""
  expiresAt : String := ""
  artifacts : List Artifact := []
deriving DecidableEq, Inhabited

inductive ManifestKind where
  | root
  | bootstrap
  | channel
  | release
deriving DecidableEq, Inhabited

def ManifestKind.text : ManifestKind → String
  | .root => "root"
  | .bootstrap => "bootstrap"
  | .channel => "channel"
  | .release => "release"

/-- A detached signature: one key's vote for a manifest of a kind. -/
structure SignatureEnvelope where
  schema : String := ""
  manifestType : String := ""
  keyID : String := ""
  signature : String := ""
deriving DecidableEq, Inhabited

/-- An update of the trust root: the bytes of the new root and signatures over them. -/
structure RootUpdate where
  rootManifest : Bytes
  signatures : List Bytes
deriving DecidableEq, Inhabited

def channelSchema : String := "mesh-channel-manifest-v1"
def releaseSchema : String := "mesh-release-manifest-v1"
def channelSchemaV2 : String := "mesh-channel-manifest-v2"
def releaseSchemaV2 : String := "mesh-release-manifest-v2"
def signatureEnvelopeSchema : String := "mesh-detached-signature-v1"
def rootSchema : String := "mesh-release-root-v1"

def maxManifestSize : Nat := 1048576
def maxEnvelopeSize : Nat := 4096
def maxSignatureEnvelopes : Nat := 256
def maxTrustedKeys : Nat := 64
def maxArtifactSize : Int := 17179869184
def defaultThreshold : Int := 2
def maxRootSize : Nat := 65536
def maxRootLifetime : Int := 366 * 24 * Calendar.hour
def maxRootUpdateSize : Nat := 1048576
def maxRootTransitionSignatures : Nat := 128
def maxRootUpdatesPerInput : Nat := 32

/-- The transport of one release: root updates, the two manifests and their signatures, as bytes. -/
structure Bundle where
  rootUpdates : List Bytes := []
  channelManifest : Bytes := []
  channelSignatures : List Bytes := []
  releaseManifest : Bytes := []
  releaseSignatures : List Bytes := []
deriving DecidableEq, Inhabited

/-- The transport without and with root updates. -/
inductive BundleSchema where
  | v1
  | v2
deriving DecidableEq, Inhabited

/-- The JSON layer: what the strict reader makes of bytes, with its errors, and what the writer makes of a
document, without the line feed at the end. `schema` reads the one field of a document of any form, and
`httpsURL` is the check of a locator. A transport names its schema. -/
structure Wire where
  schema : Bytes → Result String
  root : Bytes → Result Root
  channel : Bytes → Result ChannelManifest
  release : Bytes → Result ReleaseManifest
  envelope : Bytes → Result SignatureEnvelope
  update : Bytes → Result RootUpdate
  bundle : Bytes → Result (BundleSchema × Bundle)
  writeRoot : Root → Bytes
  writeUpdate : RootUpdate → Bytes
  writeBundle : BundleSchema → Bundle → Bytes
  httpsURL : String → Result Unit
  bundle_schema : ∀ {v b w b'}, bundle (writeBundle v b ++ [10]) = .ok (w, b') → w = v

end Release
end Mesh
