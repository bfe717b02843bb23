import Mesh.Lib.JsonStruct
import Mesh.Release.Verify

/-!
# Mesh.Release.Text

The documents of a release as JSON. Before a document is decoded its text is checked: it is valid UTF-8 with
no half of a surrogate pair, and no object has a name twice. The members of an object are known ones, and the
decoder, which compares names without regard to case, is told to refuse others.

`jsonWire` is the JSON layer that the trust decisions are made over; only the check of locators is left open.
-/

namespace Mesh
namespace Release

open JsonText

/-! ## Strict JSON -/

/-- Of `unicode.SimpleFold` what leads to the letters that names of fields are made of: the long s and the sign of
the kelvin. -/
def simpleFold (c : Char) : Char :=
  if c.toNat = 383 then 'S' else if c.toNat = 8490 then 'K' else c

def unpairedHigh : Failure := internal "invalid JSON: unpaired high UTF-16 surrogate escape"

/-- What stands after an escape, from behind its backslash. -/
def skipEscape : List Char → Result (List Char)
  | 'u' :: rest =>
    match readQuad rest with
    | none => pure rest
    | some (value, rest) =>
      if isHighSurrogate value then
        match rest with
        | '\\' :: 'u' :: after =>
          match readQuad after with
          | some (low, after) => do
            reject (¬ isLowSurrogate low) unpairedHigh
            pure after
          | none => .error unpairedHigh
        | _ => .error unpairedHigh
      else if isLowSurrogate value then .error (internal "invalid JSON: unpaired low UTF-16 surrogate escape")
      else pure rest
  | _ :: rest => pure rest
  | [] => pure []

def validateEscapes : Nat → Bool → List Char → Result Unit
  | 0, _, _ => pure ()
  | _, _, [] => pure ()
  | fuel + 1, inString, c :: rest =>
    if c = '"' then validateEscapes fuel (!inString) rest
    else if c = '\\' ∧ inString then do
      let rest ← skipEscape rest
      validateEscapes fuel inString rest
    else validateEscapes fuel inString rest

def validateJSONUnicode (raw : Bytes) : Result Unit := do
  reject (¬ validUtf8 raw) (internal "invalid JSON: input is not valid UTF-8")
  validateEscapes (decodeUtf8 raw).length false (decodeUtf8 raw)

/-- `consumeJSONValue`: no name twice in an object. -/
def consumeJSONValue : Walker Unit Failure where
  enter _ := pure ()
  name _ seen name := reject (name ∈ seen) (internal ("duplicate JSON field " ++ quote name))
  item _ := ()
  syntaxError := internal "invalid JSON"
  objectEnd := internal "invalid object terminator"
  arrayEnd := internal "invalid array terminator"

def validateJSONSyntax (raw : Bytes) : Result Unit := do
  validateJSONUnicode raw
  let _ ← consumeJSONValue.text (internal "trailing JSON") () raw
  pure ()

def decodeStrict {α : Type} (form : Form α) (raw : Bytes) : Result α := do
  validateJSONSyntax raw
  require ((readText raw).bind (form.readOr form.zero)) (internal "invalid schema")

/-- The members of an object, all of them with known names. -/
def exactObject (v : Option Value) (allowed : List String) : Result (List (String × Value)) :=
  match v with
  | some (.object members) => do
    rejectFound (members.find? fun m => m.1 ∉ allowed) (fun m => internal ("unknown field " ++ quote m.1))
    pure members
  | _ => .error (internal "expected JSON object")

/-- The member of a name; of several the last. -/
def memberOf (members : List (String × Value)) (name : String) : Option Value :=
  (members.reverse.find? fun m => m.1 = name).map (·.2)

def requireFields (members : List (String × Value)) (fields : List String) : Result Unit :=
  rejectFound (fields.find? fun field => (memberOf members field).isNone) fun field =>
    internal ("missing field " ++ quote field)

/-- An object with exactly the fields, under the words that its errors start with. -/
def wholeObject (label : String) (v : Option Value) (fields : List String) : Result (List (String × Value)) := do
  let members ← mapError (Failure.wrap label) (exactObject v fields)
  mapError (Failure.wrap label) (requireFields members fields)
  pure members

/-! ## Trust roots -/

def publicKeyFileForm : Form PublicKeyFile :=
  .struct simpleFold [
    .of "schema" (by decide) .string (·.schema) (fun v a => { a with schema := v }),
    .of "key_id" (by decide) .string (·.keyID) (fun v a => { a with keyID := v }),
    .of "public_key" (by decide) .string (·.publicKey) (fun v a => { a with publicKey := v })]
    {} (by decide) fun _ => by simp only [List.foldl_cons, List.foldl_nil, Member.of]

def rootRoleMembers : List (Member RootRole) := [
    .of "threshold" (by decide) .int64 (·.threshold) (fun v a => { a with threshold := v }),
    .of "key_ids" (by decide) (.list .string) (·.keyIDs) (fun v a => { a with keyIDs := v })]

def rootRoleForm : Form RootRole :=
  .struct simpleFold rootRoleMembers {} (by decide) fun _ => by
    simp only [rootRoleMembers, List.foldl_cons, List.foldl_nil, Member.of]

structure RootRoles where
  root : RootRole := {}
  release : RootRole := {}

def rootRolesMembers : List (Member RootRoles) := [
    .of "root" (by decide) rootRoleForm (·.root) (fun v a => { a with root := v }),
    .of "release" (by decide) rootRoleForm (·.release) (fun v a => { a with release := v })]

def rootRolesForm : Form RootRoles :=
  .struct simpleFold rootRolesMembers {} (by decide) fun _ => by
    simp only [rootRolesMembers, List.foldl_cons, List.foldl_nil, Member.of]

def rolesMember : Member Root :=
  .of "roles" (by decide) rootRolesForm (fun a => ⟨a.rootRole, a.releaseRole⟩)
    (fun v a => { a with rootRole := v.root, releaseRole := v.release })

def rootMembers : List (Member Root) := [
    .of "schema" (by decide) .string (·.schema) (fun v a => { a with schema := v }),
    .of "version" (by decide) .uint64 (·.version) (fun v a => { a with version := v }),
    .of "channel" (by decide) .string (·.channel) (fun v a => { a with channel := v }),
    .of "release_epoch" (by decide) .uint64 (·.releaseEpoch) (fun v a => { a with releaseEpoch := v }),
    .of "minimum_release_sequence" (by decide) .uint64 (·.minimumReleaseSequence)
      (fun v a => { a with minimumReleaseSequence := v }),
    .of "minimum_security_floor" (by decide) .uint64 (·.minimumSecurityFloor)
      (fun v a => { a with minimumSecurityFloor := v }),
    .of "issued_at" (by decide) .string (·.issuedAt) (fun v a => { a with issuedAt := v }),
    .of "expires_at" (by decide) .string (·.expiresAt) (fun v a => { a with expiresAt := v }),
    .of "keys" (by decide) (.list publicKeyFileForm) (·.keys) (fun v a => { a with keys := v }),
    rolesMember]

def rootForm : Form Root :=
  .struct simpleFold rootMembers {} (by decide) fun _ => by
    simp only [rootMembers, rolesMember, List.foldl_cons, List.foldl_nil, Member.of]

def rootFields : List String :=
  ["schema", "version", "channel", "release_epoch", "minimum_release_sequence", "minimum_security_floor",
    "issued_at", "expires_at", "keys", "roles"]

def readRoot (raw : Bytes) : Result Root := do
  let object ← wholeObject "invalid release root" (readText raw) rootFields
  let roles ← wholeObject "invalid release root roles" (memberOf object "roles") ["root", "release"]
  let _ ← wholeObject "invalid root role" (memberOf roles "root") ["threshold", "key_ids"]
  let _ ← wholeObject "invalid release role" (memberOf roles "release") ["threshold", "key_ids"]
  mapError (Failure.wrap "invalid release root") (decodeStrict rootForm raw)

def writeRoot (root : Root) : Bytes := encode (rootForm.write root)

/-! ## Root updates -/

def rootUpdateSchema : String := "mesh-release-root-update-v1"

structure EncodedRootUpdate where
  schema : String := ""
  rootManifest : String := ""
  signatures : List String := []

def encodedRootUpdateMembers : List (Member EncodedRootUpdate) := [
    .of "schema" (by decide) .string (·.schema) (fun v a => { a with schema := v }),
    .of "root_manifest" (by decide) .string (·.rootManifest) (fun v a => { a with rootManifest := v }),
    .of "signatures" (by decide) (.list .string) (·.signatures) (fun v a => { a with signatures := v })]

def encodedRootUpdateForm : Form EncodedRootUpdate :=
  .struct simpleFold encodedRootUpdateMembers {} (by decide) fun _ => by
    simp only [encodedRootUpdateMembers, List.foldl_cons, List.foldl_nil, Member.of]

def decodeRootUpdateBytes (value label : String) (maximum : Nat) : Result Bytes := do
  reject (value = "") (internal (label ++ " must not be empty"))
  let err := internal (label ++ " must be canonical unpadded base64url of 1 through " ++ toString maximum ++
    " decoded bytes")
  let raw ← require (Base64.decode value) err
  reject (raw = [] ∨ maximum < raw.length ∨ Base64.encode raw ≠ value) err
  pure raw

/-- Texts of bytes, each labelled with its place. -/
def decodeEach (decode : String → String → Result Bytes) (label : String) : Nat → List String → Result (List Bytes)
  | _, [] => pure []
  | index, value :: rest => do
    let raw ← decode value (label ++ " " ++ toString index)
    let raws ← decodeEach decode label (index + 1) rest
    pure (raw :: raws)

def rootUpdateFields : List String := ["schema", "root_manifest", "signatures"]

def readRootUpdate (raw : Bytes) : Result RootUpdate := do
  let _ ← wholeObject "invalid root update" (readText raw) rootUpdateFields
  let encoded ← mapError (Failure.wrap "invalid root update") (decodeStrict encodedRootUpdateForm raw)
  reject (encoded.schema ≠ rootUpdateSchema) (internal ("unsupported root update schema " ++ quote encoded.schema))
  let manifest ← decodeRootUpdateBytes encoded.rootManifest "root manifest" maxRootSize
  reject (encoded.signatures = [] ∨ maxRootTransitionSignatures < encoded.signatures.length)
    (internal ("root update signature count must be between 1 and " ++ toString maxRootTransitionSignatures))
  let signatures ← decodeEach (fun value label => decodeRootUpdateBytes value label maxEnvelopeSize) "root signature" 0
    encoded.signatures
  pure ⟨manifest, signatures⟩

def encodedRootUpdate (update : RootUpdate) : EncodedRootUpdate :=
  ⟨rootUpdateSchema, Base64.encode update.rootManifest, update.signatures.map Base64.encode⟩

def writeRootUpdate (update : RootUpdate) : Bytes := encode (encodedRootUpdateForm.write (encodedRootUpdate update))

/-! ## Manifests and signatures -/

def releaseReferenceForm : Form ReleaseReference :=
  .struct simpleFold [
    .of "version" (by decide) .string (·.version) (fun v a => { a with version := v }),
    .of "sequence" (by decide) .uint64 (·.sequence) (fun v a => { a with sequence := v }),
    .of "manifest_url" (by decide) .string (·.manifestURL) (fun v a => { a with manifestURL := v }),
    .of "manifest_size" (by decide) .int64 (·.manifestSize) (fun v a => { a with manifestSize := v }),
    .of "manifest_sha256" (by decide) .string (·.manifestSHA256) (fun v a => { a with manifestSHA256 := v })]
    {} (by decide) fun _ => by simp only [List.foldl_cons, List.foldl_nil, Member.of]

def channelManifestForm : Form ChannelManifest :=
  .struct simpleFold [
    .of "schema" (by decide) .string (·.schema) (fun v a => { a with schema := v }),
    .of "channel" (by decide) .string (·.channel) (fun v a => { a with channel := v }),
    .of "release_epoch" (by decide) .uint64 (·.releaseEpoch) (fun v a => { a with releaseEpoch := v }),
    .of "sequence" (by decide) .uint64 (·.sequence) (fun v a => { a with sequence := v }),
    .of "minimum_security_floor" (by decide) .uint64 (·.minimumSecurityFloor)
      (fun v a => { a with minimumSecurityFloor := v }),
    .of "issued_at" (by decide) .string (·.issuedAt) (fun v a => { a with issuedAt := v }),
    .of "expires_at" (by decide) .string (·.expiresAt) (fun v a => { a with expiresAt := v }),
    .of "release" (by decide) releaseReferenceForm (·.release) (fun v a => { a with release := v })]
    {} (by decide) fun _ => by simp only [List.foldl_cons, List.foldl_nil, Member.of]

def artifactForm : Form Artifact :=
  .struct simpleFold [
    .of "os" (by decide) .string (·.os) (fun v a => { a with os := v }),
    .of "arch" (by decide) .string (·.arch) (fun v a => { a with arch := v }),
    .of "url" (by decide) .string (·.url) (fun v a => { a with url := v }),
    .of "size" (by decide) .int64 (·.size) (fun v a => { a with size := v }),
    .of "sha256" (by decide) .string (·.sha256) (fun v a => { a with sha256 := v })]
    {} (by decide) fun _ => by simp only [List.foldl_cons, List.foldl_nil, Member.of]

def releaseManifestForm : Form ReleaseManifest :=
  .struct simpleFold [
    .of "schema" (by decide) .string (·.schema) (fun v a => { a with schema := v }),
    .of "channel" (by decide) .string (·.channel) (fun v a => { a with channel := v }),
    .of "release_epoch" (by decide) .uint64 (·.releaseEpoch) (fun v a => { a with releaseEpoch := v }),
    .of "version" (by decide) .string (·.version) (fun v a => { a with version := v }),
    .of "sequence" (by decide) .uint64 (·.sequence) (fun v a => { a with sequence := v }),
    .of "minimum_security_floor" (by decide) .uint64 (·.minimumSecurityFloor)
      (fun v a => { a with minimumSecurityFloor := v }),
    .of "issued_at" (by decide) .string (·.issuedAt) (fun v a => { a with issuedAt := v }),
    .of "expires_at" (by decide) .string (·.expiresAt) (fun v a => { a with expiresAt := v }),
    .of "artifacts" (by decide) (.list artifactForm) (·.artifacts) (fun v a => { a with artifacts := v })]
    {} (by decide) fun _ => by simp only [List.foldl_cons, List.foldl_nil, Member.of]

def signatureEnvelopeForm : Form SignatureEnvelope :=
  .struct simpleFold [
    .of "schema" (by decide) .string (·.schema) (fun v a => { a with schema := v }),
    .of "manifest_type" (by decide) .string (·.manifestType) (fun v a => { a with manifestType := v }),
    .of "key_id" (by decide) .string (·.keyID) (fun v a => { a with keyID := v }),
    .of "signature" (by decide) .string (·.signature) (fun v a => { a with signature := v })]
    {} (by decide) fun _ => by simp only [List.foldl_cons, List.foldl_nil, Member.of]

/-- The schema that a manifest names. -/
def readSchema (raw : Bytes) : Result String := do
  validateJSONSyntax raw
  match readText raw with
  | some (.object members) => do
    let v ← require (memberOf members "schema") (internal ("missing field " ++ quote "schema"))
    require (Form.string.readOr "" v) (internal "schema must be a string")
  | _ => .error (internal "manifest must be a JSON object")

/-- An object with exactly the fields. -/
def bareObject (v : Option Value) (fields : List String) : Result (List (String × Value)) := do
  let members ← exactObject v fields
  requireFields members fields
  pure members

/-- The fields of a manifest, with an epoch in its second version. -/
def manifestFields (versionTwo : Bool) (rest : List String) : List String :=
  ["schema", "channel"] ++ (if versionTwo then ["release_epoch"] else []) ++ rest

def readChannelManifest (raw : Bytes) : Result ChannelManifest := do
  let schema ← readSchema raw
  let top ← bareObject (readText raw) (manifestFields (schema = channelSchemaV2)
    ["sequence", "minimum_security_floor", "issued_at", "expires_at", "release"])
  let _ ← wholeObject "release reference" (memberOf top "release")
    ["version", "sequence", "manifest_url", "manifest_size", "manifest_sha256"]
  decodeStrict channelManifestForm raw

def checkArtifacts : Nat → List Value → Result Unit
  | _, [] => pure ()
  | index, v :: rest => do
    let _ ← wholeObject ("artifact " ++ toString index) (some v) ["os", "arch", "url", "size", "sha256"]
    checkArtifacts (index + 1) rest

def readReleaseManifest (raw : Bytes) : Result ReleaseManifest := do
  let schema ← readSchema raw
  let top ← bareObject (readText raw) (manifestFields (schema = releaseSchemaV2)
    ["version", "sequence", "minimum_security_floor", "issued_at", "expires_at", "artifacts"])
  match memberOf top "artifacts" with
  | some (.array artifacts) => do
    checkArtifacts 0 artifacts
    decodeStrict releaseManifestForm raw
  | some .null => decodeStrict releaseManifestForm raw
  | _ => .error (internal "artifacts must be an array")

def readSignatureEnvelope (raw : Bytes) : Result SignatureEnvelope := do
  let _ ← bareObject (readText raw) ["schema", "manifest_type", "key_id", "signature"]
  decodeStrict signatureEnvelopeForm raw

/-! ## Transports -/

def BundleSchema.text : BundleSchema → String
  | .v1 => "mesh-online-release-bundle-v1"
  | .v2 => "mesh-online-release-bundle-v2"

/-- The transport as it is written; `rootUpdates` is a member of its second version. -/
structure EncodedBundle where
  schema : String := ""
  rootUpdates : Option (List String) := none
  channelManifest : String := ""
  channelSignatures : List String := []
  releaseManifest : String := ""
  releaseSignatures : List String := []

def bundleManifestFields : List (Member EncodedBundle) := [
    .of "channel_manifest" (by decide) .string (·.channelManifest) (fun v a => { a with channelManifest := v }),
    .of "channel_signatures" (by decide) (.list .string) (·.channelSignatures)
      (fun v a => { a with channelSignatures := v }),
    .of "release_manifest" (by decide) .string (·.releaseManifest) (fun v a => { a with releaseManifest := v }),
    .of "release_signatures" (by decide) (.list .string) (·.releaseSignatures)
      (fun v a => { a with releaseSignatures := v })]

def bundleSchemaField : Member EncodedBundle :=
  .of "schema" (by decide) .string (·.schema) (fun v a => { a with schema := v })

def bundleFields : BundleSchema → List (Member EncodedBundle)
  | .v1 => bundleSchemaField :: bundleManifestFields
  | .v2 => bundleSchemaField ::
      .of "root_updates" (by decide) (.nilable (.list .string)) (·.rootUpdates) (fun v a => { a with rootUpdates := v }) ::
      bundleManifestFields

/-- `json.Unmarshal` into the one field of the header, which is the schema. -/
def headerSchema : String → List (String × Value) → Option String
  | schema, [] => some schema
  | schema, (name, v) :: ms =>
    if (assignField simpleFold ["schema"] name).isSome then
      (Form.string.readOr schema v).bind fun schema => headerSchema schema ms
    else headerSchema schema ms

def readHeader (v : Option Value) : Option String :=
  match v with
  | some (.object members) => headerSchema "" members
  | some .null => some ""
  | _ => none

def decodeBundleBytes (maximum : Nat) (value role : String) : Result Bytes := do
  reject (value = "") (internal (role ++ " is empty"))
  let err := internal (role ++ " must be canonical unpadded base64url")
  let raw ← require (Base64.decode value) err
  reject (Base64.encode raw ≠ value) err
  reject (raw = [] ∨ maximum < raw.length)
    (internal (role ++ " size must be between 1 and " ++ toString maximum ++ " bytes"))
  pure raw

def decodeByteSet (role : String) (maximum : Nat) (values : List String) : Result (List Bytes) := do
  reject (values = [] ∨ maxSignatureEnvelopes < values.length)
    (internal (role ++ " count must be between 1 and " ++ toString maxSignatureEnvelopes))
  decodeEach (decodeBundleBytes maximum) role 0 values

def decodeRootUpdates (values : List String) : Result (List Bytes) := do
  reject (maxRootUpdatesPerInput < values.length)
    (internal ("root update count must not exceed " ++ toString maxRootUpdatesPerInput))
  decodeEach (decodeBundleBytes maxRootUpdateSize) "root update" 0 values

def BundleSchema.ofText (text : String) : Option BundleSchema := [BundleSchema.v1, .v2].find? (·.text = text)

/-- The root updates of a transport: none in its first version. -/
def BundleSchema.rootUpdates (schema : BundleSchema) (encoded : EncodedBundle) : Result (List Bytes) :=
  match schema with
  | .v1 => pure []
  | .v2 => do
    let values ← require encoded.rootUpdates
      (internal "v2 online release bundle requires root_updates, which may be an empty array")
    decodeRootUpdates values

def readBundle (raw : Bytes) : Result (BundleSchema × Bundle) := do
  mapError (Failure.wrap "invalid online release bundle JSON") (validateJSONSyntax raw)
  let text ← require (readHeader (readText raw)) (internal "decode online release bundle schema")
  let schema ← require (BundleSchema.ofText text)
    (internal ("unsupported online release bundle schema " ++ quote text))
  let encoded ← require (match readText raw with
    | some (.object members) => Form.readMembers simpleFold (bundleFields schema) {} members
    | _ => none) (internal "decode online release bundle")
  let rootUpdates ← schema.rootUpdates encoded
  let channelManifest ← decodeBundleBytes maxManifestSize encoded.channelManifest "channel manifest"
  let channelSignatures ← decodeByteSet "channel signature" maxEnvelopeSize encoded.channelSignatures
  let releaseManifest ← decodeBundleBytes maxManifestSize encoded.releaseManifest "release manifest"
  let releaseSignatures ← decodeByteSet "release signature" maxEnvelopeSize encoded.releaseSignatures
  pure (schema, ⟨rootUpdates, channelManifest, channelSignatures, releaseManifest, releaseSignatures⟩)

def encodedBundle (schema : BundleSchema) (b : Bundle) : EncodedBundle where
  schema := schema.text
  rootUpdates := some (b.rootUpdates.map Base64.encode)
  channelManifest := Base64.encode b.channelManifest
  channelSignatures := b.channelSignatures.map Base64.encode
  releaseManifest := Base64.encode b.releaseManifest
  releaseSignatures := b.releaseSignatures.map Base64.encode

def writeBundle (schema : BundleSchema) (b : Bundle) : Bytes :=
  encode (.object ((bundleFields schema).map fun field => (field.name, field.write (encodedBundle schema b))))

/-! ## Written documents -/

theorem isPlain_of_toNat {c : Char} (hlow : 32 ≤ c.toNat) (hhigh : c.toNat ≤ 126)
    (hne : c.toNat ∉ [34, 92, 60, 62, 38]) : isPlain c = true := by
  have hdiffers : ∀ d : Char, d.toNat ∈ [34, 92, 60, 62, 38] → c ≠ d := fun d hd hcd => hne (hcd ▸ hd)
  exact isPlain_iff.mpr ⟨hlow, hhigh, hdiffers _ (by decide), hdiffers _ (by decide), hdiffers _ (by decide),
    hdiffers _ (by decide), hdiffers _ (by decide)⟩

theorem isPlain_digitChar (n : Nat) : isPlain (Base64.digitChar n) = true := by
  have hupper : ∀ k < 26, isPlain (Char.ofNat (65 + k)) = true := by decide
  have hlower : ∀ k < 52, 26 ≤ k → isPlain (Char.ofNat (71 + k)) = true := by decide
  have hdigit : ∀ k < 62, 52 ≤ k → isPlain (Char.ofNat (k - 4)) = true := by decide
  unfold Base64.digitChar
  split_ifs with h1 h2 h3 h4
  · exact hupper n h1
  · exact hlower n h2 (by omega)
  · exact hdigit n h3 (by omega)
  · decide
  · decide

theorem plainText_encode (bytes : List Nat) : PlainText (Base64.encode bytes) := by
  intro c hc
  simp only [Base64.encode, String.toList_ofList, List.mem_map] at hc
  obtain ⟨n, -, rfl⟩ := hc
  exact isPlain_digitChar n

/-- Members with other names leave the schema that was read. -/
theorem headerSchema_fields {schema : String} {fields : List (Member EncodedBundle)} {a : EncodedBundle}
    (h : ∀ name ∈ fields.map (·.name), assignField simpleFold ["schema"] name = none) :
    headerSchema schema (fields.map fun field => (field.name, field.write a)) = some schema := by
  induction fields with
  | nil => rfl
  | cons field fields ih =>
    obtain ⟨hfield, hrest⟩ := List.forall_mem_cons.mp h
    rw [List.map_cons, headerSchema, hfield, Option.isSome_none, if_neg Bool.false_ne_true]
    exact ih hrest

theorem readHeader_fields {fields : List (Member EncodedBundle)} {a : EncodedBundle}
    (h : ∀ name ∈ fields.map (·.name), assignField simpleFold ["schema"] name = none) :
    readHeader (some (.object ((bundleSchemaField :: fields).map fun field => (field.name, field.write a)))) =
      some a.schema := by
  have hschema : headerSchema "" (("schema", .string a.schema) :: fields.map fun field => (field.name, field.write a)) =
      some a.schema := by
    rw [headerSchema, if_pos (by decide)]
    exact headerSchema_fields h
  exact hschema

/-- A transport names the schema it was written in. -/
theorem readBundle_writeBundle {v w : BundleSchema} {b b' : Bundle}
    (h : readBundle (writeBundle v b ++ [10]) = .ok (w, b')) : w = v := by
  have hfits : ∀ field ∈ bundleFields v, field.Fits (encodedBundle v b) := by
    have htexts : ∀ values : List Bytes, ∀ s ∈ values.map Base64.encode, PlainText s := by
      intro values s hs
      obtain ⟨bytes, -, rfl⟩ := List.mem_map.mp hs
      exact plainText_encode bytes
    have hmanifests : ∀ field ∈ bundleManifestFields, field.Fits (encodedBundle v b) := by
      simp only [bundleManifestFields, List.forall_mem_cons, List.not_mem_nil, false_implies, implies_true, and_true]
      exact ⟨plainText_encode _, htexts _, plainText_encode _, htexts _⟩
    have hschema : PlainText v.text := by cases v <;> decide
    cases v with
    | v1 => exact List.forall_mem_cons.mpr ⟨hschema, hmanifests⟩
    | v2 => exact List.forall_mem_cons.mpr ⟨hschema, List.forall_mem_cons.mpr ⟨⟨_, rfl, htexts _⟩, hmanifests⟩⟩
  have hheader : readHeader (readText (writeBundle v b ++ [10])) = some v.text := by
    have hplain : Value.Plain (.object ((bundleFields v).map fun field => (field.name, field.write (encodedBundle v b)))) :=
      Form.plainMembers_map hfits
    rw [writeBundle, readText_encode hplain]
    cases v with
    | v1 => exact readHeader_fields (by decide)
    | v2 => exact readHeader_fields (by decide)
  simp only [readBundle, bind_eq_ok, exists_unit, mapError_eq_ok, require_eq_ok, hheader, Option.some.injEq,
    exists_eq_left', pure_eq_ok, Prod.mk.injEq] at h
  obtain ⟨-, schema, hschema, encoded, -, updates, -, _, -, _, -, _, -, _, -, rfl, -⟩ := h
  cases v <;> cases schema <;> first | rfl | exact absurd hschema (by decide)

/-- JSON as it is read and written here. -/
def jsonWire (httpsURL : String → Result Unit) : Wire where
  schema := readSchema
  root := readRoot
  channel := readChannelManifest
  release := readReleaseManifest
  envelope := readSignatureEnvelope
  update := readRootUpdate
  bundle := readBundle
  writeRoot := writeRoot
  writeUpdate := writeRootUpdate
  writeBundle := writeBundle
  httpsURL := httpsURL
  bundle_schema := readBundle_writeBundle

end Release
end Mesh
