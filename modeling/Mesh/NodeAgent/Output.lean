import Mesh.Lib.Keyed
import Mesh.NodeAgent.Operations

/-!
# Mesh.NodeAgent.Output

The managed output directory and `Activator.Apply` in full. A version is a directory of files below `versions`, and
`current` is a symbolic link to one of them. Where `Mesh.NodeAgent.Operations` has one call for the preparation of
the directory and one for the publication of a bundle, here every change of the directory is a call of its own, so
each of them can fail and the process can die between any two.

Looking at the directory is one call, too: the agent holds the lock, nobody else writes there, and no check changes
anything. Paths are lists of names from the root of the file system, as they are on Unix.

Left out are the owners and modes behind "private" and the texts of the operating system's errors.
-/

namespace Mesh
namespace NodeAgent
namespace Output

/-! ## Paths -/

/-- An absolute path without `.` and `..`. -/
abbrev Path := List String

/-- `filepath.Join` and `Clean` of an absolute path with the names of a relative one. -/
def joinClean (base : Path) : List String → Path
  | [] => base
  | name :: rest =>
    if name = "" ∨ name = "." then joinClean base rest
    else if name = ".." then joinClean base.dropLast rest
    else joinClean (base ++ [name]) rest

/-- Where a link in the directory leads, by the text of its target. -/
def resolveLink (dir : Path) (target : String) : Path :=
  joinClean dir ((target.toList.splitOn ('/')).map String.ofList)

def isAbs (target : String) : Bool := target.toList.head? == some '/'

def Path.text (p : Path) : String := String.join (p.map fun name => "/" ++ name)

def isProtectedOutputPath (dir : Path) : Bool :=
  dir ∈ [] :: ["bin", "boot", "dev", "etc", "home", "lib", "lib64", "opt", "proc", "root", "run", "sbin", "srv", "sys",
    "tmp", "usr", "var"].map fun name => [name]

def isTokenChar (c : Char) : Bool := isAlphanumeric c || c == '-' || c == '_'

def isLowerHex (c : Char) : Bool := isDecimal c || ('a' ≤ c && c ≤ 'f')

def validVersionName (name : String) : Bool :=
  let cs := name.toList
  cs.length == 51 && cs.take 1 == ['r'] && ((cs.drop 1).take 20).all isDecimal && (cs.drop 21).take 1 == ['-'] &&
    ((cs.drop 22).take 16).all isLowerHex && (cs.drop 38).take 1 == ['-'] && (cs.drop 39).all isTokenChar

def stagingStem : List Char := ".staging-".toList

def validStagingName (name : String) : Bool :=
  let rest := name.toList.drop stagingStem.length
  stagingStem.isPrefixOf name.toList && 0 < rest.length && rest.length ≤ 64 && rest.all isTokenChar

/-! ## The directory -/

/-- What `Lstat` finds in a version: a private regular file, or anything else. -/
inductive Leaf where
  | file (content : String)
  | other
deriving DecidableEq

/-- A private real directory of files. -/
structure Folder where
  modified : Int
  files : List (String × Leaf)

def Folder.leaf? (f : Folder) (name : String) : Option Leaf := (Keyed.lookup Prod.fst name f.files).map Prod.snd

/-- What is at a path where a private real directory belongs. -/
inductive Presence where
  | absent
  | directory
  | other
deriving DecidableEq

inductive Link where
  | symlink (target : String)
  | other
deriving DecidableEq

end Output

open Output in
/-- The output directory: its ownership marker, the entries of `versions`, `current`, and the names of other
entries. An entry of `versions` that is no private real directory has no folder. -/
structure OutputDir where
  root : Presence := .absent
  marker : Option Leaf := none
  versionsDir : Presence := .absent
  versions : List (String × Option Folder) := []
  current : Option Link := none
  others : List String := []

namespace OutputDir

open Output

def entry (o : OutputDir) (name : String) : Option (String × Option Folder) := Keyed.lookup Prod.fst name o.versions

def folder? (o : OutputDir) (name : String) : Option Folder := (o.entry name).bind Prod.snd

def withFolder (o : OutputDir) (name : String) (f : Folder) : OutputDir :=
  { o with versions := Keyed.put Prod.fst (name, some f) o.versions }

def addFolder (o : OutputDir) (name : String) (f : Folder) : OutputDir :=
  { o with versions := (name, some f) :: o.versions }

def without (o : OutputDir) (name : String) : OutputDir :=
  { o with versions := Keyed.drop Prod.fst name o.versions }

/-- The published versions by name. -/
def published (o : OutputDir) : Finset String := (o.versions.map Prod.fst).toFinset.filter fun n => validVersionName n

/-- The version that the current link leads to, by the text of its target. -/
def currentVersion (dir : Path) (o : OutputDir) : Option String :=
  match o.current with
  | some (.symlink target) =>
    let resolved := resolveLink dir target
    if resolved.dropLast = dir ++ ["versions"] then resolved.getLast? else none
  | _ => none

end OutputDir

namespace Output

/-! ## Metadata of a version -/

structure BundleMetadata where
  nodeID : String
  networkID : String
  revision : Int
  issuedAt : Int
  digest : String
  signature : String
  caCertificateSHA256 : String
  previousCACertificateSHA256 : String
  caRotationRequired : Bool
  certificateProfileRenewalRequired : Bool
  certificateFingerprint : String
  certificateExpiresAt : Int
  certificateRenewAfter : Int
  certificateGeneration : Int
  publicKeyHash : String
deriving DecidableEq

/-- `encoding/json` on the metadata of a bundle; decoding refuses unknown fields and what follows the value. -/
structure MetadataCodec where
  encode : BundleMetadata → Option String
  decode : String → Option BundleMetadata

def metadataOf (b : Bundle) : BundleMetadata where
  nodeID := b.nodeID
  networkID := b.networkID
  revision := b.revision
  issuedAt := b.issuedAt
  digest := b.digest
  signature := b.signature
  caCertificateSHA256 := b.caCertificateSHA256
  previousCACertificateSHA256 := b.previousCACertificateSHA256
  caRotationRequired := b.caRotationRequired
  certificateProfileRenewalRequired := b.certificateProfileRenewalRequired
  certificateFingerprint := b.certificateFingerprint
  certificateExpiresAt := b.certificateExpiresAt
  certificateRenewAfter := b.certificateRenewAfter
  certificateGeneration := b.certificateGeneration
  publicKeyHash := b.publicKeyHash

/-- `r%020d-%s-`: revision and digest in front of the name of a version. -/
def versionStem (revision : Int) (digest : String) : List Char :=
  'r' :: Calendar.padded 20 revision.toNat ++ '-' :: digest.toList.take 16 ++ ['-']

def versionName (b : Bundle) (suffix : String) : String :=
  String.ofList (versionStem b.revision b.digest ++ suffix.toList.take 12)

def completeBundleFileNames : List String :=
  ["ca.crt", "config.signed.yml", "config.yml", "host.crt", "host.key", "host.pub", "metadata.json"]

def quoted (s : String) : String := "\"" ++ s ++ "\""

/-- `readSecureBundleFile`. -/
def readSecureBundleFile (name : String) : Option Leaf → Checked String
  | none => .error (.wrap ("inspect bundle file " ++ name) (.text "no such file or directory"))
  | some .other => .error (.text ("bundle file " ++ name ++ " must be a private regular file"))
  | some (.file content) => do
    reject (maxBundleFileSize < content.utf8ByteSize) (.text ("bundle file " ++ name ++ " exceeds size limit"))
    pure content

def BundleMetadata.complete (m : BundleMetadata) : Bool :=
  1 ≤ m.revision && validDigest m.digest && 1 ≤ m.certificateGeneration && m.issuedAt ≠ 0 &&
    validDigest m.caCertificateSHA256 && validDigest m.certificateFingerprint && m.certificateExpiresAt ≠ 0 &&
    m.certificateRenewAfter ≠ 0 && m.certificateRenewAfter < m.certificateExpiresAt &&
    validTokenHash m.publicKeyHash && m.signature ≠ "" && validIdentifier m.nodeID && validIdentifier m.networkID

def checkVersionEntry (e : String × Leaf) : Checked Unit := do
  reject (e.1 ∉ completeBundleFileNames) (.text ("version contains unexpected entry " ++ quoted e.1))
  reject (e.2 = .other) (.text ("version entry " ++ quoted e.1 ++ " must be a private regular file"))

def validateCompleteVersionDirectory (codec : MetadataCodec) (name : String) (f : Option Folder) : Checked Unit := do
  let f ← require f (.text "version must be a private real directory")
  reject (f.files.length ≠ completeBundleFileNames.length)
    (.text "version does not contain the complete immutable bundle file set")
  checkAll checkVersionEntry f.files
  let text ← readSecureBundleFile "metadata.json" (f.leaf? "metadata.json")
  let m ← require (codec.decode text) (.wrap "decode bundle metadata" (.text "invalid metadata"))
  reject (¬ m.complete) (.text "bundle metadata is incomplete or invalid")
  reject (¬ (versionStem m.revision m.digest).isPrefixOf name.toList)
    (.text "version name does not match immutable bundle metadata")

/-! ## The layout -/

/-- Whether the current link leads to a version, and its target. -/
def inspectCurrentLink (dir : Path) (o : OutputDir) : Checked (Option String) :=
  match o.current with
  | none => pure none
  | some .other => .error (.text "current Nebula bundle must be a symlink")
  | some (.symlink target) => do
    reject (isAbs target) (.text "current Nebula bundle target must be relative")
    let resolved := resolveLink dir target
    reject (¬ (dir ++ ["versions"]).isPrefixOf resolved)
      (.text "current Nebula bundle points outside the versions directory")
    reject (resolved.dropLast ≠ dir ++ ["versions"])
      (.text "current Nebula bundle must point to one immutable version directory")
    let (_, f) ← require (o.entry (resolved.getLastD ""))
      (.wrap "inspect current Nebula version directory" (.text "no such file or directory"))
    reject (f.isNone) (.text "current Nebula version must be a private real directory")
    pure (some target)

def managedDirectoryStem : String := "mesh-nodeagent-v2\n"

def markerValue (nodeID networkID : String) : String :=
  managedDirectoryStem ++ "node_id=" ++ nodeID ++ "\nnetwork_id=" ++ networkID ++ "\n"

/-- The identifier after a name in a line of the marker. -/
def markerIdentifier (name : String) (line : List Char) : Bool :=
  name.toList.isPrefixOf line && validIdentifier (String.ofList (line.drop name.length))

def validManagedMarker (marker : String) : Bool :=
  match marker.toList.splitOn ('\n') with
  | [first, node, network, last] => (first ++ ['\n'] == managedDirectoryStem.toList) &&
      markerIdentifier "node_id=" node && markerIdentifier "network_id=" network && last == []
  | _ => false

/-- What `PreflightManagedOutput` asks of the directory itself. -/
def preflightLayout (dir : Path) (o : OutputDir) : Checked Unit :=
  match o.root with
  | .absent => pure ()
  | .other => .error (.text "bundle output must be an owned private real directory")
  | .directory =>
    if o.marker = none ∧ o.versionsDir = .absent ∧ o.current = none ∧ o.others = [] then pure ()
    else do
      reject (o.others ≠ []) (.text "bundle output must be unused or contain only a valid Mesh-managed layout")
      reject (¬ ((readSecureBundleFile ".mesh-nodeagent-owned" o.marker).toOption.any validManagedMarker))
        (.text "bundle output ownership marker is invalid")
      match o.versionsDir with
      | .absent =>
        reject (o.current ≠ none)
          (.text "managed bundle output has a current link without a versions directory")
      | .other => .error (.text "managed versions directory must be an owned private real directory")
      | .directory => do
        checkAll (fun e => reject ((¬ validVersionName e.1 ∧ ¬ validStagingName e.1) ∨ e.2.isNone)
          (.text "managed bundle versions contain an invalid entry")) o.versions
        let _ ← inspectCurrentLink dir o
        pure ()

/-! ## Calls -/

/-- The calls of an activation are made on the way forward or to take it back. -/
inductive Phase where
  | forward
  | rollback
deriving DecidableEq

inductive FileCall where
  /-- `validatePlatformPathSecurity`, which looks at the path and not into the directory. -/
  | checkPath
  /-- `validateManagedOutputParent`. -/
  | checkParent
  | lock
  | look
  | makeRoot
  | writeMarker (content : String)
  /-- The sync at the end of `secureManagedOutputDir`. -/
  | syncRoot
  | makeVersions
  | secureVersions
  | removeVersionFile (version name : String)
  | removeVersion (version : String)
  | syncVersions
  | makeStage
  | secureStage (stage : String)
  | writeStaged (stage name content : String)
  | removeStaged (stage name : String)
  | syncStage (stage : String)
  | removeStage (stage : String)
  /-- `BundleValidator.Validate` on the staged files. -/
  | validate (stage : String)
  | generateBearer (phase : Phase)
  | publish (stage version : String)
  | makeLink (phase : Phase) (temporary target : String)
  /-- The temporary link to the target takes the place of `current`. -/
  | renameLink (phase : Phase) (temporary target : String)
  | removeTemporary (temporary : String)
  | removeLink
  | syncOutput (phase : Phase)
  | reload (phase : Phase)

abbrev FileCall.Value : FileCall → Type
  | look => OutputDir
  | makeStage => String
  | validate _ => CertificateDetails
  | generateBearer _ => String
  | _ => Unit

abbrev FileCall.Answer (c : FileCall) : Type := Checked c.Value

abbrev Act := Program FileCall FileCall.Answer AgentError

def perform (c : FileCall) : Act c.Value := .call c Program.check

def within {α : Type} (context : String) (p : Act α) : Act α := p.mapFail (.wrap context)

def checked {α : Type} (x : Checked α) : Act α := Program.check x

/-- `defer cleanup()`, for a cleanup whose error is dropped. -/
def deferring {α : Type} (cleanup : Act Unit) (p : Act α) : Act α := do
  let r ← p.attempt
  let _ ← cleanup.attempt
  checked r

/-- The cleanup only runs if the program fails. -/
def onFailure {α : Type} (cleanup : Act Unit) (p : Act α) : Act α := do
  match ← p.attempt with
  | .ok a => pure a
  | .error e =>
    let _ ← cleanup.attempt
    .fail e

/-! ## Preparing the directory -/

structure Activator where
  outputDir : Path
  nodeID : String
  networkID : String
  configSigningPublicKey : String
  caCertificateSHA256 : String
  publicKeyHash : String
  hasReloader : Bool := true

def protectedOutput : AgentError :=
  .text "bundle output must be a dedicated leaf directory, not a filesystem or system root"

def preflightManagedOutput (dir : Path) : Act Unit := do
  perform .checkPath
  checked (reject (isProtectedOutputPath dir) protectedOutput)
  perform .checkParent
  let o : OutputDir ← perform .look
  checked (preflightLayout dir o)

def ensureRoot (o : OutputDir) : Act Unit :=
  if o.root = .absent then within "create managed bundle output directory" (perform .makeRoot) else pure ()

/-- The marker says whose directory it is; an empty directory gets one. -/
def claimOwnership (a : Activator) (o : OutputDir) : Act Unit :=
  match o.marker with
  | some .other => .fail (.text "bundle ownership marker must be a private regular file")
  | some (.file content) =>
    checked (reject (content ≠ markerValue a.nodeID a.networkID) (.text "bundle ownership marker is invalid"))
  | none => do
    checked (reject (o.versionsDir ≠ .absent ∨ o.current ≠ none ∨ o.others ≠ [])
      (.text "refusing to manage a non-empty directory without the Mesh ownership marker"))
    perform (.writeMarker (markerValue a.nodeID a.networkID))

def secureManagedOutputDir (a : Activator) : Act Unit := do
  checked (reject (isProtectedOutputPath a.outputDir) protectedOutput)
  let o : OutputDir ← within "inspect managed bundle output directory" (perform .look)
  ensureRoot o
  let o : OutputDir ← within "inspect managed bundle output directory" (perform .look)
  checked (reject (o.root ≠ .directory) (.text "bundle output must be an owned private real directory"))
  claimOwnership a o
  perform .syncRoot

/-- `secureChildDir` on the versions directory. -/
def secureVersionsDir : Act Unit := do
  within "create secure bundle directory" (perform .makeVersions)
  let o : OutputDir ← within "inspect secure bundle directory" (perform .look)
  checked (reject (o.versionsDir ≠ .directory) (.text "bundle directory must be a real directory"))
  within "secure bundle directory" (perform .secureVersions)

/-! ## Pruning -/

def maxRetainedBundleVersions : Nat := 5

structure RetainedVersion where
  name : String
  modified : Int
  current : Bool

/-- One entry of the versions directory: nothing for a staging directory, which is no published version. -/
def retentionEntry (codec : MetadataCodec) (dir : Path) (current : Option Path) (e : String × Option Folder) :
    Checked (Option RetainedVersion) :=
  if validStagingName e.1 then do
    reject (e.2.isNone) (.text "managed bundle staging entry must be a private real directory")
    pure none
  else do
    let err : AgentError := .text "managed bundle versions contain an invalid retention entry"
    reject (¬ validVersionName e.1) err
    let f ← require e.2 err
    mapError (.wrap ("validate immutable Nebula bundle " ++ quoted e.1 ++ " for retention"))
      (validateCompleteVersionDirectory codec e.1 e.2)
    pure (some ⟨e.1, f.modified, decide (current = some (dir ++ ["versions", e.1]))⟩)

def retentionEntries (codec : MetadataCodec) (dir : Path) (target : Option String) (o : OutputDir) :
    Checked (List RetainedVersion) := do
  let entries ← mapAll (retentionEntry codec dir (target.map (resolveLink dir))) o.versions
  let versions := entries.reduceOption
  reject (target.isSome ∧ ¬ versions.any fun v => v.current)
    (.text "current Nebula bundle is not a validated immutable version")
  pure versions

/-- Newest first; at one instant, the greater name first. -/
def newerFirst (a b : RetainedVersion) : Prop :=
  if a.modified = b.modified then b.name ≤ a.name else b.modified < a.modified

instance : DecidableRel newerFirst := fun a b => by
  unfold newerFirst
  exact inferInstance

/-- The names that are kept: those that are, and the first of the versions up to the limit. -/
def retain (limit : Nat) : List String → List RetainedVersion → List String
  | retained, [] => retained
  | retained, v :: rest =>
    if retained.length = limit then retained
    else retain limit (if v.name ∈ retained then retained else v.name :: retained) rest

def retainedNames (limit : Nat) (versions : List RetainedVersion) : List String :=
  retain limit ((versions.find? fun v => v.current).toList.map RetainedVersion.name) versions

/-- The known files of a version are removed one by one. -/
def removeVersionFiles (version : String) : List String → Act Unit
  | [] => pure ()
  | name :: rest => do
    let o : OutputDir ← perform .look
    let leaf ← checked (require ((o.folder? version).bind fun f => f.leaf? name)
      (.wrap ("reinspect version entry " ++ quoted name) (.text "no such file or directory")))
    checked (reject (leaf = .other) (.text ("version entry " ++ quoted name ++ " changed before removal")))
    within ("remove version entry " ++ quoted name) (perform (.removeVersionFile version name))
    removeVersionFiles version rest

def removeCompleteVersionDirectory (codec : MetadataCodec) (version : String) : Act Unit := do
  let o : OutputDir ← perform .look
  checked (validateCompleteVersionDirectory codec version (o.folder? version))
  removeVersionFiles version completeBundleFileNames
  within "remove empty version directory" (perform (.removeVersion version))

def pruneVersions (codec : MetadataCodec) (retained : List String) : List RetainedVersion → Act Unit
  | [] => pure ()
  | v :: rest =>
    if v.name ∈ retained then pruneVersions codec retained rest
    else do
      checked (reject v.current (.text "refusing to prune the current Nebula bundle"))
      within ("prune immutable Nebula bundle " ++ quoted v.name) (removeCompleteVersionDirectory codec v.name)
      pruneVersions codec retained rest

/-- Keeps the current version and the newest others, with one slot left for the bundle to be published. -/
def pruneVersionsBeforeActivation (codec : MetadataCodec) (dir : Path) (target : Option String) : Act Unit := do
  let o : OutputDir ← within "inspect immutable Nebula bundle versions for retention" (perform .look)
  let versions ← checked (retentionEntries codec dir target o)
  let retainBeforeActivation := maxRetainedBundleVersions - 1
  if versions.length ≤ retainBeforeActivation then pure ()
  else
    let versions := versions.insertionSort newerFirst
    pruneVersions codec (retainedNames retainBeforeActivation versions) versions
    within "sync pruned immutable Nebula bundle versions" (perform .syncVersions)

/-! ## Staging -/

/-- The text with its first occurrence in the characters replaced. -/
def replaceText (text by' : List Char) : List Char → List Char
  | [] => []
  | c :: cs =>
    if text.isPrefixOf (c :: cs) then by' ++ (c :: cs).drop text.length else c :: replaceText text by' cs

/-- The paths of the key files are moved to the directory, each of which stands in the config once. The source
goes through the three in no fixed order. -/
def rewritePKIPaths (config : String) (dir : Path) : Checked String :=
  ["/ca.crt", "/host.crt", "/host.key"].foldlM (fun (result : String) (file : String) => do
    let original := "/etc/nebula" ++ file
    reject (countText original.toList 0 result.toList ≠ 1)
      (.text ("signed config must contain exactly one " ++ original ++ " path"))
    pure (String.ofList (replaceText original.toList (Path.text dir ++ file).toList result.toList))) config

def writeFiles (stage : String) : List (String × String) → Act Unit
  | [] => pure ()
  | (name, content) :: rest => do
    perform (.writeStaged stage name content)
    writeFiles stage rest

/-- The files of a bundle with the config that Nebula is started with. -/
def bundleFiles (b : Bundle) (runtimeConfig : String) : List (String × String) := [
  ("ca.crt", b.caCertificate), ("host.crt", b.certificate), ("host.key", b.privateKey), ("host.pub", b.publicKey),
  ("config.signed.yml", b.signedConfig), ("config.yml", runtimeConfig)]

/-- The bundle is written, validated and renamed to a version. -/
def fillStage (a : Activator) (codec : MetadataCodec) (b : Bundle) (stage : String) :
    Act (String × CertificateDetails) := do
  let runtimeConfig ← checked (rewritePKIPaths b.signedConfig (a.outputDir ++ ["current"]))
  let validationConfig ← checked (rewritePKIPaths b.signedConfig (a.outputDir ++ ["versions", stage]))
  writeFiles stage (bundleFiles b runtimeConfig ++ [("config.validate.yml", validationConfig)])
  let details : CertificateDetails ← perform (.validate stage)
  checked (reject (details.fingerprint ≠ b.certificateFingerprint ∨ details.expiresAt ≠ b.certificateExpiresAt)
    (.text "verified Nebula certificate does not match the signed artifact metadata"))
  let metadata ← checked (require (codec.encode (metadataOf b))
    (.wrap "encode bundle metadata" (.text "unsupported value")))
  perform (.writeStaged stage "metadata.json" (metadata ++ "\n"))
  within "remove validation-only config" (perform (.removeStaged stage "config.validate.yml"))
  perform (.syncStage stage)
  let suffix : String ← perform (.generateBearer .forward)
  let version := versionName b suffix
  within "publish staged Nebula bundle" (perform (.publish stage version))
  pure (version, details)

/-! ## The link -/

def temporaryName (random : String) : String := "current.next-" ++ String.ofList (random.toList.take 12)

def replaceSymlink (phase : Phase) (target : String) : Act Unit := do
  let random : String ← perform (.generateBearer phase)
  let temporary := temporaryName random
  within "create next Nebula bundle link" (perform (.makeLink phase temporary target))
  deferring (perform (.removeTemporary temporary))
    (within "activate Nebula bundle" (perform (.renameLink phase temporary target)))

def rollback : Option String → Act Unit
  | some target => do
    within "restore previous Nebula bundle" (replaceSymlink .rollback target)
    within "sync Nebula bundle rollback" (perform (.syncOutput .rollback))
    within "reload previous Nebula bundle" (perform (.reload .rollback))
  | none => do
    within "remove failed initial Nebula bundle" (perform .removeLink)
    within "sync Nebula bundle rollback" (perform (.syncOutput .rollback))

/-- A step after the switch; if it fails, the previous target is restored. -/
def orRollback (previous : Option String) (context : String) (p : Act Unit) : Act Unit := do
  match ← p.attempt with
  | .ok () => pure ()
  | .error e =>
    match ← (rollback previous).attempt with
    | .ok () => .fail (.wrap context e)
    | .error rollbackErr => .fail (.join (.wrap context e) rollbackErr)

/-! ## Activation -/

structure Activation where
  version : String
  previousTarget : Option String
  certificateExpiresAt : Int

/-- `filepath.Rel` of a version to the output directory. -/
def versionTarget (version : String) : String := "versions/" ++ version

/-- `Apply` up to its first look at the link. -/
def Activator.prepare (a : Activator) (b : Bundle) : Act Unit := do
  checked (validateBundle b a.nodeID a.networkID a.configSigningPublicKey a.caCertificateSHA256 a.publicKeyHash)
  checked (reject (¬ a.hasReloader) (.text "a Nebula reloader is required"))
  preflightManagedOutput a.outputDir
  within "lock managed bundle output" (perform .lock)
  preflightManagedOutput a.outputDir
  secureManagedOutputDir a
  secureVersionsDir

/-- The part of `Apply` that publishes the bundle as a version. -/
def publishVersion (a : Activator) (codec : MetadataCodec) (b : Bundle) : Act (String × CertificateDetails) := do
  let stage : String ← within "create staged Nebula bundle" (perform .makeStage)
  let published ← onFailure (perform (.removeStage stage)) do
    within "secure staged Nebula bundle" (perform (.secureStage stage))
    fillStage a codec b stage
  perform .syncVersions
  pure published

/-- The part of `Apply` that makes the version the current one. -/
def switchVersion (previous : Option String) (version : String) : Act Unit := do
  replaceSymlink .forward (versionTarget version)
  orRollback previous "sync activated Nebula bundle" (perform (.syncOutput .forward))
  orRollback previous "reload staged Nebula bundle" (perform (.reload .forward))

def Activator.apply (a : Activator) (codec : MetadataCodec) (b : Bundle) : Act Activation := do
  a.prepare b
  let o : OutputDir ← perform .look
  let previous ← checked (inspectCurrentLink a.outputDir o)
  pruneVersionsBeforeActivation codec a.outputDir previous
  let (version, details) ← publishVersion a codec b
  switchVersion previous version
  pure ⟨version, previous, details.expiresAt⟩

end Output
end NodeAgent
end Mesh
