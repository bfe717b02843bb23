import Mesh.Lib.Sorting
import Mesh.Release.Reread
import Mesh.Release.Text

/-!
# Mesh.Release.Canonical

Each root and each update of a root has one text. A document that passed its check holds texts that JSON writes
as they are, so that what is written is read back as the same document, and the reader refuses every other text
by writing the document again. The order in which keys, their names and signatures were given does not show.
-/

namespace Mesh
namespace Release

open JsonText

/-! ## Strict reading of what was written -/

mutual

theorem accepts_of_distinct : (v : Value) → v.Distinct → consumeJSONValue.Accepts () v
  | .null, _ => rfl
  | .bool _, _ => rfl
  | .number _, _ => rfl
  | .string _, _ => rfl
  | .array items, h => ⟨rfl, acceptsItems_of_distinct items h⟩
  | .object members, h => ⟨rfl, acceptsMembers_of_distinct members [] h.2 (by simpa using h.1)⟩

theorem acceptsItems_of_distinct : (vs : List Value) → DistinctItems vs → consumeJSONValue.AcceptsItems () vs
  | [], _ => trivial
  | v :: vs, h => ⟨accepts_of_distinct v h.1, acceptsItems_of_distinct vs h.2⟩

theorem acceptsMembers_of_distinct : (ms : List (String × Value)) → (seen : List String) → DistinctMembers ms →
    (seen ++ ms.map (·.1)).Nodup → consumeJSONValue.AcceptsMembers () seen ms
  | [], _, _, _ => trivial
  | (name, v) :: ms, seen, h, hnames => by
    rw [List.map_cons, List.append_cons] at hnames
    have hnew : name ∉ seen := fun hin =>
      List.disjoint_of_nodup_append (List.nodup_append.mp hnames).1 hin (List.mem_singleton.mpr rfl)
    exact ⟨⟨(), reject_eq_ok.mpr hnew, accepts_of_distinct v h.1⟩,
      acceptsMembers_of_distinct ms (seen ++ [name]) h.2 hnames⟩

end

theorem validateEscapes_of_unescaped {cs : List Char} (h : ∀ c ∈ cs, c ≠ '\\') :
    ∀ {fuel : Nat} {inString : Bool}, validateEscapes fuel inString cs = .ok () := by
  induction cs with
  | nil =>
    intro fuel inString
    cases fuel <;> rfl
  | cons c cs ih =>
    intro fuel inString
    obtain ⟨hc, hcs⟩ := List.forall_mem_cons.mp h
    cases fuel with
    | zero => rfl
    | succ fuel =>
      rw [validateEscapes]
      split_ifs with hquote hescape
      · exact ih hcs
      · exact absurd hescape.1 hc
      · exact ih hcs

theorem validateJSONSyntax_encode {v : Value} (hplain : v.Plain) (hdistinct : v.Distinct) :
    validateJSONSyntax (encode v ++ [10]) = .ok () := by
  obtain ⟨hbytes, hascii⟩ := encode_lf hplain
  obtain ⟨hdecode, hvalid⟩ := decodeUtf8_ascii fun c hc => (hascii c hc).1
  have hunicode : validateJSONUnicode (encode v ++ [10]) = .ok () := by
    rw [validateJSONUnicode, bind_unit_eq_ok, reject_eq_ok, hbytes, hvalid, hdecode]
    exact ⟨by decide, validateEscapes_of_unescaped fun c hc => (hascii c hc).2⟩
  rw [validateJSONSyntax, bind_unit_eq_ok, bind_eq_ok]
  exact ⟨hunicode, v, Walker.text_eq_ok.mpr ⟨readText_encode hplain, accepts_of_distinct v hdistinct⟩, rfl⟩

theorem decodeStrict_encode {α : Type} (form : Form α) {a : α} (h : form.Fits a) :
    decodeStrict form (encode (form.write a) ++ [10]) = .ok a := by
  rw [decodeStrict, bind_unit_eq_ok, require_eq_ok, readText_encode (form.plain h), Option.bind_some]
  exact ⟨validateJSONSyntax_encode (form.plain h) (form.distinct a), form.readOr_write h _⟩

section
variable {α : Type} (fields : List (Member α)) (hnames : (fields.map (·.name)).Nodup) (a : α)

include hnames in
theorem memberOf_map {field : Member α} (h : field ∈ fields) :
    memberOf (fields.map fun field => (field.name, field.write a)) field.name = some (field.write a) := by
  have hdistinct : (((fields.map fun field => (field.name, field.write a)).reverse).map (·.1)).Nodup := by
    rw [List.map_reverse, List.nodup_reverse, Form.names_map]
    exact hnames
  have hlookup : Keyed.lookup (·.1) field.name (fields.map fun field => (field.name, field.write a)).reverse =
      some (field.name, field.write a) :=
    (Keyed.lookup_eq_some_iff hdistinct).mpr ⟨List.mem_reverse.mpr (List.mem_map_of_mem h), rfl⟩
  rw [memberOf]
  exact congrArg (Option.map (·.2)) hlookup

include hnames in
/-- A structure that was written is an object with exactly the members of the structure. -/
theorem wholeObject_map (label : String) :
    wholeObject label (some (.object (fields.map fun field => (field.name, field.write a)))) (fields.map (·.name)) =
      .ok (fields.map fun field => (field.name, field.write a)) := by
  simp only [wholeObject, exactObject, requireFields, bind_eq_ok, exists_unit, mapError_eq_ok, rejectFound_eq_ok,
    pure_eq_ok, List.find?_eq_none]
  refine ⟨_, ⟨?_, rfl⟩, ?_, rfl⟩
  · intro m hm
    obtain ⟨field, hfield, rfl⟩ := List.mem_map.mp hm
    simpa using ⟨field, hfield, rfl⟩
  · intro name hname
    obtain ⟨field, hfield, rfl⟩ := List.mem_map.mp hname
    rw [memberOf_map fields hnames a hfield]
    exact Bool.false_ne_true

end

/-- Compact JSON has no line feed of its own. -/
theorem endsInOneLF_encode {v : Value} (h : v.Plain) : endsInOneLF (encode v ++ [10]) = true := by
  have hbytes : encode v = (write v).map Char.toNat :=
    encodeUtf8_ascii fun c hc => (isWritten_ascii (isWritten_write v h c hc)).1
  have hpos : 1 ≤ (encode v).length := by
    rw [hbytes, List.length_map]
    exact length_write_pos h
  have hlast : (encode v).getLast? ≠ some 10 := by
    intro hlast
    rw [hbytes] at hlast
    obtain ⟨c, hc, hten⟩ := List.mem_map.mp (List.mem_of_getLast? hlast)
    have hwritten := isWritten_write v h c hc
    rw [← Char.ofNat_toNat c, hten] at hwritten
    exact absurd hwritten (by decide)
  simp only [endsInOneLF, List.length_append, List.length_singleton, List.getLast?_concat, List.dropLast_concat,
    beq_self_eq_true, Bool.and_true, Bool.and_eq_true, decide_eq_true_eq, bne_iff_ne, ne_eq]
  exact ⟨by omega, hlast⟩

/-! ## Plain texts -/

variable {c : Char} {document : Root} {r : ParsedRoot} {raw : Bytes} {maximum : Nat} {label : String}

theorem isPlain_of_isLower (h : isLower c = true) : isPlain c = true := by
  simp only [isLower, Bool.and_eq_true, decide_eq_true_eq] at h
  have hlow : 97 ≤ c.toNat := h.1
  have hhigh : c.toNat ≤ 122 := h.2
  exact isPlain_of_toNat (by omega) (by omega) (by simp; omega)

theorem isPlain_of_isDecimal (h : isDecimal c = true) : isPlain c = true := by
  simp only [isDecimal, Bool.and_eq_true, decide_eq_true_eq] at h
  have hlow : 48 ≤ c.toNat := h.1
  have hhigh : c.toNat ≤ 57 := h.2
  exact isPlain_of_toNat (by omega) (by omega) (by simp; omega)

theorem isPlain_of_isHex (h : Sha256.isHex c = true) : isPlain c = true := by
  simp only [Sha256.isHex, Bool.or_eq_true, Bool.and_eq_true, decide_eq_true_eq] at h
  rcases h with h | ⟨hlow, hhigh⟩
  · exact isPlain_of_isDecimal (by simpa [isDecimal] using h)
  · exact isPlain_of_isLower (by simpa [isLower] using ⟨hlow, hhigh.trans (by decide)⟩)

theorem plainText_of_channelPattern {s : String} (h : channelPattern s = true) : PlainText s := by
  have hmarks : ∀ c ∈ ['.', '_', '-'], isPlain c = true := List.all_eq_true.mp (by decide)
  simp only [channelPattern, lowerLabel, matchesLabel] at h
  intro c hc
  split at h
  · cases h
  · rename_i first rest hs
    rw [hs] at hc
    simp only [Bool.and_eq_true, Bool.or_eq_true, List.all_eq_true, decide_eq_true_eq] at h
    obtain ⟨⟨hfirst, -⟩, hrest⟩ := h
    rcases List.mem_cons.mp hc with rfl | hc
    · exact hfirst.elim isPlain_of_isLower isPlain_of_isDecimal
    · rcases hrest c hc with (hc | hc) | hc
      · exact isPlain_of_isLower hc
      · exact isPlain_of_isDecimal hc
      · exact hmarks c hc

theorem plainText_of_keyIDPattern {s : String} (h : keyIDPattern s = true) : PlainText s := by
  simp only [keyIDPattern, fingerprintPattern, Bool.and_eq_true, List.all_eq_true, String.toList_ofList] at h
  obtain ⟨hstem, -, hhex⟩ := h
  intro c hc
  rw [List.prefix_append_drop (List.isPrefixOf_iff_prefix.mp hstem)] at hc
  rcases List.mem_append.mp hc with hc | hc
  · exact (by decide : PlainText keyIDStem) c hc
  · exact isPlain_of_isHex (hhex c hc)

theorem plainText_formatTime (t : Int) : PlainText (formatTime t) := by
  have hmarks : ∀ c ∈ ['-', 'T', ':', '.', 'Z'], isPlain c = true := List.all_eq_true.mp (by decide)
  intro c hc
  rw [formatTime, Calendar.rfc3339Nano, String.toList_ofList] at hc
  exact (Calendar.mem_rfc3339NanoChars hc).elim isPlain_of_digit (hmarks c)

theorem plainText_of_canonicalTime {value : String} {t : Int} (h : parseCanonicalTime value = .ok t) :
    PlainText value := by
  rw [← (parseCanonicalTime_eq_ok.mp h).2]
  exact plainText_formatTime t

/-! ## Roots -/

/-- The numbers of a root that a machine can hold; the thresholds are bounded by the checks. -/
structure Root.Machine (document : Root) : Prop where
  version : document.version ≤ Form.maxUint64
  releaseEpoch : document.releaseEpoch ≤ Form.maxUint64
  minimumReleaseSequence : document.minimumReleaseSequence ≤ Form.maxUint64
  minimumSecurityFloor : document.minimumSecurityFloor ≤ Form.maxUint64

theorem fits_publicKeyFile {file : PublicKeyFile} {key : TrustedKey} (h : trustedKeyFromValue file = .ok key) :
    publicKeyFileForm.Fits file := by
  simp only [trustedKeyFromValue, decodeCanonicalBase64, bind_eq_ok, exists_unit, require_eq_ok, reject_eq_ok, ne_eq,
    not_not, not_or, pure_eq_ok] at h
  obtain ⟨hschema, hid, publicKey, ⟨decoded, -, ⟨-, hencode⟩, -⟩, -, -⟩ := h
  have hpublic : PlainText file.publicKey := hencode ▸ plainText_encode decoded
  have hplain : PlainText file.schema := hschema ▸ by decide
  intro field hfield
  simp only [List.mem_cons, List.not_mem_nil, or_false] at hfield
  rcases hfield with rfl | rfl | rfl
  · exact hplain
  · exact plainText_of_keyIDPattern (by simpa using hid)
  · exact hpublic

theorem fits_rootKeyTable {files : List PublicKeyFile} :
    ∀ {seen keys : List TrustedKey}, rootKeyTable seen files = .ok keys → ∀ file ∈ files, publicKeyFileForm.Fits file := by
  induction files with
  | nil => exact fun _ file hfile => by cases hfile
  | cons file rest ih =>
    intro seen keys h
    simp only [rootKeyTable, bind_eq_ok, exists_unit, mapError_eq_ok] at h
    obtain ⟨key, hkey, -, -, hrest⟩ := h
    exact List.forall_mem_cons.mpr ⟨fits_publicKeyFile hkey, ih hrest⟩

theorem plainText_roleKeys {name : String} {keys : List TrustedKey} {ids : List String} :
    ∀ {seen found : List TrustedKey}, roleKeys name keys seen ids = .ok found → ∀ id ∈ ids, PlainText id := by
  induction ids with
  | nil => exact fun _ id hid => by cases hid
  | cons id rest ih =>
    intro seen found h
    simp only [roleKeys, bind_eq_ok, exists_unit, reject_eq_ok, not_not] at h
    obtain ⟨hid, -, key, -, -, hrest⟩ := h
    exact List.forall_mem_cons.mpr ⟨plainText_of_keyIDPattern hid, ih hrest⟩

theorem fits_rootRole {name : String} {role : RootRole} {keys found : List TrustedKey}
    (h : validateRootRole name role keys = .ok found) : rootRoleForm.Fits role := by
  simp only [validateRootRole, bind_eq_ok, exists_unit, reject_eq_ok, not_lt] at h
  obtain ⟨hlow, hhigh, hcount, hids⟩ := h
  have hcount : role.keyIDs.length ≤ 64 := hcount
  have hthreshold : -9223372036854775808 ≤ role.threshold ∧ role.threshold ≤ 9223372036854775807 := by omega
  intro field hfield
  simp only [rootRoleMembers, List.mem_cons, List.not_mem_nil, or_false] at hfield
  rcases hfield with rfl | rfl
  · exact hthreshold
  · exact plainText_roleKeys hids

section
variable {httpsURL : String → Result Unit}

theorem fits_root (h : validateRoot (jsonWire httpsURL) document = .ok r) (hm : document.Machine) :
    rootForm.Fits document := by
  simp only [validateRoot, bind_eq_ok, exists_unit, mapError_eq_ok, reject_eq_ok, rejectFound_eq_ok, pure_eq_ok, ne_eq,
    not_not] at h
  obtain ⟨hschema, -, hchannel, -, -, -, issuedAt, hissued, expiresAt, hexpires, -, -, -, keys, hkeys, rootKeys, hroot,
    releaseKeys, hrelease, -⟩ := h
  have hplain : PlainText document.schema := hschema ▸ by decide
  have hroles : rootRolesForm.Fits ⟨document.rootRole, document.releaseRole⟩ := by
    intro field hfield
    simp only [rootRolesMembers, List.mem_cons, List.not_mem_nil, or_false] at hfield
    rcases hfield with rfl | rfl
    · exact fits_rootRole hroot
    · exact fits_rootRole hrelease
  intro field hfield
  simp only [rootMembers, List.mem_cons, List.not_mem_nil, or_false] at hfield
  rcases hfield with rfl | rfl | rfl | rfl | rfl | rfl | rfl | rfl | rfl | rfl
  · exact hplain
  · exact hm.version
  · exact plainText_of_channelPattern hchannel
  · exact hm.releaseEpoch
  · exact hm.minimumReleaseSequence
  · exact hm.minimumSecurityFloor
  · exact plainText_of_canonicalTime hissued
  · exact plainText_of_canonicalTime hexpires
  · exact fits_rootKeyTable hkeys
  · exact hroles

theorem wholeObject_role (label : String) (role : RootRole) :
    ∃ members, wholeObject label (some (rootRoleForm.write role)) ["threshold", "key_ids"] = .ok members :=
  ⟨_, wholeObject_map rootRoleMembers (by decide) role label⟩

/-- What is written for a root is read as the root. -/
theorem readRoot_rootBytes (h : rootForm.Fits document) :
    readRoot (rootBytes (jsonWire httpsURL) document) = .ok document := by
  let roles : RootRoles := ⟨document.rootRole, document.releaseRole⟩
  have hread : readText (rootBytes (jsonWire httpsURL) document) =
      some (.object (rootMembers.map fun field => (field.name, field.write document))) := readText_encode (rootForm.plain h)
  have hobject := wholeObject_map rootMembers (by decide) document "invalid release root"
  have hroles : memberOf (rootMembers.map fun field => (field.name, field.write document)) "roles" =
      some (.object (rootRolesMembers.map fun field => (field.name, field.write roles))) :=
    memberOf_map rootMembers (by decide) document (List.mem_of_getLast? (l := rootMembers) rfl)
  have hrolesObject := wholeObject_map rootRolesMembers (by decide) roles "invalid release root roles"
  have hroot : memberOf (rootRolesMembers.map fun field => (field.name, field.write roles)) "root" =
      some (rootRoleForm.write document.rootRole) := memberOf_map rootRolesMembers (by decide) roles List.mem_cons_self
  have hrelease : memberOf (rootRolesMembers.map fun field => (field.name, field.write roles)) "release" =
      some (rootRoleForm.write document.releaseRole) :=
    memberOf_map rootRolesMembers (by decide) roles (List.mem_cons_of_mem _ List.mem_cons_self)
  obtain ⟨rootObject, hrootObject⟩ := wholeObject_role "invalid root role" document.rootRole
  obtain ⟨releaseObject, hreleaseObject⟩ := wholeObject_role "invalid release role" document.releaseRole
  rw [readRoot, bind_eq_ok]
  refine ⟨_, by rw [hread]; exact hobject, ?_⟩
  rw [bind_eq_ok]
  refine ⟨_, by rw [hroles]; exact hrolesObject, ?_⟩
  rw [bind_eq_ok]
  refine ⟨_, by rw [hroot]; exact hrootObject, ?_⟩
  rw [bind_eq_ok]
  refine ⟨_, by rw [hrelease]; exact hreleaseObject, ?_⟩
  rw [mapError_eq_ok]
  exact decodeStrict_encode rootForm h

/-- A root that is read is one that a machine can hold. -/
theorem machine_of_readRoot (h : readRoot raw = .ok document) : document.Machine := by
  simp only [readRoot, decodeStrict, bind_eq_ok, exists_unit, mapError_eq_ok, require_eq_ok, Option.bind_eq_some_iff] at h
  obtain ⟨-, -, -, -, -, -, -, -, -, v, -, hread⟩ := h
  have hzero : Root.Machine {} := ⟨by decide, by decide, by decide, by decide⟩
  cases v with
  | null => exact Option.some.inj hread ▸ hzero
  | bool | number | string | array => cases hread
  | object members =>
    refine Form.readMembers_induct rootMembers ?_ hzero hread
    intro field hfield v a b ha hb
    simp only [rootMembers, List.mem_cons, List.not_mem_nil, or_false] at hfield
    rcases hfield with rfl | rfl | rfl | rfl | rfl | rfl | rfl | rfl | rfl | rfl <;>
      obtain ⟨part, hpart, rfl⟩ := Option.map_eq_some_iff.mp hb
    case inr.inl => exact { ha with version := Form.uint64_readOr_le ha.version hpart }
    case inr.inr.inr.inl => exact { ha with releaseEpoch := Form.uint64_readOr_le ha.releaseEpoch hpart }
    case inr.inr.inr.inr.inl =>
      exact { ha with minimumReleaseSequence := Form.uint64_readOr_le ha.minimumReleaseSequence hpart }
    case inr.inr.inr.inr.inr.inl =>
      exact { ha with minimumSecurityFloor := Form.uint64_readOr_le ha.minimumSecurityFloor hpart }
    all_goals exact { ha with }

theorem machine_of_parseRoot (h : parseRoot (jsonWire httpsURL) raw = .ok r) : r.document.Machine := by
  simp only [parseRoot, bind_eq_ok, exists_unit, pure_eq_ok] at h
  obtain ⟨-, -, document, hread, parsed, hparsed, -, rfl⟩ := h
  rw [(validateRoot_valid hparsed).document_eq]
  exact machine_of_readRoot hread

theorem parseRoot_rootBytes (hvalid : validateRoot (jsonWire httpsURL) document = .ok r) (hm : document.Machine) :
    parseRoot (jsonWire httpsURL) (rootBytes (jsonWire httpsURL) document) = .ok r := by
  have hfits := fits_root hvalid hm
  have hsize : ¬ maxRootSize < (rootBytes (jsonWire httpsURL) document).length := by
    simp only [validateRoot, bind_eq_ok, exists_unit, reject_eq_ok] at hvalid
    obtain ⟨-, -, -, -, -, -, -, -, -, -, -, -, -, -, -, -, -, -, -, -, -, -, hsize, -⟩ := hvalid
    exact hsize
  rw [parseRoot, bind_unit_eq_ok, reject_eq_ok, bind_unit_eq_ok, reject_eq_ok, bind_eq_ok]
  refine ⟨?_, ?_, document, readRoot_rootBytes hfits, ?_⟩
  · rintro (hempty | hlong)
    · exact List.append_ne_nil_of_right_ne_nil _ (List.cons_ne_nil _ _) hempty
    · exact hsize hlong
  · rw [not_not]
    exact endsInOneLF_encode (rootForm.plain hfits)
  · rw [bind_eq_ok]
    refine ⟨r, hvalid, ?_⟩
    rw [bind_unit_eq_ok, reject_eq_ok]
    exact ⟨not_not.mpr rfl, rfl⟩

end

/-! ## The order of keys -/

/-- Roots that differ in the order of keys and of names of keys. -/
structure Root.Reordered (a b : Root) : Prop where
  keys : a.keys.Perm b.keys
  rootKeyIDs : a.rootRole.keyIDs.Perm b.rootRole.keyIDs
  releaseKeyIDs : a.releaseRole.keyIDs.Perm b.releaseRole.keyIDs
  rest : { a with
    keys := b.keys, rootRole := { a.rootRole with keyIDs := b.rootRole.keyIDs },
    releaseRole := { a.releaseRole with keyIDs := b.releaseRole.keyIDs } } = b

theorem Root.Reordered.sortRoot_eq {a b : Root} (h : a.Reordered b) (hkeys : (a.keys.map (·.keyID)).Nodup) :
    sortRoot a = sortRoot b := by
  have hfiles := Sorting.insertionSort_eq_of_perm (f := PublicKeyFile.keyID) h.keys
    fun x hx y hy => List.inj_on_of_nodup_map hkeys hx hy
  have hroot := Sorting.insertionSort_eq_of_perm (f := id) h.rootKeyIDs fun _ _ _ _ => id
  have hrelease := Sorting.insertionSort_eq_of_perm (f := id) h.releaseKeyIDs fun _ _ _ _ => id
  simp only [id_eq] at hroot hrelease
  rw [sortRoot, sortRoot, ← h.rest]
  simp only [hfiles, hroot, hrelease]

theorem Root.Reordered.symm {a b : Root} (h : a.Reordered b) : b.Reordered a := by
  refine ⟨h.keys.symm, h.rootKeyIDs.symm, h.releaseKeyIDs.symm, ?_⟩
  rw [← h.rest]

section
variable {wire : Wire}

theorem encodeRoot_eq_ok : encodeRoot wire document = .ok raw ↔
    (∃ r, validateRoot wire (sortRoot document) = .ok r) ∧ rootBytes wire (sortRoot document) = raw := by
  simp only [encodeRoot, bind_eq_ok, pure_eq_ok]
  constructor
  · rintro ⟨r, hr, hraw⟩
    exact ⟨⟨r, hr⟩, hraw⟩
  · rintro ⟨⟨r, hr⟩, hraw⟩
    exact ⟨r, hr, hraw⟩

/-- A root that is written has no key twice. -/
theorem nodup_of_encodeRoot (h : encodeRoot wire document = .ok raw) : (document.keys.map (·.keyID)).Nodup := by
  obtain ⟨⟨r, hvalid⟩, -⟩ := encodeRoot_eq_ok.mp h
  simp only [validateRoot, bind_eq_ok, exists_unit, mapError_eq_ok] at hvalid
  obtain ⟨-, -, -, -, -, -, -, -, -, -, -, -, -, keys, hkeys, -⟩ := hvalid
  have hchain := rootKeyTable_sorted (by simp) hkeys
  rw [List.map_nil, List.nil_append, List.isChain_iff_pairwise] at hchain
  have hperm := (List.perm_insertionSort (fun a b : PublicKeyFile => a.keyID ≤ b.keyID) document.keys).map (·.keyID)
  exact hperm.nodup_iff.mp (hchain.imp fun hlt => hlt.ne)

theorem Root.Reordered.encodeRoot_ok {a b : Root} (h : a.Reordered b) (ha : encodeRoot wire a = .ok raw) :
    encodeRoot wire b = .ok raw := by
  rw [encodeRoot_eq_ok, ← h.sortRoot_eq (nodup_of_encodeRoot ha), ← encodeRoot_eq_ok]
  exact ha

end

/-! ## Root updates -/

/-- An update that passes its check, apart from the size of its text. -/
structure UpdateValid (wire : Wire) (update : RootUpdate) : Prop where
  manifest_size : ¬ (update.rootManifest = [] ∨ maxRootSize < update.rootManifest.length)
  manifest : ∃ r, parseRoot wire update.rootManifest = .ok r
  count : ¬ (update.signatures = [] ∨ maxRootTransitionSignatures < update.signatures.length)
  size : ∀ s ∈ update.signatures, ¬ (s = [] ∨ maxEnvelopeSize < s.length)
  nodup : update.signatures.Nodup

def RootUpdate.sorted (update : RootUpdate) : RootUpdate :=
  { update with signatures := sortSignatures update.signatures }

section
variable {wire : Wire} {update : RootUpdate}

theorem newSignature_eq_ok (seen : List Bytes) (s : Bytes) {size duplicate : Failure} :
    (do reject (s = [] ∨ maxEnvelopeSize < s.length) size
        reject (s ∈ seen) duplicate : Result Unit) = .ok () ↔
      ¬ (s = [] ∨ maxEnvelopeSize < s.length) ∧ ∀ y ∈ seen, y ≠ s := by
  rw [bind_unit_eq_ok, reject_eq_ok, reject_eq_ok]
  exact and_congr_right fun _ => ⟨fun hnew y hy h => hnew (h ▸ hy), fun hnew hin => hnew s hin rfl⟩

theorem canonicalRootUpdate_eq_ok {value : RootUpdate} :
    canonicalRootUpdate wire update = .ok value ↔ UpdateValid wire update ∧ update.sorted = value := by
  simp only [canonicalRootUpdate, bind_eq_ok, exists_unit, reject_eq_ok, mapError_eq_ok, pure_eq_ok]
  constructor
  · rintro ⟨hsize, r, hr, hcount, hseen, rfl⟩
    obtain ⟨hsizes, hnodup⟩ := (checkSeen_nil_eq_ok (R := (· ≠ ·)) fun seen s => newSignature_eq_ok seen s).mp hseen
    exact ⟨⟨hsize, ⟨r, hr⟩, hcount, hsizes, hnodup⟩, rfl⟩
  · rintro ⟨⟨hsize, ⟨r, hr⟩, hcount, hsizes, hnodup⟩, rfl⟩
    refine ⟨hsize, r, hr, hcount, ?_, rfl⟩
    exact (checkSeen_nil_eq_ok (R := (· ≠ ·)) fun seen s => newSignature_eq_ok seen s).mpr ⟨hsizes, hnodup⟩

theorem encodeRootUpdate_eq_ok : encodeRootUpdate wire update = .ok raw ↔
    UpdateValid wire update ∧ raw.length ≤ maxRootUpdateSize ∧ raw = wire.writeUpdate update.sorted ++ [10] := by
  simp only [encodeRootUpdate, bind_eq_ok, exists_unit, canonicalRootUpdate_eq_ok, reject_eq_ok, pure_eq_ok, not_lt]
  constructor
  · rintro ⟨_, ⟨hvalid, rfl⟩, hsize, rfl⟩
    exact ⟨hvalid, hsize, rfl⟩
  · rintro ⟨hvalid, hsize, rfl⟩
    exact ⟨_, ⟨hvalid, rfl⟩, hsize, rfl⟩

theorem sortSignatures_perm (signatures : List Bytes) : (sortSignatures signatures).Perm signatures :=
  List.perm_insertionSort _ signatures

theorem sortSignatures_eq_of_perm {as bs : List Bytes} (h : as.Perm bs) : sortSignatures as = sortSignatures bs :=
  Sorting.insertionSort_eq_of_perm (f := fun s => toLex (Sha256.sum256 s, s)) h
    fun _ _ _ _ heq => congrArg (fun pair => (ofLex pair).2) heq

/-- Updates that differ in the order of signatures. -/
structure RootUpdate.Reordered (a b : RootUpdate) : Prop where
  rootManifest : a.rootManifest = b.rootManifest
  signatures : a.signatures.Perm b.signatures

theorem RootUpdate.reordered_sorted (update : RootUpdate) : update.Reordered update.sorted :=
  ⟨rfl, (sortSignatures_perm _).symm⟩

variable {b : RootUpdate}

theorem RootUpdate.Reordered.symm {a : RootUpdate} (h : a.Reordered b) : b.Reordered a :=
  ⟨h.rootManifest.symm, h.signatures.symm⟩

theorem RootUpdate.Reordered.sorted_eq {a : RootUpdate} (h : a.Reordered b) : a.sorted = b.sorted := by
  rw [RootUpdate.sorted, RootUpdate.sorted, h.rootManifest, sortSignatures_eq_of_perm h.signatures]

theorem RootUpdate.Reordered.valid {a : RootUpdate} (h : a.Reordered b) (ha : UpdateValid wire a) :
    UpdateValid wire b where
  manifest_size := h.rootManifest ▸ ha.manifest_size
  manifest := h.rootManifest ▸ ha.manifest
  count := by
    rw [← h.signatures.length_eq, ← List.length_eq_zero_iff, ← h.signatures.length_eq, List.length_eq_zero_iff]
    exact ha.count
  size s hs := ha.size s (h.signatures.mem_iff.mpr hs)
  nodup := h.signatures.nodup_iff.mp ha.nodup

theorem RootUpdate.Reordered.encode_ok {a : RootUpdate} (h : a.Reordered b)
    (ha : encodeRootUpdate wire a = .ok raw) : encodeRootUpdate wire b = .ok raw := by
  obtain ⟨hvalid, hsize, hraw⟩ := encodeRootUpdate_eq_ok.mp ha
  exact encodeRootUpdate_eq_ok.mpr ⟨h.valid hvalid, hsize, h.sorted_eq ▸ hraw⟩

end

/-- The signatures of an update are bytes. -/
def RootUpdate.Octets (update : RootUpdate) : Prop := ∀ s ∈ update.signatures, ∀ b ∈ s, b < 256

theorem decodeRootUpdateBytes_encode {bytes : Bytes} (hbytes : ∀ b ∈ bytes, b < 256)
    (hsize : ¬ (bytes = [] ∨ maximum < bytes.length)) (label : String) :
    decodeRootUpdateBytes (Base64.encode bytes) label maximum = .ok bytes := by
  rw [not_or] at hsize
  simp only [decodeRootUpdateBytes, bind_eq_ok, exists_unit, reject_eq_ok, require_eq_ok, Base64.decode_encode hbytes,
    Option.some.injEq, exists_eq_left', pure_eq_ok, and_true, not_or, ne_eq, not_not]
  exact ⟨Base64.encode_ne_empty hsize.1, hsize.1, hsize.2⟩

theorem decodeEach_encode {decode : String → String → Result Bytes} {values : List Bytes}
    (h : ∀ bytes ∈ values, ∀ label, decode (Base64.encode bytes) label = .ok bytes) :
    ∀ {index : Nat}, decodeEach decode label index (values.map Base64.encode) = .ok values := by
  induction values with
  | nil => exact rfl
  | cons bytes rest ih =>
    intro index
    obtain ⟨hbytes, hrest⟩ := List.forall_mem_cons.mp h
    simp only [List.map_cons, decodeEach, hbytes, ih hrest, bind_eq_ok, Except.ok.injEq, exists_eq_left', pure_eq_ok]

theorem octets_of_decodeRootUpdateBytes {value : String}
    (h : decodeRootUpdateBytes value label maximum = .ok raw) : ∀ b ∈ raw, b < 256 := by
  simp only [decodeRootUpdateBytes, bind_eq_ok, exists_unit, require_eq_ok, pure_eq_ok] at h
  obtain ⟨-, decoded, hdecode, -, rfl⟩ := h
  exact Base64.lt_of_decode hdecode

theorem octets_of_decodeEach {values : List String} :
    ∀ {index : Nat} {raws : List Bytes},
      decodeEach (fun value label => decodeRootUpdateBytes value label maximum) label index values = .ok raws →
      ∀ raw ∈ raws, ∀ b ∈ raw, b < 256 := by
  induction values with
  | nil =>
    intro index raws h raw hraw
    rw [← pure_eq_ok.mp h] at hraw
    cases hraw
  | cons value rest ih =>
    intro index raws h
    simp only [decodeEach, bind_eq_ok, pure_eq_ok] at h
    obtain ⟨raw, hraw, tail, htail, rfl⟩ := h
    exact List.forall_mem_cons.mpr ⟨octets_of_decodeRootUpdateBytes hraw, ih htail⟩

theorem octets_of_readRootUpdate {update : RootUpdate} (h : readRootUpdate raw = .ok update) : update.Octets := by
  simp only [readRootUpdate, bind_eq_ok, exists_unit, mapError_eq_ok, pure_eq_ok] at h
  obtain ⟨-, -, encoded, -, -, manifest, -, -, signatures, hsignatures, rfl⟩ := h
  exact octets_of_decodeEach hsignatures

section
variable {httpsURL : String → Result Unit} {update : RootUpdate}

/-- The text of a root is ASCII. -/
theorem octets_of_parseRoot (h : parseRoot (jsonWire httpsURL) raw = .ok r) : ∀ b ∈ raw, b < 256 := by
  obtain ⟨hraw, hvalid⟩ := parseRoot_eq_ok h
  obtain ⟨hbytes, hascii⟩ := encode_lf (rootForm.plain (fits_root hvalid (machine_of_parseRoot h)))
  intro b hb
  rw [hraw, rootBytes] at hb
  obtain ⟨c, hc, rfl⟩ := List.mem_map.mp (hbytes ▸ hb : b ∈ _)
  have := (hascii c hc).1
  omega

theorem fits_encodedRootUpdate (update : RootUpdate) : encodedRootUpdateForm.Fits (encodedRootUpdate update) := by
  intro field hfield
  simp only [encodedRootUpdateMembers, List.mem_cons, List.not_mem_nil, or_false] at hfield
  rcases hfield with rfl | rfl | rfl
  · exact (by decide : PlainText rootUpdateSchema)
  · exact plainText_encode _
  · intro s hs
    obtain ⟨bytes, -, rfl⟩ := List.mem_map.mp hs
    exact plainText_encode bytes

/-- What is written for an update is read as the update. -/
theorem readRootUpdate_writeRootUpdate (hvalid : UpdateValid (jsonWire httpsURL) update) (hoctets : update.Octets) :
    readRootUpdate (writeRootUpdate update ++ [10]) = .ok update := by
  have hfits := fits_encodedRootUpdate update
  have hread : readText (writeRootUpdate update ++ [10]) = some (.object (encodedRootUpdateMembers.map fun field =>
      (field.name, field.write (encodedRootUpdate update)))) := readText_encode (encodedRootUpdateForm.plain hfits)
  obtain ⟨r, hr⟩ := hvalid.manifest
  have hmanifest := decodeRootUpdateBytes_encode (octets_of_parseRoot hr) hvalid.manifest_size "root manifest"
  have hcount : ¬ (update.signatures.map Base64.encode = [] ∨
      maxRootTransitionSignatures < (update.signatures.map Base64.encode).length) := by
    rw [List.map_eq_nil_iff, List.length_map]
    exact hvalid.count
  rw [readRootUpdate, bind_eq_ok]
  refine ⟨_, by rw [hread]; exact wholeObject_map encodedRootUpdateMembers (by decide) _ _, ?_⟩
  rw [bind_eq_ok]
  refine ⟨encodedRootUpdate update, mapError_eq_ok.mpr (decodeStrict_encode encodedRootUpdateForm hfits), ?_⟩
  rw [bind_unit_eq_ok, reject_eq_ok, bind_eq_ok]
  refine ⟨not_not.mpr rfl, update.rootManifest, hmanifest, ?_⟩
  rw [bind_unit_eq_ok, reject_eq_ok, bind_eq_ok]
  exact ⟨hcount, update.signatures,
    decodeEach_encode fun s hs => decodeRootUpdateBytes_encode (hoctets s hs) (hvalid.size s hs), rfl⟩

theorem parseRootUpdate_encodeRootUpdate (h : encodeRootUpdate (jsonWire httpsURL) update = .ok raw)
    (hoctets : update.Octets) : parseRootUpdate (jsonWire httpsURL) raw = .ok update.sorted := by
  obtain ⟨hvalid, hsize, hraw⟩ := encodeRootUpdate_eq_ok.mp h
  have hsorted : UpdateValid (jsonWire httpsURL) update.sorted := update.reordered_sorted.valid hvalid
  have hread : readRootUpdate raw = .ok update.sorted :=
    hraw ▸ readRootUpdate_writeRootUpdate hsorted fun s hs => hoctets s ((sortSignatures_perm _).mem_iff.mp hs)
  have hagain : update.sorted.sorted = update.sorted := update.reordered_sorted.symm.sorted_eq
  have hends : endsInOneLF raw = true :=
    hraw ▸ endsInOneLF_encode (encodedRootUpdateForm.plain (fits_encodedRootUpdate update.sorted))
  have hne : raw ≠ [] := hraw ▸ List.append_ne_nil_of_right_ne_nil _ (List.cons_ne_nil _ _)
  simp only [parseRootUpdate, bind_eq_ok, exists_unit, reject_eq_ok, pure_eq_ok, not_or, not_not, not_lt, ne_eq]
  exact ⟨⟨hne, hsize⟩, hends, update.sorted, hread, update.sorted, canonicalRootUpdate_eq_ok.mpr ⟨hsorted, hagain⟩, raw,
    update.reordered_sorted.encode_ok h, rfl, rfl⟩

end

/-! ## One text for each document -/

/-- Roots and updates of roots are read from exactly the texts that are written for them, and neither the order of
keys and names of keys nor that of signatures shows in a text. A root is read back in its sorted order, with the
digest of the text. Whether a document is written does not depend on the order either; only the words of a refusal
may name a place in the list. -/
theorem canonical_encoding (httpsURL : String → Result Unit) :
    (∀ raw, (∃ r, parseRoot (jsonWire httpsURL) raw = .ok r) ↔
      ∃ document : Root, document.Machine ∧ encodeRoot (jsonWire httpsURL) document = .ok raw) ∧
    (∀ a b : Root, a.Reordered b →
      (encodeRoot (jsonWire httpsURL) a).toOption = (encodeRoot (jsonWire httpsURL) b).toOption) ∧
    (∀ (document : Root) (raw : Bytes), document.Machine → encodeRoot (jsonWire httpsURL) document = .ok raw →
      ∃ r, parseRoot (jsonWire httpsURL) raw = .ok r ∧ r.document = sortRoot document ∧
        r.sha256 = Sha256.hex (Sha256.sum256 raw)) ∧
    (∀ raw, (∃ update, parseRootUpdate (jsonWire httpsURL) raw = .ok update) ↔
      ∃ update : RootUpdate, update.Octets ∧ encodeRootUpdate (jsonWire httpsURL) update = .ok raw) ∧
    (∀ a b : RootUpdate, a.Reordered b →
      (encodeRootUpdate (jsonWire httpsURL) a).toOption = (encodeRootUpdate (jsonWire httpsURL) b).toOption) ∧
    (∀ (update : RootUpdate) (raw : Bytes), update.Octets → encodeRootUpdate (jsonWire httpsURL) update = .ok raw →
      parseRootUpdate (jsonWire httpsURL) raw = .ok update.sorted) := by
  have hroot : ∀ (document : Root) (raw : Bytes), document.Machine → encodeRoot (jsonWire httpsURL) document = .ok raw →
      ∃ r, parseRoot (jsonWire httpsURL) raw = .ok r ∧ r.document = sortRoot document ∧
        r.sha256 = Sha256.hex (Sha256.sum256 raw) := by
    intro document raw hm hencode
    obtain ⟨⟨r, hvalid⟩, rfl⟩ := encodeRoot_eq_ok.mp hencode
    have hr := validateRoot_valid hvalid
    exact ⟨r, parseRoot_rootBytes hvalid { hm with }, hr.document_eq, hr.sha256_eq⟩
  refine ⟨?_, ?_, hroot, ?_, ?_, fun _ _ hoctets hencode => parseRootUpdate_encodeRootUpdate hencode hoctets⟩
  · intro raw
    constructor
    · rintro ⟨r, hr⟩
      obtain ⟨hraw, hvalid⟩ := parseRoot_eq_ok hr
      refine ⟨r.document, machine_of_parseRoot hr, encodeRoot_eq_ok.mpr ?_⟩
      rw [(validateRoot_valid hvalid).sorted]
      exact ⟨⟨r, hvalid⟩, hraw.symm⟩
    · rintro ⟨document, hm, hencode⟩
      obtain ⟨r, hr, -⟩ := hroot document raw hm hencode
      exact ⟨r, hr⟩
  · intro a b hab
    refine Option.ext fun raw => ?_
    rw [toOption_eq_some, toOption_eq_some]
    exact ⟨hab.encodeRoot_ok, hab.symm.encodeRoot_ok⟩
  · intro raw
    constructor
    · rintro ⟨update, hparse⟩
      simp only [parseRootUpdate, bind_eq_ok, exists_unit, reject_eq_ok, ne_eq, not_not, pure_eq_ok,
        canonicalRootUpdate_eq_ok] at hparse
      obtain ⟨-, -, decoded, hread, _, ⟨-, rfl⟩, canonical, hencode, rfl, rfl⟩ := hparse
      have hoctets := octets_of_readRootUpdate hread
      exact ⟨decoded.sorted, fun s hs => hoctets s ((sortSignatures_perm _).mem_iff.mp hs), hencode⟩
    · rintro ⟨update, hoctets, hencode⟩
      exact ⟨_, parseRootUpdate_encodeRootUpdate hencode hoctets⟩
  · intro a b hab
    refine Option.ext fun raw => ?_
    rw [toOption_eq_some, toOption_eq_some]
    exact ⟨hab.encode_ok, hab.symm.encode_ok⟩

end Release
end Mesh
