import Mesh.Lib.Sorting
import Mesh.Release.Verify

/-!
# Mesh.Release.Reread

Roots that were checked. The keys of such a root and the names in its roles are in order already, so that a root
that was read from bytes is written to the same bytes again.
-/

namespace Mesh
namespace Release

variable {wire : Wire}

/-! ## Sorted names -/

theorem trustedKeyFromValue_keyID {file : PublicKeyFile} {key : TrustedKey} (h : trustedKeyFromValue file = .ok key) :
    key.keyID = file.keyID := by
  simp only [trustedKeyFromValue, bind_eq_ok, exists_unit, reject_eq_ok, pure_eq_ok] at h
  obtain ⟨-, -, publicKey, -, -, rfl⟩ := h
  rfl

theorem isChain_concat {α : Type} [LinearOrder α] {f : TrustedKey → α} {seen : List TrustedKey} {key : TrustedKey}
    (hseen : (seen.map f).IsChain (· < ·)) (hlast : ¬ (seen.getLast?.any fun last => f key ≤ f last)) :
    ((seen ++ [key]).map f).IsChain (· < ·) := by
  rw [List.map_append, List.isChain_append]
  refine ⟨hseen, .singleton _, ?_⟩
  intro a ha b hb
  rw [List.getLast?_map, Option.mem_def, Option.map_eq_some_iff] at ha
  obtain ⟨last, hlast', rfl⟩ := ha
  simp only [List.map_cons, List.map_nil, List.head?_cons, Option.mem_def, Option.some.injEq] at hb
  subst hb
  rw [hlast'] at hlast
  simpa using hlast

theorem rootKeyTable_sorted {files : List PublicKeyFile} :
    ∀ {seen keys : List TrustedKey}, (seen.map (·.keyID)).IsChain (· < ·) → rootKeyTable seen files = .ok keys →
      (seen.map (·.keyID) ++ files.map (·.keyID)).IsChain (· < ·) := by
  induction files with
  | nil =>
    intro seen keys hseen _
    simpa using hseen
  | cons file rest ih =>
    intro seen keys hseen h
    simp only [rootKeyTable, bind_eq_ok, exists_unit, mapError_eq_ok, reject_eq_ok] at h
    obtain ⟨key, hkey, -, hlast, hrest⟩ := h
    have hnext := ih (isChain_concat (f := (·.keyID)) hseen hlast) hrest
    rwa [List.map_append, List.map_singleton, trustedKeyFromValue_keyID hkey, List.append_assoc] at hnext

theorem roleKeys_sorted {name : String} {keys : List TrustedKey} {ids : List String} :
    ∀ {seen found : List TrustedKey}, (seen.map (·.keyID)).IsChain (· < ·) → roleKeys name keys seen ids = .ok found →
      (seen.map (·.keyID) ++ ids).IsChain (· < ·) := by
  induction ids with
  | nil =>
    intro seen found hseen _
    simpa using hseen
  | cons keyID rest ih =>
    intro seen found hseen h
    simp only [roleKeys, bind_eq_ok, exists_unit, require_eq_ok, reject_eq_ok] at h
    obtain ⟨-, hlast, key, hkey, -, hrest⟩ := h
    have hid : key.keyID = keyID := by simpa using List.find?_some hkey
    rw [← hid] at hlast
    have hnext := ih (isChain_concat (f := (·.keyID)) hseen hlast) hrest
    rwa [List.map_append, List.map_singleton, hid, List.append_assoc] at hnext

theorem validateRootRole_sorted {name : String} {role : RootRole} {keys found : List TrustedKey}
    (h : validateRootRole name role keys = .ok found) : role.keyIDs.insertionSort (· ≤ ·) = role.keyIDs := by
  simp only [validateRootRole, bind_eq_ok, exists_unit, reject_eq_ok] at h
  obtain ⟨-, -, -, hkeys⟩ := h
  have hchain := roleKeys_sorted (by simp) hkeys
  exact Sorting.insertionSort_of_isChain (f := id) (by simpa using hchain)

/-! ## Roots that were read -/

/-- What a root that passed its check is. -/
structure RootValid (wire : Wire) (document : Root) (r : ParsedRoot) : Prop where
  document_eq : r.document = document
  sha256_eq : r.sha256 = Sha256.hex (Sha256.sum256 (rootBytes wire document))
  sorted : sortRoot document = document

theorem validateRoot_valid {document : Root} {r : ParsedRoot} (h : validateRoot wire document = .ok r) :
    RootValid wire document r := by
  simp only [validateRoot, bind_eq_ok, exists_unit, mapError_eq_ok, reject_eq_ok, rejectFound_eq_ok, pure_eq_ok] at h
  obtain ⟨-, -, -, -, -, -, issuedAt, -, expiresAt, -, -, -, -, keys, hkeys, rootKeys, hroot, releaseKeys, hrelease, -,
    -, -, -, rfl⟩ := h
  refine ⟨rfl, rfl, ?_⟩
  have hsorted := rootKeyTable_sorted (by simp) hkeys
  rw [List.map_nil, List.nil_append] at hsorted
  rw [sortRoot, Sorting.insertionSort_of_isChain hsorted, validateRootRole_sorted hroot, validateRootRole_sorted hrelease]

theorem parseRoot_eq_ok {raw : Bytes} {r : ParsedRoot} (h : parseRoot wire raw = .ok r) :
    raw = rootBytes wire r.document ∧ validateRoot wire r.document = .ok r := by
  simp only [parseRoot, bind_eq_ok, exists_unit, reject_eq_ok, ne_eq, Decidable.not_not, pure_eq_ok] at h
  obtain ⟨-, -, document, -, parsed, hvalid, hraw, rfl⟩ := h
  rw [(validateRoot_valid hvalid).document_eq]
  exact ⟨hraw, hvalid⟩

end Release
end Mesh
