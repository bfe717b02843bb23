import Mesh.Lib.Chars
import Mesh.Release.Text
import Mathlib.Data.List.Dedup
import Mathlib.Data.List.Perm.Subperm

/-!
# Mesh.Release.Votes

What the loop over the signature envelopes counts. Whatever stands between them and in whatever order they
come, the votes for a kind of manifest are the trusted keys that have validly signed for it in some envelope
(`collectSignatureVotes_spec`), and a manifest is authenticated when exactly one of the two kinds has enough of them
(`authenticate_eq_ok`). So further envelopes add votes and never take one away.
-/

namespace Mesh
namespace Release

variable {wire : Wire} {rawManifest : Bytes} {envelopes : List Bytes} {trustedKeys : List TrustedKey}

/-! ## One envelope -/

/-- The envelope holds a valid signature of the key over the manifest as one of the kind. -/
def signedBy (wire : Wire) (rawManifest : Bytes) (kind : ManifestKind) (key : TrustedKey) (rawEnvelope : Bytes) : Bool :=
  match parseSignatureEnvelope wire rawEnvelope with
  | .error _ => false
  | .ok (keyID, declared, signature) =>
    keyID = key.keyID && declared = kind && Ed25519.verify key.publicKey (signatureMessage kind rawManifest) signature

/-- The trusted keys that have signed for the kind in some envelope. -/
def signers (wire : Wire) (rawManifest : Bytes) (envelopes : List Bytes) (trustedKeys : List TrustedKey)
    (kind : ManifestKind) : List TrustedKey :=
  trustedKeys.filter fun key => envelopes.any (signedBy wire rawManifest kind key)

variable {kind : ManifestKind} {votes : Votes} {keyID : String}

theorem mem_signers {key : TrustedKey} :
    key ∈ signers wire rawManifest envelopes trustedKeys kind ↔
      key ∈ trustedKeys ∧ ∃ rawEnvelope ∈ envelopes, signedBy wire rawManifest kind key rawEnvelope = true := by
  rw [signers, List.mem_filter, List.any_eq_true]

theorem signers_sublist {extended : List Bytes} (kind : ManifestKind) (h : envelopes ⊆ extended) :
    (signers wire rawManifest envelopes trustedKeys kind).Sublist
      (signers wire rawManifest extended trustedKeys kind) := by
  refine List.monotone_filter_right _ fun key hkey => ?_
  rw [List.any_eq_true] at *
  obtain ⟨rawEnvelope, hmem, hsigned⟩ := hkey
  exact ⟨rawEnvelope, h hmem, hsigned⟩

theorem length_signers_le {extended : List Bytes}
    (h : signers wire rawManifest extended trustedKeys kind ⊆ signers wire rawManifest envelopes trustedKeys kind) :
    (signers wire rawManifest extended trustedKeys kind).length ≤
      (signers wire rawManifest envelopes trustedKeys kind).length := by
  rw [signers, signers, ← List.countP_eq_length_filter, ← List.countP_eq_length_filter]
  refine List.countP_mono_left fun key hkey hsigned => ?_
  exact (List.mem_filter.mp (h (List.mem_filter.mpr ⟨hkey, hsigned⟩))).2

@[simp] theorem cast_noteInvalid (votes : Votes) (e : Failure) : (votes.noteInvalid e).cast = votes.cast := rfl

/-- The names of the trusted keys are distinct. -/
theorem nodup_of_trustedKeysValid {keys : List TrustedKey} :
    ∀ {seen rest : List TrustedKey}, keys = seen ++ rest → (seen.map (·.keyID)).Nodup →
      trustedKeysValid keys seen.length rest = .ok () → (keys.map (·.keyID)).Nodup := by
  intro seen rest
  induction rest generalizing seen with
  | nil =>
    intro hkeys hseen _
    rwa [hkeys, List.append_nil]
  | cons key rest ih =>
    intro hkeys hseen h
    simp only [trustedKeysValid, bind_unit_eq_ok, reject_eq_ok] at h
    obtain ⟨-, -, hnew, hrest⟩ := h
    have hfresh : key.keyID ∉ seen.map (·.keyID) := by
      rw [hkeys, List.take_left] at hnew
      simpa using hnew
    refine @ih (seen ++ [key]) (by rw [hkeys, List.append_assoc, List.singleton_append]) ?_ ?_
    · rw [List.map_append, List.map_singleton, ← List.concat_eq_append, List.nodup_concat]
      exact ⟨hfresh, hseen⟩
    · rwa [List.length_append, List.length_singleton]

section Loop

variable (hnodup : (trustedKeys.map (·.keyID)).Nodup)

include hnodup

/-- One envelope adds the vote it holds. -/
theorem mem_countVote {index : Nat} {rawEnvelope : Bytes} :
    (kind, keyID) ∈ (countVote wire rawManifest trustedKeys index rawEnvelope votes).cast ↔
      (kind, keyID) ∈ votes.cast ∨
        ∃ key ∈ trustedKeys, key.keyID = keyID ∧ signedBy wire rawManifest kind key rawEnvelope = true := by
  unfold countVote signedBy
  cases henvelope : parseSignatureEnvelope wire rawEnvelope with
  | error e => simp
  | ok parsed =>
    obtain ⟨signerID, declared, signature⟩ := parsed
    dsimp only
    cases hfind : trustedKeys.find? (·.keyID = signerID) with
    | none =>
      have hunknown : ∀ key ∈ trustedKeys, key.keyID ≠ signerID := by simpa using List.find?_eq_none.mp hfind
      refine ⟨.inl, ?_⟩
      rintro (hmem | ⟨key, hkey, -, hsigned⟩)
      · exact hmem
      · simp only [Bool.and_eq_true, decide_eq_true_eq] at hsigned
        exact absurd hsigned.1.1.symm (hunknown key hkey)
    | some signer =>
      have hsigner : signer.keyID = signerID := by simpa using List.find?_some hfind
      have hmem : signer ∈ trustedKeys := List.mem_of_find?_eq_some hfind
      -- the only trusted key that can have signed the envelope is the one it names
      have hvote : (∃ key ∈ trustedKeys, key.keyID = keyID ∧ ((decide (signerID = key.keyID) && decide (declared = kind)) &&
            Ed25519.verify key.publicKey (signatureMessage kind rawManifest) signature) = true) ↔
          (kind, keyID) = (declared, signerID) ∧
            Ed25519.verify signer.publicKey (signatureMessage declared rawManifest) signature = true := by
        constructor
        · rintro ⟨key, hkey, rfl, hsigned⟩
          simp only [Bool.and_eq_true, decide_eq_true_eq] at hsigned
          obtain ⟨⟨rfl, rfl⟩, hverify⟩ := hsigned
          have : signer = key := List.inj_on_of_nodup_map hnodup hmem hkey hsigner
          exact ⟨rfl, this ▸ hverify⟩
        · rintro ⟨heq, hverify⟩
          obtain ⟨rfl, rfl⟩ := Prod.mk.injEq .. ▸ heq
          exact ⟨signer, hmem, hsigner, by simp [hsigner, hverify]⟩
      rw [hvote]
      dsimp only
      by_cases hcast : (declared, signerID) ∈ votes.cast
      · rw [if_pos hcast]
        exact ⟨.inl, fun h => h.elim id fun h => h.1 ▸ hcast⟩
      · rw [if_neg hcast]
        by_cases hverify : Ed25519.verify signer.publicKey (signatureMessage declared rawManifest) signature = true
        · rw [if_pos hverify, List.mem_append, List.mem_singleton]
          simp only [hverify, and_true]
        · rw [if_neg hverify, cast_noteInvalid]
          exact ⟨.inl, fun h => h.elim id fun h => absurd h.2 hverify⟩

omit hnodup in
theorem nodup_countVote {index : Nat} {rawEnvelope : Bytes} (h : votes.cast.Nodup) :
    (countVote wire rawManifest trustedKeys index rawEnvelope votes).cast.Nodup := by
  unfold countVote
  split
  · exact h
  · split
    · exact h
    · split
      · exact h
      · rename_i hcast
        split
        · rw [← List.concat_eq_append, List.nodup_concat]
          exact ⟨hcast, h⟩
        · exact h

/-! ## The loop -/

/-- All envelopes add the votes they hold. -/
theorem mem_countVotes :
    ∀ {index : Nat} {votes : Votes}, (kind, keyID) ∈ (countVotes wire rawManifest trustedKeys index envelopes votes).cast ↔
      (kind, keyID) ∈ votes.cast ∨
        ∃ key ∈ signers wire rawManifest envelopes trustedKeys kind, key.keyID = keyID := by
  induction envelopes with
  | nil => simp [countVotes, mem_signers]
  | cons rawEnvelope rest ih =>
    intro index votes
    rw [countVotes, ih, mem_countVote hnodup, or_assoc]
    refine or_congr_right ?_
    simp only [mem_signers, List.exists_mem_cons_iff]
    constructor
    · rintro (⟨key, hkey, rfl, hsigned⟩ | ⟨key, ⟨hkey, hsigned⟩, rfl⟩)
      · exact ⟨key, ⟨hkey, .inl hsigned⟩, rfl⟩
      · exact ⟨key, ⟨hkey, .inr hsigned⟩, rfl⟩
    · rintro ⟨key, ⟨hkey, hsigned | hsigned⟩, rfl⟩
      · exact .inl ⟨key, hkey, rfl, hsigned⟩
      · exact .inr ⟨key, ⟨hkey, hsigned⟩, rfl⟩

omit hnodup in
theorem nodup_countVotes :
    ∀ {index : Nat} {votes : Votes}, votes.cast.Nodup →
      (countVotes wire rawManifest trustedKeys index envelopes votes).cast.Nodup := by
  induction envelopes with
  | nil => exact fun h => h
  | cons rawEnvelope rest ih => exact fun h => ih (nodup_countVote h)

omit hnodup in
theorem trustedCount_countVotes :
    ∀ {index : Nat} {votes : Votes},
      (countVotes wire rawManifest trustedKeys index envelopes votes).trustedCount = votes.trustedCount := by
  induction envelopes with
  | nil => exact rfl
  | cons rawEnvelope rest ih =>
    intro index votes
    rw [countVotes, ih, countVote]
    split
    · rfl
    · split
      · rfl
      · split
        · rfl
        · split <;> rfl

end Loop

theorem mem_byKind : keyID ∈ votes.byKind kind ↔ (kind, keyID) ∈ votes.cast := by
  simp only [Votes.byKind, List.mem_filterMap]
  constructor
  · rintro ⟨⟨kind', keyID'⟩, hmem, h⟩
    split at h
    · rename_i heq
      cases h
      exact heq ▸ hmem
    · cases h
  · intro h
    exact ⟨_, h, if_pos rfl⟩

theorem nodup_byKind (h : votes.cast.Nodup) : (votes.byKind kind).Nodup := by
  refine h.filterMap ?_
  rintro ⟨kind₁, keyID₁⟩ ⟨kind₂, keyID₂⟩ keyID h₁ h₂
  simp only [Option.mem_def, Option.ite_none_right_eq_some, Option.some.injEq] at h₁ h₂
  rw [h₁.1, h₁.2, h₂.1, h₂.2]

/-- What the loop returns: for each kind as many votes as trusted keys have signed for it. -/
theorem collectSignatureVotes_spec
    (h : collectSignatureVotes wire rawManifest envelopes trustedKeys = .ok votes) :
    votes.trustedCount = trustedKeys.length ∧
      ∀ kind, (votes.byKind kind).length = (signers wire rawManifest envelopes trustedKeys kind).length := by
  simp only [collectSignatureVotes, bind_unit_eq_ok, reject_eq_ok, pure_eq_ok] at h
  obtain ⟨-, -, hvalid, rfl⟩ := h
  have hnodup : (trustedKeys.map (·.keyID)).Nodup :=
    nodup_of_trustedKeysValid (List.nil_append trustedKeys).symm List.nodup_nil hvalid
  refine ⟨trustedCount_countVotes, fun kind => ?_⟩
  have hperm : ((countVotes wire rawManifest trustedKeys 0 envelopes
        { trustedCount := trustedKeys.length }).byKind kind).Perm
      ((signers wire rawManifest envelopes trustedKeys kind).map (·.keyID)) := by
    refine (List.perm_ext_iff_of_nodup (nodup_byKind (nodup_countVotes List.nodup_nil))
      (hnodup.sublist (List.filter_sublist.map _))).mpr fun keyID => ?_
    rw [mem_byKind, mem_countVotes hnodup, List.mem_map]
    exact or_iff_right List.not_mem_nil
  rw [hperm.length_eq, List.length_map]

/-! ## Authentication -/

/-- The number of keys a policy asks for. -/
def VerificationPolicy.requiredSigners (policy : VerificationPolicy) : Int :=
  if policy.threshold = 0 then defaultThreshold else policy.threshold

/-- The two kinds that a manifest can be authenticated as. -/
def manifestKinds : List ManifestKind := [.channel, .release]

/-- Only the one kind has enough signers. -/
structure Agreed (count : ManifestKind → Nat) (threshold : Int) (kind : ManifestKind) : Prop where
  known : kind ∈ manifestKinds
  reached : threshold ≤ count kind
  alone : ∀ other ∈ manifestKinds, other ≠ kind → (count other : Int) < threshold

theorem agreedKind_eq_ok {threshold : Int} :
    agreedKind votes threshold = .ok kind ↔ Agreed (fun kind => (votes.byKind kind).length) threshold kind := by
  have hsplit : Agreed (fun kind => (votes.byKind kind).length) threshold kind ↔
      (kind = .channel ∧ threshold ≤ (votes.byKind .channel).length ∧ ¬ threshold ≤ (votes.byKind .release).length) ∨
      (kind = .release ∧ ¬ threshold ≤ (votes.byKind .channel).length ∧ threshold ≤ (votes.byKind .release).length) := by
    constructor
    · rintro ⟨hkind, hreached, halone⟩
      simp only [manifestKinds, List.mem_cons, List.not_mem_nil, or_false] at hkind
      obtain rfl | rfl := hkind
      · exact .inl ⟨rfl, hreached, not_le.mpr (halone .release (by decide) (by decide))⟩
      · exact .inr ⟨rfl, not_le.mpr (halone .channel (by decide) (by decide)), hreached⟩
    · rintro (⟨rfl, hreached, hother⟩ | ⟨rfl, hother, hreached⟩)
      · refine ⟨by decide, hreached, fun other hmem hne => ?_⟩
        cases other <;> simp_all [manifestKinds]
      · refine ⟨by decide, hreached, fun other hmem hne => ?_⟩
        cases other <;> simp_all [manifestKinds]
  rw [hsplit, agreedKind]
  by_cases hchannel : threshold ≤ ((votes.byKind .channel).length : Int) <;>
    by_cases hrelease : threshold ≤ ((votes.byKind .release).length : Int) <;>
    simp [hchannel, hrelease, eq_comm]

/-- What is asked of the manifest, the policy, the keys and the number of envelopes. -/
structure Bounded (rawManifest : Bytes) (envelopes : List Bytes) (trustedKeys : List TrustedKey)
    (policy : VerificationPolicy) : Prop where
  manifest : ¬ (rawManifest = [] ∨ maxManifestSize < rawManifest.length)
  floor : policy.supportedSecurityFloor ≠ 0
  threshold : 1 ≤ policy.requiredSigners
  envelopes : envelopes.length ≤ maxSignatureEnvelopes
  keys : trustedKeys.length ≤ maxTrustedKeys
  distinct : trustedKeysValid trustedKeys 0 trustedKeys = .ok ()
  enough : policy.requiredSigners ≤ trustedKeys.length

theorem authenticate_eq_ok {policy : VerificationPolicy} :
    (∃ ids, authenticate wire rawManifest envelopes trustedKeys policy = .ok (kind, ids)) ↔
      Bounded rawManifest envelopes trustedKeys policy ∧
        Agreed (fun kind => (signers wire rawManifest envelopes trustedKeys kind).length) policy.requiredSigners kind := by
  simp only [authenticate, bind_eq_ok, exists_unit, reject_eq_ok, pure_eq_ok, Prod.mk.injEq, not_lt]
  constructor
  · rintro ⟨ids, hmanifest, hfloor, hthreshold, votes, hvotes, henough, agreed, hagreed, rfl, -⟩
    obtain ⟨htrusted, hcount⟩ := collectSignatureVotes_spec hvotes
    simp only [collectSignatureVotes, bind_unit_eq_ok, reject_eq_ok, not_lt] at hvotes
    obtain ⟨henvelopes, hkeys, hdistinct, -⟩ := hvotes
    exact ⟨⟨hmanifest, hfloor, hthreshold, henvelopes, hkeys, hdistinct, htrusted ▸ henough⟩, 
      funext hcount ▸ agreedKind_eq_ok.mp hagreed⟩
  · rintro ⟨hb, hagreed⟩
    have hvotes : collectSignatureVotes wire rawManifest envelopes trustedKeys =
        .ok (countVotes wire rawManifest trustedKeys 0 envelopes { trustedCount := trustedKeys.length }) := by
      simp only [collectSignatureVotes, bind_unit_eq_ok, reject_eq_ok, pure_eq_ok, not_lt, and_true]
      exact ⟨hb.envelopes, hb.keys, hb.distinct⟩
    obtain ⟨htrusted, hcount⟩ := collectSignatureVotes_spec hvotes
    exact ⟨_, hb.manifest, hb.floor, hb.threshold, _, hvotes, htrusted.symm ▸ hb.enough, kind,
      agreedKind_eq_ok.mpr ((funext hcount).symm ▸ hagreed), rfl, rfl⟩

/-- A manifest is verified as what its bytes say, once they are authenticated as that kind. -/
theorem verifyManifest_eq_ok {clock : Int} {policy : VerificationPolicy} {parsed : ParsedManifest} :
    (∃ verified, verifyManifest wire clock rawManifest envelopes trustedKeys policy = .ok verified ∧
        verified.toParsedManifest = parsed) ↔
      (∃ ids, authenticate wire rawManifest envelopes trustedKeys policy = .ok (parsed.kind, ids)) ∧
        parseManifest wire clock rawManifest policy = .ok parsed := by
  simp only [verifyManifest, bind_eq_ok, exists_unit, mapError_eq_ok, reject_eq_ok, pure_eq_ok, not_not]
  constructor
  · rintro ⟨verified, ⟨⟨kind, ids⟩, hagreed, read, hread, hkind, rfl⟩, rfl⟩
    exact ⟨⟨ids, hkind ▸ hagreed⟩, hread⟩
  · rintro ⟨⟨ids, hagreed⟩, hread⟩
    exact ⟨_, ⟨(parsed.kind, ids), hagreed, parsed, hread, rfl, rfl⟩, rfl⟩

/-- Envelopes inserted anywhere leave a verified manifest verified as what it was, unless enough trusted keys
have then signed for the other kind; and they make no manifest verified that lacks votes, unless they hold a
signature of a trusted key that has not signed yet. -/
theorem extra_envelopes_cannot_veto (wire : Wire) (clock : Int) (rawManifest : Bytes) (trustedKeys : List TrustedKey)
    (policy : VerificationPolicy) (envelopes extended : List Bytes) (hinsert : envelopes.Sublist extended)
    (hlimit : extended.length ≤ maxSignatureEnvelopes) :
    (∀ verified, verifyManifest wire clock rawManifest envelopes trustedKeys policy = .ok verified →
      (∀ other ∈ manifestKinds, other ≠ verified.kind →
        ((signers wire rawManifest extended trustedKeys other).length : Int) < policy.requiredSigners) →
      ∃ again, verifyManifest wire clock rawManifest extended trustedKeys policy = .ok again ∧
        again.toParsedManifest = verified.toParsedManifest) ∧
    ((∀ kind ∈ manifestKinds,
        ((signers wire rawManifest envelopes trustedKeys kind).length : Int) < policy.requiredSigners) →
      (∀ kind ∈ manifestKinds, signers wire rawManifest extended trustedKeys kind ⊆
        signers wire rawManifest envelopes trustedKeys kind) →
      ∀ verified, verifyManifest wire clock rawManifest envelopes trustedKeys policy ≠ .ok verified ∧
        verifyManifest wire clock rawManifest extended trustedKeys policy ≠ .ok verified) := by
  refine ⟨fun verified h hother => ?_, fun hlack hnone verified => ?_⟩
  · obtain ⟨hauth, hparsed⟩ := verifyManifest_eq_ok.mp ⟨verified, h, rfl⟩
    obtain ⟨hbounded, hagreed⟩ := authenticate_eq_ok.mp hauth
    refine verifyManifest_eq_ok.mpr ⟨authenticate_eq_ok.mpr ⟨{ hbounded with envelopes := hlimit }, ?_⟩, hparsed⟩
    have hmore : (signers wire rawManifest envelopes trustedKeys verified.kind).length ≤
        (signers wire rawManifest extended trustedKeys verified.kind).length :=
      (signers_sublist verified.kind hinsert.subset).length_le
    exact ⟨hagreed.known, hagreed.reached.trans (by exact_mod_cast hmore), hother⟩
  · have hreject : ∀ given : List Bytes, (∀ kind ∈ manifestKinds,
          ((signers wire rawManifest given trustedKeys kind).length : Int) < policy.requiredSigners) →
        verifyManifest wire clock rawManifest given trustedKeys policy ≠ .ok verified := by
      intro given hfew h
      obtain ⟨hauth, -⟩ := verifyManifest_eq_ok.mp ⟨verified, h, rfl⟩
      have hagreed := (authenticate_eq_ok.mp hauth).2
      exact absurd hagreed.reached (not_le.mpr (hfew _ hagreed.known))
    refine ⟨hreject envelopes hlack, hreject extended fun kind hkind => lt_of_le_of_lt ?_ (hlack kind hkind)⟩
    exact_mod_cast length_signers_le (hnone kind hkind)

/-! ## A signed release -/

/-- The JSON layer with every locator accepted. -/
def openWire : Wire := jsonWire fun _ => .ok ()

def releaseText : Bytes := [
  "\x7b\"schema\":\"mesh-release-manifest-v2\",\"channel\":\"stable\",\"release_epoch\":1,",
  "\"version\":\"1.0.0\",\"sequence\":1,\"minimum_security_floor\":1,",
  "\"issued_at\":\"2026-01-02T00:00:00Z\",\"expires_at\":\"2026-06-01T00:00:00Z\",",
  "\"artifacts\":[\x7b\"os\":\"windows\",\"arch\":\"amd64\",\"url\":\"https://d.example/w\",\"size\":1000,",
  "\"sha256\":\"aaaaaaaaaaaaaaaaaaaaaaaaaaaaaaaaaaaaaaaaaaaaaaaaaaaaaaaaaaaaaaaa\"\x7d,",
  "\x7b\"os\":\"darwin\",\"arch\":\"amd64\",\"url\":\"https://d.example/d\",\"size\":1000,",
  "\"sha256\":\"bbbbbbbbbbbbbbbbbbbbbbbbbbbbbbbbbbbbbbbbbbbbbbbbbbbbbbbbbbbbbbbb\"\x7d]\x7d"].flatMap utf8Bytes

def releaseKey : TrustedKey where
  keyID := keyIDStem ++ "b62e867fa2f33afe62d5d6b1642e1621d543307846b2a57b897e710919b76709"
  publicKey := [237, 73, 40, 198, 40, 209, 194, 198, 234, 233, 3, 56, 144, 89, 149, 97, 41, 89, 39, 58, 92, 99, 249, 54, 54,
    193, 70, 20, 172, 135, 55, 209]

/-- The vote of the key for the release. -/
def releaseVote : Bytes := [
  "\x7b\"schema\":\"mesh-detached-signature-v1\",\"manifest_type\":\"release\",",
  "\"key_id\":\"ed25519-sha256:b62e867fa2f33afe62d5d6b1642e1621d543307846b2a57b897e710919b76709\",",
  "\"signature\":\"7z2MNzNcaYZAAu0zPCMJfEQdaNhfYoPr4djYKfFEmYJx9eG_WCKoNJ3u5bYpmhYoKamIjI_wxrpEheyHDKuyAQ\"\x7d"]
    |>.flatMap utf8Bytes

/-- One key is enough, on the fifth of January. -/
def onePolicy : VerificationPolicy := { now := 63903168000000000000, threshold := 1, supportedSecurityFloor := 1 }

/-- The vote is for a release. It is data: long evaluations are so never made side by side. -/
def releaseVote_signed : PLift (signedBy openWire releaseText .release releaseKey releaseVote = true ∧
    ∀ rawEnvelope ∈ [[0], releaseVote], signedBy openWire releaseText .channel releaseKey rawEnvelope = false) where
  down := by
    simp only [signedBy, parseSignatureEnvelope, keyIDPattern, fingerprintPattern, decodeCanonicalBase64,
      Base64.decode, toList_eq_chars]
    decide +kernel

theorem releaseKey_valid : trustedKeysValid [releaseKey] 0 [releaseKey] = .ok () := by
  simp only [trustedKeysValid, keyIDPattern, fingerprintPattern, toList_eq_chars]
  decide +kernel

theorem releaseText_bounded : Bounded releaseText [releaseVote] [releaseKey] onePolicy where
  manifest := by decide +kernel
  floor := by decide
  threshold := by decide
  envelopes := by decide
  keys := by decide
  distinct := releaseKey_valid
  enough := by decide

def releaseText_parsed :
    PLift ((parseManifest openWire 0 releaseText onePolicy).toOption.map (·.kind) = some .release) where
  down := by
    simp only [parseManifest, parseReleaseManifest, validateCommon, validatePosition, validateTimes,
      parseCanonicalTime, Calendar.parseRFC3339, selectArtifact, validateArtifactReference, validateSHA256,
      sha256Pattern, fingerprintPattern, toList_eq_chars]
    decide +kernel

/-- The release is verified with the one vote, and still is with an envelope before it that holds nothing. -/
theorem extra_envelopes_cannot_veto_releaseText :
    ∃ verified again, verifyManifest openWire 0 releaseText [releaseVote] [releaseKey] onePolicy = .ok verified ∧
      verifyManifest openWire 0 releaseText [[0], releaseVote] [releaseKey] onePolicy = .ok again ∧
      again.toParsedManifest = verified.toParsedManifest := by
  obtain ⟨parsed, hparsed, hkind⟩ := Option.map_eq_some_iff.mp releaseText_parsed.down
  have hchannel : signers openWire releaseText [[0], releaseVote] [releaseKey] .channel = [] := by
    rw [signers, List.filter_eq_nil_iff]
    intro key hkey
    rw [List.mem_singleton.mp hkey, Bool.not_eq_true, List.any_eq_false]
    exact fun rawEnvelope hmem => by rw [releaseVote_signed.down.2 rawEnvelope hmem]; decide
  have hchannel' : signers openWire releaseText [releaseVote] [releaseKey] .channel = [] := by
    have hsublist := @signers_sublist openWire releaseText [releaseVote] [releaseKey] [[0], releaseVote] .channel
      (List.subset_cons_self _ _)
    rw [hchannel] at hsublist
    exact List.eq_nil_of_sublist_nil hsublist
  have hrelease : signers openWire releaseText [releaseVote] [releaseKey] .release = [releaseKey] := by
    rw [signers, List.filter_eq_self]
    intro key hkey
    rw [List.mem_singleton.mp hkey, List.any_cons, releaseVote_signed.down.1, Bool.true_or]
  have hother : ∀ given, signers openWire releaseText given [releaseKey] .channel = [] →
      ∀ other ∈ manifestKinds, other ≠ .release →
        ((signers openWire releaseText given [releaseKey] other).length : Int) < onePolicy.requiredSigners := by
    intro given hgiven other hmem hne
    have : other = .channel := by simpa [manifestKinds, hne] using hmem
    rw [this, hgiven]
    decide
  have hauth := authenticate_eq_ok.mpr ⟨releaseText_bounded, .mk (by decide) (by rw [hrelease]; decide) (hother _ hchannel')⟩
  obtain ⟨verified, hverified, hsame⟩ := verifyManifest_eq_ok.mpr ⟨hkind ▸ hauth, JsonText.toOption_eq_some.mp hparsed⟩
  have hverifiedKind : verified.kind = .release := by rw [← hkind, ← hsame]
  obtain ⟨again, hagain, hequal⟩ := (extra_envelopes_cannot_veto openWire 0 releaseText [releaseKey] onePolicy [releaseVote]
    [[0], releaseVote] (List.sublist_cons_self _ _) (by decide)).1 verified hverified
    (hverifiedKind ▸ hother _ hchannel)
  exact ⟨verified, again, hverified, hagain, hequal⟩

end Release
end Mesh
