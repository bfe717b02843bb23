import Mesh.Identity.FileStore
import Mesh.Lib.Keyed

/-!
# Mesh.Identity.Effects

What an operation can do to the records, said once. `validateState_valid` reads the uniqueness of
identifiers off the checks; `Op.effect` says of every operation which records it keeps, rewrites and adds:
a revoked session, a spent code and a decided authorization are never rewritten.
-/

namespace Mesh
namespace Identity

open Keyed (Rewritten)

/-! ## First matches -/

section Firsts

variable {α : Type} {found : α → Bool} {x y : α} {xs : List α}

theorem mem_of_mem_removeFirst (h : y ∈ removeFirst found xs) : y ∈ xs := by
  induction xs with
  | nil => exact h
  | cons a xs ih =>
    unfold removeFirst at h
    split at h
    · exact List.mem_cons_of_mem _ h
    · obtain rfl | h := List.mem_cons.mp h
      · exact List.mem_cons_self
      · exact List.mem_cons_of_mem _ (ih h)

/-- What is removed is gone where keys are unique. -/
theorem key_ne_of_mem_removeFirst {κ : Type} {key : α → κ} (hd : (xs.map key).Nodup)
    (hx : xs.find? found = some x) (h : y ∈ removeFirst found xs) : key y ≠ key x := by
  induction xs with
  | nil => cases hx
  | cons a xs ih =>
    rw [List.map_cons, List.nodup_cons] at hd
    unfold removeFirst at h
    by_cases ha : found a
    · obtain rfl : a = x := by simpa [List.find?_cons, ha] using hx
      rw [if_pos ha] at h
      exact fun he => hd.1 (he ▸ List.mem_map_of_mem h)
    · rw [if_neg ha] at h
      have hx' : xs.find? found = some x := by simpa [List.find?_cons, ha] using hx
      obtain rfl | h := List.mem_cons.mp h
      · exact fun he => hd.1 (he ▸ List.mem_map_of_mem (List.mem_of_find?_eq_some hx'))
      · exact ih hd.2 hx' h

theorem mem_replaceFirst (h : y ∈ replaceFirst found x xs) : y ∈ xs ∨ y = x := by
  induction xs with
  | nil => exact .inl h
  | cons a xs ih =>
    unfold replaceFirst at h
    split at h
    · obtain rfl | h := List.mem_cons.mp h
      · exact .inr rfl
      · exact .inl (List.mem_cons_of_mem _ h)
    · obtain rfl | h := List.mem_cons.mp h
      · exact .inl List.mem_cons_self
      · exact (ih h).imp_left (List.mem_cons_of_mem _)

theorem self_mem_replaceFirst (h : xs.find? found = some y) : x ∈ replaceFirst found x xs := by
  induction xs with
  | nil => cases h
  | cons a xs ih =>
    unfold replaceFirst
    by_cases ha : found a
    · rw [if_pos ha]
      exact List.mem_cons_self
    · rw [if_neg ha]
      exact List.mem_cons_of_mem _ (ih (by simpa [List.find?_cons, ha] using h))

end Firsts

/-! ## Valid documents -/

/-- No two records of a kind have the same identifier. -/
structure Valid (s : State) : Prop where
  loginAttempts : (s.loginAttempts.map LoginAttempt.id).Nodup
  sessions : (s.sessions.map Session.id).Nodup
  breakGlassCodes : (s.breakGlassCodes.map BreakGlassCode.id).Nodup
  desktopAuthorizations : (s.desktopAuthorizations.map DesktopAuthorization.id).Nodup

def Claims.ids (c : Claims) : List String := c.identities.map Prod.fst

/-- The identifier was free and is taken from now on. -/
def Takes (id : String) (c c' : Claims) : Prop := id ∉ c.ids ∧ c'.ids = id :: c.ids

variable {id auditToken sessionID reason : String} {c c' : Claims} {i : Nat} {o : Op} {now at' : Int}
  {caller : Option Actor}

theorem claimIdentity_takes {kind : String} (h : claimIdentity kind id c = .ok c') : Takes id c c' := by
  simp only [claimIdentity, bind_unit_eq_ok, reject_eq_ok, rejectFound_eq_ok, Except.ok.injEq] at h
  obtain ⟨-, hnone, rfl⟩ := h
  rw [List.lookup_eq_none_iff] at hnone
  refine ⟨fun hmem => ?_, rfl⟩
  obtain ⟨p, hp, rfl⟩ := List.mem_map.mp hmem
  simpa using hnone p hp

theorem claimCredential_ids {owner hash : String} (h : claimCredential owner hash c = .ok c') : c'.ids = c.ids := by
  simp only [claimCredential, bind_unit_eq_ok, reject_eq_ok, rejectFound_eq_ok, Except.ok.injEq] at h
  obtain ⟨-, -, rfl⟩ := h
  rfl

theorem Takes.then {c'' : Claims} (h : Takes id c c') (h' : c''.ids = c'.ids) :
    Takes id c c'' := ⟨h.1, h'.trans h.2⟩

theorem claimLoginAttempt_takes {env : Env} {a : LoginAttempt} (h : claimLoginAttempt env i a c = .ok c') :
    Takes a.id c c' := by
  simp only [claimLoginAttempt, bind_eq_ok, exists_unit, Except.ok.injEq] at h
  obtain ⟨c₁, h₁, c₂, h₂, c₃, h₃, -, rfl⟩ := h
  exact ((claimIdentity_takes h₁).then (claimCredential_ids h₂)).then (claimCredential_ids h₃)

theorem claimSession_takes {env : Env} {s : Session} (h : claimSession env i s c = .ok c') : Takes s.id c c' := by
  simp only [claimSession, bind_eq_ok, exists_unit, Except.ok.injEq] at h
  obtain ⟨c₁, h₁, c₂, h₂, c₃, h₃, -, rfl⟩ := h
  exact ((claimIdentity_takes h₁).then (claimCredential_ids h₂)).then (claimCredential_ids h₃)

theorem claimBreakGlassCode_takes {code : BreakGlassCode} (h : claimBreakGlassCode i code c = .ok c') :
    Takes code.id c c' := by
  simp only [claimBreakGlassCode, bind_eq_ok, exists_unit, Except.ok.injEq] at h
  obtain ⟨c₁, h₁, -, c₂, h₂, -, rfl⟩ := h
  exact (claimIdentity_takes h₁).then (claimCredential_ids h₂)

theorem claimDesktopAuthorization_takes {env : Env} {r : DesktopAuthorization}
    (h : claimDesktopAuthorization env i r c = .ok c') : Takes r.id c c' := by
  simp only [claimDesktopAuthorization, bind_eq_ok, exists_unit, Except.ok.injEq] at h
  obtain ⟨c₁, h₁, -, c₂, h₂, -, rfl⟩ := h
  exact (claimIdentity_takes h₁).then (claimCredential_ids h₂)

/-- A pass in which every record takes its identifier meets no identifier twice. -/
theorem claimEach_nodup {α : Type} (key : α → String) {f : Nat → α → Claims → Result Claims}
    (hf : ∀ i x c c', f i x c = .ok c' → Takes (key x) c c') {xs : List α} (h : claimEach f i xs c = .ok c') :
    (xs.map key).Nodup ∧ ∀ x ∈ xs, key x ∉ c.ids := by
  induction xs generalizing i c with
  | nil => exact ⟨List.nodup_nil, by simp⟩
  | cons x xs ih =>
    simp only [claimEach, bind_eq_ok] at h
    obtain ⟨c₁, hx, hrest⟩ := h
    obtain ⟨hfree, hids⟩ := hf _ _ _ _ hx
    obtain ⟨hnodup, hnew⟩ := ih hrest
    rw [hids] at hnew
    refine ⟨List.nodup_cons.mpr ⟨fun hmem => ?_, hnodup⟩, fun y hy => ?_⟩
    · obtain ⟨y, hy, he⟩ := List.mem_map.mp hmem
      exact hnew y hy (he ▸ List.mem_cons_self)
    · obtain rfl | hy := List.mem_cons.mp hy
      · exact hfree
      · exact fun h => hnew y hy (List.mem_cons_of_mem _ h)

theorem claimEach_mem {α : Type} {f : Nat → α → Claims → Result Claims} {xs : List α}
    (h : claimEach f i xs c = .ok c') {x : α} (hx : x ∈ xs) : ∃ i c c', f i x c = .ok c' := by
  induction xs generalizing i c with
  | nil => cases hx
  | cons y xs ih =>
    simp only [claimEach, bind_eq_ok] at h
    obtain ⟨c₁, hy, hrest⟩ := h
    obtain rfl | hx := List.mem_cons.mp hx
    · exact ⟨_, _, _, hy⟩
    · exact ih hrest hx

theorem validateState_valid {env : Env} {s : State} (h : validateState env s = .ok ()) : Valid s := by
  simp only [validateState, bind_eq_ok, exists_unit] at h
  obtain ⟨-, -, c₁, h₁, c₂, h₂, c₃, h₃, c₄, h₄, -⟩ := h
  exact {
    loginAttempts := (claimEach_nodup LoginAttempt.id (fun _ _ _ _ => claimLoginAttempt_takes) h₁).1
    sessions := (claimEach_nodup Session.id (fun _ _ _ _ => claimSession_takes) h₂).1
    breakGlassCodes := (claimEach_nodup BreakGlassCode.id (fun _ _ _ _ => claimBreakGlassCode_takes) h₃).1
    desktopAuthorizations :=
      (claimEach_nodup DesktopAuthorization.id (fun _ _ _ _ => claimDesktopAuthorization_takes) h₄).1 }

/-! ## Effects -/

/-- A secret that can be used once, named by the identifier of its record. -/
inductive Secret where
  | attempt (id : String)
  | code (id : String)
  | desktop (id : String)
deriving DecidableEq

/-- The secret an operation asks to create. -/
def Op.creates : Op → Option Secret
  | .createLoginAttempt input => some (.attempt input.id)
  | .createBreakGlassCode input | .registerBreakGlassCodeAs _ input _ => some (.code input.id)
  | .createDesktopAuthorization input => some (.desktop input.id)
  | _ => none

/-- The session an operation asks to create. -/
def Op.newSession : Op → Option String
  | .createSession input _ => some input.id
  | _ => none

/-- A session is rewritten only until it is revoked. -/
def Session.Step (x y : Session) : Prop := y.id = x.id ∧ (x.revokedAt ≠ none → y = x)

def BreakGlassCode.spent (c : BreakGlassCode) : Bool := c.usedAt.isSome || c.revokedAt.isSome

/-- A code is rewritten only until it is used or revoked. -/
def BreakGlassCode.Step (x y : BreakGlassCode) : Prop :=
  y.id = x.id ∧ y.expiresAt = x.expiresAt ∧ (x.spent = true → y = x)

/-- An authorization is rewritten only until it is decided. -/
def DesktopAuthorization.Step (x y : DesktopAuthorization) : Prop :=
  y.id = x.id ∧ y.expiresAt = x.expiresAt ∧ (x.state ≠ .pending → y = x)

structure Effect (o : Op) (s s' : State) : Prop where
  schema : s'.schema = s.schema
  loginAttempts : Rewritten (· = ·) (fun a => o.creates = some (.attempt a.id)) s.loginAttempts s'.loginAttempts
  sessions : Rewritten Session.Step (fun x => o.newSession = some x.id) s.sessions s'.sessions
  breakGlassCodes : Rewritten BreakGlassCode.Step (fun c => o.creates = some (.code c.id))
    s.breakGlassCodes s'.breakGlassCodes
  desktopAuthorizations : Rewritten DesktopAuthorization.Step (fun r => o.creates = some (.desktop r.id))
    s.desktopAuthorizations s'.desktopAuthorizations

theorem Session.Step.refl (x : Session) : x.Step x := ⟨rfl, fun _ => rfl⟩

theorem BreakGlassCode.Step.refl (x : BreakGlassCode) : x.Step x := ⟨rfl, rfl, fun _ => rfl⟩

theorem DesktopAuthorization.Step.refl (x : DesktopAuthorization) : x.Step x := ⟨rfl, rfl, fun _ => rfl⟩

/-- Records are only dropped; the audit log is not looked at. -/
structure Fewer (s s' : State) : Prop where
  schema : s'.schema = s.schema
  loginAttempts : s'.loginAttempts ⊆ s.loginAttempts
  sessions : s'.sessions ⊆ s.sessions
  breakGlassCodes : s'.breakGlassCodes ⊆ s.breakGlassCodes
  desktopAuthorizations : s'.desktopAuthorizations ⊆ s.desktopAuthorizations

theorem Fewer.refl (s : State) : Fewer s s := ⟨rfl, fun _ h => h, fun _ h => h, fun _ h => h, fun _ h => h⟩

theorem Fewer.effect {s s' : State} (h : Fewer s s') : Effect o s s' where
  schema := h.schema
  loginAttempts := .of_subset (fun _ => rfl) h.loginAttempts
  sessions := .of_subset Session.Step.refl h.sessions
  breakGlassCodes := .of_subset BreakGlassCode.Step.refl h.breakGlassCodes
  desktopAuthorizations := .of_subset DesktopAuthorization.Step.refl h.desktopAuthorizations

theorem fewer_pruneDesktopAuthorizations (now : Int) (removeExpired : Bool) (s : State) :
    Fewer s (pruneDesktopAuthorizations now removeExpired s) :=
  ⟨rfl, fun _ h => h, fun _ h => h, fun _ h => h, List.filter_subset_self _⟩

theorem fewer_pruneExpired (now : Int) (s : State) : Fewer s (pruneExpired now s) :=
  ⟨rfl, List.filter_subset_self _, List.filter_subset_self _, List.filter_subset_self _, List.filter_subset_self _⟩

theorem appendIdentityAudit_eq_ok {e : AuditEvent} {s s' : State} (h : appendIdentityAudit e s = .ok s') :
    s' = { s with audit := s.audit ++ [e] } := by
  simp only [appendIdentityAudit, bind_unit_eq_ok, Except.ok.injEq] at h
  exact h.2.2.2.symm

variable {env : Env} {s s' : State} {r : Result Reply} {callback : Callback}

theorem answer_eq_ok {reply : Reply} : answer reply s = .ok (r, s') ↔ r = .ok reply ∧ s' = s := by
  simp [answer, eq_comm]

theorem answerError_eq_ok {e : Failure} : answerError e s = .ok (r, s') ↔ r = .error e ∧ s' = s := by
  simp [answerError, eq_comm]

/-! ### Login attempts -/

theorem createLoginAttempt_effect {input : LoginAttemptInput} (hb : createLoginAttempt env input = .ok callback)
    (hc : callback s = .ok (r, s')) : Effect (.createLoginAttempt input) s s' := by
  simp only [createLoginAttempt, bind_eq_ok, Except.ok.injEq] at hb
  obtain ⟨payload, -, sealedPayload, -, rfl⟩ := hb
  have hfewer := fewer_pruneExpired input.createdAt s
  beta_reduce at hc
  split at hc
  · simp only [bind_eq_ok] at hc
    obtain ⟨_, -, hc⟩ := hc
    split at hc
    · obtain ⟨-, rfl⟩ := answer_eq_ok.mp hc
      exact hfewer.effect
    · cases hc
  · simp only [bind_eq_ok, exists_unit, reject_eq_ok, answer_eq_ok] at hc
    obtain ⟨-, -, rfl⟩ := hc
    have h : Effect (.createLoginAttempt input) s (pruneExpired input.createdAt s) := hfewer.effect
    exact { h with loginAttempts := h.loginAttempts.append (by simp [Op.creates]) }

/-- An attempt is handed out once, before it expires, and is then gone. -/
theorem consumeLoginAttempt_cases {transactionToken stateToken : String}
    (hb : consumeLoginAttempt env transactionToken stateToken now = .ok callback)
    (hc : callback s = .ok (r, s')) :
    (∃ e, r = .error e ∧ Fewer s s') ∨
      ∃ found x a, s.loginAttempts.find? found = some x ∧ now < x.expiresAt ∧ r = .ok (.attempt a) ∧
        a.id = x.id ∧ s' = { s with loginAttempts := removeFirst found s.loginAttempts } := by
  simp only [consumeLoginAttempt, bind_eq_ok, exists_unit, Except.ok.injEq] at hb
  obtain ⟨transactionHash, -, stateHash, -, -, rfl⟩ := hb
  have hwithout : ∀ found, Fewer s { s with loginAttempts := removeFirst found s.loginAttempts } :=
    fun found => { Fewer.refl s with loginAttempts := fun _ h => mem_of_mem_removeFirst h }
  beta_reduce at hc
  split at hc
  · obtain ⟨rfl, rfl⟩ := answerError_eq_ok.mp hc
    exact .inl ⟨_, rfl, fewer_pruneExpired now s⟩
  · rename_i x hx
    split at hc
    · obtain ⟨rfl, rfl⟩ := answerError_eq_ok.mp hc
      exact .inl ⟨_, rfl, .refl s'⟩
    · split at hc
      · obtain ⟨rfl, rfl⟩ := answerError_eq_ok.mp hc
        exact .inl ⟨_, rfl, hwithout _⟩
      · rename_i hexp
        simp only [bind_eq_ok, answer_eq_ok] at hc
        obtain ⟨payload, -, rfl, rfl⟩ := hc
        exact .inr ⟨_, x, _, hx, not_le.mp hexp, rfl, rfl, rfl⟩

/-! ### Sessions -/

theorem createSession_effect {input : CreateSessionInput}
    (hb : createSession env input auditToken = .ok callback) (hc : callback s = .ok (r, s')) :
    Effect (.createSession input auditToken) s s' := by
  simp only [createSession, bind_eq_ok, Except.ok.injEq] at hb
  obtain ⟨record, hrecord, actor, -, audit, -, rfl⟩ := hb
  have hid : record.id = input.id := by
    simp only [canonicalSessionInput, bind_eq_ok, exists_unit, Except.ok.injEq] at hrecord
    obtain ⟨_, -, _, -, -, -, rfl⟩ := hrecord
    rfl
  have h : Effect (.createSession input auditToken) s (pruneExpired record.createdAt s) :=
    (fewer_pruneExpired record.createdAt s).effect
  beta_reduce at hc
  split at hc
  · split at hc
    · obtain ⟨-, rfl⟩ := answer_eq_ok.mp hc
      exact h
    · cases hc
  · simp only [bind_eq_ok, exists_unit, answer_eq_ok] at hc
    obtain ⟨-, _, haudit, -, rfl⟩ := hc
    rw [appendIdentityAudit_eq_ok haudit]
    exact { h with sessions := h.sessions.append (by simp [Op.newSession, hid]) }

theorem session_eq_ok {x : Session} (h : s.session id = .ok x) :
    x ∈ s.sessions ∧ x.id = id ∧ s.sessions.find? (fun y => y.id == id) = some x := by
  have hx : s.sessions.find? (fun y => y.id == id) = some x := require_eq_ok.mp h
  exact ⟨List.mem_of_find?_eq_some hx, by simpa using List.find?_some hx, hx⟩

/-- A session that is not revoked is put back. -/
theorem Effect.putSession {x y : Session} (hx : x ∈ s.sessions) (hlive : x.revokedAt = none) (hid : y.id = x.id) :
    Effect o s (s.putSession y) := by
  refine { (Fewer.refl s).effect (o := o) with sessions := fun z hz => .inl ?_ }
  obtain hz | rfl := mem_replaceFirst hz
  · exact ⟨z, hz, .refl z⟩
  · exact ⟨x, hx, hid, fun h => absurd hlive h⟩

theorem Effect.audited {s₁ : State} {e : AuditEvent} (h : Effect o s s₁)
    (ha : appendIdentityAudit e s₁ = .ok s') : Effect o s s' := by
  rw [appendIdentityAudit_eq_ok ha]
  exact { h with }

/-- A touch answers with a session that was not revoked. -/
theorem touchSession_cases {expectedVersion : UInt64} {seenAt idleExpiresAt : Int}
    (hb : touchSession sessionID expectedVersion seenAt idleExpiresAt = .ok callback)
    (hc : callback s = .ok (r, s')) :
    Effect o s s' ∧ ∃ x y, s.session sessionID = .ok x ∧ x.revokedAt = none ∧ r = .ok (.session y) ∧
      y.id = sessionID := by
  simp only [touchSession, bind_eq_ok, exists_unit, Except.ok.injEq] at hb
  obtain ⟨-, rfl⟩ := hb
  simp only [bind_eq_ok, exists_unit, reject_eq_ok, not_or, not_not] at hc
  obtain ⟨x, hx, ⟨hlive, -⟩, hc⟩ := hc
  obtain ⟨hmem, hid, -⟩ := session_eq_ok hx
  split at hc
  · obtain ⟨rfl, rfl⟩ := answer_eq_ok.mp hc
    exact ⟨(Fewer.refl _).effect, x, x, hx, hlive, rfl, hid⟩
  · simp only [bind_eq_ok, exists_unit] at hc
    obtain ⟨-, hc⟩ := hc
    split at hc
    · obtain ⟨rfl, rfl⟩ := answer_eq_ok.mp hc
      exact ⟨(Fewer.refl _).effect, x, x, hx, hlive, rfl, hid⟩
    · obtain ⟨rfl, rfl⟩ := answer_eq_ok.mp hc
      refine ⟨.putSession hmem hlive ?_, x, _, hx, hlive, rfl, hid⟩
      rfl

/-- A rotation answers with a session that was not revoked, or with one that looks as if the rotation had
been done already. -/
theorem rotateSession_cases {newToken newCSRFToken : String} {expectedVersion : UInt64}
    {seenAt idleExpiresAt : Int}
    (hb : rotateSession env sessionID expectedVersion newToken newCSRFToken seenAt idleExpiresAt auditToken =
      .ok callback) (hc : callback s = .ok (r, s')) :
    Effect o s s' ∧ ∃ x y, s.session sessionID = .ok x ∧ r = .ok (.session y) ∧ y.id = sessionID ∧
      (x.revokedAt = none ∨ (y = x ∧ s' = s ∧
        x.rotatedTo expectedVersion (hashToken newToken) (hashToken newCSRFToken) seenAt idleExpiresAt = true)) := by
  simp only [rotateSession, bind_eq_ok, exists_unit, Except.ok.injEq, mapError_eq_ok] at hb
  obtain ⟨-, tokenHash, htoken, csrfHash, hcsrf, -, rfl⟩ := hb
  have hhash : ∀ {token hash : String}, hashOpaqueToken token = .ok hash → hash = hashToken token := by
    intro token hash h
    unfold hashOpaqueToken at h
    split at h
    · exact (Except.ok.inj h).symm
    · cases h
  rw [hhash htoken, hhash hcsrf] at hc
  simp only [bind_eq_ok] at hc
  obtain ⟨x, hx, hc⟩ := hc
  obtain ⟨hmem, hid, -⟩ := session_eq_ok hx
  split_ifs at hc with hdone
  · obtain ⟨rfl, rfl⟩ := answer_eq_ok.mp hc
    exact ⟨(Fewer.refl _).effect, x, x, hx, rfl, hid, .inr ⟨rfl, rfl, hdone⟩⟩
  · simp only [bind_eq_ok, exists_unit, reject_eq_ok, not_or, not_not, answer_eq_ok] at hc
    obtain ⟨⟨hlive, -⟩, -, -, actor, -, audit, -, s₁, haudit, rfl, rfl⟩ := hc
    refine ⟨Effect.audited (.putSession hmem hlive ?_) haudit, x, _, hx, rfl, hid, .inl hlive⟩
    rfl

/-- After a revocation that is answered without an error the session is there, revoked. -/
theorem revokeSession_cases (hb : revokeSession env caller sessionID at' reason auditToken = .ok callback)
    (hc : callback s = .ok (r, s')) : Effect o s s' ∧ ∃ y ∈ s'.sessions, y.id = sessionID ∧ y.revokedAt ≠ none := by
  simp only [revokeSession, bind_eq_ok, exists_unit, Except.ok.injEq] at hb
  obtain ⟨-, -, rfl⟩ := hb
  simp only [bind_eq_ok] at hc
  obtain ⟨x, hx, hc⟩ := hc
  obtain ⟨hmem, hid, hfind⟩ := session_eq_ok hx
  split at hc
  · rename_i t ht
    split_ifs at hc
    obtain ⟨-, rfl⟩ := answer_eq_ok.mp hc
    exact ⟨(Fewer.refl _).effect, x, hmem, hid, by simp [ht]⟩
  · rename_i hlive
    simp only [bind_eq_ok, exists_unit, answer_eq_ok] at hc
    obtain ⟨-, actor, -, -, audit, -, s₁, haudit, -, rfl⟩ := hc
    refine ⟨Effect.audited (.putSession hmem hlive ?_) haudit,
      { x with revokedAt := some at', revocationReason := reason, version := x.version + 1 }, ?_, hid, by simp⟩
    · rfl
    · rw [appendIdentityAudit_eq_ok haudit]
      exact self_mem_replaceFirst (by simpa [hid] using hfind)

/-- The loop rewrites only sessions that are not revoked, and leaves none of the principal's so. -/
theorem revokeCovered_cases {principalID : String} {xs ys : List Session} {n : Nat} {actor : Option Actor}
    {rest : Nat × Option Actor}
    (h : revokeCovered env caller principalID at' reason xs n actor = .ok (ys, rest)) :
    (∀ y ∈ ys, ∃ x ∈ xs, x.Step y) ∧ (∀ y ∈ ys, y.principal.id = principalID → y.revokedAt ≠ none) := by
  induction xs generalizing ys n actor with
  | nil =>
    cases h
    exact ⟨by simp, by simp⟩
  | cons x xs ih =>
    unfold revokeCovered at h
    split at h
    · rename_i hskip
      simp only [bind_eq_ok, Except.ok.injEq, Prod.mk.injEq] at h
      obtain ⟨⟨zs, _⟩, hrest, rfl, rfl⟩ := h
      obtain ⟨h₁, h₂⟩ := ih hrest
      refine ⟨fun y hy => ?_, fun y hy hp => ?_⟩
      · obtain rfl | hy := List.mem_cons.mp hy
        · exact ⟨y, List.mem_cons_self, .refl y⟩
        · obtain ⟨z, hz, hstep⟩ := h₁ y hy
          exact ⟨z, List.mem_cons_of_mem _ hz, hstep⟩
      · obtain rfl | hy := List.mem_cons.mp hy
        · exact hskip.resolve_left fun hne => hne hp
        · exact h₂ y hy hp
    · rename_i hcover
      simp only [not_or, not_not] at hcover
      simp only [bind_eq_ok, exists_unit, Except.ok.injEq, Prod.mk.injEq] at h
      obtain ⟨-, a, -, ⟨zs, _⟩, hrest, rfl, rfl⟩ := h
      obtain ⟨h₁, h₂⟩ := ih hrest
      refine ⟨fun y hy => ?_, fun y hy hp => ?_⟩
      · obtain rfl | hy := List.mem_cons.mp hy
        · exact ⟨x, List.mem_cons_self, rfl, fun hr => absurd hcover.2 hr⟩
        · obtain ⟨z, hz, hstep⟩ := h₁ y hy
          exact ⟨z, List.mem_cons_of_mem _ hz, hstep⟩
      · obtain rfl | hy := List.mem_cons.mp hy
        · simp
        · exact h₂ y hy hp

theorem revokePrincipal_cases {principalID : String}
    (hb : revokePrincipal env caller principalID at' reason auditToken = .ok callback)
    (hc : callback s = .ok (r, s')) :
    Effect o s s' ∧ ∀ y ∈ s'.sessions, y.principal.id = principalID → y.revokedAt ≠ none := by
  simp only [revokePrincipal, bind_eq_ok, exists_unit, Except.ok.injEq] at hb
  obtain ⟨-, -, rfl⟩ := hb
  simp only [bind_eq_ok, exists_unit] at hc
  obtain ⟨-, ⟨ys, n, actor⟩, hloop, hc⟩ := hc
  obtain ⟨hstep, hrevoked⟩ := revokeCovered_cases hloop
  have h : Effect o s { s with sessions := ys } :=
    { (Fewer.refl s).effect (o := o) with sessions := fun y hy => .inl (hstep y hy) }
  split_ifs at hc
  · obtain ⟨-, rfl⟩ := answer_eq_ok.mp hc
    exact ⟨h, hrevoked⟩
  · simp only [bind_eq_ok, answer_eq_ok] at hc
    obtain ⟨audit, -, s₁, haudit, -, rfl⟩ := hc
    refine ⟨h.audited haudit, ?_⟩
    rw [appendIdentityAudit_eq_ok haudit]
    exact hrevoked

/-! ### Break-glass codes -/

theorem createBreakGlassCode_effect {input : BreakGlassCodeInput} (hb : createBreakGlassCode input = .ok callback)
    (hc : callback s = .ok (r, s')) : Effect (.createBreakGlassCode input) s s' := by
  simp only [createBreakGlassCode, bind_eq_ok, exists_unit, Except.ok.injEq] at hb
  obtain ⟨-, tokenHash, -, rfl⟩ := hb
  have h : Effect (.createBreakGlassCode input) s (pruneExpired input.createdAt s) :=
    (fewer_pruneExpired input.createdAt s).effect
  beta_reduce at hc
  split at hc
  · split at hc
    · obtain ⟨-, rfl⟩ := answer_eq_ok.mp hc
      exact h
    · cases hc
  · simp only [bind_eq_ok, exists_unit, answer_eq_ok] at hc
    obtain ⟨-, -, rfl⟩ := hc
    exact { h with breakGlassCodes := h.breakGlassCodes.append (by simp [Op.creates]) }

theorem registerBreakGlassCodeAs_effect {actor : Actor} {input : BreakGlassCodeInput}
    (hb : registerBreakGlassCodeAs env actor input auditToken = .ok callback) (hc : callback s = .ok (r, s')) :
    Effect (.registerBreakGlassCodeAs actor input auditToken) s s' := by
  simp only [registerBreakGlassCodeAs, bind_eq_ok, exists_unit, Except.ok.injEq] at hb
  obtain ⟨-, -, tokenHash, -, principal, -, audit, -, rfl⟩ := hb
  have h : Effect (.registerBreakGlassCodeAs actor input auditToken) s (pruneExpired input.createdAt s) :=
    (fewer_pruneExpired input.createdAt s).effect
  simp only [bind_eq_ok, exists_unit] at hc
  obtain ⟨-, hc⟩ := hc
  split at hc
  · split at hc
    · obtain ⟨-, rfl⟩ := answer_eq_ok.mp hc
      exact h
    · cases hc
  · simp only [bind_eq_ok, exists_unit, answer_eq_ok] at hc
    obtain ⟨-, -, _, haudit, -, rfl⟩ := hc
    refine Effect.audited ?_ haudit
    exact { h with breakGlassCodes := h.breakGlassCodes.append (by simp [Op.creates]) }

/-- A code that is not spent is put back. -/
theorem Effect.putCode {x y : BreakGlassCode} (hx : x ∈ s.breakGlassCodes) (hlive : x.spent = false)
    (hid : y.id = x.id) (hexp : y.expiresAt = x.expiresAt) : Effect o s (s.putCode y) := by
  refine { (Fewer.refl s).effect (o := o) with breakGlassCodes := fun z hz => .inl ?_ }
  obtain hz | rfl := mem_replaceFirst hz
  · exact ⟨z, hz, .refl z⟩
  · exact ⟨x, hx, hid, hexp, fun h => by simp [hlive] at h⟩

theorem recordConsumption_cases {code : BreakGlassCode} {audited : Bool}
    (h : recordConsumption env audited code now auditToken s = .ok s') :
    s'.breakGlassCodes = s.breakGlassCodes ∧ Fewer s s' := by
  unfold recordConsumption at h
  split at h
  · simp only [auditConsumption, bind_eq_ok] at h
    obtain ⟨_, -, _, -, _, -, haudit⟩ := h
    rw [appendIdentityAudit_eq_ok haudit]
    exact ⟨rfl, { Fewer.refl s with }⟩
  · cases h
    exact ⟨rfl, .refl s⟩

/-- A code is accepted once, before it expires, and is then marked as used. -/
theorem consumeBreakGlassCode_cases {codeID token : String} {audited : Bool}
    (hb : consumeBreakGlassCode env codeID token now audited auditToken = .ok callback)
    (hc : callback s = .ok (r, s')) :
    Effect o s s' ∧ ((∃ e, r = .error e) ∨ ∃ x y, x ∈ s.breakGlassCodes ∧ x.id = codeID ∧ x.spent = false ∧
      now < x.expiresAt ∧ r = .ok (.code y) ∧ y ∈ s'.breakGlassCodes ∧ y.id = codeID ∧ y.spent = true) := by
  simp only [consumeBreakGlassCode, bind_eq_ok, exists_unit, Except.ok.injEq] at hb
  obtain ⟨-, rfl⟩ := hb
  beta_reduce at hc
  split at hc
  · obtain ⟨rfl, rfl⟩ := answerError_eq_ok.mp hc
    exact ⟨(Fewer.refl _).effect, .inl ⟨_, rfl⟩⟩
  · rename_i x hx
    split at hc
    · obtain ⟨rfl, rfl⟩ := answerError_eq_ok.mp hc
      exact ⟨(Fewer.refl _).effect, .inl ⟨_, rfl⟩⟩
    · rename_i hok
      simp only [not_or, not_not, not_le] at hok
      obtain ⟨hused, hrevoked, hexp, -⟩ := hok
      have hmem : x ∈ s.breakGlassCodes := List.mem_of_find?_eq_some hx
      have hid : x.id = codeID := by simpa using List.find?_some hx
      have hspent : x.spent = false := by simp [BreakGlassCode.spent, hused, hrevoked]
      simp only [bind_eq_ok, answer_eq_ok] at hc
      obtain ⟨s₁, haudit, rfl, rfl⟩ := hc
      have hs₁ := recordConsumption_cases haudit
      have hput : Effect o s₁ (s₁.putCode { x with usedAt := some now }) :=
        .putCode (hs₁.1 ▸ hmem) hspent rfl rfl
      refine ⟨?_, .inr ⟨x, _, hmem, hid, hspent, hexp, rfl, ?_, hid, rfl⟩⟩
      · exact {
          schema := hput.schema.trans hs₁.2.schema
          loginAttempts := .of_subset (fun _ => rfl) hs₁.2.loginAttempts
          sessions := .of_subset Session.Step.refl hs₁.2.sessions
          breakGlassCodes := hs₁.1 ▸ hput.breakGlassCodes
          desktopAuthorizations := .of_subset DesktopAuthorization.Step.refl hs₁.2.desktopAuthorizations }
      · exact self_mem_replaceFirst (by simpa [hs₁.1, hid] using hx)

/-- After a revocation that is answered without an error the code is there, revoked. -/
theorem revokeBreakGlassCodeAs_cases {actor : Actor} {codeID : String}
    (hb : revokeBreakGlassCodeAs env actor codeID at' auditToken = .ok callback) (hc : callback s = .ok (r, s')) :
    Effect o s s' ∧ ∃ y ∈ s'.breakGlassCodes, y.id = codeID ∧ y.spent = true := by
  simp only [revokeBreakGlassCodeAs, bind_eq_ok, exists_unit, Except.ok.injEq] at hb
  obtain ⟨-, rfl⟩ := hb
  simp only [bind_eq_ok, exists_unit, require_eq_ok, reject_eq_ok, not_not] at hc
  obtain ⟨-, x, hx, -, hused, hc⟩ := hc
  have hmem : x ∈ s.breakGlassCodes := List.mem_of_find?_eq_some hx
  have hid : x.id = codeID := by simpa using List.find?_some hx
  split at hc
  · rename_i hrevoked
    obtain ⟨-, rfl⟩ := answer_eq_ok.mp hc
    refine ⟨(Fewer.refl _).effect, x, hmem, hid, ?_⟩
    simpa [BreakGlassCode.spent, hused, Option.isSome_iff_ne_none] using hrevoked
  · rename_i hrevoked
    have hspent : x.spent = false := by simpa [BreakGlassCode.spent, hused] using hrevoked
    simp only [bind_eq_ok, answer_eq_ok] at hc
    obtain ⟨_, -, _, -, _, haudit, -, rfl⟩ := hc
    refine ⟨Effect.audited (.putCode hmem hspent ?_ ?_) haudit, { x with revokedAt := some at' }, ?_, hid, ?_⟩
    · rfl
    · rfl
    · rw [appendIdentityAudit_eq_ok haudit]
      exact self_mem_replaceFirst (by simpa [hid] using hx)
    · simp [BreakGlassCode.spent]

/-! ### Desktop authorizations -/

theorem createDesktopAuthorization_effect {input : CreateDesktopAuthorizationInput}
    (hb : createDesktopAuthorization input = .ok callback) (hc : callback s = .ok (r, s')) :
    Effect (.createDesktopAuthorization input) s s' := by
  simp only [createDesktopAuthorization, bind_eq_ok, exists_unit, Except.ok.injEq] at hb
  obtain ⟨-, rfl⟩ := hb
  have h : Effect (.createDesktopAuthorization input) s (pruneDesktopAuthorizations input.createdAt false s) :=
    (fewer_pruneDesktopAuthorizations input.createdAt false s).effect
  simp only [bind_eq_ok, exists_unit, answer_eq_ok] at hc
  obtain ⟨-, -, -, rfl⟩ := hc
  exact { h with desktopAuthorizations := h.desktopAuthorizations.append (by simp [Op.creates]) }

theorem Effect.replaceDesktop {found : DesktopAuthorization → Bool} {x y : DesktopAuthorization}
    (hx : x ∈ s.desktopAuthorizations) (hpending : x.state = .pending) (hid : y.id = x.id)
    (hexp : y.expiresAt = x.expiresAt) :
    Effect o s { s with desktopAuthorizations := replaceFirst found y s.desktopAuthorizations } := by
  refine { (Fewer.refl s).effect (o := o) with desktopAuthorizations := fun z hz => .inl ?_ }
  obtain hz | rfl := mem_replaceFirst hz
  · exact ⟨z, hz, .refl z⟩
  · exact ⟨x, hx, hid, hexp, fun h => absurd hpending h⟩

/-- After a decision that is answered without an error the request is there, decided so. -/
theorem decideDesktopAuthorization_cases {requestID : String} {principal : Principal}
    {decision : DesktopAuthorizationDecision}
    (hb : decideDesktopAuthorization env requestID principal decision now = .ok callback)
    (hc : callback s = .ok (r, s')) :
    Effect o s s' ∧ ∃ y ∈ s'.desktopAuthorizations, y.id = requestID ∧ y.state = decision.target := by
  simp only [decideDesktopAuthorization, bind_eq_ok, exists_unit, Except.ok.injEq] at hb
  obtain ⟨-, rfl⟩ := hb
  simp only [bind_eq_ok, exists_unit, require_eq_ok] at hc
  obtain ⟨x, hx, -, hc⟩ := hc
  have hmem : x ∈ s.desktopAuthorizations := List.mem_of_find?_eq_some hx
  have hid : x.id = requestID := by simpa using List.find?_some hx
  split at hc
  · split at hc
    · rename_i hsame
      obtain ⟨-, rfl⟩ := answer_eq_ok.mp hc
      exact ⟨(Fewer.refl _).effect, x, hmem, hid, hsame.1⟩
    · cases hc
  · rename_i hpending
    obtain ⟨-, rfl⟩ := answer_eq_ok.mp hc
    refine ⟨.replaceDesktop hmem (not_not.mp hpending) ?_ ?_, { x with
      state := decision.target, principal := principal, decidedAt := some now, version := x.version + 1 },
      self_mem_replaceFirst hx, hid, rfl⟩
    · rfl
    · rfl

/-- A record that is neither approved nor denied is pending; no other state passes the checks. -/
theorem desktop_state_of_valid (hv : validateState env s = .ok ()) {x : DesktopAuthorization}
    (hx : x ∈ s.desktopAuthorizations) : x.state = .pending ∨ x.state = .approved ∨ x.state = .denied := by
  simp only [validateState, bind_eq_ok, exists_unit] at hv
  obtain ⟨-, -, c₁, -, c₂, -, c₃, -, c₄, h₄, -⟩ := hv
  obtain ⟨i, c, c', hclaim⟩ := claimEach_mem h₄ hx
  simp only [claimDesktopAuthorization, bind_eq_ok, exists_unit, mapError_eq_ok] at hclaim
  obtain ⟨-, -, -, -, -, hrecord, -⟩ := hclaim
  simp only [validateDesktopAuthorizationRecord, bind_eq_ok, exists_unit] at hrecord
  obtain ⟨-, -, hstate⟩ := hrecord
  split at hstate <;> simp_all

/-- The approved principal is handed out once, before the request expires, and the request is then gone. -/
theorem pollDesktopAuthorization_cases {requestID pollSecret : String} (hv : validateState env s = .ok ())
    (hb : pollDesktopAuthorization requestID pollSecret now = .ok callback) (hc : callback s = .ok (r, s')) :
    Effect o s s' ∧ ∀ p, r = .ok (.poll p) → p.state = .approved →
      ∃ found x, s.desktopAuthorizations.find? found = some x ∧ x.id = requestID ∧ x.state = .approved ∧
        now < x.expiresAt ∧
        s' = { s with desktopAuthorizations := removeFirst found s.desktopAuthorizations } := by
  simp only [pollDesktopAuthorization, bind_eq_ok, exists_unit, Except.ok.injEq] at hb
  obtain ⟨hash, -, -, rfl⟩ := hb
  beta_reduce at hc
  split at hc
  · obtain ⟨rfl, rfl⟩ := answerError_eq_ok.mp hc
    exact ⟨(Fewer.refl _).effect, fun _ h => by cases h⟩
  · rename_i x hx
    have hmem : x ∈ s.desktopAuthorizations := List.mem_of_find?_eq_some hx
    have hid : x.id = requestID := by
      have := List.find?_some hx
      simp only [Bool.and_eq_true, beq_iff_eq] at this
      exact this.1
    have hwithout : ∀ found, Effect o s
        { s with desktopAuthorizations := removeFirst found s.desktopAuthorizations } := fun found =>
      Fewer.effect { Fewer.refl s with desktopAuthorizations := fun _ h => mem_of_mem_removeFirst h }
    simp only [bind_eq_ok, exists_unit] at hc
    obtain ⟨-, hc⟩ := hc
    split at hc
    · obtain ⟨rfl, rfl⟩ := answer_eq_ok.mp hc
      refine ⟨hwithout _, fun p hp hstate => ?_⟩
      cases hp
      cases hstate
    · rename_i hexp
      split at hc
      · obtain ⟨rfl, rfl⟩ := answer_eq_ok.mp hc
        refine ⟨hwithout _, fun p hp hstate => ?_⟩
        cases hp
        cases hstate
      · rename_i hdenied
        split at hc
        · rename_i happroved
          obtain ⟨rfl, rfl⟩ := answer_eq_ok.mp hc
          exact ⟨hwithout _, fun p _ _ => ⟨_, x, hx, hid, happroved, not_le.mp hexp, rfl⟩⟩
        · rename_i hother
          obtain ⟨rfl, rfl⟩ := answer_eq_ok.mp hc
          have hpending : x.state = .pending := by
            obtain h | h | h := desktop_state_of_valid hv hmem
            · exact h
            · exact absurd h hother
            · exact absurd h hdenied
          refine ⟨.replaceDesktop hmem hpending ?_ ?_, fun p hp hstate => ?_⟩
          · rfl
          · rfl
          · cases hp
            exact absurd hstate hother

/-! ### All operations -/

theorem cleanupExpired_effect (hb : cleanupExpired now = .ok callback) (hc : callback s = .ok (r, s')) :
    Effect o s s' := by
  simp only [cleanupExpired, bind_eq_ok, exists_unit, Except.ok.injEq] at hb
  obtain ⟨-, rfl⟩ := hb
  obtain ⟨-, rfl⟩ := answer_eq_ok.mp hc
  exact (fewer_pruneExpired now s).effect

/-- A transaction is a callback whose document passes the checks. -/
theorem Op.apply_eq_ok (h : o.apply env s = .ok (r, s')) :
    ∃ callback, o.begin env = .ok callback ∧ callback s = .ok (r, s') ∧ validateState env s' = .ok () := by
  simp only [Op.apply, bind_eq_ok, exists_unit, mapError_eq_ok, Except.ok.injEq, Prod.mk.injEq] at h
  obtain ⟨callback, hb, ⟨r', next⟩, hc, hv, rfl, rfl⟩ := h
  exact ⟨callback, hb, hc, hv⟩

theorem Op.effect (hv : validateState env s = .ok ()) (h : o.apply env s = .ok (r, s')) : Effect o s s' := by
  obtain ⟨callback, hb, hc, -⟩ := Op.apply_eq_ok h
  cases o with
  | createLoginAttempt input => exact createLoginAttempt_effect hb hc
  | consumeLoginAttempt transactionToken stateToken now =>
    obtain ⟨_, -, hfewer⟩ | ⟨found, x, a, -, -, -, -, rfl⟩ := consumeLoginAttempt_cases hb hc
    · exact hfewer.effect
    · exact Fewer.effect { Fewer.refl s with loginAttempts := fun _ h => mem_of_mem_removeFirst h }
  | createSession input auditToken => exact createSession_effect hb hc
  | touchSession sessionID expectedVersion seenAt idleExpiresAt => exact (touchSession_cases hb hc).1
  | rotateSession sessionID expectedVersion newToken newCSRFToken seenAt idleExpiresAt auditToken =>
    exact (rotateSession_cases hb hc).1
  | revokeSession caller sessionID at' reason auditToken => exact (revokeSession_cases hb hc).1
  | revokePrincipal caller principalID at' reason auditToken => exact (revokePrincipal_cases hb hc).1
  | createBreakGlassCode input => exact createBreakGlassCode_effect hb hc
  | registerBreakGlassCodeAs actor input auditToken => exact registerBreakGlassCodeAs_effect hb hc
  | consumeBreakGlassCode codeID token now audited auditToken => exact (consumeBreakGlassCode_cases hb hc).1
  | revokeBreakGlassCodeAs actor codeID at' auditToken => exact (revokeBreakGlassCodeAs_cases hb hc).1
  | createDesktopAuthorization input => exact createDesktopAuthorization_effect hb hc
  | decideDesktopAuthorization requestID principal decision now =>
    exact (decideDesktopAuthorization_cases hb hc).1
  | pollDesktopAuthorization requestID pollSecret now => exact (pollDesktopAuthorization_cases hv hb hc).1
  | cleanupExpired now => exact cleanupExpired_effect hb hc

/-! ## The store -/

theorem openState_none (h : openState env s = .ok none) :
    validateState env s = .ok () ∧ s.schema ≠ .legacy := by
  simp only [openState, bind_eq_ok, exists_unit, mapError_eq_ok] at h
  obtain ⟨hv, h⟩ := h
  refine ⟨hv, fun hl => ?_⟩
  rw [hl] at h
  simp at h

theorem openState_of_valid (hv : validateState env s = .ok ()) (hs : s.schema ≠ .legacy) :
    openState env s = .ok none := by
  unfold openState
  rw [hv]
  cases hschema : s.schema with
  | legacy => exact absurd hschema hs
  | current => rfl
  | other word => rfl

theorem openState_some (h : openState env s = .ok (some s')) :
    s' = { s with schema := .current, audit := [] } ∧ validateState env s' = .ok () := by
  simp only [openState, bind_eq_ok, exists_unit, mapError_eq_ok] at h
  obtain ⟨-, h⟩ := h
  split at h
  · simp only [bind_eq_ok, exists_unit, mapError_eq_ok, Except.ok.injEq, Option.some.injEq] at h
    obtain ⟨hv, rfl⟩ := h
    exact ⟨rfl, hv⟩
  · cases h

theorem fileStore_lawful (env : Env) : Document.Lawful (fileStore env) where
  isolating _ _ := rfl
  blank := rfl
  apply o s r s' ha h := by
    obtain ⟨hv, hschema⟩ := openState_none ha
    obtain ⟨_, -, -, hv'⟩ := Op.apply_eq_ok h
    exact openState_of_valid hv' (by rw [(Op.effect hv h).schema]; exact hschema)
  migrated s s' h := by
    obtain ⟨rfl, hv⟩ := openState_some h
    exact openState_of_valid hv (by simp)

end Identity
end Mesh
