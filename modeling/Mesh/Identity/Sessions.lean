import Mesh.Identity.Effects

/-!
# Mesh.Identity.Sessions

Revocation of sessions. A revoked session is never rewritten, so it stays revoked in every later document
until it is pruned; a session of the same identifier that comes after that was created anew. Authentication
and touch refuse a revoked session. Rotation does not where the request looks like one that was already
answered: it compares version, credentials and times before it looks at the revocation, and a revocation
raises the version by one and keeps the rest.
-/

namespace Mesh
namespace Identity

open Document (Held Revision Event Step Reachable Calm Initial)

abbrev World := Document.World State Op

abbrev StoreEvent := Event Failure Op Query (Result Reply)

/-- Every session of the identifier is revoked. -/
def State.Revoked (id : String) (s : State) : Prop := ∀ y ∈ s.sessions, y.id = id → y.revokedAt ≠ none

section Revocation

variable {env : Env} {s s' : State} {o : Op} {r : Result Reply} {id : String}

/-- No operation brings a revoked session back, short of creating it. -/
theorem State.Revoked.effect (h : s.Revoked id) (he : Effect o s s') (hnew : o.newSession ≠ some id) :
    s'.Revoked id := by
  intro y hy hid
  obtain ⟨x, hx, hxid, hkept⟩ | hn := he.sessions y hy
  · have hrevoked := h x hx (hxid ▸ hid)
    rw [hkept hrevoked]
    exact hrevoked
  · exact absurd (hid ▸ hn) hnew

/-- The operation revokes the session: it names it, or its principal. -/
def Op.Revokes (o : Op) (id : String) (s : State) : Prop :=
  match o with
  | .revokeSession _ sessionID _ _ _ => sessionID = id
  | .revokePrincipal _ principalID _ _ _ => ∃ y ∈ s.sessions, y.id = id ∧ y.principal.id = principalID
  | _ => False

instance (o : Op) (id : String) (s : State) : Decidable (o.Revokes id s) :=
  match o with
  | .revokeSession _ _ _ _ _ => inferInstanceAs (Decidable (_ = _))
  | .revokePrincipal _ _ _ _ _ => inferInstanceAs (Decidable (∃ y ∈ s.sessions, _))
  | .createLoginAttempt _ | .consumeLoginAttempt _ _ _ | .createSession _ _ | .touchSession _ _ _ _
  | .rotateSession _ _ _ _ _ _ _ | .createBreakGlassCode _ | .registerBreakGlassCodeAs _ _ _
  | .consumeBreakGlassCode _ _ _ _ _ | .revokeBreakGlassCodeAs _ _ _ _ | .createDesktopAuthorization _
  | .decideDesktopAuthorization _ _ _ _ | .pollDesktopAuthorization _ _ _ | .cleanupExpired _ =>
    inferInstanceAs (Decidable False)

theorem Op.Revokes.revoked (h : o.apply env s = .ok (r, s')) (hr : o.Revokes id s') : s'.Revoked id := by
  obtain ⟨callback, hb, hc, hv⟩ := Op.apply_eq_ok h
  have hunique := (validateState_valid hv).sessions
  -- one revoked session of the identifier is all of them
  have hall : ∀ y ∈ s'.sessions, y.id = id → y.revokedAt ≠ none → s'.Revoked id := by
    intro y hy hid hrevoked z hz hz'
    rw [Keyed.eq_of_key_eq hunique hz hy (hz'.trans hid.symm)]
    exact hrevoked
  cases o with
  | revokeSession caller sessionID at' reason auditToken =>
    obtain ⟨-, y, hy, hid, hrevoked⟩ := revokeSession_cases (o := .cleanupExpired 0) hb hc
    exact hall y hy (hid.trans hr) hrevoked
  | revokePrincipal caller principalID at' reason auditToken =>
    obtain ⟨y, hy, hid, hp⟩ := hr
    exact hall y hy hid ((revokePrincipal_cases (o := .cleanupExpired 0) hb hc).2 y hy hp)
  | _ => exact hr.elim

/-! ## Calls that return a session -/

/-- The session that `AuthenticateSession`, `TouchSession` or `RotateSession` returned with no error. -/
def returnedSession : StoreEvent → Option Session
  | .asks (.authenticateSession _ _ _) (some (.ok (.ok (.session y)))) => some y
  | .updates (.touchSession _ _ _ _) (some (.ok (.ok (.session y)))) => some y
  | .updates (.rotateSession _ _ _ _ _ _ _) (some (.ok (.ok (.session y)))) => some y
  | _ => none

/-- A rotation is asked for that a revoked session has the version, the credentials and the times of. -/
def replaysRevoked (w : World) : StoreEvent → Bool
  | .updates (.rotateSession sessionID expectedVersion newToken newCSRFToken seenAt idleExpiresAt _) _ =>
    w.process.any fun held => held.document.sessions.any fun x =>
      x.id == sessionID && x.revokedAt.isSome &&
        x.rotatedTo expectedVersion (hashToken newToken) (hashToken newCSRFToken) seenAt idleExpiresAt
  | _ => false

theorem authenticateSession_eq_ok {token policyFingerprint : String} {now : Int} {y : Session}
    (h : Query.answer (.authenticateSession token policyFingerprint now) s = .ok (.ok (.session y))) :
    y ∈ s.sessions ∧ y.revokedAt = none := by
  simp only [Query.answer, Query.begin, authenticateSession, bind_eq_ok, exists_unit, Except.ok.injEq] at h
  obtain ⟨inspect, ⟨_, -, -, rfl⟩, x, hx, hxy⟩ := h
  simp only [bind_eq_ok, exists_unit, require_eq_ok, reject_eq_ok, not_or, not_not, Except.ok.injEq] at hx
  obtain ⟨z, hz, ⟨hlive, -⟩, rfl⟩ := hx
  cases hxy
  exact ⟨List.mem_of_find?_eq_some hz, hlive⟩

/-- What a returned session says about the document it was returned from. -/
theorem not_revoked_of_returned {w w' : World} {e : StoreEvent} {y : Session} (hr : returnedSession e = some y)
    (h : Step (fileStore env) w e w') (hc : replaysRevoked w e = false) :
    ∃ held, w.process = some held ∧ ¬ held.document.Revoked y.id := by
  unfold returnedSession at hr
  split at hr <;> cases hr
  · cases h with
    | @asks _ held _ _ _ _ hx =>
      obtain ⟨-, -, -, ha⟩ := Document.Exec.ended_of_upholds (Document.ask_upholds _ _ _) hx
      obtain ⟨hy, hlive⟩ := authenticateSession_eq_ok (ha _ rfl).2
      exact ⟨held, rfl, fun hrev => hrev y hy rfl hlive⟩
  · cases h with
    | @updates _ held _ _ _ _ hx =>
      have happly := (Document.Exec.ended_of_upholds (Document.update_outcome _ _ _) hx).2.applied
      obtain ⟨callback, hb, hcall, -⟩ := Op.apply_eq_ok happly
      obtain ⟨-, x, y', hx', hlive, hy', hid⟩ := touchSession_cases (o := .cleanupExpired 0) hb hcall
      cases hy'
      obtain ⟨hmem, hxid, -⟩ := session_eq_ok hx'
      exact ⟨held, rfl, fun hrev => hrev x hmem (hxid.trans hid.symm) hlive⟩
  · cases h with
    | @updates _ held _ _ _ _ hx =>
      have happly := (Document.Exec.ended_of_upholds (Document.update_outcome _ _ _) hx).2.applied
      obtain ⟨callback, hb, hcall, -⟩ := Op.apply_eq_ok happly
      obtain ⟨-, x, y', hx', hy', hid, hlive⟩ := rotateSession_cases (o := .cleanupExpired 0) hb hcall
      cases hy'
      obtain ⟨hmem, hxid, -⟩ := session_eq_ok hx'
      refine ⟨held, rfl, fun hrev => ?_⟩
      have hrevoked := hrev x hmem (hxid.trans hid.symm)
      obtain hlive | ⟨-, -, hreplay⟩ := hlive
      · exact hrevoked hlive
      · refine absurd hc (Bool.not_eq_false _ ▸ List.any_eq_true.mpr ⟨x, hmem, ?_⟩)
        simp [hxid, hreplay, Option.isSome_iff_ne_none, hrevoked]

/-! ## Every run -/

/-- What the steps after a revocation have to meet: the power goes only where what is found under the name is
safe, and no rotation looks like one that a revoked session has behind it. -/
def Guarded (w : World) (e : StoreEvent) : Prop := Calm w e ∧ replaysRevoked w e = false

instance (w : World) (e : StoreEvent) : Decidable (Guarded w e) := inferInstanceAs (Decidable (_ ∧ _))

abbrev GuardedStep (env : Env) : World → StoreEvent → World → Prop :=
  Runs.Restrict (Step (fileStore env)) Guarded

/-- A session of the identifier was created on the way. -/
def CreatedSince (id : String) : World → World → Prop := Document.Since fun o => o.newSession = some id

theorem State.Revoked.migrated (h : openState env s = .ok (some s')) (hr : s.Revoked id) : s'.Revoked id := by
  obtain ⟨rfl, -⟩ := openState_some h
  exact hr

/-- A session that is revoked in memory is revoked in every document made from it, or was created since. -/
theorem revoked_or_created {w₁ w₂ : World} {held₁ held₂ : Held State Op} (hr₁ : Reachable (fileStore env) w₁)
    (hl : Runs.Later (GuardedStep env) w₁ w₂) (hp₁ : w₁.process = some held₁) (hp₂ : w₂.process = some held₂)
    (h : held₁.document.Revoked id) : held₂.document.Revoked id ∨ CreatedSince id w₁ w₂ := by
  have hr₂ : Reachable (fileStore env) w₂ := hr₁.later (hl.mono fun _ _ _ hs => hs.1)
  refine hr₁.carry (P := State.Revoked id) (fileStore_lawful env) (fun o document a next hq ha hrev happly => ?_)
    (fun _ _ => State.Revoked.migrated) hr₂ hp₁ hp₂ (hr₁.suffix_of_calm (fun _ _ => And.left) hl hp₁ hp₂) h
  exact hrev.effect (Op.effect (openState_none ha).1 happly) hq

/-- Along every run: once a revocation that covers a session has been answered without an error, no call
returns a session of its identifier unless one was created since. -/
theorem revocation_final {w w₁ w₂ w₃ : World} {reply : Reply} {e : StoreEvent} {y : Session}
    (hr : Reachable (fileStore env) w)
    (h : Step (fileStore env) w (.updates o (some (.ok (.ok reply)))) w₁)
    (hrevokes : ∀ held ∈ w₁.process, o.Revokes y.id held.document)
    (hl : Runs.Later (GuardedStep env) w₁ w₂) (hs : GuardedStep env w₂ e w₃)
    (hret : returnedSession e = some y) :
    CreatedSince y.id w₁ w₂ := by
  obtain ⟨held₂, hp₂, hlive⟩ := not_revoked_of_returned hret hs.1 hs.2.2
  cases h with
  | @updates _ held held₁ _ _ _ hx =>
    have happly := (Document.Exec.ended_of_upholds (Document.update_outcome _ _ _) hx).2.applied
    have hrevoked : held₁.document.Revoked y.id := (hrevokes held₁ rfl).revoked happly
    exact (revoked_or_created (.next hr (.updates hx)) hl rfl hp₂ hrevoked).resolve_left hlive

end Revocation

/-! ## A setting -/

namespace Setting

/-- No login attempt can be sealed here, and nothing is a URL: sessions need neither. -/
def env : Env where
  sealFor _ _ := .error "no key"
  openFor _ _ := .error "no key"
  parseURL _ := none
  parseRequestURI _ := none
  queryUnescape _ := none
  isLoopbackIP _ := false

def token (last : Char) : String := String.ofList (List.replicate 42 'A' ++ [last])

def policyFingerprint : String := String.ofList (List.replicate 64 '0')

def start : Int := 100000 * Calendar.hour

def sessionAt (t : Int) : CreateSessionInput where
  id := "session_1"
  token := token 'A'
  csrfToken := token 'E'
  principal := { id := "legacy_admin", kind := .legacyAdmin, authTime := t }
  policyFingerprint := policyFingerprint
  authMethod := "legacy_token"
  createdAt := t
  lastSeenAt := t
  idleExpiresAt := t + 30 * Calendar.minute
  absoluteExpiresAt := t + Calendar.hour

/-- More than any update needs. -/
def succeeds : List Bool := List.replicate 20 true

def create (t : Int) (auditToken : String) : Document.Move Op Query :=
  .updates (.createSession (sessionAt t) auditToken) succeeds

def revoke : Document.Move Op Query :=
  .updates (.revokeSession none "session_1" (start + Calendar.minute) "logout" (token 'I')) succeeds

/-- The rotation that the revoked session has the version, the credentials and the times of. -/
def rotate : Document.Move Op Query :=
  .updates (.rotateSession "session_1" 1 (token 'A') (token 'E') start (start + 30 * Calendar.minute)
    (token 'M')) succeeds

def authenticate (now : Int) : Document.Move Op Query :=
  .asks (.authenticateSession (token 'A') policyFingerprint now) succeeds

/-- The store with one session in it. -/
def signedIn : List (Document.Move Op Query) := [.opens succeeds, create start (token 'Q')]

end Setting

/-- A run of a store on an empty directory. -/
def fromEmpty (env : Env) (moves : List (Document.Move Op Query)) : Option World :=
  Document.World.run (fileStore env) (fun _ _ => true) ⟨⟨none, none, []⟩, none⟩ moves

theorem reachable_fromEmpty {env : Env} {moves : List (Document.Move Op Query)} {w : World}
    (h : fromEmpty env moves = some w) : Reachable (fileStore env) w :=
  Runs.Reachable.of_restrict (Document.World.run_restricted (C := fun _ _ => True) (fun _ _ _ => trivial)
    (.start .empty) h)

/-- The answer of an update that had no error. -/
def answered : StoreEvent → Option (Op × Reply)
  | .updates o (some (.ok (.ok reply))) => some (o, reply)
  | _ => none

theorem step_of_answered {env : Env} {w : World} {m : Document.Move Op Query} {p : StoreEvent × World}
    {a : Op × Reply} (h : w.move (fileStore env) m = some p) (ha : answered p.1 = some a) :
    Step (fileStore env) w (.updates a.1 (some (.ok (.ok a.2)))) p.2 := by
  have hstep := Document.World.move_step h
  unfold answered at ha
  split at ha <;> cases ha
  rename_i heq
  rwa [heq] at hstep

section Runs

open Setting

/-- A session is created and revoked, and is then asked to rotate to the credentials it has. -/
theorem rotation_after_revocation :
    ((fromEmpty Setting.env signedIn).any fun w =>
      (w.move (fileStore Setting.env) revoke).any fun p => (answered p.1).any fun a =>
        (p.2.move (fileStore Setting.env) rotate).any fun q => (returnedSession q.1).any fun y =>
          y.revokedAt.isSome && p.2.process.all fun held => decide (a.1.Revokes y.id held.document)) = true := by
  decide +kernel

/-- The call right after a revocation returns the revoked session. -/
theorem revoked_session_returned :
    ∃ (w w₁ w₂ : World) (o : Op) (reply : Reply) (e : StoreEvent) (y : Session),
      Reachable (fileStore Setting.env) w ∧
      Step (fileStore Setting.env) w (.updates o (some (.ok (.ok reply)))) w₁ ∧
      (∀ held ∈ w₁.process, o.Revokes y.id held.document) ∧
      Step (fileStore Setting.env) w₁ e w₂ ∧ returnedSession e = some y ∧ y.revokedAt ≠ none := by
  have h := rotation_after_revocation
  simp only [Option.any_eq_true, Bool.and_eq_true, Option.all_eq_true, decide_eq_true_eq,
    Option.isSome_iff_ne_none] at h
  obtain ⟨w, hw, ⟨e₁, w₁⟩, h₁, ⟨o, reply⟩, ha, ⟨e₂, w₂⟩, h₂, y, hy, hrevoked, hcovers⟩ := h
  exact ⟨w, w₁, w₂, o, reply, e₂, y, reachable_fromEmpty hw, step_of_answered h₁ ha, hcovers,
    Document.World.move_step h₂, hy, hrevoked⟩

/-- Long after its revocation the session has been dropped, and its identifier is used again. -/
theorem creation_after_revocation :
    ((fromEmpty Setting.env signedIn).any fun w =>
      (w.move (fileStore Setting.env) revoke).any fun p => (answered p.1).any fun a =>
        (p.2.run (fileStore Setting.env) (fun w e => decide (Guarded w e))
            [create (start + 2 * Calendar.hour) (token 'U')]).any fun w₂ =>
          (w₂.move (fileStore Setting.env) (authenticate (start + 2 * Calendar.hour))).any fun q =>
            decide (Guarded w₂ q.1) && (returnedSession q.1).any fun y =>
              p.2.process.all fun held => decide (a.1.Revokes y.id held.document)) = true := by
  decide +kernel

theorem revocation_final_reused :
    ∃ (w₁ w₂ w₃ : World) (e : StoreEvent) (y : Session), Runs.Later (GuardedStep Setting.env) w₁ w₂ ∧
      GuardedStep Setting.env w₂ e w₃ ∧ returnedSession e = some y ∧ CreatedSince y.id w₁ w₂ := by
  have h := creation_after_revocation
  simp only [Option.any_eq_true, Bool.and_eq_true, Option.all_eq_true, decide_eq_true_eq] at h
  obtain ⟨w, hw, ⟨e₁, w₁⟩, h₁, ⟨o, reply⟩, ha, w₂, h₂, ⟨e₃, w₃⟩, h₃, hguard, y, hy, hcovers⟩ := h
  have hlater : Runs.Later (GuardedStep Setting.env) w₁ w₂ :=
    Document.World.run_restricted (fun _ _ => of_decide_eq_true) (.start rfl) h₂
  have hlast : GuardedStep Setting.env w₂ e₃ w₃ := ⟨Document.World.move_step h₃, hguard⟩
  exact ⟨w₁, w₂, w₃, e₃, y, hlater, hlast, hy,
    revocation_final (reachable_fromEmpty hw) (step_of_answered h₁ ha) hcovers hlater hlast hy⟩

end Runs

end Identity
end Mesh
