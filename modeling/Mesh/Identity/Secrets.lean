import Mesh.Identity.Sessions

/-!
# Mesh.Identity.Secrets

Secrets that can be used once: login attempts, break-glass codes and desktop authorizations. `State.Open`
says that a secret may still be used; no operation opens a secret, short of creating it (`Effect.open`). A
consuming call needs an open secret that has not expired, and closes it.
-/

namespace Mesh
namespace Identity

open Document (Held Step Reachable Calm Since)

/-- The secret is there and may still be used, until it expires. A desktop authorization that waits for its
decision is open as well. -/
def State.Open (x : Secret) (expiresAt : Int) (s : State) : Prop :=
  match x with
  | .attempt id => ∃ a ∈ s.loginAttempts, a.id = id ∧ a.expiresAt = expiresAt
  | .code id => ∃ c ∈ s.breakGlassCodes, c.id = id ∧ c.expiresAt = expiresAt ∧ c.spent = false
  | .desktop id => ∃ r ∈ s.desktopAuthorizations, r.id = id ∧ r.expiresAt = expiresAt ∧ r.state ≠ .denied

def State.Closed (x : Secret) (s : State) : Prop := ∀ t, ¬ s.Open x t

variable {now : Int}

section Effects

variable {env : Env} {s s' : State} {o : Op} {r : Result Reply} {x : Secret} {t : Int}

/-- What is open was open before, with the same expiry, or was asked to be created. -/
theorem Effect.open (h : Effect o s s') (ho : s'.Open x t) : s.Open x t ∨ o.creates = some x := by
  cases x with
  | attempt id =>
    obtain ⟨a, ha, rfl, rfl⟩ := ho
    obtain ⟨b, hb, rfl⟩ | hnew := h.loginAttempts a ha
    · exact .inl ⟨b, hb, rfl, rfl⟩
    · exact .inr hnew
  | code id =>
    obtain ⟨c, hc, rfl, rfl, hspent⟩ := ho
    obtain ⟨b, hb, hid, hexp, hkept⟩ | hnew := h.breakGlassCodes c hc
    · refine .inl ⟨b, hb, hid.symm, hexp.symm, ?_⟩
      by_contra hb'
      rw [hkept (by simpa using hb')] at hspent
      exact hb' hspent
    · exact .inr hnew
  | desktop id =>
    obtain ⟨c, hc, rfl, rfl, hstate⟩ := ho
    obtain ⟨b, hb, hid, hexp, hkept⟩ | hnew := h.desktopAuthorizations c hc
    · refine .inl ⟨b, hb, hid.symm, hexp.symm, fun hdenied => hstate ?_⟩
      rw [hkept (by simp [hdenied]), hdenied]
    · exact .inr hnew

theorem State.Open.unique {t' : Int} (hv : Valid s) (h : s.Open x t) (h' : s.Open x t') : t = t' := by
  cases x with
  | attempt id =>
    obtain ⟨a, ha, hid, rfl⟩ := h
    obtain ⟨b, hb, hid', rfl⟩ := h'
    rw [Keyed.eq_of_key_eq hv.loginAttempts ha hb (hid.trans hid'.symm)]
  | code id =>
    obtain ⟨a, ha, hid, rfl, -⟩ := h
    obtain ⟨b, hb, hid', rfl, -⟩ := h'
    rw [Keyed.eq_of_key_eq hv.breakGlassCodes ha hb (hid.trans hid'.symm)]
  | desktop id =>
    obtain ⟨a, ha, hid, rfl, -⟩ := h
    obtain ⟨b, hb, hid', rfl, -⟩ := h'
    rw [Keyed.eq_of_key_eq hv.desktopAuthorizations ha hb (hid.trans hid'.symm)]

/-! ## Calls that consume a secret -/

/-- The secret a call has consumed, and the time it was given. -/
def Op.consumes (o : Op) (r : Result Reply) : Option (Secret × Int) :=
  match o, r with
  | .consumeLoginAttempt _ _ now, .ok (.attempt a) => some (.attempt a.id, now)
  | .consumeBreakGlassCode codeID _ now _ _, .ok (.code _) => some (.code codeID, now)
  | .pollDesktopAuthorization requestID _ now, .ok (.poll p) =>
    if p.state = .approved then some (.desktop requestID, now) else none
  | _, _ => none

/-- The secret a call revokes or denies. -/
def Op.ends : Op → Option Secret
  | .revokeBreakGlassCodeAs _ codeID _ _ => some (.code codeID)
  | .decideDesktopAuthorization requestID _ .deny _ => some (.desktop requestID)
  | _ => none

theorem State.Closed.of_code {id : String} (hv : Valid s) {c : BreakGlassCode} (hc : c ∈ s.breakGlassCodes)
    (hid : c.id = id) (hspent : c.spent = true) : s.Closed (.code id) := by
  rintro t ⟨b, hb, hid', -, hlive⟩
  rw [Keyed.eq_of_key_eq hv.breakGlassCodes hb hc (hid'.trans hid.symm), hspent] at hlive
  cases hlive

/-- A consuming call finds its secret open and in time, and closes it. -/
theorem Op.consumes_cases (hv : validateState env s = .ok ()) (h : o.apply env s = .ok (r, s'))
    (hc : o.consumes r = some (x, now)) : (∃ t, s.Open x t ∧ now < t) ∧ s'.Closed x := by
  obtain ⟨callback, hb, hcall, hv'⟩ := Op.apply_eq_ok h
  unfold Op.consumes at hc
  split at hc
  · rename_i a
    cases hc
    obtain ⟨_, herr, -⟩ | ⟨found, b, a', hfind, hexp, hr, hid, rfl⟩ := consumeLoginAttempt_cases hb hcall
    · cases herr
    · cases hr
      refine ⟨⟨_, ⟨b, List.mem_of_find?_eq_some hfind, hid.symm, rfl⟩, hexp⟩, ?_⟩
      rintro t ⟨c, hc, hcid, -⟩
      exact key_ne_of_mem_removeFirst (validateState_valid hv).loginAttempts hfind hc (hcid.trans hid)
  · cases hc
    obtain ⟨-, ⟨_, herr⟩ | ⟨b, c, hb', hid, hlive, hexp, hr, hc, hcid, hspent⟩⟩ :=
      consumeBreakGlassCode_cases (o := .cleanupExpired 0) hb hcall
    · cases herr
    · exact ⟨⟨_, ⟨b, hb', hid, rfl, hlive⟩, hexp⟩, .of_code (validateState_valid hv') hc hcid hspent⟩
  · rename_i p
    split_ifs at hc with hstate
    cases hc
    obtain ⟨found, b, hfind, hid, happroved, hexp, rfl⟩ :=
      (pollDesktopAuthorization_cases (o := .cleanupExpired 0) hv hb hcall).2 p rfl hstate
    refine ⟨⟨_, ⟨b, List.mem_of_find?_eq_some hfind, hid, rfl, by simp [happroved]⟩, hexp⟩, ?_⟩
    rintro t ⟨c, hc, hcid, -⟩
    exact key_ne_of_mem_removeFirst (validateState_valid hv).desktopAuthorizations hfind hc
      (hcid.trans hid.symm)
  · cases hc

/-- A revocation or a denial closes its secret. -/
theorem Op.ends_cases {reply : Reply} (h : o.apply env s = .ok (.ok reply, s')) (he : o.ends = some x) :
    s'.Closed x := by
  obtain ⟨callback, hb, hcall, hv'⟩ := Op.apply_eq_ok h
  have hvalid := validateState_valid hv'
  unfold Op.ends at he
  split at he
  · cases he
    obtain ⟨-, c, hc, hid, hspent⟩ := revokeBreakGlassCodeAs_cases (o := .cleanupExpired 0) hb hcall
    exact .of_code hvalid hc hid hspent
  · cases he
    obtain ⟨-, c, hc, hid, hstate⟩ := decideDesktopAuthorization_cases (o := .cleanupExpired 0) hb hcall
    rintro t ⟨b, hb', hid', -, hopen⟩
    rw [Keyed.eq_of_key_eq hvalid.desktopAuthorizations hb' hc (hid'.trans hid.symm)] at hopen
    exact hopen hstate
  · cases he

end Effects

/-! ## Every run -/

section Runs

variable {env : Env} {x : Secret}

/-- The secret a call of the store has consumed, and the time it was given. -/
def consumed : StoreEvent → Option (Secret × Int)
  | .updates o (some (.ok r)) => o.consumes r
  | _ => none

/-- The secret a call of the store has revoked or denied. -/
def ended : StoreEvent → Option Secret
  | .updates o (some (.ok (.ok _))) => o.ends
  | _ => none

/-- The secret was created on the way. -/
def SecretSince (x : Secret) : World → World → Prop := Since fun o => o.creates = some x

variable {w₁ w₂ w : World} {e : StoreEvent}

/-- What is known of the expiry of an open secret is known of it ever after, unless it was created since. -/
theorem open_carried {T : Int → Prop} {held₁ held₂ : Held State Op} (hr₁ : Reachable (fileStore env) w₁)
    (hr₂ : Reachable (fileStore env) w₂) (hp₁ : w₁.process = some held₁) (hp₂ : w₂.process = some held₂)
    (hs : held₁.history <:+ held₂.history) (h : ∀ t, held₁.document.Open x t → T t) :
    (∀ t, held₂.document.Open x t → T t) ∨ SecretSince x w₁ w₂ := by
  refine hr₁.carry (P := fun s => ∀ t, s.Open x t → T t) (fileStore_lawful env)
    (fun o document a next hq ha hopen happly t ht => ?_) (fun document next ha hopen t ht => ?_)
    hr₂ hp₁ hp₂ hs h
  · exact hopen t (((Op.effect (openState_none ha).1 happly).open ht).resolve_right hq)
  · obtain ⟨rfl, -⟩ := openState_some ha
    cases x <;> exact hopen t ht

/-- What a consuming call of the store does. -/
theorem consumed_cases (hr : Reachable (fileStore env) w) (h : Step (fileStore env) w e w₁)
    (hc : consumed e = some (x, now)) :
    ∃ held held₁, w.process = some held ∧ w₁.process = some held₁ ∧
      (∃ t, held.document.Open x t ∧ now < t) ∧ held₁.document.Closed x ∧ w₁.disk.unsynced = [] := by
  unfold consumed at hc
  split at hc
  · cases h with
    | @updates _ held held₁ _ _ _ hx =>
      have hout := (Document.Exec.ended_of_upholds (Document.update_outcome _ _ _) hx).2
      have hv := (openState_none ((hr.traced (fileStore_lawful env)).held held rfl).2.1).1
      obtain ⟨⟨t, hopen, hnow⟩, hclosed⟩ := Op.consumes_cases hv hout.applied hc
      refine ⟨held, held₁, rfl, rfl, ⟨t, hopen, hnow⟩, hclosed, ?_⟩
      cases hout with
      | committed _ _ hu => exact hu
      -- the call has changed the document, so it was written
      | unchanged _ _ _ _ hdoc => exact absurd (show held₁.document.Open x t from hdoc ▸ hopen) (hclosed t)
  · cases hc

theorem ended_closed (h : Step (fileStore env) w e w₁) (he : ended e = some x) :
    ∃ held₁, w₁.process = some held₁ ∧ held₁.document.Closed x := by
  unfold ended at he
  split at he
  · cases h with
    | updates hx =>
      have hout := (Document.Exec.ended_of_upholds (Document.update_outcome _ _ _) hx).2
      exact ⟨_, rfl, Op.ends_cases hout.applied he⟩
  · cases he

/-- Along every run, with the power going at any time: between two calls that consume a secret it was created
anew. -/
theorem consumed_once {w₃ : World} {e₁ e₂ : StoreEvent} {now₁ now₂ : Int} (hr : Reachable (fileStore env) w)
    (h₁ : Step (fileStore env) w e₁ w₁) (hc₁ : consumed e₁ = some (x, now₁))
    (hl : Runs.Later (Step (fileStore env)) w₁ w₂) (h₂ : Step (fileStore env) w₂ e₂ w₃)
    (hc₂ : consumed e₂ = some (x, now₂)) : SecretSince x w₁ w₂ := by
  have hr₁ : Reachable (fileStore env) w₁ := .next hr h₁
  have hr₂ : Reachable (fileStore env) w₂ := hr₁.later hl
  obtain ⟨-, held₁, -, hp₁, -, hclosed, hu⟩ := consumed_cases hr h₁ hc₁
  obtain ⟨held₂, -, hp₂, -, ⟨t, hopen, -⟩, -⟩ := consumed_cases hr₂ h₂ hc₂
  have hext : Document.Extends held₁.history w₁ := .of_synced (Document.Reachable.sound hr₁) hp₁ hu
  have hs := (hext.later hr₁ hl).held held₂ hp₂
  exact (open_carried (T := fun _ => False) hr₁ hr₂ hp₁ hp₂ hs hclosed).resolve_left fun hnone => hnone t hopen

/-- Along every run in which no replacement is undone: what is known of the expiry of a secret decides about
every later call that consumes it. -/
theorem consumed_later {T : Int → Prop} {w₃ : World} {held₁ : Held State Op}
    (hr₁ : Reachable (fileStore env) w₁) (hp₁ : w₁.process = some held₁)
    (h : ∀ t, held₁.document.Open x t → T t) (hl : Runs.Later (Runs.Restrict (Step (fileStore env)) Calm) w₁ w₂)
    (hs : Step (fileStore env) w₂ e w₃) (hc : consumed e = some (x, now)) :
    (∃ t, T t ∧ now < t) ∨ SecretSince x w₁ w₂ := by
  have hr₂ : Reachable (fileStore env) w₂ := hr₁.later (hl.mono fun _ _ _ hs => hs.1)
  obtain ⟨held₂, -, hp₂, -, ⟨t, hopen, hnow⟩, -⟩ := consumed_cases hr₂ hs hc
  exact (open_carried hr₁ hr₂ hp₁ hp₂ (hr₁.suffix_of_calm (fun _ _ => id) hl hp₁ hp₂) h).imp_left
    fun h => ⟨t, h t hopen, hnow⟩

end Runs

/-! ## A code that is registered again -/

namespace Setting

def codeAt (t : Int) : BreakGlassCodeInput := ⟨"bg_1", token 'A', t, t + Calendar.hour⟩

def register (t : Int) : Document.Move Op Query := .updates (.createBreakGlassCode (codeAt t)) succeeds

def use (t : Int) : Document.Move Op Query :=
  .updates (.consumeBreakGlassCode "bg_1" (token 'A') t false "") succeeds

def withdraw (t : Int) : Document.Move Op Query :=
  .updates (.revokeBreakGlassCodeAs ⟨"legacy_admin", .legacyAdmin, ""⟩ "bg_1" t (token 'E')) succeeds

/-- A minute and two days after the start. -/
def soon : Int := start + Calendar.minute

def late : Int := start + 48 * Calendar.hour

end Setting

section Reuse

open Setting

/-- A code is used or withdrawn; two days later it was dropped, and is registered and used again. -/
def reused (first : Document.Move Op Query) (check : StoreEvent → Bool) : Bool :=
  (fromEmpty Setting.env [.opens succeeds, register start]).any fun w =>
    (w.move (fileStore Setting.env) first).any fun p => check p.1 &&
      (p.2.run (fileStore Setting.env) (fun w e => decide (Calm w e)) [register late]).any fun w₂ =>
        (w₂.move (fileStore Setting.env) (use late)).any fun q =>
          decide (consumed q.1 = some (.code "bg_1", late))

/-- Codes are used in time, and used again after they were used or withdrawn. It is data: long evaluations are so
never made side by side. -/
def played : PLift (reused (use soon) (fun e => decide (consumed e = some (.code "bg_1", soon))) = true ∧
    reused (withdraw soon) (fun e => decide (ended e = some (.code "bg_1"))) = true ∧
    ((fromEmpty Setting.env [.opens succeeds, register start]).any fun w => w.process.any fun held =>
      (held.document.breakGlassCodes.any fun c =>
        c.id == "bg_1" && c.expiresAt == start + Calendar.hour && !c.spent) &&
      (w.move (fileStore Setting.env) (use soon)).any fun p =>
        decide (consumed p.1 = some (.code "bg_1", soon))) = true) where
  down := by decide +kernel

/-- The parts of `reused`, as steps. -/
theorem exists_of_reused {first : Document.Move Op Query} {check : StoreEvent → Bool}
    (h : reused first check = true) :
    ∃ (w w₁ w₂ w₃ : World) (e₁ e₂ : StoreEvent), Reachable (fileStore Setting.env) w ∧
      Step (fileStore Setting.env) w e₁ w₁ ∧ check e₁ = true ∧
      Runs.Later (Runs.Restrict (Step (fileStore Setting.env)) Calm) w₁ w₂ ∧
      Step (fileStore Setting.env) w₂ e₂ w₃ ∧ consumed e₂ = some (.code "bg_1", late) := by
  simp only [reused, Option.any_eq_true, Bool.and_eq_true, decide_eq_true_eq] at h
  obtain ⟨w, hw, ⟨e₁, w₁⟩, h₁, hcheck, w₂, h₂, ⟨e₂, w₃⟩, h₃, hc⟩ := h
  exact ⟨w, w₁, w₂, w₃, e₁, e₂, reachable_fromEmpty hw, Document.World.move_step h₁, hcheck,
    Document.World.run_restricted (fun _ _ => of_decide_eq_true) (.start rfl) h₂,
    Document.World.move_step h₃, hc⟩

end Reuse

/-! ## Acknowledged changes -/

/-- A change that was answered with success is never lost, whatever fails later and whenever the power goes: it is
in the history of every file that can come back and of the document then in use, which is valid. -/
theorem acknowledged_change_survives {env : Env} {w w₁ w₂ : World} {held held₁ : Held State Op} {o : Op}
    {r : Result Reply} (hr : Reachable (fileStore env) w)
    (h : Step (fileStore env) w (.updates o (some (.ok r))) w₁) (hp : w.process = some held)
    (hp₁ : w₁.process = some held₁) (hne : held₁.document ≠ held.document)
    (hl : Runs.Later (Step (fileStore env)) w₁ w₂) :
    held₁.history = ⟨held₁.document, some o⟩ :: held.history ∧ Document.Extends held₁.history w₂ ∧
      ∀ held₂, w₂.process = some held₂ → validateState env held₂.document = .ok () := by
  have hr₁ : Reachable (fileStore env) w₁ := .next hr h
  have hvalid := (Document.Reachable.traced (fileStore_lawful env) (hr₁.later hl)).held
  suffices hw : held₁.history = ⟨held₁.document, some o⟩ :: held.history ∧ w₁.disk.unsynced = [] from
    ⟨hw.1, (Document.Extends.of_synced (Document.Reachable.sound hr₁) hp₁ hw.2).later hr₁ hl,
      fun held₂ hp₂ => (openState_none (hvalid held₂ hp₂).2.1).1⟩
  cases h with
  | updates hx =>
    cases hp
    cases hp₁
    cases (Document.Exec.ended_of_upholds (Document.update_outcome _ _ _) hx).2 with
    | committed _ _ hu => exact ⟨rfl, hu⟩
    | unchanged _ _ _ _ hdoc => exact absurd hdoc hne

/-- The use of a code is such a change. -/
theorem acknowledged_change_survives_use :
    ∃ (w₁ w₂ : World) (held₁ : Held State Op), w₁.process = some held₁ ∧
      Runs.Later (Step (fileStore Setting.env)) w₁ w₂ ∧ Document.Extends held₁.history w₂ := by
  obtain ⟨w, w₁, w₂, -, e, -, hr, h, hc, hl, -⟩ := exists_of_reused played.down.1
  have hc := of_decide_eq_true hc
  have hl := hl.mono fun _ _ _ hs => hs.1
  obtain ⟨held, held₁, hp, hp₁, ⟨t, hopen, -⟩, hclosed, -⟩ := consumed_cases hr h hc
  unfold consumed at hc
  split at hc
  · have hne : held₁.document ≠ held.document := fun heq => hclosed t (heq ▸ hopen)
    exact ⟨w₁, w₂, held₁, hp₁, hl, (acknowledged_change_survives hr h hp hp₁ hne hl).2.1⟩
  · cases hc

end Identity
end Mesh
