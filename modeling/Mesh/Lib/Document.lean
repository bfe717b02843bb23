import Mesh.Lib.Program

/-!
# Mesh.Lib.Document

A store that keeps one document in one file and replaces the file by a rename.

The process holds the document in memory. To change it, the store writes the new document to a
temporary file, syncs that file, renames it over the old one and syncs the directory. The rename is seen
at once; it outlives a power loss only after the directory was synced. A store whose last sync failed
remembers that in memory (`pending`) and answers nothing before a sync has succeeded.

* `Disk` is what the directory holds, and what may come back after a power loss.
* `persist`, `ensureDurable`, `update`, `ask`, `close` and `start` are the store, over a `Design` that
  says what one store adds: its checks, its operations and the texts of its errors.
* `Outcome` says everything an update can come to; `update_outcome` proves it.

Every file carries the revisions its document was made from. No operation reads them; they say what
was lost when an older file comes back.
-/

namespace Mesh

namespace Program

variable {Call : Type} {Answer : Call → Type} {ε ε' α β σ : Type}

/-- Goes on with the result, be it a value or an error. -/
def handle : Program Call Answer ε α → (Except ε α → Program Call Answer ε' β) → Program Call Answer ε' β
  | done a, k => k (.ok a)
  | fail e, k => k (.error e)
  | call c next, k => call c fun x => (next x).handle k

variable {does : σ → (c : Call) → Answer c → σ → Prop} {I : σ → Prop} {s : σ}
  {p : Program Call Answer ε α} {k : Except ε α → Program Call Answer ε' β}

theorem Exec.of_handle {o : Ending ε' β} {s' : σ} (h : Exec does (p.handle k) s o s') :
    (∃ r s₁, Exec does p s (.ended r) s₁ ∧ Exec does (k r) s₁ o s') ∨
      (Exec does p s .crashed s' ∧ o = .crashed) := by
  induction p generalizing s with
  | done a => exact .inl ⟨_, s, .done, h⟩
  | fail e => exact .inl ⟨_, s, .fail, h⟩
  | call c next ih =>
    cases h with
    | crash => exact .inr ⟨.crash, rfl⟩
    | call hd he =>
      obtain ⟨r, s₁, h₁, h₂⟩ | ⟨h₁, ho⟩ := ih _ he
      · exact .inl ⟨r, s₁, .call hd h₁, h₂⟩
      · exact .inr ⟨.call hd h₁, ho⟩

/-- The postcondition with one part for values and one for errors. -/
def Ends (K : α → σ → Prop) (E : ε → σ → Prop) : Except ε α → σ → Prop
  | .ok a => K a
  | .error e => E e

theorem Upholds.handle {R : Except ε α → σ → Prop} {Q : Except ε' β → σ → Prop}
    (h : Upholds does I p s R) (hk : ∀ r s', I s' → R r s' → Upholds does I (k r) s' Q) :
    Upholds does I (p.handle k) s Q := by
  intro o s' he
  obtain ⟨r, s₁, h₁, h₂⟩ | ⟨h₁, rfl⟩ := Exec.of_handle he
  · obtain ⟨hi, hr⟩ := h _ _ h₁
    exact hk r s₁ hi (hr r rfl) o s' h₂
  · exact ⟨(h _ _ h₁).1, fun _ ho => by cases ho⟩

end Program

namespace Document

/-! ## The directory -/

/-- A document with the operation that wrote it; a store writes without one when it is opened. -/
structure Revision (δ ω : Type) where
  document : δ
  origin : Option ω

/-- A file: its revision and those that one was made from, newest first. Where the history is empty, the
file holds no whole document. Bytes that were not synced are lost with the power. -/
structure File (ρ : Type) where
  history : List ρ
  synced : Bool
deriving DecidableEq

/-- The directory. `unsynced` is what the name stood for since the directory was last synced. -/
structure Disk (ρ : Type) where
  temporary : Option (File ρ)
  current : Option (File ρ)
  unsynced : List (Option (File ρ))
deriving DecidableEq

namespace Disk

variable {ρ : Type}

/-- What the name stands for, and what it may stand for again after a power loss. -/
def entries (d : Disk ρ) : List (Option (File ρ)) := d.current :: d.unsynced

def settled (d : Disk ρ) : Disk ρ := { d with unsynced := [] }

def renamed (d : Disk ρ) : Disk ρ := ⟨none, d.temporary, d.entries⟩

@[simp] theorem settled_current (d : Disk ρ) : d.settled.current = d.current := rfl
@[simp] theorem settled_unsynced (d : Disk ρ) : d.settled.unsynced = [] := rfl
@[simp] theorem renamed_current (d : Disk ρ) : d.renamed.current = d.temporary := rfl
@[simp] theorem renamed_unsynced (d : Disk ρ) : d.renamed.unsynced = d.entries := rfl

/-- What is found when the power is back. -/
inductive Survives (d : Disk ρ) : Option (File ρ) → Prop where
  | absent : none ∈ d.entries → Survives d none
  | whole {f : File ρ} : some f ∈ d.entries → Survives d (some ⟨f.history, true⟩)
  | torn {f : File ρ} : some f ∈ d.entries → f.synced = false → Survives d (some ⟨[], true⟩)

end Disk

/-! ## Calls -/

inductive Action (ρ : Type) where
  /-- the bytes of the document, and a fresh name for the temporary file -/
  | encode
  | create
  | secure
  | write (history : List ρ)
  | syncFile
  | closeFile
  | rename
  | remove
  | syncDirectory
  /-- the caller is still waiting -/
  | context

inductive Call (ρ : Type) where
  | act (a : Action ρ)
  | read

abbrev Call.Answer {ρ : Type} : Call ρ → Type
  | .act _ => Except String Unit
  | .read => Except String (Option (List ρ))

variable {ρ : Type}

/-- What an action does when it succeeds. -/
def Disk.after (d : Disk ρ) : Action ρ → Disk ρ
  | .create => { d with temporary := some ⟨[], false⟩ }
  | .write history => { d with temporary := some ⟨history, false⟩ }
  | .syncFile => { d with temporary := d.temporary.map fun f => { f with synced := true } }
  | .rename => d.renamed
  | .remove => { d with temporary := none }
  | .syncDirectory => d.settled
  | .encode | .secure | .closeFile | .context => d

/-- What an action that fails can leave behind. -/
def Disk.Spoilt (d : Disk ρ) : Action ρ → Disk ρ → Prop
  | .write _, d' => d' = { d with temporary := some ⟨[], false⟩ }
  | .syncDirectory, d' => d' = d ∨ d' = d.settled
  | _, d' => d' = d

/-- Every call can fail. -/
def Disk.does (d : Disk ρ) : (c : Call ρ) → c.Answer → Disk ρ → Prop
  | .act a, x, d' => (x = .ok () ∧ d' = d.after a) ∨ ((∃ text, x = .error text) ∧ d.Spoilt a d')
  | .read, x, d' => (x = .ok (d.current.map File.history) ∨ ∃ text, x = .error text) ∧ d' = d

/-! ## The store -/

/-- `refused` is an error of the store's own rules. -/
inductive Error (ε : Type) where
  | uncertain (text : String)
  | storage (text : String)
  | refused (error : ε)
deriving DecidableEq

def Error.isUncertain {ε : Type} : Error ε → Bool
  | uncertain _ => true
  | _ => false

/-- A step of preparing the temporary file. -/
inductive Preparation where
  | encode
  | create
  | secure
  | write
  | syncFile
  | closeFile
deriving DecidableEq

def Preparation.action (history : List ρ) : Preparation → Action ρ
  | .encode => .encode
  | .create => .create
  | .secure => .secure
  | .write => .write history
  | .syncFile => .syncFile
  | .closeFile => .closeFile

/-- What a step makes of the temporary file. -/
def Preparation.file (history : List ρ) (f : Option (File ρ)) : Preparation → Option (File ρ)
  | .create => some ⟨[], false⟩
  | .write => some ⟨history, false⟩
  | .syncFile => f.map fun f => { f with synced := true }
  | .encode | .secure | .closeFile => f

/-- How one store writes its file: the steps of preparing it, and what it says when a step fails. Once
all steps are done the temporary file is whole and synced. -/
structure Texts where
  prepare : List (Preparation × String)
  replace : String
  sync : String
  retry : String
  whole : ∀ (ρ : Type) (history : List ρ) (f : Option (File ρ)),
    (prepare.map Prod.fst).foldl (Preparation.file history) f = some ⟨history, true⟩

/-- What one store adds. `accept` checks the document found when the store is opened and gives the one to
write back where that is of an old form; `screen` is what an operation checks before it comes to the
store; `leaves` is what becomes of the document in memory when an operation has worked on its copy. -/
structure Design (δ ε ω κ α : Type) where
  texts : Texts
  blank : δ
  accept : δ → Except ε (Option δ)
  screen : ω → Except ε Unit
  apply : ω → δ → Except ε (α × δ)
  leaves : ω → δ → δ
  screenRead : κ → Except ε Unit
  reads : κ → δ → Except ε α
  cancellable : Bool

/-- The open store in memory. -/
structure Held (δ ω : Type) where
  document : δ
  history : List (Revision δ ω)
  pending : Bool

section Store

variable {ε α : Type}

abbrev Storage (ρ ε α : Type) := Program (Call ρ) Call.Answer ε α

def act (a : Action ρ) (text : String) : Storage ρ (Error ε) Unit :=
  .call (.act a) fun
    | .ok () => .done ()
    | .error e => .fail (.storage (text ++ ": " ++ e))

/-- A sync of the directory: where it fails, nobody knows what a power loss would leave. -/
def syncDirectory (text : String) : Storage ρ (Error ε) Unit :=
  .call (.act .syncDirectory) fun
    | .ok () => .done ()
    | .error e => .fail (.uncertain (text ++ ": " ++ e))

def prepare (history : List ρ) : List (Preparation × String) → Storage ρ (Error ε) Unit
  | [] => .done ()
  | (p, text) :: rest => (act (p.action history) text).bind fun () => prepare history rest

def persist (texts : Texts) (history : List ρ) : Storage ρ (Error ε) Unit :=
  ((prepare history texts.prepare).bind fun () => act .rename texts.replace).handle fun
    | .ok () => syncDirectory texts.sync
    -- the temporary file goes; that this may fail is ignored
    | .error e => (act (ε := ε) .remove "").handle fun _ => .fail e

end Store

section Operations

variable {δ ε ω κ α β : Type}

/-- An operation of the open store: what it says, and the store after it. -/
abbrev Operation (δ ε ω α : Type) := Storage (Revision δ ω) Empty (Except (Error ε) α × Held δ ω)

/-- Goes on when the step was done; its error is the answer otherwise. -/
def orElse (s : Held δ ω) (step : Storage (Revision δ ω) (Error ε) Unit) (next : Operation δ ε ω α) :
    Operation δ ε ω α :=
  step.handle fun
    | .ok () => next
    | .error e => .done (.error e, s)

/-- An input that is refused never reaches the store. -/
def screened (s : Held δ ω) (x : Except ε Unit) (next : Operation δ ε ω α) : Operation δ ε ω α :=
  match x with
  | .error e => .done (.error (.refused e), s)
  | .ok () => next

def ensureDurable (texts : Texts) (s : Held δ ω) (next : Held δ ω → Operation δ ε ω α) :
    Operation δ ε ω α :=
  if s.pending then orElse s (syncDirectory texts.retry) (next { s with pending := false }) else next s

variable (D : Design δ ε ω κ α)

/-- A caller who has gone away is answered with an error. -/
def interruptible (s : Held δ ω) (next : Operation δ ε ω β) : Operation δ ε ω β :=
  if D.cancellable then orElse s (act .context "context") next else next

variable [DecidableEq δ]

/-- Writes the document the operation has made, unless it is the one in memory. -/
def commit (o : ω) (s : Held δ ω) (a : α) (next : δ) : Operation δ ε ω α :=
  if next = s.document then .done (.ok a, s) else
    let history := ⟨next, some o⟩ :: s.history
    (persist D.texts history).handle fun
      | .ok () => .done (.ok a, ⟨next, history, false⟩)
      | .error e => .done (.error e, if e.isUncertain then ⟨next, history, true⟩ else s)

def update (o : ω) (s : Held δ ω) : Operation δ ε ω α :=
  screened s (D.screen o) <| interruptible D s <| ensureDurable D.texts s fun s => interruptible D s <|
    let worked := { s with document := D.leaves o s.document }
    match D.apply o s.document with
    | .error e => .done (.error (.refused e), worked)
    | .ok (a, next) => interruptible D worked (commit D o worked a next)

omit [DecidableEq δ] in
def ask (q : κ) (s : Held δ ω) : Operation δ ε ω α :=
  screened s (D.screenRead q) <| interruptible D s <| ensureDurable D.texts s fun s => interruptible D s <|
    match D.reads q s.document with
    | .error e => .done (.error (.refused e), s)
    | .ok a => interruptible D s (.done (.ok a, s))

omit [DecidableEq δ] in
def checkReadiness (s : Held δ ω) : Operation δ ε ω Unit :=
  ensureDurable D.texts s fun s => .done (.ok (), s)

omit [DecidableEq δ] in
/-- Writes the document of a store that is being opened. -/
def install (d : δ) (older : List (Revision δ ω)) :
    Storage (Revision δ ω) Empty (Except (Error ε) (Held δ ω)) :=
  (persist D.texts (⟨d, none⟩ :: older)).handle fun
    | .ok () => .done (.ok ⟨d, ⟨d, none⟩ :: older, false⟩)
    | .error e => .done (.error e)

omit [DecidableEq δ] in
def start : Storage (Revision δ ω) Empty (Except (Error ε) (Held δ ω)) :=
  .call .read fun
    | .error e => .done (.error (.storage e))
    | .ok none => install D D.blank []
    | .ok (some []) => .done (.error (.storage "the document is not whole"))
    | .ok (some (r :: older)) =>
      match D.accept r.document with
      | .error e => .done (.error (.refused e))
      | .ok none => .done (.ok ⟨r.document, r :: older, false⟩)
      | .ok (some d) => install D d (r :: older)

end Operations

/-! ## What the programs do to the directory -/

open Program

namespace Disk

/-- Only the temporary file is different, or the directory was synced. -/
structure Stays (d d' : Disk ρ) : Prop where
  current : d'.current = d.current
  unsynced : d'.unsynced = d.unsynced ∨ d'.unsynced = []

/-- The file was replaced. -/
structure Wrote (history : List ρ) (d d' : Disk ρ) : Prop where
  current : d'.current = some ⟨history, true⟩
  unsynced : d'.unsynced ⊆ d.entries

theorem Stays.refl (d : Disk ρ) : d.Stays d := ⟨rfl, .inl rfl⟩

theorem Stays.settled {d d' : Disk ρ} (h : d.Stays d') : d.Stays d'.settled := ⟨h.current, .inr rfl⟩

theorem Stays.trans {d d' d'' : Disk ρ} (h : d.Stays d') (h' : d'.Stays d'') : d.Stays d'' := by
  refine ⟨h'.current.trans h.current, ?_⟩
  obtain hu | hu := h'.unsynced
  · rw [hu]
    exact h.unsynced
  · exact .inr hu

theorem Stays.subset {d d' : Disk ρ} (h : d.Stays d') : d'.entries ⊆ d.entries := by
  obtain ⟨hc, hu | hu⟩ := h <;> simp [entries, hc, hu]

theorem Stays.wrote {history : List ρ} {d d' d'' : Disk ρ} (h : d.Stays d') (h' : d'.Wrote history d'') :
    d.Wrote history d'' := ⟨h'.current, fun _ he => h.subset (h'.unsynced he)⟩

theorem after_prepare (d : Disk ρ) (history : List ρ) (p : Preparation) :
    d.after (p.action history) = { d with temporary := p.file history d.temporary } := by
  cases p <;> rfl

theorem spoilt_prepare {d d' : Disk ρ} {history : List ρ} {p : Preparation}
    (h : d.Spoilt (p.action history) d') : d'.current = d.current ∧ d'.unsynced = d.unsynced := by
  cases p <;> exact h ▸ ⟨rfl, rfl⟩

end Disk

section Specs

variable {ε : Type} {I : Disk ρ → Prop} {d : Disk ρ}

theorem act_upholds {a : Action ρ} {text : String} {R : Except (Error ε) Unit → Disk ρ → Prop}
    (hI : I d) (hok : I (d.after a) ∧ R (.ok ()) (d.after a))
    (herr : ∀ e d', d.Spoilt a d' → I d' ∧ R (.error (.storage e)) d') :
    Upholds Disk.does I (act a text) d R := by
  refine .call hI fun x d' hd => ?_
  obtain ⟨rfl, rfl⟩ | ⟨⟨e, rfl⟩, hs⟩ := hd
  · exact .done hok.1 hok.2
  · obtain ⟨hi, hr⟩ := herr (text ++ ": " ++ e) d' hs
    exact .fail hi hr

theorem syncDirectory_upholds {text : String} {R : Except (Error ε) Unit → Disk ρ → Prop} (hI : I d)
    (hok : I d.settled ∧ R (.ok ()) d.settled)
    (herr : ∀ e d', d' = d ∨ d' = d.settled → I d' ∧ R (.error (.uncertain e)) d') :
    Upholds Disk.does I (syncDirectory text) d R := by
  refine .call hI fun x d' hd => ?_
  obtain ⟨rfl, rfl⟩ | ⟨⟨e, rfl⟩, hs⟩ := hd
  · exact .done hok.1 hok.2
  · obtain ⟨hi, hr⟩ := herr (text ++ ": " ++ e) d' hs
    exact .fail hi hr

/-- The steps of preparing touch only the temporary file. -/
theorem prepare_upholds (history : List ρ) (steps : List (Preparation × String)) {d₀ d : Disk ρ}
    (hd : d₀.Stays d) :
    Upholds Disk.does d₀.Stays (prepare history steps : Storage ρ (Error ε) Unit) d
      (Ends (fun _ d' => d'.temporary = (steps.map Prod.fst).foldl (Preparation.file history) d.temporary)
        fun e _ => e.isUncertain = false) := by
  induction steps generalizing d with
  | nil => exact .done hd rfl
  | cons step rest ih =>
    obtain ⟨p, text⟩ := step
    refine .bind (R := Ends (fun _ d' => d'.temporary = p.file history d.temporary)
      fun e _ => e.isUncertain = false) ?_ ?_ fun e d' _ he => he
    · refine act_upholds hd ?_ fun e d' hs => ?_
      · rw [Disk.after_prepare]
        exact ⟨⟨hd.current, hd.unsynced⟩, rfl⟩
      · obtain ⟨hc, hu⟩ := Disk.spoilt_prepare hs
        exact ⟨hd.trans ⟨hc, .inl hu⟩, rfl⟩
    · intro _ d' hd' ht
      have ht' : d'.temporary = p.file history d.temporary := ht
      simp only [List.map_cons, List.foldl_cons, ← ht']
      exact ih hd'

/-- All that can come of writing a document. -/
theorem persist_upholds (texts : Texts) (history : List ρ) (d : Disk ρ) :
    Upholds Disk.does (fun d' => d.Stays d' ∨ d.Wrote history d')
      (persist texts history : Storage ρ (Error ε) Unit) d
      (Ends (fun _ d' => d'.current = some ⟨history, true⟩ ∧ d'.unsynced = [])
        fun e d' => if e.isUncertain then d.Wrote history d' else d.Stays d') := by
  refine .handle (R := Ends (fun _ d' => d.Wrote history d')
    fun e d' => e.isUncertain = false ∧ d.Stays d') ?_ ?_
  · refine .bind (R := Ends (fun _ d' => d.Stays d' ∧ d'.temporary = some ⟨history, true⟩)
      fun (e : Error ε) d' => e.isUncertain = false ∧ d.Stays d') ?_ ?_ fun _ _ _ he => he
    · refine (prepare_upholds history texts.prepare (.refl d)).mono (fun _ h => .inl h) ?_
      rintro (e | ⟨⟩) d' hs ht
      · exact ⟨ht, hs⟩
      · exact ⟨hs, by rw [show d'.temporary = _ from ht, texts.whole]⟩
    · rintro ⟨⟩ d' - ⟨hs, ht⟩
      have hw : d.Wrote history d'.renamed := ⟨ht, fun _ he => hs.subset he⟩
      refine act_upholds (.inl hs) ⟨.inr hw, hw⟩ ?_
      rintro e _ rfl
      exact ⟨.inl hs, rfl, hs⟩
  · rintro (e | ⟨⟩) d' hi hr
    · obtain ⟨he, hs⟩ := hr
      refine .handle (R := fun _ d'' => d.Stays d'') (act_upholds hi ?_ ?_) ?_
      · exact ⟨.inl ⟨hs.current, hs.unsynced⟩, ⟨hs.current, hs.unsynced⟩⟩
      · rintro _ _ rfl
        exact ⟨.inl hs, hs⟩
      · intro _ d'' hi' hs'
        exact .fail hi' (by simpa [Ends, he] using hs')
    · have hw : d.Wrote history d' := hr
      have hw' : d.Wrote history d'.settled := ⟨hw.current, by simp⟩
      refine syncDirectory_upholds hi ⟨.inr hw', hw.current, rfl⟩ ?_
      rintro e d'' (rfl | rfl)
      · exact ⟨.inr hw, hw⟩
      · exact ⟨.inr hw', hw'⟩

end Specs

/-! ## What an operation comes to -/

section Outcomes

variable {δ ε ω κ α β : Type}

/-- The store in memory after nothing was written: the barrier may have been made up for. -/
structure Held.Stays (s : Held δ ω) (s' : Held δ ω) (d' : Disk (Revision δ ω)) : Prop where
  history : s'.history = s.history
  pending : s'.pending = s.pending ∨ (s'.pending = false ∧ d'.unsynced = [])

/-- What an update that started in `s` on the directory `d` answers and leaves. -/
inductive Outcome (D : Design δ ε ω κ α) (o : ω) (s : Held δ ω) (d : Disk (Revision δ ω)) :
    Except (Error ε) α → Held δ ω → Disk (Revision δ ω) → Prop where
  | failed {e : Error ε} {s' : Held δ ω} {d' : Disk (Revision δ ω)} :
      d.Stays d' → s.Stays s' d' → s'.document = s.document ∨ s'.document = D.leaves o s.document →
      Outcome D o s d (.error e) s' d'
  | unchanged {a : α} {s' : Held δ ω} {d' : Disk (Revision δ ω)} :
      D.apply o s.document = .ok (a, D.leaves o s.document) → d.Stays d' → s.Stays s' d' →
      s'.pending = false → s'.document = D.leaves o s.document → Outcome D o s d (.ok a) s' d'
  | uncertain {a : α} {next : δ} {e : Error ε} {d' : Disk (Revision δ ω)} :
      D.apply o s.document = .ok (a, next) → e.isUncertain = true →
      d.Wrote (⟨next, some o⟩ :: s.history) d' →
      Outcome D o s d (.error e) ⟨next, ⟨next, some o⟩ :: s.history, true⟩ d'
  | committed {a : α} {next : δ} {d' : Disk (Revision δ ω)} :
      D.apply o s.document = .ok (a, next) → d'.current = some ⟨⟨next, some o⟩ :: s.history, true⟩ →
      d'.unsynced = [] → Outcome D o s d (.ok a) ⟨next, ⟨next, some o⟩ :: s.history, false⟩ d'

/-- An update that succeeds has applied its operation to the document in memory. -/
theorem Outcome.applied {D : Design δ ε ω κ α} {o : ω} {s s' : Held δ ω} {d d' : Disk (Revision δ ω)} {a : α}
    (h : Outcome D o s d (.ok a) s' d') : D.apply o s.document = .ok (a, s'.document) := by
  cases h with
  | unchanged happly _ _ _ hdoc => rw [hdoc]; exact happly
  | committed happly _ _ => exact happly

/-- What is on the disk when an update ends, or crashes. -/
def Touched (D : Design δ ε ω κ α) (o : ω) (s : Held δ ω) (d d' : Disk (Revision δ ω)) : Prop :=
  d.Stays d' ∨ ∃ a next, D.apply o s.document = .ok (a, next) ∧ d.Wrote (⟨next, some o⟩ :: s.history) d'

variable {D : Design δ ε ω κ α} {I : Disk (Revision δ ω) → Prop} {d₀ d : Disk (Revision δ ω)}
  {s : Held δ ω} {Q : Except Empty (Except (Error ε) β × Held δ ω) → Disk (Revision δ ω) → Prop}

theorem Held.Stays.refl (s : Held δ ω) (d' : Disk (Revision δ ω)) : s.Stays s d' := ⟨rfl, .inl rfl⟩

theorem screened_upholds {x : Except ε Unit} {next : Operation δ ε ω β} (hI : I d)
    (hnext : Upholds Disk.does I next d Q) (herr : ∀ e, Q (.ok (.error e, s)) d) :
    Upholds Disk.does I (screened s x next) d Q := by
  cases x with
  | error e => exact .done hI (herr _)
  | ok _ => exact hnext

/-- The caller may have gone away; the directory is the same. -/
theorem interruptible_upholds {next : Operation δ ε ω β} (hI : I d)
    (hnext : Upholds Disk.does I next d Q) (herr : ∀ e, Q (.ok (.error e, s)) d) :
    Upholds Disk.does I (interruptible D s next) d Q := by
  unfold interruptible
  split
  · refine .handle (R := Ends (fun _ d' => d' = d) fun _ d' => d' = d) (act_upholds hI ⟨hI, rfl⟩ ?_) ?_
    · rintro e _ rfl
      exact ⟨hI, rfl⟩
    · rintro (e | ⟨⟩) d' hi rfl
      · exact .done hi (herr e)
      · exact hnext
  · exact hnext

/-- After the barrier nothing is unsynced but what was so before an update that left no doubt. -/
theorem ensureDurable_upholds {texts : Texts} {next : Held δ ω → Operation δ ε ω β} (hd : d₀.Stays d)
    (hI : ∀ d', d₀.Stays d' → I d')
    (hnext : ∀ s' d', d₀.Stays d' → s'.document = s.document → s.Stays s' d' → s'.pending = false →
      Upholds Disk.does I (next s') d' Q)
    (herr : ∀ e d', d₀.Stays d' → Q (.ok (.error e, s)) d') :
    Upholds Disk.does I (ensureDurable texts s next) d Q := by
  unfold ensureDurable
  split
  · refine .handle (R := Ends (fun _ d' => d₀.Stays d' ∧ d'.unsynced = []) fun _ d' => d₀.Stays d')
      (syncDirectory_upholds (hI d hd) ⟨hI _ hd.settled, hd.settled, rfl⟩ ?_) ?_
    · rintro e d' (rfl | rfl)
      · exact ⟨hI _ hd, hd⟩
      · exact ⟨hI _ hd.settled, hd.settled⟩
    · rintro (e | ⟨⟩) d' hi hr
      · exact .done hi (herr e d' hr)
      · exact hnext _ d' hr.1 rfl ⟨rfl, .inr ⟨rfl, hr.2⟩⟩ rfl
  · rename_i hp
    exact hnext s d hd rfl (.refl s d) (by simpa using hp)

variable [DecidableEq δ]

theorem commit_upholds {o : ω} {s s' : Held δ ω} {a : α} {next : δ} (hd : d₀.Stays d)
    (happly : D.apply o s.document = .ok (a, next)) (hdoc : s'.document = D.leaves o s.document)
    (hs : s.Stays s' d) (hp : s'.pending = false) :
    Upholds Disk.does (Touched D o s d₀) (commit D o s' a next) d
      (Ends (fun x d' => Outcome D o s d₀ x.1 x.2 d') fun _ _ => True) := by
  unfold commit
  split
  · rename_i he
    rw [he, hdoc] at happly
    exact .done (.inl hd) (.unchanged happly hd hs hp hdoc)
  · refine .handle ((persist_upholds (ε := ε) D.texts (⟨next, some o⟩ :: s'.history) d).mono ?_
      fun _ _ _ h => h) ?_
    · rintro d' (h | h)
      · exact .inl (hd.trans h)
      · exact .inr ⟨a, next, happly, hd.wrote (hs.history ▸ h)⟩
    · rintro (e | ⟨⟩) d' hi hr
      · refine .done hi ?_
        have hr : if e.isUncertain then d.Wrote (⟨next, some o⟩ :: s'.history) d' else d.Stays d' := hr
        split at hr
        · rename_i hu
          simp only [Ends, hu, if_true, hs.history] at hr ⊢
          exact .uncertain happly hu (hd.wrote hr)
        · rename_i hu
          simp only [Ends, hu, Bool.false_eq_true, if_false]
          refine .failed (hd.trans hr) ⟨hs.history, ?_⟩ (.inr hdoc)
          obtain h | ⟨h, hu'⟩ := hs.pending
          · exact .inl h
          · exact .inr ⟨h, by simpa [hu'] using hr.unsynced⟩
      · refine .done hi ?_
        simp only [Ends, hs.history] at hr ⊢
        exact .committed happly hr.1 hr.2

theorem update_outcome (o : ω) (s : Held δ ω) (d : Disk (Revision δ ω)) :
    Upholds Disk.does (Touched D o s d) (update D o s) d
      (Ends (fun x d' => Outcome D o s d x.1 x.2 d') fun _ _ => True) := by
  have hd := Disk.Stays.refl d
  refine screened_upholds (.inl hd) ?_ fun e => .failed hd (.refl s d) (.inl rfl)
  refine interruptible_upholds (.inl hd) ?_ fun e => .failed hd (.refl s d) (.inl rfl)
  refine ensureDurable_upholds hd (fun _ h => .inl h) ?_ fun e d' h => .failed h (.refl s d') (.inl rfl)
  intro s' d' hd' hdoc hs hp
  refine interruptible_upholds (.inl hd') ?_ fun e => .failed hd' hs (.inl hdoc)
  rw [hdoc]
  have hs' : s.Stays { s' with document := D.leaves o s.document } d' := ⟨hs.history, hs.pending⟩
  cases happly : D.apply o s.document with
  | error e => exact .done (.inl hd') (.failed hd' hs' (.inr rfl))
  | ok x =>
    refine interruptible_upholds (.inl hd') ?_ fun e => .failed hd' hs' (.inr rfl)
    exact commit_upholds hd' happly rfl hs' hp

omit [DecidableEq δ] in
/-- A question that is answered is answered from a document the directory was synced for. -/
theorem ask_upholds (q : κ) (s : Held δ ω) (d : Disk (Revision δ ω)) :
    Upholds Disk.does d.Stays (ask D q s) d
      (Ends (fun x d' => s.Stays x.2 d' ∧ x.2.document = s.document ∧
        ∀ a, x.1 = .ok a → x.2.pending = false ∧ D.reads q s.document = .ok a) fun _ _ => True) := by
  have hd := Disk.Stays.refl d
  refine screened_upholds hd ?_ fun e => ⟨.refl s d, rfl, by simp⟩
  refine interruptible_upholds hd ?_ fun e => ⟨.refl s d, rfl, by simp⟩
  refine ensureDurable_upholds hd (fun _ h => h) ?_ fun e d' h => ⟨.refl s d', rfl, by simp⟩
  intro s' d' hd' hdoc hs hp
  refine interruptible_upholds hd' ?_ fun e => ⟨hs, hdoc, by simp⟩
  rw [hdoc]
  cases hq : D.reads q s.document with
  | error e => exact .done hd' ⟨hs, hdoc, by simp⟩
  | ok a =>
    refine interruptible_upholds hd' (.done hd' ⟨hs, hdoc, ?_⟩) fun e => ⟨hs, hdoc, by simp⟩
    rintro _ ⟨⟩
    exact ⟨hp, rfl⟩

omit [DecidableEq δ] in
theorem checkReadiness_upholds (s : Held δ ω) (d : Disk (Revision δ ω)) :
    Upholds Disk.does d.Stays (checkReadiness D s) d
      (Ends (fun x d' => s.Stays x.2 d' ∧ x.2.document = s.document ∧
        (x.1 = .ok () → x.2.pending = false)) fun _ _ => True) := by
  refine ensureDurable_upholds (.refl d) (fun _ h => h) ?_ fun e d' h => ⟨.refl s d', rfl, by simp⟩
  intro s' d' hd' hdoc hs hp
  exact .done hd' ⟨hs, hdoc, fun _ => hp⟩

/-- The document a store writes when it is opened. -/
inductive Installs (D : Design δ ε ω κ α) (d : Disk (Revision δ ω)) : List (Revision δ ω) → Prop where
  | blank : d.current = none → Installs D d [⟨D.blank, none⟩]
  | migrated {r : Revision δ ω} {older : List (Revision δ ω)} {document : δ} {synced : Bool} :
      d.current = some ⟨r :: older, synced⟩ → D.accept r.document = .ok (some document) →
      Installs D d (⟨document, none⟩ :: r :: older)

/-- What opening a store comes to. -/
inductive Started (D : Design δ ε ω κ α) (d : Disk (Revision δ ω)) :
    Held δ ω → Disk (Revision δ ω) → Prop where
  | found {r : Revision δ ω} {older : List (Revision δ ω)} {synced : Bool} :
      d.current = some ⟨r :: older, synced⟩ → D.accept r.document = .ok none →
      Started D d ⟨r.document, r :: older, false⟩ d
  | installed {r : Revision δ ω} {older : List (Revision δ ω)} {d' : Disk (Revision δ ω)} :
      Installs D d (r :: older) → d'.current = some ⟨r :: older, true⟩ → d'.unsynced = [] →
      Started D d ⟨r.document, r :: older, false⟩ d'

def Entered (D : Design δ ε ω κ α) (d d' : Disk (Revision δ ω)) : Prop :=
  d.Stays d' ∨ ∃ history, Installs D d history ∧ d.Wrote history d'

omit [DecidableEq δ] in
theorem install_upholds {document : δ} {older : List (Revision δ ω)}
    (hi : Installs D d (⟨document, none⟩ :: older)) :
    Upholds Disk.does (Entered D d) (install D document older) d
      (Ends (fun x d' => ∀ s, x = .ok s → Started D d s d') fun _ _ => True) := by
  refine .handle ((persist_upholds (ε := ε) D.texts (⟨document, none⟩ :: older) d).mono ?_
    fun _ _ _ h => h) ?_
  · rintro d' (h | h)
    · exact .inl h
    · exact .inr ⟨_, hi, h⟩
  · rintro (e | ⟨⟩) d' he hr
    · exact .done he fun s h => by cases h
    · refine .done he fun s h => ?_
      cases h
      exact .installed hi hr.1 hr.2

omit [DecidableEq δ] in
theorem start_upholds (d : Disk (Revision δ ω)) :
    Upholds Disk.does (Entered D d) (start D) d
      (Ends (fun x d' => ∀ s, x = .ok s → Started D d s d') fun _ _ => True) := by
  have hd : Entered D d d := .inl (.refl d)
  refine .call hd fun x d' hx => ?_
  obtain ⟨hx | ⟨text, hx⟩, rfl⟩ := hx
  · subst hx
    cases hc : d'.current with
    | none => exact install_upholds (.blank hc)
    | some f =>
      obtain ⟨history, synced⟩ := f
      cases history with
      | nil => exact .done hd fun s h => by cases h
      | cons r older =>
        change Upholds _ _ (match D.accept r.document with
          | .error e => .done (.error (.refused e))
          | .ok none => .done (.ok ⟨r.document, r :: older, false⟩)
          | .ok (some document) => install D document (r :: older)) _ _
        cases ha : D.accept r.document with
        | error e => exact .done hd fun s h => by cases h
        | ok document =>
          cases document with
          | none =>
            refine .done hd fun s h => ?_
            cases h
            exact .found hc ha
          | some document => exact install_upholds (.migrated hc ha)
  · subst hx
    exact .done hd fun s h => by cases h

end Outcomes

end Document
end Mesh
