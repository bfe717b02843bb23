import Mesh.Lib.Document
import Mesh.Lib.Runs

/-!
# Mesh.Lib.DocumentRuns

The store of one document in its surroundings: every call can fail, and the process and the power can go
at any point.

* `Step.change` says once what a step does.
* `Step.sound` is what every step keeps: files are whole, and an open store holds what its name stands
  for. `Step.extends` is what no step takes back.
* `Lineage` tells how a document came about, so that a property of documents is carried from an early
  revision to a late one by looking at single operations.
-/

namespace Mesh
namespace Document

open Program

/-! ## The store and its surroundings -/

/-- The directory, and the process that has the store open, if there is one: the store is locked. -/
structure World (δ ω : Type) where
  disk : Disk (Revision δ ω)
  process : Option (Held δ ω)

/-- What happens, with the answer; a call in whose middle the process dies is not answered. -/
inductive Event (ε ω κ α : Type) where
  | opens
  | updates (o : ω) (answer : Option (Except (Error ε) α))
  | asks (q : κ) (answer : Option (Except (Error ε) α))
  | checks (answer : Option (Except (Error ε) Unit))
  | closes
  | dies
  | losesPower

section Steps

variable {δ ε ω κ α : Type}

inductive Step [DecidableEq δ] (D : Design δ ε ω κ α) : World δ ω → Event ε ω κ α → World δ ω → Prop where
  | opens {d d' : Disk (Revision δ ω)} {r : Except (Error ε) (Held δ ω)} :
      Exec Disk.does (start D) d (.ended (.ok r)) d' → Step D ⟨d, none⟩ .opens ⟨d', r.toOption⟩
  | opensDying {d d' : Disk (Revision δ ω)} :
      Exec Disk.does (start D) d .crashed d' → Step D ⟨d, none⟩ .opens ⟨d', none⟩
  | updates {o : ω} {s s' : Held δ ω} {d d' : Disk (Revision δ ω)} {r : Except (Error ε) α} :
      Exec Disk.does (update D o s) d (.ended (.ok (r, s'))) d' →
      Step D ⟨d, some s⟩ (.updates o (some r)) ⟨d', some s'⟩
  | updatesDying {o : ω} {s : Held δ ω} {d d' : Disk (Revision δ ω)} :
      Exec Disk.does (update D o s) d .crashed d' → Step D ⟨d, some s⟩ (.updates o none) ⟨d', none⟩
  | asks {q : κ} {s s' : Held δ ω} {d d' : Disk (Revision δ ω)} {r : Except (Error ε) α} :
      Exec Disk.does (ask D q s) d (.ended (.ok (r, s'))) d' →
      Step D ⟨d, some s⟩ (.asks q (some r)) ⟨d', some s'⟩
  | asksDying {q : κ} {s : Held δ ω} {d d' : Disk (Revision δ ω)} :
      Exec Disk.does (ask D q s) d .crashed d' → Step D ⟨d, some s⟩ (.asks q none) ⟨d', none⟩
  | checks {s s' : Held δ ω} {d d' : Disk (Revision δ ω)} {r : Except (Error ε) Unit} :
      Exec Disk.does (checkReadiness D s) d (.ended (.ok (r, s'))) d' →
      Step D ⟨d, some s⟩ (.checks (some r)) ⟨d', some s'⟩
  | checksDying {s : Held δ ω} {d d' : Disk (Revision δ ω)} :
      Exec Disk.does (checkReadiness D s) d .crashed d' → Step D ⟨d, some s⟩ (.checks none) ⟨d', none⟩
  /-- a store that is closed makes up for its barrier if it can, and is gone in any case -/
  | closes {s : Held δ ω} {d d' : Disk (Revision δ ω)} {o : Ending Empty (Except (Error ε) Unit × Held δ ω)} :
      Exec Disk.does (checkReadiness D s) d o d' → Step D ⟨d, some s⟩ .closes ⟨d', none⟩
  | dies {d : Disk (Revision δ ω)} {p : Option (Held δ ω)} : Step D ⟨d, p⟩ .dies ⟨d, none⟩
  | losesPower {d : Disk (Revision δ ω)} {p : Option (Held δ ω)} {f : Option (File (Revision δ ω))} :
      d.Survives f → Step D ⟨d, p⟩ .losesPower ⟨⟨none, f, []⟩, none⟩

/-- A store that is closed, on a directory with no file or with one that is safe. -/
inductive Initial : World δ ω → Prop where
  | empty : Initial ⟨⟨none, none, []⟩, none⟩
  | found (document : δ) : Initial ⟨⟨none, some ⟨[⟨document, none⟩], true⟩, []⟩, none⟩

abbrev Reachable [DecidableEq δ] (D : Design δ ε ω κ α) : World δ ω → Prop := Runs.Reachable Initial (Step D)

/-- What a step does, apart from the answers and from a loss of power. -/
inductive Change (D : Design δ ε ω κ α) : World δ ω → Event ε ω κ α → World δ ω → Prop where
  /-- the process is gone, or still holds what it held -/
  | stays {d d' : Disk (Revision δ ω)} {p p' : Option (Held δ ω)} {e : Event ε ω κ α} : d.Stays d' →
      (∀ s', p' = some s' → ∃ s, p = some s ∧ s.Stays s' d' ∧
        (s'.document = s.document ∨ ∃ o r, e = .updates o r ∧ s'.document = D.leaves o s.document)) →
      Change D ⟨d, p⟩ e ⟨d', p'⟩
  | starts {d d' : Disk (Revision δ ω)} {s : Held δ ω} : Started D d s d' →
      Change D ⟨d, none⟩ .opens ⟨d', some s⟩
  | enters {d d' : Disk (Revision δ ω)} {history : List (Revision δ ω)} : Installs D d history →
      d.Wrote history d' → Change D ⟨d, none⟩ .opens ⟨d', none⟩
  | writes {d d' : Disk (Revision δ ω)} {s : Held δ ω} {p' : Option (Held δ ω)} {o : ω} {a : α} {next : δ}
      {r : Option (Except (Error ε) α)} :
      D.apply o s.document = .ok (a, next) → d.Wrote (⟨next, some o⟩ :: s.history) d' →
      (∀ s', p' = some s' → s'.document = next ∧ s'.history = ⟨next, some o⟩ :: s.history ∧
        (s'.pending = false → d'.unsynced = [])) →
      Change D ⟨d, some s⟩ (.updates o r) ⟨d', p'⟩

variable {D : Design δ ε ω κ α} {w w' : World δ ω} {e : Event ε ω κ α}

theorem Exec.ended_of_upholds {σ Call β : Type} {Answer : Call → Type}
    {does : σ → (c : Call) → Answer c → σ → Prop} {I : σ → Prop} {p : Program Call Answer Empty β} {s s' : σ}
    {K : β → σ → Prop} {b : β} (h : Upholds does I p s (Ends K fun _ _ => True))
    (he : Exec does p s (.ended (.ok b)) s') : I s' ∧ K b s' := ⟨(h _ _ he).1, (h _ _ he).2 _ rfl⟩

theorem Outcome.change {o : ω} {s s' : Held δ ω} {d d' : Disk (Revision δ ω)} {r : Except (Error ε) α}
    (h : Outcome D o s d r s' d') : Change D ⟨d, some s⟩ (.updates o (some r)) ⟨d', some s'⟩ := by
  cases h with
  | failed hd hs hdoc =>
    refine .stays hd fun _ h => ?_
    cases h
    exact ⟨s, rfl, hs, hdoc.imp_right fun h => ⟨o, _, rfl, h⟩⟩
  | unchanged _ hd hs _ hdoc =>
    refine .stays hd fun _ h => ?_
    cases h
    exact ⟨s, rfl, hs, .inr ⟨o, _, rfl, hdoc⟩⟩
  | uncertain happly _ hw =>
    refine .writes happly hw fun _ h => ?_
    cases h
    exact ⟨rfl, rfl, by simp⟩
  | committed happly hc hu =>
    refine .writes happly ⟨hc, by simp [hu]⟩ fun _ h => ?_
    cases h
    exact ⟨rfl, rfl, fun _ => hu⟩

theorem Touched.change {o : ω} {s : Held δ ω} {d d' : Disk (Revision δ ω)} (h : Touched D o s d d') :
    Change D ⟨d, some s⟩ (.updates o none) ⟨d', none⟩ := by
  obtain h | ⟨a, next, happly, hw⟩ := h
  · exact .stays h fun _ h => by cases h
  · exact .writes happly hw fun _ h => by cases h

theorem Entered.change {d d' : Disk (Revision δ ω)} (h : Entered D d d') :
    Change D ⟨d, none⟩ .opens ⟨d', none⟩ := by
  obtain h | ⟨history, hi, hw⟩ := h
  · exact .stays h fun _ h => by cases h
  · exact .enters hi hw

/-- Every step is a change, or the power is lost. -/
theorem Step.change [DecidableEq δ] (h : Step D w e w') :
    Change D w e w' ∨ ∃ f, e = .losesPower ∧ w.disk.Survives f ∧ w' = ⟨⟨none, f, []⟩, none⟩ := by
  cases h with
  | losesPower hf => exact .inr ⟨_, rfl, hf, rfl⟩
  | opens he =>
    rename_i r
    obtain ⟨hi, hs⟩ := Exec.ended_of_upholds (start_upholds _) he
    cases r with
    | ok s => exact .inl (.starts (hs s rfl))
    | error _ => exact .inl (Entered.change hi)
  | opensDying he => exact .inl (Entered.change (start_upholds _ _ _ he).1)
  | updates he => exact .inl (Exec.ended_of_upholds (update_outcome _ _ _) he).2.change
  | updatesDying he => exact .inl (Touched.change (update_outcome _ _ _ _ _ he).1)
  | asks he =>
    obtain ⟨hi, hs, hdoc, -⟩ := Exec.ended_of_upholds (ask_upholds _ _ _) he
    refine .inl (.stays hi fun _ h => ?_)
    cases h
    exact ⟨_, rfl, hs, .inl hdoc⟩
  | asksDying he => exact .inl (.stays (ask_upholds _ _ _ _ _ he).1 fun _ h => by cases h)
  | checks he =>
    obtain ⟨hi, hs, hdoc, -⟩ := Exec.ended_of_upholds (checkReadiness_upholds _ _) he
    refine .inl (.stays hi fun _ h => ?_)
    cases h
    exact ⟨_, rfl, hs, .inl hdoc⟩
  | checksDying he => exact .inl (.stays (checkReadiness_upholds _ _ _ _ he).1 fun _ h => by cases h)
  | closes he => exact .inl (.stays (checkReadiness_upholds _ _ _ _ he).1 fun _ h => by cases h)
  | dies => exact .inl (.stays (.refl _) fun _ h => by cases h)

/-! ## What every run keeps -/

/-- What is on the disk is whole, and an open store holds what its name stands for. -/
structure Sound (w : World δ ω) : Prop where
  synced : ∀ f, some f ∈ w.disk.entries → f.synced = true
  held : ∀ s, w.process = some s → w.disk.current = some ⟨s.history, true⟩

theorem Sound.initial (h : Initial w) : Sound w := by
  cases h <;> exact ⟨by simp [Disk.entries], by simp⟩

theorem Disk.Wrote.synced {ρ : Type} {history : List ρ} {d d' : Disk ρ} (h : d.Wrote history d')
    (hd : ∀ f, some f ∈ d.entries → f.synced = true) {f : File ρ} (hf : some f ∈ d'.entries) :
    f.synced = true := by
  obtain he | he := List.mem_cons.mp hf
  · cases h.current.symm.trans he.symm
    rfl
  · exact hd f (h.unsynced he)

/-- Nothing that is found after a loss of power is torn where every file was synced. -/
theorem Disk.Survives.mem {ρ : Type} {d : Disk ρ} {f : Option (File ρ)} (h : d.Survives f)
    (hd : ∀ f, some f ∈ d.entries → f.synced = true) : f ∈ d.entries := by
  cases h with
  | absent h => exact h
  | whole h =>
    rename_i f
    have := hd f h
    rwa [show (⟨f.history, true⟩ : File ρ) = f by rw [← this]]
  | torn h hs => cases (hd _ h).symm.trans hs

theorem Change.sound (h : Change D w e w') (hw : Sound w) : Sound w' := by
  cases h with
  | stays hd hp =>
    refine ⟨fun f hf => hw.synced f (hd.subset hf), fun s' hs' => ?_⟩
    obtain ⟨s, hs, hst, -⟩ := hp s' hs'
    rw [hd.current, hst.history]
    exact hw.held s hs
  | starts hs =>
    cases hs with
    | @found _ _ synced hc _ =>
      obtain rfl : synced = true := hw.synced _ (List.mem_cons.mpr (.inl hc.symm))
      exact ⟨hw.synced, fun _ h => by cases h; exact hc⟩
    | installed _ hc hu =>
      refine ⟨fun f hf => ?_, fun _ h => ?_⟩
      · rw [Disk.entries, hu, List.mem_singleton] at hf
        cases hc.symm.trans hf.symm
        rfl
      · cases h
        exact hc
  | enters _ hwrote => exact ⟨fun f hf => hwrote.synced hw.synced hf, fun _ h => by cases h⟩
  | writes _ hwrote hp =>
    refine ⟨fun f hf => hwrote.synced hw.synced hf, fun s' hs' => ?_⟩
    rw [(hp s' hs').2.1]
    exact hwrote.current

theorem Step.sound [DecidableEq δ] (h : Step D w e w') (hw : Sound w) : Sound w' := by
  obtain h | ⟨f, -, hf, rfl⟩ := h.change
  · exact h.sound hw
  · refine ⟨fun g hg => hw.synced g ?_, fun _ h => by cases h⟩
    rw [Disk.entries, List.mem_singleton] at hg
    exact hg ▸ hf.mem hw.synced

theorem Reachable.sound [DecidableEq δ] (h : Reachable D w) : Sound w :=
  h.invariant (fun _ => .initial) fun _ _ _ _ hw hs => hs.sound hw

/-! ## What no step takes back -/

/-- Whatever comes back after a loss of power was made from `history`, and so was what is in memory. -/
structure Extends (history : List (Revision δ ω)) (w : World δ ω) : Prop where
  entries : ∀ e ∈ w.disk.entries, ∃ f, e = some f ∧ history <:+ f.history
  held : ∀ s, w.process = some s → history <:+ s.history

variable {history : List (Revision δ ω)}

theorem Extends.wrote {d d' : Disk (Revision δ ω)} {p : Option (Held δ ω)} {history' : List (Revision δ ω)}
    (h : Extends history ⟨d, p⟩) (hh : history <:+ history') (hw : d.Wrote history' d') :
    ∀ e ∈ d'.entries, ∃ f, e = some f ∧ history <:+ f.history := by
  intro e he
  obtain he | he := List.mem_cons.mp he
  · exact ⟨_, he.trans hw.current, hh⟩
  · exact h.entries e (hw.unsynced he)

theorem Installs.extends {d : Disk (Revision δ ω)} {p : Option (Held δ ω)} {history' : List (Revision δ ω)}
    (hi : Installs D d history') (h : Extends history ⟨d, p⟩) : history <:+ history' := by
  obtain ⟨f, hf, hh⟩ := h.entries d.current (by simp [Disk.entries])
  cases hi with
  | blank hc => cases hc.symm.trans hf
  | migrated hc _ =>
    cases hc.symm.trans hf
    exact hh.trans (List.suffix_cons _ _)

theorem Change.extends (h : Change D w e w') (hw : Extends history w) : Extends history w' := by
  cases h with
  | stays hd hp =>
    refine ⟨fun e he => hw.entries e (hd.subset he), fun s' hs' => ?_⟩
    obtain ⟨s, hs, hst, -⟩ := hp s' hs'
    rw [hst.history]
    exact hw.held s hs
  | starts hs =>
    cases hs with
    | found hc _ =>
      obtain ⟨f, hf, hh⟩ := hw.entries _ List.mem_cons_self
      cases hc.symm.trans hf
      exact ⟨hw.entries, fun _ h => by cases h; exact hh⟩
    | installed hi hc hu =>
      have hh := hi.extends hw
      exact ⟨hw.wrote hh ⟨hc, by simp [hu]⟩, fun _ h => by cases h; exact hh⟩
  | enters hi hwrote => exact ⟨hw.wrote (hi.extends hw) hwrote, fun _ h => by cases h⟩
  | writes _ hwrote hp =>
    refine ⟨hw.wrote ((hw.held _ rfl).trans (List.suffix_cons _ _)) hwrote, fun s' hs' => ?_⟩
    rw [(hp s' hs').2.1]
    exact (hw.held _ rfl).trans (List.suffix_cons _ _)

theorem Step.extends [DecidableEq δ] (h : Step D w e w') (hs : Sound w) (hw : Extends history w) :
    Extends history w' := by
  obtain h | ⟨f, -, hf, rfl⟩ := h.change
  · exact h.extends hw
  · refine ⟨fun e he => hw.entries e ?_, fun _ h => by cases h⟩
    rw [Disk.entries, List.mem_singleton] at he
    exact he ▸ hf.mem hs.synced

/-- What an open store holds stays where no other file can come back. -/
theorem Extends.of_synced {s : Held δ ω} (hw : Sound w) (hs : w.process = some s) (hu : w.disk.unsynced = []) :
    Extends s.history w := by
  refine ⟨fun e he => ?_, fun s' hs' => ?_⟩
  · rw [Disk.entries, hu, List.mem_singleton, hw.held s hs] at he
    exact ⟨_, he, List.suffix_refl _⟩
  · cases hs.symm.trans hs'
    exact List.suffix_refl _

theorem Extends.later [DecidableEq δ] {w₁ w₂ : World δ ω} (hr : Reachable D w₁) (h : Extends history w₁)
    (hl : Runs.Later (Step D) w₁ w₂) : Extends history w₂ :=
  hl.invariant (fun _ _ _ h => h) hr h fun _ _ _ hr hw hs => hs.extends (Reachable.sound hr) hw

/-- What is found under the name was made from `history`, and so was what is in memory. An older file may
still come back with a loss of power. -/
structure Continues (history : List (Revision δ ω)) (w : World δ ω) : Prop where
  current : ∃ f, w.disk.current = some f ∧ history <:+ f.history
  held : ∀ s, w.process = some s → history <:+ s.history

theorem Installs.continues {d : Disk (Revision δ ω)} {p : Option (Held δ ω)} {history' : List (Revision δ ω)}
    (hi : Installs D d history') (h : Continues history ⟨d, p⟩) : history <:+ history' := by
  obtain ⟨f, hf, hh⟩ := h.current
  cases hi with
  | blank hc => cases hc.symm.trans hf
  | migrated hc _ =>
    cases hc.symm.trans hf
    exact hh.trans (List.suffix_cons _ _)

theorem Change.continues (h : Change D w e w') (hw : Continues history w) : Continues history w' := by
  obtain ⟨f, hf, hh⟩ := hw.current
  cases h with
  | stays hd hp =>
    refine ⟨⟨f, hd.current.trans hf, hh⟩, fun s' hs' => ?_⟩
    obtain ⟨s, hs, hst, -⟩ := hp s' hs'
    rw [hst.history]
    exact hw.held s hs
  | starts hs =>
    cases hs with
    | found hc _ =>
      cases hc.symm.trans hf
      exact ⟨⟨_, hc, hh⟩, fun _ h => by cases h; exact hh⟩
    | installed hi hc _ =>
      have hh := hi.continues hw
      exact ⟨⟨_, hc, hh⟩, fun _ h => by cases h; exact hh⟩
  | enters hi hwrote => exact ⟨⟨_, hwrote.current, hi.continues hw⟩, fun _ h => by cases h⟩
  | writes _ hwrote hp =>
    refine ⟨⟨_, hwrote.current, (hw.held _ rfl).trans (List.suffix_cons _ _)⟩, fun s' hs' => ?_⟩
    rw [(hp s' hs').2.1]
    exact (hw.held _ rfl).trans (List.suffix_cons _ _)

/-- The power goes only where what is found under the name is safe. -/
def Calm (w : World δ ω) : Event ε ω κ α → Prop
  | .losesPower => w.disk.unsynced = []
  | _ => True

instance (w : World δ ω) : (e : Event ε ω κ α) → Decidable (Calm w e)
  | .losesPower => decidable_of_iff (w.disk.unsynced.isEmpty = true) List.isEmpty_iff
  | .opens | .updates _ _ | .asks _ _ | .checks _ | .closes | .dies => isTrue trivial

theorem Step.continues [DecidableEq δ] (h : Step D w e w') (hs : Sound w) (hc : Calm w e)
    (hw : Continues history w) : Continues history w' := by
  obtain h | ⟨f, rfl, hf, rfl⟩ := h.change
  · exact h.continues hw
  · have hu : w.disk.unsynced = [] := hc
    have hmem := hf.mem hs.synced
    rw [Disk.entries, hu, List.mem_singleton] at hmem
    obtain ⟨g, hg, hh⟩ := hw.current
    exact ⟨⟨g, hmem.trans hg, hh⟩, fun _ h => by cases h⟩

/-! ## How a document came about -/

/-- The histories of a store whose operations leave the document in memory alone. -/
inductive Lineage (D : Design δ ε ω κ α) : List (Revision δ ω) → Prop where
  | found (document : δ) : Lineage D [⟨document, none⟩]
  | written {r : Revision δ ω} {older : List (Revision δ ω)} {o : ω} {a : α} {next : δ} :
      Lineage D (r :: older) → D.accept r.document = .ok none → D.apply o r.document = .ok (a, next) →
      Lineage D (⟨next, some o⟩ :: r :: older)
  | migrated {r : Revision δ ω} {older : List (Revision δ ω)} {document : δ} :
      Lineage D (r :: older) → D.accept r.document = .ok (some document) →
      Lineage D (⟨document, none⟩ :: r :: older)

/-- A store whose operations work on a copy and make only documents that can be opened again. -/
structure Lawful (D : Design δ ε ω κ α) : Prop where
  isolating : ∀ o document, D.leaves o document = document
  blank : D.accept D.blank = .ok none
  apply : ∀ o document a next, D.accept document = .ok none → D.apply o document = .ok (a, next) →
    D.accept next = .ok none
  migrated : ∀ document next, D.accept document = .ok (some next) → D.accept next = .ok none

/-- Every file has a lineage, and an open store holds the document it has written, which passes its
checks. -/
structure Traced (D : Design δ ε ω κ α) (w : World δ ω) : Prop where
  entries : ∀ f, some f ∈ w.disk.entries → Lineage D f.history
  held : ∀ s, w.process = some s → Lineage D s.history ∧ D.accept s.document = .ok none ∧
    ∃ r older, s.history = r :: older ∧ r.document = s.document

theorem Traced.initial (h : Initial w) : Traced D w := by
  cases h with
  | empty => exact ⟨by simp [Disk.entries], by simp⟩
  | found document =>
    refine ⟨fun f hf => ?_, by simp⟩
    obtain rfl : f = ⟨[⟨document, none⟩], true⟩ := by simpa [Disk.entries] using hf
    exact .found document

theorem Disk.Wrote.lineage {history : List (Revision δ ω)} {d d' : Disk (Revision δ ω)}
    (h : d.Wrote history d') (hh : Lineage D history)
    (hd : ∀ f, some f ∈ d.entries → Lineage D f.history) {f : File (Revision δ ω)}
    (hf : some f ∈ d'.entries) : Lineage D f.history := by
  obtain he | he := List.mem_cons.mp hf
  · cases h.current.symm.trans he.symm
    exact hh
  · exact hd f (h.unsynced he)

theorem Installs.lineage {d : Disk (Revision δ ω)} {history : List (Revision δ ω)}
    (h : Installs D d history) (hd : ∀ f, some f ∈ d.entries → Lineage D f.history) : Lineage D history := by
  cases h with
  | blank _ => exact .found _
  | migrated hc ha => exact .migrated (hd _ (List.mem_cons.mpr (.inl hc.symm))) ha

theorem Installs.accept {d : Disk (Revision δ ω)} {r : Revision δ ω} {older : List (Revision δ ω)}
    (h : Installs D d (r :: older)) (hD : Lawful D) : D.accept r.document = .ok none := by
  cases h with
  | blank _ => exact hD.blank
  | migrated _ ha => exact hD.migrated _ _ ha

theorem Change.traced (h : Change D w e w') (hD : Lawful D) (hw : Traced D w) : Traced D w' := by
  cases h with
  | stays hd hp =>
    refine ⟨fun f hf => hw.entries f (hd.subset hf), fun s' hs' => ?_⟩
    obtain ⟨s, hs, hst, hdoc⟩ := hp s' hs'
    have hdoc' : s'.document = s.document := by
      obtain h | ⟨o, r, -, h⟩ := hdoc
      · exact h
      · exact h.trans (hD.isolating o _)
    rw [hst.history, hdoc']
    exact hw.held s hs
  | starts hs =>
    cases hs with
    | found hc ha =>
      refine ⟨hw.entries, fun _ h => ?_⟩
      cases h
      exact ⟨hw.entries _ (List.mem_cons.mpr (.inl hc.symm)), ha, _, _, rfl, rfl⟩
    | installed hi hc hu =>
      have hl := hi.lineage hw.entries
      refine ⟨fun f hf => Disk.Wrote.lineage ⟨hc, by simp [hu]⟩ hl hw.entries hf, fun _ h => ?_⟩
      cases h
      exact ⟨hl, hi.accept hD, _, _, rfl, rfl⟩
  | enters hi hwrote =>
    exact ⟨fun f hf => hwrote.lineage (hi.lineage hw.entries) hw.entries hf, fun _ h => by cases h⟩
  | @writes _ _ s _ o a next _ happly hwrote hp =>
    obtain ⟨hl, ha, r, older, hh, hr⟩ := hw.held s rfl
    have hnext : Lineage D (⟨next, some o⟩ :: s.history) := by
      rw [hh] at hl ⊢
      rw [← hr] at ha happly
      exact .written hl ha happly
    refine ⟨fun f hf => hwrote.lineage hnext hw.entries hf, fun s' hs' => ?_⟩
    obtain ⟨hdoc, hhist, -⟩ := hp s' hs'
    rw [hhist, hdoc]
    exact ⟨hnext, hD.apply o _ a next ha happly, _, _, rfl, rfl⟩

theorem Reachable.traced [DecidableEq δ] (hD : Lawful D) (h : Reachable D w) : Traced D w := by
  refine h.invariant (fun _ => .initial) fun w e w' hr hw hs => ?_
  obtain h | ⟨f, -, hf, rfl⟩ := hs.change
  · exact h.traced hD hw
  · refine ⟨fun g hg => hw.entries g ?_, fun _ h => by cases h⟩
    rw [Disk.entries, List.mem_singleton] at hg
    exact hg ▸ hf.mem (Reachable.sound hr).synced

/-- A property of a document is carried to every document made from it, as long as the operations since
then are of a kind that keeps it. -/
theorem Lineage.carry {P : δ → Prop} {Q : ω → Prop}
    (hstep : ∀ o document a next, Q o → D.accept document = .ok none → P document →
      D.apply o document = .ok (a, next) → P next)
    (hmigrated : ∀ document next, D.accept document = .ok (some next) → P document → P next)
    {r : Revision δ ω} {older : List (Revision δ ω)} (hr : P r.document) :
    ∀ since : List (Revision δ ω), Lineage D (since ++ r :: older) →
      (∀ v ∈ since, ∀ o, v.origin = some o → Q o) →
      ∀ v rest, since ++ r :: older = v :: rest → P v.document := by
  intro since
  induction since with
  | nil =>
    rintro - - v rest ⟨⟩
    exact hr
  | cons u since ih =>
    rintro hl hq v rest ⟨⟩
    obtain ⟨v', rest', hv'⟩ : ∃ v' rest', since ++ r :: older = v' :: rest' := by
      cases since <;> exact ⟨_, _, rfl⟩
    have hl' : Lineage D (u :: v' :: rest') := by rwa [List.cons_append, hv'] at hl
    have hq' : ∀ v ∈ since, ∀ o, v.origin = some o → Q o := fun v hv => hq v (by simp [hv])
    cases hl' with
    | written hl' ha happly =>
      exact hstep _ _ _ _ (hq _ List.mem_cons_self _ rfl) ha (ih (hv' ▸ hl') hq' v' rest' hv') happly
    | migrated hl' ha => exact hmigrated _ _ ha (ih (hv' ▸ hl') hq' v' rest' hv')

/-- What is in memory was made from what was in memory before: a property is carried over unless an
operation in between may have broken it. -/
theorem Traced.carry {P : δ → Prop} {Q : ω → Prop} {w₁ w₂ : World δ ω} {s₁ s₂ : Held δ ω}
    (hstep : ∀ o document a next, Q o → D.accept document = .ok none → P document →
      D.apply o document = .ok (a, next) → P next)
    (hmigrated : ∀ document next, D.accept document = .ok (some next) → P document → P next)
    (h₁ : Traced D w₁) (h₂ : Traced D w₂) (hs₁ : w₁.process = some s₁) (hs₂ : w₂.process = some s₂)
    {since : List (Revision δ ω)} (hsince : s₂.history = since ++ s₁.history)
    (hq : ∀ v ∈ since, ∀ o, v.origin = some o → Q o) (hP : P s₁.document) : P s₂.document := by
  obtain ⟨-, -, r, older, hh, hr⟩ := h₁.held s₁ hs₁
  obtain ⟨hl, -, v, rest, hh₂, hv⟩ := h₂.held s₂ hs₂
  rw [← hv]
  rw [hh] at hsince
  exact Lineage.carry hstep hmigrated (hr ▸ hP) since (hsince ▸ hl) hq v rest (hsince ▸ hh₂)

/-- The document in memory was made from the one of `w₁`, and an operation of the kind is among those that
made it. -/
def Since (Q : ω → Prop) (w₁ w₂ : World δ ω) : Prop :=
  ∃ s₁ s₂ since, w₁.process = some s₁ ∧ w₂.process = some s₂ ∧ s₂.history = since ++ s₁.history ∧
    ∃ v ∈ since, ∃ o ∈ v.origin, Q o

/-- A property of the document in memory lasts until an operation of a kind that may break it. -/
theorem Reachable.carry [DecidableEq δ] {P : δ → Prop} {Q : ω → Prop} {w₁ w₂ : World δ ω} {s₁ s₂ : Held δ ω}
    (hD : Lawful D)
    (hstep : ∀ o document a next, ¬ Q o → D.accept document = .ok none → P document →
      D.apply o document = .ok (a, next) → P next)
    (hmigrated : ∀ document next, D.accept document = .ok (some next) → P document → P next)
    (hr₁ : Reachable D w₁) (hr₂ : Reachable D w₂) (hp₁ : w₁.process = some s₁) (hp₂ : w₂.process = some s₂)
    (hs : s₁.history <:+ s₂.history) (h : P s₁.document) : P s₂.document ∨ Since Q w₁ w₂ := by
  obtain ⟨since, hsince⟩ := hs
  by_cases hnew : ∃ v ∈ since, ∃ o ∈ v.origin, Q o
  · exact .inr ⟨s₁, s₂, since, hp₁, hp₂, hsince.symm, hnew⟩
  · exact .inl (Traced.carry hstep hmigrated (hr₁.traced hD) (hr₂.traced hD) hp₁ hp₂ hsince.symm
      (fun v hv o ho hq => hnew ⟨v, hv, o, ho, hq⟩) h)

/-- Without a loss of power that undoes a replacement, memory only moves on. -/
theorem Reachable.suffix_of_calm [DecidableEq δ] {C : World δ ω → Event ε ω κ α → Prop}
    (hC : ∀ w e, C w e → Calm w e) {w₁ w₂ : World δ ω} {s₁ s₂ : Held δ ω} (hr₁ : Reachable D w₁)
    (hl : Runs.Later (Runs.Restrict (Step D) C) w₁ w₂) (hp₁ : w₁.process = some s₁)
    (hp₂ : w₂.process = some s₂) : s₁.history <:+ s₂.history := by
  have hstart : Continues s₁.history w₁ := by
    refine ⟨⟨_, (Reachable.sound hr₁).held _ hp₁, List.suffix_refl _⟩, fun s hs => ?_⟩
    cases hp₁.symm.trans hs
    exact List.suffix_refl _
  have hend : Continues s₁.history w₂ := hl.invariant (fun _ _ _ hs => hs.1) hr₁ hstart
    fun _ _ _ hr hc hs => hs.1.continues (Reachable.sound hr) (hC _ _ hs.2) hc
  exact hend.held _ hp₂

end Steps

/-! ## Runs that compute -/

/-- The call succeeds, or fails and changes as little as it can. -/
def Disk.answer {ρ : Type} (d : Disk ρ) (succeeds : Bool) : (c : Call ρ) → Option (c.Answer × Disk ρ)
  | .act (.write history) =>
    some (if succeeds then (.ok (), d.after (.write history))
      else (.error "failed", { d with temporary := some ⟨[], false⟩ }))
  | .act a => some (if succeeds then (.ok (), d.after a) else (.error "failed", d))
  | .read => some (if succeeds then .ok (d.current.map File.history) else .error "failed", d)

theorem Disk.answer_does {ρ : Type} (d : Disk ρ) (succeeds : Bool) (c : Call ρ) (x : c.Answer) (d' : Disk ρ)
    (h : d.answer succeeds c = some (x, d')) : d.does c x d' := by
  cases c with
  | read =>
    cases succeeds <;> cases h
    · exact ⟨.inr ⟨_, rfl⟩, rfl⟩
    · exact ⟨.inl rfl, rfl⟩
  | act a =>
    cases succeeds
    · cases a <;> cases h <;> first | exact .inr ⟨⟨_, rfl⟩, rfl⟩ | exact .inr ⟨⟨_, rfl⟩, .inl rfl⟩
    · cases a <;> cases h <;> exact .inl ⟨rfl, rfl⟩

/-- What is tried next, and which calls succeed; where the list ends before the calls do, the process
dies. -/
inductive Move (ω κ : Type) where
  | opens (succeeds : List Bool)
  | updates (o : ω) (succeeds : List Bool)
  | asks (q : κ) (succeeds : List Bool)
  | dies
  /-- the file that comes back: the visible one first, then those it replaced -/
  | losesPower (index : Nat)

section Play

variable {δ ε ω κ α : Type} [DecidableEq δ] {D : Design δ ε ω κ α} {w w' : World δ ω}

def World.move (D : Design δ ε ω κ α) (w : World δ ω) : Move ω κ → Option (Event ε ω κ α × World δ ω)
  | .opens succeeds =>
    match w.process, (start D).play Disk.answer succeeds w.disk with
    | none, some (.ended (.ok r), d') => some (.opens, ⟨d', r.toOption⟩)
    | none, some (.crashed, d') => some (.opens, ⟨d', none⟩)
    | _, _ => none
  | .updates o succeeds =>
    match w.process with
    | none => none
    | some s =>
      match (update D o s).play Disk.answer succeeds w.disk with
      | some (.ended (.ok (r, s')), d') => some (.updates o (some r), ⟨d', some s'⟩)
      | some (.crashed, d') => some (.updates o none, ⟨d', none⟩)
      | _ => none
  | .asks q succeeds =>
    match w.process with
    | none => none
    | some s =>
      match (ask D q s).play Disk.answer succeeds w.disk with
      | some (.ended (.ok (r, s')), d') => some (.asks q (some r), ⟨d', some s'⟩)
      | some (.crashed, d') => some (.asks q none, ⟨d', none⟩)
      | _ => none
  | .dies => some (.dies, ⟨w.disk, none⟩)
  | .losesPower index =>
    match w.disk.entries[index]? with
    | some none => some (.losesPower, ⟨⟨none, none, []⟩, none⟩)
    | some (some f) => some (.losesPower, ⟨⟨none, some ⟨f.history, true⟩, []⟩, none⟩)
    | none => none

theorem World.move_step {m : Move ω κ} {e : Event ε ω κ α} (h : w.move D m = some (e, w')) :
    Step D w e w' := by
  obtain ⟨d, p⟩ := w
  cases m with
  | opens succeeds =>
    cases p with
    | some s => simp [World.move] at h
    | none =>
      simp only [World.move] at h
      split at h
      · rename_i hplay
        cases h
        exact .opens (play_sound Disk.answer_does hplay)
      · rename_i hplay
        cases h
        exact .opensDying (play_sound Disk.answer_does hplay)
      · cases h
  | updates o succeeds =>
    cases p with
    | none => cases h
    | some s =>
      simp only [World.move] at h
      split at h
      · rename_i hplay
        cases h
        exact .updates (play_sound Disk.answer_does hplay)
      · rename_i hplay
        cases h
        exact .updatesDying (play_sound Disk.answer_does hplay)
      · cases h
  | asks q succeeds =>
    cases p with
    | none => cases h
    | some s =>
      simp only [World.move] at h
      split at h
      · rename_i hplay
        cases h
        exact .asks (play_sound Disk.answer_does hplay)
      · rename_i hplay
        cases h
        exact .asksDying (play_sound Disk.answer_does hplay)
      · cases h
  | dies =>
    cases h
    exact .dies
  | losesPower index =>
    simp only [World.move] at h
    split at h
    · rename_i hentry
      cases h
      exact .losesPower (.absent (List.mem_of_getElem? hentry))
    · rename_i hentry
      cases h
      exact .losesPower (.whole (List.mem_of_getElem? hentry))
    · cases h

/-- A run in which every step is allowed. -/
def World.run (D : Design δ ε ω κ α) (allowed : World δ ω → Event ε ω κ α → Bool) :
    World δ ω → List (Move ω κ) → Option (World δ ω)
  | w, [] => some w
  | w, m :: ms =>
    match w.move D m with
    | some (e, w') => if allowed w e then w'.run D allowed ms else none
    | none => none

theorem World.run_restricted {allowed : World δ ω → Event ε ω κ α → Bool} {C : World δ ω → Event ε ω κ α → Prop}
    {init : World δ ω → Prop} (hC : ∀ w e, allowed w e = true → C w e) {ms : List (Move ω κ)}
    (hw : Runs.Reachable init (Runs.Restrict (Step D) C) w) (h : w.run D allowed ms = some w') :
    Runs.Reachable init (Runs.Restrict (Step D) C) w' := by
  induction ms generalizing w with
  | nil =>
    cases h
    exact hw
  | cons m ms ih =>
    simp only [World.run] at h
    split at h
    · rename_i e w₁ hm
      split at h
      · rename_i ha
        exact ih (.next hw ⟨World.move_step hm, hC _ _ ha⟩) h
      · cases h
    · cases h

end Play

end Document
end Mesh
