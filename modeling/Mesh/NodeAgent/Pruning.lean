import Mathlib.Data.List.ReduceOption
import Mesh.NodeAgent.Disk
import Mesh.NodeAgent.Output

/-!
# Mesh.NodeAgent.Pruning

What the calls of an activation do to the output directory, and what pruning leaves there. `OutputDir.does` lets every
call fail, with any error; with `steady` the calls of a rollback succeed.

* `pruneVersionsBeforeActivation_spec`: pruning spares the version the link leads to, and where it succeeds it leaves
  one slot.
* `pruneVersionsBeforeActivation_done`: where no removal fails, it leaves one slot however it ends.
-/

namespace Mesh
namespace NodeAgent

open Output

/-! ## What the calls do -/

/-- The call failed. -/
def Output.Fails {α : Type} (x : Checked α) : Prop := ∃ e, x = .error e

namespace OutputDir

/-- The call makes the directory the new one, or fails and leaves it. -/
def Changes (o new : OutputDir) (x : Checked Unit) (o' : OutputDir) : Prop :=
  (x = .ok () ∧ o' = new) ∨ (Fails x ∧ o' = o)

/-- The answer of a call in the phase: with `steady`, a rollback gets no error. -/
def Answers {α : Type} (steady : Bool) (phase : Phase) (x : Checked α) : Prop :=
  steady = true → phase = .rollback → ∃ a, x = .ok a

/-- The answers a call can get, and the directory after it. -/
def does (steady : Bool) (o : OutputDir) : (c : FileCall) → c.Answer → OutputDir → Prop
  | .look, x, o' => (x = .ok o ∨ Fails x) ∧ o' = o
  | .makeRoot, x, o' => o.Changes { o with root := .directory } x o'
  -- the file is there before its content is
  | .writeMarker content, x, o' => o.Changes { o with marker := some (.file content) } x o' ∨
      (Fails x ∧ ∃ leaf, o' = { o with marker := some leaf })
  | .makeVersions, x, o' =>
    o.Changes { o with versionsDir := if o.versionsDir = .absent then .directory else o.versionsDir } x o'
  | .removeVersionFile version name, x, o' => ∃ f modified, o.folder? version = some f ∧
      o.Changes (o.withFolder version ⟨modified, f.files.filter fun e => e.1 ≠ name⟩) x o'
  | .removeVersion version, x, o' =>
    o.Changes (o.without version) x o' ∧ ∀ f, o.folder? version = some f → f.files ≠ [] → Fails x
  | .makeStage, x, o' => (∃ name modified, x = .ok name ∧ validStagingName name = true ∧ o.entry name = none ∧
      o' = o.addFolder name ⟨modified, []⟩) ∨ (Fails x ∧ o' = o)
  | .writeStaged stage name content, x, o' => ∃ f modified, o.folder? stage = some f ∧
      (o.Changes (o.withFolder stage ⟨modified, f.files ++ [(name, .file content)]⟩) x o' ∨
        (Fails x ∧ ∃ leaf, o' = o.withFolder stage ⟨modified, f.files ++ [(name, leaf)]⟩))
  | .removeStaged stage name, x, o' => ∃ f modified, o.folder? stage = some f ∧
      o.Changes (o.withFolder stage ⟨modified, f.files.filter fun e => e.1 ≠ name⟩) x o'
  -- files can be gone when the removal of others fails
  | .removeStage stage, x, o' => o.Changes (o.without stage) x o' ∨ (Fails x ∧ ∃ f, o' = o.withFolder stage f)
  -- a directory takes the place of an empty one
  | .publish stage version, x, o' => ∃ f, o.folder? stage = some f ∧
      o.Changes (((o.without version).without stage).addFolder version f) x o' ∧
      ∀ g, o.folder? version = some g → g.files ≠ [] → Fails x
  | .makeLink phase temporary _, x, o' =>
    o.Changes { o with others := temporary :: o.others } x o' ∧ Answers steady phase x
  | .renameLink phase temporary target, x, o' =>
    o.Changes { o with current := some (.symlink target), others := o.others.erase temporary } x o' ∧
      Answers steady phase x
  | .removeTemporary temporary, x, o' => o.Changes { o with others := o.others.erase temporary } x o'
  | .removeLink, x, o' => o.Changes { o with current := none } x o' ∧ Answers steady .rollback x
  | .generateBearer phase, x, o' => Answers steady phase x ∧ o' = o
  | .syncOutput phase, x, o' => Answers steady phase x ∧ o' = o
  | .reload phase, x, o' => Answers steady phase x ∧ o' = o
  -- what does not touch the directory
  | _, _, o' => o' = o

/-- The validator, the reloader and the syncs of the way forward. -/
def mayFail : FileCall → Bool
  | .validate _ | .reload .forward | .syncRoot | .syncVersions | .syncStage _ | .syncOutput .forward => true
  | _ => false

/-- The answers where nothing else fails that can succeed. -/
def orderly (o : OutputDir) (c : FileCall) (x : c.Answer) (o' : OutputDir) : Prop :=
  does true o c x o' ∧ (mayFail c = false → Fails x → ∀ a o'', ¬ does true o c (.ok a) o'')

end OutputDir

namespace Output

open Program OutputDir

variable {steady : Bool} {α β : Type}

/-! ## Rules -/

/-- A call that leaves the directory alone. -/
def Idle (steady : Bool) (c : FileCall) : Prop := ∀ o x o', does steady o c x o' → o' = o

variable {c : FileCall} {I : OutputDir → Prop} {new : OutputDir} {versions : List RetainedVersion}
  {target : Option String} {limit : Nat}

theorem idle_bind {o : OutputDir} {f : c.Value → Act β} {Q : Checked β → OutputDir → Prop} (hc : Idle steady c)
    (hI : I o) (hok : ∀ a, does steady o c (.ok a) o → Upholds (does steady) I (f a) o Q)
    (herr : ∀ e, Q (.error e) o) : Upholds (does steady) I (perform c >>= f) o Q := by
  refine .ask_bind hI (fun a o' h => ?_) fun e o' h => ?_
  · obtain rfl := hc _ _ _ h
    exact hok a h
  · obtain rfl := hc _ _ _ h
    exact ⟨hI, herr e⟩

theorem idle_within_bind {context : String} {o : OutputDir} {f : c.Value → Act β}
    {Q : Checked β → OutputDir → Prop} (hc : Idle steady c) (hI : I o)
    (hok : ∀ a, does steady o c (.ok a) o → Upholds (does steady) I (f a) o Q) (herr : ∀ e, Q (.error e) o) :
    Upholds (does steady) I (within context (perform c) >>= f) o Q := by
  refine .mapFail_ask_bind hI (fun a o' h => ?_) fun e o' h => ?_
  · obtain rfl := hc _ _ _ h
    exact hok a h
  · obtain rfl := hc _ _ _ h
    exact ⟨hI, herr _⟩

theorem idle_look : Idle steady .look := fun _ _ _ h => h.2

/-- What was looked at is the directory. -/
theorem look_ok {o o' seen : OutputDir} (h : does steady o .look (.ok seen) o') : seen = o := by
  obtain ⟨h | ⟨e, h⟩, -⟩ := h
  · exact Except.ok.inj h
  · cases h

theorem Changes.of_ok {o o' : OutputDir} {u : Unit} (h : o.Changes new (.ok u) o') : o' = new := by
  obtain ⟨-, rfl⟩ | ⟨⟨e, he⟩, -⟩ := h
  · rfl
  · cases he

theorem Changes.of_error {o o' : OutputDir} {e : AgentError} (h : o.Changes new (.error e) o') : o' = o := by
  obtain ⟨he, -⟩ | ⟨-, rfl⟩ := h
  · cases he
  · rfl

theorem Changes.keeps {o o' : OutputDir} {x : Checked Unit} (h : o.Changes new x o') (hI : I o) (hnew : I new) :
    I o' := by
  obtain ⟨-, rfl⟩ | ⟨-, rfl⟩ := h
  · exact hnew
  · exact hI

/-! ## Entries -/

section Entries

variable {o : OutputDir} {name other : String} {f : Folder}

theorem entry_withFolder_ne (h : other ≠ name) : (o.withFolder name f).entry other = o.entry other :=
  Keyed.lookup_put_ne (x := (name, some f)) h

theorem entry_without_ne (h : other ≠ name) : (o.without name).entry other = o.entry other :=
  Keyed.lookup_drop_ne h

theorem entry_addFolder_ne (h : other ≠ name) : (o.addFolder name f).entry other = o.entry other := by
  unfold OutputDir.entry OutputDir.addFolder
  rw [Keyed.lookup_cons, if_neg h.symm]

theorem folder_addFolder : (o.addFolder name f).folder? name = some f := by
  unfold OutputDir.folder? OutputDir.entry OutputDir.addFolder
  rw [Keyed.lookup_cons, if_pos rfl]
  rfl

theorem folder_withFolder {g : Folder} (h : o.folder? name = some g) :
    (o.withFolder name f).folder? name = some f := by
  unfold OutputDir.folder? at h ⊢
  obtain ⟨e, he, -⟩ := Option.bind_eq_some_iff.mp h
  have hput : (o.withFolder name f).entry name = some (name, some f) := Keyed.lookup_put_self (x := (name, some f)) he
  rw [hput]
  rfl

/-- The names of the entries below `versions`. -/
def names (o : OutputDir) : List String := o.versions.map Prod.fst

theorem names_withFolder : names (o.withFolder name f) = names o := Keyed.map_key_put

theorem mem_names_without : other ∈ names (o.without name) ↔ other ∈ names o ∧ other ≠ name := by
  simp only [names, OutputDir.without, List.mem_map, Keyed.mem_drop]
  constructor
  · rintro ⟨e, ⟨he, hne⟩, rfl⟩
    exact ⟨⟨e, he, rfl⟩, hne⟩
  · rintro ⟨⟨e, he, rfl⟩, hne⟩
    exact ⟨e, ⟨he, hne⟩, rfl⟩

theorem names_addFolder : names (o.addFolder name f) = name :: names o := rfl

theorem mem_published : name ∈ o.published ↔ name ∈ names o ∧ validVersionName name = true := by
  simp [OutputDir.published, names]

theorem not_validVersionName (h : validStagingName name = true) : validVersionName name = false := by
  by_contra hc
  simp only [validStagingName, validVersionName, Bool.and_eq_true, beq_iff_eq, decide_eq_true_eq,
    Bool.not_eq_false] at h hc
  obtain ⟨⟨⟨⟨⟨⟨-, hr⟩, -⟩, -⟩, -⟩, -⟩, -⟩ := hc
  obtain ⟨⟨⟨hstem, -⟩, -⟩, -⟩ := h
  obtain ⟨rest, hrest⟩ := List.isPrefixOf_iff_prefix.mp hstem
  have hdot : stagingStem = '.' :: stagingStem.tail := by decide
  rw [← hrest, hdot, List.cons_append, List.take_succ_cons, List.cons.injEq] at hr
  exact absurd hr.1 (by decide)

end Entries

/-! ## Looking at the link -/

section Links

variable {dir : Path} {o : OutputDir}

theorem currentVersion_of_current {o' : OutputDir} (h : o'.current = o.current) :
    o'.currentVersion dir = o.currentVersion dir := by
  unfold OutputDir.currentVersion
  rw [h]

/-- The previous target is what the link says, and leads to an entry below `versions`. -/
theorem inspectCurrentLink_spec {previous : Option String} (h : inspectCurrentLink dir o = .ok previous) :
    o.current = previous.map .symlink ∧
      previous.map (resolveLink dir) = (o.currentVersion dir).map fun name => dir ++ ["versions", name] := by
  unfold inspectCurrentLink at h
  split at h
  · rename_i hnone
    cases h
    simp [OutputDir.currentVersion, hnone]
  · cases h
  · rename_i target hlink
    simp only [bind_eq_ok, exists_unit, reject_eq_ok, require_eq_ok, Decidable.not_not, pure_eq_ok] at h
    obtain ⟨-, -, hdir, e, -, -, rfl⟩ := h
    have hlast : resolveLink dir target ≠ [] := by
      intro hnil
      rw [hnil] at hdir
      simp at hdir
    refine ⟨hlink, ?_⟩
    simp only [OutputDir.currentVersion, hlink, hdir, if_true, Option.map_some,
      List.getLast?_eq_some_getLast hlast]
    rw [show ["versions", (resolveLink dir target).getLast hlast] =
      ["versions"] ++ [(resolveLink dir target).getLast hlast] from rfl, ← List.append_assoc, ← hdir,
      List.dropLast_append_getLast]

end Links

/-! ## Pruning -/

/-- Link and version are as they were. -/
structure Spared (v : Option String) (o o' : OutputDir) : Prop where
  link : o'.current = o.current
  version : ∀ name, v = some name → o'.entry name = o.entry name

/-- And no entry is new. -/
structure Shrunk (v : Option String) (o o' : OutputDir) : Prop extends Spared v o o' where
  names : names o' ⊆ names o

section Sparing

variable {v : Option String} {o₀ o : OutputDir} {name : String} {f : Folder}

/-- Entries under another name than that of the version can come, change and go. -/
theorem Spared.of_entry {o' : OutputDir} (h : Spared v o₀ o) (hne : v ≠ some name) (hlink : o'.current = o.current)
    (hentry : ∀ other, other ≠ name → o'.entry other = o.entry other) : Spared v o₀ o' := by
  refine ⟨hlink.trans h.link, fun other hother => ?_⟩
  have hne' : other ≠ name := by
    rintro rfl
    exact hne hother
  rw [hentry other hne', h.version other hother]

theorem Spared.withFolder (h : Spared v o₀ o) (hne : v ≠ some name) : Spared v o₀ (o.withFolder name f) :=
  h.of_entry hne rfl fun _ => entry_withFolder_ne

theorem Spared.without (h : Spared v o₀ o) (hne : v ≠ some name) : Spared v o₀ (o.without name) :=
  h.of_entry hne rfl fun _ => entry_without_ne

theorem Spared.addFolder (h : Spared v o₀ o) (hne : v ≠ some name) : Spared v o₀ (o.addFolder name f) :=
  h.of_entry hne rfl fun _ => entry_addFolder_ne

end Sparing

section Pruning

variable {codec : MetadataCodec} {dir : Path} {v : Option String} {o₀ o o' : OutputDir} {version : String}

theorem Shrunk.refl (v : Option String) (o : OutputDir) : Shrunk v o o :=
  ⟨⟨rfl, fun _ _ => rfl⟩, List.Subset.refl _⟩

theorem Shrunk.withFolder {f : Folder} (h : Shrunk v o₀ o) (hne : v ≠ some version) :
    Shrunk v o₀ (o.withFolder version f) :=
  ⟨h.toSpared.withFolder hne, by rw [names_withFolder]; exact h.names⟩

theorem Shrunk.without (h : Shrunk v o₀ o) (hne : v ≠ some version) : Shrunk v o₀ (o.without version) :=
  ⟨h.toSpared.without hne, fun _ hname => h.names (mem_names_without.mp hname).1⟩

theorem removeVersionFiles_spec (hne : v ≠ some version) {files : List String} :
    ∀ {o : OutputDir}, Shrunk v o₀ o →
      Upholds (does steady) (Shrunk v o₀) (removeVersionFiles version files) o fun _ _ => True := by
  induction files with
  | nil => exact fun hI => .pure hI trivial
  | cons name rest ih =>
    intro o hI
    refine idle_bind idle_look hI (fun seen _ => ?_) fun _ => trivial
    refine .check_bind hI (fun leaf _ => ?_) fun _ _ => trivial
    refine .check_bind hI (fun _ _ => ?_) fun _ _ => trivial
    refine .mapFail_ask_bind hI (fun _ o₁ h => ih ?_) fun _ o₁ h => ⟨?_, trivial⟩
    · obtain ⟨f, modified, -, h⟩ := h
      exact Changes.keeps h hI (hI.withFolder hne)
    · obtain ⟨f, modified, -, h⟩ := h
      exact Changes.keeps h hI (hI.withFolder hne)

theorem removeCompleteVersionDirectory_spec (codec : MetadataCodec) (hne : v ≠ some version)
    (hI : Shrunk v o₀ o) :
    Upholds (does steady) (Shrunk v o₀) (removeCompleteVersionDirectory codec version) o fun r o' =>
      ∀ u, r = .ok u → version ∉ names o' := by
  have failed : ∀ {e : AgentError} {o' : OutputDir}, ∀ u, (.error e : Checked Unit) = .ok u → version ∉ names o' :=
    fun _ h => by cases h
  refine idle_bind idle_look hI (fun seen _ => ?_) fun _ => failed
  refine .check_bind hI (fun _ _ => ?_) fun _ _ => failed
  refine .bind (removeVersionFiles_spec hne hI) (fun _ o₁ hI₁ _ => ?_) fun _ _ _ _ => failed
  refine .mapFail (R := fun r o' => ∀ u, r = .ok u → version ∉ names o') (.ask hI₁ fun x o' h => ⟨?_, ?_⟩)
    (fun _ _ _ h => h) fun _ _ _ _ => failed
  · exact Changes.keeps h.1 hI₁ (hI₁.without hne)
  · rintro _ rfl
    obtain rfl := Changes.of_ok h.1
    exact fun hmem => (mem_names_without.mp hmem).2 rfl

theorem pruneVersions_spec (codec : MetadataCodec) (retained : List String)
    (hcurrent : ∀ rv ∈ versions, v = some rv.name → rv.current = true) :
    ∀ {o : OutputDir}, Shrunk v o₀ o →
      Upholds (does steady) (Shrunk v o₀) (pruneVersions codec retained versions) o fun r o' =>
        ∀ u, r = .ok u → names o' ⊆ names o ∧ ∀ rv ∈ versions, rv.name ∉ retained → rv.name ∉ names o' := by
  induction versions with
  | nil => exact fun hI => .pure hI fun _ _ => ⟨List.Subset.refl _, by simp⟩
  | cons rv rest ih =>
    intro o hI
    replace ih := @ih fun rv hrv => hcurrent rv (List.mem_cons_of_mem _ hrv)
    unfold pruneVersions
    split_ifs with hkept
    · refine (ih hI).mono (fun _ h => h) fun r o' _ h u hu => ⟨(h u hu).1, ?_⟩
      rintro rv' hrv' hnot
      rcases List.mem_cons.mp hrv' with rfl | hrv'
      · exact absurd hkept hnot
      · exact (h u hu).2 rv' hrv' hnot
    · refine .check_bind hI (fun _ hother => ?_) fun _ _ _ h => by cases h
      have hne : v ≠ some rv.name := fun heq => by
        rw [hcurrent rv List.mem_cons_self heq] at hother
        simp at hother
      -- what goes is gone, and the rest of the loop brings nothing back
      have hremove : Upholds (does steady) (fun o' => Shrunk v o₀ o' ∧ Shrunk none o o')
          (within ("prune immutable Nebula bundle " ++ quoted rv.name)
            (removeCompleteVersionDirectory codec rv.name)) o
          fun r o' => ∀ u, r = .ok u → rv.name ∉ names o' :=
        ((removeCompleteVersionDirectory_spec codec hne hI).and
          (removeCompleteVersionDirectory_spec codec (by simp) (Shrunk.refl none o))).mapFail
            (fun u _ _ h _ _ => h.1 u rfl) fun _ _ _ _ _ h => by cases h
      refine .bind (R := fun r o' => Shrunk none o o' ∧ ∀ u, r = .ok u → rv.name ∉ names o')
        (hremove.mono (fun _ h => h.1) fun r o' h hr => ⟨h.2, hr⟩) (fun u o₁ hI₁ h₁ => ?_)
        fun _ _ _ _ _ h => by cases h
      refine (ih hI₁).mono (fun _ h => h) fun r o' _ h u' hu' => ?_
      obtain ⟨hsub, hgone⟩ := h u' hu'
      refine ⟨List.Subset.trans hsub h₁.1.names, fun rv' hrv' hnot => ?_⟩
      rcases List.mem_cons.mp hrv' with rfl | hrv'
      · exact fun hmem => h₁.2 u rfl (hsub hmem)
      · exact hgone rv' hrv' hnot

/-- What pruning goes by: every published version is on the list, and the current one is marked. -/
structure Listed (v : Option String) (o : OutputDir) (versions : List RetainedVersion) : Prop where
  marked : ∀ rv ∈ versions, rv.current = true ↔ v = some rv.name
  all : ∀ name ∈ o.published, ∃ rv ∈ versions, rv.name = name
  found : ∀ name, v = some name → ∃ rv ∈ versions, rv.name = name
  files : ∀ name, v = some name → ∃ f, o.folder? name = some f ∧ f.files ≠ []

theorem files_of_complete {f : Folder} (h : validateCompleteVersionDirectory codec version (some f) = .ok ()) :
    f.files ≠ [] := by
  simp only [validateCompleteVersionDirectory, bind_eq_ok, exists_unit, require_eq_ok, reject_eq_ok,
    Decidable.not_not] at h
  obtain ⟨g, hg, hlength, -⟩ := h
  obtain rfl := Option.some.inj hg
  intro hnil
  rw [hnil] at hlength
  exact absurd hlength (by decide)

theorem retentionEntry_spec {current : Option Path} {e : String × Option Folder} {rv : Option RetainedVersion}
    (h : retentionEntry codec dir current e = .ok rv) :
    (validStagingName e.1 = true ∧ rv = none) ∨
      ∃ f, e.2 = some f ∧ validVersionName e.1 = true ∧
        validateCompleteVersionDirectory codec e.1 (some f) = .ok () ∧
        rv = some ⟨e.1, f.modified, decide (current = some (dir ++ ["versions", e.1]))⟩ := by
  unfold retentionEntry at h
  split_ifs at h with hstaging
  · simp only [bind_unit_eq_ok, pure_eq_ok] at h
    exact .inl ⟨hstaging, h.2.symm⟩
  · simp only [bind_eq_ok, exists_unit, require_eq_ok, reject_eq_ok, Decidable.not_not, mapError_eq_ok,
      pure_eq_ok] at h
    obtain ⟨hvalid, f, hf, hcomplete, rfl⟩ := h
    exact .inr ⟨f, hf, hvalid, hf ▸ hcomplete, rfl⟩

theorem retentionEntries_spec (hv : target.map (resolveLink dir) = v.map fun name => dir ++ ["versions", name])
    (h : retentionEntries codec dir target o = .ok versions) : Listed v o versions := by
  simp only [retentionEntries, bind_eq_ok, exists_unit, reject_eq_ok, pure_eq_ok] at h
  obtain ⟨entries, hall, hfound, rfl⟩ := h
  obtain ⟨hentries, hlisted⟩ := mem_mapAll hall
  have hcurrent : ∀ name, target.map (resolveLink dir) = some (dir ++ ["versions", name]) ↔ v = some name := by
    intro name
    rw [hv]
    cases v <;> simp
  -- an entry that is no staging directory is on the list, and has files
  have hentry : ∀ e ∈ o.versions, validVersionName e.1 = true →
      ∃ f, e.2 = some f ∧ f.files ≠ [] ∧ ∃ rv ∈ entries.reduceOption, rv.name = e.1 := by
    intro e he hvalid
    obtain ⟨rv, hrv, heq⟩ := hentries e he
    obtain ⟨hstaging, -⟩ | ⟨f, hf, -, hcomplete, rfl⟩ := retentionEntry_spec heq
    · rw [not_validVersionName hstaging] at hvalid
      cases hvalid
    · exact ⟨f, hf, files_of_complete hcomplete, _, List.reduceOption_mem_iff.mpr hrv, rfl⟩
  have hmarked : ∀ rv ∈ entries.reduceOption, (rv.current = true ↔ v = some rv.name) ∧
      validVersionName rv.name = true ∧ rv.name ∈ names o := by
    intro rv hrv
    obtain ⟨e, he, heq⟩ := hlisted _ (List.reduceOption_mem_iff.mp hrv)
    obtain ⟨-, hnone⟩ | ⟨f, -, hvalid, -, hsome⟩ := retentionEntry_spec heq
    · cases hnone
    · cases hsome
      exact ⟨by rw [decide_eq_true_eq]; exact hcurrent _, hvalid, List.mem_map_of_mem he⟩
  have hpresent : ∀ name, v = some name → ∃ rv ∈ entries.reduceOption, rv.name = name := by
    rintro name rfl
    have htarget : target.isSome = true := by
      cases target <;> simp_all
    rw [htarget, not_and, Decidable.not_not, List.any_eq_true] at hfound
    obtain ⟨rv, hrv, hcur⟩ := hfound rfl
    exact ⟨rv, hrv, (Option.some.inj ((hmarked rv hrv).1.mp hcur)).symm⟩
  refine ⟨fun rv hrv => (hmarked rv hrv).1, fun name hname => ?_, hpresent, fun name hname => ?_⟩
  · obtain ⟨hmem, hvalid⟩ := mem_published.mp hname
    obtain ⟨e, he, rfl⟩ := List.mem_map.mp hmem
    obtain ⟨-, -, -, h⟩ := hentry e he hvalid
    exact h
  · -- the entry that the name finds went through the same check as the one on the list
    obtain ⟨rv, hrv, rfl⟩ := hpresent name hname
    obtain ⟨-, hvalid, hmem⟩ := hmarked rv hrv
    obtain ⟨e, he⟩ := Option.isSome_iff_exists.mp (Keyed.lookup_isSome.mpr (List.mem_map.mp hmem))
    have hname := Keyed.key_of_lookup he
    obtain ⟨f, hf, hfiles, -⟩ := hentry e (Keyed.mem_of_lookup he) (hname ▸ hvalid)
    refine ⟨f, ?_, hfiles⟩
    rw [OutputDir.folder?, show o.entry rv.name = some e from he]
    exact hf

theorem retain_length (limit : Nat) (retained : List String) (versions : List RetainedVersion)
    (h : retained.length ≤ limit) : (retain limit retained versions).length ≤ limit := by
  induction versions generalizing retained with
  | nil => exact h
  | cons rv rest ih =>
    unfold retain
    split_ifs with hfull hmem
    · exact h
    · exact ih retained h
    · exact ih _ (by rw [List.length_cons]; omega)

theorem retainedNames_length (hlimit : 0 < limit) (versions : List RetainedVersion) :
    (retainedNames limit versions).length ≤ limit := by
  refine retain_length limit _ versions ?_
  cases versions.find? fun rv => rv.current with
  | none => simp
  | some rv => simpa using Nat.succ_le_of_lt hlimit

theorem Listed.card_le (h : Listed v o versions) : o.published.card ≤ versions.length :=
  calc o.published.card ≤ (versions.map RetainedVersion.name).toFinset.card := by
        refine Finset.card_le_card fun name hname => ?_
        obtain ⟨rv, hrv, rfl⟩ := h.all name hname
        exact List.mem_toFinset.mpr (List.mem_map_of_mem hrv)
    _ ≤ (versions.map RetainedVersion.name).length := List.toFinset_card_le _
    _ = versions.length := List.length_map _

/-- What is left is what was kept. -/
theorem Listed.card_pruned (hlimit : 0 < limit) (h : Listed v o versions) (hsub : names o' ⊆ names o)
    (hgone : ∀ rv ∈ versions.insertionSort newerFirst,
      rv.name ∉ retainedNames limit (versions.insertionSort newerFirst) → rv.name ∉ names o') :
    o'.published.card ≤ limit := by
  refine le_trans (Finset.card_le_card (t := (retainedNames limit (versions.insertionSort newerFirst)).toFinset)
    fun name hname => ?_) ((List.toFinset_card_le _).trans (retainedNames_length hlimit _))
  obtain ⟨hmem, hvalid⟩ := mem_published.mp hname
  obtain ⟨rv, hrv, rfl⟩ := h.all name (mem_published.mpr ⟨hsub hmem, hvalid⟩)
  by_contra hnot
  exact hgone rv ((List.mem_insertionSort newerFirst).mpr hrv) (fun h => hnot (List.mem_toFinset.mpr h)) hmem

/-- Pruning spares the link and the version it leads to, and where it succeeds there is room for one more. -/
theorem pruneVersionsBeforeActivation_spec
    (hv : target.map (resolveLink dir) = v.map fun name => dir ++ ["versions", name]) :
    Upholds (does steady) (Shrunk v o) (pruneVersionsBeforeActivation codec dir target) o fun r o' =>
      ∀ u, r = .ok u → o'.published.card ≤ maxRetainedBundleVersions - 1 ∧
        ∀ name, v = some name → ∃ f, o'.folder? name = some f ∧ f.files ≠ [] := by
  refine idle_within_bind idle_look (.refl v o) (fun seen hseen => ?_) fun _ _ h => by cases h
  obtain rfl := look_ok hseen
  refine .check_bind (.refl v _) (fun versions hversions => ?_) fun _ _ _ h => by cases h
  have hlisted := retentionEntries_spec hv hversions
  dsimp only
  split_ifs with hfew
  · exact .pure (.refl v _) fun _ _ => ⟨hlisted.card_le.trans hfew, hlisted.files⟩
  · have hmarked : ∀ rv ∈ versions.insertionSort newerFirst, v = some rv.name → rv.current = true :=
      fun rv hrv => (hlisted.marked rv ((List.mem_insertionSort newerFirst).mp hrv)).mpr
    refine .bind (pruneVersions_spec codec _ hmarked (.refl v _)) (fun u o₁ hI₁ h₁ => ?_) fun _ _ _ _ _ h => by cases h
    obtain ⟨hsub, hgone⟩ := h₁ u rfl
    refine .mapFail (R := fun _ o' => o' = o₁) (.ask hI₁ fun x o' h => ⟨(h : o' = o₁) ▸ hI₁, h⟩) ?_
      fun _ _ _ _ _ h => by cases h
    rintro _ _ - rfl _ -
    refine ⟨hlisted.card_pruned (by decide) hsub hgone, fun name hname => ?_⟩
    obtain ⟨f, hf, hfiles⟩ := hlisted.files name hname
    refine ⟨f, ?_, hfiles⟩
    rw [OutputDir.folder?, hI₁.version name hname]
    exact hf

end Pruning

/-! ## Pruning comes to its end -/

/-- No two entries of a directory have one name. -/
structure Tidy (o : OutputDir) : Prop where
  entries : (names o).Nodup
  files : ∀ name f, o.folder? name = some f → (f.files.map Prod.fst).Nodup

section Completion

variable {codec : MetadataCodec} {dir : Path} {o : OutputDir} {version : String}

theorem orderly_of_does {p : Act β} {R : Checked β → OutputDir → Prop} (h : Upholds (does true) I p o R) :
    Upholds orderly I p o R := h.of_does fun _ _ _ _ h => h.1

theorem orderly_bind {f : c.Value → Act β} {Q : Checked β → OutputDir → Prop} (hc : mayFail c = false)
    (hcan : ∃ a o', does true o c (.ok a) o') (hI : I o)
    (hok : ∀ a o', does true o c (.ok a) o' → Upholds orderly I (f a) o' Q) :
    Upholds orderly I (perform c >>= f) o Q := by
  refine .ask_bind hI (fun a o' h => hok a o' h.1) fun e o' h => ?_
  obtain ⟨a, o'', hcan⟩ := hcan
  exact absurd hcan (h.2 hc ⟨e, rfl⟩ a o'')

theorem orderly_within_bind {context : String} {f : c.Value → Act β} {Q : Checked β → OutputDir → Prop}
    (hc : mayFail c = false) (hcan : ∃ a o', does true o c (.ok a) o') (hI : I o)
    (hok : ∀ a o', does true o c (.ok a) o' → Upholds orderly I (f a) o' Q) :
    Upholds orderly I (within context (perform c) >>= f) o Q := by
  refine .mapFail_ask_bind hI (fun a o' h => hok a o' h.1) fun e o' h => ?_
  obtain ⟨a, o'', hcan⟩ := hcan
  exact absurd hcan (h.2 hc ⟨e, rfl⟩ a o'')

theorem orderly_look_bind {f : OutputDir → Act β} {Q : Checked β → OutputDir → Prop} (hI : I o)
    (hok : Upholds orderly I (f o) o Q) : Upholds orderly I (perform .look >>= f) o Q := by
  refine orderly_bind rfl ⟨o, o, .inl rfl, rfl⟩ hI fun seen o' h => ?_
  obtain rfl : o' = o := h.2
  obtain rfl := look_ok h
  exact hok

theorem removeVersionFiles_done {files : List String} (hnodup : files.Nodup) :
    ∀ {o : OutputDir} {f : Folder}, o.folder? version = some f →
      (∀ name ∈ files, ∃ content, f.leaf? name = some (.file content)) →
      Upholds orderly (fun _ => True) (removeVersionFiles version files) o fun r o' =>
        r = .ok () ∧ ∃ g, o'.folder? version = some g ∧ ∀ e ∈ g.files, e ∈ f.files ∧ e.1 ∉ files := by
  induction files with
  | nil => exact fun hf _ => .pure trivial ⟨rfl, _, hf, by simp⟩
  | cons name rest ih =>
    intro o f hf hleaf
    obtain ⟨hnew, hrest⟩ := List.nodup_cons.mp hnodup
    obtain ⟨content, hname⟩ := hleaf name List.mem_cons_self
    refine orderly_look_bind trivial ?_
    rw [hf, Option.bind_some, hname]
    refine orderly_within_bind rfl ⟨(), _, f, 0, hf, .inl ⟨rfl, rfl⟩⟩ trivial fun _ o₂ h => ?_
    obtain ⟨f', modified, hf', h⟩ := h
    obtain rfl := Option.some.inj (hf.symm.trans hf')
    obtain rfl := Changes.of_ok h
    refine (ih hrest (folder_withFolder hf) fun other hother => ?_).mono (fun _ h => h) ?_
    · have hne : other ≠ name := by
        rintro rfl
        exact hnew hother
      obtain ⟨content, hfile⟩ := hleaf other (List.mem_cons_of_mem _ hother)
      refine ⟨content, ?_⟩
      rw [← hfile]
      exact congrArg _ (Keyed.lookup_drop_ne hne)
    · rintro r o' - ⟨hr, g, hg, hsub⟩
      refine ⟨hr, g, hg, fun e he => ?_⟩
      obtain ⟨hmem, hnot⟩ := hsub e he
      obtain ⟨hmem, hne⟩ := List.mem_filter.mp hmem
      exact ⟨hmem, by simpa [hnot] using hne⟩

/-- A complete version has every file of a bundle, and no other. -/
theorem leaf_of_complete {f : Folder} (hnodup : (f.files.map Prod.fst).Nodup)
    (h : validateCompleteVersionDirectory codec version (some f) = .ok ()) :
    (∀ e ∈ f.files, e.1 ∈ completeBundleFileNames) ∧
      ∀ name ∈ completeBundleFileNames, ∃ content, f.leaf? name = some (.file content) := by
  simp only [validateCompleteVersionDirectory, bind_eq_ok, exists_unit, require_eq_ok, reject_eq_ok,
    checkAll_eq_ok, checkVersionEntry, Decidable.not_not] at h
  obtain ⟨f', hf', hlength, hentries, -⟩ := h
  obtain rfl := Option.some.inj hf'
  refine ⟨fun e he => (hentries e he).1, fun name hname => ?_⟩
  have hsub : (f.files.map Prod.fst).toFinset ⊆ completeBundleFileNames.toFinset := by
    intro other hother
    obtain ⟨e, he, rfl⟩ := List.mem_map.mp (List.mem_toFinset.mp hother)
    exact List.mem_toFinset.mpr (hentries e he).1
  have hcard : completeBundleFileNames.toFinset.card ≤ (f.files.map Prod.fst).toFinset.card := by
    rw [List.toFinset_card_of_nodup hnodup, List.length_map, hlength]
    exact List.toFinset_card_le _
  have hmem : name ∈ (f.files.map Prod.fst).toFinset := by
    rw [Finset.eq_of_subset_of_card_le hsub hcard]
    exact List.mem_toFinset.mpr hname
  obtain ⟨e, he⟩ := Option.isSome_iff_exists.mp (Keyed.lookup_isSome.mpr (List.mem_map.mp (List.mem_toFinset.mp hmem)))
  rw [Folder.leaf?, he, Option.map_some]
  cases hleaf : e.2 with
  | file content => exact ⟨content, rfl⟩
  | other => exact absurd hleaf (hentries e (Keyed.mem_of_lookup he)).2

theorem removeCompleteVersionDirectory_done {f : Folder} (hf : o.folder? version = some f)
    (hnodup : (f.files.map Prod.fst).Nodup)
    (hcomplete : validateCompleteVersionDirectory codec version (some f) = .ok ()) :
    Upholds orderly (fun _ => True) (removeCompleteVersionDirectory codec version) o fun r _ => r = .ok () := by
  obtain ⟨hknown, hleaf⟩ := leaf_of_complete hnodup hcomplete
  refine orderly_look_bind trivial ?_
  rw [hf]
  refine .check_bind trivial (fun _ _ => ?_) fun e he => by rw [hcomplete] at he; cases he
  refine .bind (removeVersionFiles_done (by decide) hf hleaf) (fun _ o₁ _ h₁ => ?_) fun _ _ _ h => by cases h.1
  obtain ⟨-, g, hg, hsub⟩ := h₁
  -- all its files were known ones, so the directory is empty by now
  have hempty : g.files = [] :=
    List.eq_nil_iff_forall_not_mem.mpr fun e he => (hsub e he).2 (hknown e (hsub e he).1)
  have hcan : does true o₁ (.removeVersion version) (.ok ()) (o₁.without version) := by
    refine ⟨.inl ⟨rfl, rfl⟩, fun g' hg' hfiles => absurd ?_ hfiles⟩
    obtain rfl := Option.some.inj (hg.symm.trans hg')
    exact hempty
  exact .mapFail (R := fun r _ => r = .ok ()) (.ask trivial fun x o' h => ⟨trivial, by
    cases x with
    | ok u => rfl
    | error e => exact absurd hcan (h.2 rfl ⟨e, rfl⟩ _ _)⟩) (fun _ _ _ h => h) fun _ _ _ h => by cases h

/-- The removal of a version touches no other entry. -/
theorem removeCompleteVersionDirectory_others (codec : MetadataCodec) (version : String) (o : OutputDir) :
    Upholds (does steady) (fun o' => ∀ other, other ≠ version → o'.entry other = o.entry other)
      (removeCompleteVersionDirectory codec version) o fun _ _ => True := by
  refine fun ending o' h => ⟨fun other hne => ?_, fun _ _ => trivial⟩
  have hother : some other ≠ some version := by simpa using hne
  exact (removeCompleteVersionDirectory_spec codec hother (.refl _ o) ending o' h).1.version other rfl

theorem pruneVersions_done (codec : MetadataCodec) (retained : List String)
    (hnames : (versions.map RetainedVersion.name).Nodup)
    (hcurrent : ∀ rv ∈ versions, rv.name ∉ retained → rv.current = false) :
    ∀ {o : OutputDir}, (∀ rv ∈ versions, ∃ f, o.folder? rv.name = some f ∧ (f.files.map Prod.fst).Nodup ∧
        validateCompleteVersionDirectory codec rv.name (some f) = .ok ()) →
      Upholds orderly (fun _ => True) (pruneVersions codec retained versions) o fun r _ => r = .ok () := by
  induction versions with
  | nil => exact fun _ => .pure trivial rfl
  | cons rv rest ih =>
    intro o hcomplete
    obtain ⟨hnew, hrest⟩ := List.nodup_cons.mp hnames
    replace ih := @ih hrest fun rv' h => hcurrent rv' (List.mem_cons_of_mem _ h)
    unfold pruneVersions
    split_ifs with hkept
    · exact ih fun rv' h => hcomplete rv' (List.mem_cons_of_mem _ h)
    · obtain ⟨f, hf, hnodup, hvalid⟩ := hcomplete rv List.mem_cons_self
      have hremove := (removeCompleteVersionDirectory_done hf hnodup hvalid).and
        (orderly_of_does (removeCompleteVersionDirectory_others codec rv.name o))
      have hgone : Upholds orderly (fun _ => True) (within ("prune immutable Nebula bundle " ++ quoted rv.name)
          (removeCompleteVersionDirectory codec rv.name)) o fun r o' =>
            r = .ok () ∧ ∀ other, other ≠ rv.name → o'.entry other = o.entry other :=
        .mapFail (hremove.weaken fun _ _ => trivial) (fun _ _ _ h => ⟨h.2.1, h.1.2⟩) fun _ _ _ h => by cases h.2.1
      have hother : reject (rv.current = true) (AgentError.text "refusing to prune the current Nebula bundle") =
          .ok () := by simp [hcurrent rv List.mem_cons_self hkept]
      refine .check_bind trivial (fun _ _ => ?_) fun e he => by rw [hother] at he; cases he
      refine .bind hgone (fun _ o₁ _ h₁ => ih fun rv' hrv' => ?_) fun _ _ _ h => by cases h.1
      have hne : rv'.name ≠ rv.name := fun h => hnew (h ▸ List.mem_map_of_mem hrv')
      rw [OutputDir.folder?, h₁.2 _ hne]
      exact hcomplete rv' (List.mem_cons_of_mem _ hrv')

/-- The list of versions follows the entries of the directory, and each of them is complete. -/
theorem retentionEntries_complete (h : retentionEntries codec dir target o = .ok versions) :
    (versions.map RetainedVersion.name).Sublist (names o) ∧ ∀ rv ∈ versions, ∃ f, (rv.name, some f) ∈ o.versions ∧
      validateCompleteVersionDirectory codec rv.name (some f) = .ok () := by
  simp only [retentionEntries, bind_eq_ok, exists_unit, pure_eq_ok] at h
  obtain ⟨entries, hall, -, rfl⟩ := h
  rw [mapAll_eq_ok] at hall
  unfold names
  generalize o.versions = listed at hall
  induction hall with
  | nil => simp
  | @cons e rv xs ys hentry _ ih =>
    obtain ⟨hsub, hcomplete⟩ := ih
    have hrest : ∀ rv ∈ ys.reduceOption, ∃ f, (rv.name, some f) ∈ e :: xs ∧
        validateCompleteVersionDirectory codec rv.name (some f) = .ok () := fun rv hrv =>
      (hcomplete rv hrv).imp fun f h => ⟨List.mem_cons_of_mem _ h.1, h.2⟩
    obtain ⟨-, rfl⟩ | ⟨f, hf, -, hvalid, rfl⟩ := retentionEntry_spec hentry
    · exact ⟨hsub.cons e.1, hrest⟩
    · refine ⟨hsub.cons_cons e.1, fun rv hrv => ?_⟩
      rcases List.mem_cons.mp hrv with rfl | hrv
      · exact ⟨f, by rw [← hf]; exact List.mem_cons_self, hvalid⟩
      · exact hrest rv hrv

theorem subset_retain (limit : Nat) (retained : List String) (versions : List RetainedVersion) :
    retained ⊆ retain limit retained versions := by
  induction versions generalizing retained with
  | nil => exact List.Subset.refl _
  | cons rv rest ih =>
    unfold retain
    split_ifs with hfull hmem
    · exact List.Subset.refl _
    · exact ih retained
    · exact List.Subset.trans (List.subset_cons_self _ _) (ih _)

/-- The current version is among those that are kept. -/
theorem current_retained {v : Option String} (hmarked : ∀ rv ∈ versions, rv.current = true ↔ v = some rv.name)
    {rv : RetainedVersion} (hrv : rv ∈ versions) (hcurrent : rv.current = true) :
    rv.name ∈ retainedNames limit versions := by
  refine subset_retain _ _ _ ?_
  cases hfind : versions.find? fun rv => rv.current with
  | none => exact absurd hcurrent (List.find?_eq_none.mp hfind rv hrv)
  | some first =>
    have hfirst := (hmarked first (List.mem_of_find?_eq_some hfind)).mp (List.find?_some hfind)
    rw [(hmarked rv hrv).mp hcurrent, Option.some.injEq] at hfirst
    simp [hfirst]

/-- Where nothing fails but syncs, pruning a directory of complete versions leaves room for one more. -/
theorem pruneVersionsBeforeActivation_done {v : Option String}
    (hv : target.map (resolveLink dir) = v.map fun name => dir ++ ["versions", name]) (htidy : Tidy o)
    (hentries : retentionEntries codec dir target o = .ok versions) :
    Upholds orderly (fun _ => True) (pruneVersionsBeforeActivation codec dir target) o fun _ o' =>
      o'.published.card ≤ maxRetainedBundleVersions - 1 := by
  have hlisted := retentionEntries_spec hv hentries
  obtain ⟨hnames, hcomplete⟩ := retentionEntries_complete hentries
  refine orderly_within_bind rfl ⟨o, o, .inl rfl, rfl⟩ trivial fun seen o₁ hseen => ?_
  obtain rfl : o₁ = o := hseen.2
  obtain rfl := look_ok hseen
  refine .check_bind trivial (fun listed hlist => ?_) fun e he => by rw [hentries] at he; cases he
  obtain rfl := Except.ok.inj (hentries.symm.trans hlist)
  dsimp only
  split_ifs with hfew
  · exact .pure trivial (hlisted.card_le.trans hfew)
  · have hsorted : ∀ rv, rv ∈ versions.insertionSort newerFirst ↔ rv ∈ versions :=
      fun rv => List.mem_insertionSort newerFirst
    have hmarked : ∀ rv ∈ versions.insertionSort newerFirst, rv.current = true ↔ v = some rv.name :=
      fun rv hrv => hlisted.marked rv ((hsorted rv).mp hrv)
    have hdone := pruneVersions_done codec (retainedNames (maxRetainedBundleVersions - 1)
        (versions.insertionSort newerFirst)) (o := seen)
      ((((List.perm_insertionSort newerFirst versions).map _).nodup_iff).mpr (htidy.entries.sublist hnames))
      (fun rv hrv hnot => Bool.eq_false_iff.mpr fun h => hnot (current_retained hmarked hrv h)) fun rv hrv => by
        obtain ⟨f, hf, hvalid⟩ := hcomplete rv ((hsorted rv).mp hrv)
        have hfolder : seen.folder? rv.name = some f := by
          have hlookup := (Keyed.lookup_eq_some_iff htidy.entries).mpr ⟨hf, rfl⟩
          rw [OutputDir.folder?, OutputDir.entry, hlookup]
          rfl
        exact ⟨f, hfolder, htidy.files _ _ hfolder, hvalid⟩
    have hpruned := orderly_of_does (pruneVersions_spec codec (retainedNames (maxRetainedBundleVersions - 1)
      (versions.insertionSort newerFirst)) (fun rv hrv => (hmarked rv hrv).mpr) (.refl v seen))
    refine .bind ((hdone.and hpruned).weaken fun _ _ => trivial) (fun u o₁ _ h₁ => ?_) fun _ _ _ h => by cases h.2.1
    obtain ⟨hsub, hgone⟩ := h₁.2.2 u rfl
    have hcard := hlisted.card_pruned (by decide) hsub hgone
    refine .mapFail (R := fun _ o' => o' = o₁) (.ask trivial fun x o' h => ⟨trivial, h.1⟩) ?_ ?_
    · rintro _ _ - rfl
      exact hcard
    · rintro _ _ - rfl
      exact hcard

end Completion

end Output
end NodeAgent
end Mesh
