import Mesh.NodeAgent.Play
import Mesh.NodeAgent.Pruning

/-!
# Mesh.NodeAgent.Activation

What `Activator.Apply` leaves in the output directory, however it ends.

* `apply_spec`: in every ending, a crash included, the version that the link led to is as it was, and the link leads
  there or to the files of the new bundle; and where a rollback succeeds, an error means that the link is as it was.
-/

namespace Mesh
namespace NodeAgent
namespace Output

open Program OutputDir

variable {steady : Bool} {α β : Type}

/-! ## Preparation -/

/-- Versions and link are the same. -/
def SameVersions (o o' : OutputDir) : Prop := o'.versions = o.versions ∧ o'.current = o.current

section Preparation

variable {o₀ o : OutputDir}

theorem SameVersions.refl (o : OutputDir) : SameVersions o o := ⟨rfl, rfl⟩

theorem SameVersions.trans {o' : OutputDir} (h : SameVersions o₀ o) (h' : SameVersions o o') : SameVersions o₀ o' :=
  ⟨h'.1.trans h.1, h'.2.trans h.2⟩

theorem preflightManagedOutput_spec (dir : Path) (hI : SameVersions o₀ o) :
    Upholds (does steady) (SameVersions o₀) (preflightManagedOutput dir) o fun _ _ => True := by
  refine idle_bind (fun _ _ _ h => h) hI (fun _ _ => ?_) fun _ => trivial
  refine .check_bind hI (fun _ _ => ?_) fun _ _ => trivial
  refine idle_bind (fun _ _ _ h => h) hI (fun _ _ => ?_) fun _ => trivial
  exact idle_bind idle_look hI (fun _ _ => .check hI trivial) fun _ => trivial

theorem ensureRoot_spec (seen : OutputDir) (hI : SameVersions o₀ o) :
    Upholds (does steady) (SameVersions o₀) (ensureRoot seen) o fun _ _ => True := by
  unfold ensureRoot
  split_ifs
  · exact Upholds.mapFail (R := fun _ _ => True)
      (.ask hI fun x o' h => ⟨Changes.keeps h hI (hI.trans ⟨rfl, rfl⟩), trivial⟩) (fun _ _ _ h => h) fun _ _ _ h => h
  · exact .pure hI trivial

theorem claimOwnership_spec (a : Activator) (seen : OutputDir) (hI : SameVersions o₀ o) :
    Upholds (does steady) (SameVersions o₀) (claimOwnership a seen) o fun _ _ => True := by
  unfold claimOwnership
  split
  · exact .fail hI trivial
  · exact .check hI trivial
  · refine .check_bind hI (fun _ _ => .ask hI fun x o' h => ⟨?_, trivial⟩) fun _ _ => trivial
    obtain h | ⟨-, leaf, rfl⟩ := h
    · exact Changes.keeps h hI (hI.trans ⟨rfl, rfl⟩)
    · exact hI.trans ⟨rfl, rfl⟩

theorem secureManagedOutputDir_spec (a : Activator) (hI : SameVersions o₀ o) :
    Upholds (does steady) (SameVersions o₀) (secureManagedOutputDir a) o fun _ _ => True := by
  refine .check_bind hI (fun _ _ => ?_) fun _ _ => trivial
  refine idle_within_bind idle_look hI (fun seen _ => ?_) fun _ => trivial
  refine .bind (ensureRoot_spec seen hI) (fun _ o₁ hI₁ _ => ?_) fun _ _ _ _ => trivial
  refine idle_within_bind idle_look hI₁ (fun seen _ => ?_) fun _ => trivial
  refine .check_bind hI₁ (fun _ _ => ?_) fun _ _ => trivial
  refine .bind (claimOwnership_spec a seen hI₁) (fun _ o₂ hI₂ _ => ?_) fun _ _ _ _ => trivial
  exact .ask hI₂ fun x o' h => ⟨(h : o' = o₂) ▸ hI₂, trivial⟩

theorem secureVersionsDir_spec (hI : SameVersions o₀ o) :
    Upholds (does steady) (SameVersions o₀) secureVersionsDir o fun _ _ => True := by
  refine .mapFail_ask_bind hI (fun _ o₁ h => ?_) fun _ o₁ h =>
    ⟨Changes.keeps h hI (hI.trans ⟨rfl, rfl⟩), trivial⟩
  have hI₁ := Changes.keeps h hI (hI.trans ⟨rfl, rfl⟩)
  refine idle_within_bind idle_look hI₁ (fun seen _ => ?_) fun _ => trivial
  refine .check_bind hI₁ (fun _ _ => ?_) fun _ _ => trivial
  exact .mapFail (R := fun _ _ => True) (.ask hI₁ fun x o' h => ⟨(h : o' = o₁) ▸ hI₁, trivial⟩) (fun _ _ _ h => h)
    fun _ _ _ h => h

/-- The preparation of the directory touches neither the versions nor the link. -/
theorem prepare_spec (a : Activator) (b : Bundle) :
    Upholds (does steady) (SameVersions o) (a.prepare b) o fun _ _ => True := by
  have hI := SameVersions.refl o
  refine .check_bind hI (fun _ _ => ?_) fun _ _ => trivial
  refine .check_bind hI (fun _ _ => ?_) fun _ _ => trivial
  refine .bind (preflightManagedOutput_spec a.outputDir hI) (fun _ o₁ hI₁ _ => ?_) fun _ _ _ _ => trivial
  refine idle_within_bind (fun _ _ _ h => h) hI₁ (fun _ _ => ?_) fun _ => trivial
  refine .bind (preflightManagedOutput_spec a.outputDir hI₁) (fun _ o₂ hI₂ _ => ?_) fun _ _ _ _ => trivial
  exact .bind (secureManagedOutputDir_spec a hI₂) (fun _ o₃ hI₃ _ => secureVersionsDir_spec hI₃)
    fun _ _ _ _ => trivial

end Preparation

/-! ## Staging -/

/-- The folder holds the files of the bundle, with the config that Nebula is started with and the metadata. -/
def HoldsBundle (a : Activator) (codec : MetadataCodec) (b : Bundle) (f : Folder) : Prop :=
  ∃ runtimeConfig metadata, rewritePKIPaths b.signedConfig (a.outputDir ++ ["current"]) = .ok runtimeConfig ∧
    codec.encode (metadataOf b) = some metadata ∧
    f.files = (bundleFiles b runtimeConfig ++ [("metadata.json", metadata ++ "\n")]).map fun e => (e.1, .file e.2)

section Staging

variable {v : Option String} {o₀ o : OutputDir} {stage : String}

/-- The stage holds the files, and there is no other entry than before. -/
def Staged (stage : String) (o : OutputDir) (files : List (String × Leaf)) (o' : OutputDir) : Prop :=
  names o' = names o ∧ ∃ f, o'.folder? stage = some f ∧ f.files = files

variable {files : List (String × Leaf)} {o₁ : OutputDir}

theorem writeStaged_spec (hne : v ≠ some stage) {name content : String} (hI : Spared v o₀ o)
    (hstaged : Staged stage o₁ files o) :
    Upholds (does steady) (Spared v o₀) (perform (.writeStaged stage name content)) o
      (OnValue fun _ o' => Staged stage o₁ (files ++ [(name, .file content)]) o') := by
  obtain ⟨hnames, f, hf, rfl⟩ := hstaged
  refine .ask hI fun x o' h => ?_
  obtain ⟨f', modified, hf', h | ⟨⟨e, rfl⟩, leaf, rfl⟩⟩ := h
  · obtain rfl := Option.some.inj (hf.symm.trans hf')
    refine ⟨Changes.keeps h hI (hI.withFolder hne), ?_⟩
    rintro _ rfl
    obtain rfl := Changes.of_ok h
    exact ⟨names_withFolder.trans hnames, _, folder_withFolder hf, rfl⟩
  · exact ⟨hI.withFolder hne, .error⟩

theorem writeFiles_spec (hne : v ≠ some stage) {files : List (String × String)} :
    ∀ {o : OutputDir} {written : List (String × Leaf)}, Spared v o₀ o → Staged stage o₁ written o →
      Upholds (does steady) (Spared v o₀) (writeFiles stage files) o
        (OnValue fun _ o' => Staged stage o₁ (written ++ files.map fun e => (e.1, .file e.2)) o') := by
  induction files with
  | nil => exact fun hI hstaged => .pure hI (.ok (by simpa using hstaged))
  | cons file rest ih =>
    intro o written hI hstaged
    refine .bind_value (writeStaged_spec hne hI hstaged) fun _ o' hI' hstaged' => ?_
    have hrest := ih hI' hstaged'
    rwa [List.append_assoc] at hrest

theorem removeStaged_spec (hne : v ≠ some stage) {name : String} (hI : Spared v o₀ o)
    (hstaged : Staged stage o₁ files o) :
    Upholds (does steady) (Spared v o₀) (perform (.removeStaged stage name)) o
      (OnValue fun _ o' => Staged stage o₁ (files.filter fun e => e.1 ≠ name) o') := by
  obtain ⟨hnames, f, hf, rfl⟩ := hstaged
  refine .ask hI fun x o' h => ?_
  obtain ⟨f', modified, hf', h⟩ := h
  obtain rfl := Option.some.inj (hf.symm.trans hf')
  refine ⟨Changes.keeps h hI (hI.withFolder hne), ?_⟩
  rintro _ rfl
  obtain rfl := Changes.of_ok h
  exact ⟨names_withFolder.trans hnames, _, folder_withFolder hf, rfl⟩

/-- The staged bundle is the version now. -/
structure Published (a : Activator) (codec : MetadataCodec) (b : Bundle) (v : Option String) (stage : String)
    (o : OutputDir) (version : String) (o' : OutputDir) : Prop where
  fresh : v ≠ some version
  folder : ∃ f, o'.folder? version = some f ∧ HoldsBundle a codec b f
  names : ∀ name ∈ names o', name = version ∨ name ∈ names o ∧ name ≠ stage

theorem publish_spec (a : Activator) (codec : MetadataCodec) (b : Bundle) {version : String}
    (hne : v ≠ some stage) (hfiles : ∀ name, v = some name → ∃ g, o₀.folder? name = some g ∧ g.files ≠ [])
    (hI : Spared v o₀ o) (hstaged : Staged stage o₁ files o)
    (hbundle : ∀ f : Folder, f.files = files → HoldsBundle a codec b f) :
    Upholds (does steady) (Spared v o₀) (perform (.publish stage version)) o
      (OnValue fun _ o' => Published a codec b v stage o₁ version o') := by
  obtain ⟨hnames, f, hf, hstage⟩ := hstaged
  refine .ask hI fun x o' h => ?_
  obtain ⟨f', hf', h, hfull⟩ := h
  obtain rfl := Option.some.inj (hf.symm.trans hf')
  rcases h with ⟨rfl, rfl⟩ | ⟨⟨e, rfl⟩, rfl⟩
  · -- the current version has files, so it is not the one that was replaced
    have hfresh : v ≠ some version := by
      intro hv
      obtain ⟨g, hg, hsome⟩ := hfiles version hv
      obtain ⟨e, he⟩ := hfull g (by rw [OutputDir.folder?, hI.version version hv]; exact hg) hsome
      cases he
    refine ⟨((hI.without hfresh).without hne).addFolder hfresh,
      .ok ⟨hfresh, ⟨f, folder_addFolder, hbundle f hstage⟩, ?_⟩⟩
    intro name hname
    rw [names_addFolder, List.mem_cons, mem_names_without, mem_names_without, hnames] at hname
    exact hname.imp_right fun h => ⟨h.1.1, h.2⟩
  · exact ⟨hI, .error⟩

theorem fillStage_spec (a : Activator) (codec : MetadataCodec) (b : Bundle) (hne : v ≠ some stage)
    (hfiles : ∀ name, v = some name → ∃ g, o₀.folder? name = some g ∧ g.files ≠ []) (hI : Spared v o₀ o)
    (hstaged : Staged stage o [] o) :
    Upholds (does steady) (Spared v o₀) (fillStage a codec b stage) o
      (OnValue fun r o' => Published a codec b v stage o r.1 o') := by
  refine .check_bind hI (fun runtimeConfig hconfig => ?_) fun _ _ => .error
  refine .check_bind hI (fun validationConfig _ => ?_) fun _ _ => .error
  refine .bind_value (writeFiles_spec hne hI hstaged) fun _ o₁ hI₁ h₁ => ?_
  refine idle_bind (fun _ _ _ h => h) hI₁ (fun details _ => ?_) fun _ => .error
  refine .check_bind hI₁ (fun _ _ => ?_) fun _ _ => .error
  refine .check_bind hI₁ (fun metadata hmetadata => ?_) fun _ _ => .error
  refine .bind_value (writeStaged_spec hne hI₁ h₁) fun _ o₂ hI₂ h₂ => ?_
  refine .bind_value (removeStaged_spec hne hI₂ h₂).mapFail_value fun _ o₃ hI₃ h₃ => ?_
  refine idle_bind (fun _ _ _ h => h) hI₃ (fun _ _ => ?_) fun _ => .error
  refine idle_bind (fun _ _ _ h => h.2) hI₃ (fun suffix _ => ?_) fun _ => .error
  refine .bind_value (publish_spec a codec b hne hfiles hI₃ h₃ fun f hf => ?_).mapFail_value
    fun _ o₄ hI₄ h₄ => .pure hI₄ (.ok h₄)
  refine ⟨runtimeConfig, metadata, hconfig, require_eq_ok.mp hmetadata, ?_⟩
  -- the config for the validation is the one file that does not stay
  rw [hf]
  simp [bundleFiles]

theorem onFailure_spec {p : Act α} {cleanup : Act Unit} {I : OutputDir → Prop} {K : α → OutputDir → Prop}
    (hp : Upholds (does steady) I p o (OnValue K))
    (hcleanup : ∀ o', I o' → Upholds (does steady) I cleanup o' fun _ _ => True) :
    Upholds (does steady) I (onFailure cleanup p) o (OnValue K) := by
  refine .attempt_bind hp fun r o' hI hr => ?_
  cases r with
  | ok x => exact .pure hI hr
  | error e => exact .attempt_bind (hcleanup o' hI) fun _ o'' hI' _ => .fail hI' .error

theorem removeStage_spec (hne : v ≠ some stage) (hI : Spared v o₀ o) :
    Upholds (does steady) (Spared v o₀) (perform (.removeStage stage)) o fun _ _ => True := by
  refine .ask hI fun x o' h => ⟨?_, trivial⟩
  obtain h | ⟨-, f, rfl⟩ := h
  · exact Changes.keeps h hI (hI.without hne)
  · exact hI.withFolder hne

theorem publishVersion_spec (a : Activator) (codec : MetadataCodec) (b : Bundle)
    (hfiles : ∀ name, v = some name → ∃ g, o.folder? name = some g ∧ g.files ≠ []) :
    Upholds (does steady) (Spared v o) (publishVersion a codec b) o (OnValue fun r o' =>
      (∃ f, o'.folder? r.1 = some f ∧ HoldsBundle a codec b f) ∧ o'.published ⊆ insert r.1 o.published) := by
  have hI : Spared v o o := ⟨rfl, fun _ _ => rfl⟩
  refine .mapFail_ask_bind hI (fun stage o₁ h => ?_) fun e o₁ h => ⟨?_, .error⟩
  · obtain ⟨_, modified, ⟨⟩, -, habsent, rfl⟩ | ⟨⟨_, h⟩, -⟩ := h
    · have hne : v ≠ some stage := by
        intro hv
        obtain ⟨g, hg, -⟩ := hfiles stage hv
        rw [OutputDir.folder?, habsent] at hg
        cases hg
      have hI₁ : Spared v o (o.addFolder stage ⟨modified, []⟩) := hI.addFolder hne
      refine .bind_value (onFailure_spec (idle_within_bind (fun _ _ _ h => h) hI₁ (fun _ _ => fillStage_spec a codec b
        hne hfiles hI₁ ⟨rfl, _, folder_addFolder, rfl⟩) fun _ => .error) fun o' hI' => removeStage_spec hne hI')
        fun r o₂ hI₂ h₂ => ?_
      refine idle_bind (fun _ _ _ h => h) hI₂ (fun _ _ => .pure hI₂ (.ok ⟨h₂.folder, fun name hname => ?_⟩))
        fun _ => .error
      obtain ⟨hmem, hvalid⟩ := mem_published.mp hname
      rcases h₂.names name hmem with rfl | ⟨hold, hstage⟩
      · exact Finset.mem_insert_self _ _
      · rw [names_addFolder, List.mem_cons] at hold
        exact Finset.mem_insert_of_mem (mem_published.mpr ⟨hold.resolve_left hstage, hvalid⟩)
    · cases h
  · obtain ⟨_, _, h, -⟩ | ⟨-, rfl⟩ := h
    · cases h
    · exact hI

end Staging

/-! ## The link -/

/-- The versions are the same, and the link is one of those. -/
def Relinked (links : List (Option Link)) (o o' : OutputDir) : Prop :=
  o'.versions = o.versions ∧ o'.current ∈ links

section Switch

variable {links : List (Option Link)} {previous : Option String} {o₀ o : OutputDir}

/-- What holds after a success, and what after a failure. -/
def Either (K : α → OutputDir → Prop) (E : OutputDir → Prop) (r : Checked α) (o : OutputDir) : Prop :=
  match r with
  | .ok a => K a o
  | .error _ => E o

theorem replaceSymlink_spec {phase : Phase} {target : String} (hI : Relinked links o₀ o)
    (htarget : some (.symlink target) ∈ links) :
    Upholds (does steady) (Relinked links o₀) (replaceSymlink phase target) o
      (Either (fun _ o' => o'.current = some (.symlink target))
        fun o' => o'.current = o.current ∧ ¬ (steady = true ∧ phase = .rollback)) := by
  have unsteady {α : Type} {e : AgentError} (h : Answers steady phase (.error e : Checked α)) :
      ¬ (steady = true ∧ phase = .rollback) := by
    rintro ⟨hsteady, hphase⟩
    obtain ⟨_, h⟩ := h hsteady hphase
    cases h
  refine .ask_bind hI (fun random o₁ h => ?_) fun e o₁ h => ?_
  · obtain ⟨-, rfl⟩ := h
    refine .mapFail_ask_bind hI (fun _ o₂ h => ?_) fun e o₂ h => ?_
    · obtain rfl := Changes.of_ok h.1
      refine .attempt_bind (R := Either (fun _ o' => o'.current = some (.symlink target))
        fun o' => o'.current = o₁.current ∧ ¬ (steady = true ∧ phase = .rollback))
        (.mapFail (.ask (R := fun x o' => does steady _ (.renameLink phase _ target) x o') hI
          fun x o' h => ⟨Changes.keeps h.1 hI ⟨hI.1, htarget⟩, h⟩) ?_ ?_) ?_
      · intro u o' _ h
        obtain rfl := Changes.of_ok h.1
        rfl
      · intro e o' _ h
        obtain rfl := Changes.of_error h.1
        exact ⟨rfl, unsteady h.2⟩
      · intro r o₃ hI₃ hr
        refine .attempt_ask_bind hI₃ fun x o₄ h => ?_
        have hlink : o₄.versions = o₃.versions ∧ o₄.current = o₃.current :=
          Changes.keeps (I := fun o => o.versions = o₃.versions ∧ o.current = o₃.current) h ⟨rfl, rfl⟩ ⟨rfl, rfl⟩
        have hI₄ : Relinked links o₀ o₄ := ⟨hlink.1.trans hI₃.1, hlink.2 ▸ hI₃.2⟩
        refine .check hI₄ ?_
        cases r with
        | ok u => exact hlink.2.trans hr
        | error e => exact ⟨hlink.2.trans hr.1, hr.2⟩
    · obtain rfl := Changes.of_error h.1
      exact ⟨hI, rfl, unsteady h.2⟩
  · obtain ⟨hsteady, rfl⟩ := h
    exact ⟨hI, rfl, unsteady hsteady⟩

/-- A steady rollback restores the link. -/
theorem rollback_spec (hI : Relinked links o₀ o) (hprevious : previous.map .symlink ∈ links) :
    Upholds (does steady) (Relinked links o₀) (rollback previous) o fun _ o' =>
      steady = true → o'.current = previous.map .symlink := by
  cases previous with
  | some target =>
    have hreplace : Upholds (does steady) (Relinked links o₀)
        (within "restore previous Nebula bundle" (replaceSymlink .rollback target)) o
        fun _ o' => steady = true → o'.current = some (.symlink target) :=
      .mapFail (replaceSymlink_spec hI hprevious) (fun _ _ _ h _ => h) fun _ _ _ h hsteady => absurd ⟨hsteady, rfl⟩ h.2
    refine .bind hreplace (fun _ o₁ hI₁ h₁ => ?_) fun _ _ _ h => h
    refine idle_within_bind (fun _ _ _ h => h.2) hI₁ (fun _ _ => ?_) fun _ => h₁
    exact .mapFail (R := fun _ o' => steady = true → o'.current = some (.symlink target))
      (.ask hI₁ fun x o' h => by obtain ⟨-, rfl⟩ := h; exact ⟨hI₁, h₁⟩) (fun _ _ _ h => h) fun _ _ _ h => h
  | none =>
    refine .mapFail_ask_bind hI (fun _ o₁ h => ?_) fun e o₁ h => ?_
    · obtain rfl := Changes.of_ok h.1
      have hI₁ : Relinked links o₀ { o with current := none } := ⟨hI.1, hprevious⟩
      exact .mapFail (R := fun _ o' => o'.current = none)
        (.ask hI₁ fun x o' h => by obtain ⟨-, rfl⟩ := h; exact ⟨hI₁, rfl⟩) (fun _ _ _ h _ => h) fun _ _ _ h _ => h
    · refine ⟨Changes.keeps h.1 hI ⟨hI.1, hprevious⟩, fun hsteady => ?_⟩
      obtain ⟨_, h⟩ := h.2 hsteady rfl
      cases h

/-- A step that does not touch the directory: it succeeds, or a steady rollback restores the link. -/
theorem orRollback_spec {p : Act Unit} {context : String}
    (hp : Upholds (does steady) (Relinked links o₀) p o fun _ o' => o' = o)
    (hprevious : previous.map .symlink ∈ links) :
    Upholds (does steady) (Relinked links o₀) (orRollback previous context p) o
      (Either (fun _ o' => o' = o) fun o' => steady = true → o'.current = previous.map .symlink) := by
  refine .attempt_bind hp fun r o₁ hI₁ h₁ => ?_
  cases r with
  | ok u => exact .pure hI₁ h₁
  | error e =>
    refine .attempt_bind (rollback_spec hI₁ hprevious) fun r o₂ hI₂ h₂ => ?_
    cases r with
    | ok u => exact .fail hI₂ h₂
    | error e' => exact .fail hI₂ h₂

theorem switchVersion_spec {version : String} (hlink : o.current = previous.map .symlink) :
    Upholds (does steady) (Relinked [o.current, some (.symlink (versionTarget version))] o)
      (switchVersion previous version) o
      (Either (fun _ o' => o'.current = some (.symlink (versionTarget version)))
        fun o' => steady = true → o'.current = o.current) := by
  rw [hlink]
  have hprevious : previous.map Link.symlink ∈
      [previous.map .symlink, some (.symlink (versionTarget version))] := List.mem_cons_self
  have hI : Relinked [previous.map .symlink, some (.symlink (versionTarget version))] o o :=
    ⟨rfl, by rw [hlink]; exact hprevious⟩
  refine .bind (replaceSymlink_spec hI (by simp)) (fun _ o₁ hI₁ h₁ => ?_) fun _ _ _ h _ => h.1.trans hlink
  refine .bind (orRollback_spec (.ask hI₁ fun x o' h => ?_) hprevious) (fun _ o₂ hI₂ h₂ => ?_) fun _ _ _ h => h
  · obtain ⟨-, rfl⟩ := h
    exact ⟨hI₁, rfl⟩
  · obtain rfl : o₂ = o₁ := h₂
    refine (orRollback_spec (.ask hI₂ fun x o' h => ?_) hprevious).mono (fun _ h => h) fun r o' _ h => ?_
    · obtain ⟨-, rfl⟩ := h
      exact ⟨hI₂, rfl⟩
    · cases r with
      | ok u => exact (congrArg OutputDir.current h).trans h₁
      | error e => exact h

end Switch

/-! ## Activation -/

/-- What an activation leaves in every ending: the version that the link led to is as it was, and the link leads
there or to the files of the bundle. -/
structure Survives (a : Activator) (codec : MetadataCodec) (b : Bundle) (o o' : OutputDir) : Prop where
  version : ∀ name, o.currentVersion a.outputDir = some name → o'.entry name = o.entry name
  link : o'.current = o.current ∨ ∃ version f, o'.current = some (.symlink (versionTarget version)) ∧
    o'.folder? version = some f ∧ HoldsBundle a codec b f

/-- A version is activated: the link leads to it, and what else is published is within the bound. -/
def Activated (act : Activation) (o : OutputDir) : Prop :=
  o.current = some (.symlink (versionTarget act.version)) ∧
    (o.published.erase act.version).card ≤ maxRetainedBundleVersions - 1

section Whole

variable {a : Activator} {codec : MetadataCodec} {b : Bundle} {o o' : OutputDir}

theorem Spared.survives (h : Spared (o.currentVersion a.outputDir) o o') : Survives a codec b o o' :=
  ⟨h.version, .inl h.link⟩

theorem SameVersions.spared {v : Option String} (h : SameVersions o o') : Spared v o o' := by
  refine ⟨h.2, fun name _ => ?_⟩
  unfold OutputDir.entry
  rw [h.1]

theorem Spared.trans {v : Option String} {o'' : OutputDir} (h : Spared v o o') (h' : Spared v o' o'') :
    Spared v o o'' :=
  ⟨h'.link.trans h.link, fun name hname => (h'.version name hname).trans (h.version name hname)⟩

/-- `Activator.Apply`, in every ending. -/
theorem apply_spec (a : Activator) (codec : MetadataCodec) (b : Bundle) (o : OutputDir) :
    Upholds (does steady) (Survives a codec b o) (a.apply codec b) o
      (Either Activated fun o' => steady = true → o'.current = o.current) := by
  set v := o.currentVersion a.outputDir with hv
  refine .bind ((prepare_spec a b).weaken fun _ h => h.spared.survives) (fun _ o₁ _ h₁ => ?_) fun _ _ _ h _ => h.1.2
  replace h₁ := h₁.1
  have hS₁ : Spared v o o₁ := h₁.spared
  refine idle_bind idle_look hS₁.survives (fun seen hseen => ?_) fun _ _ => hS₁.link
  obtain rfl := look_ok hseen
  refine .check_bind hS₁.survives (fun previous hprevious => ?_) fun _ _ _ => hS₁.link
  obtain ⟨hlink, htarget⟩ := inspectCurrentLink_spec hprevious
  rw [currentVersion_of_current h₁.2] at htarget
  refine .bind ((pruneVersionsBeforeActivation_spec htarget).weaken fun o' h => (hS₁.trans h.toSpared).survives)
    (fun u o₂ _ h₂ => ?_) fun _ _ _ h _ => (hS₁.trans h.1.toSpared).link
  obtain ⟨hshrunk, hpruned⟩ := h₂
  have hS₂ : Spared v o o₂ := hS₁.trans hshrunk.toSpared
  obtain ⟨hcard, hfiles⟩ := hpruned u rfl
  refine .bind ((publishVersion_spec a codec b hfiles).weaken fun o' h => (hS₂.trans h).survives)
    (fun r o₃ _ h₃ => ?_) fun _ _ _ h _ => (hS₂.trans h.1).link
  obtain ⟨version, details⟩ := r
  obtain ⟨hspared, hpublished⟩ := h₃
  have hS₃ : Spared v o o₃ := hS₂.trans hspared
  obtain ⟨⟨f, hf, hbundle⟩, hsub⟩ := hpublished _ rfl
  have hlink₃ : o₃.current = previous.map .symlink := hS₃.link.trans (hS₁.link.symm.trans hlink)
  -- whatever the link, the versions stay what they are from here on
  have hsurvives : ∀ o', Relinked [o₃.current, some (.symlink (versionTarget version))] o₃ o' →
      Survives a codec b o o' := by
    rintro o' ⟨hversions, hcurrent⟩
    have hentry : ∀ name, o'.entry name = o₃.entry name := fun name => by
      unfold OutputDir.entry
      rw [hversions]
    refine ⟨fun name hname => (hentry name).trans (hS₃.version name hname), ?_⟩
    simp only [List.mem_cons, List.not_mem_nil, or_false] at hcurrent
    refine hcurrent.imp (fun h => h.trans hS₃.link) fun h => ⟨version, f, h, ?_, hbundle⟩
    rw [OutputDir.folder?, hentry]
    exact hf
  refine .bind ((switchVersion_spec hlink₃).weaken hsurvives) (fun _ o₄ hI₄ h₄ => ?_)
    fun _ _ _ h hsteady => (h.2 hsteady).trans hS₃.link
  refine .pure hI₄ ⟨h₄.2, ?_⟩
  refine le_trans (Finset.card_le_card fun name hname => ?_) hcard
  obtain ⟨hne, hmem⟩ := Finset.mem_erase.mp hname
  have hmem₃ : name ∈ o₃.published := by
    unfold OutputDir.published at hmem ⊢
    rwa [← h₄.1.1]
  exact (Finset.mem_insert.mp (hsub hmem₃)).resolve_left hne

/-- After an error of `Apply` the link is as it was, where the calls of a rollback succeed, and so is the version it
leads to, however `Apply` ends. Pruning spares that version; where it succeeds, or where every version is complete
and only syncs fail, no more than four are left, so that no more than four others stand beside a new one. -/
theorem failed_activation_rolls_back (a : Activator) (codec : MetadataCodec) (b : Bundle) (o : OutputDir) :
    (∀ e o', Exec (does true) (a.apply codec b) o (.ended (.error e)) o' →
      o'.current = o.current ∧ ∀ name, o.currentVersion a.outputDir = some name → o'.entry name = o.entry name) ∧
    (∀ steady ending o', Exec (does steady) (a.apply codec b) o ending o' →
      (∀ name, o.currentVersion a.outputDir = some name → o'.entry name = o.entry name) ∧
        ∀ act, ending = .ended (.ok act) →
          (o'.published.erase act.version).card ≤ maxRetainedBundleVersions - 1) ∧
    ∀ previous, inspectCurrentLink a.outputDir o = .ok previous →
      (∀ steady ending o', Exec (does steady) (pruneVersionsBeforeActivation codec a.outputDir previous) o ending o' →
        (∀ name, o.currentVersion a.outputDir = some name → o'.entry name = o.entry name) ∧
          (ending = .ended (.ok ()) → o'.published.card ≤ maxRetainedBundleVersions - 1)) ∧
      ∀ versions, Tidy o → retentionEntries codec a.outputDir previous o = .ok versions →
        ∀ r o', Exec orderly (pruneVersionsBeforeActivation codec a.outputDir previous) o (.ended r) o' →
          o'.published.card ≤ maxRetainedBundleVersions - 1 := by
  refine ⟨fun e o' h => ?_, fun steady ending o' h => ?_, fun previous hprevious => ⟨fun steady ending o' h => ?_, ?_⟩⟩
  · obtain ⟨hsurvives, hlink⟩ := apply_spec a codec b o _ _ h
    exact ⟨hlink _ rfl rfl, hsurvives.version⟩
  · obtain ⟨hsurvives, hended⟩ := apply_spec a codec b o _ _ h
    exact ⟨hsurvives.version, fun act hact => (hended _ hact).2⟩
  · obtain ⟨hshrunk, hended⟩ := pruneVersionsBeforeActivation_spec (inspectCurrentLink_spec hprevious).2 _ _ h
    exact ⟨hshrunk.version, fun hok => (hended _ hok () rfl).1⟩
  · intro versions htidy hentries r o' h
    exact (pruneVersionsBeforeActivation_done (inspectCurrentLink_spec hprevious).2 htidy hentries _ _ h).2 r rfl

end Whole

/-! ## A directory that answers -/

/-- How a call is answered, where that is open. -/
inductive FileReply where
  | done
  | failed (message : String)
  | drawn (text : String)
  | valid (details : CertificateDetails)

def handle (o : OutputDir) : FileReply → (c : FileCall) → Option (c.Answer × OutputDir)
  | .done, .look => some (.ok o, o)
  | .done, .makeVersions =>
    some (.ok (), { o with versionsDir := if o.versionsDir = .absent then .directory else o.versionsDir })
  | .done, .removeVersionFile version name =>
    (o.folder? version).map fun f => (.ok (), o.withFolder version ⟨0, f.files.filter fun e => e.1 ≠ name⟩)
  | .done, .removeVersion version =>
    if (o.folder? version).all fun f => f.files.isEmpty then some (.ok (), o.without version) else none
  | .drawn name, .makeStage =>
    if validStagingName name = true ∧ (o.entry name).isNone then some (.ok name, o.addFolder name ⟨0, []⟩) else none
  | .done, .writeStaged stage name content =>
    (o.folder? stage).map fun f => (.ok (), o.withFolder stage ⟨0, f.files ++ [(name, .file content)]⟩)
  | .done, .removeStaged stage name =>
    (o.folder? stage).map fun f => (.ok (), o.withFolder stage ⟨0, f.files.filter fun e => e.1 ≠ name⟩)
  | .done, .publish stage version =>
    match o.folder? stage with
    | some f =>
      if (o.folder? version).isNone then some (.ok (), ((o.without version).without stage).addFolder version f)
      else none
    | none => none
  | .valid details, .validate _ => some (.ok details, o)
  | .drawn text, .generateBearer _ => some (.ok text, o)
  | .done, .makeLink _ temporary _ => some (.ok (), { o with others := temporary :: o.others })
  | .done, .renameLink _ temporary target =>
    some (.ok (), { o with current := some (.symlink target), others := o.others.erase temporary })
  | .done, .removeTemporary temporary => some (.ok (), { o with others := o.others.erase temporary })
  | .done, .checkPath | .done, .checkParent | .done, .lock | .done, .syncRoot | .done, .secureVersions
  | .done, .syncVersions | .done, .secureStage _ | .done, .syncStage _ | .done, .syncOutput _ | .done, .reload _ =>
    some (.ok (), o)
  | .failed message, .reload .forward => some (.error (.text message), o)
  | _, _ => none

theorem orderly_of_ok {o o' : OutputDir} {c : FileCall} {a : c.Value} (h : does true o c (.ok a) o') :
    orderly o c (.ok a) o' := ⟨h, fun _ hfails => by obtain ⟨e, he⟩ := hfails; cases he⟩

theorem handle_sound {o o' : OutputDir} {k : FileReply} {c : FileCall} {x : c.Answer}
    (h : handle o k c = some (x, o')) : orderly o c x o' := by
  unfold handle at h
  split at h
  case h_3 | h_7 =>
    obtain ⟨f, hf, heq⟩ := Option.map_eq_some_iff.mp h
    cases heq
    exact orderly_of_ok ⟨f, 0, hf, .inl ⟨rfl, rfl⟩⟩
  case h_6 =>
    obtain ⟨f, hf, heq⟩ := Option.map_eq_some_iff.mp h
    cases heq
    exact orderly_of_ok ⟨f, 0, hf, .inl (.inl ⟨rfl, rfl⟩)⟩
  case h_4 =>
    split_ifs at h with hempty
    cases h
    refine orderly_of_ok ⟨.inl ⟨rfl, rfl⟩, fun f hf hfiles => absurd ?_ hfiles⟩
    simpa [hf] using hempty
  case h_5 =>
    split_ifs at h with hnew
    cases h
    exact orderly_of_ok (.inl ⟨_, 0, rfl, hnew.1, by simpa using hnew.2, rfl⟩)
  case h_8 =>
    split at h
    · rename_i f hf
      split_ifs at h with hnew
      cases h
      refine orderly_of_ok ⟨f, hf, .inl ⟨rfl, rfl⟩, fun g hg => ?_⟩
      rw [hg] at hnew
      cases hnew
    · cases h
  case h_24 =>
    cases h
    exact ⟨⟨fun _ h => (by cases h), rfl⟩, fun h => by cases h⟩
  case h_25 => cases h
  all_goals
    cases h
    exact orderly_of_ok (by simp [does, Changes, Answers])

theorem exec_of_play {p : Act α} (replies : List FileReply) {o o' : OutputDir} {ending : Ending AgentError α}
    (h : p.play handle replies o = some (ending, o')) : Exec orderly p o ending o' := by
  refine play_sound ?_ h
  intro o k c x o' h
  exact handle_sound h

/-! ## A reload that fails -/

namespace Crowded

open NodeAgent.Sample

def activator : Activator where
  outputDir := ["var", "mesh"]
  nodeID := enrolledState.nodeID
  networkID := enrolledState.networkID
  configSigningPublicKey := enrolledState.configSigningPublicKey
  caCertificateSHA256 := enrolledState.caCertificateSHA256
  publicKeyHash := enrolledState.publicKeyHash

/-- Knows the metadata of the first bundle. -/
def codec : MetadataCodec where
  encode m := some (toString m.revision)
  decode text := if text = "1\n" then some (metadataOf (bundle firstArtifact)) else none

/-- One of several versions with the first bundle. -/
def version (modified : Nat) (suffix : String) : String × Option Folder :=
  ("r00000000000000000001-56ff430d3d79d1e1-" ++ suffix, some ⟨modified,
    [("ca.crt", .file "ca"), ("config.signed.yml", .file ""), ("config.yml", .file ""), ("host.crt", .file "cert"),
      ("host.key", .file "private"), ("host.pub", .file "pub"), ("metadata.json", .file "1\n")]⟩)

/-- Six versions, of which the third is live. -/
def directory : OutputDir where
  root := .directory
  marker := some (.file (markerValue "n2" "w1"))
  versionsDir := .directory
  versions := [version 1 "AAAAAAAAAAAA", version 2 "BBBBBBBBBBBB", version 3 "CCCCCCCCCCCC",
    version 4 "DDDDDDDDDDDD", version 5 "EEEEEEEEEEEE", version 6 "FFFFFFFFFFFF"]
  current := some (.symlink "versions/r00000000000000000001-56ff430d3d79d1e1-CCCCCCCCCCCC")

noncomputable def validateBundleEval : Evaluated validateBundle := ⟨_, by
  delta validateBundle validDigest canonicalPublicKeyHash
  simp only [verifyConfigEval.2, fingerprintEval.apply, tokenHashEval.apply, trimSpaceEval.apply]
  rfl⟩

noncomputable def completeEval : Evaluated validateCompleteVersionDirectory := ⟨_, by
  delta validateCompleteVersionDirectory BundleMetadata.complete versionStem validDigest validIdentifier
  simp only [toList_eq_chars, fingerprintEval.apply, tokenHashEval.apply, trimSpaceEval.apply]
  rfl⟩

noncomputable def retentionEntriesEval : Evaluated retentionEntries := ⟨_, by
  delta retentionEntries retentionEntry validStagingName validVersionName stagingStem resolveLink
  simp only [completeEval.2, toList_eq_chars]
  rfl⟩

noncomputable def pruneEval : Evaluated pruneVersionsBeforeActivation := ⟨_, by
  delta pruneVersionsBeforeActivation removeCompleteVersionDirectory
  simp only [retentionEntriesEval.2]
  rfl⟩

noncomputable def rewritePKIPathsEval : Evaluated rewritePKIPaths := ⟨_, by
  delta rewritePKIPaths
  simp only [toList_eq_chars]
  rfl⟩

noncomputable def prepareEval : Evaluated Activator.prepare := ⟨_, by
  delta Activator.prepare preflightManagedOutput preflightLayout validManagedMarker markerIdentifier inspectCurrentLink
    validVersionName validStagingName stagingStem resolveLink isAbs validIdentifier
  simp only [validateBundleEval.2, toList_eq_chars, trimSpaceEval.apply]
  rfl⟩

noncomputable def publishVersionEval : Evaluated publishVersion := ⟨_, by
  delta publishVersion fillStage versionName versionStem
  simp only [rewritePKIPathsEval.2, toList_eq_chars]
  rfl⟩

noncomputable def activationEval : Evaluated Activator.apply := ⟨_, by
  delta Activator.apply inspectCurrentLink resolveLink isAbs
  simp only [prepareEval.2, pruneEval.2, publishVersionEval.2, toList_eq_chars]
  rfl⟩

/-- Two versions are removed, the second bundle is published and made current, and then the reload fails. -/
def replies : List FileReply :=
  [List.replicate 48 .done, [.drawn ".staging-1"], List.replicate 8 .done,
    [.valid (Disk.details (bundle secondArtifact))], List.replicate 3 .done, [.drawn "GGGGGGGGGGGG"],
    List.replicate 2 .done, [.drawn "HHHHHHHHHHHH"], List.replicate 4 .done, [.failed "no such process"],
    [.drawn "IIIIIIIIIIII"], List.replicate 5 .done].flatten

/-- How a run ended, and the directory it left. -/
def outcome {α : Type} (r : Option (Ending AgentError α × OutputDir)) : Option (Checked α × OutputDir) :=
  match r with
  | some (.ended r, o) => some (r, o)
  | _ => none

theorem exec_of_outcome {α : Type} {p : Act α} {replies : List FileReply} {o : OutputDir}
    {check : Checked α × OutputDir → Bool} (h : (outcome (p.play handle replies o)).any check = true) :
    ∃ r o', Exec orderly p o (.ended r) o' ∧ check (r, o') = true := by
  unfold outcome at h
  split at h
  · rename_i r o' hplay
    exact ⟨r, o', exec_of_play replies hplay, h⟩
  · cases h

def reloadFails : World.Passed ((outcome ((activationEval.1 activator codec (bundle secondArtifact)).play handle
    replies directory)).any fun r => r.1.toOption.isNone && r.2.published.card = 5) where
  holds := by decide +kernel

def target : String := "versions/r00000000000000000001-56ff430d3d79d1e1-CCCCCCCCCCCC"

def prunes : World.Passed ((outcome ((pruneEval.1 codec activator.outputDir (some target)).play handle
    (List.replicate 34 .done) directory)).any fun r => r.2.published.card = 4) where
  holds := by decide +kernel

/-- No name is there twice, the link names a version, and all versions can be listed. -/
def checked : World.Passed (decide (names directory).Nodup &&
    (directory.versions.all fun e => e.2.all fun f => decide (f.files.map Prod.fst).Nodup) &&
    decide (inspectCurrentLink activator.outputDir directory = .ok (some target)) &&
    (retentionEntriesEval.1 codec activator.outputDir (some target) directory).toOption.isSome) where
  holds := by decide +kernel

theorem directory_checked : Tidy directory ∧
    inspectCurrentLink activator.outputDir directory = .ok (some target) ∧
    ∃ versions, retentionEntries codec activator.outputDir (some target) directory = .ok versions := by
  have h := checked.holds
  simp only [Bool.and_eq_true, decide_eq_true_eq, List.all_eq_true] at h
  obtain ⟨⟨⟨hentries, hfiles⟩, hlink⟩, hlisted⟩ := h
  refine ⟨⟨hentries, ?_⟩, hlink, ?_⟩
  · intro name f hf
    obtain ⟨e, he, hfolder⟩ := Option.bind_eq_some_iff.mp hf
    have hdistinct := hfiles e (Keyed.mem_of_lookup he)
    rw [hfolder] at hdistinct
    simpa using hdistinct
  · rw [← retentionEntriesEval.2] at hlisted
    cases hlist : retentionEntries codec activator.outputDir (some target) directory with
    | ok versions => exact ⟨versions, rfl⟩
    | error e =>
      rw [hlist] at hlisted
      cases hlisted

end Crowded

open Crowded NodeAgent.Sample in
/-- With six versions in the directory the reload of a new bundle fails: two are gone, and the link is back. -/
theorem failed_activation_rolls_back_reload :
    (∃ e o', Exec (does true) (activator.apply codec (bundle secondArtifact)) directory
        (.ended (.error e)) o' ∧ o'.published.card = 5 ∧ o'.current = some (.symlink target) ∧
      ∀ name, directory.currentVersion activator.outputDir = some name → o'.entry name = directory.entry name) ∧
    ∃ r o', Exec orderly (pruneVersionsBeforeActivation codec activator.outputDir (some target)) directory
        (.ended r) o' ∧ o'.published.card = 4 ∧ o'.published.card ≤ maxRetainedBundleVersions - 1 := by
  have htheorem := failed_activation_rolls_back activator codec
    (bundle secondArtifact) directory
  refine ⟨?_, ?_⟩
  · obtain ⟨r, o', hexec, hcheck⟩ := exec_of_outcome reloadFails.holds
    rw [← activationEval.2] at hexec
    rw [Bool.and_eq_true, decide_eq_true_eq] at hcheck
    cases r with
    | ok act => cases hcheck.1
    | error e =>
      have hsteady : Exec (does true) (activator.apply codec (bundle secondArtifact)) directory
          (.ended (.error e)) o' := hexec.of_does fun _ _ _ _ h => h.1
      obtain ⟨hlink, hversion⟩ := htheorem.1 e o' hsteady
      exact ⟨e, o', hsteady, hcheck.2, hlink, hversion⟩
  · obtain ⟨r, o', hexec, hcheck⟩ := exec_of_outcome prunes.holds
    rw [← pruneEval.2] at hexec
    obtain ⟨htidy, hlink, versions, hversions⟩ := directory_checked
    exact ⟨r, o', hexec, by simpa using hcheck, (htheorem.2.2 _ hlink).2 versions htidy hversions r o' hexec⟩

end Output
end NodeAgent
end Mesh
