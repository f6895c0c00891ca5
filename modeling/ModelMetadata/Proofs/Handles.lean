import ModelMetadata.Proofs.Collected
import ModelMetadata.Proofs.LateImports

/-!
Handles of collected files. A file is registered under a key that names a module, and the characters of
that name are those of the path of the file. Where these are plain, the handle of the file imports the
module under its name and the collected module can be rendered, whatever the other files hold.
-/
set_option autoImplicit false
namespace ModelMetadata

open Source

/-! ## Plain texts -/

namespace Source.IsPlainText

variable {text part : String}

theorem of_subset (h : IsPlainText text) (hpart : ∀ c ∈ part.toList, c ∈ text.toList) :
    IsPlainText part := fun c hc => h c (hpart c hc)

theorem append (h : IsPlainText text) (hpart : IsPlainText part) : IsPlainText (text ++ part) := by
  intro c hc
  rw [String.toList_append, List.mem_append] at hc
  rcases hc with hc | hc
  · exact h c hc
  · exact hpart c hc

theorem intercalate {between : String} {pieces : List String} (hbetween : IsPlainText between)
    (h : ∀ piece ∈ pieces, IsPlainText piece) : IsPlainText (between.intercalate pieces) := by
  intro c hc
  rcases Text.mem_intercalate hc with hc | ⟨piece, hpiece, hc⟩
  · exact hbetween c hc
  · exact h piece hpiece c hc

theorem drop (h : IsPlainText text) (count : Nat) : IsPlainText (text.drop count).toString := by
  apply h.of_subset
  intro c hc
  have hdropped : (text.drop count).toString.toList = text.toList.drop count :=
    String.toList_copy_drop
  rw [hdropped] at hc
  exact List.mem_of_mem_drop hc

theorem fileStem (h : IsPlainText text) : IsPlainText (fileStem text) := by
  unfold ModelMetadata.fileStem
  split
  · apply h.of_subset
    intro c hc
    have hdropped : (text.dropEnd 3).toString.toList = text.toList.take (text.toList.length - 3) := by
      simp
    rw [hdropped] at hc
    exact List.mem_of_mem_take hc
  · exact h

theorem slashPieces (h : IsPlainText text) : ∀ piece ∈ Path.slashPieces text, IsPlainText piece := by
  intro piece hpiece
  obtain ⟨chars, hchars, rfl⟩ := List.mem_map.1 hpiece
  apply h.of_subset
  intro c hc
  rw [String.toList_ofList] at hc
  exact Text.mem_of_mem_splitAt hchars hc

end Source.IsPlainText

/-- The name of a module has no characters but those of its key and dots. -/
theorem isPlainText_of_moduleOfKey? {key name : String} (hkey : IsPlainText key)
    (h : moduleOfKey? key = some name) : IsPlainText name := by
  have hdot : IsPlainText "." := by decide
  unfold moduleOfKey? at h
  dsimp only at h
  have hpath : IsPlainText (if key.startsWith "./" then (key.drop 2).toString else key) := by
    split
    · exact hkey.drop 2
    · exact hkey
  generalize (if key.startsWith "./" then (key.drop 2).toString else key) = path at h hpath
  have hkept : ∀ piece ∈ (Path.slashPieces (fileStem path)).filter (fun piece => piece != ""),
      IsPlainText piece :=
    fun piece hpiece => hpath.fileStem.slashPieces piece (List.mem_of_mem_filter hpiece)
  generalize (Path.slashPieces (fileStem path)).filter (fun piece => piece != "") = kept at h hkept
  have hpieces : ∀ piece ∈ if kept.getLast? == some "__init__" then kept.dropLast else kept,
      IsPlainText piece := by
    intro piece hpiece
    split at hpiece
    · exact hkept piece (List.mem_of_mem_dropLast hpiece)
    · exact hkept piece hpiece
  generalize (if kept.getLast? == some "__init__" then kept.dropLast else kept) = pieces at h hpieces
  split at h
  · cases h
  · split at h
    · cases h
    · obtain rfl := Option.some.inj h
      exact hdot.intercalate hpieces

/-! ## Keys -/

def namesBeyond (tree : FileTree) (root : Path) (file : String) : List String :=
  let start := (tree.resolve (Path.parse (Path.forwardSlashes root.render))).segments
  let path := (tree.resolve (Path.parse (Path.forwardSlashes file))).segments
  path.drop (Path.commonLength start path)

def HasPlainNames (tree : FileTree) (options : Options) (file : String) : Prop :=
  ∀ root, options.pathToSource = some root → ∀ name ∈ namesBeyond tree root file, IsPlainText name

/-- The key of a file has no characters but those of the names beyond the root, dots and slashes. -/
theorem isPlainText_fileKey {tree : FileTree} {options : Options} {file key : String}
    (h : HasPlainNames tree options file) (hkey : fileKey tree options file = .ok key) :
    IsPlainText key := by
  have hslash : IsPlainText "/" := by decide
  have hup : IsPlainText ".." := by decide
  have hway (root : Path) (hroot : options.pathToSource = some root) :
      IsPlainText (tree.directory.relativeText (Path.parse (Path.forwardSlashes root.render))
        (Path.parse (Path.forwardSlashes file))) := by
    unfold Path.relativeText
    dsimp only
    split
    · exact (by decide : IsPlainText ".")
    · apply hslash.intercalate
      intro name hname
      rcases List.mem_append.1 hname with hname | hname
      · rw [List.eq_of_mem_replicate hname]
        exact hup
      · exact h root hroot name hname
  unfold fileKey registryKey at hkey
  split at hkey
  · rename_i root hroot
    split at hkey
    · cases hkey
    · obtain rfl := Except.ok.inj hkey
      split
      · exact hway root hroot
      · exact (by decide : IsPlainText "./").append (hway root hroot)
  · cases hkey

/-! ## The registry -/

/-- Every file of a registry has a module with a plain name. -/
def Registry.Plain (registry : Registry) : Prop :=
  ∀ file ∈ registry.entries, ∃ name, moduleOfKey? file.1 = some name ∧ IsPlainText name

theorem Registry.Plain.add {registry : Registry} (h : registry.Plain) {key name : String}
    (hname : moduleOfKey? key = some name) (hplain : IsPlainText name) (className : String)
    (metadata : Expr) : (registry.add key className metadata).Plain := by
  intro file hfile
  rcases Table.mem_entries_insert hfile with rfl | hfile
  · exact ⟨name, hname, hplain⟩
  · exact h file hfile

/-- A handle of a file imports the module of the file's key, and comes with the file's maps. -/
def HandleOf (file : String × Table Expr) (handled : Expr × Table Expr) : Prop :=
  ∃ name, moduleOfKey? file.1 = some name ∧ handled.1.Imports name ∧ handled.2 = file.2

/-- All files of a registry get their handles when their names are plain. -/
theorem Registry.Plain.collected {registry : Registry} (h : registry.Plain) :
    ∃ files, registry.collected = .ok files ∧ List.Forall₂ HandleOf registry.entries files := by
  have hall (entries : List (String × Table Expr))
      (h : ∀ file ∈ entries, ∃ name, moduleOfKey? file.1 = some name ∧ IsPlainText name) :
      ∃ files, Registry.collected ⟨entries⟩ = .ok files ∧ List.Forall₂ HandleOf entries files := by
    induction entries with
    | nil => exact ⟨[], rfl, .nil⟩
    | cons file rest ih =>
      obtain ⟨⟨name, hname, hplain⟩, hrest⟩ := List.forall_mem_cons.1 h
      obtain ⟨handle, hhandle, himports⟩ := lateImport_plain hplain
      obtain ⟨files, hfiles, hhandles⟩ := ih hrest
      refine ⟨(handle, file.2) :: files, ?_, .cons ⟨name, hname, himports, rfl⟩ hhandles⟩
      obtain ⟨found, hfound, hmore⟩ := bind_eq_ok.1 hfiles
      apply bind_eq_ok.2
      refine ⟨some (handle, file.2) :: found, ?_, ?_⟩
      · rw [List.mapM_cons]
        refine bind_eq_ok.2 ⟨some (handle, file.2), ?_, bind_eq_ok.2 ⟨found, hfound, rfl⟩⟩
        dsimp only
        rw [hname]
        exact bind_eq_ok.2 ⟨handle, hhandle, rfl⟩
      · obtain rfl := Except.ok.inj hmore
        rfl
  exact hall registry.entries h

/-! ## Runs -/

/-- An engine with some options and a registry of plain names. -/
def Engine.CollectsPlain (options : Options) (engine : Engine) : Prop :=
  engine.options = options ∧ engine.registry.Plain

/-- A run over a file with plain names registers it under a plain name, if at all. -/
theorem plain_run {options : Options} (tree : FileTree) (code : String) {file : String}
    (hfile : HasPlainNames tree options file) :
    Maintains (fun state => state.1.CollectsPlain options) (run tree code file) fun _ => True := by
  refine maintains_run code fun key hkey hmodule className metadata registry hregistry => ?_
  obtain ⟨name, hname⟩ := Option.isSome_iff_exists.1 hmodule
  have hplain := isPlainText_of_moduleOfKey? (isPlainText_fileKey hfile hkey) hname
  exact hregistry.add hname hplain className metadata

theorem plain_runAll {options : Options} {jobs : List Job}
    (hjobs : ∀ job ∈ jobs, HasPlainNames job.tree options job.file)
    {state : Engine × List LogRecord} (h : state.1.CollectsPlain options) :
    (runAll jobs state).1.CollectsPlain options := by
  induction jobs generalizing state with
  | nil => exact h
  | cons job rest ih =>
    obtain ⟨hjob, hrest⟩ := List.forall_mem_cons.1 hjobs
    exact ih hrest ((plain_run job.tree job.code hjob).state h)

/-- The collected module of runs over files with plain names can be rendered, and every registered file
has a handle in it that imports the module of the file's key. -/
theorem collected_handles {options : Options} {jobs : List Job}
    (hjobs : ∀ job ∈ jobs, HasPlainNames job.tree options job.file)
    (project : Option ProjectIndex) (typeImports : TypeImports) (console : Console)
    (log : List LogRecord) :
    ∃ files text,
      (runAll jobs ({ options, typeImports, project, console }, log)).1.registry.collected = .ok files
        ∧ List.Forall₂ HandleOf
          (runAll jobs ({ options, typeImports, project, console }, log)).1.registry.entries files
        ∧ renderArtifact (runAll jobs ({ options, typeImports, project, console }, log)).1 = .ok text := by
  have hempty : Registry.Plain {} := by simp [Registry.Plain]
  have hplain : (runAll jobs ({ options, typeImports, project, console }, log)).1.registry.Plain :=
    (plain_runAll hjobs ⟨rfl, hempty⟩).2
  obtain ⟨files, hfiles, hhandles⟩ := hplain.collected
  have hartifact : ∃ text,
      renderArtifact (runAll jobs ({ options, typeImports, project, console }, log)).1 = .ok text := by
    unfold renderArtifact artifact
    rw [hfiles]
    exact ⟨_, rfl⟩
  obtain ⟨text, htext⟩ := hartifact
  exact ⟨files, text, hfiles, hhandles, htext⟩

namespace Quoted

def options : Options := { readonly := true, pathToSource := some (Path.parse "/src") }

def job (file : String) : Job :=
  { tree := { directory := Path.parse "/" }, code := "class A: pass\n", file }

def classes : Table Expr := ⟨[("A", Descriptor.display [])]⟩

theorem hasPlainNames : HasPlainNames (job "/src/it's.py").tree options "/src/it's.py" := by
  intro root hroot
  obtain rfl := Option.some.inj hroot
  have hnames : namesBeyond (job "/src/it's.py").tree (Path.parse "/src") "/src/it's.py"
      = ["it's.py"] := by cbv
  rw [hnames]
  decide

theorem registry_plain : (runAll [job "/src/it's.py"] ({ options }, [])).1.registry
    = ⟨[("./it's.py", classes)]⟩ := by cbv

theorem registry_quoted : (runAll [job "/src/a\"b.py", job "/src/c.py"] ({ options }, [])).1.registry
    = ⟨[("./a\"b.py", classes), ("./c.py", classes)]⟩ := by cbv

end Quoted

/-- A single quote in the name of a file does no harm. -/
theorem collected_handles_of_quoted :
    ∃ handled text,
      (runAll [Quoted.job "/src/it's.py"] ({ options := Quoted.options }, [])).1.registry.collected
          = .ok [handled]
        ∧ handled.1.Imports "it's" ∧ handled.2 = Quoted.classes
        ∧ renderArtifact (runAll [Quoted.job "/src/it's.py"] ({ options := Quoted.options }, [])).1
          = .ok text := by
  have hnames : ∀ job ∈ [Quoted.job "/src/it's.py"],
      HasPlainNames job.tree Quoted.options job.file :=
    List.forall_mem_singleton.2 Quoted.hasPlainNames
  obtain ⟨files, text, hfiles, hhandles, htext⟩ := collected_handles hnames none {} {} []
  have hmodule : moduleOfKey? "./it's.py" = some "it's" := by cbv
  rw [Quoted.registry_plain] at hfiles hhandles
  cases hhandles with
  | cons hhandle hrest =>
    cases hrest
    obtain ⟨name, hname, himports, hclasses⟩ := hhandle
    obtain rfl : "it's" = name := Option.some.inj (hmodule.symm.trans hname)
    refine ⟨_, text, ?_, himports, hclasses, htext⟩
    rw [Quoted.registry_plain]
    exact hfiles

/-- A double quote in the name of one file keeps the maps of all files from being collected. -/
theorem collected_lost_beside_quoted :
    (runAll [Quoted.job "/src/a\"b.py", Quoted.job "/src/c.py"]
          ({ options := Quoted.options }, [])).1.registry
        = ⟨[("./a\"b.py", Quoted.classes), ("./c.py", Quoted.classes)]⟩
      ∧ moduleOfKey? "./a\"b.py" = some "a\"b" ∧ moduleOfKey? "./c.py" = some "c"
      ∧ renderArtifact (runAll [Quoted.job "/src/a\"b.py", Quoted.job "/src/c.py"]
          ({ options := Quoted.options }, [])).1 = .error .malformedSource := by
  refine ⟨Quoted.registry_quoted, by cbv, by cbv, ?_⟩
  unfold renderArtifact artifact
  rw [Quoted.registry_quoted]
  cbv

end ModelMetadata
