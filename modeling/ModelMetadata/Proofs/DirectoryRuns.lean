import ModelMetadata.Proofs.Batches

/-!
Runs over a directory. The selected files are distinct, none lies below another, and their outputs lie
below the destination as they lie below the input. So a run leaves at the destination of each file the
code that a fresh engine gives for it, if it is in place or no output goes where another file lies.
-/
set_option autoImplicit false
namespace ModelMetadata

/-! ## Selected files -/

theorem mirrored_join (input destination : Path) (names : List String) :
    mirrored input destination (input.join ⟨"", names⟩) = destination.join ⟨"", names⟩ := by
  unfold mirrored
  rw [Path.below?_join]
  rfl

section

variable {tree : FileTree} {options : Options} {input destination : Path} {endings : List String}

theorem mem_selectFiles {file : Path} (h : file ∈ selectFiles tree input endings) :
    ∃ names ∈ tree.below input ".py", file = input.join ⟨"", names⟩ := by
  obtain ⟨names, hnames, rfl⟩ := List.mem_map.1 (List.mem_of_mem_filter h)
  exact ⟨names, hnames, rfl⟩

theorem nodup_selectFiles : (selectFiles tree input endings).Nodup :=
  (FileTree.nodup_below.map (Path.join_injective input)).filter _

/-- What lies at the place of a file that has code is a file. -/
theorem mem_places_of_codeAlone? {file : Path} {place : Place}
    (h : (codeAlone? tree options file).isSome) (hplace : tree.place? file = some place) :
    place ∈ tree.files.map Prod.fst := by
  apply FileTree.mem_places_of_contents?
  cases hcontents : tree.contents? place with
  | some bytes => rfl
  | none =>
    have hread : tree.readText file
        = .error (if tree.isDirectory file then .isDirectory file.render else .noFile file.render) := by
      unfold FileTree.readText
      rw [hplace, Option.bind_some, hcontents]
    unfold codeAlone? at h
    rw [runPath_error hread] at h
    cases h

/-- A destination that every code can be written to, none of them where another file lies. -/
structure Receives (tree : FileTree) (options : Options) (input destination : Path)
    (files : List Path) : Prop where
  writes : ∀ file ∈ files, ∀ code, codeAlone? tree options file = some code →
    ∃ after, tree.writeText (mirrored input destination file) code = .ok after
  apart : ∀ file ∈ files, ∀ other ∈ files, (codeAlone? tree options file).isSome →
    tree.place? (mirrored input destination file) = tree.place? other → file = other

/-- The place of a selected file, and of its output where the destination is reached. -/
structure Selected (tree : FileTree) (input destination : Path) (base : Place) (file : Path)
    (names : List String) : Prop where
  path : file = input.join ⟨"", names⟩
  place : tree.place? file = some (base ++ names)
  output : tree.place? (mirrored input destination file)
    = (tree.place? destination).map (· ++ names)

variable (hsound : tree.Sound) {base : Place} (hbase : tree.place? input = some base)
include hsound hbase

theorem selected (destination : Path) {file : Path}
    (h : file ∈ selectFiles tree input endings) :
    ∃ names, Selected tree input destination base file names := by
  obtain ⟨names, hnames, rfl⟩ := mem_selectFiles h
  have hup := hsound.up_not_mem_below hnames
  refine ⟨names, rfl, ?_, ?_⟩
  · rw [FileTree.place?_join input hup, hbase]
    rfl
  · rw [mirrored_join, FileTree.place?_join destination hup]

/-- A directory receives the outputs of its own files. -/
theorem receives_in_place :
    Receives tree options input input (selectFiles tree input endings) := by
  have hgoes (file : Path) (hfile : file ∈ selectFiles tree input endings) :
      mirrored input input file = file := by
    obtain ⟨names, -, rfl⟩ := mem_selectFiles hfile
    exact mirrored_join input input names
  constructor
  · intro file hfile code hcode
    rw [hgoes file hfile]
    obtain ⟨names, hselected⟩ := selected hsound hbase input hfile
    have hmem := mem_places_of_codeAlone? (by rw [hcode]; rfl) hselected.place
    exact ⟨_, FileTree.writeText_eq hselected.place (hsound.writable hmem) code⟩
  · intro file hfile other hother _ hsame
    rw [hgoes file hfile] at hsame
    obtain ⟨names, hselected⟩ := selected hsound hbase input hfile
    obtain ⟨names', hselected'⟩ := selected hsound hbase input hother
    rw [hselected.place, hselected'.place] at hsame
    have hnames := List.append_cancel_left (Option.some.inj hsame)
    rw [hselected.path, hselected'.path, hnames]

/-- A directory that neither lies in the input nor holds it has no output where a file lies. -/
theorem apart_of_outside {there : Place} (hthere : tree.place? destination = some there)
    (hout : ¬ base <+: there) (hin : ¬ there <+: base) {file other : Path}
    (hfile : file ∈ selectFiles tree input endings) (hother : other ∈ selectFiles tree input endings) :
    tree.place? (mirrored input destination file) ≠ tree.place? other := by
  obtain ⟨names, hselected⟩ := selected hsound hbase destination hfile
  obtain ⟨names', hselected'⟩ := selected hsound hbase destination hother
  rw [hselected.output, hselected'.place, hthere]
  intro hsame
  have happend : there ++ names = base ++ names' := Option.some.inj hsame
  rcases List.prefix_or_prefix_of_prefix (List.prefix_append there names)
    (happend ▸ List.prefix_append base names') with hstart | hstart
  · exact hin hstart
  · exact hout hstart

/-- The selected files are a batch for a destination that receives them. -/
theorem Receives.batch (h : Receives tree options input destination (selectFiles tree input endings)) :
    Batch tree options input destination (selectFiles tree input endings) := by
  constructor
  · exact nodup_selectFiles
  · intro file hfile
    obtain ⟨names, hselected⟩ := selected hsound hbase destination hfile
    exact ⟨_, hselected.place⟩
  · intro file hfile hcode
    obtain ⟨code, hcode⟩ := Option.isSome_iff_exists.1 hcode
    obtain ⟨after, hwrite⟩ := h.writes file hfile code hcode
    exact FileTree.writable_of_writeText hwrite
  · exact h.apart
  · intro file hfile other hother hcode hcode' place below hplace hbelow hstart
    obtain ⟨names, hselected⟩ := selected hsound hbase destination hfile
    obtain ⟨names', hselected'⟩ := selected hsound hbase destination hother
    -- The files lie as their outputs do, and no file lies below another.
    obtain ⟨there, hthere, rfl⟩ := Option.map_eq_some_iff.1 (hselected.output.symm.trans hplace)
    rw [hselected'.output, hthere] at hbelow
    obtain rfl := Option.some.inj hbelow
    have hnames : names <+: names' := (List.prefix_append_right_inj there).1 hstart
    have hsame : base ++ names = base ++ names' :=
      hsound.prefix_eq (mem_places_of_codeAlone? hcode hselected.place)
        (mem_places_of_codeAlone? hcode' hselected'.place)
        ((List.prefix_append_right_inj base).2 hnames)
    rw [hselected.path, hselected'.path, List.append_cancel_left hsame]
  · intro file hfile other hother place hplace hplace'
    obtain ⟨names, hselected⟩ := selected hsound hbase destination hfile
    obtain ⟨names', hselected'⟩ := selected hsound hbase destination hother
    obtain ⟨there, hthere, rfl⟩ := Option.map_eq_some_iff.1 (hselected.output.symm.trans hplace)
    rw [hselected'.output, hthere] at hplace'
    have hnames : names' = names := List.append_cancel_left (Option.some.inj hplace')
    rw [hselected.path, hselected'.path, hnames]

end

/-! ## What a batch leaves -/

structure Augmented (tree : FileTree) (options : Options) (input destination : Path)
    (files : List Path) (after : FileTree) : Prop where
  written : ∀ file ∈ files, ∀ code, codeAlone? tree options file = some code →
    ∃ place, tree.place? (mirrored input destination file) = some place
      ∧ after.place? (mirrored input destination file) = some place
      ∧ after.contents? place = some code.toUTF8.toList
  failed : ∀ file ∈ files, codeAlone? tree options file = none → ∀ place,
    tree.place? (mirrored input destination file) = some place →
    after.contents? place = tree.contents? place
  others : ∀ place, (∀ file ∈ files, (codeAlone? tree options file).isSome →
    tree.place? (mirrored input destination file) ≠ some place) →
    after.contents? place = tree.contents? place

namespace Batch

variable {tree : FileTree} {options : Options} {input destination : Path} {files : List Path}
  (h : Batch tree options input destination files)
include h

theorem nodup_outputs : ((outputsOf tree options input destination files).map Prod.fst).Nodup := by
  unfold outputsOf List.Nodup
  rw [List.pairwise_map, List.pairwise_filterMap]
  apply h.distinct.imp_of_mem
  intro file other hfile hother hne output houtput output' houtput' hsame
  obtain ⟨code, -, hplace, -⟩ := outputOf?_eq_some.1 houtput
  obtain ⟨code', -, hplace', -⟩ := outputOf?_eq_some.1 houtput'
  exact hne (h.separate file hfile other hother _ hplace (hsame ▸ hplace'))

theorem augmented : Augmented tree options input destination files
    (tree.writtenAll (outputsOf tree options input destination files)) := by
  have hothers (place : Place) (hclear : ∀ file ∈ files, (codeAlone? tree options file).isSome →
      tree.place? (mirrored input destination file) ≠ some place) :
      (tree.writtenAll (outputsOf tree options input destination files)).contents? place
        = tree.contents? place := by
    apply FileTree.contents?_writtenAll_of_not_mem
    intro hmem
    obtain ⟨output, houtput, rfl⟩ := List.mem_map.1 hmem
    obtain ⟨file, hfile, houtput⟩ := mem_outputsOf.1 houtput
    obtain ⟨code, hcode, hplace, -⟩ := outputOf?_eq_some.1 houtput
    exact hclear file hfile (by rw [hcode]; rfl) hplace
  constructor
  · intro file hfile code hcode
    obtain ⟨place, hplace, -⟩ := h.writes file hfile (by rw [hcode]; rfl)
    have houtput : outputOf? tree options input destination file
        = some (place, code.toUTF8.toList) := outputOf?_eq_some.2 ⟨code, hcode, hplace, rfl⟩
    exact ⟨place, hplace, FileTree.place?_writtenAll hplace, FileTree.contents?_writtenAll_of_mem
      h.nodup_outputs (mem_outputsOf.2 ⟨file, hfile, houtput⟩)⟩
  · intro file hfile hcode place hplace
    apply hothers place
    intro other hother hsome hsame
    obtain rfl := h.separate file hfile other hother place hplace hsame
    rw [hcode] at hsome
    cases hsome
  · exact hothers

end Batch

/-! ## Runs -/

theorem summarize_eq (results : Results) {session : Session} (hshows : session.console.ShowsAll) :
    ∃ after, summarize results session = (.ok (), after) ∧ after.tree = session.tree := by
  unfold summarize
  dsimp only
  split
  · exact ⟨_, SessionStep.log_eq hshows _, rfl⟩
  · rw [step_bind (SessionStep.display_eq hshows _)]
    have hsecond (part shown : Display) :=
      @SessionStep.display_eq { session with report := session.report ++ [part] } hshows shown
    exact ⟨_, hsecond _ _, rfl⟩

/-- A directory is augmented file by file, and a report on the results ends its run. -/
theorem augmentDirectory_eq {engine : Engine} {input destination : Path} {session : Session}
    (hshows : session.console.ShowsAll) {files : List Path}
    (hfiles : selectFiles session.tree input engine.options.dtoFileNameSuffix = files)
    (hne : files ≠ []) :
    ∃ log, augmentDirectory engine input (some destination) session = (do
      let results ← augmentFiles engine input destination files
      summarize results
      return results.allSucceeded : SessionStep Bool) { session with log } := by
  have hget : (get : SessionStep Session) session = (.ok session, session) := rfl
  unfold augmentDirectory
  dsimp only
  rw [step_bind hget, hfiles]
  cases files with
  | nil => exact absurd rfl hne
  | cons file rest => exact ⟨_, step_bind (SessionStep.log_eq hshows _)⟩

/-- A directory is augmented as a batch of its selected files. -/
theorem augmentDirectory_alone {options : Options} {root input destination : Path}
    (hwrites : options.readonly = false) (hroot : options.pathToSource = some root)
    {session : Session} (hshows : session.console.ShowsAll)
    (hsource : session.tree.isDirectory root = true) {files : List Path}
    (hfiles : selectFiles session.tree input options.dtoFileNameSuffix = files)
    (hbatch : Batch session.tree options input destination files) :
    ∃ after, augmentDirectory { options } input (some destination) session
        = (.ok (files.all fun file => (codeAlone? session.tree options file).isSome), after)
      ∧ after.tree = session.tree.writtenAll
        (outputsOf session.tree options input destination files) := by
  by_cases hne : files = []
  · subst hne
    have hget : (get : SessionStep Session) session = (.ok session, session) := rfl
    unfold augmentDirectory
    dsimp only
    rw [step_bind hget, hfiles]
    exact ⟨_, step_bind (SessionStep.log_eq hshows _), rfl⟩
  · obtain ⟨log, hdirectory⟩ :=
      @augmentDirectory_eq { options } input destination session hshows files hfiles hne
    obtain ⟨results, middle, hrun, hconsole, htree, hall⟩ :=
      @augmentFiles_alone session.tree options root input destination hwrites hroot hsource []
        files hbatch { options } ⟨rfl, fun _ => rfl, nofun⟩ { session with log } hshows rfl fun _ => rfl
    obtain ⟨after, hsummary, hkept⟩ := summarize_eq results (hconsole.symm ▸ hshows)
    rw [hdirectory, step_bind hrun, step_bind hsummary, hall]
    exact ⟨after, rfl, hkept.trans htree⟩

/-- The options that an input is augmented with: unless a source tree is set, the directory of the input
is it. -/
def augmentOptions (tree : FileTree) (input : Path) (options : Options) : Options :=
  { options with
    pathToSource := some (options.pathToSource.getD (tree.resolve (searchDirectory tree input))) }

def Invocation.destination? (invocation : Invocation) (input : Path) : Option Path :=
  (invocation.out.map Path.parse).or (if invocation.inPlace then some input else none)

/-- What a run augments, once its options are loaded. -/
theorem run_augment_eq {invocation : Invocation} {session : Session} {input : Path} {options : Options}
    (hshows : session.console.ShowsAll) (hcommand : invocation.command = .augment)
    (hpath : Path.parse (invocation.path.getD "") = input)
    (hexists : session.tree.exists? input = true)
    (hload : loadedOptions session.tree input invocation.settings.1 = .ok (some options)) :
    ∃ log, invocation.run session = (if session.tree.isFile input = true then
        augmentFile { options := augmentOptions session.tree input options } input
          (invocation.destination? input)
      else augmentDirectory { options := augmentOptions session.tree input options } input
        (invocation.destination? input)) { session with log } := by
  have hget (session : Session) : (get : SessionStep Session) session = (.ok session, session) := rfl
  unfold Invocation.run
  dsimp only
  rw [hpath, step_bind (SessionStep.log_eq hshows _)]
  generalize session.log ++ _ = log
  rw [step_bind (hget _)]
  dsimp only
  rw [if_neg (by simp [hexists]), hcommand]
  obtain ⟨log', hoptions⟩ := @loadOptions_eq input invocation.settings.1 { session with log } hshows
  rw [hload] at hoptions
  dsimp only
  unfold augmentInput
  rw [step_bind hoptions]
  dsimp only
  rw [step_bind (hget _), step_bind (hget _), hshows.eq]
  exact ⟨log', rfl⟩

/-- Augmenting a directory treats every file as if it were alone: the run leaves the code that a fresh
engine gives for it in the tree as it was, and ends well when every file has code. -/
theorem run_alone {invocation : Invocation} {session : Session} {input destination : Path}
    {options : Options} (hshows : session.console.ShowsAll) (hcommand : invocation.command = .augment)
    (hpath : Path.parse (invocation.path.getD "") = input)
    (hdestination : invocation.destination? input = some destination)
    (hsound : session.tree.Sound) (hdirectory : session.tree.isDirectory input = true)
    (hload : loadedOptions session.tree input invocation.settings.1 = .ok (some options))
    (hroot : ∀ root, options.pathToSource = some root → session.tree.isDirectory root = true)
    {files : List Path} (hfiles : selectFiles session.tree input options.dtoFileNameSuffix = files)
    (hplaced : destination = input
      ∨ Receives session.tree (augmentOptions session.tree input options) input destination files) :
    ∃ success after, invocation.run session = (.ok success, after)
      ∧ Augmented session.tree (augmentOptions session.tree input options) input destination files
        after.tree
      ∧ ((Ending.finished success).status = 0 ↔ ∀ file ∈ files,
        (codeAlone? session.tree (augmentOptions session.tree input options) file).isSome) := by
  obtain ⟨base, hbase⟩ : ∃ base, session.tree.place? input = some base := by
    unfold FileTree.isDirectory at hdirectory
    cases hplace : session.tree.place? input with
    | none => simp [hplace] at hdirectory
    | some base => exact ⟨base, rfl⟩
  have hfile : session.tree.isFile input = false := by
    have hat : session.tree.isDirectoryAt base = true := by
      simpa [FileTree.isDirectory, hbase] using hdirectory
    have hnone : session.tree.contents? base = none := by
      by_contra hfound
      have hmem := FileTree.mem_places_of_contents? (Option.isSome_iff_ne_none.2 hfound)
      rw [hsound.files base hmem] at hat
      cases hat
    simp [FileTree.isFile, hbase, hnone]
  have hbatch : Batch session.tree (augmentOptions session.tree input options) input destination
      files := by
    subst hfiles
    rcases hplaced with rfl | hreceives
    · exact (receives_in_place hsound hbase).batch hsound hbase
    · exact hreceives.batch hsound hbase
  -- The source tree is a directory also when none is set.
  have hsource : session.tree.isDirectory (options.pathToSource.getD
      (session.tree.resolve (searchDirectory session.tree input))) = true := by
    cases hset : options.pathToSource with
    | none =>
      unfold searchDirectory
      rw [if_pos hdirectory]
      exact hsound.isDirectory_resolve hdirectory
    | some root => exact hroot root hset
  have hwrites := readonly_of_loadedOptions (nodup_settings invocation) hload
  have hexists : session.tree.exists? input = true := by
    unfold FileTree.exists?
    rw [hdirectory, Bool.or_true]
  obtain ⟨log, haugment⟩ := run_augment_eq hshows hcommand hpath hexists hload
  rw [haugment, hfile, if_neg Bool.false_ne_true, hdestination]
  obtain ⟨after, hrun, htree⟩ := @augmentDirectory_alone (augmentOptions session.tree input options) _
    input destination hwrites rfl { session with log } hshows hsource files hfiles hbatch
  refine ⟨_, after, hrun, ?_, ?_⟩
  · rw [htree]
    exact hbatch.augmented
  · cases hall : files.all fun file =>
      (codeAlone? session.tree (augmentOptions session.tree input options) file).isSome <;>
      simpa [Ending.status] using hall

namespace Nested

def tree : FileTree :=
  { directory := ⟨"/", []⟩
    files := [(["s", "s", "x_models.py"], []),
      (["s", "x_models.py"], "class B: pass\n".toUTF8.toList)] }

def input : Path := ⟨"", ["s"]⟩

def inner : Path := ⟨"", ["s", "s", "x_models.py"]⟩

def outer : Path := ⟨"", ["s", "x_models.py"]⟩

def root : Path := ⟨"/", ["s"]⟩

def options : Options := augmentOptions tree input {}

def invocation (out : String) : Invocation :=
  { command := .augment, path := some "s", out := some out }

theorem sound : tree.Sound := ⟨rfl, by decide, by decide, by decide⟩

theorem selectFiles_eq : selectFiles tree input ({} : Options).dtoFileNameSuffix = [inner, outer] := by
  decide +kernel

theorem indexOf_eq : ∃ index, indexOf {} tree root = .ok index := by
  have hfiles : tree.programFiles root
      = [⟨"/", ["s", "s", "x_models.py"]⟩, ⟨"/", ["s", "x_models.py"]⟩] := by decide +kernel
  unfold indexOf
  rw [hfiles]
  exact ⟨_, by cbv⟩

def source : Source.Module :=
  { body := [.classDef ⟨{}, Source.Gap.space, "B", [], none, []⟩
      (.inline Source.Gap.space ⟨[⟨.verbatim [⟨[], "pass"⟩], none⟩], {}⟩)] }

def code : String :=
  "class B:\n    pass\n\n    @staticmethod\n    def _OPENAPI_METADATA_FACTORY():\n        return \x7b\x7d\n"

theorem code_outer : codeAlone? tree options outer = some code := by
  have hread : tree.readText outer = .ok "class B: pass\n" := by cbv
  have hparse : Source.Module.parse "class B: pass\n" = .ok source := by cbv
  obtain ⟨index, hindex⟩ := indexOf_eq
  have haugmented : ∃ after, augmented (some index) options (tree.resolve outer).render
      (fileKey tree options (tree.resolve outer).render) source = .ok after ∧ after.render = code :=
    ⟨_, by cbv, by decide +kernel⟩
  obtain ⟨after, hafter, hrender⟩ := haugmented
  have hroot : options.pathToSource = some root := rfl
  rw [codeAlone?_eq rfl hroot (by decide) hread, ← hrender]
  unfold codeIn? codeWith?
  rw [hparse, hindex]
  exact congrArg (fun found => (Source.Module.render <$> found).toOption) hafter

/-- An empty text stays as it is, wherever it lies. -/
theorem code_empty (file : String) : codeIn? tree options root "" file = some "" := by
  have hparse : Source.Module.parse "" = .ok { body := [], closed := false } := by cbv
  obtain ⟨index, hindex⟩ := indexOf_eq
  have hsite : ∃ site, siteOf (some index) options file { body := [], closed := false } = .ok site :=
    ⟨_, rfl⟩
  obtain ⟨site, hsite⟩ := hsite
  unfold codeIn? codeWith?
  rw [hparse, hindex]
  change (Source.Module.render <$> augmented (some index) options file (fileKey tree options file)
    { body := [], closed := false }).toOption = some ""
  rw [augmented_eq rfl hsite]
  rfl

theorem code_inner : codeAlone? tree options inner = some "" := by
  have hread : tree.readText inner = .ok "" := by cbv
  have hroot : options.pathToSource = some root := rfl
  rw [codeAlone?_eq rfl hroot (by decide) hread]
  exact code_empty _

/-- The directory beside the input receives the outputs. -/
theorem receives : Receives tree options input ⟨"", ["o"]⟩ [inner, outer] := by
  constructor
  · intro file hfile code _
    rcases List.mem_cons.1 hfile with rfl | hfile
    · exact ⟨_, FileTree.writeText_eq rfl ⟨by decide, by decide⟩ code⟩
    · obtain rfl := List.mem_singleton.1 hfile
      exact ⟨_, FileTree.writeText_eq rfl ⟨by decide, by decide⟩ code⟩
  · intro file hfile other hother _ hsame
    have hbase : tree.place? input = some ["s"] := rfl
    have hthere : tree.place? ⟨"", ["o"]⟩ = some ["o"] := rfl
    rw [← selectFiles_eq] at hfile hother
    exact absurd hsame
      (apart_of_outside sound hbase hthere (by decide) (by decide) hfile hother)

end Nested

/-- Both files have their code beside the input. -/
theorem run_alone_beside : ∃ after,
    (Nested.invocation "o").run { tree := Nested.tree } = (.ok true, after)
      ∧ after.tree.contents? ["o", "s", "x_models.py"] = some "".toUTF8.toList
      ∧ after.tree.contents? ["o", "x_models.py"] = some Nested.code.toUTF8.toList := by
  obtain ⟨success, after, hrun, haugmented, hstatus⟩ := @run_alone (Nested.invocation "o")
    { tree := Nested.tree } Nested.input ⟨"", ["o"]⟩ {} (fun _ => rfl) rfl rfl rfl Nested.sound (by decide) rfl nofun
    _ Nested.selectFiles_eq (.inr Nested.receives)
  have hcodes : ∀ file ∈ [Nested.inner, Nested.outer],
      (codeAlone? Nested.tree Nested.options file).isSome := by
    intro file hfile
    rcases List.mem_cons.1 hfile with rfl | hfile
    · rw [Nested.code_inner]
      rfl
    · obtain rfl := List.mem_singleton.1 hfile
      rw [Nested.code_outer]
      rfl
  have hsuccess : success = true := by
    have hzero := hstatus.2 hcodes
    cases success
    · cases hzero
    · rfl
  obtain ⟨place, hplace, -, hinner⟩ := haugmented.written Nested.inner (by simp) "" Nested.code_inner
  obtain ⟨place', hplace', -, houter⟩ :=
    haugmented.written Nested.outer (by simp) Nested.code Nested.code_outer
  obtain rfl : ["o", "s", "x_models.py"] = place := Option.some.inj hplace
  obtain rfl : ["o", "x_models.py"] = place' := Option.some.inj hplace'
  exact ⟨after, hsuccess ▸ hrun, hinner, houter⟩

namespace Nested

def overwritten : FileTree := tree.written ["s", "x_models.py"] "".toUTF8.toList

/-- A batch of both files that goes to the directory above writes one empty file over the outer file,
and the text that it then reads there beside it. -/
theorem augmentFiles_above {session : Session} (hshows : session.console.ShowsAll)
    (hsession : session.tree = tree) :
    ∃ results after, augmentFiles { options } input ⟨"", []⟩ [inner, outer] session
        = (.ok results, after)
      ∧ after.console = session.console
      ∧ after.tree = overwritten.written ["x_models.py"] "".toUTF8.toList
      ∧ results.allSucceeded = true := by
  have hroot : options.pathToSource = some root := rfl
  have hdirectory : tree.isDirectory root = true := by decide
  have hinner : codeOf? (runPath tree inner ({ options }, [])).1 = some "" := code_inner
  obtain ⟨-, hfollows⟩ := @runPath_shared tree tree options root { options } rfl hroot hdirectory
    ⟨rfl, fun _ => rfl, nofun⟩ (fun _ => rfl) rfl inner rfl []
  have htables : (runPath tree inner ({ options }, [])).2.1.project ≠ none := by
    intro hnone
    cases code_inner.symm.trans (hfollows.idle hnone).2
  have htext : tree.writeText (mirrored input ⟨"", []⟩ inner) "" = .ok overwritten :=
    FileTree.writeText_eq rfl ⟨by decide, by decide⟩ ""
  rw [← hsession] at hinner htext
  obtain ⟨entry, middle, hmiddle, hconsole, hsuccess, hcons⟩ :=
    @augmentFiles_written { options } input ⟨"", []⟩ inner [outer] session hshows _ _ hinner htext
  rw [hsession] at hcons
  generalize (runPath tree inner ({ options }, [])).2.1 = engine at hfollows htables hcons
  have hread : overwritten.readText outer = .ok "" := by cbv
  have hshared := (@run_shared tree overwritten options root engine rfl hroot hdirectory
    hfollows.shares (fun hnone => absurd hnone htables) rfl "" (overwritten.resolve outer).render []).1
  rw [code_empty, ← runPath_ok hread] at hshared
  have htext' : overwritten.writeText (mirrored input ⟨"", []⟩ outer) ""
      = .ok (overwritten.written ["x_models.py"] "".toUTF8.toList) :=
    FileTree.writeText_eq rfl ⟨by decide, by decide⟩ ""
  rw [← hmiddle] at hshared htext'
  obtain ⟨entry', after, hafter, hconsole', hsuccess', hcons'⟩ :=
    @augmentFiles_written engine input ⟨"", []⟩ outer [] middle (hconsole ▸ hshows) _ _ hshared htext'
  refine ⟨_, after, hcons _ _ (hcons' [] after rfl), hconsole'.trans hconsole,
    hafter.trans (by rw [hmiddle]), ?_⟩
  simp [Results.allSucceeded, hsuccess, hsuccess']

end Nested

/-- The directory above the input does not lie in it, and yet the output of the inner file goes where the
outer file lies. That output is what is read there later, and written in place of the outer file's code. -/
theorem run_overwrites_input : ∃ after,
    (Nested.invocation ".").run { tree := Nested.tree } = (.ok true, after)
      ∧ ¬ Nested.input.segments <+: (Path.parse ".").segments
      ∧ codeAlone? Nested.tree Nested.options Nested.outer = some Nested.code
      ∧ after.tree.place? (mirrored Nested.input (Path.parse ".") Nested.outer) = some ["x_models.py"]
      ∧ after.tree.contents? ["x_models.py"] ≠ some Nested.code.toUTF8.toList := by
  obtain ⟨log, haugment⟩ := @run_augment_eq (Nested.invocation ".") { tree := Nested.tree } Nested.input
    {} (fun _ => rfl) rfl rfl (by decide) rfl
  obtain ⟨log', hfiles⟩ := @augmentDirectory_eq { options := Nested.options } Nested.input ⟨"", []⟩
    { tree := Nested.tree, log } (fun _ => rfl) _ Nested.selectFiles_eq (List.cons_ne_nil _ _)
  obtain ⟨results, middle, hrun, hconsole, hmiddle, hall⟩ :=
    @Nested.augmentFiles_above { tree := Nested.tree, log := log' } (fun _ => rfl) rfl
  obtain ⟨after, hsummary, hkept⟩ := @summarize_eq results middle fun _ => by rw [hconsole]
  have hfile : Nested.tree.isFile Nested.input = false := by decide
  refine ⟨after, ?_, by decide, Nested.code_outer, ?_, ?_⟩
  · rw [haugment, if_neg (by rw [hfile]; exact Bool.false_ne_true)]
    rw [step_bind hrun, step_bind hsummary, hall] at hfiles
    exact hfiles
  · rw [hkept, hmiddle]
    rfl
  · rw [hkept, hmiddle, FileTree.contents?_written, if_pos rfl]
    decide +kernel

end ModelMetadata
