import Mathlib
import ModelMetadata.Engine
import ModelMetadata.Proofs.Paths

/-!
Names of files. The module in a file below a source root is named twice: the registry reads its name off
the key of the file, and symbols have it from the segments between root and file. Both names are those
of the directories on the way with the file's own name behind them, and a package is called after its
directory.
-/
set_option autoImplicit false
namespace ModelMetadata

/-- The name of a module and whether it is a package, by the directories on the way to its file and by
the name of the file. -/
def moduleNameOf (directories : List String) (stem : String) : String × Bool :=
  if stem = "__init__" then (joinDots directories, true)
  else (joinDots (directories ++ [stem]), false)

theorem fileStem_append (name : String) : fileStem (name ++ ".py") = name := by
  have hends : (name ++ ".py").endsWith ".py" = true := by
    apply String.Slice.endsWith_string_iff.2
    simp
  unfold fileStem
  rw [if_pos hends]
  apply String.toList_inj.1
  simp

theorem moduleNameFor_of_below {root file : Path} {directories : List String} {stem : String}
    (hbelow : root.below? file = some (directories ++ [stem ++ ".py"])) :
    moduleNameFor (some root) file = moduleNameOf directories stem := by
  unfold moduleNameFor moduleNameOf
  simp [hbelow, fileStem_append]

/-! ## Keys -/

section Keys

variable {directories : List String} {stem : String}

/-- The way down to a file does not begin as a way up, nor with the mark of a key. -/
theorem startsWith_intercalate {pieces : List String} (hne : pieces ≠ [])
    (h : ∀ piece ∈ pieces, Path.IsName piece) :
    ("/".intercalate pieces).startsWith "./" = false
      ∧ ("/".intercalate pieces).startsWith "../" = false ∧ "/".intercalate pieces ≠ ".." := by
  have hslash : ∀ piece ∈ pieces, '/' ∉ piece.toList := fun piece hpiece => (h piece hpiece).noSlash
  have hfirst (lead : List Char) (hlead : '/' ∉ lead)
      (hstart : lead ++ ['/'] <+: ("/".intercalate pieces).toList) :
      String.ofList lead ∈ pieces := by
    obtain ⟨first, rest, rfl⟩ := List.exists_cons_of_ne_nil hne
    rw [Path.ofList_eq_head hslash hlead hstart]
    exact List.mem_cons_self
  have hhere : ¬ "./".toList <+: ("/".intercalate pieces).toList := by
    intro hstart
    exact (h "." (hfirst ['.'] (by decide) hstart)).ne_dot rfl
  have hup : ¬ "../".toList <+: ("/".intercalate pieces).toList := by
    intro hstart
    exact (h ".." (hfirst ['.', '.'] (by decide) hstart)).ne_up rfl
  have hups : "/".intercalate pieces ≠ ".." := by
    intro heq
    have hmem : ".." ∈ pieces := by
      rw [← Path.slashPieces_intercalate hne hslash, heq]
      decide
    exact (h ".." hmem).ne_up rfl
  exact ⟨String.startsWith_string_eq_false_iff.2 hhere, String.startsWith_string_eq_false_iff.2 hup,
    hups⟩

theorem intercalate_stem (directories : List String) (stem : String) :
    "/".intercalate (directories ++ [stem ++ ".py"])
      = "/".intercalate (directories ++ [stem]) ++ ".py" := by
  by_cases hempty : directories = []
  · simp [hempty]
  · have hlast (name : String) : [name] ≠ [] := List.cons_ne_nil name []
    rw [String.intercalate_append_of_ne_nil hempty (hlast _),
      String.intercalate_append_of_ne_nil hempty (hlast _)]
    simp [String.append_assoc]

/-- A key stands for the module that its pieces name, whether or not it is marked. -/
theorem moduleOfKey?_of_names {key : String}
    (hnames : ∀ piece ∈ directories ++ [stem ++ ".py"], Path.IsName piece) (hstem : stem ≠ "")
    (hkey : key = "/".intercalate (directories ++ [stem ++ ".py"])
      ∨ key = "./" ++ "/".intercalate (directories ++ [stem ++ ".py"])) :
    (moduleOfKey? key).getD "" = (moduleNameOf directories stem).1 := by
  obtain ⟨hhere, hup, hups⟩ := startsWith_intercalate (by simp) hnames
  have hway : (if key.startsWith "./" then (key.drop 2).toString else key)
      = "/".intercalate (directories ++ [stem ++ ".py"]) := by
    rcases hkey with rfl | rfl
    · simp only [hhere, Bool.false_eq_true, if_false]
    · rw [if_pos (by simp)]
      apply String.toList_inj.1
      simp
  have hslash : ∀ piece ∈ directories ++ [stem], '/' ∉ piece.toList := by
    intro piece hpiece
    rcases List.mem_append.1 hpiece with hdirectory | hlast
    · exact (hnames piece (List.mem_append_left _ hdirectory)).noSlash
    · have hfile := (hnames (stem ++ ".py") (by simp)).noSlash
      rw [List.mem_singleton.1 hlast]
      exact fun hmem => hfile (by simp [hmem])
  have hpieces := Path.slashPieces_intercalate (by simp) hslash
  have hkept : (directories ++ [stem]).filter (fun piece => piece != "")
      = directories ++ [stem] := by
    apply List.filter_eq_self.2
    intro piece hpiece
    rcases List.mem_append.1 hpiece with hdirectory | hlast
    · simpa using (hnames piece (List.mem_append_left _ hdirectory)).ne_empty
    · simpa [List.mem_singleton.1 hlast] using hstem
  have hempty (name : String) : (if name.isEmpty then none else some name).getD "" = name := by
    split
    · rename_i h
      simpa using h.symm
    · rfl
  unfold moduleOfKey? moduleNameOf
  simp only [hway, hup, Bool.false_or, beq_iff_eq, hups, if_false]
  rw [intercalate_stem, fileStem_append, hpieces, hkept, hempty]
  by_cases hpackage : stem = "__init__"
  · simp [hpackage]
  · simp [hpackage]

end Keys

/-! ## One name -/

/-- The module that the key of a file stands for is the one that the file is analysed as and that an
index lists it under. The package that a root itself is has no name, and its key no module. -/
theorem moduleOfKey_fileKey {options : Options} {root file : Path}
    (hoptions : options.pathToSource = some root) (hroot : root.Resolved) (hfile : file.Resolved)
    (hbackslash : ∀ segment ∈ file.segments, '\\' ∉ segment.toList)
    {directories : List String} {stem : String} (hstem : stem ≠ "")
    (hbelow : root.below? file = some (directories ++ [stem ++ ".py"])) (tree : FileTree) :
    ∃ key, fileKey tree options file.render = .ok key
      ∧ (moduleOfKey? key).getD "" = (moduleNameFor (some root) file).1
      ∧ moduleNameFor options.pathToSource (Path.parse file.render) = moduleNameFor (some root) file
      ∧ moduleNameFor (some root) file = moduleNameOf directories stem := by
  have hsegments := (hroot.below?_eq_some hfile).1 hbelow
  have hnames : ∀ piece ∈ directories ++ [stem ++ ".py"], Path.IsName piece := by
    intro piece hpiece
    apply hfile.names
    rw [hsegments]
    exact List.mem_append_right root.segments hpiece
  have hrootText : Path.forwardSlashes root.render = root.render := by
    apply hroot.normalised.forwardSlashes_render
    intro segment hsegment
    apply hbackslash
    rw [hsegments]
    exact List.mem_append_left _ hsegment
  have hway : tree.directory.relativeText (Path.parse (Path.forwardSlashes root.render))
      (Path.parse (Path.forwardSlashes file.render))
      = "/".intercalate (directories ++ [stem ++ ".py"]) := by
    rw [hrootText, hfile.normalised.forwardSlashes_render hbackslash, hroot.normalised.parse_render,
      hfile.normalised.parse_render]
    exact hroot.relativeText hfile (by simp) hsegments tree.directory
  have hsome : file.render.isEmpty = false := by
    simp [hfile.normalised.render, hfile.root]
  have hname := moduleNameFor_of_below hbelow
  have hkey : fileKey tree options file.render
      = .ok (if ("/".intercalate (directories ++ [stem ++ ".py"])).startsWith "."
          then "/".intercalate (directories ++ [stem ++ ".py"])
          else "./" ++ "/".intercalate (directories ++ [stem ++ ".py"])) := by
    unfold fileKey registryKey
    simp only [hoptions, hsome, hway, Bool.false_eq_true, if_false]
  refine ⟨_, hkey, ?_, ?_, hname⟩
  · rw [hname]
    apply moduleOfKey?_of_names hnames hstem
    split
    · exact .inl rfl
    · exact .inr rfl
  · rw [hoptions, hfile.normalised.parse_render]

namespace Hidden

def root : Path := ⟨"/", ["home", "src"]⟩

def file : Path := ⟨"/", ["home", "src", ".cache", "v1.2", "__init__.py"]⟩

def options : Options := { pathToSource := some root }

def tree : FileTree := { directory := ⟨"/", []⟩ }

theorem file_resolved : file.Resolved := by
  refine ⟨rfl, fun segment hsegment => ?_⟩
  simp only [file, List.mem_cons, List.not_mem_nil, or_false] at hsegment
  rcases hsegment with rfl | rfl | rfl | rfl | rfl <;> constructor <;> decide

theorem root_resolved : root.Resolved := by
  refine ⟨rfl, fun segment hsegment => file_resolved.names segment ?_⟩
  exact List.mem_append_left [".cache", "v1.2", "__init__.py"] hsegment

end Hidden

theorem moduleOfKey_fileKey_of_hidden :
    ∃ key, fileKey Hidden.tree Hidden.options Hidden.file.render = .ok key
      ∧ (moduleOfKey? key).getD "" = ".cache.v1.2"
      ∧ moduleNameFor (some Hidden.root) Hidden.file = (".cache.v1.2", true) := by
  have hbackslash : ∀ segment ∈ Hidden.file.segments, '\\' ∉ segment.toList := by decide
  have hbelow : Hidden.root.below? Hidden.file = some ([".cache", "v1.2"] ++ ["__init__" ++ ".py"]) := by
    decide
  have hstem : "__init__" ≠ "" := by decide
  have hoptions : Hidden.options.pathToSource = some Hidden.root := rfl
  obtain ⟨key, hkey, hmodule, -, hname⟩ := moduleOfKey_fileKey hoptions Hidden.root_resolved
    Hidden.file_resolved hbackslash hstem hbelow Hidden.tree
  have hnamed : moduleNameOf [".cache", "v1.2"] "__init__" = (".cache.v1.2", true) := by decide
  rw [hnamed] at hname
  rw [hname] at hmodule
  exact ⟨key, hkey, hmodule, hname⟩

end ModelMetadata
