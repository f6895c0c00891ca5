import ModelMetadata.Proofs.Dotting
import ModelMetadata.Proofs.FileNames

/-!
Relative imports. The dots of a relative import lead from the directory of a file upwards, the first one to
this directory itself, and what comes after them leads down again. Symbols are named by dotted names alone:
taking names off the end of that of a module, and no name less when it is a package, comes to the name of the
file at the end of that way.
-/
set_option autoImplicit false
namespace ModelMetadata

/-! ## Files of modules -/

/-- The way down to the file of a module with a dotted name, and to that of the package itself where there
is no name. -/
def moduleFile : List String → List String
  | [] => ["__init__.py"]
  | [name] => [name ++ ".py"]
  | directory :: next :: rest => directory :: moduleFile (next :: rest)

theorem moduleNameFor_moduleFile (root : Path) (directories : List String) {names : List String}
    (hnames : ∀ name ∈ names, name ≠ "__init__") :
    (moduleNameFor (some root) (root.join ⟨"", directories ++ moduleFile names⟩)).1
      = joinDots (directories ++ names) := by
  have hfile (directories : List String) (stem : String) :
      moduleNameFor (some root) (root.join ⟨"", directories ++ [stem ++ ".py"]⟩)
        = moduleNameOf directories stem :=
    moduleNameFor_of_below (root.below?_join _)
  induction names using moduleFile.induct generalizing directories with
  | case1 =>
    rw [List.append_nil]
    exact congrArg Prod.fst (hfile directories "__init__")
  | case2 name =>
    rw [moduleFile, hfile, moduleNameOf, if_neg (hnames name List.mem_cons_self)]
  | case3 directory next rest ih =>
    have hinside := ih (directories ++ [directory]) fun name hname =>
      hnames name (List.mem_cons_of_mem _ hname)
    rwa [List.append_assoc, List.append_assoc] at hinside

/-! ## Ways up -/

namespace ModuleSymbols

def packageNames (symbols : ModuleSymbols) : List String :=
  let names := if symbols.moduleName.isEmpty then [] else dotPieces symbols.moduleName
  if symbols.isPackage then names else names.dropLast

variable {symbols : ModuleSymbols}

/-- Each dot after the first one takes a name off the end. -/
theorem resolveRelative_eq {level : Nat} (hlevel : 1 ≤ level) (target : Option String) :
    symbols.resolveRelative level target
      = joinDots (symbols.packageNames.take (symbols.packageNames.length + 1 - level)
        ++ (target.filter fun text => !text.isEmpty).toList) := by
  have hkept : (if 1 < (level : Int) then
        symbols.packageNames.take (symbols.packageNames.length - ((level : Int) - 1).toNat)
      else symbols.packageNames)
      = symbols.packageNames.take (symbols.packageNames.length + 1 - level) := by
    split
    · congr 1
      omega
    · rw [List.take_of_length_le (by omega)]
  exact congrArg (fun names => joinDots (names ++ _)) hkept

/-- The names of a dotted name, none where it is empty. -/
theorem names_joinDots {names : List String} (hfirst : ∀ name ∈ names.head?, name ≠ "")
    (hdots : ∀ name ∈ names, '.' ∉ name.toList) :
    (if (joinDots names).isEmpty then [] else dotPieces (joinDots names)) = names := by
  cases names with
  | nil => rfl
  | cons name rest =>
    rw [isEmpty_joinDots_cons (hfirst name rfl) rest,
      dotPieces_joinDots_of_plain (List.cons_ne_nil _ _) hdots]
    rfl

/-- The first dot stands for the directory of a file, whether the file is that of the package or another
one in it. -/
theorem packageNames_eq {directories : List String} {stem : String}
    (hdirectories : ∀ name ∈ directories, name ≠ "" ∧ '.' ∉ name.toList) (hstem : '.' ∉ stem.toList)
    (hnamed : (symbols.moduleName, symbols.isPackage) = moduleNameOf directories stem) :
    symbols.packageNames = directories := by
  have hplain : ∀ name ∈ directories, '.' ∉ name.toList := fun name hname =>
    (hdirectories name hname).2
  unfold moduleNameOf at hnamed
  unfold packageNames
  split at hnamed
  · obtain ⟨hname, hpackage⟩ := Prod.mk.inj hnamed
    simp only [hname, hpackage, if_true]
    exact names_joinDots (fun name hname => (hdirectories name (List.mem_of_mem_head? hname)).1) hplain
  · obtain ⟨hname, hpackage⟩ := Prod.mk.inj hnamed
    simp only [hname, hpackage, Bool.false_eq_true, if_false]
    have hdots : ∀ name ∈ directories ++ [stem], '.' ∉ name.toList :=
      List.forall_mem_append.2 ⟨hplain, List.forall_mem_singleton.2 hstem⟩
    cases directories with
    | nil =>
      -- the file may be called `.py`: its module has the empty name, and no names
      split
      · rfl
      · rw [dotPieces_joinDots_of_plain (List.concat_ne_nil _ _) hdots, List.dropLast_concat]
    | cons directory rest =>
      rw [names_joinDots (by simpa using (hdirectories directory List.mem_cons_self).1) hdots,
        List.dropLast_concat]

end ModuleSymbols

def dottedTarget (names : List String) : Option String :=
  if names = [] then none else some (joinDots names)

/-- A relative import means the module in the file that its dots and its names lead to from the directory
of the file that it stands in. Directories and plain modules have no dots in their names: no import reaches
those that do. -/
theorem resolveRelative_leads {root file : Path} {directories : List String} {stem : String}
    (hbelow : root.below? file = some (directories ++ [stem ++ ".py"]))
    (hdirectories : ∀ name ∈ directories, name ≠ "" ∧ '.' ∉ name.toList) (hstem : '.' ∉ stem.toList)
    {symbols : ModuleSymbols}
    (hnamed : (symbols.moduleName, symbols.isPackage) = moduleNameFor (some root) file)
    {level : Nat} (hlevel : 1 ≤ level) {names : List String}
    (hnames : ∀ name ∈ names, name ≠ "" ∧ name ≠ "__init__") :
    symbols.resolveRelative level (dottedTarget names)
      = (moduleNameFor (some root) (root.join
          ⟨"", directories.take (directories.length + 1 - level) ++ moduleFile names⟩)).1 := by
  rw [moduleNameFor_of_below hbelow] at hnamed
  rw [ModuleSymbols.resolveRelative_eq hlevel,
    ModuleSymbols.packageNames_eq hdirectories hstem hnamed,
    moduleNameFor_moduleFile root _ fun name hname => (hnames name hname).2]
  cases names with
  | nil => rfl
  | cons name rest =>
    have hempty := isEmpty_joinDots_cons (hnames name List.mem_cons_self).1 rest
    have htarget : (dottedTarget (name :: rest)).filter (fun text => !text.isEmpty)
        = some (joinDots (name :: rest)) := by
      rw [dottedTarget, if_neg (List.cons_ne_nil _ _), Option.filter_some, hempty]
      rfl
    rw [htarget]
    exact joinDots_append_joinDots _ (List.cons_ne_nil _ _)

namespace Upward

def root : Path := ⟨"/", ["home", "src"]⟩

def file : Path := ⟨"/", ["home", "src", "app", "models", "user.py"]⟩

def symbols : ModuleSymbols := { moduleName := "app.models.user" }

theorem below_file : root.below? file = some (["app", "models"] ++ ["user" ++ ".py"]) := by decide

end Upward

/-- Two dots lead from `app/models/user.py` to `app`. -/
theorem resolveRelative_leads_of_upward :
    Upward.symbols.resolveRelative 2 (dottedTarget ["core", "base"])
      = (moduleNameFor (some Upward.root)
          (Upward.root.join ⟨"", ["app"] ++ moduleFile ["core", "base"]⟩)).1 :=
  resolveRelative_leads Upward.below_file (by decide) (by decide) (by cbv) (by decide) (by decide)

end ModelMetadata
