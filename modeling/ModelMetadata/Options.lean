import ModelMetadata.Path

/-!
The options of a run, once they have been checked.
-/
set_option autoImplicit false
namespace ModelMetadata

structure Options where
  /-- Collect metadata for a module of its own instead of changing the classes. -/
  readonly : Bool := false
  /-- Take descriptions, examples and deprecations from docstrings and comments. -/
  introspectComments : Bool := false
  /-- Translate validation markers. -/
  classValidatorShim : Bool := true
  /-- The key that takes the prose of a docstring. -/
  dtoKeyOfComment : String := "description"
  /-- The root that module names and registry keys are relative to. -/
  pathToSource : Option Path := none
  /-- Leave notes about what is skipped. -/
  debug : Bool := false
  /-- The endings of the files that are selected below a directory. -/
  dtoFileNameSuffix : List String := ["dto.py", "entity.py", "models.py"]
deriving Repr, DecidableEq, Inhabited

end ModelMetadata
