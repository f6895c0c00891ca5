import ModelMetadata.Source.Parser.Expr

/-!
Why the description of a property, or the processing of a text, can fail.
-/
set_option autoImplicit false
namespace ModelMetadata

inductive Fault where
  /-- A text does not follow the grammar. -/
  | malformedSource
  /-- A tree would have no text, or none that stands for the same tree. -/
  | invalidNode
  /-- A literal holds an escape or a character that it must not. -/
  | malformedLiteral
  /-- A literal stands for half of a surrogate pair, which no text here can hold. -/
  | loneSurrogate
  /-- An integer has too many digits to be written. -/
  | overlongInteger
  /-- A value is no primitive; its display is given. -/
  | notPrimitive (display : String)
  /-- A reference to a type is wanted where no type is named; the display of the type's name is
  given. -/
  | namesNoType (display : String)
  /-- A list, set or dict is used as a key. -/
  | unhashable
  /-- An integer is beyond the floating point numbers. -/
  | numberTooLarge
  /-- A path has no segments to be relative. -/
  | emptyPath
  /-- A marker does not take the arguments it is given. -/
  | wrongArguments
  /-- The bytes of a file are no text. -/
  | undecodable (message : String)
  | noFile (path : String)
  | isDirectory (path : String)
  | notDirectory (path : String)
  | fileExists (path : String)
  /-- A text cannot be shown; what the console says against it is given. -/
  | refusedText (words : String)
deriving Repr, DecidableEq, Inhabited

def Fault.ofSource : Source.SourceError → Fault
  | .malformed => .malformedSource
  | .invalid => .invalidNode

def Fault.message : Fault → String
  | .malformedSource => "the source does not follow the grammar"
  | .invalidNode => "the tree has no text"
  | .malformedLiteral => "a literal cannot be evaluated"
  | .loneSurrogate => "surrogates not allowed"
  | .overlongInteger => "an integer has too many digits"
  | .notPrimitive display => "Not a primitive literal: " ++ display
  | .namesNoType display => "Descriptor " ++ display ++ " names no type"
  | .unhashable => "a key cannot be hashed"
  | .numberTooLarge => "int too large to convert to float"
  | .emptyPath => "no path specified"
  | .wrongArguments => "the arguments do not fit"
  | .undecodable message => message
  | .noFile path => "[Errno 2] No such file or directory: '" ++ path ++ "'"
  | .isDirectory path => "[Errno 21] Is a directory: '" ++ path ++ "'"
  | .notDirectory path => "[Errno 20] Not a directory: '" ++ path ++ "'"
  | .fileExists path => "[Errno 17] File exists: '" ++ path ++ "'"
  | .refusedText words => words

/-! ## What a successful step says of its parts -/

theorem bind_eq_ok {ε α β : Type} {x : Except ε α} {f : α → Except ε β} {b : β} :
    x >>= f = .ok b ↔ ∃ a, x = .ok a ∧ f a = .ok b := by
  cases x with
  | error fault => exact ⟨nofun, nofun⟩
  | ok a => exact ⟨fun h => ⟨a, rfl, h⟩, fun ⟨_, ha, h⟩ => by cases ha; exact h⟩

theorem map_eq_ok {ε α β : Type} {x : Except ε α} {f : α → β} {b : β} :
    f <$> x = .ok b ↔ ∃ a, x = .ok a ∧ f a = b := by
  cases x with
  | error fault => exact ⟨nofun, nofun⟩
  | ok a => exact ⟨fun h => ⟨a, rfl, by cases h; rfl⟩, fun ⟨_, ha, h⟩ => by cases ha; cases h; rfl⟩

theorem foldlM_ok {ε α β : Type} {f : β → α → Except ε β} {P : β → Prop} {xs : List α}
    (hstep : ∀ b, P b → ∀ x ∈ xs, ∀ b', f b x = .ok b' → P b') {start result : β} (hstart : P start)
    (h : xs.foldlM f start = .ok result) : P result := by
  induction xs generalizing start with
  | nil =>
    cases h
    exact hstart
  | cons x rest ih =>
    rw [List.foldlM_cons] at h
    obtain ⟨middle, hfirst, h⟩ := bind_eq_ok.1 h
    exact ih (fun b hb y hy => hstep b hb y (List.mem_cons_of_mem x hy))
      (hstep start hstart x List.mem_cons_self middle hfirst) h

namespace Source

def readExpr (text : String) : Except Fault Expr :=
  (Expr.parse text).mapError Fault.ofSource

end Source
end ModelMetadata
