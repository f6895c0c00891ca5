import ModelMetadata.Engine
import ModelMetadata.Proofs.CanonicalLiterals

/-!
Late imports. The function that imports the module of a file is read from a text that holds the name of
the module between quotes, as it is. A name of plain characters comes out of it unchanged: the text is
one call, its argument is one literal, and the literal stands for the name.
-/
set_option autoImplicit false
namespace ModelMetadata

open Source Parser

/-! ## Literals of plain characters -/

theorem unescape_eq_self {text : List Char} (h : ∀ c ∈ text, isPlain c = true) :
    Text.unescape (text.length + 1) text = some (text.map Char.toNat) := by
  induction text with
  | nil => rfl
  | cons c rest ih =>
    obtain ⟨hc, hrest⟩ := List.forall_mem_cons.1 h
    have hslash : c ≠ '\\' := by
      rintro rfl
      exact absurd hc (by decide)
    exact Text.unescape_cons hslash (ih hrest)

/-- A literal of plain characters stands for the characters between its quotes. -/
theorem readString_plain {name : String} (h : IsPlainText name) :
    readString ("\"" ++ name ++ "\"") = .ok (.text name) := by
  have hreturn : '\r' ∉ name.toList := fun hmem => absurd (h _ hmem) (by decide)
  have hnul : '\x00' ∉ name.toList := fun hmem => absurd (h _ hmem) (by decide)
  have hread := readString_between (splitQuote_plain h (by simp)) hreturn hnul (unescape_eq_self h)
  have htoken : String.ofList ('"' :: (name.toList ++ ['"'])) = "\"" ++ name ++ "\"" := by
    apply String.toList_inj.1
    simp
  rwa [htoken, String.ofList_toList] at hread

/-! ## The text of a late import -/

def importTokens (token : String) : List Token :=
  [.word .name ⟨[], "importlib"⟩, .word .operator ⟨[], "."⟩, .word .name ⟨[], "import_module"⟩,
    .word .operator ⟨[], "("⟩, .word .string ⟨[], token⟩, .word .operator ⟨[], ")"⟩]

def importChars (name : String) : List Char :=
  "importlib".toList ++ '.' :: ("import_module".toList
    ++ '(' :: '"' :: (name.toList ++ '"' :: [')']))

theorem toList_importText (name : String) :
    ("importlib.import_module(\"" ++ name ++ "\")").toList = importChars name := by
  have hopening : "importlib.import_module(\"".toList
      = "importlib".toList ++ '.' :: ("import_module".toList ++ ['(', '"']) := by decide
  have hclosing : "\")".toList = ['"', ')'] := by decide
  have hassoc (package function chars : List Char) :
      package ++ '.' :: (function ++ ['(', '"']) ++ chars ++ ['"', ')']
        = package ++ '.' :: (function ++ '(' :: '"' :: (chars ++ '"' :: [')'])) := by simp
  rw [String.toList_append, String.toList_append, hopening, hclosing]
  exact hassoc _ _ name.toList

theorem tokenize?_import {name : String} (h : IsPlainText name) :
    tokenize? (importChars name) = some (lineTokens (importTokens ("\"" ++ name ++ "\""))) := by
  have hlib : Text.isIdentifier "importlib".toList = true := by decide
  have hmodule : Text.isIdentifier "import_module".toList = true := by decide
  have hflush : Flush (importChars name) := flush_of_isIdentifier hlib _
  have hlib9 : "importlib".toList.length = 9 := by decide
  have hmodule13 : "import_module".toList.length = 13 := by decide
  have hfuel : (importChars name).length + 1
      = name.toList.length + 21 + 1 + 1 + 1 + 1 + 1 + 1 + 1 := by
    unfold importChars
    rw [List.length_append, List.length_cons, List.length_append, hlib9, hmodule13,
      List.length_cons, List.length_cons, List.length_append, List.length_cons, List.length_cons,
      List.length_nil]
    omega
  apply tokenize?_line hflush
  rw [hfuel]
  have hend : scanLine (firstLineEnd (importChars name)) [] (name.toList.length + 21 + 1) {} false []
      = some ([], ⟨"", none, none⟩, []) := scanLine_nil false rfl rfl
  have hclose : scanWord { brackets := [')'] } [')'] = some (.operator, ")", {}, []) :=
    scanWord_close (.inl rfl) []
  have hstring : scanWord { brackets := [')'] } ('"' :: (name.toList ++ '"' :: [')']))
      = some (.string, "\"" ++ name ++ "\"", { brackets := [')'] }, [')']) :=
    scanWord_plain h (by simp)
  have hopen : scanWord {} ('(' :: '"' :: (name.toList ++ '"' :: [')']))
      = some (.operator, "(", { brackets := [')'] }, '"' :: (name.toList ++ '"' :: [')'])) :=
    scanWord_open (.inl rfl) rfl _ rfl
  have hmember : scanWord {} ("import_module".toList ++ '(' :: '"' :: (name.toList ++ '"' :: [')']))
      = some (.name, "import_module", {}, '(' :: '"' :: (name.toList ++ '"' :: [')'])) :=
    scanWord_name hmodule (by simp; decide)
  have hdot : scanWord {} ('.' :: ("import_module".toList
      ++ '(' :: '"' :: (name.toList ++ '"' :: [')'])))
      = some (.operator, ".", {}, "import_module".toList
        ++ '(' :: '"' :: (name.toList ++ '"' :: [')'])) := scanWord_dot (by decide) _
  have hname : scanWord {} (importChars name)
      = some (.name, "importlib", {}, '.' :: ("import_module".toList
        ++ '(' :: '"' :: (name.toList ++ '"' :: [')']))) := scanWord_name hlib (by simp; decide)
  exact scanLine_word true hflush rfl hname
    (scanLine_word false (.cons (by decide) _) rfl hdot
      (scanLine_word false (flush_of_isIdentifier hmodule _) rfl hmember
        (scanLine_word false (.cons (by decide) _) rfl hopen
          (scanLine_word false (.cons (by decide) _) rfl hstring
            (scanLine_word false (.cons (by decide) _) rfl hclose hend)))))

/-- The call of `import_module` with a literal. -/
def importOf (token : String) : Expr :=
  ((Expr.name "importlib").member "import_module").callWith [.string token]

theorem parse_import {name : String} (h : IsPlainText name) :
    Expr.parse ("importlib.import_module(\"" ++ name ++ "\")")
      = .ok (importOf ("\"" ++ name ++ "\"")) := by
  have hread (token : String) : soleLine
      (Prod.snd <$> Grammar.starExpressions (Grammar.rulesFor (lineTokens (importTokens token))))
      (lineTokens (importTokens token)) = some (importOf token, []) := rfl
  have hmixes (token : String) : mixesBytes none (lineTokens (importTokens token)) = false := rfl
  exact parse_of_line (by rw [toList_importText, tokenize?_import h]) (hread _) (hmixes _)

def Source.Expr.Imports (handle : Expr) (name : String) : Prop :=
  ∃ argument, handle = Expr.thunk
      (((Expr.name "importlib").member "import_module").callWith [argument])
    ∧ stringValue argument = .ok (some name)

/-- A late import of a plain name is read as an import of just that name. -/
theorem lateImport_plain {name : String} (h : IsPlainText name) :
    ∃ handle, lateImport name = .ok handle ∧ handle.Imports name := by
  refine ⟨Expr.thunk (importOf ("\"" ++ name ++ "\"")), ?_, .string ("\"" ++ name ++ "\""), rfl, ?_⟩
  · unfold lateImport readExpr
    rw [parse_import h]
    rfl
  · unfold stringValue stringLiteral
    rw [readString_plain h]
    rfl

end ModelMetadata
