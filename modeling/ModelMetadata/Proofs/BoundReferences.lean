import ModelMetadata.Artifact
import ModelMetadata.Proofs.Comparing
import ModelMetadata.Proofs.ModuleParts
import ModelMetadata.Proofs.TypeParts

/-!
References that are bound when a module runs. A type that is found for an annotation is spelled as the
annotation's module spells it, or not at all: what other modules say of it is dropped or replaced. So a
spelling begins with the name of a class, or with a name that an import binds which is not for type
checkers alone, and where no spelling is left the type is imported in place.
-/
set_option autoImplicit false
namespace ModelMetadata

open Source Oracle

/-! ## Spellings -/

/-- A text whose first name a table binds to a class, or by an import that runs. -/
def ModuleSymbols.Spells (symbols : ModuleSymbols) (text : String) : Prop :=
  ∃ head rest, dotPieces text = head :: rest ∧ ((∃ found, symbols.classes.get? head = some found)
    ∨ ∃ binding, symbols.imports.get? head = some binding ∧ binding.typeOnly = false)

/-- A builtin type, or one that is not spelled but as `P` says. -/
def NamedType.SpelledAs (P : String → Prop) (t : NamedType) : Prop :=
  t.isBuiltin = true ∨ ∀ text, t.spelling = some text → P text

theorem NamedType.SpelledAs.unspelledName {t : NamedType} {P : String → Prop} :
    (ResolvedType.unspelledName t).SpelledAs P := by
  unfold ResolvedType.unspelledName
  split
  · rename_i hbuiltin
    exact .inl hbuiltin
  · exact .inr nofun

/-- What is known of types by where they were found: in the host they are spelled as it spells them, and
a name that is provided is spelled as it is asked for. -/
def spellings (oracle : Oracle) : Comparison where
  first := oracle
  second := oracle
  Inside _ := True
  Seen := Eq
  Rel scope s t := s = t ∧ s.Each (fun n => scope = .host → n.SpelledAs oracle.host.Spells)
    (fun base => base.isBuiltin = true)
  Provided spelling s t := s = t ∧ s.Each (NamedType.SpelledAs fun text => spelling = some text)
    (fun base => base.isBuiltin = true)

theorem holds_spellings (oracle : Oracle) : (spellings oracle).Holds where
  symbols _ := rfl
  projectTable? _ := rfl
  built _ := built_each (fun _ _ _ => .inl rfl) (fun _ _ => rfl)
  ofClass {_} _ {head _ rest found _} hpieces hfound hspelling _ _ := by
    refine ⟨rfl, .named ?_⟩
    rintro rfl
    refine .inr fun text htext => ?_
    obtain rfl := Option.some.inj (hspelling.symm.trans htext)
    exact ⟨head, rest, hpieces, .inl ⟨found, hfound⟩⟩
  ofImport {_} _ {head _ _ _ rest binding} hpieces himport _ {_ _} h := by
    refine ⟨h.1, h.2.mono fun n hn => ?_⟩
    rintro rfl
    refine hn.imp_right fun hspelled text htext => ?_
    have hgiven := hspelled text htext
    cases htype : binding.typeOnly with
    | true =>
      rw [htype] at hgiven
      cases hgiven
    | false =>
      rw [htype] at hgiven
      obtain rfl := Option.some.inj hgiven
      exact ⟨head, rest, hpieces, .inr ⟨binding, himport, htype⟩⟩
  inside {_} _ {_ _ _ _ _} _ _ := trivial
  named hspelling _ _ := ⟨rfl, .named (.inr fun _ htext => hspelling.symm.trans htext)⟩
  builtin _ _ := ⟨rfl, .named (.inl rfl)⟩
  unspelled {_} _ {_ _} h _ := ⟨congrArg _ h.1, h.2.unspelled fun _ _ => .unspelledName⟩
  respelled {_} _ {_ _} h _ := by
    refine ⟨congrArg _ h.1, h.2.respelled (fun _ _ => .unspelledName) fun n _ => ?_⟩
    split
    · rename_i hbuiltin
      exact .inl hbuiltin
    · exact .inr fun _ htext => htext
  seenCons h key := congrArg (key :: ·) h
  seenAlias {_} _ {_ _} h {_ _} _ := by rw [show _ = _ from h]
  seenClass {_} _ {_ _} h _ := by rw [show _ = _ from h]
  seenProvided {_} _ {_ _} h {_} hdiffer := absurd (by rw [show _ = _ from h]) hdiffer

/-- A type that an annotation denotes is spelled as its module spells it. -/
theorem Oracle.typeOf_spelled {oracle : Oracle} {e : Expr} {t : ResolvedType}
    (h : oracle.typeOf e = .ok (some t)) :
    t.Each (NamedType.SpelledAs oracle.host.Spells) fun base => base.isBuiltin = true := by
  have hseen : (spellings oracle).Seen [] [] := rfl
  have hresults : Outcomes _ (oracle.typeOf e) (oracle.typeOf e) :=
    (holds_spellings oracle).resolve trivial hseen e
  rw [h] at hresults
  cases hresults with
  | ok hrel =>
    cases hrel with
    | some hrel => exact hrel.2.mono fun n hn => hn rfl

/-! ## References -/

inductive ResolvedType.RefersTo (t : ResolvedType) (s : NamedType) : Prop where
  | type (h : t.reference.named = some s)
  | enumeration {isArray : Bool} (h : t.propertyDomain? = some (.named s, isArray))
  | member {isArray : Bool} {member : String} (h : t.propertyDomain? = some (.enumMember s member, isArray))

theorem ResolvedType.Each.refersTo {P B : NamedType → Prop} {t : ResolvedType} {s : NamedType}
    (h : t.Each P B) (hs : t.RefersTo s) : P s ∨ B s := by
  cases hs with
  | type hs => exact h.reference hs
  | enumeration hs =>
    cases h.propertyDomain? hs with
    | named h => exact .inl h
  | member hs =>
    cases h.propertyDomain? hs with
    | enumMember h => exact .inl h

def NamedType.importText (t : NamedType) : String :=
  ({ t with spelling := none } : NamedType).referenceText false

theorem NamedType.referenceText_cases (t : NamedType) :
    t.referenceText false = t.importText ∨ t.spelling = some (t.referenceText false) := by
  unfold importText referenceText
  cases t.spelling with
  | none => exact .inl rfl
  | some text => exact .inr rfl

/-- Type checkers alone read no class, and nothing that binds a name which is bound when the module
runs. -/
structure Source.Module.GuardsApart (source : Module) : Prop where
  classes {head : ClassHead} {body : Suite} : ModulePart.classDef true head body ∉ source.parts
  names {part other : ModulePart} (hpart : part ∈ source.parts) (hguarded : part.typeOnly = true)
    (hother : other ∈ source.parts) (hruns : other.typeOnly = false) {name : String}
    (hname : name ∈ part.names) : name ∉ other.names

/-- The first name of a text is bound by a part of the module that runs, and the module that the text
reaches into, if it is imported by its own name at all, is so by a part that runs. -/
structure Source.Module.Runs (source : Module) (text : String) : Prop where
  head : ∃ part ∈ source.parts, part.typeOnly = false ∧ (dotPieces text).headD "" ∈ part.names
  module (hdotted : (dotPieces text).dropLast ≠ []) {part : ModulePart} (hpart : part ∈ source.parts)
    (hmodule : joinDots (dotPieces text).dropLast ∈ part.modules) :
    ∃ other ∈ source.parts, other.typeOnly = false
      ∧ joinDots (dotPieces text).dropLast ∈ other.modules

theorem headD_joinDots_dropLast {text : String} (h : (dotPieces text).dropLast ≠ []) :
    (dotPieces (joinDots (dotPieces text).dropLast)).headD "" = (dotPieces text).headD "" := by
  have hplain : ∀ piece ∈ (dotPieces text).dropLast, '.' ∉ piece.toList := by
    intro piece hpiece
    obtain ⟨chars, hchars, rfl⟩ := List.mem_map.1 (List.mem_of_mem_dropLast hpiece)
    simpa using Text.not_mem_of_mem_splitAt hchars
  rw [dotPieces_joinDots_of_plain h hplain]
  match dotPieces text, h with
  | first :: second :: rest, _ => rfl

theorem runs_of_spells {source : Module} {moduleName : String} {isPackage : Bool}
    {symbols : ModuleSymbols} (hcollect : ModuleSymbols.collect source moduleName isPackage = .ok symbols)
    (hapart : source.GuardsApart) {text : String} (h : symbols.Spells text) : source.Runs text := by
  obtain ⟨head, rest, hpieces, hbound⟩ := h
  have hhead : ∃ part ∈ source.parts, part.typeOnly = false ∧ (dotPieces text).headD "" ∈ part.names := by
    rw [hpieces]
    obtain ⟨found, hclass⟩ | ⟨binding, himport, hruns⟩ := hbound
    · obtain ⟨typeOnly, head, body, hpart, rfl⟩ := ModuleSymbols.exists_part_of_class hcollect hclass
      cases typeOnly with
      | true => exact absurd hpart hapart.classes
      | false => exact ⟨_, hpart, rfl, List.mem_singleton_self _⟩
    · obtain ⟨part, hpart, htype, hname⟩ := ModuleSymbols.exists_part_of_import hcollect himport
      exact ⟨part, hpart, htype.trans hruns, hname⟩
  refine ⟨hhead, fun hdotted {part} hpart hmodule => ?_⟩
  -- The module is reached by the first name of the text, which no other part may bind.
  cases htype : part.typeOnly with
  | false => exact ⟨part, hpart, htype, hmodule⟩
  | true =>
    obtain ⟨other, hother, hruns, hname⟩ := hhead
    have hmem := ModulePart.head_mem_names hmodule
    rw [headD_joinDots_dropLast hdotted] at hmem
    exact absurd hname (hapart.names hpart htype hother hruns hmem)

/-- References in augmented modules are bound at run time. Where type checkers alone read no class and no
second import of a name, a reference to a type that is not built in is a text whose first name the module
binds when it runs, which reaches into no module that is imported for type checkers alone, or else imports
the type in place. -/
theorem reference_bound {source : Module} {moduleName : String} {isPackage : Bool}
    {symbols : ModuleSymbols} (hcollect : ModuleSymbols.collect source moduleName isPackage = .ok symbols)
    (hapart : source.GuardsApart) (project : Option ProjectIndex) {e : Expr} {t : ResolvedType}
    (htype : ({ host := symbols, project } : Oracle).typeOf e = .ok (some t)) {s : NamedType}
    (href : t.RefersTo s) (hbuiltin : s.isBuiltin = false) :
    ∃ text, (∀ journal, (s.refer false symbols.moduleName journal).1 = readExpr text)
      ∧ (text = s.importText ∨ source.Runs text) := by
  have hspelled : s.SpelledAs symbols.Spells := by
    obtain hspelled | hbase := (typeOf_spelled htype).refersTo href
    · exact hspelled
    · rw [hbuiltin] at hbase
      cases hbase
  refine ⟨s.referenceText false, NamedType.refer_fst hbuiltin false _,
    s.referenceText_cases.imp_right ?_⟩
  intro htext
  obtain hkind | hspells := hspelled
  · rw [hbuiltin] at hkind
    cases hkind
  · exact runs_of_spells hcollect hapart (hspells _ htext)

namespace Guarded

/-- `import a.b` -/
def importModule (package name : String) : Small :=
  .importModules [⟨Gap.space, (Expr.name package).member name, none, none⟩]

def source (package name : String) : Module where
  body :=
    [.compound [.mk [] (.test "if" Gap.space (.name "TYPE_CHECKING") [])
      (.inline Gap.space ⟨[⟨importModule package name, none⟩], {}⟩)],
     .ofSmall (importModule "a" "b")]

def host (imports : List (String × ImportBinding)) : ModuleSymbols where
  moduleName := "m"
  imports := ⟨imports⟩

/-- `a.b.X` -/
def typeHint (name : String) : Expr := ((Expr.name "a").member name).member "X"

def named (name : String) : NamedType where
  name := "X"
  origin := "a." ++ name
  spelling := some ("a." ++ name ++ ".X")

theorem collect_apart : ModuleSymbols.collect (source "b" "c") "m" false
    = .ok (host [("b", { origin := "b", typeOnly := true }), ("a", { origin := "a" })]) := by
  cbv

theorem guardsApart : (source "b" "c").GuardsApart where
  classes {head body} h := by
    rcases List.mem_cons.1 h with h | h
    · cases h
    · cases List.mem_singleton.1 h
  names {part other} hpart hguarded hother hruns name hname := by
    rcases List.mem_cons.1 hpart with rfl | hpart
    · rcases List.mem_cons.1 hother with rfl | hother
      · cases hruns
      · obtain rfl := List.mem_singleton.1 hother
        revert name
        decide
    · obtain rfl := List.mem_singleton.1 hpart
      cases hguarded

theorem typeOf_apart : ({ host := host [("b", { origin := "b", typeOnly := true }),
    ("a", { origin := "a" })] } : Oracle).typeOf (typeHint "b") = .ok (some (.named (named "b"))) := by
  have hanswer := (adequate_within { host := host [("b", { origin := "b", typeOnly := true }),
    ("a", { origin := "a" })] } 100).resolve .host [] (typeHint "b") (by decide)
  exact (Option.some.inj hanswer).symm

theorem reference_named {name : String} :
    (ResolvedType.named (named name)).reference.named = some (named name) := by
  rw [ResolvedType.reference]
  rfl

end Guarded

theorem reference_bound_of_guarded :
    ∃ text, (∀ journal, ((Guarded.named "b").refer false "m" journal).1 = readExpr text)
      ∧ (text = (Guarded.named "b").importText ∨ (Guarded.source "b" "c").Runs text) :=
  reference_bound Guarded.collect_apart Guarded.guardsApart none Guarded.typeOf_apart
    (.type Guarded.reference_named) rfl

namespace Guarded

theorem collect_shared : ModuleSymbols.collect (source "a" "c") "m" false
    = .ok (host [("a", { origin := "a" })]) := by
  cbv

theorem typeOf_shared : ({ host := host [("a", { origin := "a" })] } : Oracle).typeOf (typeHint "c")
    = .ok (some (.named (named "c"))) := by
  have hanswer := (adequate_within { host := host [("a", { origin := "a" })] } 100).resolve .host []
    (typeHint "c") (by decide)
  exact (Option.some.inj hanswer).symm

/-- Only type checkers import `a.c`. -/
theorem not_runs_shared : ¬ (source "a" "c").Runs "a.c.X" := by
  intro hruns
  obtain ⟨part, hpart, htype, hmodule⟩ := hruns.module (by decide) List.mem_cons_self (by decide)
  rcases List.mem_cons.1 hpart with rfl | hpart
  · cases htype
  · obtain rfl := List.mem_singleton.1 hpart
    revert hmodule
    decide

end Guarded

/-- When two imports bind one name, the table keeps the later one only: the module that type checkers
alone import is reached through the name that the other import binds. -/
theorem reference_unbound :
    ModuleSymbols.collect (Guarded.source "a" "c") "m" false
        = .ok (Guarded.host [("a", { origin := "a" })])
      ∧ ({ host := Guarded.host [("a", { origin := "a" })] } : Oracle).typeOf (Guarded.typeHint "c")
        = .ok (some (.named (Guarded.named "c")))
      ∧ (ResolvedType.named (Guarded.named "c")).RefersTo (Guarded.named "c")
      ∧ (∀ journal, ((Guarded.named "c").refer false "m" journal).1 = readExpr "a.c.X")
      ∧ "a.c.X" ≠ (Guarded.named "c").importText
      ∧ ¬ (Guarded.source "a" "c").Runs "a.c.X" :=
  ⟨Guarded.collect_shared, Guarded.typeOf_shared, .type Guarded.reference_named,
    NamedType.refer_fst rfl false "m", by decide, Guarded.not_runs_shared⟩

end ModelMetadata
