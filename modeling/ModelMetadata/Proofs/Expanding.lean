import ModelMetadata.Proofs.HintForms
import ModelMetadata.Proofs.Inquiries

/-!
Aliases are transparent. An alias that stands as an annotation of its own somewhere in an annotation may be
written out: the annotation denotes the same type. The one exception are aliases that come back to
themselves, which the guard of resolution cuts off; and since the guard only knows names of modules, a
table of the project that has the name of the host counts as the host there.
-/
set_option autoImplicit false
namespace ModelMetadata

open Source

/-! ## Aliases -/

structure ModuleSymbols.Abbreviates (symbols : ModuleSymbols) (name : String) (body : Expr) : Prop where
  isIdentifier : Text.isIdentifier name.toList = true
  notNone : name ≠ "None"
  classes : symbols.classes.get? name = none
  aliases : symbols.aliases.get? name = some body
  imports : symbols.imports.get? name = none

inductive Source.Small.Abbreviates (name : String) (body : Expr) : Small → Prop
  | plain {target : Target} (htarget : ModuleSymbols.targetName? target.target = some name)
    (htype : ModuleSymbols.looksLikeType body = true) : Abbreviates name body (.assign [target] body)
  | marked {target typeHint : Expr} {beforeColon afterColon beforeEq afterEq : Gap}
    (htarget : ModuleSymbols.targetName? target = some name) (hmark : typeHint.lastName = "TypeAlias") :
    Abbreviates name body
      (.annotated target beforeColon afterColon typeHint (some { beforeEq, afterEq, value := body }))
  | statement {afterType beforeEq afterEq : Gap} {parameters : List Word} :
    Abbreviates name body (.typeAlias afterType name parameters beforeEq afterEq body)

namespace Oracle

variable {oracle : Oracle} {name : String} {body : Expr}

theorem specialForm?_of_abbreviates {symbols : ModuleSymbols} (halias : symbols.Abbreviates name body) :
    symbols.specialForm? name = none := by
  have hcontains : symbols.aliases.contains name = true := by rw [Table.contains, halias.aliases]; rfl
  simp only [ModuleSymbols.specialForm?, Text.isEmpty_of_isIdentifier halias.isIdentifier,
    dotPieces_of_isIdentifier halias.isIdentifier, halias.imports, hcontains, Bool.or_true,
    Bool.false_eq_true, if_false, if_true]

/-- An alias is followed under its key. -/
theorem resolve_alias (scope : Scope) {seen : List Key}
    (halias : (oracle.symbols scope).Abbreviates name body)
    (hseen : seen.contains ((oracle.symbols scope).moduleName, name) = false) :
    oracle.resolve scope seen (.name name)
      = oracle.resolve scope (((oracle.symbols scope).moduleName, name) :: seen) body := by
  have hne := Text.isEmpty_of_isIdentifier halias.isIdentifier
  have hpieces := dotPieces_of_isIdentifier halias.isIdentifier
  have hbare : bareAlias? (oracle.symbols scope) name [] = some body := halias.aliases
  have hdotted : oracle.resolve scope seen (.name name) = oracle.resolveDotted scope seen name := by
    rw [resolve]
    exact halias.notNone
  rw [hdotted, resolveDotted_of_plain (specialForm?_of_abbreviates halias)]
  refine Option.some.inj (resolveName_eq_step.trans ?_)
  simp only [stepName, hne, hpieces, halias.classes, hbare, hseen, Bool.false_eq_true, if_false]
  rfl

end Oracle

/-! ## Writing aliases out -/

/-- An annotation of a module with some uses of an alias written out, each of them a type on its own. -/
inductive Expanded (symbols : ModuleSymbols) (name : String) (body : Expr) : Expr → Expr → Prop
  | same (e : Expr) : Expanded symbols name body e e
  | trans {e e' e'' : Expr} (h : Expanded symbols name body e e')
    (h' : Expanded symbols name body e' e'') : Expanded symbols name body e e''
  | expand : Expanded symbols name body (.name name) body
  /-- What is written out may need parentheses. -/
  | grouped (afterOpen : Gap) (e : Expr) (beforeClose : Gap) :
    Expanded symbols name body e (.paren afterOpen e beforeClose)
  | inner {e e' : Expr} {afterOpen beforeClose : Gap} (h : Expanded symbols name body e e') :
    Expanded symbols name body (.paren afterOpen e beforeClose) (.paren afterOpen e' beforeClose)
  | left {e e' right : Expr} {beforeOp afterOp : Gap} (h : Expanded symbols name body e e') :
    Expanded symbols name body (.binary e beforeOp "|" afterOp right)
      (.binary e' beforeOp "|" afterOp right)
  | right {e e' left : Expr} {beforeOp afterOp : Gap} (h : Expanded symbols name body e e') :
    Expanded symbols name body (.binary left beforeOp "|" afterOp e)
      (.binary left beforeOp "|" afterOp e')
  | index {e e' owner : Expr} {before close gap : Gap} {comma : Option Gap} {preceding following : List Entry}
    (hliteral : symbols.specialForm? owner.dottedName ≠ some "Literal")
    (h : Expanded symbols name body e e') :
    Expanded symbols name body
      (.subscript owner before (preceding ++ .mk gap (.value e) comma :: following) close)
      (.subscript owner before (preceding ++ .mk gap (.value e') comma :: following) close)
  /-- The type of a member of an inline shape. -/
  | member {e e' key : Expr} {beforeColon afterColon gap close : Gap} {comma : Option Gap}
    {preceding following : List Entry} (h : Expanded symbols name body e e') :
    Expanded symbols name body
      (.dict (preceding ++ .mk gap (.pair key beforeColon afterColon e) comma :: following) close)
      (.dict (preceding ++ .mk gap (.pair key beforeColon afterColon e') comma :: following) close)
  | argument {e e' callee : Expr} {before close gap : Gap} {comma : Option Gap}
    {preceding following : List Entry}
    (hcallee : symbols.specialForm? callee.dottedName = some "TypedDict")
    (h : Expanded symbols name body e e') :
    Expanded symbols name body
      (.call callee before (preceding ++ .mk gap (.value e) comma :: following) close)
      (.call callee before (preceding ++ .mk gap (.value e') comma :: following) close)
  | quoted {q q' e e' : Expr} {text text' : String} (htext : stringValue q = .ok (some text))
    (hparse : Expr.parse (Text.trimmed text) = .ok e) (htext' : stringValue q' = .ok (some text'))
    (hparse' : Expr.parse (Text.trimmed text') = .ok e') (h : Expanded symbols name body e e') :
    Expanded symbols name body q q'

namespace Expanded

variable {symbols : ModuleSymbols} {name : String} {body e e' : Expr}

/-- Writing out an alias of a type makes no ellipsis and removes none. -/
theorem ellipsis_iff (hbody : body.bare ≠ .ellipsis) (h : Expanded symbols name body e e') :
    e.bare = .ellipsis ↔ e'.bare = .ellipsis := by
  induction h with
  | same => rfl
  | trans _ _ ih ih' => exact ih.trans ih'
  | expand => exact iff_of_false nofun hbody
  | grouped => rfl
  | inner _ ih => exact ih
  | quoted htext _ htext' =>
    exact iff_of_false (bare_ne_ellipsis_of_stringValue htext) (bare_ne_ellipsis_of_stringValue htext')
  | _ => exact iff_of_false nofun nofun

/-- Writing out aliases keeps the type of an annotation, if it does so for the alias alone. -/
theorem resolve_eq {oracle : Oracle} (hbody : body.bare ≠ .ellipsis)
    (halias : oracle.resolve .host [] (.name name) = oracle.resolve .host [] body)
    (h : Expanded oracle.host name body e e') :
    oracle.resolve .host [] e = oracle.resolve .host [] e' := by
  induction h with
  | same => rfl
  | trans _ _ ih ih' => exact ih.trans ih'
  | expand => exact halias
  | grouped afterOpen e beforeClose => exact (Oracle.resolve_paren afterOpen beforeClose e).symm
  | inner _ ih => rw [Oracle.resolve_paren, Oracle.resolve_paren, ih]
  | left _ ih => exact Oracle.resolve_bar_congr ih rfl
  | right _ ih => exact Oracle.resolve_bar_congr rfl ih
  | index hliteral h ih =>
    have hliteral : (oracle.symbols .host).specialForm? _ ≠ some "Literal" := hliteral
    apply Oracle.resolve_subscript_congr hliteral
    exact indices_replaced .refl ⟨ih, ellipsis_iff hbody h⟩ _ _ _ _
  | member => rw [Oracle.resolve, Oracle.resolve]
  | argument hcallee =>
    have hspecial : (oracle.symbols .host).specialForm? _ = some "TypedDict" := hcallee
    rw [Oracle.resolve.eq_def, Oracle.resolve.eq_def]
    simp [hspecial]
  | quoted htext hparse htext' hparse' _ ih =>
    rw [Oracle.resolve_quoted htext (quotedIn?_of_parse hparse),
      Oracle.resolve_quoted htext' (quotedIn?_of_parse hparse'), ih]

end Expanded

/-! ## Transparency -/

/-- Aliases are transparent. Let a name of the host be bound to an alias and to nothing else, in
whichever way it is written, and let resolving what it stands for not come back to it. Then the guard that
stops cycles does not show, whatever was passed before; and every annotation denotes the type that it
denotes with the alias written out, in as many places as one likes. -/
theorem alias_transparent (oracle : Oracle) (name : String) (body : Expr)
    (halias : oracle.host.Abbreviates name body) (hbody : body.bare ≠ .ellipsis)
    (hback : ¬ oracle.ComesTo (.hint .host body) (oracle.host.moduleName, name)) :
    (∀ seen, oracle.resolve .host ((oracle.host.moduleName, name) :: seen) body
      = oracle.resolve .host seen body)
    ∧ ∀ e e', Expanded oracle.host name body e e' → oracle.typeOf e = oracle.typeOf e' := by
  have hguard := Oracle.resolve_of_not_comesTo hback
  refine ⟨hguard, fun e e' h => ?_⟩
  have hexpanded : oracle.resolve .host [] (.name name) = oracle.resolve .host [] body := by
    rw [Oracle.resolve_alias .host halias rfl]
    exact hguard []
  exact h.resolve_eq hbody hexpanded

namespace Widening

/-- `Base = int` and `Wide = Base | None` -/
def body : Expr := .binary (.name "Base") [] "|" [] (.name "None")

def host : ModuleSymbols where
  moduleName := "h"
  aliases := ⟨[("Base", .name "int"), ("Wide", body)]⟩

def oracle : Oracle := { host }

theorem abbreviates : host.Abbreviates "Wide" body where
  isIdentifier := by decide
  notNone := by decide
  classes := rfl
  aliases := rfl
  imports := rfl

/-- `list[e]` -/
def listOf (e : Expr) : Expr := .subscript (.name "list") [] [.mk [] (.value e) none] []

/-- All that is asked to resolve `Base | None`. -/
inductive Asked : Inquiry → Prop
  | body : Asked (.hint .host body)
  | base : Asked (.hint .host (.name "Base"))
  | absent : Asked (.hint .host (.name "None"))
  | dotted : Asked (.dotted .host "Base")
  | name : Asked (.name .host "Base")
  | value : Asked (.hint .host (.name "int"))
  | builtin : Asked (.dotted .host "int")

theorem asked_of_asks (inquiry later : Inquiry) (h : Asked inquiry)
    (hasks : oracle.Asks inquiry later) : Asked later := by
  cases h with
  | body =>
    cases hasks with
    | left => exact .base
    | right => exact .absent
    | quoted htext => cases htext
  | base =>
    cases hasks with
    | bare => exact .dotted
    | quoted htext => cases htext
  | absent =>
    cases hasks with
    | bare hnone => exact absurd rfl hnone
    | quoted htext => cases htext
  | dotted =>
    cases hasks with
    | plain => exact .name
  | name =>
    cases hasks with
    | ofClass _ hclass => cases hclass
    | ofAlias hpieces _ halias =>
      cases (dotPieces_of_isIdentifier (by decide)).symm.trans hpieces
      cases halias
      exact .value
    | ofImport _ _ _ himport => cases himport
  | value =>
    cases hasks with
    | bare => exact .builtin
    | quoted htext => cases htext
  | builtin =>
    cases hasks with
    | plain hplain => exact absurd hplain (by decide)

theorem not_comesTo : ¬ oracle.ComesTo (.hint .host body) ("h", "Wide") := by
  rintro ⟨later, hlater, htests⟩
  have hasked : Asked later := Oracle.holds_of_asked asked_of_asks .body hlater
  generalize hkey : ("h", "Wide") = key at htests
  cases hasked with
  | name =>
    cases htests with
    | ofAlias hpieces _ _ =>
      cases (dotPieces_of_isIdentifier (by decide)).symm.trans hpieces
      exact absurd (congrArg Prod.snd hkey) (by decide)
  | _ => cases htests
end Widening

theorem alias_transparent_of_widening :
    Widening.oracle.resolve .host [("h", "Wide")] Widening.body
        = Widening.oracle.resolve .host [] Widening.body
      ∧ Widening.oracle.typeOf (Widening.listOf (.name "Wide"))
        = Widening.oracle.typeOf (Widening.listOf Widening.body) := by
  have h := alias_transparent Widening.oracle "Wide" Widening.body Widening.abbreviates nofun
    Widening.not_comesTo
  refine ⟨h.1 [], h.2 _ _ ?_⟩
  exact @Expanded.index _ _ _ _ _ _ _ _ _ _ [] [] (by decide) .expand

namespace Shadowing

/-- A shim `models`: `from models import Status as Base` and `Status = Base` -/
def host : ModuleSymbols where
  moduleName := "models"
  imports := ⟨[("Base", { origin := "models", imported := some "Status" })]⟩
  aliases := ⟨[("Status", .name "Base")]⟩

/-- The module of the same name that the project knows: `class Status(Enum)` with the member `OPEN` -/
def source : ModuleSymbols where
  moduleName := "models"
  imports := ⟨[("Enum", { origin := "enum", imported := some "Enum" })]⟩
  classes := ⟨[("Status", { name := "Status", bases := [.name "Enum"], members := ["OPEN"] })]⟩

def oracle : Oracle := { host, project := some (ProjectIndex.add {} source) }

theorem abbreviates : host.Abbreviates "Status" (.name "Base") where
  isIdentifier := by decide
  notNone := by decide
  classes := rfl
  aliases := rfl
  imports := rfl

/-- All that is asked to resolve `Base`. -/
inductive Asked : Inquiry → Prop
  | base : Asked (.hint .host (.name "Base"))
  | dotted : Asked (.dotted .host "Base")
  | name : Asked (.name .host "Base")
  | provided : Asked (.provided "models" "Status")
  | bases : Asked (.bases (.project "models") "Status")
  | enum : Asked (.name (.project "models") "Enum")
  | enumeration : Asked (.provided "enum" "Enum")

theorem asked_of_asks (inquiry later : Inquiry) (h : Asked inquiry)
    (hasks : oracle.Asks inquiry later) : Asked later := by
  cases h with
  | base =>
    cases hasks with
    | bare => exact .dotted
    | quoted htext => cases htext
  | dotted =>
    cases hasks with
    | plain => exact .name
  | name =>
    cases hasks with
    | ofClass _ hclass => cases hclass
    | ofAlias hpieces _ halias =>
      cases (dotPieces_of_isIdentifier (by decide)).symm.trans hpieces
      cases halias
    | ofImport hpieces _ _ himport htarget =>
      cases (dotPieces_of_isIdentifier (by decide)).symm.trans hpieces
      cases himport
      cases htarget
      exact .provided
  | provided =>
    cases hasks with
    | providedClass => exact .bases
    | providedAlias _ htable hclass => cases htable; cases hclass
    | passedOn _ htable hclass => cases htable; cases hclass
  | bases =>
    cases hasks with
    | base hclass hbase =>
      cases hclass
      cases List.mem_singleton.1 hbase
      exact .enum
  | enum =>
    cases hasks with
    | ofClass hpieces hclass =>
      cases (dotPieces_of_isIdentifier (by decide)).symm.trans hpieces
      cases hclass
    | ofAlias hpieces _ halias =>
      cases (dotPieces_of_isIdentifier (by decide)).symm.trans hpieces
      cases halias
    | ofImport hpieces _ _ himport htarget =>
      cases (dotPieces_of_isIdentifier (by decide)).symm.trans hpieces
      cases himport
      cases htarget
      exact .enumeration
  | enumeration =>
    cases hasks with
    | providedClass _ htable => cases htable
    | providedAlias _ htable => cases htable
    | passedOn _ htable => cases htable

def status (spelling : String) (isEnum : Bool) : ResolvedType :=
  if isEnum then
    .named { name := "Status", origin := "models", spelling, kind := .enumeration, members := ["OPEN"] }
  else .named { name := "Status", origin := "models", spelling }

theorem typeOf_alias : oracle.typeOf (.name "Status") = .ok (some (status "Base" false)) := by
  have hanswer := (Oracle.adequate_within oracle 100).resolve .host [] (.name "Status") (by decide)
  exact (Option.some.inj hanswer).symm

theorem typeOf_expansion : oracle.typeOf (.name "Base") = .ok (some (status "Base" true)) := by
  have hanswer := (Oracle.adequate_within oracle 100).resolve .host [] (.name "Base") (by decide)
  exact (Option.some.inj hanswer).symm

end Shadowing

/-- The keys of the guard are names of modules, not tables. An alias of a host through a module of the
project that has the host's name is cut off, although nothing on the way asks for the alias again. -/
theorem alias_cut_off_by_namesake :
    Shadowing.oracle.host.Abbreviates "Status" (.name "Base")
      ∧ (∀ later, Relation.ReflTransGen Shadowing.oracle.Asks (.hint .host (.name "Base")) later →
        later ≠ .name .host "Status")
      ∧ Expanded Shadowing.oracle.host "Status" (.name "Base") (.name "Status") (.name "Base")
      ∧ Shadowing.oracle.typeOf (.name "Status") = .ok (some (Shadowing.status "Base" false))
      ∧ Shadowing.oracle.typeOf (.name "Base") = .ok (some (Shadowing.status "Base" true))
      ∧ Shadowing.status "Base" false ≠ Shadowing.status "Base" true := by
  refine ⟨Shadowing.abbreviates, ?_, .expand, Shadowing.typeOf_alias, Shadowing.typeOf_expansion, nofun⟩
  intro later hlater heq
  have hasked : Shadowing.Asked later := Oracle.holds_of_asked Shadowing.asked_of_asks .base hlater
  generalize hname : "Status" = name at heq
  subst heq
  cases hasked
  exact absurd hname (by decide)

end ModelMetadata

