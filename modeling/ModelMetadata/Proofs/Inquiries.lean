import Mathlib.Logic.Relation
import ModelMetadata.Proofs.Lookups

/-!
What resolution asks. Each call of the oracle asks for the answer to something, and to answer it asks on:
from an annotation to its parts, from a name to what it stands for, from a class to its bases. The keys
that resolution has passed are no part of what is asked. They can change an answer in one way only: when
something that is asked on the way tests one of them.
-/
set_option autoImplicit false
namespace ModelMetadata

open Source

/-- What a call of the oracle asks for, the keys passed and spellings aside. -/
inductive Inquiry where
  | hint (scope : Scope) (e : Expr)
  /-- A member of a literal type. -/
  | literal (scope : Scope) (e : Expr)
  | dotted (scope : Scope) (text : String)
  /-- A dotted name that is no special form. -/
  | name (scope : Scope) (text : String)
  /-- A name that a module provides. -/
  | provided (origin name : String)
  /-- Whether a class is an enumeration by one of its bases. -/
  | bases (scope : Scope) (className : String)

def looksThrough (special : String) : Bool :=
  wrapperForms.contains special || arrayForms.contains special || tupleForms.contains special
    || special == "Optional"

namespace Oracle

/-- What is asked to answer something else. -/
inductive Asks (oracle : Oracle) : Inquiry → Inquiry → Prop
  | inner {scope : Scope} {afterOpen beforeClose : Gap} {e : Expr} :
    Asks oracle (.hint scope (.paren afterOpen e beforeClose)) (.hint scope e)
  | bare {scope : Scope} {text : String} (hnone : text ≠ "None") :
    Asks oracle (.hint scope (.name text)) (.dotted scope text)
  | attribute {scope : Scope} {owner : Expr} {beforeDot afterDot : Gap} {attr : String} :
    Asks oracle (.hint scope (.attribute owner beforeDot afterDot attr))
      (.dotted scope (Expr.attribute owner [] [] attr).dottedName)
  | left {scope : Scope} {left right : Expr} {beforeOp afterOp : Gap} :
    Asks oracle (.hint scope (.binary left beforeOp "|" afterOp right)) (.hint scope left)
  | right {scope : Scope} {left right : Expr} {beforeOp afterOp : Gap} :
    Asks oracle (.hint scope (.binary left beforeOp "|" afterOp right)) (.hint scope right)
  | generic {scope : Scope} {owner : Expr} {before close : Gap} {entries : List Entry}
    (hplain : (oracle.symbols scope).specialForm? owner.dottedName = none) :
    Asks oracle (.hint scope (.subscript owner before entries close)) (.hint scope owner)
  | first {scope : Scope} {owner first : Expr} {before close : Gap} {entries : List Entry}
    {special : String} (hspecial : (oracle.symbols scope).specialForm? owner.dottedName = some special)
    (hthrough : looksThrough special = true) (hfirst : (Entry.indices entries).head? = some first) :
    Asks oracle (.hint scope (.subscript owner before entries close)) (.hint scope first)
  | member {scope : Scope} {owner member : Expr} {before close : Gap} {entries : List Entry}
    (hspecial : (oracle.symbols scope).specialForm? owner.dottedName = some "Union")
    (hmember : member ∈ Entry.indices entries) :
    Asks oracle (.hint scope (.subscript owner before entries close)) (.hint scope member)
  | value {scope : Scope} {owner member : Expr} {before close : Gap} {entries : List Entry}
    (hspecial : (oracle.symbols scope).specialForm? owner.dottedName = some "Literal")
    (hmember : member ∈ Entry.indices entries) :
    Asks oracle (.hint scope (.subscript owner before entries close)) (.literal scope member)
  | quoted {scope : Scope} {e inner : Expr} {text : String} (htext : stringValue e = .ok (some text))
    (hinner : quotedIn? text = .ok (some inner)) : Asks oracle (.hint scope e) (.hint scope inner)
  | owner {scope : Scope} {e : Expr} {owner member : String}
    (hsplit : splitMember? e.dottedName = some (owner, member)) :
    Asks oracle (.literal scope e) (.name scope owner)
  | plain {scope : Scope} {dotted : String} (hplain : (oracle.symbols scope).specialForm? dotted = none) :
    Asks oracle (.dotted scope dotted) (.name scope dotted)
  | ofClass {scope : Scope} {dotted head : String} {found : ClassSymbol} (hpieces : dotPieces dotted = [head])
    (hclass : (oracle.symbols scope).classes.get? head = some found) :
    Asks oracle (.name scope dotted) (.bases scope head)
  | ofAlias {scope : Scope} {dotted head : String} {rest : List String} {value : Expr}
    (hpieces : dotPieces dotted = head :: rest)
    (hclass : (oracle.symbols scope).classes.get? head = none)
    (halias : bareAlias? (oracle.symbols scope) head rest = some value) :
    Asks oracle (.name scope dotted) (.hint scope value)
  | ofImport {scope : Scope} {dotted head origin name : String} {rest : List String}
    {binding : ImportBinding} (hpieces : dotPieces dotted = head :: rest)
    (hclass : (oracle.symbols scope).classes.get? head = none)
    (halias : bareAlias? (oracle.symbols scope) head rest = none)
    (himport : (oracle.symbols scope).imports.get? head = some binding)
    (htarget : importTarget? binding rest = some (origin, name)) :
    Asks oracle (.name scope dotted) (.provided origin name)
  | providedClass {origin name : String} {external : ModuleSymbols} {found : ClassSymbol}
    (hordinary : Ordinary origin name) (htable : oracle.projectTable? origin = some external)
    (hclass : external.classes.get? name = some found) :
    Asks oracle (.provided origin name) (.bases (.project origin) name)
  | providedAlias {origin name : String} {external : ModuleSymbols} {value : Expr}
    (hordinary : Ordinary origin name) (htable : oracle.projectTable? origin = some external)
    (hclass : external.classes.get? name = none) (halias : external.aliases.get? name = some value) :
    Asks oracle (.provided origin name) (.hint (.project origin) value)
  | passedOn {origin name : String} {external : ModuleSymbols} {binding : ImportBinding}
    (hordinary : Ordinary origin name) (htable : oracle.projectTable? origin = some external)
    (hclass : external.classes.get? name = none) (halias : external.aliases.get? name = none)
    (himport : external.imports.get? name = some binding) :
    Asks oracle (.provided origin name) (.name (.project origin) name)
  | base {scope : Scope} {className : String} {found : ClassSymbol} {base : Expr}
    (hclass : (oracle.symbols scope).classes.get? className = some found) (hbase : base ∈ found.bases) :
    Asks oracle (.bases scope className) (.name scope (baseName base))

/-- The key that something asked for tests, and passes on to what it asks. -/
inductive Tests (oracle : Oracle) : Inquiry → Key → Prop
  | ofAlias {scope : Scope} {dotted head : String} {rest : List String} {value : Expr}
    (hpieces : dotPieces dotted = head :: rest)
    (hclass : (oracle.symbols scope).classes.get? head = none)
    (halias : bareAlias? (oracle.symbols scope) head rest = some value) :
    Tests oracle (.name scope dotted) ((oracle.symbols scope).moduleName, head)
  | provided {origin name : String} {external : ModuleSymbols} (hordinary : Ordinary origin name)
    (htable : oracle.projectTable? origin = some external)
    (hbound : external.classes.contains name ∨ external.aliases.contains name
      ∨ external.imports.contains name) :
    Tests oracle (.provided origin name) (origin, name)
  | bases {scope : Scope} {className : String} {found : ClassSymbol}
    (hclass : (oracle.symbols scope).classes.get? className = some found) :
    Tests oracle (.bases scope className) (classKey (oracle.symbols scope) className)

/-- Answering something comes to a key, at once or by what is asked on. -/
def ComesTo (oracle : Oracle) (inquiry : Inquiry) (key : Key) : Prop :=
  ∃ later, Relation.ReflTransGen oracle.Asks inquiry later ∧ oracle.Tests later key

variable {oracle : Oracle}

theorem ComesTo.of_asks {inquiry later : Inquiry} {key : Key} (hasks : oracle.Asks inquiry later)
    (h : oracle.ComesTo later key) : oracle.ComesTo inquiry key := by
  obtain ⟨last, hlast, htests⟩ := h
  exact ⟨last, .head hasks hlast, htests⟩

theorem ComesTo.of_tests {inquiry : Inquiry} {key : Key} (htests : oracle.Tests inquiry key) :
    oracle.ComesTo inquiry key :=
  ⟨inquiry, .refl, htests⟩

/-- What holds of an inquiry and passes on to all that it asks holds of all that is asked on the way. -/
theorem holds_of_asked {P : Inquiry → Prop} (hasks : ∀ inquiry later, P inquiry → oracle.Asks inquiry later →
    P later) {inquiry later : Inquiry} (h : P inquiry)
    (hlater : Relation.ReflTransGen oracle.Asks inquiry later) : P later := by
  induction hlater with
  | refl => exact h
  | tail _ hlast ih => exact hasks _ _ ih hlast

end Oracle

/-! ## Keys that make no difference -/

def AgreeBut (key : Key) (seen seen' : List Key) : Prop :=
  ∀ other, other ≠ key → seen.contains other = seen'.contains other

theorem AgreeBut.cons {key : Key} {seen seen' : List Key} (h : AgreeBut key seen seen') (other : Key) :
    AgreeBut key (other :: seen) (other :: seen') := by
  intro third hthird
  simp only [List.contains_cons, h third hthird]

theorem agreeBut_passed (key : Key) (seen : List Key) : AgreeBut key (key :: seen) seen := by
  intro other hother
  have hne : (other == key) = false := by simpa using hother
  simp only [List.contains_cons, hne, Bool.false_or]

/-- A resolver answers something in the same way with either list of keys passed. -/
def Resolver.Same (next : Resolver) (seen seen' : List Key) : Inquiry → Prop
  | .hint scope e => next.resolve scope seen e = next.resolve scope seen' e
  | .literal scope e => next.resolveLiteral scope seen e = next.resolveLiteral scope seen' e
  | .dotted scope text => next.resolveDotted scope seen text = next.resolveDotted scope seen' text
  | .name scope text => next.resolveName scope seen text = next.resolveName scope seen' text
  | .provided origin name => ∀ spelling,
    next.resolveExternal seen origin name spelling = next.resolveExternal seen' origin name spelling
  | .bases scope className => next.isEnumClass scope seen className = next.isEnumClass scope seen' className

/-- A resolver answers something in the same way whether or not a key was passed. -/
def Resolver.Ignores (next : Resolver) (key : Key) (inquiry : Inquiry) : Prop :=
  ∀ seen seen', AgreeBut key seen seen' → next.Same seen seen' inquiry

theorem attempt_bind_congr {α β : Type} {result : Except Fault α} {f g : α → Attempt β}
    (h : ∀ a, result = .ok a → f a = g a) : (reached result >>= f) = (reached result >>= g) := by
  cases result with
  | error fault => rfl
  | ok a => exact h a rfl

theorem attempt_mapM_congr {α β : Type} {f g : α → Attempt β} {xs : List α}
    (h : ∀ x ∈ xs, f x = g x) : xs.mapM f = xs.mapM g := by
  induction xs with
  | nil => rfl
  | cons x rest ih =>
    rw [List.mapM_cons, List.mapM_cons, h x List.mem_cons_self,
      ih fun y hy => h y (List.mem_cons_of_mem x hy)]

theorem attempt_foldlM_congr {α β : Type} {f g : β → α → Attempt β} {xs : List α}
    (h : ∀ b, ∀ x ∈ xs, f b x = g b x) (start : β) : xs.foldlM f start = xs.foldlM g start := by
  induction xs generalizing start with
  | nil => rfl
  | cons x rest ih =>
    rw [List.foldlM_cons, List.foldlM_cons, h start x List.mem_cons_self]
    exact congrArg _ (funext fun b => ih (fun b y hy => h b y (List.mem_cons_of_mem x hy)) b)

namespace Oracle

section Step

variable {oracle : Oracle} {next : Resolver} {key : Key} {scope : Scope} {seen seen' : List Key}
  (hseen : AgreeBut key seen seen')
include hseen

theorem stepSubscript_same {owner : Expr} {before close : Gap} {entries : List Entry}
    (h : ∀ later, oracle.Asks (.hint scope (.subscript owner before entries close)) later →
      next.Ignores key later) :
    oracle.stepResolve next scope seen (.subscript owner before entries close)
      = oracle.stepResolve next scope seen' (.subscript owner before entries close) := by
  unfold stepResolve
  dsimp only
  split
  · rename_i hplain
    exact h _ (.generic hplain) _ _ hseen
  rename_i special hspecial
  split
  · rfl
  rename_i first rest hindices
  have hfirst (hthrough : looksThrough special = true) :
      next.resolve scope seen first = next.resolve scope seen' first :=
    h _ (.first hspecial hthrough (by rw [hindices]; rfl)) _ _ hseen
  split
  · rename_i hwrapper
    exact hfirst (by simp only [looksThrough, hwrapper, Bool.true_or])
  split
  · rename_i harray
    rw [hfirst (by simp only [looksThrough, harray, Bool.true_or, Bool.or_true])]
  split
  · rename_i htuple
    rw [hfirst (by simp only [looksThrough, htuple, Bool.true_or, Bool.or_true])]
  split
  · rfl
  split
  · rename_i hoptional
    rw [hfirst (by simp only [looksThrough, hoptional, Bool.or_true])]
  split
  · rename_i hunion
    have hall : ∀ member ∈ Entry.indices entries,
        next.resolve scope seen member = next.resolve scope seen' member := by
      intro member hmember
      exact h _ (.member (eq_of_beq hunion ▸ hspecial) hmember) _ _ hseen
    rw [attempt_mapM_congr hall]
  split
  · rename_i hliteral
    have hall : ∀ before?, ∀ member ∈ Entry.indices entries,
        addLiteral next scope seen before? member = addLiteral next scope seen' before? member := by
      intro before? member hmember
      cases before? with
      | none => rfl
      | some found =>
        have hmember : next.resolveLiteral scope seen member = next.resolveLiteral scope seen' member :=
          h _ (.value (eq_of_beq hliteral ▸ hspecial) hmember) _ _ hseen
        simp only [addLiteral, hmember]
    rw [attempt_foldlM_congr hall]
  · rfl

theorem stepResolve_same {e : Expr}
    (h : ∀ later, oracle.Asks (.hint scope e) later → next.Ignores key later) :
    oracle.stepResolve next scope seen e = oracle.stepResolve next scope seen' e := by
  unfold stepResolve
  split
  case h_1 => exact h _ .inner _ _ hseen
  case h_2 => rfl
  case h_3 hnone => exact h _ (.bare fun heq => hnone (heq ▸ rfl)) _ _ hseen
  case h_4 => exact h _ .attribute _ _ hseen
  case h_5 left _ _ right =>
    have hleft : next.resolve scope seen left = next.resolve scope seen' left := h _ .left _ _ hseen
    have hright : next.resolve scope seen right = next.resolve scope seen' right :=
      h _ .right _ _ hseen
    rw [hleft, hright]
  case h_6 =>
    have hsubscript := stepSubscript_same hseen h
    unfold stepResolve at hsubscript
    exact hsubscript
  case h_7 => rfl
  case h_8 => rfl
  case h_9 =>
    refine attempt_bind_congr fun text? htext => ?_
    cases text? with
    | none => rfl
    | some text =>
      refine attempt_bind_congr fun inner? hinner => ?_
      cases inner? with
      | none => rfl
      | some inner => exact h _ (.quoted htext hinner) _ _ hseen

theorem stepLiteral_same {e : Expr}
    (h : ∀ later, oracle.Asks (.literal scope e) later → next.Ignores key later) :
    stepLiteral next scope seen e = stepLiteral next scope seen' e := by
  unfold stepLiteral
  split
  · rfl
  refine attempt_bind_congr fun value? _ => ?_
  cases value? with
  | some value => rfl
  | none =>
    dsimp only
    split
    · rfl
    rename_i owner member hsplit
    have howner : next.resolveName scope seen owner = next.resolveName scope seen' owner :=
      h _ (.owner hsplit) _ _ hseen
    rw [howner]

theorem stepDotted_same {dotted : String}
    (h : ∀ later, oracle.Asks (.dotted scope dotted) later → next.Ignores key later) :
    oracle.stepDotted next scope seen dotted = oracle.stepDotted next scope seen' dotted := by
  unfold stepDotted
  split
  · rfl
  · rename_i hplain
    exact h _ (.plain hplain) _ _ hseen

theorem stepName_same {dotted : String} (htests : ¬ oracle.Tests (.name scope dotted) key)
    (h : ∀ later, oracle.Asks (.name scope dotted) later → next.Ignores key later) :
    oracle.stepName next scope seen dotted = oracle.stepName next scope seen' dotted := by
  unfold stepName
  split
  · rfl
  split
  · rfl
  rename_i head rest hpieces
  split
  · rename_i found hclass
    split
    · rename_i hrest
      obtain rfl := List.isEmpty_iff.1 hrest
      have hbases : next.isEnumClass scope seen head = next.isEnumClass scope seen' head :=
        h _ (.ofClass hpieces hclass) _ _ hseen
      rw [hbases]
    · rfl
  rename_i hclass
  split
  · rename_i value halias
    have hne : ((oracle.symbols scope).moduleName, head) ≠ key := by
      rintro rfl
      exact htests (.ofAlias hpieces hclass halias)
    rw [hseen _ hne]
    split
    · rfl
    · exact h _ (.ofAlias hpieces hclass halias) _ _ (hseen.cons _)
  rename_i halias
  split
  · rename_i binding himport
    split
    · rename_i origin name htarget
      exact h _ (.ofImport hpieces hclass halias himport htarget) _ _ hseen _
    · rfl
  · rfl

theorem stepExternal_same {origin name : String} (spelling : Option String)
    (htests : ¬ oracle.Tests (.provided origin name) key)
    (h : ∀ later, oracle.Asks (.provided origin name) later → next.Ignores key later) :
    oracle.stepExternal next seen origin name spelling
      = oracle.stepExternal next seen' origin name spelling := by
  unfold stepExternal
  dsimp only
  split
  · rfl
  rename_i htyping
  split
  · rfl
  rename_i hbuiltins
  split
  · rfl
  rename_i hbase
  have hordinary : Ordinary origin name :=
    ⟨Bool.eq_false_iff.2 htyping, Bool.eq_false_iff.2 hbuiltins, Bool.eq_false_iff.2 hbase⟩
  split
  · rfl
  rename_i external htable
  by_cases hbound : external.classes.contains name ∨ external.aliases.contains name
      ∨ external.imports.contains name
  swap
  · -- A name that the module does not bind is unknown, whether or not it was passed before.
    simp only [Table.contains, not_or, Bool.not_eq_true, Option.isSome_eq_false_iff,
      Option.isNone_iff_eq_none] at hbound
    simp only [hbound, ite_self]
  have hne : (origin, name) ≠ key := by
    rintro rfl
    exact htests (.provided hordinary htable hbound)
  rw [hseen _ hne]
  split
  · rfl
  split
  · rename_i found hclass
    have hbases : next.isEnumClass (.project origin) ((origin, name) :: seen) name
        = next.isEnumClass (.project origin) ((origin, name) :: seen') name :=
      h _ (.providedClass hordinary htable hclass) _ _ (hseen.cons _)
    rw [hbases]
  rename_i hclass
  split
  · rename_i value halias
    have hvalue : next.resolve (.project origin) ((origin, name) :: seen) value
        = next.resolve (.project origin) ((origin, name) :: seen') value :=
      h _ (.providedAlias hordinary htable hclass halias) _ _ (hseen.cons _)
    rw [hvalue]
  rename_i halias
  split
  · rename_i binding himport
    have hname : next.resolveName (.project origin) ((origin, name) :: seen) name
        = next.resolveName (.project origin) ((origin, name) :: seen') name :=
      h _ (.passedOn hordinary htable hclass halias himport) _ _ (hseen.cons _)
    rw [hname]
  · rfl

theorem stepEnumClass_same {className : String}
    (htests : ¬ oracle.Tests (.bases scope className) key)
    (h : ∀ later, oracle.Asks (.bases scope className) later → next.Ignores key later) :
    oracle.stepEnumClass next scope seen className = oracle.stepEnumClass next scope seen' className := by
  unfold stepEnumClass
  split
  · rfl
  rename_i found hclass
  have hne : classKey (oracle.symbols scope) className ≠ key := by
    rintro rfl
    exact htests (.bases hclass)
  rw [hseen _ hne]
  split
  · rfl
  refine attempt_foldlM_congr (fun isEnum base hbase => ?_) false
  split
  · rfl
  have hname : next.resolveName scope (classKey (oracle.symbols scope) className :: seen) (baseName base)
      = next.resolveName scope (classKey (oracle.symbols scope) className :: seen') (baseName base) :=
    h _ (.base hclass hbase) _ _ (hseen.cons _)
  rw [hname]

omit hseen in
/-- One step ignores a key that it does not test, when what it asks on ignores the key. -/
theorem step_ignores {inquiry : Inquiry} (htests : ¬ oracle.Tests inquiry key)
    (h : ∀ later, oracle.Asks inquiry later → next.Ignores key later) :
    (oracle.step next).Ignores key inquiry := by
  intro seen seen' hseen
  cases inquiry with
  | hint scope e => exact stepResolve_same hseen h
  | literal scope e => exact stepLiteral_same hseen h
  | dotted scope text => exact stepDotted_same hseen h
  | name scope text => exact stepName_same hseen htests h
  | provided origin name => exact fun spelling => stepExternal_same hseen spelling htests h
  | bases scope className => exact stepEnumClass_same hseen htests h

end Step

/-- Within any depth, what does not come to a key is answered as if the key had not been passed. -/
theorem within_ignores {oracle : Oracle} {key : Key} (depth : Nat) {inquiry : Inquiry}
    (h : ¬ oracle.ComesTo inquiry key) : (oracle.within depth).Ignores key inquiry := by
  induction depth generalizing inquiry with
  | zero =>
    intro seen seen' hseen
    cases inquiry with
    | provided => exact fun spelling => rfl
    | _ => rfl
  | succ depth ih =>
    apply step_ignores
    · intro htests
      exact h (.of_tests htests)
    · intro later hasks
      exact ih fun hlater => h (.of_asks hasks hlater)

/-- The guard changes nothing but cycles: where resolving an annotation does not come to a key, the
annotation denotes the same type whether or not the key was passed. -/
theorem resolve_of_not_comesTo {oracle : Oracle} {key : Key} {scope : Scope} {e : Expr}
    (h : ¬ oracle.ComesTo (.hint scope e) key) (seen : List Key) :
    oracle.resolve scope (key :: seen) e = oracle.resolve scope seen e := by
  let depth := oracle.reserve (key :: seen) + oracle.reserve seen + e.weight + 6
  have hsame : (oracle.within depth).resolve scope (key :: seen) e
      = (oracle.within depth).resolve scope seen e :=
    within_ignores depth h _ _ (agreeBut_passed key seen)
  rw [(adequate_within oracle depth).resolve scope (key :: seen) e (by omega),
    (adequate_within oracle depth).resolve scope seen e (by omega)] at hsame
  exact Option.some.inj hsame

end Oracle
end ModelMetadata
