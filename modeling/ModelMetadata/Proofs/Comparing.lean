import ModelMetadata.Proofs.Dotting
import ModelMetadata.Proofs.Resolution
import ModelMetadata.Proofs.TypeParts
import ModelMetadata.Reference

/-!
Answers compared. Two resolvers are asked about the same annotations of the same module, but may have
passed other keys and may look into other tables besides. A relation between types that every way to build
a type keeps holds between their answers, call by call, so long as it holds between the answers about
names. A type by itself can be compared too: with itself, for what is known of it.
-/
set_option autoImplicit false
namespace ModelMetadata

open Source Oracle

/-! ## Outcomes -/

/-- The same fault, or results as `R` says. -/
inductive Outcomes {α β : Type} (R : α → β → Prop) : Except Fault α → Except Fault β → Prop where
  | fault (fault : Fault) : Outcomes R (.error fault) (.error fault)
  | ok {a : α} {b : β} (h : R a b) : Outcomes R (.ok a) (.ok b)

theorem Outcomes.mono {α β : Type} {R R' : α → β → Prop} {r : Except Fault α} {s : Except Fault β}
    (h : Outcomes R r s) (hR : ∀ a b, R a b → R' a b) : Outcomes R' r s := by
  cases h with
  | fault fault => exact .fault fault
  | ok hab => exact .ok (hR _ _ hab)

theorem Outcomes.self {α : Type} {R : α → α → Prop} (hR : ∀ a, R a a) (r : Except Fault α) :
    Outcomes R r r := by
  cases r with
  | error fault => exact .fault fault
  | ok a => exact .ok (hR a)

theorem Outcomes.eq {α : Type} {r s : Except Fault α} (h : Outcomes Eq r s) : r = s := by
  cases h with
  | fault => rfl
  | ok h => rw [h]

theorem Outcomes.bind {α β γ δ : Type} {R : α → β → Prop} {S : γ → δ → Prop} {r : Except Fault α}
    {s : Except Fault β} {f : α → Except Fault γ} {g : β → Except Fault δ} (h : Outcomes R r s)
    (hfg : ∀ a b, R a b → Outcomes S (f a) (g b)) : Outcomes S (r >>= f) (s >>= g) := by
  cases h with
  | fault fault => exact .fault fault
  | ok hab => exact hfg _ _ hab

theorem Outcomes.foldlM {α β ε : Type} {R : α → β → Prop} {xs : List ε} {f : α → ε → Except Fault α}
    {g : β → ε → Except Fault β} (h : ∀ x ∈ xs, ∀ a b, R a b → Outcomes R (f a x) (g b x)) {a : α} {b : β}
    (hab : R a b) : Outcomes R (xs.foldlM f a) (xs.foldlM g b) := by
  induction xs generalizing a b with
  | nil => exact .ok hab
  | cons x rest ih =>
    rw [List.foldlM_cons, List.foldlM_cons]
    exact (h x List.mem_cons_self a b hab).bind fun _ _ =>
      ih fun y hy => h y (List.mem_cons_of_mem x hy)

/-- If both attempts reach a result, the results are as `R` says. -/
def Agree {α β : Type} (R : α → β → Prop) (x : Attempt α) (y : Attempt β) : Prop :=
  ∀ r s, x = reached r → y = reached s → Outcomes R r s

theorem eq_of_rel {α : Type} {x y : Option α} (h : Option.Rel Eq x y) : x = y := by
  cases h with
  | none => rfl
  | some h => rw [h]

theorem rel_self {α : Type} {R : α → α → Prop} {x : Option α} (h : ∀ a, x = some a → R a a) :
    Option.Rel R x x := by
  cases x with
  | none => exact .none
  | some a => exact .some (h a rfl)

theorem rel_bind {α β γ δ : Type} {R : α → β → Prop} {S : γ → δ → Prop} {x : Option α}
    {y : Option β} {f : α → Option γ} {g : β → Option δ} (h : Option.Rel R x y)
    (hfg : ∀ a b, R a b → Option.Rel S (f a) (g b)) : Option.Rel S (x.bind f) (y.bind g) := by
  cases h with
  | none => exact .none
  | some hab => exact hfg _ _ hab

theorem rel_map {α β γ δ : Type} {R : α → β → Prop} {S : γ → δ → Prop} {x : Option α}
    {y : Option β} {f : α → γ} {g : β → δ} (h : Option.Rel R x y)
    (hfg : ∀ a b, R a b → S (f a) (g b)) : Option.Rel S (x.map f) (y.map g) := by
  cases h with
  | none => exact .none
  | some hab => exact .some (hfg _ _ hab)

namespace Agree

variable {α β γ δ : Type} {R : α → β → Prop} {S : γ → δ → Prop}

theorem reached {r : Except Fault α} {s : Except Fault β} (h : Outcomes R r s) :
    Agree R (reached r) (reached s) := by
  intro r' s' hr hs
  cases hr
  cases hs
  exact h

theorem ok {a : α} {b : β} (h : R a b) :
    Agree R (ModelMetadata.reached (.ok a)) (ModelMetadata.reached (.ok b)) :=
  reached (.ok h)

theorem pure {a : α} {b : β} (h : R a b) : Agree R (Pure.pure a) (Pure.pure b) := ok h

/-- Nothing is said of an attempt that reaches no result. -/
theorem spent {y : Attempt β} : Agree R (ExceptT.mk none) y := by
  intro r s hr
  cases hr

theorem refl {R : α → α → Prop} {x : Attempt α} (h : ∀ a, x = ModelMetadata.reached (.ok a) → R a a) :
    Agree R x x := by
  intro r s hr hs
  have heq : r = s := Option.some.inj (hr.symm.trans hs)
  subst heq
  cases r with
  | error fault => exact .fault fault
  | ok a => exact .ok (h a hr)

theorem mono {R' : α → β → Prop} {x : Attempt α} {y : Attempt β} (h : Agree R x y)
    (hR : ∀ a b, R a b → R' a b) : Agree R' x y :=
  fun r s hr hs => (h r s hr hs).mono hR

theorem bind {x : Attempt α} {y : Attempt β} {f : α → Attempt γ} {g : β → Attempt δ}
    (h : Agree R x y) (hfg : ∀ a b, R a b → Agree S (f a) (g b)) : Agree S (x >>= f) (y >>= g) := by
  cases x with
  | none => exact fun r s hr => by cases hr
  | some r =>
    cases y with
    | none => exact fun r s _ hs => by cases hs
    | some s =>
      cases h r s rfl rfl with
      | fault fault => exact reached (.fault fault)
      | ok hab => exact hfg _ _ hab

/-- A step that both take. -/
theorem bind_same {x : Attempt α} {f : α → Attempt γ} {g : α → Attempt δ}
    (hfg : ∀ a, x = ModelMetadata.reached (.ok a) → Agree S (f a) (g a)) : Agree S (x >>= f) (x >>= g) :=
  bind (R := fun a b => a = b ∧ x = ModelMetadata.reached (.ok a)) (refl fun _ ha => ⟨rfl, ha⟩)
    fun a _ hab => hab.1 ▸ hfg a hab.2

theorem mapM {ε ζ : Type} {xs : List ε} {ys : List ζ} {f : ε → Attempt α} {g : ζ → Attempt β}
    (h : List.Forall₂ (fun x y => Agree R (f x) (g y)) xs ys) :
    Agree (fun as bs => as.length = xs.length ∧ List.Forall₂ R as bs) (xs.mapM f) (ys.mapM g) := by
  induction h with
  | nil => exact ok ⟨rfl, .nil⟩
  | cons hfirst _ ih =>
    rw [List.mapM_cons, List.mapM_cons]
    refine hfirst.bind fun a b hab => ih.bind fun as bs hrest => ?_
    exact ok ⟨congrArg (· + 1) hrest.1, .cons hab hrest.2⟩

theorem foldlM {ε : Type} {xs : List ε} {f : α → ε → Attempt α} {g : β → ε → Attempt β}
    (h : ∀ a b, R a b → ∀ x ∈ xs, Agree R (f a x) (g b x)) {a : α} {b : β} (hab : R a b) :
    Agree R (xs.foldlM f a) (xs.foldlM g b) := by
  induction xs generalizing a b with
  | nil => exact ok hab
  | cons x rest ih =>
    rw [List.foldlM_cons, List.foldlM_cons]
    refine (h a b hab x List.mem_cons_self).bind fun a b hab => ?_
    exact ih (fun a b hab y hy => h a b hab y (List.mem_cons_of_mem _ hy)) hab

end Agree

/-! ## Relations between types -/

/-- A relation between types that is kept by every way to build a type from others. -/
structure Built (R : ResolvedType → ResolvedType → Prop) : Prop where
  none : R .none .none
  builtin {name : String} (h : name ∈ builtinTypes) : R (.builtin name) (.builtin name)
  array {s t : ResolvedType} (h : R s t) : R (.array s) (.array t)
  enumMember {s t : NamedType} (h : R (.named s) (.named t)) (member : String) :
    R (.enumMember s member) (.enumMember t member)
  ofMembers {ss ts : List ResolvedType} (hne : ss ≠ []) (h : List.Forall₂ R ss ts) :
    R (.ofMembers ss) (.ofMembers ts)
  literal (value : Primitive) :
    R (.literal value (.builtin value.typeName)) (.literal value (.builtin value.typeName))
  isEnumeration {s t : ResolvedType} (h : R s t) : s.isEnumeration = t.isEnumeration

theorem built_eq : Built Eq where
  none := rfl
  builtin _ := rfl
  array h := congrArg _ h
  enumMember h member := congrArg (ResolvedType.enumMember · member) (ResolvedType.named.inj h)
  ofMembers _ h := congrArg _ (List.forall₂_eq_eq_eq ▸ h)
  literal _ := rfl
  isEnumeration h := congrArg _ h

theorem eq_and_forall {P : ResolvedType → Prop} {ss ts : List ResolvedType}
    (h : List.Forall₂ (fun s t => s = t ∧ P s) ss ts) : ss = ts ∧ ∀ s ∈ ss, P s := by
  induction h with
  | nil => exact ⟨rfl, by simp⟩
  | cons hfirst _ ih => exact ⟨by rw [hfirst.1, ih.1], List.forall_mem_cons.2 ⟨hfirst.2, ih.2⟩⟩

/-- What is known of all named types in a type, as a relation of types to themselves. -/
theorem built_each {P B : NamedType → Prop} (hP : ∀ name ∈ builtinTypes, P (.builtin name))
    (hB : ∀ name ∈ builtinTypes, B (.builtin name)) : Built fun s t => s = t ∧ s.Each P B where
  none := ⟨rfl, .none⟩
  builtin h := ⟨rfl, .named (hP _ h)⟩
  array h := ⟨congrArg _ h.1, .array h.2⟩
  enumMember h _ := by
    obtain ⟨heq, heach⟩ := h
    cases heq
    cases heach with
    | named h => exact ⟨rfl, .enumMember h⟩
  ofMembers _ h := by
    obtain ⟨heq, heach⟩ := eq_and_forall h
    exact ⟨congrArg _ heq, .ofMembers heach⟩
  literal value := ⟨rfl, .literal (hB _ (by cases value <;> (simp only [Primitive.typeName]; decide)))⟩
  isEnumeration h := congrArg _ h.1

/-- A special form stands for a builtin type, if for any. -/
theorem bareSpecial_builtin (special : String) :
    bareSpecial special = none ∨ ∃ name ∈ builtinTypes, bareSpecial special = some (.builtin name) := by
  unfold bareSpecial
  split
  · exact .inr ⟨_, by decide, rfl⟩
  split
  · exact .inr ⟨_, by decide, rfl⟩
  split
  · exact .inr ⟨_, by decide, rfl⟩
  split
  · rename_i hbuiltin
    exact .inr ⟨_, List.contains_iff_mem.1 hbuiltin, rfl⟩
  · exact .inl rfl

/-! ## Annotations of one form -/

def Source.Expr.isReference : Expr → Bool
  | .name text => text != "None"
  | .attribute .. => true
  | _ => false

def Source.Expr.isOther : Expr → Bool
  | .paren .. | .name _ | .attribute .. | .subscript .. | .call .. | .dict .. => false
  | .binary _ _ op _ _ => op != "|"
  | _ => true

/-- Whether the arguments of a call are `None` alone. -/
def isNoneAlone (entries : List Entry) : Bool :=
  match entries with
  | [entry] => (entry.item.argument.map fun e => e.isName "None").getD false
  | _ => false

/-- The same member of a literal type, but for the names that its owner is looked up by. -/
structure SameLiteral (GoodName : String → String → Prop) (e e' : Expr) : Prop where
  none : e.isName "None" = e'.isName "None"
  value : literalValue e = literalValue e'
  owner : Option.Rel (fun split split' => GoodName split.1 split'.1 ∧ split.2 = split'.2)
    (splitMember? e.dottedName) (splitMember? e'.dottedName)

/-- Two annotations are of one form, their parts and the names in them as the relations say. -/
inductive SameForm (Good : Expr → Expr → Prop) (GoodName : String → String → Prop)
    (GoodLiteral : Expr → Expr → Prop) (symbols : ModuleSymbols) : Expr → Expr → Prop
  | paren {e e' : Expr} {afterOpen beforeClose afterOpen' beforeClose' : Gap} (h : Good e e') :
    SameForm Good GoodName GoodLiteral symbols (.paren afterOpen e beforeClose)
      (.paren afterOpen' e' beforeClose')
  | none : SameForm Good GoodName GoodLiteral symbols (.name "None") (.name "None")
  | reference {e e' : Expr} (he : e.isReference = true) (he' : e'.isReference = true)
    (h : GoodName e.dottedName e'.dottedName) : SameForm Good GoodName GoodLiteral symbols e e'
  | bar {left left' right right' : Expr} {beforeOp beforeOp' afterOp afterOp' : Gap}
    (hleft : Good left left') (hright : Good right right') :
    SameForm Good GoodName GoodLiteral symbols (.binary left beforeOp "|" afterOp right)
      (.binary left' beforeOp' "|" afterOp' right')
  | subscript {owner owner' : Expr} {before close before' close' : Gap} {entries entries' : List Entry}
    (howner : Good owner owner') (hname : GoodName owner.dottedName owner'.dottedName)
    (hliteral : symbols.specialForm? owner.dottedName ≠ some "Literal")
    (hindices : List.Forall₂ Good (Entry.indices entries) (Entry.indices entries'))
    (hellipsis : List.Forall₂ (fun e e' => e.bare = .ellipsis ↔ e'.bare = .ellipsis)
      (Entry.indices entries) (Entry.indices entries')) :
    SameForm Good GoodName GoodLiteral symbols (.subscript owner before entries close)
      (.subscript owner' before' entries' close')
  | literal {owner owner' : Expr} {before close before' close' : Gap} {entries entries' : List Entry}
    (hname : GoodName owner.dottedName owner'.dottedName)
    (hliteral : symbols.specialForm? owner.dottedName = some "Literal")
    (hindices : List.Forall₂ GoodLiteral (Entry.indices entries) (Entry.indices entries')) :
    SameForm Good GoodName GoodLiteral symbols (.subscript owner before entries close)
      (.subscript owner' before' entries' close')
  | call {callee callee' : Expr} {before close before' close' : Gap} {entries entries' : List Entry}
    (hname : GoodName callee.dottedName callee'.dottedName)
    (hnone : isNoneAlone entries = isNoneAlone entries') :
    SameForm Good GoodName GoodLiteral symbols (.call callee before entries close)
      (.call callee' before' entries' close')
  | dict {entries entries' : List Entry} {close close' : Gap} :
    SameForm Good GoodName GoodLiteral symbols (.dict entries close) (.dict entries' close')
  | other {e e' : Expr} (he : e.isOther = true) (he' : e'.isOther = true)
    (htext : stringValue e = stringValue e')
    (hread : ∀ text inner, stringValue e = .ok (some text) → quotedIn? text = .ok (some inner) →
      Good inner inner) : SameForm Good GoodName GoodLiteral symbols e e'
  | quoted {q q' e e' : Expr} {text text' : String} (hq : q.isOther = true) (hq' : q'.isOther = true)
    (htext : stringValue q = .ok (some text)) (hread : quotedIn? text = .ok (some e))
    (htext' : stringValue q' = .ok (some text')) (hread' : quotedIn? text' = .ok (some e'))
    (h : Good e e') : SameForm Good GoodName GoodLiteral symbols q q'

/-- The expressions and the names that resolvers are asked about: the parts of an annotation and of what
it quotes are among them with it. -/
structure Inputs where
  Good : Expr → Prop
  GoodName : String → Prop
  paren {afterOpen beforeClose : Gap} {inner : Expr} (h : Good (.paren afterOpen inner beforeClose)) :
    Good inner
  operands {left right : Expr} {beforeOp afterOp : Gap}
    (h : Good (.binary left beforeOp "|" afterOp right)) : Good left ∧ Good right
  subscript {owner : Expr} {before close : Gap} {entries : List Entry}
    (h : Good (.subscript owner before entries close)) :
    Good owner ∧ ∀ member ∈ Entry.indices entries, Good member
  callee {callee : Expr} {before close : Gap} {entries : List Entry}
    (h : Good (.call callee before entries close)) : Good callee
  quoted {text : String} {inner : Expr} (h : quotedIn? text = .ok (some inner)) : Good inner
  dottedName {e : Expr} (h : Good e) : GoodName e.dottedName
  owner {e : Expr} {owner member : String} (h : Good e)
    (hsplit : splitMember? e.dottedName = some (owner, member)) : GoodName owner

namespace Inputs

def all : Inputs where
  Good _ := True
  GoodName _ := True
  paren _ := trivial
  operands _ := ⟨trivial, trivial⟩
  subscript _ := ⟨trivial, fun _ _ => trivial⟩
  callee _ := trivial
  quoted _ := trivial
  dottedName _ := trivial
  owner _ _ := trivial

variable (inputs : Inputs)

/-- An annotation that is asked about, beside itself. -/
def Same (e e' : Expr) : Prop := e = e' ∧ inputs.Good e

def SameName (dotted dotted' : String) : Prop := dotted = dotted' ∧ inputs.GoodName dotted

variable {inputs}

theorem Same.literal {e e' : Expr} (h : inputs.Same e e') : SameLiteral inputs.SameName e e' := by
  obtain ⟨rfl, he⟩ := h
  exact ⟨rfl, rfl, rel_self fun split hsplit => ⟨⟨rfl, inputs.owner he hsplit⟩, rfl⟩⟩

/-- An annotation is of one form with itself. -/
theorem Same.form {e e' : Expr} (h : inputs.Same e e') (symbols : ModuleSymbols) :
    SameForm inputs.Same inputs.SameName inputs.Same symbols e e' := by
  obtain ⟨rfl, he⟩ := h
  have hother (hother : e.isOther = true) : SameForm inputs.Same inputs.SameName inputs.Same symbols e e :=
    .other hother hother rfl fun text inner _ hread => ⟨rfl, inputs.quoted hread⟩
  cases e with
  | paren => exact .paren ⟨rfl, inputs.paren he⟩
  | name text =>
    by_cases hnone : text = "None"
    · subst hnone
      exact .none
    · exact .reference (bne_iff_ne.2 hnone) (bne_iff_ne.2 hnone) ⟨rfl, inputs.dottedName he⟩
  | «attribute» => exact .reference rfl rfl ⟨rfl, inputs.dottedName he⟩
  | subscript owner before entries close =>
    obtain ⟨howner, hindices⟩ := inputs.subscript he
    by_cases hliteral : symbols.specialForm? owner.dottedName = some "Literal"
    · exact .literal ⟨rfl, inputs.dottedName howner⟩ hliteral
        (List.forall₂_same.2 fun member hmember => ⟨rfl, hindices member hmember⟩)
    · exact .subscript ⟨rfl, howner⟩ ⟨rfl, inputs.dottedName howner⟩ hliteral
        (List.forall₂_same.2 fun member hmember => ⟨rfl, hindices member hmember⟩)
        (List.forall₂_same.2 fun _ _ => Iff.rfl)
  | call => exact .call ⟨rfl, inputs.dottedName (inputs.callee he)⟩ rfl
  | dict => exact .dict
  | binary left beforeOp op afterOp right =>
    by_cases hbar : op = "|"
    · subst hbar
      obtain ⟨hleft, hright⟩ := inputs.operands he
      exact .bar ⟨rfl, hleft⟩ ⟨rfl, hright⟩
    · exact hother (bne_iff_ne.2 hbar)
  | _ => exact hother rfl

end Inputs

/-- The answers of two resolvers about one module are as `R` says, each with its keys passed, where the
relations say that the questions correspond. -/
structure Alike (Good : Expr → Expr → Prop) (GoodName : String → String → Prop)
    (GoodLiteral : Expr → Expr → Prop) (R : ResolvedType → ResolvedType → Prop) (scope : Scope)
    (seen seen' : List Key) (next next' : Resolver) : Prop where
  resolve {e e' : Expr} (he : Good e e') :
    Agree (Option.Rel R) (next.resolve scope seen e) (next'.resolve scope seen' e')
  resolveLiteral {e e' : Expr} (he : GoodLiteral e e') :
    Agree (Option.Rel R) (next.resolveLiteral scope seen e) (next'.resolveLiteral scope seen' e')
  resolveDotted {dotted dotted' : String} (hdotted : GoodName dotted dotted') :
    Agree (Option.Rel R) (next.resolveDotted scope seen dotted) (next'.resolveDotted scope seen' dotted')
  resolveName {dotted dotted' : String} (hdotted : GoodName dotted dotted') :
    Agree (Option.Rel R) (next.resolveName scope seen dotted) (next'.resolveName scope seen' dotted')

section Step

/-- Who is asked about a reference. -/
theorem stepResolve_reference {oracle : Oracle} {next : Resolver} {scope : Scope} {seen : List Key} {e : Expr}
    (he : e.isReference = true) :
    oracle.stepResolve next scope seen e = next.resolveDotted scope seen e.dottedName := by
  cases e with
  | name text =>
    have hnone : text ≠ "None" := bne_iff_ne.1 he
    unfold stepResolve
    split
    case h_2 heq => exact absurd (Expr.name.inj heq) hnone
    case h_3 heq =>
      cases heq
      rfl
    case h_9 hname _ _ _ _ _ => exact (hname _ rfl).elim
    all_goals cases ‹_ = _›
  | «attribute» => rfl
  | _ => cases he

def stepText (next : Resolver) (scope : Scope) (seen : List Key) (e : Expr) :
    Attempt (Option ResolvedType) := do
  match ← reached (stringValue e) with
  | none => return none
  | some text =>
    match ← reached (quotedIn? text) with
    | none => return none
    | some inner => next.resolve scope seen inner

theorem stepText_eq {next : Resolver} {scope : Scope} {seen : List Key} {q e : Expr} {text : String}
    (htext : stringValue q = .ok (some text)) (hread : quotedIn? text = .ok (some e)) :
    stepText next scope seen q = next.resolve scope seen e := by
  unfold stepText
  rw [reached_ok_bind htext]
  dsimp only
  rw [reached_ok_bind hread]

theorem stepResolve_other {oracle : Oracle} {next : Resolver} {scope : Scope} {seen : List Key} {e : Expr}
    (he : e.isOther = true) : oracle.stepResolve next scope seen e = stepText next scope seen e := by
  cases e with
  | binary left beforeOp op afterOp right =>
    have hop : op ≠ "|" := bne_iff_ne.1 he
    unfold stepResolve
    split
    case h_5 heq => exact absurd (Expr.binary.inj heq).2.2.1 hop
    case h_9 => rfl
    all_goals cases ‹_ = _›
  | paren | name | «attribute» | subscript | call | dict => cases he
  | _ => rfl

variable {Good : Expr → Expr → Prop} {GoodName : String → String → Prop}
  {GoodLiteral : Expr → Expr → Prop} {R : ResolvedType → ResolvedType → Prop} {scope : Scope}
  {seen seen' : List Key} {next next' : Resolver} {first second : Oracle}

/-- The union of members that are all found. -/
theorem Built.members (hR : Built R) {found found' : List (Option ResolvedType)} (hne : found ≠ [])
    (h : List.Forall₂ (Option.Rel R) found found') :
    Option.Rel R ((found.mapM id).map .ofMembers) ((found'.mapM id).map .ofMembers) := by
  have hall : Option.Rel (fun ss ts => ss.length = found.length ∧ List.Forall₂ R ss ts)
      (found.mapM id) (found'.mapM id) := by
    clear hne
    induction h with
    | nil => exact .some ⟨rfl, .nil⟩
    | cons hfirst _ ih =>
      rw [List.mapM_cons, List.mapM_cons]
      refine rel_bind hfirst fun s t hst => rel_bind ih fun ss ts hrest => ?_
      exact .some ⟨congrArg (· + 1) hrest.1, .cons hst hrest.2⟩
  refine rel_map hall fun ss ts hst => hR.ofMembers ?_ hst.2
  rintro rfl
  exact hne (List.length_eq_zero_iff.1 hst.1.symm)

variable (hR : Built R)
  (hspecial : ∀ {dotted dotted'}, GoodName dotted dotted' →
    (first.symbols scope).specialForm? dotted = (second.symbols scope).specialForm? dotted')
  (h : Alike Good GoodName GoodLiteral R scope seen seen' next next')
include hR h

theorem stepLiteral_agree {e e' : Expr} (he : SameLiteral GoodName e e') :
    Agree (Option.Rel R) (stepLiteral next scope seen e) (stepLiteral next' scope seen' e') := by
  unfold stepLiteral
  rw [he.none, he.value]
  split
  · exact .ok (.some hR.none)
  refine .bind_same fun value? _ => ?_
  cases value? with
  | some value => exact .ok (.some (hR.literal value))
  | none =>
    dsimp only
    have hsplit := he.owner
    generalize splitMember? e.dottedName = split at hsplit
    generalize splitMember? e'.dottedName = split' at hsplit
    cases hsplit with
    | none => exact .ok .none
    | @some split split' hsplit =>
    obtain ⟨owner, member⟩ := split
    obtain ⟨owner', member'⟩ := split'
    obtain ⟨howner, rfl⟩ : GoodName owner owner' ∧ member = member' := hsplit
    refine (h.resolveName howner).bind fun s? t? hst => ?_
    cases hst with
    | none => exact .ok .none
    | @some s t hst =>
      have henum := hR.isEnumeration hst
      -- Whichever of the two is an enumeration, so is the other.
      cases s with
      | named s =>
        cases t with
        | named t =>
          simp only [ResolvedType.isEnumeration] at henum
          dsimp only
          rw [henum]
          split
          · exact .ok (.some (hR.enumMember hst member))
          · exact .ok .none
        | _ =>
          simp only [ResolvedType.isEnumeration] at henum
          dsimp only
          rw [henum]
          exact .ok .none
      | _ =>
        cases t with
        | named t =>
          simp only [ResolvedType.isEnumeration] at henum
          dsimp only
          rw [← henum]
          exact .ok .none
        | _ => exact .ok .none

omit hR h in
theorem foldlM_addLiteral_none (members : List Expr) :
    members.foldlM (addLiteral next scope seen) none = reached (.ok none) := by
  induction members with
  | nil => rfl
  | cons member rest ih => exact ih

omit hR in
theorem literals_agree {members members' : List Expr} (hmembers : List.Forall₂ GoodLiteral members members') :
    Agree (Option.Rel fun ss ts => ss.length = members.length ∧ List.Forall₂ R ss ts)
      (members.foldlM (addLiteral next scope seen) (some []))
      (members'.foldlM (addLiteral next' scope seen') (some [])) := by
  suffices hfold : ∀ before before' : List ResolvedType, List.Forall₂ R before before' →
      Agree (Option.Rel fun ss ts => ss.length = before.length + members.length ∧ List.Forall₂ R ss ts)
        (members.foldlM (addLiteral next scope seen) (some before))
        (members'.foldlM (addLiteral next' scope seen') (some before')) by
    simpa using hfold [] [] .nil
  induction hmembers with
  | nil => exact fun before before' hbefore => .ok (.some ⟨rfl, hbefore⟩)
  | @cons member member' rest rest' hmember _ ih =>
    intro before before' hbefore
    rw [List.foldlM_cons, List.foldlM_cons]
    refine .bind (R := Option.Rel fun ss ts => ss.length = before.length + 1 ∧ List.Forall₂ R ss ts)
      ((h.resolveLiteral hmember).bind fun s? t? hst => ?_) fun ss? ts? hall => ?_
    · cases hst with
      | none => exact .ok .none
      | some hst => exact .ok (.some ⟨by simp, List.rel_append hbefore (.cons hst .nil)⟩)
    · cases hall with
      | none =>
        rw [foldlM_addLiteral_none, foldlM_addLiteral_none]
        exact .ok .none
      | some hall =>
        refine (ih _ _ hall.2).mono fun _ _ hst => ?_
        simpa [hall.1, Nat.add_assoc, Nat.add_comm 1] using hst

include hspecial

theorem stepDotted_agree {dotted dotted' : String} (hdotted : GoodName dotted dotted') :
    Agree (Option.Rel R) (first.stepDotted next scope seen dotted)
      (second.stepDotted next' scope seen' dotted') := by
  unfold stepDotted
  rw [hspecial hdotted]
  split
  · rename_i special hspecial
    obtain hnone | ⟨name, hname, hsome⟩ := bareSpecial_builtin special
    · rw [hnone]
      exact .ok .none
    · rw [hsome]
      exact .ok (.some (hR.builtin hname))
  · exact h.resolveName hdotted

theorem stepSubscript_agree {owner owner' : Expr} {before close before' close' : Gap}
    {entries entries' : List Entry} (howner : Good owner owner')
    (hname : GoodName owner.dottedName owner'.dottedName)
    (hliteral : (first.symbols scope).specialForm? owner.dottedName ≠ some "Literal")
    (hindices : List.Forall₂ Good (Entry.indices entries) (Entry.indices entries'))
    (hellipsis : List.Forall₂ (fun e e' => e.bare = .ellipsis ↔ e'.bare = .ellipsis)
      (Entry.indices entries) (Entry.indices entries')) :
    Agree (Option.Rel R) (first.stepResolve next scope seen (.subscript owner before entries close))
      (second.stepResolve next' scope seen' (.subscript owner' before' entries' close')) := by
  have hunion : Agree (fun found found' => found.length = (Entry.indices entries).length
        ∧ List.Forall₂ (Option.Rel R) found found')
      ((Entry.indices entries).mapM (next.resolve scope seen))
      ((Entry.indices entries').mapM (next'.resolve scope seen')) :=
    Agree.mapM (hindices.imp fun _ _ hmember => h.resolve hmember)
  unfold stepResolve
  dsimp only
  rw [hspecial hname] at hliteral ⊢
  split
  · exact h.resolve howner
  rename_i special hform
  generalize Entry.indices entries = indices at hindices hellipsis hunion
  generalize Entry.indices entries' = indices' at hindices hellipsis hunion
  cases hindices with
  | nil => exact .ok .none
  | @cons inner inner' rest rest' hfirst _ =>
  obtain ⟨-, hrest⟩ := List.forall₂_cons.1 hellipsis
  have hinner := h.resolve hfirst
  have harray : Agree (Option.Rel R)
      (do return (← next.resolve scope seen inner).map .array)
      (do return (← next'.resolve scope seen' inner').map .array) :=
    hinner.bind fun s? t? hst => .ok (rel_map hst fun _ _ => hR.array)
  have hrest : rest.map Expr.bare = [.ellipsis] ↔ rest'.map Expr.bare = [.ellipsis] := by
    cases hrest with
    | nil => rfl
    | cons hsecond hrest =>
      cases hrest with
      | nil => simpa using hsecond
      | cons => simp
  dsimp only
  split
  · exact hinner
  split
  · exact harray
  split
  · split
    · rename_i hellipsis
      rw [hrest.1 hellipsis]
      exact harray
    · rename_i hother
      split
      · rename_i hellipsis
        exact (hother (hrest.2 hellipsis)).elim
      · exact .ok .none
  split
  · exact .ok (.some (hR.builtin (by decide)))
  split
  · refine hinner.bind fun s? t? hst => .ok (rel_map hst fun s t hst => ?_)
    exact hR.ofMembers (by simp) (.cons hst (.cons hR.none .nil))
  split
  · refine hunion.bind fun found found' hfound => .ok (hR.members ?_ hfound.2)
    rintro rfl
    cases hfound.1
  split
  · rename_i heq
    exact (hliteral (by rw [hform, eq_of_beq heq])).elim
  split
  · exact .ok (.some (hR.builtin (by decide)))
  · exact .ok .none

theorem stepLiterals_agree {owner owner' : Expr} {before close before' close' : Gap}
    {entries entries' : List Entry} (hname : GoodName owner.dottedName owner'.dottedName)
    (hliteral : (first.symbols scope).specialForm? owner.dottedName = some "Literal")
    (hindices : List.Forall₂ GoodLiteral (Entry.indices entries) (Entry.indices entries')) :
    Agree (Option.Rel R) (first.stepResolve next scope seen (.subscript owner before entries close))
      (second.stepResolve next' scope seen' (.subscript owner' before' entries' close')) := by
  have hall := literals_agree h hindices
  unfold stepResolve
  dsimp only
  rw [hspecial hname] at hliteral ⊢
  rw [hliteral]
  generalize Entry.indices entries = indices at hindices hall
  generalize Entry.indices entries' = indices' at hindices hall
  cases hindices with
  | nil => exact .ok .none
  | cons =>
    refine hall.bind fun ss? ts? hall => .ok (rel_map hall fun ss ts hst => ?_)
    refine hR.ofMembers ?_ hst.2
    rintro rfl
    cases hst.1

theorem stepResolve_agree {e e' : Expr}
    (he : SameForm Good GoodName GoodLiteral (first.symbols scope) e e') :
    Agree (Option.Rel R) (first.stepResolve next scope seen e)
      (second.stepResolve next' scope seen' e') := by
  cases he with
  | paren hinner => exact h.resolve hinner
  | none => exact .ok (.some hR.none)
  | reference he he' hname =>
    rw [stepResolve_reference he, stepResolve_reference he']
    exact h.resolveDotted hname
  | bar hleft hright =>
    refine (h.resolve hleft).bind fun s? s'? hs => (h.resolve hright).bind fun t? t'? ht => .ok ?_
    exact rel_bind hs fun s s' hs => rel_bind ht fun t t' ht =>
      .some (hR.ofMembers (by simp) (.cons hs (.cons ht .nil)))
  | subscript howner hname hliteral hindices hellipsis =>
    exact stepSubscript_agree hR hspecial h howner hname hliteral hindices hellipsis
  | literal hname hliteral hindices => exact stepLiterals_agree hR hspecial h hname hliteral hindices
  | @call callee callee' before close before' close' entries entries' hname hnone =>
    have hcall (ofNone ofDict : Bool) : Agree (Option.Rel R)
        (if ofNone then reached (.ok (some .none))
          else if ofDict then reached (.ok (some (.builtin "dict"))) else reached (.ok none))
        (if ofNone then reached (.ok (some .none))
          else if ofDict then reached (.ok (some (.builtin "dict"))) else reached (.ok none)) := by
      cases ofNone with
      | true => exact .ok (.some hR.none)
      | false =>
        cases ofDict with
        | true => exact .ok (.some (hR.builtin (by decide)))
        | false => exact .ok .none
    have hforms := hspecial hname
    change Agree _
      (if ((first.symbols scope).specialForm? callee.dottedName == some "type" && isNoneAlone entries) = true
        then _ else if ((first.symbols scope).specialForm? callee.dottedName == some "TypedDict") = true
        then _ else _)
      (if ((second.symbols scope).specialForm? callee'.dottedName == some "type" && isNoneAlone entries') = true
        then _ else if ((second.symbols scope).specialForm? callee'.dottedName == some "TypedDict") = true
        then _ else _)
    rw [hforms, hnone]
    exact hcall _ _
  | dict => exact .ok (.some (hR.builtin (by decide)))
  | other he he' htext hread =>
    rw [stepResolve_other he, stepResolve_other he', stepText, stepText, ← htext]
    refine .bind_same fun text? hfound => ?_
    cases text? with
    | none => exact .ok .none
    | some text =>
      refine .bind_same fun inner? hinner => ?_
      cases inner? with
      | none => exact .ok .none
      | some inner => exact h.resolve (hread text inner (Option.some.inj hfound) (Option.some.inj hinner))
  | quoted hq hq' htext hread htext' hread' hinner =>
    rw [stepResolve_other hq, stepResolve_other hq', stepText_eq htext hread, stepText_eq htext' hread']
    exact h.resolve hinner

end Step

/-! ## Resolutions -/

/-- Two resolutions side by side: where they look names up, how the keys they have passed are related, and
how the types are that they find in a module and for a name that is provided under some spelling. -/
structure Comparison where
  first : Oracle
  second : Oracle
  Inside : Scope → Prop
  Seen : List Key → List Key → Prop
  Rel : Scope → ResolvedType → ResolvedType → Prop
  Provided : Option String → ResolvedType → ResolvedType → Prop

/-- What is to be shown of two resolutions for all their answers to compare. Modules of the project are
the same to both, and so are the keys that each has passed, or else the names under these keys compare. -/
structure Comparison.Holds (c : Comparison) : Prop where
  symbols {scope : Scope} (hscope : c.Inside scope) : c.first.symbols scope = c.second.symbols scope
  projectTable? (origin : String) : c.first.projectTable? origin = c.second.projectTable? origin
  built {scope : Scope} (hscope : c.Inside scope) : Built (c.Rel scope)
  ofClass {scope : Scope} (hscope : c.Inside scope) {head spelled : String} {rest : List String}
    {found : ClassSymbol} {t : NamedType} (hpieces : dotPieces spelled = head :: rest)
    (hfound : (c.second.symbols scope).classes.get? head = some found)
    (hspelling : t.spelling = some spelled) (hbuiltin : t.isBuiltin = false)
    (hmembers : t.isEnumeration = false → t.members = []) : c.Rel scope (.named t) (.named t)
  ofImport {scope : Scope} (hscope : c.Inside scope) {head dotted origin name : String}
    {rest : List String} {binding : ImportBinding} (hpieces : dotPieces dotted = head :: rest)
    (himport : (c.second.symbols scope).imports.get? head = some binding)
    (htarget : importTarget? binding rest = some (origin, name)) {s t : ResolvedType}
    (h : c.Provided (if binding.typeOnly then none else some dotted) s t) : c.Rel scope s t
  inside {scope : Scope} (hscope : c.Inside scope) {head origin name : String} {rest : List String}
    {binding : ImportBinding} (himport : (c.second.symbols scope).imports.get? head = some binding)
    (htarget : importTarget? binding rest = some (origin, name)) : c.Inside (.project origin)
  named {t : NamedType} {spelling : Option String} (hspelling : t.spelling = spelling)
    (hbuiltin : t.isBuiltin = false) (hmembers : t.isEnumeration = false → t.members = []) :
    c.Provided spelling (.named t) (.named t)
  builtin {name : String} (h : name ∈ builtinTypes) (spelling : Option String) :
    c.Provided spelling (.builtin name) (.builtin name)
  unspelled {scope : Scope} (hscope : c.Inside scope) {s t : ResolvedType} (h : c.Rel scope s t)
    (spelling : Option String) : c.Provided spelling s.unspelled t.unspelled
  respelled {scope : Scope} (hscope : c.Inside scope) {s t : ResolvedType} (h : c.Rel scope s t)
    (spelling : Option String) : c.Provided spelling (respelled spelling s) (respelled spelling t)
  seenCons {seen seen' : List Key} (hseen : c.Seen seen seen') (key : Key) :
    c.Seen (key :: seen) (key :: seen')
  seenAlias {scope : Scope} (hscope : c.Inside scope) {seen seen' : List Key}
    (hseen : c.Seen seen seen') {name : String} {value : Expr}
    (halias : (c.second.symbols scope).aliases.get? name = some value) :
    seen.contains ((c.second.symbols scope).moduleName, name)
      = seen'.contains ((c.second.symbols scope).moduleName, name)
  seenClass {scope : Scope} (hscope : c.Inside scope) {seen seen' : List Key}
    (hseen : c.Seen seen seen') (className : String) :
    seen.contains (classKey (c.second.symbols scope) className)
      = seen'.contains (classKey (c.second.symbols scope) className)
  seenProvided {origin : String} (hscope : c.Inside (.project origin)) {seen seen' : List Key}
    (hseen : c.Seen seen seen') {name : String}
    (hdiffer : seen.contains (origin, name) ≠ seen'.contains (origin, name)) (depth : Nat)
    (spelling : Option String) : Agree (Option.Rel (c.Provided spelling))
      ((c.first.within depth).resolveExternal seen origin name spelling)
      ((c.second.within depth).resolveExternal seen' origin name spelling)

namespace Comparison

variable {c : Comparison}

/-- The answers of both resolutions compare within some depth. -/
structure Within (c : Comparison) (depth : Nat) : Prop where
  alike {scope : Scope} (hscope : c.Inside scope) {seen seen' : List Key} (hseen : c.Seen seen seen') :
    Alike Inputs.all.Same Inputs.all.SameName Inputs.all.Same (c.Rel scope) scope seen seen'
      (c.first.within depth) (c.second.within depth)
  resolveExternal {origin : String} (hscope : c.Inside (.project origin)) {seen seen' : List Key}
    (hseen : c.Seen seen seen') (name : String) (spelling : Option String) :
    Agree (Option.Rel (c.Provided spelling))
      ((c.first.within depth).resolveExternal seen origin name spelling)
      ((c.second.within depth).resolveExternal seen' origin name spelling)
  isEnumClass {scope : Scope} (hscope : c.Inside scope) {seen seen' : List Key}
    (hseen : c.Seen seen seen') (className : String) :
    Agree Eq ((c.first.within depth).isEnumClass scope seen className)
      ((c.second.within depth).isEnumClass scope seen' className)

section Step

variable (hc : c.Holds) {depth : Nat} (h : c.Within depth)
include hc h

theorem stepName_agree {scope : Scope} (hscope : c.Inside scope) {seen seen' : List Key}
    (hseen : c.Seen seen seen') (dotted : String) :
    Agree (Option.Rel (c.Rel scope))
      (c.first.stepName (c.first.within depth) scope seen dotted)
      (c.second.stepName (c.second.within depth) scope seen' dotted) := by
  unfold stepName
  rw [hc.symbols hscope]
  split
  · exact .ok .none
  split
  · exact .ok .none
  rename_i head rest hpieces
  split
  · rename_i found hfound
    split
    · rename_i hrest
      refine (h.isEnumClass hscope hseen head).bind fun isEnum _ heq => ?_
      subst heq
      have hhead := dotPieces_of_mem (hpieces ▸ List.mem_cons_self)
      exact .ok (.some (hc.ofClass hscope hhead hfound rfl (by cases isEnum <;> rfl)
        (by cases isEnum <;> simp [NamedType.isEnumeration])))
    · exact .ok (.some (hc.ofClass hscope hpieces hfound rfl rfl fun _ => rfl))
  split
  · rename_i value hvalue
    rw [hc.seenAlias hscope hseen (get?_of_bareAlias? hvalue)]
    split
    · exact .ok .none
    · exact (h.alike hscope (hc.seenCons hseen _)).resolve ⟨rfl, trivial⟩
  split
  · rename_i binding himport
    split
    · rename_i origin name htarget
      refine (h.resolveExternal (hc.inside hscope himport htarget) hseen name _).mono
        fun s? t? hst => ?_
      simpa using rel_map hst fun s t hst => hc.ofImport hscope hpieces himport htarget hst
    · exact .ok .none
  · split
    · rename_i hbuiltin
      exact .ok (.some ((hc.built hscope).builtin
        (List.contains_iff_mem.1 (Bool.and_eq_true_iff.1 hbuiltin).2)))
    · exact .ok .none

theorem stepExternal_agree {origin : String} (hscope : c.Inside (.project origin))
    {seen seen' : List Key} (hseen : c.Seen seen seen') (name : String) (spelling : Option String) :
    Agree (Option.Rel (c.Provided spelling))
      (c.first.stepExternal (c.first.within depth) seen origin name spelling)
      (c.second.stepExternal (c.second.within depth) seen' origin name spelling) := by
  by_cases hsame : seen.contains (origin, name) = seen'.contains (origin, name)
  swap
  · exact hc.seenProvided hscope hseen hsame (depth + 1) spelling
  unfold stepExternal
  rw [hc.projectTable? origin, hsame]
  dsimp only
  split
  · obtain hnone | ⟨builtinName, hname, hsome⟩ := bareSpecial_builtin name
    · rw [hnone]
      exact .ok .none
    · rw [hsome]
      exact .ok (.some (hc.builtin hname spelling))
  split
  · split
    · rename_i hname
      exact .ok (.some (hc.builtin (List.contains_iff_mem.1 hname) spelling))
    · exact .ok .none
  split
  · exact .ok (.some (hc.named rfl rfl fun _ => rfl))
  split
  · exact .ok (.some (hc.named rfl rfl fun _ => rfl))
  rename_i external htable
  split
  · exact .ok (.some (hc.named rfl rfl fun _ => rfl))
  have hseen := hc.seenCons hseen (origin, name)
  split
  · rename_i found hfound
    refine (h.isEnumClass hscope hseen name).bind fun isEnum _ heq => ?_
    subst heq
    exact .ok (.some (hc.named rfl (by cases isEnum <;> rfl)
      (by cases isEnum <;> simp [NamedType.isEnumeration])))
  split
  · refine ((h.alike hscope hseen).resolve ⟨rfl, trivial⟩).bind fun s? t? hst => ?_
    exact .ok (rel_map hst fun s t hst => hc.unspelled hscope hst spelling)
  split
  · refine ((h.alike hscope hseen).resolveName ⟨rfl, trivial⟩).bind fun s? t? hst => ?_
    exact .ok (rel_map hst fun s t hst => hc.respelled hscope hst spelling)
  · exact .ok (.some (hc.named rfl rfl fun _ => rfl))

theorem stepEnumClass_agree {scope : Scope} (hscope : c.Inside scope) {seen seen' : List Key}
    (hseen : c.Seen seen seen') (className : String) :
    Agree Eq (c.first.stepEnumClass (c.first.within depth) scope seen className)
      (c.second.stepEnumClass (c.second.within depth) scope seen' className) := by
  unfold stepEnumClass
  rw [hc.symbols hscope, hc.seenClass hscope hseen className]
  split
  · exact .ok rfl
  split
  · exact .ok rfl
  refine .foldlM (fun isEnum _ heq base _ => ?_) rfl
  subst heq
  split
  · exact .ok rfl
  refine ((h.alike hscope (hc.seenCons hseen _)).resolveName ⟨rfl, trivial⟩).bind fun s? t? hst => ?_
  cases hst with
  | none => exact .ok rfl
  | @some s t hst =>
    have henum := (hc.built hscope).isEnumeration hst
    cases s <;> cases t <;> first | exact .ok rfl | exact .ok henum

end Step

theorem Holds.within (hc : c.Holds) (depth : Nat) : c.Within depth := by
  induction depth with
  | zero =>
    exact
      { alike := fun _ _ _ _ => ⟨fun _ => .spent, fun _ => .spent, fun _ => .spent, fun _ => .spent⟩
        resolveExternal := fun _ _ _ _ _ _ => .spent
        isEnumClass := fun _ _ _ _ _ => .spent }
  | succ depth ih =>
    exact
      { alike := fun {scope} hscope {_ _} hseen =>
          have hspecial {dotted dotted' : String} (hname : Inputs.all.SameName dotted dotted') :
              (c.first.symbols scope).specialForm? dotted
                = (c.second.symbols scope).specialForm? dotted' := by
            rw [hc.symbols hscope, hname.1]
          { resolve := fun {_ _} he =>
              stepResolve_agree (hc.built hscope) hspecial (ih.alike hscope hseen) (he.form _)
            resolveLiteral := fun {_ _} he =>
              stepLiteral_agree (hc.built hscope) (ih.alike hscope hseen) he.literal
            resolveDotted := stepDotted_agree (hc.built hscope) hspecial (ih.alike hscope hseen)
            resolveName := fun {dotted _} hname => hname.1 ▸ stepName_agree hc ih hscope hseen dotted }
        resolveExternal := stepExternal_agree hc ih
        isEnumClass := stepEnumClass_agree hc ih }

/-- What the oracles find compares: within a depth that is enough for both, both reach it. -/
theorem Holds.resolve (hc : c.Holds) {scope : Scope} (hscope : c.Inside scope) {seen seen' : List Key}
    (hseen : c.Seen seen seen') (e : Expr) :
    Outcomes (Option.Rel (c.Rel scope)) (c.first.resolve scope seen e)
      (c.second.resolve scope seen' e) := by
  let depth := c.first.reserve seen + c.second.reserve seen' + e.weight + 6
  exact ((hc.within depth).alike hscope hseen).resolve ⟨rfl, trivial⟩ _ _
    ((adequate_within c.first depth).resolve scope seen e (by omega))
    ((adequate_within c.second depth).resolve scope seen' e (by omega))

theorem Holds.isEnumClass (hc : c.Holds) {scope : Scope} (hscope : c.Inside scope)
    {seen seen' : List Key} (hseen : c.Seen seen seen') (className : String) :
    Outcomes Eq (c.first.isEnumClass scope seen className)
      (c.second.isEnumClass scope seen' className) := by
  let depth := c.first.reserve seen + c.second.reserve seen' + 2
  exact (hc.within depth).isEnumClass hscope hseen className _ _
    ((adequate_within c.first depth).isEnumClass scope seen className (by omega))
    ((adequate_within c.second depth).isEnumClass scope seen' className (by omega))

end Comparison

/-! ## One resolution by itself -/

/-- Something known of types that every way to find a type keeps. -/
structure Kept (P : ResolvedType → Prop) : Prop where
  none : P .none
  named {t : NamedType} (hbuiltin : t.isBuiltin = false)
    (hmembers : t.isEnumeration = false → t.members = []) : P (.named t)
  builtin {name : String} (h : name ∈ builtinTypes) : P (.builtin name)
  array {t : ResolvedType} (h : P t) : P (.array t)
  enumMember {owner : NamedType} (h : P (.named owner)) (member : String) : P (.enumMember owner member)
  ofMembers {members : List ResolvedType} (hne : members ≠ []) (h : ∀ t ∈ members, P t) :
    P (.ofMembers members)
  literal (value : Primitive) : P (.literal value (.builtin value.typeName))
  unspelled {t : ResolvedType} (h : P t) : P t.unspelled
  respelled {t : ResolvedType} (h : P t) (spelling : Option String) : P (respelled spelling t)

def Comparison.itself (oracle : Oracle) (P : ResolvedType → Prop) : Comparison where
  first := oracle
  second := oracle
  Inside _ := True
  Seen := Eq
  Rel _ s t := s = t ∧ P s
  Provided _ s t := s = t ∧ P s

namespace Kept

variable {P : ResolvedType → Prop} (hP : Kept P)
include hP

theorem built : Built fun s t => s = t ∧ P s where
  none := ⟨rfl, hP.none⟩
  builtin h := ⟨rfl, hP.builtin h⟩
  array h := ⟨congrArg _ h.1, hP.array h.2⟩
  enumMember h member := by
    obtain ⟨heq, hnamed⟩ := h
    cases heq
    exact ⟨rfl, hP.enumMember hnamed member⟩
  ofMembers hne h := ⟨congrArg _ (eq_and_forall h).1, hP.ofMembers hne (eq_and_forall h).2⟩
  literal value := ⟨rfl, hP.literal value⟩
  isEnumeration h := congrArg _ h.1

theorem holds (oracle : Oracle) : (Comparison.itself oracle P).Holds where
  symbols _ := rfl
  projectTable? _ := rfl
  built _ := hP.built
  ofClass {_} _ {_ _ _ _ _} _ _ _ hbuiltin hmembers := ⟨rfl, hP.named hbuiltin hmembers⟩
  ofImport {_} _ {_ _ _ _ _ _} _ _ _ {_ _} h := h
  inside {_} _ {_ _ _ _ _} _ _ := trivial
  named _ hbuiltin hmembers := ⟨rfl, hP.named hbuiltin hmembers⟩
  builtin h _ := ⟨rfl, hP.builtin h⟩
  unspelled {_} _ {_ _} h _ := ⟨congrArg _ h.1, hP.unspelled h.2⟩
  respelled {_} _ {_ _} h spelling := ⟨congrArg _ h.1, hP.respelled h.2 spelling⟩
  seenCons h key := congrArg (key :: ·) h
  seenAlias {_} _ {_ _} h {_ _} _ := by rw [show _ = _ from h]
  seenClass {_} _ {_ _} h _ := by rw [show _ = _ from h]
  seenProvided {_} _ {_ _} h {_} hdiffer := absurd (by rw [show _ = _ from h]) hdiffer

theorem typeOf {oracle : Oracle} {e : Expr} {t : ResolvedType} (h : oracle.typeOf e = .ok (some t)) :
    P t := by
  have hhost : (Comparison.itself oracle P).Inside .host := trivial
  have hseen : (Comparison.itself oracle P).Seen [] [] := rfl
  have hresults : Outcomes _ (oracle.typeOf e) (oracle.typeOf e) :=
    (hP.holds oracle).resolve hhost hseen e
  rw [h] at hresults
  cases hresults with
  | ok hrel =>
    cases hrel with
    | some hrel => exact hrel.2

end Kept
end ModelMetadata
