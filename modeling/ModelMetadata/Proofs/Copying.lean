import ModelMetadata.Proofs.FreeNames
import ModelMetadata.Proofs.Journaling
import ModelMetadata.Proofs.Steps

/-!
What is copied into the map of a class. Seeded values, defaults and the arguments of markers stand in a
map only when they keep their meaning there. All other entries are written by the program: they are
literals, or they refer to types.
-/
set_option autoImplicit false
namespace ModelMetadata

open Source

/-! ## Results of steps -/

theorem Maintains.caught {α : Type} {I : Journal → Prop} {P : α → Prop} {step : Describe α}
    (hstep : Maintains I step P) : Maintains I step.caught fun result => ∀ a, result = .ok a → P a := by
  refine .of (fun _ hs => hstep.state hs) fun journal hs result h a ha => ?_
  cases h
  exact hstep.result hs ha

/-! ## Expressions that read nothing -/

/-- An expression that reads no name that a program can bind. -/
def Source.Expr.ReadsNothing (e : Expr) : Prop := e.ReadsOnly (· ∈ constantNames)

namespace Source.Expr.ReadsNothing

variable {e : Expr}

theorem of_parts (hname : ∀ text, e ≠ .name text) (hlambda : ∀ header gap body, e ≠ .lambda header gap body)
    (h : ∀ part ∈ e.parts, part.ReadsNothing) : e.ReadsNothing :=
  ReadsOnly.of_parts hname hlambda h

theorem ofList {values : List Expr} (h : ∀ value ∈ values, value.ReadsNothing) :
    (Expr.ofList values).ReadsNothing :=
  ReadsOnly.ofList h

theorem constant {text : String} (h : text ∈ constantNames) : (Expr.name text).ReadsNothing :=
  ReadsOnly.ofName h

end Source.Expr.ReadsNothing

theorem readsNothing_boolLiteral (value : Bool) : (boolLiteral value).ReadsNothing := by
  cases value <;> exact .constant (by simp [boolText, constantNames])

theorem readsNothing_textLiteral (text : String) : (textLiteral text).ReadsNothing :=
  .of_parts nofun nofun nofun

theorem readsNothing_negated {e : Expr} (h : e.ReadsNothing) (isNegative : Bool) :
    (negated isNegative e).ReadsNothing := by
  cases isNegative with
  | false => exact h
  | true => exact .of_parts nofun nofun (List.forall_mem_singleton.2 h)

theorem readsNothing_of_primitive {value : Primitive} {e : Expr} (h : value.literal = .ok e) :
    e.ReadsNothing := by
  cases value with
  | bool value =>
    obtain rfl := Except.ok.inj h
    exact readsNothing_boolLiteral value
  | int value =>
    simp only [Primitive.literal] at h
    split at h
    · cases h
    · obtain rfl := Except.ok.inj h
      refine readsNothing_negated ?_ _
      exact .of_parts nofun nofun nofun
  | float value =>
    simp only [Primitive.literal] at h
    split at h
    · obtain rfl := Except.ok.inj h
      refine readsNothing_negated ?_ _
      exact .of_parts nofun nofun nofun
    · cases h
  | text value =>
    obtain rfl := Except.ok.inj h
    exact readsNothing_textLiteral value

mutual

theorem readsNothing_of_value {value : Value} {e : Expr} (h : value.literal = .ok e) :
    e.ReadsNothing := by
  cases value with
  | none =>
    cases h
    exact .constant (by simp [constantNames])
  | primitive value => exact readsNothing_of_primitive h
  | list items =>
    obtain ⟨literals, hliterals, h⟩ := bind_eq_ok.1 h
    cases h
    exact .ofList (readsNothing_of_values hliterals)
  | tuple items =>
    obtain ⟨literals, hliterals, h⟩ := bind_eq_ok.1 h
    cases h
    exact .ofList (readsNothing_of_values hliterals)
  | dict entries =>
    obtain ⟨literals, hliterals, h⟩ := bind_eq_ok.1 h
    cases h
    exact Expr.ReadsOnly.ofPairs (readsNothing_of_entries hliterals)
  | _ =>
    cases h
    exact readsNothing_textLiteral _
termination_by structural value

theorem readsNothing_of_values {values : List Value} {es : List Expr}
    (h : Value.literals values = .ok es) : ∀ e ∈ es, e.ReadsNothing := by
  cases values with
  | nil =>
    cases h
    simp
  | cons value rest =>
    obtain ⟨first, hfirst, h⟩ := bind_eq_ok.1 h
    obtain ⟨others, hothers, h⟩ := bind_eq_ok.1 h
    cases h
    exact List.forall_mem_cons.2 ⟨readsNothing_of_value hfirst, readsNothing_of_values hothers⟩
termination_by structural values

theorem readsNothing_of_entries {entries : List (Value × Value)} {pairs : List (Expr × Expr)}
    (h : Value.entryLiterals entries = .ok pairs) :
    ∀ pair ∈ pairs, pair.1.ReadsNothing ∧ pair.2.ReadsNothing := by
  match entries with
  | [] =>
    cases h
    simp
  | (key, value) :: rest =>
    obtain ⟨first, hfirst, h⟩ := bind_eq_ok.1 h
    obtain ⟨second, hsecond, h⟩ := bind_eq_ok.1 h
    obtain ⟨others, hothers, h⟩ := bind_eq_ok.1 h
    cases h
    exact List.forall_mem_cons.2
      ⟨⟨readsNothing_of_value hfirst, readsNothing_of_value hsecond⟩,
        readsNothing_of_entries hothers⟩
termination_by structural entries

end

/-! ## Expressions that are read as values -/

theorem readsNothing_of_stringLiteral {e : Expr} {value : StringValue}
    (h : stringLiteral e = .ok (some value)) : e.ReadsNothing := by
  fun_induction stringLiteral e generalizing value with
  | case1 token => exact .of_parts (by simp) (by simp) (List.forall_mem_nil _)
  | case2 => cases h
  | case3 => cases h
  | case4 first gap rest hfirst hrest ihfirst ihrest =>
    obtain ⟨x, hx, h⟩ := bind_eq_ok.1 h
    obtain ⟨y, hy, h⟩ := bind_eq_ok.1 h
    cases x with
    | none => cases h
    | some x =>
      cases y with
      | none => cases h
      | some y =>
        refine .of_parts (by simp) (by simp) (List.forall_mem_cons.2 ⟨ihfirst hx, ?_⟩)
        exact List.forall_mem_singleton.2 (ihrest hy)
  | case5 _ inner _ ih => exact .of_parts (by simp) (by simp) (List.forall_mem_singleton.2 (ih h))
  | case6 => cases h

theorem readsNothing_of_literalValue {e : Expr} {value : Primitive}
    (h : literalValue e = .ok (some value)) : e.ReadsNothing := by
  fun_induction literalValue e generalizing value with
  | case1 _ inner _ ih => exact .of_parts nofun nofun (List.forall_mem_singleton.2 (ih h))
  | case2 text => exact .of_parts nofun nofun nofun
  | case3 text => exact .of_parts nofun nofun nofun
  | case4 gap operand ih =>
    obtain ⟨found, hfound, h⟩ := bind_eq_ok.1 h
    cases found with
    | none => cases h
    | some found => exact .of_parts nofun nofun (List.forall_mem_singleton.2 (ih hfound))
  | case5 => exact readsNothing_boolLiteral true
  | case6 => exact readsNothing_boolLiteral false
  | case7 e =>
    obtain ⟨text?, htext, h⟩ := bind_eq_ok.1 h
    obtain ⟨literal?, hliteral, htext⟩ := bind_eq_ok.1 htext
    cases literal? with
    | none =>
      cases htext
      cases h
    | some literal => exact readsNothing_of_stringLiteral hliteral

mutual

theorem readsNothing_of_isStatic (e : Expr) (h : isStatic e = .ok true) : e.ReadsNothing := by
  cases e with
  | paren afterOpen inner beforeClose =>
    exact .of_parts nofun nofun (List.forall_mem_singleton.2 (readsNothing_of_isStatic inner h))
  | list entries beforeClose => exact .of_parts nofun nofun (readsNothing_of_areStatic entries h)
  | set entries beforeClose => exact .of_parts nofun nofun (readsNothing_of_areStatic entries h)
  | tuple entries => exact .of_parts nofun nofun (readsNothing_of_areStatic entries h)
  | dict entries beforeClose => exact .of_parts nofun nofun (readsNothing_of_areStatic entries h)
  | name text =>
    unfold isStatic at h
    split at h
    case h_2 heq =>
      obtain rfl := Expr.name.inj heq
      exact .constant (by simp [constantNames])
    case h_7 =>
      obtain ⟨value?, hvalue, h⟩ := bind_eq_ok.1 h
      obtain ⟨value, rfl⟩ := Option.isSome_iff_exists.1 (Except.ok.inj h)
      exact readsNothing_of_literalValue hvalue
    all_goals contradiction
  | _ =>
    obtain ⟨value?, hvalue, h⟩ := bind_eq_ok.1 h
    obtain ⟨value, rfl⟩ := Option.isSome_iff_exists.1 (Except.ok.inj h)
    exact readsNothing_of_literalValue hvalue
termination_by structural e

theorem readsNothing_of_areStatic (entries : List Entry) (h : areStatic entries = .ok true) :
    ∀ e ∈ Entry.exprs entries, e.ReadsNothing := by
  match entries with
  | [] => simp [Entry.exprs]
  | .mk before item comma :: rest =>
    obtain ⟨first, hfirst, h⟩ := bind_eq_ok.1 h
    cases first with
    | false => cases h
    | true =>
      rw [Entry.exprs, List.flatMap_cons]
      exact List.forall_mem_append.2
        ⟨readsNothing_of_isStaticItem item hfirst, readsNothing_of_areStatic rest h⟩
termination_by structural entries

theorem readsNothing_of_isStaticItem (item : Item) (h : isStaticItem item = .ok true) :
    ∀ e ∈ item.exprs, e.ReadsNothing := by
  cases item with
  | value e => exact List.forall_mem_singleton.2 (readsNothing_of_isStatic e h)
  | pair key beforeColon afterColon e =>
    obtain ⟨first, hfirst, h⟩ := bind_eq_ok.1 h
    cases first with
    | false => cases h
    | true =>
      refine List.forall_mem_cons.2 ⟨readsNothing_of_isStatic key hfirst, ?_⟩
      exact List.forall_mem_singleton.2 (readsNothing_of_isStatic e h)
  | _ => cases h
termination_by structural item

end

/-! ## Entries of descriptors -/

/-- What all values are that are copied or written at a place. -/
structure Admits (site : Site) (P : Expr → Prop) : Prop where
  copied {e : Expr} (h : isCopyable site.options.readonly site.scope e = .ok true) : P e
  written (value : Value) {e : Expr} (h : value.literal = .ok e) : P e

/-- All values of a descriptor are as `P` says. -/
def Descriptor.All (P : Expr → Prop) (descriptor : Descriptor) : Prop :=
  ∀ entry ∈ descriptor, P entry.2

namespace Descriptor.All

variable {P : Expr → Prop} {d d' : Descriptor}

theorem nil : Descriptor.All P [] := by simp [Descriptor.All]

theorem cons {key : String} {e : Expr} (he : P e) (hd : d.All P) : Descriptor.All P ((key, e) :: d) :=
  List.forall_mem_cons.2 ⟨he, hd⟩

theorem single {key : String} {e : Expr} (he : P e) : Descriptor.All P [(key, e)] := cons he nil

theorem append (hd : d.All P) (hd' : d'.All P) : Descriptor.All P (d ++ d') :=
  List.forall_mem_append.2 ⟨hd, hd'⟩

theorem ofOption {key : String} {e? : Option Expr} (h : ∀ e, e? = some e → P e) :
    Descriptor.All P (e?.map fun e => (key, e)).toList := by
  cases e? with
  | none => exact nil
  | some e => exact single (h e rfl)

end Descriptor.All

namespace Admits

variable {site : Site} {P : Expr → Prop}

theorem imp {P' : Expr → Prop} (h : Admits site P) (himp : ∀ e, P e → P' e) : Admits site P' where
  copied hcopied := himp _ (h.copied hcopied)
  written value {_} hwritten := himp _ (h.written value hwritten)

theorem bool (h : Admits site P) (value : Bool) : P (boolLiteral value) :=
  h.written (.primitive (.bool value)) rfl

theorem text (h : Admits site P) (value : String) : P (textLiteral value) :=
  h.written (.primitive (.text value)) rfl

theorem seedEntries (h : Admits site P) (subject : String) (seed : List (String × Expr)) :
    Ensures (seedEntries site subject seed) (Descriptor.All P) := by
  induction seed with
  | nil => exact .pure .nil
  | cons entry rest ih =>
    unfold ModelMetadata.seedEntries
    refine .bind (.ofExcept _) fun copyable hcopyable => .ite (fun htrue => ?_) fun _ => ?_
    · subst htrue
      exact ih.bind fun d hd => .pure (.cons (h.copied hcopyable) hd)
    · exact .bind (.trivially _) fun _ _ => ih

theorem docEntries (h : Admits site P) {doc : DocComment} {descriptionKey : String}
    {existing : List String} {d : Descriptor} (hd : doc.entries descriptionKey existing = .ok d) :
    d.All P := by
  have hdescription : Descriptor.All P
      ((doc.description.filter fun _ => !existing.contains descriptionKey).map
        fun text => (descriptionKey, textLiteral text)).toList := by
    cases doc.description.filter fun _ => !existing.contains descriptionKey with
    | none => exact .nil
    | some text => exact .single (h.text text)
  have hdeprecated : Descriptor.All P
      (if doc.deprecated && !existing.contains "deprecated" then [("deprecated", boolLiteral true)]
        else []) := by
    split
    · exact .single (h.bool true)
    · exact .nil
  dsimp only [DocComment.entries] at hd
  split at hd
  · obtain rfl := Except.ok.inj hd
    exact .append (.append hdescription .nil) hdeprecated
  · obtain ⟨literal, hliteral, hd⟩ := bind_eq_ok.1 hd
    obtain rfl := Except.ok.inj hd
    exact .append (.append hdescription (.single (h.written _ hliteral))) hdeprecated

theorem documentationEntries (h : Admits site P) {options : Options} {declaration : Declaration}
    {existing : List String} {d : Descriptor}
    (hd : documentationEntries options declaration existing = .ok d) : d.All P := by
  unfold ModelMetadata.documentationEntries at hd
  split at hd
  · obtain ⟨doc, -, hd⟩ := bind_eq_ok.1 hd
    exact h.docEntries hd
  · obtain rfl := Except.ok.inj hd
    exact .nil

theorem defaultEntries (h : Admits site P) (subject : String) (existing : List String)
    (value : Option Expr) :
    Ensures (defaultEntries site subject existing value) (Descriptor.All P) := by
  unfold ModelMetadata.defaultEntries
  refine .ite (fun _ => .pure .nil) fun _ => ?_
  split
  · exact .pure .nil
  · refine .bind (.trivially _) fun copied _ => .bind (.ofExcept _) fun copyable hcopyable => ?_
    refine .ite (fun htrue => ?_) fun _ => .bind (.trivially _) fun _ _ => .pure .nil
    subst htrue
    exact .pure (.single (h.copied hcopyable))

theorem argumentEntry (h : Admits site P) (subject key : String) (argument : Option Expr) :
    Ensures (argumentEntry site subject key argument) (Descriptor.All P) := by
  unfold ModelMetadata.argumentEntry
  split
  · exact .pure .nil
  · refine .bind (P := fun copied? => ∀ copied, copied? = some copied → P copied) ?_
      fun copied? hcopied => .pure (.ofOption hcopied)
    refine .bind (.trivially _) fun copied _ => .bind (.ofExcept _) fun copyable hcopyable => ?_
    refine .ite (fun htrue => ?_) fun _ => .bind (.trivially _) fun _ _ => .pure nofun
    subst htrue
    exact .pure fun _ hcopied => Option.some.inj hcopied ▸ h.copied hcopyable

theorem ruleEntries (h : Admits site P) (subject : String) (marker : Expr) (rule : MarkerRule) :
    Ensures (rule.entries site subject marker) (Descriptor.All P) := by
  cases rule with
  | argument key => exact h.argumentEntry ..
  | bound key value =>
    exact .bind (.ofExcept _) fun literal hliteral =>
      .pure (.single (h.written (.primitive (.int value)) hliteral))
  | range lower upper =>
    refine .bind (h.argumentEntry ..) fun first hfirst => ?_
    split
    · exact .pure .nil
    · exact .bind (h.argumentEntry ..) fun second hsecond => .pure (.append hfirst hsecond)
  | pattern key =>
    dsimp only [MarkerRule.entries]
    split
    · exact .pure .nil
    · refine .bind (.trivially _) fun text? _ => .pure ?_
      cases text? with
      | none => exact .nil
      | some text => exact .single (h.text text)

theorem validationEntries (h : Admits site P) (subject : String) (markers : List Expr) :
    Ensures (validationEntries site subject markers) (Descriptor.All P) := by
  have hrow (row : MarkerRow) : Ensures (row.entries site subject markers) (Descriptor.All P) := by
    unfold MarkerRow.entries
    split
    · exact .pure .nil
    · exact h.ruleEntries ..
  refine .bind (.mapM fun row _ => hrow row) fun rows hrows => .pure fun entry hentry => ?_
  obtain ⟨row, hrow, hentry⟩ := List.mem_flatten.1 hentry
  exact hrows row hrow entry hentry

end Admits

end ModelMetadata
