import ModelMetadata.Proofs.ClassScope
import ModelMetadata.Proofs.Comparing
import ModelMetadata.Proofs.Rescoping

/-!
Classes that a second run leaves alone. A run moves the factories of a class to the end of its body. That
can show in the map of the class in two ways: a string that stood behind a factory comes to follow a
property and documents it, or the factory's name comes to be bound in the body and is no longer copied
from the module. A class with neither is steady, whatever else its body holds; so is every class without
a factory, and every one whose factories stand last, that does not mention the factory's name.
-/
set_option autoImplicit false
namespace ModelMetadata

open Source

/-! ## Steady classes -/

/-- What the statement would say as the docstring of the property before it is not asked for. -/
def Source.Statement.Silent (options : Options) (statement : Statement) : Prop :=
  ∃ text?, docstringOf? (some statement) = .ok text?
    ∧ ∀ text, text? = some text → options.introspectComments = false ∨ text = ""

/-- Where a factory stands behind a property, the statement that follows the property once the factories
have moved is silent. -/
def Undocumented (options : Options) (statements : List Statement) : Prop :=
  ∀ before above line factory rest next typeHint value,
    statements = before ++ .line above line :: factory :: rest → line.Declares typeHint value →
    isFactory factory = true → rest.find? (fun statement => !isFactory statement) = some next →
    next.Silent options

/-- A class body in which the move of the factories to its end makes no difference. -/
structure Source.Suite.Steady (options : Options) (body : Suite) : Prop where
  undocumented : Undocumented options body.statements
  bound : body.Binds factoryName ∨ ∀ typeHint value, body.Declares typeHint value →
    ¬ Expr.Mentions factoryName typeHint ∧ ∀ e, value = some e → ¬ Expr.Mentions factoryName e

/-! ## Docstrings -/

/-- A declaration with another docstring, where docstrings are read one that says the same. -/
structure Declaration.Redocumented (options : Options) (d d' : Declaration) : Prop where
  same : d' = { d with docstring := d'.docstring }
  docText : options.introspectComments = true → d'.docText? = d.docText?

theorem Declaration.Redocumented.documentationEntries {options : Options} {d d' : Declaration}
    (h : d.Redocumented options d') (existing : List String) :
    documentationEntries options d' existing = documentationEntries options d existing := by
  unfold ModelMetadata.documentationEntries
  split
  · rename_i hasks
    rw [h.docText hasks]
  · rfl

theorem Declaration.Redocumented.describeProperty {site : Site} {d d' : Declaration}
    (h : d.Redocumented site.options d') (className : String) :
    describeProperty site className d' = describeProperty site className d := by
  have hdocs := h.documentationEntries
  obtain ⟨hsame, -⟩ := h
  have hassemble (found : Unwrapped) : assembleUnwrapped site d' found = assembleUnwrapped site d found := by
    rw [assembleUnwrapped, assembleUnwrapped]
    simp only [hdocs]
    rw [hsame]
  unfold ModelMetadata.describeProperty
  simp only [hassemble]
  rw [hsame]
  rfl

/-- Docstrings that say the same where they are read. -/
def SameText (options : Options) (text? text?' : Option String) : Prop :=
  options.introspectComments = true →
    text?'.filter (fun text => !text.isEmpty) = text?.filter fun text => !text.isEmpty

theorem redocumented_of_sameText {options : Options} {d : Declaration} {text? : Option String}
    (h : SameText options d.docstring text?) : d.Redocumented options { d with docstring := text? } where
  same := rfl
  docText hasks := by
    unfold Declaration.docText?
    rw [h hasks]

section

variable {options : Options} {statements rest : List Statement}

theorem lineProperties_redocumented (above : List EmptyLine) {line : SmallLine}
    {following following' : Option Statement}
    (h : ∀ typeHint value, line.Declares typeHint value →
      Outcomes (SameText options) (docstringOf? following) (docstringOf? following')) :
    Outcomes (List.Forall₂ (Declaration.Redocumented options)) (lineProperties above line following)
      (lineProperties above line following') := by
  refine Outcomes.foldlM (fun entry hentry found found' hfound => ?_) .nil
  split
  · rename_i hstatement
    refine (h _ _ (.entry hentry hstatement)).bind fun text? text?' htext => .ok ?_
    exact List.rel_append hfound (.cons (redocumented_of_sameText htext) .nil)
  · exact .ok hfound

/-- What follows a property once the factories stand behind everything else. -/
theorem sameText_following
    (h : ∀ factory others next, rest = factory :: others → isFactory factory = true →
      others.find? (fun statement => !isFactory statement) = some next → next.Silent options)
    (metadata : Expr) :
    Outcomes (SameText options) (docstringOf? rest.head?)
      (docstringOf? (rest.filter (fun statement => !isFactory statement) ++ [factoryFor metadata]).head?) := by
  cases rest with
  | nil => exact .ok fun _ => rfl
  | cons first others =>
    cases hfirst : isFactory first with
    | false =>
      rw [List.filter_cons_of_pos (by rw [hfirst]; rfl)]
      exact .self (fun _ _ => rfl) _
    | true =>
      have hnone : docstringOf? (some first) = .ok none := by
        cases first with
        | functionDef head body => rfl
        | _ => cases hfirst
      rw [List.head?_cons, hnone, List.filter_cons_of_neg (by simp [hfirst]), List.head?_append,
        List.head?_filter]
      cases hnext : others.find? fun statement => !isFactory statement with
      | none => exact .ok fun _ => rfl
      | some next =>
        obtain ⟨text?, htext, hsilent⟩ := h first others next rfl hfirst hnext
        rw [Option.some_or, htext]
        refine .ok fun hasks => ?_
        cases text? with
        | none => rfl
        | some text =>
          obtain hasked | rfl := hsilent text rfl
          · rw [hasks] at hasked
            cases hasked
          · rfl

theorem Undocumented.tail {statement : Statement} (h : Undocumented options (statement :: rest)) :
    Undocumented options rest := by
  intro before above line factory others next typeHint value heq
  exact h (statement :: before) above line factory others next typeHint value (congrArg _ heq)

/-- The properties of a body before and after the factories have moved. -/
theorem propertiesOf_redocumented (h : Undocumented options statements) (metadata : Expr) :
    Outcomes (List.Forall₂ (Declaration.Redocumented options)) (propertiesOf statements)
      (propertiesOf
        (statements.filter (fun statement => !isFactory statement) ++ [factoryFor metadata])) := by
  induction statements with
  | nil => exact .ok .nil
  | cons statement rest ih =>
    have hrest := ih h.tail
    cases statement with
    | line above line =>
      have hfollowing (typeHint : Expr) (value : Option Expr) (hdeclares : line.Declares typeHint value) :=
        sameText_following (fun factory others next heq =>
          h [] above line factory others next typeHint value (congrArg _ heq) hdeclares) metadata
      refine (lineProperties_redocumented above hfollowing).bind fun found found' hfound => ?_
      exact hrest.bind fun others others' hothers => .ok (List.rel_append hfound hothers)
    | functionDef head body =>
      cases hfactory : isFactory (.functionDef head body) with
      | true =>
        rw [List.filter_cons_of_neg (by simp [hfactory])]
        exact hrest
      | false =>
        rw [List.filter_cons_of_pos (by rw [hfactory]; rfl)]
        exact hrest
    | classDef head body => exact hrest
    | compound clauses => exact hrest

end

/-! ## Scopes -/

theorem binds_factoryFor (metadata : Expr) : Statement.Binds factoryName (factoryFor metadata) := by
  obtain ⟨head, body, heq, hname⟩ :
      ∃ head body, factoryFor metadata = .functionDef head body ∧ head.name = factoryName :=
    ⟨_, _, rfl, rfl⟩
  rw [heq, ← hname]
  exact .functionDef head body

/-- After a run a body binds what it has bound before, and the factory's name. -/
theorem Source.Suite.binds_relaid {body : Suite} {name : String} :
    body.relaid.Binds name ↔ body.Binds name ∨ name = factoryName := by
  unfold Suite.Binds
  rw [Suite.relaid, statements_withFactory]
  constructor
  · rintro ⟨statement, hmem, hbinds⟩
    obtain hmem | hmem := List.mem_append.1 hmem
    · exact .inl ⟨statement, (List.mem_filter.1 hmem).1, hbinds⟩
    · obtain rfl := List.mem_singleton.1 hmem
      cases hbinds
      exact .inr rfl
  · rintro (⟨statement, hmem, hbinds⟩ | rfl)
    · cases hfactory : isFactory statement with
      | false =>
        refine ⟨statement, List.mem_append_left _ (List.mem_filter.2 ⟨hmem, ?_⟩), hbinds⟩
        rw [hfactory]
        rfl
      | true =>
        have hname : name = factoryName := by
          cases hbinds with
          | functionDef head body => exact beq_iff_eq.1 hfactory
          | _ => cases hfactory
        subst hname
        exact ⟨_, List.mem_append_right _ (List.mem_singleton_self _), binds_factoryFor _⟩
    · exact ⟨_, List.mem_append_right _ (List.mem_singleton_self _), binds_factoryFor _⟩

theorem factoryName_not_constant : factoryName ∉ constantNames := by decide

/-! ## Maps -/

section

variable {site : Site} {scope' : List String} {Good : Expr → Prop}
  (h : Rescopes site.scope scope' Good) (className : String)
include h

theorem addProperty_rescoped {d d' : Declaration} (hredocumented : d.Redocumented site.options d')
    (hhint : Good d.typeHint) (hvalue : ∀ e, d.value = some e → Good e) (table : Table Descriptor) :
    addProperty (site.rescoped scope') className table d' = addProperty site className table d := by
  have hdocs : describeProperty (site.rescoped scope') className d'
      = describeProperty (site.rescoped scope') className d :=
    @Declaration.Redocumented.describeProperty (site.rescoped scope') d d' hredocumented className
  obtain ⟨hsame, -⟩ := hredocumented
  unfold addProperty
  rw [hdocs, h.describeProperty className hhint hvalue, hsame]
  rfl

/-- Declarations that are good and say the same get the same descriptors in the other scope. -/
theorem classDescriptors_rescoped {declarations declarations' : List Declaration}
    (hredocumented : List.Forall₂ (Declaration.Redocumented site.options) declarations declarations')
    (hgood : ∀ d ∈ declarations, Good d.typeHint ∧ ∀ e, d.value = some e → Good e) :
    classDescriptors (site.rescoped scope') className declarations'
      = classDescriptors site className declarations := by
  unfold classDescriptors
  generalize ({} : Table Descriptor) = table
  induction hredocumented generalizing table with
  | nil => rw [List.foldlM_nil, List.foldlM_nil]
  | cons hfirst _ ih =>
    obtain ⟨⟨hhint, hvalue⟩, hrest⟩ := List.forall_mem_cons.1 hgood
    rw [List.foldlM_cons, List.foldlM_cons, addProperty_rescoped h className hfirst hhint hvalue]
    simp only [ih hrest]

end

/-- The map of a class does not change when the factories move, if that makes no difference to the
docstrings of its properties, nor to what is copied into it. -/
theorem classMap_relaid {site : Site} {body : Suite} {Good : Expr → Prop}
    (hundocumented : Undocumented site.options body.statements)
    (h : Rescopes body.scopeNames body.relaid.scopeNames Good)
    (hgood : ∀ typeHint value, body.Declares typeHint value →
      Good typeHint ∧ ∀ e, value = some e → Good e) (head : ClassHead) :
    classMap site head body.relaid = classMap site head body := by
  have hproperties : Outcomes (List.Forall₂ (Declaration.Redocumented site.options)) body.properties
      body.relaid.properties := by
    unfold Suite.properties
    rw [Suite.relaid, statements_withFactory]
    exact propertiesOf_redocumented hundocumented .ellipsis
  have hdeclared : ∀ declarations, body.properties = .ok declarations →
      ∀ d ∈ declarations, Good d.typeHint ∧ ∀ e, d.value = some e → Good e :=
    fun _ hok d hd => hgood _ _ (Suite.declares_of_properties hok d hd)
  unfold classMap classMetadata
  generalize body.properties = found, body.relaid.properties = found' at hproperties hdeclared
  cases hproperties with
  | fault fault =>
    have herror (f : List Declaration → Describe Expr) :
        Describe.ofExcept (.error fault) >>= f = Describe.ofExcept (.error fault) := rfl
    rw [herror, herror]
  | @ok declarations declarations' hredocumented =>
    have hdescriptors : classDescriptors { site with scope := body.relaid.scopeNames } head.name declarations'
        = classDescriptors { site with scope := body.scopeNames } head.name declarations :=
      @classDescriptors_rescoped { site with scope := body.scopeNames } _ _ h head.name _ _ hredocumented
        (hdeclared _ rfl)
    rw [ofExcept_bind rfl, ofExcept_bind rfl, hdescriptors]

/-- A steady class is settled. -/
theorem settled_of_steady {site : Site} {head : ClassHead} {body : Suite}
    (h : body.Steady site.options) : Settled site (head, body) := by
  have hscope (name : String) :
      name ∈ body.relaid.scopeNames ↔ name ∈ body.scopeNames ∨ name = factoryName := by
    rw [Suite.mem_scopeNames, Suite.mem_scopeNames, Suite.binds_relaid]
  obtain hbinds | hunmentioned := h.bound
  · refine classMap_relaid h.undocumented (rescopes_same fun name => ?_)
      (fun _ _ _ => ⟨trivial, fun _ _ => trivial⟩) head
    rw [hscope]
    refine ⟨.inl, ?_⟩
    rintro (hname | rfl)
    · exact hname
    · exact Suite.mem_scopeNames.2 hbinds
  · refine classMap_relaid h.undocumented
      (rescopes_unmentioned factoryName_not_constant fun name hne => ?_) hunmentioned head
    rw [hscope]
    simp [hne]

/-- A body is steady if its factories, where it has any, stand behind everything else in it, and it binds
the factory's name or does not mention it. -/
theorem steady_of_trailing {options : Options} {body : Suite} {others factories : List Statement}
    (hstatements : body.statements = others ++ factories)
    (hothers : ∀ statement ∈ others, isFactory statement = false)
    (hfactories : ∀ statement ∈ factories, isFactory statement = true)
    (hbound : body.Binds factoryName ∨ ∀ typeHint value, body.Declares typeHint value →
      ¬ Expr.Mentions factoryName typeHint ∧ ∀ e, value = some e → ¬ Expr.Mentions factoryName e) :
    body.Steady options := by
  refine ⟨fun before above line factory rest next typeHint value heq _ hfactory hnext => ?_, hbound⟩
  have hmem := List.mem_of_find?_eq_some hnext
  have hother : isFactory next = false := by simpa using List.find?_some hnext
  -- The factory is the first of those at the end, or there would be one among the others.
  have hsplit : others ++ factories = (before ++ [.line above line]) ++ (factory :: rest) := by
    rw [← hstatements, heq, List.append_assoc]
    rfl
  have hlast : factory :: rest ⊆ factories := by
    rcases List.append_eq_append_iff.1 hsplit with ⟨more, -, hfront⟩ | ⟨more, hfront, hrest⟩
    · exact hfront ▸ List.subset_append_right more _
    · cases more with
      | nil => exact hrest ▸ List.Subset.refl _
      | cons first more =>
        obtain ⟨rfl, -⟩ := List.cons.inj hrest
        have hfalse := hothers factory (hfront ▸ by simp)
        rw [hfactory] at hfalse
        cases hfalse
  have htrue := hfactories next (hlast (List.mem_cons_of_mem _ hmem))
  rw [hother] at htrue
  cases htrue

/-! ## The second run -/

/-- If all models of a tree are steady, what a run makes of it stays as it is in the next run. -/
theorem rerun_eq_self {project : Option ProjectIndex} {options : Options} {file : String}
    {key : Except Fault String} {source updated : Module} {site : Site}
    (hwrites : options.readonly = false)
    (hsite : siteOf project options file source = .ok site)
    (hsteady : ∀ found ∈ modelsOfAll site false source.body, found.2.Steady options)
    (hupdated : augmented project options file key source = .ok updated) :
    augmented project options file key updated = .ok updated := by
  refine (rerun_eq_iff_settled hwrites hsite hupdated).2 fun found hfound => ?_
  exact settled_of_steady (siteOf_options hsite ▸ hsteady found hfound)

namespace Documented

def body : Suite :=
  .block {} (some "    ")
    [.ofSmall (.annotated (.name "x") [] Gap.space (.name "int") none),
     .ofSmall (.expr (.string "'doc'"))] []

def source : Module := { body := [.classDef Interposed.head body] }

def metadata : Expr := Interposed.mapWith [("description", textLiteral "doc")]

def once : Module := { body := [.classDef Interposed.head (withFactory metadata body)] }

theorem siteOf_source : siteOf none Interposed.options "m.py" source = .ok Interposed.site := by cbv

theorem classMap_body : classMap Interposed.site Interposed.head body = .ok metadata :=
  Interposed.classMap_int (some "doc") (by cbv) (by cbv) rfl

theorem augmented_source (key : Except Fault String) :
    augmented none Interposed.options "m.py" key source = .ok once := by
  have hbody : augmentStatements Interposed.site source.body = .ok once.body := by
    refine bind_eq_ok.2 ⟨_, bind_eq_ok.2 ⟨body, rfl, bind_eq_ok.2 ⟨_, ?_, rfl⟩⟩, rfl⟩
    rw [augmentClass_model rfl, classMap_body]
    rfl
  rw [augmented_eq rfl siteOf_source, hbody]
  rfl

theorem declares_body {typeHint : Expr} {value : Option Expr} (h : body.Declares typeHint value) :
    typeHint = .name "int" ∧ value = none := by
  obtain ⟨above, line, hline, @⟨entry, _, _, _, _, _, hentry, hstatement⟩⟩ := h
  simp only [body, Suite.statements, Statement.ofSmall, List.mem_cons, Statement.line.injEq,
    List.not_mem_nil, or_false] at hline
  rcases hline with ⟨-, rfl⟩ | ⟨-, rfl⟩
  · obtain rfl := List.mem_singleton.1 hentry
    cases hstatement
    exact ⟨rfl, rfl⟩
  · obtain rfl := List.mem_singleton.1 hentry
    cases hstatement

theorem steady_body : body.Steady Interposed.options := by
  refine steady_of_trailing (List.append_nil _).symm (by decide) nofun (.inr fun typeHint value h => ?_)
  obtain ⟨rfl, rfl⟩ := declares_body h
  exact ⟨Expr.not_mentions_name (by decide), nofun⟩

end Documented

theorem rerun_eq_self_of_documented :
    Documented.body.Steady Interposed.options
      ∧ augmented none Interposed.options "m.py" (.ok "./m.py") Documented.source = .ok Documented.once
      ∧ augmented none Interposed.options "m.py" (.ok "./m.py") Documented.once = .ok Documented.once := by
  have hsteady : ∀ found ∈ modelsOfAll Interposed.site false Documented.source.body,
      found.2.Steady Interposed.options :=
    List.forall_mem_singleton.2 Documented.steady_body
  have honce := Documented.augmented_source (.ok "./m.py")
  exact ⟨Documented.steady_body, honce, rerun_eq_self rfl Documented.siteOf_source hsteady honce⟩

end ModelMetadata
