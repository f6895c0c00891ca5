import ModelMetadata.Proofs.FreeNames
import ModelMetadata.Proofs.Producing
import ModelMetadata.Proofs.Rerunning

/-!
Names of a class body in the map of the class. The map is evaluated in a function, which does not see
the names that the body binds. To evaluate what is copied into it looks up none of the names that lines of
the body assign to, and none of its functions and classes, unless the default of a function does. Names
that are bound in any other way, such as by unpacking, are not told apart from those of the module, and a
default that reads one is copied.
-/
set_option autoImplicit false
namespace ModelMetadata

open Source

namespace Source

/-! ## Names that a body binds -/

inductive Expr.IsNamed (name : String) : Expr → Prop where
  | here : IsNamed name (.name name)
  | paren {afterOpen beforeClose : Gap} {inner : Expr} (h : IsNamed name inner) :
    IsNamed name (.paren afterOpen inner beforeClose)

inductive Small.Binds (name : String) : Small → Prop where
  | assign {targets : List Target} {value : Expr} {target : Target} (htarget : target ∈ targets)
    (h : target.target.IsNamed name) : Binds name (.assign targets value)
  | annotated {target typeHint : Expr} {beforeColon afterColon : Gap} {assigned : Option Assigned}
    (h : target.IsNamed name) : Binds name (.annotated target beforeColon afterColon typeHint assigned)
  | augmented {target value : Expr} {beforeOp afterOp : Gap} {op : String} (h : target.IsNamed name) :
    Binds name (.augmented target beforeOp op afterOp value)

inductive Statement.Binds : String → Statement → Prop where
  | line {name : String} {above : List EmptyLine} {line : SmallLine} {entry : SmallEntry}
    (hentry : entry ∈ line.entries) (h : entry.statement.Binds name) :
    Binds name (.line above line)
  | classDef (head : ClassHead) (body : Suite) : Binds head.name (.classDef head body)
  | functionDef (head : FunctionHead) (body : Suite) : Binds head.name (.functionDef head body)

/-- A statement that stands directly in the body binds the name. -/
def Suite.Binds (body : Suite) (name : String) : Prop :=
  ∃ statement ∈ body.statements, Statement.Binds name statement

theorem Expr.targetName?_eq_some {name : String} {e : Expr} :
    ModuleSymbols.targetName? e = some name ↔ e.IsNamed name := by
  constructor
  · intro h
    induction e using Expr.bare.induct with
    | case1 afterOpen inner beforeClose ih => exact .paren (ih h)
    | case2 e hparen =>
      unfold ModuleSymbols.targetName? at h
      rw [Expr.bare.eq_2 e hparen] at h
      split at h
      · cases h
        exact .here
      · cases h
  · intro h
    induction h with
    | here => rfl
    | paren _ ih => exact ih

theorem Small.mem_boundNames {name : String} {small : Small} :
    name ∈ boundNames small ↔ small.Binds name := by
  constructor
  · intro h
    cases small with
    | assign targets value =>
      obtain ⟨target, htarget, h⟩ := List.mem_filterMap.1 h
      exact .assign htarget (Expr.targetName?_eq_some.1 h)
    | annotated => exact .annotated (Expr.targetName?_eq_some.1 (Option.mem_toList.1 h))
    | augmented => exact .augmented (Expr.targetName?_eq_some.1 (Option.mem_toList.1 h))
    | _ => cases h
  · intro h
    cases h with
    | assign htarget h => exact List.mem_filterMap.2 ⟨_, htarget, Expr.targetName?_eq_some.2 h⟩
    | annotated h => exact Option.mem_toList.2 (Expr.targetName?_eq_some.2 h)
    | augmented h => exact Option.mem_toList.2 (Expr.targetName?_eq_some.2 h)

/-- The scope that expressions are checked against is that of the names the body binds so. -/
theorem Suite.mem_scopeNames {name : String} {body : Suite} : name ∈ body.scopeNames ↔ body.Binds name := by
  unfold Suite.scopeNames
  rw [List.mem_flatMap]
  refine exists_congr fun statement => and_congr_right fun _ => ?_
  constructor
  · intro h
    cases statement with
    | line above line =>
      obtain ⟨entry, hentry, h⟩ := List.mem_flatMap.1 h
      exact .line hentry (Small.mem_boundNames.1 h)
    | classDef head body => exact List.mem_singleton.1 h ▸ .classDef head body
    | functionDef head body => exact List.mem_singleton.1 h ▸ .functionDef head body
    | compound => cases h
  · intro h
    cases h with
    | line hentry h => exact List.mem_flatMap.2 ⟨_, hentry, Small.mem_boundNames.2 h⟩
    | classDef => exact List.mem_singleton_self _
    | functionDef => exact List.mem_singleton_self _

/-! ## Entries that can leave the class -/

/-- To evaluate an expression looks up no name that the body binds, other than in the default of a
function. -/
def Expr.Leaves (body : Suite) (e : Expr) : Prop :=
  ∀ name, body.Binds name → Reads name e → ∃ d, HasDefault d e ∧ Reads name d

theorem Expr.Reads.not_constant {name : String} {e : Expr} (h : Reads name e) : name ∉ constantNames := by
  induction h with
  | here h => exact h
  | part _ _ ih => exact ih
  | element _ _ _ _ ih => exact ih
  | default _ _ ih => exact ih
  | body _ _ _ ih => exact ih

theorem Expr.ReadsNothing.leaves {e : Expr} (h : e.ReadsNothing) (body : Suite) : e.Leaves body :=
  fun _ _ hreads => absurd (ReadsOnly.reads h hreads) hreads.not_constant

end Source

/-- An entry of the descriptor of a property with the annotation `hint`, in the map of the class with the
body `body`: a value that is copied or written and can leave the class, the reference to a type or an
enumerable domain, or the entries of an inline shape, each member with an annotation and a descriptor of
its own. -/
inductive Detached (site : Site) (body : Suite) : Expr → String × Expr → Prop where
  | copied {hint e : Expr} {key : String} (hleaves : e.Leaves body) : Detached site body hint (key, e)
  | type {hint core e : Expr} {t : ResolvedType} {journal : Journal}
    (htype : site.oracle.typeOf core = .ok (some t))
    (he : (t.reference.refer site.options.readonly site.host journal).1 = .ok e) :
    Detached site body hint (typeKey, Expr.thunk e)
  | domain {hint e : Expr} {t domain : ResolvedType} {isArray : Bool} {journal : Journal}
    (htype : site.oracle.typeOf hint = .ok (some t))
    (hdomain : t.propertyDomain? = some (domain, isArray))
    (he : (domainExpr site domain journal).1 = .ok (some e)) :
    Detached site body hint (enumKey, e)
  | members {hint : Expr} {members : List (String × Expr × Descriptor)}
    (hmembers : ∀ member ∈ members, ∀ entry ∈ member.2.2, Detached site body member.2.1 entry) :
    Detached site body hint (typeKey, Expr.thunk
      (Descriptor.display (members.map fun member => (member.1, member.2.2.display))))

/-- The descriptors of named properties, each with the annotation it belongs to. -/
def DetachedAll (site : Site) (body : Suite) (members : List (String × Expr × Descriptor)) : Prop :=
  ∀ member ∈ members, ∀ entry ∈ member.2.2, Detached site body member.2.1 entry

section

variable {site : Site} {body : Suite} (hscope : site.scope = body.scopeNames)
include hscope

theorem admits_leaves : Admits site (Expr.Leaves body) where
  copied {e} h := by
    unfold isCopyable at h
    split at h
    · exact (readsNothing_of_isStatic e h).leaves body
    · intro name hbinds hreads
      obtain hname | ⟨d, hdefault, hreads, -⟩ := hreads.collected
      · simp only [Except.ok.injEq, Bool.not_eq_true', List.any_eq_false] at h
        have hbound : name ∈ site.scope := hscope ▸ Suite.mem_scopeNames.2 hbinds
        exact absurd (List.contains_iff_mem.2 hbound) (h name hname)
      · exact ⟨d, hdefault, hreads⟩
  written _ {_} h := (readsNothing_of_value h).leaves body

theorem makes_detached : Makes site (fun _ => True) (Detached site body) where
  unwrap _ _ := trivial
  shape {_ shape} _ _ := by cases shape <;> simp [AnnotationShape.All]
  admits := (admits_leaves hscope).imp fun _ he _ _ => .copied he
  type _ htype he := .type htype he
  domain _ htype hdomain he := .domain htype hdomain he
  members hmembers := .members hmembers

end

/-! ## Classes -/

/-- The map of a class holds what is written and what looks up no name that a line, a function or a class
in its body binds, apart from references to types. -/
theorem classMap_detached {site : Site} {head : ClassHead} {body : Suite} {metadata : Expr}
    (h : classMap site head body = .ok metadata) :
    ∃ members, DetachedAll { site with scope := body.scopeNames } body members
      ∧ metadata = Descriptor.display
          (members.map fun member => (member.1, member.2.2.display)) := by
  let inside : Site := { site with scope := body.scopeNames }
  have hmakes : Makes inside (fun _ => True) (Detached inside body) := makes_detached rfl
  obtain ⟨members, hmembers, rfl⟩ := (hmakes.classMetadata (fun _ _ _ _ => trivial) head).ensures h
  exact ⟨members, hmembers, rfl⟩

namespace Referring

def code : String :=
  "class A:\n    LOW = 1\n    x: Annotated[int, ApiProperty(title=TITLE), Min(BOUND)] = START\n"

/-- `ApiProperty(title=TITLE)` -/
def titleSeed : Expr :=
  .call (.name "ApiProperty") [] (Entry.ofItems [.keyword "title" [] [] (.name "TITLE")]) []

/-- `Min(BOUND)` -/
def boundMarker : Expr := .call (.name "Min") [] (Entry.ofItems [.value (.name "BOUND")]) []

def markers : List Expr := [titleSeed, boundMarker]

def property : Declaration where
  name := some "x"
  typeHint :=
    .subscript (.name "Annotated") [] (Entry.ofItems ((.name "int" :: markers).map .value)) []
  value := some (.name "START")

def body : Suite :=
  .block {} (some "    ")
    [.ofSmall (.assign [⟨.name "LOW", Gap.space, Gap.space⟩] (.integer "1")),
     .ofSmall (.annotated (.name "x") [] Gap.space property.typeHint
       (some ⟨Gap.space, Gap.space, .name "START"⟩))] []

/-- The tree of `code`. -/
def source : Module := { body := [.classDef Interposed.head body] }

def descriptor : Descriptor :=
  [("title", .name "TITLE"), (requiredKey, boolLiteral true), (typeKey, Expr.thunk (.name "int")),
    (defaultKey, .name "START"), ("minimum", .name "BOUND")]

def site : Site := { Interposed.site with scope := body.scopeNames }

theorem unwrap_property : site.oracle.unwrap property.typeHint = .ok { type := .name "int", markers } := by
  cbv

theorem assemble_property :
    assembleUnwrapped site property { type := .name "int", markers } = pure descriptor := by
  have hseed : ({ type := .name "int", markers } : Unwrapped).seed = [("title", .name "TITLE")] := rfl
  have hseeded : seedEntries site (site.subject property.name) [("title", .name "TITLE")]
      = pure [("title", .name "TITLE")] := rfl
  have htype : typeEntries site ["title"] (.name "int") = pure [(typeKey, Expr.thunk (.name "int"))] :=
    Interposed.typeEntries_int _ _ _
  have hdocs : documentationEntries site.options property ["title"] = .ok [] := rfl
  have hdefault : defaultEntries site (site.subject property.name) ["title"] property.value
      = pure [(defaultKey, .name "START")] := rfl
  have hdomain : domainEntries site ["title"] (.name "int") = pure [] :=
    Interposed.domainEntries_int _ _ _
  have hvalidation : validationEntries site (site.subject property.name) markers
      = pure [("minimum", .name "BOUND")] := rfl
  rw [assembleUnwrapped, hseed]
  simp only [List.map_cons, List.map_nil, hseeded, htype, hdocs, hdefault, hdomain, hvalidation]
  rfl

theorem classMap_body : classMap Interposed.site Interposed.head body
    = .ok (Descriptor.display [("x", descriptor.display)]) := by
  have hdescribe : describeProperty site Interposed.head.name property = pure (some descriptor) := by
    refine (ofExcept_bind unwrap_property _).trans ?_
    exact congrArg (some <$> ·) assemble_property
  have hproperties : body.properties = .ok [property] := rfl
  unfold classMap classMetadata
  rw [ofExcept_bind hproperties]
  unfold classDescriptors
  rw [List.foldlM_cons]
  unfold addProperty
  simp only [show ({ Interposed.site with scope := body.scopeNames } : Site) = site from rfl, hdescribe]
  rfl

theorem binds_low : body.Binds "LOW" :=
  ⟨_, List.mem_cons_self, .line List.mem_cons_self (.assign List.mem_cons_self .here)⟩

end Referring

/-- The seed, the default and the argument of the marker read names of the module, and all are copied. -/
theorem classMap_detached_of_referring :
    Referring.source.render = Referring.code
      ∧ Referring.body.Binds "LOW"
      ∧ ∃ members, DetachedAll { Interposed.site with scope := Referring.body.scopeNames } Referring.body
          members
        ∧ Descriptor.display [("x", Referring.descriptor.display)] = Descriptor.display
          (members.map fun member => (member.1, member.2.2.display)) :=
  ⟨by decide +kernel, Referring.binds_low, classMap_detached Referring.classMap_body⟩

/-! ## Names that are bound by unpacking -/

namespace Unpacked

def code : String := "class A:\n    P, Q = 1, 2\n    x: int = P\n"

def target : Expr := .tuple [.mk [] (.value (.name "P")) (some []), .mk Gap.space (.value (.name "Q")) none]

def body : Suite :=
  .block {} (some "    ")
    [.ofSmall (.assign [⟨target, Gap.space, Gap.space⟩]
       (.tuple [.mk [] (.value (.integer "1")) (some []),
         .mk Gap.space (.value (.integer "2")) none])),
     .ofSmall (.annotated (.name "x") [] Gap.space (.name "int")
       (some ⟨Gap.space, Gap.space, .name "P"⟩))] []

/-- The tree of `code`. -/
def source : Module := { body := [.classDef Interposed.head body] }

def property : Declaration :=
  { name := some "x", typeHint := .name "int", value := some (.name "P") }

def descriptor : Descriptor :=
  [(requiredKey, boolLiteral true), (typeKey, Expr.thunk (.name "int")), (defaultKey, .name "P")]

theorem classMap_body : classMap Interposed.site Interposed.head body
    = .ok (Descriptor.display [("x", descriptor.display)]) := by
  have hassemble : assembleUnwrapped { Interposed.site with scope := body.scopeNames } property
      { type := .name "int" } = pure descriptor := by
    rw [assembleUnwrapped]
    simp only [Interposed.typeEntries_int, Interposed.domainEntries_int]
    rfl
  have hdescribe : describeProperty { Interposed.site with scope := body.scopeNames }
      Interposed.head.name property = pure (some descriptor) := by
    refine (ofExcept_bind Interposed.unwrap_int _).trans ?_
    exact congrArg (some <$> ·) hassemble
  have hproperties : body.properties = .ok [property] := rfl
  unfold classMap classMetadata
  rw [ofExcept_bind hproperties]
  unfold classDescriptors
  rw [List.foldlM_cons]
  unfold addProperty
  simp only [hdescribe]
  rfl

end Unpacked

/-- A default that reads a name from a tuple target of the class body is copied. -/
theorem unpacked_name_copied :
    Unpacked.source.render = Unpacked.code
      ∧ "P" ∈ Unpacked.target.targetNames
      ∧ classMap Interposed.site Interposed.head Unpacked.body
          = .ok (Descriptor.display [("x", Unpacked.descriptor.display)])
      ∧ (defaultKey, .name "P") ∈ Unpacked.descriptor :=
  ⟨by decide +kernel, by decide, Unpacked.classMap_body, by simp [Unpacked.descriptor]⟩

end ModelMetadata
