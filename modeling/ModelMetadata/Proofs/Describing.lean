import ModelMetadata.ClassPass
import ModelMetadata.Proofs.Forgetting
import ModelMetadata.Proofs.Steps

/-!
What describing depends on. The map of a class is the same whatever the journal holds before, and
the same whichever members the enumerations of the tables have: neither the modules recorded for
other classes nor the layout of other bodies shows in it.
-/
set_option autoImplicit false
namespace ModelMetadata

open Source

/-! ## The recursion of descriptors -/

def memberEntry (site : Site) (member : Declaration) : Describe (Option (String × Expr)) :=
  match member.name with
  | none => return none
  | some name => do
    let found ← Describe.ofExcept (site.oracle.unwrap member.typeHint)
    if (skipReason member found).isSome then return none
    else return some (name, (← assembleUnwrapped site member found).display)

def namedEntries (site : Site) (core : Expr) : Describe Descriptor := do
  let t ← Describe.ofExcept (site.oracle.typeOf core)
  let reference := (t.map ResolvedType.reference).getD {}
  match reference.name.filter fun name => !name.isEmpty with
  | none => return []
  | some _ =>
    let e ← reference.refer site.options.readonly site.host
    return [(typeKey, Expr.thunk e)]

def shapeEntries (site : Site) (existing : List String) : AnnotationShape → Describe Descriptor
  | .inline members => do
    let entries ← members.mapM (memberEntry site)
    return [(typeKey, Expr.thunk (Descriptor.display (entries.filterMap id)))]
  | .union branches => do
    match ← Describe.ofExcept (site.oracle.nonNull branches) with
    | [branch] =>
      let entries ← typeEntries site existing branch
      if branches.length == 1 then return entries
      else return entries ++ [(nullableKey, boolLiteral true)]
    | _ => return []
  | .named core => namedEntries site core

theorem ofExcept_bind {α β : Type} {result : Except Fault α} {a : α} (h : result = .ok a)
    (f : α → Describe β) : Describe.ofExcept result >>= f = f a := by
  rw [h]
  rfl

theorem ofExcept_bind_congr {α β : Type} {result : Except Fault α} {f g : α → Describe β}
    (h : ∀ a, result = .ok a → f a = g a) :
    Describe.ofExcept result >>= f = Describe.ofExcept result >>= g := by
  cases result with
  | error fault => rfl
  | ok a => exact h a rfl

theorem typeEntries_eq (site : Site) (existing : List String) (e : Expr) :
    typeEntries site existing e
      = if existing.contains typeKey then pure []
        else Describe.ofExcept (site.oracle.shape e) >>= shapeEntries site existing := by
  rw [typeEntries]
  split
  · rfl
  split
  · rename_i hshape
    rw [hshape]
    rfl
  · rename_i members hshape
    rw [ofExcept_bind hshape]
    refine congrArg (· >>= _) ((List.mapM_subtype ?_).trans (by rw [List.unattach_attach]))
    intro member hmember
    dsimp only [memberEntry]
    cases member.name with
    | none => rfl
    | some name =>
      dsimp only
      split
      · rename_i hunwrap
        rw [hunwrap]
        rfl
      · rename_i found hunwrap
        rw [ofExcept_bind hunwrap]
  · rename_i branches hshape
    rw [ofExcept_bind hshape]
    dsimp only [shapeEntries]
    split
    · rename_i hkept
      rw [hkept]
      rfl
    · rename_i branch hkept
      rw [ofExcept_bind hkept]
    · rename_i kept hother hkept
      rw [ofExcept_bind hkept]
      split
      · rename_i branch
        exact absurd rfl (hother branch)
      · rfl
  · rename_i core hshape
    rw [ofExcept_bind hshape]
    rfl

/-- What holds of descriptors of members and of branches holds of all descriptors: the recursion of
`typeEntries` and `assembleUnwrapped` as a principle of proof. -/
theorem describing_induction (site : Site) {types : List String → Expr → Prop}
    {properties : Declaration → Unwrapped → Prop}
    (htype : ∀ existing e,
      (∀ members, site.oracle.shape e = .ok (.inline members) → ∀ member ∈ members, ∀ found,
        site.oracle.unwrap member.typeHint = .ok found → properties member found) →
      (∀ branches branch, site.oracle.shape e = .ok (.union branches) →
        site.oracle.nonNull branches = .ok [branch] → types existing branch) →
      types existing e)
    (hproperty : ∀ declaration found, (∀ existing, types existing found.type) →
      properties declaration found) :
    (∀ existing e, types existing e) ∧ ∀ declaration found, properties declaration found := by
  have htypes (existing e) : types existing e := by
    induction hn : e.weight using Nat.strongRecOn generalizing existing e with
    | ind n ih =>
      subst hn
      refine htype existing e (fun members hshape member hmember found hunwrap => ?_)
        fun branches branch hshape hkept => ?_
      · have hlight := Nat.lt_of_le_of_lt (Oracle.weight_unwrap_le hunwrap)
          (Oracle.weight_lt_of_inline hshape hmember)
        exact hproperty member found fun existing => ih _ hlight existing _ rfl
      · have hmem := Oracle.mem_of_mem_nonNull hkept List.mem_cons_self
        have hlight := (Oracle.weight_lt_of_union hshape hmem.1).resolve_right hmem.2
        exact ih _ hlight existing _ rfl
  exact ⟨htypes, fun declaration found =>
    hproperty declaration found fun existing => htypes existing _⟩

/-! ## Domains without member names -/

namespace ResolvedType

theorem isOptional_forget (t : ResolvedType) : t.forget.isOptional = t.isOptional := by
  cases t with
  | union members =>
    simp [forget, isOptional, forgetAll_eq_map, List.any_map, Function.comp_def]
  | _ => rfl

theorem find?_isNone_forget (members : List ResolvedType) :
    (members.map forget).find? (fun t => !t.isNone)
      = (members.find? fun t => !t.isNone).map forget := by
  simp [List.find?_map]

theorem withoutOptional_forget (t : ResolvedType) :
    t.forget.withoutOptional = t.withoutOptional.forget := by
  cases t with
  | union members =>
    have hoptional := isOptional_forget (.union members)
    simp only [forget, forgetAll_eq_map] at hoptional
    simp only [forget, forgetAll_eq_map, withoutOptional, hoptional, find?_isNone_forget]
    split
    · cases members.find? fun t => !t.isNone with
      | none => simp [forget, forgetAll_eq_map]
      | some t => rfl
    · simp [forget, forgetAll_eq_map]
  | _ => rfl

theorem element_forget (t : ResolvedType) :
    t.forget.element = (t.element.1.forget, t.element.2) := by
  cases t <;> rfl

theorem isEnumerated_forget (t : ResolvedType) : t.forget.isEnumerated = t.isEnumerated := by
  cases t with
  | named t => exact NamedType.forget_isEnumeration t
  | _ => rfl

theorem isLiteral_forget (t : ResolvedType) : t.forget.isLiteral = t.isLiteral := by
  cases t <;> rfl

theorem hasOwner_forget (owner : NamedType) (t : ResolvedType) :
    hasOwner owner.forget t.forget = hasOwner owner t := by
  cases t <;> rfl

theorem commonOwner?_forget (members : List ResolvedType) :
    commonOwner? (members.map forget) = (commonOwner? members).map NamedType.forget := by
  cases members with
  | nil => rfl
  | cons first rest =>
    cases first with
    | enumMember owner member =>
      have hall : (rest.map forget).all (hasOwner owner.forget) = rest.all (hasOwner owner) := by
        simp [List.all_map, Function.comp_def, hasOwner_forget]
      simp only [List.map_cons, forget, commonOwner?, hall]
      split <;> rfl
    | _ => rfl

theorem flatDomain?_forget (t : ResolvedType) :
    flatDomain? t.forget = (flatDomain? t).map forget := by
  cases t with
  | union members =>
    have hall : (members.map forget).all isLiteral = members.all isLiteral := by
      simp [List.all_map, Function.comp_def, isLiteral_forget]
    simp only [forget, forgetAll_eq_map, flatDomain?, hall, commonOwner?_forget]
    split
    · simp [forget, forgetAll_eq_map]
    · cases commonOwner? members <;> rfl
  | _ => rfl

theorem domain?_forget (t : ResolvedType) : domain? t.forget = (domain? t).map forget := by
  induction hn : sizeOf t using Nat.strongRecOn generalizing t with
  | ind n ih =>
    subst hn
    cases t with
    | array element =>
      have hinner := ih (sizeOf element) (by simp) element rfl
      simp only [forget, domain?, hinner]
      cases domain? element <;> rfl
    | union members =>
      simp only [forget, forgetAll_eq_map, domain?, withoutNone?_forget]
      cases withoutNone? members with
      | none => rfl
      | some t => exact flatDomain?_forget t
    | _ => simp [forget, domain?, flatDomain?]

theorem propertyDomain?_forget (t : ResolvedType) :
    propertyDomain? t.forget
      = (propertyDomain? t).map fun (domain, isArray) => (domain.forget, isArray) := by
  simp only [propertyDomain?, withoutOptional_forget, element_forget, isEnumerated_forget,
    domain?_forget]
  split
  · rfl
  · cases domain? t.withoutOptional.element.1 with
    | none => rfl
    | some domain => simp [element_forget]

theorem mapM_literalValue?_forget (members : List ResolvedType) :
    (members.map forget).mapM literalValue? = members.mapM literalValue? := by
  have hvalue (t : ResolvedType) : literalValue? t.forget = literalValue? t := by
    cases t <;> rfl
  induction members with
  | nil => rfl
  | cons first rest ih => simp only [List.map_cons, List.mapM_cons, hvalue, ih]

theorem literalValues?_forget (t : ResolvedType) : t.forget.literalValues? = t.literalValues? := by
  cases t with
  | union members => simp only [forget, forgetAll_eq_map, literalValues?, mapM_literalValue?_forget]
  | _ => rfl

end ResolvedType

/-! ## References without member names -/

theorem NamedType.refer_forget (readonly : Bool) (host : String) (t : NamedType) :
    t.forget.refer readonly host = t.refer readonly host := by
  cases t
  rfl

theorem TypeReference.refer_forget (readonly : Bool) (host : String) (reference : TypeReference) :
    reference.forget.refer readonly host = reference.refer readonly host := by
  obtain ⟨name, named, depth⟩ := reference
  cases named with
  | none => rfl
  | some t =>
    simp only [forget, refer, Option.map_some]
    rw [NamedType.refer_forget]

theorem referMember_forget (readonly : Bool) (host : String) (owner : NamedType) (member : String) :
    referMember readonly host owner.forget member = referMember readonly host owner member := by
  unfold referMember
  rw [NamedType.refer_forget]

theorem domainExpr_forget (site : Site) (domain : ResolvedType) :
    domainExpr site domain.forget = domainExpr site domain := by
  cases domain with
  | named t =>
    simp only [ResolvedType.forget, domainExpr, NamedType.forget_isEnumeration, Site.refer,
      NamedType.refer_forget]
  | enumMember owner member =>
    simp only [ResolvedType.forget, domainExpr, referMember_forget]
  | union members =>
    have hvalues := ResolvedType.literalValues?_forget (.union members)
    simp only [ResolvedType.forget] at hvalues
    simp only [ResolvedType.forget, domainExpr, hvalues]
  | _ => rfl

/-! ## Annotations without member names -/

namespace Oracle

theorem wrapperName_forget (oracle : Oracle) (e : Expr) :
    oracle.forget.wrapperName e = oracle.wrapperName e := by
  unfold wrapperName
  rw [specialForm?_forget]

theorem unwrapFrom_forget (oracle : Oracle) (found : Unwrapped) :
    unwrapFrom oracle.forget found = unwrapFrom oracle found := by
  induction hn : found.type.weight using Nat.strongRecOn generalizing found with
  | ind n ih =>
    subst hn
    rw [unwrapFrom, unwrapFrom]
    refine bind_congr fun text? => ?_
    cases text? with
    | some text =>
      refine bind_congr fun inner? => ?_
      cases inner? with
      | none => rfl
      | some inner => exact ih _ inner.property _ rfl
    | none =>
      dsimp only
      cases found.type.indexed? with
      | none => simp only [wrapperName_forget]
      | some parts =>
        obtain ⟨owner, ⟨first, hlight⟩, metadata⟩ := parts
        simp only [wrapperName_forget]
        cases found.wrappedBy? (oracle.wrapperName owner) metadata with
        | none => rfl
        | some layer => exact ih _ hlight _ rfl

theorem unwrap_forget (oracle : Oracle) (typeHint : Expr) :
    oracle.forget.unwrap typeHint = oracle.unwrap typeHint :=
  oracle.unwrapFrom_forget _

theorem core_forget (oracle : Oracle) (e : Expr) : oracle.forget.core e = oracle.core e := by
  induction hn : e.weight using Nat.strongRecOn generalizing e with
  | ind n ih =>
    subst hn
    rw [core, core]
    refine bind_congr fun text? => ?_
    cases text? with
    | some text =>
      refine bind_congr fun inner? => ?_
      cases inner? with
      | none => rfl
      | some inner => exact ih _ inner.property _ rfl
    | none =>
      dsimp only
      cases e.indexed? with
      | none => rfl
      | some parts =>
        obtain ⟨owner, ⟨first, hlight⟩, metadata⟩ := parts
        simp only [specialForm?_forget]
        split
        · exact ih _ hlight _ rfl
        · rfl

theorem unionParts?_forget (oracle : Oracle) (e : Expr) :
    unionParts? oracle.forget e = unionParts? oracle e := by
  unfold unionParts?
  simp only [specialForm?_forget]

theorem unionBranches_eq (oracle : Oracle) (e : Expr) :
    unionBranches oracle e
      = match unionParts? oracle e with
        | none => [e]
        | some (parts, implied) =>
          parts.flatMap (unionBranches oracle) ++ if implied then [impliedNone] else [] := by
  rw [unionBranches]
  split
  · rename_i hnone
    rw [hnone]
  · rename_i hsome
    simp only [List.flatMap_subtype, List.unattach_attach]
    rw [hsome]

theorem unionBranches_forget (oracle : Oracle) (e : Expr) :
    unionBranches oracle.forget e = unionBranches oracle e := by
  induction hn : e.weight using Nat.strongRecOn generalizing e with
  | ind n ih =>
    subst hn
    rw [unionBranches_eq, unionBranches_eq, unionParts?_forget]
    cases hparts : unionParts? oracle e with
    | none => rfl
    | some found =>
      obtain ⟨parts, implied⟩ := found
      exact congrArg (· ++ _) (List.flatMap_congr fun part hpart =>
        ih _ (weight_lt_of_unionParts hparts hpart) _ rfl)

theorem coreShape_forget (oracle : Oracle) (e : Expr) :
    oracle.forget.coreShape e = oracle.coreShape e := by
  unfold coreShape
  simp only [specialForm?_forget, unionParts?_forget, unionBranches_forget]

theorem shape_forget (oracle : Oracle) (e : Expr) : oracle.forget.shape e = oracle.shape e := by
  unfold shape
  rw [core_forget]
  exact bind_congr fun core => oracle.coreShape_forget core

theorem isNullBranch_forget (oracle : Oracle) (e : Expr) :
    oracle.forget.isNullBranch e = oracle.isNullBranch e := by
  unfold isNullBranch
  rw [specialForm?_forget]

theorem nonNull_forget (oracle : Oracle) (branches : List Expr) :
    oracle.forget.nonNull branches = oracle.nonNull branches := by
  induction branches with
  | nil => rfl
  | cons branch rest ih => simp only [nonNull, isNullBranch_forget, ih]

theorem defaultOf?_forget (oracle : Oracle) (value : Expr) :
    oracle.forget.defaultOf? value = oracle.defaultOf? value := by
  unfold defaultOf?
  simp only [wrapperName_forget]

end Oracle

/-! ## Descriptors without member names -/

/-- The same place with tables that know no members of enumerations. -/
def Site.forget (site : Site) : Site := { site with oracle := site.oracle.forget }

namespace Site

@[simp] theorem forget_options (site : Site) : site.forget.options = site.options := rfl

@[simp] theorem forget_file (site : Site) : site.forget.file = site.file := rfl

@[simp] theorem forget_scope (site : Site) : site.forget.scope = site.scope := rfl

@[simp] theorem forget_host (site : Site) : site.forget.host = site.host := rfl

@[simp] theorem forget_subject (site : Site) (property : Option String) :
    site.forget.subject property = site.subject property := rfl

@[simp] theorem forget_note (site : Site) (text : String) :
    site.forget.note text = site.note text := rfl

@[simp] theorem forget_isCopyable (site : Site) (e : Expr) :
    site.forget.isCopyable e = site.isCopyable e := rfl

end Site

theorem domainExpr_site_forget (site : Site) (domain : ResolvedType) :
    domainExpr site.forget domain = domainExpr site domain := rfl

theorem seedEntries_forget (site : Site) (subject : String) (seed : List (String × Expr)) :
    seedEntries site.forget subject seed = seedEntries site subject seed := by
  induction seed with
  | nil => rfl
  | cons entry rest ih => simp only [seedEntries, ih, Site.forget_isCopyable, Site.forget_note]

theorem defaultEntries_forget (site : Site) (subject : String) (existing : List String)
    (value : Option Expr) :
    defaultEntries site.forget subject existing value
      = defaultEntries site subject existing value := by
  have hdefault : site.forget.oracle.defaultOf? = site.oracle.defaultOf? :=
    funext site.oracle.defaultOf?_forget
  simp only [defaultEntries, hdefault, Site.forget_isCopyable, Site.forget_note]

theorem domainEntries_forget (site : Site) (existing : List String) (e : Expr) :
    domainEntries site.forget existing e = domainEntries site existing e := by
  have htype : site.forget.oracle.typeOf e
      = Option.map ResolvedType.forget <$> site.oracle.typeOf e := site.oracle.typeOf_forget e
  unfold domainEntries
  split
  · rfl
  rw [htype]
  cases site.oracle.typeOf e with
  | error fault => rfl
  | ok t =>
    cases t with
    | none => rfl
    | some t =>
      refine (ofExcept_bind rfl _).trans (.trans ?_ (ofExcept_bind rfl _).symm)
      simp only [Option.map_some, Option.bind_some, ResolvedType.propertyDomain?_forget]
      cases t.propertyDomain? with
      | none => rfl
      | some found =>
        obtain ⟨domain, isArray⟩ := found
        dsimp only [Option.map_some]
        rw [domainExpr_site_forget, domainExpr_forget]

theorem validationEntries_forget (site : Site) (subject : String) (markers : List Expr) :
    validationEntries site.forget subject markers = validationEntries site subject markers := rfl

theorem namedEntries_forget (site : Site) (core : Expr) :
    namedEntries site.forget core = namedEntries site core := by
  have htype : site.forget.oracle.typeOf core
      = Option.map ResolvedType.forget <$> site.oracle.typeOf core := site.oracle.typeOf_forget core
  unfold namedEntries
  rw [htype]
  cases site.oracle.typeOf core with
  | error fault => rfl
  | ok t =>
    cases t with
    | none => rfl
    | some t =>
      refine (ofExcept_bind rfl _).trans (.trans ?_ (ofExcept_bind rfl _).symm)
      simp only [Option.map_some, Option.getD_some, ResolvedType.reference_forget,
        TypeReference.refer_forget, Site.forget_options, Site.forget_host]
      rfl

theorem memberEntry_forget {site : Site} {member : Declaration}
    (h : ∀ found, site.oracle.unwrap member.typeHint = .ok found →
      assembleUnwrapped site.forget member found = assembleUnwrapped site member found) :
    memberEntry site.forget member = memberEntry site member := by
  have hunwrap : site.forget.oracle.unwrap member.typeHint = site.oracle.unwrap member.typeHint :=
    site.oracle.unwrap_forget _
  unfold memberEntry
  rw [hunwrap]
  cases member.name with
  | none => rfl
  | some name =>
    refine ofExcept_bind_congr fun found hfound => ?_
    rw [h found hfound]

theorem mapM_congr {α β : Type} {f g : α → Describe β} {xs : List α} (h : ∀ x ∈ xs, f x = g x) :
    xs.mapM f = xs.mapM g := by
  induction xs with
  | nil => rfl
  | cons x rest ih =>
    rw [List.mapM_cons, List.mapM_cons, h x List.mem_cons_self,
      ih fun y hy => h y (List.mem_cons_of_mem x hy)]

theorem shapeEntries_forget {site : Site} {existing : List String} {shape : AnnotationShape}
    (hmembers : ∀ members, shape = .inline members → ∀ member ∈ members,
      memberEntry site.forget member = memberEntry site member)
    (hbranch : ∀ branches branch, shape = .union branches →
      site.oracle.nonNull branches = .ok [branch] →
      typeEntries site.forget existing branch = typeEntries site existing branch) :
    shapeEntries site.forget existing shape = shapeEntries site existing shape := by
  cases shape with
  | inline members =>
    have hentries : members.mapM (memberEntry site.forget) = members.mapM (memberEntry site) :=
      mapM_congr (hmembers members rfl)
    simp only [shapeEntries, hentries]
  | union branches =>
    have hkept : site.forget.oracle.nonNull branches = site.oracle.nonNull branches :=
      site.oracle.nonNull_forget _
    simp only [shapeEntries, hkept]
    refine ofExcept_bind_congr fun kept hfound => ?_
    split
    · rename_i branch
      rw [hbranch branches branch rfl hfound]
    · rfl
  | named core => exact namedEntries_forget site core

theorem describing_forget (site : Site) :
    (∀ existing e, typeEntries site.forget existing e = typeEntries site existing e)
      ∧ ∀ declaration found,
        assembleUnwrapped site.forget declaration found
          = assembleUnwrapped site declaration found := by
  refine describing_induction site (fun existing e hmembers hbranch => ?_)
    fun declaration found htype => ?_
  · have hshape : site.forget.oracle.shape e = site.oracle.shape e := site.oracle.shape_forget e
    rw [typeEntries_eq, typeEntries_eq, hshape]
    split
    · rfl
    refine ofExcept_bind_congr fun shape hfound => shapeEntries_forget ?_ ?_
    · intro members hinline member hmember
      subst hinline
      exact memberEntry_forget (hmembers members hfound member hmember)
    · intro branches branch hunion hkept
      subst hunion
      exact hbranch branches branch hfound hkept
  · rw [assembleUnwrapped, assembleUnwrapped]
    simp only [htype, seedEntries_forget, defaultEntries_forget, domainEntries_forget,
      validationEntries_forget, Site.forget_subject, Site.forget_options]
    rfl

/-! ## Classes without member names -/

theorem describeProperty_forget (site : Site) (className : String) (declaration : Declaration) :
    describeProperty site.forget className declaration
      = describeProperty site className declaration := by
  have hunwrap : site.forget.oracle.unwrap = site.oracle.unwrap :=
    funext site.oracle.unwrap_forget
  have hassemble : assembleUnwrapped site.forget = assembleUnwrapped site :=
    funext fun declaration => funext ((describing_forget site).2 declaration)
  simp only [describeProperty, hunwrap, hassemble, Site.forget_note]

theorem classDescriptors_forget (site : Site) (className : String)
    (declarations : List Declaration) :
    classDescriptors site.forget className declarations
      = classDescriptors site className declarations := by
  have hadd : addProperty site.forget className = addProperty site className := by
    funext table declaration
    simp only [addProperty, describeProperty_forget, Site.forget_note, Site.forget_file]
  simp only [classDescriptors, hadd]

theorem classMetadata_forget (site : Site) (head : ClassHead) (body : Suite) :
    classMetadata site.forget head body = classMetadata site head body := by
  unfold classMetadata
  refine ofExcept_bind_congr fun declarations _ => congrArg (· >>= _) ?_
  exact classDescriptors_forget { site with scope := body.scopeNames } head.name declarations

theorem isModel_forget (site : Site) (bases : List Expr) :
    isModel site.forget bases = isModel site bases := by
  induction bases with
  | nil => rfl
  | cons base rest ih =>
    have hform : site.forget.oracle.specialForm? = site.oracle.specialForm? :=
      site.oracle.specialForm?_forget
    have htype (e : Expr) : site.forget.oracle.typeOf e
        = Option.map ResolvedType.forget <$> site.oracle.typeOf e := site.oracle.typeOf_forget e
    simp only [isModel, hform, htype, ih, bind_map_left, Site.forget_options]
    refine ite_congr rfl (fun _ => rfl) fun _ => bind_congr fun t => ?_
    cases t with
    | none => rfl
    | some t => simp only [Option.map_some, ResolvedType.isEnumeration_forget]

end ModelMetadata
