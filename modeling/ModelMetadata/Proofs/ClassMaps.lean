import ModelMetadata.Proofs.Loading
import ModelMetadata.Proofs.ModuleClasses
import ModelMetadata.Proofs.Rerunning

/-!
The map of a class, property by property. Describing a declaration adds the descriptor that it gets on
its own, or nothing where it is skipped or cannot be described. So a name is in the map if one of its
declarations is described; it stands where the first of them is and has what the last of them gets. No
other declaration of the body makes a difference to it.
-/
set_option autoImplicit false
namespace ModelMetadata

open Source

/-! ## Names of tables -/

/-- Names stand in the order in which each was first entered. -/
theorem Table.names_entered {α : Type} (entries : List (String × α)) :
    (entered entries).names = (entries.map Prod.fst).eraseDups := by
  induction entries using List.reverseRecOn with
  | nil => rfl
  | append_singleton entries entry ih =>
    obtain ⟨name, value⟩ := entry
    have hmem : name ∈ (entries.map Prod.fst).eraseDups ↔ name ∈ entries.map Prod.fst :=
      List.mem_eraseDups
    rw [entered_concat, names, insert, names_insertInto, ← names, ih, List.map_append,
      List.eraseDups_append]
    by_cases hknown : name ∈ entries.map Prod.fst
    · rw [if_pos (hmem.2 hknown)]
      simp [List.removeAll, hknown]
    · rw [if_neg (mt hmem.1 hknown)]
      simp [List.removeAll, hknown, List.eraseDups_cons]

/-! ## Declarations on their own -/

/-- What comes of a declaration on its own: a descriptor, none when it is skipped, or a fault. -/
def Declaration.outcome (site : Site) (declaration : Declaration) : Except Fault (Option Descriptor) := do
  let found ← site.oracle.unwrap declaration.typeHint
  if (skipReason declaration found).isSome then return none
  else some <$> (assemble site declaration {}).1

/-- The name of a declaration with the descriptor that it gets on its own; none when the declaration is
skipped or cannot be described. -/
def Declaration.described? (site : Site) (declaration : Declaration) : Option (String × Descriptor) :=
  match declaration.outcome site with
  | .ok (some descriptor) => declaration.name.map fun name => (name, descriptor)
  | _ => none

theorem Declaration.name_of_described? {site : Site} {declaration : Declaration}
    {entry : String × Descriptor} (h : declaration.described? site = some entry) :
    declaration.name = some entry.1 := by
  unfold described? at h
  split at h
  · obtain ⟨name, hname, rfl⟩ := Option.map_eq_some_iff.1 h
    exact hname
  · cases h

theorem Declaration.name_of_described {site : Site} {declaration : Declaration} {descriptor : Descriptor}
    (h : declaration.outcome site = .ok (some descriptor)) : ∃ name, declaration.name = some name := by
  obtain ⟨found, -, h⟩ := bind_eq_ok.1 h
  cases hname : declaration.name with
  | none =>
    rw [skipReason, hname] at h
    cases h
  | some name => exact ⟨name, rfl⟩

theorem Declaration.outcome_eq {site : Site} {declaration : Declaration} {found : Unwrapped}
    (h : site.oracle.unwrap declaration.typeHint = .ok found) :
    declaration.outcome site
      = if (skipReason declaration found).isSome then .ok none
        else some <$> (assembleUnwrapped site declaration found {}).1 := by
  rw [outcome, h, assemble, ofExcept_bind h]
  rfl

theorem describeProperty_gives (site : Site) (className : String) (declaration : Declaration) :
    Gives (describeProperty site className declaration) (declaration.outcome site) := by
  cases hfound : site.oracle.unwrap declaration.typeHint with
  | error fault =>
    unfold describeProperty Declaration.outcome
    rw [hfound]
    exact .stop (.ofExcept _)
  | ok found =>
    rw [Declaration.outcome_eq hfound, describeProperty, ofExcept_bind hfound]
    cases skipReason declaration found with
    | some reason => exact .andThen (.note ..) (.pure none)
    | none =>
      have hgives : Gives (assembleUnwrapped site declaration found) _ :=
        .ofSteady ((Additive.describing site).2 declaration found).steady
      dsimp only
      rw [map_eq_pure_bind]
      exact hgives.bind fun descriptor => .pure (some descriptor)

/-- A declaration that is described adds its descriptor to the map, any other one adds nothing. -/
theorem addProperty_gives (site : Site) (className : String) (table : Table Descriptor)
    (declaration : Declaration) :
    Gives (addProperty site className table declaration)
      (.ok ((declaration.described? site).elim table fun entry => table.insert entry.1 entry.2)) := by
  have hcaught : Gives (describeProperty site className declaration).caught
      (.ok (declaration.outcome site)) :=
    .of fun journal => congrArg Except.ok ((describeProperty_gives site className declaration).gives journal)
  refine .andThen hcaught ?_
  unfold Declaration.described?
  cases houtcome : declaration.outcome site with
  | error fault => exact .andThen (.note ..) (.pure table)
  | ok descriptor? =>
    cases descriptor? with
    | none => exact .pure table
    | some descriptor =>
      obtain ⟨name, hname⟩ := Declaration.name_of_described houtcome
      rw [hname]
      exact .pure _

theorem classDescriptors_gives (site : Site) (className : String) (declarations : List Declaration) :
    Gives (classDescriptors site className declarations)
      (.ok (.entered (declarations.filterMap (Declaration.described? site)))) := by
  suffices hfold : ∀ table : Table Descriptor,
      Gives (declarations.foldlM (addProperty site className) table)
        (.ok ((declarations.filterMap (Declaration.described? site)).foldl
          (fun table entry => table.insert entry.1 entry.2) table)) from hfold {}
  induction declarations with
  | nil => exact fun table => .pure table
  | cons declaration rest ih =>
    intro table
    rw [List.foldlM_cons]
    refine .andThen (addProperty_gives ..) ?_
    cases hdescribed : declaration.described? site with
    | none =>
      rw [List.filterMap_cons_none hdescribed]
      exact ih table
    | some entry =>
      rw [List.filterMap_cons_some hdescribed]
      exact ih _

/-- The declarations of one name that are described are those with the name among all that are. -/
theorem filterMap_described (site : Site) (declarations : List Declaration) (name : String) :
    (declarations.filterMap (Declaration.described? site)).filter (·.1 == name)
      = (declarations.filter (·.name == some name)).filterMap (Declaration.described? site) := by
  induction declarations with
  | nil => rfl
  | cons declaration rest ih =>
    cases hdescribed : declaration.described? site with
    | none =>
      rw [List.filterMap_cons_none hdescribed, ih, List.filter_cons]
      split
      · rw [List.filterMap_cons_none hdescribed]
      · rfl
    | some entry =>
      have hname := Declaration.name_of_described? hdescribed
      rw [List.filterMap_cons_some hdescribed, List.filter_cons, List.filter_cons, hname]
      by_cases hsame : entry.1 = name
      · rw [if_pos (by simpa using hsame), if_pos (by simpa using hsame),
          List.filterMap_cons_some hdescribed, ih]
      · rw [if_neg (by simpa using hsame), if_neg (by simpa using hsame), ih]

/-- The map of a class has the names of the declarations that are described on their own, in the order of
the first such declaration of each, and under each name what the last such declaration gets. It depends
on the declarations of that name and the names of the body alone, whatever else is described, skipped or
cannot be described. -/
theorem classMap_pointwise {site : Site} {head : ClassHead} {body : Suite}
    {declarations : List Declaration} (hproperties : body.properties = .ok declarations)
    (journal : Journal) :
    ∃ table : Table Descriptor,
      (classMetadata site head body journal).1
          = .ok (Descriptor.display (table.entries.map fun entry => (entry.1, entry.2.display)))
        ∧ table.names = ((declarations.filterMap
            (Declaration.described? { site with scope := body.scopeNames })).map Prod.fst).eraseDups
        ∧ ∀ name, table.get? name = ((declarations.filter (·.name == some name)).filterMap
            (Declaration.described? { site with scope := body.scopeNames })).getLast?.map Prod.snd := by
  have htable := classDescriptors_gives { site with scope := body.scopeNames } head.name declarations
  refine ⟨_, ?_, Table.names_entered _, fun name => ?_⟩
  · unfold classMetadata
    rw [ofExcept_bind hproperties]
    refine (Gives.andThen htable ?_).gives journal
    exact .pure _
  · rw [Table.get?_entered, filterMap_described, List.getLast?_map]

namespace Mixed

def code : String :=
  "class A:\n    x: int\n    y: ClassVar[int]\n    z: int = \"\\x\"\n    w: int\n    x: str\n"

def property (name : String) (typeHint : Expr) (assigned : Option Expr) : Statement :=
  .ofSmall (.annotated (.name name) [] Gap.space typeHint
    (assigned.map fun value => ⟨Gap.space, Gap.space, value⟩))

def classVar : Expr := .subscript (.name classVarName) [] [.mk [] (.value (.name "int")) none] []

/-- Two declarations of one name, one that belongs to the class and one that cannot be described among
them. -/
def body : Suite :=
  .block {} (some "    ")
    [property "x" (.name "int") none, property "y" classVar none,
     property "z" (.name "int") (some (.string "\"\\x\"")), property "w" (.name "int") none,
     property "x" (.name "str") none] []

def declarations : List Declaration :=
  [{ name := some "x", typeHint := .name "int" }, { name := some "y", typeHint := classVar },
   { name := some "z", typeHint := .name "int", value := some (.string "\"\\x\"") },
   { name := some "w", typeHint := .name "int" }, { name := some "x", typeHint := .name "str" }]

end Mixed

theorem classMap_pointwise_of_mixed :
    ({ body := [.classDef Interposed.head Mixed.body] } : Module).render = Mixed.code
      ∧ Mixed.body.properties = .ok Mixed.declarations
      ∧ ∃ table : Table Descriptor,
        (classMetadata Interposed.site Interposed.head Mixed.body {}).1
            = .ok (Descriptor.display (table.entries.map fun entry => (entry.1, entry.2.display)))
          ∧ table.names = ((Mixed.declarations.filterMap (Declaration.described?
              { Interposed.site with scope := Mixed.body.scopeNames })).map Prod.fst).eraseDups
          ∧ ∀ name, table.get? name = ((Mixed.declarations.filter (·.name == some name)).filterMap
              (Declaration.described? { Interposed.site with scope := Mixed.body.scopeNames })).getLast?.map
                Prod.snd :=
  ⟨by decide +kernel, rfl, classMap_pointwise rfl {}⟩

end ModelMetadata
