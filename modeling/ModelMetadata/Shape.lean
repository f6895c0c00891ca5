import ModelMetadata.Declaration

/-!
Shapes of annotations. An annotation without its quotes and wrappers is an inline shape with members
of its own, a union of branches, or a name for the oracle. Members and branches weigh less than the
annotation they are part of; only the branch that an optional type implies is not written in it.
-/
set_option autoImplicit false
namespace ModelMetadata

open Source

inductive AnnotationShape where
  | inline (members : List Declaration)
  | union (branches : List Expr)
  | named (e : Expr)
deriving Inhabited

/-! ## Members -/

/-- The members of a dict display; unpacked dicts add none. -/
def shapeMembers (optionalByDefault : Bool) : List Entry → Except Fault (List Declaration)
  | [] => .ok []
  | .mk _ (.pair key _ _ e) _ :: rest => do
    let name ← stringValue key
    let members ← shapeMembers optionalByDefault rest
    return { name, typeHint := e, optionalByDefault } :: members
  | _ :: rest => shapeMembers optionalByDefault rest

theorem weight_of_shapeMembers {optionalByDefault : Bool} {entries : List Entry}
    {members : List Declaration} (h : shapeMembers optionalByDefault entries = .ok members)
    {member : Declaration} (hm : member ∈ members) :
    member.typeHint.weight ≤ Entry.weightAll entries := by
  fun_induction shapeMembers optionalByDefault entries generalizing members with
  | case1 => cases h; simp at hm
  | case2 before key gap gap' e comma rest ih =>
    obtain ⟨name, -, h⟩ := bind_eq_ok.1 h
    obtain ⟨found, hfound, h⟩ := bind_eq_ok.1 h
    cases h
    rcases List.mem_cons.1 hm with rfl | hm
    · simp only [Entry.weightAll, Item.weight]; omega
    · have := ih hfound hm
      simp only [Entry.weightAll]; omega
  | case3 entry rest _ ih =>
    have := ih h hm
    obtain ⟨_, _, _⟩ := entry
    simp only [Entry.weightAll]; omega

namespace Source

def Expr.dictEntries? (e : Expr) : Option (List Entry) :=
  match e.bare with
  | .dict entries _ => some entries
  | _ => none

theorem Expr.weightAll_lt_of_dictEntries? {e : Expr} {entries : List Entry}
    (h : e.dictEntries? = some entries) : Entry.weightAll entries < e.weight := by
  have := e.weight_bare_le
  unfold Expr.dictEntries? at h
  split at h
  · rename_i found _ hb
    rw [hb] at this
    simp only [Expr.weight] at this
    cases h
    omega
  · cases h

theorem Expr.weightAll_arguments_lt {e : Expr} (h : e.arguments ≠ []) :
    Entry.weightAll e.arguments < e.weight := by
  have := e.weight_bare_le
  unfold Expr.arguments at *
  split at h
  · rename_i hb
    rw [hb] at this
    simp only [hb, Expr.weight] at *
    omega
  · simp at h

end Source

/-! ## Inline shapes -/

/-- The display that gives the members of a typed dict: the last keyword for them, else the second
argument. Unpacked arguments count as arguments. -/
def fieldsDisplay? (arguments : List Entry) : Option (List Entry) :=
  let second := (Entry.indices arguments)[1]?.bind Expr.dictEntries?
  let named := (Entry.keywords arguments).filterMap fun (name, e) =>
    if name == "fields" then e.dictEntries? else none
  named.getLast?.or second

/-- Whether the members of a typed dict must be present: what the last keyword about it says. -/
def isTotal (arguments : List Entry) : Except Fault Bool :=
  (Entry.keywords arguments).foldlM (fun total (name, e) =>
    if name == "total" then return (← literalValue e).elim true Primitive.truth
    else .ok total) true

def typedDictMembers (arguments : List Entry) : Except Fault (List Declaration) := do
  let total ← isTotal arguments
  match fieldsDisplay? arguments with
  | some entries => shapeMembers (!total) entries
  | none => return []

theorem weightAll_of_fieldsDisplay {arguments entries : List Entry}
    (h : fieldsDisplay? arguments = some entries) :
    Entry.weightAll entries < Entry.weightAll arguments := by
  unfold fieldsDisplay? at h
  rcases Option.or_eq_some_iff.1 h with h | ⟨_, h⟩
  · obtain ⟨⟨name, e⟩, hm, hd⟩ := List.mem_filterMap.1 (List.mem_of_getLast? h)
    have := Entry.weight_le_of_mem_keywords hm
    simp only at hd
    split at hd
    · have := Expr.weightAll_lt_of_dictEntries? hd
      omega
    · cases hd
  · obtain ⟨e, hm, hd⟩ := Option.bind_eq_some_iff.1 h
    have := Entry.weight_le_of_mem_indices (List.mem_of_getElem? hm)
    have := Expr.weightAll_lt_of_dictEntries? hd
    omega

theorem weight_of_typedDictMembers {arguments : List Entry} {members : List Declaration}
    (h : typedDictMembers arguments = .ok members) {member : Declaration} (hm : member ∈ members) :
    member.typeHint.weight < Entry.weightAll arguments := by
  obtain ⟨total, -, h⟩ := bind_eq_ok.1 h
  split at h
  · rename_i entries hf
    exact Nat.lt_of_le_of_lt (weight_of_shapeMembers h hm) (weightAll_of_fieldsDisplay hf)
  · cases h
    cases hm

/-! ## Unions -/

/-- The branch that an optional type implies. -/
def impliedNone : Expr := .name "None"

/-- The parts of a union as written, and whether it implies `None` besides them. Other expressions
are no unions. -/
def unionParts? (oracle : Oracle) (e : Expr) : Option (List Expr × Bool) :=
  match e.bare with
  | .binary left _ "|" _ right => some ([left, right], false)
  | .subscript owner _ entries _ =>
    let indices := Entry.indices entries
    match oracle.specialForm? owner with
    | some "Optional" => if indices.length == 1 then some (indices, true) else none
    | some "Union" => if indices.isEmpty then none else some (indices, false)
    | _ => none
  | _ => none

theorem weight_lt_of_unionParts {oracle : Oracle} {e part : Expr} {parts : List Expr}
    {implied : Bool} (h : unionParts? oracle e = some (parts, implied)) (hp : part ∈ parts) :
    part.weight < e.weight := by
  have hb := e.weight_bare_le
  unfold unionParts? at h
  split at h
  · rename_i left _ _ right he
    simp only [he, Expr.weight, length_bar] at hb
    cases h
    simp only [List.mem_cons, List.not_mem_nil, or_false] at hp
    rcases hp with rfl | rfl <;> omega
  · rename_i owner _ entries close he
    rw [he] at hb
    have key : part ∈ Entry.indices entries := by
      simp only at h
      split at h
      · split at h <;> cases h; exact hp
      · split at h <;> cases h; exact hp
      · cases h
    exact Nat.lt_of_lt_of_le (Expr.weight_lt_subscript key) hb
  · cases h

/-- The branches of a union, nested unions flattened. Any other expression is a branch of its
own. -/
def unionBranches (oracle : Oracle) (e : Expr) : List Expr :=
  match h : unionParts? oracle e with
  | none => [e]
  | some (parts, implied) =>
    (parts.attach.flatMap fun ⟨part, hp⟩ =>
      have := weight_lt_of_unionParts h hp
      unionBranches oracle part) ++ if implied then [impliedNone] else []
termination_by e.weight

theorem weight_of_mem_unionBranches {oracle : Oracle} {e branch : Expr}
    (h : branch ∈ unionBranches oracle e) : branch.weight ≤ e.weight ∨ branch = impliedNone := by
  induction hn : e.weight using Nat.strongRecOn generalizing e with
  | ind n ih =>
    subst hn
    rw [unionBranches] at h
    split at h
    · simp_all
    · rename_i parts implied hparts
      rcases List.mem_append.1 h with h | h
      · obtain ⟨⟨part, hp⟩, _, hb⟩ := List.mem_flatMap.1 h
        have hlt := weight_lt_of_unionParts hparts hp
        exact (ih _ hlt hb rfl).imp_left fun hle => by omega
      · exact .inr (by split at h <;> simp_all)

theorem weight_of_mem_branches {oracle : Oracle} {e branch : Expr}
    (hu : (unionParts? oracle e).isSome) (h : branch ∈ unionBranches oracle e) :
    branch.weight < e.weight ∨ branch = impliedNone := by
  obtain ⟨⟨parts, implied⟩, hparts⟩ := Option.isSome_iff_exists.1 hu
  rw [unionBranches] at h
  split at h
  · simp_all
  · rename_i parts implied hparts
    rcases List.mem_append.1 h with h | h
    · obtain ⟨⟨part, hp⟩, _, hb⟩ := List.mem_flatMap.1 h
      have hlt := weight_lt_of_unionParts hparts hp
      exact (weight_of_mem_unionBranches hb).imp_left fun hle => by omega
    · exact .inr (by split at h <;> simp_all)

/-! ## Classification -/

/-- An annotation without the quotes and the special forms that only wrap a type. -/
def Oracle.core (oracle : Oracle) (e : Expr) : Except Fault Expr := do
  match ← stringValue e with
  | some text =>
    match ← Oracle.quoted? e text with
    | some ⟨inner, _⟩ => oracle.core inner
    | none => return e
  | none =>
    match e.indexed? with
    | some (owner, ⟨first, _⟩, _) =>
      if ((oracle.specialForm? owner).map wrapperForms.contains).getD false then
        oracle.core first
      else return e
    | none => return e
termination_by e.weight

/-- The shape of an expression that is neither quoted nor wrapped. -/
def Oracle.coreShape (oracle : Oracle) (e : Expr) : Except Fault AnnotationShape := do
  match e.dictEntries? with
  | some entries => return .inline (← shapeMembers false entries)
  | none =>
    if (e.callee?.bind oracle.specialForm?) == some "TypedDict" then
      return .inline (← typedDictMembers e.arguments)
    else if (unionParts? oracle e).isSome then return .union (unionBranches oracle e)
    else return .named e

theorem Oracle.weight_core_le {oracle : Oracle} {e core : Expr} (h : oracle.core e = .ok core) :
    core.weight ≤ e.weight := by
  induction hn : e.weight using Nat.strongRecOn generalizing e with
  | ind n ih =>
    subst hn
    rw [Oracle.core] at h
    obtain ⟨text?, -, h⟩ := bind_eq_ok.1 h
    cases text? with
    | some text =>
      obtain ⟨inner?, -, h⟩ := bind_eq_ok.1 h
      split at h
      · rename_i inner hlt
        exact Nat.le_of_lt (Nat.lt_of_le_of_lt (ih _ hlt h rfl) hlt)
      · cases h; exact Nat.le_refl _
    | none =>
      dsimp only at h
      split at h
      · rename_i owner first hlt metadata _
        split at h
        · exact Nat.le_of_lt (Nat.lt_of_le_of_lt (ih _ hlt h rfl) hlt)
        · cases h; exact Nat.le_refl _
      · cases h; exact Nat.le_refl _

def Oracle.shape (oracle : Oracle) (e : Expr) : Except Fault AnnotationShape := do
  oracle.coreShape (← oracle.core e)

theorem Oracle.weight_lt_of_inline {oracle : Oracle} {e : Expr} {members : List Declaration}
    (h : oracle.shape e = .ok (.inline members)) {member : Declaration} (hm : member ∈ members) :
    member.typeHint.weight < e.weight := by
  obtain ⟨core, hcore, h⟩ := bind_eq_ok.1 h
  refine Nat.lt_of_lt_of_le ?_ (Oracle.weight_core_le hcore)
  unfold Oracle.coreShape at h
  split at h
  · rename_i entries hentries
    obtain ⟨found, hfound, h⟩ := bind_eq_ok.1 h
    cases h
    exact Nat.lt_of_le_of_lt (weight_of_shapeMembers hfound hm)
      (Expr.weightAll_lt_of_dictEntries? hentries)
  split at h
  · obtain ⟨found, hfound, h⟩ := bind_eq_ok.1 h
    cases h
    have hlight := weight_of_typedDictMembers hfound hm
    have hsome : core.arguments ≠ [] := by
      intro hnil
      simp [hnil, Entry.weightAll] at hlight
    exact Nat.lt_trans hlight (Expr.weightAll_arguments_lt hsome)
  · split at h <;> cases h

theorem Oracle.weight_lt_of_union {oracle : Oracle} {e : Expr} {branches : List Expr}
    (h : oracle.shape e = .ok (.union branches)) {branch : Expr} (hm : branch ∈ branches) :
    branch.weight < e.weight ∨ branch = impliedNone := by
  obtain ⟨core, hcore, h⟩ := bind_eq_ok.1 h
  unfold Oracle.coreShape at h
  split at h
  · obtain ⟨members, -, h⟩ := bind_eq_ok.1 h
    cases h
  split at h
  · obtain ⟨members, -, h⟩ := bind_eq_ok.1 h
    cases h
  split at h
  · rename_i hunion
    cases h
    exact (weight_of_mem_branches hunion hm).imp_left fun hlt =>
      Nat.lt_of_lt_of_le hlt (Oracle.weight_core_le hcore)
  · cases h

end ModelMetadata
