import ModelMetadata.Proofs.Copying
import ModelMetadata.Proofs.Evaluating

/-!
Ways in which describing can fail. The functions that it is made of give up on literals that cannot be
evaluated or written and on texts that do not follow the grammar. Only the one that refers to a type gives up
because a type has no name.
-/
set_option autoImplicit false
namespace ModelMetadata

open Source

def Fault.NamesTypes : Fault → Prop
  | .namesNoType _ => False
  | _ => True

abbrev NamesTypes {α : Type} (result : Except Fault α) : Prop := Blames Fault.NamesTypes result

/-! ## Literals -/

theorem namesTypes_readBody (mark body : List Char) : NamesTypes (readBody mark body) := by
  unfold readBody
  split
  · split
    · split
      · exact .error trivial
      · exact .ok _
    · split
      · exact .ok _
      · exact .error trivial
  · split
    · exact .ok _
    · split
      · split
        · exact .ok _
        · exact .error trivial
      · exact .error trivial

theorem namesTypes_readString (token : String) : NamesTypes (readString token) := by
  unfold readString
  split
  · exact .error trivial
  · exact namesTypes_readBody _ _

theorem namesTypes_stringLiteral (e : Expr) : NamesTypes (stringLiteral e) := by
  fun_induction stringLiteral e with
  | case1 token => exact (namesTypes_readString token).map some
  | case4 _ _ _ _ _ ihfirst ihrest => exact ihfirst.bind fun x _ => ihrest.bind fun y _ => .ok _
  | case5 _ _ _ ih => exact ih
  | _ => exact .ok _

theorem namesTypes_stringValue (e : Expr) : NamesTypes (stringValue e) := by
  refine (namesTypes_stringLiteral e).bind fun value? _ => ?_
  split <;> exact .ok _

theorem namesTypes_integerValue (text : String) : NamesTypes (integerValue text) := by
  unfold integerValue
  split
  · split
    · exact .ok _
    · split
      · exact .ok _
      · split <;> exact .ok _
  · split
    · exact .error trivial
    · exact .ok _

theorem namesTypes_literalValue (e : Expr) : NamesTypes (literalValue e) := by
  fun_induction literalValue e with
  | case1 _ _ _ ih => exact ih
  | case2 text => exact (namesTypes_integerValue text).map _
  | case4 _ _ ih => exact ih.bind fun value? _ => .ok _
  | case7 e => exact (namesTypes_stringValue e).bind fun text? _ => .ok _
  | _ => exact .ok _

theorem namesTypes_quotedIn? (text : String) : NamesTypes (quotedIn? text) := by
  unfold quotedIn?
  split
  · exact .ok _
  · exact .ok _
  · exact .error trivial

theorem namesTypes_readExpr (text : String) : NamesTypes (readExpr text) := by
  unfold readExpr
  cases Expr.parse text with
  | ok e => exact .ok e
  | error fault => cases fault <;> exact .error trivial

theorem namesTypes_primitive (value : Primitive) : NamesTypes value.literal := by
  cases value with
  | bool | text => exact .ok _
  | int value =>
    simp only [Primitive.literal]
    split
    · exact .error trivial
    · exact .ok _
  | float value =>
    simp only [Primitive.literal]
    split
    · exact .ok _
    · exact .error trivial

mutual

theorem namesTypes_value (value : Value) : NamesTypes value.literal := by
  cases value with
  | primitive value => exact namesTypes_primitive value
  | list items => exact (namesTypes_values items).bind fun literals _ => .ok _
  | tuple items => exact (namesTypes_values items).bind fun literals _ => .ok _
  | dict entries => exact (namesTypes_entries entries).bind fun literals _ => .ok _
  | _ => exact .ok _
termination_by structural value

theorem namesTypes_values (values : List Value) : NamesTypes (Value.literals values) := by
  cases values with
  | nil => exact .ok []
  | cons value rest =>
    exact (namesTypes_value value).bind fun first _ => (namesTypes_values rest).bind fun others _ => .ok _
termination_by structural values

theorem namesTypes_entries (entries : List (Value × Value)) : NamesTypes (Value.entryLiterals entries) := by
  match entries with
  | [] => exact .ok []
  | (key, value) :: rest =>
    exact (namesTypes_value key).bind fun first _ => (namesTypes_value value).bind fun second _ =>
      (namesTypes_entries rest).bind fun others _ => .ok _
termination_by structural entries

end

/-! ## Copies -/

theorem namesTypes_toCopy (e : Expr) : NamesTypes (toCopy e) := by
  refine Blames.bind ?_ fun found _ => .ok _
  refine (namesTypes_literalValue e).bind fun value? _ => ?_
  cases value? with
  | none => exact .ok none
  | some value => exact (namesTypes_primitive value).map some

mutual

theorem namesTypes_isStatic (e : Expr) : NamesTypes (isStatic e) := by
  have hvalue (e : Expr) : NamesTypes (do return (← literalValue e).isSome) :=
    (namesTypes_literalValue e).bind fun value? _ => .ok _
  cases e with
  | paren afterOpen inner beforeClose => exact namesTypes_isStatic inner
  | list entries beforeClose => exact namesTypes_areStatic entries
  | set entries beforeClose => exact namesTypes_areStatic entries
  | tuple entries => exact namesTypes_areStatic entries
  | dict entries beforeClose => exact namesTypes_areStatic entries
  | name text =>
    unfold isStatic
    split
    case h_2 => exact .ok true
    case h_7 => exact hvalue _
    all_goals contradiction
  | _ => exact hvalue _
termination_by structural e

theorem namesTypes_areStatic (entries : List Entry) : NamesTypes (areStatic entries) := by
  match entries with
  | [] => exact .ok true
  | .mk before item comma :: rest =>
    refine (namesTypes_isStaticItem item).bind fun first _ => ?_
    cases first with
    | false => exact .ok false
    | true => exact namesTypes_areStatic rest
termination_by structural entries

theorem namesTypes_isStaticItem (item : Item) : NamesTypes (isStaticItem item) := by
  cases item with
  | value e => exact namesTypes_isStatic e
  | pair key beforeColon afterColon e =>
    refine (namesTypes_isStatic key).bind fun first _ => ?_
    cases first with
    | false => exact .ok false
    | true => exact namesTypes_isStatic e
  | _ => exact .ok false
termination_by structural item

end

theorem namesTypes_isCopyable (readonly : Bool) (scope : List String) (e : Expr) :
    NamesTypes (isCopyable readonly scope e) := by
  unfold isCopyable
  split
  · exact namesTypes_isStatic e
  · exact .ok _

/-! ## Types -/

/-- Any annotation: its literals can fail, but not for a name. -/
def anyHint : ReadableHints Fault.NamesTypes where
  Good _ := True
  text {e} _ := namesTypes_stringValue e
  value {e} _ := namesTypes_literalValue e
  quoted {_ t} _ _ := namesTypes_quotedIn? t
  inner _ _ _ := trivial
  part _ _ := trivial

theorem namesTypes_typeOf (oracle : Oracle) (e : Expr) : NamesTypes (oracle.typeOf e) := by
  have haliases : oracle.AliasesAre anyHint.Good := fun _ _ _ _ => trivial
  have he : anyHint.Good e := trivial
  exact Oracle.typeOf_blames haliases he

/-! ## Shapes -/

theorem namesTypes_quoted? (e : Expr) (text : String) : NamesTypes (Oracle.quoted? e text) := by
  unfold Oracle.quoted?
  split
  · split <;> exact .ok _
  · exact .ok _
  · exact .error trivial

theorem namesTypes_isNullBranch (oracle : Oracle) (e : Expr) : NamesTypes (oracle.isNullBranch e) := by
  unfold Oracle.isNullBranch
  split
  · exact .ok true
  · refine (namesTypes_stringValue e).bind fun text? _ => ?_
    split
    · exact .ok true
    · split <;> exact .ok _

theorem namesTypes_nonNull (oracle : Oracle) (branches : List Expr) :
    NamesTypes (oracle.nonNull branches) := by
  induction branches with
  | nil => exact .ok []
  | cons branch rest ih =>
    exact (namesTypes_isNullBranch oracle branch).bind fun isNull _ => ih.bind fun kept _ => .ok _

theorem namesTypes_core (oracle : Oracle) (e : Expr) : NamesTypes (oracle.core e) := by
  induction hn : e.weight using Nat.strongRecOn generalizing e with
  | ind n ih =>
    subst hn
    rw [Oracle.core]
    refine (namesTypes_stringValue e).bind fun text? _ => ?_
    cases text? with
    | some text =>
      refine (namesTypes_quoted? e text).bind fun inner? _ => ?_
      split
      · rename_i inner hlt _
        exact ih _ hlt inner rfl
      · exact .ok e
    | none =>
      dsimp only
      split
      · rename_i owner first hlt metadata _
        split
        · exact ih _ hlt first rfl
        · exact .ok e
      · exact .ok e

theorem namesTypes_unwrapFrom (oracle : Oracle) (found : Unwrapped) :
    NamesTypes (unwrapFrom oracle found) := by
  induction hn : found.type.weight using Nat.strongRecOn generalizing found with
  | ind n ih =>
    subst hn
    rw [unwrapFrom]
    refine (namesTypes_stringValue found.type).bind fun text? _ => ?_
    cases text? with
    | some text =>
      refine (namesTypes_quoted? found.type text).bind fun inner? _ => ?_
      split
      · rename_i inner hlt _
        exact ih _ hlt _ rfl
      · exact .ok found
    | none =>
      dsimp only
      split
      · rename_i owner first hlt metadata _
        split
        · exact ih _ hlt _ rfl
        · exact .ok found
      · split <;> exact .ok _

theorem namesTypes_shapeMembers (optionalByDefault : Bool) (entries : List Entry) :
    NamesTypes (shapeMembers optionalByDefault entries) := by
  fun_induction shapeMembers optionalByDefault entries with
  | case1 => exact .ok []
  | case2 before key _ _ e comma rest ih =>
    exact (namesTypes_stringValue key).bind fun name _ => ih.bind fun members _ => .ok _
  | case3 _ _ _ ih => exact ih

theorem namesTypes_isTotal (arguments : List Entry) : NamesTypes (isTotal arguments) := by
  refine .foldlM (fun total argument _ => ?_) true
  obtain ⟨name, e⟩ := argument
  dsimp only
  split
  · exact (namesTypes_literalValue e).bind fun value? _ => .ok _
  · exact .ok total

theorem namesTypes_shape (oracle : Oracle) (e : Expr) : NamesTypes (oracle.shape e) := by
  refine (namesTypes_core oracle e).bind fun core _ => ?_
  unfold Oracle.coreShape
  split
  · exact (namesTypes_shapeMembers false _).bind fun members _ => .ok _
  split
  · refine Blames.bind ((namesTypes_isTotal _).bind fun total _ => ?_) fun members _ => .ok _
    split
    · exact namesTypes_shapeMembers _ _
    · exact .ok []
  · split <;> exact .ok _

/-! ## Documentation -/

theorem namesTypes_exampleValue (text : String) : NamesTypes (exampleValue text) := by
  unfold exampleValue
  split
  · exact .ok _
  · exact .ok _
  · split
    · exact .ok _
    · exact .ok _
    · exact .error trivial
    · exact .error trivial
    · exact .error trivial

theorem namesTypes_documentationEntries (options : Options) (declaration : Declaration)
    (existing : List String) : NamesTypes (documentationEntries options declaration existing) := by
  have hline (prose : List (List Char)) (doc : DocComment) (line : List Char) :
      NamesTypes (readDocLine prose doc line) := by
    unfold readDocLine
    split
    · exact .ok _
    · split
      · exact (namesTypes_exampleValue _).bind fun found _ => .ok _
      · split <;> exact .ok _
  have hparse (text : String) : NamesTypes (DocComment.parse text) :=
    (Blames.foldlM (fun state line _ => hline state.1 state.2 line) _).bind fun state _ => .ok _
  unfold documentationEntries
  split
  · refine (hparse _).bind fun doc _ => ?_
    unfold DocComment.entries
    dsimp only
    split
    · exact .ok _
    · exact (namesTypes_value _).bind fun literal _ => .ok _
  · exact .ok []

/-! ## Expressions -/

theorem namesTypes_nameExpr (text : String) : NamesTypes (nameExpr text) := by
  unfold nameExpr
  split
  · exact .ok _
  · exact .error trivial

theorem namesTypes_memberExpr (owner : Expr) (text : String) : NamesTypes (memberExpr owner text) := by
  unfold memberExpr
  split
  · exact .ok _
  · exact .error trivial

theorem namesTypes_patternText (e : Expr) : NamesTypes (patternText e) := by
  unfold patternText
  split
  · split
    · split
      · exact namesTypes_stringValue _
      · exact .ok none
    · exact .ok none
  · exact namesTypes_stringValue e

end ModelMetadata
