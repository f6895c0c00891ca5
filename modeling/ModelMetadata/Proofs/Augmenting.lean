import ModelMetadata.Proofs.Journaling
import ModelMetadata.Proofs.Steps

/-!
The pass where it writes factories, without the state it carries: what becomes of a tree follows from
the tree and its place alone. A class keeps its head, and of its body the lines and the heads of inner
definitions; only factories go and come. The symbol table of the tree that results is therefore that
of the tree before, up to members of classes.
-/
set_option autoImplicit false
namespace ModelMetadata

open Source

/-! ## Results -/

abbrev Gives {σ α : Type} (step : ExceptT Fault (StateM σ) α) (result : Except Fault α) : Prop :=
  Ends (fun _ => True) step (fun a _ => result = .ok a) fun fault _ => result = .error fault

namespace Gives

variable {σ α β : Type} {step : ExceptT Fault (StateM σ) α} {f : α → ExceptT Fault (StateM σ) β}

theorem of {result : Except Fault α} (h : ∀ state, (step state).1 = result) : Gives step result where
  ok _ _ ha := (h _).symm.trans ha
  error _ _ hfault := (h _).symm.trans hfault

theorem gives {result : Except Fault α} (h : Gives step result) (state : σ) : (step state).1 = result := by
  cases hend : (step state).1 with
  | ok a => exact (h.ok trivial hend).symm
  | error fault => exact (h.error trivial hend).symm

theorem pure (a : α) : Gives (Pure.pure a : ExceptT Fault (StateM σ) α) (.ok a) := Ends.pure fun _ _ => rfl

theorem bind {result : Except Fault α} {g : α → Except Fault β} (hstep : Gives step result)
    (hf : ∀ a, Gives (f a) (g a)) : Gives (step >>= f) (result >>= g) := by
  refine Ends.bind (hstep.blame fun fault _ h => by rw [h]; rfl) fun a => ?_
  refine (Ends.assume fun hresult => ?_).weaken fun _ h => ⟨h, trivial⟩
  rw [hresult]
  exact hf a

/-- What follows a step that succeeds is all that counts. -/
theorem andThen {a : α} {result : Except Fault β} (hstep : Gives step (.ok a)) (hf : Gives (f a) result) :
    Gives (step >>= f) result := by
  refine Ends.bind (hstep.blame nofun) fun found => ?_
  refine (Ends.assume fun hsame => ?_).weaken fun _ h => ⟨h, trivial⟩
  cases hsame
  exact hf

theorem stop {fault : Fault} (hstep : Gives step (.error fault)) : Gives (step >>= f) (.error fault) := by
  refine Ends.bind (hstep.blame fun met _ h => by cases h; rfl) fun a => ?_
  exact Ends.weaken (Ends.assume (P := fun _ => True) fun (h : Except.error fault = .ok a) => nomatch h)
    fun _ h => ⟨h, trivial⟩

theorem ofSteady {step : Describe α} (h : Steady step) : Gives step (step {}).1 :=
  of fun journal => h.same journal {}

theorem describe {step : Describe α} {result : Except Fault α} (h : Gives step result) :
    Gives (Pass.describe step) result :=
  of fun state => h.gives state.journal

theorem emit (name : String) (emission : ClassEmission) : Gives (Pass.emit name emission) (.ok ()) :=
  of fun _ => rfl

theorem ofExcept (result : Except Fault α) : Gives (Describe.ofExcept result) result :=
  of fun _ => rfl

theorem note (site : Site) (text : String) : Gives (site.note text) (.ok ()) := by
  unfold Site.note Describe.note
  split
  · exact of fun _ => rfl
  · exact pure ()

end Gives

/-! ## Trees with factories -/

def classMap (site : Site) (head : ClassHead) (body : Suite) : Except Fault Expr :=
  (classMetadata site head body {}).1

/-- The body `updated` of a class that was read as `body`: with the factory when it is a model. -/
def augmentClass (site : Site) (head : ClassHead) (body updated : Suite) : Except Fault Suite := do
  if ← isModel site head.positionalBases then
    return withFactory (← classMap site head body) updated
  else return updated

mutual

def augmentStatement (site : Site) : Statement → Except Fault Statement
  | .line above line => return .line above line
  | .classDef head body => do
    let updated ← augmentSuite site body
    return .classDef head (← augmentClass site head body updated)
  | .functionDef head body => return .functionDef head (← augmentSuite site body)
  | .compound clauses => return .compound (← augmentClauses site clauses)

def augmentStatements (site : Site) : List Statement → Except Fault (List Statement)
  | [] => return []
  | statement :: rest => do
    let first ← augmentStatement site statement
    return first :: (← augmentStatements site rest)

def augmentClauses (site : Site) : List Clause → Except Fault (List Clause)
  | [] => return []
  | .mk above head body :: rest => do
    let body ← augmentSuite site body
    return .mk above head body :: (← augmentClauses site rest)

def augmentSuite (site : Site) : Suite → Except Fault Suite
  | .block tail step body footer => do
    return .block tail step (← augmentStatements site body) footer
  | .inline gap line => return .inline gap line

end

theorem emissionOf_gives {site : Site} (hwrites : site.options.readonly = false) (head : ClassHead)
    (isModuleLevel : Bool) :
    Gives (emissionOf site head isModuleLevel)
      (do if ← isModel site head.positionalBases then return .augment else return .skip) := by
  refine .bind (.ofExcept (isModel site head.positionalBases)) fun model => ?_
  cases model with
  | false =>
    exact .andThen (.note ..) (.pure ClassEmission.skip)
  | true =>
    simp only [hwrites]
    exact .pure ClassEmission.augment

theorem emitClass_gives {site : Site} (hwrites : site.options.readonly = false)
    (key : Except Fault String) (outer : List String) (isModuleLevel : Bool) (head : ClassHead)
    (body updated : Suite) :
    Gives (emitClass site key outer isModuleLevel head body updated)
      (augmentClass site head body updated) := by
  have hemission := (emissionOf_gives hwrites head isModuleLevel).describe
  have hmap : Gives (classMetadata site head body) (classMap site head body) :=
    .ofSteady (Additive.classMetadata ..).steady
  unfold augmentClass emitClass
  cases hmodel : isModel site head.positionalBases with
  | error fault =>
    rw [hmodel] at hemission
    exact .stop hemission
  | ok model =>
    rw [hmodel] at hemission
    cases model with
    | false => exact .andThen hemission (.andThen (.emit ..) (.pure updated))
    | true =>
      exact .andThen hemission (.andThen (.emit ..) (.bind hmap.describe fun _ => .pure _))

mutual

theorem passStatement_gives {site : Site} (hwrites : site.options.readonly = false)
    (key : Except Fault String) (outer : List String) (isModuleLevel : Bool)
    (statement : Statement) :
    Gives (passStatement site key outer isModuleLevel statement)
      (augmentStatement site statement) := by
  cases statement with
  | line above line => exact .pure _
  | classDef head body =>
    exact .bind (passSuite_gives hwrites key (outer ++ [head.name]) false body) fun updated =>
      .bind (emitClass_gives hwrites ..) fun _ => .pure _
  | functionDef head body =>
    exact .bind (passSuite_gives hwrites key outer false body) fun _ => .pure _
  | compound clauses =>
    exact .bind (passClauses_gives hwrites key outer isModuleLevel clauses) fun _ => .pure _
termination_by structural statement

theorem passStatements_gives {site : Site} (hwrites : site.options.readonly = false)
    (key : Except Fault String) (outer : List String) (isModuleLevel : Bool)
    (statements : List Statement) :
    Gives (passStatements site key outer isModuleLevel statements)
      (augmentStatements site statements) := by
  cases statements with
  | nil => exact .pure _
  | cons statement rest =>
    exact .bind (passStatement_gives hwrites key outer isModuleLevel statement) fun _ =>
      .bind (passStatements_gives hwrites key outer isModuleLevel rest) fun _ => .pure _
termination_by structural statements

theorem passClauses_gives {site : Site} (hwrites : site.options.readonly = false)
    (key : Except Fault String) (outer : List String) (isModuleLevel : Bool)
    (clauses : List Clause) :
    Gives (passClauses site key outer isModuleLevel clauses) (augmentClauses site clauses) := by
  match clauses with
  | [] => exact .pure _
  | .mk above head body :: rest =>
    exact .bind (passSuite_gives hwrites key outer isModuleLevel body) fun _ =>
      .bind (passClauses_gives hwrites key outer isModuleLevel rest) fun _ => .pure _
termination_by structural clauses

theorem passSuite_gives {site : Site} (hwrites : site.options.readonly = false)
    (key : Except Fault String) (outer : List String) (isModuleLevel : Bool) (body : Suite) :
    Gives (passSuite site key outer isModuleLevel body) (augmentSuite site body) := by
  cases body with
  | block tail step statements footer =>
    exact .bind (passStatements_gives hwrites key outer isModuleLevel statements) fun _ => .pure _
  | «inline» gap line => exact .pure _
termination_by structural body

end

/-! ## What a class keeps -/

def Source.Statement.outline : Statement → Statement
  | .line above small => .line above small
  | .classDef head _ => .classDef head (.block {} none [] [])
  | .functionDef head _ => .functionDef head (.block {} none [] [])
  | .compound _ => .compound []

@[simp] theorem isFactory_outline (statement : Statement) :
    isFactory statement.outline = isFactory statement := by
  cases statement <;> rfl

theorem docstringOf?_outline (following : Option Statement) :
    docstringOf? (following.map Statement.outline) = docstringOf? following := by
  cases following with
  | none => rfl
  | some statement => cases statement <;> rfl

theorem propertiesOf_outline (statements : List Statement) :
    propertiesOf (statements.map Statement.outline) = propertiesOf statements := by
  induction statements with
  | nil => rfl
  | cons statement rest ih =>
    cases statement with
    | line above line =>
      have hfollowing : lineProperties above line (rest.map Statement.outline).head?
          = lineProperties above line rest.head? := by
        unfold lineProperties
        rw [List.head?_map, docstringOf?_outline]
      simp only [List.map_cons, Statement.outline, propertiesOf, hfollowing, ih]
    | _ => simpa only [List.map_cons, Statement.outline, propertiesOf] using ih

theorem filter_outline (statements : List Statement) :
    (statements.filter fun statement => !isFactory statement).map Statement.outline
      = (statements.map Statement.outline).filter fun statement => !isFactory statement := by
  simp [List.filter_map, Function.comp_def]

theorem statements_withFactory (metadata : Expr) (body : Suite) :
    (withFactory metadata body).statements
      = body.statements.filter (fun statement => !isFactory statement) ++ [factoryFor metadata] := by
  cases body <;> rfl

/-- The map of a class depends on its body through the lines and the heads in it. -/
theorem classMap_of_outline {body body' : Suite}
    (h : body'.statements.map Statement.outline = body.statements.map Statement.outline)
    (site : Site) (head : ClassHead) : classMap site head body' = classMap site head body := by
  have hproperties : body'.properties = body.properties := by
    unfold Suite.properties
    rw [← propertiesOf_outline, h, propertiesOf_outline]
  have hscope : body'.scopeNames = body.scopeNames := by
    have hnames (body : Suite) : body.scopeNames
        = (body.statements.map Statement.outline).flatMap fun statement =>
          match statement with
          | .line _ line => line.entries.flatMap fun entry => boundNames entry.statement
          | .classDef head _ => [head.name]
          | .functionDef head _ => [head.name]
          | .compound _ => [] := by
      rw [List.flatMap_map]
      refine List.flatMap_congr fun statement _ => ?_
      cases statement <;> rfl
    rw [hnames, hnames, h]
  unfold classMap classMetadata
  rw [hproperties, hscope]

theorem augmentStatement_outline {site : Site} {statement updated : Statement}
    (h : augmentStatement site statement = .ok updated) : updated.outline = statement.outline := by
  cases statement with
  | line above line =>
    cases h
    rfl
  | classDef head body =>
    obtain ⟨inner, -, h⟩ := bind_eq_ok.1 h
    obtain ⟨outer, -, h⟩ := bind_eq_ok.1 h
    cases h
    rfl
  | functionDef head body =>
    obtain ⟨inner, -, h⟩ := bind_eq_ok.1 h
    cases h
    rfl
  | compound clauses =>
    obtain ⟨inner, -, h⟩ := bind_eq_ok.1 h
    cases h
    rfl

theorem augmentStatements_outline {site : Site} {statements updated : List Statement}
    (h : augmentStatements site statements = .ok updated) :
    updated.map Statement.outline = statements.map Statement.outline := by
  induction statements generalizing updated with
  | nil =>
    cases h
    rfl
  | cons statement rest ih =>
    obtain ⟨first, hfirst, h⟩ := bind_eq_ok.1 h
    obtain ⟨others, hothers, h⟩ := bind_eq_ok.1 h
    cases h
    rw [List.map_cons, List.map_cons, augmentStatement_outline hfirst, ih hothers]

theorem augmentSuite_outline {site : Site} {body updated : Suite}
    (h : augmentSuite site body = .ok updated) :
    updated.statements.map Statement.outline = body.statements.map Statement.outline := by
  cases body with
  | block tail step statements footer =>
    obtain ⟨inner, hinner, h⟩ := bind_eq_ok.1 h
    cases h
    exact augmentStatements_outline hinner
  | «inline» gap line =>
    cases h
    rfl

/-! ## Symbol tables -/

theorem Table.map_insert {α β : Type} (f : α → β) (table : Table α) (name : String) (value : α) :
    (table.insert name value).map f = (table.map f).insert name (f value) := by
  obtain ⟨entries⟩ := table
  simp only [insert, map, mk.injEq]
  induction entries with
  | nil => rfl
  | cons entry rest ih =>
    obtain ⟨found, old⟩ := entry
    simp only [List.map_cons, insertInto]
    split
    · rfl
    · simp only [List.map_cons, ih]

namespace ModuleSymbols

theorem bindClass_forget {symbols symbols' : ModuleSymbols} (h : symbols'.forget = symbols.forget)
    (head : ClassHead) (body body' : Suite) :
    (symbols'.bindClass head body').forget = (symbols.bindClass head body).forget := by
  have hclass (symbols : ModuleSymbols) (body : Suite) : (symbols.bindClass head body).forget
      = { symbols.forget with
          classes := symbols.forget.classes.insert head.name ⟨head.name, head.positionalBases, []⟩ } := by
    simp only [bindClass, forget, Table.map_insert]
    rfl
  rw [hclass, hclass, h]

theorem bindModules_forget (typeOnly : Bool) (symbols : ModuleSymbols) (names : List ImportName) :
    names.foldl (bindModule typeOnly) symbols.forget
      = (names.foldl (bindModule typeOnly) symbols).forget := by
  induction names generalizing symbols with
  | nil => rfl
  | cons name rest ih =>
    have hfirst : bindModule typeOnly symbols.forget name
        = (bindModule typeOnly symbols name).forget := by
      unfold bindModule
      cases name.boundAs <;> rfl
    rw [List.foldl_cons, List.foldl_cons, hfirst, ih]

theorem bindAttributes_forget (typeOnly : Bool) (origin : String) (symbols : ModuleSymbols)
    (names : List ImportName) :
    names.foldl (bindAttribute typeOnly origin) symbols.forget
      = (names.foldl (bindAttribute typeOnly origin) symbols).forget := by
  induction names generalizing symbols with
  | nil => rfl
  | cons name rest ih => exact ih (bindAttribute typeOnly origin symbols name)

theorem collectSmall_forget (typeOnly : Bool) (symbols : ModuleSymbols) (small : Small) :
    collectSmall typeOnly symbols.forget small
      = forget <$> collectSmall typeOnly symbols small := by
  unfold collectSmall
  split
  · exact congrArg Except.ok (bindModules_forget ..)
  · exact congrArg Except.ok (bindAttributes_forget ..)
  · rename_i target value
    cases targetName? target.target with
    | none => rfl
    | some name =>
      dsimp only
      split
      · cases stringItems value <;> rfl
      · split <;> rfl
  · rename_i target gap op gap' value
    split
    · cases stringItems value <;> rfl
    · rfl
  · rename_i target gap gap' typeHint assigned
    cases targetName? target with
    | none => rfl
    | some name =>
      dsimp only
      split
      · rfl
      · split
        · cases stringItems assigned.value <;> rfl
        · rfl
  · rfl
  · rfl

/-- Two results of collecting that are the same up to members of classes. -/
def Agree (result result' : Except Fault ModuleSymbols) : Prop :=
  forget <$> result' = forget <$> result

theorem Agree.bind {result result' : Except Fault ModuleSymbols}
    {f f' : ModuleSymbols → Except Fault ModuleSymbols} (h : Agree result result')
    (hf : ∀ symbols symbols', symbols'.forget = symbols.forget → Agree (f symbols) (f' symbols')) :
    Agree (result >>= f) (result' >>= f') := by
  cases result with
  | error fault =>
    cases result' with
    | error fault' =>
      cases h
      exact rfl
    | ok symbols' => cases h
  | ok symbols =>
    cases result' with
    | error fault' => cases h
    | ok symbols' => exact hf symbols symbols' (Except.ok.inj h)

theorem collectLine_agree {symbols symbols' : ModuleSymbols}
    (h : symbols'.forget = symbols.forget) (typeOnly : Bool) (line : SmallLine) :
    Agree (collectLine typeOnly symbols line) (collectLine typeOnly symbols' line) := by
  unfold collectLine
  induction line.entries generalizing symbols symbols' with
  | nil => exact congrArg Except.ok h
  | cons entry rest ih =>
    rw [List.foldlM_cons, List.foldlM_cons]
    refine .bind ?_ fun _ _ => ih
    unfold Agree
    rw [← collectSmall_forget, ← collectSmall_forget, h]

mutual

theorem collectStatement_agree {site : Site} {symbols symbols' : ModuleSymbols}
    (h : symbols'.forget = symbols.forget) (typeOnly : Bool) (statement : Statement)
    {updated : Statement} (hupdated : augmentStatement site statement = .ok updated) :
    Agree (collectStatement typeOnly symbols statement)
      (collectStatement typeOnly symbols' updated) := by
  cases statement with
  | line above line =>
    cases hupdated
    exact collectLine_agree h typeOnly line
  | classDef head body =>
    obtain ⟨inner, -, hupdated⟩ := bind_eq_ok.1 hupdated
    obtain ⟨outer, -, hupdated⟩ := bind_eq_ok.1 hupdated
    cases hupdated
    exact congrArg Except.ok (bindClass_forget h head body outer)
  | functionDef head body =>
    obtain ⟨inner, -, hupdated⟩ := bind_eq_ok.1 hupdated
    cases hupdated
    exact congrArg Except.ok h
  | compound clauses =>
    obtain ⟨inner, hinner, hupdated⟩ := bind_eq_ok.1 hupdated
    cases hupdated
    exact collectClauses_agree h typeOnly clauses hinner
termination_by structural statement

theorem collectStatements_agree {site : Site} {symbols symbols' : ModuleSymbols}
    (h : symbols'.forget = symbols.forget) (typeOnly : Bool) (statements : List Statement)
    {updated : List Statement} (hupdated : augmentStatements site statements = .ok updated) :
    Agree (collectStatements typeOnly symbols statements)
      (collectStatements typeOnly symbols' updated) := by
  cases statements with
  | nil =>
    cases hupdated
    exact congrArg Except.ok h
  | cons statement rest =>
    obtain ⟨first, hfirst, hupdated⟩ := bind_eq_ok.1 hupdated
    obtain ⟨others, hothers, hupdated⟩ := bind_eq_ok.1 hupdated
    cases hupdated
    exact .bind (collectStatement_agree h typeOnly statement hfirst) fun _ _ h =>
      collectStatements_agree h typeOnly rest hothers
termination_by structural statements

theorem collectClauses_agree {site : Site} {symbols symbols' : ModuleSymbols}
    (h : symbols'.forget = symbols.forget) (typeOnly : Bool) (clauses : List Clause)
    {updated : List Clause} (hupdated : augmentClauses site clauses = .ok updated) :
    Agree (collectClauses typeOnly symbols clauses) (collectClauses typeOnly symbols' updated) := by
  match clauses with
  | [] =>
    cases hupdated
    exact congrArg Except.ok h
  | .mk above head body :: rest =>
    obtain ⟨first, hfirst, hupdated⟩ := bind_eq_ok.1 hupdated
    obtain ⟨others, hothers, hupdated⟩ := bind_eq_ok.1 hupdated
    cases hupdated
    exact .bind (collectSuite_agree h (typeOnly || isTypeOnlyClause head) body hfirst) fun _ _ h =>
      collectClauses_agree h typeOnly rest hothers
termination_by structural clauses

theorem collectSuite_agree {site : Site} {symbols symbols' : ModuleSymbols}
    (h : symbols'.forget = symbols.forget) (typeOnly : Bool) (body : Suite) {updated : Suite}
    (hupdated : augmentSuite site body = .ok updated) :
    Agree (collectSuite typeOnly symbols body) (collectSuite typeOnly symbols' updated) := by
  cases body with
  | block tail step statements footer =>
    obtain ⟨inner, hinner, hupdated⟩ := bind_eq_ok.1 hupdated
    cases hupdated
    exact collectStatements_agree h typeOnly statements hinner
  | «inline» gap line =>
    cases hupdated
    exact collectLine_agree h typeOnly line
termination_by structural body

end

theorem collect_agree {site : Site} {source : Module} {body : List Statement}
    (hbody : augmentStatements site source.body = .ok body) (moduleName : String)
    (isPackage : Bool) :
    Agree (collect source moduleName isPackage) (collect { source with body } moduleName isPackage) :=
  collectStatements_agree rfl false source.body hbody

end ModuleSymbols
end ModelMetadata
