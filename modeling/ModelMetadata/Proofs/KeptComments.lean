import ModelMetadata.Proofs.Accounting
import ModelMetadata.Proofs.Comments

/-!
The comments that a module keeps where factories are written. Erasing the factories of models from a tree
takes away what hangs on these factories and, of a model on one line, what stands before and behind the
statements of that line; all other comments of the tree are comments of the updated tree as well, on the same
statements and in the same order.
-/
set_option autoImplicit false
namespace ModelMetadata

open Source

/-! ## Comments of a tree that has grown -/

theorem commentsOf_append (index : Nat) (statements others : List Statement) :
    commentsOf index (statements ++ others)
      = commentsOf index statements ++ commentsOf (index + statements.length) others := by
  induction statements generalizing index with
  | nil => rfl
  | cons statement rest ih =>
    rw [List.cons_append, commentsOf, commentsOf, ih, List.append_assoc, List.length_cons,
      Nat.add_assoc, Nat.add_comm 1]

/-- A body keeps its comments where statements are added at its end; on one line it keeps those within its
statements. -/
theorem comments_withStatements (body : Suite) (added : List Statement) :
    (body.withStatements body.statements).comments.Sublist
      (body.withStatements (body.statements ++ added)).comments := by
  cases body with
  | block tail step statements footer =>
    simp only [Suite.withStatements, Suite.statements, Suite.comments, commentsOf_append]
    exact ((List.Sublist.refl _).append (List.sublist_append_left _ _)).append (.refl _)
  | «inline» gap line =>
    simp only [Suite.withStatements, Suite.statements, Suite.comments, commentsOf_append]
    exact ((List.Sublist.refl _).append (List.sublist_append_left _ _)).append (.refl _)

mutual

theorem comments_of_grown {site : Site} {outer : List String} {updated : Statement}
    {reports : Reports} (statement : Statement) (h : Grown site outer statement updated reports) :
    (erase site statement).comments.Sublist updated.comments := by
  cases statement with
  | line above line =>
    cases h
    exact .refl _
  | classDef head body =>
    cases h with
    | skipped hother hbody =>
      simp only [erase, getsFactory, hother]
      exact (List.Sublist.refl _).append (comments_of_grownSuite body hbody)
    | @augmented _ _ _ kept metadata _ hmodel hmap hkept hnone =>
      simp only [erase, getsFactory, hmodel]
      refine (List.Sublist.refl _).append (List.Sublist.trans ?_
        (comments_withStatements kept [factoryFor metadata]))
      cases body with
      | block tail step statements footer =>
        obtain ⟨-, -, -, hstatements⟩ := hkept
        exact ((List.Sublist.refl _).append (comments_of_grownAll 0 statements hstatements)).append
          (.refl _)
      | «inline» gap line =>
        cases hkept
        exact .refl _
  | functionDef head body =>
    obtain _ | _ | _ | hbody := h
    exact (List.Sublist.refl _).append (comments_of_grownSuite body hbody)
  | compound clauses =>
    obtain _ | _ | _ | _ | hclauses := h
    exact comments_of_grownClauses 0 clauses hclauses
termination_by structural statement

theorem comments_of_grownAll {site : Site} {drops : Bool} {outer : List String}
    {updated : List Statement} {reports : Reports} (index : Nat) (statements : List Statement)
    (h : GrownAll site drops outer statements updated reports) :
    (commentsOf index (eraseAll site drops statements)).Sublist (commentsOf index updated) := by
  cases statements with
  | nil =>
    cases h
    exact .refl _
  | cons statement rest =>
    cases h with
    | kept hstays hfirst hrest =>
      have hkept : (drops && isFactory statement) = false := by
        cases drops with
        | false => rfl
        | true => exact hstays rfl
      simp only [eraseAll, hkept]
      exact ((comments_of_grown statement hfirst).map _).append
        (comments_of_grownAll (index + 1) rest hrest)
    | dropped hfactory hfirst hrest =>
      simp only [eraseAll, hfactory, Bool.and_self, if_true]
      exact comments_of_grownAll index rest hrest
termination_by structural statements

theorem comments_of_grownClauses {site : Site} {outer : List String} {updated : List Clause}
    {reports : Reports} (index : Nat) (clauses : List Clause)
    (h : GrownClauses site outer clauses updated reports) :
    (commentsOfClauses index (eraseClauses site clauses)).Sublist (commentsOfClauses index updated) := by
  match clauses with
  | [] =>
    cases h
    exact .refl _
  | .mk above head body :: rest =>
    obtain _ | ⟨hbody, hrest⟩ := h
    exact (((List.Sublist.refl _).append (comments_of_grownSuite body hbody)).map _).append
      (comments_of_grownClauses (index + 1) rest hrest)
termination_by structural clauses

theorem comments_of_grownSuite {site : Site} {outer : List String} {updated : Suite}
    {reports : Reports} (body : Suite) (h : GrownSuite site false outer body updated reports) :
    (eraseSuite site false body).comments.Sublist updated.comments := by
  cases body with
  | block tail step statements footer =>
    obtain ⟨-, -, -, hstatements⟩ := h
    exact ((List.Sublist.refl _).append (comments_of_grownAll 0 statements hstatements)).append (.refl _)
  | «inline» gap line =>
    cases h
    exact .refl _
termination_by structural body

end

/-! ## Comments that erasing takes away -/

theorem commentsOf_line (entries : List SmallEntry) :
    commentsOf 0 [.line [] ⟨entries, {}⟩] = Comment.on [0] (entries.flatMap SmallEntry.comments) := by
  rw [commentsOf, commentsOf, List.append_nil, Statement.comments, Comment.on, List.map_map]
  exact congrArg (List.map _) (List.append_nil _)

/-- A factory takes no comment from a body without other factories where, if the body is on one line, all
comments on this line are within its statements. -/
def Source.Suite.SparesComments : Suite → Prop
  | .block _ _ body _ => ∀ statement ∈ body, isFactory statement = false
  | .inline gap smalls => Gap.comments gap = [] ∧ smalls.tail.comments = []

mutual

theorem comments_erase {site : Site} (statement : Statement)
    (h : ∀ found ∈ modelsOf site statement, found.2.SparesComments) :
    (erase site statement).comments = statement.comments := by
  cases statement with
  | line above line => rfl
  | classDef head body =>
    have hbody : (eraseSuite site (getsFactory site head) body).comments = body.comments := by
      unfold modelsOf at h
      unfold getsFactory
      cases hmodel : isModel site head.positionalBases with
      | error fault =>
        rw [hmodel] at h
        exact comments_eraseSuite false body nofun h
      | ok model =>
        rw [hmodel] at h
        cases model with
        | false => exact comments_eraseSuite false body nofun h
        | true =>
          obtain ⟨hspares, hinner⟩ := List.forall_mem_cons.1 h
          exact comments_eraseSuite true body (fun _ => hspares) hinner
    exact congrArg (Comment.on [] head.comments ++ ·) hbody
  | functionDef head body =>
    exact congrArg (Comment.on [] head.comments ++ ·) (comments_eraseSuite false body nofun h)
  | compound clauses => exact comments_eraseClauses 0 clauses h
termination_by structural statement

theorem comments_eraseAll {site : Site} (drops : Bool) (index : Nat) (statements : List Statement)
    (hnone : drops = true → ∀ statement ∈ statements, isFactory statement = false)
    (h : ∀ found ∈ modelsOfAll site drops statements, found.2.SparesComments) :
    commentsOf index (eraseAll site drops statements) = commentsOf index statements := by
  cases statements with
  | nil => rfl
  | cons statement rest =>
    have hkept : (drops && isFactory statement) = false := by
      cases drops with
      | false => rfl
      | true => exact hnone rfl statement List.mem_cons_self
    rw [modelsOfAll, hkept, List.forall_mem_append] at h
    simp only [eraseAll, hkept, Bool.false_eq_true, if_false, commentsOf]
    rw [comments_erase statement h.1, comments_eraseAll drops (index + 1) rest
      (fun hdrops other hother => hnone hdrops other (List.mem_cons_of_mem _ hother)) h.2]
termination_by structural statements

theorem comments_eraseClauses {site : Site} (index : Nat) (clauses : List Clause)
    (h : ∀ found ∈ modelsOfClauses site clauses, found.2.SparesComments) :
    commentsOfClauses index (eraseClauses site clauses) = commentsOfClauses index clauses := by
  match clauses with
  | [] => rfl
  | .mk above head body :: rest =>
    obtain ⟨hfirst, hrest⟩ := List.forall_mem_append.1 h
    rw [eraseClauses, commentsOfClauses, commentsOfClauses, comments_eraseSuite false body nofun hfirst,
      comments_eraseClauses (index + 1) rest hrest]
termination_by structural clauses

theorem comments_eraseSuite {site : Site} (drops : Bool) (body : Suite)
    (hspares : drops = true → body.SparesComments)
    (h : ∀ found ∈ modelsOfSuite site drops body, found.2.SparesComments) :
    (eraseSuite site drops body).comments = body.comments := by
  cases body with
  | block tail step statements footer =>
    have hinside := comments_eraseAll drops 0 statements hspares h
    simp only [eraseSuite, Suite.comments, hinside]
  | «inline» gap line =>
    cases drops with
    | false => rfl
    | true =>
      obtain ⟨hgap, htail⟩ := hspares rfl
      simp only [eraseSuite, if_true, Suite.comments, commentsOf_line, hgap, htail]
      rfl
termination_by structural body

end

/-! ## Runs -/

def Source.Module.erased (site : Site) (source : Module) : Module :=
  { source with body := eraseAll site false source.body }

theorem comments_of_passModule {site : Site} {key : Except Fault String} {source updated : Module}
    {state state' : PassState} (hwrites : site.options.readonly = false)
    (h : passModule site key source state = (.ok updated, state')) :
    (source.erased site).comments.Sublist updated.comments := by
  obtain ⟨body, last, hbody, h⟩ := step_bind_eq_ok h
  cases h
  obtain ⟨reports, hgrown, -⟩ := passStatements_grown hwrites source.body hbody
  exact (comments_of_grownAll 0 source.body hgrown).append (.refl _)

section

variable {tree : FileTree} {code file : String} {before : Engine × List LogRecord}
  {result : RunResult} {source : Module}

/-- Where factories are written, the comments of a module without the factories of models are all among
those of the updated module, on the same statements and in the same order; so are all comments of a module
whose models have no factories yet, and no comments around the statements of a body on one line. The text
that results shows the comments of the updated module in their order. -/
theorem comments_kept (hwrites : before.1.options.readonly = false)
    (hparse : Module.parse code = .ok source) (hrun : (run tree code file before).1 = .ok result) :
    ∃ site updated, Reads tree before code file source site ∧ result.code = Module.render updated
      ∧ (source.erased site).comments.Sublist updated.comments
      ∧ ((∀ found ∈ modelsOfAll site false source.body, found.2.SparesComments) →
        source.comments.Sublist updated.comments)
      ∧ ∃ ending ∈ lineEndings,
        OccurInOrder (Comment.texts updated.comments) (result.code ++ ending) := by
  obtain ⟨site, journal, updated, passed, hreads, hpass, rfl, -⟩ := run_parsed_eq_ok hparse hrun
  have hsite : site.options.readonly = false := by
    obtain ⟨-, project, -, hsite⟩ := hreads
    rwa [siteOf_options hsite]
  have hcode : (reportOf before.1.options code (updated, passed.emissions)).code = updated.render := by
    rw [reportOf, hwrites]
    rfl
  have hkept := comments_of_passModule hsite hpass
  refine ⟨site, updated, hreads, hcode, hkept, fun hspares => ?_, ?_⟩
  · have hsame := comments_eraseAll false 0 source.body (fun hdrops => Bool.noConfusion hdrops)
      hspares
    rwa [Module.comments, Module.erased, hsame] at hkept
  · rw [hcode]
    exact updated.inOrder

end

namespace Trailing

def line : SmallLine :=
  ⟨[⟨.verbatim [⟨[], "pass"⟩], none⟩], { blank := "  ", comment := some "# c" }⟩

def classOf (body : Suite) : Module where
  body := [.classDef ⟨{}, Gap.space, "A", [], none, []⟩ body]

def block : Module := classOf (.block {} (some "    ") [.line [] line] [])

def oneLine : Module := classOf (.inline Gap.space line)

def grownBlock : Module := classOf (.block {} (some "    ") [.line [] line, Regrown.factory] [])

/-- What becomes of the class on one line: the comment is gone. -/
def grownLine : Module :=
  classOf (.block {} none [.line [] { line with tail := {} }, Regrown.factory] [])

def tree : FileTree := { directory := Path.parse "/" }

def site : Site where
  oracle := { host := { moduleName := "m", classes := ⟨[("A", { name := "A" })]⟩ }, project := none }
  options := {}
  file := "m.py"

theorem run_class {code : String} {source updated : Module} (hparse : Module.parse code = .ok source)
    (hhost : ModuleSymbols.collect source "m" false = .ok site.oracle.host)
    (hpass : passModule site (.error .emptyPath) source {}
      = (.ok updated, { emissions := [("A", .augment)] })) :
    (run tree code "m.py" ({}, [])).1
      = .ok { code := updated.render, classes := [("A", .augment)] } := by
  have hname : moduleNameFor none (Path.parse "m.py") = ("m", false) := by cbv
  have hcollect : ModuleSymbols.collect source (moduleNameFor none (Path.parse "m.py")).1
      (moduleNameFor none (Path.parse "m.py")).2 = .ok site.oracle.host := by rwa [hname]
  have hpassed : runPass (passModule site (.error .emptyPath) source) ({}, []) = _ := runPass_ok hpass
  exact congrArg Prod.fst (run_eq hparse hcollect rfl hpassed)

theorem parse_block : Module.parse "class A:\n    pass  # c\n" = .ok block := by cbv

theorem run_block : (run tree "class A:\n    pass  # c\n" "m.py" ({}, [])).1
    = .ok { code := grownBlock.render, classes := [("A", .augment)] } :=
  run_class parse_block (by cbv) rfl

theorem parse_oneLine : Module.parse "class A: pass  # c\n" = .ok oneLine := by cbv

theorem run_oneLine : (run tree "class A: pass  # c\n" "m.py" ({}, [])).1
    = .ok { code := grownLine.render, classes := [("A", .augment)] } :=
  run_class parse_oneLine (by cbv) rfl

end Trailing

theorem comments_kept_of_block :
    ∃ site updated, Reads Trailing.tree ({}, []) "class A:\n    pass  # c\n" "m.py" Trailing.block site
      ∧ Trailing.grownBlock.render = Module.render updated
      ∧ (Trailing.block.erased site).comments.Sublist updated.comments
      ∧ ((∀ found ∈ modelsOfAll site false Trailing.block.body, found.2.SparesComments) →
        Trailing.block.comments.Sublist updated.comments)
      ∧ ∃ ending ∈ lineEndings,
        OccurInOrder (Comment.texts updated.comments) (Trailing.grownBlock.render ++ ending) :=
  comments_kept rfl Trailing.parse_block Trailing.run_block

/-- The comment behind a class on one line is in no place of the text that results. -/
theorem comment_lost_behind_one_line :
    Module.parse "class A: pass  # c\n" = .ok Trailing.oneLine
      ∧ Trailing.oneLine.comments = [⟨[0], "# c"⟩]
      ∧ ∃ result, (run Trailing.tree "class A: pass  # c\n" "m.py" ({}, [])).1 = .ok result
        ∧ ¬ OccurInOrder ["# c"] result.code := by
  refine ⟨Trailing.parse_oneLine, rfl, _, Trailing.run_oneLine, ?_⟩
  rintro ⟨before, after, hcode, -⟩
  change Trailing.grownLine.render = before ++ "# c" ++ after at hcode
  have hmark : '#' ∈ Trailing.grownLine.render.toList := by
    rw [hcode]
    simp
  revert hmark
  decide +kernel

end ModelMetadata
