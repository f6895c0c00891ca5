import ModelMetadata.Proofs.Recording

/-!
Which modules are imported where metadata is collected. The imports that a run adds are recorded while
its classes are described, before it is known whether their maps will be kept. Each of them is needed by a
map that the run has registered, or was recorded for something that has been dropped: for a part of a
property, for a class of a file without a module, or for a class whose name a later one has.
-/
set_option autoImplicit false
namespace ModelMetadata

open Source

/-! ## Registered maps -/

def Registry.find? (registry : Registry) (key className : String) : Option Expr :=
  (Table.get? registry key).bind fun classes => classes.get? className

theorem Registry.find?_add (registry : Registry) (key className other : String) (metadata : Expr) :
    (registry.add key className metadata).find? key other
      = if className = other then some metadata else registry.find? key other := by
  simp only [add, find?, Table.get?_insert, if_true, Option.bind_some]
  split
  · rfl
  · cases hclasses : Table.get? registry key with
    | none => rfl
    | some classes => simp

def Collected (site : Site) (visit : Bool × ClassHead × Suite) : Prop :=
  emissionFor site visit.2.1 visit.1 = .ok .collect

/-- An import that belongs to a reference in the map that the registry has for one of some classes. -/
def Stored (site : Site) (key : Except Fault String) (found : List (Bool × ClassHead × Suite))
    (registry : Registry) (entry : String × String) : Prop :=
  ∃ visit ∈ found, Collected site visit ∧ ∃ metadata, classMap site visit.2.1 visit.2.2 = .ok metadata
    ∧ (∃ name, key = .ok name ∧ registry.find? name visit.2.1.name = some metadata)
    ∧ metadata.Needs true entry

/-- An import recorded for something that the registry is without once some classes were emitted. -/
inductive Dropped (site : Site) (key : Except Fault String) (found : List (Bool × ClassHead × Suite))
    (entry : String × String) : Prop
  /-- A class is described without it. -/
  | described {visit : Bool × ClassHead × Suite} (hvisit : visit ∈ found)
    (hcollected : Collected site visit) {declarations : List Declaration}
    (hproperties : visit.2.2.properties = .ok declarations)
    (hdrops : Drops { site with scope := visit.2.2.scopeNames } visit.2.1.name declarations entry)
  /-- The file of the class has no module. -/
  | unregistered {visit : Bool × ClassHead × Suite} (hvisit : visit ∈ found)
    (hcollected : Collected site visit) (hkey : ∀ name, key = .ok name → moduleOfKey? name = none)
    (hrecorded : Recorded (classMetadata site visit.2.1 visit.2.2) entry)
  /-- A later class has the name. -/
  | replaced {visit later : Bool × ClassHead × Suite} (hlater : [visit, later].Sublist found)
    (hcollected : Collected site visit) (hcollected' : Collected site later)
    (hname : visit.2.1.name = later.2.1.name) {metadata metadata' : Expr}
    (hmap : classMap site visit.2.1 visit.2.2 = .ok metadata)
    (hmap' : classMap site later.2.1 later.2.2 = .ok metadata') (hneeds : metadata.Needs true entry)
    (hdropped : ¬ metadata'.Needs true entry)

/-- What is known of an import that a pass over some classes has recorded. -/
def Traced (site : Site) (key : Except Fault String) (found : List (Bool × ClassHead × Suite))
    (registry : Registry) (entry : String × String) : Prop :=
  Stored site key found registry entry ∨ Dropped site key found entry

section

variable {site : Site} {key : Except Fault String} {found more : List (Bool × ClassHead × Suite)}
  {registry : Registry} {entry : String × String}

theorem Dropped.sublist (h : Dropped site key found entry) (hsublist : found.Sublist more) :
    Dropped site key more entry := by
  cases h with
  | described hvisit hcollected hproperties hdrops =>
    exact .described (hsublist.subset hvisit) hcollected hproperties hdrops
  | unregistered hvisit hcollected hkey hrecorded =>
    exact .unregistered (hsublist.subset hvisit) hcollected hkey hrecorded
  | replaced hlater hcollected hcollected' hname hmap hmap' hneeds hdropped =>
    exact .replaced (hlater.trans hsublist) hcollected hcollected' hname hmap hmap' hneeds hdropped

theorem Traced.append (h : Traced site key found registry entry)
    (more : List (Bool × ClassHead × Suite)) : Traced site key (found ++ more) registry entry := by
  rcases h with ⟨visit, hvisit, hstored⟩ | hdropped
  · exact .inl ⟨visit, List.mem_append_left more hvisit, hstored⟩
  · exact .inr (hdropped.sublist (List.sublist_append_left found more))

/-- A map that is registered leaves another one behind when the two classes have one name. -/
theorem Traced.add {name : String} (h : Traced site (.ok name) found registry entry)
    {visit : Bool × ClassHead × Suite} (hcollected : Collected site visit) {metadata : Expr}
    (hmap : classMap site visit.2.1 visit.2.2 = .ok metadata) :
    Traced site (.ok name) (found ++ [visit]) (registry.add name visit.2.1.name metadata) entry := by
  rcases h with ⟨other, hother, hcollected', metadata', hmap', ⟨name', hname, hfind⟩, hneeds⟩ | hdropped
  · cases hname
    by_cases hsame : visit.2.1.name = other.2.1.name
    · by_cases hkept : metadata.Needs true entry
      · refine .inl ⟨visit, by simp, hcollected, metadata, hmap, ⟨name, rfl, ?_⟩, hkept⟩
        rw [Registry.find?_add, if_pos rfl]
      · have hlater : [other, visit].Sublist (found ++ [visit]) :=
          (List.singleton_sublist.2 hother).append (List.Sublist.refl [visit])
        exact .inr (.replaced hlater hcollected' hcollected hsame.symm hmap' hmap hneeds hkept)
    · refine .inl ⟨other, List.mem_append_left _ hother, hcollected', metadata', hmap',
        ⟨name, rfl, ?_⟩, hneeds⟩
      rw [Registry.find?_add, if_neg hsame, hfind]
  · exact .inr (hdropped.sublist (List.sublist_append_left found _))

end

/-! ## The pass -/

/-- A class whose properties cannot be read is given up before anything of it is described. -/
theorem classMetadata_error {site : Site} {head : ClassHead} {body : Suite} {journal : Journal}
    {fault : Fault} (h : (classMetadata site head body journal).1 = .error fault) :
    (classMetadata site head body journal).2 = journal := by
  have hcompletes := (classMetadata_completes site head body).iff journal
  cases hproperties : body.properties with
  | error other =>
    unfold classMetadata
    rw [hproperties]
    rfl
  | ok declarations =>
    rw [hproperties, h] at hcompletes
    exact (not_succeeds_error fault (hcompletes.2 (succeeds_ok _))).elim

/-- All imports recorded so far were known or are accounted for by the classes emitted so far. -/
def PassCovered (site : Site) (key : Except Fault String) (known : String × String → Prop)
    (found : List (Bool × ClassHead × Suite)) (state : PassState) : Prop :=
  Covered (fun entry => known entry ∨ Traced site key found state.registry entry) state.journal

/-- A step over some classes leaves no import unaccounted for, however it ends. -/
structure Traces (site : Site) (key : Except Fault String) (known : String × String → Prop)
    (found : List (Bool × ClassHead × Suite)) {α : Type} (step : Pass α) : Prop where
  ends (front : List (Bool × ClassHead × Suite)) :
    Ends (PassCovered site key known front) step (fun _ => PassCovered site key known (front ++ found))
      fun _ => PassCovered site key known (front ++ found)

section Pass

variable {site : Site} {key : Except Fault String} {known : String × String → Prop}

theorem PassCovered.append {found : List (Bool × ClassHead × Suite)} {state : PassState}
    (h : PassCovered site key known found state) (more : List (Bool × ClassHead × Suite)) :
    PassCovered site key known (found ++ more) state :=
  fun entry hentry => (h entry hentry).imp_right fun htraced => htraced.append more

theorem Traces.composes : Composes (Traces site key known) where
  pure a := ⟨fun front => .pure fun _ hs => hs.append []⟩
  bind {_ _ found more _ _} hstep hf := by
    refine ⟨fun front => ?_⟩
    rw [← List.append_assoc]
    have hfirst := (hstep.ends front).blame fun _ _ hs => hs.append more
    exact Ends.bind hfirst fun a => (hf a).ends (front ++ found)

theorem maintains_quiet {α : Type} {step : Describe α} (hquiet : Quiet step) {P : α → Prop}
    (hensures : Ensures step P) (found : List (Bool × ClassHead × Suite)) :
    Maintains (PassCovered site key known found) (Pass.describe step) P := by
  refine .of (fun state hs => ?_) fun _ _ _ h => hensures.ensures h
  unfold PassCovered Covered
  change ∀ entry ∈ (step state.journal).2.typeImports.entries, _
  rw [hquiet.same]
  exact hs

def PassPending (site : Site) (key : Except Fault String) (known : String × String → Prop)
    (front : List (Bool × ClassHead × Suite)) (visit : Bool × ClassHead × Suite) (metadata : Expr)
    (state : PassState) : Prop :=
  Covered (fun entry => (known entry ∨ Traced site key front state.registry entry)
    ∨ Recorded (classMetadata site visit.2.1 visit.2.2) entry
      ∧ (metadata.Needs site.options.readonly entry
        ∨ ∃ declarations, visit.2.2.properties = .ok declarations
          ∧ Drops { site with scope := visit.2.2.scopeNames } visit.2.1.name declarations entry))
    state.journal

section

variable {front : List (Bool × ClassHead × Suite)} {visit : Bool × ClassHead × Suite} {metadata : Expr}

theorem describe_classMetadata (visit : Bool × ClassHead × Suite) :
    Ends (PassCovered site key known front) (Pass.describe (classMetadata site visit.2.1 visit.2.2))
      (fun metadata state => classMap site visit.2.1 visit.2.2 = .ok metadata
        ∧ PassPending site key known front visit metadata state)
      fun _ => PassCovered site key known front := by
  have hadditive := Additive.classMetadata site visit.2.1 visit.2.2
  constructor
  · intro state hs metadata hmetadata
    refine ⟨(hadditive.steady.same {} state.journal).trans hmetadata, fun entry hentry => ?_⟩
    by_cases hold : known entry ∨ Traced site key front state.registry entry
    · exact .inl hold
    · have hnew := (hadditive.recorded hentry).resolve_left (mt (hs entry) hold)
      have hrecords := ((records_classMetadata site visit.2.1 visit.2.2).leads _).ok hs hmetadata
      exact .inr ⟨hnew, (hrecords entry hentry).resolve_left hold⟩
  · intro state hs fault hfault
    change (classMetadata site visit.2.1 visit.2.2 state.journal).1 = .error fault at hfault
    unfold PassCovered
    change Covered _ (classMetadata site visit.2.1 visit.2.2 state.journal).2
    rw [classMetadata_error hfault]
    exact hs

theorem PassPending.unregistered {state : PassState} (hcollected : Collected site visit)
    (h : PassPending site key known front visit metadata state)
    (hkey : ∀ name, key = .ok name → moduleOfKey? name = none) :
    PassCovered site key known (front ++ [visit]) state := by
  intro entry hentry
  rcases h entry hentry with (hknown | hold) | ⟨hrecorded, -⟩
  · exact .inl hknown
  · exact .inr (hold.append [visit])
  · exact .inr (.inr (.unregistered (by simp) hcollected hkey hrecorded))

theorem PassPending.registered {name : String} {state : PassState}
    (hreadonly : site.options.readonly = true) (hcollected : Collected site visit)
    (hmap : classMap site visit.2.1 visit.2.2 = .ok metadata)
    (h : PassPending site (.ok name) known front visit metadata state) :
    PassCovered site (.ok name) known (front ++ [visit])
      { state with registry := state.registry.add name visit.2.1.name metadata } := by
  have hlast : visit ∈ front ++ [visit] := by simp
  intro entry hentry
  rcases h entry hentry with (hknown | hold) | ⟨-, hneeds | ⟨declarations, hproperties, hdrops⟩⟩
  · exact .inl hknown
  · exact .inr (hold.add hcollected hmap)
  · rw [hreadonly] at hneeds
    refine .inr (.inl ⟨visit, hlast, hcollected, metadata, hmap, ⟨name, rfl, ?_⟩, hneeds⟩)
    exact (Registry.find?_add ..).trans (if_pos rfl)
  · exact .inr (.inr (.described hlast hcollected hproperties hdrops))

/-- The map of a class is registered with all imports that were recorded for it, or they are dropped. -/
theorem collectClass_traces (hreadonly : site.options.readonly = true)
    (hcollected : Collected site visit) (hmap : classMap site visit.2.1 visit.2.2 = .ok metadata) :
    Ends (PassPending site key known front visit metadata)
      (collectClass site key visit.2.1.name metadata)
      (fun _ => PassCovered site key known (front ++ [visit]))
      fun _ => PassCovered site key known (front ++ [visit]) := by
  cases key with
  | error fault =>
    -- Without a key, the pass ends here.
    constructor
    · intro state hs _ hended
      cases hended
    · intro state hs _ _
      exact hs.unregistered hcollected (by simp)
  | ok name =>
    have hkey : Ends (PassPending site (.ok name) known front visit metadata)
        (Pass.describe (Describe.ofExcept (.ok name)))
        (fun found state => found = name ∧ PassPending site (.ok name) known front visit metadata state)
        fun _ => PassCovered site (.ok name) known (front ++ [visit]) :=
      ⟨fun hs _ h => ⟨(Except.ok.inj h).symm, hs⟩, fun _ _ h => by cases h⟩
    refine hkey.bind fun found => .assume fun hfound => .ite (fun _ => ?_) fun hmodule => ?_
    · rw [hfound]
      exact ⟨fun hs _ _ => hs.registered hreadonly hcollected hmap, fun _ _ h => by cases h⟩
    · have hnone (name' : String) (hname : (.ok name : Except Fault String) = .ok name') :
          moduleOfKey? name' = none := by
        rw [← Except.ok.inj hname, ← hfound]
        simpa using hmodule
      have hnote (text : String) : Maintains (PassCovered site (.ok name) known (front ++ [visit]))
          (Pass.describe (site.note text)) fun _ => True :=
        maintains_quiet (.note site text) (.trivially _) _
      exact (Ends.imp (hnote _) fun _ _ => And.right).weaken fun _ hs =>
        hs.unregistered hcollected hnone

end

theorem emitClass_traces (hreadonly : site.options.readonly = true)
    (visit : Bool × ClassHead × Suite) (outer : List String) (updated : Suite) :
    Traces site key known [visit]
      (emitClass site key outer visit.1 visit.2.1 visit.2.2 updated) := by
  refine ⟨fun front => ?_⟩
  have hemission : Ensures (emissionOf site visit.2.1 visit.1) fun emission =>
      emissionFor site visit.2.1 visit.1 = .ok emission :=
    .of fun _ _ h => ((emissionOf_gives_for site visit.2.1 visit.1).gives _).symm.trans h
  have hemit (emission : ClassEmission) : Maintains (PassCovered site key known front)
      (Pass.emit (joinDots (outer ++ [visit.2.1.name])) emission) fun _ => True :=
    .of (fun _ hs => hs) fun _ _ _ _ => trivial
  refine Ends.bind ((maintains_quiet (.emissionOf ..) hemission front).blame fun _ _ hs =>
    hs.append [visit]) fun emission => .assume fun hfor => ?_
  refine Ends.bind ((hemit emission).blame fun _ _ hs => hs.append [visit]) fun _ => .assume fun _ => ?_
  cases emission with
  | skip => exact .pure fun _ hs => hs.append [visit]
  | augment => simp [((emissionFor_eq_ok hfor).1.1 rfl).1] at hreadonly
  | collect =>
    have hdescribe := (describe_classMetadata visit).blame fun _ _
      (hs : PassCovered site key known front _) => hs.append [visit]
    refine Ends.bind hdescribe fun metadata => .assume fun hmap => ?_
    refine Ends.bind (collectClass_traces hreadonly hfor hmap) fun _ => ?_
    exact .pure fun _ hs => hs

end Pass

/-! ## Runs -/

structure Reads (tree : FileTree) (before : Engine × List LogRecord) (code file : String)
    (source : Module) (site : Site) : Prop where
  parse : Module.parse code = .ok source
  site : ∃ project, (projectIndex tree before).1 = .ok project
    ∧ siteOf project before.1.options file source = .ok site

namespace TypeImports

theorem mem_insertSorted {name text : String} {names : List String} :
    name ∈ insertSorted text names ↔ name = text ∨ name ∈ names := by
  induction names with
  | nil => simp [insertSorted]
  | cons other rest ih =>
    unfold insertSorted
    split
    · exact List.mem_cons
    · split
      · rename_i hsame
        simp [hsame]
      · simp only [List.mem_cons, ih]
        exact or_left_comm

theorem mem_modules {imports : TypeImports} {name : String} :
    name ∈ imports.modules ↔ ∃ entry ∈ imports.entries, entry.2 = name := by
  have hfold (values sorted : List String) :
      name ∈ values.foldl (fun sorted text => insertSorted text sorted) sorted
        ↔ name ∈ sorted ∨ name ∈ values := by
    induction values generalizing sorted with
    | nil => simp
    | cons text rest ih =>
      rw [List.foldl_cons, ih, mem_insertSorted, List.mem_cons, or_comm (a := name = text), or_assoc]
  unfold modules Table.values
  rw [hfold]
  simp

end TypeImports

def EngineCovered (site : Site) (key : Except Fault String) (before : Engine) (source : Module)
    (state : Engine × List LogRecord) : Prop :=
  ∀ entry ∈ state.1.typeImports.entries, entry ∈ before.typeImports.entries
    ∨ Traced site key (visitsOfAll true source.body) state.1.registry entry

section Runs

variable {tree : FileTree} {code file : String} {before : Engine × List LogRecord}

theorem run_traced (hreadonly : before.1.options.readonly = true) :
    ∀ entry ∈ (run tree code file before).2.1.typeImports.entries,
      entry ∈ before.1.typeImports.entries
        ∨ ∃ source site, Reads tree before code file source site
          ∧ Traced site (fileKey tree before.1.options file) (visitsOfAll true source.body)
            (run tree code file before).2.1.registry entry := by
  cases hparse : Module.parse code with
  | error reason =>
    unfold run
    rw [hparse]
    cases reason with
    | malformed => exact fun entry hentry => .inl hentry
    | invalid => exact fun entry hentry => .inl hentry
  | ok source =>
    have hsame : (projectIndex tree before).2.1.typeImports = before.1.typeImports :=
      (maintains_projectIndex (I := fun engine => engine.typeImports = before.1.typeImports)
        (fun _ _ h => h) tree).state rfl
    rcases run_cases hparse file before with ⟨fault, -, hrun⟩ | ⟨fault, middle, hindex, hrun⟩
      | ⟨project, middle, site, hindex, hsite, hrun⟩
    · rw [hrun]
      exact fun entry hentry => .inl hentry
    · rw [hindex] at hsame
      rw [hrun, hsame]
      exact fun entry hentry => .inl hentry
    · rw [hindex] at hsame
      have hreads : Reads tree before code file source site := ⟨hparse, project, by rw [hindex], hsite⟩
      have hreadonly : site.options.readonly = true := siteOf_options hsite ▸ hreadonly
      have hpass : Traces site (fileKey tree before.1.options file)
          (· ∈ before.1.typeImports.entries) (visitsOfAll true source.body)
          (passModule site (fileKey tree before.1.options file) source) :=
        Emits.passModule Traces.composes source
          ⟨fun visit _ outer _ updated => emitClass_traces hreadonly visit outer updated⟩
      have hended : Ends (fun state => state.1.typeImports = before.1.typeImports)
          (runPass (passModule site (fileKey tree before.1.options file) source) >>= fun passed =>
            pure (reportOf before.1.options code passed))
          (fun _ => EngineCovered site (fileKey tree before.1.options file) before.1 source)
          fun _ => EngineCovered site (fileKey tree before.1.options file) before.1 source := by
        have hstate (state : Engine × List LogRecord)
            (hs : state.1.typeImports = before.1.typeImports) :=
          (hpass.ends []).state (s :=
            { journal := { typeImports := state.1.typeImports, log := state.2 },
              registry := state.1.registry }) fun entry hentry => .inl (hs ▸ hentry)
        refine Ends.bind (Q := fun _ =>
          EngineCovered site (fileKey tree before.1.options file) before.1 source)
          ⟨fun {state} hs _ _ => hstate state hs, fun {state} hs _ _ => hstate state hs⟩ fun passed => ?_
        exact .pure fun _ hs => hs
      rw [hrun]
      intro entry hentry
      exact (hended.state hsame entry hentry).imp_right fun h => ⟨source, site, hreads, h⟩

/-- Every import that a collecting run adds belongs to a reference in a map that it has registered, or
was recorded for something that was dropped. After a first run that drops nothing so recorded, the
collected module imports no module that none of its maps needs. -/
theorem imports_stored (hreadonly : before.1.options.readonly = true) :
    (∀ entry ∈ (run tree code file before).2.1.typeImports.entries,
        entry ∉ before.1.typeImports.entries →
          ∃ source site, Reads tree before code file source site
            ∧ (Stored site (fileKey tree before.1.options file) (visitsOfAll true source.body)
                (run tree code file before).2.1.registry entry
              ∨ Dropped site (fileKey tree before.1.options file) (visitsOfAll true source.body) entry))
      ∧ (before.1.typeImports.entries = [] →
        (∀ source site entry, Reads tree before code file source site →
          ¬ Dropped site (fileKey tree before.1.options file) (visitsOfAll true source.body) entry) →
        ∀ name ∈ (run tree code file before).2.1.typeImports.modules,
          ∃ source site canonicalName, Reads tree before code file source site
            ∧ Stored site (fileKey tree before.1.options file) (visitsOfAll true source.body)
              (run tree code file before).2.1.registry (canonicalName, name)) := by
  have htraced := @run_traced tree code file before hreadonly
  constructor
  · intro entry hentry hnew
    exact (htraced entry hentry).resolve_left hnew
  · intro hfirst hkept name hname
    obtain ⟨entry, hentry, rfl⟩ := TypeImports.mem_modules.1 hname
    have hnew : entry ∉ before.1.typeImports.entries := by simp [hfirst]
    obtain ⟨source, site, hreads, hstored⟩ := (htraced entry hentry).resolve_left hnew
    exact ⟨source, site, entry.1, hreads, hstored.resolve_right (hkept source site entry hreads)⟩

end Runs

/-! ## A class that loses a property

It refers to itself, and the property is dropped before anything is recorded for it. -/

namespace Chipped

def code : String := "class A:\n    x: A = B\n    y: int = \"\\x\"\n"

def body : Suite :=
  .block {} (some "    ")
    [.ofSmall (.annotated (.name "x") [] Gap.space (.name "A")
      (some ⟨Gap.space, Gap.space, .name "B"⟩)),
     .ofSmall (.annotated (.name "y") [] Gap.space (.name "int")
      (some ⟨Gap.space, Gap.space, .string "\"\\x\""⟩))] []

def source : Module := { body := [.classDef Linked.head body] }

def site : Site :=
  { Linked.site with
    oracle := { host := { moduleName := "m", classes := ⟨[("A", ⟨"A", [], ["x", "y"]⟩)]⟩ }, project := none } }

def truncated : Declaration :=
  { name := some "y", typeHint := .name "int", value := some (.string "\"\\x\"") }

def found : Unwrapped := { type := .name "int" }

def inner : Site := { site with scope := body.scopeNames }

theorem parse_code : Module.parse code = .ok source := by cbv

theorem properties_body : body.properties = .ok [Linked.property, truncated] := by cbv

theorem describeProperty_kept :
    describeProperty inner Linked.head.name Linked.property {}
      = (.ok (some Linked.descriptor), Linked.journal) :=
  Linked.describeProperty_at (Path.parse "/src") "/src/m.py" ["x", "y"] body.scopeNames

theorem describeProperty_truncated (journal : Journal) :
    describeProperty inner Linked.head.name truncated journal = (.error .malformedLiteral, journal) := by
  have hunwrap : inner.oracle.unwrap truncated.typeHint = .ok found := by cbv
  have hseed (subject : String) : seedEntries inner subject found.seed journal = (.ok [], journal) := rfl
  have htype : typeEntries inner (found.seed.map Prod.fst) found.type journal
      = (.ok [(typeKey, Expr.thunk (.name "int"))], journal) := by
    rw [typeEntries_eq]
    cbv
  have hdocs : documentationEntries inner.options truncated (found.seed.map Prod.fst) = .ok [] := by cbv
  have hdefault (subject : String) : defaultEntries inner subject (found.seed.map Prod.fst)
      truncated.value journal = (.error .malformedLiteral, journal) := by cbv
  have hassemble : assembleUnwrapped inner truncated found journal
      = (.error .malformedLiteral, journal) := by
    rw [assembleUnwrapped, step_bind (hseed _), step_bind htype, ofExcept_bind hdocs]
    exact step_stop (hdefault _)
  unfold describeProperty
  rw [ofExcept_bind hunwrap]
  change (some <$> assembleUnwrapped inner truncated found : Describe _) journal = _
  rw [map_eq_pure_bind]
  exact step_stop hassemble

theorem classMetadata_body :
    classMetadata site Linked.head body {} = (.ok Linked.metadata, Linked.journal) := by
  have hkept : addProperty inner Linked.head.name {} Linked.property {}
      = (.ok ⟨[("x", Linked.descriptor)]⟩, Linked.journal) :=
    Linked.addProperty_at (Path.parse "/src") "/src/m.py" ["x", "y"] body.scopeNames
  have htruncated (table : Table Descriptor) (journal : Journal) :
      addProperty inner Linked.head.name table truncated journal = (.ok table, journal) := by
    have hcaught : (describeProperty inner Linked.head.name truncated).caught journal
        = (.ok (.error .malformedLiteral), journal) := by
      rw [Describe.caught, describeProperty_truncated]
    unfold addProperty
    rw [step_bind hcaught]
    rfl
  have hdescriptors : classDescriptors inner Linked.head.name [Linked.property, truncated] {}
      = (.ok ⟨[("x", Linked.descriptor)]⟩, Linked.journal) := by
    unfold classDescriptors
    rw [List.foldlM_cons, step_bind hkept, List.foldlM_cons, step_bind (htruncated _ _)]
    rfl
  unfold classMetadata
  rw [ofExcept_bind properties_body]
  exact step_bind hdescriptors

/-- The run registers what remains of the class. -/
theorem run_code : (run Linked.job.tree code Linked.job.file ({ options := Linked.options }, [])).2
    = ({ options := Linked.options, typeImports := Linked.journal.typeImports,
         registry := Linked.passed.registry }, []) := by
  have hemission : Pass.describe (emissionOf site Linked.head true) {} = (.ok .collect, {}) := by cbv
  have hemit : Pass.emit (joinDots ([] ++ [Linked.head.name])) .collect {}
      = (.ok (), { emissions := [("A", .collect)] }) := by cbv
  have hmetadata : Pass.describe (classMetadata site Linked.head body) { emissions := [("A", .collect)] }
      = (.ok Linked.metadata, { journal := Linked.journal, emissions := [("A", .collect)] }) := by
    rw [Pass.describe, classMetadata_body]
  have hclass : emitClass site (.ok "./m.py") [] true Linked.head body body {}
      = (.ok body, Linked.passed) := by
    unfold emitClass
    rw [step_bind hemission, step_bind hemit]
    dsimp only
    rw [step_bind hmetadata]
    cbv
  have hhost : ModuleSymbols.collect source
      (moduleNameFor Linked.options.pathToSource (Path.parse Linked.job.file)).1
      (moduleNameFor Linked.options.pathToSource (Path.parse Linked.job.file)).2
        = .ok site.oracle.host := by cbv
  have hproject : projectIndex Linked.job.tree ({ options := Linked.options }, [])
      = (.ok none, { options := Linked.options }, []) := by cbv
  have hkey : fileKey Linked.job.tree Linked.options Linked.job.file = .ok "./m.py" := by cbv
  have hpass : runPass (passModule site (fileKey Linked.job.tree Linked.options Linked.job.file) source)
      ({ options := Linked.options }, [])
      = (.ok (source, Linked.passed.emissions),
          { options := Linked.options, typeImports := Linked.journal.typeImports,
            registry := Linked.passed.registry }, []) := by
    rw [hkey]
    exact runPass_ok (passModule_of_emitClass rfl hclass)
  exact congrArg Prod.snd (run_eq parse_code hhost hproject hpass)

theorem descriptorOf_kept :
    descriptorOf inner Linked.head.name Linked.property = .ok (some Linked.descriptor) :=
  congrArg Prod.fst describeProperty_kept

/-- Nothing was recorded for the property that is dropped. -/
theorem not_drops (entry : String × String) :
    ¬ Drops inner Linked.head.name [Linked.property, truncated] entry := by
  have hcases {property : Declaration} (h : property ∈ [Linked.property, truncated]) :
      property = Linked.property ∨ property = truncated := by simpa using h
  intro h
  cases h with
  | failed hproperty hfault hrecorded =>
    rcases hcases hproperty with rfl | rfl
    · rw [descriptorOf_kept] at hfault
      cases hfault
    · unfold Recorded at hrecorded
      rw [describeProperty_truncated] at hrecorded
      cases hrecorded
  | displaced hproperty hd hkey hrecorded hneeds => exact hkey (by simp [Options.SparesDomains, inner, site, Linked.site, Linked.options])
  | replaced hlater hname hd hd' hneeds hdropped =>
    have hboth := hlater.eq_of_length rfl
    cases hboth
    simp [Linked.property, truncated] at hname

theorem not_dropped (entry : String × String) :
    ¬ Dropped site (.ok "./m.py") (visitsOfAll true source.body) entry := by
  have hvisit {visit : Bool × ClassHead × Suite} (h : visit ∈ visitsOfAll true source.body) :
      visit = (true, Linked.head, body) := List.mem_singleton.1 h
  intro h
  cases h with
  | described hmem hcollected hproperties hdrops =>
    obtain rfl := hvisit hmem
    obtain rfl := Except.ok.inj (properties_body.symm.trans hproperties)
    exact not_drops entry hdrops
  | unregistered hmem hcollected hkey hrecorded =>
    have hmodule : moduleOfKey? "./m.py" = some "m" := by cbv
    simp [hmodule] at hkey
  | replaced hlater =>
    have hlength := hlater.length_le
    simp [visitsOfAll, visits, visitsOfSuite, source, body, Statement.ofSmall] at hlength

end Chipped

/-- The one import of what remains of a class, the class itself. -/
theorem imports_stored_of_chipped :
    (run Linked.job.tree Chipped.code Linked.job.file
        ({ options := Linked.options }, [])).2.1.typeImports.modules = ["m"]
      ∧ ∃ source site canonicalName,
        Reads Linked.job.tree ({ options := Linked.options }, []) Chipped.code Linked.job.file source site
          ∧ Stored site (fileKey Linked.job.tree Linked.options Linked.job.file)
            (visitsOfAll true source.body)
            (run Linked.job.tree Chipped.code Linked.job.file
              ({ options := Linked.options }, [])).2.1.registry (canonicalName, "m") := by
  have hkey : fileKey Linked.job.tree Linked.options Linked.job.file = .ok "./m.py" := by cbv
  have hindex : (projectIndex Linked.job.tree ({ options := Linked.options }, [])).1 = .ok none := by cbv
  have hsite : siteOf none Linked.options Linked.job.file Chipped.source = .ok Chipped.site := by cbv
  have hmodules : (run Linked.job.tree Chipped.code Linked.job.file
      ({ options := Linked.options }, [])).2.1.typeImports.modules = ["m"] := by
    rw [Chipped.run_code]
    decide
  have hkept : ∀ source site entry, Reads Linked.job.tree ({ options := Linked.options }, [])
      Chipped.code Linked.job.file source site →
        ¬ Dropped site (fileKey Linked.job.tree Linked.options Linked.job.file)
          (visitsOfAll true source.body) entry := by
    intro source site entry hreads
    obtain ⟨hparse, project, hproject, hplace⟩ := hreads
    obtain rfl : Chipped.source = source := Except.ok.inj (Chipped.parse_code.symm.trans hparse)
    obtain rfl : none = project := Except.ok.inj (hindex.symm.trans hproject)
    obtain rfl : Chipped.site = site := Except.ok.inj (hsite.symm.trans hplace)
    rw [hkey]
    exact Chipped.not_dropped entry
  refine ⟨hmodules, ?_⟩
  have hreadonly : Linked.options.readonly = true := rfl
  exact (imports_stored hreadonly).2 rfl hkept "m" (by rw [hmodules]; simp)

namespace Strayed

def options : Options := { readonly := true, pathToSource := some (Path.parse "root") }

def file : String := "other/m.py"

def site : Site := Linked.siteAt (Path.parse "root") file

def passed : PassState :=
  { journal := Linked.journal, emissions := [("A", .collect)] }

theorem passModule_source :
    passModule site (.ok "../other/m.py") Linked.source {} = (.ok Linked.source, passed) := by
  have hemission : Pass.describe (emissionOf site Linked.head true) {} = (.ok .collect, {}) := by cbv
  have hemit : Pass.emit (joinDots ([] ++ [Linked.head.name])) .collect {}
      = (.ok (), { emissions := [("A", .collect)] }) := by cbv
  have hmetadata : Pass.describe (classMetadata site Linked.head Linked.body)
      { emissions := [("A", .collect)] } = (.ok Linked.metadata, passed) := by
    rw [Pass.describe, site, Linked.classMetadata_at]
    rfl
  have hcollect : collectClass site (.ok "../other/m.py") Linked.head.name Linked.metadata passed
      = (.ok (), passed) := by
    have hkey : Pass.describe (Describe.ofExcept (.ok "../other/m.py")) passed
        = (.ok "../other/m.py", passed) := rfl
    have hmodule : moduleOfKey? "../other/m.py" = none := by cbv
    unfold collectClass
    rw [step_bind hkey, hmodule]
    rfl
  have hclass : emitClass site (.ok "../other/m.py") [] true Linked.head Linked.body Linked.body {}
      = (.ok Linked.body, passed) := by
    unfold emitClass
    rw [step_bind hemission, step_bind hemit]
    dsimp only
    rw [step_bind hmetadata, step_bind hcollect]
    rfl
  exact passModule_of_emitClass rfl hclass

/-- The class is reported as collected. -/
theorem run_source : run Linked.job.tree Linked.code file ({ options }, [])
    = (.ok { code := Linked.code, classes := [("A", .collect)] },
        { options, typeImports := ⟨[("m.A", "m")]⟩ }, []) := by
  have hhost : ModuleSymbols.collect Linked.source
      (moduleNameFor options.pathToSource (Path.parse file)).1
      (moduleNameFor options.pathToSource (Path.parse file)).2 = .ok site.oracle.host := by cbv
  have hproject : projectIndex Linked.job.tree ({ options }, []) = (.ok none, { options }, []) := by cbv
  have hkey : fileKey Linked.job.tree options file = .ok "../other/m.py" := by cbv
  have hpass : runPass (passModule site (fileKey Linked.job.tree options file) Linked.source)
      ({ options }, [])
      = (.ok (Linked.source, passed.emissions),
          { options, typeImports := Linked.journal.typeImports }, []) := by
    rw [hkey]
    exact runPass_ok passModule_source
  exact run_eq Linked.parse_code hhost hproject hpass

end Strayed

/-- The class refers to itself, and its map is not registered. The import stays, although the registry
has no map at all. -/
theorem imports_left_by_strayed :
    (run Linked.job.tree Linked.code Strayed.file ({ options := Strayed.options }, [])).2
      = ({ options := Strayed.options, typeImports := ⟨[("m.A", "m")]⟩ }, []) :=
  congrArg Prod.snd Strayed.run_source

end ModelMetadata
