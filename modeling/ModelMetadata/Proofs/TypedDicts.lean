import ModelMetadata.Proofs.Completing
import ModelMetadata.Proofs.Enumerations
import ModelMetadata.Proofs.Framing

/-!
Typed dicts where factories are written. A class is left alone when one of its own bases names the typed
dict of a typing module, or when it is an enumeration, and in no other case. Its body then stays as it
is, but for models inside of it. The bases of its bases are not asked: a class that comes to the typed
dict by way of another class gets a factory.
-/
set_option autoImplicit false
namespace ModelMetadata

open Source Oracle

/-! ## Ways to the typed dict -/

def ModuleSymbols.importedPath? (symbols : ModuleSymbols) (dotted : String) : Option (List String) :=
  match dotPieces dotted with
  | [] => none
  | head :: rest => (symbols.imports.get? head).map fun binding =>
    binding.origin :: (binding.imported.toList ++ rest)

/-- A name that was imported from a typing module, where it is the typed dict. -/
def ModuleSymbols.NamesTypedDict (symbols : ModuleSymbols) (dotted : String) : Prop :=
  dotted ≠ "" ∧ ∃ owner, symbols.importedPath? dotted = some (owner ++ ["TypedDict"])
    ∧ typingModules.contains (joinDots owner) = true

/-- A way from a dotted name of a module to the typed dict, by bases, aliases, imports and names that
other modules provide. It is `n` links long. -/
inductive TypedDictChain (oracle : Oracle) : Nat → ModuleSymbols → String → Prop where
  | named {symbols : ModuleSymbols} {dotted : String} (h : symbols.NamesTypedDict dotted) :
    TypedDictChain oracle 0 symbols dotted
  | localClass {n : Nat} {symbols : ModuleSymbols} {dotted className : String} {found : ClassSymbol}
    {base : Expr} (hpieces : dotPieces dotted = [className])
    (hclass : symbols.classes.get? className = some found) (hbase : base ∈ found.bases)
    (link : TypedDictChain oracle n symbols (baseName base)) :
    TypedDictChain oracle (n + 1) symbols dotted
  | localAlias {n : Nat} {symbols : ModuleSymbols} {dotted aliasName : String} {value : Expr}
    (hpieces : dotPieces dotted = [aliasName]) (hclass : symbols.classes.get? aliasName = none)
    (halias : symbols.aliases.get? aliasName = some value)
    (link : TypedDictChain oracle n symbols (baseName value)) :
    TypedDictChain oracle (n + 1) symbols dotted
  | imported {n : Nat} {symbols external : ModuleSymbols} {dotted head origin name : String}
    {rest : List String} {binding : ImportBinding} (hpieces : dotPieces dotted = head :: rest)
    (hclass : symbols.classes.get? head = none) (halias : bareAlias? symbols head rest = none)
    (himport : symbols.imports.get? head = some binding)
    (htarget : binding.target? rest = some (origin, name))
    (htable : oracle.projectTable? origin = some external)
    (link : TypedDictChain oracle n external name) : TypedDictChain oracle (n + 1) symbols dotted

theorem typedDictChain_zero_iff {oracle : Oracle} {symbols : ModuleSymbols} {dotted : String} :
    TypedDictChain oracle 0 symbols dotted ↔ symbols.NamesTypedDict dotted := by
  refine ⟨fun h => ?_, .named⟩
  cases h
  assumption

/-- The name that a path ends with. -/
theorem eq_append_singleton_iff {path owner : List String} {last : String} :
    path = owner ++ [last] ↔ path.getLast? = some last ∧ path.dropLast = owner := by
  constructor
  · rintro rfl
    simp
  · rintro ⟨hlast, rfl⟩
    exact (List.dropLast_append_getLast? last hlast).symm

/-- The typed dict is the special form of just the names that were imported for it. -/
theorem specialForm?_eq_typedDict_iff {symbols : ModuleSymbols} {dotted : String} :
    symbols.specialForm? dotted = some "TypedDict" ↔ symbols.NamesTypedDict dotted := by
  unfold ModuleSymbols.specialForm? ModuleSymbols.NamesTypedDict ModuleSymbols.importedPath?
  by_cases hempty : dotted = ""
  · simp [hempty]
  rw [if_neg (by simpa using hempty)]
  cases hpieces : dotPieces dotted with
  | nil => simp
  | cons head rest =>
    cases himport : symbols.imports.get? head with
    | none =>
      cases rest with
      | nil =>
        -- no builtin type has the name of the typed dict
        have hother : head ∈ builtinTypes → head ≠ "TypedDict" := by
          rintro hbuiltin rfl
          exact absurd hbuiltin (by decide)
        simpa [himport] using fun _ _ => hother
      | cons next rest => simp [himport]
    | some binding =>
      have hroot : joinDots [] ∉ typingModules := by decide
      cases rest with
      | nil =>
        cases himported : binding.imported with
        | none => simp [himport, himported, hroot, hempty, eq_append_singleton_iff]
        | some imported =>
          have horigin : joinDots [binding.origin] = binding.origin := rfl
          simp [himport, himported, hempty, horigin, eq_append_singleton_iff, and_comm]
      | cons next rest =>
        have hne : binding.imported.toList ++ next :: rest ≠ [] := by simp
        have hdrop : (binding.origin :: (binding.imported.toList ++ next :: rest)).dropLast
            = binding.origin :: (binding.imported.toList ++ (next :: rest).dropLast) := by
          rw [List.dropLast_cons_of_ne_nil hne, List.dropLast_append_of_ne_nil (by simp)]
        have hlast : (binding.origin :: (binding.imported.toList ++ next :: rest)).getLast?
            = (next :: rest).getLast? := by
          simp [List.getLast?_cons, List.getLast?_append]
        simp [himport, hempty, eq_append_singleton_iff, hdrop, hlast, and_comm]

/-! ## Classes that get no factory -/

/-- A base that keeps its class from getting a factory: it names the typed dict itself, or it is an
enumeration. -/
def Spares (site : Site) (base : Expr) : Prop :=
  TypedDictChain site.oracle 0 site.oracle.host (baseName base)
    ∨ ∃ t, site.oracle.typeOf (baseOwner base) = .ok (some t) ∧ t.isEnumeration = true

/-- Where factories are written, the bases are asked one by one until one of them spares the class. -/
theorem isModel_cons_of_writes {site : Site} (hwrites : site.options.readonly = false) (base : Expr)
    (rest : List Expr) : isModel site (base :: rest) =
      if site.oracle.specialForm? (baseOwner base) = some "TypedDict" then .ok false
      else (do
        match ← site.oracle.typeOf (baseOwner base) with
        | some t => if t.isEnumeration then return false else isModel site rest
        | none => isModel site rest) := by
  simp only [isModel, hwrites, Bool.not_false, Bool.and_true, beq_iff_eq]
  rfl

/-- A class is no model just when one of its own bases spares it. -/
theorem isModel_eq_false_iff {site : Site} (hwrites : site.options.readonly = false)
    {bases : List Expr} {model : Bool} (h : isModel site bases = .ok model) :
    model = false ↔ ∃ base ∈ bases, Spares site base := by
  induction bases with
  | nil =>
    cases h
    simp
  | cons base rest ih =>
    rw [isModel_cons_of_writes hwrites] at h
    have hnamed : site.oracle.specialForm? (baseOwner base) = some "TypedDict"
        ↔ TypedDictChain site.oracle 0 site.oracle.host (baseName base) := by
      rw [typedDictChain_zero_iff, baseName_eq, ← specialForm?_eq_typedDict_iff]
      rfl
    rw [List.exists_mem_cons_iff, Spares, ← hnamed]
    split at h
    · rename_i hspecial
      cases h
      simp [hspecial]
    · rename_i hspecial
      obtain ⟨t?, htype, h⟩ := bind_eq_ok.1 h
      cases t? with
      | none => simp [hspecial, htype, ih h]
      | some t =>
        cases ht : t.isEnumeration with
        | false =>
          simp only [ht, Bool.false_eq_true, if_false] at h
          simp [hspecial, htype, ht, ih h]
        | true =>
          simp only [ht, if_true] at h
          cases h
          simp [hspecial, htype, ht]

/-! ## Bodies without models -/

def Reports.AllSkipped (reports : Reports) : Prop := ∀ report ∈ reports, report.2 = .skip

namespace Reports.AllSkipped

theorem append_iff {reports later : Reports} :
    Reports.AllSkipped (reports ++ later) ↔ reports.AllSkipped ∧ later.AllSkipped :=
  List.forall_mem_append

theorem not_of_augment {name : String} {reports : Reports} :
    ¬ Reports.AllSkipped (reports ++ [(name, .augment)]) :=
  fun h => nomatch h (name, .augment) (by simp)

end Reports.AllSkipped

mutual

/-- A statement in which no class got a factory has not changed. -/
theorem eq_of_grown {site : Site} {outer : List String} {updated : Statement} {reports : Reports}
    (statement : Statement) (h : Grown site outer statement updated reports)
    (hskipped : reports.AllSkipped) : updated = statement := by
  cases statement with
  | line above line =>
    cases h
    rfl
  | classDef head body =>
    cases h with
    | skipped _ hbody =>
      rw [eq_of_grownSuite body hbody (Reports.AllSkipped.append_iff.1 hskipped).1]
    | augmented => exact absurd hskipped Reports.AllSkipped.not_of_augment
  | functionDef head body =>
    obtain _ | _ | _ | hbody := h
    rw [eq_of_grownSuite body hbody hskipped]
  | compound clauses =>
    obtain _ | _ | _ | _ | hclauses := h
    rw [eq_of_grownClauses clauses hclauses hskipped]
termination_by structural statement

theorem eq_of_grownAll {site : Site} {outer : List String} {updated : List Statement}
    {reports : Reports} (statements : List Statement)
    (h : GrownAll site false outer statements updated reports) (hskipped : reports.AllSkipped) :
    updated = statements := by
  cases statements with
  | nil =>
    cases h
    rfl
  | cons statement rest =>
    obtain _ | ⟨-, hfirst, hrest⟩ := h
    obtain ⟨hreports, hlater⟩ := Reports.AllSkipped.append_iff.1 hskipped
    rw [eq_of_grown statement hfirst hreports, eq_of_grownAll rest hrest hlater]
termination_by structural statements

theorem eq_of_grownClauses {site : Site} {outer : List String} {updated : List Clause}
    {reports : Reports} (clauses : List Clause)
    (h : GrownClauses site outer clauses updated reports) (hskipped : reports.AllSkipped) :
    updated = clauses := by
  match clauses with
  | [] =>
    cases h
    rfl
  | .mk above head body :: rest =>
    obtain _ | ⟨hbody, hrest⟩ := h
    obtain ⟨hreports, hlater⟩ := Reports.AllSkipped.append_iff.1 hskipped
    rw [eq_of_grownSuite body hbody hreports, eq_of_grownClauses rest hrest hlater]
termination_by structural clauses

theorem eq_of_grownSuite {site : Site} {outer : List String} {updated : Suite} {reports : Reports}
    (body : Suite) (h : GrownSuite site false outer body updated reports)
    (hskipped : reports.AllSkipped) : updated = body := by
  cases body with
  | block tail step statements footer =>
    obtain ⟨-, -, -, hstatements⟩ := h
    rw [eq_of_grownAll statements hstatements hskipped]
  | «inline» gap line =>
    cases h
    rfl
termination_by structural body

end

/-! ## Class statements -/

/-- Without a factory there is nothing about a class that could not be read, but for its bases. -/
theorem classReadable_of_spares {site : Site} (hwrites : site.options.readonly = false)
    (key : Except Fault String) (isModuleLevel : Bool) {head : ClassHead} (body : Suite)
    (hbases : Succeeds (isModel site head.positionalBases))
    (hkept : ∃ base ∈ head.positionalBases, Spares site base) :
    ClassReadable site key (isModuleLevel, head, body) := by
  obtain ⟨model, hmodel⟩ := hbases
  obtain rfl := (isModel_eq_false_iff hwrites hmodel).2 hkept
  have hemission : emissionFor site head isModuleLevel = .ok .skip := by
    unfold emissionFor
    rw [hmodel]
    rfl
  exact ⟨.skip, hemission, fun h => absurd rfl h, nofun⟩

/-- Where factories are written, a class is skipped just when one of its own bases names the typed dict
or is an enumeration. Then only the classes inside of it can stop the pass, and it keeps its body, in
which nothing but models among them changes. -/
theorem typedDict_spared {site : Site} (hwrites : site.options.readonly = false)
    (key : Except Fault String) (outer : List String) (isModuleLevel : Bool) (head : ClassHead)
    (body : Suite) (hbases : Succeeds (isModel site head.positionalBases)) (state : PassState) :
    ((∃ base ∈ head.positionalBases, Spares site base) →
      (Succeeds (passStatement site key outer isModuleLevel (.classDef head body) state).1
        ↔ AllReadable site key (visitsOfSuite false body)))
    ∧ ∀ updated state',
      passStatement site key outer isModuleLevel (.classDef head body) state = (.ok updated, state') →
      ∃ reports emission,
        state'.emissions
          = state.emissions ++ (reports ++ [(joinDots (outer ++ [head.name]), emission)])
        ∧ (emission = .skip ↔ ∃ base ∈ head.positionalBases, Spares site base)
        ∧ (emission = .skip → ∃ inner, updated = .classDef head inner
          ∧ GrownSuite site false (outer ++ [head.name]) body inner reports
          ∧ (reports.AllSkipped → inner = body)) := by
  constructor
  · intro hkept
    have hself := classReadable_of_spares hwrites key isModuleLevel body hbases hkept
    rw [(passStatement_completes site key outer isModuleLevel (.classDef head body)).iff state,
      visits, allReadable_append]
    exact and_iff_left fun visit hvisit => List.mem_singleton.1 hvisit ▸ hself
  · intro updated state' h
    obtain ⟨reports, hgrown, hreports⟩ := passStatement_grown hwrites (.classDef head body) h
    cases hgrown with
    | @skipped _ _ _ inner _ hother hbody =>
      have hkept := (isModel_eq_false_iff hwrites hother).1 rfl
      exact ⟨_, .skip, hreports, iff_of_true rfl hkept,
        fun _ => ⟨inner, rfl, hbody, eq_of_grownSuite body hbody⟩⟩
    | augmented hmodel =>
      have hbare : ¬ ∃ base ∈ head.positionalBases, Spares site base := fun hkept =>
        nomatch (isModel_eq_false_iff hwrites hmodel).2 hkept
      exact ⟨_, .augment, hreports, iff_of_false nofun hbare, nofun⟩

namespace Spared

def body : Suite := .block {} none [.function {} factoryName [], .line [] Regrown.line] []

end Spared

theorem typedDict_spared_of_factory :
    (∃ base ∈ [.name "TypedDict"], Spares Regrown.site base)
    ∧ (Succeeds (passStatement Regrown.site (.ok "./m.py") [] true
          (.classDef (Regrown.head "C" [.name "TypedDict"]) Spared.body) {}).1
        ↔ AllReadable Regrown.site (.ok "./m.py") (visitsOfSuite false Spared.body))
    ∧ ∀ updated state',
      passStatement Regrown.site (.ok "./m.py") [] true
        (.classDef (Regrown.head "C" [.name "TypedDict"]) Spared.body) {} = (.ok updated, state') →
      ∃ reports emission,
        state'.emissions = [] ++ (reports ++ [(joinDots ([] ++ ["C"]), emission)])
        ∧ (emission = .skip ↔ ∃ base ∈ [.name "TypedDict"], Spares Regrown.site base)
        ∧ (emission = .skip →
          ∃ inner, updated = .classDef (Regrown.head "C" [.name "TypedDict"]) inner
          ∧ GrownSuite Regrown.site false ([] ++ ["C"]) Spared.body inner reports
          ∧ (reports.AllSkipped → inner = Spared.body)) := by
  have hnamed : Regrown.site.oracle.host.NamesTypedDict "TypedDict" :=
    specialForm?_eq_typedDict_iff.1 (by decide)
  have hkept : ∃ base ∈ [.name "TypedDict"], Spares Regrown.site base :=
    ⟨.name "TypedDict", List.mem_cons_self, .inl (.named hnamed)⟩
  have h := typedDict_spared (show Regrown.site.options.readonly = false from rfl) (.ok "./m.py") []
    true (Regrown.head "C" [.name "TypedDict"]) Spared.body ⟨false, rfl⟩ {}
  exact ⟨hkept, h.1 hkept, h.2⟩

namespace Spared

def importTypedDict : Statement :=
  .ofSmall (.importFrom [] (some (Gap.space, .name "typing")) Gap.space
    (.plain [⟨Gap.space, .name "TypedDict", none, none⟩]))

def source : Module where
  body := [importTypedDict, Regrown.oneLine "A" [.name "TypedDict"], Regrown.oneLine "B" [.name "A"]]

def site : Site where
  oracle.host :=
    { moduleName := "m"
      imports := ⟨[("TypedDict", { origin := "typing", imported := some "TypedDict" })]⟩
      classes := ⟨[("A", ⟨"A", [.name "TypedDict"], []⟩), ("B", ⟨"B", [.name "A"], []⟩)]⟩ }
  options := {}
  file := "m.py"

theorem chain_derived : TypedDictChain site.oracle 1 site.oracle.host (baseName (.name "A")) := by
  have hnamed : site.oracle.host.NamesTypedDict "TypedDict" :=
    specialForm?_eq_typedDict_iff.1 (by decide)
  have hpieces : dotPieces "A" = ["A"] := by decide
  exact .localClass hpieces rfl List.mem_cons_self (.named hnamed)

theorem isModel_derived : isModel site [.name "A"] = .ok true := by
  have hanswer := (adequate_within site.oracle 100).resolve .host [] (.name "A") (by decide)
  have htype : site.oracle.typeOf (.name "A") = .ok (some (classType site.oracle.host
      ⟨"A", [.name "TypedDict"], []⟩ (some "A") false)) := (Option.some.inj hanswer).symm
  rw [isModel_cons_of_writes rfl]
  exact congrArg (· >>= _) htype

theorem emissionOf_derived :
    emissionOf site (Regrown.head "B" [.name "A"]) true = pure .augment := by
  unfold emissionOf
  rw [show (Regrown.head "B" [.name "A"]).positionalBases = [.name "A"] from rfl, isModel_derived]
  rfl

end Spared

/-- A class whose base is a typed dict of the same module gets a factory. -/
theorem typedDict_missed :
    ModuleSymbols.collect Spared.source "m" false = .ok Spared.site.oracle.host
      ∧ Regrown.oneLine "B" [.name "A"] ∈ Spared.source.body
      ∧ TypedDictChain Spared.site.oracle 1 Spared.site.oracle.host (baseName (.name "A"))
      ∧ passStatement Spared.site (.ok "./m.py") [] true (Regrown.oneLine "B" [.name "A"]) {}
        = (.ok (.classDef (Regrown.head "B" [.name "A"])
            (.block {} none [.line [] Regrown.line, Regrown.factory] [])),
          { emissions := [("B", .augment)] }) := by
  refine ⟨by cbv, by simp [Spared.source], Spared.chain_derived, ?_⟩
  simp only [Regrown.oneLine, passStatement, passSuite, emitClass, Spared.emissionOf_derived]
  rfl

end ModelMetadata
