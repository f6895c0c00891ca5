import ModelMetadata.Proofs.HandedOn
import ModelMetadata.Proofs.Offers

/-!
Names that come into the scope of a class. The scope decides which expressions are copied, so one more
name in it makes no difference to properties that do not mention the name. A name is mentioned wherever it
stands, in quoted annotations too.
-/
set_option autoImplicit false
namespace ModelMetadata

open Source

/-! ## Mentions -/

namespace Source.Expr

/-- The name stands in the expression, or in an annotation that a string in it quotes. Defaults of
functions are left aside, as they are where names are collected. -/
inductive Mentions (name : String) : Expr → Prop where
  | here : Mentions name (.name name)
  | part {e part : Expr} (hpart : part ∈ e.parts) (h : Mentions name part) : Mentions name e
  | body {header : List Word} {gap : Gap} {body : Expr} (h : Mentions name body) :
    Mentions name (.lambda header gap body)
  | quoted {e inner : Expr} {text : String} (htext : stringValue e = .ok (some text))
    (hinner : Expr.parse (Text.trimmed text) = .ok inner) (h : Mentions name inner) : Mentions name e

variable {name : String}

theorem mentions_of_mem_namesRead {e : Expr} (h : name ∈ e.namesRead) : Mentions name e := by
  induction hn : sizeOf e using Nat.strongRecOn generalizing e with
  | ind n ih =>
    subst hn
    rcases mem_namesRead_cases h with rfl | ⟨header, gap, body, rfl⟩ | ⟨part, hpart, hread⟩
    · exact .here
    · exact .body (ih _ (by simp +arith) h rfl)
    · exact .part hpart (ih _ (sizeOf_lt_of_mem_parts hpart) hread rfl)

theorem not_mentions_name {text : String} (hne : name ≠ text) : ¬ Mentions name (.name text) := by
  intro h
  cases h with
  | here => exact hne rfl
  | part hpart => cases hpart
  | quoted htext => cases htext

/-- Not to mention a name is handed on. -/
theorem unmentioned_handedOn (hname : name ∉ constantNames) : HandedOn fun e => ¬ Mentions name e where
  part he hpart h := he (.part hpart h)
  quoted he htext hinner h := he (.quoted htext hinner h)
  null := not_mentions_name fun heq => hname (heq ▸ by decide)

end Source.Expr

/-! ## Scopes -/

/-- Two scopes between which good expressions, and constants, make no difference. -/
structure Rescopes (scope scope' : List String) (Good : Expr → Prop) : Prop where
  handedOn : HandedOn Good
  good {e : Expr} (he : Good e) : ∀ name ∈ e.namesRead, name ∈ scope ↔ name ∈ scope'
  constant : ∀ name ∈ constantNames, name ∈ scope ↔ name ∈ scope'

/-- One name may come in where it is not mentioned. -/
theorem rescopes_unmentioned {name : String} (hname : name ∉ constantNames) {scope scope' : List String}
    (hscope : ∀ other, other ≠ name → (other ∈ scope ↔ other ∈ scope')) :
    Rescopes scope scope' fun e => ¬ Expr.Mentions name e where
  handedOn := Expr.unmentioned_handedOn hname
  good he other hother :=
    hscope other fun heq => he (Expr.mentions_of_mem_namesRead (heq ▸ hother))
  constant other hother := hscope other fun heq => hname (heq ▸ hother)

theorem rescopes_same {scope scope' : List String} (hscope : ∀ name, name ∈ scope ↔ name ∈ scope') :
    Rescopes scope scope' fun _ => True where
  handedOn := ⟨fun _ _ => trivial, fun _ _ _ => trivial, trivial⟩
  good _ name _ := hscope name
  constant name _ := hscope name

theorem isCopyable_congr {readonly : Bool} {scope scope' : List String} {e : Expr}
    (h : ∀ name ∈ e.namesRead, name ∈ scope ↔ name ∈ scope') :
    isCopyable readonly scope' e = isCopyable readonly scope e := by
  have hsame : e.namesRead.any scope'.contains = e.namesRead.any scope.contains := by
    rw [Bool.eq_iff_iff, List.any_eq_true, List.any_eq_true]
    refine exists_congr fun name => and_congr_right fun hname => ?_
    rw [List.contains_iff_mem, List.contains_iff_mem, h name hname]
  unfold isCopyable
  rw [hsame]

def Site.rescoped (site : Site) (scope : List String) : Site := { site with scope }

theorem shapeEntries_rescoped {site : Site} {scope' existing : List String} {shape : AnnotationShape}
    (hmembers : ∀ members, shape = .inline members → ∀ member ∈ members,
      memberEntry (site.rescoped scope') member = memberEntry site member)
    (hbranch : ∀ branches branch, shape = .union branches →
      site.oracle.nonNull branches = .ok [branch] →
      typeEntries (site.rescoped scope') existing branch = typeEntries site existing branch) :
    shapeEntries (site.rescoped scope') existing shape = shapeEntries site existing shape := by
  cases shape with
  | inline members =>
    simp only [shapeEntries, mapM_congr (hmembers members rfl)]
  | union branches =>
    refine ofExcept_bind_congr fun kept hkept => ?_
    split
    · rename_i branch
      rw [hbranch branches branch rfl hkept]
    · rfl
  | named core => rfl

namespace Rescopes

variable {site : Site} {scope' : List String} {Good : Expr → Prop}
  (h : Rescopes site.scope scope' Good)
include h

theorem isCopyable {e : Expr} (he : Good e) : (site.rescoped scope').isCopyable e = site.isCopyable e :=
  congrArg Describe.ofExcept (isCopyable_congr (h.good he))

/-- What is copied of a good expression is the expression or a literal. -/
theorem isCopyable_copied {e copied : Expr} (he : Good e) (hcopied : toCopy e = .ok copied) :
    (site.rescoped scope').isCopyable copied = site.isCopyable copied := by
  obtain ⟨literal?, hliteral, hcopied⟩ := bind_eq_ok.1 hcopied
  cases hcopied
  cases literal? with
  | none => exact h.isCopyable he
  | some literal =>
    obtain ⟨value?, -, hliteral⟩ := bind_eq_ok.1 hliteral
    cases value? with
    | none => cases hliteral
    | some value =>
      obtain ⟨literal, hwritten, hliteral⟩ := map_eq_ok.1 hliteral
      cases hliteral
      have hnames := (readsNothing_of_primitive hwritten).names
      exact congrArg Describe.ofExcept
        (isCopyable_congr fun name hname => h.constant name (hnames name hname))

/-! ## Entries -/

theorem seedEntries (subject : String) {seed : List (String × Expr)}
    (hseed : ∀ entry ∈ seed, Good entry.2) :
    seedEntries (site.rescoped scope') subject seed = seedEntries site subject seed := by
  induction seed with
  | nil => rfl
  | cons entry rest ih =>
    obtain ⟨hentry, hrest⟩ := List.forall_mem_cons.1 hseed
    simp only [ModelMetadata.seedEntries, h.isCopyable hentry, ih hrest]
    rfl

theorem fieldDefault? {call initial : Expr} (hcall : Good call)
    (hinitial : fieldDefault? call = some initial) : Good initial := by
  unfold ModelMetadata.fieldDefault? at hinitial
  split at hinitial
  · rename_i keyword given hfound
    split at hinitial
    · cases hinitial
    · cases hinitial
      exact h.handedOn.keywordArgument hcall (List.mem_of_find?_eq_some hfound)
  · obtain ⟨hhead, -⟩ := Option.filter_eq_some_iff.1 hinitial
    exact h.handedOn.positionalArgument hcall (List.mem_of_head? hhead)

theorem defaultOf? {value initial : Expr} (hvalue : Good value)
    (hinitial : site.oracle.defaultOf? value = some initial) : Good initial := by
  unfold Oracle.defaultOf? at hinitial
  split at hinitial
  · cases hinitial
    exact hvalue
  dsimp only at hinitial
  split at hinitial
  · split at hinitial
    · rename_i first inner harguments
      cases hinitial
      exact h.handedOn.positionalArgument hvalue (harguments ▸ by simp)
    · cases hinitial
      exact hvalue
  split at hinitial
  · exact h.fieldDefault? hvalue hinitial
  · cases hinitial
    exact hvalue

theorem defaultEntries (subject : String) (existing : List String) {value : Option Expr}
    (hvalue : ∀ e, value = some e → Good e) :
    defaultEntries (site.rescoped scope') subject existing value
      = defaultEntries site subject existing value := by
  unfold ModelMetadata.defaultEntries
  split
  · rfl
  cases hdefault : value.bind site.oracle.defaultOf? with
  | none =>
    have hsame : value.bind (site.rescoped scope').oracle.defaultOf? = none := hdefault
    rw [hsame]
  | some initial =>
    have hsame : value.bind (site.rescoped scope').oracle.defaultOf? = some initial := hdefault
    rw [hsame]
    obtain ⟨e, rfl, hinitial⟩ := Option.bind_eq_some_iff.1 hdefault
    refine ofExcept_bind_congr fun copied hcopied => ?_
    rw [h.isCopyable_copied (h.defaultOf? (hvalue e rfl) hinitial) hcopied]
    rfl

theorem argumentEntry (subject key : String) {argument : Option Expr}
    (hargument : ∀ e, argument = some e → Good e) :
    argumentEntry (site.rescoped scope') subject key argument = argumentEntry site subject key argument := by
  cases argument with
  | none => rfl
  | some e =>
    have hcopy : copyArgument (site.rescoped scope') subject e = copyArgument site subject e := by
      refine ofExcept_bind_congr fun copied hcopied => ?_
      rw [h.isCopyable_copied (hargument e rfl) hcopied]
      rfl
    simp only [ModelMetadata.argumentEntry, hcopy]

theorem validationEntries (subject : String) {markers : List Expr}
    (hmarkers : ∀ marker ∈ markers, Good marker) :
    validationEntries (site.rescoped scope') subject markers = validationEntries site subject markers := by
  have hargument {marker : Expr} (hmarker : Good marker) (i : Nat) :
      ∀ e, marker.positionalArguments[i]? = some e → Good e :=
    fun e he => h.handedOn.positionalArgument hmarker (List.mem_of_getElem? he)
  have hrow (row : MarkerRow) :
      row.entries (site.rescoped scope') subject markers = row.entries site subject markers := by
    unfold MarkerRow.entries
    split
    · rfl
    · rename_i marker hfound
      have hmarker := hmarkers marker (List.mem_of_find?_eq_some hfound)
      cases row.rule with
      | argument key => exact h.argumentEntry subject key (hargument hmarker 0)
      | range lower upper =>
        simp only [MarkerRule.entries, h.argumentEntry subject lower (hargument hmarker 0),
          h.argumentEntry subject upper (hargument hmarker 1)]
      | bound key value => rfl
      | pattern key => rfl
  unfold ModelMetadata.validationEntries
  rw [mapM_congr fun row _ => hrow row]
  rfl

/-! ## Descriptors -/

theorem seed {found : Unwrapped} (hmarkers : ∀ marker ∈ found.markers, Good marker) :
    ∀ entry ∈ found.seed, Good entry.2 := by
  unfold Unwrapped.seed
  cases hfound : findMarker? found.markers [seedMarker] with
  | none => exact fun _ hentry => nomatch hentry
  | some marker =>
    have hmarker := hmarkers marker (List.mem_of_find?_eq_some hfound)
    exact fun entry hentry => h.handedOn.keywordArgument hmarker hentry

/-- A property with a good annotation, good markers and a good default is described alike. -/
theorem describing :
    (∀ existing e, Good e →
        typeEntries (site.rescoped scope') existing e = typeEntries site existing e)
      ∧ ∀ declaration found, Good found.type → (∀ marker ∈ found.markers, Good marker) →
        (∀ e, declaration.value = some e → Good e) →
        assembleUnwrapped (site.rescoped scope') declaration found
          = assembleUnwrapped site declaration found := by
  refine describing_induction site (fun existing e hmembers hbranch he => ?_)
    fun declaration found htype hfound hmarkers hvalue => ?_
  · rw [typeEntries_eq, typeEntries_eq]
    split
    · rfl
    refine ofExcept_bind_congr fun shape hshape => shapeEntries_rescoped ?_ ?_
    · rintro members rfl member hmember
      obtain ⟨hhint, hnone⟩ := h.handedOn.inline he hshape member hmember
      unfold memberEntry
      cases member.name with
      | none => rfl
      | some name =>
        refine ofExcept_bind_congr fun found hfound => ?_
        obtain ⟨htype, hmarkers⟩ := h.handedOn.unwrap hhint hfound
        have hvalue : ∀ e, member.value = some e → Good e := by simp [hnone]
        rw [hmembers members hshape member hmember found hfound htype hmarkers hvalue]
    · rintro branches branch rfl hkept
      have hgood := h.handedOn.shape he hshape branch
        (Oracle.mem_of_mem_nonNull hkept List.mem_cons_self).1
      exact hbranch branches branch hshape hkept hgood
  · rw [assembleUnwrapped, assembleUnwrapped]
    have hseeded := h.seedEntries (site.subject declaration.name) (h.seed hmarkers)
    have hdefault := fun existing =>
      h.defaultEntries (site.subject declaration.name) existing hvalue
    have hvalidation := h.validationEntries (site.subject declaration.name) hmarkers
    simp only [show (site.rescoped scope').subject = site.subject from rfl, hseeded, htype _ hfound,
      hdefault, hvalidation]
    rfl

theorem describeProperty (className : String) {declaration : Declaration}
    (hhint : Good declaration.typeHint) (hvalue : ∀ e, declaration.value = some e → Good e) :
    describeProperty (site.rescoped scope') className declaration
      = describeProperty site className declaration := by
  refine ofExcept_bind_congr fun found hfound => ?_
  obtain ⟨htype, hmarkers⟩ := h.handedOn.unwrap hhint hfound
  rw [h.describing.2 declaration found htype hmarkers hvalue]
  rfl

end Rescopes

end ModelMetadata
