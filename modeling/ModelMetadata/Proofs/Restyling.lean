import ModelMetadata.Proofs.ImportStyles

/-!
Annotations restyled. Where a host makes a name of another module available in some way, and another host
in another way, an annotation of the one is restyled for the other by writing the name in the other way
wherever it is mentioned. Both hosts then look for the same name in the same module, so the annotation
denotes the same type but for its spelling. Only a literal member that is the name itself is not looked up:
all but its last name is taken for an enumeration, which is to be none.
-/
set_option autoImplicit false
namespace ModelMetadata

open Source Oracle

/-! ## Modules elsewhere -/

def elsewhere (first second : Oracle) : Comparison where
  first := first
  second := second
  Inside scope := scope ≠ .host
  Seen := Eq
  Rel _ := Eq
  Provided _ := Eq

theorem not_host (moduleName : String) : Scope.project moduleName ≠ .host := by
  intro h
  cases h

theorem holds_elsewhere {first second : Oracle} (hproject : first.project = second.project) :
    (elsewhere first second).Holds where
  symbols {scope} hscope := by
    cases scope with
    | host => exact (hscope rfl).elim
    | project moduleName => simp only [elsewhere, Oracle.symbols, projectTable?, hproject]
  projectTable? origin := by simp only [elsewhere, Oracle.projectTable?, hproject]
  built _ := built_eq
  ofClass {_} _ {_ _ _ _ _} _ _ _ _ _ := rfl
  ofImport {_} _ {_ _ _ _ _ _} _ _ _ {_ _} h := h
  inside {_} _ {_ _ _ _ _} _ _ := not_host _
  named _ _ _ := rfl
  builtin _ _ := rfl
  unspelled {_} _ {_ _} h _ := congrArg _ h
  respelled {_} _ {_ _} h _ := congrArg _ h
  seenCons h key := congrArg (key :: ·) h
  seenAlias {_} _ {_ _} h {_ _} _ := by rw [show _ = _ from h]
  seenClass {_} _ {_ _} h _ := by rw [show _ = _ from h]
  seenProvided {_} _ {_ _} h {_} hdiffer := absurd (by rw [show _ = _ from h]) hdiffer

/-! ## Restyled annotations -/

/-- Nothing that could be an enumeration is provided under a name. -/
structure Oracle.Unprovided (oracle : Oracle) (origin name : String) : Prop where
  enumeration : (origin == enumModule && enumBases.contains name) = false
  table {symbols : ModuleSymbols} (h : oracle.projectTable? origin = some symbols) :
    symbols.classes.get? name = none ∧ symbols.aliases.get? name = none ∧ symbols.imports.get? name = none

/-- A literal member is the name itself, and the module that it is written with, if that is one within a
package, is no name of the package. -/
structure BareMember (oracle : Oracle) (origin : List String) (way : Way) (e : Expr) : Prop where
  notNone : e.isName "None" = false
  value : literalValue e = .ok none
  path : dotPieces e.dottedName = way.path
  owner {package last : String} (h : owner? origin way = some (package, last)) :
    oracle.Unprovided package last

inductive RestyledMember (first second : Oracle) (origin : List String) (way way' : Way) :
    Expr → Expr → Prop
  | same {e e' : Expr} (h : SameLiteral (Renamed way way') e e') : RestyledMember first second origin way way' e e'
  | bare {e e' : Expr} (h : BareMember first origin way e) (h' : BareMember second origin way' e') :
    RestyledMember first second origin way way' e e'

/-- An annotation in which a name is written in one way, and the same annotation in which it is written in
another way. -/
inductive Restyled (first second : Oracle) (origin : List String) (way way' : Way) : Expr → Expr → Prop
  | form {e e' : Expr} (h : SameForm (Restyled first second origin way way') (Renamed way way')
      (RestyledMember first second origin way way') first.host e e') :
    Restyled first second origin way way' e e'

/-- What two hosts share reads the same in both. -/
structure ModuleSymbols.Apart (base : ModuleSymbols) (first second : Oracle) (origin : List String)
    (way way' : Way) : Prop where
  aliases {name : String} {value : Expr} (h : base.aliases.get? name = some value) :
    Restyled first second origin way way' value value
  bases {name : String} {found : ClassSymbol} (h : base.classes.get? name = some found) {parent : Expr}
    (hparent : parent ∈ found.bases) : Renamed way way' (baseName parent) (baseName parent)

section Members

variable {oracle : Oracle} {base : ModuleSymbols} {origin : List String} {name : String} {way : Way}
  {binding : ImportBinding} {seen : List Key}

/-- What is reached under a name that is not provided is no enumeration. -/
theorem not_isEnumeration_of_unprovided {package last : String} (h : oracle.Unprovided package last)
    {spelling : Option String} {depth : Nat} {r : Except Fault (Option ResolvedType)}
    (hr : (oracle.within depth).resolveExternal seen package last spelling = reached r) :
    ∃ found, r = .ok found ∧ ∀ t, found = some (.named t) → t.isEnumeration = false := by
  cases depth with
  | zero => cases hr
  | succ depth =>
    change oracle.stepExternal _ seen package last spelling = _ at hr
    unfold stepExternal at hr
    rw [h.enumeration] at hr
    dsimp only at hr
    split at hr
    · cases hr
      refine ⟨_, rfl, fun t ht => ?_⟩
      obtain hnone | ⟨builtin, -, hsome⟩ := bareSpecial_builtin last
      · rw [hnone] at ht
        cases ht
      · rw [hsome] at ht
        cases ht
        rfl
    split at hr
    · cases hr
      refine ⟨_, rfl, fun t ht => ?_⟩
      split at ht <;> cases ht
      rfl
    split at hr
    · rename_i hfalse
      cases hfalse
    have hplain : ∀ t, some (ResolvedType.named { name := last, origin := package, spelling })
        = some (.named t) → t.isEnumeration = false := by
      intro t ht
      cases ht
      rfl
    split at hr
    · cases hr
      exact ⟨_, rfl, hplain⟩
    rename_i symbols htable
    obtain ⟨hclass, halias, himport⟩ := h.table htable
    simp only [hclass, halias, himport] at hr
    split at hr
    · cases hr
      exact ⟨_, rfl, hplain⟩
    · cases hr
      exact ⟨_, rfl, hplain⟩

theorem splitMember?_concat {dotted member : String} {owner : List String} (hne : owner ≠ [])
    (h : dotPieces dotted = owner ++ [member]) : splitMember? dotted = some (joinDots owner, member) := by
  obtain ⟨last, rest, hrest⟩ := List.exists_cons_of_ne_nil (mt List.reverse_eq_nil_iff.1 hne)
  unfold splitMember?
  rw [h, List.reverse_concat, hrest]
  dsimp only
  rw [← hrest, List.reverse_reverse]

/-- A name that the import binds is looked for where the binding leads. -/
theorem Reaching.stepName_eq (h : Reaching base oracle.host origin name way binding) {next : Resolver}
    {dotted : String} {rest : List String} (hpieces : dotPieces dotted = way.bound :: rest) :
    oracle.stepName next .host seen dotted
      = (importTarget? binding rest).elim (reached (.ok none)) fun target =>
        next.resolveExternal seen target.1 target.2 (spellingOf binding.typeOnly dotted) := by
  have hclass : (oracle.symbols .host).classes.get? way.bound = none := h.classes
  have halias : bareAlias? (oracle.symbols .host) way.bound rest = none := h.notAlias rest
  have himport : (oracle.symbols .host).imports.get? way.bound = some binding := h.imports
  simp only [stepName, h.isEmpty_of_pieces hpieces, hpieces, hclass, halias, himport, Bool.false_eq_true,
    if_false]
  cases importTarget? binding rest <;> rfl

/-- What is reached of the module that the name is written with is no enumeration. -/
theorem BareMember.reached_owner {e : Expr} (he : BareMember oracle origin way e)
    (h : Reaching base oracle.host origin name way binding) (hmembers : way.members ≠ []) {depth : Nat}
    {r : Except Fault (Option ResolvedType)}
    (hr : (oracle.within depth).resolveName .host seen (joinDots (way.bound :: way.members.dropLast))
      = reached r) :
    ∃ found, r = .ok found ∧ ∀ t, found = some (.named t) → t.isEnumeration = false := by
  have hpieces : dotPieces (joinDots (way.bound :: way.members.dropLast))
      = way.bound :: way.members.dropLast := by
    refine dotPieces_joinDots_of_plain (List.cons_ne_nil _ _) fun piece hpiece => ?_
    have hmem : piece ∈ dotPieces e.dottedName := by
      rw [he.path]
      obtain rfl | hpiece := List.mem_cons.1 hpiece
      · exact List.mem_cons_self
      · exact List.mem_cons_of_mem _ (List.mem_of_mem_dropLast hpiece)
    obtain ⟨chars, hchars, rfl⟩ := List.mem_map.1 hmem
    simpa using Text.not_mem_of_mem_splitAt hchars
  cases depth with
  | zero => cases hr
  | succ depth =>
    change oracle.stepName _ .host seen _ = _ at hr
    rw [h.stepName_eq hpieces, h.leads.owner hmembers] at hr
    cases howner : owner? origin way with
    | none =>
      rw [howner] at hr
      cases hr
      exact ⟨none, rfl, fun t ht => by cases ht⟩
    | some target =>
      rw [howner] at hr
      exact not_isEnumeration_of_unprovided (he.owner howner) hr

/-- A literal member that is the name itself denotes nothing. -/
theorem BareMember.reached_none {e : Expr} (he : BareMember oracle origin way e)
    (h : Reaching base oracle.host origin name way binding) {depth : Nat}
    {r : Except Fault (Option ResolvedType)}
    (hr : stepLiteral (oracle.within depth) .host seen e = reached r) : r = .ok none := by
  unfold stepLiteral at hr
  rw [he.notNone, if_neg Bool.false_ne_true, reached_ok_bind he.value] at hr
  dsimp only at hr
  by_cases hmembers : way.members = []
  · have hsplit : splitMember? e.dottedName = none := by
      unfold splitMember?
      rw [he.path, Way.path, hmembers]
      rfl
    rw [hsplit] at hr
    cases hr
    rfl
  · have hpath : dotPieces e.dottedName
        = (way.bound :: way.members.dropLast) ++ [way.members.getLast hmembers] := by
      rw [he.path, Way.path, List.cons_append, List.dropLast_append_getLast hmembers]
    rw [splitMember?_concat (List.cons_ne_nil _ _) hpath] at hr
    dsimp only at hr
    cases hfound : (oracle.within depth).resolveName .host seen
        (joinDots (way.bound :: way.members.dropLast)) with
    | none =>
      rw [hfound] at hr
      cases hr
    | some found =>
      obtain ⟨found, rfl, hplain⟩ := he.reached_owner h hmembers hfound
      rw [hfound] at hr
      cases found with
      | none =>
        cases hr
        rfl
      | some t =>
        cases t with
        | named t =>
          change (if t.isEnumeration = true then _ else _) = _ at hr
          rw [hplain t rfl, if_neg Bool.false_ne_true] at hr
          cases hr
          rfl
        | _ =>
          cases hr
          rfl

end Members

/-! ## Hosts side by side -/

/-- Two hosts of one project that share a table and lead to one name of another module, each in its way. -/
structure Restyling (first second : Oracle) (base : ModuleSymbols) (origin : List String) (name : String)
    (way way' : Way) (binding binding' : ImportBinding) : Prop where
  project : first.project = second.project
  reaching : Reaching base first.host origin name way binding
  reaching' : Reaching base second.host origin name way' binding'
  typeOnly : binding.typeOnly = binding'.typeOnly
  apart : base.Apart first second origin way way'

/-- The answers of both hosts are the same but for spellings, within some depth. -/
structure RestyledWithin (first second : Oracle) (origin : List String) (way way' : Way) (depth : Nat) :
    Prop where
  host (seen : List Key) : Alike (Restyled first second origin way way') (Renamed way way')
    (RestyledMember first second origin way way') (ResolvedType.Respelled (Renamed way way')) .host
    seen seen (first.within depth) (second.within depth)
  provided (seen : List Key) (target : String × String) {spelling spelling' : Option String}
    (h : Option.Rel (Renamed way way') spelling spelling') :
    Agree (Option.Rel (ResolvedType.Respelled (Renamed way way')))
      ((first.within depth).resolveExternal seen target.1 target.2 spelling)
      ((second.within depth).resolveExternal seen target.1 target.2 spelling')
  isEnumClass (seen : List Key) (className : String) :
    Agree Eq ((first.within depth).isEnumClass .host seen className)
      ((second.within depth).isEnumClass .host seen className)

section Steps

variable {first second : Oracle} {base : ModuleSymbols} {origin : List String} {name : String}
  {way way' : Way} {binding binding' : ImportBinding} {seen : List Key} {depth : Nat}

theorem rel_spellingOf {S : String → String → Prop} (typeOnly : Bool) {text text' : String}
    (h : S text text') : Option.Rel S (spellingOf typeOnly text) (spellingOf typeOnly text') := by
  cases typeOnly with
  | true => exact .none
  | false => exact .some h

theorem respelled_classType {S : String → String → Prop} {symbols symbols' : ModuleSymbols}
    (hname : symbols.moduleName = symbols'.moduleName) (found : ClassSymbol)
    {spelling spelling' : Option String} (h : Option.Rel S spelling spelling') (isEnum : Bool) :
    ResolvedType.Respelled S (classType symbols found spelling isEnum)
      (classType symbols' found spelling' isEnum) := by
  unfold classType
  rw [hname]
  refine .named (.spelled { name := found.name, origin := symbols'.moduleName
                            kind := if isEnum then .enumeration else .plain
                            members := if isEnum then found.members else [] } ?_ h)
  cases isEnum <;> rfl

/-- A name of the project is provided under either spelling. -/
theorem stepExternal_respelled {S : String → String → Prop} (hproject : first.project = second.project)
    (origin name : String) {spelling spelling' : Option String} (hspelling : Option.Rel S spelling spelling') :
    Agree (Option.Rel (ResolvedType.Respelled S))
      (first.stepExternal (first.within depth) seen origin name spelling)
      (second.stepExternal (second.within depth) seen origin name spelling') := by
  have hholds := holds_elsewhere hproject
  have hinside : (elsewhere first second).Inside (.project origin) := not_host origin
  have hwithin := hholds.within depth
  have htables : first.projectTable? origin = second.projectTable? origin := hholds.projectTable? origin
  have hseen : (elsewhere first second).Seen ((origin, name) :: seen) ((origin, name) :: seen) := rfl
  have hnamed (t : NamedType) (hbuiltin : t.isBuiltin = false) :
      ResolvedType.Respelled S (.named { t with spelling }) (.named { t with spelling := spelling' }) :=
    .named (.spelled t hbuiltin hspelling)
  unfold stepExternal
  rw [htables]
  dsimp only
  split
  · obtain hnone | ⟨builtin, -, hsome⟩ := bareSpecial_builtin name
    · rw [hnone]
      exact .ok .none
    · rw [hsome]
      exact .ok (.some (.named (.builtin rfl)))
  split
  · split
    · exact .ok (.some (.named (.builtin rfl)))
    · exact .ok .none
  split
  · exact .ok (.some (hnamed { name, origin, kind := .enumeration } rfl))
  split
  · exact .ok (.some (hnamed { name, origin } rfl))
  rename_i external htable
  split
  · exact .ok (.some (hnamed { name, origin } rfl))
  split
  · rename_i found hfound
    refine (hwithin.isEnumClass hinside hseen name).bind fun isEnum _ heq => ?_
    subst heq
    exact .ok (.some (respelled_classType rfl found hspelling isEnum))
  split
  · rename_i value halias
    refine ((hwithin.alike hinside hseen).resolve ⟨rfl, trivial⟩).bind fun s? t? hst => .ok ?_
    refine rel_map hst fun s t hst => ?_
    rw [show s = t from hst]
    exact ResolvedType.respelled_unspelled t
  split
  · rename_i passed himport
    refine ((hwithin.alike hinside hseen).resolveName ⟨rfl, trivial⟩).bind fun s? t? hst => .ok ?_
    refine rel_map hst fun s t hst => ?_
    rw [show s = t from hst]
    exact respelled_respelling hspelling t
  · exact .ok (.some (hnamed { name, origin } rfl))

variable (h : Restyling first second base origin name way way' binding binding')
  (ih : RestyledWithin first second origin way way' depth)
include h ih

theorem stepName_restyled {dotted dotted' : String} (hdotted : Renamed way way' dotted dotted') :
    Agree (Option.Rel (ResolvedType.Respelled (Renamed way way')))
      (first.stepName (first.within depth) .host seen dotted)
      (second.stepName (second.within depth) .host seen dotted') := by
  cases hdotted with
  | mention nested hpath hpath' =>
    have hpieces : dotPieces dotted = way.bound :: (way.members ++ nested) := hpath
    have hpieces' : dotPieces dotted' = way'.bound :: (way'.members ++ nested) := hpath'
    rw [h.reaching.stepName_eq hpieces, h.reaching'.stepName_eq hpieces', h.reaching.leads.target,
      h.reaching'.leads.target, h.typeOnly]
    exact ih.provided seen (provided origin name nested) (rel_spellingOf _ (.mention nested hpath hpath'))
  | other hhead hhead' =>
    have hname : first.host.moduleName = second.host.moduleName :=
      h.reaching.adds.moduleName.trans h.reaching'.adds.moduleName.symm
    unfold stepName bareAlias?
    rw [show first.symbols .host = first.host from rfl, show second.symbols .host = second.host from rfl,
      h.reaching.adds.classes, h.reaching'.adds.classes, h.reaching.adds.aliases, h.reaching'.adds.aliases,
      hname]
    split
    · exact .ok .none
    split
    · exact .ok .none
    rename_i head rest hpieces
    have hplain := dotPieces_of_mem (hpieces ▸ List.mem_cons_self)
    have hspelled : Renamed way way' dotted dotted := .other hhead hhead'
    rw [hpieces] at hhead hhead'
    have hbound : head ≠ way.bound := fun heq => hhead (congrArg some heq)
    have hbound' : head ≠ way'.bound := fun heq => hhead' (congrArg some heq)
    have hfirst : Renamed way way' head head := .other (hplain ▸ hhead) (hplain ▸ hhead')
    rw [h.reaching.adds.others head hbound, h.reaching'.adds.others head hbound']
    split
    · rename_i found hfound
      split
      · refine (ih.isEnumClass seen head).bind fun isEnum _ heq => ?_
        subst heq
        exact .ok (.some (respelled_classType hname found (.some hfirst) isEnum))
      · exact .ok (.some (.named (.spelled { name := dotted, origin := second.host.moduleName } rfl
          (.some hspelled))))
    split
    · rename_i value hvalue
      split
      · exact .ok .none
      · have halias : base.aliases.get? head = some value := by
          split at hvalue
          · exact hvalue
          · cases hvalue
        exact (ih.host _).resolve (h.apart.aliases halias)
    split
    · split
      · exact ih.provided seen (_, _) (rel_spellingOf _ hspelled)
      · exact .ok .none
    split
    · exact .ok (.some (.named (.builtin rfl)))
    · exact .ok .none

theorem stepEnumClass_restyled (className : String) :
    Agree Eq (first.stepEnumClass (first.within depth) .host seen className)
      (second.stepEnumClass (second.within depth) .host seen className) := by
  have hname : first.host.moduleName = second.host.moduleName :=
    h.reaching.adds.moduleName.trans h.reaching'.adds.moduleName.symm
  unfold stepEnumClass classKey
  rw [show first.symbols .host = first.host from rfl, show second.symbols .host = second.host from rfl,
    h.reaching.adds.classes, h.reaching'.adds.classes, hname]
  split
  · exact .ok rfl
  rename_i found hfound
  split
  · exact .ok rfl
  refine .foldlM (fun isEnum _ heq parent hparent => ?_) rfl
  subst heq
  split
  · exact .ok rfl
  refine ((ih.host _).resolveName (h.apart.bases hfound hparent)).bind fun s? t? hst => ?_
  cases hst with
  | none => exact .ok rfl
  | @some s t hst =>
    cases hst with
    | named hst => exact .ok hst.isEnumeration
    | _ => exact .ok rfl

end Steps

/-- A literal member is read alike in both hosts. -/
theorem stepLiteral_restyled {first second : Oracle} {base : ModuleSymbols} {origin : List String}
    {name : String} {way way' : Way} {binding binding' : ImportBinding} {seen : List Key} {depth : Nat}
    (h : Restyling first second base origin name way way' binding binding')
    (ih : RestyledWithin first second origin way way' depth) {e e' : Expr}
    (he : RestyledMember first second origin way way' e e') :
    Agree (Option.Rel (ResolvedType.Respelled (Renamed way way')))
      (stepLiteral (first.within depth) .host seen e) (stepLiteral (second.within depth) .host seen e') := by
  cases he with
  | same he =>
    exact stepLiteral_agree (ResolvedType.built_respelled (oneToOne_renamed way way')) (ih.host seen) he
  | bare he he' =>
    intro r s hr hs
    obtain rfl := he.reached_none h.reaching hr
    obtain rfl := he'.reached_none h.reaching' hs
    exact .ok .none

theorem Restyling.within {first second : Oracle} {base : ModuleSymbols} {origin : List String}
    {name : String} {way way' : Way} {binding binding' : ImportBinding}
    (h : Restyling first second base origin name way way' binding binding') (depth : Nat) :
    RestyledWithin first second origin way way' depth := by
  have hbuilt := ResolvedType.built_respelled (oneToOne_renamed way way')
  have hspecial {dotted dotted' : String} (hdotted : Renamed way way' dotted dotted') :
      (first.symbols .host).specialForm? dotted = (second.symbols .host).specialForm? dotted' :=
    hdotted.specialForm?_eq h.reaching h.reaching'
  induction depth with
  | zero =>
    exact
      { host := fun _ => ⟨fun _ => .spent, fun _ => .spent, fun _ => .spent, fun _ => .spent⟩
        provided := fun _ _ _ _ _ => .spent
        isEnumClass := fun _ _ => .spent }
  | succ depth ih =>
    exact
      { host := fun seen =>
          { resolve := fun he => by
              cases he with
              | form he => exact stepResolve_agree hbuilt hspecial (ih.host seen) he
            resolveLiteral := fun he => stepLiteral_restyled h ih he
            resolveDotted := fun hdotted => stepDotted_agree hbuilt hspecial (ih.host seen) hdotted
            resolveName := fun hdotted => stepName_restyled h ih hdotted }
        provided := fun _ target _ _ hspelling =>
          stepExternal_respelled h.project target.1 target.2 hspelling
        isEnumClass := fun _ className => stepEnumClass_restyled h ih className }

/-- An annotation denotes the same type in both hosts, but for its spelling. -/
theorem Restyling.typeOf {first second : Oracle} {base : ModuleSymbols} {origin : List String}
    {name : String} {way way' : Way} {binding binding' : ImportBinding}
    (h : Restyling first second base origin name way way' binding binding') {e e' : Expr}
    (he : Restyled first second origin way way' e e') :
    Outcomes (Option.Rel (ResolvedType.Respelled (Renamed way way'))) (first.typeOf e)
      (second.typeOf e') := by
  let depth := first.reserve [] + second.reserve [] + e.weight + e'.weight + 6
  exact ((h.within depth).host []).resolve he _ _
    ((adequate_within first depth).resolve .host [] e (by omega))
    ((adequate_within second depth).resolve .host [] e' (by omega))

/-! ## Mentions -/

section Mentions

variable {first second : Oracle} {origin : List String} {way way' : Way} {e e' : Expr}
  (nested : List String) (he : e.IsPath (way.path ++ nested)) (he' : e'.IsPath (way'.path ++ nested))
  (hnames : ∀ piece ∈ way.path ++ nested, Text.isIdentifier piece.toList = true)
  (hnames' : ∀ piece ∈ way'.path ++ nested, Text.isIdentifier piece.toList = true)
include he he' hnames hnames'

theorem renamed_of_paths : Renamed way way' e.dottedName e'.dottedName := by
  have hpieces {e : Expr} {path : List String} (he : e.IsPath path)
      (hnames : ∀ piece ∈ path, Text.isIdentifier piece.toList = true) : dotPieces e.dottedName = path := by
    rw [he.dottedName hnames, dotPieces_joinDots he.ne_nil hnames]
  exact .mention nested (hpieces he hnames) (hpieces he' hnames')

/-- The name, and what is nested in it, is written in the one way and in the other. -/
theorem restyled_of_paths (hnone : way.path ++ nested ≠ ["None"]) (hnone' : way'.path ++ nested ≠ ["None"]) :
    Restyled first second origin way way' e e' := by
  have hreference {e : Expr} {path : List String} (he : e.IsPath path) (hnone : path ≠ ["None"]) :
      e.isReference = true := by
    cases he with
    | name text => exact bne_iff_ne.2 fun heq => hnone (by rw [heq])
    | member => rfl
  exact .form (.reference (hreference he hnone) (hreference he' hnone')
    (renamed_of_paths nested he he' hnames hnames'))

/-- A member of the name is a literal member in the one way and in the other. -/
theorem restyledMember_of_paths (hnested : nested ≠ []) : RestyledMember first second origin way way' e e' := by
  have hmember {e : Expr} {way : Way} (he : e.IsPath (way.path ++ nested))
      (hnames : ∀ piece ∈ way.path ++ nested, Text.isIdentifier piece.toList = true) :
      e.isName "None" = false ∧ literalValue e = .ok none
        ∧ splitMember? e.dottedName
          = some (joinDots (way.path ++ nested.dropLast), nested.getLast hnested) := by
    have hpieces : dotPieces e.dottedName
        = (way.path ++ nested.dropLast) ++ [nested.getLast hnested] := by
      rw [he.dottedName hnames, dotPieces_joinDots he.ne_nil hnames, List.append_assoc,
        List.dropLast_append_getLast hnested]
    refine ⟨?_, ?_, splitMember?_concat (List.cons_ne_nil _ _) hpieces⟩
    all_goals
      generalize hpath : way.path ++ nested = path at he
      cases he with
      | name text =>
        have hlength := congrArg List.length hpath
        have hpositive := List.length_pos_of_ne_nil hnested
        simp only [Way.path, List.length_append, List.length_cons, List.length_nil] at hlength
        omega
      | member => rfl
  have howner {way : Way} (hnames : ∀ piece ∈ way.path ++ nested, Text.isIdentifier piece.toList = true) :
      dotPieces (joinDots (way.path ++ nested.dropLast)) = way.path ++ nested.dropLast := by
    refine dotPieces_joinDots (List.cons_ne_nil _ _) fun piece hpiece => hnames piece ?_
    exact List.mem_append.2 ((List.mem_append.1 hpiece).imp_right List.mem_of_mem_dropLast)
  obtain ⟨hnone, hvalue, hsplit⟩ := hmember he hnames
  obtain ⟨hnone', hvalue', hsplit'⟩ := hmember he' hnames'
  refine .same ⟨hnone.trans hnone'.symm, hvalue.trans hvalue'.symm, ?_⟩
  rw [hsplit, hsplit']
  exact .some ⟨.mention _ (howner hnames) (howner hnames'), rfl⟩

end Mentions

/-! ## Modules -/

/-- Styles of import make no difference. A module that makes a name of another module available in some
way, and the same module that does so in another way, whose bound names it binds to nothing else: a name
that is written in the one way and in the other is the same special form, and an annotation denotes the
same type but for the texts that it is spelled by, however often and however deep the name is mentioned, as
a literal member by itself only if the module it is written with is no name of the package around it. -/
theorem import_style_transparent (project : Option ProjectIndex) {source source' : Module}
    {moduleName name : String} {isPackage typeOnly : Bool} {before after : List ModulePart}
    {origin : List String} {way way' : Way} {base first second : ModuleSymbols}
    (hsource : source.ImportsBetween before after typeOnly origin name way)
    (hsource' : source'.ImportsBetween before after typeOnly origin name way')
    (hbase : collectParts moduleName isPackage (before ++ after) = .ok base)
    (hfirst : ModuleSymbols.collect source moduleName isPackage = .ok first)
    (hsecond : ModuleSymbols.collect source' moduleName isPackage = .ok second)
    (hfree : base.IsFree way.bound) (hfree' : base.IsFree way'.bound)
    (hapart : base.Apart { host := first, project } { host := second, project } origin way way') :
    (∀ e e', Renamed way way' e.dottedName e'.dottedName →
        ({ host := first, project } : Oracle).specialForm? e
          = ({ host := second, project } : Oracle).specialForm? e')
      ∧ ∀ e e', Restyled { host := first, project } { host := second, project } origin way way' e e' →
        Option.map ResolvedType.unspelled <$> ({ host := first, project } : Oracle).typeOf e
          = Option.map ResolvedType.unspelled <$> ({ host := second, project } : Oracle).typeOf e' := by
  obtain ⟨binding, htype, hleads, hadds⟩ := hsource.exists_adds hbase hfirst
  obtain ⟨binding', htype', hleads', hadds'⟩ := hsource'.exists_adds hbase hsecond
  have hreaching : Reaching base first origin name way binding := ⟨hadds, hleads, hfree⟩
  have hreaching' : Reaching base second origin name way' binding' := ⟨hadds', hleads', hfree'⟩
  have hrestyling : Restyling { host := first, project } { host := second, project } base origin name way
      way' binding binding' := ⟨rfl, hreaching, hreaching', htype.trans htype'.symm, hapart⟩
  refine ⟨fun e e' he => he.specialForm?_eq hreaching hreaching', fun e e' he => ?_⟩
  have houtcomes := hrestyling.typeOf he
  generalize ({ host := first, project } : Oracle).typeOf e = found at houtcomes
  generalize ({ host := second, project } : Oracle).typeOf e' = found' at houtcomes
  cases houtcomes with
  | fault => rfl
  | ok hrel =>
    cases hrel with
    | none => rfl
    | some hrel => exact congrArg (fun t => Except.ok (some t)) (ResolvedType.Respelled.unspelled_eq _ hrel)

namespace Styles

/-- `from origin import name` -/
def taking (origin name : String) : Small :=
  .importFrom [] (some (Gap.space, .name origin)) Gap.space (.plain [⟨Gap.space, .name name, none, none⟩])

/-- `import path`, perhaps under another name -/
def importing (path : Expr) (bound : Option String) : Small :=
  .importModules [⟨Gap.space, path, bound.map fun bound => (Gap.space, Gap.space, bound), none⟩]

def lineOf (small : Small) : ModulePart := .line false ⟨[⟨small, none⟩], {}⟩

/-- A module that imports `Literal` and some other name. -/
def source (small : Small) : Module where
  body := [.ofSmall (taking "typing" "Literal"), .ofSmall small]

def host (imports : List (String × ImportBinding)) : ModuleSymbols where
  moduleName := "m"
  imports := ⟨("Literal", { origin := "typing", imported := some "Literal" }) :: imports⟩

theorem importsBetween {small : Small} {origin : List String} {name : String} {way : Way}
    (h : small.Brings origin name way)
    (horigin : ∀ piece ∈ origin, Text.isIdentifier piece.toList = true) :
    (source small).ImportsBetween [lineOf (taking "typing" "Literal")] [] false origin name way where
  parts := ⟨_, _, rfl, rfl, h⟩
  origin := horigin

theorem collect_base : collectParts "m" false ([lineOf (taking "typing" "Literal")] ++ []) = .ok (host []) := by
  cbv

theorem apart (first second : Oracle) (origin : List String) (way way' : Way) :
    (host []).Apart first second origin way way' where
  aliases h := by cases h
  bases h := by cases h

/-- `class Color(Enum)` with the member `RED` -/
def shapes : ModuleSymbols where
  moduleName := "shapes"
  imports := ⟨[("Enum", { origin := "enum", imported := some "Enum" })]⟩
  classes := ⟨[("Color", { name := "Color", bases := [.name "Enum"], members := ["RED"] })]⟩

def project : ProjectIndex := [shapes].foldl ProjectIndex.add {}

def ofColor : Oracle where
  host := host [("Color", { origin := "shapes", imported := some "Color" })]
  project := some project

def ofShapes : Oracle where
  host := host [("s", { origin := "shapes" })]
  project := some project

def subscript (owner index : Expr) : Expr := .subscript owner [] [.mk [] (.value index) none] []

/-- `list[color] | Literal[color.RED]` -/
def typeHint (color : Expr) : Expr :=
  .binary (subscript (.name "list") color) Gap.space "|" Gap.space
    (subscript (.name "Literal") (color.member "RED"))

theorem restyled_other (text : String) (hnone : (text != "None") = true)
    (hcolor : (dotPieces text).head? ≠ some "Color") (hshapes : (dotPieces text).head? ≠ some "s") :
    Restyled ofColor ofShapes ["shapes"] ⟨"Color", []⟩ ⟨"s", ["Color"]⟩ (.name text) (.name text) :=
  .form (.reference hnone hnone (.other hcolor hshapes))

theorem restyled : Restyled ofColor ofShapes ["shapes"] ⟨"Color", []⟩ ⟨"s", ["Color"]⟩
    (typeHint (.name "Color")) (typeHint ((Expr.name "s").member "Color")) := by
  have hcolor : Restyled ofColor ofShapes ["shapes"] ⟨"Color", []⟩ ⟨"s", ["Color"]⟩ (.name "Color")
      ((Expr.name "s").member "Color") :=
    restyled_of_paths [] (.name "Color") (.member (.name "s") [] [] "Color") (by decide)
      (by decide) (by decide) (by decide)
  have hmember : RestyledMember ofColor ofShapes ["shapes"] ⟨"Color", []⟩ ⟨"s", ["Color"]⟩
      ((Expr.name "Color").member "RED") (((Expr.name "s").member "Color").member "RED") :=
    restyledMember_of_paths ["RED"] (.member (.name "Color") [] [] "RED")
      (.member (.member (.name "s") [] [] "Color") [] [] "RED") (by decide) (by decide) (by decide)
  have hlist := restyled_other "list" rfl (by decide) (by decide)
  refine .form (.bar (.form (.subscript hlist (.other (by decide) (by decide)) (by decide)
    (.cons hcolor .nil) (.cons (by simp [Expr.bare, Expr.member]) .nil)))
    (.form (.literal (.other (by decide) (by decide)) (by decide) (.cons hmember .nil))))

def color (spelling : String) : NamedType where
  name := "Color"
  origin := "shapes"
  spelling := some spelling
  kind := .enumeration
  members := ["RED"]

theorem typeOf_color : ofColor.typeOf (typeHint (.name "Color"))
    = .ok (some (.union [.array (.named (color "Color")), .enumMember (color "Color") "RED"])) := by
  have hanswer := (adequate_within ofColor 100).resolve .host [] (typeHint (.name "Color")) (by decide)
  exact (Option.some.inj hanswer).symm

end Styles

theorem import_style_transparent_of_color :
    Styles.ofColor.specialForm? (.name "Color")
        = Styles.ofShapes.specialForm? ((Expr.name "s").member "Color")
      ∧ Option.map ResolvedType.unspelled <$> Styles.ofColor.typeOf (Styles.typeHint (.name "Color"))
        = Option.map ResolvedType.unspelled
          <$> Styles.ofShapes.typeOf (Styles.typeHint ((Expr.name "s").member "Color"))
      ∧ Styles.ofColor.typeOf (Styles.typeHint (.name "Color")) = .ok (some (.union
        [.array (.named (Styles.color "Color")), .enumMember (Styles.color "Color") "RED"])) := by
  have hfirst : ModuleSymbols.collect (Styles.source (Styles.taking "shapes" "Color")) "m" false
      = .ok Styles.ofColor.host := by cbv
  have hsecond : ModuleSymbols.collect (Styles.source (Styles.importing (.name "shapes") (some "s"))) "m" false
      = .ok Styles.ofShapes.host := by cbv
  have h := import_style_transparent (some Styles.project)
    (Styles.importsBetween (.taken (.name "shapes") rfl rfl rfl) (by decide))
    (Styles.importsBetween (.withinAs (.name "shapes") rfl) (by decide)) Styles.collect_base hfirst hsecond
    ⟨by decide, rfl, rfl, by decide⟩ ⟨by decide, rfl, rfl, by decide⟩ (Styles.apart _ _ _ _ _)
  refine ⟨h.1 _ _ ?_, h.2 _ _ Styles.restyled, Styles.typeOf_color⟩
  exact renamed_of_paths [] (.name "Color") (.member (.name "s") [] [] "Color") (by decide) (by decide)

namespace Styles

/-- A package with an enumeration `b` that has a member `N`. -/
def package : ModuleSymbols where
  moduleName := "a"
  isPackage := true
  imports := ⟨[("Enum", { origin := "enum", imported := some "Enum" })]⟩
  classes := ⟨[("b", { name := "b", bases := [.name "Enum"], members := ["N"] })]⟩

/-- The module `b` of the package: `N = int` -/
def inner : ModuleSymbols where
  moduleName := "a.b"
  aliases := ⟨[("N", .name "int")]⟩

def packages : ProjectIndex := [package, inner].foldl ProjectIndex.add {}

/-- `import a.b` -/
def ofPackage : Oracle where
  host := host [("a", { origin := "a" })]
  project := some packages

/-- `import a.b as m` -/
def ofModule : Oracle where
  host := host [("m", { origin := "a.b" })]
  project := some packages

/-- `a.b` -/
def path : Expr := (Expr.name "a").member "b"

theorem brings_path : (importing path none).Brings ["a", "b"] "N" ⟨"a", ["b", "N"]⟩ := by
  have horigin : ["a", "b"] = "a" :: ["b"] := rfl
  exact .within horigin (.member (.name "a") [] [] "b") rfl

theorem brings_module : (importing path (some "m")).Brings ["a", "b"] "N" ⟨"m", ["N"]⟩ :=
  .withinAs (.member (.name "a") [] [] "b") rfl

/-- `Literal[owner.N]` -/
def literalOf (owner : Expr) : Expr := subscript (.name "Literal") (owner.member "N")

def member : ResolvedType :=
  .enumMember { name := "b", origin := "a", spelling := some "a.b", kind := .enumeration, members := ["N"] } "N"

theorem typeOf_path : ofPackage.typeOf (literalOf path) = .ok (some member) := by
  have hanswer := (adequate_within ofPackage 100).resolve .host [] (literalOf path) (by decide)
  exact (Option.some.inj hanswer).symm

theorem typeOf_module : ofModule.typeOf (literalOf (.name "m")) = .ok none := by
  have hanswer := (adequate_within ofModule 100).resolve .host [] (literalOf (.name "m")) (by decide)
  exact (Option.some.inj hanswer).symm

end Styles

/-- A module that is imported by its dotted name is taken for an enumeration of the package around it, if
the package has one of that name: a literal member that is a name of the module is one of the enumeration. -/
theorem import_style_visible :
    (Styles.source (Styles.importing Styles.path none)).ImportsBetween
        [Styles.lineOf (Styles.taking "typing" "Literal")] [] false ["a", "b"] "N" ⟨"a", ["b", "N"]⟩
      ∧ (Styles.source (Styles.importing Styles.path (some "m"))).ImportsBetween
        [Styles.lineOf (Styles.taking "typing" "Literal")] [] false ["a", "b"] "N" ⟨"m", ["N"]⟩
      ∧ ModuleSymbols.collect (Styles.source (Styles.importing Styles.path none)) "m" false
        = .ok Styles.ofPackage.host
      ∧ ModuleSymbols.collect (Styles.source (Styles.importing Styles.path (some "m"))) "m" false
        = .ok Styles.ofModule.host
      ∧ Styles.ofPackage.typeOf (Styles.literalOf Styles.path) = .ok (some Styles.member)
      ∧ Styles.ofModule.typeOf (Styles.literalOf (.name "m")) = .ok none :=
  ⟨Styles.importsBetween Styles.brings_path (by decide),
    Styles.importsBetween Styles.brings_module (by decide), by cbv, by cbv, Styles.typeOf_path,
    Styles.typeOf_module⟩

end ModelMetadata
