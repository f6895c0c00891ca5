import ModelMetadata.Proofs.FreeNames
import ModelMetadata.Proofs.Producing

/-!
What annotations hand on. A property that every expression hands on to its parts, and a quoted annotation
to what stands in its quotes, is one of all that is found in an annotation: the type under its wrappers,
its markers, the members of its inline shape and the branches of its union.
-/
set_option autoImplicit false
namespace ModelMetadata

open Source

/-- What expressions hand on to their parts, and a string to the expression that it quotes. -/
structure HandedOn (Good : Expr → Prop) : Prop where
  part {e part : Expr} (he : Good e) (hpart : part ∈ e.parts) : Good part
  quoted {e inner : Expr} {text : String} (he : Good e) (htext : stringValue e = .ok (some text))
    (hinner : Expr.parse (Text.trimmed text) = .ok inner) : Good inner
  null : Good impliedNone

namespace HandedOn

variable {Good : Expr → Prop} (h : HandedOn Good) {e : Expr} (he : Good e)
include h he

/-! ## Parts -/

theorem bare : Good e.bare := by
  fun_induction Expr.bare e with
  | case1 before inner close ih => exact ih (h.part he (List.mem_singleton_self _))
  | case2 => exact he

theorem quoted? {text : String} (htext : stringValue e = .ok (some text))
    {inner : { e' : Expr // e'.weight < e.weight }}
    (hinner : Oracle.quoted? e text = .ok (some inner)) : Good inner.val := by
  unfold Oracle.quoted? at hinner
  split at hinner
  · rename_i found hparse
    split at hinner
    · cases hinner
      exact h.quoted he htext hparse
    · cases hinner
  · cases hinner
  · cases hinner

theorem indexed? {owner : Expr} {first : { e' : Expr // e'.weight < e.weight }} {rest : List Expr}
    (hindexed : e.indexed? = some (owner, first, rest)) :
    Good first.val ∧ ∀ index ∈ rest, Good index := by
  unfold Expr.indexed? at hindexed
  split at hindexed
  · rename_i found before entries close hbare
    have hsubscript : Good (.subscript found before entries close) := hbare ▸ h.bare he
    have hindex : ∀ index ∈ Entry.indices entries, Good index := fun index hindex =>
      h.part hsubscript (List.mem_cons_of_mem _ (Entry.mem_exprs_of_mem_indices hindex))
    split at hindexed
    · cases hindexed
    · rename_i first rest hindices
      rw [hindices, List.forall_mem_cons] at hindex
      cases hindexed
      exact hindex
  · cases hindexed

theorem dictEntries? {entries : List Entry} (hentries : e.dictEntries? = some entries) :
    ∀ part ∈ Entry.exprs entries, Good part := by
  unfold Expr.dictEntries? at hentries
  split at hentries
  · rename_i close hbare
    cases hentries
    have hdict : Good (.dict entries close) := hbare ▸ h.bare he
    exact fun part hpart => h.part hdict hpart
  · cases hentries

theorem arguments : ∀ argument ∈ Entry.exprs e.arguments, Good argument := by
  unfold Expr.arguments
  split
  · rename_i callee before entries close hbare
    have hcall : Good (.call callee before entries close) := hbare ▸ h.bare he
    exact fun argument hargument => h.part hcall (List.mem_cons_of_mem _ hargument)
  · exact fun argument hargument => nomatch hargument

theorem positionalArgument {argument : Expr} (hargument : argument ∈ e.positionalArguments) :
    Good argument :=
  h.arguments he argument (Entry.mem_exprs_of_mem_positional hargument)

theorem keywordArgument {keyword : String × Expr} (hkeyword : keyword ∈ e.keywordArguments) :
    Good keyword.2 :=
  h.arguments he keyword.2 (Entry.mem_exprs_of_mem_keywords hkeyword)

/-! ## Layers -/

omit he in
/-- The type under the wrappers of an annotation, and the markers that the wrappers hold. -/
theorem unwrapFrom {oracle : Oracle} {found result : Unwrapped}
    (hunwrap : unwrapFrom oracle found = .ok result) (htype : Good found.type)
    (hmarkers : ∀ marker ∈ found.markers, Good marker) :
    Good result.type ∧ ∀ marker ∈ result.markers, Good marker := by
  induction hn : found.type.weight using Nat.strongRecOn generalizing found with
  | ind n ih =>
    subst hn
    rw [ModelMetadata.unwrapFrom] at hunwrap
    obtain ⟨text?, htext, hunwrap⟩ := bind_eq_ok.1 hunwrap
    cases text? with
    | some text =>
      obtain ⟨inner?, hinner, hunwrap⟩ := bind_eq_ok.1 hunwrap
      cases inner? with
      | some inner =>
        exact ih _ inner.property hunwrap (h.quoted? htype htext hinner) hmarkers rfl
      | none =>
        cases hunwrap
        exact ⟨htype, hmarkers⟩
    | none =>
      dsimp only at hunwrap
      split at hunwrap
      · rename_i owner first hlt metadata hindexed
        obtain ⟨hfirst, hmetadata⟩ := h.indexed? htype hindexed
        split at hunwrap
        · rename_i layer hlayer
          have hall : ∀ marker ∈ layer.markers, Good marker := by
            unfold Unwrapped.wrappedBy? at hlayer
            split_ifs at hlayer <;> cases hlayer
            · exact List.forall_mem_append.2 ⟨hmarkers, hmetadata⟩
            all_goals exact hmarkers
          exact ih _ hlt hunwrap hfirst hall rfl
        · cases hunwrap
          exact ⟨htype, hmarkers⟩
      · split at hunwrap <;> cases hunwrap <;> exact ⟨htype, hmarkers⟩

theorem unwrap {oracle : Oracle} {found : Unwrapped} (hunwrap : oracle.unwrap e = .ok found) :
    Good found.type ∧ ∀ marker ∈ found.markers, Good marker :=
  h.unwrapFrom hunwrap he fun _ hmarker => nomatch hmarker

theorem core {oracle : Oracle} {core : Expr} (hcore : oracle.core e = .ok core) : Good core := by
  induction hn : e.weight using Nat.strongRecOn generalizing e with
  | ind n ih =>
    subst hn
    rw [Oracle.core] at hcore
    obtain ⟨text?, htext, hcore⟩ := bind_eq_ok.1 hcore
    cases text? with
    | some text =>
      obtain ⟨inner?, hinner, hcore⟩ := bind_eq_ok.1 hcore
      cases inner? with
      | some inner => exact ih _ inner.property (h.quoted? he htext hinner) hcore rfl
      | none =>
        cases hcore
        exact he
    | none =>
      dsimp only at hcore
      split at hcore
      · rename_i owner first hlt metadata hindexed
        split at hcore
        · exact ih _ hlt (h.indexed? he hindexed).1 hcore rfl
        · cases hcore
          exact he
      · cases hcore
        exact he

/-! ## Members -/

omit h he in
theorem shapeMembers {optionalByDefault : Bool} {entries : List Entry}
    (hentries : ∀ e ∈ Entry.exprs entries, Good e) {members : List Declaration}
    (hmembers : shapeMembers optionalByDefault entries = .ok members) :
    ∀ member ∈ members, Good member.typeHint ∧ member.value = none := by
  fun_induction ModelMetadata.shapeMembers optionalByDefault entries generalizing members with
  | case1 =>
    cases hmembers
    exact List.forall_mem_nil _
  | case2 before key beforeColon afterColon e comma rest ih =>
    obtain ⟨name, hname, hmembers⟩ := bind_eq_ok.1 hmembers
    obtain ⟨others, hothers, hmembers⟩ := bind_eq_ok.1 hmembers
    cases hmembers
    rw [Entry.exprs, List.flatMap_cons, List.forall_mem_append] at hentries
    have he : Good e := hentries.1 e (List.mem_cons_of_mem _ (List.mem_singleton_self e))
    exact List.forall_mem_cons.2 ⟨⟨he, rfl⟩, ih hentries.2 hothers⟩
  | case3 entry rest _ ih =>
    rw [Entry.exprs, List.flatMap_cons, List.forall_mem_append] at hentries
    exact ih hentries.2 hmembers

omit he in
theorem fieldsDisplay? {arguments entries : List Entry}
    (harguments : ∀ e ∈ Entry.exprs arguments, Good e)
    (hfields : fieldsDisplay? arguments = some entries) : ∀ e ∈ Entry.exprs entries, Good e := by
  unfold ModelMetadata.fieldsDisplay? at hfields
  rcases Option.or_eq_some_iff.1 hfields with hfields | ⟨_, hfields⟩
  · obtain ⟨⟨name, e⟩, hmem, hfields⟩ := List.mem_filterMap.1 (List.mem_of_getLast? hfields)
    dsimp only at hfields
    split at hfields
    · exact h.dictEntries? (harguments e (Entry.mem_exprs_of_mem_keywords hmem)) hfields
    · cases hfields
  · obtain ⟨e, hmem, hfields⟩ := Option.bind_eq_some_iff.1 hfields
    have hindex := Entry.mem_exprs_of_mem_indices (List.mem_of_getElem? hmem)
    exact h.dictEntries? (harguments e hindex) hfields

omit he in
theorem typedDictMembers {arguments : List Entry} (harguments : ∀ e ∈ Entry.exprs arguments, Good e)
    {members : List Declaration} (hmembers : typedDictMembers arguments = .ok members) :
    ∀ member ∈ members, Good member.typeHint ∧ member.value = none := by
  obtain ⟨total, -, hmembers⟩ := bind_eq_ok.1 hmembers
  split at hmembers
  · rename_i entries hentries
    exact shapeMembers (h.fieldsDisplay? harguments hentries) hmembers
  · cases hmembers
    exact fun _ => nofun

/-! ## Branches -/

theorem unionParts? {oracle : Oracle} {parts : List Expr} {implied : Bool}
    (hparts : unionParts? oracle e = some (parts, implied)) : ∀ part ∈ parts, Good part := by
  unfold ModelMetadata.unionParts? at hparts
  split at hparts
  · rename_i left before after right hbare
    cases hparts
    have hbar : Good (.binary left before "|" after right) := hbare ▸ h.bare he
    exact fun part hpart => h.part hbar hpart
  · rename_i owner before entries close hbare
    have hsubscript : Good (.subscript owner before entries close) := hbare ▸ h.bare he
    have hindex : ∀ part ∈ Entry.indices entries, Good part := fun part hpart =>
      h.part hsubscript (List.mem_cons_of_mem _ (Entry.mem_exprs_of_mem_indices hpart))
    dsimp only at hparts
    split at hparts
    · split at hparts <;> cases hparts
      exact hindex
    · split at hparts <;> cases hparts
      exact hindex
    · cases hparts
  · cases hparts

theorem unionBranches {oracle : Oracle} : ∀ branch ∈ unionBranches oracle e, Good branch := by
  induction hn : e.weight using Nat.strongRecOn generalizing e with
  | ind n ih =>
    subst hn
    intro branch hbranch
    rw [ModelMetadata.unionBranches] at hbranch
    split at hbranch
    · rw [List.mem_singleton.1 hbranch]
      exact he
    · rename_i parts implied hparts
      rcases List.mem_append.1 hbranch with hbranch | hbranch
      · obtain ⟨⟨part, hpart⟩, -, hbranch⟩ := List.mem_flatMap.1 hbranch
        exact ih _ (weight_lt_of_unionParts hparts hpart) (h.unionParts? he hparts part hpart) rfl branch
          hbranch
      · split at hbranch
        · rw [List.mem_singleton.1 hbranch]
          exact h.null
        · cases hbranch

/-! ## Shapes -/

/-- The members of an inline shape have no defaults of their own. -/
theorem inline {oracle : Oracle} {members : List Declaration}
    (hshape : oracle.shape e = .ok (.inline members)) :
    ∀ member ∈ members, Good member.typeHint ∧ member.value = none := by
  obtain ⟨core, hcore, hshape⟩ := bind_eq_ok.1 hshape
  have hgood := h.core he hcore
  unfold Oracle.coreShape at hshape
  split at hshape
  · rename_i entries hentries
    obtain ⟨found, hmembers, hshape⟩ := bind_eq_ok.1 hshape
    cases hshape
    exact shapeMembers (h.dictEntries? hgood hentries) hmembers
  split at hshape
  · obtain ⟨found, hmembers, hshape⟩ := bind_eq_ok.1 hshape
    cases hshape
    exact h.typedDictMembers (h.arguments hgood) hmembers
  split at hshape <;> cases hshape

theorem shape {oracle : Oracle} {shape : AnnotationShape} (hshape : oracle.shape e = .ok shape) :
    shape.All Good := by
  cases shape with
  | inline members => exact fun member hmember => (h.inline he hshape member hmember).1
  | union branches =>
    obtain ⟨core, hcore, hshape⟩ := bind_eq_ok.1 hshape
    unfold Oracle.coreShape at hshape
    split at hshape
    · obtain ⟨members, -, hshape⟩ := bind_eq_ok.1 hshape
      cases hshape
    split at hshape
    · obtain ⟨members, -, hshape⟩ := bind_eq_ok.1 hshape
      cases hshape
    split at hshape
    · cases hshape
      exact h.unionBranches (h.core he hcore)
    · cases hshape
  | named e' =>
    obtain ⟨core, hcore, hshape⟩ := bind_eq_ok.1 hshape
    unfold Oracle.coreShape at hshape
    split at hshape
    · obtain ⟨members, -, hshape⟩ := bind_eq_ok.1 hshape
      cases hshape
    split at hshape
    · obtain ⟨members, -, hshape⟩ := bind_eq_ok.1 hshape
      cases hshape
    split at hshape
    · cases hshape
    · cases hshape
      exact h.core he hcore

end HandedOn

end ModelMetadata
