import ModelMetadata.Proofs.Comparing
import ModelMetadata.Proofs.NamedTypes

/-!
Names of what the oracle answers. A resolver whose answers are well named gives well named answers one
call further, so all that is reached within some depth is well named, and with it what the oracle finds.
The layers that are taken off an annotation leave annotations that hold no other names.
-/
set_option autoImplicit false
namespace ModelMetadata

open Source Oracle

structure Oracle.WellNamed (oracle : Oracle) : Prop where
  host : oracle.host.WellNamed
  project {moduleName : String} {symbols : ModuleSymbols}
    (h : oracle.projectTable? moduleName = some symbols) : symbols.WellNamed

theorem Oracle.WellNamed.symbols {oracle : Oracle} (h : oracle.WellNamed) (scope : Scope) :
    (oracle.symbols scope).WellNamed := by
  cases scope with
  | host => exact h.host
  | project moduleName =>
    cases htable : oracle.projectTable? moduleName with
    | none =>
      simp only [Oracle.symbols, htable, Option.getD_none]
      exact .empty moduleName false
    | some symbols =>
      simp only [Oracle.symbols, htable, Option.getD_some]
      exact h.project htable

/-! ## Answers -/

structure Resolver.WellNamed (next : Resolver) : Prop where
  resolve {scope : Scope} {seen : List Key} {e : Expr} {t : ResolvedType} (he : e.WellNamed)
    (h : next.resolve scope seen e = reached (.ok (some t))) : t.WellNamed
  resolveLiteral {scope : Scope} {seen : List Key} {e : Expr} {t : ResolvedType} (he : e.WellNamed)
    (h : next.resolveLiteral scope seen e = reached (.ok (some t))) : t.WellNamed
  resolveDotted {scope : Scope} {seen : List Key} {dotted : String} {t : ResolvedType}
    (hdotted : dotted ≠ "" → IsDottedName dotted)
    (h : next.resolveDotted scope seen dotted = reached (.ok (some t))) : t.WellNamed
  resolveName {scope : Scope} {seen : List Key} {dotted : String} {t : ResolvedType}
    (hdotted : dotted ≠ "" → IsDottedName dotted)
    (h : next.resolveName scope seen dotted = reached (.ok (some t))) : t.WellNamed
  resolveExternal {seen : List Key} {origin name : String} {spelling : Option String}
    {t : ResolvedType} (hname : IsDottedName name)
    (h : next.resolveExternal seen origin name spelling = reached (.ok (some t))) : t.WellNamed

/-- Some names of a dotted name, joined again. -/
theorem IsDottedName.ofSublist {dotted : String} (h : IsDottedName dotted) {pieces : List String}
    (hne : pieces ≠ []) (hpieces : pieces ⊆ dotPieces dotted) : IsDottedName (joinDots pieces) :=
  .ofPieces hne fun _ hpiece => h.isIdentifier_of_mem (hpieces hpiece)

theorem isDottedName_of_importTarget? {symbols : ModuleSymbols} (h : symbols.WellNamed)
    {head : String} {binding : ImportBinding} (hbinding : symbols.imports.get? head = some binding)
    {rest : List String} (hrest : ∀ piece ∈ rest, Text.isIdentifier piece.toList = true)
    {origin name : String} (htarget : importTarget? binding rest = some (origin, name)) :
    IsDottedName name := by
  unfold importTarget? at htarget
  split at htarget
  · cases htarget
  · rename_i hlast
    cases htarget
    exact .ofIdentifier (hrest _ (List.mem_of_getLast? hlast))
  · rename_i himported hlast
    cases htarget
    exact h.imports hbinding himported
  · rename_i himported hlast
    cases htarget
    exact .ofIdentifier (hrest _ (List.mem_of_getLast? hlast))

theorem isDottedName_of_splitMember? {e : Expr} (he : e.WellNamed) {owner member : String}
    (h : splitMember? e.dottedName = some (owner, member)) : owner ≠ "" → IsDottedName owner := by
  intro _
  unfold splitMember? at h
  split at h
  · rename_i last next rest hpieces
    cases h
    have hne : e.dottedName ≠ "" := by
      intro hempty
      rw [hempty, show dotPieces "" = [""] by decide] at hpieces
      cases hpieces
    refine (he.isDottedName hne).ofSublist (by simp) fun piece hpiece => ?_
    rw [← List.mem_reverse, hpieces]
    exact List.mem_cons_of_mem _ (List.mem_reverse.1 hpiece)
  · cases h

theorem wellNamed_of_quotedIn? {text : String} {inner : Expr}
    (h : quotedIn? text = .ok (some inner)) : inner.WellNamed := by
  unfold quotedIn? at h
  split at h
  · rename_i hparse
    cases h
    exact .of_parse hparse
  · cases h
  · cases h

def namedInputs : Inputs where
  Good := Expr.WellNamed
  GoodName dotted := dotted ≠ "" → IsDottedName dotted
  paren h := h.part _ (List.mem_singleton_self _)
  operands h := ⟨h.part _ List.mem_cons_self, h.part _ (List.mem_cons_of_mem _ (List.mem_singleton_self _))⟩
  subscript h := ⟨h.part _ List.mem_cons_self, fun _ hmember =>
    h.part _ (List.mem_cons_of_mem _ (Entry.mem_exprs_of_mem_indices hmember))⟩
  callee h := h.part _ List.mem_cons_self
  quoted := wellNamed_of_quotedIn?
  dottedName h := h.isDottedName
  owner h := isDottedName_of_splitMember? h

theorem built_wellNamed : Built fun s t => s = t ∧ s.WellNamed := by
  simp only [ResolvedType.wellNamed_iff_each]
  exact built_each (fun _ => .of_builtin) fun _ => .of_builtin

/-- A resolver whose answers are well named is compared with itself. -/
theorem Resolver.WellNamed.alike {next : Resolver} (h : next.WellNamed) (scope : Scope) (seen : List Key) :
    Alike namedInputs.Same namedInputs.SameName namedInputs.Same (fun s t => s = t ∧ s.WellNamed) scope
      seen seen next next where
  resolve he := he.1 ▸ .refl fun _ ht => rel_self fun _ heq => ⟨rfl, h.resolve he.2 (heq ▸ ht)⟩
  resolveLiteral he :=
    he.1 ▸ .refl fun _ ht => rel_self fun _ heq => ⟨rfl, h.resolveLiteral he.2 (heq ▸ ht)⟩
  resolveDotted hdotted :=
    hdotted.1 ▸ .refl fun _ ht => rel_self fun _ heq => ⟨rfl, h.resolveDotted hdotted.2 (heq ▸ ht)⟩
  resolveName hdotted :=
    hdotted.1 ▸ .refl fun _ ht => rel_self fun _ heq => ⟨rfl, h.resolveName hdotted.2 (heq ▸ ht)⟩

theorem wellNamed_of_agree {x : Attempt (Option ResolvedType)}
    (h : Agree (Option.Rel fun s t => s = t ∧ s.WellNamed) x x) {t : ResolvedType}
    (hx : x = reached (.ok (some t))) : t.WellNamed := by
  cases h _ _ hx hx with
  | ok hrel =>
    cases hrel with
    | some hst => exact hst.2

theorem wellNamed_classType {symbols : ModuleSymbols} {found : ClassSymbol}
    (hname : Text.isIdentifier found.name.toList = true) (spelling : Option String) (isEnum : Bool) :
    (classType symbols found spelling isEnum).WellNamed := by
  refine .named (.of_name ?_ (.ofIdentifier hname))
  cases isEnum <;> rfl

section Step

variable {oracle : Oracle} (horacle : oracle.WellNamed) {next : Resolver} (h : next.WellNamed)
include horacle h

theorem stepName_wellNamed {scope : Scope} {seen : List Key} {dotted : String} {t : ResolvedType}
    (hdotted : dotted ≠ "" → IsDottedName dotted)
    (hstep : oracle.stepName next scope seen dotted = reached (.ok (some t))) : t.WellNamed := by
  unfold stepName at hstep
  split at hstep
  · cases hstep
  rename_i hempty
  have hname := hdotted (by simpa using hempty)
  split at hstep
  · cases hstep
  rename_i head rest hpieces
  have hrest : ∀ piece ∈ rest, Text.isIdentifier piece.toList = true := fun piece hpiece =>
    hname.isIdentifier_of_mem (hpieces ▸ List.mem_cons_of_mem head hpiece)
  have hsymbols := horacle.symbols scope
  split at hstep
  · rename_i found hfound
    split at hstep
    · obtain ⟨isEnum, hisEnum, hstep⟩ := reached_bind_eq_ok hstep
      cases hstep
      exact wellNamed_classType (hsymbols.classes hfound) _ _
    · cases hstep
      exact .named (.of_name rfl hname)
  split at hstep
  · rename_i value hvalue
    split at hstep
    · cases hstep
    · exact h.resolve (hsymbols.aliases (get?_of_bareAlias? hvalue)) hstep
  split at hstep
  · rename_i binding himport
    split at hstep
    · rename_i origin name htarget
      exact h.resolveExternal (isDottedName_of_importTarget? hsymbols himport hrest htarget) hstep
    · cases hstep
  · split at hstep
    · rename_i hbuiltin
      cases hstep
      exact .builtin (List.contains_iff_mem.1 (Bool.and_eq_true_iff.1 hbuiltin).2)
    · cases hstep

theorem stepExternal_wellNamed {seen : List Key} {origin name : String} {spelling : Option String}
    {t : ResolvedType} (hname : IsDottedName name)
    (hstep : oracle.stepExternal next seen origin name spelling = reached (.ok (some t))) :
    t.WellNamed := by
  unfold stepExternal at hstep
  dsimp only at hstep
  have hunknown (kind : TypeKind) (hkind : kind ≠ .builtin) :
      (ResolvedType.named { name, origin, spelling, kind }).WellNamed :=
    .named (.of_name (by simpa [NamedType.isBuiltin] using hkind) hname)
  split at hstep
  · exact wellNamed_bareSpecial (Except.ok.inj (Option.some.inj hstep))
  split at hstep
  · have hbuiltin := Except.ok.inj (Option.some.inj hstep)
    split at hbuiltin
    · rename_i hmem
      cases hbuiltin
      exact .builtin (List.contains_iff_mem.1 hmem)
    · cases hbuiltin
  split at hstep
  · cases hstep
    exact hunknown .enumeration nofun
  split at hstep
  · cases hstep
    exact hunknown .plain nofun
  rename_i external htable
  have hsymbols := horacle.project htable
  split at hstep
  · cases hstep
    exact hunknown .plain nofun
  split at hstep
  · rename_i found hclass
    obtain ⟨isEnum, hisEnum, hstep⟩ := reached_bind_eq_ok hstep
    cases hstep
    exact wellNamed_classType (hsymbols.classes hclass) _ _
  split at hstep
  · rename_i value halias
    obtain ⟨found?, hfound, hstep⟩ := reached_bind_eq_ok hstep
    obtain ⟨inner, rfl, rfl⟩ := Option.map_eq_some_iff.1 (Except.ok.inj (Option.some.inj hstep))
    exact (h.resolve (hsymbols.aliases halias) hfound).unspelled
  split at hstep
  · obtain ⟨found?, hfound, hstep⟩ := reached_bind_eq_ok hstep
    obtain ⟨inner, rfl, rfl⟩ := Option.map_eq_some_iff.1 (Except.ok.inj (Option.some.inj hstep))
    exact (h.resolveName (fun _ => hname) hfound).respelled spelling
  · cases hstep
    exact hunknown .plain nofun

end Step

theorem wellNamed_within {oracle : Oracle} (horacle : oracle.WellNamed) (depth : Nat) :
    (oracle.within depth).WellNamed := by
  induction depth with
  | zero => constructor <;> intros <;> contradiction
  | succ depth ih =>
    have hspecial (scope : Scope) {dotted dotted' : String} (hname : namedInputs.SameName dotted dotted') :
        (oracle.symbols scope).specialForm? dotted = (oracle.symbols scope).specialForm? dotted' := by
      rw [hname.1]
    have hsame {e : Expr} (he : e.WellNamed) : namedInputs.Same e e := ⟨rfl, he⟩
    exact
      { resolve := fun he => wellNamed_of_agree
          (stepResolve_agree built_wellNamed (hspecial _) (ih.alike _ _) ((hsame he).form _))
        resolveLiteral := fun he =>
          wellNamed_of_agree (stepLiteral_agree built_wellNamed (ih.alike _ _) (hsame he).literal)
        resolveDotted := fun hdotted =>
          wellNamed_of_agree (stepDotted_agree built_wellNamed (hspecial _) (ih.alike _ _) ⟨rfl, hdotted⟩)
        resolveName := stepName_wellNamed horacle ih
        resolveExternal := stepExternal_wellNamed horacle ih }

/-- The type that a well named annotation denotes is well named. -/
theorem Oracle.WellNamed.typeOf {oracle : Oracle} (horacle : oracle.WellNamed) {e : Expr}
    (he : e.WellNamed) {t : ResolvedType} (h : oracle.typeOf e = .ok (some t)) : t.WellNamed := by
  obtain ⟨hresolve, -⟩ := resolution_ends oracle [] 0
  have hreached := hresolve .host e
  rw [show oracle.resolve .host [] e = .ok (some t) from h] at hreached
  exact (wellNamed_within horacle _).resolve he hreached

end ModelMetadata
