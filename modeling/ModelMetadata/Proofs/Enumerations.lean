import ModelMetadata.Proofs.Augmenting
import ModelMetadata.Proofs.Dotting
import ModelMetadata.Proofs.LedTo
import ModelMetadata.Proofs.ModuleClasses

/-!
Enumerations are recognised exactly. Where the tables are in order, the oracle finds an enumeration
behind a class just when a chain leads from the class to one, whatever cycles the tables hold, and a
class that an enumeration is found behind is no model. A key that was passed before cuts paths off, but
never the shortest one.
-/
set_option autoImplicit false
namespace ModelMetadata

open Source Oracle

/-! ## What is led to is found -/

namespace Oracle.Orderly

variable {oracle : Oracle}

/-- Tables of one name are one table. -/
theorem eq_of_moduleName (horderly : oracle.Orderly) {symbols symbols' : ModuleSymbols}
    (h : oracle.Knows symbols) (h' : oracle.Knows symbols')
    (hname : symbols'.moduleName = symbols.moduleName) : symbols' = symbols := by
  obtain rfl | ⟨moduleName, htable⟩ := h
  · obtain rfl | ⟨moduleName', htable'⟩ := h'
    · rfl
    · have heq := (horderly.moduleName htable').symm.trans hname
      exact horderly.host (heq ▸ htable')
  · have heq := (horderly.moduleName htable).symm
    obtain rfl | ⟨moduleName', htable'⟩ := h'
    · rw [heq, ← hname] at htable
      exact (horderly.host htable).symm
    · have heq' := (horderly.moduleName htable').symm
      rw [heq', hname, ← heq, htable] at htable'
      exact (Option.some.inj htable').symm

theorem ne_classKey (horderly : oracle.Orderly) {symbols : ModuleSymbols}
    (h : oracle.Knows symbols) {name : String} (hname : symbols.Binds name) (className : String) :
    name ≠ "class:" ++ className := by
  rintro rfl
  have hpart := Text.isIdentifierPart_of_mem (horderly.isIdentifier h hname) (c := ':') (by simp)
  revert hpart
  decide

theorem ne_empty (horderly : oracle.Orderly) {symbols : ModuleSymbols} (h : oracle.Knows symbols)
    {name : String} (hname : symbols.Binds name) : name ≠ "" := by
  rintro rfl
  exact absurd (horderly.isIdentifier h hname) (by decide)

end Oracle.Orderly

theorem Chain.binds {oracle : Oracle} {n : Nat} {symbols : ModuleSymbols} {name : String}
    {spelling : Option String} {t : ResolvedType}
    (h : Chain oracle n (.provided symbols name spelling) t) : symbols.Binds name := by
  cases h with
  | providedClass hclass => exact .inl (by simp [Table.contains, hclass])
  | providedAlias _ halias => exact .inr (.inl (by simp [Table.contains, halias]))
  | passedOn _ _ himport => exact .inr (.inr (by simp [Table.contains, himport]))

/-- A name is provided whatever its spelling. -/
theorem Chain.spelled {oracle : Oracle} {n : Nat} {symbols : ModuleSymbols} {name : String}
    {spelling : Option String} {t : ResolvedType}
    (h : Chain oracle n (.provided symbols name spelling) t) (other : Option String) :
    ∃ t, Chain oracle n (.provided symbols name other) t := by
  cases h with
  | providedClass hclass hbase link => exact ⟨_, .providedClass hclass hbase link⟩
  | providedAlias hclass halias link => exact ⟨_, .providedAlias hclass halias link⟩
  | passedOn hclass halias himport link => exact ⟨_, .passedOn hclass halias himport link⟩

/-- A module binds the first piece of the name that a chain begins with. -/
theorem Chain.binds_head {oracle : Oracle} {n : Nat} {symbols : ModuleSymbols} {dotted : String}
    {t : ResolvedType} (h : Chain oracle n (.name symbols dotted) t) :
    ∃ head rest, dotPieces dotted = head :: rest ∧ symbols.Binds head := by
  cases h with
  | localClass hpieces hclass => exact ⟨_, _, hpieces, .inl (by simp [Table.contains, hclass])⟩
  | localAlias hpieces _ halias =>
    exact ⟨_, _, hpieces, .inr (.inl (by simp [Table.contains, halias]))⟩
  | imported hpieces _ _ himport =>
    exact ⟨_, _, hpieces, .inr (.inr (by simp [Table.contains, himport]))⟩

theorem Chain.dotted_ne_empty {oracle : Oracle} (horderly : oracle.Orderly) {n : Nat}
    {symbols : ModuleSymbols} (hknown : oracle.Knows symbols) {dotted : String} {t : ResolvedType}
    (h : Chain oracle n (.name symbols dotted) t) : dotted ≠ "" := by
  rintro rfl
  obtain ⟨head, rest, hpieces, hbinds⟩ := h.binds_head
  exact horderly.ne_empty hknown hbinds (List.cons.inj hpieces).1.symm

theorem Chain.dotted_ne_none {oracle : Oracle} (horderly : oracle.Orderly) {n : Nat}
    {symbols : ModuleSymbols} (hknown : oracle.Knows symbols) {dotted : String} {t : ResolvedType}
    (h : Chain oracle n (.name symbols dotted) t) : dotted ≠ "None" := by
  rintro rfl
  obtain ⟨head, rest, hpieces, hbinds⟩ := h.binds_head
  rw [dotPieces_of_isIdentifier (by decide)] at hpieces
  exact horderly.notNone hknown ((List.cons.inj hpieces).1 ▸ hbinds)

/-- No chain of at most `n` links begins with what a table provides under a name. -/
def Unled (oracle : Oracle) (n : Nat) (symbols : ModuleSymbols) (name : String) : Prop :=
  ∀ k ≤ n, ∀ spelling t, ¬ Chain oracle k (.provided symbols name spelling) t

/-- Of the chains that begin with what a table provides, one is the shortest. -/
theorem Chain.shortest {oracle : Oracle} {n : Nat} {symbols : ModuleSymbols} {name : String}
    {spelling : Option String} {t : ResolvedType}
    (h : Chain oracle n (.provided symbols name spelling) t) :
    ∃ k ≤ n, Chain oracle k (.provided symbols name spelling) t
      ∧ ∀ j < k, Unled oracle j symbols name := by
  induction n using Nat.strongRecOn with
  | _ n ih =>
    by_cases hunled : ∀ j < n, Unled oracle j symbols name
    · exact ⟨n, Nat.le_refl n, h, hunled⟩
    · simp only [Unled, Classical.not_forall, Classical.not_not] at hunled
      obtain ⟨j, hj, k, hk, other, t', hshorter⟩ := hunled
      obtain ⟨s, hs⟩ := hshorter.spelled spelling
      obtain rfl := hs.unique h
      obtain ⟨l, hl, hshortest⟩ := ih k (by omega) hs
      exact ⟨l, by omega, hshortest⟩

/-- The keys that were passed cut off no chain of at most `n` links. -/
def Clear (oracle : Oracle) (n : Nat) (seen : List Key) : Prop :=
  ∀ symbols, oracle.Knows symbols → ∀ name,
    (symbols.moduleName, name) ∈ seen ∨ classKey symbols name ∈ seen → Unled oracle n symbols name

namespace Clear

variable {oracle : Oracle} {n m : Nat} {seen : List Key}

theorem nil : Clear oracle n [] := fun _ _ _ h => by simp at h

theorem mono (h : Clear oracle n seen) (hle : m ≤ n) : Clear oracle m seen :=
  fun symbols hknown name hseen k hk => h symbols hknown name hseen k (Nat.le_trans hk hle)

theorem not_mem (h : Clear oracle n seen) {symbols : ModuleSymbols} (hknown : oracle.Knows symbols)
    {name : String} {spelling : Option String} {t : ResolvedType}
    (hchain : Chain oracle m (.provided symbols name spelling) t) (hle : m ≤ n) :
    (symbols.moduleName, name) ∉ seen ∧ classKey symbols name ∉ seen :=
  ⟨fun hmem => h symbols hknown name (.inl hmem) m hle spelling t hchain,
    fun hmem => h symbols hknown name (.inr hmem) m hle spelling t hchain⟩

/-- The key of a name that no short chain begins with may be passed. -/
theorem cons (horderly : oracle.Orderly) (h : Clear oracle n seen) {symbols : ModuleSymbols}
    (hknown : oracle.Knows symbols) {name : String} (hbinds : symbols.Binds name)
    (hunled : Unled oracle n symbols name) {key : Key}
    (hkey : key = (symbols.moduleName, name) ∨ key = classKey symbols name) :
    Clear oracle n (key :: seen) := by
  intro other hother found hmem k hk spelling t hchain
  have hnew : (other.moduleName, found) = key ∨ classKey other found = key → False := by
    intro heq
    have hsame : other = symbols ∧ found = name := by
      have hmodule (hname : other.moduleName = symbols.moduleName) : other = symbols :=
        horderly.eq_of_moduleName hknown hother hname
      obtain rfl | rfl := hkey
      · obtain heq | heq := heq
        · exact ⟨hmodule (Prod.mk.inj heq).1, (Prod.mk.inj heq).2⟩
        · exact absurd (Prod.mk.inj heq).2.symm (horderly.ne_classKey hknown hbinds found)
      · obtain heq | heq := heq
        · exact absurd (Prod.mk.inj heq).2 (horderly.ne_classKey hother hchain.binds name)
        · exact ⟨hmodule (Prod.mk.inj heq).1, by simpa using (Prod.mk.inj heq).2⟩
    obtain ⟨rfl, rfl⟩ := hsame
    exact hunled k hk spelling t hchain
  have hold : (other.moduleName, found) ∈ seen ∨ classKey other found ∈ seen := by
    obtain hmem | hmem := hmem
    · exact .inl ((List.mem_cons.1 hmem).resolve_left fun heq => hnew (.inl heq))
    · exact .inr ((List.mem_cons.1 hmem).resolve_left fun heq => hnew (.inr heq))
  exact h other hother found hold k hk spelling t hchain

end Clear

theorem reached_mapM_eq {α β : Type} {f : α → Attempt β} {g : α → β} {xs : List α} {ys : List β}
    (h : xs.mapM f = reached (.ok ys)) (hf : ∀ x ∈ xs, ∀ y, f x = reached (.ok y) → y = g x) :
    ys = xs.map g := by
  induction xs generalizing ys with
  | nil =>
    cases h
    rfl
  | cons x rest ih =>
    rw [List.mapM_cons] at h
    obtain ⟨first, hfirst, h⟩ := reached_bind_eq_ok h
    obtain ⟨others, hothers, h⟩ := reached_bind_eq_ok h
    cases h
    rw [List.map_cons, hf x List.mem_cons_self first hfirst,
      ih hothers fun y hy => hf y (List.mem_cons_of_mem _ hy)]

/-- One base that is an enumeration is enough. -/
theorem true_of_base {f : Expr → Attempt (Option ResolvedType)} {bases : List Expr}
    {start isEnum : Bool} (h : bases.foldlM (addBase f) start = reached (.ok isEnum))
    (hbase : start = true ∨ ∃ base ∈ bases, ∃ t : NamedType, t.isEnumeration = true
      ∧ ∀ found, f base = reached (.ok found) → found = some (.named t)) : isEnum = true := by
  induction bases generalizing start with
  | nil =>
    cases h
    obtain rfl | ⟨base, hmem, -⟩ := hbase
    · rfl
    · cases hmem
  | cons first rest ih =>
    rw [List.foldlM_cons] at h
    obtain ⟨after, hafter, hrest⟩ := reached_bind_eq_ok h
    refine ih hrest ?_
    obtain rfl | ⟨base, hmem, t, ht, hf⟩ := hbase
    · cases hafter
      exact .inl rfl
    · obtain rfl | hmem := List.mem_cons.1 hmem
      · left
        cases start with
        | true =>
          cases hafter
          rfl
        | false =>
          obtain ⟨found, hfound, hafter⟩ := reached_bind_eq_ok hafter
          obtain rfl := hf found hfound
          cases hafter
          exact ht
      · exact .inr ⟨base, hmem, t, ht, hf⟩

/-- Where a chain of `n` links leads, resolution finds what it leads to, so long as no key that was
passed cuts it off. -/
structure Complete (oracle : Oracle) (n : Nat) : Prop where
  resolve {depth : Nat} {scope : Scope} {seen : List Key} {e : Expr} {t : ResolvedType}
    {found : Option ResolvedType} (hchain : Chain oracle n (.hint (oracle.symbols scope) e) t)
    (hknown : oracle.Knows (oracle.symbols scope)) (hclear : Clear oracle n seen)
    (h : (oracle.within depth).resolve scope seen e = reached (.ok found)) : found = some t
  resolveName {depth : Nat} {scope : Scope} {seen : List Key} {dotted : String} {t : ResolvedType}
    {found : Option ResolvedType} (hchain : Chain oracle n (.name (oracle.symbols scope) dotted) t)
    (hknown : oracle.Knows (oracle.symbols scope)) (hclear : Clear oracle n seen)
    (h : (oracle.within depth).resolveName scope seen dotted = reached (.ok found)) : found = some t
  resolveExternal {depth : Nat} {seen : List Key} {origin name : String} {spelling : Option String}
    {t : ResolvedType} {found : Option ResolvedType}
    (hchain : Chain oracle n (.external origin name spelling) t) (hclear : Clear oracle n seen)
    (h : (oracle.within depth).resolveExternal seen origin name spelling = reached (.ok found)) :
    found = some t

theorem stepResolve_name {oracle : Oracle} {next : Resolver} {scope : Scope} {seen : List Key}
    {text : String} (h : text ≠ "None") :
    oracle.stepResolve next scope seen (.name text) = next.resolveDotted scope seen text := by
  unfold stepResolve
  split
  case h_2 heq => exact absurd (Expr.name.inj heq) h
  case h_3 heq => rw [Expr.name.inj heq]
  case h_9 _ _ hother _ _ _ _ _ => exact (hother text rfl).elim
  all_goals contradiction

theorem stepResolve_quotation {oracle : Oracle} {next : Resolver} {scope : Scope} {seen : List Key}
    {e inner : Expr} {text : String} (hquotation : e.IsQuotation)
    (htext : stringValue e = .ok (some text)) (hinner : quotedIn? text = .ok (some inner)) :
    oracle.stepResolve next scope seen e = next.resolve scope seen inner := by
  cases e with
  | string token => simp only [stepResolve, reached_ok_bind htext, reached_ok_bind hinner]
  | adjacent first gap rest => simp only [stepResolve, reached_ok_bind htext, reached_ok_bind hinner]
  | _ => cases hquotation

section Completeness

variable {oracle : Oracle} {n : Nat}

theorem resolveDotted_of_plain {depth : Nat} {scope : Scope} {seen : List Key} {dotted : String}
    {found : Option ResolvedType} (hplain : (oracle.symbols scope).specialForm? dotted = none)
    (h : (oracle.within depth).resolveDotted scope seen dotted = reached (.ok found)) :
    ∃ depth, (oracle.within depth).resolveName scope seen dotted = reached (.ok found) := by
  cases depth with
  | zero => cases h
  | succ depth =>
    change oracle.stepDotted _ scope seen dotted = _ at h
    simp only [stepDotted, hplain] at h
    exact ⟨depth, h⟩

theorem resolve_complete (ih : ∀ m < n, Complete oracle m) {depth : Nat} {scope : Scope} {seen : List Key} {e : Expr}
    {t : ResolvedType} {found : Option ResolvedType}
    (hchain : Chain oracle n (.hint (oracle.symbols scope) e) t)
    (hknown : oracle.Knows (oracle.symbols scope)) (hclear : Clear oracle n seen)
    (h : (oracle.within depth).resolve scope seen e = reached (.ok found)) : found = some t := by
  cases depth with
  | zero => cases h
  | succ depth =>
  change oracle.stepResolve _ scope seen e = _ at h
  cases hchain with
  | paren link => exact (ih _ (Nat.lt_succ_self _)).resolve link hknown (hclear.mono (Nat.le_succ _)) h
  | bare hnone hplain link =>
    rw [stepResolve_name hnone] at h
    obtain ⟨depth, h⟩ := resolveDotted_of_plain hplain h
    exact (ih _ (Nat.lt_succ_self _)).resolveName link hknown (hclear.mono (Nat.le_succ _)) h
  | dotted hplain link =>
    obtain ⟨depth, h⟩ := resolveDotted_of_plain hplain h
    exact (ih _ (Nat.lt_succ_self _)).resolveName link hknown (hclear.mono (Nat.le_succ _)) h
  | bar hleft hright =>
    rename_i n m left right beforeOp afterOp s t
    obtain ⟨s?, hs, h⟩ := reached_bind_eq_ok h
    obtain ⟨t?, ht, h⟩ := reached_bind_eq_ok h
    have hleft := (ih n (by omega)).resolve hleft hknown (hclear.mono (by omega)) hs
    have hright := (ih m (by omega)).resolve hright hknown (hclear.mono (by omega)) ht
    subst hleft hright
    cases h
    rfl
  | generic hplain link =>
    simp only [stepResolve, hplain] at h
    exact (ih _ (Nat.lt_succ_self _)).resolve link hknown (hclear.mono (Nat.le_succ _)) h
  | wrapper hspecial hwrapper hfirst link =>
    obtain ⟨rest, hindices⟩ := List.head?_eq_some_iff.1 hfirst
    simp only [stepResolve, hspecial, hindices, hwrapper, if_true] at h
    exact (ih _ (Nat.lt_succ_self _)).resolve link hknown (hclear.mono (Nat.le_succ _)) h
  | @union n _ _ _ _ entries lengths types hspecial hindices hlengths links =>
    obtain ⟨first, rest, hcons⟩ := List.exists_cons_of_ne_nil hindices
    simp only [stepResolve, hspecial] at h
    rw [hcons] at h
    simp only [show wrapperForms.contains "Union" = false from by decide,
      show arrayForms.contains "Union" = false from by decide,
      show tupleForms.contains "Union" = false from by decide,
      show mappingForms.contains "Union" = false from by decide,
      show ("Union" == "Optional") = false from by decide, Bool.false_eq_true, if_false,
      BEq.rfl, if_true] at h
    rw [← hcons] at h
    obtain ⟨members, hmembers, h⟩ := reached_bind_eq_ok h
    have hall := reached_mapM_eq (g := fun member => some (types member)) hmembers
      fun member hmember answer hanswer =>
        (ih _ (Nat.lt_succ_of_le (hlengths member hmember))).resolve (links member hmember) hknown
          (hclear.mono (Nat.le_succ_of_le (hlengths member hmember))) hanswer
    have htypes : members.mapM id = some ((Entry.indices entries).map types) := by
      rw [hall, List.mapM_map]
      exact List.mapM_pure (m := Option)
    rw [htypes] at h
    cases h
    rfl
  | quoted hquotation htext hinner link =>
    rw [stepResolve_quotation hquotation htext hinner] at h
    exact (ih _ (Nat.lt_succ_self _)).resolve link hknown (hclear.mono (Nat.le_succ _)) h

/-- The bases of a class are tried until one is an enumeration. -/
theorem isEnumClass_complete {depth : Nat} {scope : Scope} {seen : List Key} {className : String}
    {found : ClassSymbol} {base : Expr} {t : NamedType} {isEnum : Bool}
    (hcomplete : Complete oracle n) (hknown : oracle.Knows (oracle.symbols scope))
    (hclass : (oracle.symbols scope).classes.get? className = some found)
    (hbase : base ∈ found.bases)
    (link : Chain oracle n (.name (oracle.symbols scope) (baseName base)) (.named t))
    (hseen : classKey (oracle.symbols scope) className ∉ seen)
    (hclear : Clear oracle n (classKey (oracle.symbols scope) className :: seen))
    (h : (oracle.within depth).isEnumClass scope seen className = reached (.ok isEnum)) :
    isEnum = true := by
  cases depth with
  | zero => cases h
  | succ depth =>
  change oracle.stepEnumClass _ scope seen className = _ at h
  have hfresh : seen.contains (classKey (oracle.symbols scope) className) = false := by
    simpa using hseen
  simp only [stepEnumClass, hclass, hfresh, Bool.false_eq_true, if_false] at h
  exact true_of_base h (.inr ⟨base, hbase, t, link.isEnumerative, fun found hfound =>
    hcomplete.resolveName link hknown hclear hfound⟩)

theorem resolveName_complete (horderly : oracle.Orderly) (ih : ∀ m < n, Complete oracle m)
    {depth : Nat} {scope : Scope} {seen : List Key} {dotted : String}
    {t : ResolvedType} {found : Option ResolvedType}
    (hchain : Chain oracle n (.name (oracle.symbols scope) dotted) t)
    (hknown : oracle.Knows (oracle.symbols scope)) (hclear : Clear oracle n seen)
    (h : (oracle.within depth).resolveName scope seen dotted = reached (.ok found)) :
    found = some t := by
  cases depth with
  | zero => cases h
  | succ depth =>
  change oracle.stepName _ scope seen dotted = _ at h
  unfold stepName at h
  rw [if_neg (by simpa using hchain.dotted_ne_empty horderly hknown)] at h
  cases hchain with
  | @localClass n _ _ className _ _ _ hpieces hclass hbase link =>
    have hprovided : Chain oracle (n + 1) (.provided (oracle.symbols scope) className none) _ :=
      .providedClass hclass hbase link
    have hseen := (hclear.not_mem hknown hprovided (Nat.le_refl _)).2
    obtain ⟨k, hk, hshortest, hunled⟩ := hprovided.shortest
    simp only [hpieces, hclass, List.isEmpty_nil, if_true] at h
    obtain ⟨isEnum, hisEnum, h⟩ := reached_bind_eq_ok h
    generalize classType (oracle.symbols scope) _ none true = provided at hshortest
    cases hshortest with
    | providedClass hclass' hbase' link' =>
      rw [hclass] at hclass'
      cases hclass'
      have hpassed := (hclear.mono (by omega)).cons horderly hknown hprovided.binds
        (hunled _ (Nat.lt_succ_self _)) (.inr rfl)
      obtain rfl :=
        isEnumClass_complete (ih _ (by omega)) hknown hclass hbase' link' hseen hpassed hisEnum
      cases h
      rfl
    | providedAlias hnone => rw [hclass] at hnone; cases hnone
    | passedOn hnone => rw [hclass] at hnone; cases hnone
  | @localAlias n _ _ aliasName value t hpieces hclass halias link =>
    have hprovided : Chain oracle (n + 1) (.provided (oracle.symbols scope) aliasName none) _ :=
      .providedAlias hclass halias link
    have hseen := (hclear.not_mem hknown hprovided (Nat.le_refl _)).1
    obtain ⟨k, hk, hshortest, hunled⟩ := hprovided.shortest
    have hfresh : seen.contains ((oracle.symbols scope).moduleName, aliasName) = false := by
      simpa using hseen
    simp only [hpieces, hclass, bareAlias?, List.isEmpty_nil, if_true, halias, hfresh,
      Bool.false_eq_true, if_false] at h
    generalize t.unspelled = unspelled at hshortest
    cases hshortest with
    | providedClass hclass' => rw [hclass] at hclass'; cases hclass'
    | providedAlias _ halias' link' =>
      rw [halias] at halias'
      cases halias'
      have hpassed := (hclear.mono (by omega)).cons horderly hknown hprovided.binds
        (hunled _ (Nat.lt_succ_self _)) (.inl rfl)
      rw [link.unique link']
      exact (ih _ (by omega)).resolve link' hknown hpassed h
    | passedOn _ hnone => rw [halias] at hnone; cases hnone
  | @imported n _ _ head origin name rest binding t hpieces hclass halias himport htarget link =>
    rw [horderly.target?_eq hknown himport] at htarget
    simp only [hpieces, hclass, halias, himport, htarget] at h
    exact (ih _ (Nat.lt_succ_self _)).resolveExternal link (hclear.mono (Nat.le_succ _)) h

theorem resolveExternal_complete (horderly : oracle.Orderly) (ih : ∀ m < n, Complete oracle m)
    {depth : Nat} {seen : List Key} {origin name : String} {spelling : Option String}
    {t : ResolvedType} {found : Option ResolvedType}
    (hchain : Chain oracle n (.external origin name spelling) t) (hclear : Clear oracle n seen)
    (h : (oracle.within depth).resolveExternal seen origin name spelling = reached (.ok found)) :
    found = some t := by
  cases depth with
  | zero => cases h
  | succ depth =>
  change oracle.stepExternal _ seen origin name spelling = _ at h
  unfold stepExternal at h
  cases hchain with
  | enumBase _ hname =>
    simp only [show typingModules.contains enumModule = false from by decide,
      show (enumModule == builtinsModule) = false from by decide, Bool.false_eq_true, if_false,
      BEq.rfl, hname, Bool.and_self, if_true] at h
    cases h
    rfl
  | @known n _ _ _ external t htyping hbuiltins hother htable link =>
    obtain rfl : oracle.symbols (.project origin) = external := by
      simp only [Oracle.symbols, htable, Option.getD_some]
    have hknown : oracle.Knows (oracle.symbols (.project origin)) := .inr ⟨origin, htable⟩
    have horigin := horderly.moduleName htable
    have hbase : (origin == enumModule && enumBases.contains name) = false := by
      rw [Bool.and_eq_false_imp]
      exact fun heq => hother (eq_of_beq heq)
    have hseen := hclear.not_mem hknown link (Nat.le_succ _)
    rw [horigin] at hseen
    have hfresh : seen.contains (origin, name) = false := by simpa using hseen.1
    simp only [htyping, beq_eq_false_iff_ne.2 hbuiltins, hbase, htable, hfresh,
      Bool.false_eq_true, if_false] at h
    obtain ⟨k, hk, hshortest, hunled⟩ := link.shortest
    have hpassed {j : Nat} (hj : j < k) : Clear oracle j ((origin, name) :: seen) :=
      (hclear.mono (by omega)).cons horderly hknown link.binds (hunled j hj) (.inl (by rw [horigin]))
    cases hshortest with
    | @providedClass j _ _ _ found' base t hclass hbase link' =>
      simp only [hclass] at h
      obtain ⟨isEnum, hisEnum, h⟩ := reached_bind_eq_ok h
      have hclassSeen : classKey (oracle.symbols (.project origin)) name ∉ (origin, name) :: seen := by
        intro hmem
        obtain heq | hmem := List.mem_cons.1 hmem
        · exact horderly.ne_classKey hknown link.binds name (Prod.mk.inj heq).2.symm
        · exact hseen.2 hmem
      have hpassed := (hpassed (Nat.lt_succ_self j)).cons horderly hknown link.binds
        (hunled j (Nat.lt_succ_self j)) (.inr rfl)
      obtain rfl :=
        isEnumClass_complete (ih j (by omega)) hknown hclass hbase link' hclassSeen hpassed hisEnum
      cases h
      rfl
    | providedAlias hclass halias link' =>
      simp only [hclass, halias] at h
      obtain ⟨found', hfound, h⟩ := reached_bind_eq_ok h
      obtain rfl := (ih _ (by omega)).resolve link' hknown (hpassed (Nat.lt_succ_self _)) hfound
      cases h
      rfl
    | passedOn hclass halias himport link' =>
      simp only [hclass, halias, himport] at h
      obtain ⟨found', hfound, h⟩ := reached_bind_eq_ok h
      obtain rfl := (ih _ (by omega)).resolveName link' hknown (hpassed (Nat.lt_succ_self _)) hfound
      cases h
      rfl

theorem complete (horderly : oracle.Orderly) (n : Nat) : Complete oracle n := by
  induction n using Nat.strongRecOn with
  | _ n ih =>
    exact
      { resolve := resolve_complete ih
        resolveName := resolveName_complete horderly ih
        resolveExternal := resolveExternal_complete horderly ih }

end Completeness

/-! ## Bases -/

def Source.Expr.IsDotted : Expr → Prop
  | .name _ => True
  | .attribute owner _ _ _ => owner.IsDotted
  | .paren _ inner _ => inner.IsDotted
  | _ => False

def baseOwner (base : Expr) : Expr :=
  match base.bare with
  | .subscript owner _ _ _ => owner
  | e => e

theorem baseName_eq (base : Expr) : baseName base = (baseOwner base).dottedName := by
  unfold baseName baseOwner
  cases base.bare <;> rfl

/-- No special form leads to an enumeration. -/
theorem Chain.plain {oracle : Oracle} (horderly : oracle.Orderly) {n : Nat}
    {symbols : ModuleSymbols} (hknown : oracle.Knows symbols) {dotted : String} {t : ResolvedType}
    (h : Chain oracle n (.name symbols dotted) t) : symbols.specialForm? dotted = none := by
  have honce {name : String} (hbound : symbols.classes.contains name ∨ symbols.aliases.contains name) :
      symbols.imports.get? name = none := by
    cases himport : symbols.imports.get? name with
    | none => rfl
    | some binding =>
      have hfree := horderly.once hknown (show symbols.imports.contains name = true by
        simp [Table.contains, himport])
      simp [Table.contains, hfree] at hbound
  unfold ModuleSymbols.specialForm?
  rw [if_neg (by simpa using h.dotted_ne_empty horderly hknown)]
  cases h with
  | @localClass _ _ _ className found _ _ hpieces hclass =>
    have hbound : symbols.classes.contains className = true := by simp [Table.contains, hclass]
    simp only [hpieces, honce (.inl hbound), hbound, Bool.true_or, if_true]
  | @localAlias _ _ _ aliasName value _ hpieces _ halias =>
    have hbound : symbols.aliases.contains aliasName = true := by simp [Table.contains, halias]
    simp only [hpieces, honce (.inr hbound), hbound, Bool.or_true, if_true]
  | @imported n _ _ head origin name rest binding t hpieces _ _ himport htarget link =>
    have horigin : typingModules.contains origin = false := by
      cases link with
      | enumBase => decide
      | known htyping => exact htyping
    rw [horderly.target?_eq hknown himport] at htarget
    unfold importTarget? at htarget
    cases rest with
    | nil =>
      cases himported : binding.imported with
      | none => simp [himported] at htarget
      | some imported =>
        simp only [himported, List.getLast?_nil, Option.some.injEq, Prod.mk.injEq] at htarget
        simp only [hpieces, himport, htarget.1, horigin, Bool.false_eq_true, if_false]
    | cons next rest =>
      obtain ⟨last, hlast⟩ := List.getLast?_isSome.2 (List.cons_ne_nil next rest)
        |> Option.isSome_iff_exists.1
      cases himported : binding.imported with
      | none =>
        simp only [himported, hlast, Option.some.injEq, Prod.mk.injEq] at htarget
        simp only [List.contains_eq_mem] at horigin
        simp [hpieces, himport, himported, htarget.1, horigin]
      | some imported =>
        simp only [himported, hlast, Option.some.injEq, Prod.mk.injEq] at htarget
        simp only [List.contains_eq_mem] at horigin
        simp [hpieces, himport, himported, htarget.1, horigin]

/-- A dotted name leads where the name it spells leads. -/
theorem hint_iff_name {oracle : Oracle} (horderly : oracle.Orderly) {symbols : ModuleSymbols}
    (hknown : oracle.Knows symbols) {e : Expr} (hdotted : e.IsDotted) {t : ResolvedType} :
    (∃ n, Chain oracle n (.hint symbols e) t) ↔ ∃ n, Chain oracle n (.name symbols e.dottedName) t := by
  induction e using Expr.bare.induct with
  | case1 afterOpen inner beforeClose ih =>
    rw [show (Expr.paren afterOpen inner beforeClose).dottedName = inner.dottedName from rfl,
      ← ih hdotted]
    constructor
    · rintro ⟨_, h⟩
      cases h with
      | paren link => exact ⟨_, link⟩
      | quoted hquotation => cases hquotation
    · rintro ⟨n, h⟩
      exact ⟨n + 1, .paren h⟩
  | case2 e hparen =>
    constructor
    · rintro ⟨_, h⟩
      cases h with
      | bare _ _ link => exact ⟨_, link⟩
      | dotted _ link => exact ⟨_, link⟩
      | paren => exact (hparen _ _ _ rfl).elim
      | quoted hquotation =>
        cases e with
        | string => cases hdotted
        | adjacent => cases hdotted
        | _ => cases hquotation
      | _ => cases hdotted
    · rintro ⟨n, h⟩
      cases e with
      | name text =>
        exact ⟨n + 1, .bare (h.dotted_ne_none horderly hknown) (h.plain horderly hknown) h⟩
      | «attribute» => exact ⟨n + 1, .dotted (h.plain horderly hknown) h⟩
      | paren => exact (hparen _ _ _ rfl).elim
      | _ => cases hdotted

/-! ## Recognition -/

section Recognition

variable {oracle : Oracle} (horderly : oracle.Orderly)
include horderly

/-- What the oracle says of an annotation of the host is led to, and what is led to it says. -/
theorem typeOf_iff {e : Expr} {t? : Option ResolvedType} (h : oracle.typeOf e = .ok t?) :
    (∃ t, t? = some t ∧ t.isEnumeration = true)
      ↔ ∃ n t, Chain oracle n (.hint oracle.host e) (.named t) := by
  have hreached : (oracle.within (oracle.reserve [] + e.weight + 6)).resolve .host [] e
      = reached (.ok t?) := by
    rw [← h]
    exact (adequate_within oracle _).resolve .host [] e (by omega)
  constructor
  · rintro ⟨t, rfl, ht⟩
    cases t with
    | named t =>
      obtain ⟨n, hn⟩ := ((sound_within horderly _).resolve hreached).chain ht
      exact ⟨n, t, hn⟩
    | _ => cases ht
  · rintro ⟨n, t, hn⟩
    have hhost : Chain oracle n (.hint (oracle.symbols .host) e) (.named t) := hn
    exact ⟨.named t, (complete horderly n).resolve hhost (.inl rfl) .nil hreached,
      hn.isEnumerative⟩

theorem typeOf_iff_of_isDotted {e : Expr} {t? : Option ResolvedType} (hdotted : e.IsDotted)
    (h : oracle.typeOf e = .ok t?) : (∃ t, t? = some t ∧ t.isEnumeration = true)
      ↔ ∃ t n, Chain oracle n (.name oracle.host e.dottedName) (.named t) := by
  rw [typeOf_iff horderly h, exists_comm]
  exact exists_congr fun t => hint_iff_name horderly (.inl rfl) hdotted

end Recognition

/-- When metadata is collected, only an enumeration is no model. -/
theorem isModel_cons {site : Site} (hreadonly : site.options.readonly = true) (base : Expr)
    (rest : List Expr) : isModel site (base :: rest) = (do
      match ← site.oracle.typeOf (baseOwner base) with
      | some t => if t.isEnumeration then return false else isModel site rest
      | none => isModel site rest) := by
  simp only [isModel, hreadonly, Bool.not_true, Bool.and_false, Bool.false_eq_true, if_false]
  rfl

/-- A class is no model just when a chain begins with one of its bases. -/
theorem isModel_iff {site : Site} (horderly : site.oracle.Orderly)
    (hreadonly : site.options.readonly = true) {bases : List Expr}
    (hdotted : ∀ base ∈ bases, (baseOwner base).IsDotted) {model : Bool}
    (h : isModel site bases = .ok model) : model = false
      ↔ ∃ base ∈ bases, ∃ t n, Chain site.oracle n
        (.name site.oracle.host (baseName base)) (.named t) := by
  induction bases with
  | nil =>
    cases h
    simp
  | cons base rest ih =>
    obtain ⟨hbase, hrest⟩ := List.forall_mem_cons.1 hdotted
    rw [isModel_cons hreadonly] at h
    obtain ⟨t?, htype, h⟩ := bind_eq_ok.1 h
    have hiff := typeOf_iff_of_isDotted horderly hbase htype
    rw [← baseName_eq] at hiff
    rw [List.exists_mem_cons_iff, ← hiff]
    cases t? with
    | none => simp [ih hrest h]
    | some t =>
      cases ht : t.isEnumeration with
      | false =>
        simp only [ht, Bool.false_eq_true, if_false] at h
        simp [ih hrest h, ht]
      | true =>
        simp only [ht, if_true] at h
        cases h
        simp [ht]

/-- A class leads to an enumeration just when one of its bases does. -/
theorem classChain_iff {oracle : Oracle} {symbols : ModuleSymbols} {className : String}
    {found : ClassSymbol} (hpieces : dotPieces className = [className])
    (hclass : symbols.classes.get? className = some found) :
    (∃ t n, Chain oracle n (.name symbols className) (.named t))
      ↔ ∃ base ∈ found.bases, ∃ t n, Chain oracle n (.name symbols (baseName base)) (.named t) := by
  constructor
  · rintro ⟨t, n, h⟩
    generalize ResolvedType.named t = reached at h
    cases h with
    | localClass hpieces' hclass' hbase link =>
      rw [hpieces] at hpieces'
      cases hpieces'
      rw [hclass] at hclass'
      cases hclass'
      exact ⟨_, hbase, _, _, link⟩
    | localAlias hpieces' hclass' =>
      rw [hpieces] at hpieces'
      cases hpieces'
      rw [hclass] at hclass'
      cases hclass'
    | imported hpieces' hclass' =>
      rw [hpieces] at hpieces'
      cases hpieces'
      rw [hclass] at hclass'
      cases hclass'
  · rintro ⟨base, hbase, t, n, link⟩
    exact ⟨_, n + 1, .localClass hpieces hclass hbase link⟩

/-- When metadata is collected, a class at module level is skipped when it is no model or not
exported. -/
theorem emissionOf_eq_skip_iff {site : Site} (hreadonly : site.options.readonly = true)
    {head : ClassHead} {model : Bool} (h : isModel site head.positionalBases = .ok model)
    (journal : Journal) : (emissionOf site head true journal).1 = .ok .skip
      ↔ model = false ∨ site.oracle.host.isExported head.name = false := by
  have hgives : Gives (emissionOf site head true) (.ok
      (if model && site.oracle.host.isExported head.name then .collect else .skip)) := by
    unfold emissionOf
    rw [h]
    cases model with
    | false => exact .andThen (.ofExcept _) (.andThen (.note ..) (.pure ClassEmission.skip))
    | true =>
      refine .andThen (.ofExcept _) ?_
      simp only [hreadonly, Bool.not_true, Bool.false_eq_true, if_false, Bool.true_and]
      cases site.oracle.host.isExported head.name with
      | false => exact .andThen (.note ..) (.pure ClassEmission.skip)
      | true => exact .pure ClassEmission.collect
  rw [hgives.gives]
  cases model <;> cases site.oracle.host.isExported head.name <;> simp

/-- Enumerations are recognised exactly, and the pass agrees with the oracle: for a class at the level of
a module whose classes have different names, a chain leads to an enumeration, the type of the class is
an enumeration, and the class is no model, all three or none of them. -/
theorem enumeration_recognised {site : Site} {source : Module} {moduleName : String}
    {isPackage : Bool}
    (hhost : ModuleSymbols.collect source moduleName isPackage = .ok site.oracle.host)
    (horderly : site.oracle.Orderly) (hreadonly : site.options.readonly = true)
    (honce : ((classesOf source.body).map fun found => found.1.name).Nodup)
    {head : ClassHead} {body : Suite} (hmem : (head, body) ∈ classesOf source.body)
    (hdotted : ∀ base ∈ head.positionalBases, (baseOwner base).IsDotted)
    {t? : Option ResolvedType} (htype : site.oracle.typeOf (.name head.name) = .ok t?)
    {model : Bool} (hmodel : isModel site head.positionalBases = .ok model) (journal : Journal) :
    ((∃ t n, Chain site.oracle n (.name site.oracle.host head.name) (.named t))
        ↔ ∃ t, t? = some t ∧ t.isEnumeration = true)
      ∧ ((∃ t n, Chain site.oracle n (.name site.oracle.host head.name) (.named t))
        ↔ model = false)
      ∧ ((emissionOf site head true journal).1 = .ok .skip
        ↔ model = false ∨ site.oracle.host.isExported head.name = false) := by
  have hclass := ModuleSymbols.get?_classes_of_collect hhost honce hmem
  have hpieces : dotPieces head.name = [head.name] :=
    dotPieces_of_isIdentifier (horderly.isIdentifier (.inl rfl)
      (.inl (by simp [Table.contains, hclass])))
  refine ⟨(typeOf_iff_of_isDotted horderly (e := .name head.name) trivial htype).symm, ?_,
    emissionOf_eq_skip_iff hreadonly hmodel journal⟩
  rw [classChain_iff hpieces hclass, isModel_iff horderly hreadonly hdotted hmodel]

namespace Imported

def head (name : String) (base : Expr) : ClassHead where
  preamble := {}
  afterClass := Gap.space
  name := name
  parameters := []
  bases := some ⟨[], [.mk [] (.value base) none], []⟩
  beforeColon := []

def body : Suite := .inline Gap.space ⟨[⟨.verbatim [⟨[], "pass"⟩], none⟩], {}⟩

def importFrom (path : Option String) (name : String) : Statement :=
  .ofSmall (.importFrom [⟨Gap.space, "."⟩] (path.map fun path => ([], .name path)) Gap.space
    (.plain [⟨Gap.space, .name name, none, none⟩]))

def source (path : Option String) (name : String) (base : Expr) : Module where
  body := [importFrom path name, .classDef (head "C" base) body]

/-- The module that is imported from: an enumeration and a class that is its own base. -/
def models : ModuleSymbols where
  moduleName := "models"
  imports := ⟨[("Enum", { origin := "enum", imported := some "Enum" })]⟩
  classes := ⟨[("Color", ⟨"Color", [.name "Loop", .name "Enum"], []⟩),
    ("Loop", ⟨"Loop", [.name "Loop"], []⟩)]⟩

def site (name : String) (binding : ImportBinding) (base : Expr) : Site where
  oracle.host :=
    { moduleName := "b"
      imports := ⟨[(name, binding)]⟩
      classes := ⟨[("C", ⟨"C", [base], []⟩)]⟩ }
  oracle.project := some ⟨[("models", models)]⟩
  options := { readonly := true }
  file := "b.py"

def colorSite : Site :=
  site "Color" { origin := "models", imported := some "Color" } (.name "Color")

theorem collect_color : ModuleSymbols.collect (source (some "models") "Color" (.name "Color")) "b"
    false = .ok colorSite.oracle.host := by
  cbv

theorem eq_models {name : String} {binding : ImportBinding} {base : Expr} {moduleName : String}
    {symbols : ModuleSymbols}
    (h : (site name binding base).oracle.projectTable? moduleName = some symbols) :
    moduleName = "models" ∧ symbols = models := by
  change (if "models" = moduleName then some models else none) = some symbols at h
  split at h
  · rename_i heq
    cases h
    exact ⟨heq.symm, rfl⟩
  · cases h

theorem eq_of_knows {name : String} {binding : ImportBinding} {base : Expr} {symbols : ModuleSymbols}
    (h : (site name binding base).oracle.Knows symbols) :
    symbols = (site name binding base).oracle.host ∨ symbols = models := by
  obtain rfl | ⟨moduleName, htable⟩ := h
  · exact .inl rfl
  · exact .inr (eq_models htable).2

theorem mem_of_binds {symbols : ModuleSymbols} {name : String} (h : symbols.Binds name) :
    name ∈ symbols.classes.names ++ symbols.aliases.names ++ symbols.imports.names := by
  have hmem {α : Type} {table : Table α} (h : table.contains name = true) : name ∈ table.names := by
    obtain ⟨value, hvalue⟩ := Option.isSome_iff_exists.1 h
    exact mem_names_of_get? hvalue
  obtain h | h | h := h <;> simp [hmem h]

theorem binds_host {name found : String} {binding : ImportBinding} {base : Expr}
    (h : (site name binding base).oracle.host.Binds found) : found = "C" ∨ found = name := by
  simpa [site, Table.names] using mem_of_binds h

theorem binds_models {found : String} (h : models.Binds found) :
    found ∈ ["Color", "Loop", "Enum"] :=
  mem_of_binds h

theorem tidy {name : String} (binding : ImportBinding) (base : Expr)
    (hname : Text.isIdentifier name.toList = true) (hnone : name ≠ "None") (hclass : name ≠ "C") :
    (site name binding base).oracle.Tidy where
  moduleName h := by
    obtain ⟨rfl, rfl⟩ := eq_models h
    rfl
  host h := absurd (eq_models h).1 (by decide : "b" ≠ "models")
  isIdentifier hknown found h := by
    obtain rfl | rfl := eq_of_knows hknown
    · obtain rfl | rfl := binds_host h
      · decide
      · exact hname
    · have hall : ∀ found ∈ ["Color", "Loop", "Enum"], Text.isIdentifier found.toList = true := by
        decide
      exact hall found (binds_models h)
  notNone hknown h := by
    obtain rfl | rfl := eq_of_knows hknown
    · obtain heq | rfl := binds_host h
      · exact absurd heq (by decide)
      · exact hnone rfl
    · exact absurd (binds_models h) (by decide)
  once hknown found h := by
    obtain ⟨binding', hbinding⟩ := Option.isSome_iff_exists.1 h
    have hmem := mem_names_of_get? hbinding
    obtain rfl | rfl := eq_of_knows hknown
    · obtain rfl : found = name := List.mem_singleton.1 hmem
      exact ⟨if_neg (Ne.symm hclass), rfl⟩
    · obtain rfl : found = "Enum" := List.mem_singleton.1 hmem
      exact ⟨rfl, rfl⟩

theorem orderly_color : colorSite.oracle.Orderly where
  toTidy := tidy _ _ (by decide) (by decide) (by decide)
  rooted hknown name imported binding h himported := by
    obtain rfl | rfl := eq_of_knows hknown
    · change (if "Color" = name then _ else none) = _ at h
      split at h
      · cases h
        decide
      · cases h
    · change (if "Enum" = name then _ else none) = _ at h
      split at h
      · cases h
        decide
      · cases h

theorem typeOf_color : colorSite.oracle.typeOf (.name "C") = .ok (some (classType
    colorSite.oracle.host ⟨"C", [.name "Color"], []⟩ (some "C") true)) := by
  have hanswer := (adequate_within colorSite.oracle 100).resolve .host [] (.name "C") (by decide)
  exact (Option.some.inj hanswer).symm

theorem isModel_color : isModel colorSite (head "C" (.name "Color")).positionalBases = .ok false := by
  change isModel colorSite [.name "Color"] = .ok false
  rw [isModel_cons rfl]
  have hanswer := (adequate_within colorSite.oracle 100).resolve .host [] (.name "Color") (by decide)
  have htype : colorSite.oracle.typeOf (.name "Color") = .ok (some (classType models
      ⟨"Color", [.name "Loop", .name "Enum"], []⟩ (some "Color") true)) :=
    (Option.some.inj hanswer).symm
  exact congrArg (· >>= _) htype

end Imported

theorem enumeration_recognised_of_imported :
    ((∃ t n, Chain Imported.colorSite.oracle n
        (.name Imported.colorSite.oracle.host "C") (.named t))
        ↔ ∃ t, some (classType Imported.colorSite.oracle.host ⟨"C", [.name "Color"], []⟩ (some "C") true)
          = some t ∧ t.isEnumeration = true)
      ∧ ((∃ t n, Chain Imported.colorSite.oracle n
        (.name Imported.colorSite.oracle.host "C") (.named t)) ↔ false = false)
      ∧ ((emissionOf Imported.colorSite (Imported.head "C" (.name "Color")) true {}).1 = .ok .skip
        ↔ false = false ∨ Imported.colorSite.oracle.host.isExported "C" = false) :=
  enumeration_recognised Imported.collect_color Imported.orderly_color rfl (by decide)
    List.mem_cons_self (by
      intro base hbase
      obtain rfl := List.mem_singleton.1 hbase
      trivial)
    Imported.typeOf_color Imported.isModel_color {}

namespace Imported

def attributeBase : Expr := .attribute (.name "models") [] [] "Color"

def rootSite : Site := site "models" { origin := "", imported := some "models" } attributeBase

theorem chain_color {spelling : Option String} :
    Chain rootSite.oracle 3 (.external "models" "Color" spelling)
      (classType models ⟨"Color", [.name "Loop", .name "Enum"], []⟩ spelling true) := by
  have hpieces : dotPieces "Enum" = ["Enum"] := by decide
  have hend : Chain rootSite.oracle 1 (.name models "Enum") (.named
      { name := "Enum", origin := enumModule, spelling := some "Enum", kind := .enumeration }) :=
    .imported hpieces rfl rfl rfl rfl (.enumBase _ (by decide))
  exact .known rfl (by decide) (fun h => absurd h (by decide)) rfl
    (.providedClass rfl (List.mem_cons_of_mem _ List.mem_cons_self) hend)

theorem chain_root :
    ∃ t n, Chain rootSite.oracle n (.name rootSite.oracle.host "C") (.named t) := by
  have hpieces : dotPieces "models.Color" = ["models", "Color"] := by decide
  have hbase : ∃ t n,
      Chain rootSite.oracle n (.name rootSite.oracle.host "models.Color") (.named t) :=
    ⟨_, 4, .imported hpieces rfl rfl rfl rfl chain_color⟩
  exact (classChain_iff (by decide) rfl).2 ⟨attributeBase, List.mem_cons_self, hbase⟩

end Imported

/-- A module imported from the package around all modules is looked up under a name that begins with a
dot, so the enumeration it provides is not found. -/
theorem enumeration_missed :
    ModuleSymbols.collect (Imported.source none "models" Imported.attributeBase) "b" false
        = .ok Imported.rootSite.oracle.host
      ∧ Imported.rootSite.oracle.Tidy
      ∧ (∃ t n, Chain Imported.rootSite.oracle n
        (.name Imported.rootSite.oracle.host "C") (.named t))
      ∧ Imported.rootSite.oracle.typeOf (.name "C") = .ok (some (classType
        Imported.rootSite.oracle.host ⟨"C", [Imported.attributeBase], []⟩ (some "C") false))
      ∧ isModel Imported.rootSite [Imported.attributeBase] = .ok true := by
  have hanswer := (adequate_within Imported.rootSite.oracle 100).resolve .host [] (.name "C")
    (by decide)
  have hbase := (adequate_within Imported.rootSite.oracle 100).resolve .host []
    Imported.attributeBase (by decide)
  refine ⟨by cbv, Imported.tidy _ _ (by decide) (by decide) (by decide), Imported.chain_root,
    (Option.some.inj hanswer).symm, ?_⟩
  rw [isModel_cons rfl]
  exact congrArg (· >>= _) (Option.some.inj hbase).symm

end ModelMetadata
