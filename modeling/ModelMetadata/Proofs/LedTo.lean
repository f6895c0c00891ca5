import ModelMetadata.Proofs.Chains

/-!
What the oracle finds is led to. Tables are in order when modules are told apart by their names and a
name is bound to one thing; then every answer of a resolver that is made of enumerations stands at the
end of a chain, one link for each call. No key matters here: a path that a key cuts off only gives fewer
answers.
-/
set_option autoImplicit false
namespace ModelMetadata

open Source Oracle

/-! ## Tables in order -/

def ModuleSymbols.Binds (symbols : ModuleSymbols) (name : String) : Prop :=
  symbols.classes.contains name ∨ symbols.aliases.contains name ∨ symbols.imports.contains name

def Oracle.Knows (oracle : Oracle) (symbols : ModuleSymbols) : Prop :=
  symbols = oracle.host ∨ ∃ moduleName, oracle.projectTable? moduleName = some symbols

/-- A module name identifies one table, names are identifiers that a program can bind, and an imported
name is bound to nothing else. -/
structure Oracle.Tidy (oracle : Oracle) : Prop where
  moduleName {moduleName : String} {symbols : ModuleSymbols}
    (h : oracle.projectTable? moduleName = some symbols) : symbols.moduleName = moduleName
  host {symbols : ModuleSymbols} (h : oracle.projectTable? oracle.host.moduleName = some symbols) :
    symbols = oracle.host
  isIdentifier {symbols : ModuleSymbols} (hknown : oracle.Knows symbols) {name : String}
    (h : symbols.Binds name) : Text.isIdentifier name.toList = true
  notNone {symbols : ModuleSymbols} (hknown : oracle.Knows symbols) : ¬ symbols.Binds "None"
  once {symbols : ModuleSymbols} (hknown : oracle.Knows symbols) {name : String}
    (h : symbols.imports.contains name) :
    symbols.classes.get? name = none ∧ symbols.aliases.get? name = none

/-- Tidy tables, none of which imports from the package around all modules. -/
structure Oracle.Orderly (oracle : Oracle) : Prop extends oracle.Tidy where
  rooted {symbols : ModuleSymbols} (hknown : oracle.Knows symbols) {name imported : String}
    {binding : ImportBinding} (h : symbols.imports.get? name = some binding)
    (himported : binding.imported = some imported) : binding.origin ≠ ""

namespace Oracle.Orderly

variable {oracle : Oracle}

/-- A table in which something is found is known. -/
theorem knows_of_get? {α : Type} (oracle : Oracle) {scope : Scope} {table : ModuleSymbols → Table α}
    {name : String} {value : α} (hempty : ∀ moduleName, table { moduleName } = {})
    (h : (table (oracle.symbols scope)).get? name = some value) :
    oracle.Knows (oracle.symbols scope) := by
  cases scope with
  | host => exact .inl rfl
  | project moduleName =>
    cases ht : oracle.projectTable? moduleName with
    | none =>
      simp only [Oracle.symbols, ht, Option.getD_none, hempty] at h
      cases h
    | some external => exact .inr ⟨moduleName, by simp only [Oracle.symbols, ht, Option.getD_some]⟩

/-- Where no import is from the package around all modules, the oracle looks where names lead. -/
theorem target?_eq (horderly : oracle.Orderly) {symbols : ModuleSymbols}
    (hknown : oracle.Knows symbols) {name : String} {binding : ImportBinding} {rest : List String}
    (h : symbols.imports.get? name = some binding) :
    binding.target? rest = importTarget? binding rest := by
  unfold ImportBinding.target? importTarget?
  cases himported : binding.imported with
  | none => cases rest.getLast? <;> rfl
  | some imported =>
    have horigin : binding.origin.isEmpty = false := by
      simpa using horderly.rooted hknown h himported
    cases rest.getLast? <;>
      simp only [originPieces, horigin, Bool.false_eq_true, if_false, List.singleton_append]

end Oracle.Orderly

/-! ## What is found is led to -/

/-- What is known of a type that was found: if it is made of enumerations, a chain leads to it. -/
structure LedTo (oracle : Oracle) (question : Question) (t : ResolvedType) : Prop where
  isFull : t.isFull = true
  chain : t.isEnumerative = true → ∃ n, Chain oracle n question t

namespace LedTo

variable {oracle : Oracle} {question other : Question} {t : ResolvedType}

theorem link (h : LedTo oracle question t)
    (hlink : ∀ n, Chain oracle n question t → Chain oracle (n + 1) other t) : LedTo oracle other t :=
  ⟨h.isFull, fun ht => (h.chain ht).imp' (· + 1) hlink⟩

/-- A type that is not made of enumerations needs no chain. -/
theorem plain (hfull : t.isFull = true) (ht : t.isEnumerative = false) : LedTo oracle question t :=
  ⟨hfull, fun h => by rw [ht] at h; cases h⟩

end LedTo

structure Sound (oracle : Oracle) (next : Resolver) : Prop where
  resolve {scope : Scope} {seen : List Key} {e : Expr} {t : ResolvedType}
    (h : next.resolve scope seen e = reached (.ok (some t))) :
    LedTo oracle (.hint (oracle.symbols scope) e) t
  resolveLiteral {scope : Scope} {seen : List Key} {e : Expr} {t : ResolvedType}
    (h : next.resolveLiteral scope seen e = reached (.ok (some t))) :
    t.isFull = true ∧ t.isEnumerative = false
  resolveDotted {scope : Scope} {seen : List Key} {dotted : String} {t : ResolvedType}
    (h : next.resolveDotted scope seen dotted = reached (.ok (some t))) :
    t.isFull = true ∧ (t.isEnumerative = true → (oracle.symbols scope).specialForm? dotted = none
      ∧ ∃ n, Chain oracle n (.name (oracle.symbols scope) dotted) t)
  resolveName {scope : Scope} {seen : List Key} {dotted : String} {t : ResolvedType}
    (h : next.resolveName scope seen dotted = reached (.ok (some t))) :
    LedTo oracle (.name (oracle.symbols scope) dotted) t
  resolveExternal {seen : List Key} {origin name : String} {spelling : Option String}
    {t : ResolvedType} (h : next.resolveExternal seen origin name spelling = reached (.ok (some t))) :
    LedTo oracle (.external origin name spelling) t
  isEnumClass {scope : Scope} {seen : List Key} {className : String}
    (h : next.isEnumClass scope seen className = reached (.ok true)) :
    ∃ found base n t, (oracle.symbols scope).classes.get? className = some found
      ∧ base ∈ found.bases ∧ Chain oracle n (.name (oracle.symbols scope) (baseName base)) (.named t)

theorem plain_bareSpecial {special : String} {t : ResolvedType} (h : bareSpecial special = some t) :
    t.isFull = true ∧ t.isEnumerative = false := by
  have hbuiltin (name : String) : (ResolvedType.builtin name).isFull = true
      ∧ (ResolvedType.builtin name).isEnumerative = false := ⟨rfl, rfl⟩
  unfold bareSpecial at h
  split at h
  · exact Option.some.inj h ▸ hbuiltin _
  split at h
  · exact Option.some.inj h ▸ hbuiltin _
  split at h
  · exact Option.some.inj h ▸ hbuiltin _
  split at h
  · exact Option.some.inj h ▸ hbuiltin _
  · cases h

/-- The literals of a literal type, none of them an enumeration. -/
theorem reached_literals {oracle : Oracle} {next : Resolver} (h : Sound oracle next) {scope : Scope}
    {seen : List Key} {members : List Expr} {before? : Option (List ResolvedType)}
    {types : List ResolvedType}
    (hfold : members.foldlM (addLiteral next scope seen) before? = reached (.ok (some types))) :
    ∃ before more, before? = some before ∧ types = before ++ more ∧ more.length = members.length
      ∧ ∀ t ∈ more, t.isFull = true ∧ t.isEnumerative = false := by
  induction members generalizing before? with
  | nil =>
    cases hfold
    exact ⟨types, [], rfl, (List.append_nil _).symm, rfl, by simp⟩
  | cons member rest ih =>
    rw [List.foldlM_cons] at hfold
    obtain ⟨after?, hafter, hfold⟩ := reached_bind_eq_ok hfold
    obtain ⟨after, more, rfl, rfl, hlength, hmore⟩ := ih hfold
    cases before? with
    | none => cases hafter
    | some before =>
      obtain ⟨found, hfound, hafter⟩ := reached_bind_eq_ok hafter
      cases found with
      | none => cases hafter
      | some t =>
        cases hafter
        refine ⟨before, t :: more, rfl, by simp, by simp [hlength], ?_⟩
        exact List.forall_mem_cons.2 ⟨h.resolveLiteral hfound, hmore⟩

def addBase (f : Expr → Attempt (Option ResolvedType)) (isEnum : Bool) (base : Expr) : Attempt Bool :=
  if isEnum then reached (.ok true)
  else do
    let resolved ← f base
    match resolved with
    | some (.named t) => return t.isEnumeration
    | _ => return false

theorem exists_base_of_true {f : Expr → Attempt (Option ResolvedType)} {bases : List Expr}
    {start : Bool} (h : bases.foldlM (addBase f) start = reached (.ok true)) :
    start = true ∨ ∃ base ∈ bases, ∃ t, f base = reached (.ok (some (.named t)))
      ∧ t.isEnumeration = true := by
  induction bases generalizing start with
  | nil =>
    cases h
    exact .inl rfl
  | cons base rest ih =>
    rw [List.foldlM_cons] at h
    obtain ⟨isEnum, hfirst, hrest⟩ := reached_bind_eq_ok h
    cases start with
    | true => exact .inl rfl
    | false =>
      right
      obtain rfl | ⟨other, hother, t, ht⟩ := ih hrest
      · obtain ⟨resolved, hresolved, hfirst⟩ := reached_bind_eq_ok hfirst
        split at hfirst
        · exact ⟨base, List.mem_cons_self, _, hresolved, Except.ok.inj (Option.some.inj hfirst)⟩
        · cases hfirst
      · exact ⟨other, List.mem_cons_of_mem _ hother, t, ht⟩

/-- A string's text stands in a string literal, parentheses aside. -/
theorem isQuotation_of_stringValue {e : Expr} {text : String}
    (h : stringValue e = .ok (some text))
    (hparen : ∀ afterOpen inner beforeClose, e = .paren afterOpen inner beforeClose → False) :
    e.IsQuotation := by
  cases e with
  | string token => trivial
  | adjacent first gap rest => trivial
  | paren afterOpen inner beforeClose => exact (hparen _ _ _ rfl).elim
  | _ => cases h

section Soundness

variable {oracle : Oracle} {next : Resolver} (h : Sound oracle next)
include h

theorem stepSubscript_sound {scope : Scope} {seen : List Key} {owner : Expr} {before close : Gap}
    {entries : List Entry} {t : ResolvedType}
    (hstep : oracle.stepResolve next scope seen (.subscript owner before entries close)
      = reached (.ok (some t))) :
    LedTo oracle (.hint (oracle.symbols scope) (.subscript owner before entries close)) t := by
  unfold stepResolve at hstep
  dsimp only at hstep
  split at hstep
  · rename_i hplain
    exact (h.resolve hstep).link fun n hn => .generic hplain hn
  rename_i special hspecial
  split at hstep
  · cases hstep
  rename_i first rest hindices
  split at hstep
  · rename_i hwrapper
    exact (h.resolve hstep).link fun n hn => .wrapper hspecial hwrapper (by rw [hindices]; rfl) hn
  have harray {found : Option ResolvedType}
      (hfound : next.resolve scope seen first = reached (.ok found))
      (ht : found.map .array = some t) :
      LedTo oracle (.hint (oracle.symbols scope) (.subscript owner before entries close)) t := by
    obtain ⟨element, -, rfl⟩ := Option.map_eq_some_iff.1 ht
    exact .plain rfl rfl
  split at hstep
  · obtain ⟨found, hfound, hstep⟩ := reached_bind_eq_ok hstep
    exact harray hfound (Except.ok.inj (Option.some.inj hstep))
  split at hstep
  · split at hstep
    · obtain ⟨found, hfound, hstep⟩ := reached_bind_eq_ok hstep
      exact harray hfound (Except.ok.inj (Option.some.inj hstep))
    · cases hstep
  split at hstep
  · cases hstep
    exact .plain rfl rfl
  split at hstep
  · obtain ⟨found, hfound, hstep⟩ := reached_bind_eq_ok hstep
    obtain ⟨inner, rfl, rfl⟩ := Option.map_eq_some_iff.1 (Except.ok.inj (Option.some.inj hstep))
    have hfull : ∀ t ∈ [inner, .none], t.isFull = true := by simp [(h.resolve hfound).isFull]; rfl
    refine .plain (ResolvedType.isFull_ofMembers (by simp) hfull) (Bool.eq_false_iff.2 fun ht => ?_)
    have hnone := (ResolvedType.isEnumerative_ofMembers (by simp) hfull).1 ht .none (by simp)
    cases hnone
  split at hstep
  · rename_i hunion
    obtain ⟨found, hfound, hstep⟩ := reached_bind_eq_ok hstep
    obtain ⟨types, htypes, rfl⟩ := Option.map_eq_some_iff.1 (Except.ok.inj (Option.some.inj hstep))
    obtain ⟨rfl, hmembers⟩ := reached_members hfound htypes
    have hne : Entry.indices entries ≠ [] := by simp [hindices]
    have hled member (hmember : member ∈ Entry.indices entries) := h.resolve (hmembers member hmember)
    have hfull : ∀ t ∈ (Entry.indices entries).map
        (fun member => reachedType (next.resolve scope seen member)), t.isFull = true := by
      simpa using fun member hmember => (hled member hmember).isFull
    refine ⟨ResolvedType.isFull_ofMembers (by simpa) hfull, fun ht => ?_⟩
    have hall := (ResolvedType.isEnumerative_ofMembers (by simpa) hfull).1 ht
    have hchains : ∀ member, ∃ n, member ∈ Entry.indices entries → Chain oracle n
        (.hint (oracle.symbols scope) member) (reachedType (next.resolve scope seen member)) := by
      intro member
      by_cases hmember : member ∈ Entry.indices entries
      · obtain ⟨n, hn⟩ := (hled member hmember).chain (hall _ (List.mem_map_of_mem hmember))
        exact ⟨n, fun _ => hn⟩
      · exact ⟨0, fun h => absurd h hmember⟩
    obtain ⟨lengths, hlengths⟩ := Classical.skolem.1 hchains
    exact ⟨_, .union (eq_of_beq hunion ▸ hspecial) hne
      (fun member hmember => le_foldr_max (List.mem_map_of_mem (f := lengths) hmember)) hlengths⟩
  split at hstep
  · rename_i hunion hliteral
    obtain ⟨found, hfound, hstep⟩ := reached_bind_eq_ok hstep
    obtain ⟨types, rfl, rfl⟩ := Option.map_eq_some_iff.1 (Except.ok.inj (Option.some.inj hstep))
    obtain ⟨before, more, hbefore, rfl, hlength, hmore⟩ := reached_literals h hfound
    cases hbefore
    rw [hindices] at hlength
    obtain ⟨t, more, rfl⟩ := List.exists_cons_of_length_eq_add_one hlength
    have hfull := fun t ht => (hmore t ht).1
    refine .plain (ResolvedType.isFull_ofMembers (by simp) hfull) (Bool.eq_false_iff.2 fun ht => ?_)
    have hfirst := (ResolvedType.isEnumerative_ofMembers (by simp) hfull).1 ht t List.mem_cons_self
    rw [(hmore t List.mem_cons_self).2] at hfirst
    cases hfirst
  split at hstep
  · cases hstep
    exact .plain rfl rfl
  · cases hstep

theorem stepResolve_sound {scope : Scope} {seen : List Key} {e : Expr} {t : ResolvedType}
    (hstep : oracle.stepResolve next scope seen e = reached (.ok (some t))) :
    LedTo oracle (.hint (oracle.symbols scope) e) t := by
  unfold stepResolve at hstep
  split at hstep
  case h_1 => exact (h.resolve hstep).link fun n hn => .paren hn
  case h_2 =>
    cases hstep
    exact .plain rfl rfl
  case h_3 text hnone =>
    obtain ⟨hfull, hchain⟩ := h.resolveDotted hstep
    refine ⟨hfull, fun ht => ?_⟩
    obtain ⟨hplain, n, hn⟩ := hchain ht
    exact ⟨n + 1, .bare (fun heq => hnone (heq ▸ rfl)) hplain hn⟩
  case h_4 =>
    obtain ⟨hfull, hchain⟩ := h.resolveDotted hstep
    refine ⟨hfull, fun ht => ?_⟩
    obtain ⟨hplain, n, hn⟩ := hchain ht
    exact ⟨n + 1, .dotted hplain hn⟩
  case h_5 left _ _ right =>
    obtain ⟨s?, hs, hstep⟩ := reached_bind_eq_ok hstep
    obtain ⟨t?, ht, hstep⟩ := reached_bind_eq_ok hstep
    cases s? with
    | none => cases hstep
    | some s =>
      cases t? with
      | none => cases hstep
      | some t =>
        cases hstep
        have hs := h.resolve hs
        have ht := h.resolve ht
        have hfull : ∀ t' ∈ [s, t], t'.isFull = true := by simp [hs.isFull, ht.isFull]
        refine ⟨ResolvedType.isFull_ofMembers (by simp) hfull, fun hall => ?_⟩
        have hall := (ResolvedType.isEnumerative_ofMembers (by simp) hfull).1 hall
        obtain ⟨n, hn⟩ := hs.chain (hall s (by simp))
        obtain ⟨m, hm⟩ := ht.chain (hall t (by simp))
        exact ⟨_, .bar hn hm⟩
  case h_6 => exact stepSubscript_sound h hstep
  case h_7 =>
    have hcall (ofNone ofDict : Bool)
        (hreached : (if ofNone then reached (.ok (some .none))
          else if ofDict then reached (.ok (some (.builtin "dict"))) else reached (.ok none))
            = reached (.ok (some t))) (question : Question) : LedTo oracle question t := by
      cases ofNone with
      | true =>
        cases hreached
        exact .plain rfl rfl
      | false =>
        cases ofDict with
        | true =>
          cases hreached
          exact .plain rfl rfl
        | false => cases hreached
    exact hcall _ _ hstep _
  case h_8 =>
    cases hstep
    exact .plain rfl rfl
  case h_9 hparen _ _ _ _ _ _ _ =>
    obtain ⟨text?, htext, hstep⟩ := reached_bind_eq_ok hstep
    cases text? with
    | none => cases hstep
    | some text =>
      obtain ⟨inner?, hinner, hstep⟩ := reached_bind_eq_ok hstep
      cases inner? with
      | none => cases hstep
      | some inner =>
        have htext := Option.some.inj htext
        have hquotation := isQuotation_of_stringValue htext hparen
        exact (h.resolve hstep).link fun n hn =>
          .quoted hquotation htext (Option.some.inj hinner) hn

omit h in
theorem stepLiteral_sound {scope : Scope} {seen : List Key} {e : Expr} {t : ResolvedType}
    (hstep : stepLiteral next scope seen e = reached (.ok (some t))) :
    t.isFull = true ∧ t.isEnumerative = false := by
  unfold stepLiteral at hstep
  split at hstep
  · cases hstep
    exact ⟨rfl, rfl⟩
  obtain ⟨value?, hvalue, hstep⟩ := reached_bind_eq_ok hstep
  cases value? with
  | some value =>
    cases hstep
    exact ⟨rfl, rfl⟩
  | none =>
    dsimp only at hstep
    split at hstep
    · cases hstep
    obtain ⟨owner?, howner, hstep⟩ := reached_bind_eq_ok hstep
    split at hstep
    · split at hstep
      · cases hstep
        exact ⟨rfl, rfl⟩
      · cases hstep
    · cases hstep

theorem stepDotted_sound {scope : Scope} {seen : List Key} {dotted : String} {t : ResolvedType}
    (hstep : oracle.stepDotted next scope seen dotted = reached (.ok (some t))) :
    t.isFull = true ∧ (t.isEnumerative = true → (oracle.symbols scope).specialForm? dotted = none
      ∧ ∃ n, Chain oracle n (.name (oracle.symbols scope) dotted) t) := by
  unfold stepDotted at hstep
  split at hstep
  · obtain ⟨hfull, hplain⟩ := plain_bareSpecial (Except.ok.inj (Option.some.inj hstep))
    refine ⟨hfull, fun ht => ?_⟩
    rw [hplain] at ht
    cases ht
  · rename_i hplain
    have hled := h.resolveName hstep
    exact ⟨hled.isFull, fun ht => ⟨hplain, hled.chain ht⟩⟩

theorem stepName_sound (horderly : oracle.Orderly) {scope : Scope} {seen : List Key}
    {dotted : String} {t : ResolvedType}
    (hstep : oracle.stepName next scope seen dotted = reached (.ok (some t))) :
    LedTo oracle (.name (oracle.symbols scope) dotted) t := by
  unfold stepName at hstep
  split at hstep
  · cases hstep
  split at hstep
  · cases hstep
  rename_i head rest hpieces
  split at hstep
  · rename_i found hfound
    split at hstep
    · rename_i hrest
      obtain rfl := List.isEmpty_iff.1 hrest
      obtain ⟨isEnum, hisEnum, hstep⟩ := reached_bind_eq_ok hstep
      cases hstep
      cases isEnum with
      | false => exact .plain rfl rfl
      | true =>
        obtain ⟨found', base, n, t, hclass, hbase, hn⟩ := h.isEnumClass hisEnum
        rw [hfound] at hclass
        cases hclass
        exact ⟨rfl, fun _ => ⟨n + 1, .localClass hpieces hfound hbase hn⟩⟩
    · cases hstep
      exact .plain rfl rfl
  rename_i hclass
  split at hstep
  · rename_i value hvalue
    have halias := get?_of_bareAlias? hvalue
    unfold bareAlias? at hvalue
    split at hvalue
    · rename_i hrest
      obtain rfl := List.isEmpty_iff.1 hrest
      split at hstep
      · cases hstep
      · exact (h.resolve hstep).link fun n hn => .localAlias hpieces hclass halias hn
    · cases hvalue
  rename_i halias
  split at hstep
  · rename_i binding himport
    split at hstep
    · rename_i origin name htarget
      have hknown := Oracle.Orderly.knows_of_get? oracle (fun _ => rfl) himport
      rw [← horderly.target?_eq hknown himport] at htarget
      exact (h.resolveExternal hstep).link fun n hn =>
        .imported hpieces hclass halias himport htarget hn
    · cases hstep
  · split at hstep
    · cases hstep
      exact .plain rfl rfl
    · cases hstep

theorem stepExternal_sound {seen : List Key} {origin name : String} {spelling : Option String}
    {t : ResolvedType}
    (hstep : oracle.stepExternal next seen origin name spelling = reached (.ok (some t))) :
    LedTo oracle (.external origin name spelling) t := by
  unfold stepExternal at hstep
  dsimp only at hstep
  split at hstep
  · obtain ⟨hfull, hplain⟩ := plain_bareSpecial (Except.ok.inj (Option.some.inj hstep))
    exact .plain hfull hplain
  rename_i htyping
  split at hstep
  · have hbuiltin := Except.ok.inj (Option.some.inj hstep)
    split at hbuiltin
    · cases hbuiltin
      exact .plain rfl rfl
    · cases hbuiltin
  rename_i hbuiltins
  split at hstep
  · rename_i hbase
    simp only [Bool.and_eq_true, beq_iff_eq] at hbase
    obtain ⟨rfl, hname⟩ := hbase
    cases hstep
    exact ⟨rfl, fun _ => ⟨0, .enumBase spelling hname⟩⟩
  rename_i hbase
  have hother : origin = enumModule → enumBases.contains name = false := by
    rintro rfl
    simpa using hbase
  split at hstep
  · cases hstep
    exact .plain rfl rfl
  rename_i external htable
  have hsymbols : oracle.symbols (.project origin) = external := by
    simp only [Oracle.symbols, htable, Option.getD_some]
  -- What the table provides, the module is led to by one more link.
  suffices hprovided : LedTo oracle (.provided external name spelling) t from
    hprovided.link fun n hn =>
      .known (Bool.eq_false_iff.2 htyping) (by simpa using hbuiltins) hother htable hn
  split at hstep
  · cases hstep
    exact .plain rfl rfl
  split at hstep
  · rename_i found hclass
    obtain ⟨isEnum, hisEnum, hstep⟩ := reached_bind_eq_ok hstep
    cases hstep
    cases isEnum with
    | false => exact .plain rfl rfl
    | true =>
      obtain ⟨found', base, n, t, hclass', hbase, hn⟩ := h.isEnumClass hisEnum
      rw [hsymbols] at hclass' hn
      rw [hclass] at hclass'
      cases hclass'
      exact ⟨rfl, fun _ => ⟨n + 1, .providedClass hclass hbase hn⟩⟩
  rename_i hclass
  split at hstep
  · rename_i value halias
    obtain ⟨found?, hfound, hstep⟩ := reached_bind_eq_ok hstep
    obtain ⟨inner, rfl, rfl⟩ := Option.map_eq_some_iff.1 (Except.ok.inj (Option.some.inj hstep))
    have hled := h.resolve hfound
    rw [hsymbols] at hled
    refine ⟨by rw [ResolvedType.isFull_unspelled]; exact hled.isFull, fun ht => ?_⟩
    rw [ResolvedType.isEnumerative_unspelled] at ht
    obtain ⟨n, hn⟩ := hled.chain ht
    exact ⟨n + 1, .providedAlias hclass halias hn⟩
  rename_i halias
  split at hstep
  · rename_i binding himport
    obtain ⟨found?, hfound, hstep⟩ := reached_bind_eq_ok hstep
    obtain ⟨inner, rfl, rfl⟩ := Option.map_eq_some_iff.1 (Except.ok.inj (Option.some.inj hstep))
    have hled := h.resolveName hfound
    rw [hsymbols] at hled
    refine ⟨by rw [isFull_respelled]; exact hled.isFull, fun ht => ?_⟩
    rw [isEnumerative_respelled] at ht
    obtain ⟨n, hn⟩ := hled.chain ht
    exact ⟨n + 1, .passedOn hclass halias himport hn⟩
  · cases hstep
    exact .plain rfl rfl

theorem stepEnumClass_sound {scope : Scope} {seen : List Key} {className : String}
    (hstep : oracle.stepEnumClass next scope seen className = reached (.ok true)) :
    ∃ found base n t, (oracle.symbols scope).classes.get? className = some found
      ∧ base ∈ found.bases
      ∧ Chain oracle n (.name (oracle.symbols scope) (baseName base)) (.named t) := by
  unfold stepEnumClass at hstep
  split at hstep
  · cases hstep
  rename_i found hclass
  split at hstep
  · cases hstep
  obtain hfalse | ⟨base, hbase, t, ht, hisEnumeration⟩ := exists_base_of_true hstep
  · cases hfalse
  · obtain ⟨n, hn⟩ := (h.resolveName ht).chain hisEnumeration
    exact ⟨found, base, n, t, hclass, hbase, hn⟩

end Soundness

theorem sound_within {oracle : Oracle} (horderly : oracle.Orderly) (depth : Nat) :
    Sound oracle (oracle.within depth) := by
  induction depth with
  | zero => constructor <;> intros <;> contradiction
  | succ depth ih =>
    exact
      { resolve := stepResolve_sound ih
        resolveLiteral := stepLiteral_sound
        resolveDotted := stepDotted_sound ih
        resolveName := stepName_sound ih horderly
        resolveExternal := stepExternal_sound ih
        isEnumClass := stepEnumClass_sound ih }

end ModelMetadata
