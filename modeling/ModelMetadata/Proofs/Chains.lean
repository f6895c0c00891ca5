import ModelMetadata.ClassPass
import ModelMetadata.Proofs.Resolution

/-!
How names lead to enumerations. A chain goes from a class to one of its bases, from an alias to what it
stands for, from an imported name to the module that provides it and from there to what that module
took it from, until it comes to a base that the enumeration module defines. It says nothing of keys or
of the order in which bases are tried.
-/
set_option autoImplicit false
namespace ModelMetadata

open Source Oracle

/-! ## Types made of enumerations -/

namespace ResolvedType

mutual

/-- An enumeration, or a union of nothing but enumerations. -/
def isEnumerative : ResolvedType → Bool
  | .named t => t.isEnumeration
  | .union members => !members.isEmpty && areEnumerative members
  | _ => false

def areEnumerative : List ResolvedType → Bool
  | [] => true
  | t :: rest => t.isEnumerative && areEnumerative rest

end

mutual

/-- A type in which no union is empty. -/
def isFull : ResolvedType → Bool
  | .union members => !members.isEmpty && areFull members
  | _ => true

def areFull : List ResolvedType → Bool
  | [] => true
  | t :: rest => t.isFull && areFull rest

end

theorem areEnumerative_eq (members : List ResolvedType) :
    areEnumerative members = members.all isEnumerative := by
  induction members with
  | nil => rfl
  | cons t rest ih => simp only [areEnumerative, List.all_cons, ih]

theorem areFull_eq (members : List ResolvedType) : areFull members = members.all isFull := by
  induction members with
  | nil => rfl
  | cons t rest ih => simp only [areFull, List.all_cons, ih]

theorem isEnumerative_union {members : List ResolvedType} :
    (union members).isEnumerative = true
      ↔ members ≠ [] ∧ ∀ t ∈ members, t.isEnumerative = true := by
  simp [isEnumerative, areEnumerative_eq]

theorem isFull_union {members : List ResolvedType} :
    (union members).isFull = true ↔ members ≠ [] ∧ ∀ t ∈ members, t.isFull = true := by
  simp [isFull, areFull_eq]

theorem branches_ne_nil {t : ResolvedType} (h : t.isFull = true) : t.branches ≠ [] := by
  cases t with
  | union members => exact (isFull_union.1 h).1
  | _ => simp [branches]

theorem isFull_of_mem_branches {t member : ResolvedType} (h : member.isFull = true)
    (ht : t ∈ member.branches) : t.isFull = true := by
  refine forall_branches (P := fun t => t.isFull = true) h ?_ t ht
  rintro members rfl
  exact (isFull_union.1 h).2

/-- A type whose branches are enumerations is made of enumerations. -/
theorem isEnumerative_iff_branches {t : ResolvedType} (h : t.isFull = true) :
    t.isEnumerative = true ↔ ∀ branch ∈ t.branches, branch.isEnumerative = true := by
  cases t with
  | union members =>
    have hne := (isFull_union.1 h).1
    simp [isEnumerative_union, branches, hne]
  | _ => simp [branches]

mutual

/-- Types that are the same are made of enumerations together. -/
theorem isEnumerative_of_same (s t : ResolvedType) (h : s.same t = true) :
    s.isEnumerative = t.isEnumerative := by
  cases s with
  | named s =>
    cases t with
    | named t =>
      simp only [same, NamedType.same, Bool.and_eq_true, beq_iff_eq] at h
      simp only [isEnumerative, NamedType.isEnumeration, h.2]
    | _ => simp [same] at h
  | union ss =>
    cases t with
    | union ts =>
      simp only [same] at h
      obtain ⟨hempty, hall⟩ := areEnumerative_of_sameAll ss ts h
      simp only [isEnumerative, hempty, hall]
    | _ => simp [same] at h
  | array s =>
    cases t with
    | array t => rfl
    | _ => simp [same] at h
  | literal x s =>
    cases t with
    | literal y t => rfl
    | _ => simp [same] at h
  | enumMember s x =>
    cases t with
    | enumMember t y => rfl
    | _ => simp [same] at h
  | none =>
    cases t with
    | none => rfl
    | _ => simp [same] at h
termination_by structural s

theorem areEnumerative_of_sameAll (ss ts : List ResolvedType) (h : sameAll ss ts = true) :
    ss.isEmpty = ts.isEmpty ∧ areEnumerative ss = areEnumerative ts := by
  cases ss with
  | nil =>
    cases ts with
    | nil => exact ⟨rfl, rfl⟩
    | cons t ts => simp [sameAll] at h
  | cons s ss =>
    cases ts with
    | nil => simp [sameAll] at h
    | cons t ts =>
      simp only [sameAll, Bool.and_eq_true] at h
      have hfirst := isEnumerative_of_same s t h.1
      have hrest := (areEnumerative_of_sameAll ss ts h.2).2
      exact ⟨rfl, by simp only [areEnumerative, hfirst, hrest]⟩
termination_by structural ss

end

/-- Every member is kept or the same as a member that is. -/
theorem exists_same_of_mem {t : ResolvedType} {members : List ResolvedType} (h : t ∈ members) :
    ∃ s ∈ distinct members, s = t ∨ t.same s = true := by
  suffices hfold : ∀ kept : List ResolvedType, (t ∈ members ∨ ∃ s ∈ kept, s = t ∨ t.same s = true) →
      ∃ s ∈ members.foldl (fun kept t => if kept.any fun s => t.same s then kept else kept ++ [t]) kept,
        s = t ∨ t.same s = true from hfold [] (.inl h)
  clear h
  induction members with
  | nil =>
    rintro kept (h | h)
    · cases h
    · exact h
  | cons first rest ih =>
    intro kept h
    refine ih _ ?_
    dsimp only
    obtain h | ⟨s, hs, hsame⟩ := h
    · obtain rfl | h := List.mem_cons.1 h
      · right
        split
        · rename_i hany
          obtain ⟨s, hs, hsame⟩ := List.any_eq_true.1 hany
          exact ⟨s, hs, .inr hsame⟩
        · exact ⟨t, by simp, .inl rfl⟩
      · exact .inl h
    · right
      split
      · exact ⟨s, hs, hsame⟩
      · exact ⟨s, List.mem_append_left _ hs, hsame⟩

theorem distinct_ne_nil {members : List ResolvedType} (h : members ≠ []) : distinct members ≠ [] := by
  obtain ⟨t, ht⟩ := List.exists_mem_of_ne_nil members h
  obtain ⟨s, hs, -⟩ := exists_same_of_mem ht
  exact List.ne_nil_of_mem hs

/-- The members of a union are those that are kept. -/
theorem forall_ofMembers {P : ResolvedType → Prop} {members : List ResolvedType}
    (hunion : ∀ kept : List ResolvedType, P (union kept) ↔ kept ≠ [] ∧ ∀ t ∈ kept, P t) :
    P (ofMembers members) ↔ members.flatMap branches ≠ []
      ∧ ∀ t ∈ distinct (members.flatMap branches), P t := by
  have hempty : distinct (members.flatMap branches) ≠ [] ↔ members.flatMap branches ≠ [] :=
    ⟨fun h hnil => h (by rw [hnil]; rfl), distinct_ne_nil⟩
  rw [← hempty]
  unfold ofMembers
  split
  · rename_i only heq
    simp [heq]
  · rw [hunion]

theorem isFull_ofMembers {members : List ResolvedType} (hne : members ≠ [])
    (h : ∀ t ∈ members, t.isFull = true) : (ofMembers members).isFull = true := by
  refine (forall_ofMembers (P := fun t => t.isFull = true) fun _ => isFull_union).2 ⟨?_, ?_⟩
  · obtain ⟨t, ht⟩ := List.exists_mem_of_ne_nil members hne
    obtain ⟨branch, hbranch⟩ := List.exists_mem_of_ne_nil _ (branches_ne_nil (h t ht))
    exact List.ne_nil_of_mem (List.mem_flatMap.2 ⟨t, ht, hbranch⟩)
  · intro branch hbranch
    obtain ⟨t, ht, hbranch⟩ := List.mem_flatMap.1 (mem_of_mem_distinct hbranch)
    exact isFull_of_mem_branches (h t ht) hbranch

/-- A union is made of enumerations just when all its members are. -/
theorem isEnumerative_ofMembers {members : List ResolvedType} (hne : members ≠ [])
    (h : ∀ t ∈ members, t.isFull = true) :
    (ofMembers members).isEnumerative = true ↔ ∀ t ∈ members, t.isEnumerative = true := by
  rw [forall_ofMembers (P := fun t => t.isEnumerative = true) fun _ => isEnumerative_union]
  constructor
  · rintro ⟨-, hkept⟩ t ht
    refine (isEnumerative_iff_branches (h t ht)).2 fun branch hbranch => ?_
    obtain ⟨s, hs, hsame⟩ := exists_same_of_mem (List.mem_flatMap.2 ⟨t, ht, hbranch⟩)
    obtain rfl | hsame := hsame
    · exact hkept s hs
    · exact (isEnumerative_of_same branch s hsame).trans (hkept s hs)
  · intro hall
    refine ⟨?_, fun branch hbranch => ?_⟩
    · obtain ⟨t, ht⟩ := List.exists_mem_of_ne_nil members hne
      obtain ⟨branch, hbranch⟩ := List.exists_mem_of_ne_nil _ (branches_ne_nil (h t ht))
      exact List.ne_nil_of_mem (List.mem_flatMap.2 ⟨t, ht, hbranch⟩)
    · obtain ⟨t, ht, hbranch⟩ := List.mem_flatMap.1 (mem_of_mem_distinct hbranch)
      exact (isEnumerative_iff_branches (h t ht)).1 (hall t ht) branch hbranch

theorem isEnumeration_unspelledName (t : NamedType) :
    (unspelledName t).isEnumeration = t.isEnumeration := by
  unfold unspelledName
  split <;> rfl

mutual

theorem isEnumerative_unspelled (t : ResolvedType) : t.unspelled.isEnumerative = t.isEnumerative := by
  cases t with
  | named t => exact isEnumeration_unspelledName t
  | union members =>
    obtain ⟨hempty, hall⟩ := areEnumerative_unspelledAll members
    simp only [unspelled, isEnumerative, hempty, hall]
  | _ => rfl
termination_by structural t

theorem areEnumerative_unspelledAll (members : List ResolvedType) :
    (unspelledAll members).isEmpty = members.isEmpty
      ∧ areEnumerative (unspelledAll members) = areEnumerative members := by
  cases members with
  | nil => exact ⟨rfl, rfl⟩
  | cons t rest =>
    have hfirst := isEnumerative_unspelled t
    have hrest := (areEnumerative_unspelledAll rest).2
    exact ⟨rfl, by simp only [unspelledAll, areEnumerative, hfirst, hrest]⟩
termination_by structural members

end

mutual

theorem isFull_unspelled (t : ResolvedType) : t.unspelled.isFull = t.isFull := by
  cases t with
  | union members =>
    obtain ⟨hempty, hall⟩ := areFull_unspelledAll members
    simp only [unspelled, isFull, hempty, hall]
  | _ => rfl
termination_by structural t

theorem areFull_unspelledAll (members : List ResolvedType) :
    (unspelledAll members).isEmpty = members.isEmpty
      ∧ areFull (unspelledAll members) = areFull members := by
  cases members with
  | nil => exact ⟨rfl, rfl⟩
  | cons t rest =>
    have hfirst := isFull_unspelled t
    have hrest := (areFull_unspelledAll rest).2
    exact ⟨rfl, by simp only [unspelledAll, areFull, hfirst, hrest]⟩
termination_by structural members

end

end ResolvedType

theorem isEnumerative_respelled (spelling : Option String) (t : ResolvedType) :
    (respelled spelling t).isEnumerative = t.isEnumerative := by
  cases t with
  | named t =>
    unfold respelled
    dsimp only
    split <;> rfl
  | _ => exact ResolvedType.isEnumerative_unspelled _

theorem isFull_respelled (spelling : Option String) (t : ResolvedType) :
    (respelled spelling t).isFull = t.isFull := by
  cases t with
  | named t => rfl
  | _ => exact ResolvedType.isFull_unspelled _

/-! ## Chains -/

/-- What a name or an expression is asked to denote, and where. -/
inductive Question where
  | hint (symbols : ModuleSymbols) (e : Expr)
  /-- A dotted name that is no special form. -/
  | name (symbols : ModuleSymbols) (dotted : String)
  /-- A name that a module provides to one where it is spelled in some way. -/
  | provided (symbols : ModuleSymbols) (name : String) (spelling : Option String)
  /-- A name of some module, which a table may be known of. -/
  | external (origin name : String) (spelling : Option String)

/-- The first pieces of the names of what an import takes from a module. The package around all modules
has no name. -/
def originPieces (origin : String) : List String := if origin.isEmpty then [] else [origin]

/-- The module and the name that a dotted name with an imported head stands for; a module by itself is
no type. -/
def ImportBinding.target? (binding : ImportBinding) (rest : List String) :
    Option (String × String) :=
  match binding.imported, rest.getLast? with
  | none, none => none
  | none, some last => some (joinDots (binding.origin :: rest.dropLast), last)
  | some imported, none => some (binding.origin, imported)
  | some imported, some last =>
    some (joinDots (originPieces binding.origin ++ imported :: rest.dropLast), last)

def Source.Expr.IsQuotation : Expr → Prop
  | .string _ => True
  | .adjacent _ _ _ => True
  | _ => False

/-- A chain from a question to a type made of enumerations. It is `n` links long; of the chains that a
union needs, the longest counts. -/
inductive Chain (oracle : Oracle) : Nat → Question → ResolvedType → Prop where
  | paren {n : Nat} {symbols : ModuleSymbols} {afterOpen beforeClose : Gap} {inner : Expr}
    {t : ResolvedType} (link : Chain oracle n (.hint symbols inner) t) :
    Chain oracle (n + 1) (.hint symbols (.paren afterOpen inner beforeClose)) t
  | bare {n : Nat} {symbols : ModuleSymbols} {text : String} {t : ResolvedType}
    (hnone : text ≠ "None") (hplain : symbols.specialForm? text = none)
    (link : Chain oracle n (.name symbols text) t) :
    Chain oracle (n + 1) (.hint symbols (.name text)) t
  | dotted {n : Nat} {symbols : ModuleSymbols} {owner : Expr} {beforeDot afterDot : Gap}
    {attr : String} {t : ResolvedType}
    (hplain : symbols.specialForm? (Expr.attribute owner beforeDot afterDot attr).dottedName = none)
    (link : Chain oracle n
      (.name symbols (Expr.attribute owner beforeDot afterDot attr).dottedName) t) :
    Chain oracle (n + 1) (.hint symbols (.attribute owner beforeDot afterDot attr)) t
  | bar {n m : Nat} {symbols : ModuleSymbols} {left right : Expr} {beforeOp afterOp : Gap}
    {s t : ResolvedType} (hleft : Chain oracle n (.hint symbols left) s)
    (hright : Chain oracle m (.hint symbols right) t) :
    Chain oracle (max n m + 1) (.hint symbols (.binary left beforeOp "|" afterOp right))
      (ResolvedType.ofMembers [s, t])
  | generic {n : Nat} {symbols : ModuleSymbols} {owner : Expr} {before close : Gap}
    {entries : List Entry} {t : ResolvedType}
    (hplain : symbols.specialForm? owner.dottedName = none)
    (link : Chain oracle n (.hint symbols owner) t) :
    Chain oracle (n + 1) (.hint symbols (.subscript owner before entries close)) t
  | wrapper {n : Nat} {symbols : ModuleSymbols} {owner first : Expr} {before close : Gap}
    {entries : List Entry} {special : String} {t : ResolvedType}
    (hspecial : symbols.specialForm? owner.dottedName = some special)
    (hwrapper : wrapperForms.contains special = true)
    (hfirst : (Entry.indices entries).head? = some first)
    (link : Chain oracle n (.hint symbols first) t) :
    Chain oracle (n + 1) (.hint symbols (.subscript owner before entries close)) t
  | union {n : Nat} {symbols : ModuleSymbols} {owner : Expr} {before close : Gap}
    {entries : List Entry} {lengths : Expr → Nat} {types : Expr → ResolvedType}
    (hspecial : symbols.specialForm? owner.dottedName = some "Union")
    (hindices : Entry.indices entries ≠ [])
    (hlengths : ∀ member ∈ Entry.indices entries, lengths member ≤ n)
    (links : ∀ member ∈ Entry.indices entries,
      Chain oracle (lengths member) (.hint symbols member) (types member)) :
    Chain oracle (n + 1) (.hint symbols (.subscript owner before entries close))
      (ResolvedType.ofMembers ((Entry.indices entries).map types))
  | quoted {n : Nat} {symbols : ModuleSymbols} {e inner : Expr} {text : String} {t : ResolvedType}
    (hquotation : e.IsQuotation) (htext : stringValue e = .ok (some text))
    (hinner : quotedIn? text = .ok (some inner))
    (link : Chain oracle n (.hint symbols inner) t) :
    Chain oracle (n + 1) (.hint symbols e) t
  | localClass {n : Nat} {symbols : ModuleSymbols} {dotted className : String}
    {found : ClassSymbol} {base : Expr} {t : NamedType}
    (hpieces : dotPieces dotted = [className])
    (hclass : symbols.classes.get? className = some found) (hbase : base ∈ found.bases)
    (link : Chain oracle n (.name symbols (baseName base)) (.named t)) :
    Chain oracle (n + 1) (.name symbols dotted) (classType symbols found (some className) true)
  | localAlias {n : Nat} {symbols : ModuleSymbols} {dotted aliasName : String} {value : Expr}
    {t : ResolvedType} (hpieces : dotPieces dotted = [aliasName])
    (hclass : symbols.classes.get? aliasName = none)
    (halias : symbols.aliases.get? aliasName = some value)
    (link : Chain oracle n (.hint symbols value) t) :
    Chain oracle (n + 1) (.name symbols dotted) t
  | imported {n : Nat} {symbols : ModuleSymbols} {dotted head origin name : String}
    {rest : List String} {binding : ImportBinding} {t : ResolvedType}
    (hpieces : dotPieces dotted = head :: rest) (hclass : symbols.classes.get? head = none)
    (halias : bareAlias? symbols head rest = none)
    (himport : symbols.imports.get? head = some binding)
    (htarget : binding.target? rest = some (origin, name))
    (link : Chain oracle n
      (.external origin name (if binding.typeOnly then none else some dotted)) t) :
    Chain oracle (n + 1) (.name symbols dotted) t
  /-- The end of a chain. -/
  | enumBase {name : String} (spelling : Option String) (hname : enumBases.contains name = true) :
    Chain oracle 0 (.external enumModule name spelling)
      (.named { name, origin := enumModule, spelling, kind := .enumeration })
  | known {n : Nat} {origin name : String} {spelling : Option String} {external : ModuleSymbols}
    {t : ResolvedType} (htyping : typingModules.contains origin = false)
    (hbuiltins : origin ≠ builtinsModule)
    (hother : origin = enumModule → enumBases.contains name = false)
    (htable : oracle.projectTable? origin = some external)
    (link : Chain oracle n (.provided external name spelling) t) :
    Chain oracle (n + 1) (.external origin name spelling) t
  | providedClass {n : Nat} {symbols : ModuleSymbols} {name : String} {spelling : Option String}
    {found : ClassSymbol} {base : Expr} {t : NamedType}
    (hclass : symbols.classes.get? name = some found) (hbase : base ∈ found.bases)
    (link : Chain oracle n (.name symbols (baseName base)) (.named t)) :
    Chain oracle (n + 1) (.provided symbols name spelling) (classType symbols found spelling true)
  | providedAlias {n : Nat} {symbols : ModuleSymbols} {name : String} {spelling : Option String}
    {value : Expr} {t : ResolvedType} (hclass : symbols.classes.get? name = none)
    (halias : symbols.aliases.get? name = some value)
    (link : Chain oracle n (.hint symbols value) t) :
    Chain oracle (n + 1) (.provided symbols name spelling) t.unspelled
  | passedOn {n : Nat} {symbols : ModuleSymbols} {name : String} {spelling : Option String}
    {binding : ImportBinding} {t : ResolvedType} (hclass : symbols.classes.get? name = none)
    (halias : symbols.aliases.get? name = none)
    (himport : symbols.imports.get? name = some binding)
    (link : Chain oracle n (.name symbols name) t) :
    Chain oracle (n + 1) (.provided symbols name spelling) (respelled spelling t)

namespace Chain

variable {oracle : Oracle}

theorem isFull {n : Nat} {question : Question} {t : ResolvedType}
    (h : Chain oracle n question t) : t.isFull = true := by
  induction h with
  | bar _ _ ihleft ihright => exact ResolvedType.isFull_ofMembers (by simp) (by simp [ihleft, ihright])
  | union _ hindices _ _ ih => exact ResolvedType.isFull_ofMembers (by simpa) (by simpa using ih)
  | localClass => rfl
  | enumBase => rfl
  | providedClass => rfl
  | providedAlias _ _ _ ih => rwa [ResolvedType.isFull_unspelled]
  | passedOn _ _ _ _ ih => rwa [isFull_respelled]
  | _ => assumption

/-- Chains end in enumerations. -/
theorem isEnumerative {n : Nat} {question : Question} {t : ResolvedType}
    (h : Chain oracle n question t) : t.isEnumerative = true := by
  induction h with
  | bar hleft hright ihleft ihright =>
    rw [ResolvedType.isEnumerative_ofMembers (by simp) (by simp [hleft.isFull, hright.isFull])]
    simp [ihleft, ihright]
  | union _ hindices _ links ih =>
    have hfull := fun member hmember => (links member hmember).isFull
    rw [ResolvedType.isEnumerative_ofMembers (by simpa) (by simpa using hfull)]
    simpa using ih
  | localClass => rfl
  | enumBase => rfl
  | providedClass => rfl
  | providedAlias _ _ _ ih => rwa [ResolvedType.isEnumerative_unspelled]
  | passedOn _ _ _ _ ih => rwa [isEnumerative_respelled]
  | _ => assumption

/-- A question leads to one type only. -/
theorem unique {n m : Nat} {question : Question} {s t : ResolvedType}
    (h : Chain oracle n question s) (h' : Chain oracle m question t) : s = t := by
  induction h generalizing m t with
  | paren _ ih =>
    cases h' with
    | paren link => exact ih link
    | quoted hquotation => cases hquotation
  | bare hnone hplain _ ih =>
    cases h' with
    | bare _ _ link => exact ih link
    | quoted hquotation => cases hquotation
  | dotted _ _ ih =>
    cases h' with
    | dotted _ link => exact ih link
    | quoted hquotation => cases hquotation
  | bar _ _ ihleft ihright =>
    cases h' with
    | bar hleft hright => rw [ihleft hleft, ihright hright]
    | quoted hquotation => cases hquotation
  | generic hplain _ ih =>
    cases h' with
    | generic _ link => exact ih link
    | wrapper hspecial => rw [hplain] at hspecial; cases hspecial
    | union hspecial => rw [hplain] at hspecial; cases hspecial
    | quoted hquotation => cases hquotation
  | wrapper hspecial hwrapper hfirst _ ih =>
    cases h' with
    | generic hplain => rw [hplain] at hspecial; cases hspecial
    | wrapper _ _ hfirst' link =>
      rw [hfirst] at hfirst'
      cases hfirst'
      exact ih link
    | union hspecial' =>
      rw [hspecial] at hspecial'
      cases hspecial'
      cases hwrapper
    | quoted hquotation => cases hquotation
  | union hspecial hindices _ _ ih =>
    cases h' with
    | generic hplain => rw [hplain] at hspecial; cases hspecial
    | wrapper hspecial' hwrapper =>
      rw [hspecial] at hspecial'
      cases hspecial'
      cases hwrapper
    | union _ _ _ links =>
      exact congrArg ResolvedType.ofMembers
        (List.map_congr_left fun member hmember => ih member hmember (links member hmember))
    | quoted hquotation => cases hquotation
  | quoted hquotation htext hinner _ ih =>
    cases h' with
    | quoted _ htext' hinner' link =>
      rw [htext] at htext'
      cases htext'
      rw [hinner] at hinner'
      cases hinner'
      exact ih link
    | _ => cases hquotation
  | localClass hpieces hclass =>
    cases h' with
    | localClass hpieces' hclass' =>
      rw [hpieces] at hpieces'
      cases hpieces'
      rw [hclass] at hclass'
      cases hclass'
      rfl
    | localAlias hpieces' hclass' =>
      rw [hpieces] at hpieces'
      cases hpieces'
      rw [hclass] at hclass'
      cases hclass'
    | imported hpieces' hclass' =>
      rw [hpieces] at hpieces'
      cases hpieces'
      rw [hclass] at hclass'
      cases hclass'
  | localAlias hpieces hclass halias _ ih =>
    cases h' with
    | localClass hpieces' hclass' =>
      rw [hpieces] at hpieces'
      cases hpieces'
      rw [hclass] at hclass'
      cases hclass'
    | localAlias hpieces' _ halias' link =>
      rw [hpieces] at hpieces'
      cases hpieces'
      rw [halias] at halias'
      cases halias'
      exact ih link
    | imported hpieces' _ halias' =>
      rw [hpieces] at hpieces'
      cases hpieces'
      cases halias.symm.trans halias'
  | imported hpieces hclass halias himport htarget _ ih =>
    cases h' with
    | localClass hpieces' hclass' =>
      rw [hpieces] at hpieces'
      cases hpieces'
      rw [hclass] at hclass'
      cases hclass'
    | localAlias hpieces' _ halias' =>
      rw [hpieces] at hpieces'
      cases hpieces'
      cases halias'.symm.trans halias
    | imported hpieces' _ _ himport' htarget' link =>
      rw [hpieces] at hpieces'
      cases hpieces'
      rw [himport] at himport'
      cases himport'
      rw [htarget] at htarget'
      cases htarget'
      exact ih link
  | enumBase spelling hname =>
    cases h' with
    | enumBase => rfl
    | known _ _ hother =>
      rw [hother rfl] at hname
      cases hname
  | known _ _ hother htable _ ih =>
    cases h' with
    | enumBase _ hname =>
      rw [hother rfl] at hname
      cases hname
    | known _ _ _ htable' link =>
      rw [htable] at htable'
      cases htable'
      exact ih link
  | providedClass hclass =>
    cases h' with
    | providedClass hclass' =>
      rw [hclass] at hclass'
      cases hclass'
      rfl
    | providedAlias hclass' => rw [hclass] at hclass'; cases hclass'
    | passedOn hclass' => rw [hclass] at hclass'; cases hclass'
  | providedAlias hclass halias _ ih =>
    cases h' with
    | providedClass hclass' => rw [hclass] at hclass'; cases hclass'
    | providedAlias _ halias' link =>
      rw [halias] at halias'
      cases halias'
      rw [ih link]
    | passedOn _ halias' => rw [halias] at halias'; cases halias'
  | passedOn hclass halias _ _ ih =>
    cases h' with
    | providedClass hclass' => rw [hclass] at hclass'; cases hclass'
    | providedAlias _ halias' => rw [halias] at halias'; cases halias'
    | passedOn _ _ _ link => rw [ih link]

end Chain
end ModelMetadata
