import ModelMetadata.Proofs.Resolution

/-!
When the type of an annotation can be told. Resolution evaluates literals: strings, since they may quote
annotations, and the members of literal types. Nothing else in it can go wrong: whatever fault it meets
comes from a literal, and an annotation and aliases whose literals can all be evaluated, behind quotes
too, always get an answer.
-/
set_option autoImplicit false
namespace ModelMetadata

open Source

def Succeeds {α : Type} (result : Except Fault α) : Prop := ∃ a, result = .ok a

theorem succeeds_ok {α : Type} (a : α) : Succeeds (.ok a) := ⟨a, rfl⟩

theorem not_succeeds_error {α : Type} (fault : Fault) : ¬ Succeeds (.error fault : Except Fault α) := by
  rintro ⟨a, h⟩
  cases h

theorem Succeeds.bind {α β : Type} {result : Except Fault α} {f : α → Except Fault β}
    (hresult : Succeeds result) (hf : ∀ a, Succeeds (f a)) : Succeeds (result >>= f) := by
  obtain ⟨a, rfl⟩ := hresult
  exact hf a

theorem succeeds_bind {α β : Type} {result : Except Fault α} {f : α → Except Fault β} {p q : Prop}
    (hresult : Succeeds result ↔ p) (hf : ∀ a, Succeeds (f a) ↔ q) :
    Succeeds (result >>= f) ↔ p ∧ q := by
  cases result with
  | error fault =>
    have hp : ¬ p := fun hp => not_succeeds_error fault (hresult.2 hp)
    exact iff_of_false (not_succeeds_error fault) fun hpq => hp hpq.1
  | ok a =>
    have hp : p := hresult.1 (succeeds_ok a)
    exact (hf a).trans (and_iff_right hp).symm

/-! ## Literals -/

def Source.Expr.hintParts : Expr → List Expr
  | .paren _ inner _ => [inner]
  | .binary left _ _ _ right => [left, right]
  | .subscript owner _ entries _ => owner :: Entry.indices entries
  | _ => []

/-- The literals that resolution can meet in an annotation can be evaluated, behind quotes too. -/
inductive Evaluates : Expr → Prop
  | mk {e : Expr} (text : Succeeds (stringValue e)) (value : Succeeds (literalValue e))
    (quoted : ∀ t, stringValue e = .ok (some t) → Succeeds (quotedIn? t))
    (inner : ∀ t inner, stringValue e = .ok (some t) → quotedIn? t = .ok (some inner) →
      Evaluates inner)
    (parts : ∀ part ∈ e.hintParts, Evaluates part) : Evaluates e

namespace Evaluates

variable {e : Expr}

theorem text (h : Evaluates e) : Succeeds (stringValue e) := by
  cases h
  assumption

theorem value (h : Evaluates e) : Succeeds (literalValue e) := by
  cases h
  assumption

theorem quoted (h : Evaluates e) {t : String} (ht : stringValue e = .ok (some t)) :
    Succeeds (quotedIn? t) := by
  cases h with
  | mk _ _ quoted => exact quoted t ht

theorem inner (h : Evaluates e) {t : String} {inner : Expr} (ht : stringValue e = .ok (some t))
    (hinner : quotedIn? t = .ok (some inner)) : Evaluates inner := by
  cases h with
  | mk _ _ _ hall => exact hall t inner ht hinner

theorem part (h : Evaluates e) {part : Expr} (hpart : part ∈ e.hintParts) : Evaluates part := by
  cases h with
  | mk _ _ _ _ parts => exact parts part hpart

theorem bare (h : Evaluates e) : Evaluates e.bare := by
  fun_induction Expr.bare e with
  | case1 _ inner _ ih => exact ih (h.part List.mem_cons_self)
  | case2 e => exact h

end Evaluates

/-! ## Faults -/

/-- A result whose fault, if it is one, is as `P` says. -/
def Blames (P : Fault → Prop) {α : Type} (result : Except Fault α) : Prop :=
  ∀ fault, result = .error fault → P fault

namespace Blames

variable {P : Fault → Prop} {α β : Type}

theorem ok (a : α) : Blames P (.ok a : Except Fault α) := nofun

theorem error {fault : Fault} (h : P fault) : Blames P (.error fault : Except Fault α) := by
  intro other hother
  cases hother
  exact h

theorem succeeds {result : Except Fault α} (h : Blames (fun _ => False) result) : Succeeds result := by
  cases result with
  | error fault => exact (h fault rfl).elim
  | ok a => exact succeeds_ok a

theorem of_succeeds {result : Except Fault α} (h : Succeeds result) : Blames P result := by
  obtain ⟨a, rfl⟩ := h
  exact ok a

theorem bind {result : Except Fault α} {f : α → Except Fault β} (hresult : Blames P result)
    (hf : ∀ a, result = .ok a → Blames P (f a)) : Blames P (result >>= f) := by
  cases result with
  | error fault => exact error (hresult fault rfl)
  | ok a => exact hf a rfl

theorem map {result : Except Fault α} (h : Blames P result) (f : α → β) : Blames P (f <$> result) := by
  cases result with
  | error fault => exact error (h fault rfl)
  | ok a => exact ok (f a)

theorem foldlM {f : β → α → Except Fault β} {xs : List α} (h : ∀ b, ∀ x ∈ xs, Blames P (f b x))
    (start : β) : Blames P (xs.foldlM f start) := by
  induction xs generalizing start with
  | nil => exact ok start
  | cons x rest ih =>
    rw [List.foldlM_cons]
    refine (h start x List.mem_cons_self).bind fun b _ => ?_
    exact ih (fun b y hy => h b y (List.mem_cons_of_mem x hy)) b

theorem mapM {f : α → Except Fault β} {xs : List α} (h : ∀ x ∈ xs, Blames P (f x)) :
    Blames P (xs.mapM f) := by
  induction xs with
  | nil => exact ok []
  | cons x rest ih =>
    rw [List.mapM_cons]
    refine (h x List.mem_cons_self).bind fun y _ => ?_
    exact (ih fun z hz => h z (List.mem_cons_of_mem x hz)).bind fun ys _ => ok _

end Blames

/-- An attempt whose fault, if it meets one, is as `P` says; it may run out of depth. -/
def Confined (P : Fault → Prop) {α : Type} (x : Attempt α) : Prop :=
  ∀ fault, x = reached (.error fault) → P fault

namespace Confined

variable {P : Fault → Prop} {α β : Type}

theorem ok (a : α) : Confined P (reached (.ok a)) := nofun

theorem spent : Confined P (ExceptT.mk none : Attempt α) := nofun

theorem of_blames {result : Except Fault α} (h : Blames P result) : Confined P (reached result) :=
  fun fault hfault => h fault (Option.some.inj hfault)

theorem bind {x : Attempt α} {f : α → Attempt β} (hx : Confined P x)
    (hf : ∀ a, x = reached (.ok a) → Confined P (f a)) : Confined P (x >>= f) := by
  intro fault h
  cases x with
  | none => cases h
  | some result =>
    cases result with
    | error other =>
      cases h
      exact hx fault rfl
    | ok a => exact hf a rfl fault h

theorem andThen {x : Attempt α} {f : α → Attempt β} (hx : Confined P x) (hf : ∀ a, Confined P (f a)) :
    Confined P (x >>= f) :=
  hx.bind fun a _ => hf a

theorem mapM {f : α → Attempt β} {xs : List α} (h : ∀ x ∈ xs, Confined P (f x)) :
    Confined P (xs.mapM f) := by
  induction xs with
  | nil => exact ok []
  | cons x rest ih =>
    rw [List.mapM_cons]
    refine (h x List.mem_cons_self).andThen fun first => ?_
    exact (ih fun y hy => h y (List.mem_cons_of_mem x hy)).andThen fun others => ok _

theorem foldlM {f : β → α → Attempt β} {xs : List α} (h : ∀ b, ∀ x ∈ xs, Confined P (f b x)) (start : β) :
    Confined P (xs.foldlM f start) := by
  induction xs generalizing start with
  | nil => exact ok start
  | cons x rest ih =>
    rw [List.foldlM_cons]
    refine (h start x List.mem_cons_self).andThen fun b => ?_
    exact ih (fun b y hy => h b y (List.mem_cons_of_mem x hy)) b

end Confined

/-- Annotations whose literals give no faults but those that `P` allows: the annotations that resolution
may go on to are among them with each. -/
structure ReadableHints (P : Fault → Prop) where
  Good : Expr → Prop
  text {e : Expr} (he : Good e) : Blames P (stringValue e)
  value {e : Expr} (he : Good e) : Blames P (literalValue e)
  quoted {e : Expr} {t : String} (he : Good e) (ht : stringValue e = .ok (some t)) : Blames P (quotedIn? t)
  inner {e inner : Expr} {t : String} (he : Good e) (ht : stringValue e = .ok (some t))
    (hinner : quotedIn? t = .ok (some inner)) : Good inner
  part {e part : Expr} (he : Good e) (hpart : part ∈ e.hintParts) : Good part

/-- The annotations whose literals can be evaluated. -/
def evaluable : ReadableHints fun _ => False where
  Good := Evaluates
  text he := .of_succeeds he.text
  value he := .of_succeeds he.value
  quoted he ht := .of_succeeds (he.quoted ht)
  inner he ht hinner := he.inner ht hinner
  part he hpart := he.part hpart

/-! ## Resolution -/

/-- The aliases of all tables are as `Good` says. -/
def Oracle.AliasesAre (oracle : Oracle) (Good : Expr → Prop) : Prop :=
  ∀ scope name value, (oracle.symbols scope).aliases.get? name = some value → Good value

def Oracle.AliasesEvaluate (oracle : Oracle) : Prop :=
  ∀ scope name value, (oracle.symbols scope).aliases.get? name = some value → Evaluates value

/-- No call meets other faults than those of literals, on annotations that are readable so. -/
structure Faultless {P : Fault → Prop} (readable : ReadableHints P) (next : Resolver) : Prop where
  resolve (scope : Scope) (seen : List Key) {e : Expr} (he : readable.Good e) :
    Confined P (next.resolve scope seen e)
  resolveLiteral (scope : Scope) (seen : List Key) {e : Expr} (he : readable.Good e) :
    Confined P (next.resolveLiteral scope seen e)
  resolveDotted (scope : Scope) (seen : List Key) (dotted : String) :
    Confined P (next.resolveDotted scope seen dotted)
  resolveName (scope : Scope) (seen : List Key) (dotted : String) :
    Confined P (next.resolveName scope seen dotted)
  resolveExternal (seen : List Key) (origin name : String) (spelling : Option String) :
    Confined P (next.resolveExternal seen origin name spelling)
  isEnumClass (scope : Scope) (seen : List Key) (className : String) :
    Confined P (next.isEnumClass scope seen className)

namespace Oracle

section Steps

variable {oracle : Oracle} {P : Fault → Prop} {readable : ReadableHints P} {next : Resolver}
  (h : Faultless readable next)
include h

theorem stepQuotation_confined (scope : Scope) (seen : List Key) {e : Expr} (he : readable.Good e) :
    Confined P (do
      match ← reached (stringValue e) with
      | none => return none
      | some text =>
        match ← reached (quotedIn? text) with
        | none => return none
        | some inner => next.resolve scope seen inner : Attempt (Option ResolvedType)) := by
  refine (Confined.of_blames (readable.text he)).bind fun text? htext => ?_
  cases text? with
  | none => exact .ok none
  | some text =>
    have htext := Option.some.inj htext
    refine (Confined.of_blames (readable.quoted he htext)).bind fun inner? hinner => ?_
    cases inner? with
    | none => exact .ok none
    | some inner => exact h.resolve scope seen (readable.inner he htext (Option.some.inj hinner))

theorem addLiteral_confined (scope : Scope) (seen : List Key) (before? : Option (List ResolvedType))
    {member : Expr} (hmember : readable.Good member) :
    Confined P (addLiteral next scope seen before? member) := by
  cases before? with
  | none => exact .ok none
  | some before => exact (h.resolveLiteral scope seen hmember).andThen fun found => .ok _

theorem stepSubscript_confined (scope : Scope) (seen : List Key) {owner : Expr} {before close : Gap}
    {entries : List Entry} (he : readable.Good (.subscript owner before entries close)) :
    Confined P (oracle.stepResolve next scope seen (.subscript owner before entries close)) := by
  have hindex : ∀ e ∈ Entry.indices entries, readable.Good e := fun e hmem =>
    readable.part he (List.mem_cons_of_mem owner hmem)
  unfold stepResolve
  dsimp only
  split
  · exact h.resolve scope seen (readable.part he List.mem_cons_self)
  split
  · exact .ok none
  rename_i first rest hindices
  have hfirst := h.resolve scope seen (hindex first (hindices ▸ List.mem_cons_self))
  split
  · exact hfirst
  split
  · exact hfirst.andThen fun found => .ok _
  split
  · split
    · exact hfirst.andThen fun found => .ok _
    · exact .ok none
  split
  · exact .ok _
  split
  · exact hfirst.andThen fun found => .ok _
  split
  · exact (Confined.mapM fun e hmem => h.resolve scope seen (hindex e hmem)).andThen fun found => .ok _
  split
  · have hliteral (before? : Option (List ResolvedType)) (e : Expr)
        (hmem : e ∈ Entry.indices entries) : Confined P (addLiteral next scope seen before? e) :=
      addLiteral_confined h scope seen before? (hindex e hmem)
    exact (Confined.foldlM hliteral _).andThen fun found => .ok _
  split
  · exact .ok _
  · exact .ok _

theorem stepResolve_confined (scope : Scope) (seen : List Key) {e : Expr} (he : readable.Good e) :
    Confined P (oracle.stepResolve next scope seen e) := by
  unfold stepResolve
  split
  case h_1 => exact h.resolve scope seen (readable.part he List.mem_cons_self)
  case h_2 => exact .ok _
  case h_3 => exact h.resolveDotted scope seen _
  case h_4 => exact h.resolveDotted scope seen _
  case h_5 =>
    refine (h.resolve scope seen (readable.part he List.mem_cons_self)).andThen fun s => ?_
    refine (h.resolve scope seen (readable.part he ?_)).andThen fun t => .ok _
    exact List.mem_cons_of_mem _ List.mem_cons_self
  case h_6 => exact stepSubscript_confined h scope seen he
  case h_7 =>
    dsimp only
    split
    all_goals
      split
      · exact .ok _
      · split
        · exact .ok _
        · exact .ok _
  case h_8 => exact .ok _
  case h_9 => exact stepQuotation_confined h scope seen he

theorem stepLiteral_confined (scope : Scope) (seen : List Key) {e : Expr} (he : readable.Good e) :
    Confined P (stepLiteral next scope seen e) := by
  unfold stepLiteral
  split
  · exact .ok _
  refine (Confined.of_blames (readable.value he)).andThen fun value? => ?_
  cases value? with
  | some value => exact .ok _
  | none =>
    dsimp only
    split
    · exact .ok _
    · refine (h.resolveName scope seen _).andThen fun found => ?_
      split
      · split
        · exact .ok _
        · exact .ok _
      · exact .ok _

theorem stepDotted_confined (scope : Scope) (seen : List Key) (dotted : String) :
    Confined P (oracle.stepDotted next scope seen dotted) := by
  unfold stepDotted
  split
  · exact .ok _
  · exact h.resolveName scope seen dotted

theorem stepName_confined (haliases : oracle.AliasesAre readable.Good) (scope : Scope) (seen : List Key)
    (dotted : String) : Confined P (oracle.stepName next scope seen dotted) := by
  unfold stepName
  split
  · exact .ok _
  split
  · exact .ok _
  split
  · split
    · exact (h.isEnumClass scope seen _).andThen fun isEnum => .ok _
    · exact .ok _
  split
  · rename_i value halias
    split
    · exact .ok _
    · exact h.resolve scope _ (haliases scope _ value (get?_of_bareAlias? halias))
  split
  · split
    · exact h.resolveExternal seen _ _ _
    · exact .ok _
  · split
    · exact .ok _
    · exact .ok _

theorem stepExternal_confined (haliases : oracle.AliasesAre readable.Good) (seen : List Key)
    (origin name : String) (spelling : Option String) :
    Confined P (oracle.stepExternal next seen origin name spelling) := by
  unfold stepExternal
  dsimp only
  split
  · exact .ok _
  split
  · exact .ok _
  split
  · exact .ok _
  split
  · exact .ok _
  rename_i external htable
  split
  · exact .ok _
  split
  · exact (h.isEnumClass _ _ name).andThen fun isEnum => .ok _
  split
  · rename_i value halias
    have hsymbols : oracle.symbols (.project origin) = external := by simp [symbols, htable]
    exact (h.resolve _ _ (haliases (.project origin) name value (hsymbols ▸ halias))).andThen
      fun found => .ok _
  split
  · exact (h.resolveName _ _ name).andThen fun found => .ok _
  · exact .ok _

theorem stepEnumClass_confined (scope : Scope) (seen : List Key) (className : String) :
    Confined P (oracle.stepEnumClass next scope seen className) := by
  unfold stepEnumClass
  split
  · exact .ok _
  split
  · exact .ok _
  refine .foldlM (fun isEnum base _ => ?_) false
  split
  · exact .ok _
  · refine (h.resolveName _ _ _).andThen fun resolved => ?_
    split
    · exact .ok _
    · exact .ok _

end Steps

theorem faultless_within {oracle : Oracle} {P : Fault → Prop} {readable : ReadableHints P}
    (haliases : oracle.AliasesAre readable.Good) (depth : Nat) :
    Faultless readable (oracle.within depth) := by
  induction depth with
  | zero =>
    exact
      { resolve := fun _ _ _ _ => .spent
        resolveLiteral := fun _ _ _ _ => .spent
        resolveDotted := fun _ _ _ => .spent
        resolveName := fun _ _ _ => .spent
        resolveExternal := fun _ _ _ _ => .spent
        isEnumClass := fun _ _ _ => .spent }
  | succ depth ih =>
    exact
      { resolve := fun scope seen _ he => stepResolve_confined ih scope seen he
        resolveLiteral := fun scope seen _ he => stepLiteral_confined ih scope seen he
        resolveDotted := stepDotted_confined ih
        resolveName := stepName_confined ih haliases
        resolveExternal := stepExternal_confined ih haliases
        isEnumClass := stepEnumClass_confined ih }

/-- The faults that the type of an annotation can give are those of literals. -/
theorem typeOf_blames {oracle : Oracle} {P : Fault → Prop} {readable : ReadableHints P}
    (haliases : oracle.AliasesAre readable.Good) {e : Expr} (he : readable.Good e) :
    Blames P (oracle.typeOf e) := by
  have hreached := (resolution_ends oracle [] 0).1 .host e
  have hconfined :=
    (faultless_within haliases (oracle.reserve [] + e.weight + 6 + 0)).resolve .host [] he
  rw [hreached] at hconfined
  exact fun fault hfault => hconfined fault (congrArg reached hfault)

/-- The type of an annotation can be told when its literals and those of the aliases can be
evaluated. -/
theorem typeOf_succeeds {oracle : Oracle} (haliases : oracle.AliasesEvaluate) {e : Expr}
    (he : Evaluates e) : Succeeds (oracle.typeOf e) := by
  have haliases : oracle.AliasesAre evaluable.Good := haliases
  have he : evaluable.Good e := he
  exact (typeOf_blames haliases he).succeeds

end Oracle
end ModelMetadata
