import ModelMetadata.Proofs.HandedOn
import ModelMetadata.Proofs.NamedAnswers
import ModelMetadata.Proofs.References

/-!
Class maps that are collected stand in a module of their own, which sees no name of the module that they
were read from. What is copied into them reads nothing, types that are not built in are read from the
table of imported modules, and so all that a map reads is that table and builtin types.
-/
set_option autoImplicit false
namespace ModelMetadata

open Source

/-- An expression that reads nothing but the table of imported modules, builtin types and constants. -/
def Source.Expr.SelfContained (e : Expr) : Prop :=
  e.ReadsOnly fun name => name = importsBinding ∨ name ∈ builtinTypes ∨ name ∈ constantNames

namespace Source.Expr

variable {e : Expr}

theorem ReadsNothing.selfContained (h : e.ReadsNothing) : e.SelfContained :=
  ReadsOnly.imp h fun _ hname => .inr (.inr hname)

theorem ReadsTable.selfContained (h : e.ReadsTable) : e.SelfContained :=
  ReadsOnly.imp h fun _ hname => .inl hname

namespace SelfContained

theorem builtin {text : String} (h : text ∈ builtinTypes) : (Expr.name text).SelfContained :=
  ReadsOnly.ofName (.inr (.inl h))

theorem thunk (h : e.SelfContained) : (Expr.thunk e).SelfContained := ReadsOnly.thunk h

theorem member (h : e.SelfContained) (text : String) : (e.member text).SelfContained :=
  ReadsOnly.of_parts nofun nofun (List.forall_mem_singleton.2 h)

theorem ofList {values : List Expr} (h : ∀ value ∈ values, value.SelfContained) :
    (Expr.ofList values).SelfContained :=
  ReadsOnly.ofList h

theorem nested (h : e.SelfContained) (depth : Nat) : (nested depth e).SelfContained := by
  induction depth generalizing e with
  | zero => exact h
  | succ depth ih => exact ih (.ofList (List.forall_mem_singleton.2 h))

theorem display {d : Descriptor} (h : ∀ entry ∈ d, entry.2.SelfContained) :
    d.display.SelfContained := by
  refine ReadsOnly.ofPairs (List.forall_mem_map.2 fun entry hentry => ?_)
  exact ⟨(readsNothing_textLiteral entry.1).selfContained, h entry hentry⟩

end SelfContained
end Source.Expr

/-! ## References -/

theorem NamedType.WellNamed.refer {t : NamedType} (h : t.WellNamed) (host : String) :
    Ensures (t.refer true host) Expr.SelfContained := by
  unfold NamedType.refer
  refine .ite (fun hbuiltin => ?_) fun hother => ?_
  · refine (Maintains.ofExcept _).imp fun e he => ?_
    unfold nameExpr at he
    split at he
    · cases he
      exact .builtin (h.builtin hbuiltin)
    · cases he
  · have hread : Ensures (Describe.ofExcept (readExpr (t.referenceText true))) Expr.SelfContained :=
      (Maintains.ofExcept _).imp fun e he =>
        (readsTable_of_referenceText (h.other (Bool.not_eq_true _ ▸ hother)) he).selfContained
    exact .ite (fun _ => .bind (.trivially _) fun _ _ => hread) fun _ => hread

theorem ResolvedType.WellNamed.refer {t : ResolvedType} (h : t.WellNamed) (host : String) :
    Ensures (t.reference.refer true host) Expr.SelfContained := by
  unfold TypeReference.refer
  split
  · rename_i s hs
    exact ((h.reference hs).refer host).map fun e he => he.nested _
  · exact (Maintains.ofExcept _).imp (by simp)

theorem NamedType.WellNamed.referMember {owner : NamedType} (h : owner.WellNamed) (host : String)
    (member : String) : Ensures (referMember true host owner member) Expr.SelfContained := by
  refine (h.refer host).bind fun e he => (Maintains.ofExcept _).imp fun found hfound => ?_
  unfold memberExpr at hfound
  split at hfound
  · cases hfound
    exact he.member member
  · cases hfound

theorem selfContained_of_primitives {values : List Primitive} {es : List Expr}
    (h : values.mapM Primitive.literal = .ok es) : ∀ e ∈ es, e.SelfContained := by
  induction values generalizing es with
  | nil =>
    cases h
    simp
  | cons value rest ih =>
    rw [List.mapM_cons] at h
    obtain ⟨first, hfirst, h⟩ := bind_eq_ok.1 h
    obtain ⟨others, hothers, h⟩ := bind_eq_ok.1 h
    cases h
    exact List.forall_mem_cons.2 ⟨(readsNothing_of_primitive hfirst).selfContained, ih hothers⟩

/-- The expression of an enumerable domain: the enumeration, a member of it, or literals. -/
theorem ResolvedType.WellNamed.domainExpr {site : Site} (hreadonly : site.options.readonly = true)
    {domain : ResolvedType} (h : domain.WellNamed) :
    Ensures (domainExpr site domain) fun e? => ∀ e, e? = some e → e.SelfContained := by
  have hsome {step : Describe Expr} (hstep : Ensures step Expr.SelfContained) :
      Ensures (do return some (← step)) fun e? => ∀ e, e? = some e → e.SelfContained :=
    hstep.bind fun found hfound => .pure fun e he => Option.some.inj he ▸ hfound
  unfold ModelMetadata.domainExpr Site.refer
  rw [hreadonly]
  split
  · rename_i t
    cases h with
    | named h => exact .ite (fun _ => hsome (h.refer _)) fun _ => .pure nofun
  · rename_i owner member
    cases h with
    | enumMember h => exact hsome (h.referMember _ member)
  · split
    · refine .bind (.ofExcept _) fun es hes => .pure fun e he => ?_
      exact Option.some.inj he ▸ .ofList (selfContained_of_primitives hes)
    · exact .pure nofun

/-! ## Class maps -/

theorem admits_selfContained {site : Site} (hreadonly : site.options.readonly = true) :
    Admits site Expr.SelfContained where
  copied {e} h := by
    unfold isCopyable at h
    rw [hreadonly] at h
    exact (readsNothing_of_isStatic e h).selfContained
  written _ {_} h := (readsNothing_of_value h).selfContained

/-- A site from which maps are collected. Its tables are those of modules that were read. -/
structure Site.Collecting (site : Site) : Prop where
  readonly : site.options.readonly = true
  oracle : site.oracle.WellNamed

theorem wellNamed_handedOn : HandedOn Expr.WellNamed where
  part he hpart := he.part _ hpart
  quoted _ _ hinner := .of_parse hinner
  null := .name (by decide)

/-- Entries that are collected for a well named annotation are self-contained. -/
theorem makes_selfContained {site : Site} (hsite : site.Collecting) :
    Makes site Expr.WellNamed fun _ entry => entry.2.SelfContained where
  unwrap he hunwrap := (wellNamed_handedOn.unwrap he hunwrap).1
  shape he hshape := wellNamed_handedOn.shape he hshape
  admits := (admits_selfContained hsite.readonly).imp fun _ he _ _ => he
  type hcore htype he := by
    rw [hsite.readonly] at he
    exact (((hsite.oracle.typeOf hcore htype).refer _).ensures he).thunk
  domain hhint htype hdomain he :=
    (((hsite.oracle.typeOf hhint htype).propertyDomain? hdomain).domainExpr hsite.readonly).ensures he _ rfl
  members {_ members} hmembers := by
    refine Expr.SelfContained.thunk (.display fun entry hentry => ?_)
    obtain ⟨member, hmember, rfl⟩ := List.mem_map.1 hentry
    exact .display (hmembers member hmember)

theorem wellNamed_of_mem {statements : List Statement} (h : Statement.AllNamed statements) :
    ∀ statement ∈ statements, statement.WellNamed := by
  induction statements with
  | nil => simp
  | cons statement rest ih => exact List.forall_mem_cons.2 ⟨h.1, ih h.2⟩

theorem Source.Suite.WellNamed.declares {body : Suite} (h : body.WellNamed) {typeHint : Expr}
    {value : Option Expr} (hdeclares : body.Declares typeHint value) : typeHint.WellNamed := by
  have hstatements : Statement.AllNamed body.statements := by
    cases body with
    | block tail step statements footer => exact h
    | «inline» gap line => exact ⟨h, trivial⟩
  obtain ⟨above, line, hline, hdeclares⟩ := hdeclares
  cases hdeclares with
  | entry hentry hstatement =>
    have hsmall := wellNamed_of_mem hstatements _ hline _ hentry
    rw [hstatement] at hsmall
    exact hsmall.1

/-- The map of a class that is collected is self-contained. -/
theorem classMetadata_selfContained {site : Site} (hsite : site.Collecting) {body : Suite}
    (hbody : body.WellNamed) (head : ClassHead) :
    Ensures (classMetadata site head body) Expr.SelfContained := by
  have hmakes : Makes { site with scope := body.scopeNames } Expr.WellNamed
      fun _ entry => entry.2.SelfContained := makes_selfContained ⟨hsite.readonly, hsite.oracle⟩
  have hgood : ∀ declarations, body.properties = .ok declarations →
      ∀ declaration ∈ declarations, declaration.typeHint.WellNamed :=
    fun _ h declaration hdeclaration =>
      hbody.declares (Suite.declares_of_properties h declaration hdeclaration)
  refine (hmakes.classMetadata hgood head).imp fun metadata hmetadata => ?_
  obtain ⟨members, hmembers, rfl⟩ := hmetadata
  refine .display fun entry hentry => ?_
  obtain ⟨member, hmember, rfl⟩ := List.mem_map.1 hentry
  exact .display (hmembers member hmember)

end ModelMetadata
