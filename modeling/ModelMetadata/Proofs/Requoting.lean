import ModelMetadata.Proofs.Layers
import ModelMetadata.Proofs.UnionBranches

/-!
Types in quotes. A type may be written in quotes without a change to what an annotation denotes, wherever
its quotes are taken off before it is looked at: as a whole annotation, behind wrappers, as the element of
an array and as the type of a member. The branches of a union are told from unions and from `None` while
they are quoted; there a type may be written in quotes if it is neither, or the name `None` alone.
-/
set_option autoImplicit false
namespace ModelMetadata

open Source

/-! ## Quotations -/

/-- A string literal of the text of an expression that reads as the expression again. -/
structure Quotes (q e : Expr) : Prop where
  value : stringValue q = .ok (some e.text)
  reads : Expr.parse (Text.trimmed e.text) = .ok e

/-- Where an expression stands in an annotation. -/
inductive Position where
  /-- As a whole type: its quotes are taken off first. -/
  | hint
  /-- As a branch of a union. -/
  | branch
  /-- Where quotes have been taken off. -/
  | unquoted

/-- Where the indices of a form stand; the members of a literal type are no types. -/
def Oracle.indexPosition? (oracle : Oracle) (owner : Expr) : Option Position :=
  match oracle.specialForm? owner with
  | some "Literal" => none
  | some "Optional" => some .branch
  | some "Union" => some .branch
  | _ => some .hint

structure ShapeDisplay where
  preceding : List Entry
  gap : Gap
  key : Expr
  beforeColon : Gap
  afterColon : Gap
  comma : Option Gap
  following : List Entry
  close : Gap

def ShapeDisplay.entries (display : ShapeDisplay) (e : Expr) : List Entry :=
  display.preceding ++ .mk display.gap (.pair display.key display.beforeColon display.afterColon e)
    display.comma :: display.following

def ShapeDisplay.around (display : ShapeDisplay) (e : Expr) : Expr := .dict (display.entries e) display.close

/-- The argument that gives the members of a typed dict: as it is, or by its keyword. -/
def ShapeDisplay.argument (display : ShapeDisplay) (keyword : Option (Gap × Gap)) (e : Expr) : Item :=
  match keyword with
  | none => .value (display.around e)
  | some (beforeEq, afterEq) => .keyword "fields" beforeEq afterEq (display.around e)

/-- What may be directly around a type in an annotation, and where the type stands in it. -/
inductive Surrounds (oracle : Oracle) : Position → (Expr → Expr) → Prop
  | left (beforeOp afterOp : Gap) (right : Expr) :
    Surrounds oracle .branch fun e => .binary e beforeOp "|" afterOp right
  | right (left : Expr) (beforeOp afterOp : Gap) :
    Surrounds oracle .branch fun e => .binary left beforeOp "|" afterOp e
  | index {position : Position} {owner : Expr} {before close gap : Gap} {comma : Option Gap}
    {preceding following : List Entry} (hposition : oracle.indexPosition? owner = some position)
    (hmetadata : Entry.indices preceding = [] ∨ oracle.wrapperName owner ≠ "Annotated") :
    Surrounds oracle position fun e =>
      .subscript owner before (preceding ++ .mk gap (.value e) comma :: following) close
  /-- The type of a member of an inline shape. -/
  | member (display : ShapeDisplay) : Surrounds oracle .hint display.around
  | field (display : ShapeDisplay) (keyword : Option (Gap × Gap)) {callee : Expr} {before close gap : Gap}
    {comma : Option Gap} {preceding following : List Entry}
    (hcallee : oracle.specialForm? callee = some "TypedDict") :
    Surrounds oracle .hint fun e =>
      .call callee before (preceding ++ .mk gap (display.argument keyword e) comma :: following) close

/-- One type in an annotation is written in quotes, at any depth. -/
inductive Requoted (oracle : Oracle) : Position → Expr → Expr → Prop
  | hint {e q : Expr} (h : Quotes q e) (hellipsis : e.bare ≠ .ellipsis) : Requoted oracle .hint e q
  | branch {e q : Expr} (h : Quotes q e) (hellipsis : e.bare ≠ .ellipsis)
    (hunion : unionParts? oracle e = none)
    (hnull : e = .name "None" ∨ oracle.isNullBranch e = .ok false) : Requoted oracle .branch e q
  /-- A type within quotes. -/
  | quoted {position : Position} {q q' e e' : Expr} {text text' : String}
    (hposition : position ≠ .unquoted) (htext : stringValue q = .ok (some text))
    (hreads : Expr.parse (Text.trimmed text) = .ok e) (htext' : stringValue q' = .ok (some text'))
    (hreads' : Expr.parse (Text.trimmed text') = .ok e')
    (hnull : position = .branch → text ≠ "None" ∧ text' ≠ "None") (h : Requoted oracle .hint e e') :
    Requoted oracle position q q'
  | inside {position inner : Position} {around : Expr → Expr} {e e' t t' : Expr}
    (haround : Surrounds oracle inner around) (he : e.bare = around t) (he' : e'.bare = around t')
    (h : Requoted oracle inner t t') : Requoted oracle position e e'

theorem Quotes.reads? {q e : Expr} (h : Quotes q e) : quotedIn? e.text = .ok (some e) :=
  quotedIn?_of_parse h.reads

theorem Quotes.resolve {oracle : Oracle} {q e : Expr} (h : Quotes q e) :
    oracle.resolve .host [] e = oracle.resolve .host [] q :=
  (Oracle.resolve_quoted h.value h.reads?).symm

/-! ## Surroundings -/

/-- What is looked at in a layer: whether it is a subscript, and which types it has. -/
inductive Layered (oracle : Oracle) (around : Expr → Expr) : Prop
  | other (hsubscript : ∀ t, (around t).isSubscript = false)
    (hname : ∀ t t', oracle.wrapperName (around t) = oracle.wrapperName (around t'))
  | first (owner : Expr) (rest : List Expr) (h : ∀ t, (around t).indexing? = some (owner, t, rest))
  | later (owner first : Expr) (rest : Expr → List Expr)
    (h : ∀ t, (around t).indexing? = some (owner, first, rest t))
    (howner : oracle.wrapperName owner ≠ "Annotated")

namespace Surrounds

variable {oracle : Oracle} {position : Position} {around : Expr → Expr}

theorem stringValue_eq (h : Surrounds oracle position around) (t : Expr) :
    stringValue (around t) = .ok none := by
  cases h <;> rfl

theorem ne_ellipsis (h : Surrounds oracle position around) (t : Expr) : around t ≠ .ellipsis := by
  cases h <;> exact nofun

/-- A layer has the same type where a type in it is written otherwise. -/
theorem resolve (h : Surrounds oracle position around) {t t' : Expr}
    (ht : Oracle.SameIndex oracle .host [] t t') :
    oracle.resolve .host [] (around t) = oracle.resolve .host [] (around t') := by
  cases h with
  | left => exact Oracle.resolve_bar_congr ht.resolve rfl
  | right => exact Oracle.resolve_bar_congr rfl ht.resolve
  | @index _ owner _ _ _ _ _ _ hposition =>
    have hliteral : (oracle.symbols .host).specialForm? owner.dottedName ≠ some "Literal" := by
      intro hspecial
      have hspecial : oracle.specialForm? owner = some "Literal" := hspecial
      rw [Oracle.indexPosition?, hspecial] at hposition
      cases hposition
    exact Oracle.resolve_subscript_congr hliteral (indices_replaced .refl ht _ _ _ _)
  | member => rw [ShapeDisplay.around, ShapeDisplay.around, Oracle.resolve, Oracle.resolve]
  | @field _ _ callee _ _ _ _ _ _ hcallee =>
    have hspecial : (oracle.symbols .host).specialForm? callee.dottedName = some "TypedDict" := hcallee
    rw [Oracle.resolve.eq_def, Oracle.resolve.eq_def]
    simp [hspecial]

theorem layered (h : Surrounds oracle position around) : Layered oracle around := by
  cases h with
  | @index _ owner _ _ _ _ preceding following _ hmetadata =>
    cases hpreceding : Entry.indices preceding with
    | nil =>
      refine .first owner (Entry.indices following) fun t => ?_
      simp only [Expr.indexing?, Expr.bare, indices_middle, hpreceding, List.nil_append]
    | cons first rest =>
      refine .later owner first (fun t => rest ++ t :: Entry.indices following) (fun t => ?_) ?_
      · simp only [Expr.indexing?, Expr.bare, indices_middle, hpreceding, List.cons_append]
      · exact hmetadata.resolve_left (by rw [hpreceding]; exact List.cons_ne_nil first rest)
  | _ => exact .other (fun _ => rfl) fun _ _ => rfl

/-- A union around a type has it as a part. -/
theorem parts (h : Surrounds oracle position around) :
    (∀ t, unionParts? oracle (around t) = none)
      ∨ position = .branch ∧ ∃ preceding following implied, ∀ t,
        unionParts? oracle (around t) = some (preceding ++ t :: following, implied) := by
  cases h with
  | left beforeOp afterOp right => exact .inr ⟨rfl, [], [right], false, fun _ => rfl⟩
  | right left => exact .inr ⟨rfl, [left], [], false, fun _ => rfl⟩
  | @index _ owner _ _ _ _ preceding following hposition =>
    unfold Oracle.indexPosition? at hposition
    unfold unionParts?
    simp only [Expr.bare, indices_middle]
    split at hposition
    · cases hposition
    · rename_i hspecial
      obtain rfl := Option.some.inj hposition
      rw [hspecial]
      by_cases halone : (Entry.indices preceding = [] ∧ Entry.indices following = [])
      · exact .inr ⟨rfl, [], [], true, by simp [halone]⟩
      · left
        intro t
        have hseveral : (Entry.indices preceding ++ t :: Entry.indices following).length ≠ 1 := by
          intro hone
          rw [List.length_append, List.length_cons] at hone
          exact halone ⟨List.length_eq_zero_iff.1 (by omega), List.length_eq_zero_iff.1 (by omega)⟩
        simp only [beq_eq_false_iff_ne.2 hseveral, Bool.false_eq_true, if_false]
    · rename_i hspecial
      obtain rfl := Option.some.inj hposition
      rw [hspecial]
      exact .inr ⟨rfl, Entry.indices preceding, Entry.indices following, false, by simp⟩
    · rename_i hoptional hunion
      left
      intro t
      split
      · rename_i hspecial
        exact (hoptional hspecial).elim
      · rename_i hspecial
        exact (hunion hspecial).elim
      · rfl
  | member => exact .inl fun _ => rfl
  | field => exact .inl fun _ => rfl

theorem isNullBranch (h : Surrounds oracle position around) {e t : Expr} (he : e.bare = around t) :
    oracle.isNullBranch e = .ok false := by
  have htext : stringValue e = .ok none := by rw [← stringValue_bare, he, h.stringValue_eq]
  have hname : e.isName "None" = false := by
    rw [Expr.isName, he]
    cases h <;> rfl
  have hcallee : e.callee?.bind oracle.specialForm? ≠ some "type" := by
    rw [Expr.callee?, he]
    cases h with
    | field display keyword hcallee =>
      dsimp only [Option.bind_some]
      rw [hcallee]
      decide
    | _ => rintro ⟨⟩
  unfold Oracle.isNullBranch
  rw [hname, htext]
  simp only [Bool.false_eq_true, if_false, bind, Except.bind]
  rw [if_neg (by decide)]
  split
  · rename_i hspecial _
    exact (hcallee hspecial).elim
  · rfl

end Surrounds

namespace Requoted

variable {oracle : Oracle} {position : Position} {e e' : Expr}

/-! ## Types -/

/-- Quotes keep the type, and whether a tuple has any length. -/
theorem sameIndex (h : Requoted oracle position e e') : Oracle.SameIndex oracle .host [] e e' := by
  induction h with
  | hint h hellipsis =>
    exact ⟨h.resolve, iff_of_false hellipsis (bare_ne_ellipsis_of_stringValue h.value)⟩
  | branch h hellipsis =>
    exact ⟨h.resolve, iff_of_false hellipsis (bare_ne_ellipsis_of_stringValue h.value)⟩
  | quoted _ htext hreads htext' hreads' _ _ ih =>
    refine ⟨?_, iff_of_false (bare_ne_ellipsis_of_stringValue htext)
      (bare_ne_ellipsis_of_stringValue htext')⟩
    rw [Oracle.resolve_quoted htext (quotedIn?_of_parse hreads),
      Oracle.resolve_quoted htext' (quotedIn?_of_parse hreads'), ih.resolve]
  | inside haround he he' _ ih =>
    refine .of_bare ?_ (iff_of_false ?_ ?_)
    · rw [he, he']
      exact haround.resolve ih
    · rw [he]
      exact haround.ne_ellipsis _
    · rw [he']
      exact haround.ne_ellipsis _

theorem typeOf_eq (h : Requoted oracle position e e') : oracle.typeOf e = oracle.typeOf e' :=
  h.sameIndex.resolve

/-! ## Layers -/

/-- The core of an annotation with a type in quotes is the same, or has the type in quotes inside. -/
theorem core (h : Requoted oracle position e e') :
    Outcomes (Relation.ReflGen (Requoted oracle .unquoted)) (oracle.core e) (oracle.core e') := by
  have hrefl (e : Expr) : Relation.ReflGen (Requoted oracle .unquoted) e e := .refl
  induction h with
  | hint h | branch h =>
    rw [Oracle.core_quoted h.value h.reads?]
    exact .self hrefl _
  | quoted _ htext hreads htext' hreads' _ _ ih =>
    rwa [Oracle.core_quoted htext (quotedIn?_of_parse hreads),
      Oracle.core_quoted htext' (quotedIn?_of_parse hreads')]
  | @inside position inner around e e' t t' haround he he' h ih =>
    have hinside : Requoted oracle .unquoted e e' := .inside haround he he' h
    have htext {e t : Expr} (he : e.bare = around t) : stringValue e = .ok none := by
      rw [← stringValue_bare, he, haround.stringValue_eq]
    cases haround.layered with
    | other hsubscript =>
      have hother {e t : Expr} (he : e.bare = around t) : e.isSubscript = false := by
        rw [← Expr.isSubscript_bare, he, hsubscript]
      rw [Oracle.core_plain (htext he) (hother he), Oracle.core_plain (htext he') (hother he')]
      exact .ok (.single hinside)
    | first owner rest hlayer =>
      have hindexing {e t : Expr} (he : e.bare = around t) : e.indexing? = some (owner, t, rest) := by
        rw [← Expr.indexing?_bare, he, hlayer]
      rw [Oracle.core_indexed (htext he) (hindexing he), Oracle.core_indexed (htext he') (hindexing he')]
      split
      · exact ih
      · exact .ok (.single hinside)
    | later owner first rest hlayer =>
      have hindexing {e t : Expr} (he : e.bare = around t) :
          e.indexing? = some (owner, first, rest t) := by
        rw [← Expr.indexing?_bare, he, hlayer]
      rw [Oracle.core_indexed (htext he) (hindexing he), Oracle.core_indexed (htext he') (hindexing he')]
      split
      · exact .self hrefl _
      · exact .ok (.single hinside)

/-- The wrappers of an annotation with a type in quotes say the same. -/
theorem unwrapFrom (h : Requoted oracle position e e') (found : Unwrapped) :
    Outcomes (fun layer layer' => layer' = { layer with type := layer'.type }
        ∧ Relation.ReflGen (Requoted oracle .unquoted) layer.type layer'.type)
      (ModelMetadata.unwrapFrom oracle { found with type := e })
      (ModelMetadata.unwrapFrom oracle { found with type := e' }) := by
  have hrefl (layer : Unwrapped) : layer = { layer with type := layer.type }
    ∧ Relation.ReflGen (Requoted oracle .unquoted) layer.type layer.type := ⟨rfl, .refl⟩
  induction h generalizing found with
  | hint h | branch h =>
    rw [Oracle.unwrapFrom_quoted h.value h.reads?]
    exact .self hrefl _
  | quoted _ htext hreads htext' hreads' _ _ ih =>
    rw [Oracle.unwrapFrom_quoted htext (quotedIn?_of_parse hreads),
      Oracle.unwrapFrom_quoted htext' (quotedIn?_of_parse hreads')]
    exact ih found
  | @inside position inner around e e' t t' haround he he' h ih =>
    have hinside : Requoted oracle .unquoted e e' := .inside haround he he' h
    have htext {e t : Expr} (he : e.bare = around t) : stringValue e = .ok none := by
      rw [← stringValue_bare, he, haround.stringValue_eq]
    cases haround.layered with
    | other hsubscript hname =>
      have hother {e t : Expr} (he : e.bare = around t) : e.isSubscript = false := by
        rw [← Expr.isSubscript_bare, he, hsubscript]
      rw [Oracle.unwrapFrom_plain (htext he) (hother he),
        Oracle.unwrapFrom_plain (htext he') (hother he')]
      refine .ok ⟨?_, .single hinside⟩
      dsimp only
      rw [← Oracle.wrapperName_bare e, ← Oracle.wrapperName_bare e', he, he', hname t t']
    | first owner rest hlayer =>
      have hindexing {e t : Expr} (he : e.bare = around t) : e.indexing? = some (owner, t, rest) := by
        rw [← Expr.indexing?_bare, he, hlayer]
      rw [Oracle.unwrapFrom_indexed (htext he) (hindexing he),
        Oracle.unwrapFrom_indexed (htext he') (hindexing he')]
      cases found.wrappedBy? (oracle.wrapperName owner) rest with
      | none => exact .ok ⟨rfl, .single hinside⟩
      | some layer => exact ih layer
    | later owner first rest hlayer howner =>
      have hindexing {e t : Expr} (he : e.bare = around t) :
          e.indexing? = some (owner, first, rest t) := by
        rw [← Expr.indexing?_bare, he, hlayer]
      rw [Oracle.unwrapFrom_indexed (htext he) (hindexing he),
        Oracle.unwrapFrom_indexed (htext he') (hindexing he'),
        Oracle.wrappedBy?_metadata howner found (rest t') (rest t)]
      cases found.wrappedBy? (oracle.wrapperName owner) (rest t) with
      | none => exact .ok ⟨rfl, .single hinside⟩
      | some layer => exact .self hrefl _

theorem unwrap (h : Requoted oracle position e e') :
    Outcomes (fun found found' => found' = { found with type := found'.type }
        ∧ Relation.ReflGen (Requoted oracle .unquoted) found.type found'.type)
      (oracle.unwrap e) (oracle.unwrap e') :=
  h.unwrapFrom { type := e }

/-! ## Unions -/

/-- The branches of a union with a type in quotes are the same but for one, or have it in quotes. -/
theorem branches (h : Requoted oracle position e e') (hposition : position ≠ .hint) :
    List.Forall₂ (Relation.ReflGen (Requoted oracle .branch)) (unionBranches oracle e)
      (unionBranches oracle e') := by
  have hrefl (branches : List Expr) :
      List.Forall₂ (Relation.ReflGen (Requoted oracle .branch)) branches branches :=
    List.forall₂_same.2 fun _ _ => .refl
  have hquoted {q : Expr} {text : String} (htext : stringValue q = .ok (some text)) :
      unionParts? oracle q = none := by
    unfold unionParts?
    obtain ⟨token, hbare⟩ | ⟨first, gap, rest, hbare⟩ := bare_of_stringValue htext
    all_goals rw [hbare]
  induction h with
  | hint => exact (hposition rfl).elim
  | branch h hellipsis hunion hnull =>
    rw [Oracle.unionBranches_eq, Oracle.unionBranches_eq, hunion, hquoted h.value]
    exact .cons (.single (.branch h hellipsis hunion hnull)) .nil
  | @quoted position _ _ _ _ _ _ hunquoted htext hreads htext' hreads' hnull h =>
    rw [Oracle.unionBranches_eq, Oracle.unionBranches_eq, hquoted htext, hquoted htext']
    cases position with
    | hint => exact (hposition rfl).elim
    | branch => exact .cons (.single (.quoted hunquoted htext hreads htext' hreads' hnull h)) .nil
    | unquoted => exact (hunquoted rfl).elim
  | @inside _ _ _ e e' _ _ haround he he' h ih =>
    rw [Oracle.unionBranches_eq, Oracle.unionBranches_eq, ← Oracle.unionParts?_bare e,
      ← Oracle.unionParts?_bare e', he, he']
    obtain hnone | ⟨rfl, preceding, following, implied, hparts⟩ := haround.parts
    · rw [hnone, hnone]
      exact .cons (.single (.inside haround he he' h)) .nil
    · rw [hparts, hparts]
      simp only [List.flatMap_append, List.flatMap_cons]
      exact List.rel_append (List.rel_append (hrefl _) (List.rel_append (ih nofun) (hrefl _))) (hrefl _)

/-- Quotes do not make `None` of a branch, nor hide it. -/
theorem isNullBranch (h : Requoted oracle .branch e e') :
    oracle.isNullBranch e = oracle.isNullBranch e' := by
  have hquoted {q : Expr} {text : String} (htext : stringValue q = .ok (some text)) :
      oracle.isNullBranch q = .ok (text == "None") := by
    have hname : q.isName "None" = false := by
      unfold Expr.isName
      obtain ⟨token, hbare⟩ | ⟨first, gap, rest, hbare⟩ := bare_of_stringValue htext
      all_goals rw [hbare]
    have hcallee : q.callee? = none := by
      unfold Expr.callee?
      obtain ⟨token, hbare⟩ | ⟨first, gap, rest, hbare⟩ := bare_of_stringValue htext
      all_goals rw [hbare]
    rw [Oracle.isNullBranch, hname, htext, hcallee]
    change (if text == "None" then _ else _) = _
    cases text == "None" <;> rfl
  cases h with
  | branch h hellipsis hunion hnull =>
    rw [hquoted h.value]
    obtain rfl | hnull := hnull
    · rfl
    · have htext : e.text ≠ "None" := by
        intro htext
        have hreads := h.reads
        rw [htext, Oracle.parse_none] at hreads
        cases hreads
        cases hnull
      rw [hnull, beq_eq_false_iff_ne.2 htext]
  | quoted _ htext hreads htext' hreads' hnull h =>
    obtain ⟨hother, hother'⟩ := hnull rfl
    rw [hquoted htext, hquoted htext', beq_eq_false_iff_ne.2 hother, beq_eq_false_iff_ne.2 hother']
  | inside haround he he' h => rw [haround.isNullBranch he, haround.isNullBranch he']

theorem nonNull {branches branches' : List Expr}
    (h : List.Forall₂ (Relation.ReflGen (Requoted oracle .branch)) branches branches') :
    Outcomes (List.Forall₂ (Relation.ReflGen (Requoted oracle .branch))) (oracle.nonNull branches)
      (oracle.nonNull branches') := by
  induction h with
  | nil => exact .ok .nil
  | @cons branch branch' rest rest' hfirst _ ih =>
    have hnull : oracle.isNullBranch branch = oracle.isNullBranch branch' := by
      cases hfirst with
      | refl => rfl
      | single hfirst => exact hfirst.isNullBranch
    rw [Oracle.nonNull, Oracle.nonNull, hnull]
    cases oracle.isNullBranch branch' with
    | error fault => exact .fault fault
    | ok isNull =>
      refine ih.bind fun kept kept' hkept => .ok ?_
      cases isNull with
      | true => exact hkept
      | false => exact .cons hfirst hkept

end Requoted

end ModelMetadata
