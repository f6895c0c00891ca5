import ModelMetadata.Proofs.CanonicalLiterals
import ModelMetadata.Proofs.ExampleValues
import ModelMetadata.Proofs.Seeding

/-!
Documented examples, evaluated again. The literal that is written for a documented value stands for that
value with lists in place of tuples, unless a dict in it has a tuple as a key: a list is written for the
tuple, and a list can be no key. Integers that are too long to be written have no literal at all.
-/
set_option autoImplicit false
namespace ModelMetadata

open Source

/-! ## Plain values -/

namespace Value

/-- Whether a value is built from `None`, truth values, integers, texts, lists, tuples and dicts. -/
def isPlain (value : Value) : Bool :=
  value.everywhere fun
    | .none => true
    | .primitive (.bool _) => true
    | .primitive (.int _) => true
    | .primitive (.text _) => true
    | .list _ => true
    | .tuple _ => true
    | .dict _ => true
    | _ => false

def isWritable (value : Value) : Bool :=
  value.everywhere fun
    | .primitive (.int value) => !isOverlong value
    | _ => true

def isTuple : Value → Bool
  | .tuple _ => true
  | _ => false

def hasNoTupleKey (value : Value) : Bool :=
  value.everywhere fun
    | .dict entries => entries.all fun entry => !entry.1.isTuple
    | _ => true

mutual

/-- A value with lists in place of tuples; the keys of dicts are kept. -/
def listed : Value → Value
  | .list items => .list (listedItems items)
  | .tuple items => .list (listedItems items)
  | .dict entries => .dict (listedEntries entries)
  | value => value

def listedItems : List Value → List Value
  | [] => []
  | item :: rest => item.listed :: listedItems rest

def listedEntries : List (Value × Value) → List (Value × Value)
  | [] => []
  | (key, value) :: rest => (key, value.listed) :: listedEntries rest

end

theorem listedItems_eq_map (items : List Value) : listedItems items = items.map listed := by
  induction items with
  | nil => rfl
  | cons item rest ih => rw [listedItems, ih, List.map_cons]

theorem listedEntries_eq_map (entries : List (Value × Value)) :
    listedEntries entries = entries.map fun entry => (entry.1, entry.2.listed) := by
  induction entries with
  | nil => rfl
  | cons entry rest ih => rw [listedEntries, ih, List.map_cons]

end Value

/-! ## Results behind a check -/

/-- There is a result just where a check passes. Otherwise there is one certain fault. -/
structure Gated {ε α : Type} (check : Bool) (fault : ε) (P : α → Prop) (result : Except ε α) : Prop where
  passed : check = true → ∃ a, result = .ok a ∧ P a
  failed : check = false → result = .error fault

namespace Gated

variable {ε α β γ : Type} {check other : Bool} {fault : ε} {P : α → Prop} {Q : β → Prop}

theorem ok {a : α} (h : P a) : Gated true fault P (.ok a) :=
  ⟨fun _ => ⟨a, rfl, h⟩, fun hcheck => (Bool.false_ne_true hcheck.symm).elim⟩

theorem error : Gated false fault P (.error fault) :=
  ⟨fun hcheck => (Bool.false_ne_true hcheck).elim, fun _ => rfl⟩

theorem bind {x : Except ε α} {f : α → Except ε β} (hx : Gated check fault P x)
    (hf : ∀ a, P a → Gated other fault Q (f a)) : Gated (check && other) fault Q (x >>= f) := by
  cases check with
  | false =>
    rw [hx.failed rfl]
    exact error
  | true =>
    obtain ⟨a, rfl, ha⟩ := hx.passed rfl
    exact hf a ha

theorem map {x : Except ε α} {f : α → β} (hx : Gated check fault P x) (hf : ∀ a, P a → Q (f a)) :
    Gated check fault Q (f <$> x) := by
  cases check with
  | false =>
    rw [hx.failed rfl]
    exact error
  | true =>
    obtain ⟨a, rfl, ha⟩ := hx.passed rfl
    exact ok (hf a ha)

theorem imp {P' : α → Prop} {x : Except ε α} (hx : Gated check fault P x) (h : ∀ a, P a → P' a) :
    Gated check fault P' x :=
  ⟨fun hcheck => (hx.passed hcheck).imp fun a ha => ⟨ha.1, h a ha.2⟩, hx.failed⟩

theorem mapM {check : γ → Bool} {R : γ → β → Prop} {f : α → Except ε β} {cs : List γ} {as : List α}
    (h : List.Forall₂ (fun c a => Gated (check c) fault (R c) (f a)) cs as) :
    Gated (cs.all check) fault (List.Forall₂ R cs) (as.mapM f) := by
  induction h with
  | nil => exact ok .nil
  | cons hfirst _ ih =>
    rw [List.mapM_cons]
    exact hfirst.bind fun b hb => ih.map fun bs hbs => .cons hb hbs

end Gated

/-! ## Displays -/

theorem evaluateAll_ofItems (values : List Expr) :
    evaluateAll (Entry.ofItems (values.map Item.value)) = values.mapM evaluate := by
  have hgo (first : Expr) (rest : List Expr) (gap : Gap) :
      evaluateAll (Entry.ofItems.go (.value first) (rest.map Item.value) gap)
        = (first :: rest).mapM evaluate := by
    induction rest generalizing first gap with
    | nil =>
      rw [List.map_nil, Entry.ofItems.go, evaluateAll, evaluateAll, List.mapM_cons, List.mapM_nil]
      rfl
    | cons next rest ih =>
      rw [List.map_cons, Entry.ofItems.go, evaluateAll, ih]
      exact List.mapM_cons.symm
  cases values with
  | nil => rfl
  | cons first rest => exact hgo first rest []

def evaluateEntry (entries : List (Value × Value)) (pair : Expr × Expr) :
    Except ExampleFault (List (Value × Value)) := do
  let key ← evaluate pair.1
  let value ← evaluate pair.2
  insertHashableEntry entries key value

theorem evaluateDict_ofItems (pairs : List (Expr × Expr)) (start : List (Value × Value)) :
    evaluateDict start (Entry.ofItems (pairs.map fun (key, value) => .pair key [] Gap.space value))
      = pairs.foldlM evaluateEntry start := by
  have hgo (first : Expr × Expr) (rest : List (Expr × Expr)) (gap : Gap) (start : List (Value × Value)) :
      evaluateDict start (Entry.ofItems.go (.pair first.1 [] Gap.space first.2)
        (rest.map fun (key, value) => .pair key [] Gap.space value) gap)
        = (first :: rest).foldlM evaluateEntry start := by
    induction rest generalizing first gap start with
    | nil =>
      rw [List.map_nil, Entry.ofItems.go, evaluateDict, List.foldlM_cons, evaluateEntry]
      simp only [bind_assoc, evaluateDict, List.foldlM_nil]
      rfl
    | cons next rest ih =>
      rw [List.map_cons, Entry.ofItems.go, evaluateDict, List.foldlM_cons, evaluateEntry]
      simp only [bind_assoc, ih]
  cases pairs with
  | nil => rfl
  | cons first rest => exact hgo first rest [] start

/-! ## Literals evaluated again -/

theorem evaluate_textLiteral (text : String) :
    evaluate (textLiteral text) = .ok (.primitive (.text text)) := by
  simp only [textLiteral, evaluate, scalarLiteral, stringLiteral, readString_quote]
  rfl

/-- The canonical literal of an exact primitive is evaluated to the primitive. -/
theorem exists_evaluate {p : Primitive} (h : p.IsExact) :
    ∃ e, p.literal = .ok e ∧ evaluate e = .ok (.primitive p) := by
  cases p with
  | bool value => cases value <;> exact ⟨_, rfl, rfl⟩
  | text value => exact ⟨_, rfl, evaluate_textLiteral value⟩
  | float value => exact h.elim
  | int value =>
    have hliteral : (Primitive.int value).literal
        = .ok (negated (value < 0) (.integer (toString value.natAbs))) := by
      rw [Primitive.literal, isOverlong_eq_false_iff.2 h]
      rfl
    have hnumber : numberLiteral (.integer (toString value.natAbs))
        = .ok (.primitive (.int value.natAbs)) := by
      rw [numberLiteral, integerValue_toString h]
    refine ⟨_, hliteral, ?_⟩
    by_cases hsign : value < 0
    · simp only [hsign, decide_true, negated, if_true]
      have hvalue : -(value.natAbs : Int) = value := by omega
      rw [evaluate, signedLiteral, hnumber]
      change Except.ok (Value.primitive (.int (-(value.natAbs : Int)))) = _
      rw [hvalue]
    · simp only [hsign, decide_false, negated, Bool.false_eq_true, if_false]
      have hvalue : (value.natAbs : Int) = value := by omega
      change numberLiteral _ = _
      rw [hnumber, hvalue]

namespace Value

variable {items : List Value} {entries : List (Value × Value)}

/-- An expression is evaluated to a value with lists in place of tuples, if none of them is to be a key. -/
def ReadAs (value : Value) (e : Expr) : Prop :=
  Gated value.hasNoTupleKey .unhashable (· = value.listed) (evaluate e)

/-- A value has a literal that is evaluated to the value, tuples aside, or its integers are too long. -/
def Rewritten (value : Value) : Prop :=
  Gated value.isWritable .overlongInteger value.ReadAs value.literal

theorem rewritten_primitive {p : Primitive} (hplain : (Value.primitive p).isPlain = true) :
    (Value.primitive p).Rewritten := by
  constructor
  · intro hwritable
    have hexact : p.IsExact := by
      cases p with
      | bool _ | text _ => trivial
      | float _ => cases hplain
      | int value =>
        exact isOverlong_eq_false_iff.1 (by simpa [isWritable, everywhere] using hwritable)
    obtain ⟨e, hliteral, hevaluated⟩ := exists_evaluate hexact
    have hread : (Value.primitive p).ReadAs e := by
      unfold ReadAs
      rw [hevaluated]
      exact .ok rfl
    exact ⟨e, hliteral, hread⟩
  · intro hoverlong
    cases p with
    | bool _ | text _ | float _ => cases hoverlong
    | int value =>
      have hvalue : isOverlong value = true := by simpa [isWritable, everywhere] using hoverlong
      rw [literal, Primitive.literal, hvalue]
      rfl

theorem literals_eq_mapM (items : List Value) : literals items = items.mapM literal := by
  induction items with
  | nil => rfl
  | cons item rest ih => rw [literals, ih, List.mapM_cons]

/-- The list of what items are read as. -/
theorem evaluateAll_readAs {values : List Expr} (h : List.Forall₂ ReadAs items values) :
    Gated (items.all hasNoTupleKey) .unhashable (· = items.map listed)
      (evaluateAll (Entry.ofItems (values.map Item.value))) := by
  rw [evaluateAll_ofItems]
  refine (Gated.mapM h).imp fun found hfound => ?_
  rw [← List.forall₂_eq_eq_eq, List.forall₂_map_right_iff]
  exact hfound.flip

/-- A value whose literal is the list of those of its items. -/
theorem rewritten_items {value : Value} (h : ∀ item ∈ items, item.Rewritten)
    (hliteral : value.literal = Expr.ofList <$> literals items)
    (hwritable : value.isWritable = items.all isWritable)
    (hkeys : value.hasNoTupleKey = items.all hasNoTupleKey)
    (hlisted : value.listed = .list (items.map listed)) : value.Rewritten := by
  have hliterals := Gated.mapM (List.forall₂_same.2 h)
  unfold Rewritten
  rw [hliteral, hwritable, literals_eq_mapM]
  refine hliterals.map fun values hvalues => ?_
  unfold ReadAs
  rw [hkeys, hlisted]
  exact (evaluateAll_readAs hvalues).map fun found hfound => congrArg _ hfound

def entryLiteral (entry : Value × Value) : Except Fault (Expr × Expr) := do
  let key ← entry.1.literal
  let value ← entry.2.literal
  return (key, value)

theorem entryLiterals_eq_mapM (entries : List (Value × Value)) :
    entryLiterals entries = entries.mapM entryLiteral := by
  induction entries with
  | nil => rfl
  | cons entry rest ih =>
    rw [entryLiterals, ih, List.mapM_cons, entryLiteral]
    simp only [bind_assoc, pure_bind]

theorem entryLiterals_rewritten (h : ∀ entry ∈ entries, entry.1.Rewritten ∧ entry.2.Rewritten) :
    Gated (Value.dict entries).isWritable .overlongInteger
      (List.Forall₂ (fun entry pair => entry.1.ReadAs pair.1 ∧ entry.2.ReadAs pair.2) entries)
      (entryLiterals entries) := by
  have hwritable : (Value.dict entries).isWritable
      = entries.all fun entry => entry.1.isWritable && entry.2.isWritable := by
    rw [isWritable, everywhere_dict]
    rfl
  rw [hwritable, entryLiterals_eq_mapM]
  refine Gated.mapM (List.forall₂_same.2 fun entry hmem => ?_)
  obtain ⟨hkey, hvalue⟩ := h entry hmem
  exact hkey.bind fun first hfirst => hvalue.map fun second hsecond => ⟨hfirst, hsecond⟩

/-- A key is a tuple, or nothing is in it. -/
theorem key_cases {key : Value} (h : key.isHashable = true) :
    (∃ items, key = .tuple items) ∨ key.isTuple = false ∧ key.hasNoTupleKey = true ∧ key.listed = key := by
  cases key with
  | tuple items => exact .inl ⟨items, rfl⟩
  | list _ | set _ | dict _ => cases h
  | none | primitive _ | bytes _ | complex _ _ | ellipsis => exact .inr ⟨rfl, rfl, rfl⟩

/-- One more entry, unless its key is a tuple: what is read in its place is no key. -/
theorem evaluateEntry_readAs {start : List (Value × Value)} {entry : Value × Value} {pair : Expr × Expr}
    (hkey : entry.1.ReadAs pair.1) (hvalue : entry.2.ReadAs pair.2)
    (hhashable : entry.1.isHashable = true)
    (happart : ∀ found ∈ start, found.1.sameKey entry.1 = false) :
    Gated (!entry.1.isTuple && entry.2.hasNoTupleKey) .unhashable
      (· = start ++ [(entry.1, entry.2.listed)]) (evaluateEntry start pair) := by
  obtain ⟨key, value⟩ := entry
  rcases key_cases hhashable with ⟨items, rfl⟩ | ⟨hother, hkeys, hlisted⟩
  · have hfails : Gated ((Value.tuple items).hasNoTupleKey && (value.hasNoTupleKey && false))
        .unhashable (· = start ++ [(.tuple items, value.listed)]) (evaluateEntry start pair) := by
      refine hkey.bind fun key hread => hvalue.bind fun value _ => ?_
      rw [hread]
      exact .error
    rw [Bool.and_false, Bool.and_false] at hfails
    exact hfails
  · have hinserted : Gated (key.hasNoTupleKey && (value.hasNoTupleKey && true))
        .unhashable (· = start ++ [(key, value.listed)]) (evaluateEntry start pair) := by
      refine hkey.bind fun key hread => hvalue.bind fun value hvalue => ?_
      rw [hread, hvalue, hlisted, insertHashableEntry, if_pos hhashable, insertEntry_of_apart happart]
      exact .ok rfl
    rw [hkeys, Bool.and_true] at hinserted
    rw [hother]
    exact hinserted

theorem foldlM_evaluateEntry {pairs : List (Expr × Expr)} {start : List (Value × Value)}
    (hpairs : List.Forall₂ (fun entry pair => entry.1.ReadAs pair.1 ∧ entry.2.ReadAs pair.2) entries pairs)
    (hhashable : ∀ entry ∈ entries, entry.1.isHashable = true)
    (happart : entries.Pairwise fun x y => x.1.sameKey y.1 = false)
    (hstart : ∀ found ∈ start, ∀ entry ∈ entries, found.1.sameKey entry.1 = false) :
    Gated (entries.all fun entry => !entry.1.isTuple && entry.2.hasNoTupleKey) .unhashable
      (· = start ++ entries.map fun entry => (entry.1, entry.2.listed))
      (pairs.foldlM evaluateEntry start) := by
  induction hpairs generalizing start with
  | nil =>
    rw [List.foldlM_nil, List.map_nil, List.append_nil]
    exact .ok rfl
  | @cons entry pair entries pairs hpair _ ih =>
    obtain ⟨hfirst, hrest⟩ := List.forall_mem_cons.1 hhashable
    obtain ⟨hother, hothers⟩ := List.pairwise_cons.1 happart
    have hstep := evaluateEntry_readAs hpair.1 hpair.2 hfirst
      fun found hfound => hstart found hfound entry List.mem_cons_self
    have hnext : ∀ found ∈ start ++ [(entry.1, entry.2.listed)], ∀ later ∈ entries,
        found.1.sameKey later.1 = false := by
      refine List.forall_mem_append.2 ⟨fun found hfound later hlater => ?_, ?_⟩
      · exact hstart found hfound later (List.mem_cons_of_mem _ hlater)
      · exact List.forall_mem_singleton.2 hother
    rw [List.foldlM_cons, List.all_cons, List.map_cons, List.append_cons]
    refine hstep.bind fun found hfound => ?_
    rw [hfound]
    exact ih hrest hothers hnext

theorem hasNoTupleKey_dict (hhashable : ∀ entry ∈ entries, entry.1.isHashable = true) :
    (Value.dict entries).hasNoTupleKey
      = entries.all fun entry => !entry.1.isTuple && entry.2.hasNoTupleKey := by
  rw [hasNoTupleKey, everywhere_dict, Bool.eq_iff_iff]
  simp only [Bool.and_eq_true, List.all_eq_true, Bool.not_eq_true']
  constructor
  · rintro ⟨hothers, hparts⟩ entry hmem
    exact ⟨hothers entry hmem, (hparts entry hmem).2⟩
  · intro hentries
    refine ⟨fun entry hmem => (hentries entry hmem).1, fun entry hmem => ?_⟩
    obtain ⟨hother, hvalue⟩ := hentries entry hmem
    rcases key_cases (hhashable entry hmem) with ⟨items, htuple⟩ | ⟨-, hkey, -⟩
    · rw [htuple] at hother
      cases hother
    · exact ⟨hkey, hvalue⟩

theorem rewritten_dict (h : ∀ entry ∈ entries, entry.1.Rewritten ∧ entry.2.Rewritten)
    (hkeyed : (Value.dict entries).isKeyed = true) : (Value.dict entries).Rewritten := by
  obtain ⟨hall, happart⟩ := isKeyed_dict.1 hkeyed
  have hhashable : ∀ entry ∈ entries, entry.1.isHashable = true := fun entry hmem => (hall entry hmem).1
  have hliteral : (Value.dict entries).literal = Expr.ofPairs <$> entryLiterals entries := rfl
  unfold Rewritten
  rw [hliteral]
  refine (entryLiterals_rewritten h).map fun pairs hpairs => ?_
  unfold ReadAs
  rw [Expr.ofPairs, evaluate, evaluateDict_ofItems, hasNoTupleKey_dict hhashable, listed,
    listedEntries_eq_map]
  refine (foldlM_evaluateEntry hpairs hhashable happart (by simp)).map fun found hfound => ?_
  rw [hfound, List.nil_append]

theorem isPlain_dict : (Value.dict entries).isPlain = true
    ↔ ∀ entry ∈ entries, entry.1.isPlain = true ∧ entry.2.isPlain = true := by
  rw [isPlain, everywhere_dict, Bool.true_and]
  simp only [List.all_eq_true, Bool.and_eq_true]
  rfl

theorem rewritten {value : Value} (hplain : value.isPlain = true) (hkeyed : value.isKeyed = true) :
    value.Rewritten := by
  induction value with
  | none => exact .ok (.ok rfl)
  | primitive p => exact rewritten_primitive hplain
  | bytes _ | complex _ _ | ellipsis => cases hplain
  | set items _ => cases hplain
  | list items ih =>
    rw [isPlain, everywhere_list, Bool.true_and, List.all_eq_true] at hplain
    exact rewritten_items (fun item hmem => ih item hmem (hplain item hmem) (isKeyed_list.1 hkeyed item hmem))
      rfl (by rw [isWritable, everywhere_list]; rfl) (by rw [hasNoTupleKey, everywhere_list]; rfl)
      (by rw [listed, listedItems_eq_map])
  | tuple items ih =>
    rw [isPlain, everywhere_tuple, Bool.true_and, List.all_eq_true] at hplain
    exact rewritten_items (fun item hmem => ih item hmem (hplain item hmem) (isKeyed_tuple.1 hkeyed item hmem))
      rfl (by rw [isWritable, everywhere_tuple]; rfl) (by rw [hasNoTupleKey, everywhere_tuple]; rfl)
      (by rw [listed, listedItems_eq_map])
  | dict entries ih =>
    refine rewritten_dict (fun entry hmem => ?_) hkeyed
    obtain ⟨hkey, hvalue⟩ := isPlain_dict.1 hplain entry hmem
    obtain ⟨-, hkeyKeyed, hvalueKeyed⟩ := (isKeyed_dict.1 hkeyed).1 entry hmem
    exact ⟨(ih entry hmem).1 hkey hkeyKeyed, (ih entry hmem).2 hvalue hvalueKeyed⟩

end Value

/-! ## Examples -/

/-- What stands in the entries of a documentation is evaluated to something, or it is the literal of a
documented value. -/
theorem evaluate_entries {text descriptionKey : String} {existing : List String} {doc : DocComment}
    {d : Descriptor} (hdoc : DocComment.parse text = .ok doc)
    (h : doc.entries descriptionKey existing = .ok d) :
    ∀ entry ∈ d, (∃ found, evaluate entry.2 = .ok found)
      ∨ ∃ value : Value, value.IsDocumented ∧ value.literal = .ok entry.2 := by
  obtain ⟨examples, rfl, hexamples⟩ := docEntries_parts existing h
  intro entry hentry
  simp only [List.mem_append] at hentry
  rcases hentry with (hentry | hentry) | hentry
  · obtain ⟨prose, -, rfl⟩ := Option.map_eq_some_iff.1 (Option.mem_toList.1 hentry)
    exact .inl ⟨_, evaluate_textLiteral prose⟩
  · rcases hexamples with rfl | ⟨key, value, literal, hfield, -, -, hliteral, rfl⟩
    · cases hentry
    · rw [List.mem_singleton.1 hentry]
      exact .inr ⟨value, .field hdoc hfield, hliteral⟩
  · split at hentry
    · rw [List.mem_singleton.1 hentry]
      exact .inl ⟨_, rfl⟩
    · cases hentry

/-- The literal of a documented value that is built from `None`, truth values, integers, texts, lists,
tuples and dicts. An integer that is too long to be written has none, and then neither has the value. Any
other literal is evaluated to the value with lists in place of tuples, unless a dict in the value has a
tuple as a key: a list is written there, and evaluation fails. -/
theorem evaluate_documented_literal {value : Value} (hdocumented : value.IsDocumented)
    (hplain : value.isPlain = true) :
    (value.isWritable = false → value.literal = .error .overlongInteger)
      ∧ (value.isWritable = true → ∃ e, value.literal = .ok e
        ∧ (value.hasNoTupleKey = true → evaluate e = .ok value.listed)
        ∧ (value.hasNoTupleKey = false → evaluate e = .error .unhashable)) := by
  have hrewritten := Value.rewritten hplain hdocumented.isKeyed
  refine ⟨hrewritten.failed, fun hwritable => ?_⟩
  obtain ⟨e, hliteral, hread⟩ := hrewritten.passed hwritable
  refine ⟨e, hliteral, fun hkeys => ?_, hread.failed⟩
  obtain ⟨found, hfound, rfl⟩ := hread.passed hkeys
  exact hfound

def mixedExample : Value :=
  .dict [(.primitive (.text "a"), .tuple [.primitive (.int 1), .list [.none, .primitive (.bool true)]]),
    (.primitive (.int (-2)), .dict [(.none, .tuple [])])]

set_option maxRecDepth 8000 in
theorem exampleValue_mixed :
    exampleValue "\x7b'a': (1, [None, True],), -2: \x7bNone: ()\x7d\x7d" = .ok mixedExample := by
  cbv

theorem evaluate_documented_literal_of_mixed :
    ∃ e, mixedExample.literal = .ok e ∧ evaluate e = .ok mixedExample.listed := by
  have hwritable : mixedExample.isWritable = true := by decide +kernel
  obtain ⟨e, hliteral, hevaluated, -⟩ :=
    (evaluate_documented_literal (.text exampleValue_mixed) rfl).2 hwritable
  exact ⟨e, hliteral, hevaluated rfl⟩

def pointExample : Value :=
  .dict [(.tuple [.primitive (.int 1), .primitive (.int 2)], .primitive (.int 3))]

set_option maxRecDepth 4000 in
theorem exampleValue_point : exampleValue "\x7b(1, 2): 3\x7d" = .ok pointExample := by
  cbv

/-- A tuple is written as a list where it is a key, too. -/
theorem unhashable_of_tuple_key :
    ∃ value e, exampleValue "\x7b(1, 2): 3\x7d" = .ok value ∧ value.isPlain = true
      ∧ value.literal = .ok e ∧ evaluate e = .error .unhashable := by
  have hwritable : pointExample.isWritable = true := by decide +kernel
  have hrewritten := Value.rewritten rfl (isKeyed_of_exampleValue exampleValue_point)
  obtain ⟨e, hliteral, hread⟩ := hrewritten.passed hwritable
  exact ⟨pointExample, e, exampleValue_point, rfl, hliteral, hread.failed rfl⟩

end ModelMetadata
