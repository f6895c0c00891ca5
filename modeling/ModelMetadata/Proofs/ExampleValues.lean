import ModelMetadata.Descriptor.Documentation

/-!
Values of examples. What the text of an example is evaluated to holds no dict with a key that can be none
or that occurs twice. The same is true of the value that stands in the entry for the examples of a
documentation.
-/
set_option autoImplicit false
namespace ModelMetadata

open Source

/-! ## Values and their parts -/

namespace Value

/-- Induction over values, by what they hold. -/
@[elab_as_elim, induction_eliminator]
theorem inductionOn {motive : Value → Prop} (none : motive .none)
    (primitive : ∀ value, motive (.primitive value)) (bytes : ∀ value, motive (.bytes value))
    (complex : ∀ re im, motive (.complex re im)) (ellipsis : motive .ellipsis)
    (list : ∀ items, (∀ item ∈ items, motive item) → motive (.list items))
    (tuple : ∀ items, (∀ item ∈ items, motive item) → motive (.tuple items))
    (set : ∀ items, (∀ item ∈ items, motive item) → motive (.set items))
    (dict : ∀ entries, (∀ entry ∈ entries, motive entry.1 ∧ motive entry.2) → motive (.dict entries))
    (value : Value) : motive value :=
  @Value.rec motive (fun items => ∀ item ∈ items, motive item)
    (fun entries => ∀ entry ∈ entries, motive entry.1 ∧ motive entry.2)
    (fun entry => motive entry.1 ∧ motive entry.2)
    none primitive bytes complex ellipsis list tuple set dict
    nofun (fun _ _ hfirst hrest => List.forall_mem_cons.2 ⟨hfirst, hrest⟩)
    nofun (fun _ _ hfirst hrest => List.forall_mem_cons.2 ⟨hfirst, hrest⟩)
    (fun _ _ => And.intro) value

mutual

def everywhere (check : Value → Bool) : Value → Bool
  | .list items => check (.list items) && itemsPass check items
  | .tuple items => check (.tuple items) && itemsPass check items
  | .set items => check (.set items) && itemsPass check items
  | .dict entries => check (.dict entries) && entriesPass check entries
  | value => check value

def itemsPass (check : Value → Bool) : List Value → Bool
  | [] => true
  | item :: rest => item.everywhere check && itemsPass check rest

def entriesPass (check : Value → Bool) : List (Value × Value) → Bool
  | [] => true
  | (key, value) :: rest =>
    key.everywhere check && (value.everywhere check && entriesPass check rest)

end

def isKeyed (value : Value) : Bool :=
  value.everywhere fun
    | .dict entries => entries.all (fun entry => entry.1.isHashable)
        && decide (entries.Pairwise fun x y => x.1.sameKey y.1 = false)
    | _ => true

section

variable {check : Value → Bool} {items : List Value} {entries : List (Value × Value)}

theorem itemsPass_eq_all : itemsPass check items = items.all (everywhere check) := by
  induction items with
  | nil => rfl
  | cons item rest ih => rw [itemsPass, ih, List.all_cons]

theorem entriesPass_eq_all : entriesPass check entries
    = entries.all fun entry => entry.1.everywhere check && entry.2.everywhere check := by
  induction entries with
  | nil => rfl
  | cons entry rest ih => rw [entriesPass, ih, List.all_cons, Bool.and_assoc]

theorem everywhere_list :
    (Value.list items).everywhere check = (check (.list items) && items.all (everywhere check)) := by
  rw [everywhere, itemsPass_eq_all]

theorem everywhere_tuple :
    (Value.tuple items).everywhere check = (check (.tuple items) && items.all (everywhere check)) := by
  rw [everywhere, itemsPass_eq_all]

theorem everywhere_set :
    (Value.set items).everywhere check = (check (.set items) && items.all (everywhere check)) := by
  rw [everywhere, itemsPass_eq_all]

theorem everywhere_dict :
    (Value.dict entries).everywhere check
      = (check (.dict entries)
        && entries.all fun entry => entry.1.everywhere check && entry.2.everywhere check) := by
  rw [everywhere, entriesPass_eq_all]

end

end Value

/-! ## Dicts by their entries -/

namespace Value

variable {entries : List (Value × Value)} {key value : Value}

theorem isKeyed_dict : (Value.dict entries).isKeyed = true
    ↔ (∀ entry ∈ entries, entry.1.isHashable = true ∧ entry.1.isKeyed = true
        ∧ entry.2.isKeyed = true)
      ∧ entries.Pairwise fun x y => x.1.sameKey y.1 = false := by
  rw [isKeyed, everywhere_dict]
  simp only [Bool.and_eq_true, List.all_eq_true, decide_eq_true_eq]
  constructor
  · rintro ⟨⟨hhashable, happart⟩, hentries⟩
    exact ⟨fun entry hmem => ⟨hhashable entry hmem, hentries entry hmem⟩, happart⟩
  · rintro ⟨hentries, happart⟩
    exact ⟨⟨fun entry hmem => (hentries entry hmem).1, happart⟩,
      fun entry hmem => (hentries entry hmem).2⟩

theorem isKeyed_list {items : List Value} :
    (Value.list items).isKeyed = true ↔ ∀ item ∈ items, item.isKeyed = true := by
  rw [isKeyed, everywhere_list, Bool.true_and, List.all_eq_true]
  rfl

theorem isKeyed_tuple {items : List Value} :
    (Value.tuple items).isKeyed = true ↔ ∀ item ∈ items, item.isKeyed = true := by
  rw [isKeyed, everywhere_tuple, Bool.true_and, List.all_eq_true]
  rfl

theorem isKeyed_set {items : List Value} :
    (Value.set items).isKeyed = true ↔ ∀ item ∈ items, item.isKeyed = true := by
  rw [isKeyed, everywhere_set, Bool.true_and, List.all_eq_true]
  rfl

/-- An entry of a dict with one more has an old key or the new one, and an old value or the new one. -/
theorem mem_insertEntry {entry : Value × Value} (h : entry ∈ insertEntry entries key value) :
    (entry.1 = key ∨ ∃ old, (entry.1, old) ∈ entries) ∧ (entry ∈ entries ∨ entry.2 = value) := by
  induction entries with
  | nil =>
    obtain rfl := List.mem_singleton.1 h
    exact ⟨.inl rfl, .inr rfl⟩
  | cons first rest ih =>
    unfold insertEntry at h
    split at h
    · rcases List.mem_cons.1 h with rfl | h
      · exact ⟨.inr ⟨_, List.mem_cons_self⟩, .inr rfl⟩
      · exact ⟨.inr ⟨_, List.mem_cons_of_mem _ h⟩, .inl (List.mem_cons_of_mem _ h)⟩
    · rcases List.mem_cons.1 h with rfl | h
      · exact ⟨.inr ⟨_, List.mem_cons_self⟩, .inl List.mem_cons_self⟩
      · obtain ⟨hkey, hvalue⟩ := ih h
        exact ⟨hkey.imp_right fun ⟨old, hold⟩ => ⟨old, List.mem_cons_of_mem _ hold⟩,
          hvalue.imp_left (List.mem_cons_of_mem _)⟩

/-- Keys stay apart when an entry is inserted. -/
theorem pairwise_insertEntry (h : entries.Pairwise fun x y => x.1.sameKey y.1 = false) :
    (insertEntry entries key value).Pairwise fun x y => x.1.sameKey y.1 = false := by
  induction entries with
  | nil => exact List.pairwise_singleton _ _
  | cons first rest ih =>
    obtain ⟨hfirst, hrest⟩ := List.pairwise_cons.1 h
    unfold insertEntry
    split
    · exact List.pairwise_cons.2 ⟨hfirst, hrest⟩
    · rename_i hother
      refine List.pairwise_cons.2 ⟨fun entry hmem => ?_, ih hrest⟩
      rcases (mem_insertEntry hmem).1 with hkey | ⟨old, hold⟩
      · rw [hkey]
        exact eq_false_of_ne_true hother
      · exact hfirst (entry.1, old) hold

theorem isKeyed_insertEntry (hentries : (Value.dict entries).isKeyed = true)
    (hhashable : key.isHashable = true) (hkey : key.isKeyed = true) (hvalue : value.isKeyed = true) :
    (Value.dict (insertEntry entries key value)).isKeyed = true := by
  obtain ⟨hall, happart⟩ := isKeyed_dict.1 hentries
  refine isKeyed_dict.2 ⟨fun entry hmem => ?_, pairwise_insertEntry happart⟩
  obtain ⟨hold, hnew⟩ := mem_insertEntry hmem
  have hentryKey : entry.1.isHashable = true ∧ entry.1.isKeyed = true := by
    rcases hold with hnewKey | ⟨old, hold⟩
    · rw [hnewKey]
      exact ⟨hhashable, hkey⟩
    · exact ⟨(hall _ hold).1, (hall _ hold).2.1⟩
  have hentryValue : entry.2.isKeyed = true := by
    rcases hnew with hold | hnew
    · exact (hall _ hold).2.2
    · rw [hnew]
      exact hvalue
  exact ⟨hentryKey.1, hentryKey.2, hentryValue⟩

theorem isKeyed_insertItem {items : List Value} {item : Value}
    (hitems : ∀ item ∈ items, item.isKeyed = true) (hitem : item.isKeyed = true) :
    ∀ found ∈ insertItem items item, found.isKeyed = true := by
  unfold insertItem
  split
  · exact hitems
  · exact List.forall_mem_append.2 ⟨hitems, List.forall_mem_singleton.2 hitem⟩

/-- A key that no entry has is inserted at the end. -/
theorem insertEntry_of_apart (h : ∀ entry ∈ entries, entry.1.sameKey key = false) :
    insertEntry entries key value = entries ++ [(key, value)] := by
  induction entries with
  | nil => rfl
  | cons first rest ih =>
    obtain ⟨hfirst, hrest⟩ := List.forall_mem_cons.1 h
    rw [insertEntry, hfirst, ih hrest]
    rfl

end Value

/-! ## What texts are evaluated to -/

def Value.IsNumber : Value → Prop
  | .primitive _ => True
  | .complex _ _ => True
  | _ => False

theorem Value.IsNumber.isKeyed {value : Value} (h : value.IsNumber) : value.isKeyed = true := by
  cases value with
  | primitive _ => rfl
  | complex _ _ => rfl
  | none | bytes _ | ellipsis | list _ | tuple _ | set _ | dict _ => exact h.elim

section

variable {e : Expr} {value : Value}

theorem isNumber_of_numberLiteral (h : numberLiteral e = .ok value) : value.IsNumber := by
  fun_induction numberLiteral e with
  | case1 _ _ _ ih => exact ih h
  | case2 => cases h; trivial
  | case4 => cases h; trivial
  | case5 => cases h; trivial
  | case3 | case6 => cases h

theorem isNumber_of_signedLiteral (h : signedLiteral e = .ok value) : value.IsNumber := by
  fun_induction signedLiteral e with
  | case1 _ _ _ ih => exact ih h
  | case2 op _ operand =>
    obtain ⟨number, hnumber, h⟩ := bind_eq_ok.1 h
    have hoperand := isNumber_of_numberLiteral hnumber
    split at h
    · cases number with
      | primitive p => cases p <;> cases h <;> trivial
      | complex _ _ => cases h; trivial
      | none | bytes _ | ellipsis | list _ | tuple _ | set _ | dict _ => cases h
    · split at h
      · cases h
        exact hoperand
      · cases h
  | case3 => exact isNumber_of_numberLiteral h

theorem isNumber_of_complexSum {isSum : Bool} {left right : Value}
    (h : complexSum isSum left right = .ok value) : value.IsNumber := by
  cases right with
  | complex _ im =>
    obtain ⟨re, -, h⟩ := bind_eq_ok.1 h
    split at h <;> cases h <;> trivial
  | none | primitive _ | bytes _ | ellipsis | list _ | tuple _ | set _ | dict _ => cases h

/-- Strings and numbers hold no dicts. -/
theorem isKeyed_of_scalarLiteral {e : Expr} (h : scalarLiteral e = .ok value) : value.isKeyed = true := by
  unfold scalarLiteral at h
  split at h
  · cases h
    rfl
  · cases h
    rfl
  · cases h
  · exact (isNumber_of_numberLiteral h).isKeyed

end

mutual

/-- The keys of every dict that is evaluated can be keys, each of them once. -/
theorem isKeyed_of_evaluate : ∀ (e : Expr) (value : Value), evaluate e = .ok value → value.isKeyed = true
  | .paren _ inner _, value, h => isKeyed_of_evaluate inner value h
  | .list entries _, _, h => by
    obtain ⟨items, hitems, rfl⟩ := map_eq_ok.1 h
    exact Value.isKeyed_list.2 (isKeyed_of_evaluateAll entries items hitems)
  | .tuple entries, _, h => by
    obtain ⟨items, hitems, rfl⟩ := map_eq_ok.1 h
    exact Value.isKeyed_tuple.2 (isKeyed_of_evaluateAll entries items hitems)
  | .set entries _, _, h => by
    obtain ⟨items, hitems, rfl⟩ := map_eq_ok.1 h
    exact Value.isKeyed_set.2 (isKeyed_of_evaluateSet entries [] items nofun hitems)
  | .dict entries _, _, h => by
    obtain ⟨found, hfound, rfl⟩ := map_eq_ok.1 h
    exact isKeyed_of_evaluateDict entries [] found rfl hfound
  | .name text, _, h => by
    unfold evaluate at h
    split at h <;> try contradiction
    · cases h
      rfl
    · cases h
      rfl
    · cases h
      rfl
  | .ellipsis, _, h => by
    cases h
    rfl
  | .call callee _ [] _, _, h => by
    unfold evaluate at h
    split at h
    · cases h
      rfl
    · cases h
  | .binary left _ op _ right, _, h => by
    unfold evaluate at h
    split at h
    · obtain ⟨x, -, h⟩ := bind_eq_ok.1 h
      obtain ⟨y, -, h⟩ := bind_eq_ok.1 h
      exact (isNumber_of_complexSum h).isKeyed
    · cases h
  | .unary _ _ _, _, h => (isNumber_of_signedLiteral h).isKeyed
  | .call callee gap (entry :: rest) gap', _, h => isKeyed_of_scalarLiteral h
  | .integer text, _, h => isKeyed_of_scalarLiteral h
  | .float text, _, h => isKeyed_of_scalarLiteral h
  | .imaginary text, _, h => isKeyed_of_scalarLiteral h
  | .string text, _, h => isKeyed_of_scalarLiteral h
  | .adjacent first gap rest, _, h => isKeyed_of_scalarLiteral h
  | .attribute owner gap gap' attr, _, h => isKeyed_of_scalarLiteral h
  | .subscript owner gap entries gap', _, h => isKeyed_of_scalarLiteral h
  | .lambda header gap body, _, h => isKeyed_of_scalarLiteral h
  | .compound parts, _, h => isKeyed_of_scalarLiteral h

theorem isKeyed_of_evaluateAll : ∀ (entries : List Entry) (items : List Value),
    evaluateAll entries = .ok items → ∀ item ∈ items, item.isKeyed = true
  | [], _, h => by
    cases h
    nofun
  | .mk _ (.value e) _ :: rest, _, h => by
    obtain ⟨first, hfirst, h⟩ := bind_eq_ok.1 h
    obtain ⟨others, hothers, h⟩ := bind_eq_ok.1 h
    cases h
    exact List.forall_mem_cons.2
      ⟨isKeyed_of_evaluate e first hfirst, isKeyed_of_evaluateAll rest others hothers⟩
  | .mk _ (.star ..) _ :: _, _, h
  | .mk _ (.keyword ..) _ :: _, _, h
  | .mk _ (.pair ..) _ :: _, _, h
  | .mk _ (.slice _) _ :: _, _, h => by cases h

theorem isKeyed_of_evaluateSet : ∀ (entries : List Entry) (start items : List Value),
    (∀ item ∈ start, item.isKeyed = true) → evaluateSet start entries = .ok items →
      ∀ item ∈ items, item.isKeyed = true
  | [], _, _, hstart, h => by
    cases h
    exact hstart
  | .mk _ (.value e) _ :: rest, start, items, hstart, h => by
    obtain ⟨item, hitem, h⟩ := bind_eq_ok.1 h
    obtain ⟨more, hmore, h⟩ := bind_eq_ok.1 h
    refine isKeyed_of_evaluateSet rest more items ?_ h
    unfold insertHashable at hmore
    split at hmore
    · cases hmore
      exact Value.isKeyed_insertItem hstart (isKeyed_of_evaluate e item hitem)
    · cases hmore
  | .mk _ (.star ..) _ :: _, _, _, _, h
  | .mk _ (.keyword ..) _ :: _, _, _, _, h
  | .mk _ (.pair ..) _ :: _, _, _, _, h
  | .mk _ (.slice _) _ :: _, _, _, _, h => by cases h

theorem isKeyed_of_evaluateDict : ∀ (entries : List Entry) (start found : List (Value × Value)),
    (Value.dict start).isKeyed = true → evaluateDict start entries = .ok found →
      (Value.dict found).isKeyed = true
  | [], _, _, hstart, h => by
    cases h
    exact hstart
  | .mk _ (.pair keyExpr _ _ e) _ :: rest, start, found, hstart, h => by
    obtain ⟨key, hkey, h⟩ := bind_eq_ok.1 h
    obtain ⟨value, hvalue, h⟩ := bind_eq_ok.1 h
    obtain ⟨more, hmore, h⟩ := bind_eq_ok.1 h
    refine isKeyed_of_evaluateDict rest more found ?_ h
    unfold insertHashableEntry at hmore
    split at hmore
    · rename_i hhashable
      cases hmore
      exact Value.isKeyed_insertEntry hstart hhashable (isKeyed_of_evaluate keyExpr key hkey)
        (isKeyed_of_evaluate e value hvalue)
    · cases hmore
  | .mk _ (.star ..) _ :: _, _, _, _, h
  | .mk _ (.keyword ..) _ :: _, _, _, _, h
  | .mk _ (.value _) _ :: _, _, _, _, h
  | .mk _ (.slice _) _ :: _, _, _, _, h => by cases h

end

/-! ## Documented values -/

/-- The values that documentation gives: what the text of an example stands for, and what stands in the
entry for the examples of a text. -/
inductive Value.IsDocumented (value : Value) : Prop
  | text {text : String} (h : exampleValue text = .ok value)
  | field {text key : String} {doc : DocComment} (hdoc : DocComment.parse text = .ok doc)
    (h : exampleField? doc.examples = some (key, value))

theorem isKeyed_of_exampleValue {text : String} {value : Value} (h : exampleValue text = .ok value) :
    value.isKeyed = true := by
  unfold exampleValue at h
  split at h
  · cases h
    rfl
  · cases h
    rfl
  · rename_i e _ _
    cases hvalue : evaluate e with
    | ok found =>
      rw [hvalue] at h
      cases h
      exact isKeyed_of_evaluate e _ hvalue
    | error fault =>
      rw [hvalue] at h
      cases fault <;> cases h
      rfl

/-- The examples of a text are what the texts of its fields stand for. -/
theorem isKeyed_of_parse {text : String} {doc : DocComment} (h : DocComment.parse text = .ok doc) :
    ∀ value ∈ doc.examples, value.isKeyed = true := by
  obtain ⟨⟨prose, found⟩, hfound, h⟩ := bind_eq_ok.1 h
  cases h
  refine foldlM_ok (P := fun state => ∀ value ∈ state.2.examples, value.isKeyed = true)
    (fun state hstate line _ next hnext => ?_) (by simp) hfound
  change readDocLine state.1 state.2 line = .ok next at hnext
  unfold readDocLine at hnext
  split at hnext
  · cases hnext
    exact hstate
  · split at hnext
    · obtain ⟨value, hvalue, hnext⟩ := bind_eq_ok.1 hnext
      cases hnext
      exact List.forall_mem_append.2
        ⟨hstate, List.forall_mem_singleton.2 (isKeyed_of_exampleValue hvalue)⟩
    · split at hnext <;> cases hnext <;> exact hstate

theorem Value.IsDocumented.isKeyed {value : Value} (h : value.IsDocumented) : value.isKeyed = true := by
  cases h with
  | text h => exact isKeyed_of_exampleValue h
  | field hdoc h =>
    have hall := isKeyed_of_parse hdoc
    unfold exampleField? at h
    split at h
    · cases h
    · rename_i heq
      cases h
      exact hall value (by rw [heq]; exact List.mem_cons_self)
    · cases h
      exact Value.isKeyed_list.2 hall

end ModelMetadata
