import ModelMetadata.Proofs.Layers

/-!
Stacks of wrappers. The annotation of a property is a type under layers: wrappers, each around the first
of its indices, and quotes, which may stand around any layer and around the type. Unwrapping takes off
the whole stack and says what its wrappers said, the outermost one first; there is nothing to take off
from the type that is left.
-/
set_option autoImplicit false
namespace ModelMetadata

open Source

inductive Wrapper where
  | annotated
  | notRequired
  | required
  | classVar
  | final
  | readOnly
deriving Repr, DecidableEq

namespace Wrapper

def name : Wrapper → String
  | annotated => "Annotated"
  | notRequired => "NotRequired"
  | required => "Required"
  | classVar => classVarName
  | final => "Final"
  | readOnly => "ReadOnly"

def optional? : Wrapper → Option Bool
  | notRequired => some true
  | required => some false
  | _ => none

end Wrapper

structure Layer where
  wrapper : Wrapper
  metadata : List Expr := []

def Layer.markers (layer : Layer) : List Expr :=
  if layer.wrapper = .annotated then layer.metadata else []

namespace Unwrapped

def joined (outer inner : Unwrapped) : Unwrapped where
  type := inner.type
  markers := outer.markers ++ inner.markers
  optional := outer.optional.or inner.optional
  classVar := outer.classVar || inner.classVar

theorem joined_assoc (outer middle inner : Unwrapped) :
    (outer.joined middle).joined inner = outer.joined (middle.joined inner) := by
  simp only [joined, List.append_assoc, Option.or_assoc, Bool.or_assoc]

def ofLayers (layers : List Layer) (type : Expr) (classVar : Bool) : Unwrapped where
  type
  markers := layers.flatMap Layer.markers
  optional := layers.findSome? fun layer => layer.wrapper.optional?
  classVar := layers.any (fun layer => layer.wrapper = .classVar) || classVar

theorem ofLayers_nil (type : Expr) (classVar : Bool) :
    ofLayers [] type classVar = { type, classVar } := rfl

theorem ofLayers_cons (layer : Layer) (layers : List Layer) (e type : Expr) (classVar : Bool) :
    ofLayers (layer :: layers) type classVar
      = (ofLayers [layer] e false).joined (ofLayers layers type classVar) := by
  simp only [ofLayers, joined, List.flatMap_cons, List.flatMap_nil, List.append_nil, List.any_cons,
    List.any_nil, Bool.or_false, Bool.or_assoc, List.findSome?_cons, List.findSome?_nil]
  cases layer.wrapper.optional? <;> rfl

/-- A wrapper adds what its layer says. -/
theorem wrappedBy?_name (found : Unwrapped) (layer : Layer) (e : Expr) :
    (found.wrappedBy? layer.wrapper.name layer.metadata).map (fun found => { found with type := e })
      = some (found.joined (ofLayers [layer] e false)) := by
  obtain ⟨wrapper, metadata⟩ := layer
  obtain ⟨type, markers, optional, classVar⟩ := found
  cases wrapper <;> cases optional <;>
    simp [wrappedBy?, Wrapper.name, joined, ofLayers, Layer.markers, Wrapper.optional?, classVarName]

end Unwrapped

namespace Oracle

variable {oracle : Oracle} {type e : Expr} {layers : List Layer}

/-- An annotation made of a type and the layers around it, the outermost first. Quotes are no layer of
their own: they may stand anywhere, and any number of times. -/
inductive Stacked (oracle : Oracle) (type : Expr) : List Layer → Expr → Prop
  | type : Stacked oracle type [] type
  | quoted {layers : List Layer} {q inner : Expr} {text : String}
    (htext : stringValue q = .ok (some text)) (hparse : Expr.parse (Text.trimmed text) = .ok inner)
    (h : Stacked oracle type layers inner) : Stacked oracle type layers q
  | layer {layers : List Layer} {e owner first : Expr} (layer : Layer)
    (hindexing : e.indexing? = some (owner, first, layer.metadata))
    (hname : oracle.wrapperName owner = layer.wrapper.name) (h : Stacked oracle type layers first) :
    Stacked oracle type (layer :: layers) e

/-- Where unwrapping stops: at what is neither quoted nor the subscript of a wrapper, and at a string
that quotes no expression. -/
inductive Unlayered (oracle : Oracle) (type : Expr) : Prop
  | unquoted (htext : stringValue type = .ok none)
    (howner : ∀ owner first rest, type.indexing? = some (owner, first, rest) →
      ∀ wrapper : Wrapper, oracle.wrapperName owner ≠ wrapper.name)
  | unreadable {text : String} (htext : stringValue type = .ok (some text))
    (hparse : Expr.parse (Text.trimmed text) = .error .malformed)

def isBareClassVar (oracle : Oracle) (type : Expr) : Bool :=
  !type.isSubscript && oracle.wrapperName type == classVarName

theorem stringValue_of_indexing? {owner first : Expr} {rest : List Expr}
    (hindexing : e.indexing? = some (owner, first, rest)) : stringValue e = .ok none := by
  rw [← stringValue_bare]
  unfold Expr.indexing? at hindexing
  split at hindexing
  · rename_i hbare
    rw [hbare]
    rfl
  · cases hindexing

theorem wrappedBy?_eq_none {found : Unwrapped} {wrapper : String} {metadata : List Expr}
    (h : ∀ known : Wrapper, wrapper ≠ known.name) : found.wrappedBy? wrapper metadata = none := by
  have hannotated := h .annotated
  have hnotRequired := h .notRequired
  have hrequired := h .required
  have hclassVar := h .classVar
  have hfinal := h .final
  have hreadOnly := h .readOnly
  simp only [Wrapper.name] at *
  simp [Unwrapped.wrappedBy?, *]

/-- A string is no name, so no bare class variable. -/
theorem isBareClassVar_of_stringValue {text : String} (htext : stringValue e = .ok (some text)) :
    oracle.isBareClassVar e = false := by
  have hname : oracle.wrapperName e.bare = "" := by
    obtain ⟨token, hbare⟩ | ⟨first, gap, rest, hbare⟩ := bare_of_stringValue htext
    all_goals
      rw [hbare]
      rfl
  rw [isBareClassVar, ← wrapperName_bare, hname]
  exact Bool.and_false _

/-- The type under the layers has nothing to take off. -/
theorem unwrapFrom_unlayered (h : Unlayered oracle type) (found : Unwrapped) :
    unwrapFrom oracle { found with type }
      = .ok (found.joined (.ofLayers [] type (oracle.isBareClassVar type))) := by
  have hjoined : found.joined (.ofLayers [] type (oracle.isBareClassVar type))
      = { found with type, classVar := found.classVar || oracle.isBareClassVar type } := by
    rw [Unwrapped.ofLayers_nil, Unwrapped.joined, List.append_nil, Option.or_none]
  rw [hjoined]
  cases h with
  | unreadable htext hparse =>
    rw [unwrapFrom_eq, htext, isBareClassVar_of_stringValue htext, Bool.or_false]
    simp only [quotedIn?, hparse, bind, Except.bind]
    rfl
  | unquoted htext howner =>
    cases hindexing : type.indexing? with
    | some index =>
      obtain ⟨owner, first, rest⟩ := index
      have hsubscript : type.isSubscript = true := by
        by_contra hother
        rw [Expr.indexing?_of_not_subscript (Bool.eq_false_iff.2 hother)] at hindexing
        cases hindexing
      rw [unwrapFrom_indexed htext hindexing, wrappedBy?_eq_none (howner _ _ _ hindexing),
        isBareClassVar, hsubscript]
      simp
    | none =>
      rw [unwrapFrom_eq, htext]
      simp only [bind, Except.bind, hindexing, isBareClassVar]
      cases type.isSubscript
      · rfl
      · simp only [Bool.not_true, Bool.false_and, Bool.or_false]
        rfl

/-- One layer adds what it says, and leaves what it wraps. -/
theorem unwrapFrom_layer {owner first : Expr} (layer : Layer)
    (hindexing : e.indexing? = some (owner, first, layer.metadata))
    (hname : oracle.wrapperName owner = layer.wrapper.name) (found : Unwrapped) :
    unwrapFrom oracle { found with type := e }
      = unwrapFrom oracle (found.joined (.ofLayers [layer] first false)) := by
  have hadded := Unwrapped.wrappedBy?_name found layer first
  rw [unwrapFrom_indexed (stringValue_of_indexing? hindexing) hindexing, hname]
  cases hwrapped : found.wrappedBy? layer.wrapper.name layer.metadata with
  | none =>
    rw [hwrapped] at hadded
    cases hadded
  | some added =>
    rw [hwrapped, Option.map_some] at hadded
    dsimp only
    rw [Option.some.inj hadded]

/-- Unwrapping takes off a whole stack, whatever was found outside of it. -/
theorem unwrapFrom_stacked (htype : Unlayered oracle type) (h : Stacked oracle type layers e)
    (found : Unwrapped) :
    unwrapFrom oracle { found with type := e }
      = .ok (found.joined (.ofLayers layers type (oracle.isBareClassVar type))) := by
  induction h generalizing found with
  | type => exact unwrapFrom_unlayered htype found
  | quoted htext hparse _ ih =>
    rw [unwrapFrom_quoted htext (quotedIn?_of_parse hparse)]
    exact ih found
  | @layer layers e owner first layer hindexing hname _ ih =>
    rw [unwrapFrom_layer layer hindexing hname, Unwrapped.ofLayers_cons layer layers first,
      ← Unwrapped.joined_assoc]
    exact ih (found.joined (.ofLayers [layer] first false))

/-- Unwrapping a stack gives the type under it, with what the layers say. -/
theorem unwrap_stacked (htype : Unlayered oracle type) (h : Stacked oracle type layers e) :
    oracle.unwrap e = .ok (.ofLayers layers type (oracle.isBareClassVar type))
      ∧ oracle.unwrap type = .ok (.ofLayers [] type (oracle.isBareClassVar type)) :=
  ⟨unwrapFrom_stacked htype h { type := e }, unwrapFrom_unlayered htype { type }⟩

end Oracle

namespace Stack

/-- A module with `from typing import Annotated, NotRequired, Required` -/
def oracle : Oracle where
  host.moduleName := "m"
  host.imports := ⟨["Annotated", "NotRequired", "Required"].map fun name =>
    (name, { origin := "typing", imported := some name })⟩

/-- `Annotated[e, n]` -/
def annotated (e : Expr) (n : String) : Expr :=
  .subscript (.name "Annotated") [] [.mk [] (.value e) (some []), .mk Gap.space (.value (.integer n)) none] []

/-- `wrapper[e]` -/
def wrapped (wrapper : String) (e : Expr) : Expr :=
  .subscript (.name wrapper) [] [.mk [] (.value e) none] []

/-- `NotRequired[Annotated[Required["Annotated['int', 2]"], 1]]` -/
def typeHint : Expr :=
  wrapped "NotRequired" (annotated (wrapped "Required" (.string "\"Annotated['int', 2]\"")) "1")

def layers : List Layer :=
  [⟨.notRequired, []⟩, ⟨.annotated, [.integer "1"]⟩, ⟨.required, []⟩, ⟨.annotated, [.integer "2"]⟩]

theorem stacked : oracle.Stacked (.name "int") layers typeHint := by
  have htext : stringValue (.string "'int'") = .ok (some "int") := by cbv
  have hparse : Expr.parse (Text.trimmed "int") = .ok (.name "int") := by cbv
  have hint : oracle.Stacked (.name "int") [] (.string "'int'") := .quoted htext hparse .type
  have hinner : oracle.Stacked (.name "int") [⟨.annotated, [.integer "2"]⟩] (annotated (.string "'int'") "2") :=
    .layer ⟨.annotated, [.integer "2"]⟩ rfl rfl hint
  have htext : stringValue (.string "\"Annotated['int', 2]\"") = .ok (some "Annotated['int', 2]") := by cbv
  have hparse : Expr.parse (Text.trimmed "Annotated['int', 2]") = .ok (annotated (.string "'int'") "2") := by
    cbv
  have hquoted : oracle.Stacked (.name "int") [⟨.annotated, [.integer "2"]⟩]
      (.string "\"Annotated['int', 2]\"") := .quoted htext hparse hinner
  exact .layer ⟨.notRequired, []⟩ rfl rfl
    (.layer ⟨.annotated, [.integer "1"]⟩ rfl rfl (.layer ⟨.required, []⟩ rfl rfl hquoted))

theorem unlayered : oracle.Unlayered (.name "int") := .unquoted rfl nofun

end Stack

theorem unwrap_stacked_of_quotes :
    Stack.oracle.unwrap Stack.typeHint
        = .ok { type := .name "int", markers := [.integer "1", .integer "2"], optional := some true }
      ∧ Stack.oracle.unwrap (.name "int") = .ok { type := .name "int" } :=
  Oracle.unwrap_stacked Stack.unlayered Stack.stacked

/-! ## Every annotation is a stack -/

namespace Oracle

variable {oracle : Oracle} {e : Expr}

/-- What is no type to stop at is in quotes or in a wrapper. -/
theorem exists_layer {found result : Unwrapped} (h : unwrapFrom oracle found = .ok result)
    (hlayered : ¬Unlayered oracle found.type) :
    (∃ (text : String) (inner : Expr), stringValue found.type = .ok (some text)
      ∧ Expr.parse (Text.trimmed text) = .ok inner)
    ∨ ∃ (owner first : Expr) (layer : Layer), found.type.indexing? = some (owner, first, layer.metadata)
      ∧ oracle.wrapperName owner = layer.wrapper.name := by
  rw [unwrapFrom_eq] at h
  obtain ⟨text?, htext, h⟩ := bind_eq_ok.1 h
  cases text? with
  | none =>
    refine .inr ?_
    by_contra hnone
    refine hlayered (.unquoted htext fun owner first rest hindexing wrapper hname => ?_)
    exact hnone ⟨owner, first, ⟨wrapper, rest⟩, hindexing, hname⟩
  | some text =>
    obtain ⟨inner?, hinner, -⟩ := bind_eq_ok.1 h
    unfold quotedIn? at hinner
    cases hparse : Expr.parse (Text.trimmed text) with
    | ok inner => exact .inl ⟨text, inner, htext, hparse⟩
    | error error =>
      cases error with
      | malformed => exact (hlayered (.unreadable htext hparse)).elim
      | invalid =>
        rw [hparse] at hinner
        cases hinner

/-- Every annotation that can be unwrapped is a stack of layers on a type at which unwrapping stops. -/
theorem exists_stacked {found result : Unwrapped} (h : unwrapFrom oracle found = .ok result) :
    Unlayered oracle result.type ∧ ∃ layers, Stacked oracle result.type layers found.type := by
  induction hn : found.type.weight using Nat.strongRecOn generalizing found with
  | ind n ih =>
    subst hn
    by_cases hbare : Unlayered oracle found.type
    · have hstop := unwrapFrom_unlayered hbare found
      rw [h] at hstop
      cases hstop
      exact ⟨hbare, [], .type⟩
    · obtain ⟨text, inner, htext, hparse⟩ | ⟨owner, first, layer, hindexing, hname⟩ := exists_layer h hbare
      · have hinner : unwrapFrom oracle { found with type := inner } = .ok result :=
          (unwrapFrom_quoted htext (quotedIn?_of_parse hparse) found).symm.trans h
        obtain ⟨htype, layers, hlayers⟩ := ih _ (weight_lt_of_quoted htext hparse) hinner rfl
        exact ⟨htype, layers, .quoted htext hparse hlayers⟩
      · have hinner := unwrapFrom_layer layer hindexing hname found
        obtain ⟨htype, layers, hlayers⟩ :=
          ih _ (Expr.weight_lt_of_indexing? hindexing) (hinner.symm.trans h) rfl
        exact ⟨htype, layer :: layers, .layer layer hindexing hname hlayers⟩

end Oracle
end ModelMetadata
