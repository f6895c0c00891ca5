import Mathlib
import ModelMetadata.Path
import ModelMetadata.Proofs.Dotting

/-!
Normalised paths. An absolute path whose segments are names is read back from its text, and resolving
leaves it as it is. What lies below another such path is that path with further segments, and the way to
it is those segments. A resolved path has one slash in front.
-/
set_option autoImplicit false
namespace ModelMetadata.Path

/-! ## Pieces between slashes -/

theorem slashPieces_intercalate {pieces : List String} (hne : pieces ≠ [])
    (h : ∀ piece ∈ pieces, '/' ∉ piece.toList) : slashPieces ("/".intercalate pieces) = pieces :=
  Text.splitAt_intercalate (by decide) hne h

/-- What stands before the first slash is the first piece. -/
theorem ofList_eq_head {first : String} {rest : List String}
    (h : ∀ piece ∈ first :: rest, '/' ∉ piece.toList) {lead : List Char} (hlead : '/' ∉ lead)
    (hstart : lead ++ ['/'] <+: ("/".intercalate (first :: rest)).toList) :
    String.ofList lead = first := by
  obtain ⟨behind, hbehind⟩ := hstart
  have hpieces := slashPieces_intercalate (List.cons_ne_nil first rest) h
  rw [slashPieces, ← hbehind, List.append_assoc, List.singleton_append, Text.splitAt_append hlead,
    List.map_cons] at hpieces
  exact (List.cons.inj hpieces).1

/-- A segment that reading keeps: it is neither empty nor a single dot, and holds no slash. -/
structure IsStep (segment : String) : Prop where
  ne_empty : segment ≠ ""
  ne_dot : segment ≠ "."
  noSlash : '/' ∉ segment.toList

theorem filter_slashPieces_intercalate {steps : List String} (h : ∀ step ∈ steps, IsStep step) :
    (slashPieces ("/".intercalate steps)).filter (fun piece => piece != "" && piece != ".")
      = steps := by
  have hkept : steps.filter (fun piece => piece != "" && piece != ".") = steps := by
    apply List.filter_eq_self.2
    intro step hstep
    simp [(h step hstep).ne_empty, (h step hstep).ne_dot]
  by_cases hempty : steps = []
  · rw [hempty]
    decide
  · rw [slashPieces_intercalate hempty fun step hstep => (h step hstep).noSlash, hkept]

theorem slashPieces_slash (text : String) : slashPieces ("/" ++ text) = "" :: slashPieces text := by
  have hsplit := Text.splitAt_append (List.not_mem_nil : '/' ∉ []) text.toList
  rw [List.nil_append] at hsplit
  have hchars : ("/" ++ text).toList = '/' :: text.toList := by simp
  rw [slashPieces, hchars, hsplit]
  rfl

/-- The text of steps begins with what the first of them begins with. -/
theorem intercalate_eq_cons {first : String} (hfirst : IsStep first) (rest : List String) :
    ∃ c more, c ≠ '/' ∧ (∃ others, first.toList = c :: others)
      ∧ ("/".intercalate (first :: rest)).toList = c :: more := by
  obtain ⟨c, others, hchars⟩ :=
    List.exists_cons_of_ne_nil (mt String.toList_eq_nil_iff.1 hfirst.ne_empty)
  have hc : c ≠ '/' := by
    rintro rfl
    exact hfirst.noSlash (by simp [hchars])
  have htext : ∃ more, ("/".intercalate (first :: rest)).toList = c :: more := by
    cases rest <;> simp [hchars]
  obtain ⟨more, htext⟩ := htext
  exact ⟨c, more, hc, ⟨others, hchars⟩, htext⟩

/-! ## Segments -/

/-- Names are kept one by one, the last of them first. -/
theorem foldl_collapse {segments : List String} (h : ".." ∉ segments) (kept : List String) :
    segments.foldl (fun kept segment =>
      if segment == ".." then kept.drop 1 else segment :: kept) kept
      = segments.reverse ++ kept := by
  induction segments generalizing kept with
  | nil => rfl
  | cons segment rest ih =>
    obtain ⟨hsegment, hrest⟩ := not_or.1 (mt List.mem_cons.2 h)
    have hkept : (segment == "..") = false := by simpa using Ne.symm hsegment
    simp only [List.foldl_cons, hkept, Bool.false_eq_true, if_false]
    rw [ih hrest]
    simp

theorem collapse_eq_self {segments : List String} (h : ".." ∉ segments) :
    collapse segments = segments := by
  unfold collapse
  rw [foldl_collapse h, List.append_nil, List.reverse_reverse]

/-! ## Ways from one path to another -/

theorem commonLength_append (start rest : List String) :
    commonLength start (start ++ rest) = start.length := by
  induction start with
  | nil => cases rest <;> rfl
  | cons segment start ih => simp [commonLength, ih]

def stepsTo (start path : List String) : List String :=
  List.replicate (start.length - commonLength start path) ".." ++ path.drop (commonLength start path)

theorem stepsTo_append (start rest : List String) : stepsTo start (start ++ rest) = rest := by
  simp [stepsTo, commonLength_append]

theorem dropLead?_eq_some {lead path rest : List String} :
    dropLead? lead path = some rest ↔ path = lead ++ rest := by
  induction lead generalizing path with
  | nil => simp [dropLead?]
  | cons segment lead ih =>
    cases path with
    | nil => simp [dropLead?]
    | cons other path =>
      by_cases hsame : segment = other
      · simp [dropLead?, hsame, ih]
      · simp [dropLead?, hsame, Ne.symm hsame]

/-! ## Joined paths -/

theorem join_injective (base : Path) :
    Function.Injective fun names => base.join ⟨"", names⟩ := by
  intro names names' h
  exact List.append_cancel_left (congrArg segments h)

theorem below?_join (base : Path) (names : List String) :
    base.below? (base.join ⟨"", names⟩) = some names := by
  have hjoin : base.join ⟨"", names⟩ = ⟨base.root, base.segments ++ names⟩ := rfl
  have hparts : (⟨base.root, base.segments ++ names⟩ : Path).parts = base.parts ++ names := by
    unfold parts
    by_cases habsolute : base.isAbsolute = true
    · rw [if_pos habsolute]
      exact if_pos habsolute
    · rw [if_neg habsolute]
      exact if_neg habsolute
  have hlies : ((⟨base.root, base.segments ++ names⟩ : Path).isAbsolute && base.parts.isEmpty)
      = false := by
    change (base.isAbsolute && base.parts.isEmpty) = false
    unfold parts
    cases base.isAbsolute <;> rfl
  unfold below?
  rw [hjoin, hlies, hparts]
  exact dropLead?_eq_some.2 rfl

/-! ## Normalised paths -/

/-- A segment that is a name: it means nothing else, and holds no slash. -/
structure IsName (segment : String) : Prop where
  ne_empty : segment ≠ ""
  ne_dot : segment ≠ "."
  ne_up : segment ≠ ".."
  noSlash : '/' ∉ segment.toList

theorem IsName.isStep {segment : String} (h : IsName segment) : IsStep segment :=
  ⟨h.ne_empty, h.ne_dot, h.noSlash⟩

/-- An absolute path as normalising leaves it: one slash or two in front, and names for segments. -/
structure Normalised (path : Path) : Prop where
  root : path.root = "/" ∨ path.root = "//"
  names : ∀ segment ∈ path.segments, IsName segment

namespace Normalised

variable {path : Path}

theorem isAbsolute (h : path.Normalised) : path.isAbsolute = true := by
  rcases h.root with hroot | hroot <;> simp [Path.isAbsolute, hroot]

theorem not_mem_up (h : path.Normalised) : ".." ∉ path.segments := by
  intro hmem
  exact (h.names ".." hmem).ne_up rfl

theorem resolve (h : path.Normalised) (directory : Path) : directory.resolve path = path := by
  have hwhole : directory.join path = path := if_pos h.isAbsolute
  unfold Path.resolve
  simp only [hwhole, collapse_eq_self h.not_mem_up]

theorem render (h : path.Normalised) :
    path.render = path.root ++ "/".intercalate path.segments := by
  have hroot : (path.root == "") = false := by simpa [Path.isAbsolute] using h.isAbsolute
  unfold Path.render
  rw [hroot]
  simp

/-- The text of the segments begins with no slash. -/
theorem rootOf_render (h : path.Normalised) : rootOf path.render.toList = path.root := by
  rw [h.render, String.toList_append]
  cases hsegments : path.segments with
  | nil => rcases h.root with hroot | hroot <;> rw [hroot] <;> rfl
  | cons first rest =>
    obtain ⟨c, more, hc, -, htext⟩ :=
      intercalate_eq_cons (h.names first (by simp [hsegments])).isStep rest
    rw [htext]
    rcases h.root with hroot | hroot <;> simp [hroot, rootOf, hc]

theorem slashPieces_render (h : path.Normalised) :
    (slashPieces path.render).filter (fun piece => piece != "" && piece != ".")
      = path.segments := by
  have hsteps := filter_slashPieces_intercalate fun segment hsegment => (h.names segment hsegment).isStep
  rw [h.render]
  rcases h.root with hroot | hroot
  · rw [hroot, slashPieces_slash, List.filter_cons_of_neg (by simp), hsteps]
  · have htwo : "//" = "/" ++ "/" := by decide
    rw [hroot, htwo, String.append_assoc, slashPieces_slash, slashPieces_slash,
      List.filter_cons_of_neg (by simp), List.filter_cons_of_neg (by simp), hsteps]

/-- The text of a normalised path is read as the path. -/
theorem parse_render (h : path.Normalised) : Path.parse path.render = path := by
  unfold Path.parse
  rw [h.rootOf_render, h.slashPieces_render]

theorem forwardSlashes_render (h : path.Normalised)
    (hbackslash : ∀ segment ∈ path.segments, '\\' ∉ segment.toList) :
    forwardSlashes path.render = path.render := by
  have hbetween : '\\' ∉ "/".toList := by decide
  have hroot : '\\' ∉ path.root.toList := by
    rcases h.root with hroot | hroot <;> rw [hroot] <;> decide
  have hchars : '\\' ∉ path.render.toList := by
    rw [h.render, String.toList_append]
    intro hmem
    rcases List.mem_append.1 hmem with hmem | hmem
    · exact hroot hmem
    · rcases Text.mem_intercalate hmem with hmark | ⟨segment, hsegment, hmem⟩
      · exact hbetween hmark
      · exact hbackslash segment hsegment hmem
  have hmap : path.render.toList.map (fun c => if c == '\\' then '/' else c)
      = path.render.toList.map id := by
    apply List.map_congr_left
    intro c hc
    have hne : c ≠ '\\' := fun heq => hchars (heq ▸ hc)
    simp [hne]
  rw [forwardSlashes, hmap, List.map_id, String.ofList_toList]

/-- The way between two paths is the text of the steps, and a dot when none are needed. -/
theorem relativeText {root : Path} (hroot : root.Normalised) (h : path.Normalised)
    (directory : Path) :
    directory.relativeText root path
      = if (stepsTo root.segments path.segments).isEmpty then "."
        else "/".intercalate (stepsTo root.segments path.segments) := by
  unfold Path.relativeText
  rw [hroot.resolve, h.resolve]
  rfl

end Normalised

/-! ## Resolved paths -/

/-- A path as resolving leaves it: one slash in front, and names for segments. -/
structure Resolved (path : Path) : Prop where
  root : path.root = "/"
  names : ∀ segment ∈ path.segments, IsName segment

namespace Resolved

variable {path : Path}

theorem normalised (h : path.Resolved) : path.Normalised := ⟨.inl h.root, h.names⟩

/-- The segments of a path behind those of a root. -/
theorem below?_eq_some {root : Path} (hroot : root.Resolved) (h : path.Resolved)
    {pieces : List String} :
    root.below? path = some pieces ↔ path.segments = root.segments ++ pieces := by
  have hrootParts : root.parts = "/" :: root.segments := by
    simp [parts, hroot.normalised.isAbsolute, hroot.root]
  have hparts : path.parts = "/" :: path.segments := by
    simp [parts, h.normalised.isAbsolute, h.root]
  unfold Path.below?
  rw [hrootParts, hparts]
  simp [dropLead?_eq_some]

/-- The way to a path below a root. -/
theorem relativeText {root : Path} (hroot : root.Resolved) (h : path.Resolved)
    {pieces : List String} (hne : pieces ≠ []) (hbelow : path.segments = root.segments ++ pieces)
    (directory : Path) : directory.relativeText root path = "/".intercalate pieces := by
  rw [hroot.normalised.relativeText h.normalised, hbelow, stepsTo_append]
  simp [hne]

end Resolved
end ModelMetadata.Path
