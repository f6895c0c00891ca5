import Mathlib
import ModelMetadata.Registry
import ModelMetadata.Proofs.Paths

/-!
Keys of files. A key is the way from the root of the sources to a file, and read from that root it leads
back to the file, so that two files have two keys. A key is marked when the file lies below the root and
the first step to it does not begin with a dot: a way that begins with a dotted name is taken for one that
is marked already, or that leaves the root.
-/
set_option autoImplicit false
namespace ModelMetadata

namespace Path

/-! ## Steps taken back -/

theorem commonLength_le (start path : List String) :
    commonLength start path ≤ start.length := by
  induction start generalizing path with
  | nil => simp [commonLength]
  | cons segment start ih =>
    cases path with
    | nil => exact Nat.zero_le _
    | cons other path =>
      simp only [commonLength]
      split
      · exact Nat.succ_le_succ (ih path)
      · exact Nat.zero_le _

theorem take_commonLength (start path : List String) :
    start.take (commonLength start path) = path.take (commonLength start path) := by
  induction start generalizing path with
  | nil => simp [commonLength]
  | cons segment start ih =>
    cases path with
    | nil => rfl
    | cons other path =>
      simp only [commonLength]
      split
      next hsame => rw [hsame, List.take_succ_cons, List.take_succ_cons, ih path]
      next => rfl

/-- Steps up take back the segments before them, the last one first. -/
theorem collapse_up {start rest : List String} (hstart : ".." ∉ start) (hrest : ".." ∉ rest)
    (count : Nat) :
    collapse (start ++ (List.replicate count ".." ++ rest))
      = start.take (start.length - count) ++ rest := by
  have hups (kept : List String) :
      (List.replicate count "..").foldl (fun kept segment =>
        if segment == ".." then kept.drop 1 else segment :: kept) kept = kept.drop count := by
    induction count generalizing kept with
    | zero => rfl
    | succ count ih =>
      rw [List.replicate_succ, List.foldl_cons, ih]
      simp
  unfold collapse
  rw [List.foldl_append, List.foldl_append, foldl_collapse hstart, hups, foldl_collapse hrest]
  simp [List.drop_reverse]

/-- The steps from one path to another lead there. -/
theorem collapse_stepsTo {start path : List String} (hstart : ".." ∉ start) (hpath : ".." ∉ path) :
    collapse (start ++ stepsTo start path) = path := by
  have hrest : ".." ∉ path.drop (commonLength start path) := mt List.mem_of_mem_drop hpath
  have hcommon : start.length - (start.length - commonLength start path) = commonLength start path :=
    Nat.sub_sub_self (commonLength_le start path)
  rw [stepsTo, collapse_up hstart hrest, hcommon, take_commonLength, List.take_append_drop]

/-- Either the steps go up first, and the path does not lie below the start, or they are what the path
has behind it. -/
theorem stepsTo_cases (start path : List String) :
    (∃ rest, stepsTo start path = ".." :: rest ∧ ∀ pieces, path ≠ start ++ pieces)
      ∨ path = start ++ stepsTo start path := by
  by_cases hall : commonLength start path = start.length
  · right
    have htake : path.take start.length = start := by
      rw [← hall, ← take_commonLength, hall, List.take_length]
    have hpath := List.take_append_drop start.length path
    rw [htake] at hpath
    rw [stepsTo, hall, Nat.sub_self, List.replicate_zero, List.nil_append, hpath]
  · left
    have hless := (commonLength_le start path).lt_of_ne hall
    obtain ⟨count, hcount⟩ := Nat.exists_eq_succ_of_ne_zero (Nat.sub_ne_zero_of_lt hless)
    refine ⟨_, by rw [stepsTo, hcount, List.replicate_succ, List.cons_append], ?_⟩
    rintro pieces rfl
    exact hall (commonLength_append start pieces)

/-! ## The text of steps -/

theorem isStep_up : IsStep ".." := ⟨by decide, by decide, by decide⟩

theorem isStep_of_stepsTo (start : List String) {path : List String}
    (hpath : ∀ segment ∈ path, IsName segment) :
    ∀ step ∈ stepsTo start path, IsStep step := by
  intro step hstep
  rcases List.mem_append.1 hstep with hup | hdown
  · rw [List.eq_of_mem_replicate hup]
    exact isStep_up
  · exact (hpath step (List.mem_of_mem_drop hdown)).isStep

/-- Steps are read back from their text, marked or not. -/
theorem parse_intercalate {steps : List String} (h : ∀ step ∈ steps, IsStep step) (hne : steps ≠ []) :
    parse ("/".intercalate steps) = ⟨"", steps⟩
      ∧ parse ("./" ++ "/".intercalate steps) = ⟨"", steps⟩ := by
  have hsteps := filter_slashPieces_intercalate h
  obtain ⟨first, rest, rfl⟩ := List.exists_cons_of_ne_nil hne
  obtain ⟨c, more, hc, -, htext⟩ :=
    intercalate_eq_cons (h first List.mem_cons_self) rest
  constructor
  · have hroot : rootOf ("/".intercalate (first :: rest)).toList = "" := by
      rw [htext]
      simp [rootOf, hc]
    rw [parse, hroot, hsteps]
  · have hpieces : slashPieces ("./" ++ "/".intercalate (first :: rest))
        = "." :: slashPieces ("/".intercalate (first :: rest)) := by
      have hsplit := Text.splitAt_append (by decide : '/' ∉ ['.'])
        ("/".intercalate (first :: rest)).toList
      have hchars : ("./" ++ "/".intercalate (first :: rest)).toList
          = ['.'] ++ '/' :: ("/".intercalate (first :: rest)).toList := by simp
      rw [slashPieces, hchars, hsplit]
      rfl
    have hroot : rootOf ("./" ++ "/".intercalate (first :: rest)).toList = "" := by
      simp [rootOf]
    rw [parse, hroot, hpieces, List.filter_cons_of_neg (by simp), hsteps]

theorem startsWith_dot {text : String} {c : Char} {more : List Char} (h : text.toList = c :: more) :
    text.startsWith "." = true ↔ c = '.' := by
  have hdot : ".".toList = ['.'] := rfl
  rw [String.startsWith_string_iff, h, hdot]
  simp [List.cons_prefix_cons, eq_comm]

/-- The first of the steps does not begin with a dot when the path lies below the start with a segment that
does not, and only then: a step up begins with one. -/
theorem stepsTo_undotted (start path : List String) :
    (∃ first rest, stepsTo start path = first :: rest ∧ first.startsWith "." = false)
      ↔ ∃ first rest, path = start ++ first :: rest ∧ first.startsWith "." = false := by
  rcases stepsTo_cases start path with ⟨rest, hup, houtside⟩ | hbelow
  · have hdots : "..".startsWith "." = true := (startsWith_dot rfl).2 rfl
    rw [hup]
    constructor
    · rintro ⟨first, rest, heq, hdotted⟩
      rw [← (List.cons.inj heq).1, hdots] at hdotted
      exact absurd hdotted (by decide)
    · rintro ⟨first, rest, heq, -⟩
      exact absurd heq (houtside _)
  · constructor
    · rintro ⟨first, rest, heq, hdotted⟩
      exact ⟨first, rest, heq ▸ hbelow, hdotted⟩
    · rintro ⟨first, rest, heq, hdotted⟩
      exact ⟨first, rest, List.append_cancel_left (hbelow.symm.trans heq), hdotted⟩

end Path

/-! ## Keys -/

def keyOfSteps (steps : List String) : String :=
  if steps.isEmpty then "."
  else if ("/".intercalate steps).startsWith "." then "/".intercalate steps
  else "./" ++ "/".intercalate steps

def followed (directory : Path) (root key : String) : String :=
  (directory.resolve ((Path.parse root).join (Path.parse key))).render

structure Path.Plain (path : Path) : Prop extends path.Normalised where
  noBackslash : ∀ segment ∈ path.segments, '\\' ∉ segment.toList

theorem registryKey_render {root path : Path} (hroot : root.Plain) (hpath : path.Plain)
    (directory : Path) :
    registryKey directory root.render path.render
      = .ok (keyOfSteps (Path.stepsTo root.segments path.segments)) := by
  have hsome : path.render.isEmpty = false := by
    rw [hpath.render]
    rcases hpath.root with hslash | hslash <;> simp [hslash]
  unfold registryKey keyOfSteps
  rw [hsome, hroot.forwardSlashes_render hroot.noBackslash,
    hpath.forwardSlashes_render hpath.noBackslash, hroot.parse_render, hpath.parse_render,
    hroot.relativeText hpath.toNormalised]
  by_cases hempty : (Path.stepsTo root.segments path.segments).isEmpty = true
  · simp [hempty]
  · simp [hempty]

theorem parse_keyOfSteps {steps : List String} (h : ∀ step ∈ steps, Path.IsStep step) :
    Path.parse (keyOfSteps steps) = ⟨"", steps⟩ := by
  unfold keyOfSteps
  by_cases hne : steps = []
  · subst hne
    decide
  · obtain ⟨hbare, hmarked⟩ := Path.parse_intercalate h hne
    rw [if_neg (by simpa using hne)]
    split
    · exact hbare
    · exact hmarked

/-- A key is marked when the first step does not begin with a dot, and only then. -/
theorem startsWith_keyOfSteps {steps : List String} (h : ∀ step ∈ steps, Path.IsStep step) :
    (keyOfSteps steps).startsWith "./" = true
      ↔ ∃ first rest, steps = first :: rest ∧ first.startsWith "." = false := by
  cases steps with
  | nil =>
    have hdot : (keyOfSteps []).startsWith "./" = false := by decide
    simp [hdot]
  | cons first rest =>
    have hfirst := h first List.mem_cons_self
    obtain ⟨c, more, hc, ⟨others, hchars⟩, htext⟩ := Path.intercalate_eq_cons hfirst rest
    have hsame : ("/".intercalate (first :: rest)).startsWith "." = first.startsWith "." := by
      rw [Bool.eq_iff_iff, Path.startsWith_dot htext, Path.startsWith_dot hchars]
    have hcases : (keyOfSteps (first :: rest)).startsWith "./" = true
        ↔ first.startsWith "." = false := by
      unfold keyOfSteps
      rw [if_neg (by simp), hsame]
      cases hdotted : first.startsWith "." with
      | false => simp
      | true =>
        -- No step is a single dot.
        have hhere : ¬ "./".toList <+: ("/".intercalate (first :: rest)).toList := fun hstart =>
          hfirst.ne_dot
            (Path.ofList_eq_head (fun step hstep => (h step hstep).noSlash) (by decide) hstart).symm
        simp [String.startsWith_string_eq_false_iff.2 hhere]
    rw [hcases]
    constructor
    · exact fun hdotted => ⟨first, rest, rfl, hdotted⟩
    · rintro ⟨_, _, heq, hdotted⟩
      exact (List.cons.inj heq).1 ▸ hdotted

/-- Where the key of a path leads does not depend on the path but through its key. -/
theorem resolve_keyOfSteps {root path : Path} (hroot : root.Plain) (hpath : path.Plain) (directory : Path) :
    directory.resolve ((Path.parse root.render).join
        (Path.parse (keyOfSteps (Path.stepsTo root.segments path.segments))))
      = ⟨root.root, path.segments⟩ := by
  have hsteps := Path.isStep_of_stepsTo root.segments hpath.names
  have hjoined : (⟨root.root, root.segments ++ Path.stepsTo root.segments path.segments⟩ :
      Path).isAbsolute = true := hroot.isAbsolute
  rw [hroot.parse_render, parse_keyOfSteps hsteps]
  change directory.resolve ⟨root.root, root.segments ++ Path.stepsTo root.segments path.segments⟩ = _
  unfold Path.resolve
  simp only [Path.join, hjoined, if_true]
  rw [Path.collapse_stepsTo hroot.not_mem_up hpath.not_mem_up]

/-- From its root a key leads to its file, so that files that differ below their slashes in front have
keys that differ. A key is marked when its file lies below the root and the first step to it does not
begin with a dot. -/
theorem registryKey_faithful {root path : Path} (hroot : root.Plain) (hpath : path.Plain)
    (directory : Path) :
    ∃ key, registryKey directory root.render path.render = .ok key
      ∧ followed directory root.render key = (Path.mk root.root path.segments).render
      ∧ (∀ other : Path, other.Plain → registryKey directory root.render other.render = .ok key →
          other.segments = path.segments)
      ∧ (key.startsWith "./" = true ↔ ∃ first rest,
          path.segments = root.segments ++ first :: rest ∧ first.startsWith "." = false) := by
  have hkey {other : Path} (hother : other.Plain) := registryKey_render hroot hother directory
  refine ⟨_, hkey hpath, ?_, fun other hother hsame => ?_, ?_⟩
  · rw [followed, resolve_keyOfSteps hroot hpath]
  · rw [hkey hother] at hsame
    have hplace := resolve_keyOfSteps hroot hother directory
    rw [Except.ok.inj hsame, resolve_keyOfSteps hroot hpath] at hplace
    exact (congrArg Path.segments hplace).symm
  · have hsteps := Path.isStep_of_stepsTo root.segments hpath.names
    rw [startsWith_keyOfSteps hsteps, Path.stepsTo_undotted]

/-! ## Files beside a root and in a hidden directory -/

namespace Beside

def root : Path := ⟨"/", ["src", "app"]⟩

def sibling : Path := ⟨"/", ["src", "lib", "models.py"]⟩

def hidden : Path := ⟨"/", ["src", "app", ".hidden", "models.py"]⟩

theorem plain_of_names {segments : List String} (hnames : ∀ segment ∈ segments, Path.IsName segment)
    (hbackslash : ∀ segment ∈ segments, '\\' ∉ segment.toList) : Path.Plain ⟨"/", segments⟩ :=
  ⟨⟨.inl rfl, hnames⟩, hbackslash⟩

theorem root_plain : root.Plain := by
  refine plain_of_names (fun segment hsegment => ?_) (by decide)
  simp only [List.mem_cons, List.not_mem_nil, or_false] at hsegment
  rcases hsegment with rfl | rfl <;> constructor <;> decide

theorem sibling_plain : sibling.Plain := by
  refine plain_of_names (fun segment hsegment => ?_) (by decide)
  simp only [List.mem_cons, List.not_mem_nil, or_false] at hsegment
  rcases hsegment with rfl | rfl | rfl <;> constructor <;> decide

end Beside

open Beside in
theorem registryKey_faithful_of_sibling :
    registryKey ⟨"/", []⟩ "/src/app" "/src/lib/models.py" = .ok "../lib/models.py"
      ∧ followed ⟨"/", []⟩ "/src/app" "../lib/models.py" = "/src/lib/models.py"
      ∧ "../lib/models.py".startsWith "./" = false := by
  obtain ⟨key, hkey, hfollowed, -, hmarked⟩ :=
    registryKey_faithful root_plain sibling_plain ⟨"/", []⟩
  have hsteps : registryKey ⟨"/", []⟩ root.render sibling.render = .ok "../lib/models.py" := by decide +kernel
  obtain rfl := Except.ok.inj (hsteps.symm.trans hkey)
  refine ⟨hkey, hfollowed, ?_⟩
  rw [Bool.eq_false_iff, ne_eq, hmarked]
  rintro ⟨first, rest, hbelow, -⟩
  exact absurd (List.cons.inj (List.cons.inj hbelow).2).1 (by decide)

open Beside in
/-- A file in a hidden directory lies below the root, and its key is not marked. -/
theorem registryKey_unmarked :
    hidden.segments = root.segments ++ [".hidden", "models.py"]
      ∧ registryKey ⟨"/", []⟩ root.render hidden.render = .ok ".hidden/models.py"
      ∧ ".hidden/models.py".startsWith "./" = false := by
  refine ⟨rfl, by decide +kernel, ?_⟩
  exact String.startsWith_string_eq_false_iff.2 (by decide)

end ModelMetadata
