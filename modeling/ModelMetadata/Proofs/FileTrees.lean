import Mathlib
import ModelMetadata.FileTree
import ModelMetadata.Proofs.Paths

/-!
File trees. A write changes what one place holds and adds the directories above it, nothing else: a path
that led to a place still leads there, and a place that could be written can still be written unless
the write went above or below it. What is listed below a directory are distinct places below its own.
-/
set_option autoImplicit false
namespace ModelMetadata.FileTree

/-! ## Written files -/

section

variable {files : List (Place × List UInt8)} {place other : Place} {bytes : List UInt8}

theorem mem_places_store :
    other ∈ (store place bytes files).map Prod.fst ↔ other = place ∨ other ∈ files.map Prod.fst := by
  induction files with
  | nil => simp [store]
  | cons file rest ih =>
    obtain ⟨found, old⟩ := file
    by_cases hsame : found = place
    · subst hsame
      simp [store]
    · simp only [store, if_neg hsame, List.map_cons, List.mem_cons, ih]
      tauto

theorem find?_store :
    (store place bytes files).find? (fun file => file.1 == other)
      = if other = place then some (place, bytes) else files.find? fun file => file.1 == other := by
  induction files with
  | nil =>
    by_cases hsame : other = place
    · simp [store, hsame]
    · simp [store, hsame, Ne.symm hsame]
  | cons file rest ih =>
    obtain ⟨found, old⟩ := file
    by_cases hfound : found = place
    · subst hfound
      by_cases hsame : other = found
      · simp [store, hsame]
      · simp [store, hsame, Ne.symm hsame]
    · by_cases hsame : found = other
      · subst hsame
        simp [store, hfound]
      · simp [store, hfound, hsame, ih]

end

def written (tree : FileTree) (place : Place) (bytes : List UInt8) : FileTree :=
  { tree with files := store place bytes tree.files }

def writtenAll (tree : FileTree) (outputs : List (Place × List UInt8)) : FileTree :=
  outputs.foldl (fun tree output => tree.written output.1 output.2) tree

section

variable {tree : FileTree} {place other : Place} {bytes : List UInt8}
  {outputs : List (Place × List UInt8)}

theorem contents?_written (tree : FileTree) (place other : Place) (bytes : List UInt8) :
    (tree.written place bytes).contents? other
      = if other = place then some bytes else tree.contents? other := by
  unfold contents? written
  rw [find?_store]
  split <;> rfl

theorem mem_places_of_contents? (h : (tree.contents? place).isSome) :
    place ∈ tree.files.map Prod.fst := by
  unfold contents? at h
  rw [Option.isSome_map, List.find?_isSome] at h
  obtain ⟨file, hfile, hsame⟩ := h
  exact List.mem_map.2 ⟨file, hfile, by simpa using hsame⟩

theorem isDirectoryAt_iff :
    tree.isDirectoryAt place = true ↔ place <+: tree.directory.segments
      ∨ ∃ file ∈ tree.files.map Prod.fst, place <+: file ∧ place ≠ file := by
  simp [isDirectoryAt]

theorem isDirectoryAt_written :
    (tree.written place bytes).isDirectoryAt other = true
      ↔ tree.isDirectoryAt other = true ∨ (other <+: place ∧ other ≠ place) := by
  simp only [isDirectoryAt_iff, written, mem_places_store, or_and_right, exists_or, exists_eq_left]
  rw [← or_assoc]
  exact or_right_comm

theorem directory_writtenAll : (tree.writtenAll outputs).directory = tree.directory := by
  induction outputs generalizing tree with
  | nil => rfl
  | cons output rest ih => exact ih

theorem writtenAll_append (more : List (Place × List UInt8)) :
    tree.writtenAll (outputs ++ more) = (tree.writtenAll outputs).writtenAll more :=
  List.foldl_append

theorem isDirectoryAt_writtenAll (h : tree.isDirectoryAt place = true) :
    (tree.writtenAll outputs).isDirectoryAt place = true := by
  induction outputs generalizing tree with
  | nil => exact h
  | cons output rest ih => exact ih (isDirectoryAt_written.2 (.inl h))

theorem contents?_writtenAll_of_not_mem (h : place ∉ outputs.map Prod.fst) :
    (tree.writtenAll outputs).contents? place = tree.contents? place := by
  induction outputs generalizing tree with
  | nil => rfl
  | cons output rest ih =>
    obtain ⟨hplace, hrest⟩ := not_or.1 (mt List.mem_cons.2 h)
    change ((tree.written output.1 output.2).writtenAll rest).contents? place = _
    rw [ih hrest, contents?_written, if_neg hplace]

theorem contents?_writtenAll_of_mem (hdistinct : (outputs.map Prod.fst).Nodup)
    (h : (place, bytes) ∈ outputs) : (tree.writtenAll outputs).contents? place = some bytes := by
  induction outputs generalizing tree with
  | nil => cases h
  | cons output rest ih =>
    obtain ⟨hfirst, hdistinct⟩ := List.nodup_cons.1 hdistinct
    change ((tree.written output.1 output.2).writtenAll rest).contents? place = _
    rcases List.mem_cons.1 h with rfl | h
    · rw [contents?_writtenAll_of_not_mem hfirst, contents?_written, if_pos rfl]
    · exact ih hdistinct h

end

/-! ## Places of paths -/

section

variable {tree tree' : FileTree}

theorem walk?_append (place : Place) (segments more : List String) :
    tree.walk? place (segments ++ more)
      = (tree.walk? place segments).bind fun found => tree.walk? found more := by
  induction segments generalizing place with
  | nil => rfl
  | cons segment rest ih =>
    simp only [List.cons_append, walk?]
    split
    · split
      · exact ih _
      · rfl
    · exact ih _

theorem walk?_names {names : List String} (h : ".." ∉ names) (place : Place) :
    tree.walk? place names = some (place ++ names) := by
  induction names generalizing place with
  | nil => simp [walk?]
  | cons name rest ih =>
    obtain ⟨hname, hrest⟩ := not_or.1 (mt List.mem_cons.2 h)
    have hkept : (name == "..") = false := by simpa using Ne.symm hname
    simp [walk?, hkept, ih hrest]

/-- A place that is reached is the one that the segments spell. -/
theorem eq_collapse_of_walk? {place found : Place} {segments : List String}
    (hplace : ".." ∉ place) (h : tree.walk? place segments = some found) :
    found = Path.collapse (place ++ segments) ∧ ".." ∉ found := by
  have hfold (kept segments : List String) (hkept : ".." ∉ kept)
      (h : tree.walk? kept.reverse segments = some found) :
      found = (segments.foldl (fun kept segment =>
        if segment == ".." then kept.drop 1 else segment :: kept) kept).reverse ∧ ".." ∉ found := by
    induction segments generalizing kept with
    | nil =>
      obtain rfl := Option.some.inj h
      exact ⟨rfl, by simpa using hkept⟩
    | cons segment rest ih =>
      rw [walk?] at h
      rw [List.foldl_cons]
      split at h
      · rename_i hup
        rw [if_pos hup]
        split at h
        · apply ih
          · exact fun hmem => hkept (List.mem_of_mem_drop hmem)
          · rwa [List.drop_one, ← List.dropLast_reverse]
        · cases h
      · rename_i hup
        rw [if_neg hup]
        apply ih
        · intro hmem
          rcases List.mem_cons.1 hmem with rfl | hmem
          · exact hup rfl
          · exact hkept hmem
        · rwa [List.reverse_cons]
  have hstart : Path.collapse (place ++ segments)
      = (segments.foldl (fun kept segment =>
        if segment == ".." then kept.drop 1 else segment :: kept) place.reverse).reverse := by
    have hself := congrArg List.reverse (Path.collapse_eq_self hplace)
    unfold Path.collapse at hself ⊢
    rw [List.reverse_reverse] at hself
    rw [List.foldl_append, hself]
  rw [hstart]
  exact hfold place.reverse segments (by simpa using hplace) (by simpa using h)

theorem walk?_mono (hgrows : ∀ place, tree.isDirectoryAt place = true → tree'.isDirectoryAt place = true)
    {place found : Place} {segments : List String} (h : tree.walk? place segments = some found) :
    tree'.walk? place segments = some found := by
  induction segments generalizing place with
  | nil => exact h
  | cons segment rest ih =>
    rw [walk?] at h ⊢
    split at h
    · rename_i hup
      rw [if_pos hup]
      split at h
      · rename_i hdirectory
        rw [if_pos (hgrows _ hdirectory)]
        exact ih h
      · cases h
    · rename_i hup
      rw [if_neg hup]
      exact ih h

/-- Where a path led before some writes, it leads after them. -/
theorem place?_writtenAll {outputs : List (Place × List UInt8)} {path : Path} {place : Place}
    (h : tree.place? path = some place) : (tree.writtenAll outputs).place? path = some place := by
  have hgrows (place : Place) (h : tree.isDirectoryAt place = true) :
      (tree.writtenAll outputs).isDirectoryAt place = true := isDirectoryAt_writtenAll h
  unfold place? at h ⊢
  rw [directory_writtenAll]
  split at h
  · rename_i habsolute
    rw [if_pos habsolute]
    exact walk?_mono hgrows h
  · rename_i habsolute
    rw [if_neg habsolute]
    exact walk?_mono hgrows h

/-- Names lead from where a path leads to the place that they spell below. -/
theorem place?_join (path : Path) {names : List String} (h : ".." ∉ names) :
    tree.place? (path.join ⟨"", names⟩) = (tree.place? path).map (· ++ names) := by
  have hjoin : path.join ⟨"", names⟩ = ⟨path.root, path.segments ++ names⟩ := rfl
  have hwalk (base : Place) : tree.walk? base (path.segments ++ names)
      = (tree.walk? base path.segments).map (· ++ names) := by
    rw [walk?_append]
    cases tree.walk? base path.segments with
    | none => rfl
    | some found => exact walk?_names h found
  rw [hjoin]
  unfold place?
  change (if path.isAbsolute = true then _ else _) = _
  split
  · exact hwalk []
  · exact hwalk tree.directory.segments

end

/-! ## Trees as disks have them -/

/-- A tree as a disk has it: an absolute working directory, names for segments, and no file that is a
directory too. -/
structure Sound (tree : FileTree) : Prop where
  absolute : tree.directory.isAbsolute = true
  directory : ".." ∉ tree.directory.segments
  names : ∀ place ∈ tree.files.map Prod.fst, ".." ∉ place
  files : ∀ place ∈ tree.files.map Prod.fst, tree.isDirectoryAt place = false

namespace Sound

variable {tree : FileTree} (h : tree.Sound)
include h

theorem place?_eq_collapse {path : Path} {place : Place} (hplace : tree.place? path = some place) :
    place = (tree.resolve path).segments ∧ ".." ∉ place := by
  unfold place? at hplace
  unfold resolve Path.resolve Path.join
  split at hplace
  · rename_i habsolute
    rw [if_pos habsolute]
    exact eq_collapse_of_walk? (List.not_mem_nil) hplace
  · rename_i habsolute
    rw [if_neg habsolute]
    exact eq_collapse_of_walk? h.directory hplace

/-- A path and its resolved form lead to the same place. -/
theorem place?_resolve {path : Path} {place : Place} (hplace : tree.place? path = some place) :
    tree.place? (tree.resolve path) = some place := by
  obtain ⟨hsegments, hup⟩ := h.place?_eq_collapse hplace
  have habsolute : (tree.resolve path).isAbsolute = true := by
    unfold resolve Path.resolve Path.join
    by_cases hpath : path.isAbsolute = true
    · rw [if_pos hpath]
      exact hpath
    · rw [if_neg hpath]
      exact h.absolute
  unfold place?
  rw [if_pos habsolute, ← hsegments]
  exact walk?_names hup []

theorem isDirectory_resolve {path : Path} (hpath : tree.isDirectory path = true) :
    tree.isDirectory (tree.resolve path) = true := by
  unfold isDirectory at hpath ⊢
  cases hplace : tree.place? path with
  | none => simp [hplace] at hpath
  | some place =>
    rw [hplace] at hpath
    rw [h.place?_resolve hplace]
    exact hpath

/-- No file lies below another. -/
theorem prefix_eq {place other : Place} (hplace : place ∈ tree.files.map Prod.fst)
    (hother : other ∈ tree.files.map Prod.fst) (hstart : place <+: other) : place = other := by
  by_contra hne
  have hdirectory : tree.isDirectoryAt place = true :=
    isDirectoryAt_iff.2 (.inr ⟨other, hother, hstart, hne⟩)
  rw [h.files place hplace] at hdirectory
  cases hdirectory

end Sound

/-! ## Writable places -/

theorem mem_leads {place lead : Place} : lead ∈ leads place ↔ lead <+: place ∧ lead ≠ [] := by
  unfold leads
  constructor
  · intro hmem
    obtain ⟨n, hn, rfl⟩ := List.mem_map.1 hmem
    have hlength := List.mem_range.1 hn
    refine ⟨List.take_prefix (n + 1) place, fun hnil => ?_⟩
    have hzero := congrArg List.length hnil
    rw [List.length_take, List.length_nil] at hzero
    omega
  · rintro ⟨hstart, hne⟩
    have hpos := List.length_pos_iff.2 hne
    have hlength := hstart.length_le
    refine List.mem_map.2 ⟨lead.length - 1, List.mem_range.2 (by omega), ?_⟩
    rw [show lead.length - 1 + 1 = lead.length by omega]
    exact (List.prefix_iff_eq_take.1 hstart).symm

/-- A place that can be written: no directory is there, and no file is above it. -/
structure Writable (tree : FileTree) (place : Place) : Prop where
  notDirectory : tree.isDirectoryAt place = false
  clear : ∀ lead ∈ leads place.dropLast, tree.contents? lead = none

section

variable {tree : FileTree} {path : Path} {place other : Place}

theorem writeText_eq (hplace : tree.place? path = some place) (h : tree.Writable place)
    (text : String) : tree.writeText path text = .ok (tree.written place text.toUTF8.toList) := by
  have hclear : (leads place.dropLast).find? (fun lead => (tree.contents? lead).isSome) = none :=
    List.find?_eq_none.2 fun lead hlead => by simp [h.clear lead hlead]
  unfold writeText
  simp only [hplace, h.notDirectory, Bool.false_eq_true, if_false, hclear]
  rfl

theorem writable_of_writeText {text : String} {after : FileTree}
    (h : tree.writeText path text = .ok after) :
    ∃ place, tree.place? path = some place ∧ tree.Writable place := by
  unfold writeText at h
  split at h
  · cases h
  · rename_i place hplace
    split at h
    · cases h
    · rename_i hdirectory
      split at h
      · split at h <;> cases h
      · rename_i hclear
        refine ⟨place, hplace, by simpa using hdirectory, fun lead hlead => ?_⟩
        simpa using List.find?_eq_none.1 hclear lead hlead

def Unnested (place other : Place) : Prop :=
  (place <+: other → place = other) ∧ (other <+: place → other = place)

theorem Writable.written (h : tree.Writable place) (hother : Unnested place other)
    (bytes : List UInt8) : (tree.written other bytes).Writable place := by
  constructor
  · have hbefore := h.notDirectory
    rw [← Bool.not_eq_true, isDirectoryAt_written, not_or]
    refine ⟨by simp [hbefore], fun hbelow => ?_⟩
    exact hbelow.2 (hother.1 hbelow.1)
  · intro lead hlead
    obtain ⟨hstart, hne⟩ := mem_leads.1 hlead
    have hshort : lead ≠ place := by
      intro hsame
      have hlength := hstart.length_le
      have hpos := List.length_pos_iff.2 hne
      rw [hsame] at hlength hpos
      rw [List.length_dropLast] at hlength
      omega
    rw [contents?_written, if_neg, h.clear lead hlead]
    rintro rfl
    exact hshort (hother.2 (hstart.trans (List.dropLast_prefix place)))

theorem Writable.writtenAll {outputs : List (Place × List UInt8)} (h : tree.Writable place)
    (houtputs : ∀ output ∈ outputs, Unnested place output.1) :
    (tree.writtenAll outputs).Writable place := by
  induction outputs generalizing tree with
  | nil => exact h
  | cons output rest ih =>
    obtain ⟨houtput, hrest⟩ := List.forall_mem_cons.1 houtputs
    exact ih (h.written houtput output.2) hrest

/-- A file can be written again. -/
theorem Sound.writable (h : tree.Sound) (hplace : place ∈ tree.files.map Prod.fst) :
    tree.Writable place := by
  refine ⟨h.files place hplace, fun lead hlead => ?_⟩
  by_contra hfound
  obtain ⟨hstart, hne⟩ := mem_leads.1 hlead
  have hmem := mem_places_of_contents? (Option.isSome_iff_ne_none.2 hfound)
  have hsame := h.prefix_eq hmem hplace (hstart.trans (List.dropLast_prefix place))
  have hlength := hstart.length_le
  have hpos := List.length_pos_iff.2 hne
  rw [hsame] at hlength hpos
  rw [List.length_dropLast] at hlength
  omega

end

/-! ## Listed files -/

theorem mem_insertPlace {place other : Place} {places : List Place} :
    other ∈ insertPlace place places ↔ other = place ∨ other ∈ places := by
  induction places with
  | nil => simp [insertPlace]
  | cons first rest ih =>
    unfold insertPlace
    split
    · exact List.mem_cons
    · split
      · rename_i hsame
        simp [hsame]
      · simp only [List.mem_cons, ih]
        exact or_left_comm

theorem pairwise_insertPlace {places : List Place} (h : places.Pairwise (· < ·)) (place : Place) :
    (insertPlace place places).Pairwise (· < ·) := by
  induction places with
  | nil => exact List.pairwise_singleton _ place
  | cons first rest ih =>
    obtain ⟨hfirst, hrest⟩ := List.pairwise_cons.1 h
    unfold insertPlace
    split
    · rename_i hbefore
      refine List.pairwise_cons.2 ⟨fun other hother => ?_, h⟩
      rcases List.mem_cons.1 hother with rfl | hother
      · exact hbefore
      · exact lt_trans hbefore (hfirst other hother)
    · rename_i hbefore
      split
      · exact h
      · rename_i hsame
        refine List.pairwise_cons.2 ⟨fun other hother => ?_, ih hrest⟩
        rcases mem_insertPlace.1 hother with rfl | hother
        · rcases lt_trichotomy other first with hless | heq | hmore
          · exact absurd hless hbefore
          · exact absurd heq hsame
          · exact hmore
        · exact hfirst other hother

section

variable {tree : FileTree} {path : Path} {ending : String}

theorem mem_below {place : Place} (h : place ∈ tree.below path ending) :
    ∃ base, tree.place? path = some base
      ∧ ∃ file ∈ tree.files.map Prod.fst, base <+: file ∧ place <+: file.drop base.length := by
  have hsorted (found sorted : List Place) (h : place ∈ found.foldl
      (fun sorted place => insertPlace place sorted) sorted) : place ∈ found ∨ place ∈ sorted := by
    induction found generalizing sorted with
    | nil => exact .inr h
    | cons first rest ih =>
      rcases ih _ h with hrest | hsorted
      · exact .inl (List.mem_cons_of_mem first hrest)
      · rcases mem_insertPlace.1 hsorted with rfl | hsorted
        · exact .inl List.mem_cons_self
        · exact .inr hsorted
  unfold below at h
  split at h
  · cases h
  · rename_i base hbase
    have hfound := (hsorted _ [] h).resolve_right List.not_mem_nil
    obtain ⟨⟨file, bytes⟩, hfile, hleads⟩ := List.mem_flatMap.1 (List.mem_of_mem_filter hfound)
    dsimp only at hleads
    split at hleads
    · rename_i hstart
      have hbelow := List.isPrefixOf_iff_prefix.1 (Bool.and_eq_true_iff.1 hstart).1
      exact ⟨base, hbase, file, List.mem_map_of_mem hfile, hbelow, (mem_leads.1 hleads).1⟩
    · cases hleads

theorem nodup_below : (tree.below path ending).Nodup := by
  have hsorted (found sorted : List Place) (h : sorted.Pairwise (· < ·)) :
      (found.foldl (fun sorted place => insertPlace place sorted) sorted).Pairwise (· < ·) := by
    induction found generalizing sorted with
    | nil => exact h
    | cons first rest ih => exact ih _ (pairwise_insertPlace h first)
  unfold below
  split
  · exact List.nodup_nil
  · exact (hsorted _ [] .nil).imp fun hless => ne_of_lt hless

theorem Sound.up_not_mem_below (h : tree.Sound) {place : Place}
    (hplace : place ∈ tree.below path ending) : ".." ∉ place := by
  obtain ⟨base, -, file, hfile, -, hstart⟩ := mem_below hplace
  intro hup
  exact h.names file hfile (List.mem_of_mem_drop (hstart.subset hup))

end

end ModelMetadata.FileTree
