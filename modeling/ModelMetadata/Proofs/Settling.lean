import ModelMetadata.Proofs.Overriding

/-!
Loads that end as they should: with options, or with the issues of what was given. Only the nearest
configuration file can keep a load from that, whatever the caller gives. Its bytes must be text, and if the
text follows the grammar, its integers must be short enough, its section must stand for entries, and its root
must be able to name a place.
-/
set_option autoImplicit false
namespace ModelMetadata

/-- A load ends with options, or with the issues that they have. -/
def Settles (result : Except LoadFault Options) : Prop :=
  (∃ options, result = .ok options) ∨ ∃ issues, result = .error (.invalid issues)

/-! ## Steps before the options are checked -/

/-- A step that succeeds exactly when something holds, and finds no issues, which are found later. -/
structure Decides {α : Type} (result : Except LoadFault α) (p : Prop) : Prop where
  iff : (∃ a, result = .ok a) ↔ p
  noIssues (issues : List OptionIssue) : result ≠ .error (.invalid issues)

namespace Decides

variable {α β : Type} {result : Except LoadFault α} {p : Prop}

theorem ok (a : α) (hp : p) : Decides (.ok a) p where
  iff := iff_of_true ⟨a, rfl⟩ hp
  noIssues _ := nofun

theorem error {fault : LoadFault} (hfault : ∀ issues, fault ≠ .invalid issues) (hp : ¬ p) :
    Decides (.error fault : Except LoadFault α) p where
  iff := iff_of_false nofun hp
  noIssues issues h := hfault issues (Except.error.inj h)

theorem congr (h : Decides result p) {q : Prop} (hiff : p ↔ q) : Decides result q :=
  ⟨h.iff.trans hiff, h.noIssues⟩

theorem bind (h : Decides result p) {f : α → Except LoadFault β} {q : α → Prop}
    (hf : ∀ a, result = .ok a → Decides (f a) (q a)) :
    Decides (result >>= f) (p ∧ ∀ a, result = .ok a → q a) := by
  cases result with
  | error fault =>
    refine .error (fun issues heq => h.noIssues issues (congrArg _ heq)) fun hp => ?_
    obtain ⟨a, ha⟩ := h.iff.2 hp.1
    cases ha
  | ok a =>
    have hp : p := h.iff.1 ⟨a, rfl⟩
    refine (hf a rfl).congr ⟨fun hq => ⟨hp, fun _ heq => Except.ok.inj heq ▸ hq⟩, fun hq => hq.2 a rfl⟩

/-- A step that always succeeds can come last. -/
theorem finish (h : Decides result p) {f : α → Except LoadFault β} (hf : ∀ a, ∃ b, f a = .ok b) :
    Decides (result >>= f) p := by
  refine (h.bind (q := fun _ => True) fun a _ => ?_).congr (by simp)
  obtain ⟨b, hb⟩ := hf a
  rw [hb]
  exact .ok b trivial

theorem mapM {f : α → Except LoadFault β} {P : α → Prop} (hf : ∀ x, Decides (f x) (P x)) (xs : List α) :
    Decides (xs.mapM f) (∀ x ∈ xs, P x) := by
  induction xs with
  | nil => exact .ok [] (List.forall_mem_nil P)
  | cons x rest ih =>
    rw [List.mapM_cons, List.forall_mem_cons]
    refine ((hf x).bind fun _ _ => ih.finish fun _ => ⟨_, rfl⟩).congr ?_
    refine and_congr_right fun hx => ?_
    obtain ⟨y, hy⟩ := (hf x).iff.2 hx
    exact ⟨fun h => h y hy, fun h _ _ => h⟩

end Decides

/-! ## Sections -/

/-- A value with two parts, the first of which can be a key: an array of two values, a word of two letters,
or a table of two entries, whose names are the parts. -/
inductive ConfigValue.IsPair : ConfigValue → Prop
  | listed {key value : ConfigValue} (hkey : Toml.isContainer key = false) : IsPair (.array [key, value])
  | letters (first second : Char) : IsPair (.text (String.ofList [first, second]))
  | named (first second : String × ConfigValue) : IsPair (.table [first, second])

/-- A value that stands for entries: a table, or an array of pairs. A text without letters passes for an
array without members. -/
inductive ConfigValue.HoldsEntries : ConfigValue → Prop
  | table (entries : ConfigEntries) : HoldsEntries (.table entries)
  | pairs {items : List ConfigValue} (h : ∀ item ∈ items, item.IsPair) : HoldsEntries (.array items)
  | emptyText : HoldsEntries (.text "")

theorem pairOf?_decides (item : ConfigValue) : Decides (pairOf? item) item.IsPair := by
  cases item with
  | array items =>
    match items with
    | [key, value] =>
      cases key with
      | array _ => exact .error nofun (by rintro ⟨⟨⟩⟩)
      | table _ => exact .error nofun (by rintro ⟨⟨⟩⟩)
      | _ => exact .ok _ (.listed rfl)
    | [] => exact .error nofun nofun
    | [first] => cases first <;> exact .error nofun nofun
    | first :: _ :: _ :: _ => cases first <;> exact .error nofun nofun
  | text text =>
    unfold pairOf?
    dsimp only
    split
    · rename_i first second hletters
      rw [← text.ofList_toList, hletters]
      exact .ok _ (.letters first second)
    · rename_i hmany
      refine .error nofun ?_
      rintro ⟨⟩
      exact hmany _ _ String.toList_ofList
  | table entries =>
    match entries with
    | [first, second] => exact .ok _ (.named first second)
    | [] => exact .error nofun nofun
    | [_] => exact .error nofun nofun
    | _ :: _ :: _ :: _ => exact .error nofun nofun
  | _ => exact .error nofun nofun

theorem sectionEntries_decides (value : ConfigValue) : Decides (sectionEntries value) value.HoldsEntries := by
  unfold sectionEntries
  split
  · exact .ok _ (.table _)
  · rename_i items
    refine ((Decides.mapM pairOf?_decides items).finish fun _ => ⟨_, rfl⟩).congr ?_
    exact ⟨.pairs, fun h => by cases h; assumption⟩
  · exact .ok _ .emptyText
  · rename_i text hempty
    refine .error nofun ?_
    rintro ⟨⟩
    exact hempty rfl
  · rename_i htable harray hempty htext
    refine .error nofun ?_
    rintro ⟨⟩
    · exact htable _ rfl
    · exact harray _ rfl
    · exact hempty rfl

inductive IsSection (document : ConfigEntries) : ConfigValue → Prop
  | untooled (h : document.lookup "tool" = none) : IsSection document (.table [])
  | missing {tools : ConfigEntries} (htools : document.lookup "tool" = some (.table tools))
    (h : tools.lookup "apimeta" = none) : IsSection document (.table [])
  | found {tools : ConfigEntries} (htools : document.lookup "tool" = some (.table tools))
    {value : ConfigValue} (h : tools.lookup "apimeta" = some value) : IsSection document value

/-- The document has a section for this tool, and it is as `P` says. -/
theorem toolEntries_decides (document : ConfigEntries) :
    Decides (toolEntries document) (∃ value, IsSection document value ∧ value.HoldsEntries) := by
  unfold toolEntries
  split
  · rename_i hnone
    exact .ok _ ⟨_, .untooled hnone, .table []⟩
  · rename_i tools htools
    cases hvalue : tools.lookup "apimeta" with
    | none => exact .ok _ ⟨_, .missing htools hvalue, .table []⟩
    | some value =>
      refine (sectionEntries_decides value).congr ⟨fun h => ⟨value, .found htools hvalue, h⟩, ?_⟩
      rintro ⟨found, hsection, hentries⟩
      cases hsection with
      | untooled h => rw [h] at htools; cases htools
      | missing htools' h =>
        obtain rfl : tools = _ := by simpa [htools] using htools'
        rw [h] at hvalue
        cases hvalue
      | found htools' h =>
        obtain rfl : tools = _ := by simpa [htools] using htools'
        rw [h] at hvalue
        exact Option.some.inj hvalue ▸ hentries
  · rename_i found hother hfound
    refine .error nofun ?_
    rintro ⟨_, hsection, _⟩
    cases hsection with
    | untooled h => cases hfound.symm.trans h
    | missing h _ => exact hother _ (Option.some.inj (hfound.symm.trans h))
    | found h _ => exact hother _ (Option.some.inj (hfound.symm.trans h))

/-! ## Roots -/

/-- The root that some entries give, if they do, can be a place: a text without a NUL. -/
def RootUsable (entries : ConfigEntries) : Prop :=
  ∀ name value, givenAs? entries rootNames = some (name, value) →
    value.isNone = true ∨ ∃ root, value = .text root ∧ '\x00' ∉ root.toList

/-- The checks of a root and its place in the tree, one after the other. -/
theorem absoluteRoot_decides (tree : FileTree) (directory : Path) (entries : ConfigEntries) :
    Decides (do checkPlace entries; absoluteRoot tree directory entries) (RootUsable entries) := by
  unfold checkPlace absoluteRoot
  cases hgiven : givenAs? entries rootNames with
  | none => exact .ok _ fun name value h => by simp [hgiven] at h
  | some given =>
    obtain ⟨name, value⟩ := given
    have husable : RootUsable entries
        ↔ value.isNone = true ∨ ∃ root, value = .text root ∧ '\x00' ∉ root.toList := by
      simp [RootUsable, hgiven]
    cases value with
    | none => exact .ok _ (husable.2 (.inl rfl))
    | text root =>
      by_cases hnul : '\x00' ∈ root.toList
      · have htest : root.toList.contains '\x00' = true := List.contains_iff_mem.2 hnul
        simp only [htest, if_true]
        exact .error nofun (by simpa [husable, ConfigValue.isNone] using hnul)
      · have htest : root.toList.contains '\x00' = false := by simpa using hnul
        simp only [htest, Bool.false_eq_true, if_false]
        exact .ok _ (husable.2 (.inr ⟨root, rfl, hnul⟩))
    | _ => exact .error nofun (by simp [husable, ConfigValue.isNone])

/-! ## Files -/

/-- A document has a section that stands for entries, and a root that they give can be a place. -/
def DocumentUsable (document : ConfigEntries) : Prop :=
  (∃ value, IsSection document value ∧ value.HoldsEntries)
    ∧ ∀ entries, toolEntries document = .ok entries → RootUsable entries

/-- Bytes that are text, and where that follows the grammar, a document that can be used. -/
inductive FileUsable (bytes : List UInt8) : Prop
  | malformed {text : String} (htext : Text.decodeUtf8 bytes = .ok text)
    (h : Toml.parse text = .error .malformed)
  | document {text : String} {document : ConfigEntries} (htext : Text.decodeUtf8 bytes = .ok text)
    (hparse : Toml.parse text = .ok document) (h : DocumentUsable document)

def fileEntries (tree : FileTree) (above : Path) (bytes : List UInt8) :
    Except LoadFault (ConfigEntries × List LogRecord) := do
  match ← readConfig above bytes with
  | (none, log) => return ([], log)
  | (some entries, log) => return (← absoluteRoot tree above entries, log)

theorem fileEntries_decides (tree : FileTree) (above : Path) (bytes : List UInt8) :
    Decides (fileEntries tree above bytes) (FileUsable bytes) := by
  unfold fileEntries readConfig
  cases htext : Text.decodeUtf8 bytes with
  | error fault =>
    refine .error nofun ?_
    rintro (⟨h, -⟩ | ⟨h, -, -⟩) <;> cases htext.symm.trans h
  | ok text =>
    have heq {text' : String} (h : Text.decodeUtf8 bytes = .ok text') : text' = text :=
      Except.ok.inj (h.symm.trans htext)
    dsimp only
    cases hparse : Toml.parse text with
    | error refusal =>
      cases refusal with
      | malformed => exact .ok _ (.malformed htext hparse)
      | overlongInteger =>
        refine .error nofun ?_
        rintro (⟨h, h'⟩ | ⟨h, h', -⟩)
        all_goals
          rw [heq h, hparse] at h'
          cases h'
    | ok document =>
      have husable : DocumentUsable document ↔ FileUsable bytes := by
        refine ⟨.document htext hparse, ?_⟩
        rintro (⟨h, h'⟩ | ⟨h, h', husable⟩)
        all_goals
          rw [heq h, hparse] at h'
          cases h'
        exact husable
      have hrooted (entries : ConfigEntries) :
          Decides (do checkPlace entries; return (← absoluteRoot tree above entries, ([] : List LogRecord)))
            (RootUsable entries) := by
        have h := (absoluteRoot_decides tree above entries).finish fun rooted =>
          ⟨(rooted, ([] : List LogRecord)), rfl⟩
        rwa [bind_assoc] at h
      have h := (toolEntries_decides document).bind fun entries _ => hrooted entries
      simp only [bind_assoc, pure_bind]
      exact h.congr husable

/-! ## Loads -/

theorem load_eq_fileEntries (tree : FileTree) (directory : Path) (overrides : ConfigEntries) :
    Options.load tree directory overrides
      = match (findConfig? tree directory).elim (.ok ([], [])) fun found =>
            fileEntries tree found.1 found.2 with
        | .error fault => (.error fault, [])
        | .ok (entries, log) => ((Options.check (override entries overrides)).mapError .invalid, log) := by
  unfold Options.load
  cases findConfig? tree directory <;> rfl

theorem settles_mapError (checked : Checked Options) : Settles (checked.mapError .invalid) := by
  cases checked with
  | ok options => exact .inl ⟨options, rfl⟩
  | error issues => exact .inr ⟨issues, rfl⟩

/-- A load ends with options or with their issues exactly when the nearest configuration file, if there is
one, can be used, whatever the caller gives. A file that is text but does not follow the grammar counts as
none at all, but for a warning. -/
theorem load_settles (tree : FileTree) (directory : Path) (overrides : ConfigEntries) :
    (Settles (Options.load tree directory overrides).1
        ↔ ∀ above bytes, findConfig? tree directory = some (above, bytes) → FileUsable bytes)
      ∧ ∀ above bytes text, findConfig? tree directory = some (above, bytes) →
        Text.decodeUtf8 bytes = .ok text → Toml.parse text = .error .malformed →
        Options.load tree directory overrides
          = ((Options.check (override [] overrides)).mapError .invalid,
              [.warning ("Ignoring unreadable " ++ (above.join ⟨"", [configFile]⟩).render)]) := by
  rw [load_eq_fileEntries]
  cases hfile : findConfig? tree directory with
  | none => exact ⟨iff_of_true (settles_mapError _) nofun, nofun⟩
  | some found =>
    obtain ⟨above, bytes⟩ := found
    have hdecides := fileEntries_decides tree above bytes
    have husable : FileUsable bytes ↔ ∀ above' bytes',
        some (above, bytes) = some (above', bytes') → FileUsable bytes' := by simp
    rw [Option.elim_some, ← husable, ← hdecides.iff]
    refine ⟨?_, ?_⟩
    · cases hentries : fileEntries tree above bytes with
      | ok given => exact iff_of_true (settles_mapError _) ⟨given, rfl⟩
      | error fault =>
        refine iff_of_false ?_ nofun
        rintro (⟨options, h⟩ | ⟨issues, h⟩)
        · cases h
        · exact hdecides.noIssues issues (hentries.trans (congrArg _ (Except.error.inj h)))
    · rintro above' bytes' text hsame htext hparse
      cases hsame
      have hentries : fileEntries tree above bytes
          = .ok ([], [.warning ("Ignoring unreadable " ++ (above.join ⟨"", [configFile]⟩).render)]) := by
        simp [fileEntries, readConfig, htext, hparse, bind, Except.bind, pure, Except.pure]
      rw [hentries]

namespace Configured

def tree (contents : List UInt8) : FileTree :=
  { directory := Path.parse "/project", files := [(["project", "pyproject.toml"], contents)] }

def loaded (contents : List UInt8) : Except LoadFault Options :=
  (Options.load (tree contents) (Path.parse ".") []).1

def pairs : List UInt8 := "tool.apimeta=[['debug',true],'ab']".toUTF8.toList

def document : ConfigEntries :=
  [("tool", .table [("apimeta", .array [.array [.text "debug", .bool true], .text "ab"])])]

theorem decode_pairs : Text.decodeUtf8 pairs = .ok "tool.apimeta=[['debug',true],'ab']" := by
  decide +kernel

theorem parse_pairs : Toml.parse "tool.apimeta=[['debug',true],'ab']" = .ok document := by cbv

theorem findConfig?_pairs : findConfig? (tree pairs) (Path.parse ".") = some (⟨"/", ["project"]⟩, pairs) := by
  decide +kernel

theorem documentUsable : DocumentUsable document := by
  have hlisted : (ConfigValue.array [.text "debug", .bool true]).IsPair := .listed rfl
  have hletters : (ConfigValue.text "ab").IsPair := .letters 'a' 'b'
  refine ⟨⟨_, .found rfl rfl, .pairs ?_⟩, fun entries hentries name value hgiven => ?_⟩
  · exact List.forall_mem_cons.2 ⟨hlisted, List.forall_mem_singleton.2 hletters⟩
  · have hgives : toolEntries document = .ok [("debug", .bool true), ("a", .text "b")] := by cbv
    obtain rfl := Except.ok.inj (hgives.symm.trans hentries)
    simp [givenAs?, rootNames] at hgiven

theorem loaded_rootNumber : loaded "tool.apimeta.pathToSource=5".toUTF8.toList = .error .rootNotText := by
  decide +kernel

theorem loaded_toolNumber : loaded "tool=5".toUTF8.toList = .error .noToolTable := by decide +kernel

theorem loaded_undecodable : loaded [0xff]
    = .error (.undecodable "'utf-8' codec can't decode byte 0xff in position 0: invalid start byte") := by
  decide +kernel

end Configured

open Configured in
/-- Options are loaded from an array of pairs. -/
theorem load_settles_of_pairs : Settles (loaded pairs) := by
  refine (load_settles (tree pairs) (Path.parse ".") []).1.2 fun above bytes hfile => ?_
  cases findConfig?_pairs.symm.trans hfile
  exact .document decode_pairs parse_pairs documentUsable

open Configured in
/-- A root that is a number, a number for the section of the tools, and bytes that are no text each end a
load with a fault of their own. -/
theorem load_unsettled : ¬ Settles (loaded "tool.apimeta.pathToSource=5".toUTF8.toList)
    ∧ ¬ Settles (loaded "tool=5".toUTF8.toList) ∧ ¬ Settles (loaded [0xff]) := by
  rw [loaded_rootNumber, loaded_toolNumber, loaded_undecodable]
  simp [Settles]

end ModelMetadata
