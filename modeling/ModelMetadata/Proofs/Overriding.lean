import Mathlib
import ModelMetadata.Config.Load
import ModelMetadata.Fault

/-!
Precedence of options. What a caller gives takes the place of what the configuration file gives, but
only under the same name: an option with an alias is read under the alias first. So the caller's
value is the one that counts unless the file gives the alias and the caller the name. The root is out
of this, since the file's root is entered under its name before the entries meet.
-/
set_option autoImplicit false
namespace ModelMetadata

/-! ## Entries -/

theorem lookup_insertAll {α : Type} {given : List (String × α)}
    (hnames : (given.map Prod.fst).Nodup) (table : Table α) (name : String) :
    (given.foldl (fun table entry => table.insert entry.1 entry.2) table).get? name
      = (given.lookup name).or (table.get? name) := by
  induction given generalizing table with
  | nil => simp
  | cons entry rest ih =>
    obtain ⟨key, value⟩ := entry
    rw [List.map_cons, List.nodup_cons] at hnames
    rw [List.foldl_cons, ih hnames.2, Table.get?_insert]
    by_cases hkey : key = name
    · subst hkey
      have hrest : rest.lookup key = none := by
        apply List.lookup_eq_none_iff.2
        intro entry hentry
        have hne : entry.1 ≠ key := fun heq => hnames.1 (List.mem_map.2 ⟨entry, hentry, heq⟩)
        simpa using hne.symm
      simp [hrest]
    · have htest : (name == key) = false := by simpa using Ne.symm hkey
      simp [List.lookup_cons, hkey, htest]

theorem table_lookup_eq {α : Type} (name : String) (entries : List (String × α)) :
    Table.lookup name entries = entries.lookup name := by
  induction entries with
  | nil => rfl
  | cons entry rest ih =>
    obtain ⟨key, value⟩ := entry
    by_cases hkey : key = name
    · simp [Table.lookup, hkey]
    · have htest : (name == key) = false := by simpa using Ne.symm hkey
      simp [Table.lookup, List.lookup_cons, hkey, htest, ih]

theorem lookup_filter {α : Type} (keep : String → Bool) {name : String} (hkeep : keep name = true)
    (entries : List (String × α)) :
    (entries.filter fun entry => keep entry.1).lookup name = entries.lookup name := by
  induction entries with
  | nil => rfl
  | cons entry rest ih =>
    obtain ⟨key, value⟩ := entry
    by_cases hkey : name = key
    · subst hkey
      simp [hkeep]
    · have htest : (name == key) = false := by simpa using hkey
      by_cases hother : keep key = true
      · simp [List.lookup_cons, hother, htest, ih]
      · simp [List.lookup_cons, hother, htest, ih]

def present (entries : ConfigEntries) : ConfigEntries := entries.filter fun entry => !entry.2.isNone

/-- Each name is looked up among what the caller gives, and then in the file. -/
theorem lookup_override {entries overrides : ConfigEntries}
    (hnames : (overrides.map Prod.fst).Nodup) (name : String) :
    (override entries overrides).lookup name
      = ((present overrides).lookup name).or (entries.lookup name) := by
  have hpresent : ((present overrides).map Prod.fst).Nodup :=
    hnames.sublist (List.filter_sublist.map Prod.fst)
  have h := lookup_insertAll hpresent ⟨entries⟩ name
  unfold Table.get? at h
  rw [table_lookup_eq, table_lookup_eq] at h
  exact h

/-! ## Options, one by one -/

inductive OptionField where
  | readonly
  | introspectComments
  | classValidatorShim
  | dtoKeyOfComment
  | pathToSource
  | debug
  | dtoFileNameSuffix
deriving Repr, DecidableEq

namespace OptionField

def names : OptionField → List String
  | .readonly => ["readonly"]
  | .introspectComments => ["introspectComments", "introspect_comments"]
  | .classValidatorShim => ["classValidatorShim", "class_validator_shim"]
  | .dtoKeyOfComment => ["dtoKeyOfComment", "dto_key_of_comment"]
  | .pathToSource => ["pathToSource", "path_to_source"]
  | .debug => ["debug"]
  | .dtoFileNameSuffix => ["dtoFileNameSuffix", "dto_file_name_suffix"]

def Value : OptionField → Type
  | .readonly | .introspectComments | .classValidatorShim | .debug => Bool
  | .dtoKeyOfComment => String
  | .pathToSource => Option Path
  | .dtoFileNameSuffix => List String

def get (options : Options) : (field : OptionField) → field.Value
  | .readonly => options.readonly
  | .introspectComments => options.introspectComments
  | .classValidatorShim => options.classValidatorShim
  | .dtoKeyOfComment => options.dtoKeyOfComment
  | .pathToSource => options.pathToSource
  | .debug => options.debug
  | .dtoFileNameSuffix => options.dtoFileNameSuffix

def check : (field : OptionField) → String → ConfigValue → Checked field.Value
  | .readonly | .introspectComments | .classValidatorShim | .debug => single ConfigValue.toBool
  | .dtoKeyOfComment => single ConfigValue.toKey
  | .pathToSource => single ConfigValue.toPath?
  | .dtoFileNameSuffix => checkTexts

end OptionField

theorem andAlso_eq_ok {α β : Type} {build : Checked (α → β)} {next : Checked α} {b : β}
    (h : andAlso build next = .ok b) : ∃ f a, build = .ok f ∧ next = .ok a ∧ f a = b := by
  cases build with
  | error issues => cases next <;> cases h
  | ok f =>
    cases next with
    | error issues => cases h
    | ok a => exact ⟨f, a, rfl, rfl, Except.ok.inj h⟩

theorem checkRoot_eq_ok {options checked : Options} (h : checkRoot options = .ok checked) :
    options = checked := by
  unfold checkRoot at h
  split at h
  · cases h
  · exact Except.ok.inj h

/-- Checked options hold, in every field, the value that is read for the field, or its default. -/
theorem checked_field {entries : ConfigEntries} {options : Options}
    (h : Options.check entries = .ok options) (field : OptionField) :
    checkOption entries field.names (field.get {}) field.check = .ok (field.get options) := by
  obtain ⟨built, h, hchecked⟩ := bind_eq_ok.1 h
  cases checkRoot_eq_ok hchecked
  obtain ⟨_, suffixes, h6, hsuffixes, heq⟩ := andAlso_eq_ok h
  subst heq
  obtain ⟨_, debug, h5, hdebug, heq⟩ := andAlso_eq_ok h6
  subst heq
  obtain ⟨_, root, h4, hroot, heq⟩ := andAlso_eq_ok h5
  subst heq
  obtain ⟨_, key, h3, hkey, heq⟩ := andAlso_eq_ok h4
  subst heq
  obtain ⟨_, shim, h2, hshim, heq⟩ := andAlso_eq_ok h3
  subst heq
  obtain ⟨_, comments, h1, hcomments, heq⟩ := andAlso_eq_ok h2
  subst heq
  obtain ⟨_, readonly, h0, hreadonly, heq⟩ := andAlso_eq_ok h1
  subst heq
  cases h0
  cases field
  · exact hreadonly
  · exact hcomments
  · exact hshim
  · exact hkey
  · exact hroot
  · exact hdebug
  · exact hsuffixes

/-! ## What the caller gives -/

def Shadows (entries : ConfigEntries) (field : OptionField) (spelling : String) : Prop :=
  ∃ name ∈ field.names.takeWhile (· != spelling), (entries.lookup name).isSome

theorem lookup_of_givenAs? {entries : ConfigEntries} {names : List String} {spelling : String}
    {value : ConfigValue} (h : givenAs? entries names = some (spelling, value)) :
    spelling ∈ names ∧ entries.lookup spelling = some value := by
  obtain ⟨name, hname, hfound⟩ := List.exists_of_findSome?_eq_some h
  obtain ⟨found, hlookup, hpair⟩ := Option.map_eq_some_iff.1 hfound
  cases hpair
  exact ⟨hname, hlookup⟩

/-- Where no name that is read earlier is in the file, the name that the caller uses is read. -/
theorem givenAs?_override {entries overrides : ConfigEntries} {names : List String}
    {spelling : String} {value : ConfigValue} (hnames : (overrides.map Prod.fst).Nodup)
    (hgiven : givenAs? (present overrides) names = some (spelling, value))
    (hfile : ∀ name ∈ names.takeWhile (· != spelling), entries.lookup name = none) :
    givenAs? (override entries overrides) names = some (spelling, value) := by
  induction names with
  | nil => cases hgiven
  | cons name rest ih =>
    unfold givenAs? at hgiven ih ⊢
    rw [List.findSome?_cons] at hgiven ⊢
    rw [lookup_override hnames]
    cases hfound : (present overrides).lookup name with
    | some found =>
      rw [hfound] at hgiven
      simpa using hgiven
    | none =>
      rw [hfound] at hgiven
      have hlater : rest.findSome? (fun name => ((present overrides).lookup name).map
          fun value => (name, value)) = some (spelling, value) := by simpa using hgiven
      have hne : name ≠ spelling := by
        intro heq
        rw [heq, (lookup_of_givenAs? hlater).2] at hfound
        cases hfound
      have htake : (name :: rest).takeWhile (· != spelling)
          = name :: rest.takeWhile (· != spelling) := by simp [hne]
      rw [htake] at hfile
      rw [hfile name List.mem_cons_self]
      exact ih hlater fun other hother => hfile other (List.mem_cons_of_mem _ hother)

/-- Where a name that is read earlier is in the file, the file's value is read. -/
theorem givenAs?_shadowed {entries overrides : ConfigEntries} {names : List String}
    {spelling : String} {value : ConfigValue} (hnames : (overrides.map Prod.fst).Nodup)
    (hgiven : givenAs? (present overrides) names = some (spelling, value))
    (hfile : ∃ name ∈ names.takeWhile (· != spelling), (entries.lookup name).isSome) :
    ∃ name found, givenAs? (override entries overrides) names = some (name, found)
      ∧ entries.lookup name = some found := by
  induction names with
  | nil => cases hgiven
  | cons name rest ih =>
    unfold givenAs? at hgiven ih ⊢
    rw [List.findSome?_cons] at hgiven ⊢
    rw [lookup_override hnames]
    obtain ⟨other, hother, hsome⟩ := hfile
    have hne : name ≠ spelling := by
      intro heq
      simp [heq] at hother
    cases hfound : (present overrides).lookup name with
    | some found =>
      rw [hfound] at hgiven
      exact absurd (congrArg Prod.fst (Option.some.inj hgiven)) hne
    | none =>
      rw [hfound] at hgiven
      cases hentry : entries.lookup name with
      | some found => exact ⟨name, found, rfl, hentry⟩
      | none =>
        have htake : (name :: rest).takeWhile (· != spelling)
            = name :: rest.takeWhile (· != spelling) := by simp [hne]
        rw [htake] at hother
        rcases List.mem_cons.1 hother with heq | hrest
        · subst heq
          simp [hentry] at hsome
        · exact ih hgiven ⟨other, hrest, hsome⟩

/-! ## The file's root -/

/-- A root that is text is entered under its name, and nothing else changes. -/
theorem absoluteRoot_lookup (tree : FileTree) (above : Path) {entries : ConfigEntries}
    (hroot : ∀ given, givenAs? entries ["path_to_source", "pathToSource"] = some given →
      ∃ root, given.2 = .text root) :
    ∃ rooted, absoluteRoot tree above entries = .ok rooted
      ∧ rooted.lookup "pathToSource" = none
      ∧ ∀ name, name ≠ "pathToSource" → name ≠ "path_to_source" →
        rooted.lookup name = entries.lookup name := by
  unfold absoluteRoot rootNames
  cases hgiven : givenAs? entries ["path_to_source", "pathToSource"] with
  | none =>
    have halias := List.findSome?_eq_none_iff.1 hgiven "pathToSource" (by simp)
    exact ⟨entries, rfl, by simpa using halias, fun name _ _ => rfl⟩
  | some given =>
    obtain ⟨root, hvalue⟩ := hroot given hgiven
    obtain ⟨spelling, value⟩ := given
    subst hvalue
    refine ⟨_, rfl, ?_, ?_⟩
    · rw [List.lookup_append, Option.or_eq_none_iff]
      refine ⟨List.lookup_eq_none_iff.2 fun entry hentry => ?_, rfl⟩
      have hkept := (List.mem_filter.1 hentry).2
      simp only [Bool.and_eq_true, bne_iff_ne] at hkept
      simpa using hkept.1.symm
    · intro name halias hname
      have htest : (name == "path_to_source") = false := by simpa using hname
      rw [List.lookup_append, List.lookup_cons, htest, List.lookup_nil, Option.or_none]
      exact lookup_filter (fun name => name != "pathToSource" && name != "path_to_source")
        (by simp [halias, hname]) entries

theorem field_names_root {field : OptionField} (hfield : field ≠ .pathToSource) {name : String}
    (hname : name ∈ field.names) : name ≠ "pathToSource" ∧ name ≠ "path_to_source" := by
  cases field <;> simp [OptionField.names] at hname hfield ⊢ <;> rcases hname with rfl | rfl <;> decide

/-- The only name that the root can be read under before another one is its alias. -/
theorem field_earlier_root {spelling name : String}
    (hspelling : spelling ∈ OptionField.pathToSource.names)
    (hname : name ∈ OptionField.pathToSource.names.takeWhile (· != spelling)) :
    name = "pathToSource" := by
  simp only [OptionField.names, List.mem_cons, List.not_mem_nil, or_false] at hspelling
  rcases hspelling with rfl | rfl
  · simp [OptionField.names] at hname
  · simpa [OptionField.names] using hname

/-! ## Loading -/

section Loading

variable {tree : FileTree} {directory above : Path} {bytes : List UInt8}
  {entries rooted overrides : ConfigEntries} {log : List LogRecord}

theorem load_eq (overrides : ConfigEntries) (hfile : findConfig? tree directory = some (above, bytes))
    (hread : readConfig above bytes = .ok (some entries, log))
    (hrooted : absoluteRoot tree above entries = .ok rooted) :
    Options.load tree directory overrides
      = ((Options.check (override rooted overrides)).mapError .invalid, log) := by
  simp [Options.load, hfile, hread, hrooted, bind, Except.bind, pure, Except.pure]

/-- A value that the caller gives for an option is the option's value, or the entries of the file and
of the caller together are invalid; but the file must not give the option under a name that is read
before the caller's. -/
theorem load_override (hfile : findConfig? tree directory = some (above, bytes))
    (hread : readConfig above bytes = .ok (some entries, log))
    (hroot : ∀ given, givenAs? entries ["path_to_source", "pathToSource"] = some given →
      ∃ root, given.2 = .text root)
    (hnames : (overrides.map Prod.fst).Nodup) {field : OptionField} {spelling : String}
    {value : ConfigValue}
    (hgiven : givenAs? (present overrides) field.names = some (spelling, value))
    (hclear : field ≠ .pathToSource → ¬ Shadows entries field spelling) :
    (∃ options, Options.load tree directory overrides = (.ok options, log)
        ∧ field.check spelling value = .ok (field.get options))
      ∨ ∃ rooted issues, absoluteRoot tree above entries = .ok rooted
        ∧ Options.check (override rooted overrides) = .error issues
        ∧ Options.load tree directory overrides = (.error (.invalid issues), log) := by
  obtain ⟨rooted, hrooted, halias, hother⟩ := absoluteRoot_lookup tree above hroot
  have hload := load_eq overrides hfile hread hrooted
  have hearlier : ∀ name ∈ field.names.takeWhile (· != spelling), rooted.lookup name = none := by
    intro name hname
    by_cases hfield : field = .pathToSource
    · subst hfield
      rw [field_earlier_root (lookup_of_givenAs? hgiven).1 hname]
      exact halias
    · have hnames := field_names_root hfield ((List.takeWhile_sublist _).subset hname)
      rw [hother name hnames.1 hnames.2]
      by_contra hfound
      exact hclear hfield ⟨name, hname, Option.isSome_iff_ne_none.2 hfound⟩
  have hread := givenAs?_override hnames hgiven hearlier
  cases hcheck : Options.check (override rooted overrides) with
  | error issues =>
    right
    rw [hcheck] at hload
    exact ⟨rooted, issues, hrooted, hcheck, hload⟩
  | ok options =>
    left
    have hfield := checked_field hcheck field
    unfold checkOption at hfield
    rw [hread] at hfield
    rw [hcheck] at hload
    exact ⟨options, hload, hfield⟩

/-- Where the file does give the option under an earlier name, the file's value is the option's. -/
theorem load_shadowed (hfile : findConfig? tree directory = some (above, bytes))
    (hread : readConfig above bytes = .ok (some entries, log))
    (hroot : ∀ given, givenAs? entries ["path_to_source", "pathToSource"] = some given →
      ∃ root, given.2 = .text root)
    (hnames : (overrides.map Prod.fst).Nodup) {field : OptionField} {spelling : String}
    {value : ConfigValue}
    (hgiven : givenAs? (present overrides) field.names = some (spelling, value))
    (hfield : field ≠ .pathToSource) (hshadows : Shadows entries field spelling) {options : Options}
    (hload : (Options.load tree directory overrides).1 = .ok options) :
    ∃ name found, entries.lookup name = some found
      ∧ field.check name found = .ok (field.get options) := by
  obtain ⟨rooted, hrooted, _, hother⟩ := absoluteRoot_lookup tree above hroot
  have hearlier : ∃ name ∈ field.names.takeWhile (· != spelling), (rooted.lookup name).isSome := by
    obtain ⟨name, hname, hsome⟩ := hshadows
    have hnames := field_names_root hfield ((List.takeWhile_sublist _).subset hname)
    exact ⟨name, hname, by rwa [hother name hnames.1 hnames.2]⟩
  obtain ⟨name, found, hread', hfound⟩ := givenAs?_shadowed hnames hgiven hearlier
  have hnames' := field_names_root hfield (lookup_of_givenAs? hread').1
  rw [hother name hnames'.1 hnames'.2] at hfound
  rw [load_eq overrides hfile hread hrooted] at hload
  cases hcheck : Options.check (override rooted overrides) with
  | error issues =>
    rw [hcheck] at hload
    cases hload
  | ok checked =>
    rw [hcheck] at hload
    cases hload
    have hchecked := checked_field hcheck field
    unfold checkOption at hchecked
    rw [hread'] at hchecked
    exact ⟨name, found, hfound, hchecked⟩

/-- A root in the file that is no text is a fault of its own, whatever the caller gives. -/
theorem load_rootNotText (hfile : findConfig? tree directory = some (above, bytes))
    (hread : readConfig above bytes = .ok (some entries, log)) {spelling : String}
    {value : ConfigValue}
    (hgiven : givenAs? entries ["path_to_source", "pathToSource"] = some (spelling, value))
    (hvalue : value.isNone = false) (htext : ∀ root, value ≠ .text root) :
    Options.load tree directory overrides = (.error .rootNotText, []) := by
  have hroot : absoluteRoot tree above entries = .error .rootNotText := by
    unfold absoluteRoot rootNames
    rw [hgiven]
    cases value with
    | none => cases hvalue
    | text root => exact absurd rfl (htext root)
    | _ => rfl
  simp [Options.load, hfile, hread, hroot, bind, Except.bind]

end Loading

namespace Commented

def contents : List UInt8 := "tool.apimeta.introspectComments=true".toUTF8.toList

def tree : FileTree :=
  { directory := Path.parse "/project", files := [(["project", "pyproject.toml"], contents)] }

theorem findConfig?_eq : findConfig? tree (Path.parse ".") = some (⟨"/", ["project"]⟩, contents) := by
  decide +kernel

theorem readConfig_eq :
    readConfig ⟨"/", ["project"]⟩ contents = .ok (some [("introspectComments", .bool true)], []) := by
  cbv

end Commented

open Commented in
/-- Under the alias the caller turns introspection off. -/
theorem load_override_of_commented :
    ∃ options, Options.load tree (Path.parse ".") [("introspectComments", .bool false)]
      = (.ok options, []) ∧ options.introspectComments = false := by
  have hgiven : givenAs? (present [("introspectComments", .bool false)])
      OptionField.introspectComments.names = some ("introspectComments", .bool false) := rfl
  have hnames : (([("introspectComments", .bool false)] : ConfigEntries).map Prod.fst).Nodup :=
    List.nodup_singleton _
  have hclear : ¬ Shadows [("introspectComments", .bool true)] .introspectComments
      "introspectComments" := by
    rintro ⟨name, hname, _⟩
    simp [OptionField.names] at hname
  have hok : (Options.load tree (Path.parse ".")
      [("introspectComments", .bool false)]).1.isOk = true := by
    decide +kernel
  rcases load_override findConfig?_eq readConfig_eq (fun given hgiven => by cases hgiven)
    hnames hgiven (fun _ => hclear) with
    ⟨options, hload, hvalue⟩ | ⟨_, issues, _, _, hload⟩
  · exact ⟨options, hload, (Except.ok.inj hvalue).symm⟩
  · rw [hload] at hok
    cases hok

open Commented in
/-- Under the name the caller turns introspection off, and it stays on. -/
theorem load_override_lost :
    OptionField.introspectComments.check "introspect_comments" (.bool false) = .ok false
      ∧ Options.load tree (Path.parse ".") [("introspect_comments", .bool false)]
        = (.ok { introspectComments := true }, []) := by
  constructor
  · rfl
  · decide +kernel

end ModelMetadata
