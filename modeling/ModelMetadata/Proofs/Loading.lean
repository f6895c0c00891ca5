import ModelMetadata.CommandLine.Run
import ModelMetadata.Proofs.Describing
import ModelMetadata.Proofs.Overriding

/-!
Options of a run. Loading reads the tree and adds to the log, nothing else, and whatever a command line
sets, the options that are loaded for it let sources be written.
-/
set_option autoImplicit false
namespace ModelMetadata

/-! ## Distinct settings -/

section

variable {α : Type}

theorem Table.names_insertInto (name : String) (value : α) (entries : List (String × α)) :
    (Table.insertInto name value entries).map Prod.fst
      = if name ∈ entries.map Prod.fst then entries.map Prod.fst else entries.map Prod.fst ++ [name] := by
  induction entries with
  | nil => rfl
  | cons entry rest ih =>
    obtain ⟨found, old⟩ := entry
    by_cases hsame : found = name
    · simp [Table.insertInto, hsame]
    · simp only [Table.insertInto, if_neg hsame, List.map_cons, ih, List.mem_cons, Ne.symm hsame,
        false_or]
      split <;> rfl

/-- A table that is built by entering names has each of them once. -/
theorem Table.nodup_insert {table : Table α} (h : table.names.Nodup) (name : String) (value : α) :
    (table.insert name value).names.Nodup := by
  unfold Table.names Table.insert at *
  rw [Table.names_insertInto]
  split
  · exact h
  · rename_i hnew
    rw [List.nodup_append]
    refine ⟨h, List.nodup_singleton name, fun other hother found hfound => ?_⟩
    obtain rfl := List.mem_singleton.1 hfound
    rintro rfl
    exact hnew hother

theorem lookup_of_mem {entries : List (String × α)} (hnames : (entries.map Prod.fst).Nodup)
    {name : String} {value : α} (h : (name, value) ∈ entries) : entries.lookup name = some value := by
  induction entries with
  | nil => cases h
  | cons entry rest ih =>
    obtain ⟨found, old⟩ := entry
    obtain ⟨hfirst, hrest⟩ := List.nodup_cons.1 hnames
    rcases List.mem_cons.1 h with heq | hmem
    · cases heq
      simp
    · have hne : name ≠ found := by
        intro hsame
        apply hfirst
        exact List.mem_map.2 ⟨(name, value), hmem, hsame⟩
      have htest : (name == found) = false := by simpa using hne
      rw [List.lookup_cons, htest]
      exact ih hrest hmem

theorem mem_insertInto (name : String) (value : α) (entries : List (String × α)) :
    (name, value) ∈ Table.insertInto name value entries := by
  induction entries with
  | nil => exact List.mem_singleton_self _
  | cons entry rest ih =>
    obtain ⟨found, old⟩ := entry
    unfold Table.insertInto
    split
    · exact List.mem_cons_self
    · exact List.mem_cons_of_mem _ ih

end

theorem nodup_readAssignments (items : List String) : (readAssignments items).1.names.Nodup := by
  unfold readAssignments
  apply List.foldlRecOn (motive := fun state : Table ConfigValue × List LogRecord =>
    state.1.names.Nodup)
  · exact List.nodup_nil
  · intro state h item _
    dsimp only
    split
    · exact Table.nodup_insert h _ _
    · exact h

/-- A command line sets every option once. -/
theorem nodup_settings (invocation : Invocation) : invocation.settings.1.names.Nodup := by
  have hassigned := nodup_readAssignments invocation.config
  have hinsert (table : Table ConfigValue) (h : table.names.Nodup) (flag : Bool) (name : String) :
      (if flag then table.insert name (.bool true) else table).names.Nodup := by
    split
    · exact Table.nodup_insert h name _
    · exact h
  exact hinsert _ (hinsert _ hassigned _ _) _ _

/-! ## Loaded options -/

/-- Options that are loaded with a value for writing have that value. -/
theorem readonly_of_load {tree : FileTree} {directory : Path} {overrides : ConfigEntries}
    {options : Options} {log : List LogRecord} (hnames : (overrides.map Prod.fst).Nodup)
    (hgiven : ("readonly", .bool false) ∈ overrides)
    (hload : Options.load tree directory overrides = (.ok options, log)) :
    options.readonly = false := by
  have hpresent : (present overrides).lookup "readonly" = some (.bool false) := by
    apply lookup_of_mem
    · exact hnames.sublist (List.filter_sublist.map Prod.fst)
    · exact List.mem_filter.2 ⟨hgiven, rfl⟩
  have hchecked : ∃ entries, Options.check (override entries overrides) = .ok options := by
    unfold Options.load at hload
    dsimp only at hload
    split at hload
    · cases hload
    · rename_i entries log' _
      have hcheck := congrArg Prod.fst hload
      dsimp only at hcheck
      cases hresult : Options.check (override entries overrides) with
      | error issues =>
        rw [hresult] at hcheck
        cases hcheck
      | ok found =>
        rw [hresult] at hcheck
        obtain rfl : found = options := Except.ok.inj hcheck
        exact ⟨entries, hresult⟩
  obtain ⟨entries, hcheck⟩ := hchecked
  have hfield := checked_field hcheck .readonly
  have hlookup : givenAs? (override entries overrides) OptionField.readonly.names
      = some ("readonly", .bool false) := by
    simp [givenAs?, OptionField.names, lookup_override hnames, hpresent]
  unfold checkOption at hfield
  rw [hlookup] at hfield
  exact (Except.ok.inj hfield).symm

namespace SessionStep

variable {session : Session} (hshows : session.console.ShowsAll)
include hshows

theorem offer_eq (texts : List String) : SessionStep.offer texts session = (.ok (), session) := by
  have hget : (get : SessionStep Session) session = (.ok session, session) := rfl
  have hnone : texts.findSome? session.console.refusal? = none :=
    List.findSome?_eq_none_iff.2 fun text _ => hshows text
  unfold SessionStep.offer
  rw [step_bind hget, hnone]
  rfl

theorem log_eq (records : List LogRecord) :
    SessionStep.log records session = (.ok (), { session with log := session.log ++ records }) := by
  induction records generalizing session with
  | nil =>
    rw [List.append_nil]
    rfl
  | cons record rest ih =>
    have hfirst : (do offer [record.message]; keep [record] : SessionStep Unit) session
        = (.ok (), { session with log := session.log ++ [record] }) := by
      rw [step_bind (offer_eq hshows _)]
      rfl
    have hrest := @ih { session with log := session.log ++ [record] } hshows
    rw [List.append_assoc] at hrest
    exact (step_bind hfirst).trans hrest

theorem display_eq (part : Display) : SessionStep.display part session
    = (.ok (), { session with report := session.report ++ [part] }) := by
  unfold SessionStep.display
  rw [step_bind (offer_eq hshows _)]
  rfl

end SessionStep

def loadedOptions (tree : FileTree) (input : Path) (settings : Table ConfigValue) :
    Except RunFault (Option Options) :=
  if reservedSettings.any settings.contains then .error .reservedSetting
  else
    match (Options.load tree (searchDirectory tree input)
        (settings.insert "readonly" (.bool false)).entries).1 with
    | .ok options => .ok (some options)
    | .error (.invalid _) => .ok none
    | .error fault => .error (.options fault)

/-- Loading depends on the tree alone and leaves a session as it was, but for its log. -/
theorem loadOptions_eq (input : Path) (settings : Table ConfigValue) {session : Session}
    (hshows : session.console.ShowsAll) :
    ∃ log, loadOptions input settings session
      = (loadedOptions session.tree input settings, { session with log }) := by
  have hget (session : Session) : (get : SessionStep Session) session = (.ok session, session) := rfl
  unfold loadOptions loadedOptions
  by_cases hreserved : reservedSettings.any settings.contains = true
  · rw [if_pos hreserved, if_pos hreserved]
    exact ⟨session.log, rfl⟩
  · rw [if_neg hreserved, if_neg hreserved]
    dsimp only
    rw [step_bind (hget session), step_bind (SessionStep.log_eq hshows _)]
    generalize (Options.load session.tree (searchDirectory session.tree input)
      (settings.insert "readonly" (.bool false)).entries) = found
    obtain ⟨loaded, log⟩ := found
    cases loaded with
    | ok options => exact ⟨_, rfl⟩
    | error fault =>
      cases fault with
      | invalid issues =>
        have hlog := @SessionStep.log_eq { session with log := session.log ++ log } hshows
          [.error (LoadFault.invalid issues).message]
        exact ⟨_, step_bind hlog⟩
      | _ => exact ⟨_, rfl⟩

/-- The options of a run that augments let sources be written. -/
theorem readonly_of_loadedOptions {tree : FileTree} {input : Path} {settings : Table ConfigValue}
    {options : Options} (hnames : settings.names.Nodup)
    (hload : loadedOptions tree input settings = .ok (some options)) : options.readonly = false := by
  unfold loadedOptions at hload
  split at hload
  · cases hload
  · split at hload
    · rename_i found hfound
      obtain rfl : found = options := Option.some.inj (Except.ok.inj hload)
      have hdistinct := Table.nodup_insert hnames "readonly" (.bool false)
      exact readonly_of_load hdistinct (mem_insertInto ..) (Prod.ext hfound rfl)
    · cases hload
    · cases hload

end ModelMetadata
