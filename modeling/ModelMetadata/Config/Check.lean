import ModelMetadata.Config.Value
import ModelMetadata.Options
import ModelMetadata.Text.Lines

/-!
Checking of options. An option is given under its name or its alias, and the alias counts when both
are there. All options are checked, in a fixed order, and every fault is an issue with the place that
it was found at; only options without issues are checked against each other.
-/
set_option autoImplicit false
namespace ModelMetadata

open Number

/-! ## Issues -/

inductive IssueKind where
  | boolParsing
  | boolType
  | stringType
  | listType
  | pathType
  /-- A rule between values or about their content is broken. -/
  | value (text : String)
deriving Repr, DecidableEq, Inhabited

def IssueKind.name : IssueKind → String
  | .boolParsing => "bool_parsing"
  | .boolType => "bool_type"
  | .stringType => "string_type"
  | .listType => "list_type"
  | .pathType => "path_type"
  | .value _ => "value_error"

structure OptionIssue where
  /-- The key, and the index in a list. -/
  place : List String
  kind : IssueKind
deriving Repr, DecidableEq, Inhabited

/-! ## Single values -/

def trueWords : List String := ["1", "on", "t", "true", "y", "yes"]

def falseWords : List String := ["0", "off", "f", "false", "n", "no"]

def lowerText (text : String) : String := String.ofList (text.toList.map Char.toLower)

/-- Truth values: also as words, and as the numbers zero and one. -/
def ConfigValue.toBool : ConfigValue → Except IssueKind Bool
  | .bool value => .ok value
  | .text word =>
    if trueWords.contains (lowerText word) then .ok true
    else if falseWords.contains (lowerText word) then .ok false
    else .error .boolParsing
  | .int value =>
    if value == 0 then .ok false
    else if value == 1 then .ok true
    else if (Binary64.ofDecimal value.natAbs 0).isFinite then .error .boolParsing
    else .error .boolType
  | .float value =>
    if value.isZero then .ok false
    else if value == Binary64.one then .ok true
    else if value.isInteger && value.abs.magnitude < Binary64.twoToThe63.magnitude then
      .error .boolParsing
    else .error .boolType
  | _ => .error .boolType

def ConfigValue.toText : ConfigValue → Except IssueKind String
  | .text value => .ok value
  | _ => .error .stringType

/-- The key for prose: text that is more than blanks, which are taken off. -/
def ConfigValue.toKey (value : ConfigValue) : Except IssueKind String := do
  let key := Text.trimmed (← value.toText)
  if key.isEmpty then throw (.value "dtoKeyOfComment must be a non-empty descriptor key")
  else return key

def ConfigValue.toPath? : ConfigValue → Except IssueKind (Option Path)
  | .none => .ok Option.none
  | .text value => .ok (some (Path.parse value))
  | .path value => .ok (some value)
  | _ => .error .pathType

/-! ## Options -/

abbrev ConfigEntries := List (String × ConfigValue)

/-- The value given for an option and the key it was given under. -/
def givenAs? (entries : ConfigEntries) (names : List String) : Option (String × ConfigValue) :=
  names.findSome? fun name => (entries.lookup name).map fun value => (name, value)

abbrev Checked (α : Type) := Except (List OptionIssue) α

/-- An option that is given under one of some names, or its default. -/
def checkOption {α : Type} (entries : ConfigEntries) (names : List String) (default : α)
    (check : String → ConfigValue → Checked α) : Checked α :=
  match givenAs? entries names with
  | some (name, value) => check name value
  | none => .ok default

def single {α : Type} (convert : ConfigValue → Except IssueKind α) (name : String)
    (value : ConfigValue) : Checked α :=
  (convert value).mapError fun kind => [⟨[name], kind⟩]

def textItems (name : String) : Nat → List ConfigValue → List OptionIssue × List String
  | _, [] => ([], [])
  | index, item :: rest =>
    let (issues, texts) := textItems name (index + 1) rest
    match item.toText with
    | .ok text => (issues, text :: texts)
    | .error kind => (⟨[name, toString index], kind⟩ :: issues, texts)

def checkTexts (name : String) (value : ConfigValue) : Checked (List String) :=
  match value with
  | .array items =>
    match textItems name 0 items with
    | ([], texts) => .ok texts
    | (issues, _) => .error issues
  | _ => .error [⟨[name], .listType⟩]

/-- One more option of a value that is being built, issues gathered in order. -/
def andAlso {α β : Type} (build : Checked (α → β)) (next : Checked α) : Checked β :=
  match build, next with
  | .ok f, .ok a => .ok (f a)
  | .ok _, .error issues => .error issues
  | .error issues, .ok _ => .error issues
  | .error issues, .error more => .error (issues ++ more)

/-- The rule between the options: collection needs a root. -/
def checkRoot (options : Options) : Checked Options :=
  if options.readonly && options.pathToSource.isNone then
    .error [⟨[], .value "\"pathToSource\" must be set when \"readonly\" is enabled"⟩]
  else .ok options

/-- The options that some entries stand for. Entries with other names are ignored. -/
def Options.check (entries : ConfigEntries) : Checked Options := do
  let defaults : Options := {}
  let flag (names : List String) (default : Bool) : Checked Bool :=
    checkOption entries names default (single ConfigValue.toBool)
  let build : Checked (Bool → Bool → Bool → String → Option Path → Bool → List String → Options) :=
    .ok Options.mk
  let built := andAlso build (flag ["readonly"] defaults.readonly)
  let built := andAlso built
    (flag ["introspectComments", "introspect_comments"] defaults.introspectComments)
  let built := andAlso built
    (flag ["classValidatorShim", "class_validator_shim"] defaults.classValidatorShim)
  let built := andAlso built
    (checkOption entries ["dtoKeyOfComment", "dto_key_of_comment"] defaults.dtoKeyOfComment
      (single ConfigValue.toKey))
  let built := andAlso built
    (checkOption entries ["pathToSource", "path_to_source"] defaults.pathToSource
      (single ConfigValue.toPath?))
  let built := andAlso built (flag ["debug"] defaults.debug)
  let built := andAlso built
    (checkOption entries ["dtoFileNameSuffix", "dto_file_name_suffix"] defaults.dtoFileNameSuffix
      checkTexts)
  checkRoot (← built)

end ModelMetadata
