import ModelMetadata.Text.Word

/-!
Arguments of the command line. Options begin with a dash, may be shortened as long as they are not
ambiguous, and take their argument behind an equals sign or as the next one. What follows two dashes
is no option. The first argument that is none names the command, whose own options stand behind it.
-/
set_option autoImplicit false
namespace ModelMetadata

inductive OptionName where
  | help
  | version
  | config
  | debug
  | introspectComments
  | out
  | inPlace
  | sourceRoot
deriving Repr, DecidableEq, Inhabited

inductive Arity where
  | zero
  | one
  | any
deriving Repr, DecidableEq, Inhabited

def OptionName.arity : OptionName → Arity
  | .config => .any
  | .out => .one
  | .sourceRoot => .one
  | _ => .zero

inductive Command where
  | augment
  | collect
deriving Repr, DecidableEq, Inhabited

def Command.named? : String → Option Command
  | "augment" => some .augment
  | "collect" => some .collect
  | _ => none

abbrev OptionTable := List (String × OptionName)

def mainOptions : OptionTable := [("-h", .help), ("--help", .help), ("--version", .version)]

def commonOptions : OptionTable :=
  [("-h", .help), ("--help", .help), ("--config", .config), ("--debug", .debug),
   ("--introspect-comments", .introspectComments), ("--out", .out)]

def Command.options : Command → OptionTable
  | .augment => commonOptions ++ [("--in-place", .inPlace)]
  | .collect => commonOptions ++ [("--source-root", .sourceRoot)]

/-! ## Kinds of arguments -/

inductive Argument where
  | plain (text : String)
  /-- The first pair of dashes. -/
  | dashes
  /-- An option with its spelling and what stands behind its equals sign. -/
  | option (name : OptionName) (spelling : String) (value : Option String)
  | unknown (text : String)
deriving Repr, DecidableEq, Inhabited

def splitEquals? (text : String) : Option (String × String) :=
  let name := text.toList.takeWhile (· != '=')
  match text.toList.drop name.length with
  | [] => none
  | _ :: value => some (String.ofList name, String.ofList value)

def isNegativeNumber (text : String) : Bool :=
  let isDigit (c : Char) : Bool := (Text.decimalDigit? c).isSome
  match text.toList with
  | '-' :: rest =>
    let whole := rest.takeWhile isDigit
    match rest.drop whole.length with
    | [] => !whole.isEmpty
    | '.' :: fraction => !fraction.isEmpty && fraction.all isDigit
    | _ => false
  | _ => false

/-- The options that a text shortens. One dash and a letter may have more text behind them. -/
def shortened (table : OptionTable) (text : String) : List Argument :=
  if text.startsWith "--" then
    let (lead, value) := match splitEquals? text with
      | some (lead, value) => (lead, some value)
      | none => (text, none)
    (table.filter fun (spelling, _) => spelling.startsWith lead).map fun (spelling, name) =>
      .option name spelling value
  else
    let short := (text.take 2).toString
    table.filterMap fun (spelling, name) =>
      if spelling == short then some (.option name spelling (some (text.drop 2).toString))
      else if spelling.startsWith text then some (.option name spelling none)
      else none

/-- The kind of an argument before any pair of dashes; none when it is ambiguous. -/
def classify? (table : OptionTable) (text : String) : Option Argument :=
  if !text.startsWith "-" || text == "-" then some (.plain text)
  else
    match table.lookup text with
    | some name => some (.option name text none)
    | none =>
      match (splitEquals? text).bind fun (spelling, value) =>
          (table.lookup spelling).map fun name => Argument.option name spelling (some value) with
      | some found => some found
      | none =>
        match shortened table text with
        | [only] => some only
        | [] =>
          some (if isNegativeNumber text || text.contains ' ' then .plain text else .unknown text)
        | _ => none

def classifyAll? (table : OptionTable) : List String → Option (List Argument)
  | [] => some []
  | "--" :: rest => some (.dashes :: rest.map .plain)
  | text :: rest => do
    let first ← classify? table text
    return first :: (← classifyAll? table rest)

/-! ## Reading -/

structure Invocation where
  command : Command
  path : Option String := none
  config : List String := []
  debug : Bool := false
  introspectComments : Bool := false
  out : Option String := none
  inPlace : Bool := false
  sourceRoot : Option String := none
  /-- Whether something was given that nothing takes. -/
  hasExtras : Bool := false
deriving Repr, DecidableEq, Inhabited

inductive ArgumentStop where
  | help
  | version
  | misuse
deriving Repr, DecidableEq, Inhabited

def Invocation.set (invocation : Invocation) (name : OptionName) (values : List String) :
    Except ArgumentStop Invocation :=
  match name with
  | .help => .error .help
  | .version => .error .version
  | .config => .ok { invocation with config := values }
  | .debug => .ok { invocation with debug := true }
  | .introspectComments => .ok { invocation with introspectComments := true }
  | .out => .ok { invocation with out := values.head? }
  | .inPlace => .ok { invocation with inPlace := true }
  | .sourceRoot => .ok { invocation with sourceRoot := values.head? }

def spanPlain : List Argument → List String × List Argument
  | .plain text :: rest =>
    let (found, left) := spanPlain rest
    (text :: found, left)
  | rest => ([], rest)

theorem length_spanPlain (arguments : List Argument) :
    (spanPlain arguments).2.length ≤ arguments.length := by
  fun_induction spanPlain arguments with
  | case1 text rest found left h ih => simp only [h] at ih; simp only [List.length_cons]; omega
  | case2 => exact Nat.le_refl _

/-- Whether letters behind a single dash only repeat a letter that asks for help. -/
def repeatsHelp (spelling value : String) : Bool :=
  spelling == "-h" && !value.isEmpty && value.toList.all (· == 'h')

/-- An option without text behind an equals sign takes arguments of its own. -/
def takeValues? (name : OptionName) (rest : List Argument) :
    Option (List String × { left : List Argument // left.length ≤ rest.length }) :=
  match name.arity with
  | .zero => some ([], ⟨rest, Nat.le_refl _⟩)
  | .one =>
    match rest with
    | .plain text :: left => some ([text], ⟨left, Nat.le_succ _⟩)
    | _ => none
  | .any => some ((spanPlain rest).1, ⟨(spanPlain rest).2, length_spanPlain rest⟩)

/-- An option with text behind an equals sign takes that text. -/
def setWith (invocation : Invocation) (name : OptionName) (spelling value : String) :
    Except ArgumentStop Invocation :=
  if name.arity != .zero then invocation.set name [value]
  else if repeatsHelp spelling value then invocation.set name []
  else .error .misuse

/-- The path that comes next, with a pair of dashes before or behind it. -/
def nextPath? (arguments : List Argument) :
    Option (String × { left : List Argument // left.length < arguments.length }) :=
  match arguments with
  | .dashes :: .plain text :: left => some (text, ⟨left, by simp only [List.length_cons]; omega⟩)
  | .plain text :: .dashes :: left => some (text, ⟨left, by simp only [List.length_cons]; omega⟩)
  | .plain text :: left => some (text, ⟨left, by simp only [List.length_cons]; omega⟩)
  | _ => none

/-- Reads the arguments of a command. Only the first path is taken. -/
def readArguments (invocation : Invocation) (arguments : List Argument) :
    Except ArgumentStop Invocation :=
  match arguments with
  | [] => .ok invocation
  | .option name spelling (some value) :: rest => do
    readArguments (← setWith invocation name spelling value) rest
  | .option name _ none :: rest =>
    match takeValues? name rest with
    | none => .error .misuse
    | some (values, ⟨left, _⟩) =>
      match invocation.set name values with
      | .error stop => .error stop
      | .ok invocation => readArguments invocation left
  | .unknown _ :: rest => readArguments { invocation with hasExtras := true } rest
  | .plain text :: rest =>
    match invocation.path, nextPath? (.plain text :: rest) with
    | none, some (path, ⟨left, _⟩) => readArguments { invocation with path } left
    | _, _ => readArguments { invocation with hasExtras := true } rest
  | .dashes :: rest =>
    match invocation.path, nextPath? (.dashes :: rest) with
    | none, some (path, ⟨left, _⟩) => readArguments { invocation with path } left
    | _, _ => readArguments { invocation with hasExtras := true } rest
termination_by arguments.length
decreasing_by
  all_goals simp only [List.length_cons] at *
  all_goals omega

/-- Whether a command was given all it needs and nothing else. -/
def Invocation.isComplete (invocation : Invocation) : Bool :=
  invocation.path.isSome && !invocation.hasExtras
    && (invocation.command == .augment || invocation.out.isSome)

/-- Reads the arguments before a command and those of the command. -/
def readCommand (hasExtras : Bool) : List String → List Argument →
    Except ArgumentStop Invocation
  | _, .option name _ none :: _ =>
    if name == .version then .error .version else .error .help
  | _, .option _ spelling (some value) :: _ =>
    if repeatsHelp spelling value then .error .help else .error .misuse
  | _ :: texts, .unknown _ :: rest => readCommand true texts rest
  | text :: texts, .plain _ :: _ => do
    match Command.named? text with
    | none => .error .misuse
    | some command =>
      match classifyAll? command.options texts with
      | none => .error .misuse
      | some arguments =>
        let invocation ← readArguments { command, hasExtras } arguments
        if invocation.isComplete then return invocation else .error .misuse
  | _, _ => .error .misuse

def Invocation.read (texts : List String) : Except ArgumentStop Invocation :=
  match classifyAll? mainOptions texts with
  | none => .error .misuse
  | some arguments => readCommand false texts arguments

end ModelMetadata
