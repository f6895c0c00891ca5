/-!
Log records and what they are shown on. All but the notes of a debugged run carry a sign of their level in
front and are read as markup.
-/
set_option autoImplicit false
namespace ModelMetadata

inductive LogLevel where
  | debug
  | info
  | success
  | warning
  | error
deriving Repr, DecidableEq, Inhabited

structure LogRecord where
  level : LogLevel
  message : String
deriving Repr, DecidableEq, Inhabited

namespace LogRecord

def debug (text : String) : LogRecord := ⟨.debug, text⟩

def info (text : String) : LogRecord := ⟨.info, "ℹ️  " ++ text⟩

def success (text : String) : LogRecord := ⟨.success, "✅ " ++ text⟩

def warning (text : String) : LogRecord := ⟨.warning, "⚠️  " ++ text⟩

def error (text : String) : LogRecord := ⟨.error, "❌ " ++ text⟩

end LogRecord

/-- What messages are shown on. It may refuse one that it cannot read as markup. A message stands here for
all that is shown with it, also for the words of the parser that are left out of it. -/
structure Console where
  /-- What is said against a text, none when it can be shown. -/
  refusal? : String → Option String := fun _ => none
deriving Inhabited

/-- A console that can show every text. -/
def Console.ShowsAll (console : Console) : Prop := ∀ text, console.refusal? text = none

end ModelMetadata
