/-!
Tables: maps from names that remember the order in which names were first entered. Entering a name
again replaces its value and keeps its place.
-/
set_option autoImplicit false
namespace ModelMetadata

structure Table (α : Type) where
  entries : List (String × α) := []
deriving Repr, Inhabited

namespace Table

variable {α : Type}

def empty : Table α := ⟨[]⟩

def insertInto (name : String) (value : α) : List (String × α) → List (String × α)
  | [] => [(name, value)]
  | (found, old) :: rest =>
    if found = name then (name, value) :: rest
    else (found, old) :: insertInto name value rest

def insert (table : Table α) (name : String) (value : α) : Table α :=
  ⟨insertInto name value table.entries⟩

def lookup (name : String) : List (String × α) → Option α
  | [] => none
  | (found, value) :: rest => if found = name then some value else lookup name rest

def get? (table : Table α) (name : String) : Option α := lookup name table.entries

def contains (table : Table α) (name : String) : Bool := (table.get? name).isSome

/-- Enters a name that is new; a name already present keeps its value. -/
def insertNew (table : Table α) (name : String) (value : α) : Table α :=
  if table.contains name then table else table.insert name value

def names (table : Table α) : List String := table.entries.map Prod.fst

def values (table : Table α) : List α := table.entries.map Prod.snd

def size (table : Table α) : Nat := table.entries.length

theorem lookup_insertInto (name other : String) (value : α) (entries : List (String × α)) :
    lookup other (insertInto name value entries)
      = if name = other then some value else lookup other entries := by
  induction entries with
  | nil => simp [insertInto, lookup]
  | cons entry rest ih =>
    obtain ⟨found, old⟩ := entry
    by_cases h : found = name
    · subst h
      by_cases h' : found = other <;> simp [insertInto, lookup, h']
    · by_cases h' : found = other
      · subst h'
        simp [insertInto, lookup, h, Ne.symm h]
      · simp [insertInto, lookup, h, h', ih]

@[simp] theorem get?_insert (table : Table α) (name other : String) (value : α) :
    (table.insert name value).get? other = if name = other then some value else table.get? other :=
  lookup_insertInto name other value table.entries

end Table
end ModelMetadata
