import ModelMetadata.Text.Lines
import ModelMetadata.Text.NameTable

/-!
Characters by name. Syllables and unified ideographs are named by rules, in capital letters alone; all other
names are read in letters of either case. No name stands for more than one character.
-/
set_option autoImplicit false
namespace ModelMetadata.Text

def hexValue? (c : Char) : Option Nat :=
  if '0' ≤ c && c ≤ '9' then some (c.toNat - '0'.toNat)
  else if 'a' ≤ c && c ≤ 'f' then some (c.toNat - 'a'.toNat + 10)
  else if 'A' ≤ c && c ≤ 'F' then some (c.toNat - 'A'.toNat + 10)
  else none

/-! ## Names by rule -/

def behind? (lead : String) (text : List Char) : Option (List Char) :=
  if lead.toList.isPrefixOf text then some (text.drop lead.length) else none

/-- The place of the longest of some beginnings that a text has, and what follows it. -/
def longestLead? (leads : List String) (text : List Char) : Option (Nat × List Char) :=
  leads.zipIdx.foldl (fun found (lead, place) =>
    match behind? lead text with
    | some rest => if found.all fun other => rest.length < other.2.length then some (place, rest) else found
    | none => found) none

def leadingSounds : List String :=
  ["G", "GG", "N", "D", "DD", "R", "M", "B", "BB", "S", "SS", "", "J", "JJ", "C", "K", "T", "P", "H"]

def vowelSounds : List String :=
  ["A", "AE", "YA", "YAE", "EO", "E", "YEO", "YE", "O", "WA", "WAE", "OE", "YO", "U", "WEO", "WE", "WI",
    "YU", "EU", "YI", "I"]

def trailingSounds : List String :=
  ["", "G", "GG", "GS", "N", "NJ", "NH", "D", "L", "LG", "LM", "LB", "LS", "LT", "LP", "LH", "M", "B", "BS",
    "S", "SS", "NG", "J", "C", "K", "T", "P", "H"]

/-- The syllable of a leading, a vowel and a trailing sound. -/
def syllable? (sounds : List Char) : Option Nat := do
  let (leading, rest) ← longestLead? leadingSounds sounds
  let (vowel, rest) ← longestLead? vowelSounds rest
  let (trailing, rest) ← longestLead? trailingSounds rest
  if rest.isEmpty then
    some (0xac00 + (leading * vowelSounds.length + vowel) * trailingSounds.length + trailing)
  else none

def unifiedIdeographs : List (Nat × Nat) := [
  (0x3400, 0x4dbf), (0x4e00, 0x9fff), (0x20000, 0x2a6df), (0x2a700, 0x2b738), (0x2b740, 0x2b81d),
  (0x2b820, 0x2cea1), (0x2ceb0, 0x2ebe0), (0x30000, 0x3134a)]

/-- The code point that capital hexadecimal digits give, if it is in some ranges. -/
def codeIn? (ranges : List (Nat × Nat)) (digits : List Char) : Option Nat := do
  let values ← digits.mapM fun c => if c.isLower then none else hexValue? c
  let code := values.foldl (fun code value => code * 16 + value) 0
  if ranges.any fun (low, high) => low ≤ code && code ≤ high then some code else none

/-- Names of a word with a code point behind it. -/
def numberedRanges : List (String × List (Nat × Nat)) := [
  ("CJK COMPATIBILITY IDEOGRAPH-", [(0xf900, 0xfa6d), (0xfa70, 0xfad9), (0x2f800, 0x2fa1d)]),
  ("KHITAN SMALL SCRIPT CHARACTER-", [(0x18b00, 0x18cd5)]),
  ("NUSHU CHARACTER-", [(0x1b170, 0x1b2fb)])]

/-- A code point behind a word has no zeros in front. -/
def numbered? (name : List Char) : Option Nat :=
  numberedRanges.findSome? fun (lead, ranges) => do
    let digits ← behind? lead name
    if digits.head? == some '0' then none else codeIn? ranges digits

/-! ## Names of the table -/

/-- The words of an entry of a run, by those of the entry before it. -/
def entryWords (before : List (List Char)) (entry : List Char) : List (List Char) :=
  match entry with
  | c :: rest =>
    if c.isDigit then
      before.take (c.toNat - '0'.toNat) ++ if rest.isEmpty then [] else splitAt ' ' rest
    else splitAt ' ' entry
  | [] => []

/-- The code point of a name among the entries of a run. -/
def findEntry? (name before : List (List Char)) (code : Nat) : List (List Char) → Option Nat
  | [] => none
  | entry :: rest =>
    let words := entryWords before entry
    if words == name then some code else findEntry? name words (code + 1) rest

def inRun? (name : List (List Char)) (run : Nat × List String) : Option Nat :=
  findEntry? name [] run.1 (run.2.flatMap fun line => splitAt ';' line.toList)

def characterNamed? (name : List Char) : Option Nat :=
  match behind? "HANGUL SYLLABLE " name, behind? "CJK UNIFIED IDEOGRAPH-" name with
  | some sounds, _ => syllable? sounds
  | none, some digits =>
    if digits.length = 4 ∨ digits.length = 5 then codeIn? unifiedIdeographs digits else none
  | none, none =>
    let name := name.map Char.toUpper
    (numbered? name).or <| (nameRuns.findSome? (inRun? (splitAt ' ' name))).or <|
      (nameAliases.find? fun (_, other) => other.toList == name).map Prod.fst

example : characterNamed? "HANGUL SYLLABLE GGAGG".toList = some 0xae4e := by decide +kernel
example : characterNamed? "quotation mark".toList = some 0x22 := by decide +kernel

end ModelMetadata.Text
