/-!
Decoding of UTF-8. A sequence that is no character is reported with its place and the reason why it
is refused; overlong forms, surrogates and code points beyond the last one are refused at their first
byte that shows it.
-/
set_option autoImplicit false
namespace ModelMetadata.Text

inductive DecodeReason where
  | invalidStart
  | invalidContinuation
  | unexpectedEnd
deriving Repr, DecidableEq, Inhabited

/-- Why bytes are no text: the refused bytes begin at `start` and are `count` many. -/
structure DecodeFault where
  start : Nat
  count : Nat
  first : UInt8
  reason : DecodeReason
deriving Repr, DecidableEq, Inhabited

def DecodeReason.text : DecodeReason → String
  | .invalidStart => "invalid start byte"
  | .invalidContinuation => "invalid continuation byte"
  | .unexpectedEnd => "unexpected end of data"

def twoHexDigits (n : Nat) : String :=
  let digits := Nat.toDigits 16 n
  String.ofList (if digits.length < 2 then '0' :: digits else digits)

def DecodeFault.message (fault : DecodeFault) : String :=
  let place :=
    if fault.count == 1 then
      "byte 0x" ++ twoHexDigits fault.first.toNat ++ " in position " ++ toString fault.start
    else
      "bytes in position " ++ toString fault.start ++ "-"
        ++ toString (fault.start + fault.count - 1)
  "'utf-8' codec can't decode " ++ place ++ ": " ++ fault.reason.text

/-- How many bytes follow a first byte, the bits that it contributes, and the range that the second
byte must lie in. -/
def leadByte? (b : UInt8) : Option (Nat × Nat × UInt8 × UInt8) :=
  let n := b.toNat
  if n < 0x80 then some (0, n, 0, 0)
  else if n < 0xc2 then none
  else if n < 0xe0 then some (1, n - 0xc0, 0x80, 0xbf)
  else if n == 0xe0 then some (2, 0, 0xa0, 0xbf)
  else if n == 0xed then some (2, n - 0xe0, 0x80, 0x9f)
  else if n < 0xf0 then some (2, n - 0xe0, 0x80, 0xbf)
  else if n == 0xf0 then some (3, 0, 0x90, 0xbf)
  else if n < 0xf4 then some (3, n - 0xf0, 0x80, 0xbf)
  else if n == 0xf4 then some (3, 4, 0x80, 0x8f)
  else none

/-- Reads `count` more bytes of a character; the number of bytes that fit is given on failure. -/
def continuation (low high : UInt8) :
    Nat → Nat → Nat → List UInt8 → Except (Nat × DecodeReason) (Nat × List UInt8)
  | 0, _, value, bytes => .ok (value, bytes)
  | _ + 1, read, _, [] => .error (read, .unexpectedEnd)
  | count + 1, read, value, b :: rest =>
    if low ≤ b && b ≤ high then
      continuation 0x80 0xbf count (read + 1) (value * 64 + (b.toNat - 0x80)) rest
    else .error (read, .invalidContinuation)

/-- Decodes bytes that begin at a place; `fuel` is at least their number. -/
def decodeFrom : Nat → Nat → List UInt8 → Except DecodeFault (List Char)
  | 0, _, _ => .ok []
  | _ + 1, _, [] => .ok []
  | fuel + 1, start, b :: rest =>
    match leadByte? b with
    | none => .error ⟨start, 1, b, .invalidStart⟩
    | some (count, value, low, high) =>
      match continuation low high count 1 value rest with
      | .error (read, reason) => .error ⟨start, read, b, reason⟩
      | .ok (value, rest) =>
        (Char.ofNat value :: ·) <$> decodeFrom fuel (start + count + 1) rest

def decodeUtf8 (bytes : List UInt8) : Except DecodeFault String :=
  String.ofList <$> decodeFrom bytes.length 0 bytes

end ModelMetadata.Text
