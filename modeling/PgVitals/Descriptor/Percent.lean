import PgVitals.Text.Utf8

/-!
# Percent encoding

A URI writes a byte that may not stand for itself as a percent sign and two hexadecimal digits.
Encoding keeps the characters that a path segment allows; decoding replaces every triplet and
copies what is no triplet. Texts are encoded and decoded through their UTF-8 bytes.
-/

namespace PgVitals.Percent

/-- The byte of the percent sign. -/
def sign : Nat := 0x25

/-- The punctuation that a segment may hold as it is. -/
def keptPunctuation : List Nat := "-._~!$&'()*+,;=:@".toList.map Char.toNat

def isAlphanumeric (b : Nat) : Bool :=
  0x30 ≤ b && b ≤ 0x39 || 0x41 ≤ b && b ≤ 0x5A || 0x61 ≤ b && b ≤ 0x7A

/-- Whether a byte stands for itself in a segment. -/
def isKept (b : Nat) : Bool := isAlphanumeric b || keptPunctuation.contains b

/-- The upper-case hexadecimal digit of a number below sixteen. -/
def hexDigit (n : Nat) : Char := if n < 10 then Char.ofNat (0x30 + n) else Char.ofNat (0x37 + n)

def encodeByte (b : Nat) : List Char :=
  if isKept b then [Char.ofNat b] else ['%', hexDigit (b / 16), hexDigit (b % 16)]

def encode (s : String) : String :=
  String.ofList ((Text.Utf8.bytesOf s.toList).flatMap encodeByte)

/-- The value of a byte that is a hexadecimal digit, in either case. -/
def hexValue? (b : Nat) : Option Nat :=
  if 0x30 ≤ b && b ≤ 0x39 then some (b - 0x30)
  else if 0x41 ≤ b && b ≤ 0x46 then some (b - 0x37)
  else if 0x61 ≤ b && b ≤ 0x66 then some (b - 0x57)
  else none

/-- The byte that two hexadecimal digits write. -/
def digitPair? (high low : Nat) : Option Nat :=
  match hexValue? high, hexValue? low with
  | some h, some l => some (16 * h + l)
  | _, _ => none

/-- The byte that two bytes after a percent sign write: a hexadecimal number of two digits, or of
one digit behind a plus sign. -/
def triplet? (high low : Nat) : Option Nat :=
  -- A parser of numbers reads the two bytes, and it allows a plus sign in front.
  if high = 0x2B then hexValue? low else digitPair? high low

/-- The bytes with every triplet replaced by the byte it writes, read from left to right. -/
def decodeBytesBy (triplet? : Nat → Nat → Option Nat) : List Nat → List Nat
  | b :: high :: low :: rest =>
    if b = sign then
      match triplet? high low with
      | some byte => byte :: decodeBytesBy triplet? rest
      | none => b :: decodeBytesBy triplet? (high :: low :: rest)
    else b :: decodeBytesBy triplet? (high :: low :: rest)
  | bytes => bytes

def decodeBytes (bytes : List Nat) : List Nat := decodeBytesBy triplet? bytes

/-- The text that a segment stands for; bytes that form no character are replaced. -/
def decode (s : String) : String :=
  String.ofList (Text.Utf8.decode (decodeBytes (Text.Utf8.bytesOf s.toList)))

end PgVitals.Percent
