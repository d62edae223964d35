/-!
# Reading bytes as text

`bytesOf` is the UTF-8 encoding of a text. `decode` reads any bytes as text: each well-formed
sequence as its character, and each longest beginning of a well-formed sequence that is broken off,
or else the single byte, as one replacement character.
-/

namespace PgVitals.Text.Utf8

/-- The bytes of a text, as numbers below 256. -/
def bytesOf (cs : List Char) : List Nat :=
  cs.flatMap fun c => (String.utf8EncodeChar c).map UInt8.toNat

/-- The character put where bytes form no character. -/
def replacement : Char := '\uFFFD'

def isContinuation (b : Nat) : Bool := 0x80 ≤ b && b ≤ 0xBF

/-- The bytes allowed in the second place after a first byte of a longer sequence; this excludes
overlong forms, surrogates and code points beyond the last. -/
def secondAllowed (first second : Nat) : Bool :=
  if first = 0xE0 then 0xA0 ≤ second && second ≤ 0xBF
  else if first = 0xED then 0x80 ≤ second && second ≤ 0x9F
  else if first = 0xF0 then 0x90 ≤ second && second ≤ 0xBF
  else if first = 0xF4 then 0x80 ≤ second && second ≤ 0x8F
  else isContinuation second

/-- Reads one character or one broken sequence off the front of the bytes, with the number of bytes
it takes after the first. -/
def decodeOne (first : Nat) (rest : List Nat) : Char × Nat :=
  if first < 0x80 then (Char.ofNat first, 0)
  -- Two bytes; 0xC0 and 0xC1 would begin overlong forms.
  else if 0xC2 ≤ first && first ≤ 0xDF then
    match rest with
    | b :: _ =>
      if isContinuation b then (Char.ofNat ((first - 0xC0) * 64 + (b - 0x80)), 1)
      else (replacement, 0)
    | [] => (replacement, 0)
  -- Three bytes: a broken sequence takes as many bytes as were still allowed.
  else if 0xE0 ≤ first && first ≤ 0xEF then
    match rest with
    | b :: more =>
      if secondAllowed first b then
        match more with
        | c :: _ =>
          if isContinuation c then
            (Char.ofNat (((first - 0xE0) * 64 + (b - 0x80)) * 64 + (c - 0x80)), 2)
          else (replacement, 1)
        | [] => (replacement, 1)
      else (replacement, 0)
    | [] => (replacement, 0)
  -- Four bytes; from 0xF5 on nothing would be a code point.
  else if 0xF0 ≤ first && first ≤ 0xF4 then
    match rest with
    | b :: more =>
      if secondAllowed first b then
        match more with
        | c :: more' =>
          if isContinuation c then
            match more' with
            | d :: _ =>
              if isContinuation d then
                (Char.ofNat ((((first - 0xF0) * 64 + (b - 0x80)) * 64 + (c - 0x80)) * 64
                  + (d - 0x80)), 3)
              else (replacement, 2)
            | [] => (replacement, 2)
          else (replacement, 1)
        | [] => (replacement, 1)
      else (replacement, 0)
    | [] => (replacement, 0)
  else (replacement, 0)

/-- The characters that the bytes stand for, broken sequences replaced. -/
def decode : List Nat → List Char
  | [] => []
  | b :: rest =>
    let (c, used) := decodeOne b rest
    c :: decode (rest.drop used)
termination_by bytes => bytes.length
decreasing_by simp only [List.length_drop, List.length_cons]; omega

/-- The characters that the bytes stand for, if no sequence is broken. -/
def decodeWhole? (bytes : List Nat) : Option (List Char) :=
  if bytesOf (decode bytes) = bytes then some (decode bytes) else none

end PgVitals.Text.Utf8
