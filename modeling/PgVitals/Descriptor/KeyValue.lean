import PgVitals.Fault
import PgVitals.Text.Blank

/-!
# Descriptors of key=value pairs

The text is a list of pairs, with blanks allowed around the equals sign. A value is a run of
characters that are not blank, or stands between single quotes; inside quotes a backslash takes the
next character as it is. What follows the closing quote may be the next pair at once. Values are
kept as they were written, so that pointing a descriptor at another database leaves the other pairs
as they are.
-/

namespace PgVitals

structure Pair where
  key : String
  /-- The value as written, quotes included. -/
  raw : String
deriving DecidableEq, Repr

def Pair.text (p : Pair) : String := p.key ++ "=" ++ p.raw

structure KeyValue where
  pairs : List Pair
deriving DecidableEq, Repr

/-! ## Values -/

namespace Value

/-- Whether a value must stand between quotes. -/
def needsQuotes (cs : List Char) : Bool :=
  cs.isEmpty || cs.any fun c => Text.isBlank c || c == '\'' || c == '\\'

/-- A character inside quotes. -/
def escapeChar (c : Char) : List Char := if c = '\'' ∨ c = '\\' then ['\\', c] else [c]

def quoteChars (cs : List Char) : List Char :=
  if needsQuotes cs then '\'' :: cs.flatMap escapeChar ++ ['\''] else cs

/-- The written form of a value: between quotes when it must be, else as it is. -/
def quote (s : String) : String := String.ofList (quoteChars s.toList)

/-- The characters with every backslash removed that takes the next character as it is. -/
def unescape : List Char → List Char
  | [] => []
  | ['\\'] => []
  | '\\' :: c :: rest => c :: unescape rest
  | c :: rest => c :: unescape rest

/-- What stands between a quote at the front and a quote at the end. -/
def inner? : List Char → Option (List Char)
  | '\'' :: rest => if rest.getLast? = some '\'' then some rest.dropLast else none
  | _ => none

/-- The value that a written form stands for. -/
def unquote (s : String) : String :=
  match inner? s.toList with
  | some inner => String.ofList (unescape inner)
  | none => s

end Value

/-! ## Reading -/

namespace KeyValue

/-- Whether the character may stand in a key. -/
def isKeyChar (c : Char) : Bool := c != '=' && !Text.isBlank c

/-- Reads up to and with the closing quote of a value. -/
def readQuoted? : List Char → Option (List Char × List Char)
  | [] => none
  | ['\\'] => none
  | '\'' :: rest => some (['\''], rest)
  | '\\' :: c :: rest => (readQuoted? rest).map fun (raw, after) => ('\\' :: c :: raw, after)
  | c :: rest => (readQuoted? rest).map fun (raw, after) => (c :: raw, after)

/-- Reads a value off the front of the text, unless its quote is never closed. -/
def readValue? : List Char → Option (List Char × List Char)
  | '\'' :: rest => (readQuoted? rest).map fun (raw, after) => ('\'' :: raw, after)
  | cs => some (cs.takeWhile (!Text.isBlank ·), cs.dropWhile (!Text.isBlank ·))

/-- Reads a pair off the front of a text that does not start with a blank. -/
def readPair (cs : List Char) : Except Fault (Pair × List Char) :=
  let key := cs.takeWhile isKeyChar
  match key, Text.trimStart (cs.dropWhile isKeyChar) with
  | _ :: _, '=' :: rest =>
    -- Blanks behind the equals sign are skipped: in `a= b` the value of `a` is `b`.
    match readValue? (Text.trimStart rest) with
    | some (raw, after) => .ok (⟨String.ofList key, String.ofList raw⟩, after)
    | none =>
      .error (.invalidDescriptor
        ("unterminated quoted value for key " ++ Text.quoted (String.ofList key)))
  | _, _ =>
    .error (.invalidDescriptor ("expected key=value pair near " ++ Text.quoted (String.ofList key)))

theorem readQuoted?_length {cs raw after : List Char} (h : readQuoted? cs = some (raw, after)) :
    after.length < cs.length := by
  fun_induction readQuoted? cs generalizing raw after with
  | case1 => simp at h
  | case2 => simp at h
  | case3 rest => simp_all
  | case4 c rest ih =>
    simp only [Option.map_eq_some_iff, Prod.mk.injEq, Prod.exists] at h
    obtain ⟨a, b, hab, -, rfl⟩ := h
    have := ih hab
    simp only [List.length_cons]
    omega
  | case5 c rest _ _ _ ih =>
    simp only [Option.map_eq_some_iff, Prod.mk.injEq, Prod.exists] at h
    obtain ⟨a, b, hab, -, rfl⟩ := h
    have := ih hab
    simp only [List.length_cons]
    omega

theorem readValue?_length {cs raw after : List Char} (h : readValue? cs = some (raw, after)) :
    after.length ≤ cs.length := by
  unfold readValue? at h
  split at h
  · simp only [Option.map_eq_some_iff, Prod.mk.injEq, Prod.exists] at h
    obtain ⟨a, b, hab, -, rfl⟩ := h
    have := readQuoted?_length hab
    simp only [List.length_cons]
    omega
  · simp only [Option.some.injEq, Prod.mk.injEq] at h
    exact h.2 ▸ (List.dropWhile_suffix _).length_le

theorem readPair_length {cs after : List Char} {pair : Pair}
    (h : readPair cs = .ok (pair, after)) : after.length < cs.length := by
  dsimp only [readPair] at h
  split at h
  · rename_i rest _ heq
    split at h
    · rename_i raw after' hvalue
      simp only [Except.ok.injEq, Prod.mk.injEq] at h
      obtain ⟨-, rfl⟩ := h
      have h1 := readValue?_length hvalue
      have h2 := (List.dropWhile_suffix (l := rest) Text.isBlank).length_le
      have h3 := (List.dropWhile_suffix (l := cs.dropWhile isKeyChar) Text.isBlank).length_le
      have h4 := (List.dropWhile_suffix (l := cs) isKeyChar).length_le
      simp only [Text.trimStart] at heq h1
      simp only [heq, List.length_cons] at h3
      omega
    · simp at h
  · simp at h

theorem readPair_trimStart_length {cs after : List Char} {pair : Pair}
    (h : readPair (Text.trimStart cs) = .ok (pair, after)) : after.length < cs.length :=
  Nat.lt_of_lt_of_le (readPair_length h) (List.dropWhile_suffix Text.isBlank).length_le

def readPairs (cs : List Char) : Except Fault (List Pair) :=
  if (Text.trimStart cs).isEmpty then .ok []
  else
    match h : readPair (Text.trimStart cs) with
    | .error fault => .error fault
    | .ok (pair, after) =>
      have := readPair_trimStart_length h
      (readPairs after).map (pair :: ·)
termination_by cs.length

def read (cs : List Char) : Except Fault KeyValue := (readPairs cs).map KeyValue.mk

/-! ## Writing and changing -/

def databaseKey : String := "dbname"

def passwordKey : String := "password"

/-- What stands in place of a password. -/
def mask : String := "****"

/-- The pair with its value hidden if it is a password. -/
def redactPair (p : Pair) : Pair := if p.key = passwordKey then ⟨p.key, mask⟩ else p

/-- The text of the descriptor: its pairs with one space between them. -/
def text (d : KeyValue) : String := String.intercalate " " (d.pairs.map Pair.text)

def redacted (d : KeyValue) : String :=
  String.intercalate " " (d.pairs.map fun p => (redactPair p).text)

/-- The database named last, if one is named. -/
def database? (d : KeyValue) : Option String :=
  (d.pairs.reverse.find? fun p => p.key = databaseKey).map fun p => Value.unquote p.raw

/-- Puts a pair at the place of the first pair that names a database and leaves the later ones out;
at the end if there is none. -/
def retargetPairs (target : Pair) : List Pair → List Pair
  | [] => [target]
  | p :: rest =>
    if p.key = databaseKey then target :: rest.filter fun q => q.key ≠ databaseKey
    else p :: retargetPairs target rest

def retarget (d : KeyValue) (database : String) : KeyValue :=
  ⟨retargetPairs ⟨databaseKey, Value.quote database⟩ d.pairs⟩

end KeyValue

end PgVitals
