import PgVitals.CommandLine.Flag
import PgVitals.Text.Cut

/-!
# Reading the command line

An argument is the name of a flag behind two hyphens, letters of flags behind one, or a value. A
value may be attached to its flag (`--name=value`, `-i5`, `-i=5`) or be the next argument. An
attached value is taken into account at once, a separate one when the next flag or the end is
reached; an argument that belongs to no flag is refused before that. Two hyphens alone end the
flags, and nothing may follow them.
-/

namespace PgVitals.CommandLine

/-- What has been read so far. -/
structure Reading where
  options : Options
  /-- The flags taken into account. -/
  seen : List Flag
  /-- A flag still to be taken into account, with its value if that was read. -/
  pending : Option (Flag × Option String)
  ended : Bool

def Reading.start : Reading := ⟨{}, [], none, false⟩

/-- Takes a flag into account. -/
def settle (r : Reading) (flag : Flag) (value : Option String) : Except Refusal Reading :=
  if flag.takesValue && value.isNone then .error .invalidValue
  else if r.seen.contains flag && !flag.isRepeatable then .error .argumentConflict
  else
    (flag.apply (value.getD "") r.options).map fun options =>
      { r with options := options, seen := flag :: r.seen }

/-- Takes the pending flag into account. -/
def resolve (r : Reading) : Except Refusal Reading :=
  match r.pending with
  | none => .ok r
  | some (flag, value) => settle { r with pending := none } flag value

/-- A flag with a value attached, or without one. -/
def flagRead (r : Reading) (flag : Flag) (attached : Option String) : Except Refusal Reading :=
  -- The flag before is taken into account first, whatever this one turns out to be.
  match resolve r with
  | .error refusal => .error refusal
  | .ok r =>
    if flag.takesValue && attached.isNone then .ok { r with pending := some (flag, none) }
    else settle r flag attached

/-- A flag named by its long name. -/
def longRead (r : Reading) (text : List Char) : Except Refusal Reading :=
  let (name, attached) := match Text.cutAt? '=' text with
    | some (name, value) => (name, some (String.ofList value))
    | none => (text, none)
  match Flag.ofName? name with
  | none => .error .unknownArgument
  | some flag =>
    if !flag.takesValue && attached.isSome then .error .tooManyValues
    else flagRead r flag attached

/-- The value behind a letter: the rest of the argument, without an equals sign in front. -/
def attachedTo : List Char → Option String
  | [] => none
  | '=' :: value => some (String.ofList value)
  | value => some (String.ofList value)

def lettersRead (r : Reading) : List Char → Except Refusal Reading
  | [] => .ok r
  | letter :: rest =>
    match Flag.ofLetter? letter with
    | none => .error .unknownArgument
    | some flag =>
      if flag.takesValue then flagRead r flag (attachedTo rest)
      else
        match flagRead r flag none with
        | .error refusal => .error refusal
        | .ok r => lettersRead r rest

/-- Whether the characters after a hyphen look like a number: digits, at most one point, not in
front and not behind the exponent, and at most one exponent mark, neither in front nor at the
end. -/
def looksNumeric (seenPoint seenMark first : Bool) : List Char → Bool
  | [] => true
  | c :: rest =>
    if (Decimal.digit? c).isSome then looksNumeric seenPoint seenMark false rest
    else if c = '.' && !seenPoint && !seenMark && !first then
      looksNumeric true seenMark false rest
    else if (c = 'e' || c = 'E') && !seenMark && !first && !rest.isEmpty then
      looksNumeric seenPoint true false rest
    else false

/-- A value, for the flag that awaits one. -/
def valueRead (r : Reading) (value : String) : Except Refusal Reading :=
  match r.pending with
  | some (flag, none) => .ok { r with pending := some (flag, some value) }
  | _ => .error .unknownArgument

/-- Whether a flag awaits its value and takes a negative number for one. -/
def awaitsNegative (r : Reading) : Bool :=
  match r.pending with
  | some (flag, none) => flag.allowsNegative
  | _ => false

def argumentRead (r : Reading) (argument : String) : Except Refusal Reading :=
  if r.ended then .error .unknownArgument
  else
    match argument.toList with
    | ['-', '-'] => .ok { r with ended := true }
    | '-' :: '-' :: name => longRead r name
    | '-' :: c :: rest =>
      -- A hyphen in front of a number is a sign only where a number is awaited.
      if awaitsNegative r && looksNumeric false false true (c :: rest) then valueRead r argument
      else lettersRead r (c :: rest)
    | _ => valueRead r argument

def argumentsRead : Reading → List String → Except Refusal Reading
  | r, [] => resolve r
  | r, argument :: rest =>
    match argumentRead r argument with
    | .error refusal => .error refusal
    | .ok r => argumentsRead r rest

/-- The options that the arguments give. -/
def read (arguments : List String) : Except Refusal Options :=
  (argumentsRead .start arguments).map Reading.options

end PgVitals.CommandLine
