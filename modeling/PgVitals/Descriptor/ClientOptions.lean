import PgVitals.Descriptor.Address
import PgVitals.Descriptor.Percent
import PgVitals.Text.Blank

/-!
# What the client reads from a descriptor

The client that opens real connections reads descriptors by a grammar of its own. It knows a fixed
set of options and rejects all others, as well as values that an option cannot have. What matters
for opening a connection is which hosts and ports are named.
-/

namespace PgVitals

/-- What the client reads from a descriptor. -/
structure ClientOptions where
  /-- The names of hosts and the directories of sockets. -/
  hosts : List String := []
  addresses : List String := []
  ports : List Nat := []
deriving DecidableEq, Repr

namespace ClientOptions

/-! ## Options -/

/-- The port of a host that names none. -/
def defaultPort : Nat := 5432

def lastPort : Nat := 65535

def parts (value : String) : List String :=
  (value.toList.splitOn ',').map String.ofList

/-- Reads a port; an empty one is the default. -/
def port? (value : String) : Option Nat :=
  if value.isEmpty then some defaultPort
  else (Decimal.readNatural lastPort value.toList).toOption

/-- Whether an option whose value is a number of 64 bits can have the value. -/
def isSigned (value : String) : Bool := (Decimal.readSigned64 value.toList).toOption.isSome

/-- Options whose value is not looked at. -/
def freeKeys : List String := ["user", "password", "dbname", "options", "application_name"]

/-- Options whose value is a signed number. -/
def signedKeys : List String :=
  ["connect_timeout", "tcp_user_timeout", "keepalives_idle", "keepalives_interval"]

/-- Options whose value is one of a few words. -/
def wordKeys : List (String × List String) :=
  [("sslmode", ["disable", "prefer", "require"]),
   ("sslnegotiation", ["postgres", "direct"]),
   ("target_session_attrs", ["any", "read-write", "read-only"]),
   ("channel_binding", ["disable", "prefer", "require"]),
   ("load_balance_hosts", ["disable", "random"])]

/-- Takes an option into account, unless it is unknown or cannot have the value. -/
def set? (o : ClientOptions) (key value : String) : Option ClientOptions :=
  if freeKeys.contains key then some o
  else if key = "host" then some { o with hosts := o.hosts ++ parts value }
  else if key = "hostaddr" then
    if (parts value).all fun part => Address.isAddress part.toList then
      some { o with addresses := o.addresses ++ parts value }
    else none
  else if key = "port" then
    ((parts value).mapM port?).map fun ports => { o with ports := o.ports ++ ports }
  else if signedKeys.contains key then (if isSigned value then some o else none)
  else if key = "keepalives" then
    (Decimal.readUnsigned64 value.toList).toOption.map fun _ => o
  else if key = "keepalives_retries" then
    (Decimal.readNatural (UInt32.size - 1) value.toList).toOption.map fun _ => o
  else
    match wordKeys.lookup key with
    | some allowed => if allowed.contains value then some o else none
    | none => none

/-! ## Key=value form -/

/-- Reads a value up to a character that ends it; a backslash, which ends none, takes the next
character as it is. -/
def takeValue (ends : Char → Bool) : List Char → List Char × List Char
  | [] => ([], [])
  | ['\\'] => ([], [])
  | '\\' :: c :: rest =>
    let (value, after) := takeValue ends rest
    (c :: value, after)
  | c :: rest =>
    if ends c then ([], c :: rest)
    else
      let (value, after) := takeValue ends rest
      (c :: value, after)

/-- Reads a value off the front of the text: between quotes, or not empty. -/
def value? : List Char → Option (List Char × List Char)
  | '\'' :: rest =>
    match takeValue (· == '\'') rest with
    | (value, '\'' :: after) => some (value, after)
    | _ => none
  | cs =>
    match takeValue Text.isBlank cs with
    | ([], _) => none
    | taken => some taken

/-- Reads pairs until no key follows; `fuel` bounds how many. -/
def readPairs? (o : ClientOptions) : Nat → List Char → Option ClientOptions
  | 0, _ => some o
  | fuel + 1, cs =>
    let cs := Text.trimStart cs
    match cs.takeWhile fun c => !Text.isBlank c && c != '=' with
    | [] => some o
    | key =>
      match Text.trimStart (cs.drop key.length) with
      | '=' :: rest =>
        match value? (Text.trimStart rest) with
        | some (value, after) =>
          match o.set? (String.ofList key) (String.ofList value) with
          | some o => readPairs? o fuel after
          | none => none
        | none => none
      | _ => none

/-! ## URI form -/

/-- The bytes that a part of a URI stands for. -/
def decodedBytes (cs : List Char) : List Nat :=
  Percent.decodeBytesBy Percent.digitPair? (Text.Utf8.bytesOf cs)

/-- The text that a part of a URI stands for, if it is one. -/
def decoded? (cs : List Char) : Option String :=
  (Text.Utf8.decodeWhole? (decodedBytes cs)).map String.ofList

/-- Adds a host; a path of a socket need not be text. -/
def addHost? (o : ClientOptions) (cs : List Char) : Option ClientOptions :=
  if (decodedBytes cs).head? = some 0x2F then
    some { o with hosts := o.hosts ++ [String.ofList (Text.Utf8.decode (decodedBytes cs))] }
  else (decoded? cs).map fun host => { o with hosts := o.hosts ++ [host] }

/-- The host and the port of one part of an authority; an address of the sixth version stands
between brackets. -/
def hostAndPort? : List Char → Option (List Char × Option (List Char))
  | '[' :: rest =>
    match Text.cutAt? ']' rest with
    | some (host, []) => some (host, none)
    | some (host, ':' :: port) => some (host, some port)
    | _ => none
  | cs =>
    match Text.cutAt? ':' cs with
    | some (host, port) => some (host, some port)
    | none => some (cs, none)

/-- Adds the hosts of an authority with their ports. -/
def addHosts? (o : ClientOptions) : List (List Char) → Option ClientOptions
  | [] => some o
  | part :: rest => do
    let (host, port) ← hostAndPort? part
    let o ← o.addHost? host
    let port ← decoded? (port.getD "5432".toList)
    let o ← o.set? "port" port
    o.addHosts? rest

/-- Adds the parameters of a URI, each a key up to an equals sign and a value up to an ampersand;
`fuel` bounds how many. -/
def addParameters? (o : ClientOptions) : Nat → List Char → Option ClientOptions
  | 0, _ | _, [] => some o
  | fuel + 1, cs => do
    let (key, rest) ← Text.cutAt? '=' cs
    let (value, rest) := (Text.cutAt? '&' rest).getD (rest, [])
    let key ← decoded? key
    let o ← if key = "host" then o.addHost? value else (decoded? value).bind (o.set? key)
    o.addParameters? fuel rest

/-- Reads what follows the scheme of a URI: the user and the password up to the first at sign, the
hosts, the database and the parameters. -/
def readUri? (cs : List Char) : Option ClientOptions := do
  let cs ← match Text.cutAt? '@' cs with
    | none => some cs
    | some (credentials, rest) =>
      (decoded? ((Text.cutAt? ':' credentials).map Prod.fst |>.getD credentials)).map fun _ => rest
  let authority := cs.takeWhile fun c => c != '/' && c != '?'
  let o ← if authority.isEmpty then some {} else addHosts? {} (authority.splitOn ',')
  let rest := cs.drop authority.length
  let path := rest.takeWhile (· != '?')
  let _ ← decoded? path
  let parameters := (rest.drop path.length).drop 1
  o.addParameters? (parameters.length + 1) parameters

/-- Reads a descriptor as the client does, unless it rejects it. -/
def read? (descriptor : String) : Option ClientOptions :=
  let cs := descriptor.toList
  match (Text.dropStart? "postgres://".toList cs).or
      (Text.dropStart? "postgresql://".toList cs) with
  | some rest => readUri? rest
  | none => readPairs? {} (cs.length + 1) cs

/-- Whether a connection can be tried: there is a host, and the lists of hosts, addresses and ports
fit together. -/
def isUsable (o : ClientOptions) : Bool :=
  let count := if o.hosts.isEmpty then o.addresses.length else o.hosts.length
  count != 0 &&
    (o.hosts.isEmpty || o.addresses.isEmpty || o.hosts.length = o.addresses.length) &&
    (o.ports.length ≤ 1 || o.ports.length = count)

end ClientOptions

end PgVitals
