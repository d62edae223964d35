import PgVitals.Text.Cut

/-!
# Trees of files

A tree is a table from paths to files and directories; the empty path is the root, which is always a
directory. A path is written as names with slashes between them and found name by name, where every
name but the last must be one of a directory. The primitives either do what they say or leave the
tree as it is.

There are no links, neither symbolic nor hard, so a path leads to at most one node and every node is
reached by one path; and there are no permissions, owners or full disks, so nothing is refused on
their account.
-/

namespace PgVitals

/-- Why a primitive was refused. -/
inductive FileFault where
  /-- There is nothing of that name, or no directory to put it into. -/
  | notFound
  /-- A file stands where a directory should. -/
  | notADirectory
  /-- A directory stands where a file should. -/
  | isADirectory
  | alreadyExists
  /-- The path holds a null character. -/
  | invalidInput
  | invalidFilename
  /-- The path leads to a directory in use. -/
  | resourceBusy
deriving DecidableEq, Repr

def FileFault.message : FileFault → String
  | .notFound => "No such file or directory (os error 2)"
  | .notADirectory => "Not a directory (os error 20)"
  | .isADirectory => "Is a directory (os error 21)"
  | .alreadyExists => "File exists (os error 17)"
  | .invalidInput => "file name contained an unexpected NUL byte"
  | .invalidFilename => "File name too long (os error 36)"
  | .resourceBusy => "Device or resource busy (os error 16)"

inductive Node where
  | file (content : String)
  | directory
deriving DecidableEq, Repr

structure FileTree where
  /-- The nodes below the root by their paths, at most one for each. -/
  nodes : List (List String × Node) := []
deriving DecidableEq, Repr

namespace FileTree

def node? (t : FileTree) : List String → Option Node
  | [] => some .directory
  | path => t.nodes.lookup path

/-- The tree with a node at a path, in place of any that was there. -/
def put (t : FileTree) (path : List String) (node : Node) : FileTree :=
  ⟨(path, node) :: t.nodes.filter fun e => e.1 ≠ path⟩

def erase (t : FileTree) (path : List String) : FileTree :=
  ⟨t.nodes.filter fun e => e.1 ≠ path⟩

/-! ## Paths -/

/-- The greatest number of bytes in a name. -/
def longestName : Nat := 255

/-- A path as it is written. -/
structure Written where
  /-- The names, without empty ones and points. -/
  names : List String
  /-- Whether it ends in a slash. -/
  slash : Bool
  /-- Whether its last name is a point. -/
  point : Bool

def written (path : String) : Written :=
  let parts := (path.toList.splitOn '/').map String.ofList
  let named := parts.filter (!·.isEmpty)
  { names := named.filter (· ≠ ".")
    slash := parts.getLast? == some "" && !named.isEmpty
    point := named.getLast? == some "." }

/-- Follows names from a directory through directories. -/
def walk (t : FileTree) (base : List String) : List String → Except FileFault (List String)
  | [] => .ok base
  | name :: rest =>
    if name = ".." then t.walk base.dropLast rest
    else if longestName < name.utf8ByteSize then .error .invalidFilename
    else
      match t.node? (base ++ [name]) with
      | none => .error .notFound
      | some (.file _) => .error .notADirectory
      | some .directory => t.walk (base ++ [name]) rest

/-- Where a path leads. -/
inductive Place where
  /-- To a name in a directory; `slash` says whether it must be one of a directory. -/
  | entry (path : List String) (slash : Bool)
  /-- To a directory, by a point, two points or the root. -/
  | directory

def locate (t : FileTree) (path : String) : Except FileFault Place :=
  if path.toList.contains '\x00' then .error .invalidInput
  else if path.isEmpty then .error .notFound
  else
    let w := written path
    match w.names.getLast? with
    | none => .ok .directory
    | some last =>
      -- The last name is no name of an entry, so all of them must lead through directories.
      if w.point || last = ".." then (t.walk [] w.names).map fun _ => .directory
      else
        (t.walk [] w.names.dropLast).bind fun parent =>
          if longestName < last.utf8ByteSize then .error .invalidFilename
          else .ok (.entry (parent ++ [last]) w.slash)

/-! ## Primitives -/

/-- Writes a file whole, over a file of that name. -/
def write (t : FileTree) (path content : String) : Except FileFault FileTree :=
  match t.locate path with
  | .error fault => .error fault
  | .ok .directory | .ok (.entry _ true) => .error .isADirectory
  | .ok (.entry p false) =>
    match t.node? p with
    | some .directory => .error .isADirectory
    | _ => .ok (t.put p (.file content))

/-- Gives a file another name in one step, over a file of that name. -/
def move (t : FileTree) (source target : String) : Except FileFault FileTree :=
  match t.locate source, t.locate target with
  | .error fault, _ | _, .error fault => .error fault
  | .ok .directory, _ | _, .ok .directory => .error .resourceBusy
  | .ok (.entry p slash), .ok (.entry q targetSlash) =>
    match t.node? p with
    | none => .error .notFound
    | some .directory => .error .isADirectory
    | some (.file content) =>
      -- A slash at the end asks for a directory, and here a file is moved.
      if slash || targetSlash then .error .notADirectory
      else
        match t.node? q with
        | some .directory => .error .isADirectory
        | _ => .ok ((t.erase p).put q (.file content))

def remove (t : FileTree) (path : String) : Except FileFault FileTree :=
  match t.locate path with
  | .error fault => .error fault
  | .ok .directory => .error .isADirectory
  | .ok (.entry p slash) =>
    match t.node? p with
    | none => .error .notFound
    | some .directory => .error .isADirectory
    | some (.file _) => if slash then .error .notADirectory else .ok (t.erase p)

/-- Makes the directories that names lead through; those made before a fault stay. -/
def makeAlong (t : FileTree) (base : List String) :
    List String → Except FileFault Unit × FileTree
  | [] => (.ok (), t)
  | name :: rest =>
    if name = ".." then t.makeAlong base.dropLast rest
    else if longestName < name.utf8ByteSize then (.error .invalidFilename, t)
    else
      match t.node? (base ++ [name]) with
      | none => (t.put (base ++ [name]) .directory).makeAlong (base ++ [name]) rest
      | some .directory => t.makeAlong (base ++ [name]) rest
      | some (.file _) => (.error (if rest.isEmpty then .alreadyExists else .notADirectory), t)

/-- Whether names lead through directories. -/
def reaches (t : FileTree) (names : List String) : Except FileFault Unit :=
  (t.walk [] names).map fun _ => ()

/-- Makes a directory and those on the way to it. A point at the end is no name to make: what it
stands in must be there. -/
def makeDirectories (t : FileTree) (path : String) : Except FileFault Unit × FileTree :=
  if path.toList.contains '\x00' then (.error .invalidInput, t)
  else
    let w := written path
    if !w.point then t.makeAlong [] w.names
    else
      match t.reaches w.names with
      | .error .notFound =>
        let (made, t) := t.makeAlong [] w.names.dropLast
        (made.bind fun () => t.reaches w.names, t)
      | result => (result, t)

end FileTree

end PgVitals
