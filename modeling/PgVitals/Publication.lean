import PgVitals.FileTree

/-!
# Publishing the output of a scrape

The output goes to the standard output or replaces a file. A file is replaced through a temporary
one beside it: the temporary file is written and then moved into place, so that nobody who reads the
file sees half of the output. If the move is refused the temporary file is removed again.

How a file is replaced is a program of operations, which is run here over a tree of files and by
the daemon over those of the system.
-/

namespace PgVitals

/-- Where output can go. -/
structure Outlets where
  files : FileTree := {}
  /-- What was written to the standard output. -/
  standard : String := ""
deriving DecidableEq, Repr

namespace Publication

def temporary (path : String) : String := path ++ ".tmp"

/-! ## Operations in order -/

/-- What can be asked of a file system. -/
inductive Operation where
  | write (path content : String)
  /-- To give a file another name, over a file of that name. -/
  | move (source target : String)
  | remove (path : String)

/-- The tree after an operation, if it is not refused. -/
def Operation.perform (files : FileTree) : Operation → Except FileFault FileTree
  | write path content => files.write path content
  | move source target => files.move source target
  | remove path => files.remove path

/-- One operation after the other, each chosen by how those before ended; a refusal is told by
a `φ`. -/
inductive Program (φ : Type) where
  | done (result : Except φ Unit)
  /-- An operation, and what follows when it succeeds or is refused. -/
  | ask (operation : Operation) (next : Except φ Unit → Program φ)

/-- What a program comes to, and the tree that it leaves behind. -/
def Program.run : Program FileFault → FileTree → Except FileFault Unit × FileTree
  | done result, files => (result, files)
  | ask operation next, files =>
    match operation.perform files with
    | .ok after => (next (.ok ())).run after
    | .error fault => (next (.error fault)).run files

/-- The program that replaces a file. -/
def replacing {φ : Type} (path content : String) : Program φ :=
  .ask (.write (temporary path) content) fun
    | .error fault => .done (.error fault)
    | .ok () => .ask (.move (temporary path) path) fun
      | .ok () => .done (.ok ())
      -- Whether the temporary file could be removed is not told.
      | .error fault => .ask (.remove (temporary path)) fun _ => .done (.error fault)

def replace (files : FileTree) (path content : String) : Except FileFault Unit × FileTree :=
  (replacing path content).run files

/-! ## Outlets -/

/-- Publishes a content in a file, or on the standard output if none is named. -/
def publish (path : Option String) (content : String) (o : Outlets) :
    Except FileFault Unit × Outlets :=
  match path with
  | none => (.ok (), { o with standard := o.standard ++ content })
  | some path =>
    let (result, files) := replace o.files path content
    (result, { o with files := files })

end Publication

end PgVitals
