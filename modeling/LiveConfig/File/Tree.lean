import LiveConfig.Failure
import LiveConfig.File.Path
import LiveConfig.Table
import LiveConfig.Text.Utf8

/-!
# File trees

The files and directories that are known, by their paths from the working directory or from the
root.  Of what lies above the working directory no more is known than what was put there, and that
the way up is made of directories.

A path may refuse to be read after some number of reads.  This counts for the path as it is
written, with two dots taken back, and for no other path to the same file.

The names that a tree keeps are bytes; a path without a form in bytes leads nowhere.
`FileTree.locate` follows a path name by name, as a system without links does: every name but
the last must lead to a directory, and a name or a whole path that is too long is refused.
-/

namespace LiveConfig

/-- A path in bytes. -/
structure BytePath where
  root : String
  names : List (List UInt8)
  deriving DecidableEq

namespace BytePath

/-- The name of the directory above. -/
def dots : List UInt8 := [46, 46]

/-- The number of bytes of a path, the slashes between its names included. -/
def length (path : BytePath) : Nat :=
  path.names.foldl (fun n name => n + name.length + 1) path.root.length - 1

/-- Whether a path is the working directory, one on the way up from it, or the root. -/
def isUpward (path : BytePath) : Bool :=
  path.names.all (· == dots)

/-- The path of a name in a directory, or of the directory above if the name is two dots. -/
def child (path : BytePath) (name : List UInt8) : BytePath :=
  ⟨path.root, followName dots (!path.root.isEmpty) path.names name⟩

/-- The path with two dots taken back together with the name before them, where there is one. -/
def withoutDots (path : BytePath) : BytePath :=
  path.names.foldl child ⟨path.root, []⟩

/-- The paths of the directories that a path leads through, the outermost first. -/
def way (path : BytePath) : List BytePath :=
  (List.range (path.names.length - 1)).map fun i => ⟨path.root, path.names.take (i + 1)⟩

end BytePath

namespace FilePath

/-- Why a text cannot be given to the system as a path, if that is so. -/
def unusable? (text : Text) : Option Failure :=
  match Text.Utf8.unnameable? text with
  | some surrogates => some (.unwritable surrogates)
  | none => if text.points.contains (.char '\x00') then some .nulInPath else none

/-- Why a path cannot be given to the system, if that is so. -/
def fault? (path : FilePath) : Option Failure :=
  unusable? path.text

/-- The form of a path in bytes, if there is one. -/
def bytes? (path : FilePath) : Option BytePath :=
  if path.fault?.isSome then none
  else (path.parts.mapM Text.Utf8.encodeName?).map fun names => ⟨path.root, names⟩

end FilePath

/-- A file or a directory. -/
inductive FileNode
  | directory
  | file (data : List UInt8)

/-- What is put at a path. -/
structure FileContent where
  node : FileNode
  /-- How many reads the path admits, if they are limited. -/
  reads : Option Nat

/-- The known files and directories by their paths, in which two dots come first if at all. -/
structure FileTree where
  nodes : Table BytePath FileNode
  /-- How many reads some paths still admit. -/
  limits : Table FilePath Nat

/-- What is found at a path. -/
inductive Located
  | directory
  | file (path : BytePath) (data : List UInt8)

namespace FileTree

/-- The tree of an empty working directory. -/
def empty : FileTree :=
  ⟨Table.empty, Table.empty⟩

instance : Inhabited FileTree := ⟨empty⟩

/-- The node at a path; the working directory, those above it and the root are directories. -/
def node? (t : FileTree) (path : BytePath) : Option FileNode :=
  if path.isUpward then some .directory else t.nodes.get? path

/-- The number of bytes from which on a name is too long. -/
def nameLimit : Nat := 256

/-- The number of bytes from which on a path is too long. -/
def pathLimit : Nat := 4096

/-- Whether a text is too long for a path. -/
def isLongPath (text : Text) : Bool :=
  (Text.Utf8.encodeName? text).any fun bytes => decide (pathLimit ≤ bytes.length)

/-- Follows one name from a directory. -/
def step (t : FileTree) (path : BytePath) (name : List UInt8) : Except SystemCode BytePath :=
  match t.node? path with
  | some .directory =>
    if nameLimit ≤ name.length then .error .nameTooLong
    else if (t.node? (path.child name)).isSome then .ok (path.child name)
    else .error .notFound
  | some (.file _) => .error .notDirectory
  | none => .error .notFound

/-- The path without two dots that a path leads to, if something is there. -/
def place (t : FileTree) (path : BytePath) : Except SystemCode BytePath :=
  if pathLimit ≤ path.length then .error .nameTooLong
  else path.names.foldlM t.step ⟨path.root, []⟩

/-- What is found at a path in bytes. -/
def locateBytes (t : FileTree) (path : BytePath) : Except SystemCode Located := do
  let target ← t.place path
  match t.node? target with
  | some .directory => return .directory
  | some (.file data) => return .file target data
  | none => .error .notFound

/-- What is found at a path. -/
def locate (t : FileTree) (path : FilePath) : Except SystemCode Located :=
  match path.bytes? with
  | some bytes => t.locateBytes bytes
  | none => .error .notFound

/-- Whether something is missing at a path, as opposed to any other problem. -/
def isAbsence : SystemCode → Bool
  | .notFound | .notDirectory => true
  | _ => false

/-- What is found at a path, or nothing if there is nothing; other problems are failures. -/
def find? (t : FileTree) (path : FilePath) : Except Failure (Option Located) :=
  match t.locate path with
  | .ok found => .ok (some found)
  | .error code => if isAbsence code then .ok none else .error (.system code path.text)

/-- Whether there is a file at a path. -/
def isFile (t : FileTree) (path : FilePath) : Except Failure Bool := do
  match ← t.find? path with
  | some (.file _ _) => return true
  | _ => return false

/-- Whether there is anything at a path. -/
def isPresent (t : FileTree) (path : FilePath) : Except Failure Bool :=
  (t.find? path).map Option.isSome

/-- The names of what is in a directory. -/
def namesIn (t : FileTree) (directory : BytePath) : List (List UInt8) :=
  t.nodes.keys.filterMap fun path =>
    if path.root = directory.root ∧ path.names.dropLast = directory.names then
      path.names.getLast?
    else none

/-- What reading a path leads to. -/
inductive Reading
  | data (bytes : List UInt8)
  | problem (code : SystemCode)
  /-- The path cannot be given to the system. -/
  | unusable (failure : Failure)

/-- What reading a path leads to whose reads are not limited. -/
def freeReading (t : FileTree) (path : FilePath) : Reading :=
  match path.fault?, t.locate path with
  | some failure, _ => .unusable failure
  | none, .error code => .problem code
  | none, .ok .directory => .problem .isDirectory
  | none, .ok (.file _ data) => .data data

/-- Reads the file at a path; a limited path admits one read less afterwards. -/
def read (t : FileTree) (path : FilePath) : Reading × FileTree :=
  match t.limits.get? path.withoutDots with
  | none => (t.freeReading path, t)
  | some 0 => (.problem .denied, t)
  | some (n + 1) =>
    (t.freeReading path, { t with limits := t.limits.insert path.withoutDots n })

/-! ## Changes -/

/-- Puts a node at a path without two dots. -/
def putNode (t : FileTree) (path : BytePath) (node : FileNode) : FileTree :=
  { t with nodes := t.nodes.insert path node }

/-- Puts a directory at a path, unless something is there. -/
def putDirectory (t : FileTree) (path : BytePath) : FileTree :=
  if (t.node? path.withoutDots).isSome then t else t.putNode path.withoutDots .directory

/-- Puts a node at a path, and directories on the way to it. -/
def putBytes (t : FileTree) (path : BytePath) (node : FileNode) : FileTree :=
  (path.way.foldl putDirectory t).putNode path.withoutDots node

/-- Sets how many reads a path admits, or lifts its limit. -/
def limit (t : FileTree) (path : FilePath) : Option Nat → FileTree
  | some n => { t with limits := t.limits.insert path.withoutDots n }
  | none => { t with limits := t.limits.erase path.withoutDots }

/-- Puts something at a path, unless it has no form in bytes. -/
def put (t : FileTree) (path : FilePath) (content : FileContent) : FileTree :=
  match path.bytes? with
  | some bytes => (t.putBytes bytes content.node).limit path content.reads
  | none => t

/-- Whether a path leads to a file. -/
def hasFile (t : FileTree) (path : BytePath) : Bool :=
  match t.node? path.withoutDots with
  | some (.file _) => true
  | _ => false

/-- Whether the last name of a path, or the whole path, is too long. -/
def isTooLong (path : BytePath) : Bool :=
  pathLimit ≤ path.length || path.names.getLast?.any fun name => decide (nameLimit ≤ name.length)

/-- Why the directories on the way to a path cannot be made, if that is so. -/
def obstacle? (t : FileTree) (path : BytePath) : Option SystemCode :=
  if path.way.getLast?.any t.hasFile then some .exists
  else if path.way.any t.hasFile then some .notDirectory
  else if path.way.any isTooLong then some .nameTooLong
  else none

/--
Writes something, with the directories it needs.  Only a file is written over, and only by
another one; anything else that is there stays and is a failure.
-/
def write (t : FileTree) (path : FilePath) (content : FileContent) : Except Failure FileTree :=
  match path.bytes? with
  | none => .error (path.fault?.getD .nulInPath)
  | some bytes =>
    match t.obstacle? bytes with
    | some code => .error (.system code path.parent.text)
    | none =>
      if isTooLong bytes then .error (.system .nameTooLong path.text)
      else
        match t.node? bytes.withoutDots, content.node with
        | some .directory, .file _ => .error (.system .isDirectory path.text)
        | some _, .directory => .error (.system .exists path.text)
        | _, _ => .ok (t.put path content)

/-- Deletes a file. -/
def delete (t : FileTree) (path : FilePath) : Except Failure FileTree :=
  match path.fault?, t.locate path with
  | some failure, _ => .error failure
  | none, .error code => .error (.system code path.text)
  | none, .ok .directory => .error (.system .isDirectory path.text)
  | none, .ok (.file target _) => .ok { t with nodes := t.nodes.erase target }

end FileTree

end LiveConfig
