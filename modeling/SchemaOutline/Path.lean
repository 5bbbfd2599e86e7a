import SchemaOutline.Text.Split

/-!
# Paths and files

A path is a list of names behind a root mark. Empty names and `.` mean nothing and are left out when
a path is taken from a text; `..` stays, because where it leads depends on the files. A program
looks at files through a `FileView`; `Files` is one that is known completely.
-/

set_option autoImplicit false

namespace SchemaOutline

structure Path where
  /-- The slashes of an absolute path; two of them are a root of their own. -/
  root : String
  names : List String
deriving Repr, DecidableEq

namespace Path

def rootOf : List Char → String
  | '/' :: '/' :: '/' :: _ => "/"
  | '/' :: '/' :: _ => "//"
  | '/' :: _ => "/"
  | _ => ""

def ofText (s : String) : Path where
  root := rootOf s.toList
  names :=
    ((Text.splitWhere (· == '/') s.toList).map String.ofList).filter fun name =>
      !name.isEmpty && name != "."

def text (path : Path) : String :=
  let written := path.root ++ "/".intercalate path.names
  if written.isEmpty then "." else written

def parent (path : Path) : Path := { path with names := path.names.dropLast }

def holdsZero (path : Path) : Bool := path.text.toList.contains '\x00'

def lengthLimit : Nat := 4095

def nameLengthLimit : Nat := 255

def isTooLong (path : Path) : Bool := lengthLimit < path.text.utf8ByteSize

end Path

inductive PathCause where
  | absent
  | isDirectory
  | throughFile
  | nameTooLong
deriving Repr, DecidableEq

def PathCause.text : PathCause → String
  | .absent => "[Errno 2] No such file or directory"
  | .isDirectory => "[Errno 21] Is a directory"
  | .throughFile => "[Errno 20] Not a directory"
  | .nameTooLong => "[Errno 36] File name too long"

structure FileView where
  read : Path → Except PathCause (List UInt8)

namespace FileView

def isDirectory (view : FileView) (path : Path) : Bool :=
  match view.read path with
  | .error .isDirectory => true
  | _ => false

/-- Why nothing can be written to a path: it is a directory, or it does not lie in one. -/
def obstacle? (view : FileView) (path : Path) : Option PathCause :=
  match view.read path with
  | .ok _ => none
  | .error .absent =>
    match view.read path.parent with
    | .ok _ => some .throughFile
    | .error .isDirectory => none
    | .error cause => some cause
  | .error cause => some cause

end FileView

inductive FileNode where
  | directory
  | file (bytes : List UInt8)
deriving Repr, DecidableEq

/-- The files and directories below the working directory under their names from there on. -/
structure Files where
  nodes : List (List String × FileNode)

namespace Files

/-- What stands under a list of names. A directory is also what other names lead through. -/
def node? (files : Files) (names : List String) : Option FileNode :=
  match files.nodes.lookup names with
  | some node => some node
  | none =>
    if names.isEmpty || files.nodes.any fun node => names.isPrefixOf node.1 then some .directory
    else none

abbrev Place := Option (List String)

/-- Follows names from a place. Nothing is known of what lies outside the working directory. A name
is looked at only after what it is looked for in was found. -/
def follow (files : Files) : Place → List String → Except PathCause (Place × FileNode)
  | none, [] => .ok (none, .directory)
  | none, name :: rest =>
    if name == ".." then files.follow none rest
    else if Path.nameLengthLimit < name.utf8ByteSize then .error .nameTooLong
    else .error .absent
  | some here, [] =>
    match files.node? here with
    | some node => .ok (some here, node)
    | none => .error .absent
  | some here, name :: rest =>
    match files.node? here with
    | some .directory =>
      if name != ".." then
        if Path.nameLengthLimit < name.utf8ByteSize then .error .nameTooLong
        else files.follow (some (here ++ [name])) rest
      else if here.isEmpty then files.follow none rest
      else files.follow (some here.dropLast) rest
    | some (.file _) => .error .throughFile
    | none => .error .absent

def find (files : Files) (path : Path) : Except PathCause (Place × FileNode) :=
  if path.isTooLong then .error .nameTooLong
  else files.follow (if path.root.isEmpty then some [] else none) path.names

def read (files : Files) (path : Path) : Except PathCause (List UInt8) :=
  match files.find path with
  | .ok (_, .file bytes) => .ok bytes
  | .ok (_, .directory) => .error .isDirectory
  | .error cause => .error cause

/-- The place where writing to a path puts a file: an old file, or a new name in a directory. -/
def target (files : Files) (path : Path) : Except PathCause Place :=
  match files.find path with
  | .ok (place, .file _) => .ok place
  | .ok (_, .directory) => .error .isDirectory
  | .error .absent =>
    match files.find path.parent with
    | .ok (place, .directory) => .ok (place.map (· ++ path.names.getLast?.toList))
    | .ok (_, .file _) => .error .throughFile
    | .error cause => .error cause
  | .error cause => .error cause

def write (files : Files) (path : Path) (bytes : List UInt8) : Except PathCause Files := do
  match ← files.target path with
  | some names =>
    .ok ⟨(names, .file bytes) :: files.nodes.filter fun node => node.1 != names⟩
  | none => .ok files

def view (files : Files) : FileView := ⟨files.read⟩

end Files

end SchemaOutline
