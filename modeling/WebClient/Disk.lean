import WebClient.Error

/-!
# Files

A tree of directories and files, given by the paths of its nodes.  The empty
path is the root, which is always a directory.
-/

namespace WebClient

/-- What stands at a path. -/
inductive Node where
  | directory
  | file (content : String)
  deriving DecidableEq, Repr

/-- What the system does where it refuses to make a directory or to write a file. -/
inductive Refusal where
  /-- It does nothing. -/
  | outright (fault : FileFault)
  /-- It opens the file but does not write all of it, and leaves this there. -/
  | midway (fault : FileFault) (left : String)
  deriving DecidableEq, Repr

/-- The fault that a refusal is reported with. -/
def Refusal.fault : Refusal → FileFault
  | .outright fault => fault
  | .midway fault _ => fault

/-- A tree of directories and files. -/
structure Disk where
  nodes : List (List String × Node)
  /-- The paths at which something is refused whatever stands there, such as for want of rights
  or of room. -/
  refusals : List (List String × Refusal)
  deriving DecidableEq, Repr, Inhabited

namespace Disk

/-- What stands at a path. -/
def node? (disk : Disk) (path : List String) : Option Node :=
  if path.isEmpty then some .directory else disk.nodes.lookup path

/-- What is refused at a path. -/
def refusal? (disk : Disk) (path : List String) : Option Refusal := disk.refusals.lookup path

/-- Put something at a path. -/
def put (path : List String) (node : Node) (disk : Disk) : Disk :=
  { disk with nodes := (path, node) :: disk.nodes.filter fun (other, _) => other != path }

/-- The most bytes of a name. -/
def maxNameBytes : Nat := 255

/-- Make the directory at a path, below one that is there, with those in between. -/
def makeBelow (there : List String) : List String → Disk → Except FileFault Unit × Disk
  | [], disk => (.ok (), disk)
  | name :: rest, disk =>
      let path := there ++ [name]
      if maxNameBytes < name.utf8ByteSize then (.error .nameTooLong, disk)
      else
        match disk.node? path with
        | some .directory => makeBelow path rest disk
        | some (.file _) =>
            (.error (if rest.isEmpty then .alreadyExists else .notDirectory), disk)
        | none =>
            match disk.refusal? path with
            | some refusal => (.error refusal.fault, disk)
            | none => makeBelow path rest (disk.put path .directory)

/-- Make the directory at a path, with those above it. -/
def makeDirectories (path : List String) (disk : Disk) : Except FileFault Unit × Disk :=
  makeBelow [] path disk

/-- Write a file into a directory. -/
def write (directory : List String) (name content : String) (disk : Disk) :
    Except FileFault Unit × Disk :=
  if maxNameBytes < name.utf8ByteSize then (.error .nameTooLong, disk)
  else
    match disk.node? directory with
    | none => (.error .notFound, disk)
    | some (.file _) => (.error .notDirectory, disk)
    | some .directory =>
        let path := directory ++ [name]
        match disk.node? path with
        | some .directory => (.error .isDirectory, disk)
        | _ =>
            match disk.refusal? path with
            | none => (.ok (), disk.put path (.file content))
            | some (.outright fault) => (.error fault, disk)
            | some (.midway fault left) => (.error fault, disk.put path (.file left))

/-- Make a directory and write a file into it. -/
def store (directory : List String) (name content : String) (disk : Disk) :
    Except FileFault Unit × Disk :=
  match disk.makeDirectories directory with
  | (.error fault, made) => (.error fault, made)
  | (.ok (), made) => made.write directory name content

/-- The files of a directory, the last one written first. -/
def filesIn (directory : List String) (disk : Disk) : List (String × String) :=
  disk.nodes.filterMap fun (path, node) =>
    match path.getLast?, node with
    | some name, .file content =>
        if path.dropLast = directory then some (name, content) else none
    | _, _ => none

end Disk

end WebClient
