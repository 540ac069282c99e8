import ProviderHost.SystemFault
import ProviderHost.Text.Decimal

/-!
# A tree of files

Files, directories, symbolic links, sockets and devices, and the resolution of paths to places.
A path ends at its first zero byte; a slash at its end asks for a directory. Whoever asks may
search every directory and write every file, but runs only what somebody may run.
-/

namespace ProviderHost

inductive Device where
  | null
  | zero
  | full
  | terminal
  /-- What a descriptor of the process that opens it stands for. -/
  | descriptor (fd : Nat)
  deriving DecidableEq, Repr

inductive Node where
  | file (mode : Nat) (content : Text)
  | program (name : Text)
  | directory (entries : List (Text × Node))
  | link (target : Text)
  | socket
  | device (d : Device)

abbrev Place := List Text

namespace Node

def child? (name : Text) : Node → Option Node
  | .directory entries => (entries.find? fun e => e.1 = name).map (·.2)
  | _ => none

def isDirectory : Node → Bool
  | .directory _ => true
  | _ => false

def at? : Node → Place → Option Node
  | n, [] => some n
  | n, name :: rest => (n.child? name).bind fun c => c.at? rest

/-- A directory's entries with one of them changed, put in or, for `none`, taken out. -/
def setEntry (name : Text) (node : Option Node) :
    List (Text × Node) → List (Text × Node)
  | [] => (node.map fun n => (name, n)).toList
  | (k, n) :: rest =>
    if k = name then (node.map fun n => (name, n)).toList ++ rest
    else (k, n) :: setEntry name node rest

/-- The tree with the node at a place changed. A place in no directory changes nothing. -/
def set (node : Option Node) : Place → Node → Node
  | [], old => node.getD old
  | [name], .directory entries => .directory (setEntry name node entries)
  | name :: rest, .directory entries =>
    match (entries.find? fun e => e.1 = name).map (·.2) with
    | some c => .directory (setEntry name (some (set node rest c)) entries)
    | none => .directory entries
  | _, old => old

end Node

inductive Destination where
  | present (place : Place) (node : Node)
  /-- Nothing is there, but something can be made in the directory `parent`. -/
  | absent (parent : Place) (name : Text)

/-- The tree, and the directory from which relative paths start. -/
structure Files where
  root : Node := .directory []
  workingDirectory : Place := [Text.ofString "tmp", Text.ofString "host"]

namespace Files

def node? (files : Files) (place : Place) : Option Node := files.root.at? place

def put (files : Files) (place : Place) (node : Node) : Files :=
  { files with root := files.root.set (some node) place }

def remove (files : Files) (place : Place) : Files :=
  { files with root := files.root.set none place }

/-- How many symbolic links a path may lead through. -/
def maxLinks : Nat := 40

def maxName : Nat := 255

def maxPath : Nat := 4096

/-- The path up to its first zero byte. -/
def effective (path : Text) : Text := (Text.cut 0 path).1

def origin (path : Text) (here : Place) : Place :=
  if path.head? = some Byte.slash then [] else here

/-- Follows names from a directory; `here` is its place in reverse and `node` what is there. A
link at the end of the way is followed only if `final` says so. -/
def walk (files : Files) (final : Bool) (links : Nat) (here : Place) (node : Node)
    (names : List Text) : Except SystemFault Destination :=
  match names with
  | [] => .ok (.present here.reverse node)
  | name :: rest =>
    if ¬ node.isDirectory then .error .notDirectory
    else if name = [] ∨ name = "." then walk files final links here node rest
    else if name = ".." then
      match files.node? here.tail.reverse with
      | none => .error .missing
      | some parent => walk files final links here.tail parent rest
    else if maxName < name.length then .error .nameTooLong
    else
      match node.child? name with
      | none =>
        if rest.all (· = []) then .ok (.absent here.reverse name) else .error .missing
      | some (.link target) =>
        if rest = [] ∧ ¬ final then .ok (.present (name :: here).reverse (.link target))
        else
          match links with
          | 0 => .error .tooManyLinks
          | links + 1 =>
            let start := (origin target here.reverse)
            match files.node? start with
            | none => .error .missing
            | some node =>
              walk files final links start.reverse node
                (Text.fields Byte.slash target ++ rest)
      | some next => walk files final links (name :: here) next rest
termination_by (links, names.length)

/-- Where a path leads; `final` says whether a link at its end is followed. -/
def find (files : Files) (final : Bool) (path : Text) : Except SystemFault Destination :=
  let path := effective path
  let start := origin path files.workingDirectory
  if path = [] then .error .missing
  else if maxPath ≤ path.length then .error .nameTooLong
  else
    match files.node? start with
    | none => .error .missing
    | some node =>
      files.walk final maxLinks start.reverse node (Text.fields Byte.slash path)

def resolve (files : Files) (path : Text) : Except SystemFault Destination :=
  files.find true path

def destinationNode : Destination → Except SystemFault (Place × Node)
  | .present place node => .ok (place, node)
  | .absent _ _ => .error .missing

def stat (files : Files) (path : Text) : Except SystemFault (Place × Node) :=
  files.find true path >>= destinationNode

/-- What a path names, a link at its end not being followed. -/
def statLink (files : Files) (path : Text) : Except SystemFault (Place × Node) :=
  files.find false path >>= destinationNode

def exists? (files : Files) (path : Text) : Bool := (files.stat path).isOk

/-- Whether any of the three permissions to execute is set. -/
def executableMode (mode : Nat) : Bool := mode &&& 0o111 ≠ 0

/-- Whether a path names a regular file that may be executed. -/
def isExecutable (files : Files) (path : Text) : Bool :=
  match files.stat path with
  | .ok (_, .file mode _) => executableMode mode
  | .ok (_, .program _) => true
  | _ => false

/-- The content of what a path names, if it can be opened for reading. A directory opens, but
nothing can be read from it. -/
def content? (files : Files) (path : Text) : Option Text :=
  match files.stat path with
  | .ok (_, .file _ content) => some content
  | .ok (_, .program _) | .ok (_, .directory _) | .ok (_, .device .null) => some []
  | _ => none

def makeDirectory (files : Files) (path : Text) : Except SystemFault Files :=
  match files.find false path with
  | .ok (.present _ _) => .error .exists
  | .ok (.absent parent name) => .ok (files.put (parent ++ [name]) (.directory []))
  | .error cause => .error cause

/-- The path of the directory that a path is in; empty for a bare name. -/
def parentPath (path : Text) : Text :=
  match Text.cutLast? Byte.slash path with
  | none => []
  | some (front, _) =>
    match Text.dropEnd (· == Byte.slash) front with
    | [] => "/"
    | directory => directory

def lastName (path : Text) : Text :=
  match Text.cutLast? Byte.slash path with
  | none => path
  | some (_, name) => name

/-- How many missing directories are made at once at most. -/
def maxMissing : Nat := 1000

/-- Which directories are missing on the way to a path that leads nowhere, the topmost first. A
path that ends in dots stands for the one before it. -/
def missingDirectories (files : Files) (fuel : Nat) (found : List Text) (path : Text) :
    Option (List Text) :=
  match fuel with
  | 0 => none
  | fuel + 1 =>
    let name := lastName path
    let dots := name = "." ∨ name = ".."
    let found := if dots then found else path :: found
    let parent := parentPath path
    if maxMissing < found.length then none
    else if parent = [] then some found
    else
      match files.stat parent with
      | .ok (_, .directory _) => some found
      | .ok _ => none
      | .error .missing | .error .notDirectory => missingDirectories files fuel found parent
      | .error _ => none

def ensureDirectory (files : Files) (path : Text) : Option Files :=
  match files.makeDirectory path, files.stat path with
  | .ok files, _ => some files
  | .error .exists, .ok (_, .directory _) => some files
  | .error _, _ => none

/-- Makes the directory of a path and those that lead to it, as far as they are missing. -/
def makeDirectories (files : Files) (path : Text) : Option Files :=
  match files.stat path with
  | .ok (_, .directory _) => some files
  | .ok _ => none
  | .error .missing | .error .notDirectory =>
    let path := if path.getLast? = some Byte.slash then parentPath path else path
    (missingDirectories files (path.length + 1) [] path).bind fun missing =>
      missing.foldlM ensureDirectory files
  | .error _ => none

/-- Puts a node where a path leads, with the directories on the way. A path through something
that is no directory changes nothing but those. -/
def place (files : Files) (path : Text) (node : Node) : Files :=
  let parent := parentPath path
  let files := if parent = [] then files else (files.makeDirectories parent).getD files
  match files.find false path with
  | .ok (.absent parent name) => files.put (parent ++ [name]) node
  | .ok (.present place _) => files.put place node
  | .error _ => files

/-- Writes a file anew. A device takes what is written. -/
def write (files : Files) (path content : Text) : Option Files :=
  match files.resolve path with
  | .ok (.present place (.file mode _)) => some (files.put place (.file mode content))
  | .ok (.present _ (.device _)) => some files
  | .ok (.absent parent name) =>
    if (effective path).getLast? = some Byte.slash then none
    else some (files.put (parent ++ [name]) (.file 0o644 content))
  | _ => none

/-- Moves a file to the place of another path, where no directory may be. -/
def rename (files : Files) (source target : Text) : Option Files :=
  match files.find false source, files.find false target with
  | .ok (.present from_ node), .ok (.present to_ old) =>
    if old.isDirectory then none else some ((files.remove from_).put to_ node)
  | .ok (.present from_ node), .ok (.absent parent name) =>
    some ((files.remove from_).put (parent ++ [name]) node)
  | _, _ => none

def standard : Files :=
  let directory (name : String) (entries : List (Text × Node)) : Text × Node :=
    (Text.ofString name, .directory entries)
  let program (name : String) : Text × Node :=
    (Text.ofString name, .program (Text.ofString name))
  let device (name : String) (d : Device) : Text × Node := (Text.ofString name, .device d)
  let programs := [program "sh", program "sleep"]
  let descriptors := (List.range 10).map fun n => (Text.ofNat n, Node.device (.descriptor n))
  { root := .directory
      [ directory "bin" programs,
        directory "boot" [],
        directory "dev"
          [ device "null" .null, device "zero" .zero, device "full" .full,
            device "tty" .terminal, device "stdin" (.descriptor 0),
            device "stdout" (.descriptor 1), device "stderr" (.descriptor 2),
            directory "fd" descriptors, directory "shm" [] ],
        directory "etc" [],
        directory "home" [],
        directory "lib" [], directory "lib64" [], directory "media" [], directory "mnt" [],
        directory "opt" [], directory "proc" [], directory "root" [], directory "run" [],
        directory "sbin" [], directory "srv" [], directory "sys" [],
        directory "tmp" [directory "host" []],
        directory "usr"
          [ directory "bin" programs, directory "lib" [],
            directory "local" [directory "bin" [], directory "lib" []],
            directory "sbin" [], directory "share" [] ],
        directory "var" [directory "tmp" []] ] }

end Files

end ProviderHost
