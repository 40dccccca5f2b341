import StyleAudit.Failure
import StyleAudit.Source.Language

/-!
# Disks

A disk is a tree of directories and files with a working directory.  Operations return the disk
they leave behind or the error of the system.  A failed operation changes nothing; only where it is
made of several, as `createDirs` is, those before the failure stay done.  There are no links, so a
path is resolved segment by segment: `.` stays, `..` goes up, and every segment but the last must be
a directory.
-/

namespace StyleAudit

/-- A file or a directory. -/
inductive Node where
  /-- A file and its bytes. -/
  | file (bytes : List UInt8)
  /-- A directory, whether everyone may write into it, and its entries. -/
  | dir (shared : Bool) (entries : List (String × Node))

/-- An error of the file system. -/
inductive DiskError where
  /-- The path, or a directory on the way, does not exist. -/
  | missing
  /-- Something on the way is no directory. -/
  | notDirectory
  /-- The path is a directory. -/
  | isDirectory
  /-- The path exists already. -/
  | present
  /-- The path may not be used this way. -/
  | denied
  /-- The path, or a name on it, is too long. -/
  | nameTooLong
  /-- The path has a zero byte in it. -/
  | zeroByte
  deriving DecidableEq

/-- What is wrong, in a few words. -/
def DiskError.reason : DiskError → String
  | .missing => "No such file or directory"
  | .notDirectory => "Not a directory"
  | .isDirectory => "Is a directory"
  | .present => "File exists"
  | .denied => "Permission denied"
  | .nameTooLong => "File name too long"
  | .zeroByte => "file name contained an unexpected NUL byte"

/-- The number of an error, if the system has one for it. -/
def DiskError.number? : DiskError → Option Nat
  | .missing => some 2
  | .notDirectory => some 20
  | .isDirectory => some 21
  | .present => some 17
  | .denied => some 13
  | .nameTooLong => some 36
  | .zeroByte => none

/-- The message of an error. -/
def DiskError.message (e : DiskError) : String :=
  e.reason ++ match e.number? with
    | some n => " (os error " ++ toString n ++ ")"
    | none => ""

/-- The failure of an operation at a path. -/
def DiskError.during (e : DiskError) (operation : String) (path : Path) : Failure :=
  .atPath operation path (e == .missing) e.message

namespace Node

/-- The entry of a directory under a name. -/
def child? (node : Node) (name : String) : Option Node :=
  match node with
  | .file _ => none
  | .dir _ entries => entries.lookup name

/-- A directory. -/
def isDir : Node → Bool
  | .file _ => false
  | .dir _ _ => true

/-- Puts a node under a name into entries, in place of what was there. -/
def putEntry (name : String) (child : Node) : List (String × Node) → List (String × Node)
  | [] => [(name, child)]
  | e :: rest => if e.1 == name then (name, child) :: rest else e :: putEntry name child rest

/-- Puts a node under a name, in place of what was there. -/
def put (parent : Node) (name : String) (child : Node) : Node :=
  match parent with
  | .file bytes => .file bytes
  | .dir shared entries => .dir shared (putEntry name child entries)

/-- The node at a location, a list of names. -/
def get? (node : Node) : List String → Option Node
  | [] => some node
  | name :: names => (node.child? name).bind (·.get? names)

/-- Replaces the node at a location; nothing happens if the way there does not exist. -/
def set (node : Node) (location : List String) (new : Node) : Node :=
  match location with
  | [] => new
  | [name] => node.put name new
  | name :: names =>
    match node.child? name with
    | some c => node.put name (c.set names new)
    | none => node

/-- Takes the entry at a location away; nothing happens if there is none. -/
def erase (node : Node) : List String → Node
  | [] => node
  | [name] =>
    match node with
    | .file bytes => .file bytes
    | .dir shared entries => .dir shared (entries.filter (·.1 != name))
  | name :: names =>
    match node.child? name with
    | some c => node.put name (c.erase names)
    | none => node

end Node

/-- A tree of files, and the working directory in it. -/
structure Disk where
  /-- The root directory. -/
  root : Node := .dir false []
  /-- The location of the working directory. -/
  cwd : List String := []

namespace Disk

/-- The empty disk. -/
def empty : Disk := {}

/-- The greatest number of bytes of a name. -/
def maxName : Nat := 255

/-- The least number of bytes that is too many for a path. -/
def pathLimit : Nat := 4096

/-- The location a path leads to, and what is there.  Only the last segment may be absent. -/
def follow (d : Disk) (location : List String) :
    List (List Char) → Except DiskError (List String × Option Node)
  | [] => .ok (location, d.root.get? location)
  | seg :: segs =>
    if seg == ['.'] then d.follow location segs
    else if seg == ['.', '.'] then d.follow location.dropLast segs
    else if maxName < (String.ofList seg).utf8ByteSize then .error .nameTooLong
    else
      let there := location ++ [String.ofList seg]
      match d.root.get? there with
      | some (.dir _ _) => d.follow there segs
      | some (.file bytes) =>
        if segs.isEmpty then .ok (there, some (.file bytes)) else .error .notDirectory
      | none => if segs.isEmpty then .ok (there, none) else .error .missing

/-- Where a path starts: the root or the working directory. -/
def startOf (d : Disk) (p : Path) : List String := if p.isAbsolute then [] else d.cwd

/-- Resolves a path.  It must start at a directory; if it ends in a slash, it must not lead to a
file. -/
def resolve (d : Disk) (p : Path) : Except DiskError (List String × Option Node) :=
  let t := p.text.toList
  if t.any (·.toNat == 0) then .error .zeroByte
  else if t.isEmpty then .error .missing
  else if pathLimit ≤ p.text.utf8ByteSize then .error .nameTooLong
  else if !(d.root.get? (d.startOf p)).any Node.isDir then .error .missing
  else
    match d.follow (d.startOf p) ((Text.splitAtChar '/' t).filter (!·.isEmpty)) with
    | .ok (location, some (.file bytes)) =>
      if Text.endsIn '/' t then .error .notDirectory else .ok (location, some (.file bytes))
    | r => r

/-- What a path leads to. -/
def lookup? (d : Disk) (p : Path) : Option Node :=
  match d.resolve p with
  | .ok (_, node) => node
  | .error _ => none

/-- Something is at the path. -/
def contains (d : Disk) (p : Path) : Bool := (d.lookup? p).isSome

/-- A directory is at the path. -/
def isDir (d : Disk) (p : Path) : Bool := (d.lookup? p).any Node.isDir

/-- A file is at the path. -/
def isFile (d : Disk) (p : Path) : Bool := (d.lookup? p).any (!·.isDir)

/-- The bytes of a file. -/
def read (d : Disk) (p : Path) : Except DiskError (List UInt8) :=
  match d.resolve p with
  | .error e => .error e
  | .ok (_, none) => .error .missing
  | .ok (_, some (.dir _ _)) => .error .isDirectory
  | .ok (_, some (.file bytes)) => .ok bytes

/-- Puts a node at a location. -/
def put (d : Disk) (location : List String) (node : Node) : Disk :=
  { d with root := d.root.set location node }

/-- Creates a directory; its parent must exist. -/
def createDir (d : Disk) (p : Path) : Except DiskError Disk :=
  match d.resolve p with
  | .error e => .error e
  | .ok (_, some _) => .error .present
  | .ok (location, none) => .ok (d.put location (.dir false []))

/-- Creates a directory and those above it, at most `fuel` of them. -/
def createDirsUpTo (fuel : Nat) (d : Disk) (p : Path) : Except DiskError Unit × Disk :=
  if p.text == "" then (.ok (), d)
  else match d.createDir p with
    | .ok d' => (.ok (), d')
    | .error .missing =>
      match fuel, p.parent? with
      | fuel + 1, some above =>
        match createDirsUpTo fuel d above with
        | (.error e, d') => (.error e, d')
        | (.ok (), d') =>
          match d'.createDir p with
          | .ok d'' => (.ok (), d'')
          | .error e => (if d'.isDir p then .ok () else .error e, d')
      | _, _ => (.error .missing, d)
    | .error e => (if d.isDir p then .ok () else .error e, d)

/-- Creates a directory and those above it that do not exist.  Those that were created stay if one
below them cannot be. -/
def createDirs (d : Disk) (p : Path) : Except DiskError Unit × Disk :=
  createDirsUpTo p.components.length d p

/-- Creates an empty file, which must not exist, and returns its location. -/
def createFile (d : Disk) (p : Path) : Except DiskError (List String × Disk) :=
  match d.resolve p with
  | .error e => .error e
  | .ok (_, some _) => .error .present
  | .ok (location, none) => .ok (location, d.put location (.file []))

/-- Appends bytes to the file at a location. -/
def append (d : Disk) (location : List String) (bytes : List UInt8) : Disk :=
  match d.root.get? location with
  | some (.file old) => d.put location (.file (old ++ bytes))
  | _ => d

/-- Lets everyone write into a directory. -/
def share (d : Disk) (p : Path) : Except DiskError Disk :=
  match d.resolve p with
  | .error e => .error e
  | .ok (_, none) => .error .missing
  | .ok (_, some (.file _)) => .ok d
  | .ok (location, some (.dir _ entries)) => .ok (d.put location (.dir true entries))

/-- Removes what a path leads to, a directory with all that is in it. -/
def remove (d : Disk) (p : Path) : Disk :=
  match d.resolve p with
  | .ok (location, some _) => { d with root := d.root.erase location }
  | _ => d

/-- Writes a file, with the directories above it. -/
def write (d : Disk) (p : Path) (bytes : List UInt8) : Disk :=
  let d := match p.parent? with
    | some above => (d.createDirs above).2
    | none => d
  match d.resolve p with
  | .ok (location, none) => d.put location (.file bytes)
  | .ok (location, some (.file _)) => d.put location (.file bytes)
  | _ => d

end Disk

end StyleAudit
