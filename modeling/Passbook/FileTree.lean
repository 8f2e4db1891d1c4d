import Passbook.Error
import Passbook.Event

/-! # File trees

Files and directories are found by the list of names that leads to them from the root. A path is
followed name by name, `.` and `..` included, and every name but the last has to be a directory.
Failures change nothing, except that directories made on the way to one that cannot be made stay.
-/
namespace Passbook

open Text

abbrev Place := List String

inductive Entry
  | file (content : ByteArray)
  | directory

structure FileTree where
  entries : List (Place × Entry) := []
  /-- Where relative paths start. -/
  workingPlace : Place := []

namespace FileTree

def findEntry (place : Place) : List (Place × Entry) → Option Entry
  | [] => none
  | e :: rest => if e.1 = place then some e.2 else findEntry place rest

def putEntry (place : Place) (entry : Entry) : List (Place × Entry) → List (Place × Entry)
  | [] => [(place, entry)]
  | e :: rest => if e.1 = place then (place, entry) :: rest else e :: putEntry place entry rest

/-- What is at a place; the root is a directory. -/
def lookup (t : FileTree) (place : Place) : Option Entry :=
  if place = [] then some .directory else findEntry place t.entries

def insert (t : FileTree) (place : Place) (entry : Entry) : FileTree :=
  { t with entries := putEntry place entry t.entries }

def maxName : Nat := 255

def maxPath : Nat := 4095

def isAbsolute (path : String) : Bool := path.toList.head? == some '/'

def names (path : String) : List String :=
  ((path.toList.splitOn '/').filter (!·.isEmpty)).map String.ofList

def endsInSlash (path : String) : Bool := path.toList.getLast? == some '/'

def start (t : FileTree) (absolute : Bool) : Place := if absolute then [] else t.workingPlace

def walk (t : FileTree) (place : Place) : List String → Except FileFault Place
  | [] => .ok place
  | name :: rest =>
    match t.lookup place with
    | none => .error .missing
    | some (.file _) => .error .notDirectory
    | some .directory =>
      if name = "." then t.walk place rest
      else if name = ".." then t.walk place.dropLast rest
      else if maxName < name.utf8ByteSize then .error .nameTooLong
      else
        match t.lookup (place ++ [name]) with
        | none => .error .missing
        | some _ => t.walk (place ++ [name]) rest

def walkToDirectory (t : FileTree) (place : Place) (ns : List String) : Except FileFault Place :=
  match t.walk place ns with
  | .error e => .error e
  | .ok d =>
    match t.lookup d with
    | some .directory => .ok d
    | some (.file _) => .error .notDirectory
    | none => .error .missing

def checkPath (path : String) : Except FileFault Unit :=
  if path.toList.contains (Char.ofNat 0) then .error .nulInName
  else if path.isEmpty then .error .missing
  else if maxPath < path.utf8ByteSize then .error .nameTooLong
  else .ok ()

def contentAt (t : FileTree) (place : Place) (directoryOnly : Bool) : Except FileFault ByteArray :=
  match t.lookup place with
  | none => .error .missing
  | some .directory => .error .isDirectory
  | some (.file content) => if directoryOnly then .error .notDirectory else .ok content

def read (t : FileTree) (path : String) : Except FileFault ByteArray :=
  match checkPath path with
  | .error e => .error e
  | .ok () =>
    match t.walk (t.start (isAbsolute path)) (names path) with
    | .error e => .error e
    | .ok place => t.contentAt place (endsInSlash path)

def readText (t : FileTree) (path : String) : Except FileFault String :=
  match t.read path with
  | .error e => .error e
  | .ok content =>
    match String.fromUTF8? content with
    | some s => .ok s
    | none => .error .notUtf8

def write (t : FileTree) (path : String) (content : ByteArray) : Except FileFault FileTree :=
  match checkPath path with
  | .error e => .error e
  | .ok () =>
    match (names path).getLast? with
    | none => .error .isDirectory
    | some last =>
      match t.walkToDirectory (t.start (isAbsolute path)) (names path).dropLast with
      | .error e => .error e
      | .ok d =>
        if endsInSlash path || last = "." || last = ".." then .error .isDirectory
        else if maxName < last.utf8ByteSize then .error .nameTooLong
        else
          match t.lookup (d ++ [last]) with
          | some .directory => .error .isDirectory
          | _ => .ok (t.insert (d ++ [last]) (.file content))

def pathOf (absolute : Bool) (ns : List String) : String :=
  (if absolute then "/" else "") ++ join "/" ns

def makeDirectory (t : FileTree) (absolute : Bool) (ns : List String) : Except FileFault FileTree :=
  match checkPath (pathOf absolute ns) with
  | .error e => .error e
  | .ok () =>
    match ns.getLast? with
    | none => .error .exists
    | some last =>
      match t.walkToDirectory (t.start absolute) ns.dropLast with
      | .error e => .error e
      | .ok d =>
        if last = "." || last = ".." then .error .exists
        else if maxName < last.utf8ByteSize then .error .nameTooLong
        else
          match t.lookup (d ++ [last]) with
          | some _ => .error .exists
          | none => .ok (t.insert (d ++ [last]) .directory)

def isDirectory (t : FileTree) (absolute : Bool) (ns : List String) : Bool :=
  match checkPath (pathOf absolute ns), t.walkToDirectory (t.start absolute) ns with
  | .ok (), .ok _ => true
  | _, _ => false

/-- A failure to make a directory that is there already does not count. -/
def orExisting (t : FileTree) (absolute : Bool) (ns : List String) (e : FileFault) :
    FileTree × Except FileFault Unit :=
  if t.isDirectory absolute ns then (t, .ok ()) else (t, .error e)

/-- Makes a directory, and first its missing parents. The names are given last one first. -/
def makeAll (t : FileTree) (absolute : Bool) : List String → FileTree × Except FileFault Unit
  | [] => (t, .ok ())
  | last :: before =>
    let ns := (last :: before).reverse
    match t.makeDirectory absolute ns with
    | .ok made => (made, .ok ())
    | .error .missing =>
      match t.makeAll absolute before with
      | (t, .error e) => (t, .error e)
      | (t, .ok ()) =>
        match t.makeDirectory absolute ns with
        | .ok made => (made, .ok ())
        | .error e => t.orExisting absolute ns e
    | .error e => t.orExisting absolute ns e

/-- The names of the directory that a path lies in, last one first; none if the path has no
names. A `.` counts only at the start of a relative path. -/
def parentNames (path : String) : Option (List String) :=
  let ns := names path
  let kept :=
    if isAbsolute path then ns.filter (· != ".")
    else ns.take 1 ++ (ns.drop 1).filter (· != ".")
  match kept.reverse with
  | [] => none
  | _ :: before => some before

/-- A name below a base path; an absolute name replaces the base. -/
def joinPath (base name : String) : String :=
  if isAbsolute name then name
  else if base.isEmpty || endsInSlash base then base ++ name
  else base ++ "/" ++ name

structure Stored where
  tree : FileTree
  result : Except FileFault String
  events : List Event := []

def wrote (bytes : Nat) (path : String) : Event :=
  ⟨.debug, "Wrote " ++ digitsText bytes ++ " bytes to " ++ path⟩

def storeAt (t : FileTree) (path : String) (content : ByteArray) : Stored :=
  match t.makeAll (isAbsolute path) ((parentNames path).getD []) with
  | (t, .error e) => ⟨t, .error e, []⟩
  | (t, .ok ()) =>
    match t.write path content with
    | .error e => ⟨t, .error e, []⟩
    | .ok written => ⟨written, .ok path, [wrote content.size path]⟩

def store (t : FileTree) (base name : String) (content : ByteArray) : Stored :=
  t.storeAt (joinPath base name) content

def fetch (t : FileTree) (base name : String) : Except FileFault ByteArray :=
  t.read (joinPath base name)

end FileTree

end Passbook
