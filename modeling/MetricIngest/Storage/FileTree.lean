/-
  A tree of directories and text files, as data.

  A path is looked up part by part from the root, or from the working directory
  if it does not begin with a slash. A part that is too long, a part below a file
  and a part below nothing each have their own failure. A slash at the end of a
  path asks for a directory.
-/
import MetricIngest.Storage.IoError
import MetricIngest.Text.Split
import MetricIngest.Text.Utf8

namespace MetricIngest

/-- Directories and files by the names on the way to them from the root. -/
structure FileTree where
  working : List String
  directories : List (List String)
  files : List (List String × List Char)
deriving Repr, DecidableEq, Inhabited

namespace FileTree

/-- What a path leads to: a directory that is named by dots or not at all, or a
name in a directory, with or without a slash behind it. -/
inductive Place where
  | dots
  | named (full : List String) (slash : Bool)
deriving Repr, DecidableEq

/-- The number of bytes that a single name may have. -/
def maxName : Nat := 255

/-- The number of bytes that a path may have. -/
def maxPath : Nat := 4095

/-- Whether there is a directory. -/
def isDirectory (t : FileTree) (full : List String) : Bool :=
  full = [] || t.directories.contains full

/-- The text of a file. -/
def file? (t : FileTree) (full : List String) : Option (List Char) :=
  (t.files.find? fun f => f.1 = full).map (·.2)

/-- Go into a directory. -/
def enter (t : FileTree) (full : List String) : Except IoError Unit :=
  if t.isDirectory full then .ok ()
  else if (t.file? full).isSome then .error .notDirectory
  else .error .notFound

/-- Walk along the parts of a path from a directory. -/
def walk (t : FileTree) (here : List String) : List String → Except IoError Place
  | [] => .ok .dots
  | "" :: parts => walk t here parts
  | "." :: parts => walk t here parts
  | ".." :: parts => walk t here.dropLast parts
  | part :: parts =>
    if maxName < part.utf8ByteSize then .error .nameTooLong
    else if parts.all (· = "") then .ok (.named (here ++ [part]) (parts ≠ []))
    else
      match t.enter (here ++ [part]) with
      | .error e => .error e
      | .ok () => walk t (here ++ [part]) parts

/-- What a path leads to. -/
def locate (t : FileTree) (path : String) : Except IoError Place :=
  if path.toList.contains '\x00' then .error .invalidName
  else if path = "" then .error .notFound
  else if maxPath < path.utf8ByteSize then .error .nameTooLong
  else
    let start := if path.toList.head? = some '/' then [] else t.working
    t.walk start (Text.split '/' path)

/-- Whether something is at a path. -/
def exists? (t : FileTree) (path : String) : Except IoError Bool :=
  match t.locate path with
  | .error .notFound => .ok false
  | .error e => .error e
  | .ok .dots => .ok true
  | .ok (.named full slash) =>
    if t.isDirectory full then .ok true
    else if (t.file? full).isSome then
      if slash then .error .notDirectory else .ok true
    else .ok false

/-- The text of the file at a path. -/
def read (t : FileTree) (path : String) : Except IoError (List Char) :=
  match t.locate path with
  | .error e => .error e
  | .ok .dots => .error .isDirectory
  | .ok (.named full slash) =>
    if t.isDirectory full then .error .isDirectory
    else
      match t.file? full with
      | none => .error .notFound
      | some text => if slash then .error .notDirectory else .ok text

/-- The bytes of the file at a path. -/
def readBytes (t : FileTree) (path : String) : Except IoError (List UInt8) :=
  (t.read path).map fun text => Text.Utf8.encode (String.ofList text)

/-- The tree with a text for a file. -/
def put (t : FileTree) (full : List String) (text : List Char) : FileTree :=
  { t with files := (full, text) :: t.files.filter fun f => f.1 ≠ full }

/-- Open a file for writing at its end, making it if it is not there. -/
def openAtEnd (t : FileTree) (path : String) : Except IoError (List String × FileTree) :=
  match t.locate path with
  | .error e => .error e
  | .ok .dots => .error .isDirectory
  | .ok (.named full slash) =>
    if slash || t.isDirectory full then .error .isDirectory
    else
      match t.file? full with
      | some _ => .ok (full, t)
      | none => .ok (full, t.put full [])

/-- Make a file with a text unless something is there already. -/
def createNew (t : FileTree) (path : String) (text : List Char) : Except IoError FileTree :=
  match t.locate path with
  | .error e => .error e
  | .ok .dots => .ok t
  | .ok (.named full slash) =>
    if slash then .error .isDirectory
    else if t.isDirectory full || (t.file? full).isSome then .ok t
    else .ok (t.put full text)

/-- Add text at the end of a file. -/
def append (t : FileTree) (full : List String) (text : List Char) : FileTree :=
  t.put full (((t.file? full).getD []) ++ text)

/-- Give a file another text, making it if it is not there. -/
def overwrite (t : FileTree) (path : String) (text : List Char) : Except IoError FileTree :=
  (t.openAtEnd path).map fun (full, t) => t.put full text

end FileTree

end MetricIngest
