/-! A tree of files, as a snapshot. A path is followed name by name from the directory that the tree
hangs in; what lies outside of it is not known, but for the directories above. -/
namespace ScriptSession

/-- Why something cannot be done to a file. -/
inductive FileError where
  | notFound
  | notDirectory
  | isDirectory
  | nameTooLong
  | nulInName
  | other (message : String)
  deriving DecidableEq, Repr

def FileError.message : FileError → String
  | notFound => "No such file or directory (os error 2)"
  | notDirectory => "Not a directory (os error 20)"
  | isDirectory => "Is a directory (os error 21)"
  | nameTooLong => "File name too long (os error 36)"
  | nulInName => "file name contained an unexpected NUL byte"
  | other message => message

/-- The names on the way to a file or a directory. -/
abbrev FilePath := List String

structure Files where
  entries : List (FilePath × List UInt8) := []
  /-- Directories that were made; others are there because something is in them. -/
  directories : List FilePath := []
  deriving DecidableEq

/-- Where a path leads. -/
inductive Place where
  /-- A directory; none is one outside of the tree. -/
  | directory (path : Option FilePath)
  | file (path : FilePath) (content : List UInt8)
  /-- Nothing, but the directory that it would be in is there. -/
  | free (path : Option FilePath)

namespace Files

/-- The names of a path that are not dots or empty. -/
def names (path : String) : FilePath := (path.splitOn "/").filter fun n => n ≠ "" ∧ n ≠ "."

def ofList (entries : List (String × List UInt8)) : Files where
  entries := entries.map fun (path, content) => (names path, content)

def content? (f : Files) (path : FilePath) : Option (List UInt8) := List.lookup path f.entries

def isDirectory (f : Files) (path : FilePath) : Bool :=
  path = [] || f.directories.contains path ||
    f.entries.any fun (file, _) => path.length < file.length && path.isPrefixOf file

/-- The longest name that a file system takes, in bytes. -/
def maxName : Nat := 255

/-- Follows the pieces of a path from a directory on. -/
def walk (f : Files) (here : Option FilePath) : List String → Except FileError Place
  | [] => .ok (.directory here)
  | piece :: rest =>
    if piece = "" ∨ piece = "." then f.walk here rest
    else if piece = ".." then
      match here with
      | some (name :: names) => f.walk (some (name :: names).dropLast) rest
      | some [] | none => f.walk none rest
    else if maxName < piece.utf8ByteSize then .error .nameTooLong
    else
      match here with
      | none => if rest = [] then .ok (.free none) else .error .notFound
      | some names =>
        let path := names ++ [piece]
        match f.content? path with
        | some content => if rest = [] then .ok (.file path content) else .error .notDirectory
        | none =>
          if f.isDirectory path then f.walk (some path) rest
          else if rest = [] then .ok (.free (some path))
          else .error .notFound

def find (f : Files) (path : String) : Except FileError Place :=
  if path.contains '\x00' then .error .nulInName
  else if path = "" then .error .notFound
  else if 4096 ≤ path.utf8ByteSize then .error .nameTooLong
  else f.walk (if path.startsWith "/" then none else some []) (path.splitOn "/")

def read (f : Files) (path : String) : Except FileError (List UInt8) :=
  match f.find path with
  | .ok (.file _ content) => .ok content
  | .ok (.directory _) => .error .isDirectory
  | .ok (.free _) => .error .notFound
  | .error e => .error e

/-- Whether a path leads to something. -/
def isThere (f : Files) (path : String) : Bool :=
  match f.find path with
  | .ok (.file ..) | .ok (.directory _) => true
  | .ok (.free _) | .error _ => false

def put (f : Files) (path : FilePath) (content : List UInt8) : Files :=
  { f with entries := f.entries.filter (·.1 ≠ path) ++ [(path, content)] }

/-- Changes a file, or makes it from nothing. A path that ends in a slash means no file. -/
def change (f : Files) (path : String) (edit : List UInt8 → List UInt8) : Except FileError Files :=
  let isSlash (c : Char) : Bool := c = '/'
  let stem := String.ofList (path.toList.reverse.dropWhile isSlash).reverse
  match f.find (if stem = "" then path else stem) with
  | .error e => .error e
  | .ok place =>
    if path ≠ stem then .error .isDirectory
    else
      match place with
      | .directory _ => .error .isDirectory
      | .file path content => .ok (f.put path (edit content))
      | .free (some path) => .ok (f.put path (edit []))
      | .free none => .ok f

/-- Makes the directories of a path, as far as no file stands in the way. -/
def makeDirectories (f : Files) (here : Option FilePath) : List String → Files
  | [] => f
  | piece :: rest =>
    if piece = ".." then
      match here with
      | some (name :: names) => f.makeDirectories (some (name :: names).dropLast) rest
      | some [] | none => f.makeDirectories none rest
    else
      match here with
      | none => f
      | some names =>
        let path := names ++ [piece]
        if (f.content? path).isSome || maxName < piece.utf8ByteSize then f
        else if f.isDirectory path then f.makeDirectories (some path) rest
        else
          { f with directories := f.directories ++ [path] }.makeDirectories (some path) rest

/-- Makes the directory that a path's last name stands in. -/
def makeParent (f : Files) (path : String) : Files :=
  f.makeDirectories (if path.startsWith "/" then none else some []) (names path).dropLast

end Files

end ScriptSession
