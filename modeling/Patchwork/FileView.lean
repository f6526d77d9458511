import Patchwork.Error

/-!
# Files

What a command sees of the file system: what reading a path gives, and what would be wrong with
writing it.

* `FileView.ofFiles` is the view of a directory with given files.
* `FilePath.normalize` is a path without what does not change where it leads.
-/

set_option autoImplicit false

namespace Patchwork

/-- What reading and writing paths would give. -/
structure FileView where
  read : String → Except FileFault String
  writeFault? : String → Option FileFault

namespace FilePath

/-- The path can be asked for: it has no character of number zero. -/
def isNameable (path : String) : Bool := !path.toList.contains '\u0000'

/-- The greatest number of bytes in a name. -/
def maxName : Nat := 255

/-- The greatest number of bytes in a path. -/
def maxPath : Nat := 4095

/-- The slashes that a path begins with, as far as they count: two stay two, more are one. -/
def root (path : String) : String :=
  match (path.toList.takeWhile (· = '/')).length with
  | 0 => ""
  | 2 => "//"
  | _ => "/"

/-- The names between the slashes of a path, without empty ones and those that stay in place. -/
def names (path : String) : List String :=
  (path.splitOn "/").filter fun name => name ≠ "" && name ≠ "."

/-- The path without what does not change where it leads; a dot for the place itself. -/
def normalize (path : String) : String :=
  let text := root path ++ "/".intercalate (names path)
  if text.isEmpty then "." else text

/-- The names on the way of a path, after a slash if it starts at the top. -/
def components (path : String) : List String :=
  (if path.startsWith "/" then ["/"] else []) ++ names path

/-- The place that a name leads to from another: two dots lead one up, and stay at the top. -/
def step (place : List String) (name : String) : List String :=
  if name ≠ ".." then place ++ [name]
  else match place.getLast? with
    | none | some ".." => place ++ [name]
    | some "/" => place
    | some _ => place.dropLast

end FilePath

namespace FileView

/-- The file at a path among files with names. -/
def file? (files : List (String × String)) (parts : List String) : Option String :=
  (files.find? fun file => FilePath.components file.1 = parts).map (·.2)

/-- The path is that of a directory above one of the files, of the top, or of the directory of the
files and those above it. -/
def isDirectory (files : List (String × String)) (parts : List String) : Bool :=
  parts = ["/"] || parts.all (· = "..")
    || files.any fun file => parts.isPrefixOf (FilePath.components file.1)

/-- The place that names lead to from another, each of which has to be passed to get to the
next. -/
def follow (files : List (String × String)) (place : List String) :
    List String → Except FileFault (List String)
  | [] => .ok place
  | name :: rest =>
    if (file? files place).isSome then .error .notDirectory
    else if !isDirectory files place then .error .missing
    else if FilePath.maxName < name.utf8ByteSize then .error .nameTooLong
    else follow files (FilePath.step place name) rest

/-- The place that a path leads to, whether or not there is something. -/
def placeOf (files : List (String × String)) (path : String) : Except FileFault (List String) :=
  if FilePath.maxPath < path.utf8ByteSize then .error .nameTooLong
  else follow files [] (FilePath.components path)

/-- The content of the file at a path. -/
def contentAt (files : List (String × String)) (path : String) : Except FileFault String := do
  let place ← placeOf files (FilePath.normalize path)
  match file? files place with
  | some text => return text
  | none => throw (if isDirectory files place then .isDirectory else .missing)

/-- A file can be written at a path. -/
def checkWritable (files : List (String × String)) (path : String) : Except FileFault Unit := do
  let place ← placeOf files path
  let asDirectory := path.endsWith "/"
  if (file? files place).isSome then
    if asDirectory then throw .notDirectory
  else if isDirectory files place || asDirectory then throw .isDirectory

/-- A directory with the given files, by name and content. -/
def ofFiles (files : List (String × String)) : FileView where
  read := contentAt files
  writeFault? path :=
    match checkWritable files path with
    | .error fault => some fault
    | .ok () => none

end FileView
end Patchwork
