/-!
# Paths as texts

A path is a text of names separated by slashes.  Empty names and names `.` do not
count, except a leading `.`; a leading slash marks an absolute path.  These
functions look at the text alone and never at files.
-/

namespace LiveShader.Files

/-- A path, absolute or relative. -/
abbrev Path := String

namespace Path

/-- The mark at the front: a slash, or a `.` that stands alone or before a slash. -/
def lead : List Char → List Char
  | '/' :: _ => ['/']
  | ['.'] => ['.']
  | '.' :: '/' :: _ => ['.']
  | _ => []

/-- Drops names that do not count from the end of a reversed text. -/
def dropIdle : List Char → List Char
  | '/' :: rest => dropIdle rest
  | ['.'] => []
  | '.' :: '/' :: rest => dropIdle rest
  | text => text

/-- The parts of a path: its mark, the text before the last name, and that name. -/
structure Parts where
  mark : List Char
  /-- The text between the mark and the last name, with the slash that ends it. -/
  before : List Char
  name : List Char

/-- Cuts a path before its last name; nothing when no name is left. -/
def parts? (path : Path) : Option Parts :=
  let text := path.toList
  let mark := lead text
  let body := dropIdle (text.drop mark.length).reverse
  if body.isEmpty then none
  else
    some {
      mark := mark
      before := (body.dropWhile (· != '/')).reverse
      name := (body.takeWhile (· != '/')).reverse }

/-- The last name of a path, unless that is `..`. -/
def fileName? (path : Path) : Option String :=
  match parts? path with
  | none => none
  | some parts =>
      if parts.name = ['.', '.'] then none else some (String.ofList parts.name)

/-- The path without its last name. -/
def parent? (path : Path) : Option Path :=
  match parts? path with
  | some parts => some (String.ofList (parts.mark ++ (dropIdle parts.before.reverse).reverse))
  | none => if lead path.toList = ['.'] then some "" else none

/-- A name cut before its last dot; a dot in front does not count. -/
def splitName (name : List Char) : List Char × Option (List Char) :=
  let reversed := name.reverse
  let extension := (reversed.takeWhile (· != '.')).reverse
  let stem := ((reversed.dropWhile (· != '.')).drop 1).reverse
  if reversed.contains '.' && !stem.isEmpty then (stem, some extension) else (name, none)

/-- What follows the last dot of a file name. -/
def extensionOf? (name : String) : Option String :=
  (splitName name.toList).2.map String.ofList

/-- What follows the last dot of a path's last name. -/
def extension? (path : Path) : Option String :=
  (fileName? path).bind extensionOf?

/-- The path with an extension in place of the one of its last name, if it has a last name. -/
def putExtension (path : Path) (extension : String) : Path :=
  match fileName? path, parts? path with
  | some name, some parts =>
      String.ofList (parts.mark ++ parts.before ++ (splitName name.toList).1) ++ "." ++ extension
  | _, _ => path

/--
The path with another extension.  The characters of the old one leave the end of the
path first; when `..` is all that is left of the name, nothing takes their place.
-/
def withExtension (path : Path) (extension : String) : Path :=
  let old := ((extension? path).getD "").length
  putExtension (String.ofList (path.toList.take (path.length - old))) extension

/-- Whether a path begins at the root. -/
def isAbsolute (path : Path) : Bool := path.toList.head? == some '/'

/-- A path seen from a directory; an absolute path stays as it is. -/
def join (directory path : Path) : Path :=
  if isAbsolute path || directory.isEmpty then path
  else if directory.toList.getLast? = some '/' then directory ++ path
  else directory ++ "/" ++ path

end Path

end LiveShader.Files
