import LiveShader.Text.Blank
import LiveShader.Text.Cut

/-!
# Include lines

A line that begins with `#include`, blanks before it aside, names a file by its
next word.  A word with a slash names no file, and the line is then like any other.
-/

namespace LiveShader.Fragment

/-- What is added to the name of an included file. -/
def includeExtension : String := ".glsl"

/-- The file that an include line names; nothing for any other line. -/
def includedFile? (line : List Char) : Option String :=
  match Text.after? "#include".toList (Text.trimStart line) with
  | none => none
  | some rest =>
      match Text.words rest with
      | [] => none
      | name :: _ =>
          if name.contains '/' then none
          else some (String.ofList name ++ includeExtension)

end LiveShader.Fragment
