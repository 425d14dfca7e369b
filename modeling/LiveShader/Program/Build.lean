import LiveShader.Device.Basic
import LiveShader.Source.Annotated
import LiveShader.Text.Blank

/-!
# Building programs

A program is a fragment stage linked with one fixed vertex stage, a triangle that
covers the view.  The compiled stages are handed back to the device however the
build ends, also when it does not return: a stage that is refused is reported with its
source, and the lines of that are counted.
-/

namespace LiveShader.Program

/-- The vertex stage of every program. -/
def vertexSource : String :=
  "#version 300 es\n" ++
  "const vec2 positions[3] = vec2[3](\n" ++
  "    vec2(-1.0, -1.0),\n" ++
  "    vec2(-1.0, 3.0),\n" ++
  "    vec2(3.0, -1.0)\n" ++
  ");\n" ++
  "\n" ++
  "void main() \x7b\n" ++
  "    gl_Position = vec4(positions[gl_VertexID], 0.0, 1.0);\n" ++
  "\x7d\n"

/-- Why a build failed. -/
inductive BuildError where
  | compile (stage : Device.Stage) (log annotated : String)
  | link (log : String)
  deriving Repr, DecidableEq

namespace BuildError

/-- The wording of an error. -/
def message : BuildError → String
  | .compile stage _ _ => stage.word ++ " shader failed to compile"
  | .link _ => "program failed to link"

/-- A log without the blanks at its end. -/
def trimmedLog (log : String) : String := String.ofList (Text.trimEnd log.toList)

/-- The full report: the wording, the log and the source with its line numbers. -/
def report (error : BuildError) : String :=
  match error with
  | .compile _ log annotated =>
      error.message ++ ":\n" ++ trimmedLog log ++ "\n\n" ++ annotated
  | .link log => error.message ++ ":\n" ++ trimmedLog log

end BuildError

/-- Why there is no stage: its log goes with the source, if the lines of that can be counted. -/
def stageHalt (stage : Device.Stage) (source : String) : Halt String → Halt BuildError
  | .overflow => .overflow
  | .refused log =>
      match Source.annotate source with
      | some annotated => .refused (.compile stage log annotated)
      | none => .overflow

/-- Compiles a stage; a failure is reported with the source. -/
def compileStage {δ : Type} [Device δ] (device : δ) (stage : Device.Stage) (source : String) :
    Except (Halt BuildError) (Device.StageObject δ) × δ :=
  match Device.compile device stage source with
  | (.ok compiled, device) => (.ok compiled, device)
  | (.error halt, device) => (.error (stageHalt stage source halt), device)

/-- Builds a program from a fragment stage. -/
def build {δ : Type} [Device δ] (device : δ) (source : String) :
    Except (Halt BuildError) (Device.Program δ) × δ :=
  match compileStage device .vertex vertexSource with
  | (.error halt, device) => (.error halt, device)
  | (.ok vertex, device) =>
      match compileStage device .fragment source with
      | (.error halt, device) => (.error halt, Device.releaseStage device vertex)
      | (.ok fragment, device) =>
          let (linked, device) := Device.link device vertex fragment
          let device := Device.releaseStage device vertex
          let device := Device.releaseStage device fragment
          match linked with
          | .ok program => (.ok program, device)
          | .error log => (.error (.refused (.link log)), device)

end LiveShader.Program
