import LiveShader.Console.Operator
import LiveShader.Window.Runtime

/-!
# Operator and window together

The operator and the window are joined by commands and signals.  Whatever the
window reports is handled before the next line of the console.
-/

namespace LiveShader.Application

open LiveShader.Console

/-- The operator, its window and what was printed so far. -/
structure Preview where
  operator : Operator
  window : Window.Runtime Gpu.Recorder
  /-- The printed lines, the oldest first. -/
  printed : List Printed

namespace Preview

/-- What the operator finds around it. -/
def place (preview : Preview) (files : Files.Tree) : Place :=
  ⟨files, !preview.window.hasEnded⟩

/-- The window after it was handed a command, if there is one. -/
def handOver (window : Window.Runtime Gpu.Recorder) :
    Option Window.Command → Window.Runtime Gpu.Recorder
  | some command => (window.send? command).getD window
  | none => window

/-- Carries out a turn of the operator. -/
def perform (preview : Preview) (turn : Turn) : Preview × Verdict :=
  (⟨turn.operator, handOver preview.window turn.sent, preview.printed ++ turn.printed⟩,
    turn.verdict)

/-- Lets the operator handle signals until one makes it stop. -/
def handle (preview : Preview) : List Window.Signal → Preview × Verdict
  | [] => (preview, .goOn)
  | signal :: rest =>
      match preview.perform (preview.operator.onSignal signal) with
      | (preview, .goOn) => preview.handle rest
      | stopped => stopped

/--
Lets the operator handle all signals that the window has sent.  A window that has ended
sends no others, and then the operator stops.
-/
def settle (preview : Preview) : Preview × Verdict :=
  let (signals, window) := preview.window.takeSignals
  match { preview with window := window }.handle signals with
  | (preview, .goOn) => (preview, if preview.window.hasEnded then .stop else .goOn)
  | stopped => stopped

/-- Carries out a turn and handles the signals that follow from it. -/
def take (preview : Preview) (turn : Turn) : Preview × Verdict :=
  match preview.perform turn with
  | (preview, .goOn) => preview.settle
  | stopped => stopped

/-- Carries out the lines of the console until one of them ends the preview. -/
def runLines (preview : Preview) (files : Files.Tree) : List String → Preview × Verdict
  | [] => (preview, .stop)
  | line :: rest =>
      match preview.take (preview.operator.onLine (preview.place files) line) with
      | (preview, .goOn) => preview.runLines files rest
      | stopped => stopped

/-- Selects the first fragment, if there is one to select. -/
def begin (preview : Preview) (files : Files.Tree) (fragment : Option String) :
    Preview × Verdict :=
  let operator := preview.operator.refresh files
  let preview := { preview with operator := operator }
  match fragment.or operator.fragments.head? with
  | some name => preview.take (operator.select (preview.place files) name)
  | none => (preview, .goOn)

/-- Runs the preview: the first fragment, then the lines of the console. -/
def run (preview : Preview) (files : Files.Tree) (fragment : Option String)
    (lines : List String) : Preview × Verdict :=
  match preview.begin files fragment with
  | (preview, .goOn) => preview.runLines files lines
  | stopped => stopped

end Preview

end LiveShader.Application
