import LiveShader.Session.Frame
import LiveShader.Program.Build
import Mathlib.Data.List.Forall2

/-!
# Devices that answer alike

Two devices match when their states, stages, programs and places of uniforms can
be paired so that every call, made on paired things, gives paired answers and
leaves paired states.  A build, a lookup of uniforms and a frame are made of such
calls only.  They therefore give paired results as well: nothing that a session
does depends on what a device is made of.
-/

namespace LiveShader.Device

/-- Paired answers of a call that may fail: paired results or the same error. -/
inductive Answers {error : Type} {first second δ ε : Type} (result : first → second → Prop)
    (device : δ → ε → Prop) : Except error first × δ → Except error second × ε → Prop where
  | ok {a : first} {b : second} {d : δ} {e : ε} :
      result a b → device d e → Answers result device (.ok a, d) (.ok b, e)
  | error {cause : error} {d : δ} {e : ε} :
      device d e → Answers result device (.error cause, d) (.error cause, e)

/-- A pairing of two kinds of devices under which every call answers alike. -/
structure Matching (δ ε : Type) [Device δ] [Device ε] where
  device : δ → ε → Prop
  stage : StageObject δ → StageObject ε → Prop
  program : Program δ → Program ε → Prop
  slot : Slot δ → Slot ε → Prop
  compile : ∀ {d e}, device d e → ∀ kind source,
    Answers stage device (Device.compile d kind source) (Device.compile e kind source)
  releaseStage : ∀ {d e s t}, device d e → stage s t →
    device (Device.releaseStage d s) (Device.releaseStage e t)
  link : ∀ {d e v w f g}, device d e → stage v w → stage f g →
    Answers program device (Device.link d v f) (Device.link e w g)
  releaseProgram : ∀ {d e p q}, device d e → program p q →
    device (Device.releaseProgram d p) (Device.releaseProgram e q)
  lookup : ∀ {d e p q}, device d e → program p q → ∀ name,
    Option.Rel slot (Device.slot? d p name) (Device.slot? e q name)
  viewport : ∀ {d e}, device d e → Device.viewport d = Device.viewport e
  beginFrame : ∀ {d e}, device d e →
    Answers Eq device (Device.beginFrame d) (Device.beginFrame e)
  bindProgram : ∀ {d e p q}, device d e → program p q →
    device (Device.bindProgram d p) (Device.bindProgram e q)
  setUniform : ∀ {d e s t}, device d e → slot s t → ∀ value,
    device (Device.setUniform d s value) (Device.setUniform e t value)
  draw : ∀ {d e}, device d e → device (Device.draw d) (Device.draw e)
  capture : ∀ {d e}, device d e → Answers Eq device (Device.capture d) (Device.capture e)
  endFrame : ∀ {d e}, device d e → device (Device.endFrame d) (Device.endFrame e)

namespace Matching

variable {δ ε : Type} [Device δ] [Device ε] (pairing : Matching δ ε)

/-! ## Builds -/

theorem compileStage {d : δ} {e : ε} (paired : pairing.device d e) (kind : Stage)
    (source : String) :
    Answers pairing.stage pairing.device (Program.compileStage d kind source)
      (Program.compileStage e kind source) := by
  have answers := pairing.compile paired kind source
  simp only [Program.compileStage]
  generalize Device.compile d kind source = left at answers ⊢
  generalize Device.compile e kind source = right at answers ⊢
  cases answers with
  | ok stages devices => exact .ok stages devices
  | error devices => exact .error devices

theorem build {d : δ} {e : ε} (paired : pairing.device d e) (source : String) :
    Answers pairing.program pairing.device (Program.build d source)
      (Program.build e source) := by
  have answers := pairing.compileStage paired .vertex Program.vertexSource
  simp only [Program.build]
  generalize Program.compileStage d .vertex Program.vertexSource = left at answers ⊢
  generalize Program.compileStage e .vertex Program.vertexSource = right at answers ⊢
  cases answers with
  | error devices => exact .error devices
  | ok vertex devices =>
      rename_i v w d e
      have answers := pairing.compileStage devices .fragment source
      dsimp only
      generalize Program.compileStage d .fragment source = left at answers ⊢
      generalize Program.compileStage e .fragment source = right at answers ⊢
      cases answers with
      | error devices => exact .error (pairing.releaseStage devices vertex)
      | ok fragment devices =>
          rename_i f g d e
          have answers := pairing.link devices vertex fragment
          dsimp only
          generalize Device.link d v f = left at answers ⊢
          generalize Device.link e w g = right at answers ⊢
          cases answers with
          | error devices =>
              exact .error (pairing.releaseStage (pairing.releaseStage devices vertex) fragment)
          | ok programs devices =>
              exact .ok programs
                (pairing.releaseStage (pairing.releaseStage devices vertex) fragment)

/-! ## Uniforms -/

/-- Paired uniforms: the same name and shape, and paired places. -/
structure Binding (left : Program.Binding (Slot δ)) (right : Program.Binding (Slot ε)) : Prop where
  name : left.name = right.name
  kind : left.kind = right.kind
  place : Option.Rel pairing.slot left.place right.place

/-- Paired uniforms of two programs. -/
structure Bindings (left : Program.Bindings (Slot δ)) (right : Program.Bindings (Slot ε)) :
    Prop where
  resolution : pairing.Binding left.resolution right.resolution
  time : pairing.Binding left.time right.time
  mouse : pairing.Binding left.mouse right.mouse
  controls : List.Forall₂ pairing.Binding left.controls right.controls

theorem bind {d : δ} {e : ε} (paired : pairing.device d e) {p : Device.Program δ}
    {q : Device.Program ε} (programs : pairing.program p q) (name : String)
    (kind : Program.UniformKind) :
    pairing.Binding (Program.Bindings.bind d p name kind) (Program.Bindings.bind e q name kind) :=
  ⟨rfl, rfl, pairing.lookup paired programs name⟩

theorem resolve {d : δ} {e : ε} (paired : pairing.device d e) {p : Device.Program δ}
    {q : Device.Program ε} (programs : pairing.program p q) (builtins : Program.BuiltinNames)
    (controls : List Control.Spec) :
    pairing.Bindings (Program.Bindings.resolve d p builtins controls)
      (Program.Bindings.resolve e q builtins controls) where
  resolution := pairing.bind paired programs _ _
  time := pairing.bind paired programs _ _
  mouse := pairing.bind paired programs _ _
  controls := by
    simp only [Program.Bindings.resolve]
    induction controls with
    | nil => exact .nil
    | cons spec rest ih => exact .cons (pairing.bind paired programs _ _) ih

theorem write {d : δ} {e : ε} (paired : pairing.device d e)
    {left : Program.Binding (Slot δ)} {right : Program.Binding (Slot ε)}
    (bindings : pairing.Binding left right) (value : Uniform.Value) :
    pairing.device (Program.Bindings.write d left value)
      (Program.Bindings.write e right value) := by
  have places := bindings.place
  simp only [Program.Bindings.write]
  generalize left.place = place at places ⊢
  generalize right.place = place' at places ⊢
  cases places with
  | some slots => exact pairing.setUniform paired slots value
  | none => exact paired

theorem writeControl {d : δ} {e : ε} (paired : pairing.device d e)
    {left : Program.Binding (Slot δ)} {right : Program.Binding (Slot ε)}
    (bindings : pairing.Binding left right) (values : Control.Values) :
    pairing.device (Program.Bindings.writeControl values d left)
      (Program.Bindings.writeControl values e right) := by
  simp only [Program.Bindings.writeControl]
  rw [bindings.name]
  split
  · exact pairing.write paired bindings _
  · exact paired

theorem writeControls {d : δ} {e : ε} (paired : pairing.device d e)
    {left : List (Program.Binding (Slot δ))} {right : List (Program.Binding (Slot ε))}
    (bindings : List.Forall₂ pairing.Binding left right) (values : Control.Values) :
    pairing.device (left.foldl (Program.Bindings.writeControl values) d)
      (right.foldl (Program.Bindings.writeControl values) e) := by
  induction bindings generalizing d e with
  | nil => exact paired
  | cons binding rest ih => exact ih (pairing.writeControl paired binding values)

theorem upload {d : δ} {e : ε} (paired : pairing.device d e)
    {left : Program.Bindings (Slot δ)} {right : Program.Bindings (Slot ε)}
    (bindings : pairing.Bindings left right) (frame : Program.FrameUniforms)
    (values : Control.Values) :
    pairing.device (left.upload d frame values) (right.upload e frame values) := by
  rw [Program.Bindings.upload]
  apply pairing.writeControls _ bindings.controls
  apply pairing.write _ bindings.mouse
  apply pairing.write _ bindings.time
  exact pairing.write paired bindings.resolution _

end Matching

end LiveShader.Device
