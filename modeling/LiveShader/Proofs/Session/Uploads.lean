import LiveShader.Device.Scripted
import LiveShader.Proofs.Playback.Controls
import LiveShader.Proofs.Session.Calls

/-!
# What a frame uploads

The installed session goes back to one reload, which built its program, looked up the
places of its uniforms there and installed its controls.  Since then the values of the
controls have followed the changes, and nothing else.  So what a rendered frame writes last
to the place of a control is the value on which this control has settled.
-/

namespace LiveShader.Session

open LiveShader.Device LiveShader.Playback

/-! ## Where the installed session comes from -/

namespace Request

/-- The change of the inputs that a request makes. -/
def change? : Request → Option Change
  | .change made => some made
  | _ => none

/-- Whether a request is a reload. -/
def isReload : Request → Bool
  | .reload .. => true
  | _ => false

end Request

/-- The changes that were made by some requests. -/
def changes (requests : List Request) : List Change := requests.filterMap Request.change?

theorem changes_concat (requests : List Request) (request : Request) :
    changes (requests ++ [request]) = changes requests ++ request.change?.toList := by
  rw [changes, changes, List.filterMap_append]
  cases request <;> rfl

section Installed

variable {δ : Type} [Device δ]

/-- A reload that is followed by no other one, and the program that it built. -/
structure LastReload (start : Schedule δ) (requests before : List Request) (source : String)
    (controls : List Control.Spec) (since : List Request) (program : Device.Program δ)
    (built : δ) : Prop where
  split : requests = before ++ .reload source controls :: since
  last : ∀ request ∈ since, request.isReload = false
  build : Program.build ((start.serveAll before).player.teardown
    (start.serveAll before).device).2 source = (.ok program, built)

/-- What the last reload left in a player. -/
structure Installed (player : Player δ) (session : Session δ) (controls : List Control.Spec)
    (since : List Request) (built : δ) : Prop where
  present : player.session = some session
  bindings : session.bindings =
    Program.Bindings.resolve built session.program player.builtins controls
  settled : (controls.map Control.Spec.name).Nodup →
    player.inputs.controls.Settled controls (changes since)

variable {start : Schedule δ} {requests before since : List Request} {source : String}
  {controls : List Control.Spec} {built : δ} {player later : Player δ} {session : Session δ}

theorem LastReload.concat {program : Device.Program δ}
    (reload : LastReload start requests before source controls since program built)
    {request : Request} (other : request.isReload = false) :
    LastReload start (requests ++ [request]) before source controls (since ++ [request])
      program built := by
  refine ⟨by simp [reload.split], ?_, reload.build⟩
  intro request member
  rcases List.mem_append.mp member with old | new
  · exact reload.last request old
  · rw [List.mem_singleton.mp new]
    exact other

/-- The first request is the last reload if no other one is a reload. -/
theorem LastReload.of_first {program : Device.Program δ} {text : String}
    {specs : List Control.Spec} {rest : List Request}
    (reload : LastReload start (.reload text specs :: rest) before source controls since program
      built) (only : ∀ request ∈ rest, request.isReload = false) :
    before = [] ∧ source = text ∧ controls = specs ∧ since = rest := by
  have split := reload.split
  cases before with
  | nil =>
      cases split
      exact ⟨rfl, rfl, rfl, rfl⟩
  | cons first others =>
      have member : Request.reload source controls ∈ rest := by
        rw [(List.cons.inj split).2]
        simp
      cases only _ member

/-- A request that changes no inputs but what waits. -/
theorem Installed.unchanged (installed : Installed player session controls since built)
    {request : Request} (silent : request.change? = none)
    (controlled : later.inputs.controls = player.inputs.controls)
    (named : later.builtins = player.builtins) {renewed : Session δ}
    (present : later.session = some renewed) (program : renewed.program = session.program)
    (bindings : renewed.bindings = session.bindings) :
    Installed later renewed controls (since ++ [request]) built := by
  refine ⟨present, ?_, ?_⟩
  · rw [program, bindings, named]
    exact installed.bindings
  · rw [controlled, changes_concat, silent, Option.toList_none, List.append_nil]
    exact installed.settled

theorem Installed.change (installed : Installed player session controls since built)
    (change : Change) :
    Installed (player.mapInputs change.apply) session controls (since ++ [.change change])
      built := by
  refine ⟨installed.present, installed.bindings, ?_⟩
  intro distinct
  rw [changes_concat]
  exact change.settled_apply (installed.settled distinct) distinct

theorem Installed.runFrame (installed : Installed player session controls since built)
    (device : δ) (ticket : Ticket) (now : Instant) :
    ∃ renewed, Installed (player.runFrame device ticket now).player renewed controls
        (since ++ [.frame ticket now]) built ∧ renewed.program = session.program := by
  cases accepted : player.accepting? ticket with
  | none =>
      rw [Player.runFrame_of_rejecting accepted]
      exact ⟨session, installed.unchanged rfl rfl rfl installed.present rfl rfl, rfl⟩
  | some current =>
      have present := Player.session_of_accepting accepted
      cases installed.present.symm.trans present
      rw [Player.runFrame_of_accepting accepted]
      have same : (session.frame device player.inputs now).inputs.controls =
          player.inputs.controls := by
        rcases frame_inputs session device player.inputs now with ⟨_, equal⟩ | ⟨_, equal⟩
        · rw [equal]
        · rw [equal]
      have kept := frame_session session device player.inputs now
      refine ⟨(session.frame device player.inputs now).session, ?_, by rw [kept]⟩
      apply installed.unchanged rfl
      · exact same
      · rfl
      · rfl
      · rw [kept]
      · rw [kept]

/-- An installed session goes back to a reload. -/
theorem installed_serveAll (start : Schedule δ) (absent : start.player.session = none)
    (requests : List Request) {session : Session δ}
    (present : (start.serveAll requests).player.session = some session) :
    ∃ before source controls since built,
      LastReload start requests before source controls since session.program built ∧
        Installed (start.serveAll requests).player session controls since built := by
  induction requests using List.reverseRecOn generalizing session with
  | nil =>
      rw [Schedule.serveAll_nil, absent] at present
      cases present
  | append_singleton requests request ih =>
      rw [Schedule.serveAll_append, Schedule.serveAll_singleton] at present ⊢
      cases request with
      | change change =>
          obtain ⟨before, source, controls, since, built, reload, installed⟩ := ih present
          exact ⟨before, source, controls, _, built, reload.concat rfl, installed.change change⟩
      | reload source controls =>
          rw [Schedule.serve_reload_player, Player.reload_eq] at present ⊢
          cases made : Program.build ((start.serveAll requests).player.teardown
              (start.serveAll requests).device).2 source with
          | mk result built =>
              rw [made] at present
              cases result with
              | error halt =>
                  rw [Player.failed_session] at present
                  cases present
              | ok program =>
                  cases present
                  refine ⟨requests, source, controls, [], built, ⟨rfl, by simp, made⟩, rfl, rfl, ?_⟩
                  intro distinct
                  exact Control.Values.settled_ofSpecs distinct
      | frame ticket now =>
          rw [Schedule.serve_frame_player] at present ⊢
          -- A frame installs nothing, so the session was there before.
          cases earlier : (start.serveAll requests).player.session with
          | none =>
              have rejected := Player.rejecting_of_absent earlier ticket
              rw [Player.runFrame_of_rejecting rejected, earlier] at present
              cases present
          | some was =>
              obtain ⟨before, source, controls, since, built, reload, installed⟩ := ih earlier
              obtain ⟨renewed, after, program⟩ :=
                installed.runFrame (start.serveAll requests).device ticket now
              cases after.present.symm.trans present
              refine ⟨before, source, controls, _, built, ?_, after⟩
              rw [program]
              exact reload.concat rfl
      | shutdown =>
          rw [Schedule.serve_shutdown_player] at present
          cases present

end Installed

/-! ## Last writes -/

section Writes

variable {δ : Type} [Device δ]

/-- The last of some writes to a place carries a value. -/
def LastWrite (writes : List (Write δ)) (slot : Slot (Journaled δ)) (value : Uniform.Value) :
    Prop :=
  ∃ earlier later, writes = earlier ++ (slot, value) :: later ∧
    ∀ write ∈ later, write.1.slot ≠ slot.slot

/-- A journal does not matter for what is built and where its uniforms are. -/
theorem build_inside {before built : Journaled δ} {source : String}
    {program : Device.Program (Journaled δ)}
    (build : Program.build before source = (.ok program, built)) :
    Program.build before.device source = (.ok program.object, built.device) := by
  have answers := (Journaled.inside δ).build (d := before) rfl source
  rw [build] at answers
  generalize Program.build before.device source = inner at answers ⊢
  cases answers with
  | ok programs devices =>
      cases programs
      cases devices
      rfl

theorem slot_inside {journaled : Journaled δ} {program : Device.Program (Journaled δ)}
    {name : String} {slot : Slot (Journaled δ)}
    (found : Device.slot? journaled program name = some slot) :
    Device.slot? journaled.device program.object name = some slot.slot := by
  obtain ⟨place, inner, rfl⟩ := Option.map_eq_some_iff.mp found
  exact inner

variable {player : Player (Journaled δ)} {session : Session (Journaled δ)}
  {controls : List Control.Spec} {since : List Request} {before built : Journaled δ}
  {source : String} {frame : Program.FrameUniforms}

/-- The places of the uniforms are those that were looked up after the build. -/
theorem Installed.places (installed : Installed player session controls since built)
    (frame : Program.FrameUniforms) :
    ∀ entry ∈ session.bindings.valued frame player.inputs.controls,
      entry.1.place = Device.slot? built session.program entry.1.name := by
  intro entry member
  have bound : entry.1 ∈ session.bindings.toList := by
    rw [← Program.Bindings.map_valued]
    exact List.mem_map_of_mem member
  rw [installed.bindings] at bound
  exact place_of_mem_resolve bound

/-- The last uniform under a name is the last one that is written to its place. -/
theorem Installed.lastWrite (installed : Installed player session controls since built)
    (distinct : Program.DistinctPlaces δ)
    (build : Program.build before source = (.ok session.program, built))
    {front back : List (Program.Binding (Slot (Journaled δ)) × Option Uniform.Value)}
    {binding : Program.Binding (Slot (Journaled δ))} {value : Uniform.Value}
    (split : session.bindings.valued frame player.inputs.controls =
      front ++ (binding, some value) :: back)
    (apart : ∀ entry ∈ back, entry.1.name ≠ binding.name) {slot : Slot (Journaled δ)}
    (found : Device.slot? built session.program binding.name = some slot) :
    LastWrite (session.bindings.writes frame player.inputs.controls) slot value := by
  have places := installed.places frame
  rw [split] at places
  have place : binding.place = some slot := (places (binding, some value) (by simp)).trans found
  have written : binding.write? (some value) = some (slot, value) := by
    rw [Program.Binding.write?, place]
    rfl
  refine ⟨front.filterMap fun entry => entry.1.write? entry.2,
    back.filterMap fun entry => entry.1.write? entry.2, ?_, ?_⟩
  · rw [Program.Bindings.writes, split, List.filterMap_append, List.filterMap_cons]
    simp only [written]
  · intro write member same
    obtain ⟨⟨other, given⟩, present, put⟩ := List.mem_filterMap.mp member
    have theirs := places (other, given) (by simp [present])
    rw [(Program.Binding.place_of_write? put).1] at theirs
    have inner := slot_inside theirs.symm
    rw [same] at inner
    exact apart _ present
      (distinct _ _ source _ (build_inside build) _ _ _ inner (slot_inside found))

/-- A control with its place and the value that is uploaded for it. -/
def valuedControl (built : Journaled δ) (program : Device.Program (Journaled δ))
    (values : Control.Values) (spec : Control.Spec) :
    Program.Binding (Slot (Journaled δ)) × Option Uniform.Value :=
  (Program.Bindings.bind built program spec.name (.ofControl spec.kind),
    values.uniform? spec.name)

theorem Installed.valued_eq (installed : Installed player session controls since built)
    (frame : Program.FrameUniforms) :
    session.bindings.valued frame player.inputs.controls =
      session.bindings.builtins frame ++
        controls.map (valuedControl built session.program player.inputs.controls) := by
  rw [Program.Bindings.valued]
  congr 1
  rw [installed.bindings, Program.Bindings.resolve]
  exact List.map_map

/-- What is written last to the place of a control is the value that it settled on. -/
theorem Installed.lastWrite_control (installed : Installed player session controls since built)
    (distinct : Program.DistinctPlaces δ)
    (build : Program.build before source = (.ok session.program, built))
    (declared : Control.Spec.Declared controls) {spec : Control.Spec} (member : spec ∈ controls)
    {slot : Slot (Journaled δ)}
    (found : Device.slot? built session.program spec.name = some slot) :
    ∃ value, Control.Values.upload? (spec.settled (changes since)) = some value ∧
      LastWrite (session.bindings.writes frame player.inputs.controls) slot value := by
  obtain ⟨value, shape⟩ := (declared.made spec member).upload?_settled (changes since)
  have uniform : player.inputs.controls.uniform? spec.name = some value := by
    rw [Control.Values.uniform?, (installed.settled declared.distinct).values spec member]
    exact shape
  have valued : valuedControl built session.program player.inputs.controls spec =
      (Program.Bindings.bind built session.program spec.name (.ofControl spec.kind),
        some value) := by
    rw [valuedControl, uniform]
  obtain ⟨first, rest, equal⟩ := List.append_of_mem member
  have whole := installed.valued_eq frame
  rw [equal, List.map_append, List.map_cons, valued, ← List.append_assoc] at whole
  have names := declared.distinct
  rw [equal, List.map_append, List.map_cons] at names
  -- No later control has the same name, so no later write goes to its place.
  have new := (List.nodup_cons.mp (List.nodup_append.mp names).2.1).1
  refine ⟨value, shape, installed.lastWrite distinct build whole ?_ found⟩
  intro entry later same
  obtain ⟨other, present, rfl⟩ := List.mem_map.mp later
  have twice : other.name = spec.name := same
  exact new (twice ▸ List.mem_map_of_mem present)

end Writes

/-! ## Rendered frames -/

section Rendered

variable {δ : Type} [Device δ]

/-- A player with a journal of its device, after some requests. -/
def Schedule.journaled (inputs : Inputs) (builtins : Program.BuiltinNames) (device : δ)
    (requests : List Request) : Schedule (Journaled δ) :=
  (Schedule.start (Player.start inputs builtins) (Journaled.start device)).serveAll requests

/-- A rendered frame belongs to the installed session, and makes the writes of its upload. -/
theorem rendered_calls {schedule : Schedule (Journaled δ)} {ticket : Ticket} {now : Instant}
    {report : Report} (rendered : (schedule.runTicket now ticket).1 = .rendered report) :
    ∃ session, schedule.player.session = some session ∧
      (schedule.runTicket now ticket).2.device.entries =
        (frameCalls session.program.number
          (session.bindings.writes (frameValues schedule.device schedule.player.inputs report)
            schedule.player.inputs.controls)
          report.capture.isSome).reverse ++ schedule.device.entries := by
  have outcome : (schedule.runTicket now ticket).1 =
      (schedule.player.runFrame schedule.device ticket now).outcome := by
    rw [Schedule.runTicket]
    split <;> rfl
  have device : (schedule.runTicket now ticket).2.device =
      (schedule.player.runFrame schedule.device ticket now).device :=
    schedule.serve_frame_device ticket now
  rw [outcome] at rendered
  rw [device]
  obtain ⟨session, accepted, rendered⟩ := Player.exists_accepting_of_rendered rendered
  rw [Player.runFrame_of_accepting accepted]
  refine ⟨session, Player.session_of_accepting accepted, ?_⟩
  rcases frame_calls session schedule.device schedule.player.inputs now with
    ⟨⟨error, skipped⟩, _⟩ | ⟨found, drawn, entries⟩
  · cases skipped.symm.trans rendered
  · cases drawn.symm.trans rendered
    exact entries

end Rendered

/-! ## A scripted device -/

/-- A scripted program numbers its uniforms. -/
theorem distinctPlaces_scripted : Program.DistinctPlaces Scripted := by
  intro _ built _ program _ first second slot foundFirst foundSecond
  obtain ⟨index, at', rfl⟩ := Option.map_eq_some_iff.mp foundFirst
  obtain ⟨other, at'', same⟩ := Option.map_eq_some_iff.mp foundSecond
  obtain ⟨bound, named, _⟩ := List.findIdx?_eq_some_iff_getElem.mp at'
  obtain ⟨bound', named', _⟩ := List.findIdx?_eq_some_iff_getElem.mp at''
  cases same
  exact (beq_iff_eq.mp named).symm.trans (beq_iff_eq.mp named')

/-- A control between zero and four, at one. -/
def speedSpec : Control.Spec :=
  ⟨"speed", .float (Number.singleOfInt 0) (Number.singleOfInt 4), .float (Number.singleOfInt 1)⟩

/-- A device whose programs use the time and one control. -/
def timeAndSpeed : Scripted := { Scripted.ofViewport ⟨2, 2⟩ with uniforms := ["time", "speed"] }

/-- A reload, an accepted value, one of another kind and one for another name. -/
def speeding : List Request :=
  [.reload "" [speedSpec], .change (.setControl "speed" (.int 9)),
    .change (.setControl "speed" (.bool true)), .change (.setControlText "tint" "f00")]

end LiveShader.Session
