import LiveShader.Device.Scripted
import LiveShader.Proofs.Session.Calls
import LiveShader.Proofs.Session.Ownership

/-!
# Failed reloads

A reload fails when one of the two stages does not compile or the program does not
link, and by then it has ended the old session.  It leaves no session, no open object
of the device and no controls.  The pause flag, the waiting actions, the pointer, the
view, the waiting frames and the numbering of sessions are left alone.

Without a session nothing is drawn, whatever ticket a frame comes with, and only a
reload that succeeds brings a session back.
-/

namespace LiveShader.Program

variable {δ : Type} [Device δ] {device : δ} {source : String} {error : BuildError}

/-! ## How a build fails -/

/--
A build fails at its vertex stage, at its fragment stage, or when it is linked.  A stage that
is refused is reported with its source, if that can be annotated.
-/
inductive Fails (device : δ) (source : String) : BuildError → Prop where
  | vertex {log annotated : String} {later : δ}
      (refused : Device.compile device .vertex vertexSource = (.error (.refused log), later))
      (shown : Source.annotate vertexSource = some annotated) :
      Fails device source (.compile .vertex log annotated)
  | fragment {vertex : Device.StageObject δ} {between later : δ} {log annotated : String}
      (compiled : Device.compile device .vertex vertexSource = (.ok vertex, between))
      (refused : Device.compile between .fragment source = (.error (.refused log), later))
      (shown : Source.annotate source = some annotated) :
      Fails device source (.compile .fragment log annotated)
  | link {vertex fragment : Device.StageObject δ} {between ready later : δ} {log : String}
      (vertexCompiled : Device.compile device .vertex vertexSource = (.ok vertex, between))
      (fragmentCompiled : Device.compile between .fragment source = (.ok fragment, ready))
      (refused : Device.link ready vertex fragment = (.error log, later)) :
      Fails device source (.link log)

/-- A refused stage has an error if its source is annotated. -/
theorem refused_of_stageHalt {stage : Device.Stage} {text : String} {halt : Halt String}
    (stopped : stageHalt stage text halt = .refused error) :
    ∃ log annotated, halt = .refused log ∧ Source.annotate text = some annotated ∧
      error = .compile stage log annotated := by
  cases halt with
  | overflow => cases stopped
  | refused log =>
      rw [stageHalt] at stopped
      split at stopped
      · rename_i annotated shown
        cases stopped
        exact ⟨log, annotated, rfl, shown, rfl⟩
      · cases stopped

/-- These are all the ways in which a build returns an error. -/
theorem fails_iff :
    Fails device source error ↔
      ∃ later, build device source = (.error (.refused error), later) := by
  constructor
  · intro fails
    cases fails with
    | vertex refused shown =>
        simp only [build, compileStage, refused, stageHalt, shown]
        exact ⟨_, rfl⟩
    | fragment compiled refused shown =>
        simp only [build, compileStage, compiled, refused, stageHalt, shown]
        exact ⟨_, rfl⟩
    | link vertexCompiled fragmentCompiled refused =>
        simp only [build, compileStage, vertexCompiled, fragmentCompiled, refused]
        exact ⟨_, rfl⟩
  · rintro ⟨later, failed⟩
    simp only [build, compileStage] at failed
    rcases vertexAnswer : Device.compile device .vertex vertexSource with ⟨halt | vertex, between⟩
    · rw [vertexAnswer] at failed
      obtain ⟨stopped, rfl⟩ := Prod.mk.inj failed
      obtain ⟨log, annotated, rfl, shown, rfl⟩ := refused_of_stageHalt (Except.error.inj stopped)
      exact .vertex vertexAnswer shown
    rw [vertexAnswer] at failed
    dsimp only at failed
    rcases fragmentAnswer : Device.compile between .fragment source with ⟨halt | fragment, ready⟩
    · rw [fragmentAnswer] at failed
      obtain ⟨stopped, rfl⟩ := Prod.mk.inj failed
      obtain ⟨log, annotated, rfl, shown, rfl⟩ := refused_of_stageHalt (Except.error.inj stopped)
      exact .fragment vertexAnswer fragmentAnswer shown
    rw [fragmentAnswer] at failed
    dsimp only at failed
    rcases answer : Device.link ready vertex fragment with ⟨log | program, last⟩
    · rw [answer] at failed
      cases failed
      exact .link vertexAnswer fragmentAnswer answer
    · rw [answer] at failed
      cases failed

end LiveShader.Program

namespace LiveShader.Device

/-! ## Calls that show something -/

/-- Whether a call takes part in showing a frame: it binds, writes, draws or captures. -/
def Entry.shows : Entry → Bool
  | .bound _ | .set .. | .drew | .captured => true
  | _ => false

/-- One journal continues another, and no call that was added shows anything. -/
def Quiet (before after : List Entry) : Prop :=
  ∃ added, after = added ++ before ∧ ∀ entry ∈ added, entry.shows = false

theorem Quiet.refl (entries : List Entry) : Quiet entries entries :=
  ⟨[], rfl, by simp⟩

theorem Quiet.trans {before between after : List Entry} (first : Quiet before between)
    (second : Quiet between after) : Quiet before after := by
  obtain ⟨early, rfl, earlyQuiet⟩ := first
  obtain ⟨late, rfl, lateQuiet⟩ := second
  refine ⟨late ++ early, (List.append_assoc late early before).symm, ?_⟩
  intro entry member
  rcases List.mem_append.mp member with late | early
  · exact lateQuiet entry late
  · exact earlyQuiet entry early

theorem Journaled.BuildCalls.quiet {calls : List Entry} (made : BuildCalls calls) :
    ∀ entry ∈ calls, entry.shows = false := by
  cases made <;> simp [Entry.shows]

/-- A build shows nothing, whether it succeeds or fails. -/
theorem Journaled.quiet_build {δ : Type} [Device δ] (journaled : Journaled δ) (source : String) :
    Quiet journaled.entries (Program.build journaled source).2.entries := by
  obtain ⟨calls, made, entries⟩ := journaled.build_calls source
  refine ⟨calls.reverse, entries, ?_⟩
  intro entry member
  exact made.quiet entry (List.mem_reverse.mp member)

end LiveShader.Device

namespace LiveShader.Session

open LiveShader.Device LiveShader.Playback

variable {δ : Type} [Device δ]

theorem Player.quiet_teardown (player : Player (Journaled δ)) (journaled : Journaled δ) :
    Quiet journaled.entries (player.teardown journaled).2.entries := by
  rw [teardown_eq]
  cases player.session with
  | none => exact .refl _
  | some session =>
      exact ⟨[.releasedProgram session.program.number], rfl, by simp [Entry.shows]⟩

namespace Schedule

/-! ## What a failed reload leaves -/

/-- What a reload that fails leaves of a schedule. -/
structure Cleared (before : Schedule δ) (error : Program.BuildError) (after : Schedule δ) :
    Prop where
  session : after.player.session = none
  inputs : after.player.inputs = { before.player.inputs with controls := .empty }
  builtins : after.player.builtins = before.player.builtins
  nextSession : after.player.nextSession = before.player.nextSession
  lastError : after.player.lastError = some error
  queue : after.queue = before.queue
  issued : after.issued = before.issued

theorem reload_of_fails {schedule : Schedule δ} {source : String} {error : Program.BuildError}
    (fails : Program.Fails (schedule.player.teardown schedule.device).2 source error)
    (controls : List Control.Spec) :
    (schedule.reload source controls).1 = some (.refused error) ∧
      schedule.Cleared error (schedule.reload source controls).2 := by
  obtain ⟨later, failed⟩ := Program.fails_iff.mp fails
  have reloaded := schedule.player.reload_eq schedule.device source controls
  rw [failed] at reloaded
  rw [Schedule.reload, reloaded]
  exact ⟨rfl, rfl, rfl, schedule.player.ended_builtins, schedule.player.ended_nextSession, rfl,
    rfl, rfl⟩

/-! ## Without a session -/

/-- Whether a request is a reload that succeeds. -/
def Succeeds (schedule : Schedule δ) : Request → Prop
  | .reload source controls => (schedule.reload source controls).1 = none
  | _ => False

/-- No reload among these requests succeeds. -/
def Fruitless (schedule : Schedule δ) : List Request → Prop
  | [] => True
  | request :: rest => ¬ schedule.Succeeds request ∧ (schedule.serve request).Fruitless rest

section Absent

variable {schedule : Schedule δ}

theorem runTicket_of_absent (absent : schedule.player.session = none) (now : Instant)
    (ticket : Ticket) : schedule.runTicket now ticket = (.cancelled, schedule) := by
  simp only [runTicket, Player.runFrame_of_rejecting (Player.rejecting_of_absent absent ticket)]

/-- Only a reload that succeeds brings a session. -/
theorem absent_serve (absent : schedule.player.session = none) {request : Request}
    (fruitless : ¬ schedule.Succeeds request) :
    (schedule.serve request).player.session = none := by
  cases request with
  | change change => exact absent
  | frame ticket now =>
      rw [serve, runTicket_of_absent absent]
      exact absent
  | shutdown =>
      rw [serve_shutdown_player]
      exact schedule.player.ended_session
  | reload source controls =>
      have reloaded := schedule.player.reload_eq schedule.device source controls
      rw [Succeeds, Schedule.reload, reloaded] at fruitless
      rw [serve, Schedule.reload, reloaded]
      generalize Program.build (schedule.player.teardown schedule.device).2 source = answer
        at fruitless ⊢
      rcases answer with ⟨halt | program, later⟩
      · exact schedule.player.ended.failed_session halt
      · exact absurd rfl fruitless

theorem absent_serveAll (absent : schedule.player.session = none) {requests : List Request}
    (fruitless : schedule.Fruitless requests) :
    (schedule.serveAll requests).player.session = none := by
  induction requests generalizing schedule with
  | nil => exact absent
  | cons request rest ih => exact ih (absent_serve absent fruitless.1) fruitless.2

end Absent

section Journals

variable {noted : Schedule (Journaled δ)} {schedule : Schedule δ}

/-- A request that renders nothing shows nothing, whatever it does to the device. -/
theorem quiet_serve {schedule : Schedule (Journaled δ)} {request : Request}
    (leaves : ¬ schedule.Renders request) :
    Quiet schedule.device.entries (schedule.serve request).device.entries := by
  cases request with
  | change change => exact .refl _
  | reload source controls =>
      have torn := schedule.player.quiet_teardown schedule.device
      have built := (schedule.player.teardown schedule.device).2.quiet_build source
      rw [serve_reload_device, Player.reload_eq]
      generalize Program.build (schedule.player.teardown schedule.device).2 source = answer
        at built ⊢
      rcases answer with ⟨error | program, later⟩
      · exact torn.trans built
      · exact torn.trans built
  | frame ticket now =>
      rw [serve_frame_device]
      cases accepted : schedule.player.accepting? ticket with
      | none =>
          rw [Player.runFrame_of_rejecting accepted]
          exact .refl _
      | some session =>
          rw [Player.runFrame_of_accepting accepted]
          rcases frame_calls session schedule.device schedule.player.inputs now with
            ⟨_, entries⟩ | ⟨report, rendered, _⟩
          · exact ⟨[.beginFailed], entries, by simp [Entry.shows]⟩
          · refine absurd ⟨report, ?_⟩ leaves
            rw [outcome?, Player.runFrame_of_accepting accepted]
            exact congrArg some rendered
  | shutdown => exact schedule.player.quiet_teardown schedule.device

/-- Without a session no request shows anything, not even a reload that succeeds. -/
theorem quiet_serve_of_absent (absent : noted.player.session = none) (request : Request) :
    Quiet noted.device.entries (noted.serve request).device.entries := by
  apply quiet_serve
  rintro ⟨report, rendered⟩
  cases request with
  | frame ticket now =>
      rw [outcome?, Player.runFrame_of_rejecting (Player.rejecting_of_absent absent ticket)]
        at rendered
      cases rendered
  | _ => cases rendered

theorem absent_of_inside (same : (Journaled.inside δ).Schedules noted schedule)
    (absent : schedule.player.session = none) : noted.player.session = none := by
  have sessions := same.player.session
  rw [absent] at sessions
  cases equal : noted.player.session with
  | none => rfl
  | some session =>
      rw [equal] at sessions
      cases sessions

/-- Nothing is shown before a reload succeeds, and the reload itself shows nothing. -/
theorem quiet_serveAll (same : (Journaled.inside δ).Schedules noted schedule)
    (absent : schedule.player.session = none) {later : List Request}
    (fruitless : schedule.Fruitless later) (next : Request) :
    Quiet noted.device.entries (noted.serveAll (later ++ [next])).device.entries := by
  induction later generalizing noted schedule with
  | nil => exact quiet_serve_of_absent (absent_of_inside same absent) next
  | cons request rest ih =>
      have first := quiet_serve_of_absent (absent_of_inside same absent) request
      exact first.trans
        (ih (same.serve request) (absent_serve absent fruitless.1) fruitless.2)

end Journals

end Schedule

/-! ## Failed reloads of a run -/

/--
A failed reload is clean.  Take any run on any device, and the same run on the device with
a journal, and let its last request be a reload that fails at the vertex stage, at the
fragment stage or at the link.  The reload returns that error and keeps it as the last
one.  There is no session, every stage and program that was ever created is released, the
controls are gone, no frame was scheduled, and everything else is as it was before.
However the run goes on, no frame is accepted and nothing is bound, written, drawn or
captured until a reload has succeeded.
-/
theorem failedReload_clean (inputs : Inputs) (builtins : Program.BuiltinNames) (device : δ)
    (requests : List Request) (source : String) (controls : List Control.Spec)
    (error : Program.BuildError) :
    let before := (Schedule.start (Player.start inputs builtins) device).serveAll requests
    let after := (before.reload source controls).2
    let noted := (Schedule.start (Player.start inputs builtins)
      (Journaled.start device)).serveAll (requests ++ [.reload source controls])
    Program.Fails (before.player.teardown before.device).2 source error →
      (before.reload source controls).1 = some (.refused error) ∧
        before.Cleared error after ∧
        (Journaled.inside δ).Schedules noted after ∧
        (∀ stage, ¬ OpenStage noted.device.entries stage) ∧
        (∀ program, ¬ OpenProgram noted.device.entries program) ∧
        ∀ later, after.Fruitless later →
          (∀ ticket now, ((after.serveAll later).runTicket now ticket).1 = .cancelled) ∧
            ∀ next, Quiet noted.device.entries
              (noted.serveAll (later ++ [next])).device.entries := by
  intro before after noted fails
  obtain ⟨returned, cleared⟩ := Schedule.reload_of_fails fails controls
  have same : (Journaled.inside δ).Schedules noted after := by
    have served := (start_inside inputs builtins device).serveAll requests
    have reloaded := served.serve (.reload source controls)
    rw [← Schedule.serveAll_singleton, ← Schedule.serveAll_append] at reloaded
    exact reloaded
  have owns := Schedule.owns_serveAll inputs builtins device
    (requests ++ [.reload source controls])
  refine ⟨returned, cleared, same, owns.no_openStage, ?_, ?_⟩
  · have released := openProgram_iff_hasSession owns same
    rw [Player.hasSession, cleared.session] at released
    exact released
  · intro later fruitless
    constructor
    · intro ticket now
      rw [Schedule.runTicket_of_absent (Schedule.absent_serveAll cleared.session fruitless)]
    · intro next
      exact Schedule.quiet_serveAll same cleared.session fruitless next

/-- A device that refuses the next fragment stage and the next program. -/
def refusing : Scripted :=
  { Scripted.ofViewport ⟨2, 2⟩ with
    fragmentFailure := some "no stage"
    linkFailure := some "no program" }

/-- A control that is on or off. -/
def glow : Control.Spec := ⟨"glow", .bool, .bool true⟩

/-- One reload fails at the fragment stage and the next one at the link; then one succeeds. -/
theorem failedReload_clean_refusing :
    let before := (Schedule.start (Player.start (.start ⟨2, 2⟩ true) .standard) refusing).serveAll
      [.reload "first" []]
    let after := (before.reload "second" [glow]).2
    Program.Fails (before.player.teardown before.device).2 "second" (.link "no program") ∧
      after.Fruitless [.frame ⟨1⟩ 0, .shutdown] ∧ after.Succeeds (.reload "third" []) ∧
      before.Cleared (.link "no program") after ∧
      ∀ ticket now,
        ((after.serveAll [.frame ⟨1⟩ 0, .shutdown]).runTicket now ticket).1 = .cancelled := by
  intro before after
  have fails : Program.Fails (before.player.teardown before.device).2 "second"
      (.link "no program") := .link rfl rfl rfl
  have fruitless : after.Fruitless [.frame ⟨1⟩ 0, .shutdown] := ⟨not_false, not_false, trivial⟩
  obtain ⟨_, cleared, _, _, _, onwards⟩ := failedReload_clean (.start ⟨2, 2⟩ true) .standard
    refusing [.reload "first" []] "second" [glow] (.link "no program") fails
  exact ⟨fails, fruitless, rfl, cleared, (onwards _ fruitless).1⟩

end LiveShader.Session
