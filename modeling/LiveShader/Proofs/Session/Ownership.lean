import LiveShader.Proofs.Device.Ownership
import LiveShader.Proofs.Session.Matching

/-!
# A player owns its program

A player holds exactly one program while a session is installed and none otherwise,
and it holds no stage between two requests.  The journal of a run shows this call by
call.  The end of a session is a list of effects, performed one after the other: however
many of them are performed, only programs of cancelled sessions are released.
-/

namespace LiveShader.Session

open LiveShader.Device LiveShader.Playback

variable {δ : Type} [Device δ]

/-! ## Frames -/

section Frames

variable {journaled : Journaled δ} {programs : List Nat} {released : Nat → Prop}

theorem keeps_write (keeps : journaled.Keeps [] programs released)
    (binding : Program.Binding (Slot (Journaled δ))) (value : Uniform.Value) :
    (Program.Bindings.write journaled binding value).Keeps [] programs released := by
  rw [Program.Bindings.write]
  split
  · exact keeps.setUniform _ value
  · exact keeps

theorem keeps_writeControls (keeps : journaled.Keeps [] programs released)
    (values : Control.Values) (controls : List (Program.Binding (Slot (Journaled δ)))) :
    (controls.foldl (Program.Bindings.writeControl values) journaled).Keeps [] programs
      released := by
  induction controls generalizing journaled with
  | nil => exact keeps
  | cons binding rest ih =>
      apply ih
      rw [Program.Bindings.writeControl]
      split
      · exact keeps_write keeps binding _
      · exact keeps

theorem keeps_upload (keeps : journaled.Keeps [] programs released)
    (bindings : Program.Bindings (Slot (Journaled δ))) (frame : Program.FrameUniforms)
    (values : Control.Values) :
    (bindings.upload journaled frame values).Keeps [] programs released := by
  rw [Program.Bindings.upload]
  apply keeps_writeControls
  apply keeps_write
  apply keeps_write
  exact keeps_write keeps bindings.resolution _

theorem keeps_captureIfAsked (keeps : journaled.Keeps [] programs released) (asked : Bool) :
    (captureIfAsked journaled asked).2.Keeps [] programs released := by
  cases asked with
  | false => exact keeps
  | true => exact keeps.capture

/-- A frame binds the program of its session, and creates and releases nothing. -/
theorem keeps_draw (session : Session (Journaled δ))
    (keeps : journaled.Keeps [] [session.program.number] released) (inputs : Inputs)
    (sample : Sample) :
    (session.draw journaled inputs sample).2.1.Keeps [] [session.program.number]
      released := by
  have bound := keeps.bindProgram session.program List.mem_cons_self
  have uploaded := keeps_upload bound session.bindings
    (Session.frameUniforms (Device.viewport journaled) sample.elapsed inputs) inputs.controls
  exact (keeps_captureIfAsked uploaded.draw inputs.pending.capture).endFrame

theorem keeps_frame (session : Session (Journaled δ))
    (keeps : journaled.Keeps [] [session.program.number] released) (inputs : Inputs)
    (now : Instant) :
    (session.frame journaled inputs now).device.Keeps [] [session.program.number]
      released := by
  have began := keeps.beginFrame
  rw [Session.frame]
  generalize session.timeline.advance now inputs.paused inputs.pending = advanced
  rcases advanced with ⟨sample, timeline, pending⟩
  dsimp only
  generalize Device.beginFrame journaled = answer at began ⊢
  rcases answer with ⟨error | _, device⟩
  · exact began
  · exact keeps_draw { session with timeline := timeline } began
      { inputs with pending := pending } sample

end Frames

/-! ## Sessions and their programs -/

namespace Player

variable {player later : Player (Journaled δ)} {journaled after : Journaled δ}
  {held : Id → Nat → Prop}

/-- The numbers of the installed session and of its program, if there is one. -/
def held? (player : Player (Journaled δ)) : Option (Id × Nat) :=
  player.session.map fun session => (session.id, session.program.number)

/-- The program of the installed session, if there is one. -/
def heldPrograms (player : Player (Journaled δ)) : List Nat := (player.held?.map Prod.snd).toList

theorem held?_of_installed {session : Session (Journaled δ)}
    (present : player.session = some session) :
    player.held? = some (session.id, session.program.number) := by
  rw [held?, present, Option.map_some]

theorem mem_heldPrograms {session : Id} {program : Nat}
    (holds : player.held? = some (session, program)) : program ∈ player.heldPrograms := by
  simp [heldPrograms, holds]

/--
A player holds its program and no stage, given which sessions held which programs so far.
Only programs of these were released, and a session that does not hold its program any more
was cancelled.
-/
structure Owns (player : Player (Journaled δ)) (journaled : Journaled δ)
    (held : Id → Nat → Prop) : Prop where
  keeps : journaled.Keeps [] player.heldPrograms fun program => ∃ session, held session program
  present : ∀ session program, player.held? = some (session, program) → held session program
  cancelled : ∀ session program, held session program →
    player.held? = some (session, program) ∨ session ∈ player.cancelled

theorem owns_start (inputs : Inputs) (builtins : Program.BuiltinNames) (device : δ) :
    (Player.start inputs builtins).Owns (Journaled.start device) fun _ _ => False where
  keeps := (Journaled.keeps_start device).mono fun _ impossible => impossible.elim
  present := by
    intro session program impossible
    cases impossible
  cancelled := by
    intro session program impossible
    exact impossible.elim

/-- A step that cancels the session whose program it takes away. -/
theorem Owns.step (owns : player.Owns journaled held)
    (keeps : after.Keeps [] later.heldPrograms fun program => ∃ session, held session program)
    (more : ∀ session ∈ player.cancelled, session ∈ later.cancelled)
    (ends : ∀ session program, player.held? = some (session, program) →
      later.held? = some (session, program) ∨ session ∈ later.cancelled) :
    later.Owns after fun session program =>
      later.held? = some (session, program) ∨ held session program where
  keeps := keeps.mono fun program ⟨session, known⟩ => ⟨session, .inr known⟩
  present := fun session program holds => .inl holds
  cancelled := by
    rintro session program (holds | known)
    · exact .inl holds
    · rcases owns.cancelled session program known with holds | cancelled
      · exact ends session program holds
      · exact .inr (more session cancelled)

/-! ## The end of a session -/

/--
Where released programs belong, given what was released and cancelled since: to sessions that
are cancelled.
-/
theorem Owns.cancelled_of_released (owns : player.Owns journaled held)
    (more : ∀ session ∈ player.cancelled, session ∈ later.cancelled)
    (since : ∀ program, .releasedProgram program ∈ after.entries →
      .releasedProgram program ∈ journaled.entries ∨
        ∃ session, player.held? = some (session, program) ∧ session ∈ later.cancelled)
    {program : Nat} (released : .releasedProgram program ∈ after.entries) :
    (∃ session, held session program) ∧
      ∀ session, held session program → later.isLive ⟨session⟩ = false := by
  have dead : ∀ session ∈ later.cancelled, later.isLive ⟨session⟩ = false := by
    intro session cancelled
    simpa [isLive] using cancelled
  rcases since program released with before | ⟨session, holds, cancelled⟩
  · refine ⟨owns.keeps.released program before, ?_⟩
    intro session known
    rcases owns.cancelled session program known with holds | cancelled
    · -- the program that is held is open
      have isOpen := (owns.keeps.programs program).mpr (mem_heldPrograms holds)
      exact absurd before isOpen.2
    · exact dead session (more session cancelled)
  · refine ⟨⟨session, owns.present session program holds⟩, ?_⟩
    intro other known
    rcases owns.cancelled other program known with holds' | cancelled'
    · rw [holds] at holds'
      cases holds'
      exact dead session cancelled
    · exact dead other (more other cancelled')

/-- Of the effects that end a session none, the first or both are performed. -/
theorem prefix_ending {done : List (Effect (Journaled δ))} (begun : done <+: player.ending) :
    done = [] ∨ ∃ session, player.session = some session ∧
      (done = [.cancel session.id] ∨
        done = [.cancel session.id, .release session.program]) := by
  rw [ending] at begun
  cases present : player.session with
  | none =>
      rw [present] at begun
      exact .inl (List.prefix_nil.mp begun)
  | some session =>
      rw [present] at begun
      rcases List.prefix_cons_iff.mp begun with rfl | ⟨rest, rfl, begunRest⟩
      · exact .inl rfl
      · refine .inr ⟨session, rfl, ?_⟩
        rcases List.prefix_cons_iff.mp begunRest with rfl | ⟨last, rfl, begunLast⟩
        · exact .inl rfl
        · rw [List.prefix_nil.mp begunLast]
          exact .inr rfl

/-- The effects that end a session, however many of them are performed. -/
theorem Owns.cancelled_within_ending (owns : player.Owns journaled held)
    {done : List (Effect (Journaled δ))} (begun : done <+: player.ending) {program : Nat}
    (released : .releasedProgram program ∈
      ({ player with session := none }.performAll journaled done).2.entries) :
    (∃ session, held session program) ∧ ∀ session, held session program →
      ({ player with session := none }.performAll journaled done).1.isLive ⟨session⟩ =
        false := by
  rcases prefix_ending begun with rfl | ⟨session, present, rfl | rfl⟩
  · exact owns.cancelled_of_released (fun _ member => member) (fun _ member => .inl member)
      released
  · exact owns.cancelled_of_released (fun _ member => List.mem_cons_of_mem session.id member)
      (fun _ member => .inl member) released
  · refine owns.cancelled_of_released (fun _ member => List.mem_cons_of_mem session.id member)
      ?_ released
    intro program member
    rcases List.mem_cons.mp member with equal | before
    · cases equal
      exact .inr ⟨session.id, held?_of_installed present, List.mem_cons_self⟩
    · exact .inl before

/-! ## Requests -/

/-- A teardown releases the program that is held. -/
theorem Owns.teardown (owns : player.Owns journaled held) :
    (player.teardown journaled).2.Keeps [] [] fun program => ∃ session, held session program := by
  have keeps := owns.keeps
  rw [teardown_eq]
  cases present : player.session with
  | none =>
      have absent : player.heldPrograms = [] := by
        rw [heldPrograms, held?, present]
        rfl
      rw [absent] at keeps
      exact keeps
  | some session =>
      have holds := held?_of_installed present
      rw [heldPrograms, holds] at keeps
      have released := keeps.releaseProgram session.program List.mem_cons_self
        ⟨session.id, owns.present _ _ holds⟩
      simpa using released

theorem mem_cancelled_ended {session : Id} (member : session ∈ player.cancelled) :
    session ∈ player.ended.cancelled :=
  List.mem_append_right _ member

theorem cancelled_of_held {session : Id} {program : Nat}
    (holds : player.held? = some (session, program)) : session ∈ player.ended.cancelled := by
  obtain ⟨installed, present, equal⟩ := Option.map_eq_some_iff.mp holds
  cases equal
  rw [ended, present]
  exact List.mem_cons_self

theorem Owns.shutdown (owns : player.Owns journaled held) :
    (player.teardown journaled).1.Owns (player.teardown journaled).2 fun session program =>
      (player.teardown journaled).1.held? = some (session, program) ∨ held session program := by
  have released := owns.teardown
  rw [teardown_player]
  exact owns.step released (fun _ => mem_cancelled_ended)
    fun _ _ holds => .inr (cancelled_of_held holds)

/-- A reload holds a program only if its build succeeds. -/
theorem Owns.reload (owns : player.Owns journaled held) (source : String)
    (controls : List Control.Spec) :
    (player.reload journaled source controls).player.Owns
      (player.reload journaled source controls).device fun session program =>
        (player.reload journaled source controls).player.held? = some (session, program) ∨
          held session program := by
  rw [reload_eq]
  rcases owns.teardown.build source with
    ⟨halt, later, equal, kept⟩ | ⟨program, later, equal, kept⟩
  · rw [equal]
    have absent : (player.ended.failed halt).heldPrograms = [] := by
      rw [heldPrograms, held?, failed_session]
      rfl
    refine owns.step ?_ ?_ ?_
    · rw [absent]
      exact kept
    · intro session member
      rw [failed_cancelled]
      exact mem_cancelled_ended member
    · intro session program holds
      rw [failed_cancelled]
      exact .inr (cancelled_of_held holds)
  · rw [equal]
    exact owns.step kept (fun _ => mem_cancelled_ended)
      fun _ _ holds => .inr (cancelled_of_held holds)

theorem Owns.runFrame (owns : player.Owns journaled held) (ticket : Ticket) (now : Instant) :
    (player.runFrame journaled ticket now).player.Owns
      (player.runFrame journaled ticket now).device fun session program =>
        (player.runFrame journaled ticket now).player.held? = some (session, program) ∨
          held session program := by
  cases accepted : player.accepting? ticket with
  | none =>
      rw [runFrame_of_rejecting accepted]
      exact owns.step owns.keeps (fun _ member => member) fun _ _ holds => .inl holds
  | some session =>
      have holds := held?_of_installed (session_of_accepting accepted)
      have keeps := owns.keeps
      rw [heldPrograms, holds] at keeps
      have framed := keeps_frame session keeps player.inputs now
      rw [runFrame_of_accepting accepted]
      have same : some ((session.frame journaled player.inputs now).session.id,
          (session.frame journaled player.inputs now).session.program.number) = player.held? := by
        rw [frame_session, holds]
      refine owns.step ?_ (fun _ member => member) fun _ _ holds => .inl (same.trans holds)
      rw [heldPrograms, held?, Option.map_some, same, holds]
      exact framed

end Player

/-! ## Runs -/

namespace Schedule

variable {schedule : Schedule (Journaled δ)} {held : Id → Nat → Prop}

/-- A session held a program at some point of a run. -/
def Held (schedule : Schedule (Journaled δ)) (requests : List Request) (session : Id)
    (program : Nat) : Prop :=
  ∃ earlier, earlier <+: requests ∧
    (schedule.serveAll earlier).player.held? = some (session, program)

theorem held_concat (schedule : Schedule (Journaled δ)) (requests : List Request)
    (request : Request) :
    schedule.Held (requests ++ [request]) = fun session program =>
      ((schedule.serveAll requests).serve request).player.held? = some (session, program) ∨
        schedule.Held requests session program := by
  funext session program
  apply propext
  constructor
  · rintro ⟨earlier, begun, holds⟩
    rcases List.prefix_concat_iff.mp begun with rfl | begun
    · rw [serveAll_append] at holds
      exact .inl holds
    · exact .inr ⟨earlier, begun, holds⟩
  · rintro (holds | ⟨earlier, begun, holds⟩)
    · refine ⟨requests ++ [request], List.prefix_rfl, ?_⟩
      rw [serveAll_append]
      exact holds
    · exact ⟨earlier, begun.trans (List.prefix_append _ _), holds⟩

theorem owns_serve (owns : schedule.player.Owns schedule.device held) (request : Request) :
    (schedule.serve request).player.Owns (schedule.serve request).device fun session program =>
      (schedule.serve request).player.held? = some (session, program) ∨ held session program := by
  cases request with
  | change change =>
      exact owns.step owns.keeps (fun _ member => member) fun _ _ holds => .inl holds
  | reload source controls =>
      rw [serve_reload_player, serve_reload_device]
      exact owns.reload source controls
  | frame ticket now =>
      rw [serve_frame_player, serve_frame_device]
      exact owns.runFrame ticket now
  | shutdown => exact owns.shutdown

/-- After a run the player owns what its sessions hold. -/
theorem owns_serveAll (inputs : Inputs) (builtins : Program.BuiltinNames) (device : δ)
    (requests : List Request) :
    let start := Schedule.start (Player.start inputs builtins) (Journaled.start device)
    (start.serveAll requests).player.Owns (start.serveAll requests).device
      (start.Held requests) := by
  intro start
  induction requests using List.reverseRecOn with
  | nil =>
      have owns := Player.owns_start inputs builtins device
      refine ⟨owns.keeps.mono fun _ ⟨_, impossible⟩ => impossible.elim, ?_, ?_⟩
      · exact fun _ _ holds => ⟨[], List.prefix_rfl, holds⟩
      · rintro session program ⟨earlier, begun, holds⟩
        rw [List.prefix_nil.mp begun] at holds
        exact .inl holds
  | append_singleton requests request ih =>
      rw [held_concat, serveAll_append]
      exact owns_serve ih request

end Schedule

/-- Between two requests every stage is released. -/
theorem Player.Owns.no_openStage {player : Player (Journaled δ)} {journaled : Journaled δ}
    {held : Id → Nat → Prop} (owns : player.Owns journaled held) (stage : Nat) :
    ¬ OpenStage journaled.entries stage :=
  fun present => List.not_mem_nil ((owns.keeps.stages stage).mp present)

/-- What is open in a journal is what the player of the run holds. -/
theorem openProgram_iff_hasSession {noted : Schedule (Journaled δ)} {run : Schedule δ}
    {held : Id → Nat → Prop} (owns : noted.player.Owns noted.device held)
    (same : (Journaled.inside δ).Schedules noted run) :
    if run.player.hasSession then ∃! program, OpenProgram noted.device.entries program
    else ∀ program, ¬ OpenProgram noted.device.entries program := by
  have sessions := same.player.session
  have programs := owns.keeps.programs
  rw [Player.heldPrograms, Player.held?] at programs
  rw [Player.hasSession]
  generalize noted.player.session = first at sessions programs
  generalize run.player.session = second at sessions ⊢
  cases sessions with
  | none =>
      intro program present
      exact absurd ((programs program).mp present) List.not_mem_nil
  | some paired =>
      rename_i session _
      refine ⟨session.program.number, (programs _).mpr List.mem_cons_self, ?_⟩
      intro program present
      exact List.mem_singleton.mp ((programs program).mp present)

theorem start_inside (inputs : Inputs) (builtins : Program.BuiltinNames) (device : δ) :
    (Journaled.inside δ).Schedules
      (Schedule.start (Player.start inputs builtins) (Journaled.start device))
      (Schedule.start (Player.start inputs builtins) device) :=
  ⟨⟨.none, rfl, rfl, rfl, rfl, rfl⟩, rfl, rfl, rfl⟩

/--
Nothing leaks, nothing is released twice and nothing is used after its release.  Take
any run on any device, and the same run on the device with a journal.  At every
moment at most one program is open.  Between two requests no stage is open, and a
program is open just when a session is installed.  Every object is new when it is
created and open when it is used or released.  However many of the effects are performed
that end the session, every released program was held by a session of the run, and the
tickets of all sessions that held it are cancelled by then.
-/
theorem programs_owned (inputs : Inputs) (builtins : Program.BuiltinNames) (device : δ)
    (requests : List Request) :
    let run := (Schedule.start (Player.start inputs builtins) device).serveAll requests
    let start := Schedule.start (Player.start inputs builtins) (Journaled.start device)
    let noted := start.serveAll requests
    (Journaled.inside δ).Schedules noted run ∧
      Orderly noted.device.entries ∧
      (∀ past, past <:+ noted.device.entries → ∀ first second,
        OpenProgram past first → OpenProgram past second → first = second) ∧
      (∀ stage, ¬ OpenStage noted.device.entries stage) ∧
      (if run.player.hasSession then ∃! program, OpenProgram noted.device.entries program
        else ∀ program, ¬ OpenProgram noted.device.entries program) ∧
      ∀ done, done <+: noted.player.ending →
        let now := { noted.player with session := none }.performAll noted.device done
        ∀ program, .releasedProgram program ∈ now.2.entries →
          (∃ session, start.Held requests session program) ∧
            ∀ session, start.Held requests session program →
              now.1.isLive ⟨session⟩ = false := by
  intro run start noted
  have same : (Journaled.inside δ).Schedules noted run :=
    (start_inside inputs builtins device).serveAll requests
  have owns : noted.player.Owns noted.device (start.Held requests) :=
    Schedule.owns_serveAll inputs builtins device requests
  refine ⟨same, owns.keeps.orderly, ?_, owns.no_openStage, openProgram_iff_hasSession owns same,
    ?_⟩
  · intro past suffix first second
    exact (owns.keeps.orderly.suffix suffix).openProgram_unique
  · intro done begun now program released
    exact owns.cancelled_within_ending begun released

end LiveShader.Session
