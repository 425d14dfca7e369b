import LiveShader.Proofs.Device.Renumbering
import LiveShader.Proofs.Playback.Forgetting
import LiveShader.Proofs.Session.Matching
import LiveShader.Proofs.Session.Tickets

/-!
# A reload forgets the past

Two players with any histories are compared after the same reload.  They may differ in the
numbers of their sessions, in what they cancelled, and in the actions that wait until the
first frame.  A relation of such players is kept by every request that is made of both;
under it both give the same outcomes and make the same calls, up to the numbers.
-/

namespace LiveShader.Session

open LiveShader.Device LiveShader.Playback

variable {δ ε : Type} [Device δ] [Device ε]

/-! ## What a frame looks at -/

/-- A frame does not look at the number of its session. -/
theorem frame_renumbered (session : Session δ) (id : Id) (device : δ) (inputs : Inputs)
    (now : Instant) :
    ({ session with id := id } : Session δ).frame device inputs now =
      { session.frame device inputs now with
        session := { (session.frame device inputs now).session with id := id } } := by
  rw [Session.frame, Session.frame]
  dsimp only
  split <;> rfl

/-- The first frame of a session does not see which actions wait, except a capture. -/
theorem frame_of_unstarted {session : Session δ} (unstarted : session.timeline.origin = none)
    {left right : Inputs} (alike : left.Alike right) (device : δ) (now : Instant) :
    session.frame device left now = session.frame device right now := by
  have advanced : session.timeline.advance now left.paused left.pending =
      session.timeline.advance now right.paused right.pending := by
    rw [alike.paused, Timeline.advance_congr unstarted alike.capture]
  rw [Session.frame, Session.frame, advanced]
  dsimp only
  rw [alike.withPending]

end LiveShader.Session

namespace LiveShader.Device.Matching

open LiveShader.Playback LiveShader.Session

variable {δ ε : Type} [Device δ] [Device ε] (pairing : Matching δ ε) (first second : Id)

/-! ## Players after the same reload -/

/-- Paired sessions whose numbers are counted from two bases. -/
structure Renumbered (left : Session δ) (right : Session ε) : Prop where
  id : Abreast first second left.id right.id
  session : pairing.Sessions { left with id := right.id } right

/-- Players whose numbers are in step, counted from two bases. -/
structure InStep (left : Player δ) (right : Player ε) : Prop where
  builtins : left.builtins = right.builtins
  nextSession : Abreast first second left.nextSession right.nextSession
  cancelled : ∀ id other, Abreast first second id other →
    (id ∈ left.cancelled ↔ other ∈ right.cancelled)

/-- Players in step with paired sessions; a frame makes their inputs the same. -/
structure Renewed (left : Player δ) (right : Player ε) : Prop
    extends InStep first second left right where
  inputs : left.inputs.Alike right.inputs
  session : Option.Rel (pairing.Renumbered first second) left.session right.session
  settled : left.inputs = right.inputs ∨
    ∀ session, left.session = some session → session.timeline.origin = none
  lastError : left.lastError = right.lastError

section Requests

variable {pairing first second} {d : δ} {e : ε} {left : Player δ} {right : Player ε}

/-! ## Frames -/

theorem Renumbered.frame {session : Session δ} {other : Session ε}
    (sessions : pairing.Renumbered first second session other) (paired : pairing.device d e)
    {inputs inputs' : Inputs} (alike : inputs.Alike inputs')
    (settled : inputs = inputs' ∨ session.timeline.origin = none) (now : Instant) :
    (session.frame d inputs now).outcome = (other.frame e inputs' now).outcome ∧
      pairing.Renumbered first second (session.frame d inputs now).session
        (other.frame e inputs' now).session ∧
      pairing.device (session.frame d inputs now).device (other.frame e inputs' now).device ∧
      (session.frame d inputs now).inputs = (other.frame e inputs' now).inputs := by
  -- The frame is moved to the other inputs, and then to the other device.
  have seen : session.frame d inputs now = session.frame d inputs' now := by
    rcases settled with same | unstarted
    · rw [same]
    · exact frame_of_unstarted unstarted alike d now
  have steps := pairing.frame paired sessions.session inputs' now
  rw [frame_renumbered] at steps
  rw [seen]
  refine ⟨steps.outcome, ⟨?_, ?_⟩, steps.device, steps.inputs⟩
  · rw [frame_session, frame_session]
    exact sessions.id
  · have paired := steps.session
    rw [show (other.frame e inputs' now).session.id = other.id by rw [frame_session]]
    exact paired

/-- Tickets that are counted from the bases are accepted by both players or by neither. -/
theorem Renewed.accepting (renewed : pairing.Renewed first second left right)
    {ticket other : Ticket} (tickets : Abreast first second ticket.session other.session) :
    Option.Rel (pairing.Renumbered first second) (left.accepting? ticket)
      (right.accepting? other) := by
  have sessions := renewed.session
  have cancelled := renewed.cancelled ticket.session other.session tickets
  unfold Player.accepting? Player.isLive
  generalize left.session = installed at sessions ⊢
  generalize right.session = installed' at sessions ⊢
  cases sessions with
  | none => exact .none
  | some paired =>
      dsimp only
      have live : (!left.cancelled.contains ticket.session) =
          !right.cancelled.contains other.session := by
        simp only [List.contains_eq_mem, cancelled]
      simp only [live, tickets.eq_iff paired.id]
      split
      · exact .some paired
      · exact .none

theorem Renewed.rejecting (renewed : pairing.Renewed first second left right)
    {ticket other : Ticket} (older : ticket.session < first) (older' : other.session < second) :
    left.accepting? ticket = none ∧ right.accepting? other = none := by
  have sessions := renewed.session
  unfold Player.accepting?
  generalize left.session = installed at sessions ⊢
  generalize right.session = installed' at sessions ⊢
  cases sessions with
  | none => exact ⟨rfl, rfl⟩
  | some paired =>
      obtain ⟨least, least'⟩ := paired.id.le
      have foreign := Nat.ne_of_lt (Nat.lt_of_lt_of_le older least)
      have foreign' := Nat.ne_of_lt (Nat.lt_of_lt_of_le older' least')
      exact ⟨if_neg fun accepted => foreign accepted.2,
        if_neg fun accepted => foreign' accepted.2⟩

theorem Renewed.runFrame (renewed : pairing.Renewed first second left right)
    (paired : pairing.device d e) {ticket other : Ticket}
    (tickets : Abreast first second ticket.session other.session) (now : Instant) :
    pairing.Renewed first second (left.runFrame d ticket now).player
        (right.runFrame e other now).player ∧
      pairing.device (left.runFrame d ticket now).device (right.runFrame e other now).device ∧
      (left.runFrame d ticket now).outcome = (right.runFrame e other now).outcome := by
  have acceptance := renewed.accepting tickets
  cases accepted : left.accepting? ticket with
  | none =>
      rw [accepted] at acceptance
      cases accepted' : right.accepting? other with
      | none =>
          rw [Player.runFrame_of_rejecting accepted, Player.runFrame_of_rejecting accepted']
          exact ⟨renewed, paired, rfl⟩
      | some session' =>
          rw [accepted'] at acceptance
          cases acceptance
  | some session =>
      rw [accepted] at acceptance
      cases accepted' : right.accepting? other with
      | none =>
          rw [accepted'] at acceptance
          cases acceptance
      | some session' =>
          rw [accepted'] at acceptance
          cases acceptance with
          | some sessions =>
              -- The inputs differ only as long as no frame of the session has run.
              have settled : left.inputs = right.inputs ∨ session.timeline.origin = none :=
                renewed.settled.imp_right fun unstarted =>
                  unstarted session (Player.session_of_accepting accepted)
              obtain ⟨outcomes, moved, devices, inputs⟩ :=
                sessions.frame paired renewed.inputs settled now
              rw [Player.runFrame_of_accepting accepted, Player.runFrame_of_accepting accepted']
              refine ⟨⟨⟨renewed.builtins, renewed.nextSession, renewed.cancelled⟩, ?_,
                .some moved, Or.inl inputs, renewed.lastError⟩, devices, outcomes⟩
              dsimp only
              rw [inputs]
              exact ⟨rfl, rfl⟩

/-! ## Reloads -/

theorem Renewed.ended (renewed : pairing.Renewed first second left right) :
    InStep first second left.ended right.ended := by
  constructor
  · rw [Player.ended_builtins, Player.ended_builtins]
    exact renewed.builtins
  · rw [Player.ended_nextSession, Player.ended_nextSession]
    exact renewed.nextSession
  · intro id other abreast
    have sessions := renewed.session
    have cancelled := renewed.cancelled id other abreast
    rw [Player.ended, Player.ended]
    generalize left.session = installed at sessions ⊢
    generalize right.session = installed' at sessions ⊢
    cases sessions with
    | none => exact cancelled
    | some paired =>
        simp only [Option.map_some, Option.toList_some, List.singleton_append, List.mem_cons]
        rw [abreast.eq_iff paired.id, cancelled]

theorem Renewed.teardown (renewed : pairing.Renewed first second left right)
    (paired : pairing.device d e) :
    pairing.device (left.teardown d).2 (right.teardown e).2 := by
  have sessions := renewed.session
  rw [Player.teardown_eq, Player.teardown_eq]
  generalize left.session = installed at sessions ⊢
  generalize right.session = installed' at sessions ⊢
  cases sessions with
  | none => exact paired
  | some session => exact pairing.releaseProgram paired session.session.program

theorem InStep.renewed (inStep : InStep first second left right)
    (alike : left.inputs.Alike right.inputs) (absent : left.session = none)
    (absent' : right.session = none) (errors : left.lastError = right.lastError) :
    pairing.Renewed first second left right := by
  refine ⟨inStep, alike, ?_, Or.inr ?_, errors⟩
  · rw [absent, absent']
    exact .none
  · intro session present
    rw [absent] at present
    cases present

/--
A reload looks neither at the sessions before it nor at the values of the controls.  One that
does not return leaves the inputs and the last error as they were.
-/
theorem InStep.reload (inStep : InStep first second left.ended right.ended)
    (alike : ∀ controls,
      (left.inputs.withControls controls).Alike (right.inputs.withControls controls))
    (paired : pairing.device (left.teardown d).2 (right.teardown e).2) (source : String)
    (controls : List Control.Spec)
    (stuck : (left.reload d source controls).result = .error .overflow →
      left.inputs.Alike right.inputs ∧ left.lastError = right.lastError) :
    pairing.Renewed first second (left.reload d source controls).player
        (right.reload e source controls).player ∧
      pairing.device (left.reload d source controls).device
        (right.reload e source controls).device := by
  have answers := pairing.build paired source
  rw [Player.reload_eq] at stuck ⊢
  rw [Player.reload_eq]
  generalize Program.build (left.teardown d).2 source = built at answers stuck ⊢
  generalize Program.build (right.teardown e).2 source = built' at answers ⊢
  cases answers with
  | @error halt _ _ devices =>
      refine ⟨?_, devices⟩
      cases halt with
      | refused error =>
          refine InStep.renewed ?_ (alike _) rfl rfl rfl
          exact ⟨inStep.builtins, inStep.nextSession, inStep.cancelled⟩
      | overflow =>
          obtain ⟨inputs, errors⟩ := stuck rfl
          exact inStep.renewed inputs rfl rfl errors
  | @ok program program' device device' programs devices =>
      have bindings := pairing.resolve devices programs left.ended.builtins controls
      refine ⟨⟨⟨inStep.builtins, inStep.nextSession.succ, inStep.cancelled⟩, ?_, ?_, ?_, rfl⟩,
        devices⟩
      · simp only [Player.install, Player.ended_inputs]
        exact alike _
      · refine .some ⟨inStep.nextSession, rfl, programs, ?_, rfl⟩
        rw [← inStep.builtins]
        exact bindings
      · refine Or.inr ?_
        rintro session ⟨⟩
        rfl

theorem Renewed.change (renewed : pairing.Renewed first second left right) (change : Change) :
    pairing.Renewed first second (left.mapInputs change.apply)
      (right.mapInputs change.apply) :=
  { renewed with
    inputs := renewed.inputs.apply change
    settled := renewed.settled.imp_left (congrArg change.apply) }

end Requests

/-- Schedules of players after the same reload, on devices that answer alike. -/
structure GoOn (left : Schedule δ) (right : Schedule ε) : Prop where
  player : pairing.Renewed first second left.player right.player
  device : pairing.device left.device right.device

end LiveShader.Device.Matching

namespace LiveShader.Session

open LiveShader.Device LiveShader.Playback

variable {δ ε : Type} [Device δ] [Device ε]

/--
The same request to two players: a frame is asked for under tickets that are equally many
sessions after two bases, or under any tickets from before them.
-/
inductive Request.Alike (first second : Id) : Request → Request → Prop where
  | change (change : Change) : Alike first second (.change change) (.change change)
  | reload (source : String) (controls : List Control.Spec) :
      Alike first second (.reload source controls) (.reload source controls)
  | frame {ticket other : Ticket} (now : Instant)
      (tickets : Abreast first second ticket.session other.session) :
      Alike first second (.frame ticket now) (.frame other now)
  | stale {ticket other : Ticket} (now : Instant) (older : ticket.session < first)
      (older' : other.session < second) :
      Alike first second (.frame ticket now) (.frame other now)
  | shutdown : Alike first second .shutdown .shutdown

namespace Schedule

/-- A schedule that some run from a player without a session leads to. -/
def Reached (builtins : Program.BuiltinNames) (schedule : Schedule δ) : Prop :=
  ∃ inputs device requests,
    (start (.start inputs builtins) device).serveAll requests = schedule

end Schedule

section Runs

variable {pairing : Matching δ ε} {first second : Id} {left : Schedule δ} {right : Schedule ε}

theorem goOn_serve (goOn : pairing.GoOn first second left right) {request other : Request}
    (alike : Request.Alike first second request other) :
    pairing.GoOn first second (left.serve request) (right.serve other) ∧
      left.outcome? request = right.outcome? other := by
  obtain ⟨renewed, paired⟩ := goOn
  cases alike with
  | change change => exact ⟨⟨renewed.change change, paired⟩, rfl⟩
  | reload source controls =>
      have again := renewed.ended.reload renewed.inputs.withControls
        (renewed.teardown paired) source controls fun _ => ⟨renewed.inputs, renewed.lastError⟩
      refine ⟨⟨?_, ?_⟩, rfl⟩
      · rw [Schedule.serve_reload_player, Schedule.serve_reload_player]
        exact again.1
      · rw [Schedule.serve_reload_device, Schedule.serve_reload_device]
        exact again.2
  | @frame ticket other now tickets =>
      obtain ⟨players, devices, outcomes⟩ := renewed.runFrame paired tickets now
      refine ⟨⟨?_, ?_⟩, congrArg some outcomes⟩
      · rw [Schedule.serve_frame_player, Schedule.serve_frame_player]
        exact players
      · rw [Schedule.serve_frame_device, Schedule.serve_frame_device]
        exact devices
  | @stale ticket other now older older' =>
      obtain ⟨rejected, rejected'⟩ := renewed.rejecting older older'
      have stays := Player.runFrame_of_rejecting rejected left.device now
      have stays' := Player.runFrame_of_rejecting rejected' right.device now
      constructor
      · simp only [Schedule.serve, Schedule.runTicket, stays, stays']
        exact ⟨renewed, paired⟩
      · rw [Schedule.outcome?, Schedule.outcome?, stays, stays']
  | shutdown =>
      refine ⟨⟨?_, renewed.teardown paired⟩, rfl⟩
      rw [Schedule.serve_shutdown_player, Schedule.serve_shutdown_player]
      apply renewed.ended.renewed
      · rw [Player.ended_inputs, Player.ended_inputs]
        exact renewed.inputs
      · rfl
      · rfl
      · rw [Player.ended_lastError, Player.ended_lastError]
        exact renewed.lastError

theorem goOn_serveAll (goOn : pairing.GoOn first second left right)
    {requests others : List Request}
    (alike : List.Forall₂ (Request.Alike first second) requests others) :
    pairing.GoOn first second (left.serveAll requests) (right.serveAll others) ∧
      left.outcomes requests = right.outcomes others := by
  induction alike generalizing left right with
  | nil => exact ⟨goOn, rfl⟩
  | cons request rest ih =>
      obtain ⟨next, same⟩ := goOn_serve goOn request
      obtain ⟨last, others⟩ := ih next
      refine ⟨last, ?_⟩
      rw [Schedule.outcomes, Schedule.outcomes, same, others]

theorem Schedule.Reached.builtins_eq {builtins : Program.BuiltinNames}
    (reached : left.Reached builtins) : left.player.builtins = builtins := by
  obtain ⟨inputs, device, requests, rfl⟩ := reached
  rw [Schedule.builtins_serveAll]
  rfl

theorem Schedule.Reached.numbered {builtins : Program.BuiltinNames}
    (reached : left.Reached builtins) : left.player.Numbered := by
  obtain ⟨inputs, device, requests, rfl⟩ := reached
  exact numbered_serveAll (Player.numbered_start inputs builtins) requests

/-- Reloads of the same source end alike. -/
theorem reload_halts_alike
    (paired : pairing.device (left.player.teardown left.device).2
      (right.player.teardown right.device).2) (source : String) (controls : List Control.Spec) :
    (left.reload source controls).1 = (right.reload source controls).1 := by
  have answers := pairing.build paired source
  rw [Schedule.reload_error?, Schedule.reload_error?, Player.reload_eq, Player.reload_eq]
  generalize Program.build (left.player.teardown left.device).2 source = built at answers ⊢
  generalize Program.build (right.player.teardown right.device).2 source = built' at answers ⊢
  cases answers with
  | error devices => rfl
  | ok programs devices => rfl

theorem inStep_ended {builtins : Program.BuiltinNames} (reached : left.Reached builtins)
    (reached' : right.Reached builtins) :
    Matching.InStep left.player.nextSession right.player.nextSession left.player.ended
      right.player.ended := by
  have numbered := reached.numbered.ended
  have numbered' := reached'.numbered.ended
  constructor
  · rw [Player.ended_builtins, Player.ended_builtins, reached.builtins_eq, reached'.builtins_eq]
  · rw [Player.ended_nextSession, Player.ended_nextSession]
    exact abreast_self _ _
  · -- What was cancelled so far bears a number from before the bases.
    intro id other abreast
    obtain ⟨least, least'⟩ := abreast.le
    have new : id ∉ left.player.ended.cancelled := fun member =>
      Nat.not_lt.mpr least (left.player.ended_nextSession ▸ numbered.cancelled id member)
    have new' : other ∉ right.player.ended.cancelled := fun member =>
      Nat.not_lt.mpr least' (right.player.ended_nextSession ▸ numbered'.cancelled other member)
    exact iff_of_false new new'

end Runs

/--
Runs that agree in what a reload keeps: the pause flag, whether a capture waits, the pointer
and the view.  Their devices answer alike once the present sessions are handed back.
-/
structure AgreeBefore (pairing : Matching δ ε) (left : Schedule (Journaled δ))
    (right : Schedule (Journaled ε)) : Prop where
  paused : left.player.inputs.paused = right.player.inputs.paused
  capture : left.player.inputs.pending.capture = right.player.inputs.pending.capture
  pointer : left.player.inputs.pointer = right.player.inputs.pointer
  viewport : left.player.inputs.viewport = right.player.inputs.viewport
  device : pairing.device (left.serve .shutdown).device.device
    (right.serve .shutdown).device.device

/--
A reload forgets the past.  Take two runs with any histories that agree in what a reload keeps
and are reloaded with the same source and controls, such that the first reload returns.  Then
both reloads end alike, and whatever is requested of both from then on, their frames come out
the same, their devices get the same calls up to the numbers of programs, and neither the last
error nor the inputs tell them apart, except for a pause, resumption or reset that no frame has
seen.
-/
theorem reload_forgets (pairing : Matching δ ε) {builtins : Program.BuiltinNames}
    {left : Schedule (Journaled δ)} {right : Schedule (Journaled ε)}
    (reached : left.Reached builtins) (reached' : right.Reached builtins)
    (agree : AgreeBefore pairing left right) {source : String} {controls : List Control.Spec}
    (returns : (left.reload source controls).1 ≠ some .overflow) {requests others : List Request}
    (alike : List.Forall₂ (Request.Alike left.player.nextSession right.player.nextSession)
      requests others) :
    let reloaded := left.reload source controls
    let reloaded' := right.reload source controls
    let run := reloaded.2.serveAll requests
    let run' := reloaded'.2.serveAll others
    reloaded.1 = reloaded'.1 ∧
      reloaded.2.outcomes requests = reloaded'.2.outcomes others ∧
      GrewAlike (left.serve .shutdown).device (right.serve .shutdown).device run.device
        run'.device ∧
      run.player.inputs.Alike run'.player.inputs ∧
      run.player.lastError = run'.player.lastError := by
  intro reloaded reloaded' run run'
  let since := pairing.since (left.serve .shutdown).device (right.serve .shutdown).device
  have inputs : ∀ values, (left.player.inputs.withControls values).Alike
      (right.player.inputs.withControls values) := by
    intro values
    refine ⟨?_, agree.capture⟩
    simp only [Inputs.withControls, agree.paused, agree.pointer, agree.viewport]
  have ended : since.device (left.player.teardown left.device).2
      (right.player.teardown right.device).2 := Matching.Since.refl agree.device
  have stuck : (left.player.reload left.device source controls).result ≠ .error .overflow := by
    intro result
    rw [Schedule.reload_error?, result] at returns
    exact returns rfl
  obtain ⟨players, devices⟩ :=
    (inStep_ended reached reached').reload inputs ended source controls (absurd · stuck)
  rw [← Schedule.serve_reload_player, ← Schedule.serve_reload_player] at players
  rw [← Schedule.serve_reload_device, ← Schedule.serve_reload_device] at devices
  obtain ⟨last, outcomes⟩ := goOn_serveAll ⟨players, devices⟩ alike
  exact ⟨reload_halts_alike ended source controls, outcomes, last.device.entries,
    last.player.inputs, last.player.lastError⟩

/-- A run whose session was paused, resumed and asked to reset after its last frame. -/
def busy : Schedule (Journaled Scripted) :=
  (Schedule.start (.start (.start ⟨2, 2⟩ false) .standard) (.start (.ofViewport ⟨2, 2⟩))).serveAll
    [.reload "" [], .frame ⟨1⟩ 0, .change (.setPaused true), .frame ⟨1⟩ 5,
      .change (.setPaused false), .change .resetTime]

/-- A run that nothing was asked of. -/
def idle : Schedule (Journaled Scripted) :=
  .start (.start (.start ⟨2, 2⟩ false) .standard) (.start (.ofViewport ⟨2, 2⟩))

/-- The resumption and the reset that wait are not seen after the reload. -/
theorem forgets_waiting_resumption :
    busy.player.inputs.pending ≠ idle.player.inputs.pending ∧
      (busy.reload "" []).2.outcomes [.frame ⟨2⟩ 10, .frame ⟨1⟩ 11, .frame ⟨2⟩ 12] =
        (idle.reload "" []).2.outcomes [.frame ⟨1⟩ 10, .frame ⟨0⟩ 11, .frame ⟨1⟩ 12] := by
  have reached : busy.Reached .standard := ⟨_, _, _, rfl⟩
  have reached' : idle.Reached .standard := ⟨_, _, [], rfl⟩
  have agree : AgreeBefore Scripted.sameScript busy idle := ⟨rfl, rfl, rfl, rfl, _, _, rfl⟩
  have alike : List.Forall₂
      (Request.Alike busy.player.nextSession idle.player.nextSession)
      [.frame ⟨2⟩ 10, .frame ⟨1⟩ 11, .frame ⟨2⟩ 12]
      [.frame ⟨1⟩ 10, .frame ⟨0⟩ 11, .frame ⟨1⟩ 12] :=
    .cons (.frame 10 ⟨0, rfl, rfl⟩) (.cons (.stale 11 (by decide) (by decide))
      (.cons (.frame 12 ⟨0, rfl, rfl⟩) .nil))
  have returns : (busy.reload "" []).1 ≠ some .overflow := nofun
  refine ⟨by decide, ?_⟩
  exact (reload_forgets Scripted.sameScript reached reached' agree returns alike).2.1

end LiveShader.Session
