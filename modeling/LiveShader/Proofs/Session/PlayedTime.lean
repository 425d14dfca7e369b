import LiveShader.Proofs.Playback.PlayedTime
import LiveShader.Proofs.Session.Run
import LiveShader.Device.Scripted

/-!
# The elapsed time of a session

The elapsed time that a program sees is the time for which its session was played:
the time since its first frame or its last reset, without the times between a
frame that saw the pause flag and the next frame.  This holds whatever is posted
before the first frame and between two frames, and whatever sessions came before.
The main statement follows a run request by request and keeps, for the installed
session, the account of its timeline next to the list of its frames.
-/

namespace LiveShader.Session

open LiveShader.Playback

variable {δ : Type} [Device δ]

/-- The frames of one session among those accepted. -/
def framesOf (session : Id) (frames : List Accepted) : List Accepted :=
  frames.filter fun frame => frame.session = session

/-- The instants of frames do not decrease; the newest frame comes first. -/
def InOrder (frames : List Accepted) : Prop :=
  frames.Pairwise fun later earlier => earlier.now ≤ later.now

/--
The time played up to the newest frame of a session, given its frames with the
newest first.
-/
def playedTime : List Accepted → Duration
  | [] => 0
  | [_] => 0
  | frame :: last :: earlier =>
      if frame.inputs.pending.reset then 0
      else if last.inputs.paused then playedTime (last :: earlier)
      else playedTime (last :: earlier) + (frame.now - last.now)

/-- What a frame shows, given the earlier frames of its session. -/
def Accepted.ShowsPlayedTime (frame : Accepted) (earlier : List Accepted) : Prop :=
  frame.sample.elapsed = Duration.seconds (playedTime (frame :: earlier)) ∧
    frame.timeline.NeverSaturates frame.now frame.inputs.paused frame.inputs.pending

/-- A timeline and inputs that stand where the frames of a session left them. -/
def Continues (timeline : Timeline) (inputs : Inputs) : List Accepted → Prop
  | [] => timeline.origin = none ∧ timeline.lastSample = none
  | last :: earlier =>
      timeline.HasPlayed (playedTime (last :: earlier)) last.now last.inputs.paused ∧
        inputs.Matches last.inputs.paused

theorem Continues.change {timeline : Timeline} {inputs : Inputs} {past : List Accepted}
    (continues : Continues timeline inputs past) (change : Change) :
    Continues timeline (change.apply inputs) past := by
  cases past with
  | nil => exact continues
  | cons last earlier => exact ⟨continues.1, continues.2.apply change⟩

/-- One frame shows the played time and leaves timeline and inputs in their places. -/
theorem Continues.advance (frame : Accepted) {past : List Accepted}
    (continues : Continues frame.timeline frame.inputs past)
    (ordered : InOrder (frame :: past)) :
    frame.ShowsPlayedTime past ∧
      ((frame.timeline.advance frame.now frame.inputs.paused frame.inputs.pending).2.1).HasPlayed
        (playedTime (frame :: past)) frame.now frame.inputs.paused := by
  cases past with
  | nil =>
      rcases continues with ⟨unstarted, unsampled⟩
      obtain ⟨elapsed, played, exact⟩ := Timeline.advance_unstarted unstarted unsampled
      exact ⟨⟨elapsed, exact⟩, played⟩
  | cons last earlier =>
      rcases continues with ⟨played, fits⟩
      have later : last.now ≤ frame.now := List.rel_of_pairwise_cons ordered (by simp)
      obtain ⟨elapsed, continued, exact⟩ := played.advance later fits
      exact ⟨⟨elapsed, exact⟩, continued⟩

/-! ## A whole run -/

/--
The frames so far belong to sessions that were numbered before, and the installed
session stands where its own frames left it.
-/
structure Accounted (player : Player δ) (frames : List Accepted) : Prop where
  older : ∀ frame ∈ frames, frame.session < player.nextSession
  installed : ∀ session, player.session = some session →
    session.id < player.nextSession ∧
      (InOrder (framesOf session.id frames) →
        Continues session.timeline player.inputs (framesOf session.id frames))

/-- Every frame shows the played time if the frames of its session are in order. -/
def AllShowPlayedTime (frames : List Accepted) : Prop :=
  ∀ session, InOrder (framesOf session frames) → ∀ frame earlier,
    frame :: earlier <:+ framesOf session frames → frame.ShowsPlayedTime earlier

theorem framesOf_eq_nil {session : Id} {frames : List Accepted}
    (older : ∀ frame ∈ frames, frame.session < session) : framesOf session frames = [] := by
  rw [framesOf]
  rw [List.filter_eq_nil_iff]
  intro frame member same
  have equal : frame.session = session := of_decide_eq_true same
  exact Nat.lt_irrefl session (equal ▸ older frame member)

/-- A player without a session keeps every account. -/
theorem Accounted.of_session_none {player later : Player δ} {frames : List Accepted}
    (accounted : Accounted player frames) (next : later.nextSession = player.nextSession)
    (absent : later.session = none) : Accounted later frames where
  older := by
    intro frame member
    rw [next]
    exact accounted.older frame member
  installed := by
    intro session present
    rw [absent] at present
    cases present

theorem Accounted.change {player : Player δ} {frames : List Accepted}
    (accounted : Accounted player frames) (change : Change) :
    Accounted (player.mapInputs change.apply) frames where
  older := accounted.older
  installed := by
    intro session present
    obtain ⟨numbered, continues⟩ := accounted.installed session present
    exact ⟨numbered, fun ordered => (continues ordered).change change⟩

/-- A session that is installed has no frame yet. -/
theorem Accounted.install {player : Player δ} {frames : List Accepted}
    (accounted : Accounted player frames) (device : δ) (program : Device.Program δ)
    (controls : List Control.Spec) :
    Accounted (player.install device program controls).1 frames where
  older := by
    intro frame member
    exact Nat.lt_succ_of_lt (accounted.older frame member)
  installed := by
    intro session present
    cases present
    refine ⟨Nat.lt_succ_self _, fun _ => ?_⟩
    have noFrame : framesOf player.nextSession frames = [] :=
      framesOf_eq_nil accounted.older
    simp only [noFrame]
    exact ⟨rfl, rfl⟩

theorem Accounted.reload {player : Player δ} {frames : List Accepted}
    (accounted : Accounted player frames) (device : δ) (source : String)
    (controls : List Control.Spec) :
    Accounted (player.reload device source controls).player frames := by
  have ended : Accounted player.ended frames :=
    accounted.of_session_none player.ended_nextSession rfl
  rcases player.reload_player device source controls with ⟨halt, equal⟩ | ⟨later, program, equal⟩
  · rw [equal]
    exact ended.of_session_none (player.ended.failed_nextSession halt) (by simp)
  · rw [equal]
    exact ended.install later program controls

theorem framesOf_record (player : Player δ) (session : Session δ) (now : Instant)
    (frames : List Accepted) :
    framesOf session.id (player.record session now :: frames) =
      player.record session now :: framesOf session.id frames := by
  simp [framesOf, Player.record]

theorem framesOf_cons_of_ne (frame : Accepted) {session : Id} (other : frame.session ≠ session)
    (frames : List Accepted) : framesOf session (frame :: frames) = framesOf session frames := by
  simp [framesOf, other]

/-- The newest frame comes first in its own session, and changes nothing for the others. -/
theorem suffix_framesOf_cons {newest frame : Accepted} {session : Id}
    {earlier frames : List Accepted}
    (run : frame :: earlier <:+ framesOf session (newest :: frames)) :
    (newest.session = session ∧ frame = newest ∧ earlier = framesOf session frames) ∨
      frame :: earlier <:+ framesOf session frames := by
  by_cases same : newest.session = session
  · have first : framesOf session (newest :: frames) = newest :: framesOf session frames := by
      simp [framesOf, same]
    rw [first] at run
    rcases List.suffix_cons_iff.mp run with equal | old
    · cases equal
      exact Or.inl ⟨same, rfl, rfl⟩
    · exact Or.inr old
  · rw [framesOf_cons_of_ne newest same] at run
    exact Or.inr run

section AcceptedFrame

variable {player : Player δ} {frames : List Accepted} {ticket : Ticket} {session : Session δ}

theorem Accounted.frame (accounted : Accounted player frames)
    (accepted : player.accepting? ticket = some session) (device : δ) (now : Instant) :
    Accounted (player.runFrame device ticket now).player
      (player.record session now :: frames) := by
  obtain ⟨numbered, continues⟩ :=
    accounted.installed session (Player.session_of_accepting accepted)
  rw [Player.runFrame_of_accepting accepted]
  refine ⟨?_, ?_⟩
  · intro frame member
    rcases List.mem_cons.mp member with rfl | old
    · exact numbered
    · exact accounted.older frame old
  · intro later present
    cases present
    rw [frame_session]
    refine ⟨numbered, fun ordered => ?_⟩
    change InOrder (framesOf session.id _) at ordered
    change Continues _ _ (framesOf session.id _)
    rw [framesOf_record] at ordered ⊢
    have before : InOrder (framesOf session.id frames) := ordered.of_cons
    have advanced := Continues.advance (player.record session now) (continues before) ordered
    exact ⟨advanced.2, frame_inputs_matches session device player.inputs now⟩

/-- An accepted frame shows the played time if the earlier ones do. -/
theorem AllShowPlayedTime.frame (shows : AllShowPlayedTime frames)
    (accounted : Accounted player frames)
    (accepted : player.accepting? ticket = some session) (now : Instant) :
    AllShowPlayedTime (player.record session now :: frames) := by
  intro id ordered frame earlier suffix
  have before : InOrder (framesOf id frames) :=
    ordered.sublist ((List.sublist_cons_self _ frames).filter _)
  rcases suffix_framesOf_cons suffix with ⟨rfl, rfl, rfl⟩ | old
  · have continues := (accounted.installed session
      (Player.session_of_accepting accepted)).2 before
    refine (Continues.advance (player.record session now) continues ?_).1
    rw [← framesOf_record]
    exact ordered
  · exact shows id before frame earlier old

end AcceptedFrame

/-- One request keeps the accounts. -/
theorem Accounted.serve {schedule : Schedule δ} {frames : List Accepted}
    (accounted : Accounted schedule.player frames) (shows : AllShowPlayedTime frames)
    (request : Request) :
    Accounted (schedule.serve request).player
        ((schedule.accepted? request).toList ++ frames) ∧
      AllShowPlayedTime ((schedule.accepted? request).toList ++ frames) := by
  cases request with
  | change change => exact ⟨accounted.change change, shows⟩
  | reload source controls =>
      rw [Schedule.serve_reload_player]
      exact ⟨accounted.reload schedule.device source controls, shows⟩
  | shutdown =>
      rw [Schedule.serve_shutdown_player]
      exact ⟨accounted.of_session_none schedule.player.ended_nextSession rfl, shows⟩
  | frame ticket now =>
      rw [Schedule.serve_frame_player]
      simp only [Schedule.accepted?]
      cases accepted : schedule.player.accepting? ticket with
      | none =>
          rw [Player.runFrame_of_rejecting accepted]
          exact ⟨accounted, shows⟩
      | some session =>
          exact ⟨accounted.frame accepted schedule.device now,
            shows.frame accounted accepted now⟩

theorem accounted_serveAll (inputs : Inputs) (builtins : Program.BuiltinNames) (device : δ)
    (requests : List Request) :
    let start := Schedule.start (Player.start inputs builtins) device
    Accounted (start.serveAll requests).player (start.history requests) ∧
      AllShowPlayedTime (start.history requests) := by
  intro start
  induction requests using List.reverseRecOn with
  | nil =>
      refine ⟨⟨by simp [Schedule.history], ?_⟩, ?_⟩
      · intro session present
        cases present
      · intro session ordered frame earlier suffix
        exact absurd (List.suffix_nil.mp suffix) (by simp)
  | append_singleton requests request ih =>
      rw [Schedule.serveAll_append, Schedule.history_concat]
      exact ih.1.serve ih.2 request

/--
The elapsed time is exactly the played time.  Take any run from a player without a
session, and the frames that were accepted for one of its sessions.  If their
instants do not decrease, the timeline shows at each of them the time that was
played since the first frame or the last reset, and no difference of instants is
cut off at zero on the way.
-/
theorem elapsed_eq_playedTime (inputs : Inputs) (builtins : Program.BuiltinNames) (device : δ)
    (requests : List Request) (session : Id)
    (ordered : InOrder (framesOf session
      ((Schedule.start (Player.start inputs builtins) device).history requests)))
    (frame : Accepted) (earlier : List Accepted)
    (run : frame :: earlier <:+ framesOf session
      ((Schedule.start (Player.start inputs builtins) device).history requests)) :
    frame.sample.elapsed = Duration.seconds (playedTime (frame :: earlier)) ∧
      frame.timeline.NeverSaturates frame.now frame.inputs.paused frame.inputs.pending :=
  (accounted_serveAll inputs builtins device requests).2 session ordered frame earlier run

/-- A host pauses for two seconds in the middle of a session of five. -/
def pausedMidway : List Request :=
  [.reload "void main() \x7b\x7d" [], .frame ⟨1⟩ 0, .change .togglePaused,
    .frame ⟨1⟩ 1000000000, .change (.setPaused false), .frame ⟨1⟩ 3000000000,
    .frame ⟨1⟩ 5000000000]

/-- The frames of that session on a scripted device, the newest first. -/
def pausedMidwayFrames : List Accepted :=
  framesOf 1 ((Schedule.start (Player.start (.start ⟨2, 2⟩ false) .standard)
    (Device.Scripted.ofViewport ⟨2, 2⟩)).history pausedMidway)

/-- At its end the session was played for three seconds. -/
theorem elapsed_pausedMidway :
    InOrder pausedMidwayFrames ∧
      pausedMidwayFrames.head?.map (fun frame => frame.sample.elapsed) =
        some (Duration.seconds 3000000000) := by
  have ordered : InOrder pausedMidwayFrames := by
    rw [InOrder]
    decide
  refine ⟨ordered, ?_⟩
  cases equal : pausedMidwayFrames with
  | nil => exact absurd (congrArg List.length equal) (by decide)
  | cons frame earlier =>
      have played : playedTime pausedMidwayFrames = 3000000000 := by decide
      have run : frame :: earlier <:+ pausedMidwayFrames := equal ▸ List.suffix_rfl
      have shown := (elapsed_eq_playedTime _ _ _ pausedMidway 1 ordered frame earlier run).1
      rw [equal] at played
      rw [played] at shown
      simp [shown]

end LiveShader.Session
