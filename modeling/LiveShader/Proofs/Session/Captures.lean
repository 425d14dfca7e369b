import LiveShader.Proofs.Session.Failure

/-!
# Captures

Asking for a capture sets a flag that belongs to the inputs, not to a session.  Only a frame
that is rendered clears it: requests that change anything else, reloads and shutdowns,
rejected tickets and skipped frames leave it alone.  So the flag is set exactly if a capture
was asked for and no frame was rendered since.

A rendered frame captures once if the flag is set, after it has drawn and before it ends,
and otherwise not at all.  No other request captures anything.
-/

namespace LiveShader.Playback

/-! ## The waiting capture -/

theorem Pending.capture_post (pending : Pending) (action : Action) :
    (pending.post action).capture = (pending.capture || decide (action = .capture)) := by
  cases action with
  | pause => cases waits : pending.resume <;> simp [post, waits]
  | resume => cases waits : pending.pause <;> simp [post, waits]
  | reset => simp [post]
  | capture => simp [post]

theorem Inputs.capture_setPaused (inputs : Inputs) (paused : Bool) :
    (inputs.setPaused paused).pending.capture = inputs.pending.capture := by
  rw [setPaused]
  split
  · rfl
  · cases paused <;> simp [Pending.capture_post]

/-- Of all changes only one sets the flag, and none clears it. -/
theorem Change.capture_apply (change : Change) (inputs : Inputs) :
    (change.apply inputs).pending.capture = true ↔
      change = .capture ∨ inputs.pending.capture = true := by
  cases change with
  | setPaused paused => simp [apply, Inputs.capture_setPaused]
  | togglePaused => simp [apply, Inputs.togglePaused, Inputs.capture_setPaused]
  | resetTime => simp [apply, Inputs.request, Pending.capture_post]
  | capture => simp [apply, Inputs.request, Pending.capture_post]
  | setViewport viewport => simp [apply, Inputs.setViewport]
  | setPointer x y => simp [apply, Inputs.setPointer]
  | setControl name value => simp [apply, (inputs.sameClock_setControl name value).2]
  | setControlText name raw => simp [apply, (inputs.sameClock_setControlText name raw).2]

end LiveShader.Playback

namespace LiveShader.Session

open LiveShader.Device LiveShader.Playback

/-! ## Requests and the flag -/

section Flag

variable {δ : Type} [Device δ]

namespace Player

/-- A frame clears the flag if it is rendered, and leaves it alone otherwise. -/
theorem capture_runFrame (player : Player δ) (device : δ) (ticket : Ticket) (now : Instant) :
    (player.runFrame device ticket now).player.inputs.pending.capture = true ↔
      player.inputs.pending.capture = true ∧
        ∀ report, (player.runFrame device ticket now).outcome ≠ .rendered report := by
  cases accepted : player.accepting? ticket with
  | none => simp [runFrame_of_rejecting accepted]
  | some session =>
      rw [runFrame_of_accepting accepted]
      rcases frame_inputs session device player.inputs now with
        ⟨⟨error, skipped⟩, inputs⟩ | ⟨⟨report, rendered⟩, inputs⟩
      · simp [skipped, inputs, Timeline.remaining, Pending.drop]
      · simp [rendered, inputs, Pending.drop]

end Player

namespace Schedule

/-- What one request does to the flag. -/
theorem capture_serve (schedule : Schedule δ) (request : Request) :
    (schedule.serve request).player.inputs.pending.capture = true ↔
      request = .change .capture ∨
        (schedule.player.inputs.pending.capture = true ∧ ¬ schedule.Renders request) := by
  cases request with
  | change change =>
      have changed : (schedule.serve (.change change)).player.inputs =
          change.apply schedule.player.inputs := rfl
      rw [changed, change.capture_apply]
      simp [Renders, outcome?]
  | reload source controls =>
      rw [serve_reload_player, (schedule.player.sameClock_reload schedule.device source controls).2]
      simp [Renders, outcome?]
  | frame ticket now =>
      rw [serve_frame_player, Player.capture_runFrame]
      simp [Renders, outcome?]
  | shutdown =>
      rw [serve_shutdown_player, Player.ended_inputs]
      simp [Renders, outcome?]

/-- A capture was asked for, and no frame was rendered since. -/
def CaptureWaits (start : Schedule δ) (requests : List Request) : Prop :=
  ∃ before since, requests = before ++ .change .capture :: since ∧
    ∀ report, .rendered report ∉
      (start.serveAll (before ++ [.change .capture])).outcomes since

theorem not_captureWaits_nil (start : Schedule δ) : ¬ start.CaptureWaits [] := by
  rintro ⟨before, since, split, _⟩
  simp at split

/-- One more request asks for a capture, or it leaves a waiting one as it is, or renders. -/
theorem captureWaits_concat (start : Schedule δ) (requests : List Request) (request : Request) :
    start.CaptureWaits (requests ++ [request]) ↔
      request = .change .capture ∨
        (start.CaptureWaits requests ∧ ¬ (start.serveAll requests).Renders request) := by
  have onwards : ∀ before since, requests = before ++ .change .capture :: since →
      (start.serveAll (before ++ [.change .capture])).serveAll since =
        start.serveAll requests := by
    rintro before since rfl
    rw [← serveAll_append]
    simp
  constructor
  · rintro ⟨before, since, split, unrendered⟩
    rcases since.eq_nil_or_concat with rfl | ⟨earlier, last, rfl⟩
    · have last := (List.append_inj' split rfl).2
      exact Or.inl (List.singleton_inj.mp last)
    · simp only [List.concat_eq_append] at split unrendered
      rw [← List.cons_append, ← List.append_assoc] at split
      obtain ⟨rfl, last⟩ := List.append_inj' split rfl
      cases last
      refine Or.inr ⟨⟨before, earlier, rfl, ?_⟩, ?_⟩
      · intro report member
        exact unrendered report (by rw [outcomes_concat]; exact List.mem_append_left _ member)
      · rintro ⟨report, rendered⟩
        apply unrendered report
        rw [outcomes_concat, onwards before earlier rfl, rendered]
        simp
  · rintro (rfl | ⟨⟨before, since, split, unrendered⟩, leaves⟩)
    · exact ⟨requests, [], rfl, by simp [outcomes]⟩
    · refine ⟨before, since ++ [request], by simp [split], ?_⟩
      intro report member
      rw [outcomes_concat, onwards before since split] at member
      rcases List.mem_append.mp member with earlier | last
      · exact unrendered report earlier
      · exact leaves ⟨report, Option.mem_toList.mp last⟩

/-- After any run the flag is set exactly if a capture waits. -/
theorem capture_serveAll {start : Schedule δ} (clear : start.player.inputs.pending.capture = false)
    (requests : List Request) :
    (start.serveAll requests).player.inputs.pending.capture = true ↔
      start.CaptureWaits requests := by
  induction requests using List.reverseRecOn with
  | nil => simp [clear, start.not_captureWaits_nil]
  | append_singleton requests request ih =>
      rw [serveAll_append, serveAll_singleton, capture_serve, captureWaits_concat, ih]

end Schedule

end Flag

/-! ## Requests and the device -/

section Journals

variable {δ : Type} [Device δ]

namespace Schedule

/-- From one device to another, a frame began, bound a program, wrote uniforms and drew. -/
def Draws (before drawn : Journaled δ) : Prop :=
  ∃ program, ∃ writes : List (Write δ), drawn.entries =
    .drew :: ((writes.map setEntry).reverse ++ .bound program :: .began :: before.entries)

/-- A rendered frame draws, captures what it drew if the flag is set, and ends. -/
theorem draws_of_rendered {schedule : Schedule (Journaled δ)} {request : Request}
    {report : Report} (rendered : schedule.outcome? request = some (.rendered report)) :
    ∃ drawn, Draws schedule.device drawn ∧
      report.capture = (captureIfAsked drawn schedule.player.inputs.pending.capture).1 ∧
      (schedule.serve request).device =
        Device.endFrame (captureIfAsked drawn schedule.player.inputs.pending.capture).2 := by
  cases request with
  | change change => cases rendered
  | reload source controls => cases rendered
  | shutdown => cases rendered
  | frame ticket now =>
      rw [serve_frame_device]
      obtain ⟨session, accepted, drew⟩ :=
        Player.exists_accepting_of_rendered (Option.some.inj rendered)
      rw [Player.runFrame_of_accepting accepted]
      obtain ⟨begun, began, rfl, device⟩ := frame_of_rendered drew
      have entries := drawn_calls session begun schedule.player.inputs
        (session.timeline.advance now schedule.player.inputs.paused
          schedule.player.inputs.pending).1
      rw [Journaled.entries_of_begun began] at entries
      exact ⟨_, ⟨_, _, entries⟩, rfl, device⟩

end Schedule

/--
Captures are taken once and never lost.  Take any run and its next request.  If that is a
frame that is rendered and a capture was asked for since the last one was, then what was
drawn is captured before the frame ends, and the report holds the result.  If none was
asked for, the frame ends as it was drawn and the report holds nothing.  If nothing is
rendered, nothing is captured, and a capture that waits goes on waiting.
-/
theorem capture_once (viewport : Size) (paused : Bool) (builtins : Program.BuiltinNames)
    (device : δ) (requests : List Request) (request : Request) :
    let start := Schedule.start (Player.start (.start viewport paused) builtins)
      (Journaled.start device)
    let before := start.serveAll requests
    let after := before.serve request
    (∀ report, before.outcome? request = some (.rendered report) →
      ¬ start.CaptureWaits (requests ++ [request]) ∧
      ∃ drawn, Schedule.Draws before.device drawn ∧
        (start.CaptureWaits requests →
          report.capture = some (Device.capture drawn).1 ∧
            after.device = Device.endFrame (Device.capture drawn).2) ∧
        (¬ start.CaptureWaits requests →
          report.capture = none ∧ after.device = Device.endFrame drawn)) ∧
      (¬ before.Renders request →
        Quiet before.device.entries after.device.entries ∧
          (start.CaptureWaits requests → start.CaptureWaits (requests ++ [request]))) := by
  intro start before after
  have flag := start.capture_serveAll rfl requests
  have kept := start.captureWaits_concat requests request
  constructor
  · intro report rendered
    constructor
    · rw [kept]
      rintro (rfl | ⟨_, leaves⟩)
      · cases rendered
      · exact leaves ⟨report, rendered⟩
    · obtain ⟨drawn, draws, capture, ended⟩ := Schedule.draws_of_rendered rendered
      refine ⟨drawn, draws, ?_, ?_⟩
      · intro waits
        rw [flag.mpr waits] at capture ended
        exact ⟨capture, ended⟩
      · intro clear
        have unset : before.player.inputs.pending.capture = false :=
          Bool.eq_false_iff.mpr fun set => clear (flag.mp set)
        rw [unset] at capture ended
        exact ⟨capture, ended⟩
  · intro leaves
    exact ⟨Schedule.quiet_serve leaves, fun waits => kept.mpr (Or.inr ⟨waits, leaves⟩)⟩

end Journals

/-- A device that refuses its first fragment stage, and skips its first frame. -/
def reluctant : Scripted :=
  { Scripted.ofViewport ⟨2, 2⟩ with
    fragmentFailure := some "no stage"
    beginErrors := [.timeout] }

/--
Two captures are asked for, before and after a reload that fails; a shutdown, another reload
and a skipped frame follow, and then one rendered frame captures once.
-/
theorem capture_once_reluctant :
    let start := Schedule.start (Player.start (.start ⟨2, 2⟩ false) .standard)
      (Journaled.start reluctant)
    let requests : List Request :=
      [.change .capture, .reload "first" [], .change .capture, .shutdown, .reload "second" [],
        .frame ⟨1⟩ 0]
    let before := start.serveAll requests
    ¬ before.Renders (.frame ⟨0⟩ 5) ∧ start.CaptureWaits requests ∧
      ∃ report, before.outcome? (.frame ⟨1⟩ 5) = some (.rendered report) ∧
        ¬ start.CaptureWaits (requests ++ [.frame ⟨1⟩ 5]) ∧
        ∃ drawn, Schedule.Draws before.device drawn ∧
          report.capture = some (Device.capture drawn).1 ∧
          (before.serve (.frame ⟨1⟩ 5)).device = Device.endFrame (Device.capture drawn).2 := by
  intro start requests before
  have skipped : (start.serve (.change .capture)).outcomes requests.tail =
      [.skipped .timeout] := rfl
  have waits : start.CaptureWaits requests := by
    refine ⟨[], requests.tail, rfl, ?_⟩
    intro report member
    rw [List.nil_append, Schedule.serveAll_singleton, skipped] at member
    simp at member
  have stale : ¬ before.Renders (.frame ⟨0⟩ 5) := by
    rintro ⟨report, rendered⟩
    have cancelled : before.outcome? (.frame ⟨0⟩ 5) = some .cancelled := rfl
    rw [cancelled] at rendered
    cases rendered
  obtain ⟨taken, _⟩ := capture_once ⟨2, 2⟩ false .standard reluctant requests (.frame ⟨1⟩ 5)
  obtain ⟨report, rendered⟩ : before.Renders (.frame ⟨1⟩ 5) := ⟨_, rfl⟩
  obtain ⟨done, drawn, draws, captured, _⟩ := taken report rendered
  exact ⟨stale, waits, report, rendered, done, drawn, draws, captured waits⟩

end LiveShader.Session
