import LiveShader.Proofs.Device.Calls
import LiveShader.Proofs.Session.Run

/-!
# The calls of a player

Whatever a player does, the calls of its device are a sequence of blocks.  The reason why
no place of a uniform reaches another program is kept beside it: the places of the
installed session were looked up in its own program when that was built.
-/

namespace LiveShader.Session

open LiveShader.Device LiveShader.Playback

variable {δ : Type} [Device δ]

/-! ## Frames -/

section Frames

theorem captureIfAsked_calls (journaled : Journaled δ) (asked : Bool) :
    (captureIfAsked journaled asked).1.isSome = asked ∧
      (captureIfAsked journaled asked).2.entries =
        (if asked then [Entry.captured] else []) ++ journaled.entries := by
  cases asked with
  | false => exact ⟨rfl, rfl⟩
  | true => exact ⟨rfl, rfl⟩

/-- A place that one of the uniforms of a session has. -/
def HasPlace (session : Session (Journaled δ)) (slot : Slot (Journaled δ)) : Prop :=
  ∃ binding ∈ session.bindings.toList, binding.place = some slot

/-- The places of an upload are those of the session. -/
theorem hasPlace_of_mem_writes {session : Session (Journaled δ)} {frame : Program.FrameUniforms}
    {values : Control.Values} {write : Write δ}
    (member : write ∈ session.bindings.writes frame values) : HasPlace session write.1 :=
  Program.Bindings.place_of_mem_writes member

theorem drawn_calls (session : Session (Journaled δ)) (journaled : Journaled δ)
    (inputs : Inputs) (sample : Sample) :
    (drawn session journaled inputs sample).entries =
      .drew :: (((session.bindings.writes
          (frameUniforms (Device.viewport journaled) sample.elapsed inputs)
          inputs.controls).map setEntry).reverse ++
        .bound session.program.number :: journaled.entries) := by
  let frame := frameUniforms (Device.viewport journaled) sample.elapsed inputs
  let bound := Device.bindProgram journaled session.program
  have started : bound.entries = .bound session.program.number :: journaled.entries := rfl
  have written : (session.bindings.upload bound frame inputs.controls).entries =
      ((session.bindings.writes frame inputs.controls).map setEntry).reverse ++ bound.entries :=
    (congrArg Journaled.entries (Program.Bindings.upload_eq _ bound frame _)).trans
      (Journaled.entries_setAll bound _)
  rw [← started, ← written]
  rfl

/-- A frame that is drawn binds, writes, draws, is captured if that was asked, and ends. -/
theorem draw_calls (session : Session (Journaled δ)) (journaled : Journaled δ)
    (inputs : Inputs) (sample : Sample) :
    (session.draw journaled inputs sample).2.1.entries =
      (.bound session.program.number ::
        ((session.bindings.writes
            (frameUniforms (Device.viewport journaled) sample.elapsed inputs)
            inputs.controls).map setEntry ++
          .drew :: ((if inputs.pending.capture then [.captured] else []) ++
            [.ended]))).reverse ++ journaled.entries := by
  have ended : (session.draw journaled inputs sample).2.1.entries =
      .ended :: (captureIfAsked (drawn session journaled inputs sample)
        inputs.pending.capture).2.entries := rfl
  rw [ended, (captureIfAsked_calls _ _).2, drawn_calls]
  cases inputs.pending.capture <;> simp

/-- The values that a frame uploads, if its target is acquired. -/
def frameValues (journaled : Journaled δ) (inputs : Inputs) (report : Report) :
    Program.FrameUniforms :=
  frameUniforms (Device.viewport (Device.beginFrame journaled).2) report.elapsed inputs

/-- A frame is one block: it fails to begin, or it is rendered with the session's program. -/
theorem frame_calls (session : Session (Journaled δ)) (journaled : Journaled δ)
    (inputs : Inputs) (now : Instant) :
    ((∃ error, (session.frame journaled inputs now).outcome = .skipped error) ∧
      (session.frame journaled inputs now).device.entries =
        .beginFailed :: journaled.entries) ∨
    ∃ report, (session.frame journaled inputs now).outcome = .rendered report ∧
      (session.frame journaled inputs now).device.entries =
        (frameCalls session.program.number
          (session.bindings.writes (frameValues journaled inputs report) inputs.controls)
          report.capture.isSome).reverse ++ journaled.entries := by
  rw [Session.frame]
  generalize session.timeline.advance now inputs.paused inputs.pending = advanced
  rcases advanced with ⟨sample, timeline, pending⟩
  simp only [frameValues, Device.beginFrame]
  rcases Device.beginFrame journaled.device with ⟨error | _, device⟩
  · exact Or.inl ⟨⟨error, rfl⟩, rfl⟩
  · refine Or.inr ⟨_, rfl, ?_⟩
    dsimp only
    have drawn := draw_calls { session with timeline := timeline }
      (journaled.note .began device) { inputs with pending := pending } sample
    rw [drawn]
    have asked : (Session.draw { session with timeline := timeline }
        (journaled.note .began device) { inputs with pending := pending }
        sample).1.capture.isSome = pending.capture :=
      (captureIfAsked_calls _ pending.capture).1
    rw [asked]
    simp only [frameCalls, List.reverse_cons, List.append_assoc]
    rfl

end Frames

/-! ## Players -/

theorem place_of_mem_resolve {journaled : Journaled δ}
    {program : Device.Program (Journaled δ)} {builtins : Program.BuiltinNames}
    {controls : List Control.Spec} {binding : Program.Binding (Slot (Journaled δ))}
    (member : binding ∈
      (Program.Bindings.resolve journaled program builtins controls).toList) :
    binding.place = Device.slot? journaled program binding.name := by
  simp only [Program.Bindings.toList, Program.Bindings.resolve, List.mem_cons,
    List.mem_map] at member
  rcases member with rfl | rfl | rfl | ⟨spec, _, rfl⟩ <;> rfl

namespace Player

/-- The places of the installed session were looked up in its program, right after its build. -/
def LookedUp (player : Player (Journaled δ)) (entries : List Entry) : Prop :=
  ∀ session, player.session = some session → ∃ before built source,
    Program.build before source = (.ok session.program, built) ∧ built.entries <:+ entries ∧
      ∀ binding ∈ session.bindings.toList,
        binding.place = Device.slot? built session.program binding.name

/-- The calls so far are blocks, and the next frame will write to its own program. -/
structure InBlocks (player : Player (Journaled δ)) (journaled : Journaled δ) : Prop where
  blocks : Blocks δ journaled.entries
  lookedUp : player.LookedUp journaled.entries

variable {player : Player (Journaled δ)} {journaled : Journaled δ}

theorem LookedUp.resolved {entries : List Entry} (lookedUp : player.LookedUp entries)
    {session : Session (Journaled δ)} (present : player.session = some session)
    {slot : Slot (Journaled δ)} (place : HasPlace session slot) :
    Resolved entries session.program slot := by
  obtain ⟨before, built, source, build, past, places⟩ := lookedUp session present
  obtain ⟨binding, member, equal⟩ := place
  have found : Device.slot? built session.program binding.name = some slot := by
    rw [← places binding member, equal]
  refine ⟨before, built, source, build, past, ?_⟩
  rw [(program_of_slot? found).2]
  exact found

theorem inBlocks_start (inputs : Inputs) (builtins : Program.BuiltinNames) (device : δ) :
    (Player.start inputs builtins).InBlocks (Journaled.start device) := by
  refine ⟨.nil, ?_⟩
  intro session present
  cases present

/-- A block of calls that leaves the session in place. -/
theorem InBlocks.append (inBlocks : player.InBlocks journaled) {later : Player (Journaled δ)}
    {after : Journaled δ} {calls : List Entry} (block : Block δ journaled.entries calls)
    (entries : after.entries = calls.reverse ++ journaled.entries)
    (same : ∀ session, later.session = some session → ∃ earlier,
      player.session = some earlier ∧ session.program = earlier.program ∧
        session.bindings = earlier.bindings) : later.InBlocks after := by
  constructor
  · rw [entries]
    exact inBlocks.blocks.append block
  · intro session present
    obtain ⟨earlier, was, program, bindings⟩ := same session present
    obtain ⟨before, built, source, build, past, places⟩ := inBlocks.lookedUp earlier was
    rw [entries, program, bindings]
    exact ⟨before, built, source, build, past.trans (List.suffix_append _ _), places⟩

theorem InBlocks.mapInputs (inBlocks : player.InBlocks journaled) (change : Inputs → Inputs) :
    (player.mapInputs change).InBlocks journaled :=
  ⟨inBlocks.blocks, inBlocks.lookedUp⟩

/-- The release of a program is a block of its own. -/
theorem InBlocks.ended (inBlocks : player.InBlocks journaled) :
    player.ended.InBlocks (player.teardown journaled).2 := by
  rw [teardown_eq]
  cases present : player.session with
  | none =>
      refine ⟨inBlocks.blocks, ?_⟩
      intro session impossible
      cases impossible
  | some session =>
      refine inBlocks.append (.released session.program.number) rfl ?_
      intro session impossible
      cases impossible

theorem InBlocks.reload (inBlocks : player.InBlocks journaled) (source : String)
    (controls : List Control.Spec) :
    (player.reload journaled source controls).player.InBlocks
      (player.reload journaled source controls).device := by
  have ended := inBlocks.ended
  obtain ⟨calls, block, entries⟩ := (player.teardown journaled).2.build_block source
  rw [reload_eq]
  cases built : Program.build (player.teardown journaled).2 source with
  | mk result device =>
      rw [built] at entries
      cases result with
      | error halt =>
          refine ended.append block entries ?_
          intro session present
          rw [failed_session] at present
          cases present
      | ok program =>
          constructor
          · dsimp only at entries ⊢
            rw [entries]
            exact ended.blocks.append block
          · intro session present
            cases present
            exact ⟨_, device, source, built, List.suffix_rfl,
              fun binding member => place_of_mem_resolve member⟩

theorem InBlocks.runFrame (inBlocks : player.InBlocks journaled) (ticket : Ticket)
    (now : Instant) :
    (player.runFrame journaled ticket now).player.InBlocks
      (player.runFrame journaled ticket now).device := by
  cases accepted : player.accepting? ticket with
  | none =>
      rw [runFrame_of_rejecting accepted]
      exact inBlocks
  | some session =>
      have present := session_of_accepting accepted
      rw [runFrame_of_accepting accepted]
      have same : ∀ later,
          some (session.frame journaled player.inputs now).session = some later →
          ∃ earlier, player.session = some earlier ∧ later.program = earlier.program ∧
            later.bindings = earlier.bindings := by
        rintro later ⟨⟩
        refine ⟨session, present, ?_, ?_⟩ <;> rw [frame_session]
      rcases frame_calls session journaled player.inputs now with
        ⟨_, entries⟩ | ⟨report, _, entries⟩
      · exact inBlocks.append .beginFailed entries same
      · refine inBlocks.append (.rendered session.program _ _ ?_) entries same
        intro write member
        exact inBlocks.lookedUp.resolved present (hasPlace_of_mem_writes member)

end Player

end LiveShader.Session
