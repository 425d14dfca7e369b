import LiveShader.Proofs.Session.Readouts
import LiveShader.Window.Title

/-!
# What a title says of a pause

A title marks a pause where a readout has no rate.  No rate ends like the mark, so the title
ends with the mark exactly if the rate is missing.  Whether that says anything of the pause
flag depends on the frame.  The first frame of a session has no rate, paused or not, and a
reset during a pause gives the readout a rate as if time went on.
-/

namespace LiveShader.Number

theorem getLast?_append_of_some (front : String) {text : String} {last : Char}
    (final : text.toList.getLast? = some last) :
    (front ++ text).toList.getLast? = some last := by
  rw [String.toList_append, List.getLast?_append, final]
  rfl

/-- A number with a fixed count of places ends with a digit, or with the last letter of a word. -/
theorem getLast?_fixedPlaces (places : Nat) (decoded : Decoded) :
    ∃ last, (fixedPlaces places decoded).toList.getLast? = some last ∧ last ≠ ')' := by
  cases decoded with
  | notANumber negative => exact ⟨'N', by rw [fixedPlaces]; rfl, by decide⟩
  | infinite negative => exact ⟨'f', by rw [fixedPlaces]; cases negative <;> rfl, by decide⟩
  | finite negative significand exponent =>
      rw [fixedPlaces]
      generalize roundDivEven _ _ % _ = rest
      obtain ⟨last, final⟩ : ∃ last, (Nat.toDigits 10 rest).getLast? = some last :=
        Option.isSome_iff_exists.mp (List.getLast?_isSome.mpr Nat.toDigits_ne_nil)
      have digit : last.isDigit = true :=
        Nat.isDigit_of_mem_toDigits (by decide) (by decide) (List.mem_of_getLast? final)
      refine ⟨last, getLast?_append_of_some _ ?_, ?_⟩
      · rw [padded, String.toList_ofList, List.getLast?_append, final]
        rfl
      · rintro rfl
        cases digit

end LiveShader.Number

namespace LiveShader.Window

open LiveShader.Playback LiveShader.Session

/-! ## Endings of titles -/

/-- Whether a text ends with another. -/
def EndsWith (text ending : String) : Prop := ∃ front, text = front ++ ending

/-- The part of a title before the rate or the mark. -/
def beforeRate (base : String) (readout : Readout) : String :=
  base ++ (" | t=" ++ Number.fixedPlaces 2 (Number.decodeSingle readout.elapsed))

theorem title_of_rate {base : String} {readout : Readout} {rate : Number.Single}
    (shown : readout.rate = some rate) :
    title base (some readout) none = beforeRate base readout ++ rateText rate := by
  simp only [title, readoutText, shown, beforeRate, String.append_assoc]

theorem title_of_no_rate {base : String} {readout : Readout} (shown : readout.rate = none) :
    title base (some readout) none = beforeRate base readout ++ pausedMark := by
  simp only [title, readoutText, shown, beforeRate, String.append_assoc]

/-- No rate ends like the mark of a pause. -/
theorem not_endsWith_pausedMark (front : String) (rate : Number.Single) :
    ¬ EndsWith (front ++ rateText rate) pausedMark := by
  rintro ⟨other, equal⟩
  obtain ⟨last, final, differs⟩ := Number.getLast?_fixedPlaces 1 (Number.decodeSingle rate)
  have ends : (front ++ rateText rate).toList.getLast? = some last :=
    Number.getLast?_append_of_some front (Number.getLast?_append_of_some _ final)
  have marked : (other ++ pausedMark).toList.getLast? = some ')' :=
    Number.getLast?_append_of_some other rfl
  rw [equal] at ends
  cases ends.symm.trans marked
  exact differs rfl

theorem endsWith_pausedMark_iff (base : String) (readout : Readout) :
    EndsWith (title base (some readout) none) pausedMark ↔ readout.rate = none := by
  cases shown : readout.rate with
  | none => exact iff_of_true ⟨_, title_of_no_rate shown⟩ rfl
  | some rate =>
      rw [title_of_rate shown]
      exact iff_of_false (not_endsWith_pausedMark _ rate) (Option.some_ne_none rate)

/-- A title that speaks of a pause as it should, given the pause flag. -/
structure SaysPaused (text : String) (paused : Bool) : Prop where
  mark : EndsWith text pausedMark ↔ paused = true
  rate : paused = false → ∃ rate, EndsWith text (rateText rate)

theorem saysPaused_iff (base : String) (readout : Readout) (paused : Bool) :
    SaysPaused (title base (some readout) none) paused ↔
      (readout.rate = none ↔ paused = true) := by
  have marked := endsWith_pausedMark_iff base readout
  constructor
  · intro spoken
    exact marked.symm.trans spoken.mark
  · intro rates
    refine ⟨marked.trans rates, fun playing => ?_⟩
    cases shown : readout.rate with
    | none => cases playing.symm.trans (rates.mp shown)
    | some rate => exact ⟨rate, _, title_of_rate shown⟩

section Run

variable {δ : Type} [Device δ] {inputs : Inputs} {builtins : Program.BuiltinNames} {device : δ}
  {requests : List Request} {session : Id} {current : Attempt} {earlier : List Attempt}

/--
When a title speaks of the pause as it should.  Take any run, any of its sessions, and a frame
of it that is rendered and gives the host a readout, with the earlier frames of the session.
The title for that readout is to end with the mark exactly if the frame was paused, and
otherwise with a rate.  For a frame that was paused it does, unless a reset waited for it and
it is later than the frame before it.  For any other frame it does exactly if the frame is
later than the one before it, and so never for the first.
-/
theorem saysPaused_title_iff
    (run : current :: earlier <:+ attemptsOf session
      ((Schedule.start (Player.start inputs builtins) device).attempts requests))
    {report : Report} (rendered : current.outcome = .rendered report) {readout : Readout}
    (given : report.readout = some readout) (base : String) :
    SaysPaused (title base (some readout) none) current.frame.inputs.paused ↔
      (current.frame.inputs.paused = true →
        ¬ (current.frame.inputs.pending.reset = true ∧ LaterThanLast current earlier)) ∧
      (current.frame.inputs.paused = false → LaterThanLast current earlier) := by
  have decided : current.frame.sample.readout = some readout := by
    rw [← (reports_of_run run current (by simp) report rendered).2]
    exact given
  rw [saysPaused_iff, rate_eq_none_iff (unbroken_attemptsOf.of_suffix run) decided]
  cases current.frame.inputs.paused with
  | false => simp
  | true => cases current.frame.inputs.pending.reset <;> simp

end Run

/-- Two frames of a session, a second apart, with a change between them; the newest comes first. -/
def framesAround (paused : Bool) (change : Change) : List Attempt :=
  attemptsOf 1 ((Schedule.start (Player.start (.start ⟨4, 4⟩ paused) .standard)
    (Device.Scripted.ofViewport ⟨4, 4⟩)).attempts
      [.reload "void main() \x7b\x7d" [], .frame ⟨1⟩ 0, .change change, .frame ⟨1⟩ 1000000000])

/-- The title marks a pause that begins between the two frames. -/
theorem saysPaused_pausing :
    ∃ current first report readout, framesAround false .togglePaused = [current, first] ∧
      current.outcome = .rendered report ∧ report.readout = some readout ∧
      current.frame.inputs.paused = true ∧
      SaysPaused (title "Shader Workshop" (some readout) none) true := by
  obtain ⟨current, first, report, readout, frames, rendered, given, paused, noReset⟩ :
      ∃ current first report readout, framesAround false .togglePaused = [current, first] ∧
        current.outcome = .rendered report ∧ report.readout = some readout ∧
        current.frame.inputs.paused = true ∧ current.frame.inputs.pending.reset = false :=
    ⟨_, _, _, _, rfl, rfl, rfl, rfl, rfl⟩
  have run : [current, first] <:+ framesAround false .togglePaused := frames ▸ List.suffix_rfl
  have speaks := saysPaused_title_iff run rendered given "Shader Workshop"
  rw [paused, noReset] at speaks
  exact ⟨current, first, report, readout, frames, rendered, given, paused,
    speaks.mpr ⟨fun _ reset => Bool.false_ne_true reset.1, nofun⟩⟩

/-- A reset during a pause makes the title show a rate, as if time went on. -/
theorem unmarked_reset :
    InOrder ((framesAround true .resetTime).map Attempt.frame) ∧
      ∃ current first report readout, framesAround true .resetTime = [current, first] ∧
        current.outcome = .rendered report ∧ report.readout = some readout ∧
        current.frame.inputs.paused = true ∧
        ¬ SaysPaused (title "Shader Workshop" (some readout) none) true := by
  have ordered : InOrder ((framesAround true .resetTime).map Attempt.frame) := by
    rw [InOrder]
    decide
  obtain ⟨current, first, report, readout, frames, rendered, given, paused, rate⟩ :
      ∃ current first report readout, framesAround true .resetTime = [current, first] ∧
        current.outcome = .rendered report ∧ report.readout = some readout ∧
        current.frame.inputs.paused = true ∧ readout.rate.isSome = true :=
    ⟨_, _, _, _, rfl, rfl, rfl, rfl, rfl⟩
  refine ⟨ordered, current, first, report, readout, frames, rendered, given, paused, ?_⟩
  rw [saysPaused_iff]
  intro marked
  rw [marked.mpr rfl] at rate
  cases rate

end LiveShader.Window
