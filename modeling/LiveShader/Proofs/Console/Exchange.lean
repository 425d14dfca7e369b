import LiveShader.Device.Scripted
import LiveShader.Proofs.Console.Tracking
import LiveShader.Proofs.Window.Reports

/-!
# The operator and the window as two parties

The operator hands commands to the window through one queue, and the signals of the window
come back through another.  Each party goes on by itself, so that several loads can be under
way before the operator hears of the first.  Every load is numbered when it is sent, and the
signals that the window gives while it handles a load carry its number.

A failed build is printed with the table of the fragment that was sent last by then.  That is
the table of the fragment that failed if no other load was sent since, and otherwise only if
the two fragments have the same.
-/

namespace LiveShader.Console

open LiveShader.Files LiveShader.Fragment LiveShader.Window

/-! ## Loads of the operator -/

/-- The lines that explain the file numbers of a fragment, if it has more than one file. -/
def tableOf (loaded : Loaded) : List Printed :=
  if 1 < loaded.files.length then [.complaint loaded.filesTable] else []

/-- A turn hands over a load exactly when it makes a fragment current. -/
def Hands (operator : Operator) (turn : Turn) : Prop :=
  turn.operator.current = operator.current ∧ turn.shown? = none ∨
    ∃ loaded controls, turn.operator.current = some loaded ∧
      turn.sent = some (.load loaded.content controls)

theorem printed_buildFailed (operator : Operator) (report : String) :
    (operator.onSignal (.buildFailed report)).printed =
      .complaint report :: operator.tableLines := rfl

theorem tableLines_of_current {operator : Operator} {loaded : Loaded}
    (current : operator.current = some loaded) : operator.tableLines = tableOf loaded := by
  rw [Operator.tableLines, current]
  rfl

section Hands

variable {operator : Operator}

theorem hands_reload (operator : Operator) (place : Place) :
    Hands operator (operator.reload place) := by
  cases selected : operator.selected with
  | none =>
      rw [Operator.reload, selected]
      exact Or.inl ⟨rfl, rfl⟩
  | some file =>
      rcases reload_cases place selected with ⟨after, silent⟩ | ⟨loaded, controls, after, sent⟩
      · left
        rw [after, Turn.shown?, silent]
        exact ⟨track_current operator place.files file, rfl⟩
      · right
        rw [after]
        exact ⟨loaded, controls, rfl, sent⟩

theorem hands_select (operator : Operator) (place : Place) (name : String) :
    Hands operator (operator.select place name) := by
  rw [Operator.select]
  split
  · exact Or.inl ⟨rfl, rfl⟩
  · exact hands_reload _ place

theorem hands_event (operator : Operator) (place : Place) (event : Fragment.Event) :
    Hands operator (operator.onEvent place event) := by
  cases event with
  | listChanged =>
      have kept := refresh_current operator place.files
      rw [Operator.onEvent, Operator.selectFirst]
      split
      · rename_i first others unselected listed
        have hands := hands_select (operator.refresh place.files) place first
        rw [Hands, kept] at hands
        exact hands
      · exact Or.inl ⟨kept, rfl⟩
  | changed name =>
      rw [Operator.onEvent]
      split
      · exact hands_reload operator place
      · exact Or.inl ⟨rfl, rfl⟩

theorem hands_line (operator : Operator) (place : Place) (text : String) :
    Hands operator (operator.onLine place text) := by
  rcases onLine_eq operator place text with ⟨_, same, silent⟩ | ⟨name, _, selects⟩
  · exact Or.inl ⟨congrArg Operator.current same, silent⟩
  · rw [selects]
    exact hands_select operator place name

theorem hands_meet (operator : Operator) (place : Place) (occasion : Occasion) :
    Hands operator (operator.meet place occasion) := by
  cases occasion with
  | refresh => exact Or.inl ⟨refresh_current operator place.files, rfl⟩
  | select name => exact hands_select operator place name
  | event event => exact hands_event operator place event
  | line text => exact hands_line operator place text
  | signal signal => cases signal <;> exact Or.inl ⟨rfl, rfl⟩

end Hands

/-! ## Two parties and two queues -/

/-- Something under way, with the number of the load that it is or that it comes from. -/
structure Parcel (content : Type) where
  load : Option Nat
  content : content

/-- The operator and the window, and what is under way between them. -/
structure Exchange (δ : Type) [Device δ] where
  operator : Operator
  window : Runtime δ
  /-- The commands that the window did not handle yet, the oldest first. -/
  commands : List (Parcel Window.Command)
  /-- The signals that the operator did not handle yet, the oldest first. -/
  signals : List (Parcel Signal)
  /-- The fragments of the loads that were sent, the oldest first. -/
  sent : List Loaded

/-- Which party goes on, and how. -/
inductive Move where
  /-- The fragments are listed, as when the program starts. -/
  | refresh (place : Place)
  /-- A fragment is selected, as when the program starts. -/
  | select (place : Place) (name : String)
  | event (place : Place) (event : Fragment.Event)
  | line (place : Place) (text : String)
  /-- The operator handles the oldest signal. -/
  | signal
  /-- The window handles the oldest command. -/
  | command
  /-- Something happens to the window. -/
  | happen (surroundings : Surroundings) (event : Window.Event)

namespace Exchange

variable {δ : Type} [Device δ]

/-- A new window, and an operator that has not selected anything. -/
def start (library : Library) (device : δ) (config : Config) (fault : Option Fault) :
    Exchange δ :=
  ⟨.start library,
    ⟨.start device config.title config.startPaused config.captureDirectory, false, fault⟩,
    [], [], []⟩

/-- The exchange after a turn of the operator, with the command that it hands over. -/
def take (exchange : Exchange δ) (turn : Turn) : Exchange δ :=
  match turn.sent with
  | none => { exchange with operator := turn.operator }
  | some (.load source controls) =>
      { exchange with
        operator := turn.operator
        commands := exchange.commands ++ [⟨some exchange.sent.length, .load source controls⟩]
        sent := exchange.sent ++ turn.operator.current.toList }
  | some command =>
      { exchange with
        operator := turn.operator
        commands := exchange.commands ++ [⟨none, command⟩] }

/-- The operator is called. -/
def call (exchange : Exchange δ) (place : Place) (occasion : Occasion) : Exchange δ :=
  exchange.take (exchange.operator.meet place occasion)

/-- The exchange with what the window came to, and the signals that it gave meanwhile. -/
def hear (exchange : Exchange δ) (load : Option Nat) (window : Runtime δ) : Exchange δ :=
  { exchange with
    window := window.takeSignals.2
    signals := exchange.signals ++ window.takeSignals.1.map (⟨load, ·⟩) }

/-- The exchange after one of the parties went on.  A window that has ended does nothing. -/
def step [Resizable δ] (exchange : Exchange δ) : Move → Exchange δ
  | .refresh place => exchange.call place .refresh
  | .select place name => exchange.call place (.select name)
  | .event place event => exchange.call place (.event event)
  | .line place text => exchange.call place (.line text)
  | .signal =>
      match exchange.signals with
      | [] => exchange
      | parcel :: rest =>
          { exchange with signals := rest }.take (exchange.operator.onSignal parcel.content)
  | .command =>
      match exchange.commands with
      | [] => exchange
      | parcel :: rest =>
          { exchange with commands := rest }.hear parcel.load
            ((exchange.window.send? parcel.content).getD exchange.window)
  | .happen surroundings event =>
      exchange.hear none
        (((exchange.window.deliver? surroundings event).map Prod.fst).getD exchange.window)

/-- The exchange after some moves. -/
def run [Resizable δ] (exchange : Exchange δ) (moves : List Move) : Exchange δ :=
  moves.foldl step exchange

/-! ## What is under way -/

/-- The number under which a source was sent to be loaded. -/
def IsLoadOf (sent : List Loaded) (load : Option Nat) (source : String) : Prop :=
  ∃ number loaded, load = some number ∧ sent[number]? = some loaded ∧ loaded.content = source

theorem IsLoadOf.append {sent : List Loaded} {load : Option Nat} {source : String}
    (isLoad : IsLoadOf sent load source) (more : List Loaded) :
    IsLoadOf (sent ++ more) load source := by
  obtain ⟨number, loaded, numbered, found, content⟩ := isLoad
  obtain ⟨inside, _⟩ := List.getElem?_eq_some_iff.mp found
  refine ⟨number, loaded, numbered, ?_, content⟩
  rw [List.getElem?_append_left inside]
  exact found

/-- Loads and reports of failed builds carry the numbers under which they were sent. -/
structure Sound (exchange : Exchange δ) : Prop where
  current : exchange.operator.current = exchange.sent.getLast?
  commands : ∀ parcel ∈ exchange.commands, ∀ source controls,
    parcel.content = .load source controls → IsLoadOf exchange.sent parcel.load source
  signals : ∀ parcel ∈ exchange.signals, ∀ report, parcel.content = .buildFailed report →
    ∃ source, IsLoadOf exchange.sent parcel.load source ∧ ReportsBuild δ source report
  taken : exchange.window.host.signals = []

namespace Sound

variable {exchange : Exchange δ}

theorem start (library : Library) (device : δ) (config : Config) (fault : Option Fault) :
    (Exchange.start library device config fault).Sound := by
  refine ⟨rfl, ?_, ?_, rfl⟩
  · intro parcel member
    cases member
  · intro parcel member
    cases member

/-- A turn that hands over a load sends the fragment that it makes current. -/
theorem take (sound : exchange.Sound) {turn : Turn} (hands : Hands exchange.operator turn) :
    (exchange.take turn).Sound := by
  rw [Exchange.take]
  rcases hands with ⟨kept, silent⟩ | ⟨loaded, controls, current, handed⟩
  · split
    · exact ⟨kept.trans sound.current, sound.commands, sound.signals, sound.taken⟩
    · rename_i source controls handed
      rw [Turn.shown?, handed] at silent
      cases silent
    · rename_i command _ handed
      refine ⟨kept.trans sound.current, ?_, sound.signals, sound.taken⟩
      intro parcel member source controls content
      rcases List.mem_append.mp member with old | new
      · exact sound.commands parcel old source controls content
      · rw [List.mem_singleton.mp new] at content
        rw [show command = .load source controls from content] at handed
        rw [Turn.shown?, handed] at silent
        cases silent
  · -- The new load gets the number of the loads before it, which is its place among them.
    rw [handed]
    dsimp only
    rw [current]
    refine ⟨?_, ?_, ?_, sound.taken⟩
    · exact current.trans List.getLast?_concat.symm
    · intro parcel member source controls content
      rcases List.mem_append.mp member with old | new
      · exact (sound.commands parcel old source controls content).append _
      · rw [List.mem_singleton.mp new] at content ⊢
        cases content
        exact ⟨exchange.sent.length, loaded, rfl, by simp, rfl⟩
    · intro parcel member report content
      obtain ⟨source, isLoad, reports⟩ := sound.signals parcel member report content
      exact ⟨source, isLoad.append _, reports⟩

/-- What the window gives from a load are reports of this load. -/
theorem hear (sound : exchange.Sound) {load : Option Nat} {window : Runtime δ}
    (reported : ∀ report, .buildFailed report ∈ window.host.signals →
      ∃ source, IsLoadOf exchange.sent load source ∧ ReportsBuild δ source report) :
    (exchange.hear load window).Sound := by
  refine ⟨sound.current, sound.commands, ?_, rfl⟩
  intro parcel member report content
  rcases List.mem_append.mp member with old | new
  · exact sound.signals parcel old report content
  · obtain ⟨signal, given, rfl⟩ := List.mem_map.mp new
    rw [show signal = .buildFailed report from content] at given
    exact reported report given

theorem signal (sound : exchange.Sound) {rest : List (Parcel Signal)}
    {parcel : Parcel Signal} (oldest : exchange.signals = parcel :: rest) :
    ({ exchange with signals := rest }.take
      (exchange.operator.onSignal parcel.content)).Sound := by
  have later : ({ exchange with signals := rest } : Exchange δ).Sound := by
    refine ⟨sound.current, sound.commands, ?_, sound.taken⟩
    intro other member
    apply sound.signals other
    rw [oldest]
    exact List.mem_cons_of_mem parcel member
  apply later.take
  exact hands_meet exchange.operator ⟨⟨[], []⟩, true⟩ (.signal parcel.content)

theorem command (sound : exchange.Sound) {rest : List (Parcel Window.Command)}
    {parcel : Parcel Window.Command} (oldest : exchange.commands = parcel :: rest) :
    ({ exchange with commands := rest }.hear parcel.load
      ((exchange.window.send? parcel.content).getD exchange.window)).Sound := by
  have first : parcel ∈ exchange.commands := by
    rw [oldest]
    exact List.mem_cons_self
  have later : ({ exchange with commands := rest } : Exchange δ).Sound := by
    refine ⟨sound.current, ?_, sound.signals, sound.taken⟩
    intro other member
    apply sound.commands other
    rw [oldest]
    exact List.mem_cons_of_mem parcel member
  apply later.hear
  -- All signals of the window so far were taken, so what it gives now is of this command.
  intro report given
  cases sent : exchange.window.send? parcel.content with
  | none =>
      rw [sent, Option.getD_none, sound.taken] at given
      cases given
  | some window =>
      rw [sent, Option.getD_some] at given
      rcases Runtime.mem_send? sent given with old | ⟨source, controls, content, reports⟩
      · rw [sound.taken] at old
        cases old
      · exact ⟨source, sound.commands parcel first source controls content, reports⟩

theorem happen [Resizable δ] (sound : exchange.Sound) (surroundings : Surroundings)
    (event : Window.Event) :
    (exchange.hear none
      (((exchange.window.deliver? surroundings event).map Prod.fst).getD
        exchange.window)).Sound := by
  apply sound.hear
  intro report given
  cases delivered : exchange.window.deliver? surroundings event with
  | none =>
      rw [delivered, Option.map_none, Option.getD_none, sound.taken] at given
      cases given
  | some after =>
      rw [delivered, Option.map_some, Option.getD_some] at given
      have old := Runtime.mem_deliver? delivered given
      rw [sound.taken] at old
      cases old

/-- Whichever party goes on, what is under way keeps its numbers. -/
theorem step [Resizable δ] (sound : exchange.Sound) (move : Move) :
    (exchange.step move).Sound := by
  cases move with
  | refresh place => exact sound.take (hands_meet _ place .refresh)
  | select place name => exact sound.take (hands_meet _ place (.select name))
  | event place event => exact sound.take (hands_meet _ place (.event event))
  | line place text => exact sound.take (hands_meet _ place (.line text))
  | signal =>
      rw [Exchange.step]
      split
      · exact sound
      · rename_i oldest
        exact sound.signal oldest
  | command =>
      rw [Exchange.step]
      split
      · exact sound
      · rename_i oldest
        exact sound.command oldest
  | happen surroundings event => exact sound.happen surroundings event

theorem run [Resizable δ] (sound : exchange.Sound) (moves : List Move) :
    (exchange.run moves).Sound := by
  induction moves generalizing exchange with
  | nil => exact sound
  | cons move rest ih => exact ih (sound.step move)

end Sound

end Exchange

/-! ## The table that explains a failed build -/

/--
When the operator handles the report of a failed build, it is the build of a fragment that
was sent as the load of this number, and what is printed after the report is the table of the
fragment of the last load.  This explains the failed build exactly if both fragments have the
same table, or none because neither has a second file.  It does whenever no load was sent
after the one that failed.
-/
theorem buildFailed_table {δ : Type} [Device δ] [Resizable δ] (library : Library) (device : δ)
    (config : Config) (fault : Option Fault) (moves : List Move) (load : Option Nat)
    (report : String) (rest : List (Parcel Signal))
    (oldest : ((Exchange.start library device config fault).run moves).signals =
      ⟨load, .buildFailed report⟩ :: rest) :
    let exchange := (Exchange.start library device config fault).run moves
    let printed := (exchange.operator.onSignal (.buildFailed report)).printed
    ∃ number failed last, load = some number ∧ exchange.sent[number]? = some failed ∧
      ReportsBuild δ failed.content report ∧ exchange.sent.getLast? = some last ∧
      printed = .complaint report :: tableOf last ∧
      (printed = .complaint report :: tableOf failed ↔ tableOf last = tableOf failed) ∧
      (number + 1 = exchange.sent.length → last = failed) := by
  intro exchange printed
  have sound : exchange.Sound := (Exchange.Sound.start library device config fault).run moves
  have member : (⟨load, .buildFailed report⟩ : Parcel Signal) ∈ exchange.signals := by
    rw [oldest]
    exact List.mem_cons_self
  obtain ⟨_, ⟨number, failed, numbered, found, rfl⟩, reports⟩ :=
    sound.signals _ member report rfl
  obtain ⟨inside, _⟩ := List.getElem?_eq_some_iff.mp found
  have someSent : exchange.sent ≠ [] := List.ne_nil_of_length_pos (by omega)
  have newest := List.getLast?_eq_some_getLast someSent
  have prints : printed = .complaint report :: tableOf (exchange.sent.getLast someSent) := by
    rw [← tableLines_of_current (sound.current.trans newest)]
    exact printed_buildFailed exchange.operator report
  refine ⟨number, failed, _, numbered, found, reports, newest, prints, ?_, ?_⟩
  · rw [prints, List.cons.injEq]
    exact and_iff_right rfl
  · intro only
    rw [List.getLast?_eq_getElem?, ← only, Nat.add_sub_cancel, found] at newest
    exact (Option.some.inj newest).symm

/-- A directory of fragments. -/
def workbench : Directory := ⟨["lib"], by
  intro name member
  rw [List.mem_singleton.mp member]
  constructor <;> decide⟩

/-- Two fragments, of which only the first includes a file. -/
def workbenchFiles : Tree := ⟨[
  (["lib"], .directory),
  (["lib", "a.frag"], .file (.text "#include x\nvoid main() { boom }\n")),
  (["lib", "x.glsl"], .file (.text "// x\n")),
  (["lib", "b.frag"], .file (.text "void main() {}\n"))], []⟩

instance : Resizable Device.Scripted where
  resize device size := { device with viewport := size }

/-- A device that does not compile the first fragment. -/
def booming : Device.Scripted :=
  { Device.Scripted.ofViewport Config.default.size with fragmentFailure := some "0:2: boom" }

/-- What some moves of an operator and a window come to. -/
def atWorkbench (moves : List Move) : Exchange Device.Scripted :=
  (Exchange.start (.of workbench) booming .default none).run moves

/-- The window loads a fragment before the operator selects another one. -/
def unhurried : List Move := [.select ⟨workbenchFiles, true⟩ "a", .command]

/-- The operator selects another fragment before the window loads the first one. -/
def overtaken : List Move :=
  [.select ⟨workbenchFiles, true⟩ "a", .select ⟨workbenchFiles, true⟩ "b", .command]

/-- Whether all that is under way is the report that the first load failed. -/
def onlyFirstFailed : List (Parcel Signal) → Bool
  | [⟨some 0, .buildFailed _⟩] => true
  | _ => false

theorem eq_of_onlyFirstFailed {signals : List (Parcel Signal)}
    (only : onlyFirstFailed signals = true) :
    ∃ report, signals = [⟨some 0, .buildFailed report⟩] := by
  rw [onlyFirstFailed.eq_def] at only
  split at only
  · exact ⟨_, rfl⟩
  · cases only

/-- The build that failed is that of two files, and no table is printed after its report. -/
theorem overtaken_unexplained :
    ∃ report, (atWorkbench overtaken).signals = [⟨some 0, .buildFailed report⟩] ∧
      (atWorkbench overtaken).sent.map Loaded.files = [["a.frag", "x.glsl"], ["b.frag"]] ∧
      ((atWorkbench overtaken).operator.onSignal (.buildFailed report)).printed =
        [.complaint report] := by
  have only : onlyFirstFailed (atWorkbench overtaken).signals = true := by decide +kernel
  have silent : (atWorkbench overtaken).operator.tableLines = [] := by decide +kernel
  obtain ⟨report, oldest⟩ := eq_of_onlyFirstFailed only
  refine ⟨report, oldest, by decide +kernel, ?_⟩
  rw [printed_buildFailed, silent]

/-- Without another load, the table is that of the fragment that failed. -/
theorem unhurried_explained :
    ∃ report failed, (atWorkbench unhurried).signals = [⟨some 0, .buildFailed report⟩] ∧
      (atWorkbench unhurried).sent = [failed] ∧ failed.files = ["a.frag", "x.glsl"] ∧
      ((atWorkbench unhurried).operator.onSignal (.buildFailed report)).printed =
        [.complaint report, .complaint failed.filesTable] := by
  have only : onlyFirstFailed (atWorkbench unhurried).signals = true := by decide +kernel
  have files : (atWorkbench unhurried).sent.map Loaded.files = [["a.frag", "x.glsl"]] := by
    decide +kernel
  obtain ⟨report, oldest⟩ := eq_of_onlyFirstFailed only
  obtain ⟨failed, sent, named⟩ := List.map_eq_singleton_iff.mp files
  obtain ⟨number, other, last, _, _, _, newest, prints, _, _⟩ :=
    buildFailed_table (.of workbench) booming .default none unhurried (some 0) report [] oldest
  rw [show (Exchange.run _ unhurried).sent = [failed] from sent] at newest
  have same : failed = last := Option.some.inj newest
  subst same
  refine ⟨report, failed, oldest, sent, named, prints.trans ?_⟩
  rw [tableOf, if_pos (by simp [named])]

end LiveShader.Console
