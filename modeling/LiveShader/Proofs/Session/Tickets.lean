import LiveShader.Device.Scripted
import LiveShader.Proofs.Session.Numbering

/-!
# Tickets and the sessions that issued them

A register of a run writes down which reload installed the present session, and for
every frame that is scheduled which reload installed the session that asked for it.  It
looks neither at the numbers of sessions nor at what was cancelled.  A ticket is accepted
exactly if it was issued by the session that is installed; once it is rejected it stays
so; and a rejected ticket changes nothing.
-/

namespace LiveShader.Session

open LiveShader.Playback

variable {δ : Type} [Device δ]

/-! ## The register of a run -/

/--
Who issued the tickets of a run.  A session goes by the reload that installed it, and a
reload by the number of requests before it.
-/
structure Register where
  /-- The requests so far. -/
  served : Nat
  installed : Option Nat
  /-- Every ticket that was scheduled, with the session that issued it. -/
  issues : List (Ticket × Option Nat)
  deriving DecidableEq

namespace Schedule

/-- The frames that a request makes the player ask for. -/
def scheduled (schedule : Schedule δ) : Request → List Ticket
  | .reload source controls =>
      (schedule.player.reload schedule.device source controls).result.toOption.toList
  | .frame ticket now =>
      (schedule.player.runFrame schedule.device ticket now).scheduled.toList
  | .change _ | .shutdown => []

/-- The session that is installed after a request. -/
def installedAfter (schedule : Schedule δ) (register : Register) : Request → Option Nat
  | .reload source controls =>
      match (schedule.reload source controls).1 with
      | none => some register.served
      | some _ => none
  | .shutdown => none
  | .change _ | .frame .. => register.installed

def enter (schedule : Schedule δ) (register : Register) (request : Request) : Register :=
  let installed := schedule.installedAfter register request
  { served := register.served + 1
    installed := installed
    issues := register.issues ++ (schedule.scheduled request).map fun ticket =>
      (ticket, installed) }

/-- The register after requests, given the one before them. -/
def enterAll (schedule : Schedule δ) (register : Register) : List Request → Register
  | [] => register
  | request :: rest => (schedule.serve request).enterAll (schedule.enter register request) rest

/-- The register of a run. -/
def register (start : Schedule δ) (requests : List Request) : Register :=
  start.enterAll ⟨0, none, []⟩ requests

theorem issued_serve (schedule : Schedule δ) (request : Request) :
    (schedule.serve request).issued = schedule.issued ++ schedule.scheduled request := by
  cases request with
  | change change => simp [serve, mapInputs, scheduled]
  | shutdown => simp [serve, shutdown, scheduled]
  | reload source controls =>
      simp only [serve, reload, scheduled]
      split
      · rename_i ticket result
        rw [result]
        rfl
      · rename_i error result
        rw [result]
        exact (List.append_nil _).symm
  | frame ticket now =>
      simp only [serve, runTicket, scheduled]
      split
      · rename_i next result
        rw [result]
        rfl
      · rename_i result
        rw [result]
        exact (List.append_nil _).symm

theorem reload_error? (schedule : Schedule δ) (source : String) (controls : List Control.Spec) :
    (schedule.reload source controls).1 =
      match (schedule.player.reload schedule.device source controls).result with
      | .ok _ => none
      | .error halt => some halt := by
  simp only [reload]
  generalize (schedule.player.reload schedule.device source controls).result = result
  cases result <;> rfl

end Schedule

/-! ## The numbers of the tickets -/

section Numbers

variable {schedule : Schedule δ}

theorem numbered_serve (numbered : schedule.player.Numbered) (request : Request) :
    (schedule.serve request).player.Numbered := by
  cases request with
  | change change => exact numbered.mapInputs change.apply
  | reload source controls =>
      rw [Schedule.serve_reload_player]
      exact numbered.reload schedule.device source controls
  | frame ticket now =>
      rw [Schedule.serve_frame_player]
      exact numbered.runFrame schedule.device ticket now
  | shutdown =>
      rw [Schedule.serve_shutdown_player]
      exact numbered.ended

/-- A request leaves the installed session, ends it, or installs one under a new number. -/
theorem installedId?_serve (schedule : Schedule δ) (request : Request) :
    schedule.player.nextSession ≤ (schedule.serve request).player.nextSession ∧
      ∀ id, (schedule.serve request).player.installedId? = some id →
        schedule.player.installedId? = some id ∨ schedule.player.nextSession ≤ id := by
  cases request with
  | change change => exact ⟨Nat.le_refl _, fun id present => Or.inl present⟩
  | reload source controls =>
      rw [Schedule.serve_reload_player]
      rcases schedule.player.reload_numbers schedule.device source controls with
        ⟨error, _, absent, next⟩ | ⟨_, present, next⟩
      · rw [absent, next]
        refine ⟨Nat.le_refl _, ?_⟩
        intro id impossible
        cases impossible
      · rw [present, next]
        refine ⟨Nat.le_succ _, ?_⟩
        rintro id ⟨⟩
        exact Or.inr (Nat.le_refl _)
  | frame ticket now =>
      rw [Schedule.serve_frame_player]
      obtain ⟨ids, _, next⟩ := schedule.player.runFrame_numbers schedule.device ticket now
      rw [ids, next]
      exact ⟨Nat.le_refl _, fun id present => Or.inl present⟩
  | shutdown =>
      rw [Schedule.serve_shutdown_player]
      refine ⟨Nat.le_of_eq schedule.player.ended_nextSession.symm, ?_⟩
      intro id impossible
      cases impossible

/-- A number that is over does not come back. -/
theorem installedId?_ne_serveAll (schedule : Schedule δ) {id : Id}
    (gave : id < schedule.player.nextSession) (dead : schedule.player.installedId? ≠ some id)
    (requests : List Request) :
    (schedule.serveAll requests).player.installedId? ≠ some id := by
  induction requests generalizing schedule with
  | nil => exact dead
  | cons request rest ih =>
      obtain ⟨grows, kept⟩ := installedId?_serve schedule request
      apply ih (schedule.serve request) (Nat.lt_of_lt_of_le gave grows)
      intro present
      rcases kept id present with same | new
      · exact dead same
      · exact Nat.lt_irrefl _ (Nat.lt_of_lt_of_le gave new)

theorem numbered_serveAll (numbered : schedule.player.Numbered) (requests : List Request) :
    (schedule.serveAll requests).player.Numbered := by
  induction requests generalizing schedule with
  | nil => exact numbered
  | cons request rest ih => exact ih (numbered_serve numbered request)

end Numbers

/-! ## The register and the numbers -/

/-- A register that fits a schedule: the same session by its reload and by its number. -/
structure Register.Fits (register : Register) (schedule : Schedule δ) : Prop where
  numbered : schedule.player.Numbered
  issued : register.issues.map Prod.fst = schedule.issued
  installed : register.installed.isSome = schedule.player.installedId?.isSome
  older : ∀ reload, register.installed = some reload → reload < register.served
  /-- Tickets of sessions so far, each with a reload so far. -/
  known : ∀ issue ∈ register.issues, schedule.player.Gave issue.1.session ∧
    ∃ reload, issue.2 = some reload ∧ reload < register.served
  /-- A ticket bears the number of the installed session if that session issued it. -/
  same : ∀ issue ∈ register.issues,
    schedule.player.installedId? = some issue.1.session ↔ register.installed = issue.2

section Fits

variable {schedule : Schedule δ} {register : Register}

/-- A request that asks for no frame and leaves the session or ends it. -/
theorem Register.Fits.quiet (fits : register.Fits schedule) {request : Request}
    (silent : schedule.scheduled request = [])
    (next : (schedule.serve request).player.nextSession = schedule.player.nextSession)
    (session : (schedule.serve request).player.installedId? = schedule.player.installedId? ∧
        schedule.installedAfter register request = register.installed ∨
      (schedule.serve request).player.installedId? = none ∧
        schedule.installedAfter register request = none) :
    (schedule.enter register request).Fits (schedule.serve request) := by
  have issues : (schedule.enter register request).issues = register.issues := by
    simp [Schedule.enter, silent]
  have known : ∀ issue ∈ register.issues, (schedule.serve request).player.Gave issue.1.session ∧
      ∃ reload, issue.2 = some reload ∧ reload < register.served + 1 := by
    intro issue member
    obtain ⟨given, reload, equal, small⟩ := fits.known issue member
    exact ⟨given.mono (Nat.le_of_eq next.symm), reload, equal, Nat.lt_succ_of_lt small⟩
  have issued : register.issues.map Prod.fst = (schedule.serve request).issued := by
    rw [Schedule.issued_serve, silent, List.append_nil]
    exact fits.issued
  have numbered := numbered_serve fits.numbered request
  rcases session with ⟨ids, installed⟩ | ⟨ids, installed⟩
  · refine ⟨numbered, issues ▸ issued, ?_, ?_, issues ▸ known, issues ▸ ?_⟩
    · simp only [Schedule.enter, installed, ids]
      exact fits.installed
    · intro reload present
      exact Nat.lt_succ_of_lt (fits.older reload (installed ▸ present))
    · simp only [Schedule.enter, installed, ids]
      exact fits.same
  · refine ⟨numbered, issues ▸ issued, ?_, ?_, issues ▸ known, issues ▸ ?_⟩
    · simp only [Schedule.enter, installed, ids]
    · intro reload present
      simp only [Schedule.enter, installed] at present
      cases present
    · intro issue member
      obtain ⟨_, reload, equal, _⟩ := known issue member
      simp [Schedule.enter, installed, ids, equal]

/-- A reload that succeeds installs a session that no earlier ticket was issued by. -/
theorem Register.Fits.installs (fits : register.Fits schedule) {source : String}
    {controls : List Control.Spec}
    (result : (schedule.player.reload schedule.device source controls).result =
      .ok ⟨schedule.player.nextSession⟩)
    (present : (schedule.serve (.reload source controls)).player.installedId? =
      some schedule.player.nextSession)
    (next : (schedule.serve (.reload source controls)).player.nextSession =
      schedule.player.nextSession + 1) :
    (schedule.enter register (.reload source controls)).Fits
      (schedule.serve (.reload source controls)) := by
  have installed : schedule.installedAfter register (.reload source controls) =
      some register.served := by
    rw [Schedule.installedAfter, Schedule.reload_error?, result]
  have scheduled : schedule.scheduled (.reload source controls) =
      [⟨schedule.player.nextSession⟩] := by
    rw [Schedule.scheduled, result]
    rfl
  have issues : (schedule.enter register (.reload source controls)).issues =
      register.issues ++ [(⟨schedule.player.nextSession⟩, some register.served)] := by
    simp [Schedule.enter, scheduled, installed]
  have numbered := numbered_serve fits.numbered (.reload source controls)
  refine ⟨numbered, ?_, ?_, ?_, ?_, ?_⟩
  · rw [issues, Schedule.issued_serve, scheduled, List.map_append, fits.issued]
    rfl
  · simp [Schedule.enter, installed, present]
  · intro reload equal
    simp only [Schedule.enter, installed, Option.some.injEq] at equal
    exact equal ▸ Nat.lt_succ_self _
  · rw [issues]
    intro issue member
    rcases List.mem_append.mp member with old | new
    · obtain ⟨given, reload, equal, small⟩ := fits.known issue old
      refine ⟨given.mono ?_, reload, equal, Nat.lt_succ_of_lt small⟩
      rw [next]
      exact Nat.le_succ _
    · cases List.mem_singleton.mp new
      refine ⟨numbered.installed _ present, register.served, rfl, Nat.lt_succ_self _⟩
  · rw [issues]
    intro issue member
    simp only [Schedule.enter, installed, present]
    rcases List.mem_append.mp member with old | new
    · obtain ⟨⟨_, given⟩, reload, equal, small⟩ := fits.known issue old
      rw [equal, Option.some.injEq, Option.some.injEq]
      exact iff_of_false (Nat.ne_of_gt given) (Nat.ne_of_gt small)
    · cases List.mem_singleton.mp new
      simp

/-- An accepted frame asks for another one of its own session. -/
theorem Register.Fits.frame (fits : register.Fits schedule) (ticket : Ticket) (now : Instant) :
    (schedule.enter register (.frame ticket now)).Fits (schedule.serve (.frame ticket now)) := by
  obtain ⟨ids, _, next⟩ := schedule.player.runFrame_numbers schedule.device ticket now
  rw [← Schedule.serve_frame_player] at ids next
  cases accepted : schedule.player.accepting? ticket with
  | none =>
      refine fits.quiet ?_ next (Or.inl ⟨ids, rfl⟩)
      rw [Schedule.scheduled, Player.runFrame_of_rejecting accepted]
      rfl
  | some session =>
      have present : schedule.player.installedId? = some session.id := by
        rw [Player.installedId?, Player.session_of_accepting accepted, Option.map_some]
      obtain ⟨reload, installed⟩ : ∃ reload, register.installed = some reload := by
        rw [← Option.isSome_iff_exists, fits.installed, present]
        rfl
      have scheduled : schedule.scheduled (.frame ticket now) = [⟨session.id⟩] := by
        simp [Schedule.scheduled, Player.runFrame_of_accepting accepted, Session.ticket,
          frame_session]
      have issues : (schedule.enter register (.frame ticket now)).issues =
          register.issues ++ [(⟨session.id⟩, some reload)] := by
        simp [Schedule.enter, scheduled, Schedule.installedAfter, installed]
      have grows := Nat.le_of_eq next.symm
      refine ⟨numbered_serve fits.numbered _, ?_, ?_, ?_, ?_, ?_⟩
      · rw [issues, Schedule.issued_serve, scheduled, List.map_append, fits.issued]
        rfl
      · rw [ids]
        exact fits.installed
      · intro other equal
        exact Nat.lt_succ_of_lt (fits.older other equal)
      · rw [issues]
        intro issue member
        rcases List.mem_append.mp member with old | new
        · obtain ⟨given, other, equal, small⟩ := fits.known issue old
          exact ⟨given.mono grows, other, equal, Nat.lt_succ_of_lt small⟩
        · cases List.mem_singleton.mp new
          exact ⟨(fits.numbered.installed _ present).mono grows, reload, rfl,
            Nat.lt_succ_of_lt (fits.older reload installed)⟩
      · rw [issues, ids]
        intro issue member
        rcases List.mem_append.mp member with old | new
        · exact fits.same issue old
        · cases List.mem_singleton.mp new
          exact iff_of_true present installed

theorem Register.Fits.enter (fits : register.Fits schedule) (request : Request) :
    (schedule.enter register request).Fits (schedule.serve request) := by
  cases request with
  | change change => exact fits.quiet rfl rfl (Or.inl ⟨rfl, rfl⟩)
  | frame ticket now => exact fits.frame ticket now
  | shutdown =>
      refine fits.quiet rfl ?_ (Or.inr ⟨?_, rfl⟩)
      · rw [Schedule.serve_shutdown_player]
        exact schedule.player.ended_nextSession
      · rw [Schedule.serve_shutdown_player]
        rfl
  | reload source controls =>
      have player := Schedule.serve_reload_player schedule source controls
      rcases schedule.player.reload_numbers schedule.device source controls with
        ⟨error, result, absent, next⟩ | ⟨result, present, next⟩
      · rw [← player] at absent next
        refine fits.quiet ?_ next (Or.inr ⟨absent, ?_⟩)
        · rw [Schedule.scheduled, result]
          rfl
        · rw [Schedule.installedAfter, Schedule.reload_error?, result]
      · rw [← player] at present next
        exact fits.installs result present next

theorem Register.Fits.enterAll (fits : register.Fits schedule) (requests : List Request) :
    (schedule.enterAll register requests).Fits (schedule.serveAll requests) := by
  induction requests generalizing schedule register with
  | nil => exact fits
  | cons request rest ih => exact ih (fits.enter request)

end Fits

theorem register_fits (inputs : Inputs) (builtins : Program.BuiltinNames) (device : δ)
    (requests : List Request) :
    let start := Schedule.start (Player.start inputs builtins) device
    (start.register requests).Fits (start.serveAll requests) := by
  intro start
  apply Register.Fits.enterAll
  exact ⟨Player.numbered_start inputs builtins, rfl, rfl, by simp, by simp, by simp⟩

/--
A ticket is accepted exactly if it was issued by the session that is installed.  Take any
run from a player without a session and any ticket that was scheduled in it; the register
lists all of these and knows whether a session is installed.  If the ticket is rejected,
then nothing is scheduled, the player and its device stay as they are, and it is
rejected after any further requests.
-/
theorem accepted_iff_issued_by_installed (inputs : Inputs) (builtins : Program.BuiltinNames)
    (device : δ) (requests : List Request) :
    let start := Schedule.start (Player.start inputs builtins) device
    let run := start.serveAll requests
    let register := start.register requests
    register.issues.map Prod.fst = run.issued ∧
      register.installed.isSome = run.player.hasSession ∧
      ∀ ticket issuer, (ticket, issuer) ∈ register.issues → ∀ now,
        ((run.player.runFrame run.device ticket now).outcome ≠ .cancelled ↔
          register.installed = issuer) ∧
        ((run.player.runFrame run.device ticket now).outcome = .cancelled →
          run.player.runFrame run.device ticket now = ⟨run.player, run.device, .cancelled, none⟩ ∧
          run.serve (.frame ticket now) = run ∧
          ∀ more later,
            ((run.serveAll more).player.runFrame (run.serveAll more).device ticket later).outcome =
              .cancelled) := by
  intro start run register
  have fits : register.Fits run := register_fits inputs builtins device requests
  refine ⟨fits.issued, fits.installed.trans (Player.isSome_installedId? run.player), ?_⟩
  intro ticket issuer member now
  constructor
  · rw [ne_eq, Player.runFrame_outcome_iff, ← ne_eq, ← Option.isSome_iff_ne_none,
      fits.numbered.accepting_iff]
    exact fits.same _ member
  · intro cancelled
    have rejected := (Player.runFrame_outcome_iff _ _ _ _).mp cancelled
    have stays := Player.runFrame_of_rejecting rejected run.device now
    refine ⟨stays, ?_, ?_⟩
    · simp only [Schedule.serve, Schedule.runTicket, stays]
    · intro more later
      have dead : run.player.installedId? ≠ some ticket.session := by
        rw [ne_eq, ← fits.numbered.accepting_iff, rejected]
        exact Bool.false_ne_true
      have gave := (fits.known _ member).1.2
      rw [Player.runFrame_outcome_iff, ← Option.not_isSome_iff_eq_none,
        (numbered_serveAll fits.numbered more).accepting_iff]
      exact installedId?_ne_serveAll run gave dead more

/-- Two reloads with a frame of the first session between them. -/
def superseding : List Request :=
  [.reload "void main() \x7b\x7d" [], .frame ⟨1⟩ 0, .reload "void main() \x7b\x7d" []]

/-- The schedule before them, on a device that does not fail. -/
def unfailing : Schedule Device.Scripted :=
  .start (.start (.start ⟨2, 2⟩ false) .standard) (.ofViewport ⟨2, 2⟩)

/-- The tickets of the first session are rejected after the second reload. -/
theorem rejected_superseding :
    (⟨1⟩, some 0) ∈ (unfailing.register superseding).issues ∧
      let run := unfailing.serveAll superseding
      (run.player.runFrame run.device ⟨1⟩ 5).outcome = .cancelled := by
  have issued : (⟨1⟩, some 0) ∈ (unfailing.register superseding).issues := by decide
  refine ⟨issued, ?_⟩
  have accepted := (accepted_iff_issued_by_installed (.start ⟨2, 2⟩ false) .standard
    (Device.Scripted.ofViewport ⟨2, 2⟩) superseding).2.2 ⟨1⟩ (some 0) issued 5
  by_contra live
  exact absurd (accepted.1.mp live) (by decide)

end LiveShader.Session
