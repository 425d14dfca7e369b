import LiveShader.Proofs.Session.Run

/-!
# The numbers of sessions

Sessions are numbered in the order in which they are installed, and a ticket bears the
number of its session.  Of the numbers that were given away, that of the installed
session is live and all others are cancelled.  A player accepts a ticket exactly if it
bears the number of the installed session.
-/

namespace LiveShader.Session

open LiveShader.Playback

variable {δ : Type} [Device δ]

namespace Player

/-- The number of the installed session. -/
def installedId? (player : Player δ) : Option Id :=
  player.session.map fun session => session.id

@[simp]
theorem ended_installedId? (player : Player δ) : player.ended.installedId? = none := rfl

@[simp]
theorem failed_installedId? (player : Player δ) (halt : Halt Program.BuildError) :
    (player.failed halt).installedId? = player.installedId? := by
  rw [installedId?, failed_session, installedId?]

/-- Whether a number was given to a session so far. -/
def Gave (player : Player δ) (id : Id) : Prop := 0 < id ∧ id < player.nextSession

/-- Of the numbers that were given away only that of the installed session is live. -/
structure Numbered (player : Player δ) : Prop where
  positive : 0 < player.nextSession
  cancelled : ∀ id ∈ player.cancelled, id < player.nextSession
  installed : ∀ id, player.installedId? = some id → player.Gave id
  live : ∀ id, player.Gave id → (id ∉ player.cancelled ↔ player.installedId? = some id)

theorem numbered_start (inputs : Inputs) (builtins : Program.BuiltinNames) :
    (Player.start inputs builtins : Player δ).Numbered := by
  constructor
  · exact Nat.one_pos
  · intro id member
    cases member
  · intro id present
    cases present
  · rintro id ⟨positive, small⟩
    exact absurd small (Nat.not_lt.mpr positive)

/-! ## What a request does to the numbers -/

section Requests

variable {player later : Player δ}

theorem Gave.mono {id : Id} (gave : player.Gave id)
    (grows : player.nextSession ≤ later.nextSession) : later.Gave id :=
  ⟨gave.1, Nat.lt_of_lt_of_le gave.2 grows⟩

theorem Numbered.congr (numbered : player.Numbered)
    (ids : later.installedId? = player.installedId?)
    (cancelled : later.cancelled = player.cancelled)
    (next : later.nextSession = player.nextSession) : later.Numbered := by
  have gave : ∀ id, later.Gave id ↔ player.Gave id := by
    intro id
    rw [Gave, Gave, next]
  constructor
  · rw [next]
    exact numbered.positive
  · rw [cancelled, next]
    exact numbered.cancelled
  · intro id present
    rw [gave]
    exact numbered.installed id (ids ▸ present)
  · intro id given
    rw [cancelled, ids]
    exact numbered.live id ((gave id).mp given)

theorem isSome_installedId? (player : Player δ) :
    player.installedId?.isSome = player.hasSession := by
  simp [installedId?, hasSession]

theorem Numbered.mapInputs (numbered : player.Numbered) (change : Inputs → Inputs) :
    (player.mapInputs change).Numbered :=
  numbered.congr rfl rfl rfl

theorem Numbered.ended (numbered : player.Numbered) : player.ended.Numbered := by
  obtain ⟨session, inputs, builtins, next, cancelled, lastError⟩ := player
  cases session with
  | none => exact numbered.congr rfl rfl rfl
  | some session =>
      constructor
      · exact numbered.positive
      · intro id member
        rcases List.mem_cons.mp member with rfl | old
        · exact (numbered.installed session.id rfl).2
        · exact numbered.cancelled id old
      · intro id present
        cases present
      · intro id given
        -- A number that was not cancelled before is that of the session that ends.
        have dead : id ∈ session.id :: cancelled := by
          by_contra live
          rw [List.mem_cons, not_or] at live
          have same := (numbered.live id given).mp live.2
          exact live.1 (Option.some.inj same).symm
        constructor
        · intro live
          exact absurd dead live
        · intro present
          cases present

theorem Numbered.install (numbered : player.Numbered) (absent : player.installedId? = none)
    (device : δ) (program : Device.Program δ) (controls : List Control.Spec) :
    (player.install device program controls).1.Numbered := by
  constructor
  · exact Nat.succ_pos _
  · intro id member
    exact Nat.lt_succ_of_lt (numbered.cancelled id member)
  · intro id present
    cases present
    exact ⟨numbered.positive, Nat.lt_succ_self _⟩
  · rintro id ⟨positive, small⟩
    rcases Nat.lt_succ_iff_lt_or_eq.mp small with older | rfl
    · have ended : id ∈ player.cancelled := by
        by_contra live
        have present := (numbered.live id ⟨positive, older⟩).mp live
        rw [absent] at present
        cases present
      constructor
      · intro live
        exact absurd ended live
      · intro present
        cases present
        exact absurd older (Nat.lt_irrefl _)
    · constructor
      · intro _
        rfl
      · intro _ member
        exact Nat.lt_irrefl _ (numbered.cancelled _ member)

theorem Numbered.reload (numbered : player.Numbered) (device : δ) (source : String)
    (controls : List Control.Spec) : (player.reload device source controls).player.Numbered := by
  rcases player.reload_player device source controls with ⟨halt, equal⟩ | ⟨later, program, equal⟩
  · rw [equal]
    exact numbered.ended.congr (failed_installedId? _ _) (failed_cancelled _ _)
      (failed_nextSession _ _)
  · rw [equal]
    exact numbered.ended.install rfl later program controls

/-- A frame leaves all numbers as they are. -/
theorem runFrame_numbers (player : Player δ) (device : δ) (ticket : Ticket) (now : Instant) :
    (player.runFrame device ticket now).player.installedId? = player.installedId? ∧
      (player.runFrame device ticket now).player.cancelled = player.cancelled ∧
      (player.runFrame device ticket now).player.nextSession = player.nextSession := by
  cases accepted : player.accepting? ticket with
  | none =>
      rw [runFrame_of_rejecting accepted]
      exact ⟨rfl, rfl, rfl⟩
  | some session =>
      rw [runFrame_of_accepting accepted]
      refine ⟨?_, rfl, rfl⟩
      simp only [installedId?, session_of_accepting accepted, frame_session, Option.map_some]

theorem Numbered.runFrame (numbered : player.Numbered) (device : δ) (ticket : Ticket)
    (now : Instant) : (player.runFrame device ticket now).player.Numbered := by
  obtain ⟨ids, cancelled, next⟩ := player.runFrame_numbers device ticket now
  exact numbered.congr ids cancelled next

/-- A reload installs a session under the next number, or none. -/
theorem reload_numbers (player : Player δ) (device : δ) (source : String)
    (controls : List Control.Spec) :
    (∃ halt, (player.reload device source controls).result = .error halt ∧
        (player.reload device source controls).player.installedId? = none ∧
        (player.reload device source controls).player.nextSession = player.nextSession) ∨
      (player.reload device source controls).result = .ok ⟨player.nextSession⟩ ∧
        (player.reload device source controls).player.installedId? = some player.nextSession ∧
        (player.reload device source controls).player.nextSession = player.nextSession + 1 := by
  rw [reload_eq]
  rcases Program.build (player.teardown device).2 source with ⟨halt | program, later⟩
  · exact Or.inl ⟨halt, rfl, by simp, by simp⟩
  · refine Or.inr ?_
    simp [Player.install, installedId?, Session.ticket]

end Requests

/-! ## Which tickets are accepted -/

section Tickets

variable {player : Player δ}

/-- A player accepts the tickets that bear the number of the installed session. -/
theorem Numbered.accepting_iff (numbered : player.Numbered) (ticket : Ticket) :
    (player.accepting? ticket).isSome ↔ player.installedId? = some ticket.session := by
  rw [accepting?, installedId?]
  cases present : player.session with
  | none => simp
  | some session =>
      have ids : player.installedId? = some session.id := by
        rw [installedId?, present, Option.map_some]
      have live : session.id ∉ player.cancelled :=
        (numbered.live _ (numbered.installed _ ids)).mpr ids
      by_cases same : ticket.session = session.id
      · simp [isLive, same, live]
      · simp [same, Ne.symm same]

/-- Of the tickets of all sessions so far those that are live are accepted. -/
theorem Numbered.isLive_iff (numbered : player.Numbered) {ticket : Ticket}
    (gave : player.Gave ticket.session) :
    player.isLive ticket = true ↔ player.installedId? = some ticket.session := by
  rw [← numbered.live _ gave]
  simp [isLive]

/-- An accepted frame is rendered or skipped. -/
theorem frame_outcome_ne (session : Session δ) (device : δ) (inputs : Inputs) (now : Instant) :
    (session.frame device inputs now).outcome ≠ .cancelled := by
  rw [Session.frame]
  split
  split
  · exact Outcome.noConfusion
  · exact Outcome.noConfusion

theorem runFrame_outcome_iff (player : Player δ) (device : δ) (ticket : Ticket)
    (now : Instant) :
    (player.runFrame device ticket now).outcome = .cancelled ↔
      player.accepting? ticket = none := by
  cases accepted : player.accepting? ticket with
  | none => simp [runFrame_of_rejecting accepted]
  | some session =>
      rw [runFrame_of_accepting accepted]
      exact iff_of_false (frame_outcome_ne session device player.inputs now) (by simp)

end Tickets

end Player

end LiveShader.Session
