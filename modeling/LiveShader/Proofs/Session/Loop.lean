import LiveShader.Proofs.Session.Calls
import LiveShader.Proofs.Session.Numbering

/-!
# One frame waits

Of the frames that wait exactly one is live while a session is installed, and none
otherwise.  A reload takes the live one away and, if it succeeds, puts the first frame of
the new session in its place; a frame that runs asks for the next one of the same session.
Every attempt to begin a frame is a live ticket that was used up.
-/

namespace LiveShader.Session

open LiveShader.Device LiveShader.Playback

variable {δ : Type} [Device δ]

namespace Player

/-- How many of the frames that wait are to be live. -/
def expected (player : Player δ) : Nat := if player.hasSession then 1 else 0

/-- As many of the frames that wait are live as there are sessions. -/
structure Looping (player : Player δ) (queue : List Ticket) : Prop where
  numbered : player.Numbered
  gave : ∀ ticket ∈ queue, player.Gave ticket.session
  live : queue.countP player.isLive = player.expected

theorem looping_start (inputs : Inputs) (builtins : Program.BuiltinNames) :
    (Player.start inputs builtins : Player δ).Looping [] :=
  ⟨numbered_start inputs builtins, by simp, rfl⟩

section Requests

variable {player later : Player δ} {queue : List Ticket}

theorem expected_eq (player : Player δ) :
    player.expected = if player.installedId?.isSome then 1 else 0 := by
  rw [expected, isSome_installedId?]

theorem expected_of_present {id : Id} (present : player.installedId? = some id) :
    player.expected = 1 := by
  rw [expected_eq, present]
  rfl

theorem expected_congr (ids : later.installedId? = player.installedId?) :
    later.expected = player.expected := by
  rw [expected_eq, expected_eq, ids]

/-- Without a session no ticket that waits is live. -/
theorem looping_of_absent (numbered : player.Numbered)
    (gave : ∀ ticket ∈ queue, player.Gave ticket.session)
    (absent : player.installedId? = none) : player.Looping queue := by
  refine ⟨numbered, gave, ?_⟩
  rw [expected_eq, absent]
  apply List.countP_eq_zero.mpr
  intro ticket member
  rw [numbered.isLive_iff (gave ticket member), absent]
  simp

/-- The order in which frames wait does not matter. -/
theorem Looping.perm {other : List Ticket} (looping : player.Looping queue)
    (perm : other.Perm queue) : player.Looping other := by
  constructor
  · exact looping.numbered
  · intro ticket member
    exact looping.gave ticket (perm.mem_iff.mp member)
  · rw [perm.countP_eq]
    exact looping.live

theorem Looping.congr (looping : player.Looping queue)
    (ids : later.installedId? = player.installedId?)
    (cancelled : later.cancelled = player.cancelled)
    (next : later.nextSession = player.nextSession) : later.Looping queue := by
  constructor
  · exact looping.numbered.congr ids cancelled next
  · rw [show later.Gave = player.Gave by funext id; rw [Gave, Gave, next]]
    exact looping.gave
  · rw [show later.isLive = player.isLive by funext ticket; rw [isLive, isLive, cancelled],
      expected_congr ids]
    exact looping.live

theorem Looping.mapInputs (looping : player.Looping queue) (change : Inputs → Inputs) :
    (player.mapInputs change).Looping queue :=
  looping.congr rfl rfl rfl

theorem Looping.ended (looping : player.Looping queue) : player.ended.Looping queue := by
  apply looping_of_absent looping.numbered.ended ?_ rfl
  intro ticket member
  exact (looping.gave ticket member).mono (Nat.le_of_eq player.ended_nextSession.symm)

/-- A reload leaves one live ticket, that of its session, or none. -/
theorem Looping.reload (looping : player.Looping queue) (device : δ) (source : String)
    (controls : List Control.Spec) :
    (player.reload device source controls).player.Looping
      (queue ++ (player.reload device source controls).result.toOption.toList) := by
  have numbered := looping.numbered.reload device source controls
  rcases player.reload_numbers device source controls with
    ⟨error, result, absent, next⟩ | ⟨result, present, next⟩
  · rw [result]
    simp only [Except.toOption, Option.toList_none, List.append_nil]
    apply looping_of_absent numbered ?_ absent
    intro ticket member
    exact (looping.gave ticket member).mono (Nat.le_of_eq next.symm)
  · have gave : ∀ ticket ∈ queue,
        (player.reload device source controls).player.Gave ticket.session := by
      intro ticket member
      exact (looping.gave ticket member).mono (next ▸ Nat.le_succ _)
    -- Every ticket that waited bears an older number.
    have dead : queue.countP (player.reload device source controls).player.isLive = 0 := by
      rw [List.countP_eq_zero]
      intro ticket member
      rw [numbered.isLive_iff (gave ticket member), present, Option.some.injEq]
      exact Nat.ne_of_gt (looping.gave ticket member).2
    have own : (player.reload device source controls).player.Gave
        (Ticket.mk player.nextSession).session := numbered.installed _ present
    rw [result]
    simp only [Except.toOption, Option.toList_some]
    constructor
    · exact numbered
    · intro ticket member
      rcases List.mem_append.mp member with old | new
      · exact gave ticket old
      · cases List.mem_singleton.mp new
        exact own
    · rw [List.countP_append, dead, List.countP_singleton,
        if_pos ((numbered.isLive_iff own).mpr present),
        expected_of_present present]

/-- A frame that runs is replaced by the next one of its session. -/
theorem Looping.runFrame {ticket : Ticket} (looping : player.Looping (ticket :: queue))
    (device : δ) (now : Instant) :
    (player.runFrame device ticket now).player.Looping
      (queue ++ (player.runFrame device ticket now).scheduled.toList) := by
  obtain ⟨ids, cancelled, next⟩ := player.runFrame_numbers device ticket now
  refine Looping.congr ?_ ids cancelled next
  have gave : player.Gave ticket.session := looping.gave ticket List.mem_cons_self
  have accepting := looping.numbered.accepting_iff ticket
  cases accepted : player.accepting? ticket with
  | none =>
      rw [runFrame_of_rejecting accepted]
      have dead : ¬ player.isLive ticket := by
        rw [looping.numbered.isLive_iff gave, ← accepting, accepted]
        exact Bool.false_ne_true
      have live := looping.live
      rw [List.countP_cons_of_neg dead] at live
      rw [Option.toList_none, List.append_nil]
      exact ⟨looping.numbered, fun other member =>
        looping.gave other (List.mem_cons_of_mem _ member), live⟩
  | some session =>
      have scheduled : (player.runFrame device ticket now).scheduled = some ticket := by
        rw [accepted] at accepting
        have present := session_of_accepting accepted
        have same := accepting.mp rfl
        rw [installedId?, present, Option.map_some, Option.some.injEq] at same
        simp only [runFrame_of_accepting accepted, frame_session, Session.ticket, same]
      rw [scheduled, Option.toList_some]
      exact looping.perm List.perm_append_comm

end Requests

/-! ## Attempts to begin a frame -/

/-- A frame attempts to begin once if its ticket is live, and not at all otherwise. -/
theorem Numbered.attempted_runFrame {player : Player (Journaled δ)} (numbered : player.Numbered)
    {ticket : Ticket} (gave : player.Gave ticket.session) (journaled : Journaled δ)
    (now : Instant) :
    Attempted ([ticket].countP player.isLive) journaled.entries
      (player.runFrame journaled ticket now).device.entries := by
  have accepting := numbered.accepting_iff ticket
  rw [← numbered.isLive_iff gave] at accepting
  rw [List.countP_singleton]
  cases accepted : player.accepting? ticket with
  | none =>
      rw [accepted] at accepting
      rw [runFrame_of_rejecting accepted, if_neg fun live => by cases accepting.mpr live]
      exact .refl journaled.entries
  | some session =>
      rw [accepted] at accepting
      rw [runFrame_of_accepting accepted, if_pos (accepting.mp rfl)]
      rcases frame_calls session journaled player.inputs now with
        ⟨_, entries⟩ | ⟨report, _, entries⟩
      · exact entries ▸ attempted_beginFailed journaled.entries
      · exact entries ▸ attempted_frameCalls _ _ _ journaled.entries

end Player

end LiveShader.Session
