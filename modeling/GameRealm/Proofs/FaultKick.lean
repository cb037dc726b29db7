import GameRealm.Proofs.CoreTable
import GameRealm.Proofs.Lifecycle

/-!
# Kicks for faulty payloads

A payload that cannot be read gets its sender kicked, if the realm punishes this:
the handler's tick leaves a callback, the next update runs it, and the logout that
it schedules is due at once. Between the callback and the state machine the update
works through the envelopes of the client, and a logout request among them
schedules a logout of its own.

1. `kick_waits`: after a tick with a fault, and whatever happens until the next
   update, the kick waits in the mailbox.
2. `scheduledLogout_drained`: when that update comes to its state machine the kick
   is scheduled, unless a logout request got its way after it.
3. `fault_kick_iff`: so the player is logged out exactly if there was no such
   request, or if requested logouts have no delay.
4. `kick_postponed`: a client that sends a logout request stays.
-/

namespace GameRealm

/-- What may happen to a session between two updates: operations from outside,
quiet callbacks that are left for it, and ticks of its region. -/
inductive Meanwhile (W : Type) where
  | perform (operation : Operation W)
  | post (callback : Callback W) (quiet : callback.Quiet)
  | region (now : Instant)

def SessionTick.now : SessionTick → Instant
  | world now => now
  | region now => now

namespace LiveSession

def meanwhile (sv : Services W) (events : List (Meanwhile W)) (d : LiveSession W) : LiveSession W :=
  events.foldl (fun d event =>
    match event with
    | .perform operation => (operation.run sv d).2
    | .post callback _ => (d.post callback).2
    | .region now => d.updateMap sv now) d

def QuietMail (d : LiveSession W) : Prop :=
  ∀ callback ∈ d.inbox.mailbox.pending, callback.Quiet

section
variable (sv : Services W) (nested : SessionTick → LiveSession W → UpdateOutcome × LiveSession W)
  {guid : PlayerGuid}

/-! ## Until the drain -/

theorem beforeDrain_world (now : Instant) (d : LiveSession W) :
    ∃ ready : LiveSession W, ready.session = (d.modify fun s => { s with now }).session ∧
      ready.inbox.mailbox = { d.inbox.mailbox with pending := [] } ∧
      d.beforeDrain sv nested (.world now) =
        ready.runCallbacks sv nested d.inbox.mailbox.pending :=
  ⟨{ d.modify (fun s => { s with now }) with
      inbox := { d.inbox with mailbox := d.inbox.mailbox.drain.2 } }, rfl, rfl, rfl⟩

theorem mailbox_atDrain (tick : SessionTick) (d : LiveSession W) :
    (d.atDrain sv nested tick).inbox.mailbox =
      (d.beforeDrain sv nested tick).inbox.mailbox := by
  cases tick <;> rfl

/-- Until its drain a tick leaves the standing of the session alone, but for its
clock, and only quiet callbacks wait. -/
theorem calm_atDrain (core : OpcodeTable.withCoreHandlers = .ok sv.opcodes)
    (tick : SessionTick) {d : LiveSession W} (mail : d.QuietMail) :
    (d.atDrain sv nested tick).session.standing = { d.session.standing with now := tick.now } ∧
      (d.atDrain sv nested tick).inbox.mailbox.live = d.inbox.mailbox.live ∧
      (d.atDrain sv nested tick).QuietMail := by
  cases tick with
  | world now =>
    obtain ⟨ready, session, mailbox, start⟩ :=
      beforeDrain_world sv nested now d
    have calm := calm_runCallbacks nested core mail ready
    rw [← start] at calm
    refine ⟨?_, ?_, ?_⟩
    · have standing := calm.standing
      rw [session] at standing
      exact standing
    · rw [mailbox_atDrain sv nested, calm.collects.live, mailbox]
    · rw [QuietMail, mailbox_atDrain sv nested]
      refine calm.collects.quiet ?_
      rw [mailbox]
      exact fun _ member => absurd member List.not_mem_nil
  | region now => exact ⟨rfl, rfl, mail⟩

/-- A kick that waits is scheduled before the drain of the update begins. -/
theorem scheduledLogout_atDrain (core : OpcodeTable.withCoreHandlers = .ok sv.opcodes)
    (now : Instant) {d : LiveSession W} (mail : d.QuietMail)
    (kick : kickIfStill guid ∈ d.inbox.mailbox.pending)
    (still : d.session.playerGuid = some guid) :
    (d.atDrain sv nested (.world now)).session.scheduledLogout = some ⟨now, true⟩ := by
  obtain ⟨ready, session, -, start⟩ := beforeDrain_world sv nested now d
  have kicked := kick_runCallbacks nested core mail kick ready (by rw [session]; exact still)
  rw [session, ← start] at kicked
  exact kicked

/-! ## The kick waits -/

theorem mailbox_afterDrain (left : List Envelope) (tick : SessionTick) (d : LiveSession W) :
    (d.afterDrain sv left tick).2.inbox.mailbox = d.inbox.mailbox := by
  cases tick with
  | world now =>
    simp only [afterDrain, frame_advance]
    split <;> rfl
  | region now => rfl

/-- From one drain to the end of its tick the mailbox only collects. -/
theorem collects_tickWith (core : OpcodeTable.withCoreHandlers = .ok sv.opcodes)
    (tick : SessionTick) (d : LiveSession W) :
    (d.atDrain sv nested tick).inbox.Collects (d.tickWith sv nested tick).2.inbox := by
  obtain ⟨-, -, collects⟩ := Turn.core_turns core (d.lead_turns sv nested tick)
    (d.proper_turns sv nested tick)
  rw [tickWith_eq]
  exact collects.trans (Inbox.collects_of_eq (mailbox_afterDrain sv _ tick _))

theorem collects_meanwhile (core : OpcodeTable.withCoreHandlers = .ok sv.opcodes)
    (events : List (Meanwhile W)) (d : LiveSession W) :
    d.inbox.Collects (d.meanwhile sv events).inbox := by
  induction events generalizing d with
  | nil => exact Inbox.collects_of_eq rfl
  | cons event events ih =>
    refine Inbox.Collects.trans ?_ (ih _)
    cases event with
    | perform operation => exact operation.collects core d
    | post callback quiet => exact Inbox.collects_post quiet
    | region now => exact collects_tickWith sv _ core (.region now) d

/-- After a tick with a fault, and whatever happens until the next update, the kick
waits. -/
theorem kick_waits (core : OpcodeTable.withCoreHandlers = .ok sv.opcodes)
    (punishes : sv.config.kickOnBadPacket = true) {d : LiveSession W}
    (attached : d.session.playerGuid = some guid) (live : d.inbox.mailbox.live = true)
    (mail : d.QuietMail) {tick : SessionTick} {turn : Turn W}
    (member : turn ∈ d.turns sv nested tick) (faulted : (turn.fault sv nested).isSome)
    (events : List (Meanwhile W)) :
    let later := (d.tickWith sv nested tick).2.meanwhile sv events
    kickIfStill guid ∈ later.inbox.mailbox.pending ∧ later.QuietMail := by
  intro later
  obtain ⟨standing, live', mail'⟩ := calm_atDrain sv nested core tick mail
  have player : (d.atDrain sv nested tick).session.standing.player = d.session.standing.player := by
    rw [standing]
  have attached' : (d.atDrain sv nested tick).session.playerGuid = some guid :=
    (Session.playerGuid_of_standing player).trans attached
  have left := Turn.mem_of_fault_turns core punishes (d.lead_turns sv nested tick)
    (d.proper_turns sv nested tick) (live'.trans live) member faulted
  rw [Session.faultCallback, attached', ← mailbox_afterDrain sv (d.drained sv nested tick).1 tick,
    ← tickWith_eq] at left
  have after := collects_meanwhile sv core events (d.tickWith sv nested tick).2
  exact ⟨after.mem left, ((collects_tickWith sv nested core tick d).trans after).quiet mail'⟩

/-! ## The update that runs it -/

/-- When the update comes to its state machine the kick is scheduled, unless a
logout request has got its way after it. -/
theorem scheduledLogout_drained (core : OpcodeTable.withCoreHandlers = .ok sv.opcodes)
    (now : Instant) {d : LiveSession W} (mail : d.QuietMail)
    (kick : kickIfStill guid ∈ d.inbox.mailbox.pending)
    (still : d.session.playerGuid = some guid) :
    (d.drained sv nested (.world now)).2.session.standing = { d.session.standing with now } ∧
      (d.drained sv nested (.world now)).2.session.scheduledLogout =
        some ⟨now, !(d.turns sv nested (.world now)).any Turn.requestsLogout⟩ := by
  obtain ⟨standing, -, -⟩ := calm_atDrain sv nested core (.world now) mail
  have kicked := scheduledLogout_atDrain sv nested core now mail kick still
  obtain ⟨standing', logout, -⟩ := Turn.core_turns core (d.lead_turns sv nested (.world now))
    (d.proper_turns sv nested (.world now))
  have clock : (d.atDrain sv nested (.world now)).session.now = now :=
    congrArg Life.now standing
  refine ⟨standing'.trans standing, ?_⟩
  rw [logout, kicked, clock]
  cases (d.turns sv nested (.world now)).any Turn.requestsLogout <;> rfl

/-- In play, on an open socket and with the character loaded, the state machine runs
a logout exactly if it is due. -/
theorem advance_in_play (now : Instant) {d : LiveSession W} (ready : d.session.state = .ready)
    (isOpen : d.socketOpen sv = true) (loaded : d.session.playerLoading = false) :
    (d.advance sv now).2.session.life =
      (if d.session.shouldLogOut sv.config now then d.session.afterLogout sv.config
        else d.session).life := by
  rw [life_advance, isOpen]
  simp only [Session.afterAdvance, ready, Session.afterLogoutIfDue, loaded, Bool.not_true,
    Bool.and_false, Bool.not_false, Bool.and_true, Bool.false_eq_true, if_false]

theorem shouldLogOut_requested (config : SessionConfig) (now : Instant) {s : Session}
    (requested : s.scheduledLogout = some ⟨now, false⟩) :
    s.shouldLogOut config now = true ↔
      now.addSeconds? config.logoutDelay.toNat = some now := by
  rw [Session.shouldLogOut, requested]
  simp only [Bool.false_or]
  cases due : now.addSeconds? config.logoutDelay.toNat with
  | none => exact ⟨nofun, nofun⟩
  | some instant =>
    simp only [decide_eq_true_eq, Option.some.injEq]
    unfold Instant.addSeconds? at due
    split at due
    · obtain rfl := Option.some.inj due
      have never_earlier : ∀ (t : Int) (n : Nat),
          t + n * 1000000000 ≤ t ↔ t + n * 1000000000 = t := by omega
      exact never_earlier now _
    · contradiction

theorem shouldLogOut_kicked (config : SessionConfig) (now : Instant) {s : Session}
    (kicked : s.scheduledLogout = some ⟨now, true⟩) : s.shouldLogOut config now = true := by
  rw [Session.shouldLogOut, kicked]
  rfl

/-- When the update comes to its state machine a logout is due, unless a logout
request has got its way and has to wait. -/
theorem shouldLogOut_drained (core : OpcodeTable.withCoreHandlers = .ok sv.opcodes)
    (now : Instant) {d : LiveSession W} (mail : d.QuietMail)
    (kick : kickIfStill guid ∈ d.inbox.mailbox.pending)
    (still : d.session.playerGuid = some guid) :
    (d.drained sv nested (.world now)).2.session.shouldLogOut sv.config now = true ↔
      ((d.turns sv nested (.world now)).any Turn.requestsLogout = true →
        now.addSeconds? sv.config.logoutDelay.toNat = some now) := by
  obtain ⟨-, logout⟩ := scheduledLogout_drained sv nested core now mail kick still
  cases requested : (d.turns sv nested (.world now)).any Turn.requestsLogout with
  | false =>
    rw [requested] at logout
    exact iff_of_true (shouldLogOut_kicked sv.config now logout)
      fun h => absurd h Bool.false_ne_true
  | true =>
    rw [requested] at logout
    rw [shouldLogOut_requested sv.config now logout]
    exact ⟨fun due _ => due, fun due => due rfl⟩

/-- An update of a session that is in play when its drain is over. -/
theorem update_in_play (now : Instant) {d last : LiveSession W}
    (drained : (d.drained sv (tickWithin sv sv.nesting) (.world now)).2 = last)
    (ready : last.session.state = .ready) (isOpen : last.socketOpen sv = true)
    (loaded : last.session.playerLoading = false) :
    (d.update sv now).2.session.life =
      (if last.session.shouldLogOut sv.config now then last.session.afterLogout sv.config
        else last.session).life := by
  have nothing : (d.drained sv (tickWithin sv sv.nesting) (.world now)).1 = [] :=
    left_eq_nil sv _ (by rw [drained]; exact isOpen)
  have whole : d.update sv now = last.advance sv now := by
    rw [update, tick, tickWith_eq, drained, nothing]
    rfl
  rw [whole]
  exact advance_in_play sv now ready isOpen loaded

end

/-- A payload that cannot be read, in a session with no handlers but its own, gets
the player kicked by the next update, if the character is still attached then, has
been loaded and plays, and the socket stays open: unless a logout request of the
client gets its way in that very update. Then the player stays, and all that is left
of the kick is an ordinary logout, if requested logouts have a delay at all. -/
theorem fault_kick_iff (sv : Services W)
    (core : OpcodeTable.withCoreHandlers = .ok sv.opcodes)
    (punishes : sv.config.kickOnBadPacket = true) (d : LiveSession W) (guid : PlayerGuid)
    (attached : d.session.playerGuid = some guid) (live : d.inbox.mailbox.live = true)
    (mail : d.QuietMail) (kind : SessionTick) (turn : Turn W)
    (member : turn ∈ d.turns sv (tickWithin sv sv.nesting) kind)
    (faulted : (turn.fault sv (tickWithin sv sv.nesting)).isSome)
    (events : List (Meanwhile W)) (now : Instant) :
    let later := (d.tick sv kind).2.meanwhile sv events
    later.session.playerGuid = some guid → later.session.state = .ready →
    later.session.playerLoading = false →
    (later.drained sv (tickWithin sv sv.nesting) (.world now)).2.socketOpen sv = true →
    let updated := (later.update sv now).2.session
    let out := updated.player = none ∧ updated.state = .charSelection
    let requested := ∃ turn ∈ later.turns sv (tickWithin sv sv.nesting) (.world now),
      turn.env.opcode = .logoutRequest ∧ turn.invoked.isSome
    (out ↔ (requested → now.addSeconds? sv.config.logoutDelay.toNat = some now)) ∧
      (¬ out → updated.player = later.session.player ∧
        updated.scheduledLogout = some ⟨now, false⟩) := by
  intro later still ready loaded isOpen updated out requested
  -- Whatever happens in between, the kick waits in the mailbox until the update.
  obtain ⟨kick, mail'⟩ : kickIfStill guid ∈ later.inbox.mailbox.pending ∧ later.QuietMail :=
    kick_waits sv _ core punishes attached live mail member faulted events
  obtain ⟨standing, logout⟩ := scheduledLogout_drained sv (tickWithin sv sv.nesting) core now
    mail' kick still
  have due_iff := shouldLogOut_drained sv (tickWithin sv sv.nesting) core now mail' kick still
  have requested_iff : requested ↔ (later.turns sv (tickWithin sv sv.nesting)
      (.world now)).any Turn.requestsLogout = true := by
    simp [requested, Turn.requestsLogout]
  rw [← requested_iff] at due_iff
  -- From here on only the step of the state machine after the drain counts.
  have life := update_in_play sv now rfl ((congrArg Life.state standing).trans ready) isOpen
    ((congrArg Life.playerLoading standing).trans loaded)
  generalize (later.drained sv (tickWithin sv sv.nesting) (.world now)).2 = last at *
  rw [← due_iff]
  cases due : last.session.shouldLogOut sv.config now with
  | true =>
    rw [due, if_pos rfl] at life
    have left : out := ⟨congrArg Life.player life, congrArg Life.state life⟩
    exact ⟨iff_of_true left rfl, fun stays => absurd left stays⟩
  | false =>
    rw [due, if_neg Bool.false_ne_true] at life
    have stays : updated.player = later.session.player :=
      (congrArg Life.player life).trans (congrArg Life.player standing)
    have attached' : later.session.player ≠ none := by
      intro gone
      rw [Session.playerGuid, gone] at still
      contradiction
    have requested_there : requested := by
      refine Decidable.byContradiction fun absent => ?_
      rw [due_iff.mpr fun present => absurd present absent] at due
      contradiction
    rw [requested_iff.mp requested_there] at logout
    refine ⟨iff_of_false (fun left => attached' (stays.symm.trans left.1)) Bool.false_ne_true,
      fun _ => ⟨stays, ?_⟩⟩
    exact (congrArg Life.scheduledLogout life).trans logout

end LiveSession

namespace Rehearsal

/-- Surroundings on stage in which bad payloads are punished. -/
def strict : Services Stage := coreServices { kickOnBadPacket := true }

/-- A session in play, with an envelope waiting whose payload cannot be read. -/
def faultySession : LiveSession Stage :=
  (opening strict).run strict
    [just (.attach lead), just .setOnline, just (.enqueue (.empty .timeSyncResponse))]

end Rehearsal

namespace LiveSession

open Rehearsal

/-- A client that sends nothing more is kicked. -/
theorem fault_kick_iff_undisturbed :
    let later := (faultySession.tick strict (.world 0)).2.meanwhile strict []
    let updated := (later.update strict 0).2.session
    updated.player = none ∧ updated.state = .charSelection := by
  obtain ⟨turn, member, faulted⟩ : ∃ turn ∈ faultySession.turns strict
      (tickWithin strict strict.nesting) (.world 0),
      (turn.fault strict (tickWithin strict strict.nesting)).isSome :=
    ⟨_, List.mem_cons_self, rfl⟩
  have kicked :=
    fault_kick_iff strict rfl rfl faultySession ⟨7⟩ rfl rfl nofun (.world 0) turn member
    faulted [] 0 (by decide) (by decide) (by decide) (by decide)
  exact kicked.1.mpr fun ⟨_, member, _⟩ => absurd member List.not_mem_nil

/-- A client that sends a logout request after its faulty payload stays in play,
with an ordinary logout pending. -/
theorem kick_postponed :
    let later := (faultySession.tick strict (.world 0)).2.run strict
      [just (.enqueue (.empty .logoutRequest))]
    let updated := (later.update strict 0).2.session
    updated.player = some lead ∧ updated.state = .ready ∧
      updated.scheduledLogout = some ⟨0, false⟩ := by
  decide

end LiveSession

end GameRealm
