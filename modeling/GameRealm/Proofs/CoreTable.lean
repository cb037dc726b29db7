import GameRealm.Proofs.Admission
import GameRealm.Proofs.Life
import GameRealm.Session.Handlers

/-!
# What the session's own handlers do

With no handlers registered but the session's own, all that happens in a session
on behalf of its client is known. This module says what it is:

1. `get_core`: which handler an opcode has.
2. The callbacks that clients bring about are quiet (`Callback.Quiet`), and the
   mailbox collects them in order (`Inbox.Collects`).
3. No handler and no callback touches the standing of a session (`Session.standing`),
   which is its life but for the bookkeeping of logouts. Only a logout request and
   a kick write the scheduled logout: `core_turns` for a drain, `kick_runCallbacks`
   for callbacks.

Operations from outside may do anything to the session, but also to them the
mailbox is something that collects (`Operation.collects`).
-/

namespace GameRealm

/-! ## The table -/

namespace OpcodeTable

def coreEntries : List (Opcode × Descriptor W) := [
  (.ping, ⟨"CMSG_PING", .never, .immediate, .immediate Handler.ping⟩),
  (.setActiveVoiceChannel,
    ⟨"CMSG_SET_ACTIVE_VOICE_CHANNEL", .authed, .threadUnsafe, .session Handler.unimplemented⟩),
  (.timeSyncResponse,
    ⟨"CMSG_TIME_SYNC_RESP", .loggedIn, .inPlace, .session Handler.timeSyncResponse⟩),
  (.logoutRequest,
    ⟨"CMSG_LOGOUT_REQUEST", .loggedIn, .threadUnsafe, .session Handler.logoutRequest⟩),
  (.authSession, ⟨"CMSG_AUTH_SESSION", .never, .inPlace, .session Handler.handshakeOnly⟩)]

theorem withCoreHandlers_eq :
    (withCoreHandlers : Except SessionError (OpcodeTable W)) = .ok ⟨coreEntries⟩ :=
  rfl

def coreHandler (opcode : Opcode) : Handler W :=
  if opcode = .logoutRequest then .session Handler.logoutRequest
  else if opcode = .timeSyncResponse then .session Handler.timeSyncResponse
  else if opcode = .ping then .immediate Handler.ping
  else if opcode = .authSession then .session Handler.handshakeOnly
  else .session Handler.unimplemented

theorem get_core {table : OpcodeTable W} (core : withCoreHandlers = .ok table)
    (opcode : Opcode) : (table.get opcode).handler = coreHandler opcode := by
  rw [withCoreHandlers_eq] at core
  obtain rfl := Except.ok.inj core
  simp only [get, coreEntries, coreHandler, List.find?]
  grind [Descriptor.unknown, Opcode.ping, Opcode.setActiveVoiceChannel, Opcode.timeSyncResponse,
    Opcode.logoutRequest, Opcode.authSession]

end OpcodeTable

/-! ## What is left for the next tick -/

/-- An operation that leaves the character, the sockets and the state of a session
alone and calls off no logout. A kick that is left for the state machine is one. -/
def Operation.quiet : Operation W → Bool
  | attach _ => false
  | setOnline => false
  | setOffline => false
  | toCharSelection => false
  | setPlayerLoading _ => false
  | requestNewSocket _ => false
  | logoutRequest _ => false
  | logoutPlayer => false
  | kickPlayer _ inPlace => !inPlace
  | shutdown => false
  | _ => true

mutual

/-- A course of action made of such operations, which leaves such callbacks and runs
no ticks. -/
inductive Procedure.Quiet : Act W Unit → Prop where
  | finish : Procedure.Quiet (.finish ())
  | perform (operation : Operation W) (next : operation.Answer → Act W Unit)
      (calm : operation.quiet = true) (rest : ∀ answer, Procedure.Quiet (next answer)) :
      Procedure.Quiet (.perform operation next)
  | look (next : View W → Act W Unit) (rest : ∀ view, Procedure.Quiet (next view)) :
      Procedure.Quiet (.look next)
  | post (callback : Callback W) (next : Bool → Act W Unit) (left : Callback.Quiet callback)
      (rest : ∀ accepted, Procedure.Quiet (next accepted)) :
      Procedure.Quiet (.post callback next)

/-- A callback that only does such things. -/
inductive Callback.Quiet : Callback W → Prop where
  | mk (body : Act W Unit) (quiet : Procedure.Quiet body) : Callback.Quiet (.mk body)

end

theorem quiet_setLatencyLater (ms : UInt32) : (Handler.setLatencyLater ms : Callback W).Quiet :=
  .mk _ (.perform _ _ rfl fun _ => .finish)

theorem quiet_closeWhateverSocket : (closeWhateverSocket : Callback W).Quiet :=
  .mk _ (.perform _ _ rfl fun _ => .finish)

theorem quiet_kickIfStill (guid : PlayerGuid) : (kickIfStill guid : Callback W).Quiet := by
  refine .mk _ (.look _ fun view => ?_)
  simp only [Procedure.bind]
  split
  · exact .perform _ _ rfl fun _ => .finish
  · exact .finish

theorem Session.quiet_faultCallback (s : Session) : (s.faultCallback : Callback W).Quiet := by
  unfold faultCallback
  split
  · exact quiet_kickIfStill _
  · exact quiet_closeWhateverSocket

/-- From one inbox to another the mailbox has only collected quiet callbacks. -/
def Inbox.Collects (i j : Inbox W) : Prop :=
  ∃ fresh, (∀ callback ∈ fresh, callback.Quiet) ∧
    j.mailbox = { i.mailbox with pending := i.mailbox.pending ++ fresh }

namespace Inbox

variable {i j k : Inbox W}

theorem collects_of_eq (h : j.mailbox = i.mailbox) : i.Collects j := by
  refine ⟨[], nofun, ?_⟩
  rw [h, List.append_nil]

theorem Collects.trans (first : i.Collects j) (second : j.Collects k) : i.Collects k := by
  obtain ⟨early, quiet, old⟩ := first
  obtain ⟨late, quiet', new⟩ := second
  refine ⟨early ++ late, ?_, ?_⟩
  · intro callback member
    rcases List.mem_append.mp member with member | member
    · exact quiet callback member
    · exact quiet' callback member
  · rw [new, old, List.append_assoc]

theorem Collects.mem {callback : Callback W} (collects : i.Collects j)
    (h : callback ∈ i.mailbox.pending) : callback ∈ j.mailbox.pending := by
  obtain ⟨fresh, -, new⟩ := collects
  rw [new]
  exact List.mem_append_left fresh h

theorem Collects.live (collects : i.Collects j) : j.mailbox.live = i.mailbox.live := by
  obtain ⟨fresh, -, new⟩ := collects
  rw [new]

theorem Collects.quiet (collects : i.Collects j)
    (h : ∀ callback ∈ i.mailbox.pending, callback.Quiet) :
    ∀ callback ∈ j.mailbox.pending, callback.Quiet := by
  obtain ⟨fresh, quiet, new⟩ := collects
  rw [new]
  intro callback member
  rcases List.mem_append.mp member with member | member
  · exact h callback member
  · exact quiet callback member

theorem collects_post {callback : Callback W} (quiet : callback.Quiet) :
    i.Collects (i.post callback).2 := by
  cases live : i.mailbox.live with
  | true =>
    refine ⟨[callback], fun other member => ?_, by simp [post, Mailbox.post, live]⟩
    obtain rfl := List.mem_singleton.mp member
    exact quiet
  | false => exact collects_of_eq (by simp [post, Mailbox.post, live])

theorem mem_post {callback : Callback W} (live : i.mailbox.live = true) :
    callback ∈ (i.post callback).2.mailbox.pending := by
  simp [post, Mailbox.post, live]

end Inbox

section
variable {sv : Services W}

/-! ## Operations and the mailbox -/

theorem collects_ping (deeper : Envelope → LiveInbox W → LiveInbox W) (account : AccountId)
    (env : Envelope) (r : LiveInbox W) :
    r.inbox.Collects (r.run sv deeper (Handler.ping account env)).2.inbox := by
  unfold Handler.ping
  split
  · exact Inbox.collects_of_eq rfl
  · split
    · exact Inbox.collects_of_eq rfl
    · exact Inbox.collects_post (quiet_setLatencyLater _)

theorem collects_enqueueWithin (core : OpcodeTable.withCoreHandlers = .ok sv.opcodes)
    (depth : Nat) (env : Envelope) (r : LiveInbox W) :
    r.inbox.Collects (LiveInbox.enqueueWithin sv depth env r).inbox := by
  have routed : ∀ immediately, (∀ handler, (sv.opcodes.get env.opcode).handler =
      .immediate handler → ∀ r : LiveInbox W, r.inbox.Collects (immediately handler env r).inbox) →
      r.inbox.Collects (LiveInbox.receive sv immediately env r).inbox := by
    intro immediately collects
    unfold LiveInbox.receive
    simp only
    split
    · next handler _ entry => exact collects handler entry _
    · exact Inbox.collects_of_eq rfl
    · exact Inbox.collects_of_eq rfl
  cases depth with
  | zero => exact routed _ fun _ _ _ => Inbox.collects_of_eq rfl
  | succ depth =>
    refine routed _ ?_
    intro handler entry r
    rw [OpcodeTable.get_core core] at entry
    have ping : handler = Handler.ping := by
      grind [OpcodeTable.coreHandler]
    rw [ping]
    exact collects_ping _ _ _ r

theorem Operation.collects (core : OpcodeTable.withCoreHandlers = .ok sv.opcodes)
    (operation : Operation W) (d : LiveSession W) :
    d.inbox.Collects (operation.run sv d).2.inbox := by
  cases operation with
  | enqueue env => exact collects_enqueueWithin core _ env d.toLiveInbox
  | deleteMovementPackets => exact Inbox.collects_of_eq rfl
  | loadGlobalAccountData =>
    exact Inbox.collects_of_eq (congrArg _ (d.frame_fetchAccountData _ _).2)
  | resetTimeSync => exact Inbox.collects_of_eq rfl
  | _ => exact Inbox.collects_of_eq (by simp [run])

end

/-! ## Handlers -/

/-- The life of a session but for what it notes about logouts. -/
def Session.standing (s : Session) : Life :=
  { s.life with scheduledLogout := none, recentlyLoggedOut := false, saveOnLogout := true }

theorem Session.standing_of_life {s t : Session} (h : s.life = t.life) :
    s.standing = t.standing := by
  rw [standing, h, standing]

section
variable (sv : Services W) (nested : SessionTick → LiveSession W → UpdateOutcome × LiveSession W)

/-- A handler of the session leaves the inbox and the standing alone. Only a logout
request schedules a logout, from the time of the tick on. -/
theorem run_coreHandler {opcode : Opcode} {handler : Envelope → Act W Handled}
    (core : OpcodeTable.coreHandler opcode = .session handler) (env : Envelope)
    (d : LiveSession W) :
    let e := ((handler env).run sv nested d).2
    e.inbox = d.inbox ∧ e.session.standing = d.session.standing ∧
      e.session.scheduledLogout =
        if opcode = .logoutRequest then some ⟨d.session.now, false⟩
        else d.session.scheduledLogout := by
  unfold OpcodeTable.coreHandler at core
  -- Only the request to log out schedules anything.
  by_cases logout : opcode = .logoutRequest
  · rw [if_pos logout] at core ⊢
    obtain rfl := Handler.session.inj core
    exact ⟨rfl, rfl, rfl⟩
  · rw [if_neg logout] at core ⊢
    split at core
    · obtain rfl := Handler.session.inj core
      unfold Handler.timeSyncResponse
      split
      · exact ⟨rfl, rfl, rfl⟩
      · split
        · exact ⟨rfl, rfl, rfl⟩
        · next counter _ _ _ ticks _ _ =>
          have life : (d.timeSyncResponse sv counter ticks).2.session.life = d.session.life :=
            (Operation.timeSyncResponse counter ticks).life_run sv d
          exact ⟨(d.frame_timeSyncResponse counter ticks).2, Session.standing_of_life life,
            congrArg Life.scheduledLogout life⟩
    · split at core
      · contradiction
      · split at core
        · obtain rfl := Handler.session.inj core
          exact ⟨rfl, rfl, rfl⟩
        · obtain rfl := Handler.session.inj core
          exact ⟨rfl, rfl, rfl⟩

end

namespace Turn

/-- Whether a logout request gets its way in the turn. -/
def requestsLogout (turn : Turn W) : Bool :=
  turn.env.opcode == .logoutRequest && turn.invoked.isSome

/-- What the handler of the turn found wrong with the payload. -/
def fault (sv : Services W) (nested : SessionTick → LiveSession W → UpdateOutcome × LiveSession W)
    (turn : Turn W) : Option PayloadError :=
  turn.invoked.bind fun handler =>
    ((handler turn.env).run sv nested (turn.start.deed sv (.delayTeleport true))).1.fault

variable {sv : Services W} {nested : SessionTick → LiveSession W → UpdateOutcome × LiveSession W}
  {queue : Queue} {turn : Turn W}

theorem Proper.start_eq (proper : turn.Proper sv nested queue) :
    turn.start.inbox = turn.before.inbox ∧
      turn.start.session.standing = turn.before.session.standing ∧
      turn.start.session.scheduledLogout = turn.before.session.scheduledLogout ∧
      turn.start.session.now = turn.before.session.now := by
  by_cases ends : queue.Admits sv turn.env turn.before ∧ queue.EndsGrace sv turn.env
  · rw [proper.graceEnds ends.1 ends.2]
    exact ⟨rfl, rfl, rfl, rfl⟩
  · rw [proper.unchanged ends]
    exact ⟨rfl, rfl, rfl, rfl⟩

/-- A turn in which no handler runs leaves log entries only. -/
theorem Proper.idle (proper : turn.Proper sv nested queue) (idle : turn.invoked = none) :
    ∃ notices, turn.after = turn.start.logAll sv notices := by
  by_cases admits : queue.Admits sv turn.env turn.before
  · exact ⟨[_], proper.immediate admits idle⟩
  · obtain ⟨notices, after, -⟩ := proper.refused admits
    refine ⟨notices, ?_⟩
    rw [after, proper.unchanged fun h => admits h.1]

end Turn

theorem LiveSession.inbox_settle (sv : Services W) (handled : Handled) (d : LiveSession W) :
    (d.settle sv handled).inbox =
      if handled.fault.isSome && sv.config.kickOnBadPacket then
        (d.inbox.post d.session.faultCallback).2
      else d.inbox := by
  unfold settle
  cases handled.fault with
  | none =>
    simp only
    split <;> rfl
  | some fault =>
    simp only [punishFault, Option.isSome_some, Bool.true_and]
    split <;> rfl

theorem Session.playerGuid_of_standing {s t : Session}
    (h : s.standing.player = t.standing.player) : s.playerGuid = t.playerGuid :=
  congrArg (Option.map Character.guid) h

theorem Session.faultCallback_of_standing {s t : Session} (h : s.standing = t.standing) :
    (s.faultCallback : Callback W) = t.faultCallback := by
  rw [faultCallback, faultCallback, playerGuid_of_standing (congrArg Life.player h)]

namespace Turn

variable {sv : Services W} {nested : SessionTick → LiveSession W → UpdateOutcome × LiveSession W}
  {queue : Queue} {turn : Turn W}

/-- A turn in which a handler of the session runs, taken together. -/
theorem Proper.ran_core (core : OpcodeTable.withCoreHandlers = .ok sv.opcodes)
    (proper : turn.Proper sv nested queue) {handler : Envelope → Act W Handled}
    (invoked : turn.invoked = some handler) :
    turn.after.session.standing = turn.before.session.standing ∧
      (turn.after.session.scheduledLogout =
        if turn.env.opcode = .logoutRequest then some ⟨turn.before.session.now, false⟩
        else turn.before.session.scheduledLogout) ∧
      turn.after.inbox =
        if (turn.fault sv nested).isSome && sv.config.kickOnBadPacket then
          (turn.before.inbox.post turn.before.session.faultCallback).2
        else turn.before.inbox := by
  have own := ((proper.invoked handler).mp invoked).1
  rw [OpcodeTable.get_core core] at own
  obtain ⟨startInbox, startStanding, startLogout, startNow⟩ := proper.start_eq
  obtain ⟨inbox, standing, logout⟩ := run_coreHandler sv nested own turn.env
    (turn.start.deed sv (.delayTeleport true))
  obtain ⟨after, session⟩ := proper.ran handler invoked
  rw [(LiveSession.frame_deed _ _).1] at standing logout
  rw [(LiveSession.frame_deed _ _).2] at inbox
  refine ⟨?_, ?_, ?_⟩
  · rw [session, standing, startStanding]
  · rw [session, logout, startLogout, startNow]
  · rw [after, LiveSession.inbox_settle, (LiveSession.frame_endDelay _).2, inbox, startInbox,
      (LiveSession.frame_endDelay _).1,
      Session.faultCallback_of_standing (standing.trans startStanding), fault, invoked]
    rfl

/-- What a turn does to the logout that is scheduled, and what it leaves alone. -/
theorem Proper.core (core : OpcodeTable.withCoreHandlers = .ok sv.opcodes)
    (proper : turn.Proper sv nested queue) :
    turn.after.session.standing = turn.before.session.standing ∧
      (turn.after.session.scheduledLogout =
        if turn.requestsLogout then some ⟨turn.before.session.now, false⟩
        else turn.before.session.scheduledLogout) ∧
      turn.before.inbox.Collects turn.after.inbox := by
  cases invoked : turn.invoked with
  | none =>
    obtain ⟨notices, after⟩ := proper.idle invoked
    obtain ⟨inbox, standing, logout, -⟩ := proper.start_eq
    refine ⟨?_, ?_, Inbox.collects_of_eq ?_⟩
    · rw [after]
      exact standing
    · rw [after, requestsLogout, invoked]
      simp [logout]
    · rw [after]
      exact congrArg _ inbox
  | some handler =>
    obtain ⟨standing, logout, inbox⟩ := proper.ran_core core invoked
    refine ⟨standing, ?_, ?_⟩
    · rw [logout, requestsLogout, invoked]
      simp
    · rw [inbox]
      split
      · exact Inbox.collects_post (Session.quiet_faultCallback _)
      · exact Inbox.collects_of_eq rfl

theorem Proper.mem_of_fault (core : OpcodeTable.withCoreHandlers = .ok sv.opcodes)
    (punishes : sv.config.kickOnBadPacket = true) (proper : turn.Proper sv nested queue)
    (faulted : (turn.fault sv nested).isSome) (live : turn.before.inbox.mailbox.live = true) :
    turn.before.session.faultCallback ∈ turn.after.inbox.mailbox.pending := by
  cases invoked : turn.invoked with
  | none => simp [fault, invoked] at faulted
  | some handler =>
    obtain ⟨-, -, inbox⟩ := proper.ran_core core invoked
    rw [inbox, faulted, punishes]
    exact Inbox.mem_post live

/-- The turns of a drain together: the last logout request counts, and the mailbox
has collected what the faults left. -/
theorem core_turns (core : OpcodeTable.withCoreHandlers = .ok sv.opcodes)
    {turns : List (Turn W)} {d e : LiveSession W} (lead : Lead d e turns)
    (proper : ∀ turn ∈ turns, turn.Proper sv nested queue) :
    e.session.standing = d.session.standing ∧
      (e.session.scheduledLogout =
        if turns.any requestsLogout then some ⟨d.session.now, false⟩
        else d.session.scheduledLogout) ∧
      d.inbox.Collects e.inbox := by
  induction turns generalizing d with
  | nil =>
    obtain rfl : d = e := lead
    exact ⟨rfl, rfl, Inbox.collects_of_eq rfl⟩
  | cons turn turns ih =>
    obtain ⟨rfl, lead⟩ := lead
    have first := proper turn List.mem_cons_self
    obtain ⟨standing, logout, collects⟩ := first.core core
    obtain ⟨standing', logout', collects'⟩ :=
      ih lead fun turn member => proper turn (List.mem_cons_of_mem _ member)
    have now : turn.after.session.now = turn.before.session.now := congrArg Life.now standing
    refine ⟨standing'.trans standing, ?_, collects.trans collects'⟩
    rw [logout', logout, now, List.any_cons]
    cases turn.requestsLogout <;> simp

theorem mem_of_fault_turns (core : OpcodeTable.withCoreHandlers = .ok sv.opcodes)
    (punishes : sv.config.kickOnBadPacket = true) {turns : List (Turn W)} {d e : LiveSession W}
    (lead : Lead d e turns) (proper : ∀ turn ∈ turns, turn.Proper sv nested queue)
    (live : d.inbox.mailbox.live = true) {turn : Turn W} (member : turn ∈ turns)
    (faulted : (turn.fault sv nested).isSome) :
    d.session.faultCallback ∈ e.inbox.mailbox.pending := by
  induction turns generalizing d with
  | nil => contradiction
  | cons first turns ih =>
    obtain ⟨rfl, lead⟩ := lead
    have proper' : ∀ turn ∈ turns, turn.Proper sv nested queue :=
      fun turn member => proper turn (List.mem_cons_of_mem _ member)
    obtain ⟨standing, -, collects⟩ := (proper first List.mem_cons_self).core core
    rcases List.mem_cons.mp member with rfl | later
    · have left := (proper turn List.mem_cons_self).mem_of_fault core punishes faulted live
      exact (core_turns core lead proper').2.2.mem left
    · rw [← Session.faultCallback_of_standing standing]
      exact ih lead proper' (collects.live.trans live) later

end Turn

/-! ## Callbacks -/

/-- What quiet callbacks may do to a session: schedule a kick and no other logout,
and leave callbacks. -/
structure LiveSession.Calm (d e : LiveSession W) : Prop where
  standing : e.session.standing = d.session.standing
  logout : e.session.scheduledLogout = d.session.scheduledLogout ∨
    e.session.scheduledLogout = some ⟨d.session.now, true⟩
  collects : d.inbox.Collects e.inbox

namespace LiveSession

theorem Calm.refl (d : LiveSession W) : d.Calm d := ⟨rfl, .inl rfl, Inbox.collects_of_eq rfl⟩

theorem Calm.now {d e : LiveSession W} (calm : d.Calm e) : e.session.now = d.session.now :=
  congrArg Life.now calm.standing

theorem Calm.playerGuid {d e : LiveSession W} (calm : d.Calm e) :
    e.session.playerGuid = d.session.playerGuid :=
  Session.playerGuid_of_standing (congrArg Life.player calm.standing)

theorem Calm.trans {d e f : LiveSession W} (first : d.Calm e) (second : e.Calm f) : d.Calm f := by
  refine ⟨second.standing.trans first.standing, ?_, first.collects.trans second.collects⟩
  rcases second.logout with kept | kicked
  · exact first.logout.imp kept.trans kept.trans
  · exact .inr (kicked.trans (by rw [first.now]))

end LiveSession

section
variable {sv : Services W}

theorem Operation.calm (core : OpcodeTable.withCoreHandlers = .ok sv.opcodes)
    (operation : Operation W) (quiet : operation.quiet = true) (d : LiveSession W) :
    d.Calm (operation.run sv d).2 := by
  have same : ∀ t : Session, (operation.run sv d).2.session.life = t.life →
      t.standing = d.session.standing →
      t.scheduledLogout = d.session.scheduledLogout ∨
        t.scheduledLogout = some ⟨d.session.now, true⟩ →
      d.Calm (operation.run sv d).2 := by
    intro t life standing logout
    have logout' : (operation.run sv d).2.session.scheduledLogout = t.scheduledLogout :=
      congrArg Life.scheduledLogout life
    refine ⟨(Session.standing_of_life life).trans standing, ?_, operation.collects core d⟩
    rw [logout']
    exact logout
  have life := operation.life_run sv d
  cases operation with
  | kickPlayer save inPlace =>
    cases inPlace with
    | true => contradiction
    | false => exact same _ life rfl (.inr rfl)
  | _ => first | contradiction | exact same _ life rfl (.inl rfl)

variable (nested : SessionTick → LiveSession W → UpdateOutcome × LiveSession W)

theorem run_quiet (core : OpcodeTable.withCoreHandlers = .ok sv.opcodes)
    {callback : Callback W} (quiet : callback.Quiet) (d : LiveSession W) :
    d.Calm (callback.body.run sv nested d).2 := by
  obtain ⟨body, quiet⟩ := quiet
  simp only [Callback.body]
  induction body generalizing d with
  | finish => exact .refl d
  | perform operation next ih =>
    cases quiet with
    | perform _ _ calm rest => exact (operation.calm core calm d).trans (ih _ _ (rest _))
  | look next ih =>
    cases quiet with
    | look _ rest => exact ih _ d (rest _)
  | post callback next ih =>
    cases quiet with
    | post _ _ left rest =>
      have posted : d.Calm (d.post callback).2 := ⟨rfl, .inl rfl, Inbox.collects_post left⟩
      exact posted.trans (ih _ _ (rest _))
  | tick kind next ih => cases quiet

theorem calm_runCallbacks (core : OpcodeTable.withCoreHandlers = .ok sv.opcodes)
    {callbacks : List (Callback W)} (quiet : ∀ callback ∈ callbacks, callback.Quiet)
    (d : LiveSession W) : d.Calm (d.runCallbacks sv nested callbacks) := by
  induction callbacks generalizing d with
  | nil => exact .refl d
  | cons callback rest ih =>
    have first := run_quiet nested core (quiet callback List.mem_cons_self) d
    exact first.trans (ih (fun callback member => quiet callback (List.mem_cons_of_mem _ member)) _)

theorem run_kickIfStill {guid : PlayerGuid} {d : LiveSession W}
    (still : d.session.playerGuid = some guid) :
    ((kickIfStill guid).body.run sv nested d).2 = d.kickPlayer sv true false := by
  unfold kickIfStill
  simp [Callback.body, Bind.bind, Procedure.bind, Procedure.view, Procedure.run, LiveSession.view,
    Procedure.op, Operation.run, still]

/-- A kick among the callbacks stands, whatever comes before and after it. -/
theorem kick_runCallbacks (core : OpcodeTable.withCoreHandlers = .ok sv.opcodes)
    {callbacks : List (Callback W)} {guid : PlayerGuid}
    (quiet : ∀ callback ∈ callbacks, callback.Quiet) (kick : kickIfStill guid ∈ callbacks)
    (d : LiveSession W) (still : d.session.playerGuid = some guid) :
    (d.runCallbacks sv nested callbacks).session.scheduledLogout =
      some ⟨d.session.now, true⟩ := by
  induction callbacks generalizing d with
  | nil => contradiction
  | cons callback rest ih =>
    have quiet' : ∀ callback ∈ rest, callback.Quiet :=
      fun callback member => quiet callback (List.mem_cons_of_mem _ member)
    have first := run_quiet nested core (quiet callback List.mem_cons_self) d
    rcases List.mem_cons.mp kick with rfl | later
    · have kicked : ((kickIfStill guid).body.run sv nested d).2.session.scheduledLogout =
          some ⟨d.session.now, true⟩ := by
        rw [run_kickIfStill nested still]
        rfl
      rcases (calm_runCallbacks nested core quiet' _).logout with kept | again
      · exact kept.trans kicked
      · exact again.trans (by rw [first.now])
    · have rest := ih quiet' later _ (first.playerGuid.trans still)
      exact rest.trans (by rw [first.now])

end

end GameRealm
