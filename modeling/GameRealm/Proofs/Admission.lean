import GameRealm.Proofs.History

/-!
# Who is admitted

Admission is decided anew for every envelope, on the session as the envelopes
before it have left it. This module

1. says in words of the session when a status lets an envelope through
   (`AdmissionStatus.Admits`, `Queue.Admits`), and proves that admission decides so
   (`verdict_granted_iff`);
2. takes a drain apart into the turns of its envelopes (`Queue.turns`), in order,
   each with the session at the moment at which its envelope is taken;
3. proves of every turn in every tick that the handler runs exactly if the
   envelope is admitted, and that nothing else happens to the session
   (`handler_runs_iff_admitted`).

What a handler does is left open throughout, and so are the ticks that it may run.
-/

namespace GameRealm

/-- When a status lets an envelope through to its handler on the world tick. -/
def AdmissionStatus.Admits (session : Session) (inWorld : Bool) : AdmissionStatus → Prop
  | loggedIn => session.player.isSome ∧ inWorld
  | loggedInOrRecentlyLoggedOut => session.player.isSome ∨ session.recentlyLoggedOut
  | transfer => session.player.isSome ∧ ¬ inWorld
  | authed => ¬ session.inQueue
  | never => False
  | unhandled => False

namespace Queue

/-- When an envelope of the queue is let through to its handler. A region serves
players in the world and nobody else. -/
def Admits (sv : Services W) (env : Envelope) (d : LiveSession W) : Queue → Prop
  | generic => (sv.opcodes.get env.opcode).status.Admits d.session (d.playerInWorld sv)
  | map =>
    (sv.opcodes.get env.opcode).status = .loggedIn ∧
      d.session.player.isSome ∧ d.playerInWorld sv

/-- Whether admission of an envelope ends the grace for late traffic. -/
def EndsGrace (sv : Services W) (env : Envelope) (queue : Queue) : Prop :=
  queue = generic ∧ (sv.opcodes.get env.opcode).status = .authed ∧
    env.opcode ≠ .setActiveVoiceChannel

end Queue

/-! ## Admission decides so -/

theorem Admission.onWorldTick_granted_iff (session : Session) (inWorld : Bool)
    (opcode : Opcode) (name : String) (status : AdmissionStatus) :
    onWorldTick session inWorld opcode name status = .granted ↔
      status.Admits session inWorld := by
  cases status with
  | loggedIn =>
    simp only [onWorldTick, AdmissionStatus.Admits]
    cases session.player with
    | none => cases session.recentlyLoggedOut <;> simp
    | some c => cases inWorld <;> simp
  | loggedInOrRecentlyLoggedOut =>
    simp only [onWorldTick, AdmissionStatus.Admits]
    cases session.player <;> cases session.recentlyLoggedOut <;> simp
  | transfer =>
    simp only [onWorldTick, AdmissionStatus.Admits]
    cases session.player <;> cases inWorld <;> simp
  | authed =>
    simp only [onWorldTick, AdmissionStatus.Admits]
    cases session.inQueue <;> simp
  | never => simp [onWorldTick, AdmissionStatus.Admits]
  | unhandled => simp [onWorldTick, AdmissionStatus.Admits]

theorem LiveSession.isSome_of_playerInWorld {sv : Services W} {d : LiveSession W}
    (h : d.playerInWorld sv = true) : d.session.player.isSome := by
  unfold playerInWorld Session.playerInWorld at h
  cases attached : d.session.player with
  | none => simp [attached] at h
  | some c => rfl

namespace Queue

variable {sv : Services W} {nested : SessionTick → LiveSession W → UpdateOutcome × LiveSession W}

/-- Both ticks admit exactly what their queue is to let through. -/
theorem verdict_granted_iff (queue : Queue) (env : Envelope) (d : LiveSession W) :
    queue.verdict sv env d = .granted ↔ queue.Admits sv env d := by
  cases queue with
  | generic => exact Admission.onWorldTick_granted_iff _ _ _ _ _
  | map =>
    simp only [verdict, Admission.onRegionTick, Admits]
    split
    · next status =>
      cases inWorld : d.playerInWorld sv with
      | false => simp
      | true => simp [status, LiveSession.isSome_of_playerInWorld inWorld]
    · next status => simp [status]

end Queue

/-! ## The turns of a drain -/

/-- One envelope's turn in a drain. -/
structure Turn (W : Type) where
  env : Envelope
  /-- The session at the moment at which the envelope is taken. -/
  before : LiveSession W
  /-- The handler that runs, if one does. -/
  invoked : Option (Envelope → Act W Handled)
  /-- The session once admission is done, when a handler would start. -/
  start : LiveSession W
  after : LiveSession W

namespace Queue

section
variable (sv : Services W) (nested : SessionTick → LiveSession W → UpdateOutcome × LiveSession W)

def turn (queue : Queue) (env : Envelope) (d : LiveSession W) : Turn W :=
  let entry := sv.opcodes.get env.opcode
  { env
    before := d
    invoked :=
      match queue.verdict sv env d, entry.handler with
      | .granted, .session handler => some handler
      | _, _ => none
    start :=
      match queue.verdict sv env d with
      | .granted => queue.admitted entry.status env.opcode d
      | .refused _ => d
    after := queue.dispatch sv nested env d }

/-- The turns of a backlog, up to the first envelope that finds the socket closed. -/
def turns (queue : Queue) : List Envelope → LiveSession W → List (Turn W)
  | [], _ => []
  | env :: rest, d =>
    if d.socketOpen sv then
      queue.turn sv nested env d :: turns queue rest (queue.turn sv nested env d).after
    else []

end

end Queue

/-- The turns follow one another from one session to another. -/
def Turn.Lead (d e : LiveSession W) : List (Turn W) → Prop
  | [] => d = e
  | turn :: turns => turn.before = d ∧ Lead turn.after e turns

/-- What is to hold of a turn in a drain of a queue. -/
structure Turn.Proper (sv : Services W)
    (nested : SessionTick → LiveSession W → UpdateOutcome × LiveSession W) (queue : Queue)
    (turn : Turn W) :
    Prop where
  /-- The socket is open when the envelope is taken. -/
  socketOpen : turn.before.socketOpen sv = true
  /-- A handler that is to run on a tick runs exactly if the envelope is admitted. -/
  invoked : ∀ handler, turn.invoked = some handler ↔
    (sv.opcodes.get turn.env.opcode).handler = .session handler ∧
      queue.Admits sv turn.env turn.before
  /-- Admission ends the grace for late traffic when it is to do so. -/
  graceEnds : queue.Admits sv turn.env turn.before → queue.EndsGrace sv turn.env →
    turn.start = turn.before.modify fun s => { s with recentlyLoggedOut := false }
  /-- Apart from that, admission changes nothing. -/
  unchanged : ¬ (queue.Admits sv turn.env turn.before ∧ queue.EndsGrace sv turn.env) →
    turn.start = turn.before
  /-- When a handler runs, what it does is what becomes of the session. -/
  ran : ∀ handler, turn.invoked = some handler →
    let ran := (handler turn.env).run sv nested (turn.start.deed sv (.delayTeleport true))
    turn.after = (ran.2.endDelay sv).settle sv ran.1 ∧ turn.after.session = ran.2.session
  /-- An envelope that is not admitted leaves log entries and nothing else. -/
  refused : ¬ queue.Admits sv turn.env turn.before →
    ∃ notices, turn.after = turn.before.logAll sv notices ∧
      turn.after.outside.effects =
        (notices.map .log).reverse ++ turn.before.outside.effects
  /-- Nor is there anything else when the handler was to run on arrival. -/
  immediate : queue.Admits sv turn.env turn.before → turn.invoked = none →
    turn.after = turn.start.log sv (.immediateOnTick turn.env.opcode)

theorem LiveSession.effects_logAll (sv : Services W) (notices : List Notice) (d : LiveSession W) :
    (d.logAll sv notices).outside.effects =
      (notices.map .log).reverse ++ d.outside.effects := by
  induction notices generalizing d with
  | nil => rfl
  | cons notice notices ih =>
    rw [List.map_cons, List.reverse_cons, List.append_assoc]
    exact ih (d.log sv notice)

namespace Queue

variable {sv : Services W} {nested : SessionTick → LiveSession W → UpdateOutcome × LiveSession W}

theorem admitted_eq (queue : Queue) (env : Envelope) (d : LiveSession W) :
    (queue.EndsGrace sv env →
      queue.admitted (sv.opcodes.get env.opcode).status env.opcode d =
        d.modify fun s => { s with recentlyLoggedOut := false }) ∧
    (¬ queue.EndsGrace sv env →
      queue.admitted (sv.opcodes.get env.opcode).status env.opcode d = d) := by
  cases queue with
  | generic =>
    simp only [EndsGrace, admitted, LiveSession.noteAdmission, true_and]
    exact ⟨fun ends => if_pos ends, fun stays => if_neg stays⟩
  | map => exact ⟨fun ends => absurd ends.1 nofun, fun _ => rfl⟩

theorem proper_turn_of_admits {queue : Queue} {env : Envelope} {d : LiveSession W}
    (isOpen : d.socketOpen sv = true) (admits : queue.Admits sv env d) :
    (queue.turn sv nested env d).Proper sv nested queue := by
  have verdict : queue.verdict sv env d = .granted := (queue.verdict_granted_iff env d).mpr admits
  have start : (queue.turn sv nested env d).start =
      queue.admitted (sv.opcodes.get env.opcode).status env.opcode d := by
    simp only [turn, verdict]
  have after : (queue.turn sv nested env d).after =
      (queue.turn sv nested env d).start.execute sv nested (sv.opcodes.get env.opcode) env := by
    rw [start]
    simp only [turn, dispatch_eq, verdict]
  have invoked : ∀ handler, (queue.turn sv nested env d).invoked = some handler ↔
      (sv.opcodes.get env.opcode).handler = .session handler := by
    intro handler
    simp only [turn, verdict]
    cases (sv.opcodes.get env.opcode).handler with
    | immediate _ => exact ⟨nofun, nofun⟩
    | session _ =>
      constructor
      · exact fun h => congrArg Handler.session (Option.some.inj h)
      · exact fun h => congrArg some (Handler.session.inj h)
  constructor
  case socketOpen => exact isOpen
  case invoked => exact fun handler => (invoked handler).trans (and_iff_left admits).symm
  case graceEnds => exact fun _ ends => start.trans ((queue.admitted_eq env d).1 ends)
  case unchanged =>
    exact fun stays => start.trans ((queue.admitted_eq env d).2 fun ends => stays ⟨admits, ends⟩)
  case ran =>
    intro handler runs
    have result := after
    simp only [LiveSession.execute, (invoked handler).mp runs, LiveSession.handle] at result
    refine ⟨result, ?_⟩
    rw [result, LiveSession.session_settle, (LiveSession.frame_endDelay _).1]
    rfl
  case refused => exact fun refused => absurd admits refused
  case immediate =>
    intro _ none
    rw [after]
    unfold LiveSession.execute
    cases entry : (sv.opcodes.get env.opcode).handler with
    | immediate _ => rfl
    | session handler => rw [(invoked handler).mpr entry] at none; contradiction

theorem proper_turn_of_not_admits {queue : Queue} {env : Envelope} {d : LiveSession W}
    (isOpen : d.socketOpen sv = true) (admits : ¬ queue.Admits sv env d) :
    (queue.turn sv nested env d).Proper sv nested queue := by
  obtain ⟨notice, verdict⟩ : ∃ notice, queue.verdict sv env d = .refused notice := by
    cases verdict : queue.verdict sv env d with
    | granted => exact absurd ((queue.verdict_granted_iff env d).mp verdict) admits
    | refused notice => exact ⟨notice, rfl⟩
  have invoked : (queue.turn sv nested env d).invoked = none := by
    simp only [turn, verdict]
  have start : (queue.turn sv nested env d).start = d := by
    simp only [turn, verdict]
  have after : (queue.turn sv nested env d).after = d.logAll sv notice.toList := by
    simp only [turn, dispatch_eq, verdict]
  constructor
  case socketOpen => exact isOpen
  case invoked =>
    intro handler
    rw [invoked]
    exact ⟨nofun, fun h => absurd h.2 admits⟩
  case graceEnds => exact fun h => absurd h admits
  case unchanged => exact fun _ => start
  case ran =>
    intro handler runs
    rw [invoked] at runs
    contradiction
  case refused =>
    intro _
    refine ⟨notice.toList, after, ?_⟩
    rw [after]
    exact LiveSession.effects_logAll sv _ d
  case immediate => exact fun h => absurd h admits

/-- The turns of a backlog are proper, follow one another, and leave nothing of the
backlog unless the socket is closed then. -/
theorem turns_spec (queue : Queue) (backlog : List Envelope) (d : LiveSession W) :
    let turns := queue.turns sv nested backlog d
    let drained := d.drain sv (queue.dispatch sv nested) backlog
    backlog = turns.map (·.env) ++ drained.1 ∧
      (drained.1 ≠ [] → drained.2.socketOpen sv = false) ∧
      Turn.Lead d drained.2 turns ∧
      ∀ turn ∈ turns, turn.Proper sv nested queue := by
  -- The induction follows the drain, which asks for the socket before each envelope.
  induction backlog generalizing d with
  | nil => exact ⟨rfl, fun h => absurd rfl h, rfl, fun _ member => absurd member List.not_mem_nil⟩
  | cons env rest ih =>
    simp only [turns, LiveSession.drain]
    split
    · next isOpen =>
      obtain ⟨served, stopped, lead, proper⟩ := ih (queue.dispatch sv nested env d)
      refine ⟨congrArg (env :: ·) served, stopped, ⟨rfl, lead⟩, ?_⟩
      intro turn member
      cases member with
      | head =>
        by_cases admits : queue.Admits sv env d
        · exact proper_turn_of_admits isOpen admits
        · exact proper_turn_of_not_admits isOpen admits
      | tail _ later => exact proper turn later
    · next closed =>
      refine ⟨rfl, fun _ => Bool.eq_false_iff.mpr closed, rfl, ?_⟩
      exact fun _ member => absurd member List.not_mem_nil

end Queue

/-! ## Ticks -/

def SessionTick.queue : SessionTick → Queue
  | world _ => .generic
  | region _ => .map

namespace LiveSession

/-- The session when a tick takes its backlog. -/
def beforeDrain (sv : Services W)
    (nested : SessionTick → LiveSession W → UpdateOutcome × LiveSession W) :
    SessionTick → LiveSession W → LiveSession W
  | .world now, d => (d.modify fun s => { s with now }).deliver sv nested
  | .region now, d => d.modify fun s => { s with now }

/-- The rest of a tick, once its drain has left some envelopes. -/
def afterDrain (sv : Services W) (left : List Envelope) :
    SessionTick → LiveSession W → UpdateOutcome × LiveSession W
  | .world now, d =>
    (if left.isEmpty then d else d.log sv (.envelopesDropped left.length)).advance sv now
  | .region _, d => (.keep, d)

section
variable (sv : Services W) (nested : SessionTick → LiveSession W → UpdateOutcome × LiveSession W)

/-- The session when a drain begins, its queue empty again. -/
def atDrain (tick : SessionTick) (d : LiveSession W) : LiveSession W :=
  let ready := d.beforeDrain sv nested tick
  { ready with inbox := tick.queue.emptied ready.inbox }

def backlog (tick : SessionTick) (d : LiveSession W) : List Envelope :=
  tick.queue.backlog (d.beforeDrain sv nested tick).inbox

def turns (tick : SessionTick) (d : LiveSession W) : List (Turn W) :=
  tick.queue.turns sv nested (d.backlog sv nested tick) (d.atDrain sv nested tick)

/-- What the drain of a tick leaves of the backlog, and the session after it. -/
def drained (tick : SessionTick) (d : LiveSession W) : List Envelope × LiveSession W :=
  (d.atDrain sv nested tick).drain sv (tick.queue.dispatch sv nested)
    (d.backlog sv nested tick)

theorem tickWith_eq (tick : SessionTick) (d : LiveSession W) :
    d.tickWith sv nested tick =
      (d.drained sv nested tick).2.afterDrain sv (d.drained sv nested tick).1 tick := by
  cases tick <;> rfl

theorem lead_turns (tick : SessionTick) (d : LiveSession W) :
    Turn.Lead (d.atDrain sv nested tick) (d.drained sv nested tick).2
      (d.turns sv nested tick) :=
  (tick.queue.turns_spec _ _).2.2.1

theorem proper_turns (tick : SessionTick) (d : LiveSession W) :
    ∀ turn ∈ d.turns sv nested tick, turn.Proper sv nested tick.queue :=
  (tick.queue.turns_spec _ _).2.2.2

theorem left_eq_nil {tick : SessionTick} {d : LiveSession W}
    (isOpen : (d.drained sv nested tick).2.socketOpen sv = true) :
    (d.drained sv nested tick).1 = [] := by
  refine Decidable.byContradiction fun left => ?_
  have closed : (d.drained sv nested tick).2.socketOpen sv = false :=
    (tick.queue.turns_spec _ _).2.1 left
  rw [closed] at isOpen
  contradiction

end

/-- Every tick serves its backlog turn by turn, each turn where the one before has
left the session, until a turn finds the socket closed. In every turn the handler
runs exactly if the envelope is admitted then. -/
theorem handler_runs_iff_admitted (sv : Services W)
    (nested : SessionTick → LiveSession W → UpdateOutcome × LiveSession W) (tick : SessionTick)
    (d : LiveSession W) :
    let turns := d.turns sv nested tick
    let left := (d.drained sv nested tick).1
    let last := (d.drained sv nested tick).2
    d.backlog sv nested tick = turns.map (·.env) ++ left ∧
      (left ≠ [] → last.socketOpen sv = false) ∧
      Turn.Lead (d.atDrain sv nested tick) last turns ∧
      d.tickWith sv nested tick = last.afterDrain sv left tick ∧
      ∀ turn ∈ turns, turn.Proper sv nested tick.queue := by
  intro turns left last
  obtain ⟨served, stopped, lead, proper⟩ :=
    tick.queue.turns_spec (d.backlog sv nested tick) (d.atDrain sv nested tick)
  exact ⟨served, stopped, lead, d.tickWith_eq sv nested tick, proper⟩

end LiveSession

end GameRealm
