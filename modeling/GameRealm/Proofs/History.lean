import GameRealm.Proofs.Frame

/-!
# The history of a session

A tick runs handlers, a handler may run a tick, and so on: the functions that run
a session are nested in one another. What happens to the session is all the same
one thing after another. This module writes it down as a list of events and
proves that the list tells the whole story:

1. `Event` is one thing that happens to a session, and `Event.apply` what it does;
2. `Procedure.events`, `Queue.drainEvents` and `LiveSession.tickEvents` are the events of
   a procedure, of a drain and of a tick;
3. `LiveSession.history` are the events of a run: whatever is done to a session from
   outside, in any order, with whatever handlers and callbacks;
4. `replay_history`: the events of a run, applied one by one, lead where the run
   leads. So what every event keeps, every point of every run has
   (`replay_induction`).

Events that only mark a place (an envelope is taken, a callback begins) do nothing.
-/

namespace GameRealm

inductive Queue where
  /-- For the world tick. -/
  | generic
  /-- For the tick of the region the player is in. -/
  | map
  deriving DecidableEq, Repr

/-- One thing that happens to a session. -/
inductive Event (W : Type) where
  /-- A tick begins. -/
  | clock (now : Instant)
  /-- An operation is performed. -/
  | perform (operation : Operation W)
  /-- A callback is left for the next world tick. -/
  | post (callback : Callback W)
  /-- A world tick takes the callbacks that wait. -/
  | takeCallbacks
  /-- A callback begins. -/
  | deliver (callback : Callback W)
  /-- A tick takes the backlog of a queue. -/
  | takeBacklog (queue : Queue)
  /-- An envelope is taken from the backlog. -/
  | pop (queue : Queue) (env : Envelope)
  /-- Admission grants the envelope its handler. -/
  | grant (queue : Queue) (status : AdmissionStatus) (opcode : Opcode)
  /-- The handler of an envelope begins. -/
  | invoke (queue : Queue) (env : Envelope)
  /-- The handler is done and leaves this behind. -/
  | handled (queue : Queue) (handled : Handled)
  | log (notice : Notice)
  /-- A drain ends, and the rest of its backlog is dropped. -/
  | leave (queue : Queue) (left : List Envelope)
  /-- The state machine takes its step. -/
  | advance (now : Instant)

namespace Queue

def backlog : Queue → Inbox W → List Envelope
  | generic, inbox => inbox.generic.envelopes
  | map, inbox => inbox.map.envelopes

def emptied : Queue → Inbox W → Inbox W
  | generic, inbox => { inbox with generic := {} }
  | map, inbox => { inbox with map := {} }

def verdict (sv : Services W) (env : Envelope) (d : LiveSession W) : Queue → Admission
  | generic =>
    let entry := sv.opcodes.get env.opcode
    .onWorldTick d.session (d.playerInWorld sv) env.opcode entry.name entry.status
  | map => .onRegionTick (d.playerInWorld sv) env.opcode (sv.opcodes.get env.opcode).status

/-- What a granted admission itself does to the session. -/
def admitted (status : AdmissionStatus) (opcode : Opcode) (d : LiveSession W) :
    Queue → LiveSession W
  | generic => d.noteAdmission status opcode
  | map => d

/-- Puts an envelope of the queue through admission. -/
def dispatch (sv : Services W)
    (nested : SessionTick → LiveSession W → UpdateOutcome × LiveSession W) :
    Queue → Envelope → LiveSession W → LiveSession W
  | generic => LiveSession.dispatchGeneric sv nested
  | map => LiveSession.dispatchMap sv nested

/-- Both queues are served alike: admission decides, and notes what it grants. -/
theorem dispatch_eq (sv : Services W)
    (nested : SessionTick → LiveSession W → UpdateOutcome × LiveSession W)
    (queue : Queue) (env : Envelope) (d : LiveSession W) :
    queue.dispatch sv nested env d =
      match queue.verdict sv env d with
      | .refused notice => d.logAll sv notice.toList
      | .granted =>
        (queue.admitted (sv.opcodes.get env.opcode).status env.opcode d).execute sv nested
          (sv.opcodes.get env.opcode) env := by
  cases queue <;> rfl

end Queue

namespace Event

def apply (sv : Services W) : Event W → LiveSession W → LiveSession W
  | clock now, d => d.modify fun s => { s with now }
  | perform operation, d => (operation.run sv d).2
  | post callback, d => (d.post callback).2
  | takeCallbacks, d =>
    { d with inbox := { d.inbox with mailbox := d.inbox.mailbox.drain.2 } }
  | deliver _, d => d
  | takeBacklog queue, d => { d with inbox := queue.emptied d.inbox }
  | pop _ _, d => d
  | grant queue status opcode, d => queue.admitted status opcode d
  | invoke _ _, d => d.deed sv (.delayTeleport true)
  | handled _ _, d => d.endDelay sv
  | log notice, d => d.log sv notice
  | leave .generic left, d => if left.isEmpty then d else d.log sv (.envelopesDropped left.length)
  | leave .map _, d => d
  | advance now, d => (d.advance sv now).2

end Event

def LiveSession.replay (sv : Services W) (events : List (Event W)) (d : LiveSession W) :
    LiveSession W :=
  events.foldl (fun d event => event.apply sv d) d

/-! ## The events of procedures and ticks -/

section
variable (sv : Services W) (nested : SessionTick → LiveSession W → UpdateOutcome × LiveSession W)
  (inner : SessionTick → LiveSession W → List (Event W))

/-- The events of a procedure; `inner` are those of the ticks that it asks for. -/
def Procedure.events : Act W α → LiveSession W → List (Event W)
  | finish _, _ => []
  | perform operation next, d =>
    .perform operation ::
      events (next (operation.run sv d).1) (operation.run sv d).2
  | look next, d => events (next (d.view sv)) d
  | post callback next, d =>
    .post callback :: events (next (d.post callback).1) (d.post callback).2
  | tick kind next, d => inner kind d ++ events (next (nested kind d).1) (nested kind d).2

/-- What a payload fault leaves for the next tick. -/
def Session.faultCallback (session : Session) : Callback W :=
  match session.playerGuid with
  | some guid => kickIfStill guid
  | none => closeWhateverSocket

def LiveSession.settleEvents (handled : Handled) (d : LiveSession W) : List (Event W) :=
  let env := handled.rest
  match handled.fault with
  | some fault =>
    [.log (.payloadFault env.opcode fault), .log .faultyEnvelope] ++
      if sv.config.kickOnBadPacket then [.log .faultDisconnect, .post d.session.faultCallback]
      else []
  | none =>
    if 0 < env.remaining then
      [.log (.unprocessedTail env.opcode (sv.opcodes.get env.opcode).name env.rpos env.wpos)]
    else []

def Queue.handlerEvents (queue : Queue) (handler : Envelope → Act W Handled) (env : Envelope)
    (d : LiveSession W) : List (Event W) :=
  let start := d.deed sv (.delayTeleport true)
  let ran := (handler env).run sv nested start
  .invoke queue env :: (handler env).events sv nested inner start ++
    .handled queue ran.1 :: (ran.2.endDelay sv).settleEvents sv ran.1

def Queue.turnEvents (queue : Queue) (env : Envelope) (d : LiveSession W) : List (Event W) :=
  let entry := sv.opcodes.get env.opcode
  .pop queue env ::
    match queue.verdict sv env d with
    | .refused notice => notice.toList.map .log
    | .granted =>
      .grant queue entry.status env.opcode ::
        match entry.handler with
        | .immediate _ => [.log (.immediateOnTick env.opcode)]
        | .session handler =>
          queue.handlerEvents sv nested inner handler env
            (queue.admitted entry.status env.opcode d)

def Queue.drainEvents (queue : Queue) : List Envelope → LiveSession W → List (Event W)
  | [], _ => [.leave queue []]
  | env :: rest, d =>
    if d.socketOpen sv then
      queue.turnEvents sv nested inner env d ++
        drainEvents queue rest (queue.dispatch sv nested env d)
    else [.leave queue (env :: rest)]

def LiveSession.callbackEvents : List (Callback W) → LiveSession W → List (Event W)
  | [], _ => []
  | callback :: rest, d =>
    .deliver callback :: callback.body.events sv nested inner d ++
      callbackEvents rest (callback.body.run sv nested d).2

def Queue.takeEvents (queue : Queue) (d : LiveSession W) : List (Event W) :=
  .takeBacklog queue ::
    queue.drainEvents sv nested inner (queue.backlog d.inbox)
      { d with inbox := queue.emptied d.inbox }

def LiveSession.deliverEvents (d : LiveSession W) : List (Event W) :=
  .takeCallbacks ::
    LiveSession.callbackEvents sv nested inner d.inbox.mailbox.pending
      { d with inbox := { d.inbox with mailbox := d.inbox.mailbox.drain.2 } }

/-- The events of a tick; `inner` are those of the ticks inside. -/
def LiveSession.tickEventsWith : SessionTick → LiveSession W → List (Event W)
  | .world now, d =>
    let d := d.modify fun s => { s with now }
    .clock now :: d.deliverEvents sv nested inner ++
      Queue.generic.takeEvents sv nested inner (d.deliver sv nested) ++ [.advance now]
  | .region now, d =>
    .clock now :: Queue.map.takeEvents sv nested inner (d.modify fun s => { s with now })

end

/-- The events of a tick in which ticks may run inside one another up to a depth. -/
def LiveSession.tickEventsWithin (sv : Services W) :
    Nat → SessionTick → LiveSession W → List (Event W)
  | 0, _, _ => []
  | depth + 1, tick, d =>
    tickEventsWith sv (tickWithin sv depth) (tickEventsWithin sv depth) tick d

def LiveSession.tickEvents (sv : Services W) : SessionTick → LiveSession W → List (Event W) :=
  tickEventsWith sv (tickWithin sv sv.nesting) (tickEventsWithin sv sv.nesting)

/-! ## Runs -/

/-- One thing that is done to a session from outside: its owner or the network
works on it, or a tick comes. -/
inductive SessionStep (W : Type) where
  | act (procedure : Act W Unit)
  | tick (kind : SessionTick)

namespace LiveSession

def step (sv : Services W) : SessionStep W → LiveSession W → LiveSession W
  | .act procedure, d => (d.perform sv procedure).2
  | .tick kind, d => (d.tick sv kind).2

def stepEvents (sv : Services W) : SessionStep W → LiveSession W → List (Event W)
  | .act procedure, d =>
    procedure.events sv (tickWithin sv sv.nesting) (tickEventsWithin sv sv.nesting) d
  | .tick kind, d => d.tickEvents sv kind

def run (sv : Services W) (steps : List (SessionStep W)) (d : LiveSession W) : LiveSession W :=
  steps.foldl (fun d step => d.step sv step) d

def history (sv : Services W) : List (SessionStep W) → LiveSession W → List (Event W)
  | [], _ => []
  | step :: steps, d => d.stepEvents sv step ++ history sv steps (d.step sv step)

end LiveSession

/-! ## The events tell the whole story -/

section
variable {sv : Services W} {nested : SessionTick → LiveSession W → UpdateOutcome × LiveSession W}
  {inner : SessionTick → LiveSession W → List (Event W)}

@[simp] theorem replay_nil (d : LiveSession W) : d.replay sv [] = d := rfl

@[simp] theorem replay_cons (event : Event W) (events : List (Event W)) (d : LiveSession W) :
    d.replay sv (event :: events) = (event.apply sv d).replay sv events := rfl

@[simp] theorem replay_append (first second : List (Event W)) (d : LiveSession W) :
    d.replay sv (first ++ second) = (d.replay sv first).replay sv second :=
  List.foldl_append

@[simp] theorem replay_log (notices : List Notice) (d : LiveSession W) :
    d.replay sv (notices.map .log) = d.logAll sv notices := by
  induction notices generalizing d with
  | nil => rfl
  | cons notice notices ih => exact ih (d.log sv notice)

/-- The events told of some ticks lead where the ticks lead. -/
def Tells (sv : Services W) (nested : SessionTick → LiveSession W → UpdateOutcome × LiveSession W)
    (inner : SessionTick → LiveSession W → List (Event W)) : Prop :=
  ∀ tick d, d.replay sv (inner tick d) = (nested tick d).2

theorem replay_procedure (tells : Tells sv nested inner) (p : Act W α) (d : LiveSession W) :
    d.replay sv (p.events sv nested inner d) = (p.run sv nested d).2 := by
  induction p generalizing d with
  | finish => rfl
  | perform operation next ih => exact ih _ _
  | look next ih => exact ih _ _
  | post callback next ih => exact ih _ _
  | tick kind next ih =>
    rw [Procedure.events, replay_append, tells kind d]
    exact ih _ _

theorem replay_settle (handled : Handled) (d : LiveSession W) :
    d.replay sv (d.settleEvents sv handled) = d.settle sv handled := by
  unfold LiveSession.settleEvents LiveSession.settle
  cases handled.fault with
  | some fault =>
    simp only [LiveSession.punishFault]
    split <;> rfl
  | none =>
    simp only
    split <;> rfl

theorem replay_handler (tells : Tells sv nested inner) (queue : Queue)
    (handler : Envelope → Act W Handled) (env : Envelope) (d : LiveSession W) :
    d.replay sv (queue.handlerEvents sv nested inner handler env d) =
      (d.handle sv nested handler env).2.settle sv (d.handle sv nested handler env).1 := by
  rw [Queue.handlerEvents, List.cons_append, replay_cons, replay_append]
  simp only [Event.apply, replay_procedure tells, replay_cons, replay_settle]
  rfl

theorem replay_turn (tells : Tells sv nested inner) (queue : Queue) (env : Envelope)
    (d : LiveSession W) :
    d.replay sv (queue.turnEvents sv nested inner env d) = queue.dispatch sv nested env d := by
  rw [Queue.turnEvents, Queue.dispatch_eq, replay_cons]
  simp only [Event.apply]
  cases queue.verdict sv env d with
  | refused notice => exact replay_log _ _
  | granted =>
    simp only [replay_cons, Event.apply, LiveSession.execute]
    cases (sv.opcodes.get env.opcode).handler with
    | immediate _ => rfl
    | session handler => exact replay_handler tells queue handler env _

theorem replay_drain (tells : Tells sv nested inner) (queue : Queue) (backlog : List Envelope)
    (d : LiveSession W) :
    d.replay sv (queue.drainEvents sv nested inner backlog d) =
      (Event.leave queue (d.drain sv (queue.dispatch sv nested) backlog).1).apply sv
        (d.drain sv (queue.dispatch sv nested) backlog).2 := by
  induction backlog generalizing d with
  | nil => rfl
  | cons env rest ih =>
    simp only [Queue.drainEvents, LiveSession.drain]
    split
    · rw [replay_append, replay_turn tells, ih]
    · rfl

theorem replay_callbacks (tells : Tells sv nested inner) (callbacks : List (Callback W))
    (d : LiveSession W) :
    d.replay sv (LiveSession.callbackEvents sv nested inner callbacks d) =
      d.runCallbacks sv nested callbacks := by
  induction callbacks generalizing d with
  | nil => rfl
  | cons callback rest ih =>
    rw [LiveSession.callbackEvents, List.cons_append, replay_cons, replay_append]
    simp only [Event.apply, replay_procedure tells, ih]
    rfl

theorem replay_deliver (tells : Tells sv nested inner) (d : LiveSession W) :
    d.replay sv (d.deliverEvents sv nested inner) = d.deliver sv nested :=
  replay_callbacks tells _ _

theorem replay_drainGeneric (tells : Tells sv nested inner) (d : LiveSession W) :
    d.replay sv (Queue.generic.takeEvents sv nested inner d) = d.drainGeneric sv nested :=
  replay_drain tells .generic _ _

theorem replay_drainMap (tells : Tells sv nested inner) (d : LiveSession W) :
    d.replay sv (Queue.map.takeEvents sv nested inner d) = d.drainMap sv nested :=
  replay_drain tells .map _ _

theorem replay_tickWith (tells : Tells sv nested inner) :
    Tells sv (LiveSession.tickWith sv nested) (LiveSession.tickEventsWith sv nested inner) := by
  intro tick d
  cases tick with
  | world now =>
    simp only [LiveSession.tickEventsWith, List.cons_append, replay_cons, replay_append, replay_nil,
      Event.apply, replay_deliver tells, replay_drainGeneric tells]
    rfl
  | region now =>
    simp only [LiveSession.tickEventsWith, replay_cons, Event.apply, replay_drainMap tells]
    rfl

theorem replay_tickWithin (depth : Nat) :
    Tells sv (LiveSession.tickWithin sv depth) (LiveSession.tickEventsWithin sv depth) := by
  induction depth with
  | zero => exact fun _ _ => rfl
  | succ depth ih => exact replay_tickWith ih

theorem replay_step (step : SessionStep W) (d : LiveSession W) :
    d.replay sv (d.stepEvents sv step) = d.step sv step := by
  cases step with
  | act procedure => exact replay_procedure (replay_tickWithin _) procedure d
  | tick kind => exact replay_tickWith (replay_tickWithin _) kind d

/-- The history of a run leads where the run leads. -/
theorem replay_history (steps : List (SessionStep W)) (d : LiveSession W) :
    d.replay sv (d.history sv steps) = d.run sv steps := by
  induction steps generalizing d with
  | nil => rfl
  | cons step steps ih =>
    rw [LiveSession.history, replay_append, replay_step]
    exact ih _

theorem history_append (first second : List (SessionStep W)) (d : LiveSession W) :
    d.history sv (first ++ second) = d.history sv first ++ (d.run sv first).history sv second := by
  induction first generalizing d with
  | nil => rfl
  | cons step steps ih =>
    rw [List.cons_append, LiveSession.history, LiveSession.history, ih, List.append_assoc]
    rfl

/-- The last event of a world tick is a step of the state machine, and what this
says becomes of the session is what the tick says. -/
theorem update_eq_advance (now : Instant) (d : LiveSession W) :
    ∃ past, d.tickEvents sv (.world now) = past ++ [.advance now] ∧
      d.update sv now = (d.replay sv past).advance sv now := by
  refine ⟨_, rfl, ?_⟩
  simp only [List.cons_append, replay_cons, replay_append, Event.apply,
    replay_deliver (replay_tickWithin _), replay_drainGeneric (replay_tickWithin _)]
  rfl

/-- What every event keeps holds at the end of any events. -/
theorem replay_induction {P : LiveSession W → Prop}
    (keeps : ∀ event d, P d → P (Event.apply sv event d))
    (events : List (Event W)) (d : LiveSession W) (h : P d) : P (d.replay sv events) := by
  induction events generalizing d with
  | nil => exact h
  | cons event events ih => exact ih _ (keeps event d h)

end

end GameRealm
