import GameRealm.Proofs.Course
import GameRealm.Proofs.Reckoning
import GameRealm.Proofs.Registration

/-!
# What events mean to a queue

An envelope that is enqueued either waits in one of the two queues or is handled at
once, and its handler may enqueue others. This module reads the traffic of each queue
off the events of a run:

1. `Services.route` is the queue in which an envelope waits, `Operation.calls` what an
   operation does to a queue from the network's side, and `Event.traffic` what an event
   means to it;
2. `backlog_apply`: what waits after an event is what its calls leave;
3. `routed_apply`: an envelope waits in the queue where it belongs or in none.
-/

namespace GameRealm

open Traffic

/-! ## The traffic of a queue -/

/-- The queue in which an envelope waits. An immediate one waits in none. -/
def Services.route (sv : Services W) (env : Envelope) : Option Queue :=
  match (sv.opcodes.get env.opcode).mode with
  | .immediate => none
  | .mapThread => some .map
  | .inPlace | .threadUnsafe => some .generic

/-- What removing the movements means to the queue. -/
def Queue.purges : Queue → List Call
  | generic => []
  | map => [.purge]

namespace LiveInbox

section
variable (sv : Services W) (queue : Queue)

/-- What an immediate handler does to the queue; `deeper` takes the envelopes that it
enqueues itself, and `calls` is what they do to the queue. -/
def runCalls (deeper : Envelope → LiveInbox W → LiveInbox W)
    (calls : Envelope → LiveInbox W → List Call) : InboxAct W α → LiveInbox W → List Call
  | .finish _, _ => []
  | .look next, r => runCalls deeper calls (next r.inbox.generic.length r.inbox.map.length) r
  | .post callback next, r =>
    runCalls deeper calls (next (r.post callback).1) (r.post callback).2
  | .enqueue env next, r => calls env r ++ runCalls deeper calls next (deeper env r)
  | .deleteMovementPackets next, r =>
    queue.purges ++ runCalls deeper calls next { r with inbox := r.inbox.deleteMovementPackets }
  | .remark speaker text next, r =>
    runCalls deeper calls next (r.emit sv (.remark speaker text))

/-- What an envelope that arrives does to the queue. -/
def receiveCalls
    (immediately : (AccountId → Envelope → InboxAct W Handled) → LiveInbox W → List Call)
    (env : Envelope) (r : LiveInbox W) : List Call :=
  match sv.route env, (sv.opcodes.get env.opcode).handler with
  | none, .immediate handler => immediately handler (r.emit sv (.countOpcode env.opcode))
  | target, _ => if target = some queue then [.arrive env] else []

/-- So it is while immediate handlers may run inside one another up to a depth. -/
def enqueueCallsWithin : Nat → Envelope → LiveInbox W → List Call
  | 0, env, r => receiveCalls sv queue (fun _ _ => []) env r
  | depth + 1, env, r =>
    let immediately (handler : AccountId → Envelope → InboxAct W Handled) (r : LiveInbox W) :=
      runCalls sv queue (enqueueWithin sv depth) (enqueueCallsWithin depth)
        (handler r.inbox.account env) r
    receiveCalls sv queue immediately env r

/-- What an envelope that is enqueued does to the queue. -/
def enqueueCalls : Envelope → LiveInbox W → List Call :=
  enqueueCallsWithin sv queue sv.nesting

end

end LiveInbox

/-- What an operation does to the queue, if it is one of the network's side. -/
def Operation.calls? (sv : Services W) (queue : Queue) (d : LiveSession W) :
    Operation W → Option (List Call)
  | enqueue env => some (d.toLiveInbox.enqueueCalls sv queue env)
  | deleteMovementPackets => some queue.purges
  | _ => none

/-- What an event means to the queue. -/
def Event.traffic (sv : Services W) (queue : Queue) (d : LiveSession W) : Event W → Traffic
  | perform operation => (operation.calls? sv queue d).elim .work .calls
  | post _ => .calls []
  | grant _ _ _ => .calls []
  | takeBacklog taken => if taken = queue then .take else .work
  | pop served env =>
    if served = queue then .pop env (decide (queue.verdict sv env d = .granted)) else .work
  | invoke served env => if served = queue then .invoke env else .work
  | leave served left => if served = queue then .leave left (d.socketOpen sv) else .work
  | _ => .work

/-- What some events mean to the queue. -/
def LiveSession.traffic (sv : Services W) (queue : Queue) :
    List (Event W) → LiveSession W → List Traffic
  | [], _ => []
  | event :: events, d => event.traffic sv queue d :: traffic sv queue events (event.apply sv d)

/-! ## Calls -/

/-- A call that the queue may get: what arrives belongs in it, and only the map queue is
rid of movements. -/
def Call.Fits (sv : Services W) (queue : Queue) : Call → Prop
  | arrive env => sv.route env = some queue
  | purge => queue = .map

section
variable {sv : Services W} {queue : Queue}

theorem Queue.fits_purges (queue : Queue) : ∀ call ∈ queue.purges, call.Fits sv queue := by
  cases queue with
  | generic => exact nofun
  | map => exact List.forall_mem_singleton.mpr rfl

theorem backlog_deleteMovementPackets (inbox : Inbox W) :
    queue.backlog inbox.deleteMovementPackets =
      queue.purges.foldl Call.enterBacklog (queue.backlog inbox) := by
  cases queue <;> rfl

namespace LiveInbox

theorem backlog_run {deeper : Envelope → LiveInbox W → LiveInbox W}
    {calls : Envelope → LiveInbox W → List Call}
    (told : ∀ env r, queue.backlog (deeper env r).inbox =
      (calls env r).foldl Call.enterBacklog (queue.backlog r.inbox))
    (p : InboxAct W α) (r : LiveInbox W) :
    queue.backlog (run sv deeper p r).2.inbox =
      (runCalls sv queue deeper calls p r).foldl Call.enterBacklog (queue.backlog r.inbox) := by
  induction p generalizing r with
  | finish => rfl
  | look next ih => exact ih _ _ r
  | post callback next ih =>
    refine (ih _ _).trans ?_
    cases queue <;> rfl
  | enqueue env next ih =>
    rw [runCalls, List.foldl_append, ← told]
    exact ih _
  | deleteMovementPackets next ih =>
    rw [runCalls, List.foldl_append, ← backlog_deleteMovementPackets]
    exact ih _
  | remark speaker text next ih => exact ih _

theorem backlog_receive (built : sv.opcodes.Built)
    {immediately : (AccountId → Envelope → InboxAct W Handled) → Envelope → LiveInbox W →
      LiveInbox W}
    {calls : (AccountId → Envelope → InboxAct W Handled) → LiveInbox W → List Call}
    (env : Envelope)
    (told : ∀ handler r, queue.backlog (immediately handler env r).inbox =
      (calls handler r).foldl Call.enterBacklog (queue.backlog r.inbox))
    (r : LiveInbox W) :
    queue.backlog (receive sv immediately env r).inbox =
      (receiveCalls sv queue calls env r).foldl Call.enterBacklog (queue.backlog r.inbox) := by
  have sound := (built.sound_get env.opcode).immediate
  unfold receive receiveCalls Services.route
  cases mode : (sv.opcodes.get env.opcode).mode with
  | immediate =>
    obtain ⟨handler, handles⟩ := sound.mp mode
    simp only [mode, handles]
    exact told handler _
  | mapThread => simp only [mode]; cases queue <;> rfl
  | inPlace => simp only [mode]; cases queue <;> rfl
  | threadUnsafe => simp only [mode]; cases queue <;> rfl

theorem backlog_enqueueWithin (built : sv.opcodes.Built) (depth : Nat) (env : Envelope)
    (r : LiveInbox W) :
    queue.backlog (enqueueWithin sv depth env r).inbox =
      (enqueueCallsWithin sv queue depth env r).foldl Call.enterBacklog
        (queue.backlog r.inbox) := by
  induction depth generalizing env r with
  | zero => exact backlog_receive built env (fun _ _ => rfl) r
  | succ depth ih =>
    rw [enqueueWithin, enqueueCallsWithin]
    exact backlog_receive built env (fun handler r => backlog_run ih _ r) r

theorem fits_runCalls {deeper : Envelope → LiveInbox W → LiveInbox W}
    {calls : Envelope → LiveInbox W → List Call}
    (fits : ∀ env r, ∀ call ∈ calls env r, call.Fits sv queue) (p : InboxAct W α)
    (r : LiveInbox W) : ∀ call ∈ runCalls sv queue deeper calls p r, call.Fits sv queue := by
  induction p generalizing r with
  | finish => exact nofun
  | look next ih => exact ih _ _ r
  | post callback next ih => exact ih _ _
  | enqueue env next ih => exact List.forall_mem_append.mpr ⟨fits env r, ih _⟩
  | deleteMovementPackets next ih =>
    exact List.forall_mem_append.mpr ⟨queue.fits_purges, ih _⟩
  | remark speaker text next ih => exact ih _

theorem fits_receiveCalls
    {calls : (AccountId → Envelope → InboxAct W Handled) → LiveInbox W → List Call}
    (fits : ∀ handler r, ∀ call ∈ calls handler r, call.Fits sv queue) (env : Envelope)
    (r : LiveInbox W) : ∀ call ∈ receiveCalls sv queue calls env r, call.Fits sv queue := by
  unfold receiveCalls
  split
  · exact fits _ _
  · split
    · next here => exact List.forall_mem_singleton.mpr here
    · exact nofun

theorem fits_enqueueCallsWithin (depth : Nat) (env : Envelope) (r : LiveInbox W) :
    ∀ call ∈ enqueueCallsWithin sv queue depth env r, call.Fits sv queue := by
  induction depth generalizing env r with
  | zero => exact fits_receiveCalls (fun _ _ _ none => absurd none List.not_mem_nil) env r
  | succ depth ih =>
    rw [enqueueCallsWithin]
    exact fits_receiveCalls (fun _ _ => fits_runCalls ih _ _) env r

end LiveInbox

theorem fits_calls (operation : Operation W) (d : LiveSession W) :
    ∀ call ∈ (operation.calls? sv queue d).getD [], call.Fits sv queue := by
  unfold Operation.calls?
  split
  · exact LiveInbox.fits_enqueueCallsWithin _ _ _
  · exact queue.fits_purges
  · exact nofun

/-- An operation works on the queue by its calls and not otherwise. -/
theorem backlog_run (built : sv.opcodes.Built) (operation : Operation W) (d : LiveSession W) :
    queue.backlog (operation.run sv d).2.inbox =
      ((operation.calls? sv queue d).getD []).foldl Call.enterBacklog
        (queue.backlog d.inbox) := by
  cases operation with
  | enqueue env => exact LiveInbox.backlog_enqueueWithin built sv.nesting env d.toLiveInbox
  | deleteMovementPackets => exact backlog_deleteMovementPackets d.inbox
  | _ => simp [Operation.run, Operation.calls?, LiveSession.resetTimeSync,
    LiveSession.loadGlobalAccountData]

/-- What comes down to calls is an operation, or comes down to none and does not take the
backlog. -/
theorem calls_of_traffic {event : Event W} {d : LiveSession W} {made : List Call}
    (traffic : (event.traffic sv queue d).made? = some made) :
    (∃ operation, event = .perform operation ∧
      made = (operation.calls? sv queue d).getD []) ∨
    made = [] ∧ (∀ operation, event ≠ .perform operation) ∧ event ≠ .takeBacklog queue := by
  cases event with
  | perform operation =>
    refine .inl ⟨operation, rfl, ?_⟩
    simp only [Event.traffic] at traffic
    cases calls : operation.calls? sv queue d <;> rw [calls] at traffic <;> cases traffic <;> rfl
  | takeBacklog taken =>
    simp only [Event.traffic] at traffic
    split at traffic
    · contradiction
    · next other =>
      cases traffic
      exact .inr ⟨rfl, nofun, fun same => other (Event.takeBacklog.inj same)⟩
  | pop | invoke | leave =>
    simp only [Event.traffic] at traffic
    split at traffic
    · contradiction
    · cases traffic
      exact .inr ⟨rfl, nofun, nofun⟩
  | _ =>
    cases traffic
    exact .inr ⟨rfl, nofun, nofun⟩

theorem fits_traffic {event : Event W} {d : LiveSession W} {made : List Call}
    (traffic : (event.traffic sv queue d).made? = some made) :
    ∀ call ∈ made, call.Fits sv queue := by
  rcases calls_of_traffic traffic with ⟨operation, rfl, rfl⟩ | ⟨rfl, _⟩
  · exact fits_calls operation d
  · exact nofun

theorem backlog_other {event : Event W} (other : ∀ operation, event ≠ .perform operation)
    (left : event ≠ .takeBacklog queue) (d : LiveSession W) :
    queue.backlog (event.apply sv d).inbox = queue.backlog d.inbox := by
  cases event with
  | perform operation => exact absurd rfl (other operation)
  | takeBacklog taken =>
    cases taken <;> cases queue <;> first | rfl | exact absurd rfl left
  | post callback => cases queue <;> rfl
  | takeCallbacks => cases queue <;> rfl
  | grant served status opcode =>
    cases served with
    | generic => simp only [Event.apply, Queue.admitted, LiveSession.noteAdmission]; split <;> rfl
    | map => rfl
  | leave served left =>
    cases served with
    | generic => simp only [Event.apply]; split <;> rfl
    | map => rfl
  | _ => simp [Event.apply]

theorem backlog_apply (built : sv.opcodes.Built) {event : Event W} {d : LiveSession W}
    {made : List Call} (traffic : (event.traffic sv queue d).made? = some made) :
    queue.backlog (event.apply sv d).inbox =
      made.foldl Call.enterBacklog (queue.backlog d.inbox) := by
  rcases calls_of_traffic traffic with ⟨operation, rfl, rfl⟩ | ⟨rfl, other, left⟩
  · exact backlog_run built operation d
  · exact backlog_other other left d

theorem traffic_append (first second : List (Event W)) (d : LiveSession W) :
    d.traffic sv queue (first ++ second) =
      d.traffic sv queue first ++ (d.replay sv first).traffic sv queue second := by
  induction first generalizing d with
  | nil => rfl
  | cons event first ih => exact congrArg (event.traffic sv queue d :: ·) (ih _)

theorem get_traffic (events : List (Event W)) (d : LiveSession W) (time : Nat) :
    (d.traffic sv queue events)[time]? =
      events[time]?.map fun event => event.traffic sv queue (d.replay sv (events.take time)) := by
  induction events generalizing d time with
  | nil => rfl
  | cons event events ih =>
    cases time with
    | zero => rfl
    | succ time => exact ih _ _

end

/-! ## Everything in its place -/

/-- Everything that waits is in the queue where it belongs. -/
def Inbox.Routed (sv : Services W) (inbox : Inbox W) : Prop :=
  ∀ queue : Queue, ∀ env ∈ queue.backlog inbox, sv.route env = some queue

section
variable {sv : Services W}

theorem mem_enterBacklog {made : List Call} {backlog : List Envelope} {env : Envelope}
    (waits : env ∈ made.foldl Call.enterBacklog backlog) :
    env ∈ backlog ∨ .arrive env ∈ made := by
  induction made generalizing backlog with
  | nil => exact .inl waits
  | cons call rest ih =>
    rcases ih waits with before | later
    · cases call with
      | arrive arriving =>
        rcases List.mem_append.mp before with before | now
        · exact .inl before
        · rw [List.mem_singleton.mp now]
          exact .inr List.mem_cons_self
      | purge => exact .inl (List.mem_filter.mp before).1
    · exact .inr (List.mem_cons_of_mem _ later)

theorem routed_apply (built : sv.opcodes.Built) (event : Event W) (d : LiveSession W)
    (routed : d.inbox.Routed sv) : (event.apply sv d).inbox.Routed sv := by
  intro queue env waits
  by_cases performed : ∃ operation, event = .perform operation
  · obtain ⟨operation, rfl⟩ := performed
    rw [Event.apply, backlog_run built] at waits
    rcases mem_enterBacklog waits with before | arrives
    · exact routed queue env before
    · exact fits_calls operation d _ arrives
  · by_cases left : event = .takeBacklog queue
    · subst left
      cases queue <;> exact absurd waits List.not_mem_nil
    · rw [backlog_other (not_exists.mp performed) left] at waits
      exact routed queue env waits

end

end GameRealm
