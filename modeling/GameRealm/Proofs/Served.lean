import GameRealm.Proofs.Conservation

/-!
# Whatever is registered can be served

A table of opcodes is built by calls that register handlers. Some of the calls are
refused, and then nothing of them is left in the table. This module follows such a
table from its first call to the ticks of a session:

1. `Registration.accepted_iff` and `Registration.settles_after`: which calls are accepted, and
   what every slot holds after a call of either kind;
2. `OpcodeTable.Built.get_outside`: beyond the opcode space every slot is unknown;
3. `Course.Serves`: the events of a course that goes amid producers are such that dispatch
   is never at a loss, with one rule for every kind of course;
4. `LiveSession.registered_served`: so it is for all tables that calls build and for all runs.
-/

namespace GameRealm

open Traffic

/-! ## Calls that register handlers -/

/-- A call that registers a handler. -/
inductive Registration (W : Type) where
  | onTick (opcode : Opcode) (name : String) (status : AdmissionStatus) (mode : ProcessingMode)
      (run : Envelope → Act W Handled)
  | immediate (opcode : Opcode) (name : String) (status : AdmissionStatus)
      (run : AccountId → Envelope → InboxAct W Handled)

namespace Registration

def opcode : Registration W → Opcode
  | onTick opcode _ _ _ _ => opcode
  | immediate opcode _ _ _ => opcode

/-- What the call wants in the slot. -/
def entry : Registration W → Descriptor W
  | onTick _ name status mode run => { name, status, mode, handler := .session run }
  | immediate _ name status run => { name, status, mode := .immediate, handler := .immediate run }

/-- What the call answers. -/
def attempt (table : OpcodeTable W) : Registration W → Except SessionError (OpcodeTable W)
  | onTick opcode name status mode run => table.register opcode name status mode run
  | immediate opcode name status run => table.registerImmediate opcode name status run

/-- The table after the call. A refused one leaves the table that there was. -/
def after (table : OpcodeTable W) (call : Registration W) : OpcodeTable W :=
  match call.attempt table with
  | .ok table => table
  | .error _ => table

end Registration

namespace OpcodeTable

/-- The table after some calls. -/
def registerAll (calls : List (Registration W)) (table : OpcodeTable W) : OpcodeTable W :=
  calls.foldl Registration.after table

/-- A table on which registration begins: one without entries, or the one with the
handlers of the session itself. -/
def Fresh (table : OpcodeTable W) : Prop := table = .empty ∨ withCoreHandlers = .ok table

end OpcodeTable

namespace Registration

variable {table table' : OpcodeTable W} {call : Registration W}

/-- What a call does to a table. -/
structure Settles (call : Registration W) (before after : OpcodeTable W) : Prop where
  /-- Accepted is what some tick, or the inbox, can serve, for a slot of the opcode space. -/
  accepted : (∃ table, call.attempt before = .ok table) ↔
    call.entry.Sound ∧ call.opcode.index?.isSome
  /-- Then the slot has the new entry, and the others keep theirs. -/
  filled : ∀ table, call.attempt before = .ok table → ∀ opcode,
    after.get opcode = if call.opcode = opcode then call.entry else before.get opcode
  /-- A refused call leaves every entry as it is. -/
  kept : ∀ error, call.attempt before = .error error → ∀ opcode,
    after.get opcode = before.get opcode

theorem set_isOk_iff (opcode : Opcode) (entry : Descriptor W) :
    (∃ table', table.set opcode entry = .ok table') ↔ opcode.index?.isSome := by
  unfold OpcodeTable.set
  cases opcode.index? <;> simp

theorem accepted_iff (table : OpcodeTable W) (call : Registration W) :
    (∃ table', call.attempt table = .ok table') ↔
      call.entry.Sound ∧ call.opcode.index?.isSome := by
  cases call with
  | onTick opcode name status mode run =>
    simp only [attempt, OpcodeTable.register, entry, Registration.opcode]
    split
    · next immediate =>
      refine ⟨nofun, fun ⟨sound, _⟩ => ?_⟩
      obtain ⟨_, other⟩ := sound.immediate.mp immediate
      cases other
    · next session =>
      split
      · next playerless =>
        exact ⟨nofun, fun ⟨sound, _⟩ => absurd (sound.player playerless.1) playerless.2⟩
      · next served =>
        have sound : Descriptor.Sound ⟨name, status, mode, .session run⟩ :=
          ⟨⟨fun same => absurd same session, nofun⟩,
            fun mapThread => Decidable.byContradiction fun other => served ⟨mapThread, other⟩⟩
        rw [set_isOk_iff]
        exact ⟨fun inside => ⟨sound, inside⟩, And.right⟩
  | immediate opcode name status run =>
    have sound : Descriptor.Sound ⟨name, status, .immediate, .immediate run⟩ :=
      ⟨⟨fun _ => ⟨run, rfl⟩, fun _ => rfl⟩, nofun⟩
    exact (set_isOk_iff opcode _).trans ⟨fun inside => ⟨sound, inside⟩, And.right⟩

theorem get_of_accepted (accepted : call.attempt table = .ok table') (opcode : Opcode) :
    table'.get opcode = if call.opcode = opcode then call.entry else table.get opcode := by
  cases call with
  | onTick slot name status mode run =>
    simp only [attempt, OpcodeTable.register] at accepted
    split at accepted
    · contradiction
    · split at accepted
      · contradiction
      · exact OpcodeTable.get_of_set accepted opcode
  | immediate slot name status run => exact OpcodeTable.get_of_set accepted opcode

theorem settles_after (table : OpcodeTable W) (call : Registration W) :
    call.Settles table (call.after table) where
  accepted := accepted_iff table call
  filled := by
    intro table' accepted opcode
    rw [after, accepted]
    exact get_of_accepted accepted opcode
  kept := by
    intro error refused opcode
    rw [after, refused]

theorem built_after (built : table.Built) (call : Registration W) : (call.after table).Built := by
  unfold after
  split
  · next accepted =>
    cases call with
    | onTick => exact .register built accepted
    | immediate => exact .registerImmediate built accepted
  · exact built

end Registration

namespace OpcodeTable

theorem registerAll_concat (calls : List (Registration W)) (call : Registration W)
    (table : OpcodeTable W) :
    registerAll (calls ++ [call]) table = call.after (registerAll calls table) :=
  List.foldl_append

theorem Fresh.built {table : OpcodeTable W} (fresh : table.Fresh) : table.Built := by
  rcases fresh with rfl | registered
  · exact .empty
  · exact built_registerCore .empty registered

theorem Fresh.built_registerAll {start : OpcodeTable W} (fresh : start.Fresh)
    (calls : List (Registration W)) : (start.registerAll calls).Built :=
  built_foldl (fun _ call built => Registration.built_after built call) calls fresh.built

theorem Built.get_outside {table : OpcodeTable W} (built : table.Built) {opcode : Opcode}
    (outside : opcode.index? = none) : table.get opcode = .unknown := by
  have step : ∀ (call : Registration W) (before after : OpcodeTable W),
      before.get opcode = .unknown → call.attempt before = .ok after →
        after.get opcode = .unknown := by
    intro call before after unknown accepted
    have inside := ((call.accepted_iff before).mp ⟨after, accepted⟩).2
    have other : call.opcode ≠ opcode := by
      rintro rfl
      rw [outside] at inside
      contradiction
    rw [Registration.get_of_accepted accepted, if_neg other, unknown]
  induction built with
  | empty => rfl
  | register _ registered ih => exact step (.onTick ..) _ _ ih registered
  | registerImmediate _ registered ih => exact step (.immediate ..) _ _ ih registered

end OpcodeTable

/-! ## Dispatch is never at a loss -/

/-- Dispatch is not at a loss: an envelope that is popped waited where it belongs, and
neither is there an immediate handler nor a queue for players that serves others. -/
def Event.Served (sv : Services W) : Event W → Prop
  | pop queue env => sv.route env = some queue
  | log (.immediateOnTick _) => False
  | log (.mapQueuedWithoutPlayer _ _) => False
  | _ => True

/-- However a course goes amid producers, dispatch is never at a loss, if everything is in
its place when the course begins. -/
def Course.Serves (sv : Services W) (course : Course W α) : Prop :=
  ∀ d events result e, d.inbox.Routed sv → course.Amid sv d events result e →
    ∀ event ∈ events, event.Served sv

section
variable {sv : Services W} {queue : Queue}

theorem mode_of_route {env : Envelope} (waits : sv.route env = some queue) :
    (sv.opcodes.get env.opcode).mode ≠ .immediate := by
  intro immediate
  unfold Services.route at waits
  rw [immediate] at waits
  contradiction

theorem status_of_route (built : sv.opcodes.Built) {env : Envelope}
    (waits : sv.route env = some .map) : (sv.opcodes.get env.opcode).status = .loggedIn := by
  refine (built.sound_get env.opcode).player ?_
  unfold Services.route at waits
  split at waits
  · contradiction
  · next mapThread => exact mapThread
  · contradiction
  · contradiction

theorem served_refused (built : sv.opcodes.Built) {env : Envelope} {d : LiveSession W}
    {notice : Option Notice} (waits : sv.route env = some queue)
    (refused : queue.verdict sv env d = .refused notice) :
    ∀ event ∈ notice.toList.map Event.log, event.Served sv := by
  cases queue with
  | generic =>
    simp only [Queue.verdict, Admission.onWorldTick] at refused
    repeat' split at refused
    all_goals cases refused <;> simp [Event.Served]
  | map =>
    simp only [Queue.verdict, Admission.onRegionTick, status_of_route built waits, if_true]
      at refused
    split at refused <;> cases refused
    exact nofun

theorem served_settle (handled : Handled) (d : LiveSession W) :
    ∀ event ∈ d.settleEvents sv handled, event.Served sv := by
  unfold LiveSession.settleEvents
  cases handled.fault with
  | some fault =>
    simp only
    split <;> simp [Event.Served]
  | none =>
    simp only
    split <;> simp [Event.Served]

theorem routed_interjections (built : sv.opcodes.Built) (calls : List (Interjection W))
    {d : LiveSession W} (routed : d.inbox.Routed sv) :
    (d.replay sv (calls.map Interjection.event)).inbox.Routed sv :=
  replay_induction (P := fun d => d.inbox.Routed sv) (routed_apply built) _ d routed

theorem served_interjections (calls : List (Interjection W)) :
    ∀ event ∈ calls.map Interjection.event, event.Served sv := by
  intro event member
  obtain ⟨call, _, rfl⟩ := List.mem_map.mp member
  cases call <;> trivial

namespace Course

theorem serves_done (result : α) : (done result : Course W α).Serves sv := by
  intro d events answer e _ amid
  obtain ⟨calls, rfl⟩ := amid.of_done
  exact served_interjections calls

theorem serves_look (built : sv.opcodes.Built) {next : LiveSession W → Course W α}
    (serves : ∀ d, (next d).Serves sv) : (look next).Serves sv := by
  intro d events answer e routed amid
  obtain ⟨calls, rest, rfl, goes⟩ := amid.of_look
  exact List.forall_mem_append.mpr ⟨served_interjections calls,
    serves _ _ rest answer e (routed_interjections built calls routed) goes⟩

/-- An event at which dispatch is not at a loss, and then the rest. The rest may rely on
everything that waits being in its place. -/
theorem serves_step (built : sv.opcodes.Built) {event : LiveSession W → Event W}
    {next : LiveSession W → Course W α} (served : ∀ d, (event d).Served sv)
    (serves : ∀ d, d.inbox.Routed sv → (next d).Serves sv) : (step event next).Serves sv := by
  intro d events answer e routed amid
  obtain ⟨calls, rest, rfl, goes⟩ := amid.of_step
  have seen := routed_interjections built calls routed
  refine List.forall_mem_append.mpr ⟨served_interjections calls, List.forall_mem_cons.mpr ?_⟩
  exact ⟨served _, serves _ seen _ rest answer e (routed_apply built _ _ seen) goes⟩

theorem Serves.bind (built : sv.opcodes.Built) {course : Course W α} {f : α → Course W β}
    (first : course.Serves sv) (second : ∀ result, (f result).Serves sv) :
    (course.bind f).Serves sv := by
  intro d events answer e routed amid
  obtain ⟨early, result, mid, late, rfl, amid, rest⟩ := amid.of_bind
  have between : mid.inbox.Routed sv := by
    rw [← amid.replay]
    exact replay_induction (P := fun d => d.inbox.Routed sv) (routed_apply built) early d routed
  exact List.forall_mem_append.mpr ⟨first d early result mid routed amid,
    second result mid late answer e between rest⟩

theorem serves_each (built : sv.opcodes.Built) {events : List (Event W)}
    (served : ∀ event ∈ events, event.Served sv) : (each events).Serves sv := by
  induction events with
  | nil => exact serves_done ()
  | cons event events ih =>
    obtain ⟨now, later⟩ := List.forall_mem_cons.mp served
    exact serves_step built (fun _ => now) fun _ _ => ih later

end Course

/-! ## The parts of a tick -/

variable {inner : SessionTick → Course W UpdateOutcome}

theorem serves_procedure (built : sv.opcodes.Built) (nested : ∀ kind, (inner kind).Serves sv)
    (p : Act W α) : (p.course sv inner).Serves sv := by
  induction p with
  | finish result => exact Course.serves_done result
  | perform operation next ih =>
    exact Course.serves_step built (fun _ => trivial) fun _ _ => ih _
  | look next ih => exact Course.serves_look built fun _ => ih _
  | post callback next ih => exact Course.serves_step built (fun _ => trivial) fun _ _ => ih _
  | tick kind next ih => exact (nested kind).bind built ih

theorem serves_handlerCourse (built : sv.opcodes.Built)
    (nested : ∀ kind, (inner kind).Serves sv) (handler : Envelope → Act W Handled)
    (env : Envelope) : (queue.handlerCourse sv inner handler env).Serves sv := by
  refine Course.serves_step built (fun _ => trivial) fun _ _ => ?_
  refine (serves_procedure built nested (handler env)).bind built fun handled => ?_
  refine Course.serves_step built (fun _ => trivial) fun _ _ => ?_
  exact Course.serves_look built fun d => Course.serves_each built (served_settle handled d)

/-- An envelope that waited where it belongs has a handler that runs on a tick. -/
theorem serves_judgedCourse (built : sv.opcodes.Built)
    (nested : ∀ kind, (inner kind).Serves sv) {env : Envelope}
    (waits : sv.route env = some queue) (d : LiveSession W) :
    (queue.judgedCourse sv inner env d).Serves sv := by
  unfold Queue.judgedCourse
  cases verdict : queue.verdict sv env d with
  | refused notice => exact Course.serves_each built (served_refused built waits verdict)
  | granted =>
    obtain ⟨handler, handles⟩ := session_of_route built waits
    refine Course.serves_step built (fun _ => trivial) fun _ _ => ?_
    simp only [handles]
    exact serves_handlerCourse built nested handler env

theorem serves_drainCourse (built : sv.opcodes.Built)
    (nested : ∀ kind, (inner kind).Serves sv) {backlog : List Envelope}
    (waits : ∀ env ∈ backlog, sv.route env = some queue) :
    (queue.drainCourse sv inner backlog).Serves sv := by
  induction backlog with
  | nil => exact Course.serves_each built (List.forall_mem_singleton.mpr trivial)
  | cons env rest ih =>
    obtain ⟨first, later⟩ := List.forall_mem_cons.mp waits
    refine Course.serves_step built (fun d => ?_) fun d _ => ?_
    · split
      · exact first
      · trivial
    · split
      · exact (serves_judgedCourse built nested first d).bind built fun _ => ih later
      · exact Course.serves_done ()

theorem serves_takeCourse (built : sv.opcodes.Built)
    (nested : ∀ kind, (inner kind).Serves sv) (queue : Queue) :
    (queue.takeCourse sv inner).Serves sv :=
  Course.serves_step built (fun _ => trivial) fun _ routed =>
    serves_drainCourse built nested (routed queue)

theorem serves_deliverCourse (built : sv.opcodes.Built)
    (nested : ∀ kind, (inner kind).Serves sv) : (Callback.deliverCourse sv inner).Serves sv := by
  refine Course.serves_step built (fun _ => trivial) fun d _ => ?_
  induction d.inbox.mailbox.pending with
  | nil => exact Course.serves_done ()
  | cons callback rest ih =>
    refine Course.serves_step built (fun _ => trivial) fun _ _ => ?_
    exact (serves_procedure built nested callback.body).bind built fun _ => ih

theorem serves_courseWith (built : sv.opcodes.Built) (nested : ∀ kind, (inner kind).Serves sv)
    (tick : SessionTick) : (tick.courseWith sv inner).Serves sv := by
  cases tick with
  | world now =>
    refine Course.serves_step built (fun _ => trivial) fun _ _ => ?_
    refine (serves_deliverCourse built nested).bind built fun _ => ?_
    refine (serves_takeCourse built nested .generic).bind built fun _ => ?_
    exact Course.serves_step built (fun _ => trivial) fun _ _ => Course.serves_done _
  | region now =>
    refine Course.serves_step built (fun _ => trivial) fun _ _ => ?_
    exact (serves_takeCourse built nested .map).bind built fun _ => Course.serves_done _

theorem serves_courseWithin (built : sv.opcodes.Built) (depth : Nat) (tick : SessionTick) :
    (tick.courseWithin sv depth).Serves sv := by
  induction depth generalizing tick with
  | zero => exact Course.serves_done _
  | succ depth ih => exact serves_courseWith built ih tick

theorem serves_ofSteps (built : sv.opcodes.Built) (steps : List (SessionStep W)) :
    (Course.ofSteps sv steps).Serves sv := by
  have inner := serves_courseWithin built sv.nesting
  induction steps with
  | nil => exact Course.serves_done ()
  | cons first steps ih =>
    refine Course.Serves.bind built ?_ fun _ => ih
    cases first with
    | act procedure => exact serves_procedure built inner procedure
    | tick kind =>
      exact (serves_courseWith built inner kind).bind built fun _ => Course.serves_done ()

theorem route_of_arrival {events : List (Event W)} {d : LiveSession W} {arrival : Nat × Envelope}
    (arrives : arrival ∈ allArrivals (d.traffic sv queue events)) :
    sv.route arrival.2 = some queue := by
  obtain ⟨⟨item, time⟩, member, arriving⟩ := List.mem_flatMap.mp arrives
  obtain ⟨env, among, rfl⟩ := List.mem_map.mp arriving
  have found := (get_traffic ..).symm.trans (List.mem_zipIdx_iff_getElem?.mp member)
  obtain ⟨event, _, traffic⟩ := Option.map_eq_some_iff.mp found
  cases item with
  | calls made =>
    obtain ⟨call, called, arrival⟩ := List.mem_filterMap.mp among
    have fits := fits_traffic (by rw [traffic]; rfl) call called
    cases call with
    | arrive _ =>
      cases arrival
      exact fits
    | purge => cases arrival
  | _ => cases among

end

/-! ## Runs -/

namespace LiveSession

/-- A table that is built by calls, some of them refused, holds entries that can be served,
and unknown beyond the opcode space; a refused call leaves every entry as it is. However a
session that uses the table runs, and whatever producers do to its inbox meanwhile: no
immediate opcode ever gets into a queue or waits in one, and dispatch is never at a loss. -/
theorem registered_served (sv : Services W) (first : OpcodeTable W) (fresh : first.Fresh)
    (calls : List (Registration W)) (uses : sv.opcodes = first.registerAll calls)
    (account : Account) (socket : SocketId) (birth : Instant) (outside : Outside W)
    (steps : List (SessionStep W)) (events : List (Event W)) (finished : Unit)
    (last : LiveSession W)
    (amid : (Course.ofSteps sv steps).Amid sv (create sv account socket birth outside) events
      finished last) :
    let start := create sv account socket birth outside
    (∀ done call, done ++ [call] <+: calls →
      call.Settles (first.registerAll done) (first.registerAll (done ++ [call]))) ∧
    (∀ opcode, (sv.opcodes.get opcode).Sound ∧
      (opcode.index? = none → sv.opcodes.get opcode = .unknown)) ∧
    (∀ queue : Queue,
      (∀ past, past <+: events → ∀ env ∈ queue.backlog (start.replay sv past).inbox,
        (sv.opcodes.get env.opcode).mode ≠ .immediate) ∧
      ∀ arrival ∈ allArrivals (start.traffic sv queue events),
        (sv.opcodes.get arrival.2.opcode).mode ≠ .immediate) ∧
    ∀ event ∈ events, event.Served sv := by
  intro start
  have built : sv.opcodes.Built := uses ▸ fresh.built_registerAll calls
  have routed : start.inbox.Routed sv := by
    intro queue env waits
    cases queue <;> exact absurd waits List.not_mem_nil
  refine ⟨fun done call _ => ?registration, fun opcode => ?table, fun queue => ?queues, ?dispatch⟩
  case registration =>
    rw [OpcodeTable.registerAll_concat]
    exact call.settles_after _
  case table => exact ⟨built.sound_get opcode, built.get_outside⟩
  case queues =>
    refine ⟨fun past _ env waits => ?_, fun _ arrives => mode_of_route (route_of_arrival arrives)⟩
    have kept := replay_induction (P := fun d => d.inbox.Routed sv) (routed_apply built) past
      start routed
    exact mode_of_route (kept queue env waits)
  case dispatch => exact serves_ofSteps built steps start events finished last routed amid

open Rehearsal

/-- Two of five calls are accepted. Then a producer enqueues an envelope for each slot,
ahead of a world tick and a region's tick: the immediate one is handled at once, and each
tick takes what waits for it. -/
theorem registered_served_mixed :
    let core := (coreServices {}).opcodes
    let calls : List (Registration Stage) := [
      .onTick ⟨0x1A⟩ "OP_MAP" .loggedIn .mapThread record,
      .onTick ⟨0x1A⟩ "OP_MAP_AUTHED" .authed .mapThread record,
      .immediate ⟨0x20⟩ "OP_IMMEDIATE" .authed sayLatency,
      .onTick ⟨0x20⟩ "OP_LATE" .authed .immediate record,
      .onTick ⟨0xFFFF⟩ "OP_BEYOND" .authed .inPlace record]
    let sv : Services Stage :=
      { collaborators := Stage.collaborators, opcodes := core.registerAll calls }
    let run := (Course.ofSteps sv [.tick (.world 0), .tick (.region 10)]).woven sv
      [[.enqueue (.empty ⟨0x20⟩), .enqueue (.empty ⟨0x1A⟩), .enqueue (.empty ⟨0xFFFF⟩)]]
      (opening sv)
    (run.1.filterMap fun | .pop queue env => some (queue, env.opcode) | _ => none) =
        [(.generic, ⟨0xFFFF⟩), (.map, ⟨0x1A⟩)] ∧
      ((sv.opcodes.get ⟨0x1A⟩).name, (sv.opcodes.get ⟨0x20⟩).name) =
        ("OP_MAP", "OP_IMMEDIATE") ∧
      ∀ event ∈ run.1, event.Served sv := by
  intro core calls sv run
  have amid : (Course.ofSteps sv [.tick (.world 0), .tick (.region 10)]).Amid sv (opening sv)
      run.1 run.2.1 run.2.2 := Course.amid_woven _ _ _
  have fresh : core.Fresh := .inr rfl
  refine ⟨by decide +kernel, by decide +kernel, ?_⟩
  exact (registered_served sv core fresh calls rfl _ _ _ _ _ _ _ _ amid).2.2.2

end LiveSession

end GameRealm
