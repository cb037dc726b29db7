import GameRealm.Proofs.Bookkeeping
import GameRealm.Proofs.Lifecycle
import GameRealm.Proofs.Routing

/-!
# No envelope is lost

Whatever is done to a session, and whatever producers do to its inbox meanwhile, every
envelope that is enqueued to wait is accounted for:

1. `Course.Books`: how the books of a queue stand before and after a course, with one
   rule for every kind of course and one lemma for every part of a tick;
2. `LiveSession.envelopes_accounted`: every run leaves both queues with a complete reckoning.

An envelope is popped or removed or dropped or still waits, once and for all. Within a
queue envelopes are popped in the order in which they were enqueued, but for drains
that begin inside one another (`Fate.Before`, `LiveSession.overtaken_in_nested_drain`).
-/

namespace GameRealm

open Traffic

/-! ## The books of a course -/

/-- The books of a queue show what waits in the inbox. -/
def LiveSession.Booked (sv : Services W) (queue : Queue) (stack : List (Nat × List Envelope))
    (turn : Option Envelope) (d : LiveSession W) (l : Ledger) : Prop :=
  l.Shows (sv.route · = some queue) (queue.backlog d.inbox) stack turn

/-- However a course goes amid producers, its traffic can be booked, if the books show
the first stack and turn before it, and then they show the second ones. -/
def Course.Books (sv : Services W) (queue : Queue) (stack : List (Nat × List Envelope))
    (turn : Option Envelope) (course : Course W α) (stack' : List (Nat × List Envelope))
    (turn' : Option Envelope) : Prop :=
  ∀ d l events result e, d.Booked sv queue stack turn l → course.Amid sv d events result e →
    ∃ m, Ledger.Path (d.traffic sv queue events) l m ∧ e.Booked sv queue stack' turn' m

/-- The course leaves all drains as it finds them. -/
def Course.Steady (sv : Services W) (queue : Queue) (course : Course W α) : Prop :=
  ∀ stack, course.Books sv queue stack none stack none

section
variable {sv : Services W} {queue : Queue} {stack stack' : List (Nat × List Envelope)}
  {turn turn' : Option Envelope}

theorem LiveSession.Booked.calls (built : sv.opcodes.Built) {d : LiveSession W} {l : Ledger}
    (booked : d.Booked sv queue stack turn l) {event : Event W} {made : List Call}
    (traffic : event.traffic sv queue d = .calls made) :
    ∃ m, Ledger.Step (event.traffic sv queue d) l m ∧
      (event.apply sv d).Booked sv queue stack turn m := by
  have silent : (event.traffic sv queue d).made? = some made := by rw [traffic]; rfl
  obtain ⟨m, step, shown⟩ :=
    Ledger.Shows.calls booked fun env => fits_traffic silent (.arrive env)
  rw [← backlog_apply built silent] at shown
  exact ⟨m, traffic ▸ step, shown⟩

theorem LiveSession.Booked.silent (built : sv.opcodes.Built) {d : LiveSession W} {l : Ledger}
    (booked : d.Booked sv queue stack none l) {event : Event W} {made : List Call}
    (silent : (event.traffic sv queue d).made? = some made) :
    ∃ m, Ledger.Step (event.traffic sv queue d) l m ∧
      (event.apply sv d).Booked sv queue stack none m := by
  cases traffic : event.traffic sv queue d with
  | calls made' =>
    rw [← traffic]
    exact booked.calls built traffic
  | work =>
    obtain ⟨m, step, shown⟩ := Ledger.Shows.work booked
    have none : made = [] := by rw [traffic] at silent; cases silent; rfl
    have left := backlog_apply built silent
    rw [none] at left
    refine ⟨m, step, ?_⟩
    rwa [LiveSession.Booked, left]
  | _ => rw [traffic] at silent; contradiction

theorem traffic_interjection (call : Interjection W) (d : LiveSession W) :
    ∃ made, call.event.traffic sv queue d = .calls made := by
  cases call <;> exact ⟨_, rfl⟩

/-- Whatever producers do by themselves can be booked at any time. -/
theorem LiveSession.Booked.interjections (built : sv.opcodes.Built) (calls : List (Interjection W))
    {d : LiveSession W} {l : Ledger} (booked : d.Booked sv queue stack turn l) :
    ∃ m, Ledger.Path (d.traffic sv queue (calls.map Interjection.event)) l m ∧
      (d.replay sv (calls.map Interjection.event)).Booked sv queue stack turn m := by
  induction calls generalizing d l with
  | nil => exact ⟨l, .nil l, booked⟩
  | cons call calls ih =>
    obtain ⟨made, traffic⟩ := traffic_interjection call d
    obtain ⟨m, step, booked⟩ := booked.calls built traffic
    obtain ⟨n, path, booked⟩ := ih booked
    exact ⟨n, .cons step path, booked⟩

/-- At no time is the event about the queue, but for calls that it may make. -/
def Event.Silent (sv : Services W) (queue : Queue) (event : Event W) : Prop :=
  ∀ d, ∃ made, (event.traffic sv queue d).made? = some made

theorem silent_perform (operation : Operation W) :
    (Event.perform operation).Silent sv queue := by
  intro d
  simp only [Event.traffic]
  cases operation.calls? sv queue d <;> exact ⟨_, rfl⟩

namespace Course

theorem books_done (built : sv.opcodes.Built) (result : α) :
    (done result : Course W α).Books sv queue stack turn stack turn := by
  intro d l events answer e booked amid
  obtain ⟨calls, rfl⟩ := amid.of_done
  rw [← amid.replay]
  exact booked.interjections built calls

theorem books_look (built : sv.opcodes.Built) {next : LiveSession W → Course W α}
    (books : ∀ d, (next d).Books sv queue stack turn stack' turn') :
    (look next).Books sv queue stack turn stack' turn' := by
  intro d l events answer e booked amid
  obtain ⟨calls, rest, rfl, goes⟩ := amid.of_look
  obtain ⟨m, early, booked⟩ := booked.interjections built calls
  obtain ⟨n, late, booked⟩ := books _ _ m _ _ _ booked goes
  rw [traffic_append]
  exact ⟨n, early.append late, booked⟩

theorem books_step (built : sv.opcodes.Built) {event : LiveSession W → Event W}
    {next : LiveSession W → Course W α} (books : ∀ d l, d.Booked sv queue stack turn l →
      ∃ m, Ledger.Step ((event d).traffic sv queue d) l m ∧
        ∃ between due, ((event d).apply sv d).Booked sv queue between due m ∧
          (next d).Books sv queue between due stack' turn') :
    (step event next).Books sv queue stack turn stack' turn' := by
  intro d l events answer e booked amid
  obtain ⟨calls, rest, rfl, goes⟩ := amid.of_step
  obtain ⟨k, early, booked⟩ := booked.interjections built calls
  obtain ⟨m, step, between, due, booked, books⟩ := books _ k booked
  obtain ⟨n, late, booked⟩ := books _ m _ _ _ booked goes
  rw [traffic_append]
  exact ⟨n, early.append (.cons step late), booked⟩

theorem books_calls (built : sv.opcodes.Built) {event : LiveSession W → Event W}
    {next : LiveSession W → Course W α}
    (traffic : ∀ d, ∃ made, (event d).traffic sv queue d = .calls made)
    (books : ∀ d, (next d).Books sv queue stack turn stack' turn') :
    (step event next).Books sv queue stack turn stack' turn' := by
  refine books_step built fun d l booked => ?_
  obtain ⟨made, traffic⟩ := traffic d
  obtain ⟨m, step, booked⟩ := booked.calls built traffic
  exact ⟨m, step, stack, turn, booked, books d⟩

theorem books_silent (built : sv.opcodes.Built) {event : LiveSession W → Event W}
    {next : LiveSession W → Course W α} (silent : ∀ d, (event d).Silent sv queue)
    (books : ∀ d, (next d).Books sv queue stack none stack' turn') :
    (step event next).Books sv queue stack none stack' turn' := by
  refine books_step built fun d l booked => ?_
  obtain ⟨made, silent⟩ := silent d d
  obtain ⟨m, step, booked⟩ := booked.silent built silent
  exact ⟨m, step, stack, none, booked, books d⟩

theorem Books.bind {course : Course W α} {f : α → Course W β}
    {between : List (Nat × List Envelope)} {due : Option Envelope}
    (first : course.Books sv queue stack turn between due)
    (second : ∀ result, (f result).Books sv queue between due stack' turn') :
    (course.bind f).Books sv queue stack turn stack' turn' := by
  intro d l events answer e booked amid
  obtain ⟨early, result, mid, late, rfl, amid, rest⟩ := amid.of_bind
  obtain ⟨m, path, booked⟩ := first d l early result mid booked amid
  obtain ⟨n, path', booked⟩ := second result mid m late answer e booked rest
  have split : d.traffic sv queue (early ++ late) =
      d.traffic sv queue early ++ mid.traffic sv queue late := by
    rw [traffic_append, amid.replay]
  exact ⟨n, split ▸ path.append path', booked⟩

theorem steady_done (built : sv.opcodes.Built) (result : α) :
    (done result : Course W α).Steady sv queue :=
  fun _ => books_done built result

theorem Steady.bind {course : Course W α} {f : α → Course W β} (first : course.Steady sv queue)
    (second : ∀ result, (f result).Steady sv queue) : (course.bind f).Steady sv queue :=
  fun stack => (first stack).bind fun result => second result stack

/-- Notices and callbacks that are left mean nothing to the queue. -/
theorem steady_each (built : sv.opcodes.Built) {events : List (Event W)}
    (silent : ∀ event ∈ events, event.Silent sv queue) : (each events).Steady sv queue := by
  intro stack
  induction events with
  | nil => exact books_done built ()
  | cons event events ih =>
    obtain ⟨now, later⟩ := List.forall_mem_cons.mp silent
    exact books_silent built (fun _ => now) fun _ => ih later

end Course

/-! ## The parts of a tick -/

variable {inner : SessionTick → Course W UpdateOutcome}

theorem steady_procedure (built : sv.opcodes.Built)
    (nested : ∀ kind, (inner kind).Steady sv queue) (p : Act W α) :
    (p.course sv inner).Steady sv queue := by
  intro stack
  induction p with
  | finish result => exact Course.books_done built result
  | perform operation next ih =>
    exact Course.books_silent built (fun _ => silent_perform operation) fun _ => ih _
  | look next ih => exact Course.books_look built fun _ => ih _
  | post callback next ih => exact Course.books_silent built (fun _ _ => ⟨_, rfl⟩) fun _ => ih _
  | tick kind next ih => exact (nested kind stack).bind ih

theorem silent_settle (handled : Handled) (d : LiveSession W) :
    ∀ event ∈ d.settleEvents sv handled, event.Silent sv queue := by
  unfold LiveSession.settleEvents
  cases handled.fault with
  | some fault =>
    simp only
    split <;> simp [Event.Silent, Event.traffic, made?]
  | none =>
    simp only
    split <;> simp [Event.Silent, Event.traffic, made?]

theorem steady_handler (built : sv.opcodes.Built)
    (nested : ∀ kind, (inner kind).Steady sv queue) (served : Queue)
    (handler : Envelope → Act W Handled) (env : Envelope) :
    (((handler env).course sv inner).bind fun handled =>
      .step (fun _ => .handled served handled) fun _ =>
        .look fun d => .each (d.settleEvents sv handled)).Steady sv queue := by
  refine (steady_procedure built nested (handler env)).bind fun handled stack => ?_
  refine Course.books_silent built (fun _ _ => ⟨_, rfl⟩) fun _ => ?_
  refine Course.books_look built fun d => ?_
  exact Course.steady_each built (silent_settle handled d) stack

theorem steady_handlerCourse (built : sv.opcodes.Built)
    (nested : ∀ kind, (inner kind).Steady sv queue) {served : Queue} (other : served ≠ queue)
    (handler : Envelope → Act W Handled) (env : Envelope) :
    (served.handlerCourse sv inner handler env).Steady sv queue := fun stack =>
  Course.books_silent built
    (fun _ _ => ⟨[], by simp only [Event.traffic, if_neg other, made?]⟩)
    fun _ => steady_handler built nested served handler env stack

theorem books_handlerCourse (built : sv.opcodes.Built)
    (nested : ∀ kind, (inner kind).Steady sv queue)
    (handler : Envelope → Act W Handled) (env : Envelope) :
    (queue.handlerCourse sv inner handler env).Books sv queue stack (some env) stack none := by
  refine Course.books_step built fun d l booked => ?_
  obtain ⟨m, step, shown⟩ := Ledger.Shows.invoke booked
  refine ⟨m, by simpa only [Event.traffic, if_pos] using step, stack, none, ?_,
    steady_handler built nested queue handler env stack⟩
  simpa only [LiveSession.Booked, Event.apply, LiveSession.frame_deed] using shown

theorem steady_judgedCourse (built : sv.opcodes.Built)
    (nested : ∀ kind, (inner kind).Steady sv queue) {served : Queue} (other : served ≠ queue)
    (env : Envelope) (d : LiveSession W) :
    (served.judgedCourse sv inner env d).Steady sv queue := by
  unfold Queue.judgedCourse
  cases served.verdict sv env d with
  | refused notice =>
    exact Course.steady_each built (List.forall_mem_map.mpr fun _ _ _ => ⟨_, rfl⟩)
  | granted =>
    intro stack
    refine Course.books_silent built (fun _ _ => ⟨_, rfl⟩) fun _ => ?_
    cases (sv.opcodes.get env.opcode).handler with
    | immediate _ =>
      exact Course.steady_each built (List.forall_mem_singleton.mpr fun _ => ⟨_, rfl⟩) stack
    | session handler => exact steady_handlerCourse built nested other handler env stack

/-- What waits for a tick has a handler that runs on ticks. -/
theorem session_of_route (built : sv.opcodes.Built) {env : Envelope}
    (waits : sv.route env = some queue) :
    ∃ handler, (sv.opcodes.get env.opcode).handler = .session handler := by
  cases handles : (sv.opcodes.get env.opcode).handler with
  | session handler => exact ⟨handler, rfl⟩
  | immediate handler =>
    have mode := (built.sound_get env.opcode).immediate.mpr ⟨handler, handles⟩
    unfold Services.route at waits
    rw [mode] at waits
    contradiction

theorem books_judgedCourse (built : sv.opcodes.Built)
    (nested : ∀ kind, (inner kind).Steady sv queue) {env : Envelope}
    (waits : sv.route env = some queue) (d : LiveSession W) :
    (queue.judgedCourse sv inner env d).Books sv queue stack
      (if decide (queue.verdict sv env d = .granted) then some env else none) stack none := by
  unfold Queue.judgedCourse
  cases queue.verdict sv env d with
  | refused notice =>
    exact Course.steady_each built (List.forall_mem_map.mpr fun _ _ _ => ⟨_, rfl⟩) stack
  | granted =>
    obtain ⟨handler, handles⟩ := session_of_route built waits
    refine Course.books_calls built (fun _ => ⟨[], rfl⟩) fun _ => ?_
    simp only [handles]
    exact books_handlerCourse built nested handler env

theorem steady_drainCourse (built : sv.opcodes.Built)
    (nested : ∀ kind, (inner kind).Steady sv queue) {served : Queue} (other : served ≠ queue)
    (backlog : List Envelope) : (served.drainCourse sv inner backlog).Steady sv queue := by
  intro stack
  induction backlog with
  | nil =>
    refine Course.steady_each built (List.forall_mem_singleton.mpr fun _ => ⟨[], ?_⟩) stack
    simp only [Event.traffic, if_neg other, made?]
  | cons env rest ih =>
    refine Course.books_silent built (fun d _ => ⟨[], ?_⟩) fun d => ?_
    · split <;> simp only [Event.traffic, if_neg other, made?]
    · split
      · exact (steady_judgedCourse built nested other env d stack).bind fun _ => ih
      · exact Course.books_done built ()

/-- Working through what a drain holds pops it, one after another, until the socket is
closed or nothing is left. -/
theorem books_drainCourse (built : sv.opcodes.Built)
    (nested : ∀ kind, (inner kind).Steady sv queue) (drain : Nat) (backlog : List Envelope) :
    (queue.drainCourse sv inner backlog).Books sv queue ((drain, backlog) :: stack) none stack
      none := by
  -- At each turn the drain holds just what is left of the backlog.
  induction backlog with
  | nil =>
    refine Course.books_step built fun d l booked => ?_
    obtain ⟨m, step, shown⟩ := Ledger.Shows.leave booked (d.socketOpen sv) (.inl rfl)
    refine ⟨m, by simpa only [Event.traffic, if_pos] using step, stack, none, ?_,
      Course.books_done built ()⟩
    cases queue <;> exact shown
  | cons env rest ih =>
    refine Course.books_step built fun d l booked => ?_
    cases isOpen : d.socketOpen sv with
    | true =>
      obtain ⟨m, step, shown⟩ :=
        Ledger.Shows.pop booked (decide (queue.verdict sv env d = .granted))
      refine ⟨m, by simpa only [Event.traffic, if_pos] using step, _, _, shown, ?_⟩
      have waits : sv.route env = some queue := booked.kind_of_held env List.mem_cons_self
      exact (books_judgedCourse built nested waits d).bind fun _ => ih
    | false =>
      obtain ⟨m, step, shown⟩ := Ledger.Shows.leave booked _ (.inr isOpen)
      refine ⟨m, by simpa [Event.traffic] using step, stack, none, ?_,
        Course.books_done built ()⟩
      cases queue <;> exact shown

theorem steady_takeCourse (built : sv.opcodes.Built)
    (nested : ∀ kind, (inner kind).Steady sv queue) (taken : Queue) :
    (taken.takeCourse sv inner).Steady sv queue := by
  intro stack
  by_cases other : taken ≠ queue
  · refine Course.books_silent built (fun _ _ => ⟨[], ?_⟩)
      fun d => steady_drainCourse built nested other _ stack
    simp only [Event.traffic, if_neg other, made?]
  · obtain rfl : taken = queue := Decidable.not_not.mp other
    refine Course.books_step built fun d l booked => ?_
    obtain ⟨m, step, shown⟩ := Ledger.Shows.take booked
    refine ⟨m, by simpa only [Event.traffic, if_pos] using step, _, none, ?_,
      books_drainCourse built nested l.clock (taken.backlog d.inbox)⟩
    cases taken <;> exact shown

theorem steady_eachCourse (built : sv.opcodes.Built)
    (nested : ∀ kind, (inner kind).Steady sv queue) (callbacks : List (Callback W)) :
    (Callback.eachCourse sv inner callbacks).Steady sv queue := by
  intro stack
  induction callbacks with
  | nil => exact Course.books_done built ()
  | cons callback rest ih =>
    refine Course.books_silent built (fun _ _ => ⟨_, rfl⟩) fun _ => ?_
    exact (steady_procedure built nested callback.body stack).bind fun _ => ih

theorem steady_courseWith (built : sv.opcodes.Built)
    (nested : ∀ kind, (inner kind).Steady sv queue) (tick : SessionTick) :
    (tick.courseWith sv inner).Steady sv queue := by
  intro stack
  cases tick with
  | world now =>
    refine Course.books_silent built (fun _ _ => ⟨_, rfl⟩) fun _ => ?_
    have delivered : (Callback.deliverCourse sv inner).Steady sv queue := fun stack =>
      Course.books_silent built (fun _ _ => ⟨_, rfl⟩) fun _ =>
        steady_eachCourse built nested _ stack
    refine (delivered stack).bind fun _ => ?_
    refine (steady_takeCourse built nested .generic stack).bind fun _ => ?_
    exact Course.books_silent built (fun _ _ => ⟨_, rfl⟩) fun _ => Course.books_done built _
  | region now =>
    refine Course.books_silent built (fun _ _ => ⟨_, rfl⟩) fun _ => ?_
    exact (steady_takeCourse built nested .map stack).bind fun _ => Course.books_done built _

theorem steady_courseWithin (built : sv.opcodes.Built) (depth : Nat) (tick : SessionTick) :
    (tick.courseWithin sv depth).Steady sv queue := by
  induction depth generalizing tick with
  | zero => exact Course.steady_done built _
  | succ depth ih => exact steady_courseWith built ih tick

theorem steady_ofSteps (built : sv.opcodes.Built) (steps : List (SessionStep W)) :
    (Course.ofSteps sv steps).Steady sv queue := by
  have inner := @steady_courseWithin _ sv queue built sv.nesting
  induction steps with
  | nil => exact Course.steady_done built ()
  | cons first steps ih =>
    refine Course.Steady.bind ?_ fun _ => ih
    cases first with
    | act procedure => exact steady_procedure built inner procedure
    | tick kind =>
      exact (steady_courseWith built inner kind).bind fun _ => Course.steady_done built ()

end

/-! ## Runs -/

namespace LiveSession

/-- The ledger of a run accounts for everything that arrived at a queue. -/
theorem queue_accounted {sv : Services W} (queue : Queue) (built : sv.opcodes.Built)
    {account : Account} {socket : SocketId} {birth : Instant} {outside : Outside W}
    {steps : List (SessionStep W)} {events : List (Event W)} {finished : Unit}
    {last : LiveSession W}
    (amid : (Course.ofSteps sv steps).Amid sv (create sv account socket birth outside) events
      finished last) :
    ∃ tickets,
      Reckoning ((create sv account socket birth outside).traffic sv queue events)
        (queue.backlog last.inbox) tickets ∧
      ∀ ticket ∈ tickets, sv.route ticket.env = some queue ∧
        ∀ time, ticket.fate = .removed time → queue = .map := by
  have booked : (create sv account socket birth outside).Booked sv queue [] none {} := by
    cases queue <;> exact Ledger.shows_nil _
  obtain ⟨books, path, shown⟩ :=
    steady_ofSteps built steps [] _ {} events finished last booked amid
  -- The ticks are over: no drain holds anything, and no handler is due.
  have closed : books.drains = [] := List.map_eq_nil_iff.mp shown.stack
  have idle : books.turn = none := Option.map_eq_none_iff.mp shown.turn
  have reckoning := path.reckoning closed idle
  refine ⟨books.tickets, shown.waiting ▸ reckoning, fun ticket member => ?_⟩
  refine ⟨shown.kind ticket member, fun time removed => ?_⟩
  have timely := reckoning.timely ticket member
  simp only [Ticket.Timely, removed] at timely
  obtain ⟨_, _, ⟨made, found, purge⟩, _⟩ := timely
  obtain ⟨event, _, traffic⟩ := Option.map_eq_some_iff.mp ((get_traffic ..).symm.trans found)
  exact fits_traffic (by rw [traffic]; rfl) .purge purge

/-- However a session runs and producers work on its inbox meanwhile: there is a complete
reckoning of both queues, whatever the handlers do. In each queue there are only envelopes
that belong there, at every point of the run, and only the map queue is rid of movements. -/
theorem envelopes_accounted (sv : Services W) (built : sv.opcodes.Built) (account : Account)
    (socket : SocketId) (birth : Instant) (outside : Outside W) (steps : List (SessionStep W))
    (events : List (Event W)) (finished : Unit) (last : LiveSession W)
    (amid : (Course.ofSteps sv steps).Amid sv (create sv account socket birth outside) events
      finished last) :
    let start := create sv account socket birth outside
    (∀ queue : Queue, ∃ tickets,
      Reckoning (start.traffic sv queue events) (queue.backlog last.inbox) tickets ∧
      ∀ ticket ∈ tickets, sv.route ticket.env = some queue ∧
        ∀ time, ticket.fate = .removed time → queue = .map) ∧
    ∀ past, past <+: events → (start.replay sv past).inbox.Routed sv := by
  intro start
  refine ⟨fun queue => queue_accounted queue built amid, fun past _ => ?_⟩
  refine replay_induction (P := fun d => d.inbox.Routed sv) (routed_apply built) past start ?_
  intro queue env waits
  cases queue <;> exact absurd waits List.not_mem_nil

end LiveSession

namespace LiveSession

open Rehearsal

/-- An envelope that a producer enqueues while a drain is at another one, whose handler
finds fault with it, waits for the next tick. -/
theorem envelopes_accounted_midway :
    let sv := services {} []
    let start := opening sv
    let first := Envelope.empty ⟨0x19⟩
    let second := Envelope.empty ⟨0x10⟩
    let late := Envelope.empty ⟨0x11⟩
    let run := (Course.ofSteps sv [.tick (.world 0)]).woven sv
      [[.enqueue first, .enqueue second], [], [], [], [], [], [.enqueue late]] start
    start.traffic sv .generic run.1 =
        [.calls [.arrive first], .calls [.arrive second], .work, .work, .take, .pop first true,
          .calls [], .invoke first, .calls [.arrive late], .work, .work, .work, .pop second true,
          .calls [], .invoke second, .work, .work, .leave [] true, .work] ∧
      ∃ tickets, Reckoning (start.traffic sv .generic run.1) [late] tickets := by
  intro sv start first second late run
  have waits : Queue.generic.backlog run.2.2.inbox = [late] := by decide +kernel
  have amid : (Course.ofSteps sv [.tick (.world 0)]).Amid sv start run.1 run.2.1 run.2.2 :=
    Course.amid_woven _ _ start
  obtain ⟨tickets, reckoning, _⟩ :=
    (envelopes_accounted sv (built_repertoire []) _ _ _ _ _ _ _ _ amid).1 .generic
  refine ⟨by decide +kernel, tickets, ?_⟩
  rw [← waits]
  exact reckoning

/-- A handler that enqueues an envelope and then runs an update itself: that envelope is
popped ahead of one that arrived before it and is still held by the drain outside. -/
theorem overtaken_in_nested_drain :
    let late := Envelope.empty ⟨0x11⟩
    let sv := services {} [[.action ⟨"enqueue", .quiet (.enqueue late)⟩,
      .action ⟨"update", .session (.tick (.world 10) fun _ => .finish .null)⟩]]
    let start := opening sv
    let first := Envelope.withPayload ⟨0x1B⟩ [0]
    let second := Envelope.empty ⟨0x10⟩
    let traffic := start.traffic sv .generic (start.history sv
      [just (.enqueue first), just (.enqueue second), .tick (.world 10)])
    (allArrivals traffic).map Prod.snd = [first, second, late] ∧
      (traffic.filterMap fun | .pop env _ => some env | _ => none) = [first, late, second] := by
  decide +kernel

end LiveSession

end GameRealm
