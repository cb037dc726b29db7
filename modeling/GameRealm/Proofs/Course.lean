import GameRealm.Proofs.History

/-!
# Runs amid producers

The network works on the inbox of a session at any time, also in the middle of a
tick. This module writes a run as a `Course`, which says event after event what
comes next, so that something else can come in between:

1. `SessionStep.course` and `Course.ofSteps` are the courses of a run, down to the
   single operation of a handler;
2. `Course.Amid`: how a course may go while producers work on the inbox before,
   between and after its events;
3. `Course.amid_woven`: it may go so with producers on any schedule;
4. `amid_history`: with no producers at work it goes as the history of the run
   tells.
-/

namespace GameRealm

/-- What is still to happen to a session, event after event. -/
inductive Course (W α : Type) where
  | done (result : α)
  /-- Looks at the session. -/
  | look (next : LiveSession W → Course W α)
  /-- The next event, chosen on the session as it then is. -/
  | step (event : LiveSession W → Event W) (next : LiveSession W → Course W α)

namespace Course

def bind : Course W α → (α → Course W β) → Course W β
  | done result, f => f result
  | look next, f => look fun d => (next d).bind f
  | step event next, f => step event fun d => (next d).bind f

/-- Events that are settled beforehand. -/
def each : List (Event W) → Course W Unit
  | [] => done ()
  | event :: events => step (fun _ => event) fun _ => each events

/-- The course with nobody else at work. -/
def run (sv : Services W) : Course W α → LiveSession W → α × LiveSession W
  | done result, d => (result, d)
  | look next, d => run sv (next d) d
  | step event next, d => run sv (next d) ((event d).apply sv d)

def events (sv : Services W) : Course W α → LiveSession W → List (Event W)
  | done _, _ => []
  | look next, d => events sv (next d) d
  | step event next, d => event d :: events sv (next d) ((event d).apply sv d)

end Course

/-! ## The courses of a run -/

section
variable (sv : Services W) (inner : SessionTick → Course W UpdateOutcome)

/-- The course of a procedure; `inner` are those of the ticks that it asks for. -/
def Procedure.course : Act W α → Course W α
  | finish result => .done result
  | perform operation next =>
    .step (fun _ => .perform operation) fun d => course (next (operation.run sv d).1)
  | look next => .look fun d => course (next (d.view sv))
  | post callback next =>
    .step (fun _ => .post callback) fun d => course (next (d.post callback).1)
  | tick kind next => (inner kind).bind fun outcome => course (next outcome)

namespace Queue

def handlerCourse (queue : Queue) (handler : Envelope → Act W Handled) (env : Envelope) :
    Course W Unit :=
  .step (fun _ => .invoke queue env) fun _ =>
    ((handler env).course sv inner).bind fun handled =>
      .step (fun _ => .handled queue handled) fun _ =>
        .look fun d => .each (d.settleEvents sv handled)

/-- The course of an envelope once it has been taken: admission, and what follows. -/
def judgedCourse (queue : Queue) (env : Envelope) (d : LiveSession W) : Course W Unit :=
  let entry := sv.opcodes.get env.opcode
  match queue.verdict sv env d with
  | .refused notice => .each (notice.toList.map .log)
  | .granted =>
    .step (fun _ => .grant queue entry.status env.opcode) fun _ =>
      match entry.handler with
      | .immediate _ => .each [.log (.immediateOnTick env.opcode)]
      | .session handler => queue.handlerCourse sv inner handler env

def drainCourse (queue : Queue) : List Envelope → Course W Unit
  | [] => .each [.leave queue []]
  | env :: rest =>
    .step (fun d => if d.socketOpen sv then .pop queue env else .leave queue (env :: rest))
      fun d =>
        if d.socketOpen sv then
          (queue.judgedCourse sv inner env d).bind fun _ => drainCourse queue rest
        else .done ()

def takeCourse (queue : Queue) : Course W Unit :=
  .step (fun _ => .takeBacklog queue) fun d =>
    queue.drainCourse sv inner (queue.backlog d.inbox)

end Queue

def Callback.eachCourse : List (Callback W) → Course W Unit
  | [] => .done ()
  | callback :: rest =>
    .step (fun _ => .deliver callback) fun _ =>
      (callback.body.course sv inner).bind fun _ => eachCourse rest

def Callback.deliverCourse : Course W Unit :=
  .step (fun _ => .takeCallbacks) fun d =>
    Callback.eachCourse sv inner d.inbox.mailbox.pending

/-- The course of a tick; `inner` are those of the ticks inside. -/
def SessionTick.courseWith : SessionTick → Course W UpdateOutcome
  | world now =>
    .step (fun _ => .clock now) fun _ =>
      (Callback.deliverCourse sv inner).bind fun _ =>
        (Queue.generic.takeCourse sv inner).bind fun _ =>
          .step (fun _ => .advance now) fun d => .done (d.advance sv now).1
  | region now =>
    .step (fun _ => .clock now) fun _ =>
      (Queue.map.takeCourse sv inner).bind fun _ => .done .keep

end

def SessionTick.courseWithin (sv : Services W) : Nat → SessionTick → Course W UpdateOutcome
  | 0, _ => .done .keep
  | depth + 1, tick => tick.courseWith sv (courseWithin sv depth)

def SessionStep.course (sv : Services W) : SessionStep W → Course W Unit
  | act procedure => procedure.course sv (SessionTick.courseWithin sv sv.nesting)
  | tick kind => (kind.courseWith sv (SessionTick.courseWithin sv sv.nesting)).bind
      fun _ => .done ()

def Course.ofSteps (sv : Services W) : List (SessionStep W) → Course W Unit
  | [] => .done ()
  | first :: steps => (first.course sv).bind fun _ => ofSteps sv steps

/-! ## Producers -/

/-- What others may do to the inbox of a session at any time. -/
inductive Interjection (W : Type) where
  | enqueue (env : Envelope)
  | deleteMovementPackets
  | post (callback : Callback W)

def Interjection.event : Interjection W → Event W
  | enqueue env => .perform (.enqueue env)
  | deleteMovementPackets => .perform .deleteMovementPackets
  | post callback => .post callback

/-- How a course may go while producers are at work: what happens, what the course
results in, and where it leads. An immediate handler runs in one piece here; one
whose calls are spread out is several producers. -/
inductive Course.Amid (sv : Services W) :
    Course W α → LiveSession W → List (Event W) → α → LiveSession W → Prop
  | done (result : α) (d : LiveSession W) : Amid sv (.done result) d [] result d
  | look {next : LiveSession W → Course W α} {d e : LiveSession W} {events : List (Event W)}
      {result : α}
      (rest : Amid sv (next d) d events result e) : Amid sv (.look next) d events result e
  | step {event : LiveSession W → Event W} {next : LiveSession W → Course W α} {d e : LiveSession W}
      {events : List (Event W)} {result : α}
      (rest : Amid sv (next d) ((event d).apply sv d) events result e) :
      Amid sv (.step event next) d (event d :: events) result e
  | interject {course : Course W α} {d e : LiveSession W} {events : List (Event W)} {result : α}
      (call : Interjection W)
      (rest : Amid sv course (call.event.apply sv d) events result e) :
      Amid sv course d (call.event :: events) result e

namespace Course

variable {sv : Services W}

theorem bind_assoc (course : Course W α) (f : α → Course W β) (g : β → Course W γ) :
    (course.bind f).bind g = course.bind fun result => (f result).bind g := by
  induction course with
  | done => rfl
  | look next ih => exact congrArg look (funext ih)
  | step event next ih => exact congrArg (step event) (funext ih)

/-- What happens leads where the course leads. -/
theorem Amid.replay {course : Course W α} {d e : LiveSession W} {events : List (Event W)}
    {result : α} (amid : course.Amid sv d events result e) : d.replay sv events = e := by
  induction amid with
  | done => rfl
  | look _ ih => exact ih
  | step _ ih => exact ih
  | interject _ _ ih => exact ih

/-- A course that is made of two goes through the first and then the second. -/
theorem Amid.of_bind {course : Course W α} {f : α → Course W β} {d e : LiveSession W}
    {events : List (Event W)} {result : β} (amid : (course.bind f).Amid sv d events result e) :
    ∃ early answer mid late, events = early ++ late ∧ course.Amid sv d early answer mid ∧
      (f answer).Amid sv mid late result e := by
  generalize whole : course.bind f = combined at amid
  -- Once the first is done, nothing of it is left to take away.
  have finished : ∀ {d events answer}, (f answer).Amid sv d events result e →
      ∃ early given mid late, events = early ++ late ∧
        (Course.done answer).Amid sv d early given mid ∧
        (f given).Amid sv mid late result e :=
    fun {d events answer} second => ⟨[], answer, d, events, rfl, .done answer d, second⟩
  induction amid generalizing course with
  | done result d =>
    cases course with
    | done answer => exact finished (by rw [show f answer = _ from whole]; exact .done result d)
    | look => cases whole
    | step => cases whole
  | look rest ih =>
    cases course with
    | done answer => exact finished (by rw [show f answer = _ from whole]; exact .look rest)
    | look next =>
      cases whole
      obtain ⟨early, answer, mid, late, split, first, second⟩ := ih rfl finished
      exact ⟨early, answer, mid, late, split, .look first, second⟩
    | step => cases whole
  | step rest ih =>
    cases course with
    | done answer => exact finished (by rw [show f answer = _ from whole]; exact .step rest)
    | look => cases whole
    | step event next =>
      cases whole
      obtain ⟨early, answer, mid, late, rfl, first, second⟩ := ih rfl finished
      exact ⟨_ :: early, answer, mid, late, rfl, .step first, second⟩
  | interject call _ ih =>
    obtain ⟨early, answer, mid, late, rfl, first, second⟩ := ih whole finished
    exact ⟨_ :: early, answer, mid, late, rfl, .interject call first, second⟩

theorem Amid.bind {course : Course W α} {f : α → Course W β} {d mid e : LiveSession W}
    {early late : List (Event W)} {answer : α} {result : β}
    (first : course.Amid sv d early answer mid) (second : (f answer).Amid sv mid late result e) :
    (course.bind f).Amid sv d (early ++ late) result e := by
  induction first with
  | done => exact second
  | look _ ih => exact .look (ih second)
  | step _ ih => exact .step (ih second)
  | interject call _ ih => exact .interject call (ih second)

theorem Amid.of_done {answer result : α} {d e : LiveSession W} {events : List (Event W)}
    (amid : (Course.done answer).Amid sv d events result e) :
    ∃ calls : List (Interjection W), events = calls.map Interjection.event := by
  generalize whole : Course.done answer = course at amid
  induction amid with
  | done => exact ⟨[], rfl⟩
  | look => cases whole
  | step => cases whole
  | interject call _ ih =>
    obtain ⟨calls, rfl⟩ := ih whole
    exact ⟨call :: calls, rfl⟩

theorem Amid.result_of_done {answer result : α} {d e : LiveSession W} {events : List (Event W)}
    (amid : (Course.done answer).Amid sv d events result e) : result = answer := by
  generalize whole : Course.done answer = course at amid
  induction amid with
  | done => exact (Course.done.inj whole).symm
  | look => cases whole
  | step => cases whole
  | interject call _ ih => exact ih whole

theorem Amid.of_look {next : LiveSession W → Course W α} {d e : LiveSession W}
    {events : List (Event W)} {result : α} (amid : (Course.look next).Amid sv d events result e) :
    ∃ (calls : List (Interjection W)) (rest : List (Event W)),
      events = calls.map Interjection.event ++ rest ∧
        let seen := d.replay sv (calls.map Interjection.event)
        (next seen).Amid sv seen rest result e := by
  generalize whole : Course.look next = course at amid
  induction amid with
  | done => cases whole
  | look rest =>
    cases whole
    exact ⟨[], _, rfl, rest⟩
  | step => cases whole
  | interject call _ ih =>
    obtain ⟨calls, rest, rfl, amid⟩ := ih whole
    exact ⟨call :: calls, rest, rfl, amid⟩

/-- Producers come first, and then the next event of the course. -/
theorem Amid.of_step {event : LiveSession W → Event W} {next : LiveSession W → Course W α}
    {d e : LiveSession W} {events : List (Event W)} {result : α}
    (amid : (Course.step event next).Amid sv d events result e) :
    ∃ (calls : List (Interjection W)) (rest : List (Event W)),
      let seen := d.replay sv (calls.map Interjection.event)
      events = calls.map Interjection.event ++ event seen :: rest ∧
        (next seen).Amid sv ((event seen).apply sv seen) rest result e := by
  generalize whole : Course.step event next = course at amid
  induction amid with
  | done => cases whole
  | look => cases whole
  | step rest =>
    cases whole
    exact ⟨[], _, rfl, rest⟩
  | interject call _ ih =>
    obtain ⟨calls, rest, rfl, amid⟩ := ih whole
    exact ⟨call :: calls, rest, rfl, amid⟩

/-- With nobody else at work a course goes as its own events tell. -/
theorem amid_alone (course : Course W α) (d : LiveSession W) :
    course.Amid sv d (course.events sv d) (course.run sv d).1 (course.run sv d).2 := by
  induction course generalizing d with
  | done result => exact .done result d
  | look next ih => exact .look (ih d d)
  | step event next ih => exact .step (ih d _)

/-! ## A schedule -/

/-- How a course goes when producers act on a schedule: the first entry before the first
event of the course, the next one before the next, and so on. -/
def woven (sv : Services W) :
    Course W α → List (List (Interjection W)) → LiveSession W → List (Event W) × α × LiveSession W
  | done result, others, d =>
    let arriving := (others.headD []).map Interjection.event
    (arriving, result, d.replay sv arriving)
  | look next, others, d => woven sv (next d) others d
  | step event next, others, d =>
    let arriving := (others.headD []).map Interjection.event
    let e := d.replay sv arriving
    let rest := woven sv (next e) others.tail ((event e).apply sv e)
    (arriving ++ event e :: rest.1, rest.2)

theorem Amid.interjections {course : Course W α} {d e : LiveSession W} {events : List (Event W)}
    {result : α} (calls : List (Interjection W))
    (rest : course.Amid sv (d.replay sv (calls.map Interjection.event)) events result e) :
    course.Amid sv d (calls.map Interjection.event ++ events) result e := by
  induction calls generalizing d with
  | nil => exact rest
  | cons call calls ih => exact .interject call (ih rest)

theorem Amid.before_interjections {course : Course W α} {d e : LiveSession W}
    {events : List (Event W)}
    {result : α} (amid : course.Amid sv d events result e) (calls : List (Interjection W)) :
    course.Amid sv d (events ++ calls.map Interjection.event) result
      (e.replay sv (calls.map Interjection.event)) := by
  induction amid with
  | done result e =>
    have last : (Course.done result).Amid sv (e.replay sv (calls.map Interjection.event)) []
        result (e.replay sv (calls.map Interjection.event)) := .done result _
    have whole := Amid.interjections calls last
    rwa [List.append_nil] at whole
  | look _ ih => exact .look ih
  | step _ ih => exact .step ih
  | interject call _ ih => exact .interject call ih

theorem amid_woven (course : Course W α) (others : List (List (Interjection W)))
    (d : LiveSession W) :
    course.Amid sv d (course.woven sv others d).1 (course.woven sv others d).2.1
      (course.woven sv others d).2.2 := by
  induction course generalizing others d with
  | done result => exact Amid.before_interjections (.done result d) (others.headD [])
  | look next ih => exact .look (ih d others d)
  | step event next ih => exact Amid.interjections _ (.step (ih _ _ _))

/-! ## Nobody else at work -/

theorem replay_events (course : Course W α) (d : LiveSession W) :
    d.replay sv (course.events sv d) = (course.run sv d).2 :=
  (course.amid_alone d).replay

@[simp] theorem run_bind (course : Course W α) (f : α → Course W β) (d : LiveSession W) :
    (course.bind f).run sv d = (f (course.run sv d).1).run sv (course.run sv d).2 := by
  induction course generalizing d with
  | done result => rfl
  | look next ih => exact ih d d
  | step event next ih => exact ih d _

@[simp] theorem events_bind (course : Course W α) (f : α → Course W β) (d : LiveSession W) :
    (course.bind f).events sv d =
      course.events sv d ++ (f (course.run sv d).1).events sv (course.run sv d).2 := by
  induction course generalizing d with
  | done result => rfl
  | look next ih => exact ih d d
  | step event next ih => exact congrArg (event d :: ·) (ih d _)

@[simp] theorem events_each (events : List (Event W)) (d : LiveSession W) :
    (each events).events sv d = events := by
  induction events generalizing d with
  | nil => rfl
  | cons event events ih => exact congrArg (event :: ·) (ih _)

end Course

section
variable {sv : Services W} {inner : SessionTick → Course W UpdateOutcome}
  {nested : SessionTick → LiveSession W → UpdateOutcome × LiveSession W}
  {within : SessionTick → LiveSession W → List (Event W)}

/-- The courses of ticks are those of some ticks and their events. -/
def Course.Follows (sv : Services W) (inner : SessionTick → Course W UpdateOutcome)
    (nested : SessionTick → LiveSession W → UpdateOutcome × LiveSession W)
    (within : SessionTick → LiveSession W → List (Event W)) : Prop :=
  ∀ kind d, (inner kind).run sv d = nested kind d ∧ (inner kind).events sv d = within kind d

namespace Course.Follows

variable (follows : Course.Follows sv inner nested within)
include follows

theorem tells : Tells sv nested within := by
  intro kind d
  obtain ⟨ran, told⟩ := follows kind d
  rw [← ran, ← told]
  exact Course.replay_events _ d

theorem procedure (p : Act W α) (d : LiveSession W) :
    (p.course sv inner).run sv d = p.run sv nested d ∧
      (p.course sv inner).events sv d = p.events sv nested within d := by
  induction p generalizing d with
  | finish result => exact ⟨rfl, rfl⟩
  | perform operation next ih =>
    obtain ⟨ran, told⟩ := ih (operation.run sv d).1 (operation.run sv d).2
    exact ⟨ran, congrArg (Event.perform operation :: ·) told⟩
  | look next ih => exact ih _ d
  | post callback next ih =>
    obtain ⟨ran, told⟩ := ih (d.post callback).1 (d.post callback).2
    exact ⟨ran, congrArg (Event.post callback :: ·) told⟩
  | tick kind next ih =>
    obtain ⟨ran, told⟩ := follows kind d
    simp only [Procedure.course, Course.run_bind, Course.events_bind, ran, told]
    obtain ⟨ran', told'⟩ := ih (nested kind d).1 (nested kind d).2
    exact ⟨ran', congrArg (within kind d ++ ·) told'⟩

theorem handler (queue : Queue) (handler : Envelope → Act W Handled) (env : Envelope)
    (d : LiveSession W) :
    (queue.handlerCourse sv inner handler env).events sv d =
      queue.handlerEvents sv nested within handler env d := by
  obtain ⟨ran, told⟩ := follows.procedure (handler env) (d.deed sv (.delayTeleport true))
  simp only [Queue.handlerCourse, Course.events, Event.apply, Course.events_bind, ran, told,
    Course.events_each]
  rfl

theorem judged (queue : Queue) (env : Envelope) (d : LiveSession W) :
    .pop queue env :: (queue.judgedCourse sv inner env d).events sv d =
      queue.turnEvents sv nested within env d := by
  rw [Queue.judgedCourse, Queue.turnEvents]
  cases queue.verdict sv env d with
  | refused notice => simp only [Course.events_each]
  | granted =>
    simp only [Course.events, Event.apply]
    cases (sv.opcodes.get env.opcode).handler with
    | immediate _ => simp only [Course.events_each]
    | session handler => simp only [follows.handler]

theorem drain (queue : Queue) (backlog : List Envelope) (d : LiveSession W) :
    (queue.drainCourse sv inner backlog).events sv d =
      queue.drainEvents sv nested within backlog d := by
  induction backlog generalizing d with
  | nil => exact Course.events_each _ d
  | cons env rest ih =>
    simp only [Queue.drainCourse, Course.events, Queue.drainEvents]
    split
    · have turn := follows.judged queue env d
      have after : ((queue.judgedCourse sv inner env d).run sv d).2 =
          queue.dispatch sv nested env d := by
        rw [← replay_turn follows.tells, ← turn, replay_cons]
        exact (Course.replay_events _ d).symm
      simp only [Event.apply, Course.events_bind, after, ih, ← turn]
      rfl
    · rfl

theorem take (queue : Queue) (d : LiveSession W) :
    (queue.takeCourse sv inner).events sv d = queue.takeEvents sv nested within d :=
  congrArg (Event.takeBacklog queue :: ·) (follows.drain queue _ _)

theorem callbacks (callbacks : List (Callback W)) (d : LiveSession W) :
    (Callback.eachCourse sv inner callbacks).events sv d =
      LiveSession.callbackEvents sv nested within callbacks d := by
  induction callbacks generalizing d with
  | nil => rfl
  | cons callback rest ih =>
    obtain ⟨ran, told⟩ := follows.procedure callback.body d
    simp only [Callback.eachCourse, Course.events, Event.apply, Course.events_bind, ran, told, ih]
    rfl

theorem deliver (d : LiveSession W) :
    (Callback.deliverCourse sv inner).events sv d = d.deliverEvents sv nested within :=
  congrArg (Event.takeCallbacks :: ·) (follows.callbacks _ _)

theorem ticks : Course.Follows sv (SessionTick.courseWith sv inner) (LiveSession.tickWith sv nested)
    (LiveSession.tickEventsWith sv nested within) := by
  intro kind d
  have taken : ∀ queue d, ((Queue.takeCourse sv inner queue).run sv d).2 =
      d.replay sv (Queue.takeEvents sv nested within queue d) := by
    intro queue d
    rw [← Course.replay_events, follows.take]
  cases kind with
  | world now =>
    have delivered : ∀ d, ((Callback.deliverCourse sv inner).run sv d).2 =
        d.deliver sv nested := by
      intro d
      rw [← Course.replay_events, follows.deliver, replay_deliver follows.tells]
    simp only [SessionTick.courseWith, Course.run, Course.events, Course.run_bind,
      Course.events_bind, Event.apply, delivered, taken, follows.deliver, follows.take,
      replay_drainGeneric follows.tells, LiveSession.tickEventsWith, List.cons_append,
      List.append_assoc,
      and_true]
    rfl
  | region now =>
    simp only [SessionTick.courseWith, Course.run, Course.events, Course.run_bind,
      Course.events_bind, Event.apply, taken, follows.take, replay_drainMap follows.tells,
      List.append_nil]
    exact ⟨rfl, rfl⟩

end Course.Follows

theorem follows_within (sv : Services W) (depth : Nat) :
    Course.Follows sv (SessionTick.courseWithin sv depth) (LiveSession.tickWithin sv depth)
      (LiveSession.tickEventsWithin sv depth) := by
  induction depth with
  | zero => exact fun _ _ => ⟨rfl, rfl⟩
  | succ depth ih => exact ih.ticks

theorem events_step (step : SessionStep W) (d : LiveSession W) :
    (step.course sv).events sv d = d.stepEvents sv step := by
  cases step with
  | act procedure => exact ((follows_within sv sv.nesting).procedure procedure d).2
  | tick kind =>
    have told := ((follows_within sv sv.nesting).ticks kind d).2
    simp only [SessionStep.course, Course.events_bind, told]
    exact List.append_nil _

theorem events_ofSteps (steps : List (SessionStep W)) (d : LiveSession W) :
    (Course.ofSteps sv steps).events sv d = d.history sv steps := by
  induction steps generalizing d with
  | nil => rfl
  | cons first steps ih =>
    have after : ((first.course sv).run sv d).2 = d.step sv first := by
      rw [← Course.replay_events, events_step, replay_step]
    simp only [Course.ofSteps, Course.events_bind, after, events_step, ih]
    rfl

/-- With no producers at work a run goes as its history tells. -/
theorem amid_history (steps : List (SessionStep W)) (d : LiveSession W) :
    (Course.ofSteps sv steps).Amid sv d (d.history sv steps) () (d.run sv steps) := by
  have alone : (Course.ofSteps sv steps).Amid sv d _ _ _ := Course.amid_alone _ d
  rwa [← Course.replay_events, events_ofSteps, replay_history] at alone

end

end GameRealm
