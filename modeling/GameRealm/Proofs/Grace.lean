import GameRealm.Proofs.CoreTable
import GameRealm.Proofs.Course
import GameRealm.Proofs.Departure

/-!
# The time that a lost client is given

A session that goes offline with a character waits for its client. Ticks of the world and
of the region come at whatever times, envelopes arrive, and callbacks run that leave the
session where it stands:

1. `Event.idle` are the events that change nothing of a session that waits, and
   `Course.Idle` the courses that have no others, with one rule for every kind of course;
   without a socket no envelope is taken, so a tick is such a course but for the step of
   the state machine (`world_without_socket`, `region_without_socket`);
2. `LiveSession.Waiting` and `LiveSession.Parted`: before the time is up that step does nothing,
   then it logs the character out, and from then on it does nothing again;
3. `offline_until_deadline`: so it is however ticks, envelopes and callbacks come.
-/

namespace GameRealm

/-! ## Idle events -/

/-- Whether the event leaves a session without a socket where it stands, whatever time
has come. -/
def Event.idle : Event W → Bool
  | perform operation => operation.quiet
  | pop _ _ => false
  | grant _ _ _ => false
  | invoke _ _ => false
  | handled _ _ => false
  | advance _ => false
  | _ => true

structure Session.SameWait (s t : Session) : Prop where
  player : t.player = s.player
  socket : t.socket = s.socket
  pending : t.pending = s.pending
  state : t.state = s.state
  kickDeadline : t.kickDeadline = s.kickDeadline

theorem Operation.sameWait_after {config : SessionConfig} {socketOpen : Bool}
    {operation : Operation W} (quiet : operation.quiet = true) (s : Session) :
    s.SameWait (operation.after config socketOpen s) := by
  cases operation with
  | kickPlayer save inPlace =>
    cases inPlace with
    | true => contradiction
    | false => exact ⟨rfl, rfl, rfl, rfl, rfl⟩
  | _ => first | contradiction | exact ⟨rfl, rfl, rfl, rfl, rfl⟩

section
variable {sv : Services W} {d : LiveSession W}

theorem sameWait_apply {event : Event W} (idle : event.idle = true) (d : LiveSession W) :
    d.session.SameWait (event.apply sv d).session := by
  have life := event.life_apply sv d
  have after : d.session.SameWait (event.after sv.config (d.socketOpen sv) d.session) := by
    cases event with
    | perform operation => exact Operation.sameWait_after idle d.session
    | grant => contradiction
    | advance => contradiction
    | _ => exact ⟨rfl, rfl, rfl, rfl, rfl⟩
  exact ⟨(congrArg Life.player life).trans after.player,
    (congrArg Life.socket life).trans after.socket,
    (congrArg Life.pending life).trans after.pending,
    (congrArg Life.state life).trans after.state,
    (congrArg Life.kickDeadline life).trans after.kickDeadline⟩

theorem releases_apply {event : Event W} (idle : event.idle = true) (d : LiveSession W) :
    (event.apply sv d).outside.releases = d.outside.releases := by
  have attaches : event.attached? = none := by
    cases event with
    | perform operation => cases operation <;> first | rfl | contradiction
    | _ => rfl
  rcases LiveSession.leaves_or_keeps_apply sv event d attaches with keeps | ⟨c, leaves⟩
  · exact keeps.releases
  · -- A logout would have left no character.
    have same : d.session.SameWait (event.apply sv d).session := sameWait_apply idle d
    have gone := same.player.symm.trans leaves.gone
    rw [leaves.attached] at gone
    contradiction

theorem Session.SameWait.trans {s t u : Session} (first : s.SameWait t) (second : t.SameWait u) :
    s.SameWait u :=
  ⟨second.player.trans first.player, second.socket.trans first.socket,
    second.pending.trans first.pending, second.state.trans first.state,
    second.kickDeadline.trans first.kickDeadline⟩

theorem idle_replay (sv : Services W) {events : List (Event W)}
    (idle : ∀ event ∈ events, event.idle = true) (d : LiveSession W) :
    d.session.SameWait (d.replay sv events).session ∧
      (d.replay sv events).outside.releases = d.outside.releases := by
  induction events generalizing d with
  | nil => exact ⟨⟨rfl, rfl, rfl, rfl, rfl⟩, rfl⟩
  | cons event events ih =>
    obtain ⟨now, later⟩ := List.forall_mem_cons.mp idle
    obtain ⟨same, releases⟩ := ih later (event.apply sv d)
    exact ⟨(sameWait_apply now d).trans same, releases.trans (releases_apply now d)⟩

/-! ## Idle courses -/

/-- However a course goes amid producers, if the session has no socket and the callbacks
that run are quiet, then nothing but idle events happen. -/
def Course.Idle (sv : Services W) (course : Course W α) : Prop :=
  ∀ d events result e, d.session.socket = none →
    (∀ callback, .deliver callback ∈ events → callback.Quiet) →
    course.Amid sv d events result e → ∀ event ∈ events, event.idle = true

theorem idle_interjections (calls : List (Interjection W)) :
    ∀ event ∈ calls.map Interjection.event, event.idle = true :=
  List.forall_mem_map.mpr fun call _ => by cases call <;> rfl

namespace Course

theorem idle_done (result : α) : (done result : Course W α).Idle sv := by
  intro d events answer e _ _ amid
  obtain ⟨calls, rfl⟩ := amid.of_done
  exact idle_interjections calls

theorem idle_look {next : LiveSession W → Course W α} (idle : ∀ d, (next d).Idle sv) :
    (look next).Idle sv := by
  intro d events answer e alone quiet amid
  obtain ⟨calls, rest, rfl, goes⟩ := amid.of_look
  have early := idle_interjections calls
  refine List.forall_mem_append.mpr ⟨early, idle _ _ rest answer e ?_ ?_ goes⟩
  · exact (idle_replay sv early d).1.socket.trans alone
  · exact fun callback member => quiet callback (List.mem_append_right _ member)

theorem idle_step {event : LiveSession W → Event W} {next : LiveSession W → Course W α}
    (now : ∀ d, d.session.socket = none → (event d).idle = true)
    (idle : ∀ d, d.session.socket = none → (next d).Idle sv) : (step event next).Idle sv := by
  intro d events answer e alone quiet amid
  obtain ⟨calls, rest, rfl, goes⟩ := amid.of_step
  have early := idle_interjections calls
  have seen := (idle_replay sv early d).1.socket.trans alone
  refine List.forall_mem_append.mpr ⟨early, List.forall_mem_cons.mpr ⟨now _ seen, ?_⟩⟩
  refine idle _ seen _ rest answer e ?_ ?_ goes
  · exact (sameWait_apply (now _ seen) _).socket.trans seen
  · exact fun callback member =>
      quiet callback (List.mem_append_right _ (List.mem_cons_of_mem _ member))

theorem Idle.bind {course : Course W α} {f : α → Course W β} (first : course.Idle sv)
    (second : ∀ result, (f result).Idle sv) : (course.bind f).Idle sv := by
  intro d events answer e alone quiet amid
  obtain ⟨early, result, mid, late, rfl, amid, rest⟩ := amid.of_bind
  have begun := first d early result mid alone
    (fun callback member => quiet callback (List.mem_append_left _ member)) amid
  refine List.forall_mem_append.mpr ⟨begun, second result mid late answer e ?_ ?_ rest⟩
  · rw [← amid.replay]
    exact (idle_replay sv begun d).1.socket.trans alone
  · exact fun callback member => quiet callback (List.mem_append_right _ member)

end Course

/-! ## The parts of a tick -/

variable {inner : SessionTick → Course W UpdateOutcome}

theorem idle_procedure {p : Act W Unit} (quiet : Procedure.Quiet p) :
    (p.course sv inner).Idle sv := by
  induction p with
  | finish result => exact Course.idle_done result
  | perform operation next ih =>
    cases quiet with
    | perform _ _ calm rest => exact Course.idle_step (fun _ _ => calm) fun _ _ => ih _ (rest _)
  | look next ih =>
    cases quiet with
    | look _ rest => exact Course.idle_look fun _ => ih _ (rest _)
  | post callback next ih =>
    cases quiet with
    | post _ _ _ rest => exact Course.idle_step (fun _ _ => rfl) fun _ _ => ih _ (rest _)
  | tick kind next ih => cases quiet

theorem idle_callback {callback : Callback W} (quiet : callback.Quiet) :
    (callback.body.course sv inner).Idle sv := by
  obtain ⟨body, quiet⟩ := quiet
  exact idle_procedure quiet

theorem idle_eachCourse (callbacks : List (Callback W)) :
    (Callback.eachCourse sv inner callbacks).Idle sv := by
  induction callbacks with
  | nil => exact Course.idle_done ()
  | cons callback rest ih =>
    intro d events answer e alone quiet amid
    -- The callback is quiet because it runs.
    have runs : callback.Quiet := by
      obtain ⟨calls, later, rfl, -⟩ := amid.of_step
      exact quiet callback (List.mem_append_right _ List.mem_cons_self)
    refine Course.idle_step ?_ ?_ d events answer e alone quiet amid
    · exact fun _ _ => rfl
    · exact fun _ _ => (idle_callback runs).bind fun _ => ih

theorem socketOpen_of_none (alone : d.session.socket = none) : d.socketOpen sv = false := by
  unfold LiveSession.socketOpen Session.socketOpen
  rw [alone]

/-- Without a socket a drain ends where it begins. -/
theorem idle_takeCourse (queue : Queue) : (queue.takeCourse sv inner).Idle sv := by
  refine Course.idle_step (fun _ _ => rfl) fun d alone => ?_
  cases queue.backlog d.inbox with
  | nil => exact Course.idle_step (fun _ _ => rfl) fun _ _ => Course.idle_done ()
  | cons env rest =>
    refine Course.idle_step (fun d alone => ?_) fun d alone => ?_
    · rw [socketOpen_of_none alone]
      rfl
    · rw [socketOpen_of_none alone]
      exact Course.idle_done ()

/-- A world tick of a session without a socket comes down to one step of the state machine. -/
theorem world_without_socket {now : Instant} {events : List (Event W)} {outcome : UpdateOutcome}
    {e : LiveSession W} (alone : d.session.socket = none)
    (quiet : ∀ callback, .deliver callback ∈ events → callback.Quiet)
    (amid : ((SessionTick.world now).courseWith sv inner).Amid sv d events outcome e) :
    ∃ before after, events = before ++ .advance now :: after ∧
      (∀ event ∈ before, event.idle = true) ∧ (∀ event ∈ after, event.idle = true) ∧
      outcome = ((d.replay sv before).advance sv now).1 := by
  -- All that the tick does before the state machine comes to nothing without a socket.
  let first : Course W Unit := .step (fun _ => .clock now) fun _ =>
    (Callback.deliverCourse sv inner).bind fun _ => Queue.generic.takeCourse sv inner
  have idle : first.Idle sv := by
    refine Course.idle_step (fun _ _ => rfl) fun _ _ => Course.Idle.bind ?_ fun _ => ?_
    · exact Course.idle_step (fun _ _ => rfl) fun _ _ => idle_eachCourse _
    · exact idle_takeCourse .generic
  have two : (SessionTick.world now).courseWith sv inner =
      first.bind fun _ => .step (fun _ => .advance now) fun d => .done (d.advance sv now).1 := by
    refine congrArg (Course.step _) (funext fun _ => ?_)
    exact (Course.bind_assoc _ _ _).symm
  rw [two] at amid
  obtain ⟨early, answer, mid, late, rfl, begun, rest⟩ := amid.of_bind
  have waited := idle d early answer mid alone
    (fun callback member => quiet callback (List.mem_append_left _ member)) begun
  obtain ⟨calls, after, rfl, ended⟩ := rest.of_step
  obtain ⟨calls', rfl⟩ := ended.of_done
  refine ⟨early ++ calls.map Interjection.event, calls'.map Interjection.event, ?_, ?_, ?_, ?_⟩
  · rw [List.append_assoc]
  · exact List.forall_mem_append.mpr ⟨waited, idle_interjections calls⟩
  · exact idle_interjections calls'
  · rw [replay_append, begun.replay]
    exact ended.result_of_done

theorem region_without_socket {now : Instant} {events : List (Event W)} {outcome : UpdateOutcome}
    {e : LiveSession W} (alone : d.session.socket = none)
    (quiet : ∀ callback, .deliver callback ∈ events → callback.Quiet)
    (amid : ((SessionTick.region now).courseWith sv inner).Amid sv d events outcome e) :
    (∀ event ∈ events, event.idle = true) ∧ outcome = .keep := by
  have idle : ((SessionTick.region now).courseWith sv inner).Idle sv :=
    Course.idle_step (fun _ _ => rfl) fun _ _ =>
      (idle_takeCourse .map).bind fun _ => Course.idle_done _
  refine ⟨idle d events outcome e alone quiet amid, ?_⟩
  obtain ⟨calls, rest, -, goes⟩ := amid.of_step
  obtain ⟨_, _, _, _, _, _, ended⟩ := goes.of_bind
  exact ended.result_of_done

/-! ## Before the time is up, and after -/

/-- Whether the time is up at a tick. Only the world asks. -/
def SessionTick.due (deadline : Option Instant) : SessionTick → Bool
  | world now => deadline.any fun time => decide (time ≤ now)
  | region _ => false

/-- The session waits offline for the client of its character, until a deadline. -/
structure LiveSession.Waiting (c : Character) (deadline : Option Instant) (d : LiveSession W) :
    Prop where
  player : d.session.player = some c
  socket : d.session.socket = none
  pending : d.session.pending = none
  state : d.session.state = .offline
  kickDeadline : d.session.kickDeadline = deadline

/-- The character is gone, and nobody is there to choose another one. -/
structure LiveSession.Parted (d : LiveSession W) : Prop where
  player : d.session.player = none
  socket : d.session.socket = none
  pending : d.session.pending = none
  state : d.session.state = .charSelection

namespace LiveSession

variable {c : Character} {deadline : Option Instant} {e : LiveSession W}

theorem waiting_setOffline (attached : d.session.player = some c)
    (alone : d.session.pending = none) :
    (d.setOffline sv).Waiting c (d.session.now.addSeconds? sv.config.offlineGrace.toNat) := by
  constructor <;> rw [(frame_setOffline _).1]
  · exact attached
  · rfl
  · exact alone
  · rfl
  · rfl

theorem Waiting.same (waiting : d.Waiting c deadline) (same : d.session.SameWait e.session) :
    e.Waiting c deadline :=
  ⟨same.player.trans waiting.player, same.socket.trans waiting.socket,
    same.pending.trans waiting.pending, same.state.trans waiting.state,
    same.kickDeadline.trans waiting.kickDeadline⟩

theorem Parted.same (parted : d.Parted) (same : d.session.SameWait e.session) : e.Parted :=
  ⟨same.player.trans parted.player, same.socket.trans parted.socket,
    same.pending.trans parted.pending, same.state.trans parted.state⟩

theorem Waiting.shouldDisconnect (waiting : d.Waiting c deadline) (now : Instant) :
    d.session.shouldDisconnect now = (SessionTick.world now).due deadline := by
  unfold Session.shouldDisconnect
  rw [waiting.kickDeadline]
  cases deadline <;> rfl

/-- Before the time is up the state machine does nothing. -/
theorem Waiting.advance (waiting : d.Waiting c deadline) {now : Instant}
    (early : (SessionTick.world now).due deadline = false) : d.advance sv now = (.keep, d) := by
  simp [LiveSession.advance, waiting.state, advanceOffline, waiting.shouldDisconnect, early]

/-- Then it logs the character out, and the session is finished. -/
theorem Waiting.advance_due (waiting : d.Waiting c deadline) {now : Instant}
    (due : (SessionTick.world now).due deadline = true) :
    d.advance sv now = (.remove, d.logoutPlayer sv) := by
  have socket : (d.logoutPlayer sv).session.socket = none := by
    rw [(frame_logoutPlayer _).1]
    exact waiting.socket
  have pending : (d.session.afterLogout sv.config).pending = none := waiting.pending
  simp [LiveSession.advance, waiting.state, advanceOffline, waiting.shouldDisconnect, due, pending,
    socketOpen_of_none socket]

theorem Waiting.parted (waiting : d.Waiting c deadline) : (d.logoutPlayer sv).Parted := by
  constructor <;> rw [(frame_logoutPlayer _).1]
  · rfl
  · exact waiting.socket
  · exact waiting.pending
  · rfl

theorem Parted.advance (parted : d.Parted) (now : Instant) : d.advance sv now = (.remove, d) := by
  simp [LiveSession.advance, parted.state, advanceCharSelection, socketOpen_of_none parted.socket]

end LiveSession

/-! ## Runs -/

/-- The course of some ticks, with what each of them reports. -/
def Course.ofTicks (sv : Services W) : List SessionTick → Course W (List UpdateOutcome)
  | [] => .done []
  | tick :: ticks =>
    (tick.courseWith sv (SessionTick.courseWithin sv sv.nesting)).bind fun outcome =>
      (ofTicks sv ticks).bind fun outcomes => .done (outcome :: outcomes)

/-- An event that comes to nothing before a deadline. -/
def Event.Still (deadline : Option Instant) (event : Event W) : Prop :=
  event.idle = true ∨ ∃ now, event = .advance now ∧ (SessionTick.world now).due deadline = false

/-- An event that is idle or a step of the state machine. -/
def Event.Vain (event : Event W) : Prop := event.idle = true ∨ ∃ now, event = .advance now

theorem Event.Still.vain {deadline : Option Instant} {event : Event W}
    (still : event.Still deadline) : event.Vain :=
  still.imp id fun ⟨now, same, _⟩ => ⟨now, same⟩

namespace LiveSession

variable {c : Character} {deadline : Option Instant}

theorem Waiting.apply (sv : Services W) (waiting : d.Waiting c deadline) {event : Event W}
    (still : event.Still deadline) :
    (event.apply sv d).Waiting c deadline ∧
      (event.apply sv d).outside.releases = d.outside.releases := by
  rcases still with idle | ⟨now, rfl, early⟩
  · exact ⟨waiting.same (sameWait_apply idle d), releases_apply idle d⟩
  · have nothing : (Event.advance now).apply sv d = d := congrArg Prod.snd (waiting.advance early)
    rw [nothing]
    exact ⟨waiting, rfl⟩

theorem Parted.apply (sv : Services W) (parted : d.Parted) {event : Event W} (vain : event.Vain) :
    (event.apply sv d).Parted ∧ (event.apply sv d).outside.releases = d.outside.releases := by
  rcases vain with idle | ⟨now, rfl⟩
  · exact ⟨parted.same (sameWait_apply idle d), releases_apply idle d⟩
  · have nothing : (Event.advance now).apply sv d = d := congrArg Prod.snd (parted.advance now)
    rw [nothing]
    exact ⟨parted, rfl⟩

theorem Waiting.replay (sv : Services W) (waiting : d.Waiting c deadline) {events : List (Event W)}
    (still : ∀ event ∈ events, event.Still deadline) :
    (d.replay sv events).Waiting c deadline ∧
      (d.replay sv events).outside.releases = d.outside.releases := by
  induction events generalizing d with
  | nil => exact ⟨waiting, rfl⟩
  | cons event events ih =>
    obtain ⟨now, later⟩ := List.forall_mem_cons.mp still
    obtain ⟨after, releases⟩ := waiting.apply sv now
    obtain ⟨last, releases'⟩ := ih after later
    exact ⟨last, releases'.trans releases⟩

theorem Parted.replay (sv : Services W) (parted : d.Parted) {events : List (Event W)}
    (vain : ∀ event ∈ events, event.Vain) :
    (d.replay sv events).Parted ∧
      (d.replay sv events).outside.releases = d.outside.releases := by
  induction events generalizing d with
  | nil => exact ⟨parted, rfl⟩
  | cons event events ih =>
    obtain ⟨now, later⟩ := List.forall_mem_cons.mp vain
    obtain ⟨after, releases⟩ := parted.apply sv now
    obtain ⟨last, releases'⟩ := ih after later
    exact ⟨last, releases'.trans releases⟩

end LiveSession

section
variable {c : Character} {deadline : Option Instant} {events : List (Event W)} {e : LiveSession W}
  {inner : SessionTick → Course W UpdateOutcome}

theorem still_tick {tick : SessionTick} {outcome : UpdateOutcome}
    (waiting : d.Waiting c deadline) (early : tick.due deadline = false)
    (quiet : ∀ callback, .deliver callback ∈ events → callback.Quiet)
    (amid : (tick.courseWith sv inner).Amid sv d events outcome e) :
    (∀ event ∈ events, event.Still deadline) ∧ outcome = .keep := by
  cases tick with
  | world now =>
    obtain ⟨before, after, rfl, idle, idle', reported⟩ :=
      world_without_socket waiting.socket quiet amid
    have seen := waiting.same (idle_replay sv idle d).1
    refine ⟨?_, by rw [reported, seen.advance early]⟩
    refine List.forall_mem_append.mpr ⟨fun event member => .inl (idle event member), ?_⟩
    refine List.forall_mem_cons.mpr ⟨.inr ⟨now, rfl, early⟩, ?_⟩
    exact fun event member => .inl (idle' event member)
  | region now =>
    obtain ⟨idle, kept⟩ := region_without_socket waiting.socket quiet amid
    exact ⟨fun event member => .inl (idle event member), kept⟩

theorem vain_tick {tick : SessionTick} {outcome : UpdateOutcome} (alone : d.session.socket = none)
    (quiet : ∀ callback, .deliver callback ∈ events → callback.Quiet)
    (amid : (tick.courseWith sv inner).Amid sv d events outcome e) :
    ∀ event ∈ events, event.Vain := by
  cases tick with
  | world now =>
    obtain ⟨before, after, rfl, idle, idle', -⟩ := world_without_socket alone quiet amid
    refine List.forall_mem_append.mpr ⟨fun event member => .inl (idle event member), ?_⟩
    refine List.forall_mem_cons.mpr ⟨.inr ⟨now, rfl⟩, ?_⟩
    exact fun event member => .inl (idle' event member)
  | region now =>
    obtain ⟨idle, -⟩ := region_without_socket alone quiet amid
    exact fun event member => .inl (idle event member)

theorem amid_ofTicks_cons {tick : SessionTick} {ticks : List SessionTick}
    {outcomes : List UpdateOutcome}
    (amid : (Course.ofTicks sv (tick :: ticks)).Amid sv d events outcomes e) :
    ∃ early outcome mid late rest, events = early ++ late ∧ outcomes = outcome :: rest ∧
      (tick.courseWith sv (SessionTick.courseWithin sv sv.nesting)).Amid sv d early outcome mid ∧
      (Course.ofTicks sv ticks).Amid sv mid late rest e := by
  obtain ⟨early, outcome, mid, late, rfl, first, others⟩ := amid.of_bind
  obtain ⟨late, rest, mid', last, rfl, goes, ended⟩ := others.of_bind
  obtain ⟨calls, rfl⟩ := ended.of_done
  refine ⟨early, outcome, mid, _, rest, rfl, ended.result_of_done, first, ?_⟩
  rw [← ended.replay]
  exact goes.before_interjections calls

/-- While the time is not up nothing happens, and every tick reports so. -/
theorem still_ofTicks {ticks : List SessionTick} {outcomes : List UpdateOutcome}
    (waiting : d.Waiting c deadline) (early : ∀ tick ∈ ticks, tick.due deadline = false)
    (quiet : ∀ callback, .deliver callback ∈ events → callback.Quiet)
    (amid : (Course.ofTicks sv ticks).Amid sv d events outcomes e) :
    (∀ event ∈ events, event.Still deadline) ∧
      outcomes = List.replicate ticks.length .keep := by
  induction ticks generalizing d events outcomes with
  | nil =>
    obtain ⟨calls, rfl⟩ := amid.of_done
    exact ⟨fun event member => .inl (idle_interjections calls event member), amid.result_of_done⟩
  | cons tick ticks ih =>
    obtain ⟨now, later⟩ := List.forall_mem_cons.mp early
    obtain ⟨first, outcome, mid, late, rest, rfl, rfl, ticked, others⟩ := amid_ofTicks_cons amid
    obtain ⟨still, rfl⟩ := still_tick waiting now
      (fun callback member => quiet callback (List.mem_append_left _ member)) ticked
    have seen : mid.Waiting c deadline := ticked.replay ▸ (waiting.replay sv still).1
    obtain ⟨still', rfl⟩ := ih seen later
      (fun callback member => quiet callback (List.mem_append_right _ member)) others
    exact ⟨List.forall_mem_append.mpr ⟨still, still'⟩, rfl⟩

theorem vain_ofTicks {ticks : List SessionTick} {outcomes : List UpdateOutcome}
    (parted : d.Parted) (quiet : ∀ callback, .deliver callback ∈ events → callback.Quiet)
    (amid : (Course.ofTicks sv ticks).Amid sv d events outcomes e) :
    ∀ event ∈ events, event.Vain := by
  induction ticks generalizing d events outcomes with
  | nil =>
    obtain ⟨calls, rfl⟩ := amid.of_done
    exact fun event member => .inl (idle_interjections calls event member)
  | cons tick ticks ih =>
    obtain ⟨first, outcome, mid, late, rest, rfl, rfl, ticked, others⟩ := amid_ofTicks_cons amid
    have vain := vain_tick parted.socket
      (fun callback member => quiet callback (List.mem_append_left _ member)) ticked
    have seen : mid.Parted := ticked.replay ▸ (parted.replay sv vain).1
    exact List.forall_mem_append.mpr ⟨vain, ih seen
      (fun callback member => quiet callback (List.mem_append_right _ member)) others⟩

/-- When the time is up for the first time, the state machine finds the session as it was. -/
theorem due_ofTicks {early late : List SessionTick} {now : Instant}
    {outcomes : List UpdateOutcome} (waiting : d.Waiting c deadline)
    (before : ∀ tick ∈ early, tick.due deadline = false)
    (due : (SessionTick.world now).due deadline = true)
    (quiet : ∀ callback, .deliver callback ∈ events → callback.Quiet)
    (amid : (Course.ofTicks sv (early ++ .world now :: late)).Amid sv d events outcomes e) :
    ∃ past later rest, events = past ++ .advance now :: later ∧
      outcomes = List.replicate early.length .keep ++ .remove :: rest ∧
      (∀ event ∈ past, event.Still deadline) ∧ ∀ event ∈ later, event.Vain := by
  -- The ticks before the time is up leave the session as it waits, which carries the induction.
  induction early generalizing d events outcomes with
  | nil =>
    obtain ⟨first, outcome, mid, others, rest, rfl, rfl, ticked, following⟩ :=
      amid_ofTicks_cons amid
    obtain ⟨past, after, rfl, idle, idle', reported⟩ := world_without_socket waiting.socket
      (fun callback member => quiet callback (List.mem_append_left _ member)) ticked
    have seen := waiting.same (idle_replay sv idle d).1
    have logout : (Event.advance now).apply sv (d.replay sv past) =
        (d.replay sv past).logoutPlayer sv := congrArg Prod.snd (seen.advance_due due)
    have vain : ∀ event ∈ after, event.Vain := fun event member => .inl (idle' event member)
    have left : mid.Parted := by
      rw [← ticked.replay, replay_append, replay_cons, logout]
      exact (seen.parted.replay sv vain).1
    refine ⟨past, after ++ others, rest, by rw [List.append_assoc]; rfl, ?_,
      fun event member => .inl (idle event member), List.forall_mem_append.mpr ⟨vain, ?_⟩⟩
    · rw [reported, seen.advance_due due]
      rfl
    · exact vain_ofTicks left
        (fun callback member => quiet callback (List.mem_append_right _ member)) following
  | cons tick early ih =>
    obtain ⟨asked, asked'⟩ := List.forall_mem_cons.mp before
    obtain ⟨first, outcome, mid, others, rest, rfl, rfl, ticked, following⟩ :=
      amid_ofTicks_cons amid
    obtain ⟨still, rfl⟩ := still_tick waiting asked
      (fun callback member => quiet callback (List.mem_append_left _ member)) ticked
    have seen : mid.Waiting c deadline := ticked.replay ▸ (waiting.replay sv still).1
    obtain ⟨past, later, rest, rfl, rfl, still', vain⟩ := ih seen asked'
      (fun callback member => quiet callback (List.mem_append_right _ member)) following
    exact ⟨first ++ past, later, rest, by rw [List.append_assoc], rfl,
      List.forall_mem_append.mpr ⟨still, still'⟩, vain⟩

end

theorem exists_first_due (deadline : Option Instant) (ticks : List SessionTick) :
    (∀ tick ∈ ticks, tick.due deadline = false) ∨
      ∃ early now late, ticks = early ++ .world now :: late ∧
        (∀ tick ∈ early, tick.due deadline = false) ∧
        (SessionTick.world now).due deadline = true := by
  induction ticks with
  | nil => exact .inl (List.forall_mem_nil _)
  | cons tick ticks ih =>
    cases due : tick.due deadline with
    | true =>
      cases tick with
      | world now => exact .inr ⟨[], now, ticks, rfl, List.forall_mem_nil _, due⟩
      | region now => contradiction
    | false =>
      rcases ih with none | ⟨early, now, late, rfl, before, due'⟩
      · exact .inl (List.forall_mem_cons.mpr ⟨due, none⟩)
      · exact .inr ⟨tick :: early, now, late, rfl, List.forall_mem_cons.mpr ⟨due, before⟩, due'⟩

theorem ne_invoke_of_vain {event : Event W} (vain : event.Vain) (queue : Queue) (env : Envelope) :
    event ≠ .invoke queue env := by
  rintro rfl
  rcases vain with idle | ⟨now, same⟩ <;> contradiction

/-- A session that has given up its character lets go of no other when it is dropped. -/
theorem releases_drop (parted : d.Parted) :
    (d.drop sv).outside.releases = d.outside.releases := by
  have keeps : d.Keeps (d.shutdown sv) := by
    have shut : d.Behaves sv .any (d.shutdown sv) :=
      LiveSession.behaves_shutdown d Conduct.logsOut_any
    rcases LiveSession.leaves_or_keeps shut.moves with keeps | ⟨c, leaves⟩
    · exact keeps
    · exact absurd (parted.player.symm.trans leaves.attached) (Option.some_ne_none c).symm
  have none : (d.shutdown sv).session.player = none := keeps.player.trans parted.player
  simp only [LiveSession.drop, none]
  exact keeps.releases

end

namespace LiveSession

/-- A session that goes offline with a character and with no replacement at hand, amid
envelopes, ticks at any times and quiet callbacks, among which are all that the session's
own handlers leave. No handler runs. Up to the deadline every tick keeps the session, and
the character stays; if the clock cannot hold the deadline it is always so. The first tick
of the world at the deadline or later logs the character out and has the session removed,
and no tick after it and no shutdown logs out anyone again. -/
theorem offline_until_deadline (sv : Services W) (d : LiveSession W) (c : Character)
    (attached : d.session.player = some c) (alone : d.session.pending = none)
    (ticks : List SessionTick) (events : List (Event W)) (outcomes : List UpdateOutcome)
    (last : LiveSession W)
    (amid : (Course.ofTicks sv ticks).Amid sv (d.setOffline sv) events outcomes last)
    (quiet : ∀ callback, .deliver callback ∈ events → callback.Quiet) :
    let start := d.setOffline sv
    let deadline := d.session.now.addSeconds? sv.config.offlineGrace.toNat
    let stays := fun past => (start.replay sv past).session.player = some c ∧
      (start.replay sv past).outside.releases = start.outside.releases
    start.session.state = .offline ∧ start.session.kickDeadline = deadline ∧
    (∀ time, deadline = some time →
      time = d.session.now + sv.config.offlineGrace.toNat * 1000000000) ∧
    (∀ queue env, .invoke queue env ∉ events) ∧
    (deadline = none → ∀ tick ∈ ticks, tick.due deadline = false) ∧
    ((∀ tick ∈ ticks, tick.due deadline = false) →
      outcomes = List.replicate ticks.length .keep ∧ ∀ past, past <+: events → stays past) ∧
    ∀ early now late, ticks = early ++ .world now :: late →
      (∀ tick ∈ early, tick.due deadline = false) →
      (SessionTick.world now).due deadline = true →
      ∃ past later rest, events = past ++ .advance now :: later ∧
        outcomes = List.replicate early.length .keep ++ .remove :: rest ∧
        (∀ before, before <+: past → stays before) ∧
        (start.replay sv past).advance sv now =
          (.remove, (start.replay sv past).logoutPlayer sv) ∧
        last.session.player = none ∧
        last.outside.releases = start.outside.releases ++ [c] ∧
        (last.drop sv).outside.releases = last.outside.releases := by
  intro start deadline stays
  have waiting : start.Waiting c deadline := waiting_setOffline attached alone
  have kept : ∀ {past}, (∀ event ∈ past, event.Still deadline) → ∀ before, before <+: past →
      stays before := by
    intro past still before early
    obtain ⟨after, releases⟩ :=
      waiting.replay sv fun event member => still event (early.subset member)
    exact ⟨after.player, releases⟩
  refine ⟨waiting.state, waiting.kickDeadline, ?time, ?silent, ?never, ?before, ?due⟩
  case time =>
    intro time held
    simp only [deadline, Instant.addSeconds?] at held
    split at held
    · exact (Option.some.inj held).symm
    · contradiction
  case silent =>
    intro queue env invoked
    -- Either the time is never up, or the first tick at which it is splits the run in two;
    -- neither part holds a handler's turn.
    rcases exists_first_due deadline ticks with early | ⟨early, now, late, rfl, before, due⟩
    · obtain ⟨still, -⟩ := still_ofTicks waiting early quiet amid
      exact ne_invoke_of_vain (still _ invoked).vain queue env rfl
    · obtain ⟨past, later, rest, rfl, -, still, vain⟩ :=
        due_ofTicks waiting before due quiet amid
      rcases List.mem_append.mp invoked with member | member
      · exact ne_invoke_of_vain (still _ member).vain queue env rfl
      · rcases List.mem_cons.mp member with same | member
        · contradiction
        · exact ne_invoke_of_vain (vain _ member) queue env rfl
  case never =>
    intro absent tick _
    rw [absent]
    cases tick <;> rfl
  case before =>
    intro early
    obtain ⟨still, outcomes⟩ := still_ofTicks waiting early quiet amid
    exact ⟨outcomes, kept still⟩
  case due =>
    rintro early now late rfl before due
    obtain ⟨past, later, rest, rfl, outcomes, still, vain⟩ :=
      due_ofTicks waiting before due quiet amid
    obtain ⟨seen, releases⟩ := waiting.replay sv still
    have logout : (start.replay sv past).advance sv now =
        (.remove, (start.replay sv past).logoutPlayer sv) := seen.advance_due due
    have parting : last = ((start.replay sv past).logoutPlayer sv).replay sv later := by
      rw [← amid.replay, replay_append, replay_cons]
      exact congrArg (fun d : LiveSession W => d.replay sv later) (congrArg Prod.snd logout)
    obtain ⟨parted, releases'⟩ := seen.parted.replay sv vain
    rw [← parting] at parted releases'
    refine ⟨past, later, rest, rfl, outcomes, kept still, logout, parted.player, ?_,
      releases_drop parted⟩
    rw [releases', releases_logoutPlayer seen.player, releases]

end LiveSession

def Event.begun? : Event W → Option (Callback W)
  | deliver callback => some callback
  | _ => none

theorem quiet_of_begun {events : List (Event W)} {callbacks : List (Callback W)}
    (begun : events.filterMap Event.begun? = callbacks)
    (quiet : ∀ callback ∈ callbacks, callback.Quiet) :
    ∀ callback, .deliver callback ∈ events → callback.Quiet := by
  intro callback member
  refine quiet callback (begun ▸ List.mem_filterMap.mpr ⟨_, member, rfl⟩)

namespace Rehearsal

/-- A session in play, whose client is given twenty seconds when it is lost. -/
def adrift : LiveSession Stage :=
  (opening (coreServices {})).run (coreServices {}) [just (.attach lead), just .setOnline]

/-- How it waits, with an envelope, a kick and a latency that are left for it. -/
def wait : List (Event Stage) × List UpdateOutcome × LiveSession Stage :=
  (Course.ofTicks (coreServices {})
    [.world 10000000000, .region 24000000000, .world 25000000000]).woven (coreServices {})
      [[.enqueue (Envelope.empty ⟨0x10⟩), .post (kickIfStill lead.guid)],
        [.post (Handler.setLatencyLater 7)]] (adrift.setOffline (coreServices {}))

theorem begun_wait :
    wait.1.filterMap Event.begun? = [kickIfStill lead.guid, Handler.setLatencyLater 7] := by
  rfl

end Rehearsal

namespace LiveSession

open Rehearsal

/-- It is kept for ten seconds, whatever the region does meanwhile, and is removed at the
next tick of the world, without its character. -/
theorem offline_until_deadline_kicked :
    wait.2.1 = [.keep, .keep, .remove] ∧
      (wait.2.2.drop (coreServices {})).outside.releases = [lead] := by
  have amid : (Course.ofTicks (coreServices {})
      [.world 10000000000, .region 24000000000, .world 25000000000]).Amid (coreServices {})
        (adrift.setOffline (coreServices {})) wait.1 wait.2.1 wait.2.2 :=
    Course.amid_woven _ _ _
  have quiet := quiet_of_begun begun_wait (List.forall_mem_cons.mpr
    ⟨quiet_kickIfStill lead.guid, List.forall_mem_singleton.mpr (quiet_setLatencyLater 7)⟩)
  obtain ⟨-, -, -, -, -, -, due⟩ :=
    offline_until_deadline (coreServices {}) adrift lead (by decide) (by decide) _ _ _ _ amid quiet
  obtain ⟨past, later, rest, -, outcomes, -, -, -, releases, dropped⟩ :=
    due [.world 10000000000, .region 24000000000] 25000000000 [] rfl (by decide) (by decide)
  refine ⟨by decide +kernel, ?_⟩
  rw [dropped, releases]
  decide +kernel

end LiveSession

end GameRealm
