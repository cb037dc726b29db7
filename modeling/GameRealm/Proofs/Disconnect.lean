import GameRealm.Proofs.Acknowledgement
import GameRealm.Proofs.Course
import GameRealm.Proofs.Posting
import GameRealm.Rehearsal.Repertoire

/-!
# Disconnects for faulty payloads

While no character is attached a payload that cannot be read gets its sender
disconnected, if the realm punishes this: the handler's tick leaves a callback, and the
next world tick runs it. The callback does not remember whom it is for. It closes the
socket that is active when it runs, and meanwhile the state machine may have activated
another one.

1. `Event.gathers`: the mailbox only ever gathers callbacks until a world tick takes them.
2. `pending_of_posted`: so the disconnect waits, whatever happens meanwhile.
3. `disconnect_runs`: the world tick that takes it runs it, and `trace_closeSocket` says
   what it does.
4. `active_or_activated`: a socket that is active was so before, or has been activated.
5. `fault_disconnect_spares_iff`: so the disconnect keeps to the socket that the fault came
   from exactly if no socket that was activated since is active then.
6. `replacement_disconnected`: a client that has just come back is disconnected.
-/

namespace GameRealm

/-! ## The mailbox -/

/-- From one inbox to another callbacks have been added to the mailbox, at its end. -/
def Inbox.Gathers (i j : Inbox W) : Prop :=
  ∃ fresh, j.mailbox = { i.mailbox with pending := i.mailbox.pending ++ fresh }

namespace Inbox

variable {i j k : Inbox W}

theorem gathers_of_eq (h : j.mailbox = i.mailbox) : i.Gathers j :=
  ⟨[], by rw [h, List.append_nil]⟩

theorem Gathers.trans (first : i.Gathers j) (second : j.Gathers k) : i.Gathers k := by
  obtain ⟨early, old⟩ := first
  obtain ⟨late, new⟩ := second
  exact ⟨early ++ late, by rw [new, old, List.append_assoc]⟩

theorem Gathers.live (gathers : i.Gathers j) : j.mailbox.live = i.mailbox.live := by
  obtain ⟨fresh, new⟩ := gathers
  rw [new]

theorem pending_post {callback : Callback W} (live : i.mailbox.live = true) :
    (i.post callback).2.mailbox.pending = i.mailbox.pending ++ [callback] := by
  simp [post, Mailbox.post, live]

end Inbox

section
variable {sv : Services W}

theorem Event.gathers {event : Event W} (other : event ≠ .takeCallbacks) (d : LiveSession W) :
    d.inbox.Gathers (event.apply sv d).inbox := by
  obtain ⟨callbacks, filled⟩ : d.inbox.mailbox.Fills (event.apply sv d).inbox.mailbox :=
    Event.fills other d
  cases live : d.inbox.mailbox.live with
  | true => exact ⟨callbacks, by rw [filled, Mailbox.postAll_live live]⟩
  | false => exact Inbox.gathers_of_eq (by rw [filled, Mailbox.postAll_gone live])

variable (sv) in
theorem gathers_replay {events : List (Event W)}
    (untaken : ∀ event ∈ events, event ≠ .takeCallbacks) (d : LiveSession W) :
    d.inbox.Gathers (d.replay sv events).inbox := by
  induction events generalizing d with
  | nil => exact Inbox.gathers_of_eq rfl
  | cons event events ih =>
    obtain ⟨now, later⟩ := List.forall_mem_cons.mp untaken
    exact (Event.gathers now d).trans (ih later _)

/-- What is posted to an owner that is there waits at its place until callbacks are taken. -/
theorem pending_of_posted {callback : Callback W} {early late : List (Event W)} {d : LiveSession W}
    (live : d.inbox.mailbox.live = true)
    (untaken : ∀ event ∈ early ++ .post callback :: late, event ≠ .takeCallbacks) :
    ∃ before after, d.inbox.mailbox.pending <+: before ∧
      (d.replay sv (early ++ .post callback :: late)).inbox.mailbox.pending =
        before ++ callback :: after := by
  obtain ⟨untaken, untaken'⟩ := List.forall_mem_append.mp untaken
  have first := gathers_replay sv untaken d
  have last := gathers_replay sv (List.forall_mem_cons.mp untaken').2
    ((Event.post callback).apply sv (d.replay sv early))
  have posted : ((Event.post callback).apply sv (d.replay sv early)).inbox.mailbox.pending =
      (d.replay sv early).inbox.mailbox.pending ++ [callback] :=
    Inbox.pending_post (first.live.trans live)
  obtain ⟨fresh, old⟩ := first
  obtain ⟨fresh', new⟩ := last
  refine ⟨(d.replay sv early).inbox.mailbox.pending, fresh', ?_, ?_⟩
  · rw [old]
    exact List.prefix_append _ fresh
  · rw [replay_append, replay_cons, new]
    simp only [posted, List.append_assoc, List.singleton_append]

/-! ## The fault -/

def Queue.settleCourse (sv : Services W) (queue : Queue) (handled : Handled) : Course W Unit :=
  .step (fun _ => .handled queue handled) fun _ =>
    .look fun d => .each (d.settleEvents sv handled)

variable (sv) in
theorem session_interjections (calls : List (Interjection W)) (d : LiveSession W) :
    (d.replay sv (calls.map Interjection.event)).session = d.session := by
  induction calls generalizing d with
  | nil => rfl
  | cons call calls ih =>
    refine (ih _).trans ?_
    cases call <;> rfl

theorem untaken_interjections (calls : List (Interjection W)) :
    ∀ event ∈ calls.map Interjection.event, event ≠ .takeCallbacks := by
  intro event member
  obtain ⟨call, _, rfl⟩ := List.mem_map.mp member
  cases call <;> exact nofun

/-- Events that are to happen do happen, and nobody but producers comes in between. -/
theorem untaken_each {events happened : List (Event W)} {d e : LiveSession W} {result : Unit}
    (amid : (Course.each events).Amid sv d happened result e)
    (untaken : ∀ event ∈ events, event ≠ .takeCallbacks) :
    (∀ event ∈ events, event ∈ happened) ∧ ∀ event ∈ happened, event ≠ .takeCallbacks := by
  induction events generalizing d happened with
  | nil =>
    obtain ⟨calls, rfl⟩ := amid.of_done
    exact ⟨nofun, untaken_interjections calls⟩
  | cons first events ih =>
    obtain ⟨calls, rest, rfl, goes⟩ := amid.of_step
    obtain ⟨now, later⟩ := List.forall_mem_cons.mp untaken
    obtain ⟨all, none⟩ := ih goes later
    constructor
    · intro event member
      refine List.mem_append_right _ ?_
      rcases List.mem_cons.mp member with rfl | member
      · exact List.mem_cons_self
      · exact List.mem_cons_of_mem _ (all event member)
    · exact List.forall_mem_append.mpr ⟨untaken_interjections calls,
        List.forall_mem_cons.mpr ⟨now, none⟩⟩

theorem disconnect_mem_settleEvents (punishes : sv.config.kickOnBadPacket = true)
    {handled : Handled} (faulty : handled.fault.isSome) {d : LiveSession W}
    (alone : d.session.player = none) :
    .post closeWhateverSocket ∈ d.settleEvents sv handled ∧
      ∀ event ∈ d.settleEvents sv handled, event ≠ .takeCallbacks := by
  obtain ⟨fault, faulted⟩ := Option.isSome_iff_exists.mp faulty
  have callback : d.session.faultCallback = (closeWhateverSocket : Callback W) := by
    simp only [Session.faultCallback, Session.playerGuid, alone, Option.map_none]
  simp [LiveSession.settleEvents, faulted, punishes, callback]

theorem disconnect_posted (punishes : sv.config.kickOnBadPacket = true) {queue : Queue}
    {handled : Handled} (faulty : handled.fault.isSome) {d posted : LiveSession W}
    (alone : d.session.player = none) {punishing : List (Event W)} {result : Unit}
    (punished : (queue.settleCourse sv handled).Amid sv d punishing result posted) :
    .post closeWhateverSocket ∈ punishing ∧ ∀ event ∈ punishing, event ≠ .takeCallbacks := by
  obtain ⟨calls, rest, rfl, goes⟩ := punished.of_step
  obtain ⟨calls', rest', rfl, settled⟩ := goes.of_look
  -- Nothing of this touches the session, so it still is without a character.
  let before := d.replay sv (calls.map Interjection.event)
  have settling : (before.endDelay sv).session = before.session := before.frame_endDelay.1
  have same := (session_interjections sv calls' _).trans
    (settling.trans (session_interjections sv calls d))
  obtain ⟨posts, untaken⟩ := disconnect_mem_settleEvents punishes faulty
    ((congrArg Session.player same).trans alone)
  obtain ⟨all, none⟩ := untaken_each settled untaken
  constructor
  · exact List.mem_append_right _ (List.mem_cons_of_mem _
      (List.mem_append_right _ (all _ posts)))
  · refine List.forall_mem_append.mpr ⟨untaken_interjections calls,
      List.forall_mem_cons.mpr ⟨nofun, ?_⟩⟩
    exact List.forall_mem_append.mpr ⟨untaken_interjections calls', none⟩

/-! ## The tick that runs it -/

/-- The course of a world tick until it comes to a callback; `before` are those that are run
before it. -/
def Callback.leadCourse (sv : Services W) (inner : SessionTick → Course W UpdateOutcome)
    (now : Instant) (before : List (Callback W)) (callback : Callback W) : Course W Unit :=
  .step (fun _ => .clock now) fun _ => .step (fun _ => .takeCallbacks) fun _ =>
    (Callback.eachCourse sv inner before).bind fun _ =>
      .step (fun _ => .deliver callback) fun _ => .done ()

section
variable {inner : SessionTick → Course W UpdateOutcome}

theorem eachCourse_append (first second : List (Callback W)) :
    Callback.eachCourse sv inner (first ++ second) =
      (Callback.eachCourse sv inner first).bind fun _ => Callback.eachCourse sv inner second := by
  induction first with
  | nil => rfl
  | cons callback rest ih =>
    rw [List.cons_append, Callback.eachCourse, ih, ← Course.bind_assoc]
    rfl

/-- A world tick comes to each callback that waits when it begins. -/
theorem leads_to {now : Instant} {before after : List (Callback W)} {callback : Callback W}
    {d e : LiveSession W} {events : List (Event W)} {outcome : UpdateOutcome}
    (waits : d.inbox.mailbox.pending = before ++ callback :: after)
    (ticks : ((SessionTick.world now).courseWith sv inner).Amid sv d events outcome e) :
    ∃ early late mid rest, events = early ++ late ++ rest ∧
      (Callback.leadCourse sv inner now before callback).Amid sv d early () mid ∧
      ∃ after, (callback.body.course sv inner).Amid sv mid late () after := by
  obtain ⟨calls, _, rfl, ticked⟩ := ticks.of_step
  obtain ⟨delivery, _, _, drain, rfl, delivers, _⟩ := ticked.of_bind
  obtain ⟨calls', runs, rfl, run⟩ := delivers.of_step
  -- What producers have posted meanwhile waits behind the callback.
  have gathered : d.inbox.Gathers (((Event.clock now).apply sv
      (d.replay sv (calls.map Interjection.event))).replay sv
        (calls'.map Interjection.event)).inbox :=
    (gathers_replay sv (untaken_interjections calls) d).trans <|
      (Event.gathers (show Event.clock now ≠ .takeCallbacks from nofun) _).trans <|
        gathers_replay sv (untaken_interjections calls') _
  obtain ⟨fresh, gathered⟩ := gathered
  have taken := congrArg Mailbox.pending gathered
  simp only [waits, List.append_assoc, List.cons_append] at taken
  rw [taken, eachCourse_append] at run
  obtain ⟨ran, _, mid, _, rfl, ranBefore, goes⟩ := run.of_bind
  obtain ⟨calls'', _, rfl, delivered⟩ := goes.of_step
  obtain ⟨late, _, after, rest, rfl, ranIt, _⟩ := delivered.of_bind
  refine ⟨calls.map Interjection.event ++ .clock now :: (calls'.map Interjection.event ++
      .takeCallbacks :: (ran ++ (calls''.map Interjection.event ++ [.deliver callback]))),
    late, _, rest ++ drain, ?_, ?_, after, ranIt⟩
  · simp only [List.append_assoc, List.cons_append, List.nil_append]
  · refine Course.Amid.interjections calls (.step ?_)
    refine Course.Amid.interjections calls' (.step ?_)
    exact ranBefore.bind (Course.Amid.interjections calls'' (.step (.done () _)))

/-- Once a world tick has come to a disconnect, it closes a socket. -/
theorem disconnect_runs {now : Instant} {before after : List (Callback W)} {d e : LiveSession W}
    {events : List (Event W)} {outcome : UpdateOutcome}
    (waits : d.inbox.mailbox.pending = before ++ closeWhateverSocket :: after)
    (ticks : ((SessionTick.world now).courseWith sv inner).Amid sv d events outcome e) :
    ∃ early late mid, events = early ++ .perform .closeSocket :: late ∧
      (Callback.leadCourse sv inner now before closeWhateverSocket).Amid sv d early () mid := by
  obtain ⟨early, late, mid, rest, rfl, leads, after, runs⟩ := leads_to waits ticks
  obtain ⟨calls, rest', rfl, _⟩ := runs.of_step
  refine ⟨early ++ calls.map Interjection.event, rest' ++ rest,
    mid.replay sv (calls.map Interjection.event), ?_, leads.before_interjections calls⟩
  simp only [List.append_assoc, List.cons_append]

end

theorem trace_closeSocket (d : LiveSession W) :
    ((Event.perform .closeSocket).apply sv d).outside.trace =
      d.outside.trace ++ d.session.socket.toList.map .close := by
  simp only [Event.apply, Operation.run, LiveSession.closeSocket]
  cases d.session.socket with
  | none => exact (List.append_nil _).symm
  | some socket => exact List.reverse_cons

/-! ## The socket -/

def LiveSession.Activates (sv : Services W) (events : List (Event W)) (d : LiveSession W)
    (socket : SocketId) : Prop :=
  ∃ past event later, events = past ++ event :: later ∧
    event.greets (d.replay sv past).session = true ∧
    (d.replay sv past).session.pending = some socket

theorem active_or_activated {events : List (Event W)} {d : LiveSession W} {socket : SocketId}
    (active : (d.replay sv events).session.socket = some socket) :
    d.session.socket = some socket ∨ d.Activates sv events socket := by
  induction events generalizing d with
  | nil => exact .inl active
  | cons event events ih =>
    rcases ih active with now | ⟨past, later, rest, rfl, greets, waits⟩
    · cases greets : event.greets d.session with
      | true =>
        rw [(LiveSession.socket_apply_of_greets sv greets).1] at now
        rcases Option.or_eq_some_iff.mp now with waits | ⟨_, before⟩
        · exact .inr ⟨[], event, events, rfl, greets, waits⟩
        · exact .inl before
      | false =>
        rcases LiveSession.socket_apply sv greets with same | gone
        · exact .inl (same.symm.trans now)
        · rw [gone] at now
          contradiction
    · exact .inr ⟨event :: past, later, rest, rfl, greets, waits⟩

end

namespace LiveSession

/-- A payload that cannot be read, while no character is attached and the realm punishes
this, gets a socket closed: whatever happens until callbacks are taken again, the world
tick that takes them comes to the disconnect, which then closes the active socket and does
nothing else. That is the socket that was active when the handler failed, and none that has
been activated since, exactly if no socket that has been activated since is active then. -/
theorem fault_disconnect_spares_iff (sv : Services W)
    (punishes : sv.config.kickOnBadPacket = true) (queue : Queue) (handled : Handled)
    (faulty : handled.fault.isSome) (d : LiveSession W) (alone : d.session.player = none)
    (live : d.inbox.mailbox.live = true) (punishing : List (Event W)) (settled : Unit)
    (posted : LiveSession W)
    (punished : (queue.settleCourse sv handled).Amid sv d punishing settled posted)
    (meanwhile : List (Event W)) (untaken : ∀ event ∈ meanwhile, event ≠ .takeCallbacks)
    (inner : SessionTick → Course W UpdateOutcome) (now : Instant) (ticking : List (Event W))
    (outcome : UpdateOutcome) (last : LiveSession W)
    (ticks : ((SessionTick.world now).courseWith sv inner).Amid sv (posted.replay sv meanwhile)
      ticking outcome last) :
    ∃ before after early late e,
      (posted.replay sv meanwhile).inbox.mailbox.pending =
        before ++ closeWhateverSocket :: after ∧
      d.inbox.mailbox.pending <+: before ∧
      (Callback.leadCourse sv inner now before closeWhateverSocket).Amid sv
        (posted.replay sv meanwhile) early () e ∧
      ticking = early ++ .perform .closeSocket :: late ∧
      ((Event.perform .closeSocket).apply sv e).outside.trace =
        e.outside.trace ++ e.session.socket.toList.map .close ∧
      let since := punishing ++ meanwhile ++ early
      ((∀ socket, e.session.socket = some socket →
          d.session.socket = some socket ∧ ¬ d.Activates sv since socket) ↔
        ¬ ∃ socket, d.Activates sv since socket ∧ e.session.socket = some socket) := by
  obtain ⟨post, none⟩ := disconnect_posted punishes faulty alone punished
  obtain ⟨prior, rest, rfl⟩ := List.append_of_mem post
  -- The callback is followed from where it is posted to the tick that runs it.
  have whole : posted.replay sv meanwhile =
      d.replay sv (prior ++ .post closeWhateverSocket :: (rest ++ meanwhile)) := by
    rw [← punished.replay, ← replay_append, List.append_assoc, List.cons_append]
  have kept : ∀ event ∈ prior ++ .post closeWhateverSocket :: (rest ++ meanwhile),
      event ≠ .takeCallbacks := by
    rw [← List.cons_append, ← List.append_assoc]
    exact List.forall_mem_append.mpr ⟨none, untaken⟩
  obtain ⟨before, after, earlier, waits⟩ := pending_of_posted live kept
  rw [← whole] at waits
  obtain ⟨early, late, e, runs, leads⟩ := disconnect_runs waits ticks
  refine ⟨before, after, early, late, e, waits, earlier, leads, runs, trace_closeSocket e, ?_⟩
  intro since
  have reached : d.replay sv since = e := by
    rw [replay_append, replay_append, punished.replay, leads.replay]
  constructor
  · rintro spares ⟨socket, activated, active⟩
    exact (spares socket active).2 activated
  · intro none socket active
    have fresh : ¬ d.Activates sv since socket := fun activated => none ⟨socket, activated, active⟩
    rw [← reached] at active
    exact ⟨(active_or_activated active).resolve_right fresh, fresh⟩

open Rehearsal

/-- A client that stays on its socket is disconnected by the update after the one in which
its payload could not be read. -/
theorem fault_disconnect_spares_iff_stayed :
    let sv := services { kickOnBadPacket := true } []
    let handled : Handled := ⟨.empty ⟨0x19⟩, some (.outOfBounds 0 4 0)⟩
    let d := (opening sv).run sv [.tick (.world 0)]
    let settle := Queue.generic.settleCourse sv handled
    let meanwhile : List (Event Stage) := [.leave .generic [], .advance 10]
    let later := (settle.run sv d).2.replay sv meanwhile
    let tick := (SessionTick.world 20).courseWith sv (SessionTick.courseWithin sv 1)
    d.session.socket = some ⟨0⟩ ∧
      (tick.run sv later).2.outside.trace = later.outside.trace ++ [.close ⟨0⟩] ∧
      ∃ early late e,
        (Callback.leadCourse sv (SessionTick.courseWithin sv 1) 20 [] closeWhateverSocket).Amid sv
          later early () e ∧
        tick.events sv later = early ++ .perform .closeSocket :: late := by
  intro sv handled d settle meanwhile later tick
  have untaken : ∀ event ∈ meanwhile, event ≠ .takeCallbacks := by
    intro event member
    rcases List.mem_cons.mp member with rfl | member
    · exact nofun
    · rw [List.mem_singleton.mp member]
      exact nofun
  obtain ⟨before, after, early, late, e, waits, _, leads, runs, _⟩ :=
    fault_disconnect_spares_iff sv rfl .generic handled rfl d (by decide +kernel)
      (by decide +kernel) _ _ _ (settle.amid_alone d) meanwhile untaken
      (SessionTick.courseWithin sv 1) 20 _ _ _ (tick.amid_alone later)
  have alone : (before ++ closeWhateverSocket :: after).length = 1 := by
    rw [← waits]
    decide +kernel
  obtain rfl : before = [] := by
    rw [List.length_append, List.length_cons] at alone
    exact List.eq_nil_of_length_eq_zero (by omega)
  exact ⟨by decide +kernel, by decide +kernel, early, late, e, leads, runs⟩

/-- A client that comes back on a second socket while its faulty payload is still on its
way: when the handler fails the first socket is active, and the next update closes the
second one. -/
theorem replacement_disconnected :
    let sv := services { kickOnBadPacket := true } []
    let steps : List (SessionStep Stage) := [.tick (.world 0), just (.requestNewSocket ⟨1⟩),
      just (.enqueue (.empty ⟨0x19⟩)), .tick (.world 10)]
    let events := (opening sv).history sv steps
    let failing := (opening sv).replay sv (events.take 13)
    let later := (opening sv).run sv steps
    (events[13]?.any fun
      | .handled _ handled => handled.fault.isSome
      | _ => false) ∧
      failing.session.player = none ∧ failing.session.socket = some ⟨0⟩ ∧
      later.session.socket = some ⟨1⟩ ∧ later.isClosed sv ⟨1⟩ = false ∧
      (later.run sv [.tick (.world 20)]).outside.trace = later.outside.trace ++ [.close ⟨1⟩] := by
  decide +kernel

end LiveSession

end GameRealm
