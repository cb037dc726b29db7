import GameRealm.Proofs.Course
import GameRealm.Proofs.Lifecycle
import GameRealm.Proofs.Posting
import GameRealm.Proofs.Turns
import GameRealm.Rehearsal.Mail

/-!
# Every callback has its turn

Whatever is done to a session, and whatever producers do to its inbox meanwhile: every
callback that is accepted runs once, in the first batch that an update takes afterwards,
unless no update comes any more.

1. `Event.mark` is what an event means to the mailbox, and `Course.Turns` how the marks of
   a course are kept, with one rule for every kind of course and one lemma for every part
   of a tick;
2. `LiveSession.turns_of_amid`: so the callbacks of every run have their turns;
3. `LiveSession.silent_of_gone`: once the owner is gone nothing is accepted and nothing runs;
4. `callbacks_have_turns` puts the three together.
-/

namespace GameRealm

open Mark

/-! ## The marks of a history -/

/-- Whether the event is neither about a batch nor about the envelopes of an update. -/
def Event.aside : Event W → Bool
  | takeCallbacks | deliver _ | takeBacklog .generic => false
  | _ => true

/-- What an event means to the mailbox. -/
def Event.mark (sv : Services W) (d : LiveSession W) : Event W → Mark (Callback W)
  | takeCallbacks => .take
  | deliver callback => .run callback
  | takeBacklog .generic => .backlog
  | event => .posts ((event.apply sv d).inbox.mailbox.pending.drop d.inbox.mailbox.pending.length)

def LiveSession.marks (sv : Services W) : List (Event W) → LiveSession W → List (Mark (Callback W))
  | [], _ => []
  | event :: events, d => event.mark sv d :: marks sv events (event.apply sv d)

section
variable {sv : Services W} {stack stack' : List (List (Callback W))}

theorem marks_append (first second : List (Event W)) (d : LiveSession W) :
    d.marks sv (first ++ second) = d.marks sv first ++ (d.replay sv first).marks sv second := by
  induction first generalizing d with
  | nil => rfl
  | cons event first ih => exact congrArg (event.mark sv d :: ·) (ih _)

theorem run_of_deliver {callback : Callback W} {events : List (Event W)}
    (delivered : .deliver callback ∈ events) (d : LiveSession W) :
    .run callback ∈ d.marks sv events := by
  induction events generalizing d with
  | nil => contradiction
  | cons event events ih =>
    rcases List.mem_cons.mp delivered with rfl | later
    · exact List.mem_cons_self
    · exact List.mem_cons_of_mem _ (ih later _)

theorem accepted_post (callback : Callback W) (d : LiveSession W) :
    (d.post callback).1 = d.inbox.mailbox.live := by
  cases live : d.inbox.mailbox.live <;>
    simp [LiveSession.post, LiveInbox.post, Inbox.post, Mailbox.post, live]

theorem mark_post (callback : Callback W) (d : LiveSession W) :
    (Event.post callback).mark sv d = .posts (if (d.post callback).1 then [callback] else []) := by
  cases live : d.inbox.mailbox.live <;>
    simp [Event.mark, Event.apply, LiveSession.post, LiveInbox.post, Inbox.post, Mailbox.post, live]

theorem booked_aside {past : List (Mark (Callback W))} {d : LiveSession W} {event : Event W}
    (aside : event.aside = true) (booked : Booked past d.inbox.mailbox.pending stack) :
    Booked (past ++ [event.mark sv d]) (event.apply sv d).inbox.mailbox.pending stack := by
  have other : event ≠ .takeCallbacks := by
    rintro rfl
    contradiction
  have mark : event.mark sv d =
      .posts ((event.apply sv d).inbox.mailbox.pending.drop d.inbox.mailbox.pending.length) := by
    cases event with
    | takeCallbacks => contradiction
    | deliver => contradiction
    | takeBacklog queue =>
      cases queue with
      | generic => contradiction
      | map => rfl
    | _ => rfl
  have fills : d.inbox.mailbox.Fills (event.apply sv d).inbox.mailbox := Event.fills other d
  obtain ⟨fresh, filled⟩ := fills.pending
  rw [mark, ← filled, List.drop_left]
  exact booked.posts fresh

/-- However a course goes amid producers, if the open batches hold the first callbacks
before it, then they hold the second ones after it. -/
def Course.Turns (sv : Services W) (stack : List (List (Callback W))) (course : Course W α)
    (stack' : List (List (Callback W))) : Prop :=
  ∀ past d events result e, Booked past d.inbox.mailbox.pending stack →
    course.Amid sv d events result e →
    Booked (past ++ d.marks sv events) e.inbox.mailbox.pending stack'

/-- The course leaves the open batches as it finds them. -/
def Course.Orderly (sv : Services W) (course : Course W α) : Prop :=
  ∀ stack, course.Turns sv stack stack

theorem booked_interjections (calls : List (Interjection W)) {past : List (Mark (Callback W))}
    {d : LiveSession W} (booked : Booked past d.inbox.mailbox.pending stack) :
    Booked (past ++ d.marks sv (calls.map Interjection.event))
      (d.replay sv (calls.map Interjection.event)).inbox.mailbox.pending stack := by
  induction calls generalizing past d with
  | nil => simpa [LiveSession.marks] using booked
  | cons call calls ih =>
    have aside : call.event.aside = true := by cases call <;> rfl
    simpa [LiveSession.marks] using ih (booked_aside aside booked)

namespace Course

theorem turns_done (result : α) : (done result : Course W α).Turns sv stack stack := by
  intro past d events answer e booked amid
  obtain ⟨calls, rfl⟩ := amid.of_done
  rw [← amid.replay]
  exact booked_interjections calls booked

theorem turns_look {next : LiveSession W → Course W α}
    (turns : ∀ d, (next d).Turns sv stack stack') : (look next).Turns sv stack stack' := by
  intro past d events answer e booked amid
  obtain ⟨calls, rest, rfl, goes⟩ := amid.of_look
  rw [marks_append, ← List.append_assoc]
  exact turns _ _ _ _ _ _ (booked_interjections calls booked) goes

theorem turns_step {between : LiveSession W → List (List (Callback W))}
    {event : LiveSession W → Event W} {next : LiveSession W → Course W α}
    (now : ∀ past d, Booked past d.inbox.mailbox.pending stack →
      Booked (past ++ [(event d).mark sv d]) ((event d).apply sv d).inbox.mailbox.pending
        (between d))
    (turns : ∀ d, (next d).Turns sv (between d) stack') :
    (step event next).Turns sv stack stack' := by
  intro past d events answer e booked amid
  obtain ⟨calls, rest, rfl, goes⟩ := amid.of_step
  rw [marks_append, ← List.append_assoc, LiveSession.marks, List.append_cons]
  exact turns _ _ _ _ _ _ (now _ _ (booked_interjections calls booked)) goes

theorem turns_aside {event : LiveSession W → Event W} {next : LiveSession W → Course W α}
    (aside : ∀ d, (event d).aside = true) (turns : ∀ d, (next d).Turns sv stack stack') :
    (step event next).Turns sv stack stack' :=
  turns_step (fun _ d booked => booked_aside (aside d) booked) turns

theorem Turns.bind {between : List (List (Callback W))} {course : Course W α}
    {f : α → Course W β} (first : course.Turns sv stack between)
    (second : ∀ result, (f result).Turns sv between stack') :
    (course.bind f).Turns sv stack stack' := by
  intro past d events answer e booked amid
  obtain ⟨early, result, mid, late, rfl, amid, rest⟩ := amid.of_bind
  rw [marks_append, amid.replay, ← List.append_assoc]
  exact second result _ _ _ _ _ (first _ _ _ _ _ booked amid) rest

theorem turns_each {events : List (Event W)} (aside : ∀ event ∈ events, event.aside = true) :
    (each events).Orderly sv := by
  intro stack
  induction events with
  | nil => exact turns_done ()
  | cons event events ih =>
    obtain ⟨now, later⟩ := List.forall_mem_cons.mp aside
    exact turns_aside (fun _ => now) fun _ => ih later

end Course

/-! ## The parts of a tick -/

variable {inner : SessionTick → Course W UpdateOutcome}

theorem orderly_procedure (nested : ∀ kind, (inner kind).Orderly sv) (p : Act W α) :
    (p.course sv inner).Orderly sv := by
  intro stack
  induction p with
  | finish result => exact Course.turns_done result
  | perform operation next ih => exact Course.turns_aside (fun _ => rfl) fun _ => ih _
  | look next ih => exact Course.turns_look fun _ => ih _
  | post callback next ih => exact Course.turns_aside (fun _ => rfl) fun _ => ih _
  | tick kind next ih => exact (nested kind stack).bind ih

theorem aside_settle (handled : Handled) (d : LiveSession W) :
    ∀ event ∈ d.settleEvents sv handled, event.aside = true := by
  unfold LiveSession.settleEvents
  cases handled.fault with
  | some fault =>
    simp only
    split <;> simp [Event.aside]
  | none =>
    simp only
    split <;> simp [Event.aside]

theorem orderly_judged (nested : ∀ kind, (inner kind).Orderly sv) (queue : Queue) (env : Envelope)
    (d : LiveSession W) : (queue.judgedCourse sv inner env d).Orderly sv := by
  intro stack
  unfold Queue.judgedCourse
  cases queue.verdict sv env d with
  | refused notice => exact Course.turns_each (List.forall_mem_map.mpr fun _ _ => rfl) stack
  | granted =>
    refine Course.turns_aside (fun _ => rfl) fun _ => ?_
    cases (sv.opcodes.get env.opcode).handler with
    | immediate _ => exact Course.turns_each (List.forall_mem_singleton.mpr rfl) stack
    | session handler =>
      refine Course.turns_aside (fun _ => rfl) fun _ => ?_
      refine (orderly_procedure nested (handler env) stack).bind fun handled => ?_
      refine Course.turns_aside (fun _ => rfl) fun _ => Course.turns_look fun d => ?_
      exact Course.turns_each (aside_settle handled d) stack

theorem orderly_drain (nested : ∀ kind, (inner kind).Orderly sv) (queue : Queue)
    (backlog : List Envelope) : (queue.drainCourse sv inner backlog).Orderly sv := by
  intro stack
  induction backlog with
  | nil => exact Course.turns_each (List.forall_mem_singleton.mpr rfl) stack
  | cons env rest ih =>
    refine Course.turns_aside (fun d => by split <;> rfl) fun d => ?_
    split
    · exact (orderly_judged nested queue env d stack).bind fun _ => ih
    · exact Course.turns_done ()

theorem turns_eachCourse (nested : ∀ kind, (inner kind).Orderly sv)
    (callbacks : List (Callback W)) :
    (Callback.eachCourse sv inner callbacks).Turns sv (callbacks :: stack) ([] :: stack) := by
  induction callbacks with
  | nil => exact Course.turns_done ()
  | cons callback rest ih =>
    refine Course.turns_step (fun _ _ booked => booked.run) fun _ => ?_
    exact (orderly_procedure nested callback.body _).bind fun _ => ih

theorem turns_deliver (nested : ∀ kind, (inner kind).Orderly sv) :
    (Callback.deliverCourse sv inner).Turns sv stack ([] :: stack) :=
  Course.turns_step (fun _ _ booked => booked.take) fun _ => turns_eachCourse nested _

theorem orderly_courseWith (nested : ∀ kind, (inner kind).Orderly sv) (tick : SessionTick) :
    (tick.courseWith sv inner).Orderly sv := by
  intro stack
  cases tick with
  | world now =>
    refine Course.turns_aside (fun _ => rfl) fun _ => (turns_deliver nested).bind fun _ => ?_
    -- The batch ends where the update takes its envelopes.
    refine Course.Turns.bind ?_ fun _ =>
      Course.turns_aside (fun _ => rfl) fun _ => Course.turns_done _
    exact Course.turns_step (fun _ _ booked => booked.backlog) fun _ => orderly_drain nested _ _ _
  | region now =>
    refine Course.turns_aside (fun _ => rfl) fun _ => Course.Turns.bind ?_ fun _ =>
      Course.turns_done _
    exact Course.turns_aside (fun _ => rfl) fun _ => orderly_drain nested _ _ _

theorem orderly_courseWithin (depth : Nat) (tick : SessionTick) :
    (tick.courseWithin sv depth).Orderly sv := by
  induction depth generalizing tick with
  | zero => exact fun _ => Course.turns_done _
  | succ depth ih => exact orderly_courseWith ih tick

theorem orderly_ofSteps (steps : List (SessionStep W)) : (Course.ofSteps sv steps).Orderly sv := by
  have inner := @orderly_courseWithin _ sv sv.nesting
  intro stack
  induction steps with
  | nil => exact Course.turns_done ()
  | cons first steps ih =>
    refine Course.Turns.bind ?_ fun _ => ih
    cases first with
    | act procedure => exact orderly_procedure inner procedure stack
    | tick kind => exact (orderly_courseWith inner kind stack).bind fun _ => Course.turns_done ()

/-! ## Runs -/

namespace LiveSession

/-- However a session runs amid producers, every callback that is accepted has its turn,
and no batch is left open. -/
theorem turns_of_amid {account : Account} {socket : SocketId} {birth : Instant}
    {outside : Outside W} {steps : List (SessionStep W)} {events : List (Event W)}
    {finished : Unit} {last : LiveSession W}
    (amid : (Course.ofSteps sv steps).Amid sv (create sv account socket birth outside) events
      finished last) :
    ∃ slips, Turns ((create sv account socket birth outside).marks sv events) slips ∧
      (∀ slip ∈ slips, ∀ taken, slip.turn ≠ .held taken) ∧
      Slip.callbacks .waiting slips = last.inbox.mailbox.pending :=
  (orderly_ofSteps steps [] [] _ events finished last booked_nil amid).turns

/-- A mailbox whose owner is gone stays as it is. -/
theorem mailbox_of_gone {d : LiveSession W}
    (gone : d.inbox.mailbox = { pending := [], live := false })
    (events : List (Event W)) :
    (d.replay sv events).inbox.mailbox = { pending := [], live := false } := by
  refine replay_induction (P := fun d => d.inbox.mailbox = { pending := [], live := false })
    (fun event d gone => ?_) events d gone
  by_cases takes : event = .takeCallbacks
  · rw [takes]
    simp only [Event.apply, Mailbox.drain, gone]
  · exact ((Event.fills takes d).gone (by rw [gone])).trans gone

theorem accepted_of_gone {d : LiveSession W}
    (gone : d.inbox.mailbox = { pending := [], live := false })
    (event : Event W) : (event.mark sv d).accepted = [] := by
  have after : (event.apply sv d).inbox.mailbox = { pending := [], live := false } :=
    mailbox_of_gone gone [event]
  have none :
      (event.apply sv d).inbox.mailbox.pending.drop d.inbox.mailbox.pending.length = [] := by
    rw [after, List.drop_nil]
  cases event with
  | takeCallbacks => rfl
  | deliver => rfl
  | takeBacklog queue =>
    cases queue with
    | generic => rfl
    | map => exact none
  | _ => exact none

theorem marks_of_gone {d : LiveSession W}
    (gone : d.inbox.mailbox = { pending := [], live := false })
    (events : List (Event W)) : ∀ mark ∈ d.marks sv events, mark.accepted = [] := by
  induction events generalizing d with
  | nil => exact List.forall_mem_nil _
  | cons event events ih =>
    exact List.forall_mem_cons.mpr ⟨accepted_of_gone gone event, ih (mailbox_of_gone gone [event])⟩

/-- Once the owner is gone every callback is refused, and none runs. -/
theorem silent_of_gone {d : LiveSession W}
    (gone : d.inbox.mailbox = { pending := [], live := false })
    {steps : List (SessionStep W)} {events : List (Event W)} {finished : Unit}
    {last : LiveSession W} (amid : (Course.ofSteps sv steps).Amid sv d events finished last) :
    (∀ past callback, past <+: events → ((d.replay sv past).post callback).1 = false) ∧
      ∀ callback, .deliver callback ∉ events := by
  refine ⟨fun past callback _ => ?_, fun callback delivered => ?_⟩
  · rw [accepted_post, mailbox_of_gone gone]
  · have booked : Booked [] d.inbox.mailbox.pending [] := by
      rw [gone]
      exact booked_nil
    obtain ⟨slips, turns, -⟩ :=
      (orderly_ofSteps steps [] [] d events finished last booked amid).turns
    have noSlips : slips = [] := by
      rw [← List.map_eq_nil_iff, turns.accepted]
      exact allAccepted_eq_nil (marks_of_gone gone events)
    obtain ⟨time, found⟩ := List.getElem?_of_mem (run_of_deliver delivered d)
    obtain ⟨slip, member, -⟩ := turns.runs time callback found
    rw [noSlips] at member
    exact List.not_mem_nil member

end LiveSession

/-! ## A mailbox by itself -/

namespace Rehearsal

def NumberedCallback.number : NumberedCallback → Nat
  | mk number _ => number

def NumberedCallback.others : NumberedCallback → List NumberedCallback
  | mk _ others => others

theorem foldl_runCallback (batch : List NumberedCallback) (d : MailboxRun) :
    batch.foldl MailboxRun.runCallback d =
      { d with
        target := d.target ++ batch.map NumberedCallback.number
        mailbox := d.mailbox.postAll (batch.flatMap NumberedCallback.others) } := by
  induction batch generalizing d with
  | nil => simp [Mailbox.postAll]
  | cons callback batch ih =>
    obtain ⟨number, others⟩ := callback
    rw [List.foldl_cons, ih]
    simp [MailboxRun.runCallback, NumberedCallback.number, NumberedCallback.others, Mailbox.postAll]

/-- What waits is run once and in order, and what it posts waits for the next time. -/
theorem step_execute {d : MailboxRun} (live : d.mailbox.live = true) :
    d.step .execute =
      (.nothing, { d with
        target := d.target ++ d.mailbox.pending.map NumberedCallback.number
        mailbox := {
          pending := d.mailbox.pending.flatMap NumberedCallback.others, live := true } }) := by
  obtain ⟨⟨pending, isLive⟩, target, held⟩ := d
  obtain rfl : isLive = true := live
  simp [MailboxRun.step, Mailbox.drain, foldl_runCallback, Mailbox.postAll_live]

/-- Once the owner is gone nothing is accepted or run. -/
theorem steps_of_gone {d : MailboxRun} (gone : d.mailbox.live = false) :
    (∀ callback, d.step (.post callback) = (.accepted false, d)) ∧
      d.step .execute = (.gone, d) := by
  refine ⟨fun callback => ?_, ?_⟩
  · simp [MailboxRun.step, Mailbox.post, gone]
  · simp [MailboxRun.step, gone]

end Rehearsal

end

/-! ## The whole -/

open Rehearsal in
/-- However a session runs and producers work on its inbox meanwhile, all callbacks have
their turns, whatever they do and post, themselves included; and however producers go
about it, a run comes to its end. What is left for a session that has been dropped is
refused, and nothing that waited there runs. The same goes for a mailbox by itself. -/
theorem callbacks_have_turns (sv : Services W) (account : Account) (socket : SocketId)
    (birth : Instant) (outside : Outside W) (steps : List (SessionStep W)) :
    let start := LiveSession.create sv account socket birth outside
    let course := Course.ofSteps sv steps
    (∀ events finished last, course.Amid sv start events finished last →
      (∃ slips, Turns (start.marks sv events) slips ∧
        (∀ slip ∈ slips, ∀ taken, slip.turn ≠ .held taken) ∧
        Slip.callbacks .waiting slips = last.inbox.mailbox.pending) ∧
      ∀ gone : LiveSession W, gone.toLiveInbox = last.drop sv → ∀ later events finished last,
        (Course.ofSteps sv later).Amid sv gone events finished last →
        (∀ past callback, past <+: events → ((gone.replay sv past).post callback).1 = false) ∧
          ∀ callback, .deliver callback ∉ events) ∧
    (∀ callback d, (Event.post callback).mark sv d =
      .posts (if (d.post callback).1 then [callback] else [])) ∧
    (∀ others,
      let run := course.woven sv others start
      course.Amid sv start run.1 run.2.1 run.2.2) ∧
    ∀ d : MailboxRun,
      (d.mailbox.live = true → d.step .execute = (.nothing, { d with
        target := d.target ++ d.mailbox.pending.map NumberedCallback.number
        mailbox := {
          pending := d.mailbox.pending.flatMap NumberedCallback.others, live := true } })) ∧
      (d.mailbox.live = false →
        (∀ callback, d.step (.post callback) = (.accepted false, d)) ∧
          d.step .execute = (.gone, d)) := by
  refine ⟨fun events finished last amid => ⟨LiveSession.turns_of_amid amid, ?_⟩, mark_post,
    fun others => Course.amid_woven _ others _, fun d => ⟨step_execute, steps_of_gone⟩⟩
  intro gone dropped later events finished last amid
  exact LiveSession.silent_of_gone (by rw [dropped]; rfl) amid

namespace Rehearsal

/-- A callback that sends a text, and then goes on. -/
def note (text : String) (next : Act Stage Unit) : Callback Stage :=
  .mk (.perform (.send (.notice text)) fun _ => next)

/-- A callback that sends its number and posts itself with the next one. -/
def encore : Callback Stage :=
  .member (fun count => .perform (.send (.notice (toString count))) fun _ =>
    .post (.inl (count + 1)) fun _ => .finish ()) 0

def title (callback : Callback Stage) : String :=
  match callback.body with
  | .perform (.send (.notice text)) _ => text
  | _ => ""

/-- What some events mean to the mailbox, in texts. -/
def titles (sv : Services Stage) (events : List (Event Stage)) (d : LiveSession Stage) :
    List (Mark String) :=
  ((d.marks sv events).map (·.name title)).filter (· ≠ .posts [])

end Rehearsal

open Rehearsal in
/-- A callback that posts itself runs once in each update. One that a producer leaves while
the first batch runs waits for the second. -/
theorem callbacks_have_turns_encore :
    let sv := coreServices {}
    let start := opening sv
    let run := (Course.ofSteps sv [.tick (.world 0), .tick (.world 10)]).woven sv
      [[.post encore], [], [], [.post (note "late" (.finish ()))]] start
    titles sv run.1 start =
        [.posts ["0"], .take, .run "0", .posts ["late"], .posts ["1"], .backlog,
          .take, .run "late", .run "1", .posts ["2"], .backlog] ∧
      ∃ slips, Turns (start.marks sv run.1) slips ∧
        Slip.callbacks .waiting slips = run.2.2.inbox.mailbox.pending := by
  intro sv start run
  have amid : (Course.ofSteps sv [.tick (.world 0), .tick (.world 10)]).Amid sv start run.1
      run.2.1 run.2.2 := Course.amid_woven _ _ start
  obtain ⟨slips, turns, -, waiting⟩ :=
    ((callbacks_have_turns sv _ _ _ _ _).1 run.1 run.2.1 run.2.2 amid).1
  exact ⟨by decide +kernel, slips, turns, waiting⟩

open Rehearsal in
/-- A callback that posts another one and then runs an update itself: the other one runs
ahead of one that was posted before it and is still held by the batch outside. -/
theorem overtaken_in_nested_update :
    let sv := coreServices {}
    let first := note "first"
      (.post (note "third" (.finish ())) fun _ => .tick (.world 10) fun _ => .finish ())
    let second := note "second" (.finish ())
    let start := opening sv
    titles sv (start.history sv [.act (.post first fun _ => .finish ()),
        .act (.post second fun _ => .finish ()), .tick (.world 10)]) start =
      [.posts ["first"], .posts ["second"], .take, .run "first", .posts ["third"],
        .take, .run "third", .backlog, .run "second", .backlog] := by
  decide +kernel

end GameRealm
