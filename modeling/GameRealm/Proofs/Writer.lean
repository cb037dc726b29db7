import GameRealm.Proofs.Chronicle

/-!
# What reaches the network

The writer takes one thing after the other off the channel of a bridge, stops at the close, and
may fail at any frame. Every message has a frame (`Message.encode`), so that there is none that it
has to pass over.

1. `Bridge.Intact` is what holds of a writer as long as no write has failed, `intact_run` says so
   for every run, and `Intact.written_of_turns` that everything is written in the end;
2. `run_of_failing` says what comes after a write that has failed;
3. `Bridge.messages_carried` puts the channel and the writer together, for every order of steps;
4. `Connection.bridge_run`: the bridge of a connection is always one that was new and has been
   through some steps.
-/

namespace GameRealm

namespace Bridge

/-- No write of a frame fails: where one would, the writer has nothing at hand. -/
def Unfailing (bridge : Bridge) (steps : List BridgeStep) : Prop :=
  ∀ before after, steps = before ++ .write false :: after → (bridge.run before).atHand? = none

section
variable {bridge : Bridge} {steps : List BridgeStep} {messages : List Message}

theorem Unfailing.left {first second : List BridgeStep}
    (unfailing : bridge.Unfailing (first ++ second)) : bridge.Unfailing first := by
  rintro before after rfl
  exact unfailing before (after ++ second) (by simp)

theorem Unfailing.right {first second : List BridgeStep}
    (unfailing : bridge.Unfailing (first ++ second)) : (bridge.run first).Unfailing second := by
  rintro before after rfl
  rw [← run_append]
  exact unfailing (first ++ before) after (by simp)

/-! ## The writer before a write has failed -/

/-- As long as no write has failed, the writer is at work, or it has written everything and come to
the close. -/
inductive Intact (messages : List Message) (bridge : Bridge) : Prop where
  | atWork (running : bridge.writer = .running)
  | finished (stopped : bridge.writer = .stopped) (closed : bridge.closed = true)
    (all : bridge.written = messages)

/-- What a step does to a writer of which no write has failed, if none fails in the step. -/
theorem Intact.step (intact : Intact messages bridge) (carries : Carries messages bridge)
    (step : BridgeStep) (whole : step = .write false → bridge.atHand? = none) :
    Intact (messages ++ bridge.brought step) (bridge.step step) := by
  have turn := bridge.turn_step step
  generalize bridge.step step = after at turn ⊢
  cases turn with
  | user =>
    cases intact with
    | atWork running => exact .atWork running
    | finished stopped closed all =>
      have nothing : bridge.brought step = [] := by simp [brought, closed]
      rw [nothing, List.append_nil]
      exact .finished stopped (by simp [closed]) all
  | writes atHand => exact .atWork (running_of_atHand? atHand).1
  | fails atHand =>
    rw [whole rfl] at atHand
    contradiction
  -- The writer ends at the close, which comes last on the channel.
  | ends running next =>
    have idle : bridge.atHand? = none := by simp [atHand?, running, next]
    rw [brought_write, List.append_nil]
    exact .finished rfl (carries.closed_of_next? next) (carries.written_of_idle running idle)
  | closes failing =>
    cases intact with
    | atWork other | finished other =>
      rw [failing] at other
      contradiction
  | waits | rests =>
    rw [brought_write, List.append_nil]
    exact intact

theorem Intact.written_write (intact : Intact messages bridge) (carries : Carries messages bridge)
    (arrives : Bool) (whole : arrives = false → bridge.atHand? = none) :
    bridge.written = messages ∨
      (bridge.write arrives).written.length = bridge.written.length + 1 := by
  cases intact with
  | finished _ _ all => exact .inl all
  | atWork running =>
    have turn := turn_write bridge arrives
    generalize bridge.write arrives = after at turn ⊢
    cases turn with
    | user other => contradiction
    | writes => exact .inr List.length_append
    | fails atHand =>
      rw [whole rfl] at atHand
      contradiction
    | ends _ next | waits _ next =>
      exact .inl (carries.written_of_idle running (by simp [atHand?, running, next]))
    | closes other | rests other =>
      rw [running] at other
      contradiction

theorem written_step (bridge : Bridge) (step : BridgeStep) :
    bridge.written <+: (bridge.step step).written := by
  have turn := bridge.turn_step step
  generalize bridge.step step = after at turn ⊢
  cases turn with
  | writes => exact List.prefix_append ..
  | _ => exact List.prefix_rfl

theorem written_run (bridge : Bridge) (steps : List BridgeStep) :
    bridge.written <+: (bridge.run steps).written := by
  induction steps generalizing bridge with
  | nil => exact List.prefix_rfl
  | cons step steps ih => exact (bridge.written_step step).trans (ih (bridge.step step))

/-- A writer that has as many turns as there are messages left to write writes them, whatever else
is sent and done in the meantime. -/
theorem Intact.written_of_turns {wanted : List Message} (intact : Intact messages bridge)
    (carries : Carries messages bridge) (among : wanted <+: messages)
    (unfailing : bridge.Unfailing steps)
    (turns : wanted.length ≤ bridge.written.length + steps.countP BridgeStep.byWriter) :
    wanted <+: (bridge.run steps).written := by
  -- More may be sent on the way, so the messages grow with the steps while the wanted ones stay.
  induction steps generalizing bridge messages with
  | nil => exact List.prefix_of_prefix_length_le among carries.order turns
  | cons step steps ih =>
    have whole : step = .write false → bridge.atHand? = none := by
      rintro rfl
      exact unfailing [] steps rfl
    have split : bridge.Unfailing ([step] ++ steps) := unfailing
    have onward : wanted.length ≤
        (bridge.step step).written.length + steps.countP BridgeStep.byWriter →
        wanted <+: ((bridge.step step).run steps).written :=
      ih (intact.step carries step whole) (carries.step step)
        (among.trans (List.prefix_append ..)) split.right
    cases step with
    | write arrives =>
      rw [List.countP_cons_of_pos rfl] at turns
      have lost : arrives = false → bridge.atHand? = none := fun lost => whole (congrArg _ lost)
      rcases intact.written_write carries arrives lost with all | next
      · exact (all ▸ among).trans (bridge.written_run (.write arrives :: steps))
      · refine onward ?_
        change _ ≤ (bridge.write arrives).written.length + _
        omega
    | _ =>
      rw [List.countP_cons_of_neg (by simp [BridgeStep.byWriter])] at turns
      exact onward (Nat.le_trans turns (Nat.add_le_add_right (written_step ..).length_le _))

/-! ## The writer after a write has failed -/

theorem run_of_stopped (stopped : bridge.writer = .stopped) (steps : List BridgeStep) :
    (bridge.run steps).written = bridge.written := by
  induction steps generalizing bridge with
  | nil => rfl
  | cons step steps ih =>
    have same : (bridge.step step).writer = .stopped ∧
        (bridge.step step).written = bridge.written := by
      have turn := bridge.turn_step step
      generalize bridge.step step = after at turn ⊢
      cases turn with
      | user | ends | closes | rests => exact ⟨by simp [stopped], rfl⟩
      | waits => exact ⟨stopped, rfl⟩
      | writes atHand | fails atHand =>
        rw [(running_of_atHand? atHand).1] at stopped
        contradiction
    exact (ih same.1).trans same.2

/-- After a write that has failed nothing more is written, and the writer closes the bridge as soon
as it has its next turn, if nobody has closed it before. -/
theorem run_of_failing (failing : bridge.writer = .failing) (steps : List BridgeStep) :
    (bridge.run steps).written = bridge.written ∧
      ((∃ step ∈ steps, step.byWriter = true) → (bridge.run steps).closed = true) := by
  induction steps generalizing bridge with
  | nil => exact ⟨rfl, by simp⟩
  | cons step steps ih =>
    change ((bridge.step step).run steps).written = _ ∧
      (_ → ((bridge.step step).run steps).closed = true)
    have turn := bridge.turn_step step
    generalize bridge.step step = after at turn ⊢
    cases turn with
    | user other =>
      refine ⟨(ih ?_).1, fun turn => (ih ?_).2 ?_⟩
      · exact failing
      · exact failing
      · simpa [other] using turn
    | closes => exact ⟨run_of_stopped rfl steps, fun _ => (run_of_closed rfl steps).1⟩
    | writes atHand | fails atHand =>
      rw [(running_of_atHand? atHand).1] at failing
      contradiction
    | ends other | waits other | rests other =>
      rw [failing] at other
      contradiction

/-! ## Every run of a bridge -/

theorem intact_run (connection : ConnectionId) (peer : String) (key : SessionKey) (capacity : Nat)
    (unfailing : (fresh connection peer key capacity).Unfailing steps) :
    Intact ((fresh connection peer key capacity).sent steps)
      ((fresh connection peer key capacity).run steps) := by
  induction steps using List.reverseRecOn with
  | nil => exact .atWork rfl
  | append_singleton steps step ih =>
    rw [sent_concat rfl, run_concat]
    refine (ih unfailing.left).step (carries_run ..) step ?_
    rintro rfl
    exact unfailing steps [] rfl

theorem unfailing_of_not_mem (never : .write false ∉ steps) : bridge.Unfailing steps := by
  rintro before after rfl
  exact absurd (by simp) never

end

/-- Take a bridge that nobody has used yet, whoever sends, closes and finalizes it in whatever
order, and a writer that has its turns in between and may fail at any frame. Then:

* the bridge is closed exactly if something has closed it: a close, the session's letting go, or
  the writer after a write that has failed;
* on the channel are the messages that were sent before that, in order, behind them one close if
  the bridge is closed, and nothing else;
* what is written is a part of these messages from the first on, in order and each once;
* if no write fails, it is all of them when the writer has stopped or waits for more; and the
  writer gets there, since it needs no more turns than there are messages left;
* if a write fails, what comes in front of that message is all that is ever written, and the bridge
  is closed from the writer's next turn on at the latest;
* a closed bridge stays closed, its channel is as it was, and it drops what is sent. -/
theorem messages_carried (connection : ConnectionId) (peer : String) (key : SessionKey)
    (capacity : Nat) (steps : List BridgeStep) :
    let opened := fresh connection peer key capacity
    let bridge := opened.run steps
    let sent := opened.sent steps
    (bridge.closed = true ↔ ∃ before step after,
      steps = before ++ step :: after ∧ (opened.run before).shutBy step = true) ∧
    bridge.channel = sent.map .message ++ (if bridge.closed then [.close] else []) ∧
    bridge.written <+: sent ∧
    (opened.Unfailing steps → bridge.writer = .stopped ∨ bridge.next? = none →
      bridge.written = sent) ∧
    (∀ later, opened.Unfailing (steps ++ later) →
      sent.length ≤ bridge.written.length + later.countP BridgeStep.byWriter →
      sent <+: (bridge.run later).written) ∧
    (∀ before after message, steps = before ++ .write false :: after →
      (opened.run before).atHand? = some message →
      bridge.written = (opened.run before).written ∧ bridge.written ++ [message] <+: sent ∧
        ((∃ step ∈ after, step.byWriter = true) → bridge.closed = true)) ∧
    (bridge.closed = true → ∀ later, (bridge.run later).closed = true ∧
      (bridge.run later).channel = bridge.channel ∧
      ∀ message, (bridge.run later).send message = bridge.run later) := by
  intro opened bridge sent
  have carries : Carries sent bridge := carries_run ..
  refine ⟨closed_iff rfl steps, carries.channel, carries.order, ?complete, ?progress, ?failure,
    ?closed⟩
  case complete =>
    intro unfailing rests
    have intact : Intact sent bridge := intact_run _ _ _ _ unfailing
    -- A writer that is still at work has written everything if nothing is at hand.
    cases intact with
    | finished _ _ all => exact all
    | atWork running =>
      rcases rests with stopped | empty
      · rw [running] at stopped
        contradiction
      · exact carries.written_of_idle running (by simp [atHand?, running, empty])
  case progress =>
    intro later unfailing turns
    have intact : Intact sent bridge := intact_run _ _ _ _ unfailing.left
    exact intact.written_of_turns carries List.prefix_rfl unfailing.right turns
  case failure =>
    rintro before after message rfl atHand
    obtain ⟨running, next⟩ := running_of_atHand? atHand
    have carried : Carries (opened.sent before) (opened.run before) := carries_run ..
    obtain ⟨-, follows⟩ := carried.prefix_of_atHand? atHand
    -- The turn that fails writes nothing, and nothing is written after it.
    have failed : ((opened.run before).step (.write false)).writer = .failing ∧
        ((opened.run before).step (.write false)).written = (opened.run before).written := by
      simp [Bridge.step, write, running, next]
    obtain ⟨still, shut⟩ := run_of_failing failed.1 after
    have split : bridge = ((opened.run before).step (.write false)).run after :=
      run_append opened before _
    have written : bridge.written = (opened.run before).written := by
      rw [split, still, failed.2]
    refine ⟨written, ?_, by rw [split]; exact shut⟩
    rw [written, follows]
    exact (List.take_prefix ..).trans (sent_mono rfl before _)
  case closed =>
    intro closed later
    obtain ⟨stays, channel⟩ := run_of_closed closed later
    exact ⟨stays, channel, fun message => if_pos stays⟩

/-- Two messages, a close and a message that comes too late: the writer gets the two written in one
more turn. And three messages, of which the second is lost: the first is all that is written, and
the writer has closed the bridge before the fourth is sent. -/
theorem messages_carried_cut_short :
    let opened := fresh ⟨1⟩ "127.0.0.1:4000" ⟨[0xAB]⟩ 4
    let message := fun counter : UInt32 => Message.timeSyncRequest counter
    let whole : List BridgeStep :=
      [.send (message 0), .write true, .send (message 1), .close, .send (message 2), .finalize]
    let before : List BridgeStep := [.send (message 0), .send (message 1), .write true]
    let after : List BridgeStep := [.send (message 2), .write true, .send (message 3), .close]
    let lost := opened.run (before ++ .write false :: after)
    opened.sent whole = [message 0, message 1] ∧
      (opened.run whole).channel = [.message (message 0), .message (message 1), .close] ∧
      [message 0, message 1] <+: (opened.run (whole ++ [.write true])).written ∧
      (opened.run before).atHand? = some (message 1) ∧ lost.closed = true ∧
      lost.written = [message 0] ∧
      lost.channel =
        [.message (message 0), .message (message 1), .message (message 2), .close] := by
  intro opened message whole before after lost
  obtain ⟨-, channel, -, -, progress, -, -⟩ :=
    messages_carried ⟨1⟩ "127.0.0.1:4000" ⟨[0xAB]⟩ 4 whole
  obtain ⟨-, channel', -, -, -, failure, -⟩ :=
    messages_carried ⟨1⟩ "127.0.0.1:4000" ⟨[0xAB]⟩ 4 (before ++ .write false :: after)
  have unfailing : opened.Unfailing (whole ++ [.write true]) :=
    unfailing_of_not_mem (by simp [whole])
  have atHand : (opened.run before).atHand? = some (message 1) := by decide
  obtain ⟨written, -, closed⟩ := failure before after (message 1) rfl atHand
  have shut : lost.closed = true := closed ⟨.write true, by simp [after], rfl⟩
  refine ⟨by decide, channel.trans (by decide), ?_, atHand, shut, written.trans (by decide),
    channel'.trans (by decide)⟩
  rw [run_append]
  exact progress [.write true] unfailing (by decide)

end Bridge

/-! ## The bridges of connections -/

namespace Connection

/-- The bridge of a connection, as long as it has one, is a new one after some steps. -/
def Bridged (conn : Connection) : Prop :=
  ∀ bridge, conn.bridge = some bridge → ∃ connection peer key capacity steps,
    bridge = (Bridge.fresh connection peer key capacity).run steps

section
variable {door : Doorway} {conn conn' : Connection}

theorem Bridged.of_map (bridged : conn.Bridged) (step : BridgeStep)
    (same : conn'.bridge = conn.bridge.map (·.step step)) : conn'.Bridged := by
  intro after has
  obtain ⟨before, had, rfl⟩ := Option.map_eq_some_iff.mp (same.symm.trans has)
  obtain ⟨connection, peer, key, capacity, steps, rfl⟩ := bridged before had
  exact ⟨connection, peer, key, capacity, steps ++ [step], (Bridge.run_concat ..).symm⟩

theorem Bridged.windDown (bridged : conn.Bridged) (outcome : Except RealmError Unit) :
    (conn.windDown outcome).Bridged :=
  bridged.of_map .close rfl

theorem Bridged.greet (bridged : conn.Bridged) (data : Bytes) : (conn.greet door data).Bridged := by
  unfold Connection.greet
  split
  · exact bridged
  · exact bridged
  · next account _ _ =>
    rintro bridge ⟨⟩
    exact ⟨conn.id, conn.peer, account.key, door.historyCapacity, [], rfl⟩

theorem Bridged.feed (bridged : conn.Bridged) (data : Bytes) : (conn.feed data).Bridged := by
  unfold Connection.feed
  cases Envelope.decode? data with
  | none => exact bridged
  | some env =>
    have noted : (({ conn with bridge := conn.bridge.map (Bridge.record env.opcode) } :
        Connection).perform (.record env.opcode)).Bridged :=
      bridged.of_map (.record env.opcode) rfl
    simp only
    split
    · exact noted
    · exact noted.windDown _

theorem Bridged.take (bridged : conn.Bridged) (arrival : Arrival) :
    (conn.take door arrival).Bridged := by
  unfold Connection.take
  split
  · exact bridged
  · exact bridged
  · next frame _ =>
    cases frame.data? with
    | none => exact bridged
    | some data => exact bridged.greet data
  · next frame _ =>
    cases frame.data? with
    | none => exact bridged
    | some data => exact bridged.feed data
  · exact bridged.windDown _
  · exact bridged

theorem Bridged.step (bridged : conn.Bridged) (event : ConnectionEvent) :
    (conn.step door event).Bridged := by
  cases event with
  | reads =>
    change (conn.read door).Bridged
    rcases read_cases door conn with ⟨-, -, same⟩ | ⟨arrival, rest, -, -, -, read⟩
    · rw [same]
      exact bridged
    · have waits : ({ conn with incoming := rest } : Connection).Bridged := bridged
      rw [read]
      exact waits.take arrival
  | bridge step => exact bridged.of_map step rfl
  | timesOut =>
    simp only [Connection.step]
    split <;> exact bridged
  | answered answer =>
    simp only [Connection.step, hear]
    split <;> first | exact bridged | exact bridged.windDown _
  | noticesClose =>
    simp only [Connection.step]
    split
    · split
      · exact bridged.windDown _
      · exact bridged
    · exact bridged
  | noticesStop =>
    simp only [Connection.step]
    split
    · split <;> exact bridged
    · exact bridged
  | _ => exact bridged

/-- Whatever happens to a connection, its bridge is a new one after some steps of its users and its
writer, so that everything about runs of a bridge holds of it. -/
theorem bridge_run (door : Doorway) (id : ConnectionId) (peer : String)
    (events : List ConnectionEvent) :
    (({ id, peer } : Connection).run door events).Bridged := by
  have start : ({ id, peer } : Connection).Bridged := fun _ none => nomatch none
  generalize ({ id, peer } : Connection) = conn at start
  induction events generalizing conn with
  | nil => exact start
  | cons event events ih => exact ih _ (start.step event)

end

end Connection

end GameRealm
