import GameRealm.Transport.Bridge
import Mathlib.Data.List.Induction

/-!
# What the channel of a bridge carries

A session, the reader of its connection and whoever finalizes it all close the same bridge, while
others still send and the writer works through the channel in its own time.

1. `Bridge.Turn` says what one step can do, and `turn_step` that every step is one of these;
2. `Bridge.sent` are the messages that are sent before the first step that closes the bridge;
   `sent_concat` says what one more step adds to them, and `closed_iff` that a bridge is closed by
   such a step and by nothing else;
3. `Bridge.Carries` is how a bridge stands to these messages: `Carries.step` for one step, and
   `carries_run` for every run of a bridge that nobody has used yet.
-/

namespace GameRealm

/-! ## The steps of a run -/

namespace BridgeStep

def message? : BridgeStep → Option Message
  | send message => some message
  | _ => none

def byWriter : BridgeStep → Bool
  | write _ => true
  | _ => false

end BridgeStep

namespace Bridge

/-- A bridge that nobody has used yet. -/
def fresh (connection : ConnectionId) (peer : String) (key : SessionKey) (capacity : Nat) :
    Bridge :=
  { connection, peer, key, history := { capacity } }

/-- The message that the writer writes if it has its turn. -/
def atHand? (bridge : Bridge) : Option Message :=
  match bridge.writer, bridge.next? with
  | .running, some (.message message) => some message
  | _, _ => none

/-- Whether a step closes the bridge: its users close and finalize it, and the writer closes it
after a write that has failed. -/
def shutBy (bridge : Bridge) : BridgeStep → Bool
  | .close | .finalize => true
  | .write _ => decide (bridge.writer = .failing)
  | _ => false

/-- The steps in front of the first one that closes the bridge. -/
def openSteps (bridge : Bridge) : List BridgeStep → List BridgeStep
  | [] => []
  | step :: steps =>
    if bridge.shutBy step then [] else step :: (bridge.step step).openSteps steps

/-- The messages that are sent before the bridge is closed for the first time. -/
def sent (bridge : Bridge) (steps : List BridgeStep) : List Message :=
  (bridge.openSteps steps).filterMap BridgeStep.message?

section
variable {bridge : Bridge} {messages : List Message} {message : Message}

theorem run_append (bridge : Bridge) (first second : List BridgeStep) :
    bridge.run (first ++ second) = (bridge.run first).run second :=
  List.foldl_append

theorem run_concat (bridge : Bridge) (steps : List BridgeStep) (step : BridgeStep) :
    bridge.run (steps ++ [step]) = (bridge.run steps).step step :=
  bridge.run_append steps [step]

/-! ## What one step does -/

/-- What a step puts on the channel. -/
def added (bridge : Bridge) (step : BridgeStep) : List Outbound :=
  if bridge.closed then [] else if bridge.shutBy step then [.close]
  else step.message?.toList.map .message

/-- What becomes of a bridge in one step. Its users do nothing to it but close it and put something
on the channel; the rest is what the writer does if it has its turn. -/
inductive Turn (bridge : Bridge) : BridgeStep → Bridge → Prop where
  | user {step : BridgeStep} (other : step.byWriter = false) (finalized : Bool)
    (history : OpcodeHistory) :
    Turn bridge step
      { bridge with
        finalized, history, closed := bridge.closed || bridge.shutBy step,
        channel := bridge.channel ++ bridge.added step }
  | writes {message : Message} (atHand : bridge.atHand? = some message) :
    Turn bridge (.write true)
      { bridge with taken := bridge.taken + 1, written := bridge.written ++ [message] }
  | fails {message : Message} (atHand : bridge.atHand? = some message) :
    Turn bridge (.write false) { bridge with taken := bridge.taken + 1, writer := .failing }
  | ends {arrives : Bool} (running : bridge.writer = .running)
    (next : bridge.next? = some .close) :
    Turn bridge (.write arrives) { bridge with taken := bridge.taken + 1, writer := .stopped }
  | waits {arrives : Bool} (running : bridge.writer = .running) (next : bridge.next? = none) :
    Turn bridge (.write arrives) bridge
  | closes {arrives : Bool} (failing : bridge.writer = .failing) :
    Turn bridge (.write arrives)
      { bridge with
        closed := true, channel := bridge.channel ++ (if bridge.closed then [] else [.close]),
        writer := .stopped }
  | rests {arrives : Bool} (stopped : bridge.writer = .stopped) :
    Turn bridge (.write arrives) bridge

theorem close_eq (bridge : Bridge) : bridge.close =
    { bridge with
      closed := true, channel := bridge.channel ++ if bridge.closed then [] else [.close] } := by
  obtain ⟨_, _, _, _, closed, _, _, _, _, _⟩ := bridge
  cases closed <;> simp [close]

theorem turn_write (bridge : Bridge) (arrives : Bool) :
    bridge.Turn (.write arrives) (bridge.write arrives) := by
  unfold write
  split
  · next message running next =>
    have atHand : bridge.atHand? = some message := by simp [atHand?, running, next]
    cases arrives with
    | true => exact .writes atHand
    | false => exact .fails atHand
  · next running next => exact .ends running next
  · next running next => exact .waits running next
  · next failing =>
    rw [close_eq]
    exact .closes failing
  · next stopped => exact .rests stopped

theorem step_of_user {step : BridgeStep} (user : step.byWriter = false) (bridge : Bridge) :
    ∃ finalized history, bridge.step step =
      { bridge with
        finalized, history, closed := bridge.closed || bridge.shutBy step,
        channel := bridge.channel ++ bridge.added step } := by
  cases step with
  | send message =>
    refine ⟨bridge.finalized, bridge.history, ?_⟩
    obtain ⟨_, _, _, _, closed, _, _, _, _, _⟩ := bridge
    cases closed <;> simp [Bridge.step, send, added, shutBy, BridgeStep.message?]
  | close =>
    refine ⟨bridge.finalized, bridge.history, (close_eq bridge).trans ?_⟩
    simp [added, shutBy]
  | finalize =>
    refine ⟨true, bridge.history, (close_eq { bridge with finalized := true }).trans ?_⟩
    simp [added, shutBy]
  | record opcode =>
    refine ⟨bridge.finalized, bridge.history.record opcode, ?_⟩
    simp [Bridge.step, record, added, shutBy, BridgeStep.message?]
  | write arrives => contradiction

/-- Every step is one of these, whoever does it. -/
theorem turn_step (bridge : Bridge) (step : BridgeStep) : bridge.Turn step (bridge.step step) := by
  cases user : step.byWriter with
  | false =>
    obtain ⟨finalized, history, same⟩ := step_of_user user bridge
    rw [same]
    exact .user user finalized history
  | true =>
    cases step with
    | write arrives => exact turn_write bridge arrives
    | _ => contradiction

theorem running_of_atHand? (atHand : bridge.atHand? = some message) :
    bridge.writer = .running ∧ bridge.next? = some (.message message) := by
  unfold atHand? at atHand
  split at atHand
  · next next running here =>
    cases atHand
    exact ⟨running, here⟩
  · contradiction

/-- What a step puts on the channel, and whether it closes the bridge. -/
theorem channel_step (bridge : Bridge) (step : BridgeStep) :
    (bridge.step step).channel = bridge.channel ++ bridge.added step ∧
      (bridge.step step).closed = (bridge.closed || bridge.shutBy step) := by
  have turn := bridge.turn_step step
  generalize bridge.step step = after at turn ⊢
  cases turn with
  | user => exact ⟨rfl, rfl⟩
  | writes atHand | fails atHand =>
    simp [added, shutBy, BridgeStep.message?, running_of_atHand? atHand]
  | ends running | waits running => simp [added, shutBy, BridgeStep.message?, running]
  | closes failing => simp [added, shutBy, failing]
  | rests stopped => simp [added, shutBy, BridgeStep.message?, stopped]

/-- A bridge stays closed, and nothing is put on its channel any more. -/
theorem run_of_closed (closed : bridge.closed = true) (steps : List BridgeStep) :
    (bridge.run steps).closed = true ∧ (bridge.run steps).channel = bridge.channel := by
  induction steps generalizing bridge with
  | nil => exact ⟨closed, rfl⟩
  | cons step steps ih =>
    obtain ⟨channel, still⟩ := bridge.channel_step step
    rw [closed, Bool.true_or] at still
    obtain ⟨closed', channel'⟩ := ih still
    refine ⟨closed', channel'.trans (channel.trans ?_)⟩
    simp [added, closed]

/-! ## What is sent while the bridge is open -/

/-- The message that a step brings; a closed bridge drops it. -/
def brought (bridge : Bridge) (step : BridgeStep) : List Message :=
  if bridge.closed then [] else step.message?.toList

theorem message?_of_shutBy {step : BridgeStep} (shut : bridge.shutBy step = true) :
    step.message? = none := by
  cases step <;> simp_all [shutBy, BridgeStep.message?]

theorem brought_write (bridge : Bridge) (arrives : Bool) :
    bridge.brought (.write arrives) = [] := by
  simp [brought, BridgeStep.message?]

/-- A step comes to stand in front of the first that closes the bridge if the bridge is open after
it. -/
theorem openSteps_concat (opened : bridge.closed = false) (steps : List BridgeStep)
    (step : BridgeStep) : bridge.openSteps (steps ++ [step]) =
      bridge.openSteps steps ++ if (bridge.run (steps ++ [step])).closed then [] else [step] := by
  induction steps generalizing bridge with
  | nil =>
    have still := (bridge.channel_step step).2
    rw [opened, Bool.false_or] at still
    simp [openSteps, run, still]
  | cons first steps ih =>
    have still := (bridge.channel_step first).2
    rw [opened, Bool.false_or] at still
    change bridge.openSteps (first :: (steps ++ [step])) = bridge.openSteps (first :: steps) ++
      if ((bridge.step first).run (steps ++ [step])).closed then [] else [step]
    cases shut : bridge.shutBy first with
    | true =>
      have closed := (run_of_closed (still.trans shut) (steps ++ [step])).1
      simp [openSteps, shut, closed]
    | false => simp [openSteps, shut, ih (still.trans shut)]

theorem sent_concat (opened : bridge.closed = false) (steps : List BridgeStep)
    (step : BridgeStep) :
    bridge.sent (steps ++ [step]) = bridge.sent steps ++ (bridge.run steps).brought step := by
  rw [sent, openSteps_concat opened, run_concat, ((bridge.run steps).channel_step step).2,
    List.filterMap_append]
  refine congrArg (bridge.sent steps ++ ·) ?_
  unfold brought
  cases (bridge.run steps).closed with
  | true => rfl
  | false =>
    cases shut : (bridge.run steps).shutBy step with
    | true => simp [message?_of_shutBy shut]
    | false => cases said : step.message? <;> simp [said]

/-! ## How a bridge stands to what was sent -/

/-- How a bridge stands to the messages that were sent while it was open. -/
structure Carries (messages : List Message) (bridge : Bridge) : Prop where
  /-- They are on the channel, and behind them the close. -/
  channel : bridge.channel = messages.map .message ++ if bridge.closed then [.close] else []
  /-- A writer at work has written whatever it has taken. -/
  written : bridge.writer = .running →
    bridge.taken ≤ messages.length ∧ bridge.written = messages.take bridge.taken
  /-- Whatever has become of the writer, what is written is the beginning of them. -/
  order : bridge.written <+: messages

namespace Carries

theorem atHand? (carries : Carries messages bridge) (running : bridge.writer = .running) :
    bridge.atHand? = messages[bridge.taken]? := by
  rw [Bridge.atHand?, next?, carries.channel, running]
  by_cases behind : bridge.taken < messages.length
  · rw [List.getElem?_append_left (by simpa using behind)]
    simp [behind]
  · -- Behind the messages there is at most the close.
    rw [List.getElem?_append_right (by simpa using behind),
      List.getElem?_eq_none (Nat.le_of_not_lt behind)]
    split
    · next found =>
      have member := List.mem_of_getElem? found
      split at member <;> simp at member
    · rfl

theorem written_of_idle (carries : Carries messages bridge) (running : bridge.writer = .running)
    (idle : bridge.atHand? = none) : bridge.written = messages := by
  rw [carries.atHand? running, List.getElem?_eq_none_iff] at idle
  rw [(carries.written running).2, List.take_of_length_le idle]

theorem prefix_of_atHand? (carries : Carries messages bridge)
    (atHand : bridge.atHand? = some message) :
    bridge.taken < messages.length ∧
      bridge.written ++ [message] = messages.take (bridge.taken + 1) := by
  obtain ⟨running, -⟩ := running_of_atHand? atHand
  rw [carries.atHand? running] at atHand
  obtain ⟨behind, -⟩ := List.getElem?_eq_some_iff.mp atHand
  refine ⟨behind, ?_⟩
  rw [List.take_add_one, atHand, (carries.written running).2]
  rfl

theorem closed_of_next? (carries : Carries messages bridge) (next : bridge.next? = some .close) :
    bridge.closed = true := by
  have member : .close ∈ bridge.channel := List.mem_of_getElem? next
  rw [carries.channel] at member
  cases closed : bridge.closed with
  | true => rfl
  | false => simp [closed] at member

/-- One step, whoever does it. -/
theorem step (carries : Carries messages bridge) (step : BridgeStep) :
    Carries (messages ++ bridge.brought step) (bridge.step step) := by
  obtain ⟨channel, closed⟩ := bridge.channel_step step
  have channel' : (bridge.step step).channel = (messages ++ bridge.brought step).map .message ++
      if (bridge.step step).closed then [.close] else [] := by
    rw [channel, closed, carries.channel]
    unfold added brought
    cases bridge.closed with
    | true => simp
    | false =>
      cases shut : bridge.shutBy step with
      | true => simp [message?_of_shutBy shut]
      | false => simp
  have turn := bridge.turn_step step
  generalize bridge.step step = after at turn channel' ⊢
  cases turn with
  | user =>
    -- The writer stands where it stood, and there may be more to write.
    refine ⟨channel', fun running => ?_, carries.order.trans (List.prefix_append ..)⟩
    obtain ⟨behind, written⟩ := carries.written running
    rw [List.length_append, List.take_append_of_le_length behind]
    exact ⟨Nat.le_add_right_of_le behind, written⟩
  | writes atHand =>
    obtain ⟨behind, written⟩ := carries.prefix_of_atHand? atHand
    rw [brought_write, List.append_nil] at channel' ⊢
    exact ⟨channel', fun _ => ⟨behind, written⟩, written ▸ List.take_prefix ..⟩
  | fails | ends | closes =>
    rw [brought_write, List.append_nil] at channel' ⊢
    exact ⟨channel', nofun, carries.order⟩
  | waits | rests =>
    rw [brought_write, List.append_nil]
    exact carries

end Carries

/-- A bridge that nobody has used yet carries in every run what is sent while it is open. -/
theorem carries_run (connection : ConnectionId) (peer : String) (key : SessionKey)
    (capacity : Nat) (steps : List BridgeStep) :
    Carries ((fresh connection peer key capacity).sent steps)
      ((fresh connection peer key capacity).run steps) := by
  -- The induction goes from the end: a step adds to what the steps before it carry.
  induction steps using List.reverseRecOn with
  | nil => exact ⟨rfl, fun _ => ⟨Nat.le_refl _, rfl⟩, List.nil_prefix⟩
  | append_singleton steps step ih =>
    rw [sent_concat rfl, run_concat]
    exact ih.step step

/-- What was sent is not taken back. -/
theorem sent_mono (opened : bridge.closed = false) (steps later : List BridgeStep) :
    bridge.sent steps <+: bridge.sent (steps ++ later) := by
  induction later using List.reverseRecOn with
  | nil => simp
  | append_singleton later step ih =>
    rw [← List.append_assoc, sent_concat opened]
    exact ih.trans (List.prefix_append ..)

theorem closed_iff (opened : bridge.closed = false) (steps : List BridgeStep) :
    (bridge.run steps).closed = true ↔ ∃ before step after,
      steps = before ++ step :: after ∧ (bridge.run before).shutBy step = true := by
  constructor
  · intro closed
    induction steps using List.reverseRecOn with
    | nil => exact absurd closed (by simp [run, opened])
    | append_singleton steps step ih =>
      rw [run_concat, ((bridge.run steps).channel_step step).2, Bool.or_eq_true] at closed
      rcases closed with already | shut
      · obtain ⟨before, first, after, rfl, shut⟩ := ih already
        exact ⟨before, first, after ++ [step], by simp, shut⟩
      · exact ⟨steps, step, [], rfl, shut⟩
  · rintro ⟨before, step, after, rfl, shut⟩
    have closed : ((bridge.run before).step step).closed = true := by
      rw [((bridge.run before).channel_step step).2, shut, Bool.or_true]
    rw [run_append]
    exact (run_of_closed closed after).1

end

end Bridge

end GameRealm
