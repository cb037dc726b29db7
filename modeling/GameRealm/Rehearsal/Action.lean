import GameRealm.Rehearsal.Report

/-!
# Actions

What can be done in a rehearsal, as courses of action with a report. Some need a
session, some only its inbox, and some only change the stage. A script is a list
of cues that a handler follows; a callback follows a list of actions.
-/

namespace GameRealm.Rehearsal

inductive Action where
  /-- Changes the stage. -/
  | stage (change : Stage → Stage)
  /-- Works on an inbox. -/
  | inbox (run : InboxAct Stage Json)
  /-- Works on a session. -/
  | session (run : Act Stage Json)

instance : Inhabited Action := ⟨.stage id⟩

/-- An action and the name it goes by. -/
structure Named where
  name : String
  action : Action
  deriving Inhabited

namespace Action

/-- An action as a course of action on a session. -/
def toAct : Action → Act Stage Json
  | stage change => .perform (.outside change) fun _ => .finish .null
  | inbox run => run.lift
  | session run => run

def op (operation : Operation Stage) (report : operation.Answer → Json) : Action :=
  session (.perform operation fun answer => .finish (report answer))

/-- An operation without a report. -/
def quiet (operation : Operation Stage) : Action := op operation fun _ => .null

def query (report : View Stage → Json) : Action :=
  session (.look fun view => .finish (report view))

end Action

/-! ## Scripts and callbacks -/

/-- What is said about a result that is not `null`. -/
def spoken (speaker name : String) (result : Json) : List (Operation Stage) :=
  match result with
  | .null => []
  | result => [.remark speaker (name ++ " " ++ result.render)]

def performAll : List (Operation Stage) → Act Stage Unit → Act Stage Unit
  | [], rest => rest
  | operation :: operations, rest => .perform operation fun _ => performAll operations rest

/-- Runs an action and says its result. -/
def speak (speaker : String) (named : Named) (rest : Act Stage Unit) : Act Stage Unit :=
  named.action.toAct.bind fun result => performAll (spoken speaker named.name result) rest

def callback (actions : List Named) : Callback Stage :=
  .mk (actions.foldr (speak "posted") (.finish ()))

/-- One line of a script. -/
inductive Cue where
  | action (named : Named)
  /-- Reads from the envelope. -/
  | read (name : String) (take : Envelope → Except PayloadError Json × Envelope)
  /-- Finds that the envelope should have had another size. -/
  | wrongSize (expected : Nat)
  /-- Gives up. -/
  | fail (reason : String)

/-- Follows a script. A failed read ends it. -/
def follow : List Cue → Envelope → Act Stage Handled
  | [], env => .finish ⟨env, none⟩
  | .action named :: cues, env =>
    (speak "script" named (.finish ())).bind fun _ => follow cues env
  | .read name take :: cues, env =>
    match take env with
    | (.error fault, env) => .finish ⟨env, some fault⟩
    | (.ok result, env) =>
      (performAll (spoken "script" name result) (.finish ())).bind fun _ => follow cues env
  | .wrongSize expected :: cues, env =>
    .perform (.wrongSize env expected) fun _ => follow cues env
  | .fail reason :: _, env => .finish ⟨env, some (.malformed reason)⟩

/-! ## Handlers -/

/-- Sends a note that the handler ran, and reads nothing. -/
def record (env : Envelope) : Act Stage Handled :=
  .perform (.send (.notice ("ran " ++ toString env.opcode.val.toNat))) fun _ =>
    .finish ⟨env, none⟩

/-- Reads a word and does nothing with it. -/
def faulty (env : Envelope) : Act Stage Handled :=
  match env.readU32 with
  | (.error fault, env) => .finish ⟨env, some fault⟩
  | (.ok _, env) => .finish ⟨env, none⟩

/-- Follows the script whose number the envelope holds, if there is such a one. -/
def scripted (scripts : List (List Cue)) (env : Envelope) : Act Stage Handled :=
  match env.readU8 with
  | (.error fault, env) => .finish ⟨env, some fault⟩
  | (.ok index, env) => follow ((scripts[index.toNat]?).getD []) env

/-- Notes a latency on a later tick. -/
def latencyLater (ms : UInt32) : Callback Stage :=
  .mk (.perform (.setLatency ms) fun _ => .finish ())

/-- Reads a value, says it together with the lengths of the queues, and leaves it
as the latency. -/
def sayLatency (account : AccountId) (env : Envelope) : InboxAct Stage Handled :=
  match env.readU16 with
  | (.error fault, env) => .finish ⟨env, some fault⟩
  | (.ok value, env) =>
    .look fun generic map =>
      .remark "immediate" (account.display ++ " " ++ toString value.toNat ++ " generic="
        ++ toString generic ++ " map=" ++ toString map)
        (.post (latencyLater (UInt32.ofNat value.toNat)) fun _ => .finish ⟨env, none⟩)

end GameRealm.Rehearsal
