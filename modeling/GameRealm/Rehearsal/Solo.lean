import GameRealm.Rehearsal.Repertoire

/-!
# A rehearsal with one session

Actions are done one after the other. What each of them brings about is reported
on its own. Once the session is dropped, only its inbox is left to work on.
-/

namespace GameRealm.Rehearsal

/-- One step: an action, or the end of the session. -/
inductive Step where
  | action (action : Action)
  | drop

/-- A session on stage, or what remains of it. -/
inductive Solo where
  | playing (d : LiveSession Stage)
  | gone (inbox : LiveInbox Stage)

/-- What one step brought about. -/
structure Outcome where
  result : Json
  effects : List Effect
  /-- The state of the session, if there still is one. -/
  state : Option Json

namespace Solo

def outside : Solo → Outside Stage
  | playing d => d.outside
  | gone inbox => inbox.outside

/-- The surroundings with another state. -/
def changeStage (change : Stage → Stage) (outside : Outside Stage) : Outside Stage :=
  { outside with world := change outside.world }

/-- The surroundings with nothing noted. -/
def forgetEffects (outside : Outside Stage) : Outside Stage := { outside with effects := [] }

/-- The rehearsal with nothing noted. -/
def clear : Solo → Solo
  | playing d => .playing { d with outside := forgetEffects d.outside }
  | gone inbox => .gone { inbox with outside := forgetEffects inbox.outside }

/-- Does an action without a session. -/
def actAlone (sv : Services Stage) (inbox : LiveInbox Stage) :
    Action → Json × LiveInbox Stage
  | .stage change => (.null, { inbox with outside := changeStage change inbox.outside })
  | .inbox run => LiveInbox.run sv (LiveInbox.enqueue sv) run inbox
  | .session _ => (.str "gone", inbox)

def step (sv : Services Stage) : Step → Solo → Json × Solo
  | .drop, .playing d => (.null, .gone (d.drop sv))
  | .drop, .gone inbox => (.null, .gone inbox)
  | .action action, .playing d =>
    let (result, d) := d.perform sv action.toAct
    (result, .playing d)
  | .action action, .gone inbox =>
    let (result, inbox) := actAlone sv inbox action
    (result, .gone inbox)

def state (sv : Services Stage) : Solo → Option Json
  | playing d => some (stateReport (d.view sv))
  | gone _ => none

def outcome (sv : Services Stage) (result : Json) (solo : Solo) : Outcome :=
  { result, effects := solo.outside.trace, state := solo.state sv }

def run (sv : Services Stage) : List Step → Solo → List Outcome
  | [], _ => []
  | s :: steps, solo =>
    let (result, solo) := solo.clear.step sv s
    solo.outcome sv result :: run sv steps solo

/-- A rehearsal from the creation of the session on. -/
def rehearse (sv : Services Stage) (account : Account) (stage : Stage) (start : Instant)
    (steps : List Step) : List Outcome :=
  let solo := Solo.playing (.create sv account ⟨0⟩ start { world := stage })
  solo.outcome sv .null :: run sv steps solo

end Solo

end GameRealm.Rehearsal
