import GameRealm.Session.Features

/-!
# Running a procedure

An operation is run on a session at work and answers; a procedure is run by running its
operations. Ticks that a procedure asks for are run by a given function.
-/

namespace GameRealm

namespace Operation

def run (sv : Services W) :
    (operation : Operation W) → LiveSession W → operation.Answer × LiveSession W
  | attach character, d => ((), d.attach sv character)
  | setOnline, d => d.setOnline sv
  | setOffline, d => ((), d.setOffline sv)
  | toCharSelection, d => ((), d.modify (·.toCharSelection sv.config))
  | setPlayerLoading loading, d => ((), d.modify fun s => { s with playerLoading := loading })
  | setInQueue position, d => ((), d.modify fun s => { s with queuePosition := position })
  | setLatency ms, d => ((), d.modify fun s => { s with latency := ms })
  | setExpansion level, d => ((), d.setExpansion sv level)
  | requestNewSocket socket, d => d.requestNewSocket sv socket
  | logoutRequest requestedAt, d => ((), d.modify (·.logoutRequest requestedAt))
  | logoutPlayer, d => ((), d.logoutPlayer sv)
  | kickPlayer save inPlace, d => ((), d.kickPlayer sv save inPlace)
  | closeSocket, d => ((), d.closeSocket sv)
  | shutdown, d => ((), d.shutdown sv)
  | send message, d => ((), d.send sv message)
  | sendAuthQueued, d => ((), d.sendAuthQueued sv)
  | sendAuthWaitQueue position, d => ((), d.sendAuthWaitQueue sv position)
  | sendMotd, d => ((), d.sendMotd sv)
  | loadGlobalAccountData, d => d.loadGlobalAccountData sv
  | loadCharacterAccountData, d => d.loadCharacterAccountData sv
  | loadAccountData mask rows, d => ((), d.loadAccountData sv mask rows)
  | setAccountData type time data, d => d.setAccountData sv type time data
  | sendAccountDataTimes mask, d => ((), d.sendAccountDataTimes sv mask)
  | loadTutorials, d => d.loadTutorials sv
  | saveTutorials, d => d.saveTutorials sv
  | sendTutorials, d => ((), d.send sv (.tutorialFlags d.session.tutorials.flags))
  | setTutorialFlag index value, d =>
    ((), d.modify fun s => { s with tutorials := s.tutorials.setFlag index value })
  | readAddons env, d => d.readAddons sv env
  | sendAddonsInfo, d => ((), d.sendAddonsInfo sv)
  | resetTimeSync, d => ((), d.resetTimeSync)
  | sendTimeSync, d => ((), d.sendTimeSync sv)
  | timeSyncResponse counter clientTicks, d => d.timeSyncResponse sv counter clientTicks
  | enqueue env, d => ((), { d with toLiveInbox := d.toLiveInbox.enqueue sv env })
  | deleteMovementPackets, d => ((), { d with inbox := d.inbox.deleteMovementPackets })
  | deed act, d => (d.session.playerGuid, d.deed sv act)
  | wrongSize env expected, d =>
    ((), d.log sv (.wrongSize env.opcode (sv.opcodes.get env.opcode).name env.size expected))
  | opcodeName opcode, d => ((sv.opcodes.get opcode).name, d)
  | log notice, d => ((), d.log sv notice)
  | remark speaker text, d => ((), d.emit sv (.remark speaker text))
  | outside change, d =>
    ((), { d with outside := { d.outside with world := change d.outside.world } })

end Operation

namespace Procedure

/-- Runs a procedure; `nested` runs the ticks that it asks for. -/
def run (sv : Services W) (nested : SessionTick → LiveSession W → UpdateOutcome × LiveSession W) :
    Act W α → LiveSession W → α × LiveSession W
  | finish result, d => (result, d)
  | perform operation next, d =>
    run sv nested (next (operation.run sv d).1) (operation.run sv d).2
  | look next, d => run sv nested (next (d.view sv)) d
  | post callback next, d => run sv nested (next (d.post callback).1) (d.post callback).2
  | tick kind next, d => run sv nested (next (nested kind d).1) (nested kind d).2

theorem run_bind (sv : Services W)
    (nested : SessionTick → LiveSession W → UpdateOutcome × LiveSession W)
    (p : Act W α) (f : α → Act W β) (d : LiveSession W) :
    run sv nested (p.bind f) d =
      run sv nested (f (run sv nested p d).1) (run sv nested p d).2 := by
  induction p generalizing d with
  | finish => rfl
  | perform operation next ih => exact ih _ _
  | look next ih => exact ih _ _
  | post callback next ih => exact ih _ _
  | tick kind next ih => exact ih _ _

end Procedure

namespace InboxProcedure

/-- A course of action on an inbox as one on its session. -/
def lift : InboxAct W α → Act W α
  | finish result => .finish result
  | look next => .look fun view => (next view.genericLength view.mapLength).lift
  | post callback next => .post callback fun accepted => (next accepted).lift
  | enqueue env next => .perform (.enqueue env) fun _ => next.lift
  | deleteMovementPackets next => .perform .deleteMovementPackets fun _ => next.lift
  | remark speaker text next => .perform (.remark speaker text) fun _ => next.lift

end InboxProcedure

end GameRealm
