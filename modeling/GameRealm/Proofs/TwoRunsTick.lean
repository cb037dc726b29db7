import GameRealm.Proofs.TwoRuns

/-!
# Ticks of one session in two runs

Handlers and callbacks that are `Confined` keep two runs of their session together
(`Twin.run`), and so do the ticks that run them, one inside another (`Twin.tickWithin`).
So the world tick of a session comes to the same outcome and leaves the same session in
all surroundings that its account cannot tell apart (`Twin.update`). The same holds for
the end of a session and for the news about the login queue.
-/

namespace GameRealm

namespace TwoRuns

variable {sv : Services W} {runs : TwoRuns sv}

/-! ## Inboxes -/

namespace InboxTwin

variable {r r' : LiveInbox W}

theorem emit (h : runs.InboxTwin r r') {effect : Effect}
    (own : effect.Of runs.part runs.account) (whole : effect.transactional = false) :
    runs.InboxTwin (r.emit sv effect) (r'.emit sv effect) :=
  ⟨h.inbox, h.belongs, h.around.emit own whole⟩

theorem change (h : runs.InboxTwin r r') (change : Inbox W → Inbox W)
    (owner : (change r.inbox).account = r.inbox.account)
    (mailbox : (change r.inbox).mailbox = r.inbox.mailbox) :
    runs.InboxTwin { r with inbox := change r.inbox } { r' with inbox := change r'.inbox } :=
  ⟨congrArg change h.inbox, ⟨owner.trans h.belongs.owner, mailbox ▸ h.belongs.callbacks⟩, h.around⟩

theorem post (h : runs.InboxTwin r r') {callback : Callback W}
    (confined : callback.Confined runs.part runs.account) :
    (r'.post callback).1 = (r.post callback).1 ∧
      runs.InboxTwin (r.post callback).2 (r'.post callback).2 := by
  unfold LiveInbox.post Inbox.post Mailbox.post
  rw [h.inbox]
  cases r.inbox.mailbox.live with
  | false => exact ⟨rfl, rfl, h.belongs, h.around⟩
  | true =>
    refine ⟨rfl, rfl, ⟨h.belongs.owner, fun other mem => ?_⟩, h.around⟩
    rcases List.mem_append.mp mem with before | last
    · exact h.belongs.callbacks other before
    · exact List.mem_singleton.mp last ▸ confined

theorem run {deeper : Envelope → LiveInbox W → LiveInbox W}
    (below : ∀ env {r r'}, runs.InboxTwin r r' → runs.InboxTwin (deeper env r) (deeper env r'))
    {p : InboxAct W α} (confined : p.Confined (Callback.Confined runs.part runs.account))
    (h : runs.InboxTwin r r') :
    (LiveInbox.run sv deeper p r').1 = (LiveInbox.run sv deeper p r).1 ∧
      runs.InboxTwin (LiveInbox.run sv deeper p r).2 (LiveInbox.run sv deeper p r').2 := by
  induction p generalizing r r' with
  | finish => exact ⟨rfl, h⟩
  | look next ih =>
    rw [LiveInbox.run, LiveInbox.run, h.inbox]
    exact ih _ _ (confined _ _) h
  | post callback next ih =>
    obtain ⟨accepted, posted⟩ := h.post confined.1
    rw [LiveInbox.run, LiveInbox.run, accepted]
    exact ih _ (confined.2 _) posted
  | enqueue env next ih => exact ih confined (below env h)
  | deleteMovementPackets next ih => exact ih confined (h.change (·.deleteMovementPackets) rfl rfl)
  | remark speaker text next ih => exact ih confined (h.emit (.inl rfl) rfl)

theorem receive
    {immediately : (AccountId → Envelope → InboxAct W Handled) → Envelope → LiveInbox W →
      LiveInbox W}
    (at_once : ∀ {handler} env {r r'},
      (Handler.immediate handler : Handler W).Confined runs.part runs.account →
      runs.InboxTwin r r' → runs.InboxTwin (immediately handler env r) (immediately handler env r'))
    (env : Envelope) (h : runs.InboxTwin r r') :
    runs.InboxTwin (LiveInbox.receive sv immediately env r)
      (LiveInbox.receive sv immediately env r') := by
  have counted : runs.InboxTwin (r.emit sv (.countOpcode env.opcode))
      (r'.emit sv (.countOpcode env.opcode)) := h.emit (.inl rfl) rfl
  have confined := runs.confines runs.account env.opcode
  unfold LiveInbox.receive
  dsimp only
  split
  · next handler _ registered => exact at_once env (registered ▸ confined) counted
  · exact counted.change (fun i => { i with map := i.map.push env }) rfl rfl
  · exact counted.change (fun i => { i with generic := i.generic.push env }) rfl rfl

theorem enqueueWithin (depth : Nat) (env : Envelope) (h : runs.InboxTwin r r') :
    runs.InboxTwin (LiveInbox.enqueueWithin sv depth env r)
      (LiveInbox.enqueueWithin sv depth env r') := by
  induction depth generalizing env r r' with
  | zero => exact receive (fun _ _ _ _ h => h) env h
  | succ depth ih =>
    rw [LiveInbox.enqueueWithin, LiveInbox.enqueueWithin]
    refine receive (fun env r r' confined h => ?_) env h
    have same : r'.inbox.account = r.inbox.account := congrArg Inbox.account h.inbox
    rw [same, h.belongs.owner]
    obtain ⟨handled, after⟩ := h.run (fun env {_ _} => ih env) (confined env)
    dsimp only
    rw [handled]
    exact ⟨after.inbox, after.belongs, after.around.logAll _⟩

end InboxTwin

/-! ## Operations and courses of action -/

namespace Twin

variable {d d' : LiveSession W}

theorem inboxTwin (h : runs.Twin d d') {r r' : LiveInbox W} (inside : runs.InboxTwin r r') :
    runs.Twin { d with toLiveInbox := r } { d' with toLiveInbox := r' } :=
  ⟨h.session, h.belongs, inside⟩

theorem post (h : runs.Twin d d') {callback : Callback W}
    (confined : callback.Confined runs.part runs.account) :
    runs.Agree (d.post callback) (d'.post callback) :=
  ⟨(h.inside.post confined).1, h.inboxTwin (h.inside.post confined).2⟩

theorem operate (h : runs.Twin d d') {operation : Operation W}
    (own : operation.Own runs.part runs.account) :
    runs.Agree (operation.run sv d) (operation.run sv d') := by
  cases operation with
  | attach c => exact (h.attach own).agree _
  | setOnline => exact h.setOnline
  | setOffline => exact h.setOffline.agree _
  | toCharSelection => exact (h.modify rfl).agree _
  | setPlayerLoading => exact (h.modify rfl).agree _
  | setInQueue => exact (h.modify rfl).agree _
  | setLatency => exact (h.modify rfl).agree _
  | setExpansion level => exact (h.setExpansion level).agree _
  | requestNewSocket => exact h.requestNewSocket own
  | logoutRequest => exact (h.modify rfl).agree _
  | logoutPlayer => exact h.logoutPlayer.agree _
  | kickPlayer save inPlace => exact (h.kickPlayer save inPlace).agree _
  | closeSocket => exact h.closeSocket.agree _
  | shutdown => exact h.shutdown.agree _
  | send message => exact (h.send message).agree _
  | sendAuthQueued => exact h.sendAuthQueued.agree _
  | sendAuthWaitQueue position => exact (h.sendAuthWaitQueue position).agree _
  | sendMotd => exact h.sendMotd.agree _
  | loadGlobalAccountData => exact h.loadGlobalAccountData
  | loadCharacterAccountData => exact h.loadCharacterAccountData
  | loadAccountData mask rows => exact (h.loadAccountData mask rows).agree _
  | setAccountData type time data => exact h.setAccountData type time data
  | sendAccountDataTimes mask => exact (h.sendAccountDataTimes mask).agree _
  | loadTutorials => exact h.loadTutorials
  | saveTutorials => exact h.saveTutorials
  | sendTutorials =>
    have same : d'.session.tutorials.flags = d.session.tutorials.flags :=
      congrArg (·.tutorials.flags) h.session
    simp only [Operation.run, same]
    exact (h.send _).agree _
  | setTutorialFlag => exact (h.modify rfl).agree _
  | readAddons env => exact h.readAddons env
  | sendAddonsInfo => exact h.sendAddonsInfo.agree _
  | resetTimeSync => exact h.resetTimeSync.agree _
  | sendTimeSync => exact h.sendTimeSync.agree _
  | timeSyncResponse counter ticks => exact h.timeSyncResponse counter ticks
  | enqueue env => exact (h.inboxTwin (h.inside.enqueueWithin _ env)).agree _
  | deleteMovementPackets =>
    exact (h.inboxTwin (h.inside.change (·.deleteMovementPackets) rfl rfl)).agree _
  | deed act => exact ⟨congrArg Session.playerGuid h.session, h.deed act⟩
  | wrongSize => exact (h.log _).agree _
  | opcodeName => exact h.agree _
  | log notice => exact (h.log notice).agree _
  | remark speaker text => exact (h.emit (.inl rfl) rfl).agree _
  | outside change =>
    have around : runs.Around { d.outside with world := change d.outside.world }
        { d'.outside with world := change d'.outside.world } :=
      ⟨⟨h.around.effects, own.own h.around.alike⟩,
        runs.aside_trans h.around.aside (own.others h.around.aside.1),
        runs.aside_trans h.around.aside' (own.others h.around.aside'.1)⟩
    exact (h.surround around).agree _

section
variable {nested : SessionTick → LiveSession W → UpdateOutcome × LiveSession W}
  (inner : ∀ kind {d d'}, runs.Twin d d' → runs.Agree (nested kind d) (nested kind d'))
include inner

/-- A course of action that keeps to the session has the same result in both runs. -/
theorem run {p : Act W α}
    (confined : p.Confined runs.part runs.account
      (Callback.Confined runs.part runs.account)) (h : runs.Twin d d') :
    runs.Agree (p.run sv nested d) (p.run sv nested d') := by
  induction p generalizing d d' with
  | finish result => exact h.agree result
  | perform operation next ih =>
    have done := h.operate confined.1
    rw [Procedure.run, Procedure.run, done.answer]
    exact ih _ (confined.2 _) done.twin
  | look next ih =>
    rw [Procedure.run, Procedure.run, confined.1 _ _ h.view]
    exact ih _ (confined.2 _ h.belongs) h
  | post callback next ih =>
    have done := h.post confined.1
    rw [Procedure.run, Procedure.run, done.answer]
    exact ih _ (confined.2 _) done.twin
  | tick kind next ih =>
    have done := inner kind h
    rw [Procedure.run, Procedure.run, done.answer]
    exact ih _ (confined _) done.twin

/-! ## Envelopes and callbacks -/

omit inner in
theorem punishFault (h : runs.Twin d d') (env : Envelope) (fault : PayloadError) :
    runs.Twin (d.punishFault sv env fault) (d'.punishFault sv env fault) := by
  have logged := (h.log (.payloadFault env.opcode fault)).log .faultyEnvelope
  unfold LiveSession.punishFault
  dsimp only
  split
  · rw [(logged.log .faultDisconnect).session]
    refine ((logged.log .faultDisconnect).post ?_).twin
    split
    · exact confined_kickIfStill _
    · exact confined_closeWhateverSocket
  · exact logged

omit inner in
theorem endDelay (h : runs.Twin d d') : runs.Twin (d.endDelay sv) (d'.endDelay sv) := by
  unfold LiveSession.endDelay
  rw [h.session]
  cases attached : d.session.player with
  | none => exact h
  | some c =>
    have mine := h.has attached
    have switched := h.act mine (.delayTeleport false)
    dsimp only
    rw [switched.around.character_eq mine]
    split
    · exact switched.act mine _
    · exact switched

theorem handle {handler : Envelope → Act W Handled}
    (confined : (Handler.session handler).Confined runs.part runs.account) (env : Envelope)
    (h : runs.Twin d d') :
    runs.Agree (d.handle sv nested handler env) (d'.handle sv nested handler env) := by
  have done := (h.deed (.delayTeleport true)).run inner (confined env)
  exact ⟨done.answer, done.twin.endDelay⟩

omit inner in
theorem settle (h : runs.Twin d d') (handled : Handled) :
    runs.Twin (d.settle sv handled) (d'.settle sv handled) := by
  unfold LiveSession.settle
  dsimp only
  split
  · exact h.punishFault _ _
  · split
    · exact h.log _
    · exact h

theorem execute {entry : Descriptor W}
    (confined : entry.handler.Confined runs.part runs.account) (env : Envelope)
    (h : runs.Twin d d') :
    runs.Twin (d.execute sv nested entry env) (d'.execute sv nested entry env) := by
  unfold LiveSession.execute
  cases registered : entry.handler with
  | immediate => exact h.log _
  | session handler =>
    have done := h.handle inner (registered ▸ confined) env
    dsimp only
    rw [done.answer]
    exact done.twin.settle _

theorem dispatchGeneric (env : Envelope) (h : runs.Twin d d') :
    runs.Twin (d.dispatchGeneric sv nested env) (d'.dispatchGeneric sv nested env) := by
  unfold LiveSession.dispatchGeneric
  rw [h.session, h.playerInWorld_eq]
  dsimp only
  split
  · exact h.logAll _
  · refine execute inner (runs.confines _ _) env ?_
    unfold LiveSession.noteAdmission
    split
    · exact h.modify rfl
    · exact h

theorem dispatchMap (env : Envelope) (h : runs.Twin d d') :
    runs.Twin (d.dispatchMap sv nested env) (d'.dispatchMap sv nested env) := by
  unfold LiveSession.dispatchMap
  rw [h.playerInWorld_eq]
  dsimp only
  split
  · exact h.logAll _
  · exact execute inner (runs.confines _ _) env h

omit inner in
theorem drain {dispatch : Envelope → LiveSession W → LiveSession W}
    (each : ∀ env {d d'}, runs.Twin d d' → runs.Twin (dispatch env d) (dispatch env d'))
    (backlog : List Envelope) (h : runs.Twin d d') :
    runs.Agree (d.drain sv dispatch backlog) (d'.drain sv dispatch backlog) := by
  induction backlog generalizing d d' with
  | nil => exact h.agree _
  | cons env rest ih =>
    rw [LiveSession.drain, LiveSession.drain, h.socketOpen_eq]
    split
    · exact ih (each env h)
    · exact h.agree _

theorem runCallbacks {callbacks : List (Callback W)}
    (confined : ∀ callback ∈ callbacks, callback.Confined runs.part runs.account)
    (h : runs.Twin d d') :
    runs.Twin (d.runCallbacks sv nested callbacks) (d'.runCallbacks sv nested callbacks) := by
  induction callbacks generalizing d d' with
  | nil => exact h
  | cons callback rest ih =>
    obtain ⟨first, others⟩ := List.forall_mem_cons.mp confined
    exact ih others (h.run inner first.body).twin

end

/-! ## The state machine -/

theorem activate (h : runs.Twin d d') {socket : SocketId}
    (mine : runs.part.socketOwner socket = runs.account) :
    runs.Twin (d.activate sv socket) (d'.activate sv socket) := by
  have taken : runs.Twin (d.modify fun s => { s with pending := none })
      (d'.modify fun s => { s with pending := none }) :=
    h.become { h.belongs with pending := fun _ absent => nomatch absent }
  have seated : ∀ {e e'}, runs.Twin e e' → runs.Twin
      (((e.log sv .replacementActivated).modify fun s => { s with socket := some socket }).send
        sv .authOk)
      (((e'.log sv .replacementActivated).modify fun s => { s with socket := some socket }).send
        sv .authOk) := by
    intro e e' h
    refine ((h.log .replacementActivated).become ?_).send _
    exact { h.belongs with socket := fun _ same => Option.some_inj.mp same ▸ mine }
  unfold LiveSession.activate
  dsimp only
  rw [taken.session]
  split
  · exact seated taken.setOffline
  · exact seated taken

theorem advanceCreated (h : runs.Twin d d') :
    runs.Twin (d.advanceCreated sv) (d'.advanceCreated sv) := by
  have listed : ∀ {e e'}, runs.Twin e e' → runs.Twin
      ((if e.session.addons.isEmpty then e else e.sendAddonsInfo sv).modify
        (·.toCharSelection sv.config))
      ((if e'.session.addons.isEmpty then e' else e'.sendAddonsInfo sv).modify
        (·.toCharSelection sv.config)) := by
    intro e e' h
    rw [h.session]
    split
    · exact h.modify rfl
    · exact h.sendAddonsInfo.modify rfl
  unfold LiveSession.advanceCreated
  rw [h.session]
  cases waiting : d.session.pending with
  | some socket => exact listed (h.activate (h.belongs.pending socket waiting))
  | none =>
    dsimp only
    split
    · exact listed h.sendAuthQueued
    · exact listed (h.send _)

theorem logoutIfDue (h : runs.Twin d d') (now : Instant) :
    runs.Twin (d.logoutIfDue sv now) (d'.logoutIfDue sv now) := by
  unfold LiveSession.logoutIfDue
  rw [h.session]
  split
  · exact h.logoutPlayer
  · exact h

theorem advanceCharSelection (h : runs.Twin d d') (now : Instant) :
    runs.Agree (d.advanceCharSelection sv now) (d'.advanceCharSelection sv now) := by
  have after := h.logoutIfDue now
  unfold LiveSession.advanceCharSelection
  rw [h.socketOpen_eq]
  dsimp only
  rw [after.session]
  split
  · split
    · exact ((after.log _).kickPlayer true true).closeSocket.agree _
    · exact after.agree _
  · exact h.agree _

theorem advanceReady (h : runs.Twin d d') (now : Instant) :
    runs.Agree (d.advanceReady sv now) (d'.advanceReady sv now) := by
  unfold LiveSession.advanceReady
  rw [h.socketClosed_eq, h.session]
  split
  · split
    · exact h.agree _
    · exact h.setOffline.agree _
  · split
    · exact h.logoutPlayer.agree _
    · exact h.updateTimeSync.agree _

theorem advanceOffline (h : runs.Twin d d') (now : Instant) :
    runs.Agree (d.advanceOffline sv now) (d'.advanceOffline sv now) := by
  have out := h.logoutPlayer
  unfold LiveSession.advanceOffline
  rw [h.session]
  dsimp only
  rw [out.session, out.socketOpen_eq]
  split
  · split
    · exact out.agree _
    · exact out.agree _
  · exact h.agree _

theorem advance (h : runs.Twin d d') (now : Instant) :
    runs.Agree (d.advance sv now) (d'.advance sv now) := by
  unfold LiveSession.advance
  rw [h.session]
  cases d.session.state with
  | created => exact h.advanceCreated.agree _
  | charSelection => exact h.advanceCharSelection now
  | ready => exact h.advanceReady now
  | offline => exact h.advanceOffline now

/-! ## Ticks -/

section
variable {nested : SessionTick → LiveSession W → UpdateOutcome × LiveSession W}
  (inner : ∀ kind {d d'}, runs.Twin d d' → runs.Agree (nested kind d) (nested kind d'))
include inner

theorem deliver (h : runs.Twin d d') :
    runs.Twin (d.deliver sv nested) (d'.deliver sv nested) := by
  unfold LiveSession.deliver
  have same : d'.inbox = d.inbox := h.inside.inbox
  rw [same]
  refine runCallbacks inner h.inside.belongs.callbacks (h.inbox rfl ⟨h.inside.belongs.owner, ?_⟩)
  exact List.forall_mem_nil _

theorem drainGeneric (h : runs.Twin d d') :
    runs.Twin (d.drainGeneric sv nested) (d'.drainGeneric sv nested) := by
  unfold LiveSession.drainGeneric
  have same : d'.inbox = d.inbox := h.inside.inbox
  rw [same]
  have taken : runs.Twin { d with inbox := { d.inbox with generic := d.inbox.generic.takeAll.2 } }
      { d' with inbox := { d.inbox with generic := d.inbox.generic.takeAll.2 } } :=
    h.inbox rfl ⟨h.inside.belongs.owner, h.inside.belongs.callbacks⟩
  have done := taken.drain (fun env {_ _} => dispatchGeneric inner env) d.inbox.generic.takeAll.1
  dsimp only
  rw [done.answer]
  split
  · exact done.twin
  · exact done.twin.log _

theorem drainMap (h : runs.Twin d d') :
    runs.Twin (d.drainMap sv nested) (d'.drainMap sv nested) := by
  unfold LiveSession.drainMap
  have same : d'.inbox = d.inbox := h.inside.inbox
  rw [same]
  have taken : runs.Twin { d with inbox := { d.inbox with map := d.inbox.map.takeAll.2 } }
      { d' with inbox := { d.inbox with map := d.inbox.map.takeAll.2 } } :=
    h.inbox rfl ⟨h.inside.belongs.owner, h.inside.belongs.callbacks⟩
  exact (taken.drain (fun env {_ _} => dispatchMap inner env) d.inbox.map.takeAll.1).twin

theorem tickWith (kind : SessionTick) (h : runs.Twin d d') :
    runs.Agree (d.tickWith sv nested kind) (d'.tickWith sv nested kind) := by
  cases kind with
  | world now =>
    exact ((h.modify rfl).deliver inner |>.drainGeneric inner).advance now
  | region now => exact ((h.modify rfl).drainMap inner).agree _

end

theorem tickWithin (depth : Nat) (kind : SessionTick) (h : runs.Twin d d') :
    runs.Agree (LiveSession.tickWithin sv depth kind d)
      (LiveSession.tickWithin sv depth kind d') := by
  induction depth generalizing kind d d' with
  | zero => exact h.agree _
  | succ depth ih => exact tickWith (fun kind {_ _} => ih kind) kind h

theorem update (now : Instant) (h : runs.Twin d d') :
    runs.Agree (d.update sv now) (d'.update sv now) :=
  tickWith (fun kind {_ _} => tickWithin sv.nesting kind) (.world now) h

/-! ## Outside of ticks -/

theorem drop (h : runs.Twin d d') : runs.InboxTwin (d.drop sv) (d'.drop sv) := by
  have closed : ∀ {e e'}, runs.Twin e e' →
      runs.InboxTwin
        { inbox := { e.inbox with mailbox := e.inbox.mailbox.close }, outside := e.outside }
        { inbox := { e'.inbox with mailbox := e'.inbox.mailbox.close }, outside := e'.outside } :=
    fun h => ⟨congrArg (fun i => { i with mailbox := i.mailbox.close }) h.inside.inbox,
      ⟨h.inside.belongs.owner, List.forall_mem_nil _⟩, h.around⟩
  have ended := h.shutdown
  unfold LiveSession.drop
  dsimp only
  rw [ended.session]
  cases attached : (d.shutdown sv).session.player with
  | none => exact closed ended
  | some c => exact closed (ended.emit (.inr (congrArg some (ended.has attached).1)) rfl)

theorem welcome (h : runs.Twin d d') :
    runs.Twin (Registry.welcome sv d) (Registry.welcome sv d') :=
  (h.modify rfl).send _

theorem renumber (position : UInt32) (h : runs.Twin d d') :
    runs.Twin (Registry.renumber sv position d) (Registry.renumber sv position d') := by
  unfold Registry.renumber
  rw [h.session]
  split
  · exact h
  · exact (h.modify rfl).sendAuthWaitQueue position

end Twin

end TwoRuns

end GameRealm
