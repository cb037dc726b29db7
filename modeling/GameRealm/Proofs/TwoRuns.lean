import GameRealm.Proofs.Partition

/-!
# Two runs of one session

A session that keeps to itself does the same in two surroundings that its account cannot
tell apart. `TwoRuns.Twin` says how the two then compare: the same session, the same
inbox, and surroundings as in `TwoRuns.Around`; `TwoRuns.Agree` adds the same answer. Every
function of a session keeps this, up to the whole tick (`Twin.update`), the end of a
session (`Twin.drop`) and the news about the login queue (`Twin.welcome`,
`Twin.renumber`). A transaction is the one place where the two runs are compared only
once it is over, by `Around.transaction`.
-/

namespace GameRealm

namespace Outside

def emitAll (co : Collaborators W) (effects : List Effect) (outside : Outside W) : Outside W :=
  effects.foldl (fun outside effect => outside.emit co effect) outside

theorem world_emitAll (co : Collaborators W) (effects : List Effect) (outside : Outside W) :
    (outside.emitAll co effects).world = co.reactAll outside.world effects := by
  induction effects generalizing outside with
  | nil => rfl
  | cons effect effects ih => exact ih (outside.emit co effect)

end Outside

namespace TwoRuns

variable {sv : Services W} {runs : TwoRuns sv}

/-! ## Transactions -/

section
variable {o o' : Outside W}

theorem Matches.emitAll (h : runs.Matches o o') {effects : List Effect}
    (own : ∀ effect ∈ effects, effect.Of runs.part runs.account) :
    runs.Matches (o.emitAll sv.collaborators effects) (o'.emitAll sv.collaborators effects) := by
  induction effects generalizing o o' with
  | nil => exact h
  | cons effect effects ih =>
    exact ih (h.emit (own effect List.mem_cons_self)) fun other mem =>
      own other (List.mem_cons_of_mem _ mem)

theorem Matches.calling_eq (h : runs.Matches o o') {db : Database} {call : DatabaseCall}
    (own : (Effect.database db call).Of runs.part runs.account) :
    sv.collaborators.calling o'.world db call = sv.collaborators.calling o.world db call :=
  runs.separates.calling h.alike own

theorem Around.transaction (h : runs.Around o o') {db : Database}
    (begun : sv.collaborators.calling o.world db .begin = .ok ()) {statements : List Statement}
    (own : ∀ statement ∈ statements, statement.owner runs.part = runs.account)
    {closing : DatabaseCall} (closes : closing = .commit ∨ closing = .rollback) :
    let effects := (DatabaseCall.begin :: statements.map .execute ++ [closing]).map
      (Effect.database db)
    runs.Around (o.emitAll sv.collaborators effects) (o'.emitAll sv.collaborators effects) := by
  intro effects
  have about : ∀ effect ∈ effects, effect.Of runs.part runs.account := by
    have closing_about : (Effect.database db closing).Of runs.part runs.account := by
      rcases closes with rfl | rfl <;> exact .inl rfl
    simp only [effects, List.cons_append, List.map_cons, List.map_append, List.map_map,
      List.forall_mem_cons, List.forall_mem_append, List.forall_mem_map, List.map_nil,
      List.not_mem_nil, false_imp_iff, implies_true, and_true]
    exact ⟨.inl rfl, fun statement mem => .inr (congrArg some (own statement mem)), closing_about⟩
  have begun' : sv.collaborators.calling o'.world db .begin = .ok () :=
    (h.calling_eq (.inl rfl)).trans begun
  refine ⟨h.emitAll about, ?_, ?_⟩
  · exact Outside.world_emitAll .. ▸ aside_of_bout h.aside (.transaction begun own closes)
  · exact Outside.world_emitAll .. ▸ aside_of_bout h.aside' (.transaction begun' own closes)

end

theorem owner_replaceStatements? {part : Partition W} {account : AccountId} {s : Session}
    (belongs : s.Belongs part account) {type : Nat} {time : UInt64} {data : String}
    {both : Statement × Statement}
    (h : LiveSession.replaceStatements? s type time data = some both) :
    both.1.owner part = account ∧ both.2.owner part = account := by
  unfold LiveSession.replaceStatements? at h
  dsimp only at h
  split at h
  · cases h
    exact ⟨belongs.owner, belongs.owner⟩
  · obtain ⟨guid, last, rfl⟩ := Option.map_eq_some_iff.mp h
    exact ⟨belongs.guid guid last, belongs.guid guid last⟩

/-! ## Inboxes and sessions -/

/-- The inbox is the same in two runs, and their surroundings compare. -/
structure InboxTwin (runs : TwoRuns sv) (r r' : LiveInbox W) : Prop where
  inbox : r'.inbox = r.inbox
  belongs : r.inbox.Belongs runs.part runs.account
  around : runs.Around r.outside r'.outside

/-- The session is the same too, and has nothing but its account's. -/
structure Twin (runs : TwoRuns sv) (d d' : LiveSession W) : Prop where
  session : d'.session = d.session
  belongs : d.session.Belongs runs.part runs.account
  inside : runs.InboxTwin d.toLiveInbox d'.toLiveInbox

/-- The answer is the same too. -/
structure Agree (runs : TwoRuns sv) (x x' : α × LiveSession W) : Prop where
  answer : x'.1 = x.1
  twin : runs.Twin x.2 x'.2

@[elab_as_elim]
theorem Agree.elim {motive : α × LiveSession W → α × LiveSession W → Prop}
    {x x' : α × LiveSession W} (h : runs.Agree x x')
    (each : ∀ answer {d d'}, runs.Twin d d' → motive (answer, d) (answer, d')) :
    motive x x' := by
  obtain ⟨answer, d⟩ := x
  obtain ⟨answer', d'⟩ := x'
  obtain ⟨same, twin⟩ := h
  cases same
  exact each answer twin

namespace Twin

variable {d d' : LiveSession W}

theorem surround (h : runs.Twin d d') {o o' : Outside W} (around : runs.Around o o') :
    runs.Twin { d with outside := o } { d' with outside := o' } :=
  ⟨h.session, h.belongs, h.inside.inbox, h.inside.belongs, around⟩

theorem around (h : runs.Twin d d') : runs.Around d.outside d'.outside := h.inside.around

theorem inbox (h : runs.Twin d d') {i i' : Inbox W} (same : i' = i)
    (belongs : i.Belongs runs.part runs.account) :
    runs.Twin { d with inbox := i } { d' with inbox := i' } :=
  ⟨h.session, h.belongs, same, belongs, h.around⟩

theorem emit (h : runs.Twin d d') {effect : Effect}
    (own : effect.Of runs.part runs.account) (whole : effect.transactional = false) :
    runs.Twin (d.emit sv effect) (d'.emit sv effect) :=
  h.surround (h.around.emit own whole)

theorem log (h : runs.Twin d d') (notice : Notice) :
    runs.Twin (d.log sv notice) (d'.log sv notice) :=
  h.emit (.inl rfl) rfl

theorem logAll (h : runs.Twin d d') (notices : List Notice) :
    runs.Twin (d.logAll sv notices) (d'.logAll sv notices) :=
  h.surround (h.around.logAll notices)

theorem become (h : runs.Twin d d') {change : Session → Session}
    (belongs : (change d.session).Belongs runs.part runs.account) :
    runs.Twin (d.modify change) (d'.modify change) :=
  ⟨congrArg change h.session, belongs, h.inside⟩

theorem modify (h : runs.Twin d d') {change : Session → Session}
    (kept : (change d.session).estate = d.session.estate) :
    runs.Twin (d.modify change) (d'.modify change) :=
  h.become (h.belongs.congr kept)

theorem agree (h : runs.Twin d d') (answer : α) : runs.Agree (answer, d) (answer, d') :=
  ⟨rfl, h⟩

/-! ## Questions -/

theorem isClosed_eq (h : runs.Twin d d') {socket : SocketId}
    (mine : runs.part.socketOwner socket = runs.account) :
    d'.isClosed sv socket = d.isClosed sv socket :=
  congrArg SocketView.closed (runs.separates.socket (mine ▸ h.around.alike))

theorem socketOpen_eq (h : runs.Twin d d') : d'.socketOpen sv = d.socketOpen sv := by
  unfold LiveSession.socketOpen
  rw [h.session, h.around.socketOpen_eq h.belongs]

theorem has (h : runs.Twin d d') {c : Character} (attached : d.session.player = some c) :
    runs.Has c :=
  h.belongs.player c attached

theorem playerInWorld_eq (h : runs.Twin d d') : d'.playerInWorld sv = d.playerInWorld sv := by
  unfold LiveSession.playerInWorld Session.playerInWorld
  rw [h.session]
  cases attached : d.session.player with
  | none => rfl
  | some c => exact congrArg CharacterView.inWorld (h.around.character_eq (h.has attached))

theorem socketClosed_eq (h : runs.Twin d d') : d'.socketClosed sv = d.socketClosed sv := by
  unfold LiveSession.socketClosed
  rw [h.session]
  cases active : d.session.socket with
  | none => rfl
  | some socket => exact h.isClosed_eq (h.belongs.socket socket active)

theorem view (h : runs.Twin d d') : View.Alike runs.part runs.account (d.view sv) (d'.view sv) :=
  ⟨h.session, h.belongs, congrArg (·.generic.length) h.inside.inbox,
    congrArg (·.map.length) h.inside.inbox, rfl, h.around.alike⟩

/-! ## Sending -/

theorem send (h : runs.Twin d d') (message : Message) :
    runs.Twin (d.send sv message) (d'.send sv message) := by
  unfold LiveSession.send
  rw [h.session]
  cases active : d.session.socket with
  | none => exact h
  | some socket =>
    have mine := h.belongs.socket socket active
    dsimp only
    rw [h.isClosed_eq mine]
    split
    · exact h
    · exact h.emit (.inr (congrArg some mine)) rfl

theorem sendAuthQueued (h : runs.Twin d d') :
    runs.Twin (d.sendAuthQueued sv) (d'.sendAuthQueued sv) := by
  unfold LiveSession.sendAuthQueued
  rw [h.session]
  exact h.send _

theorem sendAuthWaitQueue (h : runs.Twin d d') (position : UInt32) :
    runs.Twin (d.sendAuthWaitQueue sv position) (d'.sendAuthWaitQueue sv position) := by
  unfold LiveSession.sendAuthWaitQueue
  split
  · exact h.send _
  · exact h.sendAuthQueued

theorem sendMotd (h : runs.Twin d d') : runs.Twin (d.sendMotd sv) (d'.sendMotd sv) :=
  (h.send _).log _

/-! ## Sockets -/

theorem discard (h : runs.Twin d d') {socket : SocketId}
    (mine : runs.part.socketOwner socket = runs.account) :
    runs.Twin (d.discard sv socket) (d'.discard sv socket) := by
  unfold LiveSession.discard
  rw [h.isClosed_eq mine]
  refine emit ?_ (.inr (congrArg some mine)) rfl
  split
  · exact h
  · exact h.emit (.inr (congrArg some mine)) rfl

theorem discard? (h : runs.Twin d d') {socket : Option SocketId}
    (mine : ∀ s, socket = some s → runs.part.socketOwner s = runs.account) :
    runs.Twin (d.discard? sv socket) (d'.discard? sv socket) := by
  cases socket with
  | none => exact h
  | some socket => exact h.discard (mine socket rfl)

theorem closeSocket (h : runs.Twin d d') : runs.Twin (d.closeSocket sv) (d'.closeSocket sv) := by
  unfold LiveSession.closeSocket
  rw [h.session]
  cases active : d.session.socket with
  | none => exact h
  | some socket => exact h.emit (.inr (congrArg some (h.belongs.socket socket active))) rfl

theorem requestNewSocket (h : runs.Twin d d') {socket : SocketId}
    (mine : runs.part.socketOwner socket = runs.account) :
    runs.Agree (d.requestNewSocket sv socket) (d'.requestNewSocket sv socket) := by
  unfold LiveSession.requestNewSocket
  rw [h.session]
  split
  · exact h.agree _
  · refine ((h.log _).become ?_).agree _
    exact { h.belongs with pending := fun _ same => Option.some_inj.mp same ▸ mine }

/-! ## The character -/

theorem attach (h : runs.Twin d d') {c : Character} (mine : runs.Has c) :
    runs.Twin (d.attach sv c) (d'.attach sv c) := by
  have attached : runs.Twin (d.modify (·.attach c)) (d'.modify (·.attach c)) :=
    h.become { h.belongs with
      player := fun _ same => Option.some_inj.mp same ▸ mine
      guid := fun _ same => Option.some_inj.mp same ▸ mine.2 }
  unfold LiveSession.attach
  rw [h.session]
  cases before : d.session.player with
  | none => exact attached
  | some old => exact attached.emit (.inr (congrArg some (h.has before).1)) rfl

theorem act (h : runs.Twin d d') {c : Character} (mine : runs.Has c) (deed : Deed) :
    runs.Twin (d.emit sv (.character c deed)) (d'.emit sv (.character c deed)) :=
  h.emit (.inr (congrArg some mine.1)) rfl

theorem deed (h : runs.Twin d d') (deed : Deed) :
    runs.Twin (d.deed sv deed) (d'.deed sv deed) := by
  unfold LiveSession.deed
  rw [h.session]
  cases attached : d.session.player with
  | none => exact h
  | some c => exact h.act (h.has attached) _

theorem setExpansion (h : runs.Twin d d') (level : UInt8) :
    runs.Twin (d.setExpansion sv level) (d'.setExpansion sv level) :=
  ((h.modify rfl).deed _).send _

theorem teardown (h : runs.Twin d d') {c : Character} (mine : runs.Has c) :
    runs.Twin { d with outside := Teardown.run sv.collaborators d.session c d.outside }
      { d' with outside := Teardown.run sv.collaborators d'.session c d'.outside } := by
  have around : runs.Around (Teardown.run sv.collaborators d.session c d.outside)
      (Teardown.run sv.collaborators d'.session c d'.outside) := by
    rw [h.session]
    exact h.around.teardown h.belongs mine
  exact h.surround around

theorem logoutCharacter (h : runs.Twin d d') {c : Character} (mine : runs.Has c) :
    runs.Twin (d.logoutCharacter sv c) (d'.logoutCharacter sv c) := by
  have resolved := h.surround (h.around.resolve mine)
  have freed : runs.Twin
      (({ d with outside := Teardown.resolve sv.collaborators c d.outside } : LiveSession W).modify
        fun s => { s with loggingOut := true, player := none })
      (({ d' with
        outside := Teardown.resolve sv.collaborators c d'.outside } : LiveSession W).modify
        fun s => { s with loggingOut := true, player := none }) :=
    resolved.become { h.belongs with player := fun _ absent => nomatch absent }
  have told := ((freed.teardown mine).send .logoutComplete).log .logoutCompleteSent
  exact told.surround (told.around.store .character (.characterOffline c.guid) mine.2
    .characterKeptOnline)

theorem logoutPlayer (h : runs.Twin d d') :
    runs.Twin (d.logoutPlayer sv) (d'.logoutPlayer sv) := by
  have reset : ∀ {e e'}, runs.Twin e e' →
      runs.Twin (e.modify (·.afterLogout sv.config)) (e'.modify (·.afterLogout sv.config)) :=
    fun h => h.become { h.belongs with player := fun _ absent => nomatch absent }
  unfold LiveSession.logoutPlayer
  rw [h.session]
  cases attached : d.session.player with
  | none => exact reset h
  | some c => exact reset (h.logoutCharacter (h.has attached))

theorem kickPlayer (h : runs.Twin d d') (save inPlace : Bool) :
    runs.Twin (d.kickPlayer sv save inPlace) (d'.kickPlayer sv save inPlace) := by
  have told : runs.Twin (d.modify fun s => { s with saveOnLogout := save })
      (d'.modify fun s => { s with saveOnLogout := save }) := h.modify rfl
  unfold LiveSession.kickPlayer
  dsimp only
  split
  · exact told.logoutPlayer
  · exact told.modify rfl

/-! ## The life of the session -/

theorem sendTimeSync (h : runs.Twin d d') :
    runs.Twin (d.sendTimeSync sv) (d'.sendTimeSync sv) := by
  unfold LiveSession.sendTimeSync
  rw [h.session]
  exact (h.send _).modify rfl

theorem resetTimeSync (h : runs.Twin d d') : runs.Twin d.resetTimeSync d'.resetTimeSync :=
  h.modify rfl

theorem updateTimeSync (h : runs.Twin d d') :
    runs.Twin (d.updateTimeSync sv) (d'.updateTimeSync sv) := by
  unfold LiveSession.updateTimeSync
  rw [h.session]
  split
  · exact h.sendTimeSync
  · exact h

theorem timeSyncResponse (h : runs.Twin d d') (counter clientTicks : UInt32) :
    runs.Agree (d.timeSyncResponse sv counter clientTicks)
      (d'.timeSyncResponse sv counter clientTicks) := by
  unfold LiveSession.timeSyncResponse
  rw [h.session]
  cases d.session.timeSync.answer? d.session.now counter clientTicks with
  | none => exact (h.log _).agree _
  | some answer => exact ((h.modify rfl).log _).agree _

theorem abandonPlayer (h : runs.Twin d d') :
    runs.Twin (d.abandonPlayer sv) (d'.abandonPlayer sv) := by
  unfold LiveSession.abandonPlayer
  rw [h.session]
  cases attached : d.session.player with
  | none => exact h
  | some c =>
    have told : runs.Twin (d.emit sv (.world c.guid .sendFriendOffline))
        (d'.emit sv (.world c.guid .sendFriendOffline)) :=
      h.emit (.inr (congrArg some (h.has attached).2)) rfl
    exact told.modify rfl

theorem dropSocket (h : runs.Twin d d') : runs.Twin (d.dropSocket sv) (d'.dropSocket sv) := by
  unfold LiveSession.dropSocket
  rw [h.session]
  refine discard? (h.become ?_) h.belongs.socket
  exact { h.belongs with socket := fun _ absent => nomatch absent }

theorem setOffline (h : runs.Twin d d') : runs.Twin (d.setOffline sv) (d'.setOffline sv) :=
  (h.abandonPlayer.dropSocket.modify rfl).log _

theorem setOnline (h : runs.Twin d d') : runs.Agree (d.setOnline sv) (d'.setOnline sv) := by
  unfold LiveSession.setOnline
  rw [h.session, h.socketOpen_eq]
  split
  · have ready : runs.Twin d.goReady d'.goReady := h.modify rfl
    exact ready.resetTimeSync.sendTimeSync.agree _
  · exact h.agree _

theorem shutdown (h : runs.Twin d d') : runs.Twin (d.shutdown sv) (d'.shutdown sv) := by
  have logged_out : ∀ {e e'}, runs.Twin e e' → runs.Twin
      (if e.session.player.isSome then e.logoutPlayer sv else e)
      (if e'.session.player.isSome then e'.logoutPlayer sv else e') := by
    intro e e' h
    rw [h.session]
    split
    · exact h.logoutPlayer
    · exact h
  have let_go : ∀ {e e'}, runs.Twin e e' → runs.Twin
      ((((e.modify fun s => { s with socket := none, pending := none }).discard? sv
        e.session.socket).discard? sv e.session.pending).log sv .sessionShutDown)
      ((((e'.modify fun s => { s with socket := none, pending := none }).discard? sv
        e'.session.socket).discard? sv e'.session.pending).log sv .sessionShutDown) := by
    intro e e' h
    rw [h.session]
    refine ((discard? (h.become ?_) h.belongs.socket).discard? h.belongs.pending).log _
    exact { h.belongs with
      socket := fun _ absent => nomatch absent
      pending := fun _ absent => nomatch absent }
  unfold LiveSession.shutdown
  rw [h.session]
  split
  · exact h
  · exact let_go (logged_out (h.modify rfl))

/-! ## The databases -/

theorem call (h : runs.Twin d d') {db : Database} {statement : Statement}
    (own : statement.owner runs.part = runs.account) :
    runs.Agree (d.call sv db (.execute statement)) (d'.call sv db (.execute statement)) :=
  ⟨h.around.calling_eq (.inr (congrArg some own)), h.emit (.inr (congrArg some own)) rfl⟩

theorem query (h : runs.Twin d d') {statement : Statement}
    (own : statement.owner runs.part = runs.account) :
    runs.Agree (d.query sv statement) (d'.query sv statement) :=
  ⟨runs.separates.rows (own.symm ▸ h.around.alike), h.emit (.inr (congrArg some own)) rfl⟩

theorem loadAccountData (h : runs.Twin d d') (mask : UInt32) (rows : List Row) :
    runs.Twin (d.loadAccountData sv mask rows) (d'.loadAccountData sv mask rows) := by
  unfold LiveSession.loadAccountData
  rw [h.session]
  exact (h.modify rfl).logAll _

theorem fetchAccountData (h : runs.Twin d d') (mask : UInt32) {statement : Statement}
    (own : statement.owner runs.part = runs.account) :
    runs.Agree (d.fetchAccountData sv mask statement) (d'.fetchAccountData sv mask statement) := by
  unfold LiveSession.fetchAccountData
  refine (h.query own).elim fun answer {_ _} h => ?_
  cases answer with
  | error e => exact h.agree _
  | ok rows => exact (h.loadAccountData mask _).agree _

theorem loadGlobalAccountData (h : runs.Twin d d') :
    runs.Agree (d.loadGlobalAccountData sv) (d'.loadGlobalAccountData sv) := by
  unfold LiveSession.loadGlobalAccountData
  rw [h.session]
  exact h.fetchAccountData _ h.belongs.owner

theorem loadCharacterAccountData (h : runs.Twin d d') :
    runs.Agree (d.loadCharacterAccountData sv) (d'.loadCharacterAccountData sv) := by
  unfold LiveSession.loadCharacterAccountData
  rw [h.session]
  cases last : d.session.characterGuid with
  | none => exact h.agree _
  | some guid => exact h.fetchAccountData _ (h.belongs.guid guid last)

theorem giveUp (h : runs.Twin d d') {o o' : Outside W} (before : runs.Matches o o')
    (ended : runs.Around (o.emit sv.collaborators (.database .character .rollback))
      (o'.emit sv.collaborators (.database .character .rollback)))
    (e : PersistenceError) :
    runs.Agree
      (match ({ d with outside := o } : LiveSession W).call sv .character .rollback with
      | (.ok (), d) => (Except.error e, d)
      | (.error _, d) => (.error e, d.log sv .rollbackFailed))
      (match ({ d' with outside := o' } : LiveSession W).call sv .character .rollback with
      | (.ok (), d) => ((.error e : Except PersistenceError Unit), d)
      | (.error _, d) => (.error e, d.log sv .rollbackFailed)) := by
  simp only [LiveSession.call, Outside.call]
  rw [before.calling_eq (.inl rfl)]
  cases sv.collaborators.calling o.world .character .rollback with
  | ok => exact (h.surround ended).agree _
  | error => exact ((h.surround ended).log _).agree _

theorem transact (h : runs.Twin d d') {first second : Statement}
    (own : first.owner runs.part = runs.account)
    (own' : second.owner runs.part = runs.account) :
    runs.Agree (d.transact sv first second) (d'.transact sv first second) := by
  have about : (Effect.database .character (.execute first)).Of runs.part runs.account :=
    .inr (congrArg some own)
  have about' : (Effect.database .character (.execute second)).Of runs.part runs.account :=
    .inr (congrArg some own')
  have shared : ∀ call : DatabaseCall, call.owner? runs.part = none →
      (Effect.database .character call).Of runs.part runs.account := fun _ => .inl
  have only : ∀ statement ∈ [first], statement.owner runs.part = runs.account :=
    List.forall_mem_singleton.mpr own
  have both : ∀ statement ∈ [first, second], statement.owner runs.part = runs.account :=
    List.forall_mem_cons.mpr ⟨own, List.forall_mem_singleton.mpr own'⟩
  -- The two runs match from call to call; what others notice is asked once it is over.
  have begins := h.around.toMatches.emit (shared .begin rfl)
  have stepped := begins.emit about
  have stepped' := stepped.emit about'
  simp only [LiveSession.transact, LiveSession.executeBoth, LiveSession.call, Outside.call]
  rw [h.around.calling_eq (shared .begin rfl)]
  cases begun : sv.collaborators.calling d.outside.world .character .begin with
  | error e =>
    have ended : runs.Around _ _ := ⟨begins, aside_of_bout h.around.aside (.refused begun),
      aside_of_bout h.around.aside'
        (.refused ((h.around.calling_eq (shared .begin rfl)).trans begun))⟩
    exact (h.surround ended).agree _
  | ok =>
    dsimp only
    rw [begins.calling_eq about]
    cases sv.collaborators.calling _ .character (.execute first) with
    | error e => exact h.giveUp stepped (h.around.transaction begun only (.inr rfl)) e
    | ok =>
      dsimp only
      rw [stepped.calling_eq about']
      cases sv.collaborators.calling _ .character (.execute second) with
      | error e => exact h.giveUp stepped' (h.around.transaction begun both (.inr rfl)) e
      | ok =>
        have ended := h.around.transaction begun both (.inl rfl)
        dsimp only
        rw [stepped'.calling_eq (shared .commit rfl)]
        exact (h.surround ended).agree _

theorem setAccountData (h : runs.Twin d d') (type : Nat) (time : UInt64) (data : String) :
    runs.Agree (d.setAccountData sv type time data) (d'.setAccountData sv type time data) := by
  unfold LiveSession.setAccountData
  rw [h.session]
  split
  · next small =>
    cases replacing : LiveSession.replaceStatements? d.session type time data with
    | none => exact (h.log _).agree _
    | some both =>
      obtain ⟨own, own'⟩ := owner_replaceStatements? h.belongs replacing
      have cached : runs.Twin
          (d.modify fun s =>
            { s with accountData := s.accountData.set type { time, data } small })
          (d'.modify fun s =>
            { s with accountData := s.accountData.set type { time, data } small }) := h.modify rfl
      dsimp only
      refine (cached.transact own own').elim fun answer {_ _} h => ?_
      cases answer with
      | ok => exact h.agree _
      | error => exact h.agree _
  · exact h.agree _

theorem sendAccountDataTimes (h : runs.Twin d d') (mask : UInt32) :
    runs.Twin (d.sendAccountDataTimes sv mask) (d'.sendAccountDataTimes sv mask) := by
  unfold LiveSession.sendAccountDataTimes
  rw [h.session, runs.separates.unixTime h.around.alike]
  exact h.send _

theorem loadTutorials (h : runs.Twin d d') :
    runs.Agree (d.loadTutorials sv) (d'.loadTutorials sv) := by
  unfold LiveSession.loadTutorials
  rw [h.session]
  have asked : runs.Agree (d.query sv (.selectTutorials d.session.account))
      (d'.query sv (.selectTutorials d.session.account)) := h.query h.belongs.owner
  refine asked.elim fun answer {_ _} h => ?_
  dsimp only
  rw [h.session]
  exact (h.modify rfl).agree _

theorem saveTutorials (h : runs.Twin d d') :
    runs.Agree (d.saveTutorials sv) (d'.saveTutorials sv) := by
  unfold LiveSession.saveTutorials
  rw [h.session]
  cases due : d.session.tutorials.statement? d.session.account with
  | none => exact h.agree _
  | some statement =>
    have own : statement.owner runs.part = runs.account := by
      refine Eq.trans ?_ h.belongs.owner
      unfold Tutorials.statement? at due
      split at due <;> cases due <;> rfl
    dsimp only
    refine (h.call own).elim fun answer {_ _} h => ?_
    cases answer with
    | error e => exact h.agree _
    | ok => exact (h.modify rfl).agree _

/-! ## Addons -/

theorem readAddons (h : runs.Twin d d') (env : Envelope) :
    runs.Agree (d.readAddons sv env) (d'.readAddons sv env) := by
  have read := h.logAll (AddonManifest.read env).1.notices
  unfold LiveSession.readAddons
  dsimp only
  split
  · exact (read.modify rfl).agree _
  · exact (read.log _).agree _

theorem sendAddonsInfo (h : runs.Twin d d') :
    runs.Twin (d.sendAddonsInfo sv) (d'.sendAddonsInfo sv) := by
  unfold LiveSession.sendAddonsInfo
  rw [h.session]
  exact (h.modify rfl).send _

end Twin

end TwoRuns

end GameRealm
