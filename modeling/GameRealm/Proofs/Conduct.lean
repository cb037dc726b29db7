import GameRealm.Proofs.LogoutOrder

/-!
# What a session says and does

Whatever a session does to its surroundings it does through a few functions. Most of them say
one kind of message or none, do nothing to a character, and leave in place what the session
holds on to. This module says so once for every function, for whatever messages and deeds are
of interest:

1. a `Conduct` lists what may be said to a client and done to a character, and `LiveSession.Shows`
   says of two moments that nothing else was said or done in between;
2. `LiveSession.Behaves` adds that only `Moves` were made. Each function of a session has a lemma
   that says what a conduct has to list for it;
3. `Operation.Fits`, `SessionState.Fits` and `Event.Fits` gather that up (`behaves_apply`), for
   every event but three, which bring in something new: a character, a socket, or a change of
   the surroundings;
4. `shows_apply` says that an event that fits a conduct keeps to it, and `moves_apply` that
   every event that brings in nothing new is made up of moves, since any event fits the conduct
   that lists everything.
-/

namespace GameRealm

open Outside

/-- What a session may say to its client and do to its character. Everything else it may do
anyway. -/
structure Conduct where
  tells : Message → Prop
  does : Deed → Prop

namespace Conduct

variable (conduct : Conduct)

/-- Whether an effect is nothing that the conduct does not list. -/
def Allows : Effect → Prop
  | .send _ message => conduct.tells message
  | .character _ deed => conduct.does deed
  | _ => True

theorem allows_of_plain {effect : Effect} (plain : effect.Plain) : conduct.Allows effect := by
  cases effect <;> trivial

end Conduct

/-- Whether a logout may do it to its character. -/
def Deed.tearsDown : Deed → Bool
  | delayTeleport _ | executeDelayedTeleport | expansionChange _ => false
  | _ => true

structure Conduct.LogsOut (conduct : Conduct) : Prop where
  parting : conduct.tells .logoutComplete
  teardown : ∀ deed : Deed, deed.tearsDown = true → conduct.does deed

/-! ## Logouts -/

namespace LogoutStep

variable {co : Collaborators W} {s : Session} {c : Character} {effect : Effect} {world : W}
  {conduct : Conduct}

theorem allows_arrival (out : conduct.LogsOut) {limit : Nat}
    (mem : effect ∈ co.arrival c limit world) : conduct.Allows effect := by
  rcases mem_arrival mem with rfl | rfl
  · exact out.teardown _ rfl
  · trivial

theorem allows_stored {db : Database} {statement : Statement} {failed : Notice}
    (mem : effect ∈ co.stored db statement failed world) : conduct.Allows effect := by
  rcases mem_stored mem with rfl | rfl <;> trivial

theorem allows_effects (out : conduct.LogsOut) (step : LogoutStep) :
    ∀ effect ∈ step.effects co s c world, conduct.Allows effect := by
  have arrives {limit : Nat} {world : W} :
      ∀ effect ∈ co.arrival c limit world, conduct.Allows effect :=
    fun _ => allows_arrival out
  cases step with
  | resolveTeleport => exact arrives
  | clearActivity => exact fun _ => allows_stored
  | markOffline => exact fun _ => allows_stored
  | returnHome =>
    simp only [effects]
    split
    · exact fun _ mem => absurd mem List.not_mem_nil
    · exact List.forall_mem_cons.mpr ⟨out.teardown _ rfl, arrives⟩
  | _ =>
    simp only [effects]
    repeat' split
    all_goals simp +decide [Conduct.Allows, out.teardown, out.parting]

/-- A logout says and does nothing but what it should. -/
theorem allows_script (out : conduct.LogsOut) {steps : List LogoutStep}
    (mem : effect ∈ script co s c steps world) : conduct.Allows effect := by
  obtain ⟨before, step, after, -, shown⟩ := mem_script.mp mem
  exact allows_effects out step effect shown

end LogoutStep

theorem Outside.emits_emitAll {co : Collaborators W} {kind : Effect → Prop}
    {effects : List Effect} (fit : ∀ effect ∈ effects, kind effect) (outside : Outside W) :
    Emits co kind outside (outside.emitAll co effects) := by
  induction effects generalizing outside with
  | nil => exact .refl
  | cons effect effects ih =>
    have first : Emits co kind outside (outside.emit co effect) :=
      .one (fit effect List.mem_cons_self) outside
    exact first.trans (ih (fun other mem => fit other (List.mem_cons_of_mem _ mem)) _)

/-! ## Functions of a session -/

namespace LiveSession

/-- Nothing was said or done in between but what the conduct lists. -/
structure Shows (sv : Services W) (conduct : Conduct) (before after : LiveSession W) : Prop where
  emits : Emits sv.collaborators conduct.Allows before.outside after.outside

/-- Only moves were made in between, and they keep to the conduct. -/
structure Behaves (sv : Services W) (conduct : Conduct) (before after : LiveSession W) : Prop where
  moves : Moves sv before after
  shows : before.Shows sv conduct after

section
variable {sv : Services W} {conduct : Conduct} (d : LiveSession W)

theorem Shows.refl : d.Shows sv conduct d := ⟨Emits.refl⟩

theorem Shows.trans {d e f : LiveSession W} (h : d.Shows sv conduct e) (h' : e.Shows sv conduct f) :
    d.Shows sv conduct f :=
  ⟨h.emits.trans h'.emits⟩

theorem shows_emit {effect : Effect} (allowed : conduct.Allows effect) :
    d.Shows sv conduct (d.emit sv effect) :=
  ⟨.one allowed d.outside⟩

theorem shows_modify (change : Session → Session) : d.Shows sv conduct (d.modify change) :=
  ⟨.refl⟩

theorem shows_log (notice : Notice) : d.Shows sv conduct (d.log sv notice) := shows_emit d trivial

theorem shows_discard? (socket : Option SocketId) :
    d.Shows sv conduct (d.discard? sv socket) := by
  cases socket with
  | none => exact .refl d
  | some socket =>
    have closed : d.Shows sv conduct (d.emit sv (.close socket)) := shows_emit d trivial
    change d.Shows sv conduct (d.discard sv socket)
    unfold discard
    split
    · exact shows_emit d trivial
    · exact closed.trans (shows_emit _ trivial)

theorem Behaves.refl : d.Behaves sv conduct d := ⟨.refl, .refl d⟩

theorem Behaves.trans {d e f : LiveSession W} (h : d.Behaves sv conduct e)
    (h' : e.Behaves sv conduct f) : d.Behaves sv conduct f :=
  ⟨h.moves.trans h'.moves, h.shows.trans h'.shows⟩

theorem behaves_emit {effect : Effect}
    (permitted : d.session.Permits sv.collaborators d.outside.world effect)
    (allowed : conduct.Allows effect) : d.Behaves sv conduct (d.emit sv effect) :=
  ⟨Moves.refl.emit permitted, shows_emit d allowed⟩

theorem behaves_modify {change : Session → Session}
    (kept : (change d.session).holding = d.session.holding) :
    d.Behaves sv conduct (d.modify change) :=
  ⟨Moves.refl.modify kept, shows_modify d change⟩

theorem behaves_plain {outside : Outside W}
    (plain : Emits sv.collaborators Effect.Plain d.outside outside) :
    d.Behaves sv conduct { d with outside } :=
  ⟨moves_plain d plain, ⟨plain.mono fun _ => conduct.allows_of_plain⟩⟩

theorem behaves_inbox (inbox : Inbox W) : d.Behaves sv conduct { d with inbox } :=
  ⟨Moves.refl.inbox inbox, ⟨.refl⟩⟩

theorem behaves_log (notice : Notice) : d.Behaves sv conduct (d.log sv notice) :=
  behaves_emit d trivial trivial

theorem behaves_logAll (notices : List Notice) : d.Behaves sv conduct (d.logAll sv notices) :=
  behaves_plain d (emits_logAll (fun _ => trivial) notices _)

theorem behaves_enqueue (env : Envelope) :
    d.Behaves sv conduct { d with toLiveInbox := d.toLiveInbox.enqueue sv env } :=
  (behaves_plain d (LiveInbox.plain_enqueueWithin sv.nesting env d.toLiveInbox)).trans
    (behaves_inbox _ (d.toLiveInbox.enqueue sv env).inbox)

theorem behaves_send {message : Message} (tells : conduct.tells message) :
    d.Behaves sv conduct (d.send sv message) := by
  unfold send
  split
  · exact .refl d
  · next socket active =>
    split
    · exact .refl d
    · next stillOpen => exact behaves_emit d ⟨active, Bool.eq_false_iff.mpr stillOpen⟩ tells

theorem behaves_dropSocket : d.Behaves sv conduct (d.dropSocket sv) :=
  ⟨Moves.refl.dropSocket, (shows_modify d _).trans (shows_discard? _ _)⟩

theorem behaves_dropPending : d.Behaves sv conduct (d.dropPending sv) :=
  ⟨Moves.refl.dropPending, (shows_modify d _).trans (shows_discard? _ _)⟩

theorem behaves_closeSocket : d.Behaves sv conduct (d.closeSocket sv) := by
  unfold closeSocket
  split
  · exact .refl d
  · next socket active => exact behaves_emit d active trivial

theorem behaves_deed {act : Deed} (does : conduct.does act) :
    d.Behaves sv conduct (d.deed sv act) := by
  unfold deed
  split
  · exact .refl d
  · next c attached => exact behaves_emit d attached does

theorem behaves_endDelay (off : conduct.does (.delayTeleport false))
    (performs : conduct.does .executeDelayedTeleport) :
    d.Behaves sv conduct (d.endDelay sv) := by
  unfold endDelay
  split
  · exact .refl d
  · next c attached =>
    have switched : d.Behaves sv conduct (d.emit sv (.character c (.delayTeleport false))) :=
      behaves_emit d attached off
    simp only
    split
    · exact switched.trans (behaves_emit (d.emit sv _) attached performs)
    · exact switched

/-! ### The life of a session -/

theorem behaves_sendTimeSync (asks : ∀ counter, conduct.tells (.timeSyncRequest counter)) :
    d.Behaves sv conduct (d.sendTimeSync sv) := by
  unfold sendTimeSync
  exact (behaves_send d (asks _)).trans (behaves_modify _ rfl)

theorem behaves_updateTimeSync (asks : ∀ counter, conduct.tells (.timeSyncRequest counter)) :
    d.Behaves sv conduct (d.updateTimeSync sv) := by
  unfold updateTimeSync
  split
  · exact behaves_sendTimeSync d asks
  · exact .refl d

theorem behaves_timeSyncResponse (counter ticks : UInt32) :
    d.Behaves sv conduct (d.timeSyncResponse sv counter ticks).2 := by
  unfold timeSyncResponse
  split
  · exact behaves_log d _
  · exact (behaves_modify d rfl).trans (behaves_log _ _)

theorem behaves_setOffline : d.Behaves sv conduct (d.setOffline sv) := by
  have abandoned : d.Behaves sv conduct (d.abandonPlayer sv) := by
    unfold abandonPlayer
    split
    · exact .refl d
    · next c attached =>
      have told : d.Behaves sv conduct (d.emit sv (.world c.guid .sendFriendOffline)) :=
        behaves_emit d ⟨c, attached, rfl⟩ trivial
      exact told.trans (behaves_modify _ rfl)
  exact ((abandoned.trans (behaves_dropSocket _)).trans (behaves_modify _ rfl)).trans
    (behaves_log _ _)

theorem behaves_setOnline (asks : ∀ counter, conduct.tells (.timeSyncRequest counter)) :
    d.Behaves sv conduct (d.setOnline sv).2 := by
  unfold setOnline
  split
  · have ready : d.Behaves sv conduct d.goReady.resetTimeSync :=
      (behaves_modify d rfl).trans (behaves_modify _ rfl)
    exact ready.trans (behaves_sendTimeSync _ asks)
  · exact .refl d

theorem behaves_logoutPlayer (out : conduct.LogsOut) :
    d.Behaves sv conduct (d.logoutPlayer sv) := by
  refine ⟨Moves.refl.logout, ⟨?_⟩⟩
  cases attached : d.session.player with
  | none =>
    rw [outside_logoutPlayer_of_none attached]
    exact .refl
  | some c =>
    rw [logoutPlayer_eq_script attached]
    exact emits_emitAll (fun _ => LogoutStep.allows_script out) _

theorem behaves_kickPlayer {save inPlace : Bool} (out : inPlace = true → conduct.LogsOut) :
    d.Behaves sv conduct (d.kickPlayer sv save inPlace) := by
  unfold kickPlayer
  simp only
  split
  · next now => exact (behaves_modify d rfl).trans (behaves_logoutPlayer _ (out now))
  · exact (behaves_modify d rfl).trans (behaves_modify _ rfl)

theorem behaves_shutdown (out : conduct.LogsOut) : d.Behaves sv conduct (d.shutdown sv) := by
  have left : ∀ e : LiveSession W,
      e.Behaves sv conduct (if e.session.player.isSome then e.logoutPlayer sv else e) := by
    intro e
    split
    · exact behaves_logoutPlayer e out
    · exact .refl e
  unfold shutdown
  split
  · exact .refl d
  · simp only [discard_both]
    exact ((((behaves_modify d rfl).trans (left _)).trans (behaves_dropSocket _)).trans
      (behaves_dropPending _)).trans (behaves_log _ _)

theorem behaves_activate {socket : SocketId} (waits : d.session.pending = some socket)
    (greets : conduct.tells .authOk) : d.Behaves sv conduct (d.activate sv socket) := by
  -- What is noted of the socket that waits is put off until it takes over.
  have late : ∀ e : LiveSession W, d.Behaves sv conduct e → e.session.socket = none →
      e.session.pending = some socket →
      d.Behaves sv conduct ((((e.modify fun s => { s with pending := none }).log sv
        .replacementActivated).modify fun s => { s with socket := some socket }).send sv
          .authOk) := by
    intro e behaves free still
    have taken : (e.log sv .replacementActivated).takeOver =
        ((e.modify fun s => { s with pending := none }).log sv .replacementActivated).modify
          fun s => { s with socket := some socket } := by
      unfold takeOver
      rw [← still]
      rfl
    have takes : (e.log sv .replacementActivated).Behaves sv conduct
        (e.log sv .replacementActivated).takeOver :=
      ⟨Moves.refl.takeOver free (by simp [still]), shows_modify _ _⟩
    rw [taken] at takes
    exact ((behaves.trans (behaves_log e _)).trans takes).trans (behaves_send _ greets)
  unfold activate
  simp only
  split
  · rw [setOffline_forget]
    refine late (d.setOffline sv) (behaves_setOffline d) ?_ ?_
    · rw [(frame_setOffline _).1]
      rfl
    · rw [(frame_setOffline _).1]
      exact waits
  · next inactive => exact late d (.refl d) (Option.not_isSome_iff_eq_none.mp inactive) waits

/-! ### Databases -/

theorem behaves_of_call {db : Database} {call : DatabaseCall} {e : LiveSession W}
    {result : Except PersistenceError Unit} (h : d.call sv db call = (result, e)) :
    d.Behaves sv conduct e := by
  have called : d.Behaves sv conduct (d.call sv db call).2 := behaves_plain d (.one trivial _)
  rwa [h] at called

theorem behaves_of_query {statement : Statement} {e : LiveSession W}
    {result : Except PersistenceError (Option (List Row))}
    (h : d.query sv statement = (result, e)) : d.Behaves sv conduct e := by
  have asked : d.Behaves sv conduct (d.query sv statement).2 := behaves_plain d (.one trivial _)
  rwa [h] at asked

theorem behaves_executeBoth (first second : Statement) :
    d.Behaves sv conduct (d.executeBoth sv first second).2 := by
  unfold executeBoth
  split
  · next h => exact behaves_of_call d h
  · next e h => exact (behaves_of_call d h).trans (behaves_of_call e rfl)

theorem behaves_transact (first second : Statement) :
    d.Behaves sv conduct (d.transact sv first second).2 := by
  unfold transact
  split
  · next h => exact behaves_of_call d h
  · next e began =>
    have both : d.Behaves sv conduct (e.executeBoth sv first second).2 :=
      (behaves_of_call d began).trans (behaves_executeBoth e first second)
    split
    · next ran =>
      rw [ran] at both
      exact both.trans (behaves_of_call _ rfl)
    · next ran =>
      rw [ran] at both
      split
      · next ended => exact both.trans (behaves_of_call _ ended)
      · next ended => exact (both.trans (behaves_of_call _ ended)).trans (behaves_log _ _)

theorem behaves_loadAccountData (mask : UInt32) (rows : List Row) :
    d.Behaves sv conduct (d.loadAccountData sv mask rows) :=
  (behaves_modify d rfl).trans (behaves_logAll _ _)

theorem behaves_fetchAccountData (mask : UInt32) (statement : Statement) :
    d.Behaves sv conduct (d.fetchAccountData sv mask statement).2 := by
  unfold fetchAccountData
  split
  · next h => exact behaves_of_query d h
  · next h => exact (behaves_of_query d h).trans (behaves_loadAccountData _ _ _)

theorem behaves_loadCharacterAccountData :
    d.Behaves sv conduct (d.loadCharacterAccountData sv).2 := by
  unfold loadCharacterAccountData
  split
  · exact .refl d
  · exact behaves_fetchAccountData d _ _

theorem behaves_setAccountData (type : Nat) (time : UInt64) (data : String) :
    d.Behaves sv conduct (d.setAccountData sv type time data).2 := by
  unfold setAccountData
  split
  · next valid =>
    split
    · exact behaves_log d _
    · next delete insert _ =>
      have cached : d.Behaves sv conduct (d.modify fun s =>
        { s with accountData := s.accountData.set type { time, data } valid }) :=
        behaves_modify d rfl
      have stored := cached.trans (behaves_transact _ delete insert)
      simp only
      split <;> next ran =>
        rw [ran] at stored
        exact stored
  · exact .refl d

theorem behaves_loadTutorials : d.Behaves sv conduct (d.loadTutorials sv).2 := by
  have asked : d.Behaves sv conduct (d.query sv (.selectTutorials d.session.account)).2 :=
    behaves_of_query d rfl
  simp only [loadTutorials]
  exact asked.trans (behaves_modify _ rfl)

theorem behaves_saveTutorials : d.Behaves sv conduct (d.saveTutorials sv).2 := by
  unfold saveTutorials
  split
  · exact .refl d
  · split
    · next h => exact behaves_of_call d h
    · next h =>
      simp only
      exact (behaves_of_call d h).trans (behaves_modify _ rfl)

/-! ### Addons -/

theorem behaves_readAddons (env : Envelope) : d.Behaves sv conduct (d.readAddons sv env).2 := by
  unfold readAddons
  simp only
  split
  · simp only
    exact (behaves_logAll d _).trans (behaves_modify _ rfl)
  · exact (behaves_logAll d _).trans (behaves_log _ _)

theorem behaves_sendAddonsInfo
    (lists : ∀ addons banned, conduct.tells (.addonInfo addons banned)) :
    d.Behaves sv conduct (d.sendAddonsInfo sv) :=
  (behaves_modify d rfl).trans (behaves_send _ (lists _ _))

/-! ### What is brought in -/

theorem shows_requestNewSocket (socket : SocketId) :
    d.Shows sv conduct (d.requestNewSocket sv socket).2 := by
  unfold requestNewSocket
  split
  · exact .refl d
  · simp only
    exact (shows_log d _).trans (shows_modify _ _)

theorem shows_attach (c : Character) : d.Shows sv conduct (d.attach sv c) := by
  have attached : d.Shows sv conduct (d.modify (·.attach c)) := shows_modify d _
  simp only [attach]
  split
  · exact attached
  · next old _ =>
    have released : conduct.Allows (.release old) := trivial
    exact attached.trans (shows_emit _ released)

end

end LiveSession

/-! ## Whatever happens to a session -/

/-- Whether an event brings in something new: a character, a socket, or a change of the
surroundings that the session has no part in. -/
def Event.bringsIn : Event W → Bool
  | perform (.attach _) | perform (.requestNewSocket _) | perform (.outside _) => true
  | _ => false

/-- The conduct lists what an operation says and does. What happens to the surroundings without
the session is not a matter of conduct. -/
def Operation.Fits (conduct : Conduct) : Operation W → Prop
  | setOnline | sendTimeSync => ∀ counter, conduct.tells (.timeSyncRequest counter)
  | setExpansion level => conduct.does (.expansionChange level) ∧ conduct.tells .authOk
  | logoutPlayer | shutdown => conduct.LogsOut
  | kickPlayer _ inPlace => inPlace = true → conduct.LogsOut
  | send message => conduct.tells message
  | sendAuthQueued | sendAuthWaitQueue _ =>
    ∀ verdict place, conduct.tells (.authResponse verdict place)
  | sendMotd => ∀ lines, conduct.tells (.motd lines)
  | sendAccountDataTimes _ => ∀ time mask times, conduct.tells (.accountDataTimes time mask times)
  | sendTutorials => ∀ flags, conduct.tells (.tutorialFlags flags)
  | sendAddonsInfo => ∀ addons banned, conduct.tells (.addonInfo addons banned)
  | deed act => conduct.does act
  | outside _ => False
  | _ => True

def SessionState.Fits (conduct : Conduct) : SessionState → Prop
  | created => (∀ verdict place, conduct.tells (.authResponse verdict place)) ∧
    ∀ addons banned, conduct.tells (.addonInfo addons banned)
  | charSelection | offline => conduct.LogsOut
  | ready => conduct.LogsOut ∧ ∀ counter, conduct.tells (.timeSyncRequest counter)

def Event.Fits (conduct : Conduct) (s : Session) : Event W → Prop
  | perform operation => operation.Fits conduct
  | invoke .. => conduct.does (.delayTeleport true)
  | handled .. => conduct.does (.delayTeleport false) ∧ conduct.does .executeDelayedTeleport
  | advance _ => s.state.Fits conduct
  | _ => True

def Conduct.any : Conduct where
  tells _ := True
  does _ := True

theorem Conduct.logsOut_any : Conduct.any.LogsOut := ⟨trivial, fun _ _ => trivial⟩

/-- Everything that brings in nothing new fits the conduct that lists everything. -/
theorem Event.fits_any {event : Event W} (s : Session) (own : event.bringsIn = false) :
    event.Fits Conduct.any s := by
  cases event with
  | perform operation =>
    cases operation with
    | outside => cases own
    | logoutPlayer | shutdown => exact Conduct.logsOut_any
    | kickPlayer => exact fun _ => Conduct.logsOut_any
    | setExpansion => exact ⟨trivial, trivial⟩
    | _ => simp [Event.Fits, Operation.Fits, Conduct.any]
  | advance now =>
    simp only [Event.Fits]
    cases s.state with
    | created => exact ⟨fun _ _ => trivial, fun _ _ => trivial⟩
    | charSelection | offline => exact Conduct.logsOut_any
    | ready => exact ⟨Conduct.logsOut_any, fun _ => trivial⟩
  | handled => exact ⟨trivial, trivial⟩
  | _ => trivial

namespace LiveSession

section
variable {sv : Services W} {conduct : Conduct} (d : LiveSession W)

theorem behaves_run {operation : Operation W}
    (own : Event.bringsIn (.perform operation) = false) (fits : operation.Fits conduct) :
    d.Behaves sv conduct (operation.run sv d).2 := by
  cases operation with
  | attach => cases own
  | requestNewSocket => cases own
  | outside => cases own
  | setOnline => exact behaves_setOnline d fits
  | setOffline => exact behaves_setOffline d
  | setExpansion level =>
    exact ((behaves_modify d rfl).trans (behaves_deed _ fits.1)).trans (behaves_send _ fits.2)
  | logoutPlayer => exact behaves_logoutPlayer d fits
  | kickPlayer save inPlace => exact behaves_kickPlayer d fits
  | closeSocket => exact behaves_closeSocket d
  | shutdown => exact behaves_shutdown d fits
  | send message => exact behaves_send d fits
  | sendAuthQueued => exact behaves_send d (fits _ _)
  | sendAuthWaitQueue position =>
    simp only [Operation.run, sendAuthWaitQueue]
    split <;> exact behaves_send d (fits _ _)
  | sendMotd => exact (behaves_send d (fits _)).trans (behaves_log _ _)
  | loadGlobalAccountData => exact behaves_fetchAccountData d _ _
  | loadCharacterAccountData => exact behaves_loadCharacterAccountData d
  | loadAccountData mask rows => exact behaves_loadAccountData d mask rows
  | setAccountData type time data => exact behaves_setAccountData d type time data
  | sendAccountDataTimes mask => exact behaves_send d (fits _ _ _)
  | loadTutorials => exact behaves_loadTutorials d
  | saveTutorials => exact behaves_saveTutorials d
  | sendTutorials => exact behaves_send d (fits _)
  | readAddons env => exact behaves_readAddons d env
  | sendAddonsInfo => exact behaves_sendAddonsInfo d fits
  | sendTimeSync => exact behaves_sendTimeSync d fits
  | timeSyncResponse counter ticks => exact behaves_timeSyncResponse d counter ticks
  | enqueue env => exact behaves_enqueue d env
  | deleteMovementPackets => exact behaves_inbox d _
  | deed act => exact behaves_deed d fits
  | wrongSize env expected => exact behaves_log d _
  | opcodeName => exact .refl d
  | log notice => exact behaves_log d notice
  | remark speaker text => exact behaves_emit d trivial trivial
  | resetTimeSync =>
    simp only [Operation.run, resetTimeSync]
    exact behaves_modify d rfl
  | _ =>
    simp only [Operation.run]
    exact behaves_modify d rfl

theorem behaves_advanceCreated
    (greets : ∀ verdict place, conduct.tells (.authResponse verdict place))
    (lists : ∀ addons banned, conduct.tells (.addonInfo addons banned)) :
    d.Behaves sv conduct (d.advanceCreated sv) := by
  have rest : ∀ e : LiveSession W, e.Behaves sv conduct
      ((if e.session.addons.isEmpty then e else e.sendAddonsInfo sv).modify
        (·.toCharSelection sv.config)) := by
    intro e
    split
    · exact behaves_modify e rfl
    · exact (behaves_sendAddonsInfo e lists).trans (behaves_modify _ rfl)
  unfold advanceCreated
  cases waits : d.session.pending with
  | some socket => exact (behaves_activate d waits (greets _ _)).trans (rest _)
  | none =>
    simp only
    refine Behaves.trans ?_ (rest _)
    split <;> exact behaves_send d (greets _ _)

theorem behaves_logoutIfDue (now : Instant) (out : conduct.LogsOut) :
    d.Behaves sv conduct (d.logoutIfDue sv now) := by
  unfold logoutIfDue
  split
  · exact behaves_logoutPlayer d out
  · exact .refl d

/-- A step of the state machine says and does what it should from its state. -/
theorem behaves_advance (now : Instant) (fits : d.session.state.Fits conduct) :
    d.Behaves sv conduct (d.advance sv now).2 := by
  unfold advance
  cases state : d.session.state with
  | created =>
    rw [state] at fits
    exact behaves_advanceCreated d fits.1 fits.2
  | charSelection =>
    rw [state] at fits
    simp only [advanceCharSelection]
    split
    · have due : d.Behaves sv conduct (d.logoutIfDue sv now) := behaves_logoutIfDue d now fits
      split
      · exact ((due.trans (behaves_log _ _)).trans (behaves_kickPlayer _ fun _ => fits)).trans
          (behaves_closeSocket _)
      · exact due
    · exact .refl d
  | ready =>
    rw [state] at fits
    simp only [advanceReady]
    split
    · split
      · exact .refl d
      · exact behaves_setOffline d
    · split
      · exact behaves_logoutPlayer d fits.1
      · exact behaves_updateTimeSync d fits.2
  | offline =>
    rw [state] at fits
    simp only [advanceOffline]
    split
    · split <;> exact behaves_logoutPlayer d fits
    · exact .refl d

theorem behaves_apply {event : Event W} (own : event.bringsIn = false)
    (fits : event.Fits conduct d.session) : d.Behaves sv conduct (event.apply sv d) := by
  cases event with
  | clock now =>
    rw [Event.apply]
    exact behaves_modify d rfl
  | perform operation => exact behaves_run d own fits
  | post callback => exact behaves_inbox d _
  | takeCallbacks => exact behaves_inbox d _
  | deliver callback => exact .refl d
  | takeBacklog queue => exact behaves_inbox d _
  | pop queue env => exact .refl d
  | grant queue status opcode =>
    cases queue with
    | generic =>
      simp only [Event.apply, Queue.admitted, noteAdmission]
      split
      · exact behaves_modify d rfl
      · exact .refl d
    | map => exact .refl d
  | invoke queue env => exact behaves_deed d fits
  | handled queue handled => exact behaves_endDelay d fits.1 fits.2
  | log notice => exact behaves_log d notice
  | leave queue left =>
    cases queue with
    | generic =>
      simp only [Event.apply]
      split
      · exact .refl d
      · exact behaves_log d _
    | map => exact .refl d
  | advance now => exact behaves_advance d now fits

/-- Every event that brings in nothing new is made up of moves. -/
theorem moves_apply {event : Event W} (own : event.bringsIn = false) :
    Moves sv d (event.apply sv d) :=
  (behaves_apply d own (Event.fits_any d.session own)).moves

/-- Nothing that happens to a session says or does more than a conduct lists that it fits. -/
theorem shows_apply {event : Event W} (fits : event.Fits conduct d.session) :
    d.Shows sv conduct (event.apply sv d) := by
  cases own : event.bringsIn with
  | false => exact (behaves_apply d own fits).shows
  | true =>
    cases event with
    | perform operation =>
      cases operation with
      | attach character => exact shows_attach d character
      | requestNewSocket socket => exact shows_requestNewSocket d socket
      | outside change => exact fits.elim
      | _ => cases own
    | _ => cases own

end

end LiveSession

end GameRealm
