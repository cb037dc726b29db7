import GameRealm.Realm.Registry

/-!
# Accounts that keep to themselves

The sessions of a realm share their surroundings. This module says what it means that no
session finds out about another through them, and compares two runs of one session that
begin in surroundings which only others could tell apart:

1. `Partition` gives every socket and every character to an account and says when an
   account finds two states of the surroundings alike; `Partition.Separates`: answers to
   an account depend on what it finds alike, and what is done for one account leaves all
   states alike for the others. Transactions count as a whole, since nobody else is
   served while one is open;
2. `Procedure.Confined`, `Callback.Confined` and `Partition.Confines`: courses of action,
   callbacks and opcode tables that keep to the session they work on;
3. `TwoRuns` are two runs of one session, and `TwoRuns.Around` says how their surroundings
   compare: the same new effects, all of them the account's, alike to the account, and
   for everyone else as they were;
4. `TwoRuns.Around.teardown`: taking a character out of the world keeps it so.
-/

namespace GameRealm

/-- How the surroundings of sessions are parted among accounts. -/
structure Partition (W : Type) where
  socketOwner : SocketId → AccountId
  characterOwner : Character → AccountId
  /-- Whose character a guid is, for the world and the databases. -/
  guidOwner : PlayerGuid → AccountId
  /-- The account cannot tell two states apart. -/
  Alike : AccountId → W → W → Prop
  /-- No transaction is open. -/
  Settled : W → Prop

/-! ## Whose an effect is -/

def Statement.owner (part : Partition W) : Statement → AccountId
  | accountInactive account | selectAccountData account | deleteAccountData account _
  | insertAccountData account _ _ _ | selectTutorials account | updateTutorials account _
  | insertTutorials account _ => account
  | characterOffline guid | selectCharacterAccountData guid | deleteCharacterAccountData guid _
  | insertCharacterAccountData guid _ _ _ => part.guidOwner guid

/-- The account that a call is about. Those around a transaction name none. -/
def DatabaseCall.owner? (part : Partition W) : DatabaseCall → Option AccountId
  | execute statement | query statement => some (statement.owner part)
  | begin | commit | rollback => none

namespace Effect

/-- The account that an effect is about, if it is about one. -/
def owner? (part : Partition W) : Effect → Option AccountId
  | send socket _ | close socket | finalize socket => some (part.socketOwner socket)
  | character c _ | release c => some (part.characterOwner c)
  | world guid _ => some (part.guidOwner guid)
  | database _ call => call.owner? part
  | countOpcode _ | log _ | remark _ _ => none

/-- The effect is about no other account. -/
def Of (part : Partition W) (account : AccountId) (effect : Effect) : Prop :=
  effect.owner? part = none ∨ effect.owner? part = some account

/-- Whether the effect begins or ends a transaction. -/
def transactional : Effect → Bool
  | database _ .begin | database _ .commit | database _ .rollback => true
  | _ => false

end Effect

def Collaborators.reactAll (co : Collaborators W) (world : W) (effects : List Effect) : W :=
  effects.foldl co.react world

namespace Partition

/-- Something that is done for an account in one go: a single effect, a transaction that
does not begin, or one from its beginning to its end. -/
inductive Bout (part : Partition W) (co : Collaborators W) (account : AccountId) (world : W) :
    W → Prop where
  | effect {effect : Effect} (own : effect.Of part account)
      (whole : effect.transactional = false) :
      Bout part co account world (co.react world effect)
  | refused {db : Database} {error : PersistenceError}
      (refused : co.calling world db .begin = .error error) :
      Bout part co account world (co.react world (.database db .begin))
  | transaction {db : Database} (begun : co.calling world db .begin = .ok ())
      {statements : List Statement}
      (own : ∀ statement ∈ statements, statement.owner part = account)
      {closing : DatabaseCall} (closes : closing = .commit ∨ closing = .rollback) :
      Bout part co account world (co.reactAll world
        ((DatabaseCall.begin :: statements.map .execute ++ [closing]).map (Effect.database db)))

/-- What is done for one account makes no difference to another. -/
structure Separates (part : Partition W) (co : Collaborators W) : Prop where
  alike : ∀ account, Equivalence (part.Alike account)
  socket : ∀ {w w' socket}, part.Alike (part.socketOwner socket) w w' →
    co.socket w' socket = co.socket w socket
  character : ∀ {w w' c}, part.Alike (part.characterOwner c) w w' →
    co.character w' c = co.character w c
  regionOf : ∀ {w w' guid}, part.Alike (part.guidOwner guid) w w' →
    co.regionOf w' guid = co.regionOf w guid
  unixTime : ∀ {account w w'}, part.Alike account w w' → co.unixTime w' = co.unixTime w
  saving : ∀ {w w' c}, part.Alike (part.characterOwner c) w w' → co.saving w' c = co.saving w c
  calling : ∀ {account w w' db call}, part.Alike account w w' →
    (Effect.database db call).Of part account → co.calling w' db call = co.calling w db call
  rows : ∀ {w w' db statement}, part.Alike (statement.owner part) w w' →
    co.rows w' db statement = co.rows w db statement
  /-- What an account cannot tell apart stays so while the same is done for it. -/
  own : ∀ {account w w' effect}, part.Alike account w w' → effect.Of part account →
    part.Alike account (co.react w effect) (co.react w' effect)
  /-- The others do not notice what is done for an account. -/
  others : ∀ {account w w'}, part.Settled w → part.Bout co account w w' →
    part.Settled w' ∧ ∀ other, other ≠ account → part.Alike other w w'

/-- From one state to another only a given account may notice a change. -/
def Aside (part : Partition W) (account : AccountId) (w w' : W) : Prop :=
  part.Settled w' ∧ ∀ other, other ≠ account → part.Alike other w w'

/-- A change of the surroundings that is the affair of one account. -/
structure Local (part : Partition W) (account : AccountId) (change : W → W) : Prop where
  own : ∀ {w w'}, part.Alike account w w' → part.Alike account (change w) (change w')
  others : ∀ {w}, part.Settled w → part.Aside account w (change w)

end Partition

/-! ## What belongs to an account -/

/-- A session that has nothing but its account's. -/
structure Session.Belongs (part : Partition W) (account : AccountId) (s : Session) : Prop where
  owner : s.account = account
  socket : ∀ socket, s.socket = some socket → part.socketOwner socket = account
  pending : ∀ socket, s.pending = some socket → part.socketOwner socket = account
  player : ∀ c, s.player = some c →
    part.characterOwner c = account ∧ part.guidOwner c.guid = account
  guid : ∀ guid, s.characterGuid = some guid → part.guidOwner guid = account

/-- What of a session belongs to someone. -/
def Session.estate (s : Session) :
    AccountId × Option SocketId × Option SocketId × Option Character × Option PlayerGuid :=
  (s.account, s.socket, s.pending, s.player, s.characterGuid)

theorem Session.Belongs.congr {part : Partition W} {account : AccountId} {s t : Session}
    (h : s.Belongs part account) (same : t.estate = s.estate) : t.Belongs part account := by
  simp only [Session.estate, Prod.mk.injEq] at same
  obtain ⟨own, socket, pending, player, guid⟩ := same
  exact ⟨own ▸ h.owner, socket ▸ h.socket, pending ▸ h.pending, player ▸ h.player,
    guid ▸ h.guid⟩

/-! ## Courses of action that keep to their session -/

/-- An operation that brings in nothing of another account. -/
def Operation.Own (part : Partition W) (account : AccountId) : Operation W → Prop
  | attach c => part.characterOwner c = account ∧ part.guidOwner c.guid = account
  | requestNewSocket socket => part.socketOwner socket = account
  | outside change => part.Local account change
  | _ => True

/-- What two views have in common that an account cannot tell apart. -/
structure View.Alike (part : Partition W) (account : AccountId) (v v' : View W) : Prop where
  session : v'.session = v.session
  belongs : v.session.Belongs part account
  genericLength : v'.genericLength = v.genericLength
  mapLength : v'.mapLength = v.mapLength
  config : v'.config = v.config
  world : part.Alike account v.world v'.world

/-- A course of action that brings in nothing of another account, goes on in the same way
on all that its account cannot tell apart, and leaves only some callbacks. -/
def Procedure.Confined (part : Partition W) (account : AccountId) (fits : C → Prop) :
    Procedure W C α → Prop
  | finish _ => True
  | perform operation next => operation.Own part account ∧
      ∀ answer, (next answer).Confined part account fits
  | look next => (∀ v v', View.Alike part account v v' → next v' = next v) ∧
      ∀ v, v.session.Belongs part account → (next v).Confined part account fits
  | post callback next => fits callback ∧
      ∀ accepted, (next accepted).Confined part account fits
  | tick _ next => ∀ outcome, (next outcome).Confined part account fits

/-- A callback that keeps to its session, and leaves only such callbacks: it is one of
some callbacks that all do. -/
def Callback.Confined (part : Partition W) (account : AccountId) (callback : Callback W) : Prop :=
  ∃ family : Callback W → Prop, family callback ∧
    ∀ member, family member → member.body.Confined part account family

/-- What is done with an inbox alone cannot touch anything else; only its callbacks could. -/
def InboxProcedure.Confined (fits : C → Prop) : InboxProcedure C α → Prop
  | finish _ => True
  | look next => ∀ generic map, (next generic map).Confined fits
  | post callback next => fits callback ∧ ∀ accepted, (next accepted).Confined fits
  | enqueue _ next | deleteMovementPackets next | remark _ _ next => next.Confined fits

/-- A handler that keeps to the session of an account. -/
def Handler.Confined (part : Partition W) (account : AccountId) : Handler W → Prop
  | session run => ∀ env, (run env).Confined part account (Callback.Confined part account)
  | immediate run => ∀ env, (run account env).Confined (Callback.Confined part account)

/-- All handlers of a table keep to the session that they work on. -/
def Partition.Confines (part : Partition W) (table : OpcodeTable W) : Prop :=
  ∀ account opcode, (table.get opcode).handler.Confined part account

/-- An inbox whose callbacks keep to the session of its account. -/
structure Inbox.Belongs (part : Partition W) (account : AccountId) (i : Inbox W) : Prop where
  owner : i.account = account
  callbacks : ∀ callback ∈ i.mailbox.pending, callback.Confined part account

section
variable {part : Partition W} {account : AccountId}

theorem Procedure.Confined.mono {fits fits' : C → Prop} (wider : ∀ c, fits c → fits' c)
    {p : Procedure W C α} (h : p.Confined part account fits) : p.Confined part account fits' := by
  induction p with
  | finish => trivial
  | perform operation next ih => exact ⟨h.1, fun answer => ih answer (h.2 answer)⟩
  | look next ih => exact ⟨h.1, fun v belongs => ih v (h.2 v belongs)⟩
  | post callback next ih => exact ⟨wider _ h.1, fun accepted => ih accepted (h.2 accepted)⟩
  | tick kind next ih => exact fun outcome => ih outcome (h outcome)

theorem Callback.Confined.body {callback : Callback W} (h : callback.Confined part account) :
    callback.body.Confined part account (Callback.Confined part account) := by
  obtain ⟨family, one, all⟩ := h
  exact (all callback one).mono fun member mem => ⟨family, mem, all⟩

theorem confined_mk {p : Act W Unit}
    (h : p.Confined part account (Callback.Confined part account)) :
    (Callback.mk p).Confined part account := by
  refine ⟨fun member => member = .mk p ∨ member.Confined part account, .inl rfl, ?_⟩
  rintro member (rfl | confined)
  · exact h.mono fun _ => .inr
  · exact confined.body.mono fun _ => .inr

theorem confined_closeWhateverSocket :
    (closeWhateverSocket : Callback W).Confined part account :=
  confined_mk ⟨trivial, fun _ => trivial⟩

theorem confined_kickIfStill (guid : PlayerGuid) :
    (kickIfStill guid : Callback W).Confined part account := by
  refine confined_mk ⟨fun v v' same => ?_, fun v _ => ?_⟩
  · simp only [Procedure.bind, same.session]
  · simp only [Procedure.bind]
    split
    · exact ⟨trivial, fun _ => trivial⟩
    · trivial

end

/-! ## Two runs of one session -/

/-- A realm in which every account keeps to itself. -/
structure Apart (sv : Services W) where
  part : Partition W
  separates : part.Separates sv.collaborators
  confines : part.Confines sv.opcodes

/-- Two runs of the session of one account, each from surroundings of its own. -/
structure TwoRuns (sv : Services W) extends Apart sv where
  account : AccountId
  /-- Where the one run begins, and where the other does. -/
  one : Outside W
  other : Outside W

namespace TwoRuns

variable {sv : Services W}

/-- The character belongs to the account. -/
def Has (runs : TwoRuns sv) (c : Character) : Prop :=
  runs.part.characterOwner c = runs.account ∧ runs.part.guidOwner c.guid = runs.account

/-- The two runs have had the same effects, and the account cannot tell where they stand. -/
structure Matches (runs : TwoRuns sv) (o o' : Outside W) : Prop where
  effects : ∃ fresh : List Effect, (∀ effect ∈ fresh, effect.Of runs.part runs.account) ∧
    o.effects = fresh ++ runs.one.effects ∧ o'.effects = fresh ++ runs.other.effects
  alike : runs.part.Alike runs.account o.world o'.world

/-- The two runs match, and nobody else has noticed either. -/
structure Around (runs : TwoRuns sv) (o o' : Outside W) : Prop extends runs.Matches o o' where
  aside : runs.part.Aside runs.account runs.one.world o.world
  aside' : runs.part.Aside runs.account runs.other.world o'.world

variable {runs : TwoRuns sv} {o o' : Outside W}

theorem Matches.emit (h : runs.Matches o o') {effect : Effect}
    (own : effect.Of runs.part runs.account) :
    runs.Matches (o.emit sv.collaborators effect) (o'.emit sv.collaborators effect) := by
  obtain ⟨⟨fresh, all, here, there⟩, alike⟩ := h
  refine ⟨⟨effect :: fresh, ?_, congrArg (effect :: ·) here, congrArg (effect :: ·) there⟩,
    runs.separates.own alike own⟩
  exact List.forall_mem_cons.mpr ⟨own, all⟩

theorem aside_trans (runs : TwoRuns sv) {w v u : W}
    (h : runs.part.Aside runs.account w v) (h' : runs.part.Aside runs.account v u) :
    runs.part.Aside runs.account w u :=
  ⟨h'.1, fun other ne => (runs.separates.alike other).trans (h.2 other ne) (h'.2 other ne)⟩

theorem aside_of_bout {w v u : W} (h : runs.part.Aside runs.account w v)
    (bout : runs.part.Bout sv.collaborators runs.account v u) :
    runs.part.Aside runs.account w u :=
  runs.aside_trans h (runs.separates.others h.1 bout)

namespace Around

theorem emit (h : runs.Around o o') {effect : Effect}
    (own : effect.Of runs.part runs.account) (whole : effect.transactional = false) :
    runs.Around (o.emit sv.collaborators effect) (o'.emit sv.collaborators effect) :=
  ⟨h.toMatches.emit own, aside_of_bout h.aside (.effect own whole),
    aside_of_bout h.aside' (.effect own whole)⟩

theorem log (h : runs.Around o o') (notice : Notice) :
    runs.Around (o.log sv.collaborators notice) (o'.log sv.collaborators notice) :=
  h.emit (.inl rfl) rfl

theorem logAll (h : runs.Around o o') (notices : List Notice) :
    runs.Around (o.logAll sv.collaborators notices) (o'.logAll sv.collaborators notices) := by
  induction notices generalizing o o' with
  | nil => exact h
  | cons notice notices ih => exact ih (h.log notice)

/-! ## Taking a character out of the world -/

section
variable {c : Character} (mine : runs.Has c)
include mine

theorem character_eq (h : runs.Around o o') :
    o'.character sv.collaborators c = o.character sv.collaborators c :=
  runs.separates.character (mine.1 ▸ h.alike)

theorem act (h : runs.Around o o') (deed : Deed) :
    runs.Around (o.act sv.collaborators c deed) (o'.act sv.collaborators c deed) :=
  h.emit (.inr (congrArg some mine.1)) rfl

theorem ask (h : runs.Around o o') (call : WorldCall) :
    runs.Around (o.ask sv.collaborators c.guid call) (o'.ask sv.collaborators c.guid call) :=
  h.emit (.inr (congrArg some mine.2)) rfl

theorem resolve (h : runs.Around o o') :
    runs.Around (Teardown.resolve sv.collaborators c o)
      (Teardown.resolve sv.collaborators c o') := by
  have within : ∀ steps {o o'}, runs.Around o o' →
      runs.Around (Teardown.resolveWithin sv.collaborators c steps o)
        (Teardown.resolveWithin sv.collaborators c steps o') := by
    intro steps
    induction steps with
    | zero =>
      intro o o' h
      rw [Teardown.resolveWithin, Teardown.resolveWithin, h.character_eq mine]
      split
      · exact h.log _
      · exact h
    | succ steps ih =>
      intro o o' h
      rw [Teardown.resolveWithin, Teardown.resolveWithin, h.character_eq mine]
      split
      · exact ih (h.act mine _)
      · exact h
  exact within _ h

theorem settleDeath (h : runs.Around o o') :
    runs.Around (Teardown.settleDeath sv.collaborators c o)
      (Teardown.settleDeath sv.collaborators c o') := by
  unfold Teardown.settleDeath
  rw [h.character_eq mine]
  cases (o.character sv.collaborators c).death with
  | awaitingRespawn => exact h.act mine _
  | delayedDeath => exact (h.act mine _).act mine _
  | alive =>
    dsimp only
    split
    · exact h.act mine _
    · exact h

theorem returnHome (h : runs.Around o o') :
    runs.Around (Teardown.returnHome sv.collaborators c o)
      (Teardown.returnHome sv.collaborators c o') := by
  unfold Teardown.returnHome
  rw [h.character_eq mine]
  dsimp only
  split
  · exact h
  · exact (h.act mine _).resolve mine

theorem leaveQueues (h : runs.Around o o') :
    runs.Around (Teardown.leaveQueues sv.collaborators c o)
      (Teardown.leaveQueues sv.collaborators c o') := by
  have each : ∀ (queues : List UInt32) {o o'}, runs.Around o o' → runs.Around
      (queues.foldl (fun o queue =>
        o.ask sv.collaborators c.guid (.leaveBattlegroundQueue queue)) o)
      (queues.foldl (fun o queue =>
        o.ask sv.collaborators c.guid (.leaveBattlegroundQueue queue)) o') := by
    intro queues
    induction queues with
    | nil => exact fun h => h
    | cons queue queues ih => exact fun h => ih (h.ask mine _)
  unfold Teardown.leaveQueues
  rw [h.character_eq mine]
  exact each _ (h.act mine _)

theorem tellOthers (h : runs.Around o o') :
    runs.Around (Teardown.tellOthers sv.collaborators c o)
      (Teardown.tellOthers sv.collaborators c o') := by
  have friends : ∀ {o o'}, runs.Around o o' → runs.Around
      (if (o.character sv.collaborators c).social then
        (o.ask sv.collaborators c.guid .sendFriendOffline).ask sv.collaborators c.guid
          .removeSocial
      else o)
      (if (o'.character sv.collaborators c).social then
        (o'.ask sv.collaborators c.guid .sendFriendOffline).ask sv.collaborators c.guid
          .removeSocial
      else o') := by
    intro o o' h
    rw [h.character_eq mine]
    split
    · exact (h.ask mine _).ask mine _
    · exact h
  unfold Teardown.tellOthers
  rw [h.character_eq mine]
  cases (o.character sv.collaborators c).guild with
  | none => exact friends h
  | some guild => exact friends (h.ask mine _)

end

theorem socketOpen_eq (h : runs.Around o o') {s : Session}
    (belongs : s.Belongs runs.part runs.account) :
    s.socketOpen sv.collaborators o'.world = s.socketOpen sv.collaborators o.world := by
  unfold Session.socketOpen
  cases active : s.socket with
  | none => rfl
  | some socket =>
    exact congrArg (!·.closed)
      (runs.separates.socket ((belongs.socket socket active).symm ▸ h.alike))

theorem store (h : runs.Around o o') (db : Database) (statement : Statement)
    (own : statement.owner runs.part = runs.account) (failed : Notice) :
    runs.Around (Teardown.store sv.collaborators db statement failed o)
      (Teardown.store sv.collaborators db statement failed o') := by
  have about : (Effect.database db (.execute statement)).Of runs.part runs.account :=
    .inr (congrArg some own)
  unfold Teardown.store Outside.call
  rw [runs.separates.calling h.alike about]
  cases sv.collaborators.calling o.world db (.execute statement) with
  | ok => exact h.emit about rfl
  | error => exact (h.emit about rfl).log failed

section
variable {s : Session} (belongs : s.Belongs runs.part runs.account) {c : Character}
  (mine : runs.Has c)
include belongs mine

theorem leaveGroup (h : runs.Around o o') :
    runs.Around (Teardown.leaveGroup sv.collaborators s c o)
      (Teardown.leaveGroup sv.collaborators s c o') := by
  have left : ∀ {o o'}, runs.Around o o' → runs.Around
      (if (o.character sv.collaborators c).raidGroup == some false &&
        s.socketOpen sv.collaborators o.world then
        o.act sv.collaborators c .removeFromGroup
      else o)
      (if (o'.character sv.collaborators c).raidGroup == some false &&
        s.socketOpen sv.collaborators o'.world then
        o'.act sv.collaborators c .removeFromGroup
      else o') := by
    intro o o' h
    rw [h.character_eq mine, h.socketOpen_eq belongs]
    split
    · exact h.act mine _
    · exact h
  have told : ∀ {o o'}, runs.Around o o' → runs.Around
      (if (o.character sv.collaborators c).raidGroup.isSome then
        o.act sv.collaborators c (.updateGroupOnlineStatus false)
      else o)
      (if (o'.character sv.collaborators c).raidGroup.isSome then
        o'.act sv.collaborators c (.updateGroupOnlineStatus false)
      else o') := by
    intro o o' h
    rw [h.character_eq mine]
    split
    · exact h.act mine _
    · exact h
  exact told (left (h.act mine _))

omit belongs in
theorem save (h : runs.Around o o') :
    runs.Around (Teardown.save sv.collaborators s c o)
      (Teardown.save sv.collaborators s c o') := by
  have same : sv.collaborators.saving o'.world c = sv.collaborators.saving o.world c :=
    runs.separates.saving (mine.1.symm ▸ h.alike)
  unfold Teardown.save
  rw [same]
  cases s.saveOnLogout with
  | false => exact h
  | true =>
    cases sv.collaborators.saving o.world c with
    | ok => exact h.act mine _
    | error => exact (h.act mine _).log _

omit belongs in
theorem leaveWorld (h : runs.Around o o') :
    runs.Around (Teardown.leaveWorld sv.collaborators c o)
      (Teardown.leaveWorld sv.collaborators c o') := by
  have same : sv.collaborators.regionOf o'.world c.guid =
      sv.collaborators.regionOf o.world c.guid :=
    runs.separates.regionOf (mine.2.symm ▸ h.alike)
  unfold Teardown.leaveWorld
  rw [same]
  split
  · exact h.ask mine _
  · exact (h.act mine _).ask mine _

theorem teardown (h : runs.Around o o') :
    runs.Around (Teardown.run sv.collaborators s c o)
      (Teardown.run sv.collaborators s c o') := by
  have freed := ((((h.log .characterLogout).act mine .releaseLoot).settleDeath mine).act mine
    .notifyBattlegroundLogout).returnHome mine
  have stored := (freed.leaveQueues mine).store .login (.accountInactive s.account)
    belongs.owner .realmActivityKept
  have told := stored.tellOthers mine
  have saved := ((told.leaveGroup belongs mine).act mine .removePet).save (s := s) mine
  have gone := (((saved.act mine .cleanupChannels).ask mine .leaveLfg).ask mine
    (.ticketOnlineState false)).leaveWorld mine
  exact gone.emit (.inr (congrArg some mine.1)) rfl

end

end Around

end TwoRuns

end GameRealm
