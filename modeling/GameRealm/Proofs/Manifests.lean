import GameRealm.Proofs.AddonLog
import GameRealm.Proofs.KnownPlace

/-!
# Whose addons are acknowledged

Every login brings a manifest along, and its client should hear of the addons in that. But
a session remembers addons in one list: the manifest of a login is put behind whatever
earlier logins of the account have left there, and the next tick acknowledges it all on the
socket that is active then. So another question comes first, namely where an acknowledged
addon is from.

1. `Entrance` is a login that was taken: whose it is, the socket, what its session still
   remembered, and what its own manifest holds. `Registry.entrances` writes them down;
2. `Registry.Attributed` ties that to the sessions and to what was acknowledged:
   a session in `created` remembers just what its last entrance found and brought, and
   nothing was acknowledged on its socket so far. `attributed_run` carries it through a
   run, login by login and event by event;
3. `addonInfo_own_iff`: so an acknowledgement lists what an entrance found and then what it
   brought, and it is the client's own manifest just if there was nothing to be found.
-/

namespace GameRealm

/-! ## Entrances -/

/-- A login that was taken. -/
structure Entrance where
  account : AccountId
  socket : SocketId
  /-- The addons that the session had not acknowledged yet. -/
  held : List Addon
  /-- The addons of the manifest that came with the login. -/
  own : List Addon

def Entrance.finding (held : List Addon) (account : AccountId) (socket : SocketId)
    (auth : Envelope) : Entrance :=
  { account, socket, held, own := AddonManifest.decoded auth }

/-- The entrance of a login, if it is taken. -/
def RegistryStep.entrance? (registry : Registry W) : RegistryStep W → Option Entrance
  | login account socket auth _ =>
    match registry.roster.get? account.id with
    | none => some (.finding [] account.id socket auth)
    | some seat =>
      if seat.session.pending.isSome then none
      else some (.finding seat.session.addons account.id socket auth)
  | _ => none

/-- The events of a step, none if it is a login. -/
def RegistryStep.asides (sv : Services W) (registry : Registry W) :
    RegistryStep W → List (RegistryEvent W)
  | login .. => []
  | step => registry.stepEvents sv step

/-- Whether an event is an operation that only logins and the state machine should perform: it
gives the session a socket, reads a manifest or acknowledges addons. -/
def Event.oversteps : Event W → Bool
  | perform (.requestNewSocket _) => true
  | event => event.tampers

/-- Whether an event does what only logins and the state machine should. -/
def RegistryEvent.oversteps : RegistryEvent W → Bool
  | enter .. => true
  | work _ event => event.oversteps
  | _ => false

theorem Event.modest {event : Event W} (modest : event.oversteps = false) (s : Session) :
    event.tampers = false ∧ event.brings? s = none := by
  cases event with
  | perform operation => cases operation <;> first | exact ⟨modest, rfl⟩ | cases modest
  | _ => exact ⟨rfl, rfl⟩

namespace Registry

/-- The logins of some steps that are taken, the first one first. -/
def entrances (sv : Services W) : List (RegistryStep W) → Registry W → List Entrance
  | [], _ => []
  | step :: steps, registry =>
    (step.entrance? registry).toList ++ entrances sv steps (registry.step sv step)

/-- The events of some steps, but for those of logins. -/
def asides (sv : Services W) : List (RegistryStep W) → Registry W → List (RegistryEvent W)
  | [], _ => []
  | step :: steps, registry =>
    step.asides sv registry ++ asides sv steps (registry.step sv step)

end Registry

/-- Some addons are those of the last few manifests that came for an account, one after the
other. -/
def Inherited (entrances : List Entrance) (account : AccountId) (addons : List Addon) : Prop :=
  ∃ earlier, earlier <:+ entrances.filter (·.account == account) ∧
    addons = earlier.flatMap (·.own)

theorem Inherited.nil (entrances : List Entrance) (account : AccountId) :
    Inherited entrances account [] :=
  ⟨[], List.nil_suffix, rfl⟩

theorem Inherited.arrive {entrances : List Entrance} {entrance : Entrance}
    (h : Inherited entrances entrance.account entrance.held) :
    Inherited (entrances ++ [entrance]) entrance.account (entrance.held ++ entrance.own) := by
  obtain ⟨earlier, last, held⟩ := h
  obtain ⟨front, split⟩ := last
  refine ⟨earlier ++ [entrance], ⟨front, ?_⟩, ?_⟩
  · simp [← split]
  · simp [held]

/-- Entrances of others make no difference. -/
theorem Inherited.others {entrances : List Entrance} {account : AccountId} {addons : List Addon}
    (h : Inherited entrances account addons) {news : List Entrance}
    (foreign : ∀ entrance ∈ news, entrance.account ≠ account) :
    Inherited (entrances ++ news) account addons := by
  have none : news.filter (·.account == account) = [] := by
    simpa [List.filter_eq_nil_iff] using foreign
  rwa [Inherited, List.filter_append, none, List.append_nil]

/-! ## Where a client is still to be greeted -/

/-- A session is about to greet its client, on a socket. -/
def Session.Owes (s : Session) (socket : SocketId) : Prop :=
  s.state = .created ∧ s.pending.or s.socket = some socket

theorem Operation.owes_after (config : SessionConfig) (socketOpen : Bool)
    {operation : Operation W} {s : Session} {socket : SocketId}
    (takes : Event.brings? s (.perform operation) = none)
    (owes : (operation.after config socketOpen s).Owes socket) : s.Owes socket := by
  cases operation with
  | setOnline =>
    simp only [after] at owes
    split at owes
    · cases owes.1
    · exact owes
  | setOffline => cases owes.1
  | toCharSelection => cases owes.1
  | requestNewSocket wanted =>
    have waits : s.pending.isSome = true := by
      by_contra free
      simp [Event.brings?, free] at takes
    simpa only [after, Session.afterRequest, waits, if_true] using owes
  | logoutPlayer => cases owes.1
  | kickPlayer save inPlace =>
    cases inPlace with
    | true => cases owes.1
    | false => exact owes
  | shutdown =>
    simp only [after, Session.afterShutdown] at owes
    split at owes
    · exact owes
    · cases owes.2
  | _ => exact owes

/-- An event that neither takes a socket nor greets the client leaves no greeting behind
that was not owed before. -/
theorem Event.owes_after (config : SessionConfig) (socketOpen : Bool) {event : Event W}
    {s : Session} {socket : SocketId} (other : event.greets s = false)
    (takes : event.brings? s = none) (owes : (event.after config socketOpen s).Owes socket) :
    s.Owes socket := by
  cases event with
  | perform operation => exact operation.owes_after config socketOpen takes owes
  | advance now =>
    have state : s.state ≠ .created := by simpa [greets] using other
    rcases s.afterAdvance_cases config socketOpen now with ⟨before, -⟩ | ⟨-, kept | out | off⟩
    · exact absurd before state
    · rwa [after, kept] at owes
    · rw [after, out] at owes
      cases owes.1
    · rw [after, off] at owes
      cases owes.1
  | grant queue status opcode =>
    cases queue with
    | generic =>
      simp only [after] at owes
      split at owes <;> exact owes
    | map => exact owes
  | _ => exact owes

theorem Session.owes_of_life {s t : Session} (same : t.life = s.life) {socket : SocketId}
    (owes : t.Owes socket) : s.Owes socket :=
  ⟨(congrArg Life.state same).symm.trans owes.1,
    (congrArg (fun life => life.pending.or life.socket) same).symm.trans owes.2⟩

theorem LiveSession.owes_apply (sv : Services W) {d : LiveSession W} {event : Event W}
    {socket : SocketId}
    (other : event.greets d.session = false) (takes : event.brings? d.session = none)
    (owes : (event.apply sv d).session.Owes socket) : d.session.Owes socket :=
  Event.owes_after sv.config (d.socketOpen sv) other takes
    (Session.owes_of_life (event.life_apply sv d) owes)

/-- The greeting acknowledges whatever the session remembers, on the socket where it is owed,
or the socket is closed. In any case all is forgotten. -/
theorem LiveSession.addonLog_greets (sv : Services W) {d : LiveSession W} {event : Event W}
    (greets : event.greets d.session = true) :
    (event.apply sv d).session.state ≠ .created ∧
      ((event.apply sv d).addonLog = ([], d.outside.addonInfos) ∨
        ∃ socket, d.session.Owes socket ∧ (event.apply sv d).addonLog = ([],
          d.outside.addonInfos ++ [(socket, d.session.addons.map Addon.acknowledged)])) := by
  cases event with
  | advance now =>
    have state : d.session.state = .created := by simpa [Event.greets] using greets
    refine ⟨d.state_advance now, ?_⟩
    simp only [Event.apply, LiveSession.advance, state]
    rcases d.addonLog_advanceCreated with silent | ⟨socket, active, told⟩
    · exact .inl silent
    · exact .inr ⟨socket, ⟨state, active⟩, told⟩
  | _ => cases greets

/-! ## Where the addons of a session are from -/

/-- The addons that a session remembers are from the manifests that came for its account.
While it owes a greeting, they are what the entrance of the socket found and brought, and
nothing was acknowledged there. -/
structure Session.Attributed (entrances : List Entrance) (infos : List (SocketId × List AddonAck))
    (account : AccountId) (s : Session) : Prop where
  inherited : Inherited entrances account s.addons
  due : ∀ socket, s.Owes socket → socket ∉ infos.map (·.1) ∧
    ∃ entrance ∈ entrances, entrance.account = account ∧ entrance.socket = socket ∧
      s.addons = entrance.held ++ entrance.own

namespace Session.Attributed

variable {entrances : List Entrance} {infos : List (SocketId × List AddonAck)}
  {account : AccountId} {s t : Session}

theorem same (h : s.Attributed entrances infos account) (addons : t.addons = s.addons)
    (owes : ∀ socket, t.Owes socket → s.Owes socket) : t.Attributed entrances infos account where
  inherited := addons ▸ h.inherited
  due socket owed := addons ▸ h.due socket (owes socket owed)

theorem greeted (addons : t.addons = []) (state : t.state ≠ .created) :
    t.Attributed entrances infos account where
  inherited := addons ▸ .nil entrances account
  due _ owed := absurd owed.1 state

theorem others (h : s.Attributed entrances infos account) {news : List Entrance}
    (foreign : ∀ entrance ∈ news, entrance.account ≠ account) :
    s.Attributed (entrances ++ news) infos account where
  inherited := h.inherited.others foreign
  due socket owed := by
    obtain ⟨fresh, entrance, mem, rest⟩ := h.due socket owed
    exact ⟨fresh, entrance, List.mem_append_left _ mem, rest⟩

theorem elsewhere (h : s.Attributed entrances infos account) {socket : SocketId}
    (addons : List AddonAck) (foreign : ¬ s.Owes socket) :
    s.Attributed entrances (infos ++ [(socket, addons)]) account where
  inherited := h.inherited
  due other owed := by
    obtain ⟨fresh, rest⟩ := h.due other owed
    refine ⟨?_, rest⟩
    rw [List.map_append, List.mem_append]
    rintro (before | last)
    · exact fresh before
    · cases List.mem_singleton.mp last
      exact foreign owed

end Session.Attributed

namespace Registry

/-- Everything acknowledged is what the entrance of the socket found and brought, and on no
socket addons are acknowledged twice. What entrances found is from the manifests of earlier
ones, and so is what sessions remember. -/
structure Attributed (entrances : List Entrance) (registry : Registry W) : Prop where
  recorded : ∀ before entrance later, entrances = before ++ entrance :: later →
    Inherited before entrance.account entrance.held
  sent : ∀ info ∈ registry.roster.outside.addonInfos, ∃ entrance ∈ entrances,
    entrance.socket = info.1 ∧ info.2 = (entrance.held ++ entrance.own).map Addon.acknowledged
  once : (registry.roster.outside.addonInfos.map (·.1)).Nodup
  each : ∀ account seat, registry.roster.get? account = some seat →
    seat.session.Attributed entrances registry.roster.outside.addonInfos account

section
variable {sv : Services W} {registry after : Registry W} {entrances : List Entrance}

theorem Attributed.silent (h : registry.Attributed entrances)
    (infos : after.roster.outside.addonInfos = registry.roster.outside.addonInfos)
    (found : ∀ account seat, after.roster.get? account = some seat →
      registry.roster.get? account = some seat) : after.Attributed entrances where
  recorded := h.recorded
  sent := infos ▸ h.sent
  once := infos ▸ h.once
  each account seat there := infos ▸ h.each account seat (found account seat there)

/-- Work on a session that acknowledges nothing and leaves that session attributed leaves all so. -/
theorem Attributed.work (h : registry.Attributed entrances) (account : AccountId)
    {task : LiveSession W → LiveSession W}
    (keeps : ∀ seat, registry.roster.get? account = some seat →
      let d := seat.live registry.roster.outside
      let infos := d.outside.addonInfos
      (task d).outside.addonInfos = infos ∧
        (d.session.Attributed entrances infos account →
          (task d).session.Attributed entrances infos account)) :
    (registry.work account task).Attributed entrances := by
  cases there : registry.roster.get? account with
  | none =>
    have same : registry.work account task = registry :=
      congrArg (fun roster => { registry with roster }) (Roster.change_of_absent task there)
    rwa [same]
  | some seat =>
    obtain ⟨silent, keeps⟩ := keeps seat there
    have infos : (registry.work account task).roster.outside.addonInfos =
        registry.roster.outside.addonInfos :=
      (congrArg Outside.addonInfos (Roster.outside_change task there)).trans silent
    refine ⟨h.recorded, infos ▸ h.sent, infos ▸ h.once, fun other seat' found => ?_⟩
    rw [infos]
    rcases Roster.get?_change_inv found with ⟨before, rfl, same, rfl⟩ | ⟨-, same⟩
    · cases there.symm.trans same
      exact keeps (h.each _ seat there)
    · exact h.each other seat' same

theorem Attributed.idle (h : registry.Attributed entrances) (account : AccountId)
    {task : LiveSession W → LiveSession W}
    (keeps : ∀ seat, registry.roster.get? account = some seat →
      let d := seat.live registry.roster.outside
      (task d).addonLog = d.addonLog ∧
        ∀ socket, (task d).session.Owes socket → d.session.Owes socket) :
    (registry.work account task).Attributed entrances :=
  h.work account fun seat there =>
    have ⟨log, owes⟩ := keeps seat there
    ⟨congrArg Prod.snd log, fun mine => mine.same (congrArg Prod.fst log) owes⟩

/-- Where no two entrances have one socket, no two sessions owe a greeting there. -/
theorem Attributed.eq_of_owes (h : registry.Attributed entrances)
    (sockets : (entrances.map (·.socket)).Nodup) {first second : AccountId} {seat seat' : Seat W}
    (there : registry.roster.get? first = some seat)
    (there' : registry.roster.get? second = some seat') {socket : SocketId}
    (owes : seat.session.Owes socket) (owes' : seat'.session.Owes socket) : first = second := by
  obtain ⟨-, entrance, mem, mine, place, -⟩ := (h.each first seat there).due socket owes
  obtain ⟨-, entrance', mem', theirs, place', -⟩ := (h.each second seat' there').due socket owes'
  have same : entrance = entrance' :=
    List.inj_on_of_nodup_map sockets mem mem' (place.trans place'.symm)
  rw [← mine, same, theirs]

/-- A session that acknowledges what it remembers, where it owes that, acknowledges what the
entrance of the socket found and brought. -/
theorem Attributed.tell (h : registry.Attributed entrances)
    (sockets : (entrances.map (·.socket)).Nodup) {account : AccountId} {seat : Seat W}
    (there : registry.roster.get? account = some seat) {socket : SocketId}
    (owed : seat.session.Owes socket) {task : LiveSession W → LiveSession W}
    (told : (task (seat.live registry.roster.outside)).addonLog =
      ([], registry.roster.outside.addonInfos ++
        [(socket, seat.session.addons.map Addon.acknowledged)]))
    (state : (task (seat.live registry.roster.outside)).session.state ≠ .created) :
    (registry.work account task).Attributed entrances := by
  have infos : (registry.work account task).roster.outside.addonInfos =
      registry.roster.outside.addonInfos ++
        [(socket, seat.session.addons.map Addon.acknowledged)] :=
    (congrArg Outside.addonInfos (Roster.outside_change task there)).trans
      (congrArg Prod.snd told)
  -- What is owed tells which entrance is acknowledged, and that it has not been yet.
  obtain ⟨fresh, entrance, mem, -, place, addons⟩ := (h.each account seat there).due socket owed
  refine ⟨h.recorded, fun info listed => ?_, ?_, fun other seat' found => ?_⟩
  · rw [infos, List.mem_append, List.mem_singleton] at listed
    rcases listed with before | rfl
    · exact h.sent info before
    · exact ⟨entrance, mem, place, congrArg (List.map Addon.acknowledged) addons⟩
  · rw [infos, List.map_append, List.nodup_append]
    refine ⟨h.once, List.nodup_singleton _, fun earlier before last hit => ?_⟩
    rintro rfl
    cases List.mem_singleton.mp hit
    exact fresh before
  · rw [infos]
    rcases Roster.get?_change_inv found with ⟨before, rfl, same, rfl⟩ | ⟨different, same⟩
    · cases there.symm.trans same
      exact .greeted (congrArg Prod.fst told) state
    · exact (h.each other seat' same).elsewhere _ fun owes =>
        different (h.eq_of_owes sockets same there owes owed)

theorem Attributed.greet (h : registry.Attributed entrances)
    (sockets : (entrances.map (·.socket)).Nodup) {account : AccountId} {seat : Seat W}
    (there : registry.roster.get? account = some seat) {event : Event W}
    (greets : event.greets seat.session = true) :
    (registry.work account (event.apply sv)).Attributed entrances := by
  let d := seat.live registry.roster.outside
  have greets : event.greets d.session = true := greets
  obtain ⟨state, silent | ⟨socket, owed, told⟩⟩ := LiveSession.addonLog_greets sv greets
  · refine h.work account fun seat' found => ?_
    cases there.symm.trans found
    exact ⟨congrArg Prod.snd silent, fun _ => .greeted (congrArg Prod.fst silent) state⟩
  · exact h.tell sockets there owed told state

/-- Everything but a login leaves all attributed, if nobody oversteps. -/
theorem Attributed.apply {event : RegistryEvent W} (h : registry.Attributed entrances)
    (tidy : registry.Tidy) (sockets : (entrances.map (·.socket)).Nodup)
    (modest : event.oversteps = false) :
    (event.apply sv registry).Attributed entrances := by
  cases event with
  | enter => cases modest
  | work account event =>
    cases there : registry.roster.get? account with
    | none => exact h.work account fun seat found => by cases there.symm.trans found
    | some seat =>
      cases greets : event.greets seat.session with
      | true => exact h.greet sockets there greets
      | false =>
        refine h.idle account fun seat' found => ?_
        cases there.symm.trans found
        obtain ⟨tampers, takes⟩ := Event.modest modest seat.session
        exact ⟨LiveSession.addonLog_apply _ tampers greets,
          fun _ owes => LiveSession.owes_apply sv greets takes owes⟩
  | remove account =>
    refine h.silent ?_ fun _ _ found => (get?_removeSession_inv found).2
    simp only [RegistryEvent.apply, removeSession]
    split
    · rfl
    · next seat _ => exact LiveSession.addonInfos_drop (seat.live registry.roster.outside)
  | letIn account =>
    have worked : (registry.work account (welcome sv)).Attributed entrances :=
      h.idle account fun seat _ => ⟨LiveSession.addonLog_send _ fun _ => rfl, fun socket owes => by
        rwa [welcome, (LiveSession.frame_send _ _).1] at owes⟩
    exact ⟨worked.recorded, worked.sent, worked.once, worked.each⟩
  | renumber account position =>
    refine h.idle account fun seat _ => ?_
    intro d
    by_cases told : d.session.queuePosition = some position
    · rw [renumber, if_pos told]
      exact ⟨rfl, fun _ => id⟩
    · rw [renumber, if_neg told]
      refine ⟨LiveSession.addonLog_sendAuthWaitQueue (d.modify _) position, fun socket owes => ?_⟩
      rwa [(LiveSession.frame_sendAuthWaitQueue _ _).1] at owes
  | reorder order perm =>
    refine h.silent rfl fun other seat found => ?_
    exact (Roster.get?_of_perm tidy.distinct (perm registry.roster.seats)).symm.trans found
  | relocate regions => exact h.silent rfl fun _ _ found => found
  | stray inbox procedure =>
    exact h.silent (inbox.addonInfos_stray sv procedure _) fun _ _ found => found
  | outside change => exact h.silent rfl fun _ _ found => found

theorem Attributed.arrive (h : registry.Attributed entrances) {entrance : Entrance}
    (sockets : ((entrances ++ [entrance]).map (·.socket)).Nodup)
    (held : Inherited entrances entrance.account entrance.held)
    (infos : after.roster.outside.addonInfos = registry.roster.outside.addonInfos)
    (found : ∀ account seat, after.roster.get? account = some seat →
      account = entrance.account ∧ seat.session.addons = entrance.held ++ entrance.own ∧
          (∀ socket, seat.session.Owes socket → socket = entrance.socket) ∨
        account ≠ entrance.account ∧ registry.roster.get? account = some seat) :
    after.Attributed (entrances ++ [entrance]) where
  recorded before other later split := by
    rcases List.eq_nil_or_concat later with rfl | ⟨later, last, rfl⟩
    · obtain ⟨rfl, same⟩ := List.append_inj' split rfl
      cases same
      exact held
    · rw [List.concat_eq_append, ← List.cons_append, ← List.append_assoc] at split
      exact h.recorded before other later (List.append_inj' split rfl).1
  sent info listed := by
    obtain ⟨other, mem, rest⟩ := h.sent info (infos ▸ listed)
    exact ⟨other, List.mem_append_left _ mem, rest⟩
  once := infos ▸ h.once
  each account seat there := by
    rw [infos]
    rcases found account seat there with ⟨rfl, addons, owes⟩ | ⟨different, before⟩
    · refine ⟨addons ▸ held.arrive, fun socket owed => ?_⟩
      cases owes socket owed
      refine ⟨fun told => ?_, entrance, List.mem_append_right _ List.mem_cons_self, rfl, rfl,
        addons⟩
      -- Nothing was acknowledged on a socket that has just come.
      obtain ⟨info, listed, same⟩ := List.mem_map.mp told
      obtain ⟨other, mem, place, -⟩ := h.sent info listed
      rw [List.map_append, List.nodup_append] at sockets
      exact sockets.2.2 other.socket (List.mem_map_of_mem mem) entrance.socket List.mem_cons_self
        (place.trans same)
    · refine (h.each account seat before).others fun other mem => ?_
      rw [List.mem_singleton.mp mem]
      exact different.symm

theorem Attributed.enroll (h : registry.Attributed entrances) (account : Account)
    (socket : SocketId) (auth : Envelope) (now : Instant)
    (absent : account.id ∉ registry.roster.accounts)
    (sockets : ((entrances ++ [Entrance.finding [] account.id socket auth]).map
      (·.socket)).Nodup) :
    (registry.replay sv [.enter account socket now,
        .work account.id (.perform (.readAddons auth))]).Attributed
      (entrances ++ [.finding [] account.id socket auth]) := by
  obtain ⟨place, roster⟩ := roster_enter sv account socket now registry
  let d : LiveSession W :=
    (LiveSession.create sv account socket now registry.roster.outside).modify fun s =>
    { s with queuePosition := place }
  have log : (d.readAddons sv auth).2.addonLog =
      (AddonManifest.decoded auth, d.outside.addonInfos) := d.addonLog_readAddons auth
  have added : (registry.replay sv [.enter account socket now,
      .work account.id (.perform (.readAddons auth))]).roster =
        registry.roster.add account.id (d.readAddons sv auth).2 := by
    change (registry.enter sv account socket now).roster.change account.id
      (fun d => (d.readAddons sv auth).2) = _
    rw [roster, Roster.change_add _ _ absent]
  refine h.arrive sockets (.nil _ _) ?_ fun other seat found => ?_
  · rw [added]
    exact (congrArg Prod.snd log).trans (Outside.addonInfos_emit rfl)
  · rw [added] at found
    rcases Roster.get?_add_inv absent found with ⟨rfl, rfl⟩ | elsewhere
    · refine .inl ⟨rfl, congrArg Prod.fst log, fun socket' owed => ?_⟩
      have life : (d.readAddons sv auth).2.session.life = d.session.life :=
        (Operation.readAddons auth).life_run sv d
      have owed : d.session.Owes socket' := Session.owes_of_life life owed
      exact (Option.some_inj.mp owed.2).symm
    · exact .inr elsewhere

theorem Attributed.handOver (h : registry.Attributed entrances) {account : AccountId}
    (socket : SocketId) (auth : Envelope) {seat : Seat W}
    (there : registry.roster.get? account = some seat)
    (free : ¬ seat.session.pending.isSome = true)
    (sockets : ((entrances ++ [Entrance.finding seat.session.addons account socket auth]).map
      (·.socket)).Nodup) :
    (registry.replay sv [.work account (.perform (.requestNewSocket socket)),
        .work account (.perform (.readAddons auth))]).Attributed
      (entrances ++ [.finding seat.session.addons account socket auth]) := by
  let d := seat.live registry.roster.outside
  let waiting := (d.requestNewSocket sv socket).2
  have asked : waiting.session = { d.session with pending := some socket, state := .created } :=
    (d.frame_requestNewSocket socket).1.trans (if_neg free)
  have infos : waiting.outside.addonInfos = registry.roster.outside.addonInfos :=
    congrArg Prod.snd (LiveSession.addonLog_requestNewSocket d socket)
  have log : (waiting.readAddons sv auth).2.addonLog =
      (seat.session.addons ++ AddonManifest.decoded auth, waiting.outside.addonInfos) := by
    rw [waiting.addonLog_readAddons auth, asked]
    rfl
  have changed : (registry.replay sv [.work account (.perform (.requestNewSocket socket)),
      .work account (.perform (.readAddons auth))]).roster =
        registry.roster.change account fun d =>
          ((d.requestNewSocket sv socket).2.readAddons sv auth).2 :=
    Roster.change_change _ _
  -- The manifest comes on top of what the session still remembers.
  refine h.arrive sockets (h.each account seat there).inherited ?_ fun other seat' found => ?_
  · rw [changed, Roster.outside_change _ there]
    exact (congrArg Prod.snd log).trans infos
  · rw [changed] at found
    rcases Roster.get?_change_inv found with ⟨before, rfl, same, rfl⟩ | elsewhere
    · cases there.symm.trans same
      refine .inl ⟨rfl, congrArg Prod.fst log, fun socket' owed => ?_⟩
      have life : (waiting.readAddons sv auth).2.session.life = waiting.session.life :=
        (Operation.readAddons auth).life_run sv waiting
      have owed : waiting.session.Owes socket' := Session.owes_of_life life owed
      rw [asked] at owed
      exact (Option.some_inj.mp owed.2).symm
    · exact .inr elsewhere

/-- A login that is taken is an entrance, and one that is refused changes nothing. -/
theorem Attributed.login (h : registry.Attributed entrances) (tidy : registry.Tidy)
    (full : registry.Full) (account : Account) (socket : SocketId) (auth : Envelope)
    (now : Instant)
    (sockets : ((entrances ++ ((RegistryStep.login account socket auth now).entrance?
      registry).toList).map (·.socket)).Nodup) :
    (registry.login sv account socket auth now).2.Attributed
      (entrances ++ ((RegistryStep.login account socket auth now).entrance? registry).toList) := by
  have told := (@unfolds_login _ sv _ account socket auth now tidy.distinct full).replay_eq
  rw [← told, loginEvents]
  cases there : registry.roster.get? account.id with
  | none =>
    have taken : (RegistryStep.login account socket auth now).entrance? registry =
        some (.finding [] account.id socket auth) := by
      rw [RegistryStep.entrance?, there]
    rw [taken] at sockets ⊢
    exact h.enroll account socket auth now (Roster.get?_eq_none_iff.mp there) sockets
  | some seat =>
    by_cases waits : seat.session.pending.isSome = true
    · have refused : (RegistryStep.login account socket auth now).entrance? registry = none := by
        rw [RegistryStep.entrance?, there]
        exact if_pos waits
      rw [refused, Option.toList_none, List.append_nil]
      simp only [if_pos waits]
      exact h
    · have taken : (RegistryStep.login account socket auth now).entrance? registry =
          some (.finding seat.session.addons account.id socket auth) := by
        rw [RegistryStep.entrance?, there]
        exact if_neg waits
      rw [taken] at sockets ⊢
      simp only [if_neg waits]
      exact h.handOver socket auth there waits sockets

/-- What happens apart from logins leaves all attributed, event by event. -/
theorem Unfolds.attributed {events : List (RegistryEvent W)} (h : Unfolds sv events registry after)
    (tidy : registry.Tidy) (sockets : (entrances.map (·.socket)).Nodup)
    (modest : ∀ event ∈ events, event.oversteps = false)
    (attributed : registry.Attributed entrances) : after.Attributed entrances := by
  induction h with
  | nil => exact attributed
  | cons fits _ ih =>
    exact ih (tidy_apply fits tidy) (fun event mem => modest event (List.mem_cons_of_mem _ mem))
      (attributed.apply tidy sockets (modest _ List.mem_cons_self))

theorem Attributed.step (h : registry.Attributed entrances) (tidy : registry.Tidy)
    (full : registry.Full) {step : RegistryStep W}
    (modest : ∀ event ∈ step.asides sv registry, event.oversteps = false)
    (sockets : ((entrances ++ (step.entrance? registry).toList).map (·.socket)).Nodup) :
    (registry.step sv step).Attributed (entrances ++ (step.entrance? registry).toList) := by
  cases step with
  | login account socket auth now => exact h.login tidy full account socket auth now sockets
  | _ =>
    simp only [RegistryStep.entrance?, Option.toList_none, List.append_nil] at sockets ⊢
    exact (unfolds_step _ tidy.distinct full).attributed tidy sockets modest h

/-- Logins and all that comes in between leave everything attributed. -/
theorem attributed_run (steps : List (RegistryStep W)) (tidy : registry.Tidy)
    (full : registry.Full) (modest : ∀ event ∈ registry.asides sv steps, event.oversteps = false)
    (sockets : ((entrances ++ registry.entrances sv steps).map (·.socket)).Nodup)
    (h : registry.Attributed entrances) :
    (registry.run sv steps).Attributed (entrances ++ registry.entrances sv steps) := by
  induction steps generalizing registry entrances with
  | nil =>
    rw [Registry.entrances, List.append_nil]
    exact h
  | cons step steps ih =>
    rw [Registry.entrances, ← List.append_assoc] at sockets ⊢
    have early := sockets
    rw [List.map_append] at early
    obtain ⟨now, later⟩ := List.forall_mem_append.mp modest
    exact ih ((unfolds_step step tidy.distinct full).tidy tidy) (full_step step tidy full) later
      sockets (h.step tidy full now early.of_append_left)

theorem attributed_empty (maxActive : Nat) (regions : RegionPool) (world : W) :
    (empty maxActive regions { world }).Attributed [] where
  recorded before entrance later split := by simp at split
  sent _ listed := absurd listed List.not_mem_nil
  once := List.nodup_nil
  each _ _ found := absurd (Roster.mem_accounts_of_get? found) List.not_mem_nil

/-- Whatever is acknowledged in a realm, in any run, if only its logins and its state machine
read manifests, acknowledge addons and hand out sockets, and no two logins are taken on one
socket. Addons are acknowledged at most once on a socket. There they are what the session
still remembered when that login was taken, which is from the last manifests that came for
the account before, and then the addons of its own manifest, in order. So it is the own
manifest, no more and no less, just if the session remembered nothing. -/
theorem addonInfo_own_iff (sv : Services W) (maxActive : Nat) (regions : RegionPool) (world : W)
    (steps : List (RegistryStep W)) :
    let start := empty maxActive regions { world }
    let entrances := start.entrances sv steps
    let infos := (start.run sv steps).roster.outside.addonInfos
    (∀ event ∈ start.asides sv steps, event.oversteps = false) →
    (entrances.map (·.socket)).Nodup →
    (infos.map (·.1)).Nodup ∧
      ∀ socket addons, (socket, addons) ∈ infos →
        ∃ before entrance later, entrances = before ++ entrance :: later ∧
          entrance.socket = socket ∧
          Inherited before entrance.account entrance.held ∧
          addons = (entrance.held ++ entrance.own).map Addon.acknowledged ∧
          (addons = entrance.own.map Addon.acknowledged ↔ entrance.held = []) := by
  intro start entrances infos modest sockets
  have attributed : (start.run sv steps).Attributed ([] ++ entrances) :=
    attributed_run steps (tidy_empty ..) (full_empty _ _ _) modest sockets
      (attributed_empty ..)
  refine ⟨attributed.once, fun socket addons listed => ?_⟩
  obtain ⟨entrance, mem, place, same⟩ := attributed.sent (socket, addons) listed
  obtain ⟨before, later, split⟩ := List.mem_iff_append.mp mem
  refine ⟨before, entrance, later, split, place, attributed.recorded before entrance later split,
    same, ?_⟩
  simp only at same
  rw [same, List.map_append, List.append_left_eq_self, List.map_eq_nil_iff]

end

end Registry

/-! ## On stage -/

def Rehearsal.manifest : Bytes :=
  [0x15, 0, 0, 0, 0x78, 0x9c, 0x63, 0x64, 0x60, 0x60, 0xf0, 0xcf, 0x4b, 0x65, 0x60, 0x64, 0x67,
    0x40, 0x00, 0x00, 0x12, 0x95, 0x01, 0x2c]

/-- The login of the first account with that manifest. -/
def Rehearsal.arriveWithAddon (socket : Nat) : RegistryStep Stage :=
  .login ⟨⟨1⟩, .player, 2, .enUs, ⟨[]⟩⟩ ⟨socket⟩ (.withPayload .authSession manifest) 0

namespace Registry

/-- A client that comes back after a tick hears of its own addon both times. -/
theorem addonInfo_own_iff_back_again :
    let calls := [Rehearsal.arriveWithAddon 0, .update 0, Rehearsal.arriveWithAddon 1, .update 0]
    let infos :=
      (Rehearsal.smallRealm.run Rehearsal.bareServices calls).roster.outside.addonInfos
    infos.length = 2 ∧ ∀ info ∈ infos,
      ∃ entrance ∈ Rehearsal.smallRealm.entrances Rehearsal.bareServices calls,
        entrance.socket = info.1 ∧ info.2 = entrance.own.map Addon.acknowledged := by
  intro calls infos
  have fresh : ∀ entrance ∈ Rehearsal.smallRealm.entrances Rehearsal.bareServices calls,
      entrance.held = [] := by decide +kernel
  have told := addonInfo_own_iff Rehearsal.bareServices 1 { actors := [] }
    { sockets := List.replicate 4 ⟨false, ⟨[]⟩, "", []⟩ } calls (by decide +kernel)
    (by decide +kernel)
  rw [← Rehearsal.smallRealm] at told
  refine ⟨by decide +kernel, ?_⟩
  rintro ⟨socket, addons⟩ listed
  obtain ⟨before, entrance, later, split, place, -, -, own⟩ := told.2 socket addons listed
  have mem : entrance ∈ Rehearsal.smallRealm.entrances Rehearsal.bareServices calls :=
    List.mem_iff_append.mpr ⟨before, later, split⟩
  exact ⟨entrance, mem, place, own.mpr (fresh entrance mem)⟩

/-- A client that comes back before the first tick hears of its one addon twice. -/
theorem addon_acknowledged_twice :
    let calls := [Rehearsal.arriveWithAddon 0, Rehearsal.arriveWithAddon 1, .update 0]
    let addon : AddonAck := { name := "One", state := 2, needsPublicKey := true }
    (Rehearsal.smallRealm.run Rehearsal.bareServices calls).roster.outside.addonInfos =
        [(⟨1⟩, [addon, addon])] ∧
      (Rehearsal.smallRealm.entrances Rehearsal.bareServices calls).map
          (fun entrance => (entrance.socket, entrance.own.map Addon.acknowledged)) =
        [(⟨0⟩, [addon]), (⟨1⟩, [addon])] ∧
      ∀ event ∈ Rehearsal.smallRealm.asides Rehearsal.bareServices calls,
        event.oversteps = false := by
  decide +kernel

end Registry

end GameRealm
