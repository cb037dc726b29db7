import GameRealm.Proofs.Lifecycle
import GameRealm.Proofs.Moves
import GameRealm.Proofs.TwoRuns

/-!
# What a logout shows

A logout takes its steps in a fixed order, and what a step does depends on what the
surroundings answer when it begins. Here the order is a list, and what a step shows is read
off from the answers alone, so that the effects of a logout are known once the answers are.

1. `LogoutStep.order` is the order, and `LogoutStep.effects` what a step shows;
   `LogoutStep.script` puts several steps one after the other, and `mem_script` tells from
   which of them an effect comes;
2. `logoutCharacter_eq_script`: a logout does exactly this. Each function of the teardown has
   its steps (`settleDeath_eq`, `returnHome_eq` and so on);
3. `AgreeButForFailures` compares two surroundings in which different calls to save the
   character and to the databases fail, and `Alike.script` two logouts in them: they show the
   same but for what is logged about the failures;
4. `logout_in_order` sums this up.
-/

namespace GameRealm

namespace Collaborators

variable (co : Collaborators W)

/-- Whether a character is still on its way after some steps of a far teleport. -/
def travelling (c : Character) (world : W) (steps : Nat) : Bool :=
  (co.character (co.reactAll world (.replicate steps (.character c .completeFarTeleport)))
    c).teleportingFar

/-- How many steps of a far teleport are completed for a character: as many as it takes to
arrive, but not more than a limit. -/
def teleportSteps (c : Character) (limit : Nat) (world : W) : Nat :=
  ((List.range limit).takeWhile (co.travelling c world)).length

/-- What is seen of a far teleport that is completed within a limit. A character that is
still on its way then is left to it. -/
def arrival (c : Character) (limit : Nat) (world : W) : List Effect :=
  let steps := co.teleportSteps c limit world
  .replicate steps (.character c .completeFarTeleport) ++
    if co.travelling c world steps then [.log .farTeleportUnresolved] else []

/-- What is seen of a statement: the call, and a complaint if it fails. -/
def stored (db : Database) (statement : Statement) (failed : Notice) (world : W) :
    List Effect :=
  .database db (.execute statement) ::
    match co.calling world db (.execute statement) with
    | .ok () => []
    | .error _ => [.log failed]

end Collaborators

inductive LogoutStep where
  | resolveTeleport
  | announce
  | releaseLoot
  | settleDeath
  | leaveBattleground
  | returnHome
  | leaveQueues
  | clearActivity
  | tellGuild
  | tellFriends
  | uninvite
  | leaveGroup
  | updateGroup
  | removePet
  | save
  | leaveChannels
  | leaveLfg
  | closeTickets
  | leaveWorld
  | release
  | tellClient
  | markOffline
  deriving DecidableEq, Repr

namespace LogoutStep

/-- The order in which a logout takes its steps. -/
def order : List LogoutStep :=
  [resolveTeleport, announce, releaseLoot, settleDeath, leaveBattleground, returnHome,
    leaveQueues, clearActivity, tellGuild, tellFriends, uninvite, leaveGroup, updateGroup,
    removePet, save, leaveChannels, leaveLfg, closeTickets, leaveWorld, release, tellClient,
    markOffline]

/-- What a step shows, by what the surroundings answer when it begins. -/
def effects (co : Collaborators W) (s : Session) (c : Character) (world : W) :
    LogoutStep → List Effect :=
  let view := co.character world c
  let act (deed : Deed) : Effect := .character c deed
  let ask (call : WorldCall) : Effect := .world c.guid call
  fun
  | resolveTeleport => co.arrival c Teardown.maxTeleportSteps world
  | announce => [.log .characterLogout]
  | releaseLoot => [act .releaseLoot]
  | settleDeath =>
    match view.death with
    | .awaitingRespawn => [act .repopAtGraveyard]
    | .delayedDeath => [act .kill, act .repopAtGraveyard]
    | .alive => if view.inCombat then [act .leaveCombat] else []
  | leaveBattleground => [act .notifyBattlegroundLogout]
  | returnHome =>
    if view.validInstance || view.gameMaster then []
    else act .teleportToHomebind ::
      co.arrival c Teardown.maxTeleportSteps (co.react world (act .teleportToHomebind))
  | leaveQueues =>
    act .takeBattlegroundQueues ::
      view.battlegroundQueues.map fun queue => ask (.leaveBattlegroundQueue queue)
  | clearActivity => co.stored .login (.accountInactive s.account) .realmActivityKept world
  | tellGuild =>
    match view.guild with
    | none => []
    | some guild => [ask (.guildMemberLoggedOut guild c.name)]
  | tellFriends => if view.social then [ask .sendFriendOffline, ask .removeSocial] else []
  | uninvite => [act .uninviteFromGroup]
  | leaveGroup =>
    if view.raidGroup == some false && s.socketOpen co world then [act .removeFromGroup] else []
  | updateGroup =>
    if view.raidGroup.isSome then [act (.updateGroupOnlineStatus false)] else []
  | removePet => [act .removePet]
  | save =>
    if s.saveOnLogout then
      act .save ::
        match co.saving world c with
        | .ok () => []
        | .error _ => [.log .characterUnsaved]
    else []
  | leaveChannels => [act .cleanupChannels]
  | leaveLfg => [ask .leaveLfg]
  | closeTickets => [ask (.ticketOnlineState false)]
  | leaveWorld =>
    if (co.regionOf world c.guid).isSome then [ask (.removePlayer true)]
    else [act .cleanupBeforeDelete, ask .deleteFromWorld]
  | release => [.release c]
  | tellClient =>
    (match s.socket with
    | none => []
    | some socket =>
      if (co.socket world socket).closed then [] else [.send socket .logoutComplete]) ++
        [.log .logoutCompleteSent]
  | markOffline =>
    co.stored .character (.characterOffline c.guid) .characterKeptOnline world

/-- What some steps show, each of which begins where the last one has ended. -/
def script (co : Collaborators W) (s : Session) (c : Character) : List LogoutStep → W → List Effect
  | [], _ => []
  | step :: steps, world =>
    let shown := step.effects co s c world
    shown ++ script co s c steps (co.reactAll world shown)

end LogoutStep

theorem LogoutStep.script_congr {co : Collaborators W} {s t : Session} {c : Character}
    (account : s.account = t.account) (socket : s.socket = t.socket)
    (save : s.saveOnLogout = t.saveOnLogout) (steps : List LogoutStep) (world : W) :
    script co s c steps world = script co t c steps world := by
  have each (step : LogoutStep) (world : W) :
      step.effects co s c world = step.effects co t c world := by
    have reaches : s.socketOpen co world = t.socketOpen co world := by
      simp only [Session.socketOpen, socket]
    cases step with
    | clearActivity => simp only [effects, account]
    | leaveGroup => rw [effects, reaches, effects]
    | save => rw [effects, save, effects]
    | tellClient => simp only [effects, socket]
    | _ => rfl
  induction steps generalizing world with
  | nil => rfl
  | cons step steps ih => simp only [script, each, ih]

/-! ## Effects in a row -/

theorem Collaborators.reactAll_append (co : Collaborators W) (world : W)
    (first second : List Effect) :
    co.reactAll world (first ++ second) = co.reactAll (co.reactAll world first) second :=
  List.foldl_append

namespace Outside

variable {co : Collaborators W}

theorem emitAll_append (first second : List Effect) (o : Outside W) :
    o.emitAll co (first ++ second) = (o.emitAll co first).emitAll co second :=
  List.foldl_append

theorem trace_emitAll (effects : List Effect) (o : Outside W) :
    (o.emitAll co effects).trace = o.trace ++ effects := by
  induction effects generalizing o with
  | nil => exact (List.append_nil _).symm
  | cons effect effects ih =>
    change ((o.emit co effect).emitAll co effects).trace = _
    rw [ih, trace_emit, List.append_assoc, List.singleton_append]

theorem emitAll_ite (condition : Prop) [Decidable condition] (first second : List Effect)
    (o : Outside W) :
    o.emitAll co (if condition then first else second) =
      if condition then o.emitAll co first else o.emitAll co second :=
  apply_ite (o.emitAll co) ..

end Outside

/-! ## What is in a script -/

namespace LogoutStep

variable {co : Collaborators W} {s : Session} {c : Character} {effect : Effect} {world : W}

theorem mem_script {steps : List LogoutStep} :
    effect ∈ script co s c steps world ↔ ∃ before step after, steps = before ++ step :: after ∧
      effect ∈ step.effects co s c (co.reactAll world (script co s c before world)) := by
  induction steps generalizing world with
  | nil => simp [script]
  | cons step steps ih =>
    simp only [script, List.mem_append, ih]
    constructor
    · rintro (now | ⟨before, later, after, rfl, mem⟩)
      · exact ⟨[], step, steps, rfl, now⟩
      · refine ⟨step :: before, later, after, rfl, ?_⟩
        rwa [script, Collaborators.reactAll_append]
    · rintro ⟨before, later, after, split, mem⟩
      cases before with
      | nil =>
        obtain ⟨rfl, rfl⟩ := List.cons.inj split
        exact .inl mem
      | cons first before =>
        obtain ⟨rfl, rfl⟩ := List.cons.inj split
        rw [script, Collaborators.reactAll_append] at mem
        exact .inr ⟨before, later, after, rfl, mem⟩

theorem mem_arrival {limit : Nat} (mem : effect ∈ co.arrival c limit world) :
    effect = .character c .completeFarTeleport ∨ effect = .log .farTeleportUnresolved := by
  rcases List.mem_append.mp mem with completed | given
  · exact .inl (List.eq_of_mem_replicate completed)
  · split at given
    · exact .inr (List.mem_singleton.mp given)
    · cases given

theorem mem_stored {db : Database} {statement : Statement} {failed : Notice}
    (mem : effect ∈ co.stored db statement failed world) :
    effect = .database db (.execute statement) ∨ effect = .log failed := by
  rcases List.mem_cons.mp mem with called | complained
  · exact .inl called
  · split at complained
    · cases complained
    · exact .inr (List.mem_singleton.mp complained)

end LogoutStep

/-! ## The functions of the teardown -/

namespace Teardown

variable (co : Collaborators W) (s : Session) (c : Character)

def take (o : Outside W) (step : LogoutStep) : Outside W :=
  o.emitAll co (step.effects co s c o.world)

/-- Steps that are taken in a row show what their script says. -/
theorem foldl_take (steps : List LogoutStep) (o : Outside W) :
    steps.foldl (take co s c) o = o.emitAll co (LogoutStep.script co s c steps o.world) := by
  induction steps generalizing o with
  | nil => rfl
  | cons step steps ih =>
    rw [List.foldl_cons, ih, take, Outside.world_emitAll, LogoutStep.script,
      Outside.emitAll_append]

variable {co s c} (o : Outside W)

theorem teleportSteps_succ {world : W} (far : (co.character world c).teleportingFar = true)
    (limit : Nat) :
    co.teleportSteps c (limit + 1) world =
      co.teleportSteps c limit (co.react world (.character c .completeFarTeleport)) + 1 := by
  simp only [Collaborators.teleportSteps, List.range_succ_eq_map]
  -- How it travels after some steps more is how it travels from there on.
  rw [List.takeWhile_cons_of_pos (by exact far), List.length_cons, List.takeWhile_map,
    List.length_map]
  rfl

theorem arrival_of_arrived {world : W} (near : (co.character world c).teleportingFar = false)
    (limit : Nat) : co.arrival c limit world = [] := by
  have here : co.travelling c world 0 = false := near
  have none : co.teleportSteps c limit world = 0 := by
    cases limit with
    | zero => rfl
    | succ limit =>
      rw [Collaborators.teleportSteps, List.range_succ_eq_map,
        List.takeWhile_cons_of_neg (ne_true_of_eq_false here)]
      rfl
  simp only [Collaborators.arrival, none, List.replicate_zero]
  exact if_neg (ne_true_of_eq_false here)

/-- The completion of a far teleport shows how a character arrives. -/
theorem resolveWithin_eq (limit : Nat) :
    resolveWithin co c limit o = o.emitAll co (co.arrival c limit o.world) := by
  induction limit generalizing o with
  | zero =>
    unfold resolveWithin
    change _ = o.emitAll co
      ([] ++ if (o.character co c).teleportingFar then [.log .farTeleportUnresolved] else [])
    split <;> rfl
  | succ limit ih =>
    unfold resolveWithin
    split
    · next far =>
      rw [ih]
      simp only [Collaborators.arrival, teleportSteps_succ far limit, List.replicate_succ]
      rfl
    · next near =>
      rw [arrival_of_arrived (eq_false_of_ne_true near)]
      rfl

theorem resolve_eq : resolve co c o = take co s c o .resolveTeleport := resolveWithin_eq o _

theorem settleDeath_eq : settleDeath co c o = take co s c o .settleDeath := by
  simp only [settleDeath, take, LogoutStep.effects, Outside.character]
  cases (co.character o.world c).death with
  | awaitingRespawn => rfl
  | delayedDeath => rfl
  | alive =>
    simp only [Outside.emitAll_ite]
    rfl

theorem returnHome_eq : returnHome co c o = take co s c o .returnHome := by
  simp only [returnHome, take, LogoutStep.effects, Outside.character, Outside.emitAll_ite]
  exact ite_congr rfl (fun _ => rfl) fun _ =>
    resolveWithin_eq (o.act co c .teleportToHomebind) maxTeleportSteps

theorem leaveQueues_eq : leaveQueues co c o = take co s c o .leaveQueues := by
  have each (queues : List UInt32) (o : Outside W) :
      queues.foldl (fun o queue => o.ask co c.guid (.leaveBattlegroundQueue queue)) o =
        o.emitAll co (queues.map fun queue => .world c.guid (.leaveBattlegroundQueue queue)) := by
    rw [Outside.emitAll, List.foldl_map]
    rfl
  exact each _ _

theorem store_eq (db : Database) (statement : Statement) (failed : Notice) :
    store co db statement failed o = o.emitAll co (co.stored db statement failed o.world) := by
  simp only [store, Outside.call, Collaborators.stored]
  cases co.calling o.world db (.execute statement) <;> rfl

theorem tellOthers_eq : tellOthers co c o = [.tellGuild, .tellFriends].foldl (take co s c) o := by
  have guild : (match (o.character co c).guild with
      | none => o
      | some guild => o.ask co c.guid (.guildMemberLoggedOut guild c.name)) =
        take co s c o .tellGuild := by
    simp only [take, LogoutStep.effects, Outside.character]
    cases (co.character o.world c).guild <;> rfl
  have friends (o : Outside W) : (if (o.character co c).social then
        (o.ask co c.guid .sendFriendOffline).ask co c.guid .removeSocial else o) =
      take co s c o .tellFriends := by
    simp only [take, LogoutStep.effects, Outside.emitAll_ite]
    rfl
  simp only [tellOthers, friends]
  exact congrArg (take co s c · .tellFriends) guild

theorem leaveGroup_eq :
    leaveGroup co s c o = [.uninvite, .leaveGroup, .updateGroup].foldl (take co s c) o := by
  have left (o : Outside W) : (if (o.character co c).raidGroup == some false &&
        s.socketOpen co o.world then o.act co c .removeFromGroup else o) =
      take co s c o .leaveGroup := by
    simp only [take, LogoutStep.effects, Outside.emitAll_ite]
    rfl
  have updated (o : Outside W) : (if (o.character co c).raidGroup.isSome then
        o.act co c (.updateGroupOnlineStatus false) else o) = take co s c o .updateGroup := by
    simp only [take, LogoutStep.effects, Outside.emitAll_ite]
    rfl
  simp only [leaveGroup, left, updated]
  rfl

theorem save_eq : save co s c o = take co s c o .save := by
  simp only [save, take, LogoutStep.effects, Outside.emitAll_ite]
  cases co.saving o.world c <;> rfl

theorem leaveWorld_eq : leaveWorld co c o = take co s c o .leaveWorld := by
  simp only [leaveWorld, take, LogoutStep.effects, Outside.emitAll_ite]
  rfl

/-- The teardown takes the steps from the announcement to the release. -/
theorem run_eq :
    run co s c o = [.announce, .releaseLoot, .settleDeath, .leaveBattleground, .returnHome,
      .leaveQueues, .clearActivity, .tellGuild, .tellFriends, .uninvite, .leaveGroup,
      .updateGroup, .removePet, .save, .leaveChannels, .leaveLfg, .closeTickets, .leaveWorld,
      .release].foldl (take co s c) o := by
  simp only [run, @settleDeath_eq W co s c, @returnHome_eq W co s c, @leaveQueues_eq W co s c,
    @tellOthers_eq W co s c, leaveGroup_eq, save_eq, @leaveWorld_eq W co s c, store_eq]
  rfl

end Teardown

namespace LiveSession

variable {sv : Services W} {c : Character}

theorem outside_send_eq (message : Message) (d : LiveSession W) :
    (d.send sv message).outside = d.outside.emitAll sv.collaborators
      (match d.session.socket with
      | none => []
      | some socket =>
        if (sv.collaborators.socket d.outside.world socket).closed then []
        else [.send socket message]) := by
  unfold send
  cases d.session.socket with
  | none => rfl
  | some socket =>
    simp only [Outside.emitAll_ite]
    exact apply_ite (fun d : LiveSession W => d.outside) ..

/-- A logout shows exactly what the script of its steps says. -/
theorem logoutCharacter_eq_script (d : LiveSession W) :
    (d.logoutCharacter sv c).outside = d.outside.emitAll sv.collaborators
      (LogoutStep.script sv.collaborators d.session c LogoutStep.order d.outside.world) := by
  let co := sv.collaborators
  let gone : Session := { d.session with loggingOut := true, player := none }
  let torn : LiveSession W :=
    { d with
      outside := Teardown.run co gone c (Teardown.resolve co c d.outside)
      session := gone }
  let told := (torn.send sv .logoutComplete).log sv .logoutCompleteSent
  have parted : told.outside = Teardown.take co gone c torn.outside .tellClient := by
    change (torn.send sv .logoutComplete).outside.log co .logoutCompleteSent = _
    simp only [outside_send_eq, Teardown.take, LogoutStep.effects, Outside.emitAll_append]
    rfl
  calc (d.logoutCharacter sv c).outside
    _ = Teardown.take co gone c told.outside .markOffline := Teardown.store_eq ..
    _ = Teardown.take co gone c (Teardown.take co gone c torn.outside .tellClient)
          .markOffline := by rw [parted]
    _ = LogoutStep.order.foldl (Teardown.take co gone c) d.outside := by
      simp only [torn, Teardown.run_eq, @Teardown.resolve_eq W co gone c]
      rfl
    _ = d.outside.emitAll co (LogoutStep.script co gone c LogoutStep.order d.outside.world) :=
      Teardown.foldl_take ..
    -- No step looks at what has changed in the session meanwhile.
    _ = _ := by rw [LogoutStep.script_congr (s := gone) (t := d.session) rfl rfl rfl]

theorem logoutPlayer_eq_script {d : LiveSession W} (attached : d.session.player = some c) :
    (d.logoutPlayer sv).outside = d.outside.emitAll sv.collaborators
      (LogoutStep.script sv.collaborators d.session c LogoutStep.order d.outside.world) := by
  rw [← logoutCharacter_eq_script]
  simp only [logoutPlayer, attached]
  rfl

end LiveSession

/-! ## Failures of persistence -/

namespace Effect

/-- A complaint of a logout about a call that failed. -/
def complaint : Effect → Bool
  | log .realmActivityKept | log .characterUnsaved | log .characterKeptOnline => true
  | _ => false

end Effect

/-- Effects without the complaints about calls that failed. -/
def quiet (effects : List Effect) : List Effect := effects.filter fun effect => !effect.complaint

/-- Two surroundings that answer alike as long as they are alike, but for which calls to save
a character or to a database fail; and complaints about that make no difference to them. -/
structure AgreeButForFailures (co : Collaborators W) (co' : Collaborators W')
    (Alike : W → W' → Prop) : Prop where
  socket : ∀ {w w'}, Alike w w' → co'.socket w' = co.socket w
  character : ∀ {w w'}, Alike w w' → co'.character w' = co.character w
  regionOf : ∀ {w w'}, Alike w w' → co'.regionOf w' = co.regionOf w
  react : ∀ {w w'}, Alike w w' → ∀ effect, Alike (co.react w effect) (co'.react w' effect)
  aside : ∀ {w w'}, Alike w w' → ∀ {effect : Effect}, effect.complaint →
    Alike (co.react w effect) w'
  aside' : ∀ {w w'}, Alike w w' → ∀ {effect : Effect}, effect.complaint →
    Alike w (co'.react w' effect)

namespace AgreeButForFailures

variable {co : Collaborators W} {co' : Collaborators W'} {Alike : W → W' → Prop}
  (agree : AgreeButForFailures co co' Alike) {w : W} {w' : W'}
include agree

theorem reactAll_complaints (alike : Alike w w') {effects : List Effect}
    (complaints : ∀ effect ∈ effects, effect.complaint = true) :
    Alike w (co'.reactAll w' effects) := by
  induction effects generalizing w' with
  | nil => exact alike
  | cons effect effects ih =>
    exact ih (agree.aside' alike (complaints effect (.head _))) fun other mem =>
      complaints other (.tail _ mem)

/-- What is the same but for complaints leaves surroundings alike. -/
theorem reactAll (alike : Alike w w') {effects effects' : List Effect}
    (same : quiet effects' = quiet effects) :
    Alike (co.reactAll w effects) (co'.reactAll w' effects') := by
  induction effects generalizing w w' effects' with
  | nil =>
    refine agree.reactAll_complaints alike fun effect mem => ?_
    simpa using List.filter_eq_nil_iff.mp same effect mem
  | cons effect effects ih =>
    -- A complaint is passed over on its own side. Another effect has its match on the other
    -- side, after some complaints, which are passed over there.
    cases complains : effect.complaint with
    | true =>
      refine ih (agree.aside alike complains) (same.trans ?_)
      exact List.filter_cons_of_neg (by simp [complains])
    | false =>
      have kept : quiet (effect :: effects) = effect :: quiet effects :=
        List.filter_cons_of_pos (by simp [complains])
      obtain ⟨before, after, rfl, skipped, -, rest⟩ :=
        List.filter_eq_cons_iff.mp (same.trans kept)
      rw [Collaborators.reactAll_append]
      have reached : Alike w (co'.reactAll w' before) :=
        agree.reactAll_complaints alike fun other mem => by simpa using skipped other mem
      exact ih (agree.react reached effect) rest

theorem arrival (alike : Alike w w') (c : Character) (limit : Nat) :
    co'.arrival c limit w' = co.arrival c limit w := by
  -- Both sides have completed the same steps when they look again.
  have there : co'.travelling c w' = co.travelling c w :=
    funext fun steps => congrArg (fun view : Character → CharacterView => (view c).teleportingFar)
      (agree.character (agree.reactAll alike rfl))
  unfold Collaborators.arrival Collaborators.teleportSteps
  rw [there]

theorem socketOpen (alike : Alike w w') (s : Session) :
    s.socketOpen co' w' = s.socketOpen co w := by
  simp only [Session.socketOpen, agree.socket alike]

omit agree in
theorem quiet_stored (db : Database) (statement : Statement) {failed : Notice}
    (complains : (Effect.log failed).complaint = true) :
    quiet (co'.stored db statement failed w') = quiet (co.stored db statement failed w) := by
  have only (answer : Except PersistenceError Unit) :
      quiet (match answer with
        | .ok () => []
        | .error _ => [.log failed]) = [] := by
    cases answer with
    | ok => rfl
    | error error => exact List.filter_cons_of_neg (by simp [complains])
  exact congrArg (_ :: ·) ((only _).trans (only _).symm)

theorem quiet_effects (alike : Alike w w') (s : Session) (c : Character) (step : LogoutStep) :
    quiet (step.effects co' s c w') = quiet (step.effects co s c w) := by
  have same := agree.character alike
  have arrives := agree.arrival alike c Teardown.maxTeleportSteps
  cases step with
  | resolveTeleport => exact congrArg quiet arrives
  | settleDeath => simp only [LogoutStep.effects, same]
  | returnHome =>
    -- The second look comes when both have sent the character home.
    have home := agree.arrival (agree.react alike (.character c .teleportToHomebind)) c
      Teardown.maxTeleportSteps
    simp only [LogoutStep.effects, same, home]
  | leaveQueues | tellGuild | tellFriends | updateGroup => simp only [LogoutStep.effects, same]
  | clearActivity => exact quiet_stored _ _ rfl
  | leaveGroup => simp only [LogoutStep.effects, same, agree.socketOpen alike]
  | save =>
    simp only [LogoutStep.effects]
    split
    · cases co'.saving w' c <;> cases co.saving w c <;> rfl
    · rfl
  | leaveWorld => simp only [LogoutStep.effects, agree.regionOf alike]
  | tellClient => simp only [LogoutStep.effects, agree.socket alike]
  | markOffline => exact quiet_stored _ _ rfl
  | _ => rfl

/-- Steps in a row show the same but for complaints. -/
theorem quiet_script (alike : Alike w w') (s : Session) (c : Character)
    (steps : List LogoutStep) :
    quiet (LogoutStep.script co' s c steps w') = quiet (LogoutStep.script co s c steps w) := by
  induction steps generalizing w w' with
  | nil => rfl
  | cons step steps ih =>
    have now := agree.quiet_effects alike s c step
    have later := ih (agree.reactAll alike now)
    simp only [LogoutStep.script, quiet, List.filter_append] at now later ⊢
    rw [now, later]

end AgreeButForFailures

/-! ## The main result -/

theorem Collaborators.count_arrival_le (co : Collaborators W) (c : Character) (limit : Nat)
    (world : W) : (co.arrival c limit world).count (.character c .completeFarTeleport) ≤ limit := by
  have within : co.teleportSteps c limit world ≤ limit :=
    Nat.le_trans (List.takeWhile_sublist _).length_le (Nat.le_of_eq List.length_range)
  have none : List.count (Effect.character c .completeFarTeleport)
      (if co.travelling c world (co.teleportSteps c limit world) then
        [.log .farTeleportUnresolved] else []) = 0 := by
    split <;> rfl
  rw [arrival, List.count_append, List.count_replicate_self, none]
  exact within

namespace LiveSession

/-- A logout of a character, whatever the surroundings answer. It takes its steps in order,
each of which shows what the answers at its beginning call for, and nothing else happens. A
far teleport is completed by eight steps at most. The session is left at the list of
characters, with its deadline armed if the clock reaches that far. And if other calls to save
the character and to the databases fail, only the complaints about them differ. -/
theorem logout_in_order (sv : Services W) (d : LiveSession W) (c : Character)
    (attached : d.session.player = some c) :
    let co := sv.collaborators
    let shown := LogoutStep.script co d.session c LogoutStep.order d.outside.world
    let after := d.logoutPlayer sv
    (after.outside.trace = d.outside.trace ++ shown ∧
      after.outside.world = co.reactAll d.outside.world shown ∧ after.inbox = d.inbox) ∧
    (∀ world, (co.arrival c Teardown.maxTeleportSteps world).count
      (.character c .completeFarTeleport) ≤ 8) ∧
    after.session = { d.session with
      player := none
      loggingOut := false
      recentlyLoggedOut := true
      saveOnLogout := true
      state := .charSelection
      kickDeadline := d.session.now.addSeconds? sv.config.charSelectionTimeout.toNat
      scheduledLogout := none } ∧
    ∀ {W' : Type} (sv' : Services W') (d' : LiveSession W') (Alike : W → W' → Prop),
      AgreeButForFailures co sv'.collaborators Alike →
      Alike d.outside.world d'.outside.world → d'.session = d.session → sv'.config = sv.config →
      let shown' := LogoutStep.script sv'.collaborators d'.session c LogoutStep.order
        d'.outside.world
      let after' := d'.logoutPlayer sv'
      after'.outside.trace = d'.outside.trace ++ shown' ∧ quiet shown' = quiet shown ∧
        after'.session = after.session ∧ Alike after.outside.world after'.outside.world := by
  intro co shown after
  have out : after.outside = d.outside.emitAll co shown := logoutPlayer_eq_script attached
  have world : after.outside.world = co.reactAll d.outside.world shown := by
    rw [out, Outside.world_emitAll]
  obtain ⟨session, inbox⟩ := d.frame_logoutPlayer
  refine ⟨⟨out ▸ Outside.trace_emitAll .., world, inbox⟩, co.count_arrival_le c _, session, ?_⟩
  · intro W' sv' d' Alike agree alike session config shown' after'
    have out' : after'.outside = d'.outside.emitAll sv'.collaborators shown' :=
      logoutPlayer_eq_script (session ▸ attached)
    -- The scripts differ by complaints only, since both worlds answer alike along the way.
    have same : quiet shown' = quiet shown := by
      simp only [shown', session]
      exact agree.quiet_script alike d.session c LogoutStep.order
    refine ⟨out' ▸ Outside.trace_emitAll .., same, ?_, ?_⟩
    · simp only [after', after, frame_logoutPlayer, session, config]
    · rw [world, out', Outside.world_emitAll]
      exact agree.reactAll alike same

/-- A session whose character never arrives where it is headed, is not bound to its instance,
and waits in two battleground queues and in a small group. -/
def leaving : LiveSession Rehearsal.Stage :=
  let start := Rehearsal.opening (Rehearsal.coreServices {})
  let probe : Rehearsal.Probe :=
    { farSteps := 100
      death := .awaitingRespawn
      validInstance := false
      battlegroundQueues := [4, 9]
      raidGroup := some false }
  { start with
    session := start.session.attach Rehearsal.lead
    outside := { world := start.outside.world.enter ⟨7⟩ probe } }

/-- The logout of this character, step by step, and what is logged besides if it cannot be
saved and no database answers. -/
theorem logout_in_order_leaving :
    let sv := Rehearsal.coreServices {}
    let co := sv.collaborators
    let refusing : Services Rehearsal.Stage := { sv with
      collaborators := { co with
        saving := fun _ _ => .error (.transaction "refused")
        calling := fun _ _ _ => .error (.transaction "refused") } }
    let act (deed : Deed) : Effect := .character Rehearsal.lead deed
    let ask (call : WorldCall) : Effect := .world ⟨7⟩ call
    let shown : List Effect :=
      .replicate 8 (act .completeFarTeleport) ++
      [.log .farTeleportUnresolved, .log .characterLogout, act .releaseLoot,
        act .repopAtGraveyard, act .notifyBattlegroundLogout, act .teleportToHomebind,
        act .completeFarTeleport, act .takeBattlegroundQueues, ask (.leaveBattlegroundQueue 4),
        ask (.leaveBattlegroundQueue 9), .database .login (.execute (.accountInactive ⟨1⟩)),
        act .uninviteFromGroup, act .removeFromGroup, act .removePet, act .save,
        act .cleanupChannels, ask .leaveLfg, ask (.ticketOnlineState false),
        act .cleanupBeforeDelete, ask .deleteFromWorld, .release Rehearsal.lead,
        .send ⟨0⟩ .logoutComplete, .log .logoutCompleteSent,
        .database .character (.execute (.characterOffline ⟨7⟩))]
    let after := leaving.logoutPlayer sv
    let after' := leaving.logoutPlayer refusing
    leaving.session.player = some Rehearsal.lead ∧ after.outside.trace = shown ∧
      after.session.state = .charSelection ∧ after.session.kickDeadline = some 900000000000 ∧
      quiet after'.outside.trace = shown ∧
      after'.outside.trace.filter Effect.complaint =
        [.log .realmActivityKept, .log .characterUnsaved, .log .characterKeptOnline] ∧
      after'.session = after.session := by
  intro sv co refusing act ask shown after after'
  have agree : AgreeButForFailures co refusing.collaborators Eq :=
    { socket := by rintro w _ rfl; rfl
      character := by rintro w _ rfl; rfl
      regionOf := by rintro w _ rfl; rfl
      react := by rintro w _ rfl effect; rfl
      aside := by
        rintro w _ rfl effect complains
        cases effect <;> first | rfl | cases complains
      aside' := by
        rintro w _ rfl effect complains
        cases effect <;> first | rfl | cases complains }
  obtain ⟨⟨trace, -, -⟩, -, session, others⟩ :=
    logout_in_order sv leaving Rehearsal.lead rfl
  obtain ⟨trace', same, session', -⟩ := others refusing leaving Eq agree rfl rfl rfl
  have scripted : LogoutStep.script co leaving.session Rehearsal.lead LogoutStep.order
      leaving.outside.world = shown := by decide
  have fresh : leaving.outside.trace = [] := rfl
  have seen : after.outside.trace = shown := by
    rw [trace, scripted, fresh, List.nil_append]
  have seen' : quiet after'.outside.trace = shown := by
    rw [trace', fresh, List.nil_append, same, scripted]
    decide
  refine ⟨rfl, seen, ?_, ?_, seen', ?_, session'⟩
  · rw [session]
  · rw [session]
    decide
  · rw [trace']
    decide

end LiveSession

end GameRealm
