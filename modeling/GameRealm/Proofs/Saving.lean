import GameRealm.Proofs.Departure

/-!
# Who is saved

A session saves its character when it logs it out, unless a kick has said otherwise. What
a kick says is kept with the session and not with the character, and outlives the logout
that the kick has scheduled: it is forgotten at the next logout, whoever that is of.

1. `Event.farewell?` says which events log a character out, and whether they save it:
   `saves_apply`;
2. `LiveSession.Condemned` says that a kick without saving still counts, and `condemned_iff` that
   this is what a session remembers;
3. so `saved_iff_not_condemned`: a character that nobody kicked without saving while it
   was attached is saved unless an earlier kick still counts.
-/

namespace GameRealm

def Effect.saved? : Effect → Option Character
  | character who .save => some who
  | _ => none

def Outside.saves (outside : Outside W) : List Character := outside.record Effect.saved?

/-! ## Logouts -/

/-- Whether a step of the state machine logs a character out, and if so whether it is
saved. At the list of characters whoever idles for too long is. -/
def Session.farewell? (config : SessionConfig) (socketOpen : Bool) (now : Instant)
    (s : Session) : Option Bool :=
  let due := s.shouldLogOut config now && !s.playerLoading
  match s.state with
  | .created => none
  | .charSelection =>
    if socketOpen then
      if due then some s.saveOnLogout else if s.shouldDisconnect now then some true else none
    else none
  | .ready =>
    if s.socket.isSome && !socketOpen then none else if due then some s.saveOnLogout else none
  | .offline => if s.shouldDisconnect now then some s.saveOnLogout else none

namespace Event

/-- Whether an event logs a character out, and if so whether it is saved. -/
def farewell? (config : SessionConfig) (socketOpen : Bool) (s : Session) : Event W → Option Bool
  | perform .logoutPlayer => some s.saveOnLogout
  | perform (.kickPlayer save inPlace) => if inPlace then some save else none
  | perform .shutdown => if s.hasShutDown || s.player.isNone then none else some s.saveOnLogout
  | advance now => s.farewell? config socketOpen now
  | _ => none

/-- A kick with saving or without. -/
def kick? : Event W → Option Bool
  | perform (.kickPlayer save _) => some save
  | _ => none

end Event

namespace Session

/-- What becomes of the character, and of whether the next one is saved, in a session that
logs out or does not. -/
structure Farewell (out : Option Bool) (player : Option Character) (save : Bool)
    (after : Session) : Prop where
  player : after.player = if out.isSome then none else player
  save : after.saveOnLogout = if out.isSome then true else save

variable {config : SessionConfig} {socketOpen : Bool} {s : Session}

theorem saveOnLogout_afterCreated : (s.afterCreated config).saveOnLogout = s.saveOnLogout := by
  unfold afterCreated
  cases s.pending with
  | none => rfl
  | some socket =>
    change (s.afterActivation config socket).saveOnLogout = s.saveOnLogout
    unfold afterActivation
    simp only
    split <;> rfl

theorem farewell_afterAdvance (now : Instant) :
    Farewell (s.farewell? config socketOpen now) s.player s.saveOnLogout
      (s.afterAdvance config socketOpen now) := by
  have stays : Farewell none s.player s.saveOnLogout s := ⟨rfl, rfl⟩
  unfold farewell? afterAdvance
  cases s.state with
  | created => exact ⟨s.player_afterCreated config, saveOnLogout_afterCreated⟩
  | charSelection =>
    cases socketOpen with
    | false => exact stays
    | true =>
      simp only [if_true, afterLogoutIfDue]
      split
      · -- Whoever has just been logged out may be disconnected at once.
        split <;> exact ⟨rfl, rfl⟩
      · split
        · exact ⟨rfl, rfl⟩
        · exact stays
  | ready =>
    simp only [afterLogoutIfDue]
    split
    · split
      · exact ⟨rfl, rfl⟩
      · exact stays
    · split
      · exact ⟨rfl, rfl⟩
      · exact stays
  | offline =>
    simp only
    split
    · exact ⟨rfl, rfl⟩
    · exact stays

/-- Who is logged out is gone, and the next one is to be saved. Otherwise what the last
kick said counts. -/
theorem farewell_after (config : SessionConfig) (socketOpen : Bool) (s : Session)
    (event : Event W) :
    Farewell (event.farewell? config socketOpen s) (event.attached?.or s.player)
      (event.kick?.getD s.saveOnLogout) (event.after config socketOpen s) := by
  cases event with
  | perform operation =>
    cases operation with
    | kickPlayer save inPlace => cases inPlace <;> exact ⟨rfl, rfl⟩
    | setOnline =>
      simp only [Event.after, Operation.after]
      split <;> exact ⟨rfl, rfl⟩
    | requestNewSocket socket =>
      simp only [Event.after, Operation.after, afterRequest]
      split <;> exact ⟨rfl, rfl⟩
    | shutdown =>
      simp only [Event.after, Operation.after, afterShutdown, Event.farewell?]
      cases s.hasShutDown with
      | true => exact ⟨rfl, rfl⟩
      | false =>
        cases attached : s.player with
        | none => exact ⟨attached, rfl⟩
        | some c => exact ⟨rfl, rfl⟩
    | _ => exact ⟨rfl, rfl⟩
  | advance now => exact farewell_afterAdvance now
  | grant queue status opcode =>
    cases queue with
    | generic =>
      simp only [Event.after]
      split <;> exact ⟨rfl, rfl⟩
    | map => exact ⟨rfl, rfl⟩
  | _ => exact ⟨rfl, rfl⟩

end Session

namespace LiveSession

/-- Whether an event logs a character out, and if so whether it is saved. -/
def farewell? (sv : Services W) (event : Event W) (d : LiveSession W) : Option Bool :=
  event.farewell? sv.config (d.socketOpen sv) d.session

section
variable {sv : Services W} {d : LiveSession W} {c : Character} {event : Event W}

theorem farewell_apply (sv : Services W) (event : Event W) (d : LiveSession W) :
    Session.Farewell (d.farewell? sv event) (event.attached?.or d.session.player)
      (event.kick?.getD d.session.saveOnLogout) (event.apply sv d).session := by
  have same := event.life_apply sv d
  obtain ⟨player, save⟩ :=
    Session.farewell_after sv.config (d.socketOpen sv) d.session event
  exact ⟨(congrArg Life.player same).trans player, (congrArg Life.saveOnLogout same).trans save⟩

/-! ### What a logout saves -/

theorem saves_emit {outside : Outside W} {effect : Effect} (silent : effect.saved? = none) :
    (outside.emit sv.collaborators effect).saves = outside.saves := by
  rw [Outside.saves, Outside.record_emit, silent, Option.toList_none, List.append_nil]
  rfl

theorem saves_discard? (socket : Option SocketId) (d : LiveSession W) :
    (d.discard? sv socket).outside.saves = d.outside.saves := by
  cases socket with
  | none => rfl
  | some socket =>
    change (d.discard sv socket).outside.saves = d.outside.saves
    unfold discard
    split
    · exact saves_emit rfl
    · exact (saves_emit rfl).trans (saves_emit rfl)

theorem saves_closeSocket (d : LiveSession W) :
    (d.closeSocket sv).outside.saves = d.outside.saves := by
  unfold closeSocket
  split
  · rfl
  · exact saves_emit rfl

theorem saves_logoutPlayer (d : LiveSession W) :
    (d.logoutPlayer sv).outside.saves =
      d.outside.saves ++ if d.session.saveOnLogout then d.session.player.toList else [] := by
  cases attached : d.session.player with
  | none =>
    rw [outside_logoutPlayer_of_none attached, Option.toList_none, ite_self, List.append_nil]
  | some c =>
    have clears : ∀ effect : Effect, effect.Clears c → effect.saved? = none := by
      intro effect clear
      cases effect with
      | character who deed =>
        cases deed <;> first | rfl | exact absurd rfl clear.2
      | _ => rfl
    have parts : ∀ effect : Effect, effect.Parts d.session.socket → effect.saved? = none := by
      intro effect part
      cases effect <;> first | rfl | exact part.elim
    obtain ⟨first, last, early, late, told⟩ := emits_logoutCharacter sv d c
    have out : (d.logoutPlayer sv).outside = (d.logoutCharacter sv c).outside := by
      simp only [logoutPlayer, attached]
      rfl
    have written : (Teardown.save sv.collaborators d.session c first).saves =
        first.saves ++ if d.session.saveOnLogout then [c] else [] := by
      rcases Teardown.emits_save c first sv.collaborators d.session with
        ⟨flag, same⟩ | ⟨flag, wrote⟩
      · rw [same, flag, if_neg Bool.false_ne_true, List.append_nil]
      · rw [flag, if_pos rfl]
        exact (wrote.record clears).trans (Outside.record_emit ..)
    calc (d.logoutPlayer sv).outside.saves
      _ = (last.emit sv.collaborators (.release c)).saves := out ▸ told.record parts
      _ = last.saves := saves_emit rfl
      _ = (Teardown.save sv.collaborators d.session c first).saves := late.record clears
      _ = first.saves ++ if d.session.saveOnLogout then [c] else [] := written
      _ = d.outside.saves ++ if d.session.saveOnLogout then [c] else [] := by
        rw [Outside.saves, early.record clears, Outside.saves]

theorem saves_disconnect (d : LiveSession W) :
    (((d.log sv .idleDisconnect).kickPlayer sv true true).closeSocket sv).outside.saves =
      d.outside.saves ++ d.session.player.toList := by
  have logged : (d.log sv .idleDisconnect).outside.saves = d.outside.saves := saves_emit rfl
  rw [saves_closeSocket, ← logged]
  exact saves_logoutPlayer
    ((d.log sv .idleDisconnect).modify fun s => { s with saveOnLogout := true })

theorem saves_advance {save : Bool} {now : Instant}
    (out : d.session.farewell? sv.config (d.socketOpen sv) now = some save) :
    (d.advance sv now).2.outside.saves =
      d.outside.saves ++ if save then d.session.player.toList else [] := by
  unfold Session.farewell? at out
  unfold advance
  cases state : d.session.state with
  | created =>
    rw [state] at out
    cases out
  | charSelection =>
    simp only [state] at out
    simp only [advanceCharSelection, logoutIfDue]
    split at out
    · next isOpen =>
      rw [if_pos isOpen]
      split at out
      · next due =>
        obtain rfl := Option.some.inj out
        have gone : (d.logoutPlayer sv).session.player = none := by
          rw [(frame_logoutPlayer _).1]
          rfl
        simp only [if_pos due]
        split
        · rw [saves_disconnect, gone, Option.toList_none, List.append_nil, saves_logoutPlayer]
        · exact saves_logoutPlayer d
      · next due =>
        split at out
        · next late =>
          obtain rfl := Option.some.inj out
          simp only [if_neg due, if_pos late]
          exact saves_disconnect d
        · cases out
    · cases out
  | ready =>
    simp only [state] at out
    simp only [advanceReady, socketClosed_eq]
    split at out
    · cases out
    · next stillOpen =>
      split at out
      · next due =>
        obtain rfl := Option.some.inj out
        rw [if_neg stillOpen, if_pos due]
        exact saves_logoutPlayer d
      · cases out
  | offline =>
    simp only [state] at out
    simp only [advanceOffline]
    split at out
    · next late =>
      obtain rfl := Option.some.inj out
      rw [if_pos late]
      split <;> exact saves_logoutPlayer d
    · cases out

/-- Whoever an event logs out is saved once, or not at all. -/
theorem saves_apply {save : Bool} (out : d.farewell? sv event = some save) :
    (event.apply sv d).outside.saves =
      d.outside.saves ++ if save then d.session.player.toList else [] := by
  cases event with
  | perform operation =>
    cases operation with
    | logoutPlayer =>
      obtain rfl : d.session.saveOnLogout = save := Option.some.inj out
      exact saves_logoutPlayer d
    | kickPlayer flag inPlace =>
      cases inPlace with
      | false => cases out
      | true =>
        obtain rfl : flag = save := Option.some.inj out
        exact saves_logoutPlayer (d.modify fun s => { s with saveOnLogout := flag })
    | shutdown =>
      simp only [farewell?, Event.farewell?, Bool.or_eq_true, Option.isNone_iff_eq_none] at out
      split at out
      · cases out
      · next still =>
        rw [not_or] at still
        have attached : d.session.player.isSome := Option.isSome_iff_ne_none.mpr still.2
        obtain rfl := Option.some.inj out
        change (d.shutdown sv).outside.saves = _
        rw [shutdown, if_neg still.1]
        refine (saves_emit rfl).trans ?_
        rw [saves_discard?, saves_discard?]
        rw [modify, (frame_modify _ _).1, if_pos attached]
        exact saves_logoutPlayer (d.modify fun s => { s with hasShutDown := true })
    | _ => cases out
  | advance now => exact saves_advance out
  | _ => cases out

end

/-! ## Kicks that still count -/

/-- Nobody is kicked and nobody is logged out. -/
def Undisturbed (sv : Services W) : List (Event W) → LiveSession W → Prop
  | [], _ => True
  | event :: events, d =>
    (event.kick? = none ∧ d.farewell? sv event = none) ∧
      Undisturbed sv events (event.apply sv d)

/-- Among the events is a kick without saving that does not log anyone out at once, and
nobody has been kicked or logged out since. -/
def Condemned (sv : Services W) (events : List (Event W)) (d : LiveSession W) : Prop :=
  ∃ before kick after, events = before ++ kick :: after ∧ kick.kick? = some false ∧
    (d.replay sv before).farewell? sv kick = none ∧
    Undisturbed sv after (kick.apply sv (d.replay sv before))

section
variable {sv : Services W} {d : LiveSession W} {c : Character} {event : Event W}
  {events : List (Event W)}

theorem saveOnLogout_apply (stays : d.farewell? sv event = none) :
    (event.apply sv d).session.saveOnLogout = event.kick?.getD d.session.saveOnLogout := by
  have save := (farewell_apply sv event d).save
  rwa [stays, Option.isSome_none, if_neg Bool.false_ne_true] at save

theorem farewell?_of_unsaving (unsaving : (event.apply sv d).session.saveOnLogout = false) :
    d.farewell? sv event = none := by
  cases out : d.farewell? sv event with
  | none => rfl
  | some save =>
    have restored := (farewell_apply sv event d).save
    rw [out, unsaving] at restored
    exact absurd restored Bool.false_ne_true

theorem saveOnLogout_undisturbed (undisturbed : Undisturbed sv events d) :
    (d.replay sv events).session.saveOnLogout = d.session.saveOnLogout := by
  induction events generalizing d with
  | nil => rfl
  | cons event events ih =>
    obtain ⟨⟨spared, stays⟩, rest⟩ := undisturbed
    rw [replay_cons, ih rest, saveOnLogout_apply stays, spared, Option.getD_none]

/-- A session that is not to save has not been disturbed, or there was a kick. -/
theorem condemned_or_undisturbed (unsaving : (d.replay sv events).session.saveOnLogout = false) :
    d.Condemned sv events ∨ d.session.saveOnLogout = false ∧ Undisturbed sv events d := by
  induction events generalizing d with
  | nil => exact .inr ⟨unsaving, trivial⟩
  | cons event events ih =>
    rw [replay_cons] at unsaving
    rcases ih unsaving with ⟨before, kick, after, split, without, later, rest⟩ | ⟨still, rest⟩
    · exact .inl ⟨event :: before, kick, after, split ▸ rfl, without, later, rest⟩
    · have stays := farewell?_of_unsaving still
      rw [saveOnLogout_apply stays] at still
      cases kicked : event.kick? with
      | none =>
        rw [kicked, Option.getD_none] at still
        exact .inr ⟨still, ⟨kicked, stays⟩, rest⟩
      | some save =>
        rw [kicked, Option.getD_some] at still
        exact .inl ⟨[], event, events, rfl, still ▸ kicked, stays, rest⟩

/-- A session that saves to begin with is not to save exactly if a kick still counts. -/
theorem condemned_iff (saves : d.session.saveOnLogout = true) :
    d.Condemned sv events ↔ (d.replay sv events).session.saveOnLogout = false := by
  constructor
  · rintro ⟨before, kick, after, rfl, without, later, rest⟩
    rw [replay_append, replay_cons, saveOnLogout_undisturbed rest, saveOnLogout_apply later,
      without, Option.getD_some]
  · intro unsaving
    refine (condemned_or_undisturbed unsaving).resolve_right fun fresh => ?_
    exact absurd (saves.symm.trans fresh.1) (Bool.false_ne_true ∘ Eq.symm)

/-- Who is gone does not come back unless someone is attached. -/
theorem player_replay_of_gone (alone : attachments events = []) (gone : d.session.player = none) :
    (d.replay sv events).session.player = none := by
  rcases @player_replay W sv events d with out | last
  · exact out
  · rw [last, alone, gone]
    rfl

/-- While a character stays that nobody kicks without saving, only kicks with saving count. -/
theorem saveOnLogout_spared (alone : attachments events = [])
    (attached : (d.replay sv events).session.player = some c)
    (spared : ∀ kick ∈ events, kick.kick? ≠ some false) :
    (d.replay sv events).session.saveOnLogout = true ↔
      d.session.saveOnLogout = true ∨ ∃ kick ∈ events, kick.kick? = some true := by
  induction events generalizing d with
  | nil => simp
  | cons event events ih =>
    rw [replay_cons] at attached ⊢
    have nobody : event.attached? = none ∧ attachments events = [] := by
      simpa [attachments, List.filterMap_eq_nil_iff] using alone
    -- A logout would have taken the character away, and nobody brings it back.
    have stays : d.farewell? sv event = none := by
      cases out : d.farewell? sv event with
      | none => rfl
      | some save =>
        have gone := (farewell_apply sv event d).player
        rw [out, Option.isSome_some, if_pos rfl] at gone
        exact absurd ((player_replay_of_gone nobody.2 gone).symm.trans attached)
          (Option.some_ne_none c).symm
    rw [ih nobody.2 attached fun kick mem => spared kick (.tail _ mem), saveOnLogout_apply stays]
    cases kicked : event.kick? with
    | none => simp [kicked]
    | some save =>
      cases save with
      | false => exact absurd kicked (spared event (.head _))
      | true => simp [kicked]

end

/-! ## The main result -/

/-- Whether the state machine disconnects a session that idles at the list of characters. -/
def disconnects (sv : Services W) (event : Event W) (d : LiveSession W) : Bool :=
  match event with
  | .advance now =>
    d.session.state == .charSelection && d.socketOpen sv &&
      !(d.session.shouldLogOut sv.config now && !d.session.playerLoading) &&
      d.session.shouldDisconnect now
  | _ => false

theorem farewell?_eq_some {sv : Services W} {d : LiveSession W} {event : Event W} {save : Bool}
    (out : d.farewell? sv event = some save) :
    save = (d.disconnects sv event || event.kick?.getD d.session.saveOnLogout) := by
  cases event with
  | perform operation =>
    cases operation with
    | logoutPlayer => exact (Option.some.inj out).symm
    | kickPlayer flag inPlace =>
      cases inPlace with
      | false => cases out
      | true => exact (Option.some.inj out).symm
    | shutdown =>
      simp only [farewell?, Event.farewell?] at out
      split at out
      · cases out
      · exact (Option.some.inj out).symm
    | _ => cases out
  | advance now =>
    simp only [farewell?, Event.farewell?, Session.farewell?] at out
    simp only [disconnects, Event.kick?, Option.getD_none]
    split at out
    · cases out
    · next state =>
      split at out
      · next isOpen =>
        split at out
        · next due =>
          obtain rfl := Option.some.inj out
          simp [due]
        · next due =>
          split at out
          · next late =>
            obtain rfl := Option.some.inj out
            rw [Bool.not_eq_true] at due
            simp [state, isOpen, due, late]
          · cases out
      · cases out
    · next state =>
      split at out
      · cases out
      · split at out
        · obtain rfl := Option.some.inj out
          simp [state]
        · cases out
    · next state =>
      split at out
      · obtain rfl := Option.some.inj out
        simp [state]
      · cases out
  | _ => cases out

/-- Take any character, from when it is attached until it is logged out, in any run and amid
any producers, and let nobody kick it without saving. Then it is saved once or not at all;
and it is saved exactly if no kick from before it was attached still counted then, or it is
kicked with saving, or it is disconnected for idling. -/
theorem saved_iff_not_condemned (sv : Services W) (account : Account) (socket : SocketId)
    (birth : Instant) (world : W) (past since : List (Event W)) (c : Character)
    (event : Event W) (alone : attachments since = [])
    (spared : ∀ kick ∈ since ++ [event], kick.kick? ≠ some false)
    (stays : ((create sv account socket birth { world }).replay sv
      (past ++ .perform (.attach c) :: since)).session.player = some c)
    (leaves : ((create sv account socket birth { world }).replay sv
      (past ++ .perform (.attach c) :: since ++ [event])).session.player = none) :
    let start := create sv account socket birth { world }
    let d := start.replay sv (past ++ .perform (.attach c) :: since)
    let saved := (event.apply sv d).outside.saves = d.outside.saves ++ [c]
    (saved ∨ (event.apply sv d).outside.saves = d.outside.saves) ∧
      (saved ↔ ¬ start.Condemned sv past ∨ (∃ kick ∈ since ++ [event], kick.kick? = some true) ∨
        d.disconnects sv event = true) := by
  intro start d saved
  let begun := start.replay sv past
  let joined := (Event.perform (.attach c)).apply sv begun
  have whole : d = joined.replay sv since := by
    change start.replay sv (past ++ _) = _
    rw [replay_append, replay_cons]
  have attached : d.session.player = some c := stays
  have gone : (event.apply sv d).session.player = none := by
    rw [replay_append] at leaves
    exact leaves
  -- Somebody who is gone after the event has been logged out by it.
  cases out : d.farewell? sv event with
  | none =>
    have kept := (farewell_apply sv event d).player
    rw [out, Option.isSome_none, if_neg Bool.false_ne_true, gone, attached] at kept
    cases attaches : event.attached? <;> rw [attaches] at kept <;> cases kept
  | some save =>
    have wrote := saves_apply out
    rw [attached] at wrote
    -- What was said before the attachment counts unless a later kick says otherwise.
    have remembered : d.session.saveOnLogout = true ↔ ¬ start.Condemned sv past ∨
        ∃ kick ∈ since, kick.kick? = some true := by
      have unkicked : joined.session.saveOnLogout = begun.session.saveOnLogout :=
        saveOnLogout_apply rfl
      rw [whole, saveOnLogout_spared alone (whole ▸ attached)
        fun kick mem => spared kick (List.mem_append_left _ mem), unkicked, condemned_iff rfl,
        Bool.not_eq_false]
    have told : save = true ↔ ¬ start.Condemned sv past ∨
        (∃ kick ∈ since ++ [event], kick.kick? = some true) ∨ d.disconnects sv event = true := by
      have last : event.kick? ≠ some false :=
        spared event (List.mem_append_right _ (List.mem_singleton_self event))
      have kicked : event.kick?.getD d.session.saveOnLogout = true ↔
          event.kick? = some true ∨ d.session.saveOnLogout = true := by
        cases kick : event.kick? with
        | none => simp
        | some flag => cases flag <;> simp_all
      rw [farewell?_eq_some out, Bool.or_eq_true, kicked, remembered]
      simp only [List.mem_append, List.mem_singleton, or_and_right, exists_or, exists_eq_left]
      grind
    refine ⟨?_, Iff.trans ?_ told⟩
    · cases save with
      | true => exact .inl wrote
      | false => exact .inr (wrote.trans (List.append_nil _))
    · change _ = d.outside.saves ++ [c] ↔ _
      rw [wrote]
      cases save <;> simp

/-- A kick that is forgotten with the logout after it: the next character is saved. -/
theorem saved_iff_not_condemned_lead :
    let sv := Rehearsal.coreServices {}
    let start := Rehearsal.opening sv
    let past := [.perform (.kickPlayer false false), .perform .logoutPlayer]
    let online := [.perform .setOnline]
    let d := start.replay sv (past ++ .perform (.attach Rehearsal.lead) :: online)
    ¬ start.Condemned sv past ∧
      ((Event.perform .logoutPlayer).apply sv d).outside.saves =
        d.outside.saves ++ [Rehearsal.lead] := by
  have fresh : ¬ (Rehearsal.opening (Rehearsal.coreServices {})).Condemned
      (Rehearsal.coreServices {})
      [.perform (.kickPlayer false false), .perform .logoutPlayer] := by
    rw [condemned_iff rfl]
    decide
  exact ⟨fresh, (saved_iff_not_condemned _ _ _ _ _ _ _ _ _ rfl (by simp [Event.kick?]) (by decide)
    (by decide)).2.mpr (.inl fresh)⟩

/-- A session is kicked while nobody is there. The character that is attached afterwards
comes online, which calls off the logout that the kick has scheduled, and later logs out of
its own accord. It is not saved. -/
theorem unsaved_for_an_earlier_kick :
    let sv := Rehearsal.coreServices {}
    let start := Rehearsal.opening sv
    let past : List (Event Rehearsal.Stage) := [.perform (.kickPlayer false false)]
    let joined := start.replay sv (past ++ [.perform (.attach Rehearsal.lead)])
    let online := (Event.perform .setOnline).apply sv joined
    let out := (Event.perform .logoutPlayer).apply sv online
    start.history sv [Rehearsal.just (.kickPlayer false false),
        Rehearsal.just (.attach Rehearsal.lead), Rehearsal.just .setOnline,
        Rehearsal.just .logoutPlayer] =
      past ++ [.perform (.attach Rehearsal.lead), .perform .setOnline, .perform .logoutPlayer] ∧
    online.session.player = some Rehearsal.lead ∧ online.session.scheduledLogout = none ∧
      out.outside.releases = [Rehearsal.lead] ∧ out.outside.saves = [] := by
  intro sv start past joined online out
  exact ⟨rfl, by decide, by decide, by decide, by decide⟩

end LiveSession

end GameRealm
