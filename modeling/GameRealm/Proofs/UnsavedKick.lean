import GameRealm.Proofs.LogoutOrder
import GameRealm.Proofs.Saving

/-!
# What a kick without saving leaves undone

A character can be saved in two ways when it is logged out: by itself, and by the world that
takes it out of its region. A kick without saving is heard in one of them only.

1. `LogoutStep.mem_script_removePlayer` tells when the world is asked to save the character;
2. `LiveSession.departed` are the surroundings that the script of a logout leaves, and
   `departed_apply`: an event that logs a character out comes to that, and besides only lets
   go of sockets and writes to the log;
3. `saved_by_world_iff_placed`: after a kick without saving, in place or not, the character is
   not asked to save itself, but the world is exactly if it has the character in a region.
-/

namespace GameRealm

namespace LogoutStep

variable {co : Collaborators W} {s : Session} {c : Character} {effect : Effect} {world : W}

/-- Only one step asks the world to take a character out of its region. -/
theorem mem_effects_removePlayer {step : LogoutStep} {saveFirst : Bool} :
    .world c.guid (.removePlayer saveFirst) ∈ step.effects co s c world ↔
      step = .leaveWorld ∧ saveFirst = true ∧ (co.regionOf world c.guid).isSome := by
  constructor
  · intro mem
    cases step with
    | leaveWorld =>
      simp only [effects] at mem
      split at mem
      · next placed => simpa [placed] using mem
      · simp at mem
    | resolveTeleport => exact absurd (mem_arrival mem) (by simp)
    | returnHome =>
      simp only [effects] at mem
      split at mem
      · cases mem
      · exact absurd (mem_arrival (List.mem_of_ne_of_mem (by simp) mem)) (by simp)
    | clearActivity | markOffline => exact absurd (mem_stored mem) (by simp)
    -- What the other steps show depends on answers, but it is never a removal.
    | settleDeath | leaveQueues | tellGuild | tellFriends | leaveGroup | updateGroup | save
    | tellClient =>
      simp only [effects] at mem
      grind
    | _ => simp [effects] at mem
  · rintro ⟨rfl, rfl, placed⟩
    simp [effects, placed]

/-- Every step is taken once, so what comes before it is known. -/
theorem before_eq {before after : List LogoutStep} {step : LogoutStep}
    (split : order = before ++ step :: after) : before = order.takeWhile (· != step) := by
  have distinct : order.Nodup := by decide
  rw [split, List.nodup_append] at distinct
  have others : ∀ other ∈ before, (other != step) = true := fun other mem =>
    bne_iff_ne.mpr (distinct.2.2 other mem step List.mem_cons_self)
  rw [split, List.takeWhile_append_of_pos others, List.takeWhile_cons_of_neg (by simp),
    List.append_nil]

/-- The world is asked to save a character exactly if it has it in a region by then. -/
theorem mem_script_removePlayer :
    .world c.guid (.removePlayer true) ∈ script co s c order world ↔
      (co.regionOf (co.reactAll world (script co s c (order.takeWhile (· != .leaveWorld)) world))
        c.guid).isSome := by
  rw [mem_script]
  constructor
  · rintro ⟨before, step, after, split, mem⟩
    obtain ⟨rfl, -, placed⟩ := mem_effects_removePlayer.mp mem
    rwa [before_eq split] at placed
  · intro placed
    exact ⟨_, .leaveWorld, [.release, .tellClient, .markOffline], by decide,
      mem_effects_removePlayer.mpr ⟨rfl, rfl, placed⟩⟩

theorem script_append (first second : List LogoutStep) :
    script co s c (first ++ second) world = script co s c first world ++
      script co s c second (co.reactAll world (script co s c first world)) := by
  induction first generalizing world with
  | nil => rfl
  | cons step first ih =>
    simp only [List.cons_append, script, ih, Collaborators.reactAll_append, List.append_assoc]

end LogoutStep

def Effect.LetsGo : Effect → Prop
  | close _ | finalize _ | log _ => True
  | _ => False

namespace LiveSession

/-- The surroundings when a character has been logged out, and saved or not. -/
def departed (sv : Services W) (c : Character) (save : Bool) (d : LiveSession W) : Outside W :=
  d.outside.emitAll sv.collaborators (LogoutStep.script sv.collaborators
    { d.session with saveOnLogout := save } c LogoutStep.order d.outside.world)

section
variable {sv : Services W} {d : LiveSession W} {c : Character} {event : Event W}

theorem outside_logoutPlayer (attached : d.session.player = some c) :
    (d.logoutPlayer sv).outside = d.departed sv c d.session.saveOnLogout :=
  logoutPlayer_eq_script attached

theorem letsGo_discard? (socket : Option SocketId) (d : LiveSession W) :
    Outside.Emits sv.collaborators Effect.LetsGo d.outside (d.discard? sv socket).outside := by
  cases socket with
  | none => exact .refl
  | some socket =>
    have closed : Effect.LetsGo (.close socket) := trivial
    have finalized : Effect.LetsGo (.finalize socket) := trivial
    change Outside.Emits _ _ _ (d.discard sv socket).outside
    unfold discard
    split
    · exact .one finalized _
    · exact (Outside.Emits.one closed _).emit finalized

theorem letsGo_disconnect {d : LiveSession W} (alone : d.session.player = none) :
    Outside.Emits sv.collaborators Effect.LetsGo d.outside
      (((d.log sv .idleDisconnect).kickPlayer sv true true).closeSocket sv).outside := by
  let kicked := (d.log sv .idleDisconnect).modify fun s => { s with saveOnLogout := true }
  have noted : Outside.Emits sv.collaborators Effect.LetsGo d.outside
      (kicked.logoutPlayer sv).outside := by
    rw [outside_logoutPlayer_of_none (d := kicked) alone]
    exact .one (show Effect.LetsGo (.log .idleDisconnect) from trivial) _
  refine noted.trans ?_
  change Outside.Emits _ _ (kicked.logoutPlayer sv).outside
    ((kicked.logoutPlayer sv).closeSocket sv).outside
  unfold closeSocket
  split
  · exact .refl
  · next socket _ => exact .one (show Effect.LetsGo (.close socket) from trivial) _

/-- A step of the state machine that logs a character out does what the script of the logout
says, and at most disconnects the session afterwards. -/
theorem departed_advance {save : Bool} {now : Instant} (attached : d.session.player = some c)
    (out : d.session.farewell? sv.config (d.socketOpen sv) now = some save)
    (awake : d.disconnects sv (.advance now) = false) :
    Outside.Emits sv.collaborators Effect.LetsGo (d.departed sv c save)
      (d.advance sv now).2.outside := by
  have logged := @outside_logoutPlayer W sv d c attached
  unfold Session.farewell? at out
  unfold advance
  cases state : d.session.state with
  | created =>
    rw [state] at out
    cases out
  | charSelection =>
    simp only [state] at out
    simp only [advanceCharSelection, logoutIfDue]
    split at out
    · next isOpen =>
      rw [if_pos isOpen]
      split at out
      · next due =>
        obtain rfl := Option.some.inj out
        have gone : (d.logoutPlayer sv).session.player = none := by
          rw [(frame_logoutPlayer _).1]
          rfl
        simp only [if_pos due]
        rw [← logged]
        -- The deadline may have passed as well; then there is nobody left to log out.
        split
        · exact letsGo_disconnect gone
        · exact .refl
      · next due =>
        split at out
        -- A session that idles too long is disconnected, which saves whatever was asked for.
        · next late => simp [disconnects, state, isOpen, due, late] at awake
        · cases out
    · cases out
  | ready =>
    simp only [state] at out
    simp only [advanceReady, socketClosed_eq]
    split at out
    · cases out
    · next stillOpen =>
      split at out
      · next due =>
        obtain rfl := Option.some.inj out
        rw [if_neg stillOpen, if_pos due, ← logged]
        exact .refl
      · cases out
  | offline =>
    simp only [state] at out
    simp only [advanceOffline]
    split at out
    · next late =>
      obtain rfl := Option.some.inj out
      rw [if_pos late, ← logged]
      split <;> exact .refl
    · cases out

/-- An event that logs a character out does what the script of the logout says. After that
it only lets go of sockets. -/
theorem departed_apply {save : Bool} (attached : d.session.player = some c)
    (out : d.farewell? sv event = some save) (awake : d.disconnects sv event = false) :
    Outside.Emits sv.collaborators Effect.LetsGo (d.departed sv c save)
      (event.apply sv d).outside := by
  cases event with
  | perform operation =>
    cases operation with
    | logoutPlayer =>
      obtain rfl : d.session.saveOnLogout = save := Option.some.inj out
      exact @outside_logoutPlayer W sv d c attached ▸ .refl
    | kickPlayer flag inPlace =>
      cases inPlace with
      | false => cases out
      | true =>
        obtain rfl : flag = save := Option.some.inj out
        let kicked := d.modify fun s => { s with saveOnLogout := flag }
        have logged : (kicked.logoutPlayer sv).outside = d.departed sv c flag :=
          outside_logoutPlayer (d := kicked) attached
        exact logged ▸ .refl
    | shutdown =>
      simp only [farewell?, Event.farewell?, Bool.or_eq_true, Option.isNone_iff_eq_none] at out
      split at out
      · cases out
      · next still =>
        rw [not_or] at still
        have present : d.session.player.isSome := Option.isSome_iff_ne_none.mpr still.2
        obtain rfl := Option.some.inj out
        -- The mark comes before the logout, which does not look at it.
        let marked := d.modify fun s => { s with hasShutDown := true }
        have logged : (marked.logoutPlayer sv).outside =
            d.departed sv c d.session.saveOnLogout := by
          rw [outside_logoutPlayer (d := marked) attached, departed, departed,
            LogoutStep.script_congr (t := { d.session with
              saveOnLogout := d.session.saveOnLogout }) rfl rfl rfl]
          rfl
        change Outside.Emits _ _ _ (d.shutdown sv).outside
        rw [shutdown, if_neg still.1]
        refine Outside.Emits.emit ?_ (show Effect.LetsGo (.log .sessionShutDown) from trivial)
        refine Outside.Emits.trans ?_ (letsGo_discard? _ _)
        refine Outside.Emits.trans ?_ (letsGo_discard? _ _)
        rw [modify, (frame_modify _ _).1, if_pos present]
        exact logged ▸ .refl
    | _ => cases out
  | advance now => exact departed_advance attached out awake
  | _ => cases out

end

/-! ## The main result -/

/-- Take any logout, in any run of a session that saves to begin with and amid any producers,
that a kick without saving brings about: one in place, or one that still counts when the
character is logged out for another reason than idling. The character is not asked to save
itself. But the world is asked to save it, exactly if it has the character in a region when
the logout comes to that. -/
theorem saved_by_world_iff_placed (sv : Services W) (start : LiveSession W)
    (saves : start.session.saveOnLogout = true) (events : List (Event W)) (event : Event W)
    (c : Character) (stays : (start.replay sv events).session.player = some c)
    (leaves : (start.replay sv (events ++ [event])).session.player = none)
    (kicked : event.kick? = some false ∨ event.kick? = none ∧ start.Condemned sv events ∧
      (start.replay sv events).disconnects sv event = false) :
    let co := sv.collaborators
    let d := start.replay sv events
    let before := LogoutStep.script co { d.session with saveOnLogout := false } c
      (LogoutStep.order.takeWhile (· != .leaveWorld)) d.outside.world
    ∃ shown, (event.apply sv d).outside.trace = d.outside.trace ++ shown ∧ before <+: shown ∧
      .character c .save ∉ shown ∧
      (.world c.guid (.removePlayer true) ∈ shown ↔
        (co.regionOf (co.reactAll d.outside.world before) c.guid).isSome) := by
  intro co d before
  have attached : d.session.player = some c := stays
  have gone : (event.apply sv d).session.player = none := by
    rw [replay_append] at leaves
    exact leaves
  have awake : d.disconnects sv event = false := by
    rcases kicked with now | ⟨-, -, awake⟩
    · cases event <;> first | rfl | cases now
    · exact awake
  have unsaving : event.kick?.getD d.session.saveOnLogout = false := by
    rcases kicked with now | ⟨later, condemned, -⟩
    · rw [now, Option.getD_some]
    · rw [later, Option.getD_none]
      exact (condemned_iff saves).mp condemned
  -- The character is gone afterwards, so this event has logged it out.
  obtain ⟨save, out⟩ : ∃ save, d.farewell? sv event = some save := by
    refine Option.ne_none_iff_exists'.mp fun none => ?_
    have kept := (farewell_apply sv event d).player
    rw [none, Option.isSome_none, if_neg Bool.false_ne_true, gone, attached] at kept
    cases attaches : event.attached? <;> rw [attaches] at kept <;> cases kept
  obtain rfl : save = false := by
    rw [farewell?_eq_some out, awake, Bool.false_or, unsaving]
  obtain ⟨rest, more, letsGo⟩ := (departed_apply attached out awake).effects
  let script := LogoutStep.script co { d.session with saveOnLogout := false } c
    LogoutStep.order d.outside.world
  have shown : (event.apply sv d).outside.trace = d.outside.trace ++ (script ++ rest.reverse) := by
    rw [Outside.trace, more, List.reverse_append, ← List.append_assoc]
    exact congrArg (· ++ rest.reverse) (Outside.trace_emitAll script d.outside)
  refine ⟨script ++ rest.reverse, shown, ?_, fun mem => ?_, ?_⟩
  · have whole : LogoutStep.order = LogoutStep.order.takeWhile (· != .leaveWorld) ++
        [.leaveWorld, .release, .tellClient, .markOffline] := by decide
    have opens : before <+: script := by
      simp only [script, before]
      rw [whole, LogoutStep.script_append, ← whole]
      exact List.prefix_append ..
    exact opens.trans (List.prefix_append ..)
  · -- Who saves itself is known of every logout; here nobody does.
    have same := saves_apply out
    have silent : (script ++ rest.reverse).filterMap Effect.saved? = [] := by
      rw [if_neg Bool.false_ne_true, List.append_nil, Outside.saves, Outside.saves,
        Outside.record, shown, List.filterMap_append] at same
      exact List.append_right_eq_self.mp same
    exact absurd (List.filterMap_eq_nil_iff.mp silent _ mem) (by simp [Effect.saved?])
  · rw [List.mem_append, LogoutStep.mem_script_removePlayer]
    refine or_iff_left fun mem => ?_
    exact letsGo _ (List.mem_reverse.mp mem)

/-- A character that no region has is kicked without saving, and logged out by the next step
of the state machine. Nobody is asked to save it. -/
theorem saved_by_world_iff_placed_nowhere :
    let sv := Rehearsal.coreServices {}
    let start := Rehearsal.opening sv
    let events : List (Event Rehearsal.Stage) :=
      [.perform (.attach Rehearsal.lead), .perform .setOnline,
        .perform (.kickPlayer false false)]
    (start.replay sv events).session.player = some Rehearsal.lead ∧
      (start.replay sv (events ++ [.advance 50000000])).session.player = none ∧
      ∃ shown, ((Event.advance 50000000).apply sv (start.replay sv events)).outside.trace =
          (start.replay sv events).outside.trace ++ shown ∧
        .character Rehearsal.lead .save ∉ shown ∧
        .world ⟨7⟩ (.removePlayer true) ∉ shown := by
  intro sv start events
  have condemned : start.Condemned sv events := (condemned_iff rfl).mpr (by decide)
  have stays : (start.replay sv events).session.player = some Rehearsal.lead := by decide
  have leaves : (start.replay sv (events ++ [.advance 50000000])).session.player = none := by
    decide
  have awake : (start.replay sv events).disconnects sv (.advance 50000000) = false := by decide
  obtain ⟨shown, seen, -, unsaved, asked⟩ :=
    saved_by_world_iff_placed sv start rfl events (.advance 50000000) Rehearsal.lead stays
      leaves (.inr ⟨rfl, condemned, awake⟩)
  refine ⟨stays, leaves, shown, seen, unsaved, fun mem => ?_⟩
  exact absurd (asked.mp mem) (by decide +kernel)

/-- A character that is in a region is kicked without saving, in place or for the next step of
the state machine to log it out. Either way it is taken out of the region saved. -/
theorem removed_saved_after_unsaved_kick :
    let sv := Rehearsal.coreServices {}
    let start := Rehearsal.opening sv
    let events : List (Event Rehearsal.Stage) :=
      [.perform (.attach Rehearsal.lead), .perform .setOnline,
        .perform (.outside (Rehearsal.Stage.place ⟨7⟩ ⟨3⟩))]
    let inPlace := start.replay sv (events ++ [.perform (.kickPlayer false true)])
    let waiting := start.replay sv (events ++ [.perform (.kickPlayer false false)])
    let later := (Event.advance 50000000).apply sv waiting
    let removal : Effect := .world ⟨7⟩ (.removePlayer true)
    (inPlace.outside.saves = [] ∧ removal ∈ inPlace.outside.trace) ∧
      waiting.session.player = some Rehearsal.lead ∧ removal ∉ waiting.outside.trace ∧
      later.outside.saves = [] ∧ removal ∈ later.outside.trace := by
  intro sv start events inPlace waiting later removal
  exact ⟨by decide, by decide, by decide, by decide, by decide⟩

end LiveSession

end GameRealm
