import GameRealm.Proofs.Life
import GameRealm.Rehearsal.Stage
import GameRealm.Session.Handlers

/-!
# What always holds of a session's life

A session in play has its character and its socket, and no deadline hangs over
it; a session offline has no socket. The fields behind this are written by a
dozen operations, and a handler may perform any of them in the middle of a tick.

1. `Session.Sound` is the invariant.
2. `Event.sound_after`: every event keeps it, operation by operation.
3. `lifecycle_invariant`: so it holds at every point of every run, and the two
   places where the state machine provides for its failure are never reached.
-/

namespace GameRealm

/-- What always holds of the life of a session. -/
structure Session.Sound (s : Session) : Prop where
  ready : s.state = .ready → s.player.isSome ∧ s.socket.isSome ∧ s.kickDeadline = none
  offline : s.state = .offline → s.socket = none
  guid : ∀ c, s.player = some c → s.characterGuid = some c.guid
  calm : s.loggingOut = false

namespace Session

variable {config : SessionConfig} {socketOpen : Bool} {s t : Session}

theorem Sound.of_life (h : s.life = t.life) (sound : t.Sound) : s.Sound := by
  simp only [life, Life.mk.injEq] at h
  obtain ⟨player, guid, socket, -, state, deadline, -, -, calm, -⟩ := h
  constructor
  · rw [state, player, socket, deadline]; exact sound.ready
  · rw [state, socket]; exact sound.offline
  · rw [player, guid]; exact sound.guid
  · rw [calm]; exact sound.calm

theorem sound_create (account : Account) (socket : SocketId) (now : Instant) :
    (create account socket now).Sound := by
  constructor <;> simp [create]

/-! ## The changes keep it -/

theorem Sound.attach (h : s.Sound) (character : Character) : (s.attach character).Sound where
  ready state := ⟨rfl, (h.ready state).2⟩
  offline := h.offline
  guid := by rintro c ⟨⟩; rfl
  calm := h.calm

theorem Sound.toCharSelection (h : s.Sound) : (s.toCharSelection config).Sound where
  ready := nofun
  offline := nofun
  guid := h.guid
  calm := h.calm

theorem sound_afterLogout : (s.afterLogout config).Sound where
  ready := nofun
  offline := nofun
  guid := nofun
  calm := rfl

theorem Sound.afterOffline (h : s.Sound) : (s.afterOffline config).Sound where
  ready := nofun
  offline _ := rfl
  guid := h.guid
  calm := h.calm

/-- A session comes into play only with a character and an open socket. -/
theorem Sound.afterOnline (h : s.Sound) (player : s.player.isSome) (socket : s.socket.isSome) :
    s.afterOnline.Sound where
  ready _ := ⟨player, socket, rfl⟩
  offline := nofun
  guid := h.guid
  calm := h.calm

theorem Sound.afterRequest (h : s.Sound) (socket : SocketId) : (s.afterRequest socket).Sound := by
  unfold Session.afterRequest
  split
  · exact h
  · exact ⟨nofun, nofun, h.guid, h.calm⟩

theorem Sound.afterKick (h : s.Sound) (save inPlace : Bool) :
    (s.afterKick config save inPlace).Sound := by
  cases inPlace with
  | true => exact sound_afterLogout
  | false => exact ⟨h.ready, h.offline, h.guid, h.calm⟩

theorem Sound.afterShutdown (h : s.Sound) : (s.afterShutdown config).Sound := by
  unfold Session.afterShutdown
  split
  · exact h
  · split
    · exact ⟨nofun, nofun, nofun, rfl⟩
    · next absent =>
      exact ⟨fun state => absurd (h.ready state).1 absent, fun _ => rfl, h.guid, h.calm⟩

theorem Sound.afterCreated (h : s.Sound) : (s.afterCreated config).Sound := by
  have kept : ∀ socket, (s.afterActivation config socket).player = s.player ∧
      (s.afterActivation config socket).characterGuid = s.characterGuid ∧
      (s.afterActivation config socket).loggingOut = s.loggingOut := by
    intro socket
    unfold afterActivation
    split <;> exact ⟨rfl, rfl, rfl⟩
  unfold Session.afterCreated
  split
  · next socket _ =>
    obtain ⟨player, guid, calm⟩ := kept socket
    refine ⟨nofun, nofun, ?_, calm.trans h.calm⟩
    intro c attached
    exact guid.trans (h.guid c (player.symm.trans attached))
  · exact h.toCharSelection

theorem Sound.afterAdvance (h : s.Sound) (now : Instant) :
    (s.afterAdvance config socketOpen now).Sound := by
  rcases s.afterAdvance_cases config socketOpen now with ⟨-, step⟩ | ⟨-, step | step | step⟩
  · rw [step]
    exact h.afterCreated
  · rw [step]
    exact h
  · rw [step]
    exact sound_afterLogout
  · rw [step]
    exact h.afterOffline

theorem state_afterAdvance (s : Session) (now : Instant) :
    (s.afterAdvance config socketOpen now).state ≠ .created := by
  rcases s.afterAdvance_cases config socketOpen now with ⟨-, step⟩ | ⟨other, step | step | step⟩
  · rw [step]
    exact SessionState.noConfusion
  · rw [step]
    exact other
  · rw [step]
    exact SessionState.noConfusion
  · rw [step]
    exact SessionState.noConfusion

end Session

theorem Operation.sound_after {config : SessionConfig} {socketOpen : Bool} {s : Session}
    (operation : Operation W) (h : s.Sound) (socket : socketOpen = true → s.socket.isSome) :
    (operation.after config socketOpen s).Sound := by
  cases operation with
  | attach character => exact h.attach character
  | setOnline =>
    simp only [after]
    split
    · next met =>
      rw [Bool.and_eq_true] at met
      exact h.afterOnline met.1 (socket met.2)
    · exact h
  | setOffline => exact h.afterOffline
  | toCharSelection => exact h.toCharSelection
  | setPlayerLoading loading => exact ⟨h.ready, h.offline, h.guid, h.calm⟩
  | requestNewSocket socket => exact h.afterRequest socket
  | logoutRequest requestedAt => exact ⟨h.ready, h.offline, h.guid, h.calm⟩
  | logoutPlayer => exact Session.sound_afterLogout
  | kickPlayer save inPlace => exact h.afterKick save inPlace
  | shutdown => exact h.afterShutdown
  | _ => exact h

theorem Event.sound_after {config : SessionConfig} {socketOpen : Bool} {s : Session}
    (event : Event W) (h : s.Sound) (socket : socketOpen = true → s.socket.isSome) :
    (event.after config socketOpen s).Sound := by
  cases event with
  | perform operation => exact operation.sound_after h socket
  | advance now => exact h.afterAdvance now
  | clock now => exact ⟨h.ready, h.offline, h.guid, h.calm⟩
  | grant queue status opcode =>
    cases queue with
    | generic =>
      simp only [after]
      split
      · exact ⟨h.ready, h.offline, h.guid, h.calm⟩
      · exact h
    | map => exact h
  | _ => exact h

namespace LiveSession

variable {sv : Services W} {d : LiveSession W}

theorem isSome_of_socketOpen (h : d.socketOpen sv = true) : d.session.socket.isSome := by
  unfold socketOpen Session.socketOpen at h
  cases hs : d.session.socket with
  | none => simp [hs] at h
  | some socket => rfl

/-- Every event keeps a session sound. -/
theorem sound_apply (event : Event W) (d : LiveSession W) (h : d.session.Sound) :
    (event.apply sv d).session.Sound :=
  .of_life (event.life_apply sv d) (event.sound_after h isSome_of_socketOpen)

theorem sound_replay (events : List (Event W)) (h : d.session.Sound) :
    (d.replay sv events).session.Sound :=
  replay_induction (P := fun d => d.session.Sound) sound_apply events d h

/-- After a step of the state machine nothing is left to acknowledge. -/
theorem state_advance (now : Instant) (d : LiveSession W) :
    (d.advance sv now).2.session.state ≠ .created := by
  have same : (d.advance sv now).2.session.state = _ := congrArg Life.state (d.life_advance now)
  exact fun created => Session.state_afterAdvance d.session now (same.symm.trans created)

/-- The branch for a session in play without a character is never taken. -/
theorem keep_of_ready (h : d.session.Sound) (ready : d.session.state = .ready) (now : Instant) :
    (d.advance sv now).1 = .keep := by
  have player := (h.ready ready).1
  simp only [advance, ready, advanceReady]
  split
  · split
    · next absent => rw [Option.isNone_iff_eq_none] at absent; simp [absent] at player
    · rfl
  · split <;> rfl

/-- What a session offline gives up has no socket any more, so it is finished
unless a replacement waits. -/
theorem outcome_of_offline (h : d.session.Sound) (offline : d.session.state = .offline)
    (now : Instant) (due : d.session.shouldDisconnect now = true) :
    (d.logoutPlayer sv).session.socket = none ∧
      (d.advance sv now).1 = if d.session.pending.isNone then .remove else .keep := by
  have gone : (d.logoutPlayer sv).session.socket = none := by
    rw [(frame_logoutPlayer _).1]
    exact h.offline offline
  have closed : (d.logoutPlayer sv).socketOpen sv = false := by
    unfold socketOpen Session.socketOpen
    rw [gone]
  have pending : (d.logoutPlayer sv).session.pending = d.session.pending := by
    rw [(frame_logoutPlayer _).1]
    rfl
  refine ⟨gone, ?_⟩
  simp only [advance, offline, advanceOffline, due, if_true, pending, closed]
  cases d.session.pending <;> rfl

/-- At every point of every run a session is sound, and what the state machine
provides for an unsound one is never reached. No update leaves a session as if it
were just created. -/
theorem lifecycle_invariant (sv : Services W) (account : Account) (socket : SocketId)
    (birth : Instant) (outside : Outside W) (steps : List (SessionStep W)) :
    let start := create sv account socket birth outside
    (∀ past, past <+: start.history sv steps →
      let d := start.replay sv past
      d.session.Sound ∧
      (∀ now, past.getLast? = some (.advance now) → d.session.state ≠ .created) ∧
      (∀ now, d.session.state = .ready → (d.advance sv now).1 = .keep) ∧
      ∀ now, d.session.state = .offline → d.session.shouldDisconnect now = true →
        (d.logoutPlayer sv).session.socket = none ∧
          (d.advance sv now).1 = if d.session.pending.isNone then .remove else .keep) ∧
    ∀ now, ((start.run sv steps).update sv now).2.session.state ≠ .created := by
  intro start
  have born : start.session.Sound := Session.sound_create account socket birth
  refine ⟨fun past _ => ?_, fun now => state_advance now _⟩
  have sound : (start.replay sv past).session.Sound := sound_replay past born
  refine ⟨sound, fun now last => ?_, fun now ready => keep_of_ready sound ready now,
    fun now offline due => outcome_of_offline sound offline now due⟩
  obtain ⟨before, rfl⟩ := List.getLast?_eq_some_iff.mp last
  rw [replay_append]
  exact state_advance now _

end LiveSession

namespace Rehearsal

/-- Surroundings on stage, with the session's own handlers and no others. -/
def coreServices (config : SessionConfig) : Services Stage :=
  { collaborators := Stage.collaborators
    opcodes := match OpcodeTable.withCoreHandlers with
      | .ok table => table
      | .error _ => .empty
    config }

/-- A session as it is created on the first of two open sockets. -/
def opening (sv : Services Stage) : LiveSession Stage :=
  .create sv ⟨⟨1⟩, .player, 2, .enUs, ⟨[]⟩⟩ ⟨0⟩ 0
    ⟨{ sockets := List.replicate 2 ⟨false, ⟨[]⟩, "", []⟩ }, []⟩

def lead : Character := ⟨0, ⟨7⟩, "Lead"⟩

/-- One operation from outside, whatever it answers. -/
def just (operation : Operation Stage) : SessionStep Stage :=
  .act (.perform operation fun _ => .finish ())

end Rehearsal

namespace LiveSession

/-- A character that is attached and brought online on an open socket: the session
is in play, and sound. -/
theorem lifecycle_invariant_in_play :
    let sv := Rehearsal.coreServices {}
    let start := Rehearsal.opening sv
    let d := start.replay sv (start.history sv
      [Rehearsal.just (.attach Rehearsal.lead), Rehearsal.just .setOnline])
    d.session.state = .ready ∧ d.session.Sound :=
  ⟨by decide, ((lifecycle_invariant _ _ _ _ _ _).1 _ List.prefix_rfl).1⟩

end LiveSession

end GameRealm
