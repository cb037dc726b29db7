import GameRealm.Proofs.Lifecycle

/-!
# Handing a session over to a new socket

A client that comes back brings a new socket. It waits in the session, and the
session is put into the state in which the next step of the state machine hands
it over. Nothing else looks at the waiting socket. So it all depends on the state:

1. `Handover` is what a step of the state machine should do with a socket that
   waits, and it does so exactly if the session is `Awaited`
   (`handover_advance_iff`).
2. `Operation.diverts` are the operations that put the session into another state
   without a look at the socket that waits; a session that is diverted while a
   socket waits has forsaken it (`Event.forsakes`).
3. `handover_iff_not_forsaken`: at every step of the state machine in every run
   the handover succeeds unless the socket has been forsaken before, and then it
   fails at every later step too, until the session is shut down.
4. `replacement_forsaken`: this happens. Such a session keeps both sockets, or
   ends while the new one waits.
-/

namespace GameRealm

namespace Session

/-- A socket that waits is waited for: the session is in the state in which the
state machine hands over. -/
def Awaited (s : Session) : Prop := s.pending.isSome → s.state = .created

/-- What a step of the state machine, from one session to another, should do with
the socket that waits. -/
structure Handover (before : Session) (outcome : UpdateOutcome) (after : Session) : Prop where
  /-- There are never two sockets afterwards. -/
  single : ¬ (after.socket.isSome ∧ after.pending.isSome)
  /-- The socket that waited is active. -/
  active : ∀ socket, before.pending = some socket →
    after.socket = some socket ∧ after.pending = none
  /-- The session does not end while a socket waits. -/
  kept : outcome = .remove → before.pending = none ∧ after.pending = none

end Session

/-- An operation that puts the session into another state without a look at the
socket that waits. Coming online needs a character and an open socket. -/
def Operation.diverts (operation : Operation W) (socketOpen : Bool) (s : Session) : Bool :=
  match operation with
  | setOnline => s.player.isSome && socketOpen
  | setOffline => true
  | toCharSelection => true
  | logoutPlayer => true
  | kickPlayer _ inPlace => inPlace
  | _ => false

/-- An event that diverts the session while a socket waits. -/
def Event.forsakes (event : Event W) (socketOpen : Bool) (s : Session) : Bool :=
  match event with
  | perform operation => s.pending.isSome && operation.diverts socketOpen s
  | _ => false

/-- Among the events is one that forsakes a waiting socket, and the session has
not been shut down since. -/
def LiveSession.Forsaken (sv : Services W) (events : List (Event W)) (d : LiveSession W) : Prop :=
  ∃ before event after, events = before ++ event :: after ∧
    event.forsakes ((d.replay sv before).socketOpen sv) (d.replay sv before).session = true ∧
    (d.replay sv before).session.hasShutDown = (d.replay sv events).session.hasShutDown

namespace Session

variable {config : SessionConfig} {socketOpen : Bool} {s t : Session}

theorem awaited_of_life (h : s.life = t.life) : s.Awaited ↔ t.Awaited := by
  simp only [life, Life.mk.injEq] at h
  obtain ⟨-, -, -, pending, state, -⟩ := h
  rw [Awaited, Awaited, pending, state]

theorem awaited_of_pending_none (h : s.pending = none) : s.Awaited := by
  intro waits
  rw [h] at waits
  contradiction

/-- Outside the state for handovers, waited for means that no socket waits. -/
theorem awaited_iff (h : s.state ≠ .created) : s.Awaited ↔ s.pending = none := by
  constructor
  · intro awaited
    cases hp : s.pending with
    | none => rfl
    | some socket => exact absurd (awaited (by simp [hp])) h
  · exact awaited_of_pending_none

/-! ## The state machine -/

theorem pending_afterCreated (s : Session) : (s.afterCreated config).pending = none := by
  unfold afterCreated
  split
  · rfl
  · next h => exact h

theorem pending_afterAdvance (now : Instant) (h : s.state ≠ .created) :
    (s.afterAdvance config socketOpen now).pending = s.pending := by
  rcases s.afterAdvance_cases config socketOpen now with ⟨created, -⟩ | ⟨-, step | step | step⟩
  · exact absurd created h
  · rw [step]
  · rw [step]
    rfl
  · rw [step]
    rfl

theorem hasShutDown_afterAdvance (now : Instant) :
    (s.afterAdvance config socketOpen now).hasShutDown = s.hasShutDown := by
  rcases s.afterAdvance_cases config socketOpen now with ⟨-, step⟩ | ⟨-, step | step | step⟩
  · rw [step]
    unfold afterCreated
    split
    · simp only [afterActivation]
      split <;> rfl
    · rfl
  · rw [step]
  · rw [step]
    rfl
  · rw [step]
    rfl

/-- A step of the state machine neither forsakes a socket nor makes up for it. -/
theorem awaited_afterAdvance (now : Instant) :
    (s.afterAdvance config socketOpen now).Awaited ↔ s.Awaited := by
  rw [awaited_iff (state_afterAdvance s now)]
  by_cases created : s.state = .created
  · refine iff_of_true ?_ fun _ => created
    simp only [afterAdvance, created]
    exact pending_afterCreated s
  · rw [pending_afterAdvance now created, awaited_iff created]

/-! ## One event -/

/-- How an event, which may forsake a waiting socket, leads from one session to
another. A shutdown lets go of the sockets and so makes up for everything; it
happens once and is never taken back. -/
structure Onward (forsakes : Bool) (s t : Session) : Prop where
  awaited : t.Awaited ↔ forsakes = false ∧ (s.Awaited ∨ t.hasShutDown ≠ s.hasShutDown)
  unlike : forsakes = true → t.hasShutDown = s.hasShutDown
  lasting : s.hasShutDown = true → t.hasShutDown = true

theorem Onward.of_life {forsakes : Bool} {u : Session} (h : u.life = t.life)
    (onward : Onward forsakes s t) : Onward forsakes s u := by
  have flag : u.hasShutDown = t.hasShutDown := congrArg Life.hasShutDown h
  constructor
  · rw [awaited_of_life h, flag]
    exact onward.awaited
  · rw [flag]
    exact onward.unlike
  · rw [flag]
    exact onward.lasting

theorem onward_of_iff (awaited : t.Awaited ↔ s.Awaited) (flag : t.hasShutDown = s.hasShutDown) :
    Onward false s t := by
  refine ⟨?_, nofun, fun h => flag.trans h⟩
  rw [awaited, flag]
  simp

/-- What diverts the session forsakes the socket that waits, if one does. -/
theorem onward_of_diverted (state : t.state ≠ .created) (pending : t.pending = s.pending)
    (flag : t.hasShutDown = s.hasShutDown) : Onward s.pending.isSome s t := by
  refine ⟨?_, fun _ => flag, fun h => flag.trans h⟩
  rw [awaited_iff state, pending, flag]
  cases h : s.pending with
  | none => simp [awaited_of_pending_none h]
  | some socket => simp

theorem onward_afterRequest (socket : SocketId) : Onward false s (s.afterRequest socket) := by
  unfold afterRequest
  split
  · exact onward_of_iff Iff.rfl rfl
  · next free =>
    rw [Option.not_isSome_iff_eq_none] at free
    exact onward_of_iff (iff_of_true (fun _ => rfl) (awaited_of_pending_none free)) rfl

theorem onward_afterShutdown : Onward false s (s.afterShutdown config) := by
  unfold afterShutdown
  split
  · exact onward_of_iff Iff.rfl rfl
  · next first =>
    refine ⟨?_, nofun, fun _ => rfl⟩
    exact iff_of_true (awaited_of_pending_none rfl) ⟨rfl, .inr fun same => first same.symm⟩

end Session

section
variable {config : SessionConfig} {socketOpen : Bool} {s : Session}

open Session

theorem Operation.onward (operation : Operation W) :
    Onward (s.pending.isSome && operation.diverts socketOpen s) s
      (operation.after config socketOpen s) := by
  have neutral : ∀ t : Session, t.pending = s.pending → t.state = s.state →
      t.hasShutDown = s.hasShutDown → Onward (s.pending.isSome && false) s t := by
    intro t pending state flag
    rw [Bool.and_false]
    exact onward_of_iff (by rw [Awaited, Awaited, pending, state]) flag
  have diverted : ∀ t : Session, t.state ≠ .created → t.pending = s.pending →
      t.hasShutDown = s.hasShutDown → Onward (s.pending.isSome && true) s t := by
    intro t state pending flag
    rw [Bool.and_true]
    exact onward_of_diverted state pending flag
  cases operation with
  | setOnline =>
    simp only [after, diverts]
    split
    · next met => rw [met]; exact diverted _ SessionState.noConfusion rfl rfl
    · next met => rw [Bool.not_eq_true] at met; rw [met]; exact neutral _ rfl rfl rfl
  | setOffline => exact diverted _ SessionState.noConfusion rfl rfl
  | toCharSelection => exact diverted _ SessionState.noConfusion rfl rfl
  | logoutPlayer => exact diverted _ SessionState.noConfusion rfl rfl
  | kickPlayer save inPlace =>
    cases inPlace with
    | true => exact diverted _ SessionState.noConfusion rfl rfl
    | false => exact neutral _ rfl rfl rfl
  | requestNewSocket socket =>
    simp only [diverts, Bool.and_false]
    exact onward_afterRequest socket
  | shutdown =>
    simp only [diverts, Bool.and_false]
    exact onward_afterShutdown
  | _ => exact neutral _ rfl rfl rfl

theorem Event.onward (event : Event W) :
    Onward (event.forsakes socketOpen s) s (event.after config socketOpen s) := by
  cases event with
  | perform operation => exact operation.onward
  | advance now => exact onward_of_iff (awaited_afterAdvance now) (hasShutDown_afterAdvance now)
  | clock now => exact onward_of_iff Iff.rfl rfl
  | grant queue status opcode =>
    cases queue with
    | generic =>
      simp only [after]
      split <;> exact onward_of_iff Iff.rfl rfl
    | map => exact onward_of_iff Iff.rfl rfl
  | _ => exact onward_of_iff Iff.rfl rfl

end

/-! ## Whole runs -/

namespace LiveSession

variable {sv : Services W}

theorem hasShutDown_apply (event : Event W) (d : LiveSession W)
    (other : event ≠ .perform .shutdown) :
    (event.apply sv d).session.hasShutDown = d.session.hasShutDown := by
  have same : (event.apply sv d).session.hasShutDown =
      (event.after sv.config (d.socketOpen sv) d.session).hasShutDown :=
    congrArg Life.hasShutDown (event.life_apply sv d)
  rw [same]
  cases event with
  | perform operation =>
    cases operation with
    | shutdown => exact absurd rfl other
    | setOnline =>
      simp only [Event.after, Operation.after]
      split <;> rfl
    | requestNewSocket socket =>
      simp only [Event.after, Operation.after, Session.afterRequest]
      split <;> rfl
    | kickPlayer save inPlace => cases inPlace <;> rfl
    | _ => rfl
  | advance now => exact Session.hasShutDown_afterAdvance now
  | grant queue status opcode =>
    cases queue with
    | generic =>
      simp only [Event.after]
      split <;> rfl
    | map => rfl
  | _ => rfl

theorem onward_apply (event : Event W) (d : LiveSession W) :
    Session.Onward (event.forsakes (d.socketOpen sv) d.session) d.session
      (event.apply sv d).session :=
  event.onward.of_life (event.life_apply sv d)

theorem hasShutDown_replay (events : List (Event W)) (d : LiveSession W)
    (h : d.session.hasShutDown = true) : (d.replay sv events).session.hasShutDown = true :=
  replay_induction (P := fun d => d.session.hasShutDown = true)
    (fun event d => (onward_apply event d).lasting) events d h

theorem forsaken_nil (d : LiveSession W) : ¬ d.Forsaken sv [] := by
  rintro ⟨before, event, after, split, -⟩
  cases before <;> contradiction

theorem forsaken_cons (event : Event W) (events : List (Event W)) (d : LiveSession W) :
    d.Forsaken sv (event :: events) ↔
      (event.forsakes (d.socketOpen sv) d.session = true ∧
        d.session.hasShutDown = (d.replay sv (event :: events)).session.hasShutDown) ∨
      (event.apply sv d).Forsaken sv events := by
  constructor
  · rintro ⟨before, forsaking, after, split, forsakes, flag⟩
    cases before with
    | nil =>
      obtain ⟨rfl, rfl⟩ := List.cons.inj split
      exact .inl ⟨forsakes, flag⟩
    | cons first before =>
      obtain ⟨rfl, rfl⟩ := List.cons.inj split
      exact .inr ⟨before, forsaking, after, rfl, forsakes, flag⟩
  · rintro (⟨forsakes, flag⟩ | ⟨before, forsaking, after, rfl, forsakes, flag⟩)
    · exact ⟨[], event, events, rfl, forsakes, flag⟩
    · exact ⟨event :: before, forsaking, after, rfl, forsakes, flag⟩

/-- A flag that is never taken back turns at most once. -/
theorem turns_once : ∀ a b c : Bool, (a = true → b = true) → (b = true → c = true) →
    ((b ≠ a ∨ c ≠ b) ↔ c ≠ a) := by
  decide

/-- After any events a socket is waited for unless it has been forsaken, before
them or among them, and the session has not been shut down since. -/
theorem awaited_replay (events : List (Event W)) (d : LiveSession W) :
    (d.replay sv events).session.Awaited ↔
      ¬ d.Forsaken sv events ∧
        (d.session.Awaited ∨
          (d.replay sv events).session.hasShutDown ≠ d.session.hasShutDown) := by
  induction events generalizing d with
  | nil => simp [forsaken_nil]
  | cons event events ih =>
    have onward : Session.Onward _ d.session (event.apply sv d).session := onward_apply event d
    have lasting : _ → ((event.apply sv d).replay sv events).session.hasShutDown = true :=
      hasShutDown_replay events (event.apply sv d)
    rw [forsaken_cons, replay_cons, ih, onward.awaited]
    have turns := turns_once _ _ _ onward.lasting lasting
    cases forsakes : event.forsakes (d.socketOpen sv) d.session with
    | false => simp only [← turns, true_and, Bool.false_eq_true, false_and, false_or, or_assoc]
    | true =>
      have same := onward.unlike forsakes
      rw [same] at turns ⊢
      simp only [Bool.true_eq_false, false_and, false_or, true_and, not_or]
      constructor
      · rintro ⟨kept, turned⟩
        exact ⟨⟨fun still => turned still.symm, kept⟩, .inr turned⟩
      · rintro ⟨⟨turned, kept⟩, -⟩
        exact ⟨kept, fun still => turned still.symm⟩

/-- A step of the state machine does right by a socket that waits exactly if it is
waited for. -/
theorem handover_advance_iff (now : Instant) (d : LiveSession W) :
    Session.Handover d.session (d.advance sv now).1 (d.advance sv now).2.session ↔
      d.session.Awaited := by
  have life : (d.advance sv now).2.session.life = _ := d.life_advance now
  have socket := congrArg Life.socket life
  have pending := congrArg Life.pending life
  simp only [Session.life] at socket pending
  constructor
  · intro handover
    -- Outside `created` no step takes over, so nothing may have been waiting.
    rcases Decidable.em (d.session.state = .created) with created | other
    · exact fun _ => created
    · rw [Session.awaited_iff other]
      rw [Session.pending_afterAdvance now other] at pending
      cases waiting : d.session.pending with
      | none => rfl
      | some socket =>
        have taken := (handover.active socket waiting).2
        exact absurd (pending.symm.trans taken) (by simp [waiting])
  · intro awaited
    cases waiting : d.session.pending with
    | none =>
      have still : (d.advance sv now).2.session.pending = none := by
        rcases Decidable.em (d.session.state = .created) with created | other
        · simp only [Session.afterAdvance, created] at pending
          exact pending.trans (Session.pending_afterCreated _)
        · exact pending.trans ((Session.pending_afterAdvance now other).trans waiting)
      exact ⟨by rw [still]; simp, by simp [waiting], fun _ => ⟨waiting, still⟩⟩
    | some new =>
      have created : d.session.state = .created := awaited (by simp [waiting])
      simp only [Session.afterAdvance, created, Session.afterCreated, waiting] at socket pending
      have keeps : (d.advance sv now).1 = .keep := by simp only [advance, created]
      refine ⟨?_, ?_, ?_⟩
      · rw [pending]
        exact fun both => Bool.false_ne_true both.2
      · intro named same
        rw [waiting] at same
        cases same
        exact ⟨socket, pending⟩
      · intro removed
        rw [keeps] at removed
        contradiction

/-- At every step of the state machine in every run, also in the updates that
handlers ask for, and at the end of every update: the handover succeeds exactly if
the socket that waits has not been forsaken. -/
theorem handover_iff_not_forsaken (sv : Services W) (account : Account) (socket : SocketId)
    (birth : Instant) (outside : Outside W) (steps : List (SessionStep W)) :
    let start := create sv account socket birth outside
    (∀ past now, past ++ [.advance now] <+: start.history sv steps →
      let d := start.replay sv past
      (Session.Handover d.session (d.advance sv now).1 (d.advance sv now).2.session ↔
        ¬ start.Forsaken sv past)) ∧
    ∀ now, ∃ past, start.history sv (steps ++ [.tick (.world now)]) = past ++ [.advance now] ∧
      let updated := (start.run sv steps).update sv now
      (Session.Handover (start.replay sv past).session updated.1 updated.2.session ↔
        ¬ start.Forsaken sv past) := by
  intro start
  have exact_at : ∀ past now,
      Session.Handover (start.replay sv past).session ((start.replay sv past).advance sv now).1
          ((start.replay sv past).advance sv now).2.session ↔
        ¬ start.Forsaken sv past := by
    intro past now
    have free : start.session.Awaited := Session.awaited_of_pending_none rfl
    rw [handover_advance_iff, awaited_replay]
    exact and_iff_left (.inl free)
  refine ⟨fun past now _ => exact_at past now, fun now => ?_⟩
  -- An update ends with a step of the state machine, to which the exact statement applies.
  obtain ⟨late, events, updated⟩ : ∃ late,
      (start.run sv steps).tickEvents sv (.world now) = late ++ [.advance now] ∧
        (start.run sv steps).update sv now =
          ((start.run sv steps).replay sv late).advance sv now :=
    update_eq_advance now _
  refine ⟨start.history sv steps ++ late, ?_, ?_⟩
  · rw [history_append, List.append_assoc, ← events]
    exact congrArg _ (List.append_nil _)
  · rw [updated, replay_append, replay_history]
    have here := exact_at (start.history sv steps ++ late) now
    rwa [replay_append, replay_history] at here

/-- A socket that is requested, and nothing else: the next step of the state
machine hands over. -/
theorem handover_iff_not_forsaken_requested :
    let sv := Rehearsal.coreServices {}
    let start := Rehearsal.opening sv
    let steps := [Rehearsal.just (.requestNewSocket ⟨1⟩), .tick (.world 0)]
    let past := start.history sv (steps.take 1) ++
      [.clock 0, .takeCallbacks, .takeBacklog .generic, .leave .generic []]
    past ++ [.advance 0] <+: start.history sv steps ∧ ¬ start.Forsaken sv past := by
  intro sv start steps past
  have whole : past ++ [.advance 0] <+: start.history sv steps := List.prefix_rfl
  refine ⟨whole, ((handover_iff_not_forsaken sv _ _ _ _ steps).1 past 0 whole).mp ?_⟩
  exact (handover_advance_iff 0 _).mpr fun _ => rfl

/-- A character that comes online while a socket waits keeps the session from it:
after the update both are there. After a logout the session ends with its old
socket while the new one waits. -/
theorem replacement_forsaken :
    let sv := Rehearsal.coreServices {}
    let start := Rehearsal.opening sv
    let both := (start.run sv [Rehearsal.just (.attach Rehearsal.lead),
      Rehearsal.just (.requestNewSocket ⟨1⟩), Rehearsal.just .setOnline]).update sv 0
    let ended := (start.run sv [Rehearsal.just (.requestNewSocket ⟨1⟩),
      Rehearsal.just .logoutPlayer, Rehearsal.just .closeSocket]).update sv 0
    (both.2.session.socket = some ⟨0⟩ ∧ both.2.session.pending = some ⟨1⟩) ∧
      ended.1 = .remove ∧ ended.2.session.pending = some ⟨1⟩ := by
  decide

end LiveSession

end GameRealm
