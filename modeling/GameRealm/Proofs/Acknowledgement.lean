import GameRealm.Proofs.AckFree
import GameRealm.Proofs.Lifecycle

/-!
# Acknowledgements

A client is told that it is past the login queue, or its place in it, by an
acknowledgement on the active socket. The state machine sends one when it finds a
session in `created`, and the registry sends one to whoever it lets in or moves up.

1. `Outside.Tells` says what is acknowledged on which socket between two moments, and
   `Tells.lastAck?_self` that the client of an open socket has it from then on;
2. `tells_advance`, `tells_welcome` and `tells_renumber` are the three that acknowledge;
   with what is `AckFree` there is nothing else;
3. `sockets_after` says which sockets a session has after an event, and so on which
   one it may be heard.
-/

namespace GameRealm

/-- The acknowledgement that fits a place in the login queue. -/
def ackOf : Option UInt32 → AuthVerdict × Option UInt32
  | none => (.ok, none)
  | some position => (.waitQueue, some position)

theorem ackOf_injective {first second : Option UInt32} (h : ackOf first = ackOf second) :
    first = second := by
  cases first <;> cases second <;> simp_all [ackOf]

namespace Outside

/-- Sends a message on a socket, if there is one and it is open. -/
def deliver (co : Collaborators W) (socket : Option SocketId) (message : Message)
    (outside : Outside W) : Outside W :=
  match socket with
  | none => outside
  | some socket =>
    if (co.socket outside.world socket).closed then outside
    else outside.emit co (.send socket message)

def lastAck? (socket : SocketId) (outside : Outside W) : Option (AuthVerdict × Option UInt32) :=
  (outside.acks.find? (·.1 == socket)).map (·.2)

/-- A place in the queue is acknowledged on a socket, if that is open, and nothing else
is. -/
def Tells (co : Collaborators W) (socket : Option SocketId) (place : Option UInt32)
    (before after : Outside W) : Prop :=
  ∃ middle, AckFree co before middle ∧
    AckFree co (middle.deliver co socket (.authResponse (ackOf place).1 (ackOf place).2)) after

section
variable {co : Collaborators W} {before after : Outside W} {socket : SocketId}
  {place : Option UInt32}

theorem AckFree.lastAck?_eq (h : AckFree co before after) :
    after.lastAck? socket = before.lastAck? socket := by
  rw [lastAck?, lastAck?, h.acks_eq]

theorem acks_deliver (target : Option SocketId) (outside : Outside W) :
    (outside.deliver co target (.authResponse (ackOf place).1 (ackOf place).2)).acks =
        outside.acks ∨
      ∃ socket, target = some socket ∧
        (outside.deliver co target (.authResponse (ackOf place).1 (ackOf place).2)).acks =
          (socket, ackOf place) :: outside.acks := by
  unfold deliver
  cases target with
  | none => exact .inl rfl
  | some socket =>
    simp only
    split
    · exact .inl rfl
    · exact .inr ⟨socket, rfl, List.filterMap_cons_some rfl⟩

theorem Tells.closed {target : Option SocketId} (h : Tells co target place before after)
    (final : co.ClosesForGood)
    (closed : (co.socket before.world socket).closed = true) :
    (co.socket after.world socket).closed = true := by
  obtain ⟨middle, early, late⟩ := h
  have still := early.closed final closed
  refine late.closed final ?_
  unfold deliver
  split
  · exact still
  · split
    · exact still
    · exact final _ _ _ still

theorem Tells.lastAck?_of_ne {target : Option SocketId} (h : Tells co target place before after)
    (other : target ≠ some socket) : after.lastAck? socket = before.lastAck? socket := by
  obtain ⟨middle, early, late⟩ := h
  rw [late.lastAck?_eq, ← early.lastAck?_eq]
  rcases acks_deliver target middle with same | ⟨told, rfl, acks⟩
  · rw [lastAck?, same, lastAck?]
  · have different : (told == socket) = false := by
      rw [beq_eq_false_iff_ne]
      rintro rfl
      exact other rfl
    rw [lastAck?, acks, List.find?_cons, different, lastAck?]

/-- On a socket that is open to the end the place is acknowledged last. -/
theorem Tells.lastAck?_self (h : Tells co (some socket) place before after)
    (final : co.ClosesForGood)
    (stillOpen : (co.socket after.world socket).closed = false) :
    after.lastAck? socket = some (ackOf place) := by
  obtain ⟨middle, early, late⟩ := h
  have wasOpen : (co.socket middle.world socket).closed = false := by
    rw [← Bool.not_eq_true]
    intro closed
    have shut : Tells co (some socket) place middle after := ⟨middle, .refl _, late⟩
    exact absurd (stillOpen.symm.trans (shut.closed final closed)) Bool.noConfusion
  have told : (middle.deliver co (some socket)
      (.authResponse (ackOf place).1 (ackOf place).2)).acks =
        (socket, ackOf place) :: middle.acks := by
    rw [deliver, wasOpen, if_neg Bool.false_ne_true]
    exact List.filterMap_cons_some rfl
  rw [late.lastAck?_eq, lastAck?, told, List.find?_cons, beq_self_eq_true]
  rfl

theorem Tells.mem_acks {target : Option SocketId} (h : Tells co target place before after)
    {ack : SocketId × AuthVerdict × Option UInt32} (mem : ack ∈ after.acks) :
    ack ∈ before.acks ∨ target = some ack.1 := by
  obtain ⟨middle, early, late⟩ := h
  rw [late.acks_eq] at mem
  rw [← early.acks_eq]
  rcases acks_deliver target middle with same | ⟨told, rfl, acks⟩
  · exact .inl (same ▸ mem)
  · rw [acks] at mem
    rcases List.mem_cons.mp mem with rfl | mem
    · exact .inr rfl
    · exact .inl mem

end

end Outside

/-! ## What a session tells its client -/

namespace LiveSession

section
variable (sv : Services W) (d : LiveSession W)

theorem outside_send (message : Message) :
    (d.send sv message).outside =
      d.outside.deliver sv.collaborators d.session.socket message := by
  unfold send Outside.deliver
  cases d.session.socket with
  | none => rfl
  | some socket =>
    exact apply_ite (fun e : LiveSession W => e.outside) _ d (d.emit sv (.send socket message))

theorem tells_send (place : Option UInt32) :
    Outside.Tells sv.collaborators d.session.socket place d.outside
      (d.send sv (.authResponse (ackOf place).1 (ackOf place).2)).outside :=
  ⟨d.outside, .refl _, (outside_send sv d _).symm ▸ .refl _⟩

theorem tells_sendAuthQueued {position : UInt32} (waits : d.session.queuePosition = some position) :
    Outside.Tells sv.collaborators d.session.socket (some position) d.outside
      (d.sendAuthQueued sv).outside := by
  unfold sendAuthQueued
  rw [waits]
  exact tells_send sv d (some position)

/-- The state machine acknowledges the client of a session in `created`: that it is past
the queue, if a socket waits to take over, and else its place. -/
theorem tells_advance (now : Instant) (state : d.session.state = .created) :
    Outside.Tells sv.collaborators (d.session.pending.or d.session.socket)
      (if d.session.pending.isSome then none else d.session.queuePosition) d.outside
      (d.advance sv now).2.outside := by
  -- Neither what comes before the acknowledgement nor what comes after it is another one.
  have rest : ∀ e : LiveSession W, e.AckFree sv
      ((if e.session.addons.isEmpty then e else e.sendAddonsInfo sv).modify
        (·.toCharSelection sv.config)) := by
    intro e
    split
    · exact (shows_modify e _).ackFree
    · have listed : e.Shows sv .ackFree (e.sendAddonsInfo sv) :=
        (behaves_sendAddonsInfo e fun _ _ _ => rfl).shows
      exact (listed.trans (shows_modify _ _)).ackFree
  simp only [advance, state, advanceCreated]
  cases pending : d.session.pending with
  | some socket =>
    let free : LiveSession W := d.modify fun s => { s with pending := none }
    let left : LiveSession W := if free.session.socket.isSome then free.setOffline sv else free
    have dropped : d.Shows sv .ackFree left := by
      simp only [left]
      split
      · exact (shows_modify d _).trans (behaves_setOffline free).shows
      · exact shows_modify d _
    have early : d.AckFree sv (left.log sv .replacementActivated) :=
      (dropped.trans (shows_log left _)).ackFree
    have sent : (d.activate sv socket).outside =
        (left.log sv .replacementActivated).outside.deliver sv.collaborators (some socket)
          (.authResponse (ackOf none).1 (ackOf none).2) :=
      outside_send sv
        ((left.log sv .replacementActivated).modify fun s => { s with socket := some socket }) _
    exact ⟨_, early, sent ▸ rest (d.activate sv socket)⟩
  | none =>
    simp only [Option.isSome_none, Bool.false_eq_true, if_false, Option.none_or]
    cases place : d.session.queuePosition with
    | some position =>
      obtain ⟨middle, early, late⟩ := tells_sendAuthQueued sv d place
      refine ⟨middle, early, late.trans ?_⟩
      have waits : d.session.inQueue = true := by rw [Session.inQueue, place]; rfl
      rw [waits, if_pos rfl]
      exact rest _
    | none =>
      obtain ⟨middle, early, late⟩ := tells_send sv d none
      refine ⟨middle, early, late.trans ?_⟩
      have past : d.session.inQueue = false := by rw [Session.inQueue, place]; rfl
      rw [past, if_neg Bool.false_ne_true]
      exact rest _

end

end LiveSession

namespace Registry

variable (sv : Services W) (d : LiveSession W)

theorem tells_welcome :
    Outside.Tells sv.collaborators d.session.socket none d.outside (welcome sv d).outside :=
  LiveSession.tells_send sv (d.modify fun s => { s with queuePosition := none }) none

/-- Whoever waits is told a place that is new. -/
theorem tells_renumber {position : UInt32} (counted : position ≠ 0)
    (changed : d.session.queuePosition ≠ some position) :
    Outside.Tells sv.collaborators d.session.socket (some position) d.outside
      (renumber sv position d).outside := by
  rw [renumber, if_neg changed, LiveSession.sendAuthWaitQueue, if_neg counted]
  exact LiveSession.tells_sendAuthQueued sv
    (d.modify fun s => { s with queuePosition := some position }) rfl

end Registry

/-! ## The sockets of a session -/

namespace Session

def sockets (s : Session) : List SocketId := s.socket.toList ++ s.pending.toList

theorem mem_sockets {s : Session} {socket : SocketId} :
    socket ∈ s.sockets ↔ s.socket = some socket ∨ s.pending = some socket := by
  simp [sockets]

end Session

namespace Event

/-- Whether an event is the step of the state machine that acknowledges a session. -/
def greets (s : Session) : Event W → Bool
  | advance _ => s.state == .created
  | _ => false

/-- The socket that a session takes in an event, if it takes one. -/
def brings? (s : Session) : Event W → Option SocketId
  | perform (.requestNewSocket socket) => if s.pending.isSome then none else some socket
  | _ => none

end Event

theorem sockets_afterCreated (config : SessionConfig) (s : Session) :
    (s.afterCreated config).socket = s.pending.or s.socket ∧
      (s.afterCreated config).pending = none := by
  unfold Session.afterCreated
  cases pending : s.pending with
  | none => exact ⟨rfl, pending⟩
  | some socket => exact ⟨rfl, rfl⟩

theorem Operation.sockets_after (config : SessionConfig) (socketOpen : Bool)
    (operation : Operation W) (s : Session) :
    let t := operation.after config socketOpen s
    (t.socket = s.socket ∨ t.socket = none) ∧
      (t.pending = ((Event.perform operation).brings? s).or s.pending ∨ t.pending = none) := by
  cases operation with
  | setOnline =>
    simp only [after]
    split <;> exact ⟨.inl rfl, .inl rfl⟩
  | setOffline => exact ⟨.inr rfl, .inl rfl⟩
  | requestNewSocket socket =>
    simp only [after, Session.afterRequest, Event.brings?]
    split
    · exact ⟨.inl rfl, .inl rfl⟩
    · exact ⟨.inl rfl, .inl rfl⟩
  | kickPlayer save inPlace => cases inPlace <;> exact ⟨.inl rfl, .inl rfl⟩
  | shutdown =>
    simp only [after, Session.afterShutdown]
    split
    · exact ⟨.inl rfl, .inl rfl⟩
    · exact ⟨.inr rfl, .inr rfl⟩
  | _ => exact ⟨.inl rfl, .inl rfl⟩

/-- Apart from the state machine's first step, a session only ever lets its active
socket go. What it takes has to wait. -/
theorem Event.sockets_after (config : SessionConfig) (socketOpen : Bool) {event : Event W}
    {s : Session} (other : event.greets s = false) :
    let t := event.after config socketOpen s
    (t.socket = s.socket ∨ t.socket = none) ∧
      (t.pending = (event.brings? s).or s.pending ∨ t.pending = none) := by
  cases event with
  | perform operation => exact operation.sockets_after config socketOpen s
  | advance now =>
    have state : s.state ≠ .created := by simpa [greets] using other
    rcases s.afterAdvance_cases config socketOpen now with ⟨created, -⟩ | ⟨-, same | out | off⟩
    · exact absurd created state
    · rw [after, same]
      exact ⟨.inl rfl, .inl rfl⟩
    · rw [after, out]
      exact ⟨.inl rfl, .inl rfl⟩
    · rw [after, off]
      exact ⟨.inr rfl, .inl rfl⟩
  | grant queue status opcode =>
    cases queue with
    | generic =>
      simp only [after]
      split <;> exact ⟨.inl rfl, .inl rfl⟩
    | map => exact ⟨.inl rfl, .inl rfl⟩
  | _ => exact ⟨.inl rfl, .inl rfl⟩

namespace LiveSession

section
variable (sv : Services W) {d : LiveSession W} {event : Event W}

theorem socket_apply_of_greets (greets : event.greets d.session = true) :
    (event.apply sv d).session.socket = d.session.pending.or d.session.socket ∧
      (event.apply sv d).session.pending = none := by
  cases event with
  | advance now =>
    have state : d.session.state = .created := by simpa [Event.greets] using greets
    have same : (d.advance sv now).2.session.life = _ := d.life_advance now
    rw [Session.afterAdvance, state] at same
    obtain ⟨socket, pending⟩ := sockets_afterCreated sv.config d.session
    exact ⟨(congrArg Life.socket same).trans socket, (congrArg Life.pending same).trans pending⟩
  | _ => cases greets

theorem socket_apply (other : event.greets d.session = false) :
    (event.apply sv d).session.socket = d.session.socket ∨
      (event.apply sv d).session.socket = none := by
  have same := congrArg Life.socket (event.life_apply sv d)
  have after := (Event.sockets_after sv.config (d.socketOpen sv) other).1
  exact after.imp same.trans same.trans

variable {sv}

/-- A session has only sockets that it had, and the one it takes. -/
theorem mem_sockets_apply {socket : SocketId}
    (mem : socket ∈ (event.apply sv d).session.sockets) :
    socket ∈ d.session.sockets ∨ event.brings? d.session = some socket := by
  rw [Session.mem_sockets] at mem ⊢
  cases greets : event.greets d.session with
  | true =>
    obtain ⟨active, pending⟩ := socket_apply_of_greets sv greets
    rw [active, pending] at mem
    have either := mem.resolve_right (Option.some_ne_none socket).symm
    rcases Option.or_eq_some_iff.mp either with waits | ⟨-, had⟩
    · exact .inl (.inr waits)
    · exact .inl (.inl had)
  | false =>
    have active := congrArg Life.socket (event.life_apply sv d)
    have pending := congrArg Life.pending (event.life_apply sv d)
    obtain ⟨after, after'⟩ := Event.sockets_after sv.config (d.socketOpen sv) greets
    rcases mem with mem | mem
    · rcases after with had | gone
      · exact .inl (.inl (had.symm.trans (active.symm.trans mem)))
      · exact absurd (gone.symm.trans (active.symm.trans mem)) (Option.some_ne_none socket).symm
    · rcases after' with had | gone
      · have either := had.symm.trans (pending.symm.trans mem)
        rcases Option.or_eq_some_iff.mp either with takes | ⟨-, waits⟩
        · exact .inr takes
        · exact .inl (.inr waits)
      · exact absurd (gone.symm.trans (pending.symm.trans mem)) (Option.some_ne_none socket).symm

end

end LiveSession

end GameRealm
