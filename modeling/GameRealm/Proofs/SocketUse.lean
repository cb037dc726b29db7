import GameRealm.Proofs.Acknowledgement
import GameRealm.Proofs.Handover

/-!
# How sockets come and go

A session takes a socket when it is created, and others that are offered while none
waits. Whatever it takes it lets go of once, by finalizing it, and then leaves it alone.

1. `Session.Writes` is what a session may do to its sockets while it has them: write to
   the active one while that is open, and close it. `LiveSession.Handles` is whatever is made
   up of that, of letting go of a socket, and of letting one take over from none;
   `handles_or_rests`: an event is of this kind, or nothing to the session, unless the
   session takes a socket in it;
2. `Outside.effectsOn` are a session's effects on one socket, and `LiveSession.SocketUse` says
   what they are: none on a socket that was not taken, no finalization of one that the
   session has, and of one that it had just one, after which comes nothing;
3. every event keeps this (`SocketUse.apply`), as long as sockets are offered once and not
   after the shutdown, and so `sockets_finalized_once`: a session that is dropped has
   finalized all that it took.
-/

namespace GameRealm

def Effect.socket? : Effect → Option SocketId
  | send socket _ | close socket | finalize socket => some socket
  | _ => none

theorem socket?_of_plain {effect : Effect} (plain : effect.Plain) : effect.socket? = none := by
  cases effect <;> first | rfl | exact plain.elim

theorem socket?_of_clears {effect : Effect} {c : Character} (clears : effect.Clears c) :
    effect.socket? = none := by
  cases effect <;> first | rfl | exact clears.elim

namespace Outside

/-- The effects on a socket, the first one first. -/
def effectsOn (socket : SocketId) (outside : Outside W) : List Effect :=
  outside.trace.filter (·.socket? == some socket)

/-- A socket was finalized, once, and has been left alone since. -/
def Finalized (socket : SocketId) (outside : Outside W) : Prop :=
  ∃ before, outside.effectsOn socket = before ++ [.finalize socket] ∧
    Effect.finalize socket ∉ before

section
variable {co : Collaborators W} {outside : Outside W} {effect : Effect} {socket : SocketId}

theorem effectsOn_emit (hit : effect.socket? = some socket) :
    (outside.emit co effect).effectsOn socket = outside.effectsOn socket ++ [effect] := by
  rw [effectsOn, trace_emit, List.filter_append,
    List.filter_cons_of_pos (by rw [hit, beq_self_eq_true]), List.filter_nil, effectsOn]

theorem effectsOn_emit_of_ne (other : effect.socket? ≠ some socket) :
    (outside.emit co effect).effectsOn socket = outside.effectsOn socket := by
  rw [effectsOn, trace_emit, List.filter_append,
    List.filter_cons_of_neg (by simpa using other), List.filter_nil, List.append_nil, effectsOn]

end

end Outside

open Outside

namespace Session

/-- What a session may do to its sockets while it has them: write to the active one
while that is open, and close it. -/
def Writes (co : Collaborators W) (world : W) (s : Session) : Effect → Prop
  | .send socket _ => s.socket = some socket ∧ (co.socket world socket).closed = false
  | .close socket => s.socket = some socket
  | .finalize _ => False
  | _ => True

variable {co : Collaborators W} {world : W} {s : Session} {effect : Effect}

theorem writes_of_permits (permitted : s.Permits co world effect) : s.Writes co world effect := by
  cases effect <;> first | exact permitted | trivial

theorem writes_of_silent (silent : effect.socket? = none) : s.Writes co world effect := by
  cases effect <;> trivial

/-- What a session does to its sockets it does to the active one, and it is no
finalization. -/
theorem Writes.active {socket : SocketId} (h : s.Writes co world effect)
    (hit : effect.socket? = some socket) :
    s.socket = some socket ∧ effect ≠ .finalize socket := by
  cases effect <;> cases hit
  · exact ⟨h.1, Effect.noConfusion⟩
  · exact ⟨h, Effect.noConfusion⟩
  · exact h.elim

end Session

namespace Event

/-- The socket that an event offers to a session. -/
def offered? : Event W → Option SocketId
  | perform (.requestNewSocket socket) => some socket
  | _ => none

/-- The socket that a session takes in an event: it is offered, and not refused. -/
def accepted? (sv : Services W) (d : LiveSession W) (event : Event W) : Option SocketId :=
  event.offered?.filter fun socket => (d.requestNewSocket sv socket).1.isOk

/-- A session takes a socket exactly if none waits. -/
theorem accepted?_eq (sv : Services W) (d : LiveSession W) (event : Event W) :
    event.accepted? sv d = event.brings? d.session := by
  cases event with
  | perform operation =>
    cases operation with
    | requestNewSocket socket =>
      simp only [accepted?, offered?, brings?, Option.filter_some, LiveSession.requestNewSocket]
      cases d.session.pending <;> rfl
    | _ => rfl
  | _ => rfl

theorem accepted?_eq_some {sv : Services W} {d : LiveSession W} {event : Event W}
    {socket : SocketId} :
    event.accepted? sv d = some socket ↔
      event = perform (.requestNewSocket socket) ∧ d.session.pending = none := by
  rw [accepted?_eq]
  constructor
  · intro brings
    cases event with
    | perform operation =>
      cases operation with
      | requestNewSocket other =>
        cases free : d.session.pending with
        | none =>
          simp only [brings?, free, Option.isSome_none, Bool.false_eq_true, if_false,
            Option.some.injEq] at brings
          exact ⟨by rw [brings], rfl⟩
        | some waiting => simp [brings?, free] at brings
      | _ => cases brings
    | _ => cases brings
  · rintro ⟨rfl, free⟩
    simp [brings?, free]

end Event

/-- A socket that is told to close does. -/
def Collaborators.HeedsClose (co : Collaborators W) : Prop :=
  ∀ world socket, (co.socket (co.react world (.close socket)) socket).closed = true

namespace LiveSession

/-! ## What a session does with its sockets -/

/-- A socket is closed: it was already, or it is now. -/
def Shuts (sv : Services W) (socket : SocketId) (before after : LiveSession W) : Prop :=
  (after = before ∨ after = before.emit sv (.close socket)) ∧ after.isClosed sv socket = true

/-- The session does nothing, whatever becomes of the world. -/
structure Rests (before after : LiveSession W) : Prop where
  session : after.session = before.session
  effects : after.outside.effects = before.outside.effects

/-- What a session may do without being given a socket. -/
inductive Handles (sv : Services W) (start : LiveSession W) : LiveSession W → Prop
  | refl : Handles sv start start
  | emit {d : LiveSession W} (h : Handles sv start d) {effect : Effect}
      (permitted : d.session.Writes sv.collaborators d.outside.world effect) :
      Handles sv start (d.emit sv effect)
  /-- The session changes, but for its sockets. -/
  | modify {d : LiveSession W} (h : Handles sv start d) {change : Session → Session}
      (socket : (change d.session).socket = d.session.socket)
      (pending : (change d.session).pending = d.session.pending) :
      Handles sv start (d.modify change)
  | inbox {d : LiveSession W} (h : Handles sv start d) (inbox : Inbox W) :
      Handles sv start { d with inbox }
  /-- The active socket is let go of: it is finalized, as soon as it is closed. -/
  | dropSocket {d closed : LiveSession W} (h : Handles sv start d) {socket : SocketId}
      (active : d.session.socket = some socket)
      (shuts : (d.modify fun s => { s with socket := none }).Shuts sv socket closed) :
      Handles sv start (closed.emit sv (.finalize socket))
  /-- The socket that waits is let go of. -/
  | dropPending {d closed : LiveSession W} (h : Handles sv start d) {socket : SocketId}
      (waits : d.session.pending = some socket)
      (shuts : (d.modify fun s => { s with pending := none }).Shuts sv socket closed) :
      Handles sv start (closed.emit sv (.finalize socket))
  /-- A socket takes over once there is no active one. -/
  | takeOver {d : LiveSession W} (h : Handles sv start d) (free : d.session.socket = none) :
      Handles sv start d.takeOver

section
variable {sv : Services W} {d e f : LiveSession W}

theorem Handles.trans (h : Handles sv d e) (h' : Handles sv e f) : Handles sv d f := by
  induction h' with
  | refl => exact h
  | emit _ permitted ih => exact ih.emit permitted
  | modify _ socket pending ih => exact ih.modify socket pending
  | inbox _ inbox ih => exact ih.inbox inbox
  | dropSocket _ active shuts ih => exact ih.dropSocket active shuts
  | dropPending _ waits shuts ih => exact ih.dropPending waits shuts
  | takeOver _ free ih => exact ih.takeOver free

theorem Shuts.session {socket : SocketId} (shuts : d.Shuts sv socket e) :
    e.session = d.session := by
  rcases shuts.1 with rfl | rfl <;> rfl

theorem Handles.one {effect : Effect}
    (permitted : d.session.Writes sv.collaborators d.outside.world effect) :
    Handles sv d (d.emit sv effect) :=
  Handles.refl.emit permitted

theorem handles_emits {kind : Effect → Prop} {outside : Outside W}
    (h : Emits sv.collaborators kind d.outside outside)
    (silent : ∀ effect, kind effect → effect.socket? = none) :
    Handles sv d { d with outside } := by
  induction h with
  | refl => exact .refl
  | emit _ fits ih => exact ih.emit (Session.writes_of_silent (silent _ fits))

theorem handles_send (message : Message) (d : LiveSession W) :
    Handles sv d (d.send sv message) := by
  unfold send
  split
  · exact .refl
  · next socket active =>
    split
    · exact .refl
    · next stillOpen => exact .one ⟨active, Bool.eq_false_iff.mpr stillOpen⟩

theorem handles_teardown (c : Character) (d : LiveSession W) :
    Handles sv d { d with outside := Teardown.run sv.collaborators d.session c d.outside } := by
  obtain ⟨first, last, cleared, saved, ran⟩ :=
    Teardown.emits_run c d.outside sv.collaborators d.session
  have clears : ∀ effect : Effect, effect.Clears c → effect.socket? = none :=
    fun _ => socket?_of_clears
  have early : Handles sv d { d with outside := first } := handles_emits cleared clears
  have written : Handles sv { d with outside := first }
      { d with outside := Teardown.save sv.collaborators d.session c first } := by
    rcases Teardown.emits_save c first sv.collaborators d.session with ⟨-, same⟩ | ⟨-, wrote⟩
    · rw [same]
      exact .refl
    · have marked : Handles sv { d with outside := first }
          { d with outside := first.act sv.collaborators c .save } := .one (by trivial)
      exact marked.trans (handles_emits wrote clears)
  have late : Handles sv
      { d with outside := Teardown.save sv.collaborators d.session c first }
      { d with outside := last } := handles_emits saved clears
  rw [ran]
  exact ((early.trans written).trans late).emit trivial

theorem handles_logoutPlayer (d : LiveSession W) : Handles sv d (d.logoutPlayer sv) := by
  unfold logoutPlayer
  cases d.session.player with
  | none => exact Handles.refl.modify rfl rfl
  | some c =>
    let gone : LiveSession W := ({ d with
        outside := Teardown.resolve sv.collaborators c d.outside } :
      LiveSession W).modify fun s => { s with loggingOut := true, player := none }
    let torn : LiveSession W :=
      { gone with outside := Teardown.run sv.collaborators gone.session c gone.outside }
    let told : LiveSession W := (torn.send sv .logoutComplete).log sv .logoutCompleteSent
    have resolved : Handles sv d
        { d with outside := Teardown.resolve sv.collaborators c d.outside } :=
      handles_emits (Teardown.emits_resolve c d.outside) fun _ => socket?_of_clears
    have to_torn : Handles sv d torn :=
      (resolved.modify rfl rfl).trans (handles_teardown c gone)
    have to_told : Handles sv torn told := (handles_send .logoutComplete torn).emit trivial
    have stored : Handles sv told { told with
        outside := Teardown.store sv.collaborators .character (.characterOffline c.guid)
          .characterKeptOnline told.outside } :=
      handles_emits (Teardown.emits_store _ _ _ _) fun _ => socket?_of_plain
    exact ((to_torn.trans to_told).trans stored).modify rfl rfl

theorem exists_shuts (heeds : sv.collaborators.HeedsClose) (socket : SocketId) (d : LiveSession W) :
    ∃ closed, d.Shuts sv socket closed ∧
      d.discard sv socket = closed.emit sv (.finalize socket) := by
  unfold discard
  cases already : d.isClosed sv socket with
  | true => exact ⟨d, ⟨.inl rfl, already⟩, rfl⟩
  | false => exact ⟨d.emit sv (.close socket), ⟨.inr rfl, heeds _ _⟩, rfl⟩

theorem handles_dropSocket (heeds : sv.collaborators.HeedsClose) (d : LiveSession W) :
    Handles sv d (d.dropSocket sv) := by
  let freed : LiveSession W := d.modify fun s => { s with socket := none }
  change Handles sv d (freed.discard? sv d.session.socket)
  cases active : d.session.socket with
  | none =>
    have same : Handles sv d freed := Handles.refl.modify active.symm rfl
    exact same
  | some socket =>
    obtain ⟨closed, shuts, same⟩ := exists_shuts heeds socket freed
    rw [discard?, same]
    exact Handles.refl.dropSocket active shuts

theorem handles_dropPending (heeds : sv.collaborators.HeedsClose) (d : LiveSession W) :
    Handles sv d (d.dropPending sv) := by
  let freed : LiveSession W := d.modify fun s => { s with pending := none }
  change Handles sv d (freed.discard? sv d.session.pending)
  cases waits : d.session.pending with
  | none =>
    have same : Handles sv d freed := Handles.refl.modify rfl waits.symm
    exact same
  | some socket =>
    obtain ⟨closed, shuts, same⟩ := exists_shuts heeds socket freed
    rw [discard?, same]
    exact Handles.refl.dropPending waits shuts

/-- Whatever a session does without something new being brought in. -/
theorem Moves.handles (heeds : sv.collaborators.HeedsClose) (moves : Moves sv d e) :
    Handles sv d e := by
  induction moves with
  | refl => exact .refl
  | emit _ permitted ih => exact ih.emit (Session.writes_of_permits permitted)
  | modify _ kept ih =>
    have sockets := congrArg Prod.snd kept
    exact ih.modify (congrArg Prod.fst sockets) (congrArg Prod.snd sockets)
  | inbox _ inbox ih => exact ih.inbox inbox
  | logout _ ih => exact ih.trans (handles_logoutPlayer _)
  | dropSocket _ ih => exact ih.trans (handles_dropSocket heeds _)
  | dropPending _ ih => exact ih.trans (handles_dropPending heeds _)
  | takeOver _ free _ ih => exact ih.takeOver free

/-- In every event a session handles what it has, or does nothing, unless it takes a
socket. -/
theorem handles_or_rests (heeds : sv.collaborators.HeedsClose) (event : Event W) (d : LiveSession W)
    (none : event.accepted? sv d = none) :
    Handles sv d (event.apply sv d) ∨ d.Rests (event.apply sv d) := by
  cases own : event.bringsIn with
  | false => exact .inl ((moves_apply d own).handles heeds)
  | true =>
    cases event with
    | perform operation =>
      cases operation with
      | attach c =>
        have joined : Handles sv d (d.modify (·.attach c)) := Handles.refl.modify rfl rfl
        change Handles sv d (d.attach sv c) ∨ _
        unfold attach
        simp only
        split
        · exact .inl joined
        · exact .inl (joined.emit trivial)
      | requestNewSocket socket =>
        have waits : d.session.pending.isSome = true := by
          simpa [Event.accepted?_eq, Event.brings?, ← Option.ne_none_iff_isSome] using none
        change _ ∨ d.Rests (d.requestNewSocket sv socket).2
        rw [requestNewSocket, if_pos waits]
        exact .inr ⟨rfl, rfl⟩
      | outside change => exact .inr ⟨rfl, rfl⟩
      | _ => cases own
    | _ => cases own

theorem Handles.pending (h : Handles sv d e) :
    e.session.pending = d.session.pending ∨ e.session.pending = none := by
  induction h with
  | modify _ _ pending ih => exact ih.imp (pending.trans ·) (pending.trans ·)
  | @dropSocket d closed _ socket active shuts ih =>
    rw [(frame_emit _ _).1, shuts.session]
    exact ih
  | @dropPending d closed _ socket waits shuts ih =>
    rw [(frame_emit _ _).1, shuts.session]
    exact .inr rfl
  | takeOver _ _ ih => exact .inr rfl
  | refl => exact .inl rfl
  | _ => assumption

/-! ## Letting go of a socket -/

theorem Shuts.effectsOn_of_ne {socket other : SocketId} (shuts : d.Shuts sv socket e)
    (different : socket ≠ other) :
    (e.emit sv (.finalize socket)).outside.effectsOn other = d.outside.effectsOn other := by
  have apart : some socket ≠ some other := fun same => different (Option.some.inj same)
  have finalized : (e.emit sv (.finalize socket)).outside.effectsOn other =
      e.outside.effectsOn other := effectsOn_emit_of_ne apart
  rw [finalized]
  rcases shuts.1 with rfl | rfl
  · rfl
  · exact effectsOn_emit_of_ne apart

/-- A socket that was not finalized before is finalized when it is let go of. -/
theorem Shuts.finalized {socket : SocketId} (shuts : d.Shuts sv socket e)
    (had : Effect.finalize socket ∉ d.outside.effectsOn socket) :
    (e.emit sv (.finalize socket)).outside.Finalized socket := by
  refine ⟨e.outside.effectsOn socket, effectsOn_emit rfl, ?_⟩
  rcases shuts.1 with rfl | rfl
  · exact had
  · have closed : (d.emit sv (.close socket)).outside.effectsOn socket =
        d.outside.effectsOn socket ++ [.close socket] := effectsOn_emit rfl
    rw [closed]
    simpa using had

/-! ## What becomes of every socket -/

/-- A session that took some sockets has them or has finalized them. It has not
finalized what it has, and it has had nothing to do with other sockets. -/
structure SocketUse (taken : List SocketId) (d : LiveSession W) : Prop where
  apart : d.session.sockets.Nodup
  untouched : ∀ socket, socket ∉ taken →
    socket ∉ d.session.sockets ∧ d.outside.effectsOn socket = []
  held : ∀ socket ∈ d.session.sockets, Effect.finalize socket ∉ d.outside.effectsOn socket
  gone : ∀ socket ∈ taken, socket ∉ d.session.sockets → d.outside.Finalized socket

variable {taken : List SocketId}

theorem SocketUse.mem_taken {socket : SocketId} (use : d.SocketUse taken)
    (has : socket ∈ d.session.sockets) : socket ∈ taken :=
  Decidable.by_contra fun strange => (use.untouched socket strange).1 has

theorem SocketUse.congr (use : d.SocketUse taken)
    (sockets : e.session.sockets.Perm d.session.sockets)
    (effectsOn : ∀ socket, e.outside.effectsOn socket = d.outside.effectsOn socket) :
    e.SocketUse taken := by
  constructor
  · exact sockets.nodup_iff.mpr use.apart
  · intro socket strange
    rw [sockets.mem_iff, effectsOn]
    exact use.untouched socket strange
  · intro socket has
    rw [effectsOn]
    exact use.held socket (sockets.mem_iff.mp has)
  · intro socket took lost
    rw [Finalized, effectsOn]
    exact use.gone socket took fun has => lost (sockets.mem_iff.mpr has)

theorem SocketUse.emit {effect : Effect} (use : d.SocketUse taken)
    (permitted : d.session.Writes sv.collaborators d.outside.world effect) :
    (d.emit sv effect).SocketUse taken := by
  have elsewhere : ∀ socket, effect.socket? ≠ some socket →
      (d.emit sv effect).outside.effectsOn socket = d.outside.effectsOn socket :=
    fun socket other => effectsOn_emit_of_ne other
  cases on : effect.socket? with
  | none =>
    exact use.congr (.refl _) fun socket => elsewhere socket (by simp [on])
  | some target =>
    obtain ⟨active, writes⟩ := permitted.active on
    have has : target ∈ d.session.sockets := Session.mem_sockets.mpr (.inl active)
    have there : (d.emit sv effect).outside.effectsOn target =
        d.outside.effectsOn target ++ [effect] := effectsOn_emit on
    have others : ∀ socket, socket ≠ target →
        (d.emit sv effect).outside.effectsOn socket = d.outside.effectsOn socket :=
      fun socket other => elsewhere socket fun same =>
        other (Option.some.inj (same.symm.trans on))
    constructor
    · exact use.apart
    · intro socket strange
      have other : socket ≠ target := fun same => strange (same ▸ use.mem_taken has)
      rw [others socket other]
      exact use.untouched socket strange
    · intro socket held
      by_cases same : socket = target
      · subst same
        rw [there, List.mem_append, List.mem_singleton]
        rintro (before | now)
        · exact use.held _ held before
        · exact writes now.symm
      · rw [others socket same]
        exact use.held socket held
    · intro socket took lost
      have other : socket ≠ target := fun same => lost (same ▸ has)
      rw [Finalized, others socket other]
      exact use.gone socket took lost

theorem SocketUse.letGo {socket : SocketId} {change : Session → Session}
    (use : d.SocketUse taken)
    (lost : d.session.sockets.Perm (socket :: (change d.session).sockets))
    (shuts : (d.modify change).Shuts sv socket e) :
    (e.emit sv (.finalize socket)).SocketUse taken := by
  have had : socket ∈ d.session.sockets := lost.mem_iff.mpr List.mem_cons_self
  have left : (e.emit sv (.finalize socket)).session.sockets = (change d.session).sockets := by
    rw [(frame_emit _ _).1, shuts.session, (frame_modify _ _).1]
  rw [← left] at lost
  obtain ⟨rest, apart⟩ := List.nodup_cons.mp (lost.nodup_iff.mp use.apart)
  have others : ∀ other, other ≠ socket →
      (e.emit sv (.finalize socket)).outside.effectsOn other = d.outside.effectsOn other :=
    fun other different => shuts.effectsOn_of_ne different.symm
  constructor
  · exact apart
  · intro other strange
    obtain ⟨never, untouched⟩ := use.untouched other strange
    rw [others other fun same => never (same ▸ had)]
    exact ⟨fun has => never (lost.mem_iff.mpr (.tail _ has)), untouched⟩
  · intro other has
    rw [others other fun same => rest (same ▸ has)]
    exact use.held other (lost.mem_iff.mpr (.tail _ has))
  · intro other took gone
    by_cases this : other = socket
    · subst this
      exact shuts.finalized (use.held other had)
    · rw [Finalized, others other this]
      refine use.gone other took fun has => ?_
      rcases List.mem_cons.mp (lost.mem_iff.mp has) with now | still
      · exact this now
      · exact gone still

theorem SocketUse.rest (use : d.SocketUse taken) (rests : d.Rests e) : e.SocketUse taken :=
  use.congr (rests.session ▸ .refl _) fun _ => by
    rw [effectsOn, trace, rests.effects, effectsOn, trace]

/-- Whatever a session does with what it has, it keeps it or finalizes it. -/
theorem SocketUse.handle (use : d.SocketUse taken) (h : Handles sv d e) : e.SocketUse taken := by
  induction h with
  | refl => exact use
  | emit _ permitted ih => exact ih.emit permitted
  | @modify d _ change socket pending ih =>
    have same : (d.modify change).session.sockets = d.session.sockets := by
      rw [Session.sockets, Session.sockets, (frame_modify _ _).1, socket, pending]
    exact ih.congr (same ▸ .refl _) fun _ => rfl
  | inbox _ inbox ih => exact ih.congr (.refl _) fun _ => rfl
  | dropSocket _ active shuts ih =>
    exact ih.letGo (by simp [Session.sockets, active]) shuts
  | dropPending _ waits shuts ih =>
    exact ih.letGo (by simp [Session.sockets, waits]) shuts
  | @takeOver d _ free ih =>
    refine ih.congr ?_ fun _ => rfl
    simp [LiveSession.takeOver, Session.sockets, free]

end

end LiveSession

def offers (events : List (Event W)) : List SocketId := events.filterMap Event.offered?

namespace LiveSession

def takes (sv : Services W) : List (Event W) → LiveSession W → List SocketId
  | [], _ => []
  | event :: events, d => (event.accepted? sv d).toList ++ takes sv events (event.apply sv d)

/-- No socket is offered after the shutdown. -/
def OffersInTime (sv : Services W) : List (Event W) → LiveSession W → Prop
  | [], _ => True
  | event :: events, d =>
    (event.offered?.isSome → d.session.hasShutDown = false) ∧
      OffersInTime sv events (event.apply sv d)

instance decidableOffersInTime (sv : Services W) :
    (events : List (Event W)) → (d : LiveSession W) → Decidable (OffersInTime sv events d)
  | [], _ => inferInstanceAs (Decidable True)
  | event :: events, d =>
    have := decidableOffersInTime sv events (event.apply sv d)
    inferInstanceAs (Decidable ((_ → _) ∧ _))

/-- A session that has been shut down has no socket. -/
def Retires (d : LiveSession W) : Prop := d.session.hasShutDown = true → d.session.sockets = []

section
variable {sv : Services W} {d : LiveSession W} {event : Event W} {events : List (Event W)}
  {taken : List SocketId} {socket : SocketId}

theorem takes_sublist (events : List (Event W)) (d : LiveSession W) :
    (takes sv events d).Sublist (offers events) := by
  induction events generalizing d with
  | nil => exact .slnil
  | cons event events ih =>
    have rest := ih (event.apply sv d)
    rw [takes, offers, List.filterMap_cons]
    unfold Event.accepted?
    cases event.offered? with
    | none => exact rest
    | some socket =>
      rw [Option.filter_some]
      split
      · exact rest.cons_cons socket
      · exact rest.cons socket

theorem takes_append (past later : List (Event W)) (d : LiveSession W) :
    takes sv (past ++ later) d = takes sv past d ++ takes sv later (d.replay sv past) := by
  induction past generalizing d with
  | nil => rfl
  | cons event past ih =>
    rw [List.cons_append, takes, ih, takes, List.append_assoc]
    rfl

theorem OffersInTime.append {first second : List (Event W)}
    (h : OffersInTime sv (first ++ second) d) : OffersInTime sv first d := by
  induction first generalizing d with
  | nil => trivial
  | cons event events ih => exact ⟨h.1, ih h.2⟩

theorem effectsOn_requestNewSocket (offered other : SocketId) (d : LiveSession W) :
    (d.requestNewSocket sv offered).2.outside.effectsOn other = d.outside.effectsOn other := by
  unfold requestNewSocket
  split
  · rfl
  · have logged : (d.log sv .replacementPending).outside.effectsOn other =
        d.outside.effectsOn other := effectsOn_emit_of_ne (Option.some_ne_none other).symm
    exact logged

theorem SocketUse.take (use : d.SocketUse taken) (free : d.session.pending = none)
    (fresh : socket ∉ taken) :
    (d.requestNewSocket sv socket).2.SocketUse (taken ++ [socket]) := by
  have sockets : (d.requestNewSocket sv socket).2.session.sockets =
      d.session.sockets ++ [socket] := by
    simp [Session.sockets, Session.afterRequest, free]
  have effectsOn : ∀ other, (d.requestNewSocket sv socket).2.outside.effectsOn other =
      d.outside.effectsOn other := fun other => effectsOn_requestNewSocket socket other d
  obtain ⟨never, untouched⟩ := use.untouched socket fresh
  constructor
  · rw [sockets, List.nodup_append_comm]
    exact List.nodup_cons.mpr ⟨never, use.apart⟩
  · intro other strange
    rw [List.mem_append, List.mem_singleton, not_or] at strange
    rw [sockets, effectsOn, List.mem_append, List.mem_singleton, not_or]
    obtain ⟨lacks, silent⟩ := use.untouched other strange.1
    exact ⟨⟨lacks, strange.2⟩, silent⟩
  · intro other has
    rw [sockets, List.mem_append, List.mem_singleton] at has
    rw [effectsOn]
    rcases has with had | rfl
    · exact use.held other had
    · rw [untouched]
      exact List.not_mem_nil
  · intro other took gone
    rw [sockets, List.mem_append, List.mem_singleton, not_or] at gone
    rw [Finalized, effectsOn]
    rcases List.mem_append.mp took with took | now
    · exact use.gone other took gone.1
    · exact absurd (List.mem_singleton.mp now) gone.2

/-- A session that takes no socket twice has those that it took or has finalized them. -/
theorem SocketUse.apply (heeds : sv.collaborators.HeedsClose) (use : d.SocketUse taken)
    (fresh : ∀ socket, event.accepted? sv d = some socket → socket ∉ taken) :
    (event.apply sv d).SocketUse (taken ++ (event.accepted? sv d).toList) := by
  cases takes : event.accepted? sv d with
  | none =>
    rw [Option.toList_none, List.append_nil]
    rcases handles_or_rests heeds event d takes with handles | rests
    · exact use.handle handles
    · exact use.rest rests
  | some socket =>
    obtain ⟨rfl, free⟩ := Event.accepted?_eq_some.mp takes
    exact use.take free (fresh socket takes)

theorem sockets_shutdown (sv : Services W) (retires : d.Retires) :
    (d.shutdown sv).session.sockets = [] := by
  rw [(frame_shutdown _).1]
  unfold Session.afterShutdown
  split
  · next shut => exact retires shut
  · rfl

theorem retires_apply (retires : d.Retires)
    (inTime : event.offered?.isSome → d.session.hasShutDown = false) :
    (event.apply sv d).Retires := by
  intro shut
  by_cases shutting : event = .perform .shutdown
  · subst shutting
    exact sockets_shutdown sv retires
  · rw [hasShutDown_apply event d shutting] at shut
    refine List.eq_nil_iff_forall_not_mem.mpr fun socket has => ?_
    rcases mem_sockets_apply has with had | brought
    · rw [retires shut] at had
      exact List.not_mem_nil had
    · rw [← event.accepted?_eq sv d] at brought
      obtain ⟨rfl, -⟩ := Event.accepted?_eq_some.mp brought
      exact absurd (shut.symm.trans (inTime rfl)) (Bool.false_ne_true ∘ Eq.symm)

/-- Through any run to which sockets are offered once and in time. -/
theorem socketUse_replay (heeds : sv.collaborators.HeedsClose) (use : d.SocketUse taken)
    (retires : d.Retires)
    (distinct : (taken ++ offers events).Nodup) (inTime : OffersInTime sv events d) :
    (d.replay sv events).SocketUse (taken ++ takes sv events d) ∧ (d.replay sv events).Retires := by
  induction events generalizing d taken with
  | nil =>
    rw [takes, List.append_nil]
    exact ⟨use, retires⟩
  | cons event events ih =>
    have fresh : ∀ socket, event.accepted? sv d = some socket → socket ∉ taken := by
      intro socket takes
      obtain ⟨rfl, -⟩ := Event.accepted?_eq_some.mp takes
      exact fun before => (List.disjoint_of_nodup_append distinct) before List.mem_cons_self
    -- What is taken is among what is offered, so later sockets are new ones, too.
    have rest : (taken ++ (event.accepted? sv d).toList ++ offers events).Nodup := by
      refine distinct.sublist ?_
      rw [List.append_assoc]
      refine List.Sublist.append_left ?_ taken
      rw [offers, offers, List.filterMap_cons, Event.accepted?]
      cases event.offered? with
      | none => exact .refl _
      | some socket =>
        rw [Option.filter_some]
        split
        · exact .refl _
        · exact .cons _ (.refl _)
    rw [takes, ← List.append_assoc]
    exact ih (use.apply heeds fresh) (retires_apply retires inTime.1) rest inTime.2

theorem socketUse_create (sv : Services W) (account : Account) (socket : SocketId)
    (birth : Instant) (world : W) :
    (create sv account socket birth { world }).SocketUse [socket] := by
  constructor
  · exact List.nodup_singleton socket
  · exact fun other strange => ⟨strange, rfl⟩
  · exact fun other has => List.not_mem_nil
  · exact fun other took gone => absurd took gone

/-- Dropping a session is shutting it down, as far as its sockets go. -/
theorem effectsOn_drop (sv : Services W) (d : LiveSession W) (socket : SocketId) :
    (d.drop sv).outside.effectsOn socket = (d.shutdown sv).outside.effectsOn socket := by
  unfold drop
  simp only
  split
  · rfl
  · exact effectsOn_emit_of_ne (Option.some_ne_none socket).symm

theorem SocketUse.active (heeds : sv.collaborators.HeedsClose) (use : d.SocketUse taken)
    (fresh : ∀ socket, event.accepted? sv d = some socket → socket ∉ taken)
    (active : d.session.socket = some socket) :
    (event.apply sv d).session.socket = some socket ∨
      (event.apply sv d).outside.Finalized socket := by
  have has : socket ∈ d.session.sockets := Session.mem_sockets.mpr (.inl active)
  have after := use.apply heeds fresh
  have took := List.mem_append_left (event.accepted? sv d).toList (use.mem_taken has)
  by_cases still : socket ∈ (event.apply sv d).session.sockets
  · rcases Session.mem_sockets.mp still with stays | waits
    · exact .inl stays
    -- What was active does not wait: neither as the socket that is taken nor as another.
    · exfalso
      have alone : d.session.pending ≠ some socket := by
        intro too
        have apart := use.apart
        simp [Session.sockets, active, too] at apart
      cases takes : event.accepted? sv d with
      | none =>
        rcases handles_or_rests heeds event d takes with handles | rests
        · rcases handles.pending with same | none
          · exact alone (same.symm.trans waits)
          · exact absurd (none.symm.trans waits) (Option.some_ne_none socket).symm
        · exact alone (rests.session ▸ waits)
      | some other =>
        obtain ⟨rfl, free⟩ := Event.accepted?_eq_some.mp takes
        have now : ((Event.perform (.requestNewSocket other)).apply sv d).session.pending =
            some other := by
          change (d.requestNewSocket sv other).2.session.pending = some other
          simp [Session.afterRequest, free]
        obtain rfl : other = socket := Option.some.inj (now.symm.trans waits)
        exact fresh other takes (use.mem_taken has)
  · exact .inr (after.gone socket took still)

theorem not_mem_takes (sv : Services W) {past later : List (Event W)} {first : SocketId}
    (d e : LiveSession W) (distinct : (first :: offers (past ++ event :: later)).Nodup)
    (offered : event.offered? = some socket) :
    socket ∉ first :: takes sv past d ∧ socket ∉ takes sv later e := by
  have split : offers (past ++ event :: later) = offers past ++ socket :: offers later := by
    rw [offers, List.filterMap_append, List.filterMap_cons_some offered, offers, offers]
  rw [split, ← List.cons_append, ← List.singleton_append (l := offers later)] at distinct
  obtain ⟨-, tail, apart⟩ := List.nodup_append'.mp distinct
  constructor
  · intro mem
    have before : socket ∈ first :: offers past :=
      ((takes_sublist past d).cons_cons first).subset mem
    exact apart before List.mem_cons_self
  · exact fun mem => (List.nodup_cons.mp tail).1 ((takes_sublist later e).subset mem)

end

end LiveSession

namespace Rehearsal

theorem closed_of_close (stage : Stage) (socket : SocketId) :
    (Stage.collaborators.socket (Stage.collaborators.react stage (.close socket))
      socket).closed = true := by
  simp only [Stage.collaborators, Stage.react, Stage.setClosed, List.getElem?_modify_eq]
  cases stage.sockets[socket.val]? <;> rfl

end Rehearsal

namespace LiveSession

/-- Whatever happens to a session to which sockets are offered once each and before its
shutdown, in any run and amid any producers, while every socket that is told to close
does: in each event, and in the shutdown, a session writes to the active socket while that
is open, or lets go of sockets, which are closed when they are finalized, or lets one take
over once there is no active one; or it does nothing; or else it takes a socket, and does
nothing else. An active socket stays so until it is finalized. When the session is dropped
every socket that it took has been finalized, once, and left alone since; with other
sockets, such as those it refused, it has had nothing to do. -/
theorem sockets_finalized_once (sv : Services W) (account : Account) (socket : SocketId)
    (birth : Instant) (world : W) (events : List (Event W))
    (distinct : (socket :: offers events).Nodup)
    (inTime : OffersInTime sv events (create sv account socket birth { world }))
    (heeds : sv.collaborators.HeedsClose) :
    let start := create sv account socket birth { world }
    let last := start.replay sv events
    let dropped := (last.drop sv).outside
    (∀ past event later, events = past ++ event :: later →
      let d := start.replay sv past
      let after := event.apply sv d
      (event.accepted? sv d = none → Handles sv d after ∨ d.Rests after) ∧
      (∀ taken, event.accepted? sv d = some taken →
        after.session.socket = d.session.socket ∧ after.session.pending = some taken ∧
        ∀ any, after.outside.effectsOn any = d.outside.effectsOn any) ∧
      (∀ active, d.session.socket = some active →
        after.session.socket = some active ∨ after.outside.Finalized active) ∧
      ∀ refused, event.offered? = some refused →
        (d.requestNewSocket sv refused).1 = .error .socketPending →
        dropped.effectsOn refused = []) ∧
    Handles sv last (last.shutdown sv) ∧
    (∀ any, dropped.effectsOn any = (last.shutdown sv).outside.effectsOn any) ∧
    (∀ taken ∈ socket :: takes sv events start, dropped.Finalized taken) ∧
    ∀ other, other ∉ socket :: takes sv events start → dropped.effectsOn other = [] := by
  intro start last dropped
  have use : ∀ past later, events = past ++ later →
      (start.replay sv past).SocketUse (socket :: takes sv past start) ∧
        (start.replay sv past).Retires := by
    rintro past later rfl
    have early : (socket :: offers past).Nodup := by
      refine distinct.sublist ?_
      rw [offers, offers, List.filterMap_append]
      exact (List.sublist_append_left _ _).cons_cons socket
    exact socketUse_replay heeds (socketUse_create sv account socket birth world)
      (fun shut => absurd shut Bool.false_ne_true) early inTime.append
  obtain ⟨held, retires⟩ := use events [] (List.append_nil events).symm
  have dealt : ∀ any, dropped.effectsOn any = (last.shutdown sv).outside.effectsOn any :=
    effectsOn_drop sv last
  have shut : Handles sv last (last.shutdown sv) :=
    (behaves_shutdown last Conduct.logsOut_any).moves.handles heeds
  -- The shutdown lets go of whatever the session still has.
  have settled := held.handle shut
  have untouched : ∀ other, other ∉ socket :: takes sv events start →
      dropped.effectsOn other = [] := by
    intro other strange
    rw [dealt]
    exact (settled.untouched other strange).2
  refine ⟨?_, shut, dealt, ?_, untouched⟩
  · rintro past event later rfl d after
    refine ⟨handles_or_rests heeds event d, ?_, ?_, ?_⟩
    · intro taken takes
      obtain ⟨rfl, free⟩ := Event.accepted?_eq_some.mp takes
      have session : after.session = d.session.afterRequest taken :=
        (d.frame_requestNewSocket taken).1
      refine ⟨?_, ?_, fun any => effectsOn_requestNewSocket taken any d⟩
      · simp [session, Session.afterRequest, free]
      · simp [session, Session.afterRequest, free]
    · refine fun active is => (use past _ rfl).1.active heeds (fun taken takes => ?_) is
      obtain ⟨rfl, -⟩ := Event.accepted?_eq_some.mp takes
      exact (not_mem_takes sv start d distinct rfl).1
    · intro refused offered answer
      obtain ⟨early, late⟩ := not_mem_takes sv start after distinct offered
      have none : event.accepted? sv d = none := by
        simp [Event.accepted?, offered, answer, Except.isOk, Except.toBool]
      refine untouched refused ?_
      rw [takes_append, takes, none, Option.toList_none, List.nil_append, ← List.cons_append]
      exact fun mem => (List.mem_append.mp mem).elim early late
  · intro taken took
    rw [Finalized, dealt]
    refine settled.gone taken took ?_
    rw [sockets_shutdown sv retires]
    exact List.not_mem_nil

/-- One socket that takes over from the first, and another one that is refused. -/
theorem sockets_finalized_once_two :
    let sv := Rehearsal.coreServices {}
    let start := Rehearsal.opening sv
    let events := start.history sv [Rehearsal.just (.requestNewSocket ⟨1⟩),
      Rehearsal.just (.requestNewSocket ⟨2⟩), .tick (.world 0)]
    let dropped := ((start.replay sv events).drop sv).outside
    dropped.Finalized ⟨0⟩ ∧ dropped.Finalized ⟨1⟩ ∧ dropped.effectsOn ⟨2⟩ = [] := by
  intro sv start events dropped
  have distinct : (⟨0⟩ :: offers events).Nodup := by decide
  have inTime : OffersInTime sv events start := by decide
  have taken : takes sv events start = [⟨1⟩] := by decide
  obtain ⟨-, -, -, finalized, untouched⟩ :=
    sockets_finalized_once sv _ _ _ _ events distinct inTime Rehearsal.closed_of_close
  refine ⟨finalized ⟨0⟩ List.mem_cons_self, finalized ⟨1⟩ ?_, untouched ⟨2⟩ ?_⟩
  · exact List.mem_cons_of_mem _ (taken ▸ List.mem_singleton_self _)
  · change _ ∉ _ :: takes sv events start
    rw [taken]
    decide

end LiveSession

end GameRealm
