import GameRealm.Proofs.Conduct
import GameRealm.Proofs.Departure
import Mathlib.Data.List.Induction

/-!
# When a character may be moved

A handler asks for relocations of its character at any time and must not see it move while it
still runs. So the relocations are delayed before a handler starts and performed once it is
done. A handler may fail meanwhile, and the character that was there when it started may be
gone, or another one may be there instead. This module says that all of this does no harm:

1. `Outside.delays` is what a character was last told about the delay, and `LiveSession.Settled`
   says that it is off for all that are not attached;
2. `LiveSession.Spares` says that nothing is done to a character in between, and `spares_replay`
   that this is so for one that is not attached until it is attached again;
3. `Turn.Bracketed` is what is to be seen around a handler, and `bracketed_of_mem_turns` that
   it is seen around every handler of every tick;
4. `underway` counts the handlers that have begun and are not done, and `leftOn_of_delays` says
   who has switched the delay on where it is on although there is none;
5. `relocations_bracketed` sums this up.
-/

namespace GameRealm

open Outside

/-! ## The delay -/

/-- What an effect tells a character about the delay of its relocations. Whoever is let go of
is not delayed any more. -/
def Effect.delay? (c : Character) : Effect → Option Bool
  | character who (.delayTeleport on) => if who = c then some on else none
  | release who => if who = c then some false else none
  | _ => none

/-- Whether the relocations of a character are delayed: what it was told last. It is attached
without a delay. -/
def Outside.delays (outside : Outside W) (c : Character) : Bool :=
  (outside.effects.findSome? (Effect.delay? c)).getD false

namespace Outside

variable {co : Collaborators W} {c : Character}

theorem delays_of_effects {before after : Outside W} {new : List Effect}
    (effects : after.effects = new ++ before.effects)
    (silent : ∀ effect ∈ new, effect.delay? c = none) : after.delays c = before.delays c := by
  have none : new.findSome? (Effect.delay? c) = none := List.findSome?_eq_none_iff.mpr silent
  rw [delays, effects, List.findSome?_append, none, Option.none_or, delays]

theorem delays_emit {outside : Outside W} {effect : Effect} (silent : effect.delay? c = none) :
    (outside.emit co effect).delays c = outside.delays c :=
  @delays_of_effects W c outside (outside.emit co effect) [effect] rfl fun _ mem =>
    List.mem_singleton.mp mem ▸ silent

/-- What switches no delay on leaves it on only where it was on before. -/
theorem Emits.delays {kind : Effect → Prop} {before after : Outside W}
    (h : Emits co kind before after) (off : ∀ effect, kind effect → effect.delay? c ≠ some true)
    (on : after.delays c = true) : before.delays c = true := by
  induction h with
  | refl => exact on
  | @emit after _ effect fits ih =>
    apply ih
    cases told : effect.delay? c with
    | none => rwa [delays_emit told] at on
    | some now =>
      have last : (after.emit co effect).delays c = now := by
        simp only [Outside.delays, Outside.emit, List.findSome?_cons, told, Option.getD_some]
      rw [on] at last
      exact absurd (last ▸ told) (off effect fits)

end Outside

namespace LiveSession

/-- Nobody but the character that is attached is delayed. -/
def Settled (d : LiveSession W) : Prop :=
  ∀ c, d.session.player ≠ some c → d.outside.delays c = false

section
variable {sv : Services W} {d e : LiveSession W} {c : Character}

theorem delays_of_release {outside : Outside W} {who : Character} {new old : List Effect}
    (effects : outside.effects = new ++ .release who :: old)
    (silent : ∀ effect ∈ new, effect.delay? c = none)
    (before : who ≠ c → (old.findSome? (Effect.delay? c)).getD false = false) :
    outside.delays c = false := by
  have none : new.findSome? (Effect.delay? c) = none := List.findSome?_eq_none_iff.mpr silent
  rw [delays, effects, List.findSome?_append, none, Option.none_or, List.findSome?_cons]
  by_cases same : who = c
  · simp [Effect.delay?, same]
  · simpa [Effect.delay?, same] using before same

theorem Settled.logout (settled : d.Settled) (c : Character) :
    (d.logoutPlayer sv).outside.delays c = false := by
  cases attached : d.session.player with
  | none =>
    rw [outside_logoutPlayer_of_none attached]
    exact settled c (by simp [attached])
  | some who =>
    obtain ⟨parting, teardown, effects, parts, clears, -⟩ := effects_logoutPlayer sv attached
    refine delays_of_release effects (fun effect mem => ?_) fun other => ?_
    · have part := parts effect mem
      cases effect <;> first | rfl | exact part.elim
    · -- What was done to the one that was logged out is no matter of anyone else.
      have silent : teardown.findSome? (Effect.delay? c) = none := by
        refine List.findSome?_eq_none_iff.mpr fun effect mem => ?_
        rcases clears effect mem with clear | rfl
        · cases effect with
          | character other deed =>
            obtain ⟨rfl, -⟩ := clear
            cases deed <;> simp [Effect.delay?, other]
          | release => exact clear.elim
          | _ => rfl
        · rfl
      rw [List.findSome?_append, silent, Option.none_or]
      exact settled c (by simpa [attached] using other)

theorem settled_emit {effect : Effect} (settled : d.Settled)
    (permitted : d.session.Permits sv.collaborators d.outside.world effect) :
    (d.emit sv effect).Settled := by
  intro c apart
  have silent : effect.delay? c = none := by
    cases effect with
    | character who deed =>
      have other : who ≠ c := fun same => apart (same ▸ permitted)
      cases deed <;> simp [Effect.delay?, other]
    | release => exact permitted.elim
    | _ => rfl
  exact (delays_emit silent).trans (settled c apart)

theorem delays_discard? (socket : Option SocketId) (d : LiveSession W) (c : Character) :
    (d.discard? sv socket).outside.delays c = d.outside.delays c := by
  cases socket with
  | none => rfl
  | some socket =>
    change (d.discard sv socket).outside.delays c = _
    unfold discard
    split
    · exact delays_emit rfl
    · exact (delays_emit rfl).trans (delays_emit rfl)

theorem settled_of_moves (moves : Moves sv d e) (settled : d.Settled) : e.Settled := by
  induction moves with
  | refl => exact settled
  | emit _ permitted ih => exact settled_emit ih permitted
  | modify _ kept ih => exact fun c apart => ih c (player_of_holding kept ▸ apart)
  | inbox _ inbox ih => exact ih
  | logout _ ih => exact fun c _ => ih.logout c
  | dropSocket _ ih =>
    intro c apart
    rw [dropSocket, delays_discard?]
    exact ih c (by simpa [dropSocket] using apart)
  | dropPending _ ih =>
    intro c apart
    rw [dropPending, delays_discard?]
    exact ih c (by simpa [dropPending] using apart)
  | takeOver _ free waits ih => exact ih

/-- Whatever happens, nobody is delayed but the character that is attached. -/
theorem settled_apply (event : Event W) (settled : d.Settled) : (event.apply sv d).Settled := by
  cases own : event.bringsIn with
  | false => exact settled_of_moves (moves_apply d own) settled
  | true =>
    cases event with
    | perform operation =>
      cases operation with
      | attach who =>
        intro c apart
        have other : who ≠ c := by
          rintro rfl
          exact apart (congrArg Session.player (d.frame_attach who).1)
        simp only [Event.apply, Operation.run, attach]
        cases attached : d.session.player with
        | none => exact settled c (by simp [attached])
        | some old =>
          apply @delays_of_release W c _ old [] d.outside.effects rfl
          · exact fun _ mem => absurd mem List.not_mem_nil
          · exact fun gone => settled c (by simpa [attached] using gone)
      | requestNewSocket socket =>
        simp only [Event.apply, Operation.run, requestNewSocket]
        split
        · exact settled
        · exact fun c apart => (delays_emit rfl).trans (settled c apart)
      | outside change => exact settled
      | _ => cases own
    | _ => cases own

theorem settled_replay (events : List (Event W)) (settled : d.Settled) :
    (d.replay sv events).Settled :=
  replay_induction (fun event _ => settled_apply event) events d settled

end

/-! ## Who is left alone -/

/-- Nothing was done to a character in between, and it is not attached afterwards. -/
structure Spares (c : Character) (before after : LiveSession W) : Prop where
  apart : after.session.player ≠ some c
  effects : ∃ new, after.outside.effects = new ++ before.outside.effects ∧
    ∀ deed, .character c deed ∉ new

section
variable {sv : Services W} {d e f : LiveSession W} {c : Character}

theorem Spares.trans (h : Spares c d e) (h' : Spares c e f) : Spares c d f := by
  obtain ⟨-, early, first, spared⟩ := h
  obtain ⟨apart, late, second, spared'⟩ := h'
  refine ⟨apart, late ++ early, ?_, ?_⟩
  · rw [second, first, List.append_assoc]
  · intro deed mem
    rcases List.mem_append.mp mem with mem | mem
    · exact spared' deed mem
    · exact spared deed mem

/-- Where no effect has happened nobody was touched. -/
theorem Spares.still (apart : e.session.player ≠ some c) (same : e.outside = d.outside) :
    Spares c d e :=
  ⟨apart, [], congrArg Outside.effects same, fun _ => List.not_mem_nil⟩

theorem Spares.emit {effect : Effect} (apart : d.session.player ≠ some c)
    (other : ∀ deed, effect ≠ .character c deed) : Spares c d (d.emit sv effect) :=
  ⟨apart, [effect], rfl, fun deed mem => other deed (List.mem_singleton.mp mem).symm⟩

theorem Spares.modify (apart : d.session.player ≠ some c) {change : Session → Session}
    (kept : (change d.session).player = d.session.player) : Spares c d (d.modify change) :=
  .still (fun same => apart (kept.symm.trans same)) rfl

theorem Spares.discard? (apart : d.session.player ≠ some c) (socket : Option SocketId) :
    Spares c d (d.discard? sv socket) := by
  cases socket with
  | none => exact .still apart rfl
  | some socket =>
    have closed : Spares c d (d.emit sv (.close socket)) := .emit apart nofun
    change Spares c d (d.discard sv socket)
    unfold discard
    split
    · exact .emit apart nofun
    · exact closed.trans (.emit apart nofun)

theorem Spares.dropSocket (apart : d.session.player ≠ some c) : Spares c d (d.dropSocket sv) := by
  have noted : Spares c d (d.modify fun s => { s with socket := none }) := .modify apart rfl
  exact noted.trans (.discard? noted.apart _)

theorem Spares.dropPending (apart : d.session.player ≠ some c) :
    Spares c d (d.dropPending sv) := by
  have noted : Spares c d (d.modify fun s => { s with pending := none }) := .modify apart rfl
  exact noted.trans (.discard? noted.apart _)

theorem Spares.logout (apart : d.session.player ≠ some c) : Spares c d (d.logoutPlayer sv) := by
  have gone : (d.logoutPlayer sv).session.player ≠ some c := by
    rw [(frame_logoutPlayer _).1]
    exact nofun
  cases attached : d.session.player with
  | none => exact .still gone (outside_logoutPlayer_of_none attached)
  | some who =>
    have other : who ≠ c := by simpa [attached] using apart
    obtain ⟨parting, teardown, effects, parts, clears, -⟩ := effects_logoutPlayer sv attached
    refine ⟨gone, parting ++ .release who :: teardown, ?_, fun deed mem => ?_⟩
    · rw [effects, List.append_assoc, List.cons_append]
    · simp only [List.mem_append, List.mem_cons, reduceCtorEq, false_or] at mem
      rcases mem with part | clear
      · exact parts _ part
      · rcases clears _ clear with ⟨same, -⟩ | saved
        · exact other same.symm
        · cases saved
          exact other rfl

theorem spares_of_moves (moves : Moves sv d e) (apart : d.session.player ≠ some c) :
    Spares c d e := by
  induction moves with
  | refl => exact .still apart rfl
  | emit _ permitted ih =>
    refine ih.trans (.emit ih.apart ?_)
    rintro deed rfl
    exact ih.apart permitted
  | modify _ kept ih => exact ih.trans (.modify ih.apart (player_of_holding kept))
  | inbox _ inbox ih => exact ih.trans (.still ih.apart rfl)
  | logout _ ih => exact ih.trans (.logout ih.apart)
  | dropSocket _ ih => exact ih.trans (.dropSocket ih.apart)
  | dropPending _ ih => exact ih.trans (.dropPending ih.apart)
  | takeOver _ free waits ih => exact ih.trans (.still ih.apart rfl)

theorem spares_apply {event : Event W} (apart : d.session.player ≠ some c)
    (other : event ≠ .perform (.attach c)) : Spares c d (event.apply sv d) := by
  cases own : event.bringsIn with
  | false => exact spares_of_moves (moves_apply d own) apart
  | true =>
    cases event with
    | perform operation =>
      cases operation with
      | attach who =>
        have joined : (d.modify (·.attach who)).session.player ≠ some c := by
          rintro ⟨⟩
          exact other rfl
        have attached : Spares c d (d.modify (·.attach who)) := .still joined rfl
        simp only [Event.apply, Operation.run, attach]
        split
        · exact attached
        · exact attached.trans (.emit joined fun _ => Effect.noConfusion)
      | requestNewSocket socket =>
        have logged : Spares c d (d.log sv .replacementPending) :=
          .emit apart fun _ => Effect.noConfusion
        simp only [Event.apply, Operation.run, requestNewSocket]
        split
        · exact .still apart rfl
        · exact logged.trans (.still apart rfl)
      | outside change => exact ⟨apart, [], rfl, fun _ => List.not_mem_nil⟩
      | _ => cases own
    | _ => cases own

/-- Nothing is done to it before it is attached again. -/
theorem spares_replay {events : List (Event W)} (apart : d.session.player ≠ some c)
    (others : .perform (.attach c) ∉ events) : Spares c d (d.replay sv events) := by
  induction events generalizing d with
  | nil => exact .still apart rfl
  | cons event events ih =>
    have first : Spares c d (event.apply sv d) :=
      spares_apply apart fun same => others (same ▸ List.mem_cons_self)
    exact first.trans (ih first.apart fun mem => others (List.mem_cons_of_mem _ mem))

end

/-! ## What is seen around a handler -/

section
variable {sv : Services W} (d : LiveSession W)

theorem trace_deed (act : Deed) :
    (d.deed sv act).outside.trace =
      d.outside.trace ++ (d.session.player.map (Effect.character · act)).toList := by
  unfold deed
  cases d.session.player with
  | none => exact (List.append_nil _).symm
  | some c => exact trace_emit

/-- What ends the delay: the one character that is attached is told, and if a relocation of it
is recorded then, that is performed. -/
def delayEnd (sv : Services W) (d : LiveSession W) : List Effect :=
  match d.session.player with
  | none => []
  | some c =>
    let off : Effect := .character c (.delayTeleport false)
    let view := sv.collaborators.character (sv.collaborators.react d.outside.world off) c
    off :: if view.delayedTeleport then [.character c .executeDelayedTeleport] else []

theorem trace_endDelay : (d.endDelay sv).outside.trace = d.outside.trace ++ d.delayEnd sv := by
  unfold endDelay delayEnd
  cases d.session.player with
  | none => exact (List.append_nil _).symm
  | some c =>
    simp only [Outside.character, LiveSession.emit, Outside.emit]
    by_cases recorded : (sv.collaborators.character (sv.collaborators.react d.outside.world
        (.character c (.delayTeleport false))) c).delayedTeleport = true
    · simp [recorded, Outside.trace]
    · simp [recorded, Outside.trace]

theorem trace_settle (handled : Handled) : ∃ notices : List Notice,
    (d.settle sv handled).outside.trace = d.outside.trace ++ notices.map .log := by
  unfold settle
  cases handled.fault with
  | some fault =>
    have posted (callback : Callback W) (e : LiveSession W) :
        (e.post callback).2.outside = e.outside := rfl
    simp only [punishFault]
    split
    · refine ⟨[.payloadFault handled.rest.opcode fault, .faultyEnvelope, .faultDisconnect], ?_⟩
      rw [posted]
      simp [Outside.trace, LiveSession.log, LiveSession.emit, Outside.emit]
    · exact ⟨[.payloadFault handled.rest.opcode fault, .faultyEnvelope], by
        simp [Outside.trace, LiveSession.log, LiveSession.emit, Outside.emit]⟩
  | none =>
    simp only
    split
    · exact ⟨[_], trace_emit⟩
    · exact ⟨[], (List.append_nil _).symm⟩

variable {d} {c : Character}

/-- The end of a handler leaves nobody delayed who is attached. -/
theorem delays_endDelay (attached : d.session.player = some c) :
    (d.endDelay sv).outside.delays c = false := by
  have off : (d.emit sv (.character c (.delayTeleport false))).outside.delays c = false := by
    simp [Outside.delays, LiveSession.emit, Outside.emit, Effect.delay?]
  simp only [endDelay, attached]
  split
  · exact (delays_emit rfl).trans off
  · exact off

theorem delays_of_logs {e : LiveSession W} {notices : List Notice}
    (trace : e.outside.trace = d.outside.trace ++ notices.map .log) :
    e.outside.delays c = d.outside.delays c := by
  have effects : e.outside.effects = (notices.map Effect.log).reverse ++ d.outside.effects := by
    rw [← List.reverse_inj, List.reverse_append, List.reverse_reverse]
    exact trace
  refine delays_of_effects effects fun effect mem => ?_
  obtain ⟨notice, -, rfl⟩ := List.mem_map.mp (List.mem_reverse.mp mem)
  rfl

end

end LiveSession

/-- What is to be seen of a turn in which a handler runs. -/
structure Turn.Bracketed (sv : Services W)
    (nested : SessionTick → LiveSession W → UpdateOutcome × LiveSession W) (turn : Turn W)
    (handler : Envelope → Act W Handled) : Prop where
  /-- Before the handler starts, the character that is attached then is told to delay its
  relocations, and nothing else is seen. -/
  opened : (turn.start.deed sv (.delayTeleport true)).outside.trace = turn.before.outside.trace ++
    (turn.before.session.player.map (Effect.character · (.delayTeleport true))).toList
  /-- When the handler has returned, the delay of the character that is attached then ends; and
  that is all before the next envelope, but for what is logged. -/
  closed :
    let ran := (handler turn.env).run sv nested (turn.start.deed sv (.delayTeleport true))
    turn.after.session.player = ran.2.session.player ∧ ∃ notices : List Notice,
      turn.after.outside.trace = ran.2.outside.trace ++ ran.2.delayEnd sv ++ notices.map .log
  /-- So the character that is attached then is not delayed any more. -/
  off : ∀ c, turn.after.session.player = some c → turn.after.outside.delays c = false

/-- Every handler that a tick runs is bracketed so. -/
theorem LiveSession.bracketed_of_mem_turns {sv : Services W}
    {nested : SessionTick → LiveSession W → UpdateOutcome × LiveSession W} {tick : SessionTick}
    {d : LiveSession W}
    {turn : Turn W} {handler : Envelope → Act W Handled} (mem : turn ∈ d.turns sv nested tick)
    (invoked : turn.invoked = some handler) : turn.Bracketed sv nested handler := by
  have proper := d.proper_turns sv nested tick turn mem
  obtain ⟨after, session⟩ := proper.ran handler invoked
  -- Admission comes before the delay, and touches neither the surroundings nor the character.
  have noted : turn.start.outside = turn.before.outside ∧
      turn.start.session.player = turn.before.session.player := by
    by_cases ends : tick.queue.Admits sv turn.env turn.before ∧ tick.queue.EndsGrace sv turn.env
    · rw [proper.graceEnds ends.1 ends.2]
      exact ⟨rfl, rfl⟩
    · rw [proper.unchanged ends]
      exact ⟨rfl, rfl⟩
  let ran := (handler turn.env).run sv nested (turn.start.deed sv (.delayTeleport true))
  obtain ⟨notices, logged⟩ : ∃ notices : List Notice, turn.after.outside.trace =
      (ran.2.endDelay sv).outside.trace ++ notices.map .log :=
    after ▸ trace_settle (ran.2.endDelay sv) ran.1
  have player : turn.after.session.player = ran.2.session.player :=
    congrArg Session.player session
  constructor
  case opened => rw [trace_deed, noted.1, noted.2]
  case closed => exact ⟨player, notices, logged.trans (by rw [trace_endDelay])⟩
  case off =>
    intro c attached
    rw [delays_of_logs logged]
    exact delays_endDelay (player.symm.trans attached)

/-! ## Handlers that are not done -/

/-- The number of handlers that have begun and are not done, one event later. -/
def Event.underway (n : Nat) : Event W → Nat
  | invoke .. => n + 1
  | handled .. => n - 1
  | _ => n

/-- The number of handlers that have begun and are not done after some events. -/
def underway (events : List (Event W)) : Nat := events.foldl Event.underway 0

/-- Every handler that begins in the course of the events is done in the course of them. -/
def EvenOut (events : List (Event W)) : Prop := ∀ n, events.foldl Event.underway n = n

section
variable {sv : Services W} {nested : SessionTick → LiveSession W → UpdateOutcome × LiveSession W}
  {inner : SessionTick → LiveSession W → List (Event W)}

theorem EvenOut.nil : EvenOut ([] : List (Event W)) := fun _ => rfl

theorem EvenOut.append {first second : List (Event W)} (h : EvenOut first)
    (h' : EvenOut second) : EvenOut (first ++ second) := by
  intro n
  rw [List.foldl_append, h n, h' n]

theorem EvenOut.cons {event : Event W} {events : List (Event W)}
    (aside : ∀ n, event.underway n = n) (h : EvenOut events) : EvenOut (event :: events) := by
  intro n
  rw [List.foldl_cons, aside n, h n]

theorem evenOut_procedure (even : ∀ kind d, EvenOut (inner kind d)) (p : Act W α)
    (d : LiveSession W) :
    EvenOut (p.events sv nested inner d) := by
  induction p generalizing d with
  | finish => exact .nil
  | perform operation next ih => exact .cons (fun _ => rfl) (ih _ _)
  | look next ih => exact ih _ d
  | post callback next ih => exact .cons (fun _ => rfl) (ih _ _)
  | tick kind next ih => exact (even kind d).append (ih _ _)

theorem evenOut_logs (notices : List Notice) :
    EvenOut (notices.map Event.log : List (Event W)) := by
  induction notices with
  | nil => exact .nil
  | cons notice notices ih => exact .cons (fun _ => rfl) ih

theorem evenOut_settle (handled : Handled) (d : LiveSession W) :
    EvenOut (d.settleEvents sv handled) := by
  unfold LiveSession.settleEvents
  cases handled.fault with
  | some fault =>
    refine .cons (fun _ => rfl) (.cons (fun _ => rfl) ?_)
    split
    · exact .cons (fun _ => rfl) (.cons (fun _ => rfl) .nil)
    · exact .nil
  | none =>
    simp only
    split
    · exact .cons (fun _ => rfl) .nil
    · exact .nil

theorem evenOut_handler (even : ∀ kind d, EvenOut (inner kind d)) (queue : Queue)
    (handler : Envelope → Act W Handled) (env : Envelope) (d : LiveSession W) :
    EvenOut (queue.handlerEvents sv nested inner handler env d) := by
  intro n
  have ran : EvenOut ((handler env).events sv nested inner (d.deed sv (.delayTeleport true))) :=
    evenOut_procedure even (handler env) _
  rw [Queue.handlerEvents, List.cons_append, List.foldl_cons, List.foldl_append]
  simp only [Event.underway, ran (n + 1), List.foldl_cons, Nat.add_sub_cancel]
  exact evenOut_settle _ _ n

theorem evenOut_turn (even : ∀ kind d, EvenOut (inner kind d)) (queue : Queue) (env : Envelope)
    (d : LiveSession W) : EvenOut (queue.turnEvents sv nested inner env d) := by
  refine .cons (fun _ => rfl) ?_
  cases queue.verdict sv env d with
  | refused notice => exact evenOut_logs _
  | granted =>
    refine .cons (fun _ => rfl) ?_
    cases (sv.opcodes.get env.opcode).handler with
    | immediate _ => exact .cons (fun _ => rfl) .nil
    | session handler => exact evenOut_handler even queue handler env _

theorem evenOut_drain (even : ∀ kind d, EvenOut (inner kind d)) (queue : Queue)
    (backlog : List Envelope) (d : LiveSession W) :
    EvenOut (queue.drainEvents sv nested inner backlog d) := by
  induction backlog generalizing d with
  | nil => exact .cons (fun _ => rfl) .nil
  | cons env rest ih =>
    unfold Queue.drainEvents
    split
    · exact (evenOut_turn even queue env d).append (ih _)
    · exact .cons (fun _ => rfl) .nil

theorem evenOut_callbacks (even : ∀ kind d, EvenOut (inner kind d))
    (callbacks : List (Callback W)) (d : LiveSession W) :
    EvenOut (LiveSession.callbackEvents sv nested inner callbacks d) := by
  induction callbacks generalizing d with
  | nil => exact .nil
  | cons callback rest ih =>
    exact .cons (fun _ => rfl) ((evenOut_procedure even callback.body d).append (ih _))

theorem evenOut_tickWith (even : ∀ kind d, EvenOut (inner kind d)) (kind : SessionTick)
    (d : LiveSession W) : EvenOut (d.tickEventsWith sv nested inner kind) := by
  have taken (queue : Queue) (d : LiveSession W) : EvenOut (queue.takeEvents sv nested inner d) :=
    .cons (fun _ => rfl) (evenOut_drain even queue _ _)
  have delivered (d : LiveSession W) : EvenOut (d.deliverEvents sv nested inner) :=
    .cons (fun _ => rfl) (evenOut_callbacks even _ _)
  cases kind with
  | world now =>
    have advanced : EvenOut [(Event.advance now : Event W)] := .cons (fun _ => rfl) .nil
    exact .cons (fun _ => rfl) (((delivered _).append (taken .generic _)).append advanced)
  | region now => exact .cons (fun _ => rfl) (taken .map _)

theorem evenOut_tickWithin (depth : Nat) (kind : SessionTick) (d : LiveSession W) :
    EvenOut (d.tickEventsWithin sv depth kind) := by
  induction depth generalizing kind d with
  | zero => exact .nil
  | succ depth ih => exact evenOut_tickWith ih kind d

/-- In every run each handler that begins ends. -/
theorem evenOut_history (steps : List (SessionStep W)) (d : LiveSession W) :
    EvenOut (d.history sv steps) := by
  induction steps generalizing d with
  | nil => exact .nil
  | cons step steps ih =>
    refine EvenOut.append ?_ (ih _)
    cases step with
    | act procedure => exact evenOut_procedure (evenOut_tickWithin _) procedure d
    | tick kind => exact evenOut_tickWith (evenOut_tickWithin _) kind d

end

/-! ## Between handlers -/

/-- Whatever does not switch a delay on. -/
def Conduct.steady : Conduct where
  tells _ := True
  does deed := deed ≠ .delayTeleport true

/-- Whether an event switches a delay on. -/
def Event.switchesOn : Event W → Bool
  | invoke .. | perform (.deed (.delayTeleport true)) => true
  | _ => false

theorem Event.fits_steady {event : Event W} (s : Session) (off : event.switchesOn = false)
    (own : ∀ change, event ≠ .perform (.outside change)) : event.Fits .steady s := by
  have out : Conduct.steady.LogsOut := by
    refine ⟨trivial, ?_⟩
    rintro deed clears rfl
    cases clears
  cases event with
  | perform operation =>
    cases operation with
    | deed act =>
      rintro rfl
      cases off
    | setExpansion level => exact ⟨Deed.noConfusion, trivial⟩
    | outside change => exact own change rfl
    | logoutPlayer => exact out
    | kickPlayer save inPlace => exact fun _ => out
    | shutdown => exact out
    | _ => simp [Event.Fits, Operation.Fits, Conduct.steady]
  | invoke => cases off
  | handled => exact ⟨by simp [Conduct.steady], Deed.noConfusion⟩
  | advance now =>
    simp only [Event.Fits]
    cases s.state with
    | created => exact ⟨fun _ _ => trivial, fun _ _ => trivial⟩
    | charSelection => exact out
    | ready => exact ⟨out, fun _ => trivial⟩
    | offline => exact out
  | _ => trivial

namespace LiveSession

section
variable {sv : Services W} {d start : LiveSession W} {c : Character}

theorem delays_of_apply {event : Event W} (off : event.switchesOn = false)
    (on : (event.apply sv d).outside.delays c = true) : d.outside.delays c = true := by
  by_cases own : ∃ change, event = .perform (.outside change)
  · obtain ⟨change, rfl⟩ := own
    exact on
  · have fits := Event.fits_steady d.session off fun change same => own ⟨change, same⟩
    refine (shows_apply d fits).emits.delays (fun effect allowed told => ?_) on
    cases effect with
    | character who deed =>
      cases deed with
      | delayTeleport on =>
        simp only [Effect.delay?, Option.ite_none_right_eq_some, Option.some.injEq] at told
        exact allowed (congrArg Deed.delayTeleport told.2)
      | _ => cases told
    | release who => simp [Effect.delay?] at told
    | _ => cases told

/-- Outside of any handler somebody has told the attached character to delay its relocations,
and since then it has been attached and no handler has begun. -/
def LeftOn (sv : Services W) (start : LiveSession W) (events : List (Event W)) (c : Character) :
    Prop :=
  ∃ early late, events = early ++ .perform (.deed (.delayTeleport true)) :: late ∧
    underway early = 0 ∧ (∀ queue env, .invoke queue env ∉ late) ∧
    (start.replay sv early).session.player = some c ∧
    ∀ front, front <+: late →
      (start.replay sv (early ++ .perform (.deed (.delayTeleport true)) :: front)).session.player =
        some c

/-- It stays left on for as long as the character stays and no handler begins. -/
theorem LeftOn.concat {events : List (Event W)} {event : Event W} (left : LeftOn sv start events c)
    (idle : ∀ queue env, event ≠ .invoke queue env)
    (stays : (start.replay sv (events ++ [event])).session.player = some c) :
    LeftOn sv start (events ++ [event]) c := by
  obtain ⟨early, late, rfl, between, quiet, attached, kept⟩ := left
  have longer : (early ++ .perform (.deed (.delayTeleport true)) :: late) ++ [event] =
      early ++ .perform (.deed (.delayTeleport true)) :: (late ++ [event]) := by
    rw [List.append_assoc, List.cons_append]
  refine ⟨early, late ++ [event], longer, between, ?_, attached, ?_⟩
  · intro queue env mem
    rcases List.mem_append.mp mem with mem | mem
    · exact quiet queue env mem
    · exact idle queue env (List.mem_singleton.mp mem).symm
  · intro front begins
    rcases List.prefix_concat_iff.mp begins with rfl | begins
    · rw [← longer]
      exact stays
    · exact kept front begins

/-- Between handlers a delay is on only where it has been left on. -/
theorem leftOn_of_delays (off : ∀ c, start.outside.delays c = false)
    (events : List (Event W)) (between : underway events = 0)
    (attached : (start.replay sv events).session.player = some c)
    (on : (start.replay sv events).outside.delays c = true) : LeftOn sv start events c := by
  -- The induction is on the last event: either it has switched the delay on or that was so before.
  induction events using List.reverseRecOn with
  | nil =>
    rw [replay_nil, off c] at on
    cases on
  | append_singleton events event ih =>
    have step : start.replay sv (events ++ [event]) = event.apply sv (start.replay sv events) :=
      replay_append events [event] start
    have counted : event.underway (underway events) = 0 := by
      rwa [underway, List.foldl_append] at between
    cases switches : event.switchesOn with
    | false =>
      rw [step] at on
      have before : (start.replay sv events).outside.delays c = true :=
        delays_of_apply switches on
      have stayed : (start.replay sv events).session.player = some c := by
        by_contra apart
        have settled : (start.replay sv events).Settled :=
          settled_replay events fun c _ => off c
        rw [settled c apart] at before
        cases before
      have idle : ∀ queue env, event ≠ .invoke queue env := by
        rintro queue env rfl
        cases switches
      have done : underway events = 0 := by
        cases event with
        | handled =>
          have ended : ((start.replay sv events).endDelay sv).outside.delays c = true := on
          rw [delays_endDelay stayed] at ended
          cases ended
        | invoke => cases switches
        | _ => exact counted
      exact (ih done stayed before).concat idle attached
    | true =>
      cases event with
      | invoke => exact absurd counted (Nat.succ_ne_zero _)
      | perform operation =>
        cases operation with
        | deed act =>
          obtain rfl : act = .delayTeleport true := by
            cases act with
            | delayTeleport now =>
              cases now
              · cases switches
              · rfl
            | _ => cases switches
          have same :
              (start.replay sv (events ++ [.perform (.deed (.delayTeleport true))])).session =
              (start.replay sv events).session := by
            rw [step]
            exact (frame_deed _ _).1
          refine ⟨events, [], rfl, counted, fun _ _ => List.not_mem_nil, ?_, fun front none => ?_⟩
          · rw [← same]
            exact attached
          · rw [List.prefix_nil.mp none]
            exact attached
        | _ => cases switches
      | _ => cases switches

end

/-- Around every handler that any tick runs, whatever it does and whether it fails, the
relocations of the character that is attached before it are delayed, and those of the one that
is attached after it are not, and one that is recorded is performed, once, before the next
envelope. In every run the handlers that begin are done in the end. Nothing is done to a
character that has been let go of until it is attached again. And whenever no handler runs
nobody is delayed, unless somebody has told the character so between two handlers. -/
theorem relocations_bracketed (sv : Services W) :
    (∀ nested tick (d : LiveSession W), ∀ turn ∈ d.turns sv nested tick, ∀ handler,
      turn.invoked = some handler → turn.Bracketed sv nested handler) ∧
    ∀ account socket birth world,
      let start := create sv account socket birth { world }
      (∀ steps, underway (start.history sv steps) = 0) ∧
      ∀ past later,
        let d := start.replay sv past
        (∀ c, d.session.player ≠ some c → .perform (.attach c) ∉ later →
          Spares c d (d.replay sv later)) ∧
        (underway past = 0 → ∀ c,
          d.outside.delays c = false ∨ d.session.player = some c ∧ LeftOn sv start past c) := by
  refine ⟨fun nested tick d turn mem handler => bracketed_of_mem_turns mem, ?_⟩
  intro account socket birth world start
  have off : ∀ c, start.outside.delays c = false := fun _ => rfl
  have even (steps : List (SessionStep W)) : EvenOut (start.history sv steps) :=
    evenOut_history steps start
  refine ⟨fun steps => even steps 0, fun past later => ⟨fun c => spares_replay, ?_⟩⟩
  intro between c
  cases on : (start.replay sv past).outside.delays c with
  | false => exact .inl rfl
  | true =>
    have attached : (start.replay sv past).session.player = some c := by
      -- Nobody but the attached character is ever delayed.
      by_contra apart
      have settled : (start.replay sv past).Settled := settled_replay past fun c _ => off c
      rw [settled c apart] at on
      cases on
    exact .inr ⟨attached, leftOn_of_delays off past between attached on⟩

/-- A handler that casts another character for a part, and then fails. -/
def recasting (env : Envelope) : Act Rehearsal.Stage Handled :=
  .perform (.attach Rehearsal.understudy) fun _ => .finish ⟨env, some (.malformed "recast")⟩

/-- The lead is attached, and the understudy comes for it: the lead is delayed and then left
alone, and the understudy performs the relocation that is recorded for it. When somebody delays
the understudy afterwards it stays delayed. -/
theorem relocations_bracketed_recasting :
    let opcode : Opcode := ⟨0x1A⟩
    let sv : Services Rehearsal.Stage :=
      { collaborators := Rehearsal.Stage.collaborators
        opcodes := ⟨[(opcode, ⟨"OP_RECAST", .loggedIn, .mapThread, .session recasting⟩)]⟩ }
    let start := Rehearsal.opening sv
    let enter (n : UInt32) (probe : Rehearsal.Probe) : SessionStep Rehearsal.Stage :=
      Rehearsal.just (.outside (Rehearsal.Stage.enter ⟨n⟩ probe))
    let steps := [enter 7 {}, enter 8 { delayedTeleport := true },
      Rehearsal.just (.attach Rehearsal.lead), Rehearsal.just (.enqueue (.empty opcode))]
    let waiting := start.run sv steps
    let events := start.history sv (steps ++ [.tick (.region 0)])
    let after := start.replay sv events
    let delayed := [.perform (.deed (.delayTeleport true))]
    (∃ turn ∈ waiting.turns sv (tickWithin sv sv.nesting) (.region 0),
      turn.after.outside.delays Rehearsal.understudy = false ∧ ∃ notices : List Notice,
      turn.after.outside.trace = turn.before.outside.trace ++
        [.character Rehearsal.lead (.delayTeleport true), .release Rehearsal.lead,
          .character Rehearsal.understudy (.delayTeleport false),
          .character Rehearsal.understudy .executeDelayedTeleport] ++ notices.map .log) ∧
      underway events = 0 ∧
      Spares Rehearsal.lead after (after.replay sv delayed) ∧
      LeftOn sv start (events ++ delayed) Rehearsal.understudy := by
  intro opcode sv start enter steps waiting events after delayed
  obtain ⟨brackets, runs⟩ := relocations_bracketed sv
  obtain ⟨even, between⟩ :=
    runs ⟨⟨1⟩, .player, 2, .enUs, ⟨[]⟩⟩ ⟨0⟩ 0 start.outside.world
  refine ⟨?_, even _, ?_, ?_⟩
  · obtain ⟨turn, mem, invoked, player, acted, comes, ended⟩ :
        ∃ turn ∈ waiting.turns sv (tickWithin sv sv.nesting) (.region 0),
          turn.invoked = some recasting ∧
          turn.before.session.player = some Rehearsal.lead ∧
          let started := turn.start.deed sv (.delayTeleport true)
          let ran := (recasting turn.env).run sv (tickWithin sv sv.nesting) started
          ran.2.outside.trace = started.outside.trace ++ [.release Rehearsal.lead] ∧
          ran.2.session.player = some Rehearsal.understudy ∧
          ran.2.delayEnd sv = [.character Rehearsal.understudy (.delayTeleport false),
            .character Rehearsal.understudy .executeDelayedTeleport] :=
      ⟨_, List.mem_cons_self, rfl, by decide, by decide, by decide, by decide⟩
    have bracketed := brackets _ _ waiting turn mem recasting invoked
    obtain ⟨kept, notices, closed⟩ := bracketed.closed
    refine ⟨turn, mem, bracketed.off _ (kept.trans comes), notices, ?_⟩
    rw [closed, ended, acted, bracketed.opened, player]
    simp
  · refine (between events delayed).1 Rehearsal.lead (by decide) ?_
    simp [delayed]
  · have idle : underway (events ++ delayed) = 0 := by decide
    have on :
        (start.replay sv (events ++ delayed)).outside.delays Rehearsal.understudy ≠ false := by
      decide
    exact (((between (events ++ delayed) []).2 idle Rehearsal.understudy).resolve_left on).2

end LiveSession

end GameRealm
