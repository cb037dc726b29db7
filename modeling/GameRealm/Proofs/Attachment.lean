import GameRealm.Proofs.Admission
import GameRealm.Proofs.Conservation
import GameRealm.Proofs.Life

/-!
# Whom map traffic is served for

The map queue belongs to a session and not to a character: what a client has sent for
one character still waits when another one is attached. So a handler that runs on the
tick of a region may find another character than the one that was attached when its
envelope was enqueued. This module says which one it finds:

1. `Event.attached?` are the events that attach characters; `player_replay`: a session
   has the character attached last, or none;
2. `LiveSession.handler_finds_attached_last`: a region's handler finds the character attached
   last since its envelope was enqueued, and the one attached at that time if there was
   no other since; it is in the world when the envelope is admitted.
-/

namespace GameRealm

open Traffic

/-! ## Attachments -/

def Event.attached? : Event W → Option Character
  | perform (.attach character) => some character
  | _ => none

def attachments (events : List (Event W)) : List Character := events.filterMap Event.attached?

namespace Session

variable (config : SessionConfig) (s : Session)

theorem player_afterShutdown :
    (s.afterShutdown config).player = none ∨ (s.afterShutdown config).player = s.player := by
  unfold afterShutdown
  split
  · exact .inr rfl
  · cases attached : s.player with
    | none => exact .inl attached
    | some character => exact .inl rfl

theorem player_afterCreated : (s.afterCreated config).player = s.player := by
  unfold afterCreated
  cases s.pending with
  | none => rfl
  | some socket =>
    change (s.afterActivation config socket).player = s.player
    unfold afterActivation
    simp only
    split <;> rfl

theorem player_afterAdvance (socketOpen : Bool) (now : Instant) :
    (s.afterAdvance config socketOpen now).player = none ∨
      (s.afterAdvance config socketOpen now).player = s.player := by
  rcases s.afterAdvance_cases config socketOpen now with ⟨_, created⟩ | ⟨_, same | out | off⟩
  · rw [created]; exact .inr (s.player_afterCreated config)
  · rw [same]; exact .inr rfl
  · rw [out]; exact .inl rfl
  · rw [off]; exact .inr rfl

end Session

/-- An operation attaches its character, or it lets go of the one there is, or does
neither. -/
theorem Operation.player_after (config : SessionConfig) (socketOpen : Bool)
    (operation : Operation W) (s : Session) :
    (operation.after config socketOpen s).player = none ∨
      (operation.after config socketOpen s).player =
        (Event.perform operation).attached?.or s.player := by
  cases operation with
  | attach character => exact .inr rfl
  | setOnline =>
    simp only [after]
    split <;> exact .inr rfl
  | requestNewSocket socket =>
    simp only [after, Session.afterRequest]
    split <;> exact .inr rfl
  | logoutPlayer => exact .inl rfl
  | kickPlayer save inPlace =>
    cases inPlace with
    | false => exact .inr rfl
    | true => exact .inl rfl
  | shutdown => exact s.player_afterShutdown config
  | _ => exact .inr rfl

section
variable {sv : Services W}

theorem player_apply (event : Event W) (d : LiveSession W) :
    (event.apply sv d).session.player = none ∨
      (event.apply sv d).session.player = event.attached?.or d.session.player := by
  have same : (event.apply sv d).session.player =
      (event.after sv.config (d.socketOpen sv) d.session).player :=
    congrArg Life.player (event.life_apply sv d)
  rw [same]
  cases event with
  | perform operation => exact operation.player_after _ _ _
  | advance now => exact Session.player_afterAdvance _ _ _ _
  | grant queue status opcode =>
    cases queue with
    | generic =>
      simp only [Event.after]
      split <;> exact .inr rfl
    | map => exact .inr rfl
  | _ => exact .inr rfl

theorem getLast?_attachments_cons (event : Event W) (events : List (Event W)) :
    (attachments (event :: events)).getLast? =
      (attachments events).getLast?.or event.attached? := by
  unfold attachments
  rw [List.filterMap_cons]
  cases event.attached? with
  | none => simp
  | some character =>
    simp only [List.getLast?_cons]
    cases (events.filterMap Event.attached?).getLast? <;> rfl

/-- After some events a session has the character attached last, or none. -/
theorem player_replay (events : List (Event W)) (d : LiveSession W) :
    (d.replay sv events).session.player = none ∨
      (d.replay sv events).session.player =
        (attachments events).getLast?.or d.session.player := by
  induction events generalizing d with
  | nil => exact .inr rfl
  | cons event events ih =>
    rw [replay_cons, getLast?_attachments_cons]
    rcases ih (event.apply sv d) with gone | last
    · exact .inl gone
    · rw [last]
      cases (attachments events).getLast? with
      | some character => exact .inr rfl
      | none => exact player_apply event d

/-- While calls come in from the network's side the character stays. -/
theorem player_of_calls {queue : Queue} {event : Event W} {d : LiveSession W} {made : List Call}
    (traffic : event.traffic sv queue d = .calls made) :
    (event.apply sv d).session.player = d.session.player := by
  have same : (event.apply sv d).session.player =
      (event.after sv.config (d.socketOpen sv) d.session).player :=
    congrArg Life.player (event.life_apply sv d)
  rw [same]
  cases event with
  | perform operation =>
    simp only [Event.traffic] at traffic
    cases operation <;> first | rfl | contradiction
  | advance now => contradiction
  | grant queue status opcode =>
    cases queue with
    | generic =>
      simp only [Event.after]
      split <;> rfl
    | map => rfl
  | _ => rfl

theorem player_of_quiet {queue : Queue} {start : LiveSession W} {events : List (Event W)}
    {pop : Nat}
    (steps : Nat) (quiet : Quiet (start.traffic sv queue events) pop (pop + 1 + steps)) :
    (start.replay sv (events.take (pop + 1 + steps))).session.player =
      (start.replay sv (events.take (pop + 1))).session.player := by
  induction steps with
  | zero => rfl
  | succ steps ih =>
    have before := ih fun time after stop => quiet time after (by omega)
    obtain ⟨made, found⟩ := quiet (pop + 1 + steps) (by omega) (by omega)
    rw [get_traffic] at found
    obtain ⟨event, here, traffic⟩ := Option.map_eq_some_iff.mp found
    rw [← before, ← Nat.add_assoc, List.take_add_one, here, Option.toList_some, replay_append,
      replay_cons, replay_nil]
    exact player_of_calls traffic

theorem eq_pop_of_traffic {queue : Queue} {event : Event W} {d : LiveSession W} {env : Envelope}
    {granted : Bool} (traffic : event.traffic sv queue d = .pop env granted) :
    event = .pop queue env ∧ granted = decide (queue.verdict sv env d = .granted) := by
  cases event with
  | perform operation =>
    simp only [Event.traffic] at traffic
    cases calls : operation.calls? sv queue d <;> rw [calls] at traffic <;> contradiction
  | takeBacklog | invoke | leave =>
    simp only [Event.traffic] at traffic
    split at traffic <;> contradiction
  | pop served popped =>
    simp only [Event.traffic] at traffic
    split at traffic
    · next mine =>
      obtain ⟨rfl, rfl⟩ := Traffic.pop.inj traffic
      exact ⟨by rw [mine], rfl⟩
    · contradiction
  | _ => contradiction

end

namespace LiveSession

/-- In every run, amid any producers: the handler that a region's tick runs for an envelope
finds the character that was attached last since the envelope was enqueued, and the one
attached at that time if there was no other since. That character was in the world when
the envelope was admitted. -/
theorem handler_finds_attached_last (sv : Services W) (built : sv.opcodes.Built)
    (account : Account) (socket : SocketId) (birth : Instant) (outside : Outside W)
    (steps : List (SessionStep W)) (events : List (Event W)) (finished : Unit)
    (last : LiveSession W)
    (amid : (Course.ofSteps sv steps).Amid sv (create sv account socket birth outside) events
      finished last) :
    let start := create sv account socket birth outside
    let upTo (time : Nat) := start.replay sv (events.take time)
    let traffic := start.traffic sv .map events
    ∃ tickets, Reckoning traffic (Queue.map.backlog last.inbox) tickets ∧
      ∀ time env, events[time]? = some (.invoke .map env) →
        ∃ ticket ∈ tickets, ∃ taken pop, ticket.env = env ∧ ticket.fate = .popped taken pop ∧
          pop < time ∧ Quiet traffic pop time ∧ (upTo pop).playerInWorld sv = true ∧
          ∃ character, (upTo time).session.player = some character ∧
            ((attachments ((events.take time).drop ticket.arrived)).getLast?.or
              (upTo ticket.arrived).session.player) = some character := by
  intro start upTo traffic
  obtain ⟨tickets, reckoning, _⟩ := queue_accounted .map built amid
  refine ⟨tickets, reckoning, fun time env invoked => ?_⟩
  have begun : traffic[time]? = some (.invoke env) := by
    rw [get_traffic, invoked]
    rfl
  obtain ⟨pop, sooner, popped, quiet⟩ := reckoning.invoked time env begun
  obtain ⟨ticket, member, rfl, taken, fate⟩ := reckoning.served pop env true popped
  have timely := reckoning.timely ticket member
  simp only [Ticket.Timely, fate] at timely
  obtain ⟨taking, later, _⟩ := timely
  have arrived : ticket.arrived < time := by
    have := taking.later
    omega
  -- Admission has found the character in the world, and nothing has happened to it since.
  obtain ⟨event, here, spoken⟩ := Option.map_eq_some_iff.mp ((get_traffic ..).symm.trans popped)
  obtain ⟨rfl, granted⟩ := eq_pop_of_traffic spoken
  have admits := (Queue.verdict_granted_iff .map ticket.env (upTo pop)).mp
    (of_decide_eq_true granted.symm)
  obtain ⟨_, isSome, inWorld⟩ := admits
  obtain ⟨character, attached⟩ := Option.isSome_iff_exists.mp isSome
  have atPop : upTo (pop + 1) = upTo pop := by
    simp only [upTo, List.take_add_one, here, Option.toList_some, replay_append]
    rfl
  obtain ⟨between, rfl⟩ : ∃ between, time = pop + 1 + between := ⟨time - (pop + 1), by omega⟩
  have still : (upTo (pop + 1 + between)).session.player = some character := by
    rw [player_of_quiet between quiet, ← attached]
    exact congrArg (·.session.player) atPop
  have split : upTo (pop + 1 + between) = (upTo ticket.arrived).replay sv
      ((events.take (pop + 1 + between)).drop ticket.arrived) := by
    have early : (events.take (pop + 1 + between)).take ticket.arrived =
        events.take ticket.arrived := by
      rw [List.take_take, Nat.min_eq_left (by omega)]
    rw [← replay_append, ← early, List.take_append_drop]
  refine ⟨ticket, member, taken, pop, rfl, fate, sooner, quiet, inWorld, character, still, ?_⟩
  -- Of those attached since the arrival the last one counts, if there is any.
  have since := @player_replay _ sv ((events.take (pop + 1 + between)).drop ticket.arrived)
    (upTo ticket.arrived)
  rw [← split, still] at since
  exact (since.resolve_left (Option.some_ne_none character)).symm

end LiveSession

def Rehearsal.understudy : Character := ⟨1, ⟨8⟩, "Understudy"⟩

namespace LiveSession

open Rehearsal

/-- An envelope that a producer enqueues once a character is attached, before the tick. -/
theorem handler_finds_attached_last_lead :
    let sv := services {} []
    let start := opening sv
    let env := Envelope.empty ⟨0x1A⟩
    let events := ((Course.ofSteps sv [just (.attach lead), .tick (.region 0)]).woven sv
      [[], [.enqueue env]] start).1
    events[6]? = some (.invoke .map env) ∧
      ∃ arrived, ((attachments ((events.take 6).drop arrived)).getLast?.or
        (start.replay sv (events.take arrived)).session.player) = some lead := by
  intro sv start env events
  have invoked : events[6]? = some (.invoke .map env) := rfl
  have attached : (start.replay sv (events.take 6)).session.player = some lead := by
    decide +kernel
  have amid := @Course.amid_woven _ sv _
    (Course.ofSteps sv [just (.attach lead), .tick (.region 0)]) [[], [.enqueue env]] start
  obtain ⟨_, _, served⟩ :=
    handler_finds_attached_last sv (built_repertoire []) _ _ _ _ _ _ _ _ amid
  obtain ⟨ticket, _, _, _, _, _, _, _, _, character, finds, since⟩ := served 6 env invoked
  obtain rfl : lead = character := Option.some.inj (attached.symm.trans finds)
  exact ⟨invoked, ticket.arrived, since⟩

/-- A character logs out while an envelope waits that was enqueued for it, and another one
is attached: the handler of the envelope finds the other one. -/
theorem handler_finds_understudy :
    let sv := services {} []
    let start := opening sv
    let env := Envelope.empty ⟨0x1A⟩
    let events := start.history sv [just (.attach lead), just (.enqueue env),
      just .logoutPlayer, just (.attach understudy), .tick (.region 0)]
    let upTo (time : Nat) := start.replay sv (events.take time)
    (events[1]? = some (.perform (.enqueue env)) ∧ (upTo 1).session.player = some lead) ∧
      events[8]? = some (.invoke .map env) ∧ (upTo 8).session.player = some understudy :=
  ⟨⟨rfl, by decide +kernel⟩, rfl, by decide +kernel⟩

end LiveSession

end GameRealm
