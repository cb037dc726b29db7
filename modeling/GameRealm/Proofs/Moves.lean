import GameRealm.Proofs.Life

/-!
# What a session does to what it holds

A session holds on to an active socket, a socket that waits, and a character. Most of
what it does leaves all three in place: it writes, it stores, it changes its own
fields. This module names the few ways in which anything is let go of:

1. `Outside.Emits` says that only effects of some kind have happened, `Outside.record`
   picks those that matter, and `Teardown` emits nothing but what concerns its character
   (`emits_run`);
2. `Session.Permits` is what may happen while the session holds what it holds, and
   `LiveSession.Moves` whatever is made up of that and of four operations: a logout, letting
   go of either socket, and taking over the one that waits;
3. `discard_both` and `setOffline_forget` say in what other order sockets may be let go of, so
   that a shutdown and an activation are made up of these operations as well;
4. `effects_logoutPlayer` takes a logout apart: what is done to the character, its
   release, and a few words to the client afterwards.
-/

namespace GameRealm

/-! ## Kinds of effects -/

/-- An effect that touches neither a socket nor a character. -/
def Effect.Plain : Effect → Prop
  | database .. | countOpcode _ | log _ | remark .. => True
  | _ => False

/-- An effect of taking a character out of the world, other than that it is saved. -/
def Effect.Clears (c : Character) : Effect → Prop
  | character who deed => who = c ∧ deed ≠ .save
  | world guid _ => guid = c.guid
  | effect => effect.Plain

/-- A word to the client when its character is gone, and what goes with it. -/
def Effect.Parts (active : Option SocketId) : Effect → Prop
  | send socket message => active = some socket ∧ message = .logoutComplete
  | effect => effect.Plain

namespace Outside

/-- The surroundings have changed by effects of one kind and by nothing else. -/
inductive Emits (co : Collaborators W) (kind : Effect → Prop) (before : Outside W) :
    Outside W → Prop
  | refl : Emits co kind before before
  | emit {after : Outside W} (h : Emits co kind before after) {effect : Effect}
      (fits : kind effect) : Emits co kind before (after.emit co effect)

section
variable {co : Collaborators W} {kind : Effect → Prop} {before middle after : Outside W}

theorem Emits.trans (h : Emits co kind before middle) (h' : Emits co kind middle after) :
    Emits co kind before after := by
  induction h' with
  | refl => exact h
  | emit _ fits ih => exact ih.emit fits

theorem Emits.one {effect : Effect} (fits : kind effect) (outside : Outside W) :
    Emits co kind outside (outside.emit co effect) :=
  Emits.refl.emit fits

theorem Emits.mono {kind' : Effect → Prop} (h : Emits co kind before after)
    (wider : ∀ effect, kind effect → kind' effect) : Emits co kind' before after := by
  induction h with
  | refl => exact .refl
  | emit _ fits ih => exact ih.emit (wider _ fits)

theorem Emits.effects (h : Emits co kind before after) :
    ∃ new, after.effects = new ++ before.effects ∧ ∀ effect ∈ new, kind effect := by
  induction h with
  | refl => exact ⟨[], rfl, fun _ mem => absurd mem List.not_mem_nil⟩
  | @emit after _ effect fits ih =>
    obtain ⟨new, same, all⟩ := ih
    refine ⟨effect :: new, congrArg (effect :: ·) same, fun other mem => ?_⟩
    rcases List.mem_cons.mp mem with rfl | mem
    · exact fits
    · exact all other mem

theorem trace_emit {effect : Effect} {outside : Outside W} :
    (outside.emit co effect).trace = outside.trace ++ [effect] :=
  List.reverse_cons

def record (pick : Effect → Option α) (outside : Outside W) : List α :=
  outside.trace.filterMap pick

theorem record_emit (pick : Effect → Option α) (effect : Effect) (outside : Outside W) :
    (outside.emit co effect).record pick = outside.record pick ++ (pick effect).toList := by
  rw [record, trace_emit, List.filterMap_append, record]
  cases picked : pick effect <;> simp [picked]

theorem Emits.record {pick : Effect → Option α} (h : Emits co kind before after)
    (silent : ∀ effect, kind effect → pick effect = none) :
    after.record pick = before.record pick := by
  induction h with
  | refl => rfl
  | emit _ fits ih =>
    rw [record_emit, silent _ fits, Option.toList_none, List.append_nil]
    exact ih

theorem emits_logAll (logs : ∀ notice, kind (.log notice)) (notices : List Notice)
    (outside : Outside W) : Emits co kind outside (outside.logAll co notices) := by
  induction notices generalizing outside with
  | nil => exact .refl
  | cons notice notices ih => exact (Emits.one (logs notice) outside).trans (ih _)

end

end Outside

open Outside

/-! ## The logout of a character -/

namespace Teardown

variable {co : Collaborators W} (c : Character) (o : Outside W)

theorem emits_act {deed : Deed} (other : deed ≠ .save) :
    Emits co (Effect.Clears c) o (o.act co c deed) :=
  .one ⟨rfl, other⟩ o

theorem emits_ask (call : WorldCall) : Emits co (Effect.Clears c) o (o.ask co c.guid call) :=
  .one (show Effect.Clears c (.world c.guid call) from rfl) o

theorem clears_of_plain {c : Character} {effect : Effect} (plain : effect.Plain) :
    effect.Clears c := by
  cases effect <;> first | exact plain | exact plain.elim

theorem parts_of_plain {active : Option SocketId} {effect : Effect} (plain : effect.Plain) :
    effect.Parts active := by
  cases effect <;> first | exact plain | exact plain.elim

theorem emits_resolve : Emits co (Effect.Clears c) o (resolve co c o) := by
  have within : ∀ steps o, Emits co (Effect.Clears c) o (resolveWithin co c steps o) := by
    intro steps
    induction steps with
    | zero =>
      intro o
      rw [resolveWithin]
      split
      · exact .one trivial o
      · exact .refl
    | succ steps ih =>
      intro o
      rw [resolveWithin]
      split
      · exact (emits_act c o Deed.noConfusion).trans (ih _)
      · exact .refl
  exact within _ o

theorem emits_settleDeath : Emits co (Effect.Clears c) o (settleDeath co c o) := by
  unfold settleDeath
  split
  · exact emits_act c o Deed.noConfusion
  · exact (emits_act c o Deed.noConfusion).trans (emits_act c _ Deed.noConfusion)
  · split
    · exact emits_act c o Deed.noConfusion
    · exact .refl

theorem emits_returnHome : Emits co (Effect.Clears c) o (returnHome co c o) := by
  unfold returnHome
  simp only
  split
  · exact .refl
  · exact (emits_act c o Deed.noConfusion).trans (emits_resolve c _)

theorem emits_leaveQueues : Emits co (Effect.Clears c) o (leaveQueues co c o) := by
  have each : ∀ (queues : List UInt32) (o : Outside W), Emits co (Effect.Clears c) o
      (queues.foldl (fun o queue => o.ask co c.guid (.leaveBattlegroundQueue queue)) o) := by
    intro queues
    induction queues with
    | nil => exact fun _ => .refl
    | cons queue queues ih => exact fun o => (emits_ask c o _).trans (ih _)
  exact (emits_act c o Deed.noConfusion).trans (each _ _)

theorem emits_store (db : Database) (statement : Statement) (failed : Notice) :
    Emits co Effect.Plain o (store co db statement failed o) := by
  have called : Emits co Effect.Plain o (o.call co db (.execute statement)).2 := .one trivial o
  unfold store
  split
  · next h =>
    rw [h] at called
    exact called
  · next h =>
    rw [h] at called
    exact called.emit trivial

theorem emits_tellOthers : Emits co (Effect.Clears c) o (tellOthers co c o) := by
  have friends : ∀ o : Outside W, Emits co (Effect.Clears c) o
      (if (o.character co c).social then
        (o.ask co c.guid .sendFriendOffline).ask co c.guid .removeSocial
      else o) := by
    intro o
    split
    · exact (emits_ask c o _).trans (emits_ask c _ _)
    · exact .refl
  unfold tellOthers
  cases (o.character co c).guild with
  | none => exact friends o
  | some guild => exact (emits_ask c o _).trans (friends _)

theorem emits_leaveGroup (session : Session) :
    Emits co (Effect.Clears c) o (leaveGroup co session c o) := by
  have left : ∀ o : Outside W, Emits co (Effect.Clears c) o
      (if (o.character co c).raidGroup == some false && session.socketOpen co o.world then
        o.act co c .removeFromGroup
      else o) := by
    intro o
    split
    · exact emits_act c o Deed.noConfusion
    · exact .refl
  have told : ∀ o : Outside W, Emits co (Effect.Clears c) o
      (if (o.character co c).raidGroup.isSome then o.act co c (.updateGroupOnlineStatus false)
      else o) := by
    intro o
    split
    · exact emits_act c o Deed.noConfusion
    · exact .refl
  exact (emits_act c o Deed.noConfusion).trans ((left _).trans (told _))

theorem emits_leaveWorld : Emits co (Effect.Clears c) o (leaveWorld co c o) := by
  unfold leaveWorld
  split
  · exact emits_ask c o _
  · exact (emits_act c o Deed.noConfusion).trans (emits_ask c _ _)

theorem emits_save (co : Collaborators W) (session : Session) :
    (session.saveOnLogout = false ∧ save co session c o = o) ∨
      session.saveOnLogout = true ∧
        Emits co (Effect.Clears c) (o.act co c .save) (save co session c o) := by
  unfold save
  cases session.saveOnLogout with
  | false => exact .inl ⟨rfl, rfl⟩
  | true =>
    refine .inr ⟨rfl, ?_⟩
    rw [if_pos rfl]
    split
    · exact .refl
    · exact .one trivial _

/-- Taking a character out of the world: what comes before it is saved, whether it is,
what comes afterwards, and its release. -/
theorem emits_run (co : Collaborators W) (session : Session) :
    ∃ first last : Outside W, Emits co (Effect.Clears c) o first ∧
      Emits co (Effect.Clears c) (save co session c first) last ∧
      run co session c o = last.emit co (.release c) := by
  let begun := (o.log co .characterLogout).act co c .releaseLoot
  let freed := returnHome co c ((settleDeath co c begun).act co c .notifyBattlegroundLogout)
  let told := tellOthers co c (store co .login (.accountInactive session.account)
    .realmActivityKept (leaveQueues co c freed))
  let first := (leaveGroup co session c told).act co c .removePet
  have to_begun : Emits co (Effect.Clears c) o begun :=
    (Emits.one trivial o).trans (emits_act c _ Deed.noConfusion)
  have to_freed : Emits co (Effect.Clears c) begun freed :=
    ((emits_settleDeath c _).trans (emits_act c _ Deed.noConfusion)).trans (emits_returnHome c _)
  have to_told : Emits co (Effect.Clears c) freed told :=
    ((emits_leaveQueues c _).trans ((emits_store _ _ _ _).mono fun _ => clears_of_plain)).trans
      (emits_tellOthers c _)
  have to_first : Emits co (Effect.Clears c) told first :=
    (emits_leaveGroup c _ session).trans (emits_act c _ Deed.noConfusion)
  refine ⟨first, _, ((to_begun.trans to_freed).trans to_told).trans to_first, ?_, rfl⟩
  exact (((emits_act c _ Deed.noConfusion).trans (emits_ask c _ _)).trans (emits_ask c _ _)).trans
    (emits_leaveWorld c _)

end Teardown

/-! ## Inboxes -/

namespace LiveInbox

variable {sv : Services W}

def Plain (sv : Services W) (before after : LiveInbox W) : Prop :=
  Emits sv.collaborators Effect.Plain before.outside after.outside

theorem plain_run {deeper : Envelope → LiveInbox W → LiveInbox W}
    (below : ∀ env r, Plain sv r (deeper env r)) (p : InboxAct W α) (r : LiveInbox W) :
    Plain sv r (run sv deeper p r).2 := by
  induction p generalizing r with
  | finish => exact .refl
  | look next ih => exact ih _ _ r
  | post callback next ih => exact ih _ (r.post callback).2
  | enqueue env next ih => exact (below env r).trans (ih _)
  | deleteMovementPackets next ih => exact ih { r with inbox := r.inbox.deleteMovementPackets }
  | remark speaker text next ih =>
    exact Emits.trans (Emits.one trivial r.outside) (ih (r.emit sv (.remark speaker text)))

theorem plain_receive
    {immediately : (AccountId → Envelope → InboxAct W Handled) → Envelope → LiveInbox W →
      LiveInbox W}
    (at_once : ∀ handler env r, Plain sv r (immediately handler env r)) (env : Envelope)
    (r : LiveInbox W) : Plain sv r (receive sv immediately env r) := by
  have counted : Plain sv r (r.emit sv (.countOpcode env.opcode)) := Emits.one trivial _
  unfold receive
  simp only
  split
  · exact counted.trans (at_once _ _ _)
  · exact counted
  · exact counted

theorem plain_enqueueWithin (depth : Nat) (env : Envelope) (r : LiveInbox W) :
    Plain sv r (enqueueWithin sv depth env r) := by
  induction depth generalizing env r with
  | zero => exact plain_receive (fun _ _ _ => .refl) env r
  | succ depth ih =>
    refine plain_receive (fun handler env r => ?_) env r
    exact (plain_run ih _ r).trans (emits_logAll (fun _ => trivial) _ _)

end LiveInbox

/-! ## Moves -/

namespace Session

/-- What a session holds on to. -/
def holding (s : Session) : Option Character × Option SocketId × Option SocketId :=
  (s.player, s.socket, s.pending)

/-- The effects that may happen while a session holds on to what it holds: it writes to
its active socket while that is open and may close it, it does something to its
character or asks the world about it. -/
def Permits (co : Collaborators W) (world : W) (s : Session) : Effect → Prop
  | .send socket _ => s.socket = some socket ∧ (co.socket world socket).closed = false
  | .close socket => s.socket = some socket
  | .character c _ => s.player = some c
  | .world guid _ => ∃ c, s.player = some c ∧ guid = c.guid
  | .finalize _ | .release _ => False
  | _ => True

theorem permits_of_plain {co : Collaborators W} {world : W} {s : Session} {effect : Effect}
    (plain : effect.Plain) : s.Permits co world effect := by
  cases effect <;> trivial

end Session

namespace LiveSession

def dropPending (sv : Services W) (d : LiveSession W) : LiveSession W :=
  let socket := d.session.pending
  (d.modify fun s => { s with pending := none }).discard? sv socket

/-- Puts the socket that waits into the place of the active one. -/
def takeOver (d : LiveSession W) : LiveSession W :=
  d.modify fun s => { s with socket := s.pending, pending := none }

/-- What a session may become without anything new being brought in. -/
inductive Moves (sv : Services W) (start : LiveSession W) : LiveSession W → Prop
  | refl : Moves sv start start
  | emit {d : LiveSession W} (h : Moves sv start d) {effect : Effect}
      (permitted : d.session.Permits sv.collaborators d.outside.world effect) :
      Moves sv start (d.emit sv effect)
  /-- The session changes, but for what it holds. -/
  | modify {d : LiveSession W} (h : Moves sv start d) {change : Session → Session}
      (kept : (change d.session).holding = d.session.holding) : Moves sv start (d.modify change)
  /-- The inbox changes. -/
  | inbox {d : LiveSession W} (h : Moves sv start d) (inbox : Inbox W) :
      Moves sv start { d with inbox }
  | logout {d : LiveSession W} (h : Moves sv start d) : Moves sv start (d.logoutPlayer sv)
  | dropSocket {d : LiveSession W} (h : Moves sv start d) : Moves sv start (d.dropSocket sv)
  | dropPending {d : LiveSession W} (h : Moves sv start d) : Moves sv start (d.dropPending sv)
  /-- A socket takes over once there is no active one. -/
  | takeOver {d : LiveSession W} (h : Moves sv start d) (free : d.session.socket = none)
      (waits : d.session.pending.isSome) : Moves sv start d.takeOver

variable {sv : Services W} (d : LiveSession W)

theorem Moves.trans {d e f : LiveSession W} (h : Moves sv d e) (h' : Moves sv e f) :
    Moves sv d f := by
  induction h' with
  | refl => exact h
  | emit _ permitted ih => exact ih.emit permitted
  | modify _ kept ih => exact ih.modify kept
  | inbox _ inbox ih => exact ih.inbox inbox
  | logout _ ih => exact ih.logout
  | dropSocket _ ih => exact ih.dropSocket
  | dropPending _ ih => exact ih.dropPending
  | takeOver _ free waits ih => exact ih.takeOver free waits

theorem moves_plain {outside : Outside W}
    (plain : Emits sv.collaborators Effect.Plain d.outside outside) :
    Moves sv d { d with outside } := by
  induction plain with
  | refl => exact .refl
  | emit _ fits ih => exact ih.emit (Session.permits_of_plain fits)

theorem discard?_modify (socket : Option SocketId) (change : Session → Session) :
    (d.modify change).discard? sv socket = (d.discard? sv socket).modify change := by
  cases socket with
  | none => rfl
  | some socket =>
    change (d.modify change).discard sv socket = (d.discard sv socket).modify change
    unfold discard
    have same : (d.modify change).isClosed sv socket = d.isClosed sv socket := rfl
    rw [same]
    split <;> rfl

/-- A session that lets go of both sockets might as well let go of one after the other. -/
theorem discard_both (d : LiveSession W) :
    ((d.modify fun s => { s with socket := none, pending := none }).discard? sv
        d.session.socket).discard? sv d.session.pending = (d.dropSocket sv).dropPending sv := by
  have waits : (d.dropSocket sv).session.pending = d.session.pending := by
    simp [dropSocket]
  simp only [dropPending, waits]
  rw [dropSocket, ← discard?_modify]
  rfl

/-- That a socket does not wait any more may be noted before the active one is dropped or
afterwards. -/
theorem setOffline_forget (d : LiveSession W) :
    (d.modify fun s => { s with pending := none }).setOffline sv =
      (d.setOffline sv).modify fun s => { s with pending := none } := by
  have abandoned : (d.modify fun s => { s with pending := none }).abandonPlayer sv =
      (d.abandonPlayer sv).modify fun s => { s with pending := none } := by
    unfold abandonPlayer
    cases attached : d.session.player with
    | none => simp only [frame_modify, attached]
    | some c =>
      simp only [frame_modify, attached]
      rfl
  have dropped : ∀ e : LiveSession W, (e.modify fun s => { s with pending := none }).dropSocket sv =
      (e.dropSocket sv).modify fun s => { s with pending := none } := by
    intro e
    simp only [dropSocket, discard?_modify]
    rfl
  rw [setOffline, abandoned, dropped]
  rfl

/-! ## A logout, taken apart -/

theorem outside_logoutPlayer_of_none {d : LiveSession W} (alone : d.session.player = none) :
    (d.logoutPlayer sv).outside = d.outside := by
  simp only [logoutPlayer, alone]
  rfl

/-- A logout: what is done to the character before it is saved, whether it is, what is
done afterwards, its release, and a word to the client. -/
theorem emits_logoutCharacter (sv : Services W) (d : LiveSession W) (c : Character) :
    ∃ first last : Outside W, Emits sv.collaborators (Effect.Clears c) d.outside first ∧
      Emits sv.collaborators (Effect.Clears c) (Teardown.save sv.collaborators d.session c first)
        last ∧
      Emits sv.collaborators (Effect.Parts d.session.socket)
        (last.emit sv.collaborators (.release c)) (d.logoutCharacter sv c).outside := by
  let gone : LiveSession W :=
    ({ d with
      outside := Teardown.resolve sv.collaborators c d.outside } : LiveSession W).modify fun s =>
      { s with loggingOut := true, player := none }
  obtain ⟨first, last, cleared, saved, ran⟩ :=
    Teardown.emits_run c gone.outside sv.collaborators gone.session
  refine ⟨first, last, (Teardown.emits_resolve c d.outside).trans cleared, saved, ?_⟩
  let torn : LiveSession W :=
    { gone with outside := Teardown.run sv.collaborators gone.session c gone.outside }
  have told : Emits sv.collaborators (Effect.Parts d.session.socket) torn.outside
      ((torn.send sv .logoutComplete).log sv .logoutCompleteSent).outside := by
    refine Emits.emit ?_ trivial
    unfold send
    split
    · exact .refl
    · next socket active =>
      split
      · exact .refl
      · exact .one ⟨active, rfl⟩ _
  rw [← ran]
  exact told.trans ((Teardown.emits_store _ _ _ _).mono fun _ => Teardown.parts_of_plain)

/-- The effects of a logout, the last one first: a word to the client, the release of the
character, and what was done to it before. Among that is that it was saved, exactly if
the session was not told otherwise. -/
theorem effects_logoutPlayer (sv : Services W) {d : LiveSession W} {c : Character}
    (attached : d.session.player = some c) :
    ∃ parting teardown, (d.logoutPlayer sv).outside.effects =
        parting ++ .release c :: (teardown ++ d.outside.effects) ∧
      (∀ effect ∈ parting, effect.Parts d.session.socket) ∧
      (∀ effect ∈ teardown, effect.Clears c ∨ effect = .character c .save) ∧
      (.character c .save ∈ teardown ↔ d.session.saveOnLogout = true) := by
  obtain ⟨first, last, early, late, told⟩ := emits_logoutCharacter sv d c
  obtain ⟨parting, parted, parts⟩ := told.effects
  obtain ⟨before, cleared, clears⟩ := early.effects
  obtain ⟨rest, saved, clears'⟩ := late.effects
  have unsaved : ∀ {effects : List Effect}, (∀ effect ∈ effects, effect.Clears c) →
      Effect.character c .save ∉ effects := fun clears mem => (clears _ mem).2 rfl
  have out : (d.logoutPlayer sv).outside = (d.logoutCharacter sv c).outside := by
    simp only [logoutPlayer, attached]
    rfl
  rw [out, parted]
  have released : (last.emit sv.collaborators (.release c)).effects = .release c :: last.effects :=
    rfl
  rw [released, saved]
  rcases Teardown.emits_save c first sv.collaborators d.session with
    ⟨flag, same⟩ | ⟨flag, wrote⟩
  · rw [same, cleared, ← List.append_assoc, flag]
    refine ⟨parting, rest ++ before, rfl, parts, ?_, ?_⟩
    · intro effect mem
      rcases List.mem_append.mp mem with mem | mem
      · exact .inl (clears' effect mem)
      · exact .inl (clears effect mem)
    · refine iff_of_false (fun mem => ?_) Bool.false_ne_true
      rcases List.mem_append.mp mem with mem | mem
      · exact unsaved clears' mem
      · exact unsaved clears mem
  · obtain ⟨notes, noted, plain⟩ := wrote.effects
    have whole : rest ++ (Teardown.save sv.collaborators d.session c first).effects =
        (rest ++ notes ++ .character c .save :: before) ++ d.outside.effects := by
      rw [noted]
      change rest ++ (notes ++ Effect.character c .save :: first.effects) = _
      rw [cleared]
      simp
    rw [whole, flag]
    refine ⟨parting, _, rfl, parts, ?_, iff_of_true ?_ rfl⟩
    · intro effect mem
      simp only [List.mem_append, List.mem_cons] at mem
      rcases mem with (mem | mem) | rfl | mem
      · exact .inl (clears' effect mem)
      · exact .inl (plain effect mem)
      · exact .inr rfl
      · exact .inl (clears effect mem)
    · exact List.mem_append_right _ List.mem_cons_self

end LiveSession

end GameRealm
