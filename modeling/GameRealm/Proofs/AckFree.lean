import GameRealm.Proofs.Conduct
import GameRealm.Proofs.RegistryHistory

/-!
# What acknowledges nothing

A client learns where it stands from acknowledgements (`Message.authResponse`), and
few functions send one. All others may do a lot to the surroundings, but no
acknowledgement is among it, and no socket that is closed opens again if the
surroundings see to that.

1. `Outside.AckFree` says so of a change of the surroundings;
2. `Conduct.ackFree` is the conduct of whoever acknowledges nothing, and
   `LiveSession.Shows.ackFree` says that what keeps to it changes the surroundings so;
3. `LiveSession.ackFree_apply`: only four operations and a step of the state machine from
   `created` do not keep to it.
-/

namespace GameRealm

/-- Whether an effect is an acknowledgement, on which socket, and what it says. -/
def Effect.ack? : Effect → Option (SocketId × AuthVerdict × Option UInt32)
  | send socket (.authResponse verdict position) => some (socket, verdict, position)
  | _ => none

/-- Whether a change of the surroundings leaves closed sockets closed. The socket of a
login that is yet to come is not closed. -/
def Collaborators.KeepsClosed (co : Collaborators W) (change : W → W) : Prop :=
  ∀ world socket, (co.socket world socket).closed = true →
    (co.socket (change world) socket).closed = true

/-- Whether a socket that is closed stays closed whatever is done to it. -/
def Collaborators.ClosesForGood (co : Collaborators W) : Prop :=
  ∀ effect, co.KeepsClosed (co.react · effect)

namespace Outside

def acks (outside : Outside W) : List (SocketId × AuthVerdict × Option UInt32) :=
  outside.effects.filterMap Effect.ack?

/-- The surroundings have changed without an acknowledgement and without a socket that
opens again. -/
inductive AckFree (co : Collaborators W) : Outside W → Outside W → Prop
  | refl (before : Outside W) : AckFree co before before
  | emit {before after : Outside W} (h : AckFree co before after) {effect : Effect}
      (silent : effect.ack? = none) : AckFree co before (after.emit co effect)
  | change {before after : Outside W} (h : AckFree co before after) {change : W → W}
      (keeps : co.KeepsClosed change) :
      AckFree co before { after with world := change after.world }

section
variable {co : Collaborators W} {before middle after : Outside W}

theorem AckFree.trans (h : AckFree co before middle) (h' : AckFree co middle after) :
    AckFree co before after := by
  induction h' with
  | refl => exact h
  | emit _ silent ih => exact ih.emit silent
  | change _ keeps ih => exact ih.change keeps

theorem AckFree.acks_eq (h : AckFree co before after) : after.acks = before.acks := by
  induction h with
  | refl => rfl
  | @emit after _ effect silent ih =>
    rw [← ih]
    exact List.filterMap_cons_none silent
  | change _ _ ih => exact ih

theorem AckFree.closed (h : AckFree co before after)
    (final : co.ClosesForGood) {socket : SocketId}
    (closed : (co.socket before.world socket).closed = true) :
    (co.socket after.world socket).closed = true := by
  induction h with
  | refl => exact closed
  | emit _ _ ih => exact final _ _ _ ih
  | change _ keeps ih => exact keeps _ _ ih

/-- What shows nothing but effects that acknowledge nothing. -/
theorem AckFree.of_emits {kind : Effect → Prop} (h : Emits co kind before after)
    (silent : ∀ effect, kind effect → effect.ack? = none) : AckFree co before after := by
  induction h with
  | refl => exact .refl before
  | emit _ fits ih => exact ih.emit (silent _ fits)

theorem ackFree_log (notice : Notice) (outside : Outside W) :
    AckFree co outside (outside.log co notice) :=
  (AckFree.refl outside).emit rfl

end

end Outside

open Outside

theorem Inbox.ackFree_stray (sv : Services W) (inbox : Inbox W) (procedure : InboxAct W Unit)
    (outside : Outside W) :
    AckFree sv.collaborators outside (inbox.stray sv procedure outside) := by
  refine .of_emits (LiveInbox.plain_run (LiveInbox.plain_enqueueWithin sv.nesting) procedure
    ⟨inbox, outside⟩) fun effect plain => ?_
  cases effect <;> first | rfl | exact plain.elim

/-! ## What acknowledges nobody -/

namespace Conduct

def ackFree : Conduct where
  tells message := ∀ socket, (Effect.send socket message).ack? = none
  does _ := True

theorem ack?_of_ackFree {effect : Effect} (allowed : ackFree.Allows effect) :
    effect.ack? = none := by
  cases effect <;> first | rfl | exact allowed _

theorem logsOut_ackFree : ackFree.LogsOut :=
  ⟨fun _ => rfl, fun _ _ => trivial⟩

end Conduct

def Event.acknowledges : Event W → Bool
  | perform (.send (.authResponse ..)) | perform .sendAuthQueued
  | perform (.sendAuthWaitQueue _) | perform (.setExpansion _) => true
  | _ => false

/-- Whether an event leaves closed sockets closed, as far as it is not up to the
surroundings' reactions. -/
def Event.KeepsClosed (co : Collaborators W) : Event W → Prop
  | perform (.outside change) => co.KeepsClosed change
  | _ => True

theorem Event.fits_ackFree {event : Event W} {s : Session} (other : event.acknowledges = false)
    (own : ∀ change, event ≠ .perform (.outside change))
    (state : ∀ now, event = .advance now → s.state ≠ .created) : event.Fits .ackFree s := by
  cases event with
  | perform operation =>
    cases operation with
    | send message =>
      intro socket
      cases message with
      | authResponse => cases other
      | _ => rfl
    | setExpansion | sendAuthQueued | sendAuthWaitQueue => cases other
    | outside change => exact absurd rfl (own change)
    | logoutPlayer | shutdown => exact Conduct.logsOut_ackFree
    | kickPlayer save inPlace => exact fun _ => Conduct.logsOut_ackFree
    | _ => simp [Event.Fits, Operation.Fits, Conduct.ackFree, Effect.ack?]
  | advance time =>
    have past := state time rfl
    simp only [Event.Fits]
    cases now : s.state with
    | created => exact absurd now past
    | charSelection | offline => exact Conduct.logsOut_ackFree
    | ready => exact ⟨Conduct.logsOut_ackFree, fun _ _ => rfl⟩
  | handled => exact ⟨trivial, trivial⟩
  | _ => trivial

namespace LiveSession

def AckFree (sv : Services W) (before after : LiveSession W) : Prop :=
  Outside.AckFree sv.collaborators before.outside after.outside

section
variable {sv : Services W} (d : LiveSession W)

/-- What keeps to this conduct acknowledges nobody. -/
theorem Shows.ackFree {d e : LiveSession W} (shown : d.Shows sv .ackFree e) : d.AckFree sv e :=
  .of_emits shown.emits fun _ => Conduct.ack?_of_ackFree

theorem ackFree_drop : Outside.AckFree sv.collaborators d.outside (d.drop sv).outside := by
  have shut : d.AckFree sv (d.shutdown sv) :=
    (behaves_shutdown d Conduct.logsOut_ackFree).shows.ackFree
  unfold drop
  simp only
  split
  · exact shut
  · exact Outside.AckFree.emit shut rfl

/-- An event that does not acknowledge the client acknowledges nobody. -/
theorem ackFree_apply {event : Event W} (d : LiveSession W) (other : event.acknowledges = false)
    (keeps : event.KeepsClosed sv.collaborators)
    (state : ∀ now, event = .advance now → d.session.state ≠ .created) :
    d.AckFree sv (event.apply sv d) := by
  by_cases own : ∃ change, event = .perform (.outside change)
  · obtain ⟨change, rfl⟩ := own
    exact (Outside.AckFree.refl _).change keeps
  · have fits := Event.fits_ackFree other (fun change same => own ⟨change, same⟩) state
    exact (shows_apply d fits).ackFree

end

end LiveSession

end GameRealm
