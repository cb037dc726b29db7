import GameRealm.Proofs.Acknowledgement

/-!
# Addons that are remembered and addons that are acknowledged

A session remembers the addons of a manifest and acknowledges them later, all at once. This
module follows both through everything a session can do, as one pair (`LiveSession.addonLog`): the
addons it still remembers, and the acknowledgements that went out on any socket.

1. `Conduct.unlisted` is the conduct of whoever acknowledges no addons, and `addonLog_of_shows`
   says that the pair stays as it is where a session keeps to it and to what it remembers;
2. `addonLog_readAddons` and `addonLog_advanceCreated` are the two that do not;
3. `addonLog_apply`: if nobody else reads manifests or acknowledges addons, only a step of the
   state machine from `created` does.
-/

namespace GameRealm

/-- The addons that an effect acknowledges, and on which socket. -/
def Effect.addonInfo? : Effect → Option (SocketId × List AddonAck)
  | send socket (.addonInfo addons _) => some (socket, addons)
  | _ => none

def Outside.addonInfos (outside : Outside W) : List (SocketId × List AddonAck) :=
  outside.record Effect.addonInfo?

namespace Outside

variable {co : Collaborators W} {outside : Outside W}

theorem addonInfos_emit {effect : Effect} (silent : effect.addonInfo? = none) :
    (outside.emit co effect).addonInfos = outside.addonInfos := by
  rw [addonInfos, record_emit, silent, Option.toList_none, List.append_nil]
  rfl

end Outside

theorem Inbox.addonInfos_stray (sv : Services W) (inbox : Inbox W) (procedure : InboxAct W Unit)
    (outside : Outside W) :
    (inbox.stray sv procedure outside).addonInfos = outside.addonInfos := by
  refine Outside.Emits.record (LiveInbox.plain_run (LiveInbox.plain_enqueueWithin sv.nesting)
    procedure ⟨inbox, outside⟩) fun effect plain => ?_
  cases effect <;> first | rfl | exact plain.elim

/-- Whether an event is an operation that reads a manifest or acknowledges addons. -/
def Event.tampers : Event W → Bool
  | perform (.readAddons _) | perform .sendAddonsInfo | perform (.send (.addonInfo ..)) => true
  | _ => false

/-! ## What acknowledges no addons -/

namespace Conduct

def unlisted : Conduct where
  tells message := ∀ socket, (Effect.send socket message).addonInfo? = none
  does _ := True

theorem addonInfo?_of_unlisted {effect : Effect} (allowed : unlisted.Allows effect) :
    effect.addonInfo? = none := by
  cases effect <;> first | rfl | exact allowed _

theorem logsOut_unlisted : unlisted.LogsOut :=
  ⟨fun _ => rfl, fun _ _ => trivial⟩

end Conduct

theorem Event.fits_unlisted {event : Event W} {s : Session} (other : event.tampers = false)
    (own : ∀ change, event ≠ .perform (.outside change)) (silent : event.greets s = false) :
    event.Fits .unlisted s := by
  cases event with
  | perform operation =>
    cases operation with
    | send message =>
      intro socket
      cases message with
      | addonInfo => cases other
      | _ => rfl
    | sendAddonsInfo => cases other
    | setExpansion level => exact ⟨trivial, fun _ => rfl⟩
    | outside change => exact absurd rfl (own change)
    | logoutPlayer | shutdown => exact Conduct.logsOut_unlisted
    | kickPlayer save inPlace => exact fun _ => Conduct.logsOut_unlisted
    | _ => simp [Event.Fits, Operation.Fits, Conduct.unlisted, Effect.addonInfo?]
  | advance time =>
    simp only [Event.Fits]
    cases now : s.state with
    | created => simp [Event.greets, now] at silent
    | charSelection | offline => exact Conduct.logsOut_unlisted
    | ready => exact ⟨Conduct.logsOut_unlisted, fun _ _ => rfl⟩
  | handled => exact ⟨trivial, trivial⟩
  | _ => trivial

theorem Event.addons_of_silent {event : Event W} {s : Session} (other : event.tampers = false)
    (silent : event.greets s = false) : event.addons s = s.addons := by
  cases event with
  | perform operation => cases operation <;> first | rfl | cases other
  | advance now => exact if_neg (of_decide_eq_false silent)
  | _ => rfl

namespace LiveSession

section
variable {sv : Services W} (d : LiveSession W)

def addonLog (d : LiveSession W) : List Addon × List (SocketId × List AddonAck) :=
  (d.session.addons, d.outside.addonInfos)

theorem Shows.addonInfos_eq {d e : LiveSession W} (shown : d.Shows sv .unlisted e) :
    e.outside.addonInfos = d.outside.addonInfos :=
  shown.emits.record fun _ => Conduct.addonInfo?_of_unlisted

theorem addonLog_of_shows {d e : LiveSession W} (shown : d.Shows sv .unlisted e)
    (kept : e.session.addons = d.session.addons) : e.addonLog = d.addonLog :=
  Prod.ext kept shown.addonInfos_eq

theorem addonLog_send {message : Message}
    (other : ∀ socket, (Effect.send socket message).addonInfo? = none) :
    (d.send sv message).addonLog = d.addonLog :=
  addonLog_of_shows (behaves_send d other).shows (congrArg Session.addons (d.frame_send _).1)

theorem addonLog_sendAuthWaitQueue (position : UInt32) :
    (d.sendAuthWaitQueue sv position).addonLog = d.addonLog := by
  unfold sendAuthWaitQueue
  split
  · exact addonLog_send d fun _ => rfl
  · exact addonLog_send d fun _ => rfl

theorem addonLog_requestNewSocket (socket : SocketId) :
    (d.requestNewSocket sv socket).2.addonLog = d.addonLog :=
  addonLog_of_shows (shows_requestNewSocket d socket)
    (Event.addons_apply sv (.perform (.requestNewSocket socket)) d)

theorem addonInfos_drop : (d.drop sv).outside.addonInfos = d.outside.addonInfos := by
  have shut : (d.shutdown sv).outside.addonInfos = d.outside.addonInfos :=
    (behaves_shutdown d Conduct.logsOut_unlisted).shows.addonInfos_eq
  unfold drop
  simp only
  split
  · exact shut
  · exact (Outside.addonInfos_emit rfl).trans shut

/-! ### Manifests -/

theorem addonLog_readAddons (env : Envelope) :
    (d.readAddons sv env).2.addonLog =
      (d.session.addons ++ AddonManifest.decoded env, d.outside.addonInfos) :=
  Prod.ext (congrArg Session.addons (d.frame_readAddons env).1)
    (behaves_readAddons d env).shows.addonInfos_eq

/-- Every remembered addon is acknowledged on the active socket if that is open, and
forgotten in any case. -/
theorem addonLog_sendAddonsInfo :
    (d.sendAddonsInfo sv).addonLog = ([], d.outside.addonInfos) ∨
      ∃ socket, d.session.socket = some socket ∧ (d.sendAddonsInfo sv).addonLog =
        ([], d.outside.addonInfos ++ [(socket, d.session.addons.map Addon.acknowledged)]) := by
  unfold sendAddonsInfo send
  simp only [frame_modify]
  split
  · exact .inl rfl
  · next socket active =>
    split
    · exact .inl rfl
    · exact .inr ⟨socket, active, congrArg (([] : List Addon), ·) (Outside.record_emit ..)⟩

/-- In `created` the state machine forgets the remembered addons. If there were any, it may
have acknowledged them, on the socket that is active afterwards. -/
theorem addonLog_advanceCreated :
    (d.advanceCreated sv).addonLog = ([], d.outside.addonInfos) ∨
      ∃ socket, d.session.pending.or d.session.socket = some socket ∧
        (d.advanceCreated sv).addonLog =
          ([], d.outside.addonInfos ++ [(socket, d.session.addons.map Addon.acknowledged)]) := by
  -- All branches end alike, whichever socket is active by then.
  have rest : ∀ e : LiveSession W, e.addonLog = d.addonLog →
      e.session.socket = d.session.pending.or d.session.socket →
      let f := (if e.session.addons.isEmpty then e else e.sendAddonsInfo sv).modify
        (·.toCharSelection sv.config)
      f.addonLog = ([], d.outside.addonInfos) ∨
        ∃ socket, d.session.pending.or d.session.socket = some socket ∧ f.addonLog =
          ([], d.outside.addonInfos ++ [(socket, d.session.addons.map Addon.acknowledged)]) := by
    intro e log active
    rw [addonLog, addonLog, Prod.mk.injEq] at log
    simp only
    split
    · next none =>
      refine .inl (Prod.ext ?_ log.2)
      exact List.isEmpty_iff.mp none
    · rw [← active, ← log.1, ← log.2]
      exact addonLog_sendAddonsInfo e
  unfold advanceCreated
  cases waits : d.session.pending with
  | some socket =>
    rw [waits] at rest
    have log : (d.activate sv socket).addonLog = d.addonLog := by
      refine addonLog_of_shows (behaves_activate d waits fun _ => rfl).shows ?_
      rw [(frame_activate _ _).1, Session.afterActivation]
      split <;> rfl
    refine rest _ log ?_
    rw [(frame_activate _ _).1]
    rfl
  | none =>
    rw [waits] at rest
    simp only
    split
    · exact rest _ (addonLog_send d fun _ => rfl) (by simp)
    · exact rest _ (addonLog_send d fun _ => rfl) (by simp)

/-! ### Whatever happens to a session -/

/-- An event that does not greet the client changes neither what is remembered nor what was
acknowledged, unless it is an operation on addons. -/
theorem addonLog_apply {event : Event W} (other : event.tampers = false)
    (silent : event.greets d.session = false) : (event.apply sv d).addonLog = d.addonLog := by
  have remembered : (event.apply sv d).session.addons = d.session.addons :=
    (event.addons_apply sv d).trans (event.addons_of_silent other silent)
  refine Prod.ext remembered ?_
  by_cases own : ∃ change, event = .perform (.outside change)
  · obtain ⟨change, rfl⟩ := own
    rfl
  · have fits := Event.fits_unlisted other (fun change same => own ⟨change, same⟩) silent
    exact (shows_apply d fits).addonInfos_eq

end

end LiveSession

end GameRealm
