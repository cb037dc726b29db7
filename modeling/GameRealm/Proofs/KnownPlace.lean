import GameRealm.Proofs.Acknowledgement
import GameRealm.Proofs.LoginQueue

/-!
# What a client knows of its place

After a world tick every client should know where it stands: the last acknowledgement
on the active socket of its session says that it is past the login queue, or names its
place. This holds of most clients and not of all. A socket that takes over is always
told that the session is past the queue, and a session that leaves `created` before the
state machine has seen it is told nothing.

1. `AckState` is what has become of the acknowledgement of a session, and
   `Registry.ackState` follows it through a history;
2. `Registry.Informed` ties it to what was sent, and `Unfolds.informed` carries that
   through a history, event by event. Sockets must not be shared for it: otherwise one
   session would speak for another;
3. `Registry.acknowledged_iff`: a client knows its place just if this state is `right`,
   and when it is not the client either takes itself to be past the queue or has heard nothing.
-/

namespace GameRealm

/-! ## What has become of the acknowledgement -/

/-- What the client on the active socket of a session has been told. -/
inductive AckState where
  /-- Nothing yet; the state machine is about to tell. -/
  | due
  /-- Nothing, and the state machine does not mean to tell any more. -/
  | missed
  /-- Its place. -/
  | right
  /-- That it is past the queue, though it waits. -/
  | wrong
  deriving DecidableEq, Repr

def AckState.ack? (place : Option UInt32) : AckState → Option (AuthVerdict × Option UInt32)
  | due | missed => none
  | right => some (ackOf place)
  | wrong => some (ackOf none)

def Event.ackState (sv : Services W) (d : LiveSession W) (told : AckState) (event : Event W) :
    AckState :=
  if event.greets d.session then
    if d.session.pending.isSome && d.session.inQueue then .wrong else .right
  else if told = .due ∧ (event.apply sv d).session.state ≠ .created then .missed
  else told

namespace RegistryEvent

def ackState (sv : Services W) (registry : Registry W) (account : AccountId) (told : AckState) :
    RegistryEvent W → AckState
  | enter newcomer _ _ => if newcomer.id = account then .due else told
  | work worked event =>
    if worked = account then
      (registry.roster.get? account).elim told fun seat =>
        event.ackState sv (seat.live registry.roster.outside) told
    else told
  | letIn admitted => if admitted = account then .right else told
  | renumber waiting position =>
    if waiting = account ∧
        (registry.roster.get? account).bind (·.session.queuePosition) ≠ some position then .right
    else told
  | _ => told

/-- The socket that an account's session takes in an event, with the account. -/
def brings (registry : Registry W) : RegistryEvent W → List (AccountId × SocketId)
  | enter account socket _ => [(account.id, socket)]
  | work account event =>
    (((registry.roster.get? account).bind fun seat => event.brings? seat.session).map
      (account, ·)).toList
  | _ => []

/-- Whether an event is an operation that acknowledges a client. -/
def acknowledges : RegistryEvent W → Bool
  | work _ event => event.acknowledges
  | _ => false

/-- Whether an event leaves closed sockets closed, as far as it is not up to the
surroundings' reactions. -/
def KeepsClosed (co : Collaborators W) : RegistryEvent W → Prop
  | work _ event => event.KeepsClosed co
  | outside change => co.KeepsClosed change
  | _ => True

/-- An event that neither acknowledges a client, nor gives a session another place, nor
opens a socket again. -/
structure Discreet (co : Collaborators W) (event : RegistryEvent W) : Prop where
  silent : event.acknowledges = false
  still : event.setsPlace = false
  final : event.KeepsClosed co

end RegistryEvent

namespace Registry

def ackState (sv : Services W) (account : AccountId) :
    List (RegistryEvent W) → Registry W → AckState → AckState
  | [], _, told => told
  | event :: events, registry, told =>
    ackState sv account events (event.apply sv registry) (event.ackState sv registry account told)

/-- The sockets that sessions take in some events, with their accounts. -/
def brought (sv : Services W) :
    List (RegistryEvent W) → Registry W → List (AccountId × SocketId)
  | [], _ => []
  | event :: events, registry =>
    event.brings registry ++ brought sv events (event.apply sv registry)

end Registry

/-! ## What one session has told its client -/

/-- The client of an account's session has been told just what the state says, and the session
has none but the account's sockets. -/
structure Session.Informed (co : Collaborators W) (owned : List (AccountId × SocketId))
    (account : AccountId) (told : AckState) (outside : Outside W) (s : Session) : Prop where
  owns : ∀ socket ∈ s.sockets, (account, socket) ∈ owned
  due : told = .due → s.state = .created
  wrong : told = .wrong → s.queuePosition ≠ none
  heard : ∀ socket, s.socket = some socket → (co.socket outside.world socket).closed = false →
    outside.lastAck? socket = told.ack? s.queuePosition

theorem Outside.AckFree.tells {co : Collaborators W} {before after : Outside W}
    (h : AckFree co before after) : Tells co none none before after :=
  ⟨before, .refl _, h⟩

/-- A socket that is open in the end has been open all along. -/
theorem Outside.Tells.wasOpen {co : Collaborators W} {before after : Outside W}
    {target : Option SocketId} {place : Option UInt32} {socket : SocketId}
    (h : Tells co target place before after)
    (final : co.ClosesForGood)
    (stillOpen : (co.socket after.world socket).closed = false) :
    (co.socket before.world socket).closed = false := by
  rw [← Bool.not_eq_true]
  exact fun closed => absurd (stillOpen.symm.trans (h.closed final closed)) Bool.noConfusion

namespace Session.Informed

variable {sv : Services W} {owned news : List (AccountId × SocketId)} {account : AccountId}
  {told : AckState} {outside after : Outside W} {s : Session}

theorem elsewhere {co : Collaborators W} {target : Option SocketId} {place : Option UInt32}
    (h : s.Informed co owned account told outside)
    (final : co.ClosesForGood)
    (tells : Outside.Tells co target place outside after)
    (foreign : ∀ socket, target = some socket → socket ∉ s.sockets) :
    s.Informed co (owned ++ news) account told after where
  owns socket mem := List.mem_append_left _ (h.owns socket mem)
  due := h.due
  wrong := h.wrong
  heard socket active stillOpen := by
    have other : target ≠ some socket := fun hit =>
      foreign socket hit (Session.mem_sockets.mpr (.inl active))
    rw [tells.lastAck?_of_ne other]
    exact h.heard socket active (tells.wasOpen final stillOpen)

/-- What acknowledges nothing leaves what has been told as it was. -/
theorem ackFree {co : Collaborators W} (h : s.Informed co owned account told outside)
    (final : co.ClosesForGood)
    (quiet : outside.AckFree co after) : s.Informed co (owned ++ news) account told after :=
  h.elsewhere final quiet.tells fun _ hit => absurd hit (Option.some_ne_none _).symm

theorem hears {co : Collaborators W} {place : Option UInt32}
    (h : s.Informed co owned account told outside)
    (final : co.ClosesForGood)
    (tells : Outside.Tells co s.socket place outside after) :
    ({ s with queuePosition := place } : Session).Informed co (owned ++ news) account .right
      after where
  owns socket mem := List.mem_append_left _ (h.owns socket mem)
  due due := by cases due
  wrong wrong := by cases wrong
  heard socket active stillOpen := by
    rw [show s.socket = some socket from active] at tells
    exact tells.lastAck?_self final stillOpen

/-- After the state machine's first step the client has heard that it is past the queue,
if a socket took over, and else its place. -/
theorem greeted {d : LiveSession W} {event : Event W}
    (h : d.session.Informed sv.collaborators owned account told d.outside)
    (final : sv.collaborators.ClosesForGood)
    (still : event.setsPlace = false) (greets : event.greets d.session = true) :
    Outside.Tells sv.collaborators (d.session.pending.or d.session.socket)
        (if d.session.pending.isSome then none else d.session.queuePosition) d.outside
        (event.apply sv d).outside ∧
      (event.apply sv d).session.Informed sv.collaborators (owned ++ news) account
        (event.ackState sv d told) (event.apply sv d).outside := by
  obtain ⟨active, pending⟩ := LiveSession.socket_apply_of_greets sv greets
  have place : (event.apply sv d).session.queuePosition = d.session.queuePosition :=
    d.place_apply still
  have tells : Outside.Tells sv.collaborators (d.session.pending.or d.session.socket)
      (if d.session.pending.isSome then none else d.session.queuePosition) d.outside
      (event.apply sv d).outside := by
    cases event with
    | advance now => exact d.tells_advance sv now (by simpa [Event.greets] using greets)
    | _ => cases greets
  have outcome : event.ackState sv d told =
      if d.session.pending.isSome && d.session.inQueue then .wrong else .right := by
    rw [Event.ackState, if_pos greets]
  refine ⟨tells, ?_, ?_, ?_, ?_⟩
  · -- The socket that waited is the active one now.
    intro socket mem
    rw [Session.mem_sockets, active, pending, Option.or_eq_some_iff] at mem
    refine List.mem_append_left _ (h.owns socket (Session.mem_sockets.mpr ?_))
    rcases mem with (waits | ⟨-, had⟩) | none
    · exact .inr waits
    · exact .inl had
    · cases none
  · intro due
    rw [outcome] at due
    split at due <;> cases due
  · intro wrong
    rw [outcome] at wrong
    split at wrong
    · next both =>
      rw [place, ← Option.isSome_iff_ne_none]
      exact (Bool.and_eq_true_iff.mp both).2
    · cases wrong
  · intro socket socket' stillOpen
    rw [← active, socket'] at tells
    rw [tells.lastAck?_self final stillOpen, outcome, place]
    -- Only a client that waits can be told wrong.
    cases waits : d.session.pending with
    | none => rfl
    | some pending =>
      cases position : d.session.queuePosition with
      | none => simp [Session.inQueue, position, AckState.ack?]
      | some position' => simp [Session.inQueue, position, AckState.ack?]

theorem unheard {d : LiveSession W} {event : Event W}
    (h : d.session.Informed sv.collaborators owned account told d.outside)
    (final : sv.collaborators.ClosesForGood)
    (still : event.setsPlace = false) (other : event.greets d.session = false)
    (ackFree : d.AckFree sv (event.apply sv d))
    (brings : ∀ socket, event.brings? d.session = some socket → (account, socket) ∈ news) :
    (event.apply sv d).session.Informed sv.collaborators (owned ++ news) account
      (event.ackState sv d told) (event.apply sv d).outside := by
  have place : (event.apply sv d).session.queuePosition = d.session.queuePosition :=
    d.place_apply still
  have outcome : event.ackState sv d told =
      if told = .due ∧ (event.apply sv d).session.state ≠ .created then .missed else told := by
    rw [Event.ackState, if_neg (Bool.eq_false_iff.mp other)]
  refine ⟨?_, ?_, ?_, ?_⟩
  · intro socket mem
    rcases LiveSession.mem_sockets_apply mem with had | takes
    · exact List.mem_append_left _ (h.owns socket had)
    · exact List.mem_append_right _ (brings socket takes)
  · intro due
    rw [outcome] at due
    split at due
    · cases due
    · next stays =>
      by_contra left
      exact stays ⟨due, left⟩
  · intro wrong
    rw [outcome] at wrong
    split at wrong
    · cases wrong
    · exact place ▸ h.wrong wrong
  · intro socket active stillOpen
    -- Only a greeting makes another socket the active one.
    have was : d.session.socket = some socket := by
      rcases LiveSession.socket_apply sv other with same | gone
      · exact same.symm.trans active
      · exact absurd (gone.symm.trans active) (Option.some_ne_none socket).symm
    rw [ackFree.lastAck?_eq, h.heard socket was (ackFree.tells.wasOpen final stillOpen), place,
      outcome]
    split
    · next missed => rw [missed.1]; rfl
    · rfl

end Session.Informed

/-! ## What all sessions have told their clients -/

namespace Registry

/-- Every client has been told just what its state says, and whatever was acknowledged went out
on a socket that was brought. -/
structure Informed (co : Collaborators W) (owned : List (AccountId × SocketId))
    (told : AccountId → AckState) (registry : Registry W) : Prop where
  sent : ∀ ack ∈ registry.roster.outside.acks, ack.1 ∈ owned.map (·.2)
  each : ∀ account seat, registry.roster.get? account = some seat →
    seat.session.Informed co owned account (told account) registry.roster.outside

theorem eq_of_owned {owned : List (AccountId × SocketId)} (once : (owned.map (·.2)).Nodup)
    {first second : AccountId} {socket : SocketId} (h : (first, socket) ∈ owned)
    (h' : (second, socket) ∈ owned) : first = second :=
  congrArg Prod.fst (List.inj_on_of_nodup_map once h h' rfl)

section
variable {sv : Services W} {registry after : Registry W}
  {owned news : List (AccountId × SocketId)} {told told' : AccountId → AckState}

theorem Informed.ackFree (h : registry.Informed sv.collaborators owned told)
    (final : sv.collaborators.ClosesForGood)
    (quiet : registry.roster.outside.AckFree sv.collaborators after.roster.outside)
    (found : ∀ account seat, after.roster.get? account = some seat →
      registry.roster.get? account = some seat) :
    after.Informed sv.collaborators (owned ++ []) told where
  sent := by
    rw [quiet.acks_eq, List.append_nil]
    exact h.sent
  each account seat there := (h.each account seat (found account seat there)).ackFree final quiet

/-- Work on one session informs its client, and no other. -/
theorem Informed.work (h : registry.Informed sv.collaborators owned told)
    (final : sv.collaborators.ClosesForGood)
    (once : (owned.map (·.2)).Nodup) (account : AccountId) {task : LiveSession W → LiveSession W}
    (others : ∀ other, other ≠ account → told' other = told other)
    (informs : ∀ seat, registry.roster.get? account = some seat →
      let d := seat.live registry.roster.outside
      ∃ target place, Outside.Tells sv.collaborators target place d.outside (task d).outside ∧
        (∀ socket, target = some socket → socket ∈ d.session.sockets) ∧
        (task d).session.Informed sv.collaborators (owned ++ news) account (told' account)
          (task d).outside) :
    (registry.work account task).Informed sv.collaborators (owned ++ news) told' := by
  unfold Registry.work
  cases absent : registry.roster.get? account with
  | none =>
    rw [Roster.change_of_absent task absent]
    refine ⟨fun ack mem => ?_, fun other seat found => ?_⟩
    · rw [List.map_append]
      exact List.mem_append_left _ (h.sent ack mem)
    · have different : other ≠ account := by
        rintro rfl
        cases absent.symm.trans found
      rw [others other different]
      exact (h.each other seat found).ackFree final (.refl _)
  | some seat =>
    obtain ⟨target, place, tells, own, informed⟩ := informs seat absent
    have mine := h.each account seat absent
    have outside := Roster.outside_change task absent
    refine ⟨fun ack mem => ?_, fun other seat' found => ?_⟩
    · simp only [outside] at mem
      rw [List.map_append]
      refine List.mem_append_left _ ?_
      rcases tells.mem_acks mem with before | hit
      · exact h.sent ack before
      · exact List.mem_map_of_mem (mine.owns _ (own _ hit))
    · simp only [outside]
      rcases Roster.get?_change_inv found with ⟨before, rfl, same, rfl⟩ | ⟨different, same⟩
      · cases absent.symm.trans same
        exact informed
      · -- What was told went to a socket of the account, so to nobody else's.
        rw [others other different]
        refine (h.each other seat' same).elsewhere final tells fun socket hit theirs => ?_
        exact different (eq_of_owned once ((h.each other seat' same).owns socket theirs)
          (mine.owns socket (own socket hit)))

theorem roster_enter (sv : Services W) (account : Account) (socket : SocketId) (now : Instant)
    (registry : Registry W) :
    ∃ place, (registry.enter sv account socket now).roster = registry.roster.add account.id
      ((LiveSession.create sv account socket now registry.roster.outside).modify fun s =>
        { s with queuePosition := place }) := by
  unfold enter
  simp only
  split
  · exact ⟨none, rfl⟩
  · exact ⟨_, rfl⟩

theorem Informed.enter (h : registry.Informed sv.collaborators owned told)
    (final : sv.collaborators.ClosesForGood)
    (account : Account) (socket : SocketId) (now : Instant)
    (once : ((owned ++ [(account.id, socket)]).map (·.2)).Nodup)
    (absent : account.id ∉ registry.roster.accounts)
    (others : ∀ other, account.id ≠ other → told' other = told other)
    (newcomer : told' account.id = .due) :
    (registry.enter sv account socket now).Informed sv.collaborators
      (owned ++ [(account.id, socket)]) told' := by
  obtain ⟨place, roster⟩ := roster_enter sv account socket now registry
  have quiet : registry.roster.outside.AckFree sv.collaborators
      (registry.enter sv account socket now).roster.outside := by
    rw [roster]
    exact Outside.ackFree_log .sessionCreated registry.roster.outside
  refine ⟨fun ack mem => ?_, fun other seat found => ?_⟩
  · rw [quiet.acks_eq] at mem
    rw [List.map_append]
    exact List.mem_append_left _ (h.sent ack mem)
  · rw [roster] at found
    rcases Roster.get?_add_inv absent found with ⟨rfl, rfl⟩ | ⟨different, before⟩
    · rw [newcomer]
      refine ⟨?_, fun _ => rfl, fun wrong => ?_, ?_⟩
      · intro active mem
        rcases Session.mem_sockets.mp mem with same | waits
        · cases same
          exact List.mem_append_right _ List.mem_cons_self
        · cases waits
      · cases wrong
      · -- Nothing was acknowledged on a socket that has just been brought.
        intro active same _
        cases same
        rw [List.map_append, List.nodup_append] at once
        change Option.map _ _ = none
        rw [Option.map_eq_none_iff, List.find?_eq_none]
        intro ack mem hit
        rw [quiet.acks_eq] at mem
        exact once.2.2 ack.1 (h.sent ack mem) socket List.mem_cons_self (beq_iff_eq.mp hit)
    · rw [others other different.symm]
      exact (h.each other seat before).ackFree final quiet

theorem place_ne_zero (tidy : registry.Tidy) (full : registry.Full) {index : Nat}
    {account : AccountId} (here : registry.queue[index]? = some account) :
    UInt32.ofNat (index + 1) ≠ 0 := by
  have bound : index + 1 < UInt32.size :=
    Nat.lt_of_le_of_lt (List.getElem?_eq_some_iff.mp here).1 (queue_length_lt tidy full)
  intro zero
  have counts : index + 1 = 0 := by
    rw [← UInt32.toNat_ofNat_of_lt' bound, zero]
    rfl
  exact Nat.succ_ne_zero index counts

/-- What happens to a session informs its client as `Event.ackState` says. -/
theorem Informed.happen (h : registry.Informed sv.collaborators owned told)
    (final : sv.collaborators.ClosesForGood) (once : (owned.map (·.2)).Nodup)
    (account : AccountId) {event : Event W}
    (discreet : RegistryEvent.Discreet sv.collaborators (.work account event)) :
    (registry.work account (event.apply sv)).Informed sv.collaborators
      (owned ++ (RegistryEvent.work account event).brings registry)
      fun other => RegistryEvent.ackState sv registry other (told other) (.work account event) := by
  refine h.work final once account (fun _ different => if_neg different.symm) ?_
  intro seat found d
  have mine : d.session.Informed _ _ _ _ d.outside := h.each account seat found
  have brings : (RegistryEvent.work account event).brings registry =
      ((event.brings? d.session).map (account, ·)).toList := by
    rw [RegistryEvent.brings, found]
    rfl
  have ackState : RegistryEvent.ackState sv registry account (told account) (.work account event) =
      event.ackState sv d (told account) := by
    rw [RegistryEvent.ackState, if_pos rfl, found]
    rfl
  rw [brings, ackState]
  -- Only the greeting tells the client something; every other event of the session is silent.
  cases greets : event.greets d.session with
  | true =>
    obtain ⟨tells, informed⟩ := mine.greeted final discreet.still greets
    refine ⟨_, _, tells, fun socket hit => Session.mem_sockets.mpr ?_, informed⟩
    exact (Option.or_eq_some_iff.mp hit).elim .inr fun had => .inl had.2
  | false =>
    have quiet : d.AckFree sv (event.apply sv d) := by
      refine LiveSession.ackFree_apply d discreet.silent discreet.final ?_
      rintro now rfl created
      simp [Event.greets, created] at greets
    refine ⟨none, none, quiet.tells, fun _ hit => absurd hit (Option.some_ne_none _).symm,
      mine.unheard final discreet.still greets quiet ?_⟩
    intro socket takes
    rw [takes]
    exact List.mem_singleton.mpr rfl

theorem Informed.welcome (h : registry.Informed sv.collaborators owned told)
    (final : sv.collaborators.ClosesForGood) (once : (owned.map (·.2)).Nodup)
    (account : AccountId) :
    (registry.work account (welcome sv)).Informed sv.collaborators (owned ++ [])
      fun other => RegistryEvent.ackState sv registry other (told other) (.letIn account) := by
  refine h.work final once account (fun _ different => if_neg different.symm) ?_
  intro seat found d
  have mine : d.session.Informed _ _ _ _ d.outside := h.each account seat found
  have tells := tells_welcome sv d
  have same : (Registry.welcome sv d).session = { d.session with queuePosition := none } :=
    (LiveSession.frame_send _ _).1
  refine ⟨_, _, tells, fun socket active => Session.mem_sockets.mpr (.inl active), ?_⟩
  rw [same, RegistryEvent.ackState, if_pos rfl]
  exact mine.hears final tells

theorem Informed.renumber (h : registry.Informed sv.collaborators owned told)
    (final : sv.collaborators.ClosesForGood) (once : (owned.map (·.2)).Nodup)
    (account : AccountId) {position : UInt32} (counted : position ≠ 0) :
    (registry.work account (renumber sv position)).Informed sv.collaborators (owned ++ [])
      fun other =>
        RegistryEvent.ackState sv registry other (told other) (.renumber account position) := by
  refine h.work final once account (fun _ different => if_neg fun hit => different hit.1.symm) ?_
  intro seat found d
  have mine : d.session.Informed _ _ _ _ d.outside := h.each account seat found
  -- A place that the client has already is not sent again.
  by_cases changed : d.session.queuePosition = some position
  · have told : RegistryEvent.ackState sv registry account (told account)
        (.renumber account position) = told account := by
      rw [RegistryEvent.ackState, found]
      exact if_neg fun hit => hit.2 changed
    have same : Registry.renumber sv position d = d := if_pos changed
    rw [told, same]
    exact ⟨none, none, (Outside.AckFree.refl _).tells,
      fun _ hit => absurd hit (Option.some_ne_none _).symm, mine.ackFree final (.refl _)⟩
  · have told : RegistryEvent.ackState sv registry account (told account)
        (.renumber account position) = .right := by
      rw [RegistryEvent.ackState, found]
      exact if_pos ⟨rfl, changed⟩
    have tells := tells_renumber sv d counted changed
    have same : (Registry.renumber sv position d).session =
        { d.session with queuePosition := some position } := by
      rw [Registry.renumber, if_neg changed]
      exact (LiveSession.frame_sendAuthWaitQueue _ _).1
    refine ⟨_, _, tells, fun socket active => Session.mem_sockets.mpr (.inl active), ?_⟩
    rw [told, same]
    exact mine.hears final tells

theorem Informed.apply {event : RegistryEvent W}
    (h : registry.Informed sv.collaborators owned told) (final : sv.collaborators.ClosesForGood)
    (tidy : registry.Tidy) (fits : event.Fits registry) (discreet : event.Discreet sv.collaborators)
    (once : ((owned ++ event.brings registry).map (·.2)).Nodup) :
    (event.apply sv registry).Informed sv.collaborators (owned ++ event.brings registry)
      fun account => event.ackState sv registry account (told account) := by
  have once' : (owned.map (·.2)).Nodup := by
    rw [List.map_append] at once
    exact once.of_append_left
  cases event with
  | enter account socket now =>
    exact h.enter final account socket now once fits.1 (fun _ different => if_neg different)
      (if_pos rfl)
  | work account event => exact h.happen final once' account discreet
  | remove account =>
    refine h.ackFree final ?_ fun _ _ found => (get?_removeSession_inv found).2
    simp only [RegistryEvent.apply, removeSession]
    split
    · exact .refl _
    · next seat _ => exact LiveSession.ackFree_drop (seat.live registry.roster.outside)
  | letIn account =>
    have worked := h.welcome final once' account
    exact ⟨worked.sent, worked.each⟩
  | renumber account position =>
    obtain ⟨full, index, here, rfl⟩ := fits
    exact h.renumber final once' account (place_ne_zero tidy full here)
  | reorder order perm =>
    refine h.ackFree final (.refl _) fun other seat found => ?_
    exact (Roster.get?_of_perm tidy.distinct (perm registry.roster.seats)).symm.trans found
  | relocate regions => exact h.ackFree final (.refl _) fun _ _ found => found
  | stray inbox procedure =>
    exact h.ackFree final (inbox.ackFree_stray sv procedure _) fun _ _ found => found
  | outside change =>
    exact h.ackFree final ((Outside.AckFree.refl _).change discreet.final) fun _ _ found => found

theorem informed_empty (maxActive : Nat) (regions : RegionPool) (world : W) :
    (empty maxActive regions { world }).Informed sv.collaborators [] fun _ => .due where
  sent _ mem := absurd mem List.not_mem_nil
  each _ _ found := absurd (Roster.mem_accounts_of_get? found) List.not_mem_nil

/-- Clients stay informed through a history. -/
theorem Unfolds.informed {events : List (RegistryEvent W)} (h : Unfolds sv events registry after)
    (final : sv.collaborators.ClosesForGood)
    (tidy : registry.Tidy) (discreet : ∀ event ∈ events, event.Discreet sv.collaborators)
    (once : ((owned ++ registry.brought sv events).map (·.2)).Nodup)
    (informed : registry.Informed sv.collaborators owned told) :
    after.Informed sv.collaborators (owned ++ registry.brought sv events)
      fun account => registry.ackState sv account events (told account) := by
  induction h generalizing owned told with
  | nil =>
    rw [brought, List.append_nil]
    exact informed
  | cons fits _ ih =>
    rw [brought, ← List.append_assoc] at once ⊢
    have once' := once
    rw [List.map_append] at once'
    exact ih (tidy_apply fits tidy) (fun e mem => discreet e (List.mem_cons_of_mem _ mem)) once
      (informed.apply final tidy fits (discreet _ List.mem_cons_self) once'.of_append_left)

/-! ## After a world tick -/

theorem run_append (first second : List (RegistryStep W)) (registry : Registry W) :
    registry.run sv (first ++ second) = (registry.run sv first).run sv second :=
  List.foldl_append

/-- What a tick gives every session that is ticked all have that had it before or are. -/
theorem everyone_tickEach {P : Session → Prop} {kind : SessionTick}
    (gives : ∀ d : LiveSession W, P (d.tick sv kind).2.session) {accounts : List AccountId}
    {roster : Roster W}
    (start : ∀ account seat, roster.get? account = some seat → account ∉ accounts →
      P seat.session) : (tickEach sv kind accounts roster).Everyone P := by
  induction accounts generalizing roster with
  | nil => exact fun account seat found => start account seat found List.not_mem_nil
  | cons first accounts ih =>
    refine ih fun account seat found out => ?_
    rcases Roster.get?_change_inv found with ⟨before, -, -, rfl⟩ | ⟨different, same⟩
    · exact gives _
    · exact start account seat same (List.not_mem_cons_of_ne_of_not_mem different out)

theorem everyone_removeSessions {P : Session → Prop} (accounts : List AccountId)
    {registry : Registry W} (h : registry.roster.Everyone P) :
    (removeSessions sv accounts registry).2.roster.Everyone P := by
  induction accounts generalizing registry with
  | nil => exact h
  | cons account accounts ih =>
    exact @ih (registry.removeSession sv account).2 fun other seat found =>
      h other seat (get?_removeSession_inv found).2

section
variable {P : Session → Prop} (keeps : ∀ s place, P s → P { s with queuePosition := place })
include keeps

theorem everyone_admitFrom (maxActive : Nat) (queue : List AccountId) {roster : Roster W}
    (h : roster.Everyone P) : (admitFrom sv maxActive queue roster).2.Everyone P := by
  induction queue generalizing roster with
  | nil => exact h
  | cons account queue ih =>
    rw [admitFrom]
    split
    · refine ih (Roster.everyone_change (fun d holds => ?_) h)
      rw [welcome, (LiveSession.frame_send _ _).1]
      exact keeps _ _ holds
    · exact h

theorem everyone_renumberFrom (index : Nat) (queue : List AccountId) {roster : Roster W}
    (h : roster.Everyone P) : (renumberFrom sv index queue roster).Everyone P := by
  induction queue generalizing index roster with
  | nil => exact h
  | cons account queue ih =>
    refine ih (index + 1) (Roster.everyone_change (fun d holds => ?_) h)
    unfold renumber
    split
    · exact holds
    · rw [(LiveSession.frame_sendAuthWaitQueue _ _).1]
      exact keeps _ _ holds

/-- After a world tick every session is as its tick has left it, up to its place. -/
theorem everyone_update (now : Instant)
    (gives : ∀ d : LiveSession W, P (d.tick sv (.world now)).2.session) (registry : Registry W) :
    (registry.update sv now).2.roster.Everyone P := by
  have ticked : (updateAll sv now registry.roster.accounts registry.roster).2.Everyone P := by
    rw [updateAll_snd]
    exact everyone_tickEach gives fun account seat found out =>
      absurd (Roster.mem_accounts_of_get? found) out
  have left : (registry.pruned sv now).2.roster.Everyone P := everyone_removeSessions _ ticked
  exact everyone_renumberFrom keeps 0 _ (everyone_admitFrom keeps _ _ left)

end

theorem ack?_eq_ackOf_iff {told : AckState} {place : Option UInt32}
    (wrong : told = .wrong → place ≠ none) :
    told.ack? place = some (ackOf place) ↔ told = .right := by
  cases told with
  | due => exact iff_of_false (Option.some_ne_none _).symm AckState.noConfusion
  | missed => exact iff_of_false (Option.some_ne_none _).symm AckState.noConfusion
  | right => exact iff_of_true rfl rfl
  | wrong =>
    refine iff_of_false (fun same => wrong rfl ?_) AckState.noConfusion
    exact (ackOf_injective (Option.some_inj.mp same)).symm

/-- What the clients of a realm know after a world tick, if nobody but the realm sends
acknowledgements or gives out places, closed sockets stay closed and no socket is brought
twice. On every active socket that is open the last acknowledgement names the place of the
session just if its state is `right`. If it is `wrong`, the client has been told that it is past
the queue while it waits; if it is `missed`, the client has been told nothing. -/
theorem acknowledged_iff (sv : Services W) (maxActive : Nat) (regions : RegionPool) (world : W)
    (steps : List (RegistryStep W)) (now : Instant)
    (final : sv.collaborators.ClosesForGood) :
    let start := empty maxActive regions { world }
    let calls := steps ++ [.update now]
    let events := start.history sv calls
    let registry := start.run sv calls
    (∀ event ∈ events, event.Discreet sv.collaborators) →
    ((start.brought sv events).map (·.2)).Nodup →
    ∀ account seat socket, registry.roster.get? account = some seat →
      seat.session.socket = some socket →
      (sv.collaborators.socket registry.roster.outside.world socket).closed = false →
      let told := start.ackState sv account events .due
      let last := registry.roster.outside.lastAck? socket
      (last = some (ackOf (registry.queuePosition? account)) ↔ told = .right) ∧
        told ≠ .due ∧
        (told = .missed → last = none) ∧
        (told = .wrong →
          last = some (.ok, none) ∧ registry.queuePosition? account ≠ none) := by
  intro start calls events registry discreet once account seat socket found active isOpen told last
  have tidy : start.Tidy := tidy_empty ..
  have full : start.Full := full_empty _ _ _
  have unfolds : Unfolds sv events start registry := unfolds_history calls tidy full
  have informed : seat.session.Informed sv.collaborators _ account told registry.roster.outside :=
    (unfolds.informed final tidy discreet once (informed_empty ..)).each account seat found
  have settled : registry.Settled := by
    refine settled_run calls tidy full (queued_empty ..) (fun _ _ found => ?_)
      fun event mem => (discreet event mem).still
    exact absurd (Roster.mem_accounts_of_get? found) List.not_mem_nil
  have place := settled.placed account seat found
  -- Every session has been ticked last, so none still owes its first acknowledgement.
  have state : seat.session.state ≠ .created := by
    have ran : registry = ((start.run sv steps).update sv now).2 :=
      run_append steps [.update now] start
    rw [ran] at found
    exact everyone_update (P := fun s => s.state ≠ .created) (fun _ _ holds => holds) now
      (fun d => LiveSession.state_advance now _) _ account seat found
  have heard : last = told.ack? (registry.queuePosition? account) :=
    place ▸ informed.heard socket active isOpen
  have wrong : told = .wrong → registry.queuePosition? account ≠ none :=
    fun mistaken => place ▸ informed.wrong mistaken
  refine ⟨heard ▸ ack?_eq_ackOf_iff wrong, fun due => state (informed.due due), ?_, ?_⟩
  · intro missed
    rw [heard, missed]
    rfl
  · intro mistaken
    refine ⟨?_, wrong mistaken⟩
    rw [heard, mistaken]
    rfl

end

end Registry

/-! ## On stage -/

/-- Whether an event is an arbitrary change of the surroundings. -/
def RegistryEvent.meddles : RegistryEvent W → Bool
  | work _ (.perform (.outside _)) | outside _ => true
  | _ => false

theorem RegistryEvent.keepsClosed_of_not_meddles {co : Collaborators W} {event : RegistryEvent W}
    (h : event.meddles = false) : event.KeepsClosed co := by
  cases event with
  | work account event =>
    cases event with
    | perform operation =>
      cases operation with
      | outside change => cases h
      | _ => trivial
    | _ => trivial
  | outside change => cases h
  | _ => trivial

theorem Rehearsal.Stage.closesForGood : Stage.collaborators.ClosesForGood := by
  intro effect stage socket closed
  cases effect with
  | close other =>
    simp only [collaborators, react, setClosed, List.getElem?_modify] at closed ⊢
    cases found : stage.sockets[socket.val]? with
    | none => rfl
    | some view =>
      rw [found] at closed
      by_cases hit : other.val = socket.val
      · simp [hit]
      · simpa [hit] using closed
  | world guid call => cases call <;> exact closed
  | _ => exact closed

namespace Registry

/-- When the first account leaves and the second gets in, the third hears that it is next. -/
theorem acknowledged_iff_moved_up :
    let calls := [Rehearsal.arrive 1 0, Rehearsal.arrive 2 1, Rehearsal.arrive 3 2, .update 0,
      .act ⟨1⟩ (Rehearsal.just .closeSocket)] ++ [.update 0]
    let registry := Rehearsal.smallRealm.run Rehearsal.bareServices calls
    registry.queuePosition? ⟨3⟩ = some 1 ∧
      registry.roster.outside.lastAck? ⟨2⟩ = some (.waitQueue, some 1) := by
  intro calls registry
  have place : registry.queuePosition? ⟨3⟩ = some 1 := by decide
  obtain ⟨seat, found, active⟩ := Option.map_eq_some_iff.mp
    (by decide : (registry.roster.get? ⟨3⟩).map (·.session.socket) = some (some ⟨2⟩))
  have events : ∀ event ∈ Rehearsal.smallRealm.history Rehearsal.bareServices calls,
      event.acknowledges = false ∧ event.setsPlace = false ∧ event.meddles = false := by
    decide
  have known := acknowledged_iff Rehearsal.bareServices _ _ _ _ 0 Rehearsal.Stage.closesForGood
    (fun event mem => ⟨(events event mem).1, (events event mem).2.1,
      RegistryEvent.keepsClosed_of_not_meddles (events event mem).2.2⟩)
    (by decide) ⟨3⟩ seat ⟨2⟩ found active (by decide)
  exact ⟨place, (known.1.mpr (by decide)).trans (congrArg (some <| ackOf ·) place)⟩

/-- A client that waits and logs in a second time is told that it is past the queue. One
that is logged out before its first tick is told nothing. -/
theorem told_past_while_waiting :
    let twice := Rehearsal.smallRealm.run Rehearsal.bareServices
      [Rehearsal.arrive 1 0, Rehearsal.arrive 2 1, .update 0, Rehearsal.arrive 2 2, .update 0]
    let early := Rehearsal.smallRealm.run Rehearsal.bareServices
      [Rehearsal.arrive 1 0, .act ⟨1⟩ (Rehearsal.just .logoutPlayer), .update 0]
    (twice.queuePosition? ⟨2⟩ = some 1 ∧
        (twice.roster.get? ⟨2⟩).map (·.session.socket) = some (some ⟨2⟩) ∧
        (Rehearsal.Stage.collaborators.socket twice.roster.outside.world ⟨2⟩).closed = false ∧
        twice.roster.outside.lastAck? ⟨2⟩ = some (.ok, none)) ∧
      (early.roster.get? ⟨1⟩).map (·.session.socket) = some (some ⟨0⟩) ∧
        (Rehearsal.Stage.collaborators.socket early.roster.outside.world ⟨0⟩).closed = false ∧
        early.roster.outside.lastAck? ⟨0⟩ = none := by
  decide

end Registry

end GameRealm
