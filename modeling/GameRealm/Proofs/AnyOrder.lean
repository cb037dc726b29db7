import GameRealm.Proofs.Alike
import GameRealm.Proofs.CoreTable
import GameRealm.Proofs.Lifecycle

/-!
# The world tick in any order

The registry visits its sessions in the order of its table, which means nothing. Where
every account keeps to itself, the order makes no difference:

1. `Apart.Same` are two rosters that are the same to every account. After a round of
   ticks in two orders they still are, and the same sessions are finished
   (`Same.updateAll`);
2. `Apart.SameRealm` are two registries that are the same to every account and have the
   same queue. Every part of a world tick keeps this, in whatever order sessions are
   visited (`SameRealm.remove`, `SameRealm.admitQueued`, `SameRealm.rehome`), and so does
   the whole of it (`SameRealm.update`);
3. `update_any_order`: two world ticks that runs the sessions in different orders leave
   the same sessions, queue and placements, remove as many sessions, and send the same
   messages on every socket;
4. the session's own handlers keep to it (`confines_core`), and so does a stage on which
   every socket and every character has an owner (`Stage.separates`).
-/

namespace GameRealm

namespace Apart

variable {sv : Services W} (apart : Apart sv)

/-! ## The ticks of all sessions -/

theorem keeps_update (now : Instant) (account : AccountId) :
    apart.Keeps account fun d => (d.update sv now).2 :=
  fun _ _ _ _ h => (h.update now).twin

end Apart

def Roster.ends (sv : Services W) (now : Instant) (roster : Roster W) (account : AccountId) :
    Bool :=
  decide ((roster.work account (·.update sv now)).1 = some .remove)

namespace Apart

variable {sv : Services W} (apart : Apart sv) {roster roster' : Roster W} {account : AccountId}

theorem ends_congr (now : Instant) (parted : roster.Parted apart.part)
    (parted' : roster'.Parted apart.part) (alike : roster.Alike apart.part account roster') :
    roster'.ends sv now account = roster.ends sv now account := by
  have outcome : (roster'.work account (·.update sv now)).1 =
      (roster.work account (·.update sv now)).1 := by
    unfold Roster.work
    rw [alike.seat]
    cases found : roster.get? account with
    | none => rfl
    | some seat =>
      exact congrArg some ((apart.twin_live parted parted' alike found).update now).answer
  exact congrArg (fun outcome => decide (outcome = some .remove)) outcome

/-- Who is finished after a round of ticks would be finished after a tick alone. -/
theorem finished_eq (now : Instant) {accounts : List AccountId} (once : accounts.Nodup)
    (parted : roster.Parted apart.part) :
    (Registry.updateAll sv now accounts roster).1 = accounts.filter (roster.ends sv now) := by
  induction accounts generalizing roster with
  | nil => rfl
  | cons account rest ih =>
    obtain ⟨out, once⟩ := List.nodup_cons.mp once
    have keeps := apart.keeps_update now account
    have parted' := apart.parted_change keeps parted
    have later := ih once parted'
    -- The tick before them does not change how the others end.
    have unmoved : rest.filter ((roster.change account fun d => (d.update sv now).2).ends sv now) =
        rest.filter (roster.ends sv now) :=
      List.filter_congr fun other mem =>
        apart.ends_congr now parted parted'
          (apart.alike_change_of_ne keeps parted fun same => out (same ▸ mem))
    rw [Registry.updateAll]
    dsimp only
    rw [Roster.work_snd, later, unmoved, List.filter_cons]
    simp only [Roster.ends, decide_eq_true_eq]

/-! ## Two rosters in all -/

/-- Two rosters that are the same to every account. -/
structure Same (roster roster' : Roster W) : Prop where
  accounts : roster'.accounts.Perm roster.accounts
  alike : ∀ account, roster.Alike apart.part account roster'
  parted : roster.Parted apart.part
  parted' : roster'.Parted apart.part

variable {apart}

theorem Same.change (same : apart.Same roster roster') {task : LiveSession W → LiveSession W}
    (keeps : apart.Keeps account task) :
    apart.Same (roster.change account task) (roster'.change account task) where
  accounts := by
    rw [Roster.accounts_change, Roster.accounts_change]
    exact same.accounts
  parted := apart.parted_change keeps same.parted
  parted' := apart.parted_change keeps same.parted'
  alike other := by
    by_cases own : other = account
    · subst own
      exact apart.alike_change keeps same.parted same.parted' (same.alike other)
    · have equiv := apart.alike_equivalence other
      exact equiv.trans (equiv.symm (apart.alike_change_of_ne keeps same.parted own))
        (equiv.trans (same.alike other) (apart.alike_change_of_ne keeps same.parted' own))

theorem Same.length (same : apart.Same roster roster') : roster'.length = roster.length := by
  rw [← Roster.length_accounts, ← Roster.length_accounts, same.accounts.length_eq]

theorem Same.admitFrom (same : apart.Same roster roster') (maxActive : Nat)
    (queue : List AccountId) :
    (Registry.admitFrom sv maxActive queue roster').1 =
        (Registry.admitFrom sv maxActive queue roster).1 ∧
      apart.Same (Registry.admitFrom sv maxActive queue roster).2
        (Registry.admitFrom sv maxActive queue roster').2 := by
  induction queue generalizing roster roster' with
  | nil => exact ⟨rfl, same⟩
  | cons account queue ih =>
    rw [Registry.admitFrom, Registry.admitFrom, same.length]
    split
    · exact ih (same.change fun _ _ _ _ h => h.welcome)
    · exact ⟨rfl, same⟩

theorem Same.renumberFrom (same : apart.Same roster roster') (index : Nat)
    (queue : List AccountId) :
    apart.Same (Registry.renumberFrom sv index queue roster)
      (Registry.renumberFrom sv index queue roster') := by
  induction queue generalizing index roster roster' with
  | nil => exact same
  | cons account queue ih =>
    exact ih (same.change fun _ _ _ _ h => h.renumber _) (index + 1)

/-- A round of ticks in two orders. -/
theorem Same.updateAll (same : apart.Same roster roster') (now : Instant) :
    (Registry.updateAll sv now roster'.accounts roster').1.Perm
        (Registry.updateAll sv now roster.accounts roster).1 ∧
      apart.Same (Registry.updateAll sv now roster.accounts roster).2
        (Registry.updateAll sv now roster'.accounts roster').2 := by
  have independent := apart.independent_change (apart.keeps_update now)
  have ends : roster'.ends sv now = roster.ends sv now :=
    funext fun account => apart.ends_congr now same.parted same.parted' (same.alike account)
  constructor
  · rw [apart.finished_eq now same.parted.distinct same.parted,
      apart.finished_eq now same.parted'.distinct same.parted', ends]
    exact same.accounts.filter _
  · rw [Registry.updateAll_snd, Registry.updateAll_snd]
    exact {
      accounts := by
        rw [Registry.accounts_tickEach, Registry.accounts_tickEach]
        exact same.accounts
      alike := independent.perm same.parted.distinct same.accounts same.parted same.parted'
        same.alike
      parted := independent.fine_foldl _ same.parted
      parted' := independent.fine_foldl _ same.parted' }

end Apart

/-! ## Where sessions are placed -/

def Roster.playerRegion (co : Collaborators W) (roster : Roster W) (account : AccountId) :
    Option RegionId :=
  (roster.get? account).bind fun seat => seat.session.playerRegion co roster.outside.world

theorem Registry.regions_rehome {sv : Services W} {registry : Registry W}
    (distinct : registry.roster.accounts.Nodup) :
    (registry.rehome sv).regions = registry.roster.accounts.foldl
      (fun pool account =>
        (pool.place account (registry.roster.playerRegion sv.collaborators account)).2)
      registry.regions := by
  rw [Roster.accounts, List.foldl_map]
  refine List.foldl_ext _ _ _ fun pool entry mem => ?_
  rw [Roster.playerRegion, Roster.get?_of_mem distinct mem]
  rfl

namespace Apart

variable {sv : Services W} {apart : Apart sv} {roster roster' : Roster W}

theorem Same.playerRegion (same : apart.Same roster roster') (account : AccountId) :
    roster'.playerRegion sv.collaborators account =
      roster.playerRegion sv.collaborators account := by
  have alike := same.alike account
  unfold Roster.playerRegion
  rw [alike.seat]
  cases found : roster.get? account with
  | none => rfl
  | some seat =>
    have belongs := same.parted.session found
    show seat.session.playerRegion _ _ = seat.session.playerRegion _ _
    unfold Session.playerRegion
    cases attached : seat.session.player with
    | none => rfl
    | some c =>
      have seen : sv.collaborators.character roster'.outside.world c =
          sv.collaborators.character roster.outside.world c :=
        apart.separates.character ((belongs.player c attached).1.symm ▸ alike.world)
      dsimp only
      rw [seen]

/-! ## The whole tick -/

theorem Same.seats (same : apart.Same roster roster') : roster'.seats.Perm roster.seats := by
  have listed : ∀ {r : Roster W}, r.accounts.Nodup →
      r.seats = r.accounts.filterMap fun account => (r.get? account).map (account, ·) := by
    intro r distinct
    rw [Roster.accounts, List.filterMap_map]
    refine (List.filterMap_some.symm.trans (List.filterMap_congr fun entry mem => ?_))
    rw [Function.comp_apply, Roster.get?_of_mem distinct mem]
    rfl
  have found : roster'.get? = roster.get? := funext fun account => (same.alike account).seat
  rw [listed same.parted.distinct, listed same.parted'.distinct, found]
  exact same.accounts.filterMap _

/-- Two registries that are the same to every account and to the queue. -/
structure SameRealm (apart : Apart sv) (registry registry' : Registry W) : Prop where
  roster : apart.Same registry.roster registry'.roster
  queue : registry'.queue = registry.queue
  maxActive : registry'.maxActive = registry.maxActive
  facet : ∀ account, registry'.regions.facet account = registry.regions.facet account

namespace SameRealm

variable {registry registry' : Registry W}

theorem remove (same : apart.SameRealm registry registry') {finished finished' : List AccountId}
    (once : finished.Nodup) (perm : finished'.Perm finished)
    (listed : ∀ account ∈ finished, account ∈ registry.roster.accounts) :
    (Registry.removeSessions sv finished' registry').1.Perm
        (Registry.removeSessions sv finished registry).1 ∧
      apart.SameRealm (Registry.removeSessions sv finished registry).2
        (Registry.removeSessions sv finished' registry').2 := by
  have once' : finished'.Nodup := perm.nodup_iff.mpr once
  have listed' : ∀ account ∈ finished', account ∈ registry'.roster.accounts := fun account mem =>
    same.roster.accounts.mem_iff.mpr (listed account (perm.mem_iff.mp mem))
  have found : registry'.roster.get? = registry.roster.get? :=
    funext fun account => (same.roster.alike account).seat
  have among : ∀ account, finished'.contains account = finished.contains account := fun account =>
    Bool.eq_iff_iff.mpr (by simpa using perm.mem_iff)
  -- A removal is about one account, so to each account only its own one counts.
  have removal : ∀ account, Registry.Alike apart.part account _ _ :=
    apart.independent_removal.perm once perm same.roster.parted same.roster.parted'
      fun account => ⟨same.roster.alike account, same.facet account⟩
  constructor
  · rw [Registry.removeSessions_fst once, Registry.removeSessions_fst once', found]
    exact perm.filterMap _
  · exact {
      roster := {
        accounts := by
          simp only [Registry.accounts_removeSessions, among]
          exact same.roster.accounts.filter _
        alike := fun account => by
          rw [Registry.removeSessions_snd, Registry.removeSessions_snd]
          exact (removal account).roster
        parted := by
          rw [Registry.removeSessions_snd]
          exact apart.independent_removal.fine_foldl _ same.roster.parted
        parted' := by
          rw [Registry.removeSessions_snd]
          exact apart.independent_removal.fine_foldl _ same.roster.parted' }
      queue := by
        simp only [Registry.queue_removeSessions once listed,
          Registry.queue_removeSessions once' listed', among, same.queue]
      maxActive := by
        rw [Registry.maxActive_removeSessions, Registry.maxActive_removeSessions, same.maxActive]
      facet := fun account => by
        rw [Registry.removeSessions_snd, Registry.removeSessions_snd]
        exact (removal account).facet }

theorem admitQueued (same : apart.SameRealm registry registry') :
    apart.SameRealm (registry.admitQueued sv) (registry'.admitQueued sv) := by
  -- The queue has an order of its own, so here both runs runs the same sessions in turn.
  obtain ⟨queue, admitted⟩ := same.roster.admitFrom registry.maxActive registry.queue
  unfold Registry.admitQueued
  rw [same.queue, same.maxActive]
  dsimp only
  rw [queue]
  exact ⟨admitted.renumberFrom 0 _, rfl, rfl, same.facet⟩

theorem rehome (same : apart.SameRealm registry registry') :
    apart.SameRealm (registry.rehome sv) (registry'.rehome sv) where
  roster := same.roster
  queue := same.queue
  maxActive := same.maxActive
  facet account := by
    have regions : registry'.roster.playerRegion sv.collaborators =
        registry.roster.playerRegion sv.collaborators := funext same.roster.playerRegion
    rw [Registry.regions_rehome same.roster.parted.distinct,
      Registry.regions_rehome same.roster.parted'.distinct, regions]
    exact (RegionPool.independent_place _).perm same.roster.parted.distinct same.roster.accounts
      trivial trivial same.facet account

/-- A world tick of two registries that are the same removes as many sessions and leaves
registries that are the same. -/
theorem update (same : apart.SameRealm registry registry') (now : Instant) :
    (registry'.update sv now).1.Perm (registry.update sv now).1 ∧
      apart.SameRealm (registry.update sv now).2 (registry'.update sv now).2 := by
  obtain ⟨perm, ticked⟩ := same.roster.updateAll now
  have finished := apart.finished_eq now same.roster.parted.distinct same.roster.parted
  have moved : apart.SameRealm
      { registry with
        roster := (Registry.updateAll sv now registry.roster.accounts registry.roster).2 }
      { registry' with
        roster := (Registry.updateAll sv now registry'.roster.accounts registry'.roster).2 } :=
    ⟨ticked, same.queue, same.maxActive, same.facet⟩
  have once : (Registry.updateAll sv now registry.roster.accounts registry.roster).1.Nodup := by
    rw [finished]
    exact same.roster.parted.distinct.filter _
  obtain ⟨left, removed⟩ := moved.remove once perm fun account mem => by
    rw [finished] at mem
    rw [Registry.updateAll_snd, Registry.accounts_tickEach]
    exact List.mem_of_mem_filter mem
  exact ⟨left, removed.admitQueued.rehome⟩

end SameRealm

theorem same_reorder (apart : Apart sv) {registry : Registry W}
    (parted : registry.roster.Parted apart.part) {order : List (AccountId × Seat W)}
    (perm : order.Perm registry.roster.seats) :
    apart.SameRealm registry (registry.reorder fun _ => order) := by
  let roster' : Roster W := { registry.roster with seats := order }
  have found : ∀ account, roster'.get? account = registry.roster.get? account := fun _ =>
    Roster.get?_of_perm parted.distinct perm
  exact {
    roster := {
      accounts := perm.map _
      alike := fun account => ⟨found account, (apart.separates.alike account).refl _, rfl⟩
      parted := parted
      parted' := {
        distinct := (perm.map _).nodup_iff.mpr parted.distinct
        session := fun {account _} h => parted.session ((found account).symm.trans h)
        inbox := fun {account _} h => parted.inbox ((found account).symm.trans h)
        settled := parted.settled } }
    queue := rfl
    maxActive := rfl
    facet := fun _ => rfl }

end Apart

/-! ## The session's own handlers -/

/-- The session's own handlers keep to it, whatever is parted how. -/
theorem confines_core (part : Partition W) {table : OpcodeTable W}
    (core : OpcodeTable.withCoreHandlers = .ok table) : part.Confines table := by
  intro account opcode
  rw [OpcodeTable.get_core core]
  unfold OpcodeTable.coreHandler
  split
  · refine fun env => ⟨fun v v' same => ?_,
      fun v _ => ⟨trivial, fun _ => ⟨trivial, fun _ => trivial⟩⟩⟩
    dsimp only [Procedure.bind]
    rw [same.session]
  split
  · intro env
    unfold Handler.timeSyncResponse
    split
    · trivial
    · split
      · trivial
      · exact ⟨trivial, fun _ => trivial⟩
  split
  · intro env
    unfold Handler.ping
    split
    · trivial
    · split
      · trivial
      · exact ⟨confined_mk ⟨trivial, fun _ => trivial⟩, fun _ => trivial⟩
  split
  · exact fun env => ⟨trivial, fun _ => trivial⟩
  · exact fun env => ⟨trivial, fun _ => ⟨trivial, fun _ => trivial⟩⟩

/-! ## On stage -/

namespace Rehearsal

/-- Two stages that are the same to an account, by the numbers of sockets, tokens and
guids. -/
structure Stage.Alike (owner : Nat → AccountId) (account : AccountId) (stage stage' : Stage) :
    Prop where
  socket : ∀ n, owner n = account → stage'.sockets[n]? = stage.sockets[n]?
  probe : ∀ n, owner n = account → stage'.probes[n]? = stage.probes[n]?
  placed : ∀ guid : PlayerGuid, owner guid.val.toNat = account →
    stage'.placements.find? (·.1 == guid) = stage.placements.find? (·.1 == guid)
  failures : stage'.failures = stage.failures
  answers : stage'.answers = stage.answers

namespace Stage

/-- A stage on which every number belongs to an account. -/
def partition (owner : Nat → AccountId) : Partition Stage where
  socketOwner socket := owner socket.val
  characterOwner c := owner c.token
  guidOwner guid := owner guid.val.toNat
  Alike := Stage.Alike owner
  Settled _ := True

variable {owner : Nat → AccountId} {account : AccountId} {stage stage' : Stage}

theorem find?_unplace (guid other : PlayerGuid) (stage : Stage) :
    (stage.unplace guid).placements.find? (·.1 == other) =
      if other = guid then none else stage.placements.find? (·.1 == other) := by
  rw [unplace, List.find?_filter]
  split
  · next same =>
    subst same
    exact List.find?_eq_none.mpr fun entry _ => by simp
  · next ne =>
    congr 1
    funext entry
    by_cases hit : entry.1 = other
    · simp [hit, ne]
    · simp [hit]

theorem alike_equivalence (owner : Nat → AccountId) (account : AccountId) :
    Equivalence (Stage.Alike owner account) where
  refl _ := ⟨fun _ _ => rfl, fun _ _ => rfl, fun _ _ => rfl, rfl, rfl⟩
  symm h := ⟨fun n mine => (h.socket n mine).symm, fun n mine => (h.probe n mine).symm,
    fun guid mine => (h.placed guid mine).symm, h.failures.symm, h.answers.symm⟩
  trans h h' := ⟨fun n mine => (h'.socket n mine).trans (h.socket n mine),
    fun n mine => (h'.probe n mine).trans (h.probe n mine),
    fun guid mine => (h'.placed guid mine).trans (h.placed guid mine),
    h'.failures.trans h.failures, h'.answers.trans h.answers⟩

theorem Alike.react (h : stage.Alike owner account stage') (effect : Effect) :
    (stage.react effect).Alike owner account (stage'.react effect) := by
  unfold Stage.react
  split
  · refine { h with socket := fun n mine => ?_ }
    simp only [setClosed, List.getElem?_modify, h.socket n mine]
  · refine { h with probe := fun n mine => ?_ }
    simp only [List.getElem?_modify, h.probe n mine]
  · refine { h with placed := fun other mine => ?_ }
    rw [find?_unplace, find?_unplace, h.placed other mine]
  · exact h

theorem alike_react {other : AccountId} {effect : Effect}
    (own : effect.Of (partition owner) account) (ne : other ≠ account) (stage : Stage) :
    stage.Alike owner other (stage.react effect) := by
  have still := (alike_equivalence owner other).refl stage
  have foreign : ∀ {n : Nat}, owner n = other → ∀ {m : Nat}, owner m = account → m ≠ n :=
    fun theirs _ mine same => ne (theirs.symm.trans ((congrArg owner same.symm).trans mine))
  unfold Stage.react
  split
  · next socket =>
    have mine : owner socket.val = account := by
      simpa [Effect.Of, Effect.owner?, partition] using own
    refine { still with socket := fun n theirs => ?_ }
    simp [setClosed, foreign theirs mine]
  · next c deed =>
    have mine : owner c.token = account := by
      simpa [Effect.Of, Effect.owner?, partition] using own
    refine { still with probe := fun n theirs => ?_ }
    simp [foreign theirs mine]
  · next guid _ =>
    have mine : owner guid.val.toNat = account := by
      simpa [Effect.Of, Effect.owner?, partition] using own
    refine { still with placed := fun whose theirs => ?_ }
    rw [find?_unplace, if_neg fun same => foreign theirs mine (congrArg (·.val.toNat) same.symm)]
  · exact still

theorem reactAll_database (db : Database) (calls : List DatabaseCall) (stage : Stage) :
    collaborators.reactAll stage (calls.map (Effect.database db)) = stage := by
  induction calls with
  | nil => rfl
  | cons call calls ih => exact ih

theorem Alike.probe_eq (h : stage.Alike owner account stage') {c : Character}
    (mine : owner c.token = account) : Stage.probe stage' c = Stage.probe stage c := by
  unfold Stage.probe
  rw [h.probe c.token mine]

theorem Alike.failing_eq (h : stage.Alike owner account stage') (db : Database) (name : String) :
    Stage.failing stage' db name = Stage.failing stage db name := by
  unfold Stage.failing
  rw [h.failures]

/-- Where every socket and every character has an owner, the stage keeps accounts apart. -/
theorem separates (owner : Nat → AccountId) : (partition owner).Separates collaborators where
  alike := alike_equivalence owner
  socket {w w' socket} h := by
    show w'.sockets[socket.val]?.getD _ = w.sockets[socket.val]?.getD _
    rw [h.socket socket.val rfl]
  character {w w' c} h := congrArg Probe.view (h.probe_eq rfl)
  regionOf {w w' guid} h := by
    show (w'.placements.find? _).map _ = (w.placements.find? _).map _
    rw [h.placed guid rfl]
  unixTime _ := rfl
  saving {w w' c} h := by
    show (if (w'.probe c).failSave then _ else _) = if (w.probe c).failSave then _ else _
    rw [h.probe_eq rfl]
  calling {account w w' db call} h _ := h.failing_eq db (callName call)
  rows {w w' db statement} h := by
    show (w'.failing db _).map _ = (w.failing db _).map _
    rw [h.failing_eq, h.answers]
  own h _ := h.react _
  others {account w w'} _ bout := by
    refine ⟨trivial, fun other ne => ?_⟩
    cases bout with
    | effect own whole => exact alike_react own ne w
    | refused => exact (alike_equivalence owner other).refl w
    | transaction =>
      rw [reactAll_database]
      exact (alike_equivalence owner other).refl w

end Stage

def guest (number : Nat) : Account := ⟨⟨.ofNat number⟩, .player, 2, .enUs, ⟨[]⟩⟩

/-- A realm with room for one. The first session has lost its socket at the list of
characters, with an envelope left; the second waits, with its character in the world. -/
def crowded : Registry Stage :=
  { roster :=
      { seats := [
          (⟨1⟩, ⟨{ Session.create (guest 1) ⟨1⟩ 0 with state := .charSelection },
            { account := ⟨1⟩, generic := ({} : PacketQueue).push (.withPayload .ping []) }⟩),
          (⟨2⟩, ⟨{ (Session.create (guest 2) ⟨2⟩ 0).attach ⟨2, ⟨2⟩, "Second"⟩ with
              queuePosition := some 1 }, { account := ⟨2⟩ }⟩)]
        outside := { world := {
          sockets := [⟨false, ⟨[]⟩, "", []⟩, ⟨true, ⟨[]⟩, "", []⟩, ⟨false, ⟨[]⟩, "", []⟩]
          probes := [(⟨0⟩, {}), (⟨1⟩, {}), (⟨2⟩, {})] } } }
    queue := [⟨2⟩]
    maxActive := 1
    regions := ((RegionPool.start {} 0).place ⟨1⟩ (some ⟨1⟩)).2 }

/-- Every number belongs to the account of that number. -/
def byNumber : Partition Stage := Stage.partition fun number => ⟨.ofNat number⟩

theorem parted_crowded : crowded.roster.Parted byNumber := by
  have seats : ∀ {account seat}, crowded.roster.get? account = some seat →
      (account, seat) ∈ crowded.roster.seats := Roster.mem_of_get?
  refine ⟨by decide, fun found => ?_, fun found => ?_, trivial⟩
  · rcases List.mem_pair.mp (seats found) with h | h <;> cases h
    · exact ⟨rfl, by rintro _ ⟨⟩; rfl, by rintro _ ⟨⟩, by rintro _ ⟨⟩, by rintro _ ⟨⟩⟩
    · exact ⟨rfl, by rintro _ ⟨⟩; rfl, by rintro _ ⟨⟩, by rintro _ ⟨⟩; exact ⟨rfl, rfl⟩,
        by rintro _ ⟨⟩; rfl⟩
  · rcases List.mem_pair.mp (seats found) with h | h <;> cases h <;>
      exact ⟨rfl, List.forall_mem_nil _⟩

end Rehearsal

/-! ## The main result -/

/-- Where every account keeps to itself, a world tick may runs the sessions in any order:
the same sessions are left, each in the same state, the queue and the placements are the
same, as many sessions are removed, and the same messages are sent on every socket. -/
theorem update_any_order (sv : Services W) (part : Partition W)
    (separates : part.Separates sv.collaborators) (confines : part.Confines sv.opcodes)
    (registry : Registry W) (parted : registry.roster.Parted part) (now : Instant)
    {order order' : List (AccountId × Seat W)} (perm : order.Perm registry.roster.seats)
    (perm' : order'.Perm registry.roster.seats) :
    let one := (registry.reorder fun _ => order).update sv now
    let other := (registry.reorder fun _ => order').update sv now
    other.2.roster.seats.Perm one.2.roster.seats ∧
      (∀ account, other.2.roster.get? account = one.2.roster.get? account) ∧
      other.2.queue = one.2.queue ∧
      (∀ account, other.2.regions.placement account = one.2.regions.placement account) ∧
      other.1.length = one.1.length ∧
      ∀ socket, other.2.roster.outside.messages socket = one.2.roster.outside.messages socket := by
  let apart : Apart sv := ⟨part, separates, confines⟩
  have parted' : (registry.reorder fun _ => order).roster.Parted part :=
    (apart.same_reorder parted perm).roster.parted'
  have start : apart.SameRealm (registry.reorder fun _ => order)
      (registry.reorder fun _ => order') :=
    apart.same_reorder parted' (perm'.trans perm.symm)
  obtain ⟨left, same⟩ := start.update now
  refine ⟨same.roster.seats, fun account => (same.roster.alike account).seat, same.queue,
    fun account => RegionPool.placement_of_facet (same.facet account), left.length_eq,
    fun socket => ?_⟩
  rw [Outside.messages_eq part, Outside.messages_eq part,
    (same.roster.alike (part.socketOwner socket)).done]

/-- The session without a socket is removed and makes room for the one that waits, whoever
is visited first. Only the log tells the two orders apart. -/
theorem update_any_order_two :
    let sv := Rehearsal.coreServices {}
    let realm := Rehearsal.crowded
    let one := (realm.reorder fun _ => realm.roster.seats).update sv 0
    let other := (realm.reorder fun _ => realm.roster.seats.reverse).update sv 0
    (one.1.length = 1 ∧ one.2.queue = [] ∧ one.2.regions.placement ⟨1⟩ = none ∧
      one.2.regions.placement ⟨2⟩ = some ⟨1⟩ ∧
      one.2.roster.outside.messages ⟨2⟩ = [.authResponse .waitQueue (some 1), .authOk] ∧
      other.2.roster.outside.trace ≠ one.2.roster.outside.trace) ∧
    other.2.roster.seats.Perm one.2.roster.seats ∧
      (∀ account, other.2.roster.get? account = one.2.roster.get? account) ∧
      other.2.queue = one.2.queue ∧
      (∀ account, other.2.regions.placement account = one.2.regions.placement account) ∧
      other.1.length = one.1.length ∧
      ∀ socket, other.2.roster.outside.messages socket = one.2.roster.outside.messages socket := by
  intro sv realm one other
  have facts := update_any_order (Rehearsal.coreServices {}) Rehearsal.byNumber
    (Rehearsal.Stage.separates _) (confines_core _ rfl) Rehearsal.crowded
    Rehearsal.parted_crowded 0 (List.Perm.refl _) Rehearsal.crowded.roster.seats.reverse_perm
  exact ⟨by decide, facts⟩

end GameRealm
