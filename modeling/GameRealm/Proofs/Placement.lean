import GameRealm.Region.Exchange
import Mathlib.Data.List.Nodup
import Mathlib.Logic.Function.Basic

/-!
# Where sessions are placed while actors tick

The pool keeps an index of where every session is placed, and the actors keep
theirs of whom they host. A call changes both, one after the other, and actors
tick in between. So during a call the two differ, and this module says by how much:

1. `Exchange.home` is where a session is hosted, computed from the index and the
   call that is under way, and `Exchange.aim` is where it is placed once the call
   has come to its end;
2. `RegionPool.Hosts`: the actors host exactly the sessions with a home, each once
   and on the actor of its region. Commands that fit this are carried out
   (`Hosts.join`, `Hosts.leave`);
3. `Exchange.Sound`: the actors host by `home`, and no command has failed. Every
   step keeps it (`sound_step`), so it holds along every run (`sound_run`);
4. only the beginning of a call changes the aim, and only a command the home. So a
   session that was taken out stays `Away`, and no tick drains it
   (`drained_of_away`), until a call places it again.
-/

namespace GameRealm

/-! ## Lists of placed sessions -/

/-- The region that a list of placed sessions has for an account. -/
def regionAt (placed : List (AccountId × RegionId)) (account : AccountId) : Option RegionId :=
  (placed.find? (·.1 == account)).map (·.2)

section
variable {placed : List (AccountId × RegionId)} {account who : AccountId} {region : RegionId}

theorem regionAt_eq_none_iff : regionAt placed account = none ↔ account ∉ placed.map (·.1) := by
  simp only [regionAt, Option.map_eq_none_iff, List.find?_eq_none, List.mem_map, beq_iff_eq]
  constructor
  · rintro absent ⟨entry, mem, rfl⟩
    exact absent entry mem rfl
  · intro absent entry mem same
    exact absent ⟨entry, mem, same⟩

theorem regionAt_leave (placed : List (AccountId × RegionId)) (who : AccountId) :
    regionAt (placed.filter (·.1 != who)) = Function.update (regionAt placed) who none := by
  funext account
  by_cases own : account = who
  · subst own
    rw [Function.update_self, regionAt_eq_none_iff]
    simp
  · rw [Function.update_of_ne own, regionAt, regionAt, List.find?_filter]
    congr 2
    funext entry
    by_cases hit : entry.1 = account
    · simp [hit, own]
    · simp [hit]

theorem regionAt_join (absent : regionAt placed who = none) (region : RegionId) :
    regionAt (placed ++ [(who, region)]) =
      Function.update (regionAt placed) who (some region) := by
  funext account
  rw [regionAt, List.find?_append]
  by_cases own : account = who
  · subst own
    have unfound : placed.find? (·.1 == account) = none := Option.map_eq_none_iff.mp absent
    rw [Function.update_self, unfound]
    simp
  · have other : (who == account) = false := beq_eq_false_iff_ne.mpr (Ne.symm own)
    rw [Function.update_of_ne own]
    simp [regionAt, other]

/-- In a list without repetitions an account has the one region it is listed with. -/
theorem mem_iff_regionAt (distinct : (placed.map (·.1)).Nodup) :
    (account, region) ∈ placed ↔ regionAt placed account = some region := by
  rw [regionAt, Option.map_eq_some_iff]
  constructor
  · intro mem
    obtain ⟨entry, found⟩ : ∃ entry, placed.find? (·.1 == account) = some entry :=
      Option.isSome_iff_exists.mp (List.find?_isSome.mpr ⟨_, mem, beq_self_eq_true account⟩)
    have own : entry.1 = account := by simpa using List.find?_some found
    have same : entry = (account, region) :=
      List.inj_on_of_nodup_map distinct (List.mem_of_find?_eq_some found) mem own
    exact ⟨entry, found, by rw [same]⟩
  · rintro ⟨entry, found, rfl⟩
    have own : entry.1 = account := by simpa using List.find?_some found
    have mem := List.mem_of_find?_eq_some found
    rw [← own]
    exact mem

theorem distinct_leave (distinct : (placed.map (·.1)).Nodup) (who : AccountId) :
    ((placed.filter (·.1 != who)).map (·.1)).Nodup :=
  distinct.sublist (List.filter_sublist.map _)

theorem distinct_join (distinct : (placed.map (·.1)).Nodup) (absent : regionAt placed who = none)
    (region : RegionId) : ((placed ++ [(who, region)]).map (·.1)).Nodup := by
  rw [List.map_append, List.map_singleton, ← List.concat_eq_append]
  exact distinct.concat (regionAt_eq_none_iff.mp absent)

end

namespace RegionPool

@[simp] theorem placement_forget (pool : RegionPool) (who : AccountId) :
    (pool.forget who).placement = Function.update pool.placement who none :=
  regionAt_leave pool.placements who

theorem placement_note {pool : RegionPool} {who : AccountId} (absent : pool.placement who = none)
    (region : RegionId) :
    (pool.note who region).placement = Function.update pool.placement who (some region) :=
  regionAt_join absent region

/-! ## Who hosts whom -/

/-- All actors run, and they host exactly the sessions with a home, each once and on
the actor of its region. -/
structure Hosts (pool : RegionPool) (home : AccountId → Option RegionId) : Prop where
  manned : pool.actors ≠ []
  running : ∀ actor ∈ pool.actors, actor.running = true
  once : ∀ actor ∈ pool.actors, (actor.hosted.map (·.1)).Nodup
  regionOf?_iff : ∀ (i : Nat) (actor : RegionActor), pool.actors[i]? = some actor →
    ∀ account region, actor.regionOf? account = some region ↔
      home account = some region ∧ i = pool.actorFor region

section
variable {pool : RegionPool} {home : AccountId → Option RegionId} {account : AccountId}
  {region : RegionId}

theorem actorFor_lt (pool : RegionPool) (manned : pool.actors ≠ []) (region : RegionId) :
    pool.actorFor region < pool.actors.length :=
  Nat.mod_lt _ (List.length_pos_iff.mpr manned)

theorem Hosts.of_actors {pool' : RegionPool} (hosts : pool.Hosts home)
    (same : pool'.actors = pool.actors) : pool'.Hosts home := by
  obtain ⟨actors, placements⟩ := pool
  obtain ⟨_, placements'⟩ := pool'
  cases same
  exact ⟨hosts.manned, hosts.running, hosts.once, hosts.regionOf?_iff⟩

theorem Hosts.set {home' : AccountId → Option RegionId} {i : Nat} {actor : RegionActor}
    (hosts : pool.Hosts home) (running : actor.running = true)
    (once : (actor.hosted.map (·.1)).Nodup)
    (own : ∀ account region, actor.regionOf? account = some region ↔
      home' account = some region ∧ i = pool.actorFor region)
    (others : ∀ account region, i ≠ pool.actorFor region →
      (home' account = some region ↔ home account = some region)) :
    Hosts { pool with actors := pool.actors.set i actor } home' := by
  constructor
  · rw [ne_eq, List.set_eq_nil_iff]
    exact hosts.manned
  · intro other mem
    rcases List.mem_or_eq_of_mem_set mem with mem | rfl
    exacts [hosts.running other mem, running]
  · intro other mem
    rcases List.mem_or_eq_of_mem_set mem with mem | rfl
    exacts [hosts.once other mem, once]
  · intro j other found account region
    have same : actorFor { pool with actors := pool.actors.set i actor } region =
        pool.actorFor region := by rw [actorFor, actorFor, List.length_set]
    rw [same]
    by_cases here : i = j
    · subst here
      rw [List.getElem?_set_self'] at found
      obtain ⟨_, -, rfl⟩ := Option.map_eq_some_iff.mp found
      exact own account region
    · rw [List.getElem?_set_ne here] at found
      rw [hosts.regionOf?_iff j other found account region]
      refine and_congr_left fun elsewhere => (others account region ?_).symm
      rw [← elsewhere]
      exact here

theorem Hosts.send (hosts : pool.Hosts home) (region : RegionId) (command : RegionCommand) :
    ∃ actor, pool.actors[pool.actorFor region]? = some actor ∧ actor ∈ pool.actors ∧
      pool.send (pool.actorFor region) command = ((actor.handle command).1,
        { pool with
          actors := pool.actors.set (pool.actorFor region) (actor.handle command).2 }) := by
  have inside := pool.actorFor_lt hosts.manned region
  refine ⟨pool.actors[pool.actorFor region], List.getElem?_eq_getElem inside,
    List.getElem_mem inside, ?_⟩
  rw [RegionPool.send, List.getElem?_eq_getElem inside]
  simp only
  rw [if_pos (hosts.running _ (List.getElem_mem inside))]

theorem Hosts.join (hosts : pool.Hosts home) (absent : home account = none) (region : RegionId) :
    ∃ actors, pool.send (pool.actorFor region) (.join account region) =
        (.ok (), { pool with actors }) ∧
      Hosts { pool with actors } (Function.update home account (some region)) := by
  obtain ⟨actor, found, mem, sent⟩ := hosts.send region (.join account region)
  have books := hosts.regionOf?_iff _ actor found
  have free : actor.regionOf? account = none := by
    refine Option.eq_none_iff_forall_ne_some.mpr fun current hosted => ?_
    rw [((books account current).mp hosted).1] at absent
    contradiction
  have taken : actor.handle (.join account region) =
      (.ok (), { actor with hosted := actor.hosted ++ [(account, region)] }) := by
    simp only [RegionActor.handle, free]
  rw [taken] at sent
  refine ⟨_, sent, hosts.set (hosts.running actor mem)
    (distinct_join (hosts.once actor mem) free region) ?_ ?_⟩
  · intro other current
    change regionAt (actor.hosted ++ [(account, region)]) other = some current ↔ _
    rw [regionAt_join free region]
    by_cases own : other = account
    · subst own
      rw [Function.update_self, Function.update_self]
      refine ⟨fun same => ⟨same, ?_⟩, And.left⟩
      rw [Option.some.inj same]
    · rw [Function.update_of_ne own, Function.update_of_ne own]
      exact books other current
  · intro other current elsewhere
    by_cases own : other = account
    · subst own
      rw [Function.update_self, absent]
      refine iff_of_false (fun same => elsewhere ?_) (Option.some_ne_none current).symm
      rw [Option.some.inj same]
    · rw [Function.update_of_ne own]

theorem Hosts.leave (hosts : pool.Hosts home) (region : RegionId)
    (present : home account = some region) :
    ∃ actors, pool.send (pool.actorFor region) (.leave account region) =
        (.ok (), { pool with actors }) ∧
      Hosts { pool with actors } (Function.update home account none) := by
  obtain ⟨actor, found, mem, sent⟩ := hosts.send region (.leave account region)
  have books := hosts.regionOf?_iff _ actor found
  have hosted : actor.regionOf? account = some region := (books account region).mpr ⟨present, rfl⟩
  have taken : actor.handle (.leave account region) =
      (.ok (), { actor with hosted := actor.hosted.filter (·.1 != account) }) := by
    simp only [RegionActor.handle, if_pos hosted]
  rw [taken] at sent
  refine ⟨_, sent, hosts.set (hosts.running actor mem)
    (distinct_leave (hosts.once actor mem) account) ?_ ?_⟩
  · intro other current
    change regionAt (actor.hosted.filter (·.1 != account)) other = some current ↔ _
    rw [regionAt_leave]
    by_cases own : other = account
    · subst own
      rw [Function.update_self, Function.update_self]
      exact iff_of_false (Option.some_ne_none current).symm
        fun same => (Option.some_ne_none current).symm same.1
    · rw [Function.update_of_ne own, Function.update_of_ne own]
      exact books other current
  · intro other current elsewhere
    by_cases own : other = account
    · subst own
      rw [Function.update_self, present]
      refine iff_of_false (Option.some_ne_none current).symm fun same => elsewhere ?_
      rw [Option.some.inj same]
    · rw [Function.update_of_ne own]

theorem Hosts.tick {i : Nat} {actor : RegionActor} (hosts : pool.Hosts home)
    (found : pool.actors[i]? = some actor) (now : Instant) :
    Hosts { pool with actors := pool.actors.set i (actor.tick now) } home := by
  have mem := List.mem_of_getElem? found
  have running : (actor.tick now).running = true := hosts.running actor mem
  exact hosts.set running (hosts.once actor mem) (hosts.regionOf?_iff i actor found)
    fun _ _ _ => Iff.rfl

/-- Nobody is hosted by two actors, in two regions, or twice. -/
theorem Hosts.hosted_nodup (hosts : pool.Hosts home) :
    ((pool.actors.flatMap (·.hosted)).map (·.1)).Nodup := by
  rw [List.map_flatMap, List.nodup_flatMap]
  refine ⟨hosts.once, List.pairwise_iff_getElem.mpr fun i j hi hj less => ?_⟩
  intro account first second
  obtain ⟨⟨_, region⟩, mem, rfl⟩ := List.mem_map.mp first
  obtain ⟨⟨who, region'⟩, mem', same⟩ := List.mem_map.mp second
  obtain rfl : who = _ := same
  have here := (hosts.regionOf?_iff i _ (List.getElem?_eq_getElem hi) who region).mp
    ((mem_iff_regionAt (hosts.once _ (List.getElem_mem hi))).mp mem)
  have there := (hosts.regionOf?_iff j _ (List.getElem?_eq_getElem hj) who region').mp
    ((mem_iff_regionAt (hosts.once _ (List.getElem_mem hj))).mp mem')
  rw [here.1, Option.some.injEq] at there
  rw [here.2, there.2, there.1] at less
  exact absurd less (Nat.lt_irrefl _)

/-- The pair that an actor hosts is a session with its home, on the actor of its region. -/
theorem Hosts.mem_hosted_iff (hosts : pool.Hosts home) {i : Nat} {actor : RegionActor}
    (found : pool.actors[i]? = some actor) :
    (account, region) ∈ actor.hosted ↔ home account = some region ∧ i = pool.actorFor region :=
  (mem_iff_regionAt (hosts.once actor (List.mem_of_getElem? found))).trans
    (hosts.regionOf?_iff i actor found account region)

theorem Hosts.mem_hosting_iff (hosts : pool.Hosts home) :
    (account, region) ∈ pool.actors.flatMap (·.hosted) ↔ home account = some region := by
  rw [List.mem_flatMap]
  constructor
  · rintro ⟨actor, mem, hosted⟩
    obtain ⟨i, found⟩ := List.getElem?_of_mem mem
    exact ((hosts.mem_hosted_iff found).mp hosted).1
  · intro present
    obtain ⟨actor, found, mem, -⟩ := hosts.send region (.leave account region)
    exact ⟨actor, mem, (hosts.mem_hosted_iff found).mpr ⟨present, rfl⟩⟩

end

theorem hosts_start (config : RegionConfig) (now : Instant) :
    (start config now).Hosts fun _ => none := by
  have fresh : ∀ actor ∈ (start config now).actors, actor = { ticks := .start config.tick now 0 } :=
    fun actor mem => List.eq_of_mem_replicate mem
  constructor
  · refine List.ne_nil_of_length_pos ?_
    rw [start, List.length_replicate]
    omega
  · intro actor mem
    rw [fresh actor mem]
  · intro actor mem
    rw [fresh actor mem]
    exact List.nodup_nil
  · intro i actor found account region
    rw [fresh actor (List.mem_of_getElem? found)]
    exact iff_of_false (Option.some_ne_none region).symm
      fun same => (Option.some_ne_none region).symm same.1

end RegionPool

/-! ## Calls under way -/

/-- An errand whose answer, if there is one, is that the command was carried out. -/
def Journey.Fine : Journey → Prop
  | sent => True
  | answered answer => answer = .ok ()

namespace Exchange

/-- Where a session is hosted, by the index and the call that is under way. -/
def home (exchange : Exchange) : AccountId → Option RegionId :=
  match exchange.call with
  | some (.move who _ _, .answered _) => Function.update exchange.pool.placement who none
  | some (.enter who region, .answered _) =>
    Function.update exchange.pool.placement who (some region)
  | some (.quit who region, .sent) => Function.update exchange.pool.placement who (some region)
  | _ => exchange.pool.placement

/-- Where a session will be placed when the call that is under way has come to its end. -/
def aim (exchange : Exchange) : AccountId → Option RegionId :=
  match exchange.call with
  | some (.move who _ new, _) => Function.update exchange.pool.placement who new
  | some (.enter who region, _) => Function.update exchange.pool.placement who (some region)
  | _ => exchange.pool.placement

/-- What the index says about the session of a call that is under way. -/
def CallFits (exchange : Exchange) : Prop :=
  match exchange.call with
  | none => True
  | some (.move who old _, journey) => exchange.pool.placement who = some old ∧ journey.Fine
  | some (.enter who _, journey) => exchange.pool.placement who = none ∧ journey.Fine
  | some (.quit who _, journey) => exchange.pool.placement who = none ∧ journey.Fine

/-- The actors host whom they should, and no command has failed. -/
structure Sound (exchange : Exchange) : Prop where
  hosts : exchange.pool.Hosts exchange.home
  once : (exchange.pool.placements.map (·.1)).Nodup
  fits : exchange.CallFits
  fine : exchange.result = .ok ()

variable {exchange : Exchange} {account : AccountId}

/-- Between two calls a session is hosted where the index has it. -/
theorem home_of_idle (idle : exchange.call = none) : exchange.home = exchange.pool.placement := by
  rw [home, idle]

theorem aim_of_idle (idle : exchange.call = none) : exchange.aim = exchange.pool.placement := by
  rw [aim, idle]

theorem sound_start (config : RegionConfig) (now : Instant) :
    Sound { pool := .start config now } :=
  ⟨RegionPool.hosts_start config now, List.nodup_nil, trivial, rfl⟩

/-! ### What each step does

Of the steps only `deliver` moves a session, and only the beginning of a call changes
where one is headed. -/

theorem sound_stop {result : Except RegionError Unit} (idle : exchange.call = none)
    (sound : exchange.Sound) (fine : result = .ok ()) : (exchange.stop result).Sound := by
  refine ⟨?_, sound.once, trivial, fine⟩
  have same : (exchange.stop result).home = exchange.home := (home_of_idle idle).symm
  rw [same]
  exact sound.hosts.of_actors rfl

theorem sound_place (idle : exchange.call = none) (sound : exchange.Sound)
    (account : AccountId) (region : Option RegionId) :
    (exchange.place account region).Sound ∧
      (exchange.place account region).home = exchange.home ∧
      (exchange.place account region).aim = Function.update exchange.aim account region := by
  have hosts : exchange.pool.Hosts exchange.pool.placement := home_of_idle idle ▸ sound.hosts
  rw [aim_of_idle idle, home_of_idle idle]
  -- A session that is there already is left alone, without a message to any actor.
  by_cases same : exchange.pool.placement account = region
  · have done : exchange.place account region = exchange.stop (.ok ()) := by
      unfold place
      rw [if_pos same]
    rw [done, ← same, Function.update_eq_self]
    exact ⟨sound_stop idle sound rfl, rfl, rfl⟩
  · cases old : exchange.pool.placement account with
    | some home =>
      have begun : exchange.place account region = exchange.send (.move account home region) := by
        unfold place
        rw [if_neg same]
        simp only [old]
      rw [begun]
      exact ⟨⟨hosts, sound.once, ⟨old, trivial⟩, sound.fine⟩, rfl, rfl⟩
    | none =>
      cases region with
      | none => exact absurd old same
      | some new =>
        have begun : exchange.place account (some new) = exchange.send (.enter account new) := by
          unfold place
          rw [if_neg same]
          simp only [old]
        rw [begun]
        exact ⟨⟨hosts, sound.once, ⟨old, trivial⟩, sound.fine⟩, rfl, rfl⟩

theorem sound_remove (idle : exchange.call = none) (sound : exchange.Sound)
    (account : AccountId) :
    (exchange.remove account).Sound ∧ (exchange.remove account).home = exchange.home ∧
      (exchange.remove account).aim = Function.update exchange.aim account none := by
  have hosts : exchange.pool.Hosts exchange.pool.placement := home_of_idle idle ▸ sound.hosts
  rw [aim_of_idle idle, home_of_idle idle]
  cases old : exchange.pool.placement account with
  | none =>
    have done : exchange.remove account = exchange.stop (.ok ()) := by simp only [remove, old]
    rw [done, ← old, Function.update_eq_self]
    exact ⟨sound_stop idle sound rfl, rfl, rfl⟩
  | some region =>
    have begun : exchange.remove account =
        { exchange with pool := exchange.pool.forget account }.send (.quit account region) := by
      simp only [remove, old]
    rw [begun]
    have gone := exchange.pool.placement_forget account
    have same : home ({ exchange with pool := exchange.pool.forget account }.send
        (.quit account region)) = exchange.pool.placement := by
      change Function.update (exchange.pool.forget account).placement account (some region) = _
      rw [gone, Function.update_idem, ← old, Function.update_eq_self]
    refine ⟨⟨?_, distinct_leave sound.once account, ⟨?_, trivial⟩, sound.fine⟩, same, gone⟩
    · rw [same]
      exact hosts.of_actors rfl
    · change (exchange.pool.forget account).placement account = none
      rw [gone, Function.update_self]

/-- What carrying out the command under way does to the home of its session. -/
def delivered (exchange : Exchange) : AccountId → Option RegionId :=
  match exchange.call with
  | some (.move who _ _, .sent) | some (.quit who _, .sent) =>
    Function.update exchange.home who none
  | some (.enter who region, .sent) => Function.update exchange.home who (some region)
  | _ => exchange.home

theorem sound_deliver (sound : exchange.Sound) :
    exchange.deliver.Sound ∧ exchange.deliver.home = exchange.delivered ∧
      exchange.deliver.aim = exchange.aim := by
  obtain ⟨pool, call, result, drained⟩ := exchange
  obtain ⟨hosts, once, fits, fine⟩ := sound
  match call with
  | none => exact ⟨⟨hosts, once, fits, fine⟩, rfl, rfl⟩
  | some (errand, .answered answer) =>
    exact ⟨⟨hosts, once, fits, fine⟩, by cases errand <;> rfl, rfl⟩
  | some (.move who old new, .sent) =>
    obtain ⟨actors, sent, hosts'⟩ := hosts.leave old fits.1
    simp only [deliver, Errand.region, Errand.command, sent]
    exact ⟨⟨hosts', once, ⟨fits.1, rfl⟩, fine⟩, rfl, rfl⟩
  | some (.enter who region, .sent) =>
    obtain ⟨actors, sent, hosts'⟩ := hosts.join fits.1 region
    simp only [deliver, Errand.region, Errand.command, sent]
    exact ⟨⟨hosts', once, ⟨fits.1, rfl⟩, fine⟩, rfl, rfl⟩
  | some (.quit who region, .sent) =>
    obtain ⟨absent, -⟩ : pool.placement who = none ∧ _ := fits
    have hosts : pool.Hosts (Function.update pool.placement who (some region)) := hosts
    have present := Function.update_self who (some region) pool.placement
    have gone : Function.update (Function.update pool.placement who (some region)) who none =
        pool.placement := by rw [Function.update_idem, ← absent, Function.update_eq_self]
    obtain ⟨actors, sent, hosts'⟩ := hosts.leave _ present
    simp only [deliver, Errand.region, Errand.command, sent]
    rw [gone] at hosts'
    exact ⟨⟨hosts', once, ⟨absent, rfl⟩, fine⟩, gone.symm, rfl⟩

theorem sound_conclude (sound : exchange.Sound) :
    exchange.conclude.Sound ∧ exchange.conclude.home = exchange.home ∧
      exchange.conclude.aim = exchange.aim := by
  obtain ⟨pool, call, result, drained⟩ := exchange
  obtain ⟨hosts, once, fits, fine⟩ := sound
  match call with
  | none => exact ⟨⟨hosts, once, fits, fine⟩, rfl, rfl⟩
  | some (_, .sent) => exact ⟨⟨hosts, once, fits, fine⟩, rfl, rfl⟩
  | some (.move who old new, .answered answer) =>
    obtain ⟨-, rfl⟩ := fits
    have gone := pool.placement_forget who
    have hosts' : (pool.forget who).Hosts (pool.forget who).placement :=
      gone ▸ hosts.of_actors rfl
    cases new with
    | none => exact ⟨⟨hosts', distinct_leave once who, trivial, rfl⟩, gone, gone⟩
    | some region =>
      refine ⟨⟨hosts', distinct_leave once who, ⟨?_, trivial⟩, fine⟩, gone, ?_⟩
      · change (pool.forget who).placement who = none
        rw [gone, Function.update_self]
      · change Function.update (pool.forget who).placement who (some region) = _
        rw [gone, Function.update_idem]
        rfl
  | some (.enter who region, .answered answer) =>
    obtain ⟨absent, rfl⟩ := fits
    have noted := RegionPool.placement_note absent region
    have hosts' : (pool.note who region).Hosts (pool.note who region).placement :=
      noted ▸ hosts.of_actors rfl
    exact ⟨⟨hosts', distinct_join once absent region, trivial, rfl⟩, noted, noted⟩
  | some (.quit who region, .answered answer) =>
    obtain ⟨-, rfl⟩ := fits
    exact ⟨⟨hosts, once, trivial, rfl⟩, rfl, rfl⟩

theorem sound_tick (sound : exchange.Sound) (actor : Nat) (now : Instant) :
    (exchange.tick actor now).Sound ∧ (exchange.tick actor now).home = exchange.home ∧
      (exchange.tick actor now).aim = exchange.aim := by
  rw [tick]
  split
  · exact ⟨sound, rfl, rfl⟩
  · next a found =>
    split
    · exact ⟨⟨sound.hosts.tick found now, sound.once, sound.fits, sound.fine⟩, rfl, rfl⟩
    · exact ⟨sound, rfl, rfl⟩

theorem sound_step (sound : exchange.Sound) (step : ExchangeStep) :
    (exchange.step step).Sound := by
  cases step with
  | place account region =>
    simp only [Exchange.step, Option.isNone_iff_eq_none]
    split
    · next idle => exact (sound_place idle sound _ region).1
    · exact sound
  | remove account =>
    simp only [Exchange.step, Option.isNone_iff_eq_none]
    split
    · next idle => exact (sound_remove idle sound _).1
    · exact sound
  | deliver => exact (sound_deliver sound).1
  | conclude => exact (sound_conclude sound).1
  | tick actor now => exact (sound_tick sound actor now).1

theorem run_append (exchange : Exchange) (first second : List ExchangeStep) :
    exchange.run (first ++ second) = (exchange.run first).run second :=
  List.foldl_append

theorem sound_run (sound : exchange.Sound) (steps : List ExchangeStep) :
    (exchange.run steps).Sound := by
  induction steps generalizing exchange with
  | nil => exact sound
  | cons step steps ih => exact ih (sound_step sound step)

/-! ## Sessions that have been taken out -/

/-- No actor hosts the session, and the call under way does not place it. -/
structure Away (account : AccountId) (exchange : Exchange) : Prop where
  home : exchange.home account = none
  aim : exchange.aim account = none

/-- The step begins a call that places the account. -/
def Places (account : AccountId) (exchange : Exchange) (step : ExchangeStep) : Prop :=
  exchange.call = none ∧ ∃ region, step = .place account (some region)

/-- Among the steps none begins a call that places the account. -/
def Unplaced (account : AccountId) (exchange : Exchange) (steps : List ExchangeStep) : Prop :=
  ∀ past step later, steps = past ++ step :: later →
    ¬ (exchange.run past).Places account step

theorem Unplaced.cons {step : ExchangeStep} {steps : List ExchangeStep}
    (h : exchange.Unplaced account (step :: steps)) :
    ¬ exchange.Places account step ∧ (exchange.step step).Unplaced account steps :=
  ⟨h [] step steps rfl, fun past other later split =>
    h (step :: past) other later (by rw [split]; rfl)⟩

theorem Unplaced.append {first second : List ExchangeStep}
    (h : exchange.Unplaced account (first ++ second)) :
    exchange.Unplaced account first ∧ (exchange.run first).Unplaced account second := by
  constructor
  · rintro past step later rfl
    exact h past step (later ++ second) (by simp)
  · rintro past step later rfl
    rw [← run_append]
    exact h (first ++ past) step later (by simp)

/-- A session that is not headed for a region gets headed for one only by a call that
places it. -/
theorem aim_step (sound : exchange.Sound) (aim : exchange.aim account = none)
    {step : ExchangeStep} (unplaced : ¬ exchange.Places account step) :
    (exchange.step step).aim account = none := by
  cases step with
  | place who region =>
    simp only [Exchange.step, Option.isNone_iff_eq_none]
    split
    · next idle =>
      rw [(sound_place idle sound _ region).2.2, Function.update_apply, aim]
      split
      · next own =>
        subst own
        cases region with
        | none => rfl
        | some region => exact absurd ⟨idle, region, rfl⟩ unplaced
      · rfl
    · exact aim
  | remove who =>
    simp only [Exchange.step, Option.isNone_iff_eq_none]
    split
    · next idle =>
      rw [(sound_remove idle sound _).2.2, Function.update_apply, aim, ite_self]
    · exact aim
  | deliver => rwa [Exchange.step, (sound_deliver sound).2.2]
  | conclude => rwa [Exchange.step, (sound_conclude sound).2.2]
  | tick actor now => rwa [Exchange.step, (sound_tick sound actor now).2.2]

/-- Whoever is away is not brought back by the command under way. -/
theorem delivered_of_away (away : exchange.Away account) :
    exchange.delivered account = none := by
  obtain ⟨pool, call, result, drained⟩ := exchange
  obtain ⟨home, aim⟩ := away
  match call with
  | none => exact home
  | some (errand, .answered answer) => cases errand <;> exact home
  | some (.move who _ _, .sent) =>
    exact (Function.update_apply ..).trans (by rw [home, ite_self])
  | some (.quit who _, .sent) =>
    exact (Function.update_apply ..).trans (by rw [home, ite_self])
  | some (.enter who region, .sent) => exact aim

theorem away_step (sound : exchange.Sound) (away : exchange.Away account) {step : ExchangeStep}
    (unplaced : ¬ exchange.Places account step) : (exchange.step step).Away account := by
  refine ⟨?_, aim_step sound away.aim unplaced⟩
  cases step with
  | place who region =>
    simp only [Exchange.step, Option.isNone_iff_eq_none]
    split
    · next idle => rw [(sound_place idle sound _ region).2.1, away.home]
    · exact away.home
  | remove who =>
    simp only [Exchange.step, Option.isNone_iff_eq_none]
    split
    · next idle => rw [(sound_remove idle sound _).2.1, away.home]
    · exact away.home
  | deliver => rw [Exchange.step, (sound_deliver sound).2.1, delivered_of_away away]
  | conclude => rw [Exchange.step, (sound_conclude sound).2.1, away.home]
  | tick actor now => rw [Exchange.step, (sound_tick sound actor now).2.1, away.home]

theorem aim_run (sound : exchange.Sound) (aim : exchange.aim account = none)
    {steps : List ExchangeStep} (unplaced : exchange.Unplaced account steps) :
    (exchange.run steps).aim account = none := by
  induction steps generalizing exchange with
  | nil => exact aim
  | cons step steps ih =>
    exact ih (sound_step sound step) (aim_step sound aim unplaced.cons.1) unplaced.cons.2

/-! Calls and answers drain nobody. -/

theorem drained_place (account : AccountId) (region : Option RegionId) (exchange : Exchange) :
    (exchange.place account region).drained = exchange.drained := by
  unfold place
  split
  · rfl
  · split <;> rfl

theorem drained_remove (account : AccountId) (exchange : Exchange) :
    (exchange.remove account).drained = exchange.drained := by
  unfold remove
  split <;> rfl

theorem drained_deliver (exchange : Exchange) : exchange.deliver.drained = exchange.drained := by
  unfold deliver
  split <;> rfl

theorem drained_proceed (errand : Errand) (exchange : Exchange) :
    (exchange.proceed errand).drained = exchange.drained := by
  cases errand with
  | move account old new => cases new <;> rfl
  | enter account region => rfl
  | quit account region => rfl

theorem drained_conclude (exchange : Exchange) :
    exchange.conclude.drained = exchange.drained := by
  unfold conclude
  split
  · rfl
  · exact drained_proceed _ exchange
  · rfl

theorem drained_step (sound : exchange.Sound) (step : ExchangeStep) :
    ∃ more, (exchange.step step).drained = exchange.drained ++ more ∧
      ∀ account ∈ more, ∃ region, exchange.home account = some region := by
  have none_more : ∀ next : Exchange, next.drained = exchange.drained →
      ∃ more, next.drained = exchange.drained ++ more ∧
        ∀ account ∈ more, ∃ region, exchange.home account = some region :=
    fun next same => ⟨[], by rw [same, List.append_nil], fun _ mem => absurd mem List.not_mem_nil⟩
  cases step with
  | place who region =>
    rw [Exchange.step]
    split
    · exact none_more _ (drained_place who region exchange)
    · exact none_more _ rfl
  | remove who =>
    rw [Exchange.step]
    split
    · exact none_more _ (drained_remove who exchange)
    · exact none_more _ rfl
  | deliver => exact none_more _ (drained_deliver exchange)
  | conclude => exact none_more _ (drained_conclude exchange)
  | tick i now =>
    rw [Exchange.step, tick]
    split
    · exact none_more _ rfl
    · next actor found =>
      split
      · -- A tick drains whom the actor hosts, and the actors host whoever has a home.
        refine ⟨actor.hosted.map (·.1), rfl, fun account mem => ?_⟩
        obtain ⟨⟨_, region⟩, hosted, rfl⟩ := List.mem_map.mp mem
        exact ⟨region, ((sound.hosts.mem_hosted_iff found).mp hosted).1⟩
      · exact none_more _ rfl

/-- As long as no call places a session that is away, no tick drains it. -/
theorem drained_of_away (sound : exchange.Sound) (away : exchange.Away account)
    {steps : List ExchangeStep} (unplaced : exchange.Unplaced account steps) :
    ∃ more, (exchange.run steps).drained = exchange.drained ++ more ∧ account ∉ more := by
  induction steps generalizing exchange with
  | nil => exact ⟨[], (List.append_nil _).symm, List.not_mem_nil⟩
  | cons step steps ih =>
    obtain ⟨first, drained, homes⟩ := drained_step sound step
    obtain ⟨rest, drained', absent⟩ :=
      ih (sound_step sound step) (away_step sound away unplaced.cons.1) unplaced.cons.2
    refine ⟨first ++ rest, ?_, fun mem => ?_⟩
    · rw [← List.append_assoc, ← drained]
      exact drained'
    · rcases List.mem_append.mp mem with mem | mem
      · obtain ⟨region, home⟩ := homes account mem
        rw [away.home] at home
        contradiction
      · exact absent mem

theorem away_of_quit (sound : exchange.Sound) (idle : exchange.call = none)
    {quit : ExchangeStep} (takes : quit = .place account none ∨ quit = .remove account)
    {during : List ExchangeStep} (unplaced : (exchange.step quit).Unplaced account during)
    (returned : (exchange.run (quit :: during)).call = none) :
    (exchange.run (quit :: during)).Away account := by
  have begun : (exchange.step quit).aim account = none := by
    rcases takes with rfl | rfl
    · rw [Exchange.step, idle, Option.isNone_none, if_pos rfl, (sound_place idle sound _ none).2.2,
        Function.update_self]
    · rw [Exchange.step, idle, Option.isNone_none, if_pos rfl, (sound_remove idle sound _).2.2,
        Function.update_self]
  have aim : (exchange.run (quit :: during)).aim account = none :=
    aim_run (sound_step sound quit) begun unplaced
  refine ⟨?_, aim⟩
  rw [home_of_idle returned, ← aim_of_idle returned]
  exact aim

end Exchange

end GameRealm
