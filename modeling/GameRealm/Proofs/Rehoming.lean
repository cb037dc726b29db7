import GameRealm.Proofs.LoginQueue
import GameRealm.Proofs.Round

/-!
# Sessions are placed where their players are

The region pool does as it is told, and the registry tells it, at the end of every
world tick, where each player is. Between the two nothing gets lost:

1. `Exchange.InOrder` is what anyone sees of a pool at any moment, and every pool is in
   order along every run, whatever calls are made and whenever its actors tick
   (`inOrder_run`);
2. `Round.Sound`: in the middle of a world tick only sessions of the registry are
   headed for a region, one that is being forgotten is not, and those whose players
   have been seen are headed where that was. Every step keeps it (`sound_run`);
3. `placement_update`: after a world tick that nothing disturbs every session is placed
   in the region of its player, and nobody else is placed;
4. `placements_follow_players` puts it together.
-/

namespace GameRealm

namespace Exchange

/-- The sessions that the actors host, with their regions. -/
def hosting (exchange : Exchange) : List (AccountId × RegionId) :=
  exchange.pool.actors.flatMap (·.hosted)

/-- What anyone sees of a pool at any moment. -/
structure InOrder (exchange : Exchange) : Prop where
  /-- No session is hosted by two actors, in two regions, or twice. -/
  single : (exchange.hosting.map (·.1)).Nodup
  /-- It is hosted by the actor of its region. -/
  own : ∀ (i : Nat) (actor : RegionActor), exchange.pool.actors[i]? = some actor →
    ∀ account region, (account, region) ∈ actor.hosted →
      i = region.val.toNat % exchange.pool.actors.length
  /-- Between two calls the actors host what the index lists. -/
  listed : exchange.call = none → exchange.hosting.Perm exchange.pool.placements
  /-- No call has failed. -/
  fine : exchange.result = .ok ()

variable {exchange : Exchange}

theorem Sound.inOrder (sound : exchange.Sound) : exchange.InOrder := by
  refine ⟨sound.hosts.hosted_nodup, ?_, ?_, sound.fine⟩
  · intro i actor found account region hosted
    exact ((sound.hosts.mem_hosted_iff found).mp hosted).2
  · intro idle
    refine (List.perm_ext_iff_of_nodup (.of_map _ sound.hosts.hosted_nodup)
      (.of_map _ sound.once)).mpr fun entry => ?_
    obtain ⟨account, region⟩ := entry
    rw [mem_iff_regionAt sound.once]
    refine sound.hosts.mem_hosting_iff.trans ?_
    rw [home_of_idle idle]
    rfl

/-- A pool is always in order. -/
theorem inOrder_run (config : RegionConfig) (now : Instant) (steps : List ExchangeStep) :
    (run { pool := .start config now } steps).InOrder :=
  (sound_run (sound_start config now) steps).inOrder

/-- A session that was taken out is not drained again until a call places it. -/
theorem undrained_after_quit {account : AccountId} {quit : ExchangeStep}
    {during later : List ExchangeStep} (sound : exchange.Sound) (idle : exchange.call = none)
    (takes : quit = .place account none ∨ quit = .remove account)
    (returned : (exchange.run (quit :: during)).call = none)
    (unplaced : (exchange.step quit).Unplaced account (during ++ later)) :
    ∃ more, ((exchange.run (quit :: during)).run later).drained =
      (exchange.run (quit :: during)).drained ++ more ∧ account ∉ more :=
  drained_of_away (sound_run sound _) (away_of_quit sound idle takes unplaced.append.1 returned)
    unplaced.append.2

/-! ## Calls that nothing interrupts -/

theorem Sound.settle (sound : exchange.Sound) (idle : exchange.call = none) :
    Sound { pool := exchange.pool } := by
  refine ⟨?_, sound.once, trivial, rfl⟩
  have hosts := sound.hosts
  rw [home_of_idle idle] at hosts
  exact hosts

theorem sound_finishing (sound : exchange.Sound) :
    (exchange.run finishing).Sound ∧ (exchange.run finishing).aim = exchange.aim := by
  obtain ⟨first, -, one⟩ := sound_deliver sound
  obtain ⟨second, -, two⟩ := sound_conclude first
  obtain ⟨third, -, three⟩ := sound_deliver second
  obtain ⟨fourth, -, four⟩ := sound_conclude third
  exact ⟨fourth, by
    calc (exchange.run finishing).aim
      _ = exchange.deliver.conclude.deliver.aim := four
      _ = exchange.deliver.conclude.aim := three
      _ = exchange.deliver.aim := two
      _ = exchange.aim := one⟩

theorem settle_place {pool : RegionPool} (sound : Sound { pool }) (account : AccountId)
    (region : Option RegionId) :
    Sound { pool := (pool.place account region).2 } ∧
      (pool.place account region).2.placement =
        Function.update pool.placement account region := by
  obtain ⟨begun, -, aim⟩ := sound_place rfl sound account region
  obtain ⟨done, same⟩ := sound_finishing begun
  have settling : Exchange.call { pool } = none := rfl
  obtain ⟨placed, idle⟩ := finish_place settling account region
  have settled := done.settle idle
  rw [placed] at settled
  refine ⟨settled, ?_⟩
  rw [← placed, ← aim_of_idle idle, same, aim]
  rfl

/-- Placing sessions one after the other. -/
theorem settle_places (places : List (AccountId × Option RegionId)) {pool : RegionPool}
    (sound : Sound { pool }) (distinct : (places.map (·.1)).Nodup) :
    (∀ entry ∈ places, RegionPool.placement
        (places.foldl (fun pool entry => (pool.place entry.1 entry.2).2) pool) entry.1 =
          entry.2) ∧
      ∀ account ∉ places.map (·.1), RegionPool.placement
        (places.foldl (fun pool entry => (pool.place entry.1 entry.2).2) pool) account =
          pool.placement account := by
  induction places generalizing pool with
  | nil => exact ⟨fun _ mem => absurd mem List.not_mem_nil, fun _ _ => rfl⟩
  | cons first places ih =>
    rw [List.map_cons, List.nodup_cons] at distinct
    obtain ⟨sound', placed⟩ := settle_place sound first.1 first.2
    obtain ⟨listed, others⟩ := ih sound' distinct.2
    rw [placed] at others
    simp only [List.foldl_cons, List.map_cons, List.mem_cons, not_or]
    constructor
    · rintro entry (rfl | mem)
      · exact (others entry.1 distinct.1).trans (Function.update_self ..)
      · exact listed entry mem
    · rintro account ⟨differs, absent⟩
      exact (others account absent).trans (Function.update_of_ne differs ..)

end Exchange

/-! ## What a registry does to the table of accounts -/

namespace Registry

variable {sv : Services W}

theorem regions_login (sv : Services W) (account : Account) (socket : SocketId)
    (auth : Envelope) (now : Instant) (registry : Registry W) :
    (registry.login sv account socket auth now).2.regions = registry.regions := by
  unfold login
  split
  · unfold handOver
    split <;> rfl
  · unfold enroll
    simp only
    split <;> rfl

theorem accounts_login (sv : Services W) (account : Account) (socket : SocketId)
    (auth : Envelope) (now : Instant) (registry : Registry W) :
    (registry.login sv account socket auth now).2.roster.accounts = registry.roster.accounts ∨
      account.id ∉ registry.roster.accounts ∧
        (registry.login sv account socket auth now).2.roster.accounts =
          registry.roster.accounts ++ [account.id] := by
  unfold login
  cases found : registry.roster.get? account.id with
  | none =>
    have absent := Roster.get?_eq_none_iff.mp found
    refine .inr ⟨absent, ?_⟩
    simp only
    rw [enroll_eq account socket auth now absent, accounts_work, accounts_enter]
  | some seat =>
    refine .inl ?_
    simp only [handOver]
    split
    · rfl
    · exact Roster.accounts_replace registry.roster.seats

theorem regions_discharge (account : AccountId) (registry : Registry W) :
    (registry.discharge sv account).regions = registry.regions := by
  unfold discharge
  split <;> rfl

theorem accounts_discharge (sv : Services W) (account : AccountId) (registry : Registry W) :
    (registry.discharge sv account).roster.accounts =
      registry.roster.accounts.filter (· != account) := by
  rw [← @accounts_removeSession W sv]
  unfold discharge removeSession
  cases registry.roster.get? account <;> rfl

end Registry

/-! ## Where sessions are headed during a world tick -/

namespace Phase

/-- Whether a world tick may have to wait for the pool. -/
def waits : Phase → Bool
  | leaving _ _ | rehoming _ => true
  | _ => false

/-- What the phase of a world tick says about where sessions are headed: one that is
being forgotten goes nowhere, and those whose players have been seen go there. -/
def Fits (aim : AccountId → Option RegionId) (accounts : List AccountId)
    (seen : List (AccountId × Option RegionId)) : Phase → Prop
  | leaving account _ => aim account = none
  | rehoming todo =>
    (seen.map (·.1) ++ todo).Perm accounts ∧ ∀ entry ∈ seen, aim entry.1 = entry.2
  | _ => True

theorem Fits.perm {phase : Phase} {aim : AccountId → Option RegionId}
    {accounts accounts' : List AccountId} {seen : List (AccountId × Option RegionId)}
    (fits : phase.Fits aim accounts seen) (perm : accounts'.Perm accounts) :
    phase.Fits aim accounts' seen := by
  cases phase with
  | rehoming todo => exact ⟨fits.1.trans perm.symm, fits.2⟩
  | _ => exact fits

end Phase

namespace Round

/-- Every account has one session, only those with a session are headed for a region,
and the phase fits. -/
structure Sound (round : Round W) : Prop where
  exchange : round.exchange.Sound
  distinct : round.registry.roster.accounts.Nodup
  listed : ∀ account region, round.exchange.aim account = some region →
    account ∈ round.registry.roster.accounts
  fits : round.phase.Fits round.exchange.aim round.registry.roster.accounts round.seen
  quiet : round.phase.waits = false → round.call = none

variable {sv : Services W} {round : Round W}

theorem sound_empty (config : RegionConfig) (now : Instant) (maxActive : Nat)
    (outside : Outside W) :
    Sound { registry := .empty maxActive (.start config now) outside } :=
  ⟨Exchange.sound_start config now, List.nodup_nil,
    fun _ _ headed => absurd headed (Option.some_ne_none _).symm, trivial, fun _ => rfl⟩

theorem Sound.modify (sound : round.Sound) (change : Registry W → Registry W)
    (regions : (change round.registry).regions = round.registry.regions)
    (accounts : (change round.registry).roster.accounts.Perm round.registry.roster.accounts) :
    (round.modify change).Sound := by
  have same := exchange_modify change regions
  refine ⟨same ▸ sound.exchange, accounts.nodup_iff.mpr sound.distinct, ?_, ?_, sound.quiet⟩
  · intro account region headed
    rw [same] at headed
    exact accounts.mem_iff.mpr (sound.listed account region headed)
  · rw [same]
    exact sound.fits.perm accounts

/-- What changes nobody's aim leaves everything as it is. -/
theorem Sound.ask {change : Exchange → Exchange} (sound : round.Sound)
    (kept : (change round.exchange).Sound)
    (aim : (change round.exchange).aim = round.exchange.aim)
    (call : round.call = none → (change round.exchange).call = none) :
    (round.ask change).Sound := by
  refine ⟨kept, sound.distinct, ?_, ?_, fun quiet => call (sound.quiet quiet)⟩
  · intro account region headed
    rw [exchange_ask, aim] at headed
    exact sound.listed account region headed
  · rw [exchange_ask, aim]
    exact sound.fits

theorem Sound.turn {phase : Phase} (sound : round.Sound) (call : round.call = none)
    (fits : phase.Fits round.exchange.aim round.registry.roster.accounts round.seen) :
    Sound { round with phase } :=
  ⟨sound.exchange, sound.distinct, sound.listed, fits, fun _ => call⟩

/-! ### Chores -/

theorem sound_tickNext {now : Instant} {account : AccountId} {todo finished : List AccountId}
    (sound : round.Sound) (call : round.call = none) :
    (round.tickNext sv now account todo finished).Sound := by
  have worked := sound.modify (fun registry =>
    { registry with roster := (registry.roster.work account (·.update sv now)).2 }) rfl (by
      rw [Roster.work_snd, Roster.accounts_change])
  exact worked.turn call trivial

theorem sound_removeNext {account : AccountId} {todo : List AccountId} (sound : round.Sound)
    (call : round.call = none) : (round.removeNext account todo).Sound := by
  unfold removeNext
  split
  · exact sound.turn call trivial
  · obtain ⟨kept, -, aim⟩ := Exchange.sound_remove call sound.exchange account
    refine ⟨kept, sound.distinct, ?_, ?_, fun quiet => Bool.noConfusion quiet⟩
    · intro other region headed
      change (round.exchange.remove account).aim other = some region at headed
      rw [aim, Function.update_apply] at headed
      split at headed
      · exact absurd headed (Option.some_ne_none _).symm
      · exact sound.listed other region headed
    · change (round.exchange.remove account).aim account = none
      rw [aim, Function.update_self]

theorem sound_discharge {account : AccountId} {todo : List AccountId} (sound : round.Sound)
    (call : round.call = none) (gone : round.exchange.aim account = none) :
    Sound { round.modify (·.discharge sv account) with phase := .removing todo } := by
  have same := exchange_modify (·.discharge sv account)
    (Registry.regions_discharge account round.registry)
  have accounts := Registry.accounts_discharge sv account round.registry
  refine ⟨?_, ?_, ?_, trivial, fun _ => call⟩
  · exact (same ▸ sound.exchange : (round.modify (·.discharge sv account)).exchange.Sound)
  · exact (accounts ▸ sound.distinct.filter _ :
      (round.registry.discharge sv account).roster.accounts.Nodup)
  · intro other region headed
    change (round.modify (·.discharge sv account)).exchange.aim other = some region at headed
    change other ∈ (round.registry.discharge sv account).roster.accounts
    rw [same] at headed
    rw [accounts]
    refine List.mem_filter.mpr ⟨sound.listed other region headed, bne_iff_ne.mpr ?_⟩
    rintro rfl
    exact absurd (headed.symm.trans gone) (Option.some_ne_none _)

theorem sound_admit (sound : round.Sound) (call : round.call = none) :
    Sound { round with
      registry := round.registry.admitQueued sv
      phase := .rehoming (round.registry.admitQueued sv).roster.accounts, seen := [] } := by
  have accounts := accounts_admitQueued sv round.registry
  have admitted := sound.modify (·.admitQueued sv) rfl (List.Perm.of_eq accounts)
  exact ⟨admitted.exchange, admitted.distinct, admitted.listed,
    ⟨List.Perm.refl _, fun _ mem => absurd mem List.not_mem_nil⟩, fun _ => call⟩

theorem sound_rehomeNext {account : AccountId} {todo : List AccountId} (sound : round.Sound)
    (call : round.call = none)
    (fits : (round.seen.map (·.1) ++ account :: todo).Perm round.registry.roster.accounts ∧
      ∀ entry ∈ round.seen, round.exchange.aim entry.1 = entry.2) :
    (round.rehomeNext sv account todo).Sound := by
  obtain ⟨perm, headed⟩ := fits
  have present : account ∈ round.registry.roster.accounts :=
    perm.mem_iff.mp (List.mem_append_right _ List.mem_cons_self)
  -- Each account has its turn once, so no later call undoes what this one asks for.
  have unseen : account ∉ round.seen.map (·.1) := by
    have distinct := perm.nodup_iff.mpr sound.distinct
    rw [List.nodup_append] at distinct
    exact fun mem => distinct.2.2 account mem account List.mem_cons_self rfl
  obtain ⟨seat, found⟩ := Roster.mem_accounts_iff.mp present
  simp only [rehomeNext, found]
  generalize seat.session.playerRegion sv.collaborators round.registry.roster.outside.world =
    region
  obtain ⟨kept, -, aim⟩ := Exchange.sound_place call sound.exchange account region
  refine ⟨kept, sound.distinct, ?_, ⟨?_, ?_⟩, fun quiet => Bool.noConfusion quiet⟩
  · intro other there towards
    change (round.exchange.place account region).aim other = some there at towards
    rw [aim, Function.update_apply] at towards
    split at towards
    · next same => exact same ▸ present
    · exact sound.listed other there towards
  · rw [List.map_append, List.append_assoc]
    exact perm
  · intro entry mem
    change (round.exchange.place account region).aim entry.1 = entry.2
    rw [aim]
    rcases List.mem_append.mp mem with earlier | last
    · rw [Function.update_of_ne, headed entry earlier]
      rintro rfl
      exact unseen (List.mem_map_of_mem earlier)
    · rw [List.mem_singleton.mp last, Function.update_self]

theorem sound_proceed (sound : round.Sound) (call : round.call = none) :
    (round.proceed sv).Sound := by
  have fits := sound.fits
  unfold proceed
  split
  · exact sound
  · exact sound_tickNext sound call
  · exact sound.turn call trivial
  · exact sound_removeNext sound call
  · next account todo phase =>
    rw [phase] at fits
    exact sound_discharge sound call fits
  · exact sound_admit sound call
  · next account todo phase =>
    rw [phase] at fits
    exact sound_rehomeNext sound call fits
  · exact sound.turn call trivial

/-! ### Anything that can happen -/

theorem sound_login (account : Account) (socket : SocketId) (auth : Envelope) (now : Instant)
    (sound : round.Sound) (idle : round.phase = .idle) :
    Sound (round.modify fun registry => (registry.login sv account socket auth now).2) := by
  have regions := Registry.regions_login sv account socket auth now round.registry
  rcases Registry.accounts_login sv account socket auth now round.registry
    with same | ⟨absent, more⟩
  · exact sound.modify _ regions (List.Perm.of_eq same)
  · have exchange := exchange_modify
      (fun registry => (registry.login sv account socket auth now).2) regions
    refine ⟨exchange ▸ sound.exchange, ?_, ?_, ?_, sound.quiet⟩
    · rw [registry_modify, more, ← List.concat_eq_append]
      exact sound.distinct.concat absent
    · intro other region headed
      rw [exchange] at headed
      rw [registry_modify, more]
      exact List.mem_append_left _ (sound.listed other region headed)
    · change round.phase.Fits _ _ _
      rw [idle]
      trivial

theorem sound_tick (actor : Nat) (now : Instant) (sound : round.Sound) :
    (round.tick sv actor now).Sound := by
  obtain ⟨kept, -, aim⟩ := Exchange.sound_tick sound.exchange actor now
  unfold tick
  split
  · exact sound
  · split
    · have asked := sound.ask kept aim fun call => by
        unfold Exchange.tick
        split
        · exact call
        · split <;> exact call
      refine asked.modify _ rfl ?_
      rw [Registry.drain_eq, Registry.accounts_tickEach]
    · exact sound

theorem sound_step (step : RoundStep W) (sound : round.Sound) : (round.step sv step).Sound := by
  cases step with
  | login account socket auth now =>
    rw [Round.step]
    split
    · next idle => exact sound_login account socket auth now sound idle
    · exact sound
  | start now =>
    rw [Round.step]
    split
    · next idle => exact sound.turn (sound.quiet (by rw [idle]; rfl)) trivial
    · exact sound
  | proceed =>
    simp only [Round.step, Option.isNone_iff_eq_none]
    split
    · next call => exact sound_proceed sound call
    · exact sound
  | deliver =>
    obtain ⟨kept, -, aim⟩ := Exchange.sound_deliver sound.exchange
    refine sound.ask kept aim fun call => ?_
    unfold Exchange.deliver
    rw [exchange, call]
  | conclude =>
    obtain ⟨kept, -, aim⟩ := Exchange.sound_conclude sound.exchange
    refine sound.ask kept aim fun call => ?_
    unfold Exchange.conclude
    rw [exchange, call]
  | tick actor now => exact sound_tick actor now sound
  | act account step => exact sound.modify _ rfl (List.Perm.of_eq (Registry.accounts_work ..))
  | outside change => exact sound.modify _ rfl (List.Perm.refl _)
  | reorder order perm => exact sound.modify _ rfl ((perm _).map _)

theorem sound_run (steps : List (RoundStep W)) (sound : round.Sound) :
    (round.run sv steps).Sound := by
  induction steps generalizing round with
  | nil => exact sound
  | cons step steps ih => exact ih (sound_step step sound)

/-! ## Where sessions are after a world tick -/

/-- What holds when a world tick has nothing left to do: every session's player has been
seen once, the session is placed where that was, and nobody else is placed. -/
structure Settled (round : Round W) : Prop where
  seen : (round.seen.map (·.1)).Perm round.registry.roster.accounts
  placed : ∀ account region, (account, region) ∈ round.seen →
    round.registry.regions.placement account = region
  others : ∀ account, account ∉ round.registry.roster.accounts →
    round.registry.regions.placement account = none

theorem Sound.placement_of_absent {account : AccountId} (sound : round.Sound)
    (call : round.call = none) (absent : account ∉ round.registry.roster.accounts) :
    round.registry.regions.placement account = none := by
  refine Option.eq_none_iff_forall_ne_some.mpr fun region placed => absent ?_
  refine sound.listed account region ?_
  rw [Exchange.aim_of_idle call]
  exact placed

theorem Sound.settled (sound : round.Sound) (phase : round.phase = .rehoming [])
    (call : round.call = none) : round.Settled := by
  have fits := sound.fits
  rw [phase] at fits
  refine ⟨?_, ?_, fun account => sound.placement_of_absent call⟩
  · rw [← List.append_nil (round.seen.map _)]
    exact fits.1
  · intro account region mem
    have headed := fits.2 _ mem
    rw [Exchange.aim_of_idle call] at headed
    exact headed

/-- Re-homing places the sessions of a sound registry in the regions of their players. -/
theorem placement_rehome (sound : round.Sound) (call : round.call = none) (account : AccountId) :
    (round.registry.rehome sv).regions.placement account =
      (round.registry.roster.get? account).bind fun seat =>
        seat.session.playerRegion sv.collaborators round.registry.roster.outside.world := by
  let places := round.registry.roster.seats.map fun entry =>
    (entry.1, entry.2.session.playerRegion sv.collaborators round.registry.roster.outside.world)
  have rehomed : (round.registry.rehome sv).regions =
      places.foldl (fun pool entry => (pool.place entry.1 entry.2).2) round.registry.regions := by
    rw [List.foldl_map]
    rfl
  have accounts : places.map (·.1) = round.registry.roster.accounts := by
    rw [List.map_map]
    rfl
  have settled : Exchange.Sound { pool := round.registry.regions } := sound.exchange.settle call
  obtain ⟨listed, others⟩ := Exchange.settle_places places settled (accounts ▸ sound.distinct)
  rw [rehomed]
  cases found : round.registry.roster.get? account with
  | none =>
    have absent := Roster.get?_eq_none_iff.mp found
    rw [others account (accounts ▸ absent), sound.placement_of_absent call absent]
    rfl
  | some seat =>
    obtain ⟨entry, hit, rfl⟩ := Option.map_eq_some_iff.mp found
    have own : entry.1 = account := by simpa using List.find?_some hit
    have placed := listed _ (List.mem_map_of_mem (List.mem_of_find?_eq_some hit))
    rw [← own]
    exact placed

/-- After a world tick that nothing disturbs every session is placed in the region of its
player, and nobody else is placed. -/
theorem placement_update (sound : round.Sound) (idle : round.phase = .idle) (now : Instant)
    (account : AccountId) :
    let after := (round.registry.update sv now).2
    after.regions.placement account = (after.roster.get? account).bind fun seat =>
      seat.session.playerRegion sv.collaborators after.roster.outside.world := by
  have call := sound.quiet (by rw [idle]; rfl)
  have begun : Sound { round with phase := .ticking now round.registry.roster.accounts [] } :=
    sound.turn call trivial
  obtain ⟨n, result, drained, seen, reached⟩ := gets_admitted sv now round.registry
    round.result round.drained round.seen
  have admitted := @sound_run W sv _ (List.replicate n chore).flatten begun
  rw [call, reached] at admitted
  exact placement_rehome admitted rfl account

end Round

/-! ## The main result -/

/-- Whatever calls are made and whenever actors tick, a pool is in order at any moment,
and once a call that takes a session out has returned no tick drains the session until a
call places it again. In a registry every world tick leaves each session where its player
was seen, and nobody else placed; one that nothing disturbs leaves each session in the
region of its player. -/
theorem placements_follow_players (sv : Services W) (config : RegionConfig) (start : Instant) :
    (∀ steps, (Exchange.run { pool := .start config start } steps).InOrder) ∧
    (∀ account before quit during later,
      let exchange := Exchange.run { pool := .start config start } before
      let returned := exchange.run (quit :: during)
      exchange.call = none → (quit = .place account none ∨ quit = .remove account) →
      returned.call = none → (exchange.step quit).Unplaced account (during ++ later) →
      ∃ more, (returned.run later).drained = returned.drained ++ more ∧ account ∉ more) ∧
    (∀ maxActive outside steps,
      let round := Round.run sv steps
        { registry := .empty maxActive (.start config start) outside }
      round.exchange.InOrder ∧
      (round.phase = .rehoming [] → round.call = none → round.Settled) ∧
      (round.phase = .idle → ∀ now account,
        let after := (round.registry.update sv now).2
        after.regions.placement account = (after.roster.get? account).bind fun seat =>
          seat.session.playerRegion sv.collaborators after.roster.outside.world)) := by
  refine ⟨Exchange.inOrder_run config start, ?_, ?_⟩
  · intro account before quit during later exchange returned idle takes back unplaced
    have sound := Exchange.sound_run (Exchange.sound_start config start) before
    exact Exchange.undrained_after_quit sound idle takes back unplaced
  · intro maxActive outside steps round
    have sound : round.Sound :=
      Round.sound_run steps (Round.sound_empty config start maxActive outside)
    exact ⟨sound.exchange.inOrder, sound.settled, Round.placement_update sound⟩

/-- A session that is removed while its actor ticks is drained once more, and then no more.
Of two sessions the one whose player is in the world is placed. -/
theorem placements_follow_players_two_actors :
    let exchange := Exchange.run { pool := .start { actorCount := 2 } 0 }
      (.place ⟨1⟩ (some ⟨1⟩) :: Exchange.finishing)
    let returned := exchange.run [.remove ⟨1⟩, .tick 1 0, .deliver, .conclude]
    let round := Round.run Rehearsal.bareServices
      (.login ⟨⟨1⟩, .player, 2, .enUs, ⟨[]⟩⟩ ⟨0⟩ (.withPayload .authSession []) 0 ::
        .login ⟨⟨2⟩, .player, 2, .enUs, ⟨[]⟩⟩ ⟨1⟩ (.withPayload .authSession []) 0 ::
        .act ⟨1⟩ (Rehearsal.just (.attach Rehearsal.lead)) :: .start 0 ::
        (List.replicate 6 Round.chore).flatten)
      { registry := .empty 0 (.start { actorCount := 2 } 0) { world := {} } }
    returned.drained = [⟨1⟩] ∧
      (∃ more, (returned.run [.tick 1 0]).drained = returned.drained ++ more ∧ ⟨1⟩ ∉ more) ∧
      round.seen = [(⟨1⟩, some ⟨1⟩), (⟨2⟩, none)] ∧ round.Settled := by
  have spared : ∀ exchange : Exchange,
      exchange.Unplaced ⟨1⟩ [.tick 1 0, .deliver, .conclude, .tick 1 0] := by
    rintro exchange past step later split ⟨-, region, rfl⟩
    have mem : ExchangeStep.place ⟨1⟩ (some region) ∈
        [ExchangeStep.tick 1 0, .deliver, .conclude, .tick 1 0] :=
      split ▸ List.mem_append_right _ List.mem_cons_self
    simp at mem
  have facts := placements_follow_players Rehearsal.bareServices { actorCount := 2 } 0
  refine ⟨by decide, ?_, by decide, ?_⟩
  · exact facts.2.1 ⟨1⟩ (.place ⟨1⟩ (some ⟨1⟩) :: Exchange.finishing) (.remove ⟨1⟩)
      [.tick 1 0, .deliver, .conclude] [.tick 1 0] rfl (.inr rfl) rfl (spared _)
  · exact (facts.2.2 0 { world := {} } _).2.1 (by decide) rfl

end GameRealm
