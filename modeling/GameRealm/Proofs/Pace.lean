import GameRealm.Proofs.Cadence
import Mathlib.Data.List.Chain

/-!
# The pace of a tick loop

However late a loop wakes, its ticks keep to the clock. A run is a list of strokes: the
loop wakes and fires, and now and then the work of a tick is reported done. Whatever the
policy, the ticks that a run reports are numbered without gaps, their time differences
leave nothing out, and the loop is never ahead of real time:

1. `period_validated_pos`: validated settings have a period, so that all counts of
   periods mean something;
2. `fired_finish` and `onTime_finish`: reports of finished work change neither the ticks
   nor the schedule, so that the inductions below are about wake-ups only;
3. `Ahead` is the invariant that bounds a loop by the clock: the schedule is always a
   period further than the ticks fired and given up. `ahead_fire` is its step,
   `within_clock` the run;
4. `count_le_waiting` and `count_le_cap`: how many ticks fire at one instant;
5. `reports_keep_pace` puts it all together for every run from the start of a loop.
-/

namespace GameRealm

/-! ## The period -/

namespace TickConfig

theorem clampRate_le (rate : UInt32) :
    1 ≤ (clampRate rate).toNat ∧ (clampRate rate).toNat ≤ 200 := by
  have least : rate < 1 ↔ rate.toNat < 1 := UInt32.lt_iff_toNat_lt
  have most : rate ≤ maxRate ↔ rate.toNat ≤ 200 := UInt32.le_iff_toNat_le
  unfold clampRate
  split
  · decide
  · next above =>
    rw [least] at above
    rw [show min rate maxRate = if rate ≤ maxRate then rate else maxRate from rfl]
    split
    · next below => exact ⟨Nat.le_of_not_lt above, most.mp below⟩
    · decide

theorem period_of_rate : ∀ rate < 200,
    5000000 ≤ ({ rate := UInt32.ofNat (rate + 1) : TickConfig }).period := by
  decide +kernel

theorem period_validated_pos (config : TickConfig) : 0 < config.validated.period := by
  obtain ⟨least, most⟩ := clampRate_le config.rate
  have rate : UInt32.ofNat ((clampRate config.rate).toNat - 1 + 1) = clampRate config.rate := by
    rw [Nat.sub_add_cancel least, UInt32.ofNat_toNat]
  have period := period_of_rate ((clampRate config.rate).toNat - 1) (by omega)
  rw [rate] at period
  exact Nat.lt_of_lt_of_le (by decide) period

end TickConfig

namespace TickLoop

/-! ## Runs -/

inductive Stroke where
  /-- The loop wakes and fires a tick. -/
  | wake (now : Instant)
  /-- The work of the current tick is reported done. -/
  | finish (now : Instant)

def drive : List Stroke → TickLoop → TickLoop
  | [], ticks => ticks
  | .wake now :: strokes, ticks => drive strokes (ticks.fire now)
  | .finish now :: strokes, ticks => drive strokes (ticks.finish now).2

/-- The ticks that are reported in the course of some strokes. -/
def fired : List Stroke → TickLoop → List Tick
  | [], _ => []
  | .wake now :: strokes, ticks => ticks.next now :: fired strokes (ticks.fire now)
  | .finish now :: strokes, ticks => fired strokes (ticks.finish now).2

/-- A loop sleeps until its tick is due, by a clock that does not go back, and its count of
the periods that it is late holds. -/
def OnTime : List Stroke → TickLoop → Prop
  | [], _ => True
  | .wake now :: strokes, ticks =>
    (ticks.due ≤ now ∧ (∀ last ∈ ticks.lastFired, last ≤ now) ∧ ticks.behind now < countLimit) ∧
      OnTime strokes (ticks.fire now)
  | .finish now :: strokes, ticks => OnTime strokes (ticks.finish now).2

instance decidableOnTime : (strokes : List Stroke) → (ticks : TickLoop) →
    Decidable (OnTime strokes ticks)
  | [], _ => isTrue trivial
  | .wake now :: strokes, ticks =>
    @instDecidableAnd _ _ inferInstance (decidableOnTime strokes (ticks.fire now))
  | .finish _ :: strokes, ticks => decidableOnTime strokes (ticks.finish _).2

/-- The loop without what it knows about work. -/
def bare (ticks : TickLoop) : TickLoop :=
  { ticks with
    workStarted := none
    stats := { ticks.stats with avgWork := 0, maxWork := 0 } }

section
variable {ticks other : TickLoop} {now : Instant} {strokes : List Stroke}

theorem bare_finish (ticks : TickLoop) (now : Instant) :
    (ticks.finish now).2.bare = ticks.bare := by
  unfold finish
  split <;> rfl

theorem next_of_bare (same : ticks.bare = other.bare) (now : Instant) :
    ticks.next now = other.next now := by
  change ticks.bare.next now = other.bare.next now
  rw [same]

theorem fire_of_bare (same : ticks.bare = other.bare) (now : Instant) :
    (ticks.fire now).bare = (other.fire now).bare := by
  change (ticks.bare.fire now).bare = (other.bare.fire now).bare
  rw [same]

theorem drive_of_bare (same : ticks.bare = other.bare) :
    (drive strokes ticks).bare = (drive strokes other).bare := by
  induction strokes generalizing ticks other with
  | nil => exact same
  | cons stroke strokes ih =>
    cases stroke with
    | wake now => exact ih (fire_of_bare same now)
    | finish now => exact ih (by rw [bare_finish, bare_finish, same])

theorem fired_of_bare (same : ticks.bare = other.bare) :
    fired strokes ticks = fired strokes other := by
  induction strokes generalizing ticks other with
  | nil => rfl
  | cons stroke strokes ih =>
    cases stroke with
    | wake now =>
      rw [fired, fired, next_of_bare same, ih (fire_of_bare same now)]
    | finish now => exact ih (by rw [bare_finish, bare_finish, same])

theorem onTime_of_bare (same : ticks.bare = other.bare) (onTime : OnTime strokes ticks) :
    OnTime strokes other := by
  induction strokes generalizing ticks other with
  | nil => trivial
  | cons stroke strokes ih =>
    cases stroke with
    | wake now =>
      refine ⟨?_, ih (fire_of_bare same now) onTime.2⟩
      change other.bare.due ≤ now ∧ (∀ last ∈ other.bare.lastFired, last ≤ now) ∧
        other.bare.behind now < countLimit
      rw [← same]
      exact onTime.1
    | finish now => exact ih (by rw [bare_finish, bare_finish, same]) onTime

/-- That work is reported done does not show in the ticks. -/
theorem fired_finish : fired (.finish now :: strokes) ticks = fired strokes ticks :=
  fired_of_bare (bare_finish ticks now)

theorem onTime_finish (onTime : OnTime (.finish now :: strokes) ticks) : OnTime strokes ticks :=
  onTime_of_bare (bare_finish ticks now) onTime

/-! ## Numbers and sums -/

theorem numbers_fired :
    (fired strokes ticks).map (·.number) =
      List.range' (ticks.count + 1) (fired strokes ticks).length := by
  induction strokes generalizing ticks with
  | nil => rfl
  | cons stroke strokes ih =>
    cases stroke with
    | wake now =>
      rw [fired, List.map_cons, ih, List.length_cons, List.range'_succ]
      rfl
    | finish now => rw [fired_finish, ih]

/-- The statistics are what the reported ticks add up to. -/
theorem stats_drive :
    (drive strokes ticks).stats.total = ticks.stats.total + (fired strokes ticks).length ∧
      (drive strokes ticks).stats.skipped =
        ticks.stats.skipped + ((fired strokes ticks).map (·.skipped)).sum ∧
      (drive strokes ticks).stats.overruns =
        ticks.stats.overruns + (fired strokes ticks).countP (·.overrun) := by
  induction strokes generalizing ticks with
  | nil => exact ⟨rfl, rfl, rfl⟩
  | cons stroke strokes ih =>
    cases stroke with
    | wake now =>
      obtain ⟨total, skipped, overruns⟩ := @ih (ticks.fire now)
      rw [drive, total, skipped, overruns, fired, List.length_cons, List.map_cons, List.sum_cons,
        List.countP_cons]
      simp only [fire]
      omega
    | finish now =>
      have work : (drive strokes (ticks.finish now).2).bare = (drive strokes ticks).bare :=
        drive_of_bare (bare_finish ticks now)
      have stats := congrArg TickLoop.stats work
      rw [fired_finish, drive]
      obtain ⟨total, skipped, overruns⟩ := @ih ticks
      exact ⟨(congrArg TickStats.total stats).trans total,
        (congrArg TickStats.skipped stats).trans skipped,
        (congrArg TickStats.overruns stats).trans overruns⟩

/-- The differences that are reported after a tick add up to the time since that tick. -/
theorem sum_diffs {last : Instant} (before : ticks.lastFired = some last)
    (onTime : OnTime strokes ticks) :
    ((((fired strokes ticks).map (·.diff)).sum : Nat) : Int) =
      ((fired strokes ticks).getLast?.map (·.firedAt)).getD last - last := by
  -- Each difference is counted from the tick before, so the sum telescopes.
  induction strokes generalizing ticks last with
  | nil => simp [fired]
  | cons stroke strokes ih =>
    cases stroke with
    | wake now =>
      obtain ⟨⟨-, onward, -⟩, rest⟩ := onTime
      have later : last ≤ now := onward last before
      have others := @ih (ticks.fire now) now rfl rest
      have diff : ((ticks.next now).diff : Int) = now - last := by
        simp only [next, before]
        exact Int.toNat_of_nonneg (Int.sub_nonneg_of_le later)
      have final : ((fired (.wake now :: strokes) ticks).getLast?.map (·.firedAt)).getD last =
          ((fired strokes (ticks.fire now)).getLast?.map (·.firedAt)).getD now := by
        rw [fired, List.getLast?_cons]
        cases (fired strokes (ticks.fire now)).getLast? <;> rfl
      rw [final, fired, List.map_cons, List.sum_cons, Nat.cast_add, diff, others]
      unfold Instant
      omega
    | finish now =>
      rw [fired_finish]
      exact ih before (onTime_finish onTime)

/-- From the first tick of a loop to the last, no time is left out, and the first tick counts
for one period. -/
theorem sum_diffs_of_fresh (fresh : ticks.lastFired = none) (onTime : OnTime strokes ticks) :
    ∀ first ∈ (fired strokes ticks).head?, ∀ last ∈ (fired strokes ticks).getLast?,
      ((((fired strokes ticks).map (·.diff)).sum : Nat) : Int) =
        last.firedAt - first.firedAt + ticks.period := by
  induction strokes generalizing ticks with
  | nil => exact nofun
  | cons stroke strokes ih =>
    cases stroke with
    | wake now =>
      intro first head last final
      obtain rfl : ticks.next now = first := Option.some.inj head
      have others := @sum_diffs (ticks.fire now) strokes now rfl onTime.2
      have diff : (ticks.next now).diff = ticks.period := by simp only [next, fresh]
      have ends : ((fired strokes (ticks.fire now)).getLast?.map (·.firedAt)).getD now =
          last.firedAt := by
        rw [fired, List.getLast?_cons] at final
        obtain rfl := Option.some.inj final
        cases (fired strokes (ticks.fire now)).getLast? <;> rfl
      rw [ends] at others
      rw [fired, List.map_cons, List.sum_cons, Nat.cast_add, diff, others]
      change (ticks.period : Int) + (last.firedAt - now) = last.firedAt - now + ticks.period
      exact Int.add_comm _ _
    | finish now =>
      rw [fired_finish]
      exact ih fresh (onTime_finish onTime)

/-! ## The clock -/

/-- The schedule is a period further from the origin than the ticks fired and given up
account for. -/
def Ahead (origin : Instant) (ticks : TickLoop) : Prop :=
  origin + ((ticks.stats.total + ticks.stats.skipped + 1) * ticks.period : Nat) ≤ ticks.due

theorem skipped_mul_le (positive : 0 < ticks.period) (late : ticks.due ≤ now) :
    ticks.due + ((ticks.next now).skipped * ticks.period : Nat) ≤ now := by
  have whole : ticks.behind now * ticks.period ≤ now.since ticks.due := Nat.div_mul_le_self _ _
  have few : (ticks.next now).skipped ≤ ticks.behind now := by
    have moved := Nat.mod_le (ticks.behind now) countLimit
    rcases fire_cases positive now with
      ⟨-, skipped, -⟩ | ⟨cap, -, ⟨-, skipped, -⟩ | ⟨-, skipped, -⟩⟩ <;> omega
  exact (Instant.le_since late).mp ((Nat.mul_le_mul_right _ few).trans whole)

theorem due_add_le_fire (positive : 0 < ticks.period) (late : ticks.due ≤ now) :
    ticks.due + ticks.period ≤ (ticks.fire now).due := by
  unfold Instant at late ⊢
  rcases fire_cases positive now with
    ⟨-, -, due⟩ | ⟨cap, -, ⟨-, -, due⟩ | ⟨-, -, due⟩⟩ <;> rw [due] <;> omega

/-- A tick comes after as much time as the ticks up to it account for, and the schedule
stays ahead. -/
theorem ahead_fire {origin : Instant} (ahead : ticks.Ahead origin) (positive : 0 < ticks.period)
    (late : ticks.due ≤ now) :
    origin + (((ticks.fire now).stats.total + (ticks.fire now).stats.skipped) * ticks.period : Nat)
        ≤ now ∧ (ticks.fire now).Ahead origin := by
  have given := skipped_mul_le positive late
  have moved := due_add_le_fire positive late
  simp only [Ahead, Nat.add_mul, Nat.one_mul] at ahead
  have total : (ticks.fire now).stats.total = ticks.stats.total + 1 := rfl
  have skipped : (ticks.fire now).stats.skipped =
    ticks.stats.skipped + (ticks.next now).skipped := rfl
  rw [Ahead, total, skipped, period_fire]
  simp only [Nat.add_mul, Nat.one_mul]
  unfold Instant at ahead given moved late ⊢
  refine ⟨by omega, ?_⟩
  -- A tick that goes on from when it was due has given up nothing.
  rcases fire_cases positive now with
    ⟨-, -, due⟩ | ⟨cap, -, ⟨-, none, due⟩ | ⟨-, -, due⟩⟩
  · rw [due]
    omega
  · rw [none, due]
    omega
  · rw [due]
    omega

/-- No tick of a run comes before as much time has passed as the ticks up to it account for. -/
theorem within_clock {origin : Instant} (ahead : ticks.Ahead origin) (positive : 0 < ticks.period)
    (onTime : OnTime strokes ticks) (n : Nat) {tick : Tick}
    (reported : (fired strokes ticks)[n]? = some tick) :
    origin + ((ticks.stats.total + (n + 1) + (ticks.stats.skipped +
      (((fired strokes ticks).take (n + 1)).map (·.skipped)).sum)) * ticks.period : Nat) ≤
        tick.firedAt := by
  induction strokes generalizing ticks n with
  | nil => cases reported
  | cons stroke strokes ih =>
    cases stroke with
    | wake now =>
      obtain ⟨⟨late, -, -⟩, rest⟩ := onTime
      -- The schedule stays ahead of what is accounted for, which carries the induction.
      obtain ⟨reached, ahead'⟩ := ahead_fire ahead positive late
      have total : (ticks.fire now).stats.total = ticks.stats.total + 1 := rfl
      have skipped : (ticks.fire now).stats.skipped =
        ticks.stats.skipped + (ticks.next now).skipped := rfl
      cases n with
      | zero =>
        obtain rfl : ticks.next now = tick := Option.some.inj reported
        simpa [fired, next, total, skipped] using reached
      | succ n =>
        have others := ih ahead' positive rest n reported
        rw [total, skipped, period_fire] at others
        rw [fired, List.take_succ_cons, List.map_cons, List.sum_cons]
        have sum : ticks.stats.total + (n + 1 + 1) + (ticks.stats.skipped +
            ((ticks.next now).skipped +
              (((fired strokes (ticks.fire now)).take (n + 1)).map (·.skipped)).sum)) =
            ticks.stats.total + 1 + (n + 1) + (ticks.stats.skipped + (ticks.next now).skipped +
              (((fired strokes (ticks.fire now)).take (n + 1)).map (·.skipped)).sum) := by
          omega
        rw [sum]
        exact others
    | finish now =>
      rw [fired_finish] at reported ⊢
      exact ih ahead positive (onTime_finish onTime) n reported

/-! ## Distances -/

theorem due_le_fired (positive : 0 < ticks.period) (onTime : OnTime strokes ticks) :
    ∀ tick ∈ fired strokes ticks, ticks.due ≤ tick.firedAt := by
  induction strokes generalizing ticks with
  | nil => exact fun _ mem => absurd mem List.not_mem_nil
  | cons stroke strokes ih =>
    cases stroke with
    | wake now =>
      obtain ⟨⟨late, -, -⟩, rest⟩ := onTime
      intro tick mem
      rcases List.mem_cons.mp mem with rfl | mem
      · exact late
      · exact Int.le_of_lt (Int.lt_of_lt_of_le (due_lt_fire positive late)
          (@ih (ticks.fire now) positive rest tick mem))
    | finish now =>
      rw [fired_finish]
      exact ih positive (onTime_finish onTime)

/-- A loop that skips keeps its ticks a period apart. -/
theorem apart_of_skip (policy : ticks.config.policy = .skip) (positive : 0 < ticks.period)
    (onTime : OnTime strokes ticks) :
    (fired strokes ticks).IsChain fun (tick later : Tick) =>
      tick.firedAt + ticks.period ≤ later.firedAt := by
  induction strokes generalizing ticks with
  | nil => exact .nil
  | cons stroke strokes ih =>
    cases stroke with
    | wake now =>
      obtain ⟨-, rest⟩ := onTime
      refine List.isChain_cons.mpr ⟨fun later first => ?_,
        @ih (ticks.fire now) policy positive rest⟩
      have due : (ticks.fire now).due = now + ticks.period := by
        simp only [fire, policy, reschedule]
      have later_due := @due_le_fired (ticks.fire now) strokes positive rest later
        (List.mem_of_mem_head? first)
      exact due ▸ later_due
    | finish now =>
      rw [fired_finish]
      exact ih policy positive (onTime_finish onTime)

/-! ## Bursts -/

/-- The ticks that have come due up to an instant. -/
def waiting (ticks : TickLoop) (instant : Instant) : Nat :=
  (instant + ticks.period : Instant).since ticks.due / ticks.period

theorem waiting_of_due (positive : 0 < ticks.period) (due : ticks.due ≤ now) :
    ticks.waiting now = ticks.behind now + 1 := periods_from_now positive due

theorem waiting_fire_le (positive : 0 < ticks.period) (late : ticks.due ≤ now)
    (instant : Instant) : (ticks.fire now).waiting instant ≤ ticks.waiting instant - 1 := by
  have moved := due_add_le_fire positive late
  have nearer : (instant + ticks.period : Instant).since (ticks.fire now).due ≤
      (instant + ticks.period : Instant).since ticks.due - ticks.period := by
    change (instant + ticks.period - (ticks.fire now).due : Int).toNat ≤
      (instant + ticks.period - ticks.due : Int).toNat - ticks.period
    unfold Instant at moved
    omega
  calc (ticks.fire now).waiting instant
    _ ≤ ((instant + ticks.period : Instant).since ticks.due - ticks.period) / ticks.period :=
        Nat.div_le_div_right nearer
    _ = ticks.waiting instant - 1 := by
        have one := Nat.sub_mul_div ((instant + ticks.period : Instant).since ticks.due)
          ticks.period 1
        rwa [Nat.mul_one] at one

/-- No more ticks fire at an instant than have come due. -/
theorem count_le_waiting (positive : 0 < ticks.period) (onTime : OnTime strokes ticks)
    (instant : Instant) :
    (fired strokes ticks).countP (·.firedAt = instant) ≤ ticks.waiting instant := by
  induction strokes generalizing ticks with
  | nil => exact Nat.zero_le _
  | cons stroke strokes ih =>
    cases stroke with
    | wake now =>
      obtain ⟨⟨late, -, -⟩, rest⟩ := onTime
      have others := @ih (ticks.fire now) positive rest
      have fewer := waiting_fire_le positive late instant
      rw [fired, List.countP_cons]
      by_cases here : (ticks.next now).firedAt = instant
      · have one := waiting_of_due positive late
        rw [if_pos (decide_eq_true here)]
        obtain rfl : now = instant := here
        omega
      · rw [if_neg (by simpa using here)]
        omega
    | finish now =>
      rw [fired_finish]
      exact ih positive (onTime_finish onTime)

/-- A loop that catches up fires at most one tick more at an instant than its cap allows it to
be behind. -/
theorem count_le_cap {cap : UInt32} (policy : ticks.config.policy = .catchUp cap)
    (positive : 0 < ticks.period) (onTime : OnTime strokes ticks) (instant : Instant) :
    (fired strokes ticks).countP (·.firedAt = instant) ≤ cap.toNat + 1 := by
  induction strokes generalizing ticks with
  | nil => exact Nat.zero_le _
  | cons stroke strokes ih =>
    cases stroke with
    | wake now =>
      obtain ⟨⟨late, -, counts⟩, rest⟩ := id onTime
      by_cases here : now = instant
      · subst here
        by_cases within : ticks.behind now ≤ cap.toNat
        · have few := @count_le_waiting ticks (.wake now :: strokes) positive onTime now
          rw [waiting_of_due positive late] at few
          omega
        · -- Beyond the cap the next tick waits for a period, so that this one is alone.
          have due : (ticks.fire now).due = now + ticks.period := by
            have beyond : ¬ ticks.behind now % countLimit ≤ cap.toNat := by
              rwa [Nat.mod_eq_of_lt counts]
            simp only [fire, periodsLate_eq positive, policy, reschedule, if_neg beyond]
          have alone : (fired strokes (ticks.fire now)).countP (·.firedAt = now) = 0 := by
            refine List.countP_eq_zero.mpr fun tick mem same => ?_
            have later := @due_le_fired (ticks.fire now) strokes positive rest tick mem
            rw [due, of_decide_eq_true same] at later
            exact absurd (Instant.lt_add positive (Int.le_refl now)) (Int.not_lt.mpr later)
          rw [fired, List.countP_cons, alone]
          split <;> omega
      · have elsewhere : (ticks.next now).firedAt ≠ instant := here
        rw [fired, List.countP_cons_of_neg (by simpa using elsewhere)]
        exact @ih (ticks.fire now) policy positive rest
    | finish now =>
      rw [fired_finish]
      exact ih policy positive (onTime_finish onTime)

end

/-! ## From the start -/

/-- Take any run of a loop from its start, with any settings, whatever its policy and whatever
is reported of its work. The ticks are numbered from one. Their differences add up to the time
from the first to the last and one period. At every tick, the ticks fired and given up so far
take no more time than has passed since the loop started, so that their 64-bit counts hold until
as many periods have passed. A loop that skips keeps its ticks a period apart, and one that
catches up fires at most one tick more than its cap at one instant. The statistics are the sums
over the ticks. -/
theorem reports_keep_pace (config : TickConfig) (created : Instant) (jitter : Duration)
    (strokes : List Stroke) (onTime : OnTime strokes (start config created jitter)) :
    let period := config.validated.period
    let origin : Instant := created + jitter
    let ticks := fired strokes (start config created jitter)
    let stats := (drive strokes (start config created jitter)).stats
    0 < period ∧
    ticks.map (·.number) = List.range' 1 ticks.length ∧
    (∀ first ∈ ticks.head?, ∀ last ∈ ticks.getLast?,
      (((ticks.map (·.diff)).sum : Nat) : Int) = last.firedAt - first.firedAt + period) ∧
    (∀ n tick, ticks[n]? = some tick →
      let sofar := n + 1 + ((ticks.take (n + 1)).map (·.skipped)).sum
      origin + (sofar * period : Nat) ≤ tick.firedAt ∧
        (tick.firedAt < origin + (countLimit * period : Nat) → sofar < countLimit)) ∧
    (config.policy = .skip →
      ticks.IsChain fun (tick next : Tick) => tick.firedAt + period ≤ next.firedAt) ∧
    (∀ cap, config.policy = .catchUp cap →
      ∀ instant, ticks.countP (·.firedAt = instant) ≤ cap.toNat + 1) ∧
    stats.total = ticks.length ∧
    stats.skipped = (ticks.map (·.skipped)).sum ∧
    stats.overruns = ticks.countP (·.overrun) := by
  intro period origin ticks stats
  have positive : 0 < (start config created jitter).period := config.period_validated_pos
  have ahead : (start config created jitter).Ahead origin := by
    change created + jitter + ((0 + 0 + 1) * period : Nat) ≤ created + period + jitter
    unfold Instant
    omega
  obtain ⟨total, skipped, overruns⟩ := @stats_drive (start config created jitter) strokes
  refine ⟨positive, numbers_fired, sum_diffs_of_fresh rfl onTime, fun n tick reported => ?_,
    fun policy => apart_of_skip policy positive onTime,
    fun cap policy => count_le_cap policy positive onTime,
    total.trans (Nat.zero_add _), skipped.trans (Nat.zero_add _), overruns.trans (Nat.zero_add _)⟩
  intro sofar
  have reached : origin + (sofar * period : Nat) ≤ tick.firedAt := by
    have clock := within_clock ahead positive onTime n reported
    have none : (start config created jitter).stats.total + (n + 1) +
        ((start config created jitter).stats.skipped +
          ((ticks.take (n + 1)).map (·.skipped)).sum) = sofar := by
      change 0 + (n + 1) + (0 + _) = _
      rw [Nat.zero_add, Nat.zero_add]
    rwa [none] at clock
  refine ⟨reached, fun soon => ?_⟩
  have fewer : sofar * period < countLimit * period := by
    have strict := Int.lt_of_le_of_lt reached soon
    unfold Instant at strict
    omega
  exact Nat.lt_of_mul_lt_mul_right fewer

/-- A loop at twenty ticks a second that catches up on two ticks at most, and whose work is
reported once. It wakes more than two periods late and fires three ticks at that instant, and
then more than four periods late and gives up two. -/
theorem reports_keep_pace_catching_up :
    let config : TickConfig := { policy := .catchUp 2 }
    let loop := start config 0 1500000
    let strokes : List Stroke := [.wake 51500000, .finish 60000000, .wake 215000000,
      .wake 215000000, .wake 215000000, .wake 460000000, .wake 510000000]
    OnTime strokes loop ∧
      (fired strokes loop).map (·.number) = List.range' 1 6 ∧
      ((fired strokes loop).map (·.diff)).sum = 510000000 - 51500000 + 50000000 ∧
      ((fired strokes loop).countP (·.firedAt = 215000000) = 3 ∧
        (fired strokes loop).countP (·.firedAt = 215000000) ≤ 2 + 1) ∧
      (drive strokes loop).stats.skipped = 2 := by
  intro config loop strokes
  have onTime : OnTime strokes loop := by decide +kernel
  obtain ⟨-, numbers, diffs, -, -, bursts, -, skipped, -⟩ :=
    reports_keep_pace config 0 1500000 strokes onTime
  have period : config.validated.period = 50000000 := by decide +kernel
  have sum := diffs _ rfl _ rfl
  rw [period] at sum
  have three : (fired strokes loop).countP (·.firedAt = 215000000) = 3 := by decide +kernel
  have given : ((fired strokes loop).map (·.skipped)).sum = 2 := by decide +kernel
  exact ⟨onTime, numbers, Int.ofNat_inj.mp sum, ⟨three, bursts 2 rfl 215000000⟩,
    skipped.trans given⟩

end TickLoop

end GameRealm
