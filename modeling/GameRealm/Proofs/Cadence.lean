import GameRealm.Tick.Loop
import Mathlib.Tactic.Ring

/-!
# What becomes of the periods that a tick loop passes over

A tick that fires late moves the schedule by more than one period, or is followed by
others that are late as well. Every period that the schedule passes over should show: as
a tick that is fired, or as one that is reported as given up.

1. `TickLoop.shift` counts the whole periods by which a tick moves the schedule, and
   `TickLoop.lost` those among them that are neither fired nor given up: `shift_eq`;
2. `passed_run`: over a whole run, the ticks fired, the ticks given up and what was lost
   add up to the periods passed over;
3. `late_follow`: a loop that catches up fires one late tick for every period that it is
   behind, all of them at the same instant;
4. `accounted_iff_within_cap`: nothing is lost while a loop is no further behind than its
   cap. Beyond it the loop gives up the rest, as it should, but does not fire the ticks up
   to the cap either: those are lost.
-/

namespace GameRealm

/-! ## Spans of time -/

namespace Instant

variable {due now : Int} {d : Nat}

theorem since_add (late : due ≤ now) : since (now + d) due = since now due + d := by
  change (now + d - due : Int).toNat = (now - due : Int).toNat + d
  omega

theorem since_self_add : since (due + d) due = d := by
  change (due + d - due : Int).toNat = d
  omega

theorem since_of_add : since now (due + d) = since now due - d := by
  change (now - (due + d) : Int).toNat = (now - due : Int).toNat - d
  omega

theorem le_since (late : due ≤ now) : d ≤ since now due ↔ due + d ≤ now := by
  change d ≤ (now - due : Int).toNat ↔ due + d ≤ now
  omega

theorem lt_add (positive : 0 < d) (late : due ≤ now) : due < now + d := by omega

end Instant

namespace TickLoop

def run (ticks : TickLoop) (wakes : List Instant) : TickLoop := wakes.foldl fire ticks

/-- A loop sleeps until its tick is due, so it never wakes before. -/
def Timely : List Instant → TickLoop → Prop
  | [], _ => True
  | now :: wakes, ticks => ticks.due ≤ now ∧ Timely wakes (ticks.fire now)

/-- The whole periods that a loop is late when it wakes. -/
def behind (ticks : TickLoop) (now : Instant) : Nat := now.since ticks.due / ticks.period

/-- The whole periods by which a tick moves the schedule. -/
def shift (ticks : TickLoop) (now : Instant) : Nat :=
  (ticks.fire now).due.since ticks.due / ticks.period

/-- The whole periods by which the ticks of a run move the schedule. -/
def passed : List Instant → TickLoop → Nat
  | [], _ => 0
  | now :: wakes, ticks => ticks.shift now + passed wakes (ticks.fire now)

/-- The first number that a 64-bit count cannot hold. -/
def countLimit : Nat := 0x10000000000000000

/-- The periods that a tick passes over although it is not fired for them and does not
give them up: all that a loop beyond its cap could have caught up on, and whole turns of
the 64-bit count. -/
def lost (ticks : TickLoop) (now : Instant) : Nat :=
  let behind := ticks.behind now
  let counted := behind % countLimit
  match ticks.config.policy with
  | .skip => behind - counted
  | .catchUp cap => if counted ≤ cap.toNat then 0 else behind - counted + cap.toNat

/-- What the ticks of a run have lost. -/
def lostOver : List Instant → TickLoop → Nat
  | [], _ => 0
  | now :: wakes, ticks => ticks.lost now + lostOver wakes (ticks.fire now)

section
variable {ticks : TickLoop} {now : Instant} {wakes : List Instant}

@[simp] theorem period_fire (ticks : TickLoop) (now : Instant) :
    (ticks.fire now).period = ticks.period := rfl

@[simp] theorem period_run (ticks : TickLoop) (wakes : List Instant) :
    (ticks.run wakes).period = ticks.period := by
  induction wakes generalizing ticks with
  | nil => rfl
  | cons now wakes ih => exact ih (ticks.fire now)

@[simp] theorem config_run (ticks : TickLoop) (wakes : List Instant) :
    (ticks.run wakes).config = ticks.config := by
  induction wakes generalizing ticks with
  | nil => rfl
  | cons now wakes ih => exact ih (ticks.fire now)

theorem timely_append {first second : List Instant}
    (timely : ticks.Timely (first ++ second)) : (ticks.run first).Timely second := by
  induction first generalizing ticks with
  | nil => exact timely
  | cons now first ih => exact ih timely.2

/-! ## One tick -/

theorem periodsLate_eq (positive : 0 < ticks.period) :
    periodsLate ticks.period ticks.due now = ticks.behind now % countLimit := by
  have least : max ticks.period 1 = ticks.period := Nat.max_eq_left positive
  rw [periodsLate, least]
  rfl

theorem periods_from_now (positive : 0 < ticks.period) (late : ticks.due ≤ now) :
    (now + ticks.period : Instant).since ticks.due / ticks.period = ticks.behind now + 1 := by
  have span : (now + ticks.period : Instant).since ticks.due =
      now.since ticks.due + ticks.period := Instant.since_add late
  rw [span, Nat.add_div_right _ positive]
  rfl

theorem periods_from_due (positive : 0 < ticks.period) :
    (ticks.due + ticks.period : Instant).since ticks.due / ticks.period = 1 := by
  have span : (ticks.due + ticks.period : Instant).since ticks.due = ticks.period :=
    Instant.since_self_add
  rw [span, Nat.div_self positive]

/-- What a tick does to the schedule, and what it gives up. -/
theorem fire_cases (positive : 0 < ticks.period) (now : Instant) :
    let counted := ticks.behind now % countLimit
    (ticks.config.policy = .skip ∧ (ticks.next now).skipped = counted ∧
      (ticks.fire now).due = now + ticks.period) ∨
    ∃ cap, ticks.config.policy = .catchUp cap ∧
      ((counted ≤ cap.toNat ∧ (ticks.next now).skipped = 0 ∧
          (ticks.fire now).due = ticks.due + ticks.period) ∨
        cap.toNat < counted ∧ (ticks.next now).skipped = counted - cap.toNat ∧
          (ticks.fire now).due = now + ticks.period) := by
  intro counted
  have count : periodsLate ticks.period ticks.due now = counted := periodsLate_eq positive
  simp only [next, fire, count]
  cases ticks.config.policy with
  | skip => exact .inl ⟨rfl, rfl, rfl⟩
  | catchUp cap =>
    refine .inr ⟨cap, rfl, ?_⟩
    simp only [reschedule]
    split
    · next within => exact .inl ⟨within, rfl, rfl⟩
    · next beyond => exact .inr ⟨Nat.lt_of_not_le beyond, rfl, rfl⟩

/-- A tick moves the schedule by a period for itself, one for each that it gives up, and
one for each that is lost. -/
theorem shift_eq (positive : 0 < ticks.period) (late : ticks.due ≤ now) :
    ticks.shift now = 1 + (ticks.next now).skipped + ticks.lost now := by
  have counted : ticks.behind now % countLimit ≤ ticks.behind now := Nat.mod_le _ _
  rcases fire_cases positive now with
    ⟨policy, skipped, due⟩ | ⟨cap, policy, ⟨within, skipped, due⟩ | ⟨beyond, skipped, due⟩⟩
  · rw [shift, due, periods_from_now positive late, skipped, lost, policy]
    simp only
    omega
  · rw [shift, due, periods_from_due positive, skipped, lost, policy]
    simp only [if_pos within]
  · rw [shift, due, periods_from_now positive late, skipped, lost, policy]
    simp only [if_neg (Nat.not_le_of_lt beyond)]
    omega

theorem due_lt_fire (positive : 0 < ticks.period) (late : ticks.due ≤ now) :
    ticks.due < (ticks.fire now).due := by
  have from_now : ticks.due < now + ticks.period := Instant.lt_add positive late
  rcases fire_cases positive now with
    ⟨-, -, due⟩ | ⟨cap, -, ⟨-, -, due⟩ | ⟨-, -, due⟩⟩
  · exact due ▸ from_now
  · exact due ▸ Instant.lt_add positive (Int.le_refl _)
  · exact due ▸ from_now

theorem lost_eq_zero_iff :
    ticks.lost now = 0 ↔
      match ticks.config.policy with
      | .skip => ticks.behind now < countLimit
      | .catchUp cap => ticks.behind now % countLimit ≤ cap.toNat ∨
        cap = 0 ∧ ticks.behind now < countLimit := by
  have whole : ticks.behind now - ticks.behind now % countLimit = 0 ↔
      ticks.behind now < countLimit := by
    simp only [countLimit]
    omega
  unfold lost
  cases ticks.config.policy with
  | skip => exact whole
  | catchUp cap =>
    have none : cap = 0 ↔ cap.toNat = 0 := UInt32.toNat_inj.symm
    simp only
    split
    · next within => exact iff_of_true rfl (.inl within)
    · next beyond =>
      rw [Nat.add_eq_zero_iff, whole, none]
      exact ⟨fun ⟨holds, zero⟩ => .inr ⟨zero, holds⟩,
        fun h => (h.resolve_left beyond).symm⟩

/-! ## Runs -/

/-- Every wake-up of a run comes when its first tick is due or later. -/
theorem due_le_of_timely (timely : ticks.Timely wakes) (positive : 0 < ticks.period) :
    ∀ wake ∈ wakes, ticks.due ≤ wake := by
  induction wakes generalizing ticks with
  | nil => exact fun _ mem => absurd mem List.not_mem_nil
  | cons now wakes ih =>
    intro wake mem
    rcases List.mem_cons.mp mem with rfl | mem
    · exact timely.1
    · have later : (ticks.fire now).due ≤ wake :=
        ih timely.2 positive wake mem
      exact Int.le_of_lt (Int.lt_of_lt_of_le (due_lt_fire positive timely.1) later)

/-- The ticks fired, the ticks given up and those lost add up to the periods passed over. -/
theorem passed_run (timely : ticks.Timely wakes) (positive : 0 < ticks.period) :
    (ticks.run wakes).stats.total + (ticks.run wakes).stats.skipped + ticks.lostOver wakes =
      ticks.stats.total + ticks.stats.skipped + ticks.passed wakes := by
  induction wakes generalizing ticks with
  | nil => rfl
  | cons now wakes ih =>
    -- The first tick adds to all three sums what `shift_eq` says; the rest is a shorter run.
    have rest := ih timely.2 positive
    have one := shift_eq positive timely.1
    have fired : (ticks.fire now).stats.total = ticks.stats.total + 1 := rfl
    have given : (ticks.fire now).stats.skipped =
      ticks.stats.skipped + (ticks.next now).skipped := rfl
    change ((ticks.fire now).run wakes).stats.total + ((ticks.fire now).run wakes).stats.skipped +
      (ticks.lost now + (ticks.fire now).lostOver wakes) =
      ticks.stats.total + ticks.stats.skipped +
        (ticks.shift now + (ticks.fire now).passed wakes)
    omega

/-- A loop no further behind than its cap fires one more tick at the same instant for
every period that it is behind, and moves its schedule by a period each time. -/
theorem late_follow {cap : UInt32} (policy : ticks.config.policy = .catchUp cap)
    (positive : 0 < ticks.period) (late : ticks.due ≤ now)
    (within : ticks.behind now ≤ cap.toNat) {fired : Nat}
    (few : fired ≤ ticks.behind now + 1) :
    (ticks.run (List.replicate fired now)).due = ticks.due + fired * ticks.period := by
  induction fired generalizing ticks with
  | zero => simp [run]
  | succ fired ih =>
    have counted : ticks.behind now % countLimit ≤ cap.toNat := (Nat.mod_le _ _).trans within
    have due : (ticks.fire now).due = ticks.due + ticks.period := by
      simp only [fire, periodsLate_eq positive, policy, reschedule, if_pos counted]
    change ((ticks.fire now).run (List.replicate fired now)).due = _
    rcases Nat.eq_zero_or_pos fired with rfl | more
    · change (ticks.fire now).due = _
      rw [due]
      simp
    · -- There is another late tick only if the loop is at least a period behind.
      have least : 1 ≤ ticks.behind now := by omega
      have reached : ticks.period ≤ now.since ticks.due := (Nat.one_le_div_iff positive).mp least
      have still : (ticks.fire now).due ≤ now := due ▸ (Instant.le_since late).mp reached
      have nearer : (ticks.fire now).behind now = ticks.behind now - 1 := by
        have span : now.since (ticks.due + ticks.period : Instant) =
            now.since ticks.due - ticks.period := Instant.since_of_add
        rw [behind, due, span, period_fire, behind, Nat.div_eq_sub_div positive reached]
        rfl
      rw [@ih (ticks.fire now) policy positive still (by omega) (by omega), due]
      rw [period_fire]
      push_cast
      ring

end

/-! ## What is accounted for -/

/-- Take any tick of any run. It accounts for every period that it passes over, as itself
or as given up, exactly if the loop is not beyond its cap or has a cap of zero, and the
count of the periods that it is late does not overflow. A loop that catches up fires a late
tick for every period that it is behind while that is within the cap. Beyond the cap it gives
up the rest, but is not late any more: no tick follows before a period has gone by, so the
ticks up to the cap are neither fired nor given up. -/
theorem accounted_iff_within_cap (start : TickLoop) (positive : 0 < start.period)
    (past later : List Instant) (now : Instant)
    (timely : start.Timely (past ++ now :: later)) :
    let ticks := start.run past
    let behind := ticks.behind now
    let skipped := (ticks.next now).skipped
    (ticks.shift now = 1 + skipped ↔
      match start.config.policy with
      | .skip => behind < countLimit
      | .catchUp cap => behind % countLimit ≤ cap.toNat ∨ cap = 0 ∧ behind < countLimit) ∧
    (∀ cap, start.config.policy = .catchUp cap → behind < countLimit →
      (behind ≤ cap.toNat → skipped = 0 ∧ ∀ fired ≤ behind + 1,
        (ticks.run (.replicate fired now)).due = ticks.due + fired * start.period) ∧
      (cap.toNat < behind → skipped = behind - cap.toNat ∧
        ticks.shift now = 1 + skipped + cap.toNat ∧
          ∀ wake ∈ later, now + start.period ≤ wake)) ∧
    let last := start.run (past ++ now :: later)
    last.stats.total + last.stats.skipped + start.lostOver (past ++ now :: later) =
      start.stats.total + start.stats.skipped + start.passed (past ++ now :: later) := by
  intro ticks behind skipped
  have policy_eq : ticks.config.policy = start.config.policy :=
    congrArg TickConfig.policy (config_run start past)
  have period_eq : ticks.period = start.period := period_run start past
  have positive' : 0 < ticks.period := period_eq ▸ positive
  obtain ⟨late, after⟩ : ticks.due ≤ now ∧ (ticks.fire now).Timely later := timely_append timely
  have moved : ticks.shift now = 1 + skipped + ticks.lost now := shift_eq positive' late
  refine ⟨?_, fun cap catchUp holds => ?_, passed_run timely positive⟩
  · rw [← policy_eq, ← lost_eq_zero_iff, moved]
    omega
  · -- The count is exact here, so the tick is within its cap exactly if the loop is.
    have policy : ticks.config.policy = .catchUp cap := policy_eq.trans catchUp
    have counted : behind % countLimit = behind := Nat.mod_eq_of_lt holds
    obtain ⟨skip, -⟩ | ⟨cap', same, fired⟩ := fire_cases positive' now
    · rw [policy] at skip
      contradiction
    obtain rfl : cap = cap' := OverrunPolicy.catchUp.inj (policy.symm.trans same)
    change (behind % countLimit ≤ _ ∧ _) ∨ _ < behind % countLimit ∧ _ at fired
    rw [counted] at fired
    refine ⟨fun within => ?_, fun beyond => ?_⟩
    · obtain ⟨-, none, -⟩ := fired.resolve_right fun h => Nat.not_lt_of_le within h.1
      exact ⟨none, fun fired few => period_eq ▸ late_follow policy positive' late within few⟩
    · obtain ⟨-, rest, due⟩ := fired.resolve_left fun h => Nat.not_lt_of_le h.1 beyond
      have missed : ticks.lost now = cap.toNat := by
        simp only [lost, policy]
        change (if behind % countLimit ≤ cap.toNat then 0
          else behind - behind % countLimit + cap.toNat) = cap.toNat
        rw [counted, if_neg (Nat.not_le_of_lt beyond), Nat.sub_self, Nat.zero_add]
      -- A loop beyond its cap goes on from now: whatever comes later waits for that.
      rw [← period_eq, ← due]
      exact ⟨rest, missed ▸ moved, due_le_of_timely after positive'⟩

/-- A loop at twenty ticks a second that catches up on five ticks at most is woken late, by
two and a half periods. It fires the tick and both that have come due meanwhile. -/
theorem accounted_iff_within_cap_two_behind :
    let start : TickLoop :=
      { config := { policy := .catchUp 5 }, period := 50000000, due := 50000000 }
    let ticks := start.run [50000000]
    start.Timely ([50000000] ++ 225000000 :: [225000000, 225000000, 250000000]) ∧
      ticks.behind 225000000 = 2 ∧ (ticks.next 225000000).skipped = 0 ∧
      ticks.shift 225000000 = 1 ∧
      (ticks.run (.replicate 3 225000000)).due = 250000000 := by
  intro start ticks
  have timely : start.Timely ([50000000] ++ 225000000 :: [225000000, 225000000, 250000000]) :=
    ⟨by decide, by decide, by decide, by decide, by decide, trivial⟩
  obtain ⟨accounted, caught, -⟩ := accounted_iff_within_cap start (by decide) _ _ _ timely
  obtain ⟨none, follow⟩ := (caught 5 rfl (by decide)).1 (by decide)
  refine ⟨timely, by decide, none, ?_, (follow 3 (by decide)).trans (by decide)⟩
  exact (accounted.mpr (.inl (by decide))).trans (by rw [none])

/-- A loop at twenty ticks a second that catches up on one tick at most is woken three
periods late. It gives up two ticks and moves its schedule by four periods, so nothing fires
before another period has gone by: one of the ticks is neither fired nor given up. -/
theorem late_tick_lost :
    let ticks : TickLoop :=
      { config := { policy := .catchUp 1 }, period := 50000000, due := 100000000 }
    ticks.behind 250000000 = 3 ∧ (ticks.next 250000000).skipped = 2 ∧
      ticks.shift 250000000 = 4 ∧ (ticks.fire 250000000).due = 300000000 := by
  decide

end TickLoop

end GameRealm
