import GameRealm.Proofs.ClockHistory
import GameRealm.Proofs.WholeDoubles

/-!
# Client times as server times

A session adds the average of the last offsets to the times that its client gives. An average of
zero also stands for no offset being known yet, so that two clocks which agree are taken for two
that have not been compared. This module says when a client time is translated:

1. `TimeSync.average_replicate`: the average of equal offsets is that offset, whatever the
   rounding of doubles;
2. `ClockHistory.natAbs_offset_lt` bounds the offsets that can come up at all;
3. `LiveSession.movement_time_iff_offset_nonzero`: once an answer was taken, every client time is
   translated whose translation fits, exactly if the offset is not zero (or the client time
   happens to be the server's own). `LiveSession.agreeing_clock_ignored` is a run where it is zero.
-/

namespace GameRealm

namespace TimeSync

open Binary64

/-! ## The average of equal offsets -/

section
variable {offset : Int} {count : Nat}

theorem foldl_whole (start : Nat)
    (short : ∀ taken ≤ start + count, (taken * offset : Int).natAbs < 2 ^ 53) :
    (List.replicate count (whole offset)).foldl (· + ·) (whole (start * offset)) =
      whole ((start + count : Nat) * offset) := by
  induction count generalizing start with
  | zero => rfl
  | succ count ih =>
    have next : (start * offset + offset : Int) = (start + 1 : Nat) * offset := by
      push_cast
      ring
    have one : offset.natAbs < 2 ^ 53 := by simpa using short 1 (by omega)
    have sum : (start * offset + offset : Int).natAbs < 2 ^ 53 :=
      next ▸ short (start + 1) (by omega)
    have shifted : start + 1 + count = start + (count + 1) := by omega
    rw [List.replicate_succ, List.foldl_cons, whole_add (short start (by omega)) one sum, next,
      ih (start + 1) (fun taken most => short taken (shifted ▸ most)), shifted]

/-- Short sums of equal numbers are exact, and so are their quotients. -/
theorem mean_replicate (some : 0 < count) (few : count ≤ window) (short : offset.natAbs < 2 ^ 50) :
    mean (List.replicate count (whole offset)) = whole offset := by
  have multiple : ∀ taken ≤ 0 + count, (taken * offset : Int).natAbs < 2 ^ 53 := by
    intro taken most
    have six : taken ≤ 6 := by
      have : window = 6 := rfl
      omega
    calc (taken * offset : Int).natAbs = taken * offset.natAbs := Int.natAbs_mul ..
      _ ≤ 6 * offset.natAbs := Nat.mul_le_mul_right _ six
      _ < 2 ^ 53 := by omega
  have zero : (0 : Float) = whole ((0 : Nat) * offset) := by
    rw [Int.natCast_zero, Int.zero_mul]
    exact ofNat_eq_whole (by decide)
  have size : count < 2 ^ 53 := Nat.lt_of_le_of_lt few (by decide)
  rw [mean, zero, foldl_whole 0 multiple, List.length_replicate, ofNat_eq_whole size, Nat.zero_add,
    whole_div some size (multiple count (by omega))]

/-- No offset lies off the mean of equal ones, so all of them are averaged, to themselves. -/
theorem average_replicate (some : 0 < count) (few : count ≤ window)
    (short : offset.natAbs < 2 ^ 50) : average (List.replicate count offset) = offset := by
  have long : offset.natAbs < 2 ^ 53 := by omega
  have centre : mean (List.replicate count (whole offset)) = whole offset :=
    mean_replicate some few short
  have square : whole 0 * whole 0 = whole 0 :=
    whole_mul (by decide : 0 < 2 ^ 53) (by decide) (by decide)
  have deviation : (mean (List.replicate count (whole 0))).sqrt = whole 0 := by
    rw [mean_replicate some few (by decide)]
    decide +kernel
  have within : (whole 0).abs ≤ whole 0 := by decide +kernel
  have doubles : (List.replicate count offset).map Float.ofInt =
      List.replicate count (whole offset) := by
    rw [List.map_replicate, ofInt_eq_whole long]
  have nonempty {α : Type} (a : α) : (List.replicate count a).isEmpty = false := by
    rw [List.isEmpty_replicate]
    exact decide_eq_false (Nat.ne_of_gt some)
  have kept : (List.replicate count (whole offset)).filter
      (fun x => decide ((x - whole offset).abs ≤ whole 0)) = List.replicate count (whole offset) :=
    List.filter_replicate_of_pos (by rwa [whole_sub_self long, decide_eq_true_eq])
  rw [average, nonempty, if_neg Bool.false_ne_true]
  simp only [doubles, centre, List.map_replicate, whole_sub_self long, square, deviation, kept,
    nonempty, Bool.false_eq_true, if_false]
  exact nearest_whole long

end

/-! ## Translation -/

/-- The server's time stands in for what is no 32-bit number, and for everything while the
offset is zero. -/
theorem toServerTime_eq (sync : TimeSync) (now : Instant) (clientTime : UInt32) :
    sync.toServerTime now clientTime =
      let shifted := clientTime.toNat + sync.clockDelta
      if sync.clockDelta ≠ 0 ∧ 0 ≤ shifted ∧ shifted < 2 ^ 32 then UInt32.ofNat shifted.toNat
      else sync.serverTime now := by
  unfold toServerTime
  simp only
  split
  · next out => rw [if_neg (by omega)]
  · next within => rw [if_pos (by omega)]

/-- A translation that fits is right exactly if the offset is known not to be zero, or if it does
not matter. -/
theorem toServerTime_iff {sync : TimeSync} {now : Instant} {clientTime : UInt32}
    (low : 0 ≤ clientTime.toNat + sync.clockDelta)
    (high : clientTime.toNat + sync.clockDelta < 2 ^ 32) :
    (sync.toServerTime now clientTime).toNat = clientTime.toNat + sync.clockDelta ↔
      sync.clockDelta ≠ 0 ∨ sync.serverTime now = clientTime := by
  rw [toServerTime_eq]
  by_cases zero : sync.clockDelta = 0
  · simp only [zero, ne_eq, not_true, false_and, if_false, false_or, Int.add_zero, Int.natCast_inj,
      UInt32.toNat_inj]
  · have fits : (clientTime.toNat + sync.clockDelta).toNat < 2 ^ 32 := by omega
    have word : (UInt32.ofNat (clientTime.toNat + sync.clockDelta).toNat).toNat =
        (clientTime.toNat + sync.clockDelta).toNat := UInt32.toNat_ofNat_of_lt fits
    simp only [if_pos (And.intro zero (And.intro low high)), word, Int.toNat_of_nonneg low]
    exact iff_of_true trivial (.inl zero)

end TimeSync

namespace ClockHistory

theorem natAbs_offset_lt (birth : Instant) (past : ClockHistory) :
    ∀ offset ∈ past.offsets birth, offset.natAbs < 2 ^ 50 := by
  have single (sentAt receivedAt clientTicks : UInt32) :
      (TimeSync.sample sentAt receivedAt clientTicks).delta.natAbs < 2 ^ 50 := by
    have sent := sentAt.toNat_lt
    have received := receivedAt.toNat_lt
    have ticks := clientTicks.toNat_lt
    simp only [TimeSync.sample]
    omega
  induction past with
  | nil => exact fun _ mem => absurd mem List.not_mem_nil
  | cons move past ih =>
    cases move with
    | answer time counter clientTicks =>
      rw [offsets]
      split
      · exact ih
      · exact List.forall_mem_cons.mpr ⟨single _ _ _, ih⟩
    | _ => exact ih

theorem average_offsets {birth : Instant} {past : ClockHistory} {offset : Int}
    (answered : past.offsets birth ≠ [])
    (same : ∀ other ∈ (past.offsets birth).take 6, other = offset) :
    TimeSync.average ((past.offsets birth).take 6).reverse = offset := by
  have few : ((past.offsets birth).take 6).length ≤ TimeSync.window := List.length_take_le 6 _
  have some : 0 < ((past.offsets birth).take 6).length := by
    rw [List.length_take]
    have := List.length_pos_iff.mpr answered
    omega
  have short : offset.natAbs < 2 ^ 50 := by
    obtain ⟨other, mem⟩ := List.exists_mem_of_length_pos some
    rw [← same other mem]
    exact natAbs_offset_lt birth past other (List.mem_of_mem_take mem)
  rw [List.eq_replicate_of_mem same, List.reverse_replicate]
  exact TimeSync.average_replicate some few short

end ClockHistory

namespace LiveSession

open ClockHistory

/-- Take a session at any point of a run with fewer than 2^32 clock requests between any two
resets. Before the first answer is taken, a client time is answered by the server's own. From then
on the offset is the average of what the last six answers said, which is the offset that they
agree on if they do; a client time whose sum with it is no 32-bit number is answered by the
server's own, and one whose sum is a 32-bit number by that sum, exactly if the offset is not zero
or the server's clock happens to show the client time. -/
theorem movement_time_iff_offset_nonzero (sv : Services W) (account : Account) (socket : SocketId)
    (birth : Instant) (outside : Outside W) (past : List (Event W))
    (few : ((create sv account socket birth outside).clockHistory sv past).Few) :
    let start := create sv account socket birth outside
    let d := start.replay sv past
    let offsets := (start.clockHistory sv past).offsets birth
    let delta := d.session.timeSync.clockDelta
    let translated := d.session.timeSync.toServerTime d.session.now
    let serverTime := clock birth d.session.now
    (offsets = [] → ∀ clientTime, translated clientTime = serverTime) ∧
    (offsets ≠ [] →
      delta = TimeSync.average (offsets.take 6).reverse ∧
      (∀ offset, (∀ other ∈ offsets.take 6, other = offset) → delta = offset) ∧
      ∀ clientTime : UInt32,
        (¬(0 ≤ clientTime.toNat + delta ∧ clientTime.toNat + delta < 2 ^ 32) →
          translated clientTime = serverTime) ∧
        (0 ≤ clientTime.toNat + delta → clientTime.toNat + delta < 2 ^ 32 →
          ((translated clientTime).toNat = clientTime.toNat + delta ↔
            delta ≠ 0 ∨ serverTime = clientTime))) := by
  intro start d offsets delta translated serverTime
  -- Whatever the session keeps is what its history says, so the history decides.
  have tracks : d.session.timeSync.Tracks birth (start.clockHistory sv past) :=
    timeSync_tracks sv account socket birth outside past few
  have average : delta = TimeSync.average (offsets.take 6).reverse :=
    tracks.clockDelta.trans (congrArg TimeSync.average tracks.deltas)
  have server : d.session.timeSync.serverTime d.session.now = serverTime :=
    tracks.serverTime_eq d.session.now
  refine ⟨fun none clientTime => ?unanswered, fun answered =>
    ⟨average, fun offset same => average.trans (average_offsets answered same),
      fun clientTime => ⟨fun out => ?out, fun low high => ?within⟩⟩⟩
  case unanswered =>
    have unknown : delta = 0 := by
      rw [average, none]
      rfl
    exact (TimeSync.toServerTime_eq ..).trans
      ((if_neg fun known => known.1 unknown).trans server)
  case out =>
    exact (TimeSync.toServerTime_eq ..).trans ((if_neg fun fits => out fits.2).trans server)
  case within =>
    rw [← server]
    exact TimeSync.toServerTime_iff low high

/-- A client that answers after 200 ms with 5000 on its clock has an offset of -4900, by which
its later times are translated. -/
theorem movement_time_iff_offset_nonzero_behind :
    let sv := Rehearsal.coreServices {}
    let start := Rehearsal.opening sv
    let past : List (Event Rehearsal.Stage) :=
      [.perform .sendTimeSync, .clock 200000000, .perform (.timeSyncResponse 0 5000)]
    let d := start.replay sv past
    (start.clockHistory sv past).offsets 0 = [-4900] ∧ d.session.timeSync.clockDelta = -4900 ∧
      ((d.session.timeSync.toServerTime d.session.now 6000).toNat : Int) = 6000 + -4900 := by
  intro sv start past d
  have few : (start.clockHistory sv past).Few := few_of_length (by decide)
  have offsets : (start.clockHistory sv past).offsets 0 = [-4900] := by decide
  have answered := (movement_time_iff_offset_nonzero sv _ _ _ _ past few).2 (by decide)
  have delta : d.session.timeSync.clockDelta = -4900 := answered.2.1 (-4900) (by decide)
  have low : 0 ≤ (6000 : UInt32).toNat + d.session.timeSync.clockDelta := by
    rw [delta]
    decide
  have high : (6000 : UInt32).toNat + d.session.timeSync.clockDelta < 2 ^ 32 := by
    rw [delta]
    decide
  have known : d.session.timeSync.clockDelta ≠ 0 := by
    rw [delta]
    decide
  have translated : ((d.session.timeSync.toServerTime d.session.now 6000).toNat : Int) =
      (6000 : UInt32).toNat + d.session.timeSync.clockDelta :=
    ((answered.2.2 6000).2 low high).mpr (.inl known)
  exact ⟨offsets, delta, translated.trans (congrArg (6000 + ·) delta)⟩

/-- A client whose clock agrees with the server's has an offset of zero. A time that it gives
half a second late is then taken for the time at which it arrives. -/
theorem agreeing_clock_ignored :
    let sv := Rehearsal.coreServices {}
    let start := Rehearsal.opening sv
    let past : List (Event Rehearsal.Stage) :=
      [.perform .sendTimeSync, .perform (.timeSyncResponse 0 0), .clock 1500000000]
    let d := start.replay sv past
    (start.clockHistory sv past).offsets 0 = [0] ∧ d.session.timeSync.clockDelta = 0 ∧
      d.session.timeSync.toServerTime d.session.now 1000 = 1500 := by
  intro sv start past d
  have few : (start.clockHistory sv past).Few := few_of_length (by decide)
  have offsets : (start.clockHistory sv past).offsets 0 = [0] := by decide
  have tracks : d.session.timeSync.Tracks 0 (start.clockHistory sv past) :=
    timeSync_tracks sv _ _ _ _ past few
  have delta : d.session.timeSync.clockDelta = 0 := by
    rw [tracks.clockDelta, tracks.deltas]
    exact average_offsets (by decide) (by decide)
  refine ⟨offsets, delta, ?_⟩
  rw [TimeSync.toServerTime_eq]
  simp only [delta, ne_eq, not_true, false_and, if_false]
  decide

end LiveSession

end GameRealm
