import GameRealm.Session.Roster
import Mathlib.Data.List.Nodup

/-!
# What working on one session leaves alone

A roster keeps sessions by account, and whoever works on one of them also works on
the surroundings that they share. This module says what a lookup finds afterwards:

1. work on a session changes its own seat (`get?_change_self`) and no other
   (`get?_change_of_ne`), nor the accounts (`accounts_change`);
2. work after work is work (`change_change`), and no work changes nothing
   (`change_id`);
3. what sessions that come and go do to lookups (`get?_add_self`,
   `get?_erase_of_ne` and their like);
4. the order of the seats does not matter to a lookup (`get?_of_perm`).
-/

namespace GameRealm.Roster

variable {roster : Roster W} {account other : AccountId} {seat : Seat W}

/-! ## Lookups -/

theorem get?_eq_none_iff : roster.get? account = none ↔ account ∉ roster.accounts := by
  simp only [get?, accounts, Option.map_eq_none_iff, List.find?_eq_none, List.mem_map, beq_iff_eq]
  constructor
  · rintro absent ⟨entry, mem, rfl⟩
    exact absent entry mem rfl
  · intro absent entry mem same
    exact absent ⟨entry, mem, same⟩

theorem mem_accounts_iff : account ∈ roster.accounts ↔ ∃ seat, roster.get? account = some seat := by
  rw [← Option.ne_none_iff_exists', ne_eq, get?_eq_none_iff, Decidable.not_not]

theorem mem_accounts_of_get? (h : roster.get? account = some seat) : account ∈ roster.accounts :=
  mem_accounts_iff.mpr ⟨seat, h⟩

theorem has_iff : roster.has account = true ↔ account ∈ roster.accounts := by
  rw [has, Option.isSome_iff_exists, mem_accounts_iff]

@[simp] theorem length_accounts : roster.accounts.length = roster.length := by
  simp [accounts, length]

/-! ## Seats that are replaced -/

theorem replace_cons (first : AccountId × Seat W) (rest : List (AccountId × Seat W)) :
    replace account seat (first :: rest) =
      (if first.1 = account then (first.1, seat) else first) :: replace account seat rest := by
  simp [replace]

theorem find?_replace_self {seats : List (AccountId × Seat W)} {entry : AccountId × Seat W}
    (h : seats.find? (·.1 == account) = some entry) :
    (replace account seat seats).find? (·.1 == account) = some (account, seat) := by
  induction seats with
  | nil => simp at h
  | cons first rest ih =>
    rw [replace_cons]
    by_cases hit : first.1 = account
    · simp [hit]
    · rw [List.find?_cons_of_neg (by simpa using hit)] at h
      rw [if_neg hit, List.find?_cons_of_neg (by simpa using hit)]
      exact ih h

theorem find?_replace_of_ne {seats : List (AccountId × Seat W)} (h : other ≠ account) :
    (replace account seat seats).find? (·.1 == other) = seats.find? (·.1 == other) := by
  induction seats with
  | nil => rfl
  | cons first rest ih =>
    have key : (if first.1 = account then (first.1, seat) else first).1 = first.1 := by
      split <;> rfl
    rw [replace_cons, List.find?_cons, List.find?_cons, key, ih]
    by_cases hit : first.1 = account
    · simp [hit, beq_eq_false_iff_ne.mpr h.symm]
    · rw [if_neg hit]

theorem accounts_replace (seats : List (AccountId × Seat W)) :
    (replace account seat seats).map (·.1) = seats.map (·.1) := by
  rw [replace, List.map_map]
  refine List.map_congr_left fun entry _ => ?_
  rw [Function.comp_apply]
  split <;> rfl

theorem replace_replace (first second : Seat W) (seats : List (AccountId × Seat W)) :
    replace account second (replace account first seats) = replace account second seats := by
  rw [replace, replace, List.map_map]
  refine List.map_congr_left fun entry _ => ?_
  by_cases hit : entry.1 = account <;> simp [hit]

theorem replace_own {seats : List (AccountId × Seat W)} (nodup : (seats.map (·.1)).Nodup)
    {entry : AccountId × Seat W} (h : seats.find? (·.1 == account) = some entry) :
    replace account entry.2 seats = seats := by
  have own : entry.1 = account := by simpa using List.find?_some h
  have mem : entry ∈ seats := List.mem_of_find?_eq_some h
  conv_rhs => rw [← List.map_id seats]
  refine List.map_congr_left fun e he => ?_
  by_cases hit : e.1 = account
  · rw [if_pos (by simpa using hit), id, List.inj_on_of_nodup_map nodup he mem (hit.trans own.symm)]
  · rw [if_neg (by simpa using hit), id]

/-! ## Work on a session -/

theorem change_of_absent (task : LiveSession W → LiveSession W) (h : roster.get? account = none) :
    roster.change account task = roster := by
  simp only [change, work, h]

theorem change_of_get? (task : LiveSession W → LiveSession W)
    (h : roster.get? account = some seat) :
    roster.change account task =
      { seats := replace account (task (seat.live roster.outside)).seat roster.seats
        outside := (task (seat.live roster.outside)).outside } := by
  simp only [change, work, h]

theorem work_snd (task : LiveSession W → α × LiveSession W) :
    (roster.work account task).2 = roster.change account fun d => (task d).2 := by
  unfold change work
  cases roster.get? account <;> rfl

@[simp] theorem accounts_change (task : LiveSession W → LiveSession W) :
    (roster.change account task).accounts = roster.accounts := by
  cases h : roster.get? account with
  | none => rw [change_of_absent task h]
  | some seat => rw [change_of_get? task h]; exact accounts_replace roster.seats

@[simp] theorem length_change (task : LiveSession W → LiveSession W) :
    (roster.change account task).length = roster.length := by
  rw [← length_accounts, accounts_change, length_accounts]

theorem get?_change_self (task : LiveSession W → LiveSession W)
    (h : roster.get? account = some seat) :
    (roster.change account task).get? account = some (task (seat.live roster.outside)).seat := by
  rw [change_of_get? task h]
  obtain ⟨entry, found, -⟩ := Option.map_eq_some_iff.mp h
  rw [get?, find?_replace_self found]
  rfl

theorem get?_change_of_ne (task : LiveSession W → LiveSession W) (h : other ≠ account) :
    (roster.change account task).get? other = roster.get? other := by
  cases found : roster.get? account with
  | none => rw [change_of_absent task found]
  | some seat => rw [change_of_get? task found, get?, get?, find?_replace_of_ne h]

/-- Whom a lookup finds after work on one session: the one worked on, or another as it
was. -/
theorem get?_change_inv {task : LiveSession W → LiveSession W}
    (h : (roster.change account task).get? other = some seat) :
    (∃ before, other = account ∧ roster.get? account = some before ∧
        seat = (task (before.live roster.outside)).seat) ∨
      other ≠ account ∧ roster.get? other = some seat := by
  by_cases hit : other = account
  · subst hit
    obtain ⟨before, found⟩ := mem_accounts_iff.mp
      (@accounts_change _ roster _ task ▸ mem_accounts_of_get? h)
    exact .inl ⟨before, rfl, found,
      Option.some_inj.mp (h.symm.trans (get?_change_self task found))⟩
  · exact .inr ⟨hit, (get?_change_of_ne task hit).symm.trans h⟩

theorem outside_change (task : LiveSession W → LiveSession W)
    (h : roster.get? account = some seat) :
    (roster.change account task).outside = (task (seat.live roster.outside)).outside := by
  rw [change_of_get? task h]

/-- Every session of a roster has a property. -/
def Everyone (P : Session → Prop) (roster : Roster W) : Prop :=
  ∀ account seat, roster.get? account = some seat → P seat.session

theorem everyone_change {P : Session → Prop} {task : LiveSession W → LiveSession W}
    (keeps : ∀ d, P d.session → P (task d).session) (h : roster.Everyone P) :
    (roster.change account task).Everyone P := by
  intro other seat found
  rcases get?_change_inv found with ⟨before, -, same, rfl⟩ | ⟨-, same⟩
  · exact keeps _ (h _ before same)
  · exact h other seat same

theorem change_change (first second : LiveSession W → LiveSession W) :
    (roster.change account first).change account second =
      roster.change account fun d => second (first d) := by
  cases h : roster.get? account with
  | none => rw [change_of_absent first h, change_of_absent _ h, change_of_absent _ h]
  | some seat =>
    rw [change_of_get? second (get?_change_self first h), change_of_get? first h,
      change_of_get? _ h]
    exact congrArg₂ Roster.mk (replace_replace _ _ _) rfl

theorem change_congr {first second : LiveSession W → LiveSession W}
    (h : ∀ seat, roster.get? account = some seat →
      first (seat.live roster.outside) = second (seat.live roster.outside)) :
    roster.change account first = roster.change account second := by
  cases found : roster.get? account with
  | none => rw [change_of_absent first found, change_of_absent second found]
  | some seat => rw [change_of_get? first found, change_of_get? second found, h seat found]

theorem change_id (nodup : roster.accounts.Nodup) :
    (roster.change account fun d => d) = roster := by
  cases h : roster.get? account with
  | none => rw [change_of_absent _ h]
  | some seat =>
    rw [change_of_get? _ h]
    obtain ⟨entry, found, rfl⟩ := Option.map_eq_some_iff.mp h
    exact congrArg₂ Roster.mk (replace_own nodup found) rfl

/-! ## Sessions that come and go -/

@[simp] theorem accounts_add (d : LiveSession W) :
    (roster.add account d).accounts = roster.accounts ++ [account] := by
  simp [accounts, add]

theorem get?_add_self (d : LiveSession W) (h : account ∉ roster.accounts) :
    (roster.add account d).get? account = some d.seat := by
  have absent := get?_eq_none_iff.mpr h
  rw [get?, Option.map_eq_none_iff] at absent
  rw [get?, add, List.find?_append, absent]
  simp

theorem get?_add_of_ne (d : LiveSession W) (h : other ≠ account) :
    (roster.add account d).get? other = roster.get? other := by
  rw [get?, add, List.find?_append, List.find?_cons_of_neg (by simpa using h.symm)]
  simp [get?]

theorem get?_add_inv {d : LiveSession W} (absent : account ∉ roster.accounts)
    (h : (roster.add account d).get? other = some seat) :
    other = account ∧ seat = d.seat ∨ other ≠ account ∧ roster.get? other = some seat := by
  by_cases hit : other = account
  · subst hit
    exact .inl ⟨rfl, Option.some_inj.mp (h.symm.trans (get?_add_self d absent))⟩
  · exact .inr ⟨hit, (get?_add_of_ne d hit).symm.trans h⟩

/-- Work on the session that was just added might as well be done beforehand. -/
theorem change_add (task : LiveSession W → LiveSession W) (d : LiveSession W)
    (h : account ∉ roster.accounts) :
    (roster.add account d).change account task = roster.add account (task d) := by
  rw [change_of_get? task (get?_add_self d h)]
  have others : replace account (task d).seat roster.seats = roster.seats := by
    conv_rhs => rw [← List.map_id roster.seats]
    refine List.map_congr_left fun entry mem => if_neg fun hit => h ?_
    rw [← beq_iff_eq.mp hit]
    exact List.mem_map_of_mem mem
  have self : d.seat.live d.outside = d := rfl
  simp only [add, self]
  rw [replace, List.map_append, ← replace, others]
  simp

@[simp] theorem accounts_erase :
    (roster.erase account).accounts = roster.accounts.filter (· != account) := by
  simp only [accounts, erase, List.filter_map]
  rfl

theorem get?_erase_of_ne (h : other ≠ account) :
    (roster.erase account).get? other = roster.get? other := by
  rw [get?, erase, List.find?_filter, get?]
  congr 2
  funext entry
  by_cases hit : entry.1 = other
  · simp [hit, h]
  · simp [hit]

theorem get?_erase_self : (roster.erase account).get? account = none := by
  rw [get?_eq_none_iff, accounts_erase]
  simp

theorem get?_erase_inv (h : (roster.erase account).get? other = some seat) :
    other ≠ account ∧ roster.get? other = some seat := by
  by_cases hit : other = account
  · subst hit
    rw [get?_erase_self] at h
    cases h
  · exact ⟨hit, (get?_erase_of_ne hit).symm.trans h⟩

/-! ## The order of the seats -/

theorem get?_of_mem (nodup : roster.accounts.Nodup) {entry : AccountId × Seat W}
    (mem : entry ∈ roster.seats) : roster.get? entry.1 = some entry.2 := by
  obtain ⟨seat, found⟩ := mem_accounts_iff.mp (List.mem_map_of_mem mem)
  obtain ⟨other, hit, rfl⟩ := Option.map_eq_some_iff.mp found
  have own : other.1 = entry.1 := by simpa using List.find?_some hit
  rw [found, List.inj_on_of_nodup_map nodup (List.mem_of_find?_eq_some hit) mem own]

theorem mem_of_get? (h : roster.get? account = some seat) : (account, seat) ∈ roster.seats := by
  obtain ⟨entry, found, rfl⟩ := Option.map_eq_some_iff.mp h
  have own : entry.1 = account := by simpa using List.find?_some found
  exact own ▸ List.mem_of_find?_eq_some found

/-- Where every account has one seat, it is found in any order of the seats. -/
theorem get?_of_perm {second : Roster W} (nodup : roster.accounts.Nodup)
    (perm : second.seats.Perm roster.seats) : second.get? account = roster.get? account := by
  have nodup' : second.accounts.Nodup := (perm.map _).nodup_iff.mpr nodup
  cases h : roster.get? account with
  | none =>
    rw [get?_eq_none_iff] at h ⊢
    exact fun mem => h ((perm.map _).mem_iff.mp mem)
  | some seat => exact get?_of_mem nodup' (perm.mem_iff.mpr (mem_of_get? h))

end GameRealm.Roster
