import GameRealm.Proofs.Lifecycle
import GameRealm.Proofs.RegistryHistory
import Mathlib.Data.List.Perm.Subperm

/-!
# The login queue

Who waits is written down three times: in the queue of the registry, in its table of
sessions, and in every session that waits. Logins, departures and admissions change
them one after the other, so in the midst of a call they disagree.

1. `Queued` is what holds at every moment all the same, and `Unfolds.queued` carries it
   through a history, event by event. It measures the queue against the accounts in
   the order in which they came (`standing`): those who wait are the last of them.
2. `Placed` says that every session has its index in the queue for a place. Only world
   ticks and shutdowns take anyone out of the queue, and they put the places right at
   the end (`place_renumberFrom`).
3. `login_queue_invariant`: so between two calls the registry is `Settled`.
-/

namespace GameRealm

/-! ## Who stands where -/

namespace RegistryEvent

/-- Whether an event gives a session another place in the queue. -/
def setsPlace : RegistryEvent W → Bool
  | work _ event => event.setsPlace
  | _ => false

def standing (accounts : List AccountId) : RegistryEvent W → List AccountId
  | enter account _ _ => accounts ++ [account.id]
  | remove account => accounts.filter (· != account)
  | _ => accounts

end RegistryEvent

namespace Registry

/-- The accounts with a session after some events, in the order in which they came. -/
def standing (events : List (RegistryEvent W)) (accounts : List AccountId) : List AccountId :=
  events.foldl (fun accounts event => event.standing accounts) accounts

/-- What holds of the queue at every moment, where `standing` are the accounts with a
session in the order in which they came: the last of them wait, no more are let in
than allowed, and only who waits has a place. -/
structure Queued (standing : List AccountId) (registry : Registry W) : Prop where
  perm : standing.Perm registry.roster.accounts
  waiting : registry.queue <:+ standing
  limited : 0 < registry.maxActive → registry.activeCount ≤ registry.maxActive
  needed : registry.queue ≠ [] → 0 < registry.maxActive
  past : ∀ account seat, registry.roster.get? account = some seat → account ∉ registry.queue →
    seat.session.queuePosition = none

section
variable {sv : Services W} {registry after : Registry W} {standing : List AccountId}

/-- Past the queue are those who came before everyone who waits. -/
theorem activeCount_eq (perm : standing.Perm registry.roster.accounts) {ahead : List AccountId}
    (split : ahead ++ registry.queue = standing) : registry.activeCount = ahead.length := by
  have all := perm.length_eq
  rw [← split, List.length_append, Roster.length_accounts] at all
  rw [activeCount, length, ← all, Nat.add_sub_cancel]

theorem hasRoom_iff {maxActive active : Nat} :
    hasRoom maxActive active = true ↔ maxActive = 0 ∨ active < maxActive := by
  simp [hasRoom]

theorem hasRoom_eq_false_iff {maxActive active : Nat} :
    hasRoom maxActive active = false ↔ 0 < maxActive ∧ maxActive ≤ active := by
  rw [← Bool.not_eq_true, hasRoom_iff]
  omega

theorem Queued.enter (h : Queued standing registry)
    (full : registry.Full) (account : Account) (socket : SocketId) (now : Instant)
    (absent : account.id ∉ registry.roster.accounts) :
    Queued (standing ++ [account.id]) (registry.enter sv account socket now) := by
  have perm : (standing ++ [account.id]).Perm
      (registry.enter sv account socket now).roster.accounts := by
    rw [accounts_enter]
    exact h.perm.append_right _
  cases room : hasRoom registry.maxActive registry.activeCount with
  | true =>
    -- There is room, so nobody waits, and the new session is past the queue.
    have idle : registry.queue = [] := by
      by_contra waits
      exact absurd (room.symm.trans (full waits)) Bool.noConfusion
    have same : (registry.enter sv account socket now).queue = [] := by
      rw [queue_enter, room, if_pos rfl, idle]
    refine ⟨perm, same ▸ List.nil_suffix, ?_, fun waits => absurd same waits, ?_⟩
    · intro limit
      rw [maxActive_enter] at limit ⊢
      rw [activeCount, length_enter, same]
      rw [activeCount, idle] at room
      have free := hasRoom_iff.mp room
      simp only [List.length_nil, Nat.sub_zero] at free ⊢
      omega
    · intro other seat found _
      unfold Registry.enter at found
      simp only [room, if_true] at found
      rcases Roster.get?_add_inv absent found with ⟨-, rfl⟩ | ⟨-, before⟩
      · rfl
      · exact h.past other seat before (idle ▸ List.not_mem_nil)
  | false =>
    obtain ⟨limit, taken⟩ := hasRoom_eq_false_iff.mp room
    have waits : (registry.enter sv account socket now).queue =
        registry.queue ++ [account.id] := by
      rw [queue_enter, room, if_neg Bool.false_ne_true]
    refine ⟨perm, ?_, ?_, fun _ => (maxActive_enter ..).symm ▸ limit, ?_⟩
    · obtain ⟨ahead, split⟩ := h.waiting
      exact ⟨ahead, by rw [waits, ← List.append_assoc, split]⟩
    · intro _
      rw [maxActive_enter, activeCount, length_enter, waits, List.length_append,
        List.length_singleton, Nat.add_sub_add_right]
      exact h.limited limit
    · intro other seat found out
      rw [waits, List.mem_append, List.mem_singleton, not_or] at out
      unfold Registry.enter at found
      simp only [room, Bool.false_eq_true, if_false] at found
      rcases Roster.get?_add_inv absent found with ⟨hit, -⟩ | ⟨-, before⟩
      · exact absurd hit out.2
      · exact h.past other seat before out.1

/-- Who does not wait keeps to no place. -/
theorem Queued.work (h : Queued standing registry) (account : AccountId)
    {task : LiveSession W → LiveSession W}
    (keeps : account ∉ registry.queue → ∀ d, (task d).place = d.place) :
    Queued standing (registry.work account task) where
  perm := (accounts_work account task registry).symm ▸ h.perm
  waiting := h.waiting
  limited := by
    rw [activeCount, length_work]
    exact h.limited
  needed := h.needed
  past other seat found out := by
    rcases Roster.get?_change_inv found with ⟨before, rfl, same, rfl⟩ | ⟨-, same⟩
    · exact (keeps out _).trans (h.past _ before same out)
    · exact h.past other seat same out

theorem Queued.remove (h : Queued standing registry) (tidy : registry.Tidy)
    (account : AccountId) :
    Queued (standing.filter (· != account)) (registry.removeSession sv account).2 := by
  have perm : (standing.filter (· != account)).Perm
      (registry.removeSession sv account).2.roster.accounts := by
    rw [accounts_removeSession]
    exact h.perm.filter _
  have waiting : (registry.removeSession sv account).2.queue <:+
      standing.filter (· != account) := by
    rw [queue_removeSession account tidy]
    exact h.waiting.filter _
  have limit : (registry.removeSession sv account).2.maxActive = registry.maxActive := by
    unfold removeSession
    split <;> rfl
  refine ⟨perm, waiting, ?_, ?_, ?_⟩
  · -- Whoever is removed, there are not more past the queue than before.
    intro positive
    obtain ⟨ahead, split⟩ := h.waiting
    have split' : ahead.filter (· != account) ++
        (registry.removeSession sv account).2.queue = standing.filter (· != account) := by
      rw [queue_removeSession account tidy, ← split, List.filter_append]
    rw [activeCount_eq perm split', limit]
    rw [limit] at positive
    have before := h.limited positive
    rw [activeCount_eq h.perm split] at before
    exact Nat.le_trans (List.length_filter_le _ _) before
  · intro waits
    rw [limit]
    refine h.needed fun idle => waits ?_
    rw [queue_removeSession account tidy, idle]
    rfl
  · intro other seat found out
    obtain ⟨different, found⟩ := get?_removeSession_inv found
    refine h.past other seat found fun mem => out ?_
    rw [queue_removeSession account tidy]
    exact List.mem_filter.mpr ⟨mem, bne_iff_ne.mpr different⟩

/-- Letting the first in makes one more past the queue, for whom there is room. -/
theorem Queued.letIn (h : Queued standing registry) {account : AccountId}
    (first : registry.queue.head? = some account)
    (room : hasRoom registry.maxActive registry.activeCount = true) :
    Queued standing (RegistryEvent.apply sv (.letIn account) registry) := by
  obtain ⟨rest, queue⟩ := List.head?_eq_some_iff.mp first
  obtain ⟨ahead, split⟩ := h.waiting
  rw [queue] at split
  have behind : (RegistryEvent.apply sv (.letIn account) registry).queue = rest :=
    congrArg List.tail queue
  have perm : standing.Perm
      (RegistryEvent.apply sv (.letIn account) registry).roster.accounts :=
    (accounts_work account _ registry).symm ▸ h.perm
  -- The first of the queue joins those past it, and the order of arrival stays the same.
  have split' : (ahead ++ [account]) ++
      (RegistryEvent.apply sv (.letIn account) registry).queue = standing := by
    rw [behind, List.append_assoc]
    exact split
  refine ⟨perm, ⟨ahead ++ [account], split'⟩, ?_, ?_, ?_⟩
  · intro (positive : 0 < registry.maxActive)
    show _ ≤ registry.maxActive
    rw [activeCount_eq perm split', List.length_append, List.length_singleton]
    rw [activeCount_eq h.perm (queue ▸ split)] at room
    have free := hasRoom_iff.mp room
    omega
  · exact fun _ => h.needed (queue ▸ List.cons_ne_nil account rest)
  · intro other seat found out
    rcases Roster.get?_change_inv found with ⟨before, rfl, -, rfl⟩ | ⟨hit, found⟩
    · exact congrArg Session.queuePosition (LiveSession.frame_send _ _).1
    · refine h.past other seat found fun mem => out ?_
      rw [behind]
      rw [queue] at mem
      exact (List.mem_cons.mp mem).resolve_left hit

theorem Queued.apply {event : RegistryEvent W} (h : Queued standing registry)
    (tidy : registry.Tidy) (fits : event.Fits registry) (keeps : event.setsPlace = false) :
    Queued (event.standing standing) (event.apply sv registry) := by
  cases event with
  | enter account socket now => exact h.enter fits.2 account socket now fits.1
  | work account event => exact h.work account fun _ d => d.place_apply keeps
  | remove account => exact h.remove tidy account
  | letIn account => exact h.letIn fits.1 fits.2
  | renumber account position =>
    -- Only those who wait are told a place.
    obtain ⟨-, index, here, -⟩ := fits
    exact h.work account fun out => absurd (List.mem_of_getElem? here) out
  | reorder order perm =>
    have same := perm registry.roster.seats
    refine ⟨h.perm.trans (same.map _).symm, h.waiting, ?_, h.needed, ?_⟩
    · have length : (registry.reorder order).length = registry.length := same.length_eq
      simp only [RegistryEvent.apply, activeCount, length]
      exact h.limited
    · intro other seat found out
      exact h.past other seat ((Roster.get?_of_perm tidy.distinct same).symm.trans found) out
  | relocate regions => exact ⟨h.perm, h.waiting, h.limited, h.needed, h.past⟩
  | stray inbox procedure => exact ⟨h.perm, h.waiting, h.limited, h.needed, h.past⟩
  | outside change => exact ⟨h.perm, h.waiting, h.limited, h.needed, h.past⟩

/-- What holds of the queue at one moment holds after whatever comes next. -/
theorem Unfolds.queued {events : List (RegistryEvent W)} (h : Unfolds sv events registry after)
    (tidy : registry.Tidy) (keeps : ∀ event ∈ events, event.setsPlace = false)
    (queued : Queued standing registry) : Queued (Registry.standing events standing) after := by
  induction h generalizing standing with
  | nil => exact queued
  | cons fits _ ih =>
    exact ih (tidy_apply fits tidy) (fun e mem => keeps e (List.mem_cons_of_mem _ mem))
      (queued.apply tidy fits (keeps _ List.mem_cons_self))

theorem queued_empty (maxActive : Nat) (regions : RegionPool) (outside : Outside W) :
    Queued [] (empty maxActive regions outside) where
  perm := .nil
  waiting := List.nil_suffix
  limited _ := Nat.zero_le _
  needed waits := absurd rfl waits
  past _ _ found := absurd (Roster.mem_accounts_of_get? found) List.not_mem_nil

/-! ## The places are the indices -/

/-- Every session knows its place in the queue, and none if it is past it. -/
def Placed (registry : Registry W) : Prop :=
  ∀ account seat, registry.roster.get? account = some seat →
    seat.session.queuePosition = registry.queuePosition? account

theorem queuePosition?_eq_none {account : AccountId} (out : account ∉ registry.queue) :
    registry.queuePosition? account = none := by
  rw [queuePosition?, Option.map_eq_none_iff, List.findIdx?_eq_none_iff]
  intro other mem
  rw [beq_eq_false_iff_ne]
  rintro rfl
  exact out mem

theorem findIdx?_of_getElem? {queue : List AccountId} (once : queue.Nodup) {index : Nat}
    {account : AccountId} (here : queue[index]? = some account) :
    queue.findIdx? (· == account) = some index := by
  obtain ⟨bound, rfl⟩ := List.getElem?_eq_some_iff.mp here
  rw [List.findIdx?_eq_some_iff_getElem]
  refine ⟨bound, beq_self_eq_true _, fun earlier before same => ?_⟩
  exact absurd ((List.Nodup.getElem_inj_iff once).mp (beq_iff_eq.mp same)) (Nat.ne_of_lt before)

theorem queuePosition?_of_getElem? (tidy : registry.Tidy) {index : Nat} {account : AccountId}
    (here : registry.queue[index]? = some account) :
    registry.queuePosition? account = some (UInt32.ofNat (index + 1)) := by
  rw [queuePosition?, findIdx?_of_getElem? tidy.once here]
  rfl

theorem Placed.enter (h : registry.Placed) (tidy : registry.Tidy) (account : Account)
    (socket : SocketId) (now : Instant) (absent : account.id ∉ registry.roster.accounts) :
    (registry.enter sv account socket now).Placed := by
  have out : account.id ∉ registry.queue := fun mem => absent (tidy.listed _ mem)
  intro other seat found
  rw [queuePosition?, queue_enter]
  unfold Registry.enter at found
  cases room : hasRoom registry.maxActive registry.activeCount with
  | true =>
    simp only [room, if_true] at found
    rw [if_pos rfl]
    rcases Roster.get?_add_inv absent found with ⟨rfl, rfl⟩ | ⟨-, before⟩
    · exact (queuePosition?_eq_none out).symm
    · exact h other seat before
  | false =>
    simp only [room, Bool.false_eq_true, if_false] at found
    rw [if_neg Bool.false_ne_true, List.findIdx?_append]
    rcases Roster.get?_add_inv absent found with ⟨rfl, rfl⟩ | ⟨different, before⟩
    · have none := queuePosition?_eq_none out
      rw [queuePosition?, Option.map_eq_none_iff] at none
      simp [none, LiveSession.seat]
    · have last : (account.id == other) = false := beq_eq_false_iff_ne.mpr different.symm
      rw [h other seat before, queuePosition?]
      simp [List.findIdx?_cons, last]

theorem Placed.work (h : registry.Placed) (account : AccountId)
    {task : LiveSession W → LiveSession W}
    (keeps : ∀ d, (task d).place = d.place) : (registry.work account task).Placed := by
  intro other seat found
  rcases Roster.get?_change_inv found with ⟨before, rfl, same, rfl⟩ | ⟨-, same⟩
  · exact (keeps _).trans (h _ before same)
  · exact h other seat same

theorem Placed.apply {event : RegistryEvent W} (h : registry.Placed) (tidy : registry.Tidy)
    (fits : event.Fits registry) (calm : event.moves = false) (keeps : event.setsPlace = false) :
    (event.apply sv registry).Placed := by
  cases event with
  | enter account socket now => exact h.enter tidy account socket now fits.1
  | work account event => exact h.work account fun d => d.place_apply keeps
  | reorder order perm =>
    intro other seat found
    exact h other seat
      ((Roster.get?_of_perm tidy.distinct (perm registry.roster.seats)).symm.trans found)
  | remove => cases calm
  | letIn => cases calm
  | renumber => cases calm
  | relocate regions => exact h
  | stray inbox procedure => exact h
  | outside change => exact h

theorem Unfolds.placed {events : List (RegistryEvent W)} (h : Unfolds sv events registry after)
    (tidy : registry.Tidy) (calm : ∀ event ∈ events, event.moves = false)
    (keeps : ∀ event ∈ events, event.setsPlace = false) (placed : registry.Placed) :
    after.Placed := by
  induction h with
  | nil => exact placed
  | cons fits _ ih =>
    exact ih (tidy_apply fits tidy) (fun e mem => calm e (List.mem_cons_of_mem _ mem))
      (fun e mem => keeps e (List.mem_cons_of_mem _ mem))
      (placed.apply tidy fits (calm _ List.mem_cons_self) (keeps _ List.mem_cons_self))

theorem place_renumber (position : UInt32) (d : LiveSession W) :
    (renumber sv position d).place = some position := by
  unfold renumber
  split
  · next h => exact h
  · exact congrArg Session.queuePosition (LiveSession.frame_sendAuthWaitQueue _ _).1

theorem get?_renumberFrom_of_not_mem (index : Nat) {queue : List AccountId} (roster : Roster W)
    {account : AccountId} (out : account ∉ queue) :
    (renumberFrom sv index queue roster).get? account = roster.get? account := by
  induction queue generalizing index roster with
  | nil => rfl
  | cons first rest ih =>
    rw [List.mem_cons, not_or] at out
    exact (ih _ _ out.2).trans (Roster.get?_change_of_ne _ out.1)

theorem place_renumberFrom (index : Nat) {queue : List AccountId} (once : queue.Nodup)
    (roster : Roster W) {account : AccountId} {seat : Seat W} {i : Nat}
    (here : queue[i]? = some account)
    (found : (renumberFrom sv index queue roster).get? account = some seat) :
    seat.session.queuePosition = some (UInt32.ofNat (index + i + 1)) := by
  induction queue generalizing index roster i with
  | nil => cases here
  | cons first rest ih =>
    obtain ⟨new, once⟩ := List.nodup_cons.mp once
    rw [renumberFrom] at found
    cases i with
    | zero =>
      cases here
      rw [get?_renumberFrom_of_not_mem _ _ new] at found
      rcases Roster.get?_change_inv found with ⟨before, -, -, rfl⟩ | ⟨different, -⟩
      · exact place_renumber _ _
      · exact absurd rfl different
    | succ i =>
      rw [ih (index + 1) once _ here found, Nat.add_right_comm index 1 i, Nat.add_assoc index i 1]

theorem placed_update (now : Instant) (tidy : registry.Tidy)
    (keeps : ∀ event ∈ registry.updateEvents sv now, event.setsPlace = false)
    (queued : Queued standing registry) : (registry.update sv now).2.Placed := by
  have told : Unfolds sv _ registry _ := unfolds_update now tidy.distinct
  have tidy' := told.tidy tidy
  have queued' := told.queued tidy keeps queued
  intro account seat found
  by_cases mem : account ∈ (registry.update sv now).2.queue
  · obtain ⟨index, here⟩ := List.mem_iff_getElem?.mp mem
    rw [queuePosition?_of_getElem? tidy' here, place_renumberFrom 0 tidy'.once _ here found,
      Nat.zero_add]
  · rw [queued'.past account seat found mem, queuePosition?_eq_none mem]

theorem placed_step (step : RegistryStep W) (tidy : registry.Tidy) (full : registry.Full)
    (keeps : ∀ event ∈ registry.stepEvents sv step, event.setsPlace = false)
    (queued : Queued standing registry) (placed : registry.Placed) :
    (registry.step sv step).Placed := by
  cases moves : step.moves with
  | false =>
    exact (unfolds_step step tidy.distinct full).placed tidy (calm_stepEvents registry moves)
      keeps placed
  | true =>
    cases step with
    | update now => exact placed_update now tidy keeps queued
    | shutdown =>
      intro account seat found
      have mem := Roster.mem_accounts_of_get? found
      rw [step, accounts_shutdown] at mem
      exact absurd mem List.not_mem_nil
    | _ => cases moves

/-! ## Between two calls -/

/-- What holds of a registry between two calls. -/
structure Settled (registry : Registry W) : Prop where
  once : registry.queue.Nodup
  listed : ∀ account ∈ registry.queue, registry.roster.has account = true
  counted : registry.queue.length ≤ registry.length
  limited : 0 < registry.maxActive → registry.activeCount ≤ registry.maxActive
  full : registry.queue ≠ [] →
    0 < registry.maxActive ∧ registry.activeCount = registry.maxActive
  placed : ∀ account seat, registry.roster.get? account = some seat →
    seat.session.queuePosition = registry.queuePosition? account
  /-- The places are counted from one, and never wrap. -/
  counts : ∀ account, (registry.queuePosition? account).map UInt32.toNat =
    (registry.queue.findIdx? (· == account)).map (· + 1)

theorem length_le_of_nodup {accounts : List AccountId} (once : accounts.Nodup) :
    accounts.length ≤ UInt32.size := by
  have numbers : (accounts.map fun account => account.val.toNat).Nodup := by
    refine once.map fun a b same => ?_
    cases a
    cases b
    exact congrArg AccountId.mk (UInt32.toNat_inj.mp same)
  have small : (accounts.map fun account => account.val.toNat) ⊆ List.range UInt32.size := by
    intro n mem
    obtain ⟨account, -, rfl⟩ := List.mem_map.mp mem
    exact List.mem_range.mpr account.val.toNat_lt
  have := (List.subperm_of_subset numbers small).length_le
  rwa [List.length_map, List.length_range] at this

/-- Someone is past the queue whenever someone waits, so places fit into 32 bits. -/
theorem queue_length_lt (tidy : registry.Tidy) (full : registry.Full) :
    registry.queue.length < UInt32.size := by
  by_cases idle : registry.queue = []
  · rw [idle]
    decide
  · obtain ⟨limit, taken⟩ := hasRoom_eq_false_iff.mp (full idle)
    have all := length_le_of_nodup tidy.distinct
    rw [Roster.length_accounts] at all
    rw [activeCount, length] at taken
    omega

theorem settled_of (tidy : registry.Tidy) (full : registry.Full)
    (queued : Queued standing registry) (placed : registry.Placed) : registry.Settled where
  once := tidy.once
  listed account mem := Roster.has_iff.mpr (tidy.listed account mem)
  counted := by
    obtain ⟨ahead, split⟩ := queued.waiting
    have all := queued.perm.length_eq
    rw [← split, List.length_append, Roster.length_accounts] at all
    exact Nat.le.intro ((Nat.add_comm _ _).trans all)
  limited := queued.limited
  full waits := by
    obtain ⟨limit, taken⟩ := hasRoom_eq_false_iff.mp (full waits)
    exact ⟨limit, Nat.le_antisymm (queued.limited limit) taken⟩
  placed := placed
  counts account := by
    by_cases mem : account ∈ registry.queue
    · obtain ⟨index, here⟩ := List.mem_iff_getElem?.mp mem
      have bound : index + 1 < UInt32.size :=
        Nat.lt_of_le_of_lt (List.getElem?_eq_some_iff.mp here).1 (queue_length_lt tidy full)
      rw [queuePosition?_of_getElem? tidy here, findIdx?_of_getElem? tidy.once here]
      exact congrArg some (UInt32.toNat_ofNat_of_lt' bound)
    · have none := queuePosition?_eq_none mem
      rw [none]
      rw [queuePosition?, Option.map_eq_none_iff] at none
      rw [none]
      rfl

theorem settled_run (steps : List (RegistryStep W)) (tidy : registry.Tidy)
    (full : registry.Full) (queued : Queued standing registry) (placed : registry.Placed)
    (keeps : ∀ event ∈ registry.history sv steps, event.setsPlace = false) :
    (registry.run sv steps).Settled := by
  induction steps generalizing registry standing with
  | nil => exact settled_of tidy full queued placed
  | cons step steps ih =>
    rw [history, List.forall_mem_append] at keeps
    have told : Unfolds sv _ registry _ := unfolds_step step tidy.distinct full
    exact ih (told.tidy tidy) (full_step step tidy full) (told.queued tidy keeps.1 queued)
      (placed_step step tidy full keeps.1 queued placed) keeps.2

/-- A login that is refused has found a session with a socket that waits, and leaves
everything as it was. -/
theorem eq_of_login_error {account : Account} {socket : SocketId} {auth : Envelope}
    {now : Instant} {error : SessionError}
    (refused : registry.login sv account socket auth now = (.error error, after)) :
    error = .socketPending ∧ after = registry ∧
      ∃ seat, registry.roster.get? account.id = some seat ∧
        (seat.live registry.roster.outside).requestNewSocket sv socket =
          (.error .socketPending, seat.live registry.roster.outside) := by
  unfold login at refused
  cases found : registry.roster.get? account.id with
  | none =>
    simp only [found] at refused
    cases congrArg Prod.fst refused
  | some seat =>
    simp only [found, handOver] at refused
    by_cases pending : seat.session.pending.isSome = true
    · have same : LiveSession.requestNewSocket sv socket (seat.live registry.roster.outside) = _ :=
        requestNewSocket_of_pending socket pending
      rw [same] at refused
      cases refused
      exact ⟨rfl, rfl, seat, rfl, same⟩
    · rw [requestNewSocket_of_free socket (d := seat.live registry.roster.outside) pending]
        at refused
      cases congrArg Prod.fst refused

/-- The login queue of a realm whose sessions keep their places. Between two calls it is
settled. At every moment, also in the midst of a call, those who wait are the last who
came, in the order in which they came, and whoever is let in has waited longest. A login
that is refused changes nothing. -/
theorem login_queue_invariant (sv : Services W) (maxActive : Nat) (regions : RegionPool)
    (outside : Outside W) (steps : List (RegistryStep W))
    (keeps : ∀ event ∈ (empty maxActive regions outside).history sv steps,
      event.setsPlace = false) :
    let start := empty maxActive regions outside
    let registry := start.run sv steps
    (registry.maxActive = maxActive ∧ registry.Settled) ∧
      (∀ past, past <+: start.history sv steps →
        let there := start.replay sv past
        (Registry.standing past []).Nodup ∧
          (∀ account, account ∈ Registry.standing past [] ↔ there.roster.has account = true) ∧
          there.queue <:+ Registry.standing past [] ∧
          ∀ account, past ++ [.letIn account] <+: start.history sv steps →
            there.queue.head? = some account) ∧
      ∀ account socket auth now error after,
        registry.login sv account socket auth now = (.error error, after) →
        error = .socketPending ∧ after = registry ∧
          ∃ seat, registry.roster.get? account.id = some seat ∧
            (seat.live registry.roster.outside).requestNewSocket sv socket =
              (.error .socketPending, seat.live registry.roster.outside) := by
  intro start registry
  have tidy : start.Tidy := tidy_empty ..
  have full : start.Full := full_empty _ _ _
  have queued : Queued [] start := queued_empty ..
  have placed : start.Placed := fun _ _ found =>
    absurd (Roster.mem_accounts_of_get? found) List.not_mem_nil
  have told : Unfolds sv _ start _ := unfolds_history steps tidy full
  refine ⟨⟨told.maxActive, settled_run steps tidy full queued placed keeps⟩, ?_,
    fun _ _ _ _ _ _ => eq_of_login_error⟩
  rintro past ⟨rest, split⟩ there
  rw [← split] at told keeps
  -- The invariant is carried to the event in question, which need not end a call.
  obtain ⟨before, -⟩ := told.split
  have queued := before.queued tidy (List.forall_mem_append.mp keeps).1 queued
  refine ⟨queued.perm.nodup_iff.mpr (before.tidy tidy).distinct,
    fun account => queued.perm.mem_iff.trans Roster.has_iff.symm, queued.waiting, ?_⟩
  rintro account ⟨rest', split'⟩
  rw [← split, List.append_assoc, List.append_cancel_left_eq] at split'
  rw [← split'] at told
  cases told.split.2 with
  | cons fits _ => exact fits.1

end

end Registry

/-! ## On stage -/

namespace Rehearsal

def bareServices : Services Stage := { collaborators := Stage.collaborators }

/-- A realm with room for one, and sockets for some logins. -/
def smallRealm : Registry Stage :=
  .empty 1 { actors := [] }
    { world := { sockets := List.replicate 4 ⟨false, ⟨[]⟩, "", []⟩ } }

def arrive (account socket : Nat) : RegistryStep Stage :=
  .login ⟨⟨.ofNat account⟩, .player, 2, .enUs, ⟨[]⟩⟩ ⟨socket⟩ (.withPayload .authSession []) 0

end Rehearsal

namespace Registry

/-- Three accounts come into a realm with room for one. When the first leaves, the
second gets in and the third moves up. -/
theorem login_queue_invariant_three :
    let registry := Rehearsal.smallRealm.run Rehearsal.bareServices
      [Rehearsal.arrive 1 0, Rehearsal.arrive 2 1, Rehearsal.arrive 3 2, .update 0,
        .act ⟨1⟩ (Rehearsal.just .closeSocket), .update 0]
    registry.queue = [⟨3⟩] ∧ registry.queuePosition? ⟨3⟩ = some 1 ∧ registry.Settled :=
  ⟨by decide, by decide, (login_queue_invariant _ _ _ _ _ (by decide)).1.2⟩

end Registry

end GameRealm
