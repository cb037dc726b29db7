import GameRealm.Proofs.Independence
import GameRealm.Proofs.RegistryHistory
import GameRealm.Proofs.TwoRunsTick

/-!
# What a realm is to one of its accounts

Where every account keeps to itself, what is done for one of them is a step on its own
part of the realm:

1. `Roster.Alike` says that two rosters are the same to an account: its seat, what its
   session can find out, and what was done for it so far (`Outside.doneFor`). Work that
   keeps to its session is a step on the account's part (`independent_change`);
2. `Registry.Alike` adds the account's part of the region pool. The removal of a session
   is a step on that (`independent_removal`). What it leaves behind, and what it does to
   the queue, is told by `removeSessions_fst` and `queue_removeSessions`.
-/

namespace GameRealm

namespace Effect

def messageOn? (socket : SocketId) : Effect → Option Message
  | send receiver message => if receiver = socket then some message else none
  | _ => none

end Effect

namespace Outside

def messages (socket : SocketId) (o : Outside W) : List Message :=
  o.trace.filterMap (Effect.messageOn? socket)

/-- What was done for an account, the last thing first. -/
def doneFor (part : Partition W) (account : AccountId) (o : Outside W) : List Effect :=
  o.effects.filter fun effect => effect.owner? part = some account

theorem messages_eq (part : Partition W) (socket : SocketId) (o : Outside W) :
    o.messages socket =
      (o.doneFor part (part.socketOwner socket)).reverse.filterMap (Effect.messageOn? socket) := by
  rw [messages, trace, doneFor, ← List.filter_reverse, List.filterMap_filter]
  refine List.filterMap_congr fun effect _ => ?_
  split
  · rfl
  · next foreign =>
    cases effect with
    | send receiver message =>
      refine if_neg fun same => foreign ?_
      simp [Effect.owner?, same]
    | _ => rfl

end Outside

/-! ## Rosters -/

namespace Roster

/-- Every account has one session, which has nothing but the account's, and no
transaction is open. -/
structure Parted (part : Partition W) (roster : Roster W) : Prop where
  distinct : roster.accounts.Nodup
  session : ∀ {account seat}, roster.get? account = some seat →
    seat.session.Belongs part account
  inbox : ∀ {account seat}, roster.get? account = some seat → seat.inbox.Belongs part account
  settled : part.Settled roster.outside.world

/-- Two rosters that are the same to an account. -/
structure Alike (part : Partition W) (account : AccountId) (roster roster' : Roster W) : Prop where
  seat : roster'.get? account = roster.get? account
  world : part.Alike account roster.outside.world roster'.outside.world
  done : roster'.outside.doneFor part account = roster.outside.doneFor part account

end Roster

namespace TwoRuns

variable {sv : Services W} {runs : TwoRuns sv} {o o' : Outside W}

theorem Matches.doneFor_own (h : runs.Matches o o')
    (before : runs.other.doneFor runs.part runs.account =
      runs.one.doneFor runs.part runs.account) :
    o'.doneFor runs.part runs.account = o.doneFor runs.part runs.account := by
  obtain ⟨fresh, -, here, there⟩ := h.effects
  unfold Outside.doneFor at before ⊢
  rw [here, there, List.filter_append, List.filter_append, before]

/-- Nothing is done for another account. -/
theorem Matches.doneFor_of_ne (h : runs.Matches o o') {account : AccountId}
    (ne : account ≠ runs.account) :
    o.doneFor runs.part account = runs.one.doneFor runs.part account := by
  obtain ⟨fresh, own, here, -⟩ := h.effects
  have foreign : fresh.filter (fun effect => effect.owner? runs.part = some account) = [] := by
    refine List.filter_eq_nil_iff.mpr fun effect mem => ?_
    rcases own effect mem with none | mine
    · simp [none]
    · simp [mine, ne.symm]
  unfold Outside.doneFor
  rw [here, List.filter_append, foreign, List.nil_append]

end TwoRuns

namespace Apart

variable {sv : Services W} (apart : Apart sv)

/-- A runs to the session of an account in two rosters. -/
def runs (account : AccountId) (roster roster' : Roster W) : TwoRuns sv :=
  ⟨apart, account, roster.outside, roster'.outside⟩

/-- Work that keeps to the session of an account. -/
def Keeps (account : AccountId) (task : LiveSession W → LiveSession W) : Prop :=
  ∀ (one other : Outside W) {d d' : LiveSession W}, (TwoRuns.mk apart account one other).Twin d d' →
    (TwoRuns.mk apart account one other).Twin (task d) (task d')

variable {roster roster' : Roster W} {account other : AccountId} {seat : Seat W}

theorem alike_equivalence (account : AccountId) :
    Equivalence (Roster.Alike (W := W) apart.part account) where
  refl _ := ⟨rfl, (apart.separates.alike account).refl _, rfl⟩
  symm h := ⟨h.seat.symm, (apart.separates.alike account).symm h.world, h.done.symm⟩
  trans h h' := ⟨h'.seat.trans h.seat, (apart.separates.alike account).trans h.world h'.world,
    h'.done.trans h.done⟩

theorem twin_live (parted : roster.Parted apart.part) (parted' : roster'.Parted apart.part)
    (alike : roster.Alike apart.part account roster') (found : roster.get? account = some seat) :
    (apart.runs account roster roster').Twin (seat.live roster.outside)
      (seat.live roster'.outside) :=
  have unmoved : ∀ {r : Roster W}, r.Parted apart.part →
      apart.part.Aside account r.outside.world r.outside.world :=
    fun fine => ⟨fine.settled, fun other _ => (apart.separates.alike other).refl _⟩
  ⟨rfl, parted.session found, rfl, parted.inbox found,
    ⟨⟨[], List.forall_mem_nil _, rfl, rfl⟩, alike.world⟩, unmoved parted, unmoved parted'⟩

/-- Work that keeps to its session comes to the same in two such rosters. -/
theorem alike_change {task : LiveSession W → LiveSession W} (keeps : apart.Keeps account task)
    (parted : roster.Parted apart.part) (parted' : roster'.Parted apart.part)
    (alike : roster.Alike apart.part account roster') :
    (roster.change account task).Alike apart.part account (roster'.change account task) := by
  cases found : roster.get? account with
  | none =>
    rw [Roster.change_of_absent task found, Roster.change_of_absent task (alike.seat.trans found)]
    exact alike
  | some seat =>
    have found' := alike.seat.trans found
    have twin := keeps _ _ (apart.twin_live parted parted' alike found)
    refine ⟨?_, ?_, ?_⟩
    · rw [Roster.get?_change_self task found, Roster.get?_change_self task found']
      exact congrArg some (congrArg₂ Seat.mk twin.session twin.inside.inbox)
    · rw [Roster.outside_change task found, Roster.outside_change task found']
      exact twin.around.alike
    · rw [Roster.outside_change task found, Roster.outside_change task found']
      exact twin.around.doneFor_own alike.done

theorem alike_change_of_ne {task : LiveSession W → LiveSession W} (keeps : apart.Keeps account task)
    (parted : roster.Parted apart.part) (ne : other ≠ account) :
    roster.Alike apart.part other (roster.change account task) := by
  cases found : roster.get? account with
  | none =>
    rw [Roster.change_of_absent task found]
    exact (apart.alike_equivalence other).refl roster
  | some seat =>
    have twin := keeps _ _
      (apart.twin_live parted parted ((apart.alike_equivalence account).refl roster) found)
    refine ⟨Roster.get?_change_of_ne task ne, ?_, ?_⟩
    · rw [Roster.outside_change task found]
      exact twin.around.aside.2 other ne
    · rw [Roster.outside_change task found]
      exact twin.around.doneFor_of_ne ne

theorem parted_change {task : LiveSession W → LiveSession W} (keeps : apart.Keeps account task)
    (parted : roster.Parted apart.part) : (roster.change account task).Parted apart.part := by
  cases found : roster.get? account with
  | none => exact (Roster.change_of_absent task found).symm ▸ parted
  | some seat =>
    have twin := keeps _ _
      (apart.twin_live parted parted ((apart.alike_equivalence account).refl roster) found)
    refine ⟨(Roster.accounts_change task).symm ▸ parted.distinct, fun h => ?_, fun h => ?_, ?_⟩
    · rcases Roster.get?_change_inv h with ⟨before, rfl, same, rfl⟩ | ⟨-, same⟩
      · cases found.symm.trans same
        exact twin.belongs
      · exact parted.session same
    · rcases Roster.get?_change_inv h with ⟨before, rfl, same, rfl⟩ | ⟨-, same⟩
      · cases found.symm.trans same
        exact twin.inside.belongs
      · exact parted.inbox same
    · rw [Roster.outside_change task found]
      exact twin.around.aside.1

/-- Work on every session, in whatever order. -/
theorem independent_change {task : AccountId → LiveSession W → LiveSession W}
    (keeps : ∀ account, apart.Keeps account (task account)) :
    Independent (Roster.Alike (W := W) apart.part) (Roster.Parted apart.part)
      fun account roster => roster.change account (task account) where
  alike := apart.alike_equivalence
  fine account _ := apart.parted_change (keeps account)
  own account _ _ := apart.alike_change (keeps account)
  others account _ _ := apart.alike_change_of_ne (keeps account)

end Apart

/-! ## Sessions that are removed -/

/-- Two registries that are the same to an account. -/
structure Registry.Alike (part : Partition W) (account : AccountId)
    (registry registry' : Registry W) : Prop where
  roster : registry.roster.Alike part account registry'.roster
  facet : registry'.regions.facet account = registry.regions.facet account

def Seat.remains (seat : Seat W) : Inbox W :=
  { seat.inbox with mailbox := seat.inbox.mailbox.close }

theorem LiveSession.inbox_drop (sv : Services W) (d : LiveSession W) :
    (d.drop sv).inbox = d.seat.remains := by
  unfold LiveSession.drop
  dsimp only
  split <;> simp [LiveSession.seat, Seat.remains]

namespace Registry

variable {sv : Services W} {registry : Registry W} {account other : AccountId} {seat : Seat W}

theorem removeSession_of_absent (absent : registry.roster.get? account = none) :
    registry.removeSession sv account = (none, registry) := by
  simp only [removeSession, absent]

theorem removeSession_of_get? (found : registry.roster.get? account = some seat) :
    registry.removeSession sv account = (some seat.remains,
      { registry with
        roster :=
          { registry.roster.erase account with
            outside := ((seat.live registry.roster.outside).drop sv).outside }
        queue := registry.queue.filter (· != account)
        regions := (registry.regions.remove account).2 }) := by
  simp only [removeSession, found, LiveSession.inbox_drop]
  rfl

theorem get?_removeSession_of_ne (ne : other ≠ account) :
    (registry.removeSession sv account).2.roster.get? other = registry.roster.get? other := by
  cases found : registry.roster.get? account with
  | none => rw [removeSession_of_absent found]
  | some seat =>
    rw [removeSession_of_get? found]
    exact Roster.get?_erase_of_ne ne

theorem removeSessions_snd (accounts : List AccountId) (registry : Registry W) :
    (removeSessions sv accounts registry).2 =
      accounts.foldl (fun registry account => (registry.removeSession sv account).2) registry := by
  induction accounts generalizing registry with
  | nil => rfl
  | cons account rest ih => exact ih _

theorem removeSessions_fst {accounts : List AccountId} (once : accounts.Nodup)
    (registry : Registry W) :
    (removeSessions sv accounts registry).1 =
      accounts.filterMap fun account => (registry.roster.get? account).map Seat.remains := by
  induction accounts generalizing registry with
  | nil => rfl
  | cons account rest ih =>
    obtain ⟨out, once⟩ := List.nodup_cons.mp once
    have others : rest.filterMap (fun other =>
          ((registry.removeSession sv account).2.roster.get? other).map Seat.remains) =
        rest.filterMap fun other => (registry.roster.get? other).map Seat.remains := by
      refine List.filterMap_congr fun other mem => ?_
      have ne : other ≠ account := fun same => out (same ▸ mem)
      rw [get?_removeSession_of_ne ne]
    rw [removeSessions]
    dsimp only
    rw [ih once, others, List.filterMap_cons]
    cases found : registry.roster.get? account with
    | none => rw [removeSession_of_absent found]; rfl
    | some seat => rw [removeSession_of_get? found]; rfl

theorem maxActive_removeSessions (accounts : List AccountId) (registry : Registry W) :
    (removeSessions sv accounts registry).2.maxActive = registry.maxActive := by
  induction accounts generalizing registry with
  | nil => rfl
  | cons account rest ih =>
    refine (ih (registry.removeSession sv account).2).trans ?_
    unfold removeSession
    split <;> rfl

theorem queue_removeSessions {accounts : List AccountId} (once : accounts.Nodup)
    {registry : Registry W} (listed : ∀ account ∈ accounts, account ∈ registry.roster.accounts) :
    (removeSessions sv accounts registry).2.queue =
      registry.queue.filter fun account => !accounts.contains account := by
  induction accounts generalizing registry with
  | nil => exact (List.filter_eq_self.mpr fun _ _ => rfl).symm
  | cons account rest ih =>
    obtain ⟨out, once⟩ := List.nodup_cons.mp once
    obtain ⟨seat, found⟩ := Roster.mem_accounts_iff.mp (listed account List.mem_cons_self)
    have queue : (registry.removeSession sv account).2.queue =
        registry.queue.filter (· != account) := by rw [removeSession_of_get? found]
    have listed' : ∀ other ∈ rest,
        other ∈ (registry.removeSession sv account).2.roster.accounts := by
      intro other mem
      rw [accounts_removeSession, List.mem_filter, bne_iff_ne]
      exact ⟨listed other (List.mem_cons_of_mem _ mem), fun same => out (same ▸ mem)⟩
    refine (ih once listed').trans ?_
    rw [queue, List.filter_filter]
    refine List.filter_congr fun other _ => ?_
    rw [List.contains_cons, Bool.not_or, Bool.and_comm]
    rfl

end Registry

namespace Apart

variable {sv : Services W} (apart : Apart sv) {registry registry' : Registry W}
  {account other : AccountId}

theorem registry_equivalence (account : AccountId) :
    Equivalence (Registry.Alike (W := W) apart.part account) where
  refl _ := ⟨(apart.alike_equivalence account).refl _, rfl⟩
  symm h := ⟨(apart.alike_equivalence account).symm h.roster, h.facet.symm⟩
  trans h h' := ⟨(apart.alike_equivalence account).trans h.roster h'.roster,
    h'.facet.trans h.facet⟩

theorem alike_removal (parted : registry.roster.Parted apart.part)
    (parted' : registry'.roster.Parted apart.part)
    (alike : registry.Alike apart.part account registry') :
    (registry.removeSession sv account).2.Alike apart.part account
      (registry'.removeSession sv account).2 := by
  cases found : registry.roster.get? account with
  | none =>
    rw [Registry.removeSession_of_absent found,
      Registry.removeSession_of_absent (alike.roster.seat.trans found)]
    exact alike
  | some seat =>
    have ended := (apart.twin_live parted parted' alike.roster found).drop
    rw [Registry.removeSession_of_get? found,
      Registry.removeSession_of_get? (alike.roster.seat.trans found)]
    exact {
      roster := {
        seat := Roster.get?_erase_self.trans Roster.get?_erase_self.symm
        world := ended.around.alike
        done := ended.around.doneFor_own alike.roster.done }
      facet := (RegionPool.remove_congr alike.facet).2 }

theorem alike_removal_of_ne (parted : registry.roster.Parted apart.part) (ne : other ≠ account) :
    registry.Alike apart.part other (registry.removeSession sv account).2 := by
  cases found : registry.roster.get? account with
  | none =>
    rw [Registry.removeSession_of_absent found]
    exact (apart.registry_equivalence other).refl registry
  | some seat =>
    have ended := (apart.twin_live parted parted
      ((apart.alike_equivalence account).refl registry.roster) found).drop
    rw [Registry.removeSession_of_get? found]
    exact {
      roster := {
        seat := Roster.get?_erase_of_ne ne
        world := ended.around.aside.2 other ne
        done := ended.around.doneFor_of_ne ne }
      facet := RegionPool.remove_of_ne ne }

theorem parted_removal (account : AccountId) (parted : registry.roster.Parted apart.part) :
    (registry.removeSession sv account).2.roster.Parted apart.part := by
  cases found : registry.roster.get? account with
  | none => rw [Registry.removeSession_of_absent found]; exact parted
  | some seat =>
    have ended := (apart.twin_live parted parted
      ((apart.alike_equivalence account).refl registry.roster) found).drop
    refine ⟨?_, fun h => ?_, fun h => ?_, ?_⟩
    · rw [Registry.accounts_removeSession]
      exact parted.distinct.filter _
    · exact parted.session (Registry.get?_removeSession_inv h).2
    · exact parted.inbox (Registry.get?_removeSession_inv h).2
    · rw [Registry.removeSession_of_get? found]
      exact ended.around.aside.1

/-- Removing sessions, in whatever order. -/
theorem independent_removal :
    Independent (Registry.Alike (W := W) apart.part)
      (fun registry => registry.roster.Parted apart.part)
      fun account registry => (registry.removeSession sv account).2 where
  alike := apart.registry_equivalence
  fine account _ := apart.parted_removal account
  own _ _ _ := apart.alike_removal
  others _ _ _ := apart.alike_removal_of_ne

end Apart

end GameRealm
