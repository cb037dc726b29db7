import GameRealm.Proofs.Placement

/-!
# Steps that keep out of each other's way

A state that several parties share is worked on by one party after the other. When every
step depends on the party's own part of the state and leaves the parts of all others as
they were, the order of the steps makes no difference to anyone:

1. `Independent` says this of a step for every party; `Independent.foldl_own` says that
   each party finds its part as if it alone had taken its step, and `Independent.perm`
   that two orders leave the same;
2. the pool of region actors is such a state, `RegionPool.facet` an account's part of it:
   `place` and `remove` of one account are steps on its own facet (`independent_place`,
   `remove_congr`, `remove_of_ne`).
-/

namespace GameRealm

/-- A step for every party, which depends on the party's own part of a state and leaves
those of the others as they were. `Alike a` says that two states have the same part for
`a`, and `Fine` which states are considered. -/
structure Independent {A S : Type} (Alike : A → S → S → Prop) (Fine : S → Prop)
    (step : A → S → S) : Prop where
  alike : ∀ a, Equivalence (Alike a)
  fine : ∀ a {s}, Fine s → Fine (step a s)
  own : ∀ a {s s'}, Fine s → Fine s' → Alike a s s' → Alike a (step a s) (step a s')
  others : ∀ a {b s}, Fine s → b ≠ a → Alike b s (step a s)

namespace Independent

variable {A S : Type} {Alike : A → S → S → Prop} {Fine : S → Prop} {step : A → S → S}

theorem fine_foldl (h : Independent Alike Fine step) (parties : List A) {s : S} (fine : Fine s) :
    Fine (parties.foldl (fun s a => step a s) s) := by
  induction parties generalizing s with
  | nil => exact fine
  | cons a rest ih => exact ih (h.fine a fine)

/-- Whoever has no step keeps its part. -/
theorem foldl_of_not_mem (h : Independent Alike Fine step) {parties : List A} {s : S}
    (fine : Fine s) {b : A} (out : b ∉ parties) :
    Alike b s (parties.foldl (fun s a => step a s) s) := by
  induction parties generalizing s with
  | nil => exact (h.alike b).refl s
  | cons a rest ih =>
    obtain ⟨ne, out⟩ := not_or.mp (mt List.mem_cons.mpr out)
    exact (h.alike b).trans (h.others a fine ne) (ih (h.fine a fine) out)

theorem foldl_own (h : Independent Alike Fine step) {parties : List A} (once : parties.Nodup)
    {s : S} (fine : Fine s) {b : A} (mem : b ∈ parties) :
    Alike b (step b s) (parties.foldl (fun s a => step a s) s) := by
  induction parties generalizing s with
  | nil => exact absurd mem List.not_mem_nil
  | cons a rest ih =>
    obtain ⟨out, once⟩ := List.nodup_cons.mp once
    rcases List.mem_cons.mp mem with rfl | later
    · exact h.foldl_of_not_mem (h.fine b fine) out
    · -- The step before it leaves its part alone, and so does not change its own step.
      have ne : b ≠ a := fun same => out (same ▸ later)
      have before : Alike b (step b s) (step b (step a s)) :=
        h.own b fine (h.fine a fine) (h.others a fine ne)
      exact (h.alike b).trans before (ih once (h.fine a fine) later)

/-- States that are the same to everyone stay so, whatever the order of the steps. -/
theorem perm (h : Independent Alike Fine step) {parties parties' : List A}
    (once : parties.Nodup) (perm : parties'.Perm parties) {s s' : S} (fine : Fine s)
    (fine' : Fine s') (same : ∀ a, Alike a s s') (b : A) :
    Alike b (parties.foldl (fun s a => step a s) s) (parties'.foldl (fun s a => step a s) s') := by
  have once' : parties'.Nodup := perm.nodup_iff.mpr once
  by_cases mem : b ∈ parties
  · have here := h.foldl_own once fine mem
    have there := h.foldl_own once' fine' (perm.mem_iff.mpr mem)
    exact (h.alike b).trans ((h.alike b).symm here)
      ((h.alike b).trans (h.own b fine fine' (same b)) there)
  · have here := h.foldl_of_not_mem fine mem
    have there := h.foldl_of_not_mem fine' fun mem' => mem (perm.mem_iff.mp mem')
    exact (h.alike b).trans ((h.alike b).symm here) ((h.alike b).trans (same b) there)

end Independent

/-! ## Region actors -/

def RegionCommand.account : RegionCommand → AccountId
  | join account _ | leave account _ => account

namespace RegionActor

/-- What an actor is to an account. -/
def facet (account : AccountId) (actor : RegionActor) : Bool × TickLoop × Option RegionId :=
  (actor.running, actor.ticks, actor.regionOf? account)

variable {actor actor' : RegionActor} {account : AccountId}

theorem handle_congr (command : RegionCommand)
    (same : actor'.facet command.account = actor.facet command.account) :
    (actor'.handle command).1 = (actor.handle command).1 ∧
      (actor'.handle command).2.facet command.account =
        (actor.handle command).2.facet command.account := by
  -- The command is answered from what the actor is to its account alone.
  obtain ⟨running, ticks, hosts⟩ : actor'.running = actor.running ∧ actor'.ticks = actor.ticks ∧
      actor'.regionOf? command.account = actor.regionOf? command.account := by
    simpa [facet] using same
  cases command with
  | join account region =>
    simp only [RegionCommand.account] at hosts
    simp only [handle, hosts]
    cases absent : actor.regionOf? account with
    | some current => exact ⟨rfl, same⟩
    | none =>
      have joined : ∀ x : RegionActor, x.regionOf? account = none →
          regionAt (x.hosted ++ [(account, region)]) account = some region := fun x none => by
        rw [regionAt_join none, Function.update_self]
      refine ⟨rfl, ?_⟩
      show (actor'.running, actor'.ticks, regionAt _ account) =
        (actor.running, actor.ticks, regionAt _ account)
      rw [joined actor' (hosts.trans absent), joined actor absent, running, ticks]
  | leave account region =>
    simp only [RegionCommand.account] at hosts
    simp only [handle, hosts]
    split
    · refine ⟨rfl, ?_⟩
      show (actor'.running, actor'.ticks, regionAt _ account) =
        (actor.running, actor.ticks, regionAt _ account)
      rw [regionAt_leave, regionAt_leave, Function.update_self, Function.update_self, running,
        ticks]
    · exact ⟨rfl, same⟩

theorem handle_of_ne {command : RegionCommand} (ne : account ≠ command.account) :
    (actor.handle command).2.facet account = actor.facet account := by
  cases command with
  | join who region =>
    simp only [handle]
    cases absent : actor.regionOf? who with
    | some current => rfl
    | none =>
      show (actor.running, actor.ticks, regionAt _ account) = _
      rw [regionAt_join absent, Function.update_of_ne (show account ≠ who from ne)]
      rfl
  | leave who region =>
    simp only [handle]
    split
    · show (actor.running, actor.ticks, regionAt _ account) = _
      rw [regionAt_leave, Function.update_of_ne (show account ≠ who from ne)]
      rfl
    · rfl

end RegionActor

namespace RegionPool

/-- What the pool is to an account: where it is placed, and who of the actors hosts it. -/
def facet (account : AccountId) (pool : RegionPool) :
    Option RegionId × List (Bool × TickLoop × Option RegionId) :=
  (pool.placement account, pool.actors.map (RegionActor.facet account))

section
variable {pool pool' : RegionPool} {account : AccountId} {other : AccountId}

theorem placement_of_facet (same : pool'.facet account = pool.facet account) :
    pool'.placement account = pool.placement account :=
  congrArg Prod.fst same

theorem actors_of_facet (same : pool'.facet account = pool.facet account) :
    pool'.actors.map (RegionActor.facet account) = pool.actors.map (RegionActor.facet account) :=
  congrArg Prod.snd same

theorem actorFor_of_facet (same : pool'.facet account = pool.facet account) (region : RegionId) :
    pool'.actorFor region = pool.actorFor region := by
  have length := congrArg (fun facet => facet.2.length) same
  simp only [facet, List.length_map] at length
  unfold actorFor
  rw [length]

theorem send_congr (command : RegionCommand)
    (same : pool'.facet command.account = pool.facet command.account) (index : Nat) :
    (pool'.send index command).1 = (pool.send index command).1 ∧
      (pool'.send index command).2.facet command.account =
        (pool.send index command).2.facet command.account := by
  have at_index := congrArg (fun facet => facet.2[index]?) same
  simp only [facet, List.getElem?_map] at at_index
  unfold send
  cases found : pool.actors[index]? with
  | none =>
    rw [found] at at_index
    rw [Option.map_eq_none_iff.mp at_index]
    exact ⟨rfl, same⟩
  | some actor =>
    rw [found] at at_index
    obtain ⟨actor', found', faces⟩ := Option.map_eq_some_iff.mp at_index
    have running : actor'.running = actor.running := congrArg Prod.fst faces
    rw [found']
    dsimp only
    rw [running]
    split
    · obtain ⟨answer, after⟩ := RegionActor.handle_congr command faces
      have placed : pool'.placement command.account = pool.placement command.account :=
        placement_of_facet same
      refine ⟨answer, Prod.ext placed ?_⟩
      show (pool'.actors.set index _).map _ = (pool.actors.set index _).map _
      rw [List.map_set, List.map_set, after, actors_of_facet same]
    · exact ⟨rfl, same⟩

theorem send_of_ne {command : RegionCommand} (ne : other ≠ command.account) (index : Nat) :
    (pool.send index command).2.facet other = pool.facet other := by
  unfold send
  cases found : pool.actors[index]? with
  | none => rfl
  | some actor =>
    dsimp only
    split
    · refine Prod.ext rfl ?_
      show (pool.actors.set index _).map _ = pool.actors.map _
      rw [List.map_set, RegionActor.handle_of_ne ne]
      refine List.ext_getElem? fun i => ?_
      rw [List.getElem?_set]
      split
      · next hit =>
        subst hit
        split
        · rw [List.getElem?_map, found]
          rfl
        · next out => rw [List.getElem?_eq_none (by simpa using out)]
      · rfl
    · rfl

theorem forget_congr (same : pool'.facet account = pool.facet account) :
    (pool'.forget account).facet account = (pool.forget account).facet account := by
  refine Prod.ext ?_ (actors_of_facet same :)
  show (pool'.forget account).placement account = (pool.forget account).placement account
  rw [placement_forget, placement_forget, Function.update_self, Function.update_self]

theorem forget_of_ne (ne : other ≠ account) :
    (pool.forget account).facet other = pool.facet other := by
  refine Prod.ext ?_ rfl
  show (pool.forget account).placement other = pool.placement other
  rw [placement_forget, Function.update_of_ne ne]

theorem placement_note_eq (region : RegionId) :
    (pool.note account region).placement other =
      (pool.placement other).or (if other = account then some region else none) := by
  unfold note placement
  rw [List.find?_append, Option.map_or]
  congr 1
  by_cases hit : account = other
  · simp [hit]
  · simp [hit, Ne.symm hit]

theorem note_congr (same : pool'.facet account = pool.facet account) (region : RegionId) :
    (pool'.note account region).facet account = (pool.note account region).facet account := by
  refine Prod.ext ?_ (actors_of_facet same :)
  show (pool'.note account region).placement account = (pool.note account region).placement account
  rw [placement_note_eq, placement_note_eq, placement_of_facet same]

theorem note_of_ne (ne : other ≠ account) (region : RegionId) :
    (pool.note account region).facet other = pool.facet other := by
  refine Prod.ext ?_ rfl
  show (pool.note account region).placement other = pool.placement other
  rw [placement_note_eq, if_neg ne, Option.or_none]

/-- Two calls with the same answer, after which the pools are the same to an account. -/
def Answers (account : AccountId) (x x' : Except RegionError Unit × RegionPool) : Prop :=
  x'.1 = x.1 ∧ x'.2.facet account = x.2.facet account

@[elab_as_elim]
theorem Answers.elim {motive : Except RegionError Unit × RegionPool →
      Except RegionError Unit × RegionPool → Prop}
    {x x' : Except RegionError Unit × RegionPool} (h : Answers account x x')
    (each : ∀ answer {p p' : RegionPool}, p'.facet account = p.facet account →
      motive (answer, p) (answer, p')) : motive x x' := by
  obtain ⟨answer, p⟩ := x
  obtain ⟨answer', p'⟩ := x'
  obtain ⟨rfl, same⟩ := h
  exact each answer' same

theorem leave_congr (same : pool'.facet account = pool.facet account) (region : RegionId) :
    Answers account (pool.leave account region) (pool'.leave account region) := by
  unfold leave
  rw [actorFor_of_facet same]
  exact send_congr (.leave account region) same _

theorem join_congr (same : pool'.facet account = pool.facet account) (region : RegionId) :
    Answers account (pool.join account region) (pool'.join account region) := by
  unfold join
  rw [actorFor_of_facet same]
  exact send_congr (.join account region) same _

theorem vacate_congr (same : pool'.facet account = pool.facet account) :
    Answers account (pool.vacate account) (pool'.vacate account) := by
  unfold vacate
  rw [placement_of_facet same]
  cases pool.placement account with
  | none => exact ⟨rfl, same⟩
  | some old =>
    dsimp only
    refine (leave_congr same old).elim fun answer {_ _} same => ?_
    cases answer with
    | error => exact ⟨rfl, same⟩
    | ok => exact ⟨rfl, forget_congr same⟩

theorem vacate_of_ne (ne : other ≠ account) :
    (pool.vacate account).2.facet other = pool.facet other := by
  unfold vacate
  cases pool.placement account with
  | none => rfl
  | some old =>
    have left : (pool.leave account old).2.facet other = pool.facet other := send_of_ne ne _
    dsimp only
    generalize pool.leave account old = answered at left ⊢
    obtain ⟨_ | _, after⟩ := answered
    · exact left
    · exact (forget_of_ne ne).trans left

theorem settle_congr (same : pool'.facet account = pool.facet account) (region : RegionId) :
    Answers account (pool.settle account region) (pool'.settle account region) := by
  unfold settle
  refine (join_congr same region).elim fun answer {_ _} same => ?_
  cases answer with
  | error => exact ⟨rfl, same⟩
  | ok => exact ⟨rfl, note_congr same region⟩

theorem settle_of_ne (ne : other ≠ account) (region : RegionId) :
    (pool.settle account region).2.facet other = pool.facet other := by
  unfold settle
  have joined : (pool.join account region).2.facet other = pool.facet other := send_of_ne ne _
  generalize pool.join account region = answered at joined ⊢
  obtain ⟨_ | _, after⟩ := answered
  · exact joined
  · exact (note_of_ne ne region).trans joined

theorem place_congr (same : pool'.facet account = pool.facet account)
    (region : Option RegionId) :
    Answers account (pool.place account region) (pool'.place account region) := by
  unfold place
  rw [placement_of_facet same]
  split
  · exact ⟨rfl, same⟩
  · refine (vacate_congr same).elim fun answer {_ _} same => ?_
    cases answer with
    | error => exact ⟨rfl, same⟩
    | ok =>
      cases region with
      | none => exact ⟨rfl, same⟩
      | some region => exact settle_congr same region

theorem place_of_ne (ne : other ≠ account) (region : Option RegionId) :
    (pool.place account region).2.facet other = pool.facet other := by
  unfold place
  split
  · rfl
  · have vacated : (pool.vacate account).2.facet other = pool.facet other := vacate_of_ne ne
    generalize pool.vacate account = answered at vacated ⊢
    obtain ⟨_ | _, after⟩ := answered
    · exact vacated
    · cases region with
      | none => exact vacated
      | some region => exact (settle_of_ne ne region).trans vacated

theorem remove_congr (same : pool'.facet account = pool.facet account) :
    Answers account (pool.remove account) (pool'.remove account) := by
  unfold remove
  rw [placement_of_facet same]
  cases pool.placement account with
  | none => exact ⟨rfl, same⟩
  | some region => exact leave_congr (forget_congr same) region

theorem remove_of_ne (ne : other ≠ account) :
    (pool.remove account).2.facet other = pool.facet other := by
  unfold remove
  cases pool.placement account with
  | none => rfl
  | some region =>
    have left : ((pool.forget account).leave account region).2.facet other =
        (pool.forget account).facet other := send_of_ne ne _
    exact left.trans (forget_of_ne ne)

end

theorem independent_place (region : AccountId → Option RegionId) :
    Independent (fun account pool pool' => facet account pool' = facet account pool)
      (fun _ => True) fun account pool => (pool.place account (region account)).2 where
  alike _ := ⟨fun _ => rfl, Eq.symm, fun first second => second.trans first⟩
  fine _ _ := id
  own account _ _ _ _ same := (place_congr same (region account)).2
  others account _ _ _ ne := place_of_ne ne (region account)

end RegionPool

end GameRealm
