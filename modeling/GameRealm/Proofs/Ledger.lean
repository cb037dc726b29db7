import GameRealm.Proofs.Reckoning

/-!
# Keeping the books of a queue

Every envelope that arrives gets a ticket, and the traffic of the queue moves the
tickets on:

1. `Ledger.Step` says how an item of the traffic is booked. Not every item fits every
   state of the books: a drain pops the first envelope that it holds and no other, and
   leaves nothing behind while the socket is open;
2. `Ledger.Kept.step`: what the books say stays right with every item;
3. `Ledger.Path.reckoning`: books that have been kept up to a point where no drain is
   open are a reckoning.
-/

namespace GameRealm

open Traffic

/-! ## Books -/

namespace Ticket

/-- Taken by a drain, if it waits. -/
def take (time : Nat) (ticket : Ticket) : Ticket :=
  if ticket.fate = .waiting then { ticket with fate := .held time } else ticket

/-- Removed, if it waits and is a movement. -/
def purge (time : Nat) (ticket : Ticket) : Ticket :=
  if ticket.fate = .waiting ∧ ticket.env.opcode.isMovement = true then
    { ticket with fate := .removed time }
  else ticket

/-- Left behind, if the drain holds it. -/
def drop (drain time : Nat) (ticket : Ticket) : Ticket :=
  if ticket.fate = .held drain then { ticket with fate := .dropped drain time } else ticket

end Ticket

def Call.enter (time : Nat) (tickets : List Ticket) : Call → List Ticket
  | arrive env => tickets ++ [{ env, arrived := time }]
  | purge => tickets.map (·.purge time)

/-- The books of a queue. -/
structure Ledger where
  clock : Nat := 0
  /-- In the order of arrival. -/
  tickets : List Ticket := []
  /-- When the drains that are still open took the queue, the innermost one first. -/
  drains : List Nat := []
  /-- The envelope whose handler is to begin, and when it was popped. -/
  turn : Option (Nat × Envelope) := none

namespace Ledger

def waiting (ledger : Ledger) : List Envelope :=
  (ledger.tickets.filter (·.fate = .waiting)).map (·.env)

def heldBy (ledger : Ledger) (drain : Nat) : List Envelope :=
  (ledger.tickets.filter (·.fate = .held drain)).map (·.env)

/-- How an item of the traffic is booked. What does not fit the books cannot be. -/
inductive Step : Traffic → Ledger → Ledger → Prop
  | calls (calls : List Call) (l : Ledger) :
    Step (.calls calls) l
      { l with clock := l.clock + 1, tickets := calls.foldl (Call.enter l.clock) l.tickets }
  | work (l : Ledger) (idle : l.turn = none) : Step .work l { l with clock := l.clock + 1 }
  | take (l : Ledger) (idle : l.turn = none) :
    Step .take l
      { l with
        clock := l.clock + 1
        tickets := l.tickets.map (·.take l.clock)
        drains := l.clock :: l.drains }
  | pop {l : Ledger} {env : Envelope} {arrived drain : Nat} {outer : List Nat}
      {before after : List Ticket} (granted : Bool) (idle : l.turn = none)
      (innermost : l.drains = drain :: outer)
      (split : l.tickets = before ++ ⟨env, arrived, .held drain⟩ :: after)
      (first : ∀ ticket ∈ before, ticket.fate ≠ .held drain) :
    Step (.pop env granted) l
      { l with
        clock := l.clock + 1
        tickets := before ++ ⟨env, arrived, .popped drain l.clock⟩ :: after
        turn := if granted then some (l.clock, env) else none }
  | invoke {l : Ledger} {pop : Nat} {env : Envelope} (due : l.turn = some (pop, env)) :
    Step (.invoke env) l { l with clock := l.clock + 1, turn := none }
  | leave {l : Ledger} {drain : Nat} {outer : List Nat} (isOpen : Bool) (idle : l.turn = none)
      (innermost : l.drains = drain :: outer) (finished : l.heldBy drain = [] ∨ isOpen = false) :
    Step (.leave (l.heldBy drain) isOpen) l
      { l with
        clock := l.clock + 1
        tickets := l.tickets.map (·.drop drain l.clock)
        drains := outer }

/-- How traffic is booked, item by item. -/
inductive Path : List Traffic → Ledger → Ledger → Prop
  | nil (l : Ledger) : Path [] l l
  | cons {item : Traffic} {traffic : List Traffic} {l m n : Ledger} (step : Step item l m)
      (rest : Path traffic m n) : Path (item :: traffic) l n

theorem Path.append {first second : List Traffic} {l m n : Ledger} (path : Path first l m)
    (rest : Path second m n) : Path (first ++ second) l n := by
  induction path with
  | nil => exact rest
  | cons step _ ih => exact .cons step (ih rest)

theorem Step.clock {item : Traffic} {l m : Ledger} (step : Step item l m) :
    m.clock = l.clock + 1 := by
  cases step <;> rfl

end Ledger

/-! ## What the books keep -/

/-- How a fate may go on while no envelope is popped. -/
inductive Fate.Yields : Fate → Fate → Prop
  | same (fate : Fate) : Yields fate fate
  | take (time : Nat) : Yields .waiting (.held time)
  | purge (time : Nat) : Yields .waiting (.removed time)
  | drop (drain time : Nat) : Yields (.held drain) (.dropped drain time)

theorem Fate.Before.yields {a a' b b' : Fate} (before : a.Before b) (first : a.Yields a')
    (second : b.Yields b') : a'.Before b' := by
  cases first <;> cases second <;> revert before <;> simp only [Fate.Before] <;> grind

/-- A ticket that may have been moved on, though not by being popped. -/
structure Ticket.MovesTo (ticket moved : Ticket) : Prop where
  env : moved.env = ticket.env
  arrived : moved.arrived = ticket.arrived
  fate : ticket.fate.Yields moved.fate

namespace Ticket

variable (ticket : Ticket) (time : Nat)

theorem movesTo_take : ticket.MovesTo (ticket.take time) := by
  unfold take
  split
  · next waits => exact ⟨rfl, rfl, by rw [waits]; exact .take time⟩
  · exact ⟨rfl, rfl, .same _⟩

theorem movesTo_purge : ticket.MovesTo (ticket.purge time) := by
  unfold purge
  split
  · next waits => exact ⟨rfl, rfl, by rw [waits.1]; exact .purge time⟩
  · exact ⟨rfl, rfl, .same _⟩

theorem movesTo_drop (drain : Nat) : ticket.MovesTo (ticket.drop drain time) := by
  unfold drop
  split
  · next held => exact ⟨rfl, rfl, by rw [held]; exact .drop drain time⟩
  · exact ⟨rfl, rfl, .same _⟩

/-- What a ticket says of an arrival. -/
def arrival (ticket : Ticket) : Nat × Envelope := (ticket.arrived, ticket.env)

end Ticket

namespace Ledger

/-- The books at a time: what the tickets say is true, and they are in order. -/
structure Orderly (traffic : List Traffic) (drains : List Nat) (tickets : List Ticket) :
    Prop where
  timely : ∀ ticket ∈ tickets, ticket.Timely traffic
  past : ∀ ticket ∈ tickets, ticket.arrived < traffic.length
  arrived : tickets.Pairwise (·.arrived ≤ ·.arrived)
  order : tickets.Pairwise fun earlier later => earlier.fate.Before later.fate
  held : ∀ ticket ∈ tickets, ∀ taken, ticket.fate = .held taken → taken ∈ drains
  dropped : ∀ ticket ∈ tickets, ∀ taken time, ticket.fate = .dropped taken time → taken ∉ drains
  opened : ∀ drain ∈ drains, traffic[drain]? = some .take
  nested : drains.Pairwise (· > ·)

namespace Orderly

variable {traffic : List Traffic} {item : Traffic} {drains : List Nat} {tickets : List Ticket}

theorem concat (books : Orderly traffic drains tickets) (kept : item ≠ .take) :
    Orderly (traffic ++ [item]) drains tickets where
  timely ticket member := (books.timely ticket member).concat fun _ => kept
  past ticket member := by
    rw [List.length_append]
    exact Nat.lt_add_right _ (books.past ticket member)
  arrived := books.arrived
  order := books.order
  held := books.held
  dropped := books.dropped
  opened drain member := concat_of_get (books.opened drain member)
  nested := books.nested

/-- Tickets are moved on one by one, and what they say then is true. -/
theorem map {f : Ticket → Ticket} {traffic' : List Traffic} {drains' : List Nat}
    (books : Orderly traffic drains tickets)
    (moves : ∀ ticket : Ticket, ticket.MovesTo (f ticket))
    (longer : traffic.length ≤ traffic'.length)
    (timely : ∀ ticket ∈ tickets, (f ticket).Timely traffic')
    (held : ∀ ticket ∈ tickets, ∀ taken, (f ticket).fate = .held taken → taken ∈ drains')
    (dropped : ∀ ticket ∈ tickets, ∀ taken time,
      (f ticket).fate = .dropped taken time → taken ∉ drains')
    (opened : ∀ drain ∈ drains', traffic'[drain]? = some .take)
    (nested : drains'.Pairwise (· > ·)) : Orderly traffic' drains' (tickets.map f) where
  timely := List.forall_mem_map.mpr timely
  past := List.forall_mem_map.mpr fun ticket member => by
    rw [(moves ticket).arrived]
    exact Nat.lt_of_lt_of_le (books.past ticket member) longer
  arrived := List.pairwise_map.mpr <| books.arrived.imp fun before => by
    rwa [(moves _).arrived, (moves _).arrived]
  order := List.pairwise_map.mpr <| books.order.imp fun before =>
    before.yields (moves _).fate (moves _).fate
  held := List.forall_mem_map.mpr held
  dropped := List.forall_mem_map.mpr dropped
  opened := opened
  nested := nested

/-- The drain that a drain has begun in is older. -/
theorem lt_innermost {drain : Nat} {outer : List Nat}
    (books : Orderly traffic (drain :: outer) tickets) {other : Nat}
    (older : other ∈ drain :: outer)
    (differs : other ≠ drain) : other < drain := by
  rcases List.mem_cons.mp older with same | older
  · exact absurd same differs
  · exact (List.pairwise_cons.mp books.nested).1 other older

/-! ### Calls -/

theorem enter {made : List Call} {call : Call} (books : Orderly traffic drains tickets)
    (now : traffic[time]? = some (.calls made)) (last : time + 1 = traffic.length)
    (member : call ∈ made) : Orderly traffic drains (call.enter time tickets) := by
  cases call with
  | arrive env =>
    have fresh : ({ env, arrived := time } : Ticket).Timely traffic := by
      intro later after taken
      have := lt_of_get taken
      simp only at after
      omega
    refine ⟨?timely, ?past, ?arrived, ?order, ?held, ?dropped, books.opened, books.nested⟩
    case timely => exact List.forall_mem_append.mpr ⟨books.timely, by simpa using fresh⟩
    case past => exact List.forall_mem_append.mpr ⟨books.past, by simp; omega⟩
    case arrived =>
      refine List.pairwise_append.mpr ⟨books.arrived, List.pairwise_singleton .., ?_⟩
      intro ticket known
      have := books.past ticket known
      simp only [List.mem_singleton, forall_eq]
      omega
    case order =>
      refine List.pairwise_append.mpr ⟨books.order, List.pairwise_singleton .., ?_⟩
      intro ticket _
      simp only [List.mem_singleton, forall_eq]
      cases ticket.fate <;> trivial
    case held => exact List.forall_mem_append.mpr ⟨books.held, by simp⟩
    case dropped => exact List.forall_mem_append.mpr ⟨books.dropped, by simp⟩
  | purge =>
    refine books.map (fun ticket => ticket.movesTo_purge time) (Nat.le_refl _) ?timely ?held
      ?dropped books.opened books.nested
    case timely =>
      intro ticket known
      have timely := books.timely ticket known
      unfold Ticket.purge
      split
      · next waits =>
        simp only [Ticket.Timely, waits.1] at timely ⊢
        have := books.past ticket known
        exact ⟨waits.2, by omega, ⟨made, now, member⟩, fun earlier after _ => timely earlier after⟩
      · exact timely
    case held =>
      intro ticket known taken
      unfold Ticket.purge
      split
      · exact nofun
      · exact books.held ticket known taken
    case dropped =>
      intro ticket known taken time
      unfold Ticket.purge
      split
      · exact nofun
      · exact books.dropped ticket known taken time

theorem calls {made : List Call} (books : Orderly traffic drains tickets) :
    Orderly (traffic ++ [.calls made]) drains (made.foldl (Call.enter traffic.length) tickets) := by
  have now : (traffic ++ [.calls made])[traffic.length]? = some (.calls made) :=
    List.getElem?_concat_length ..
  have last : traffic.length + 1 = (traffic ++ [Traffic.calls made]).length := by simp
  -- The calls are entered one after another, all of them at the same time.
  suffices entered : ∀ some : List Call, some ⊆ made → ∀ tickets,
      Orderly (traffic ++ [.calls made]) drains tickets →
      Orderly (traffic ++ [.calls made]) drains
        (some.foldl (Call.enter traffic.length) tickets) from
    entered made (List.Subset.refl made) tickets (books.concat nofun)
  intro some
  induction some with
  | nil => exact fun _ _ books => books
  | cons call rest ih =>
    intro among tickets books
    obtain ⟨member, among⟩ := List.cons_subset.mp among
    exact ih among _ (books.enter now last member)

/-! ### Drains -/

theorem take (books : Orderly traffic drains tickets) :
    Orderly (traffic ++ [.take]) (traffic.length :: drains)
      (tickets.map (·.take traffic.length)) := by
  have now : (traffic ++ [.take])[traffic.length]? = some .take :=
    List.getElem?_concat_length ..
  have fresh : ∀ drain ∈ drains, drain < traffic.length :=
    fun drain member => lt_of_get (books.opened drain member)
  refine books.map (fun ticket => ticket.movesTo_take _) (by simp) ?timely ?held ?dropped ?opened
    (List.pairwise_cons.mpr ⟨fresh, books.nested⟩)
  case timely =>
    intro ticket known
    have timely := books.timely ticket known
    unfold Ticket.take
    split
    · next waits =>
      simp only [Ticket.Timely, waits] at timely ⊢
      refine ⟨books.past ticket known, now, fun time after before again => ?_⟩
      rcases get_of_concat again with early | ⟨rfl, _⟩
      · exact timely time after early
      · omega
    · next taken => exact timely.concat fun waits => absurd waits taken
  case held =>
    intro ticket known taken
    unfold Ticket.take
    split
    · intro fate
      cases fate
      exact List.mem_cons_self
    · exact fun fate => List.mem_cons_of_mem _ (books.held ticket known taken fate)
  case dropped =>
    intro ticket known taken time
    unfold Ticket.take
    split
    · exact nofun
    · next waits =>
      intro fate again
      have timely := books.timely ticket known
      simp only [Ticket.Timely, fate] at timely
      have inside := lt_of_get timely.1.take
      rcases List.mem_cons.mp again with rfl | older
      · omega
      · exact books.dropped ticket known taken time fate older
  case opened =>
    intro drain member
    rcases List.mem_cons.mp member with rfl | older
    · exact now
    · exact concat_of_get (books.opened drain older)

theorem leave {drain : Nat} {outer : List Nat} {left : List Envelope} {isOpen : Bool}
    (books : Orderly traffic (drain :: outer) tickets)
    (left_eq : left = (tickets.filter (·.fate = .held drain)).map (·.env))
    (finished : left = [] ∨ isOpen = false) :
    Orderly (traffic ++ [.leave left isOpen]) outer
      (tickets.map (·.drop drain traffic.length)) := by
  have now : (traffic ++ [.leave left isOpen])[traffic.length]? = some (.leave left isOpen) :=
    List.getElem?_concat_length ..
  have nested := List.pairwise_cons.mp books.nested
  have closed : drain ∉ outer := fun again => Nat.lt_irrefl _ (nested.1 drain again)
  refine books.map (fun ticket => ticket.movesTo_drop _ drain) (by simp) ?timely ?held ?dropped
    (fun drain member => concat_of_get (books.opened drain (List.mem_cons_of_mem _ member)))
    nested.2
  case timely =>
    intro ticket known
    have timely := books.timely ticket known
    unfold Ticket.drop
    split
    · next held =>
      -- Something is left behind, so the drain has stopped at a closed socket.
      have among : ticket.env ∈ left := by
        rw [left_eq]
        exact List.mem_map_of_mem (List.mem_filter.mpr ⟨known, decide_eq_true held⟩)
      obtain rfl : isOpen = false := finished.resolve_left (List.ne_nil_of_mem among)
      simp only [Ticket.Timely, held] at timely ⊢
      exact ⟨timely.concat, lt_of_get timely.take, left, now, among⟩
    · exact timely.concat nofun
  case held =>
    intro ticket known taken
    unfold Ticket.drop
    split
    · exact nofun
    · next other =>
      intro fate
      rcases List.mem_cons.mp (books.held ticket known taken fate) with rfl | older
      · exact absurd fate other
      · exact older
  case dropped =>
    intro ticket known taken time
    unfold Ticket.drop
    split
    · intro fate
      cases fate
      exact closed
    · exact fun fate again =>
        books.dropped ticket known taken time fate (List.mem_cons_of_mem _ again)

theorem popped_before {ticket : Ticket} {drain : Nat} (books : Orderly traffic drains tickets)
    (known : ticket ∈ tickets) (before : (Fate.held drain).Before ticket.fate) :
    (Fate.popped drain traffic.length).Before ticket.fate := by
  have timely := books.timely ticket known
  cases fate : ticket.fate with
  | popped taken time =>
    simp only [Ticket.Timely, fate] at timely
    obtain ⟨_, _, _, popped⟩ := timely
    rw [fate] at before
    exact .inr ⟨before, lt_of_get popped⟩
  | _ => trivial

/-- What came earlier than an envelope that the innermost drain pops has been dealt with,
or an outer drain holds it. -/
theorem before_popped {ticket : Ticket} {arrived drain : Nat} {outer : List Nat}
    (books : Orderly traffic (drain :: outer) tickets) (known : ticket ∈ tickets)
    (taking : FirstTake traffic arrived drain) (sooner : ticket.arrived ≤ arrived)
    (done : ticket.fate ≠ .held drain) :
    ticket.fate.Before (.popped drain traffic.length) := by
  have timely := books.timely ticket known
  cases fate : ticket.fate with
  | waiting =>
    simp only [Ticket.Timely, fate] at timely
    exact timely drain (Nat.lt_of_le_of_lt sooner taking.later) taking.take
  | held taken =>
    refine books.lt_innermost (books.held ticket known taken fate) ?_
    rintro rfl
    exact done fate
  | popped taken time =>
    simp only [Ticket.Timely, fate] at timely
    obtain ⟨_, _, _, popped⟩ := timely
    exact .inl (lt_of_get popped)
  | removed time => trivial
  | dropped taken time =>
    simp only [Ticket.Timely, fate] at timely
    refine Nat.lt_of_le_of_ne (timely.1.mono taking sooner) ?_
    rintro rfl
    exact books.dropped ticket known taken time fate List.mem_cons_self

theorem pop {env : Envelope} {arrived drain : Nat} {outer : List Nat}
    {before after : List Ticket} {granted : Bool}
    (books : Orderly traffic (drain :: outer) (before ++ ⟨env, arrived, .held drain⟩ :: after))
    (first : ∀ ticket ∈ before, ticket.fate ≠ .held drain) :
    Orderly (traffic ++ [.pop env granted]) (drain :: outer)
      (before ++ ⟨env, arrived, .popped drain traffic.length⟩ :: after) := by
  have now : (traffic ++ [.pop env granted])[traffic.length]? = some (.pop env granted) :=
    List.getElem?_concat_length ..
  have mine : ⟨env, arrived, .held drain⟩ ∈ before ++ ⟨env, arrived, .held drain⟩ :: after :=
    List.mem_append_right _ List.mem_cons_self
  have taking : FirstTake traffic arrived drain := books.timely _ mine
  -- One ticket changes its fate, and the others are what they were.
  have others : ∀ {P : Ticket → Prop},
      (∀ ticket ∈ before ++ ⟨env, arrived, .held drain⟩ :: after, P ticket) →
      P ⟨env, arrived, .popped drain traffic.length⟩ →
      ∀ ticket ∈ before ++ ⟨env, arrived, .popped drain traffic.length⟩ :: after, P ticket := by
    intro P all popped ticket member
    rcases List.mem_append.mp member with member | member
    · exact all ticket (List.mem_append_left _ member)
    · rcases List.mem_cons.mp member with rfl | member
      · exact popped
      · exact all ticket (List.mem_append_right _ (List.mem_cons_of_mem _ member))
  have books' : Orderly (traffic ++ [.pop env granted]) (drain :: outer)
      (before ++ ⟨env, arrived, .held drain⟩ :: after) := books.concat nofun
  refine ⟨?timely, ?past, ?arrived, ?order, ?held, ?dropped, books'.opened, books.nested⟩
  case timely =>
    exact others books'.timely ⟨taking.concat, lt_of_get taking.take, granted, now⟩
  case past => exact others books'.past (books'.past ⟨env, arrived, .held drain⟩ mine)
  case arrived =>
    obtain ⟨early, late, across⟩ := List.pairwise_append.mp books.arrived
    have late := List.pairwise_cons.mp late
    refine List.pairwise_append.mpr ⟨early, List.pairwise_cons.mpr late, fun ticket member => ?_⟩
    exact List.forall_mem_cons.mpr (List.forall_mem_cons.mp (across ticket member))
  case order =>
    obtain ⟨early, late, across⟩ := List.pairwise_append.mp books.order
    have late := List.pairwise_cons.mp late
    obtain ⟨_, _, arrivedAcross⟩ := List.pairwise_append.mp books.arrived
    refine List.pairwise_append.mpr ⟨early, List.pairwise_cons.mpr ⟨?later, late.2⟩, ?earlier⟩
    case later =>
      intro ticket member
      refine books.popped_before ?_ (late.1 ticket member)
      exact List.mem_append_right _ (List.mem_cons_of_mem _ member)
    case earlier =>
      intro ticket member
      -- What came earlier has been dealt with, or an outer drain holds it.
      obtain ⟨-, toRest⟩ := List.forall_mem_cons.mp (across ticket member)
      have sooner := (List.forall_mem_cons.mp (arrivedAcross ticket member)).1
      refine List.forall_mem_cons.mpr ⟨?_, toRest⟩
      exact books.before_popped (List.mem_append_left _ member) taking sooner (first ticket member)
  case held => exact others books.held nofun
  case dropped => exact others books.dropped nofun

end Orderly

/-- The books are kept, and they agree with the traffic so far. -/
structure Kept (traffic : List Traffic) (l : Ledger) : Prop where
  clock : l.clock = traffic.length
  books : Orderly traffic l.drains l.tickets
  arrivals : l.tickets.map Ticket.arrival = allArrivals traffic
  served : ∀ time env granted, traffic[time]? = some (.pop env granted) →
    ∃ ticket ∈ l.tickets, ticket.env = env ∧ ∃ taken, ticket.fate = .popped taken time
  turn : ∀ pop env, l.turn = some (pop, env) →
    traffic[pop]? = some (.pop env true) ∧ Quiet traffic pop traffic.length
  invoked : ∀ time env, traffic[time]? = some (.invoke env) →
    ∃ pop < time, traffic[pop]? = some (.pop env true) ∧ Quiet traffic pop time
  granted : ∀ pop env, traffic[pop]? = some (.pop env true) → l.turn = some (pop, env) ∨
    ∃ time > pop, traffic[time]? = some (.invoke env) ∧ Quiet traffic pop time

theorem kept_nil : Kept [] {} where
  clock := rfl
  books := ⟨nofun, nofun, .nil, .nil, nofun, nofun, nofun, .nil⟩
  arrivals := rfl
  served := nofun
  turn := nofun
  invoked := nofun
  granted := nofun

theorem map_arrival {f : Ticket → Ticket} (moves : ∀ ticket : Ticket, ticket.MovesTo (f ticket))
    (tickets : List Ticket) : (tickets.map f).map Ticket.arrival = tickets.map Ticket.arrival := by
  rw [List.map_map]
  refine List.map_congr_left fun ticket _ => ?_
  exact Prod.ext (moves ticket).arrived (moves ticket).env

theorem mem_map_of_popped {f : Ticket → Ticket} {tickets : List Ticket} {ticket : Ticket}
    {taken time : Nat} (moves : ∀ ticket : Ticket, ticket.MovesTo (f ticket))
    (member : ticket ∈ tickets) (popped : ticket.fate = .popped taken time) :
    f ticket ∈ tickets.map f ∧ (f ticket).env = ticket.env ∧
      (f ticket).fate = .popped taken time := by
  refine ⟨List.mem_map_of_mem member, (moves ticket).env, ?_⟩
  have yields := (moves ticket).fate
  rw [popped] at yields
  generalize (f ticket).fate = fate at yields
  cases yields
  rfl

theorem map_arrival_calls (time : Nat) (made : List Call) (tickets : List Ticket) :
    (made.foldl (Call.enter time) tickets).map Ticket.arrival =
      tickets.map Ticket.arrival ++ (Traffic.calls made).arrivals.map (time, ·) := by
  induction made generalizing tickets with
  | nil => simp [Traffic.arrivals]
  | cons call rest ih =>
    rw [List.foldl_cons, ih]
    cases call with
    | arrive env => simp [Call.enter, Ticket.arrival, Traffic.arrivals, Call.arrival?]
    | purge =>
      simp only [Call.enter, map_arrival fun ticket => ticket.movesTo_purge time]
      rfl

theorem popped_of_calls {time : Nat} {made : List Call} {tickets : List Ticket}
    {ticket : Ticket} {taken popped : Nat} (member : ticket ∈ tickets)
    (fate : ticket.fate = .popped taken popped) :
    ∃ same ∈ made.foldl (Call.enter time) tickets,
      same.env = ticket.env ∧ same.fate = .popped taken popped := by
  induction made generalizing tickets ticket with
  | nil => exact ⟨ticket, member, rfl, fate⟩
  | cons call rest ih =>
    cases call with
    | arrive env => exact ih (List.mem_append_left _ member) fate
    | purge =>
      obtain ⟨member, env, fate⟩ :=
        mem_map_of_popped (fun ticket => ticket.movesTo_purge time) member fate
      obtain ⟨same, among, as, popped⟩ := ih member fate
      exact ⟨same, among, as.trans env, popped⟩

namespace Kept

variable {traffic : List Traffic} {item : Traffic} {l : Ledger}

theorem served_concat {tickets : List Ticket} (kept : Kept traffic l)
    (other : ∀ env granted, item ≠ .pop env granted)
    (persist : ∀ ticket ∈ l.tickets, ∀ taken time, ticket.fate = .popped taken time →
      ∃ same ∈ tickets, same.env = ticket.env ∧ same.fate = .popped taken time) :
    ∀ time env granted, (traffic ++ [item])[time]? = some (.pop env granted) →
      ∃ ticket ∈ tickets, ticket.env = env ∧ ∃ taken, ticket.fate = .popped taken time := by
  intro time env granted found
  rcases get_of_concat found with early | ⟨_, last⟩
  · obtain ⟨ticket, member, rfl, taken, popped⟩ := kept.served time env granted early
    obtain ⟨same, among, as, popped⟩ := persist ticket member taken time popped
    exact ⟨same, among, as, taken, popped⟩
  · exact absurd last (other env granted)

theorem invoked_concat (kept : Kept traffic l) (other : ∀ env, item ≠ .invoke env) :
    ∀ time env, (traffic ++ [item])[time]? = some (.invoke env) →
      ∃ pop < time, (traffic ++ [item])[pop]? = some (.pop env true) ∧
        Quiet (traffic ++ [item]) pop time := by
  intro time env found
  rcases get_of_concat found with early | ⟨_, last⟩
  · obtain ⟨pop, sooner, popped, quiet⟩ := kept.invoked time env early
    exact ⟨pop, sooner, concat_of_get popped, quiet.concat⟩
  · exact absurd last (other env)

theorem granted_concat (kept : Kept traffic l) (item : Traffic) {pop : Nat} {env : Envelope}
    (early : traffic[pop]? = some (.pop env true)) :
    l.turn = some (pop, env) ∨ ∃ time > pop, (traffic ++ [item])[time]? = some (.invoke env) ∧
      Quiet (traffic ++ [item]) pop time := by
  rcases kept.granted pop env early with due | ⟨time, later, found, quiet⟩
  · exact .inl due
  · exact .inr ⟨time, later, concat_of_get found, quiet.concat⟩

theorem granted_other (kept : Kept traffic l) (other : ∀ env, item ≠ .pop env true) :
    ∀ pop env, (traffic ++ [item])[pop]? = some (.pop env true) → l.turn = some (pop, env) ∨
      ∃ time > pop, (traffic ++ [item])[time]? = some (.invoke env) ∧
        Quiet (traffic ++ [item]) pop time := by
  intro pop env found
  rcases get_of_concat found with early | ⟨_, last⟩
  · exact kept.granted_concat item early
  · exact absurd last (other env)

theorem turn_of_idle {turn : Option (Nat × Envelope)} {traffic : List Traffic}
    (idle : turn = none) : ∀ pop env, turn = some (pop, env) →
      traffic[pop]? = some (.pop env true) ∧ Quiet traffic pop traffic.length := by
  intro pop env due
  rw [idle] at due
  contradiction

theorem quiet_last {pop : Nat} (quiet : Quiet traffic pop traffic.length) (made : List Call) :
    Quiet (traffic ++ [.calls made]) pop (traffic ++ [Traffic.calls made]).length := by
  intro time after before
  rw [List.length_append, List.length_singleton] at before
  by_cases last : time = traffic.length
  · exact ⟨made, last ▸ List.getElem?_concat_length ..⟩
  · exact quiet.concat time after (by omega)

/-- Every item is booked so that the books stay right. -/
theorem clock_concat (kept : Kept traffic l) (item : Traffic) :
    l.clock + 1 = (traffic ++ [item]).length := by
  rw [kept.clock, List.length_append, List.length_singleton]

/-- A handler that is run ends the turn. -/
theorem invoke {due : Nat} {env : Envelope} (kept : Kept traffic l)
    (turn : l.turn = some (due, env)) :
    Kept (traffic ++ [.invoke env]) { l with clock := l.clock + 1, turn := none } := by
  obtain ⟨popped, quiet⟩ := kept.turn due env turn
  refine ⟨kept.clock_concat _, kept.books.concat nofun, ?arrivals, ?served, turn_of_idle rfl,
    ?invoked, ?granted⟩
  case arrivals => simp [kept.arrivals, Traffic.arrivals]
  case served =>
    exact kept.served_concat nofun fun ticket member _ _ popped => ⟨ticket, member, rfl, popped⟩
  case invoked =>
    intro time other found
    rcases get_of_concat found with early | ⟨rfl, last⟩
    · obtain ⟨pop, sooner, popped, quiet⟩ := kept.invoked time other early
      exact ⟨pop, sooner, concat_of_get popped, quiet.concat⟩
    · cases last
      exact ⟨due, lt_of_get popped, concat_of_get popped, quiet.concat⟩
  case granted =>
    intro pop other found
    rcases get_of_concat found with early | ⟨_, last⟩
    · rcases kept.granted_concat (.invoke env) early with same | began
      · rw [turn] at same
        cases same
        exact .inr ⟨traffic.length, lt_of_get popped, List.getElem?_concat_length ..,
          quiet.concat⟩
      · exact .inr began
    · contradiction

theorem pop {env : Envelope} {arrived drain : Nat} {outer : List Nat}
    {before after : List Ticket} {granted : Bool} (kept : Kept traffic l) (idle : l.turn = none)
    (innermost : l.drains = drain :: outer)
    (split : l.tickets = before ++ ⟨env, arrived, .held drain⟩ :: after)
    (first : ∀ ticket ∈ before, ticket.fate ≠ .held drain) :
    Kept (traffic ++ [.pop env granted])
      { l with
        clock := l.clock + 1
        tickets := before ++ ⟨env, arrived, .popped drain l.clock⟩ :: after
        turn := if granted then some (l.clock, env) else none } := by
  refine ⟨kept.clock_concat _, ?books, ?arrivals, ?served, ?turn, kept.invoked_concat nofun,
    ?granted⟩
  case books =>
    have books := kept.books
    rw [innermost, split] at books
    rw [innermost]
    exact kept.clock ▸ books.pop first
  case arrivals =>
    have arrivals := kept.arrivals
    rw [split] at arrivals
    simpa [Ticket.arrival, Traffic.arrivals] using arrivals
  case served =>
    intro time other verdict found
    rcases get_of_concat found with early | ⟨rfl, last⟩
    · obtain ⟨ticket, member, as, taken, popped⟩ := kept.served time other verdict early
      rw [split] at member
      -- The ticket that is popped now is still held, so it is not the earlier one.
      refine ⟨ticket, ?_, as, taken, popped⟩
      rcases List.mem_append.mp member with member | member
      · exact List.mem_append_left _ member
      · rcases List.mem_cons.mp member with rfl | member
        · contradiction
        · exact List.mem_append_right _ (List.mem_cons_of_mem _ member)
    · cases last
      exact ⟨_, List.mem_append_right _ List.mem_cons_self, rfl, drain, by rw [kept.clock]⟩
  case turn =>
    intro pop other due
    cases granted with
    | false => contradiction
    | true =>
      cases due
      rw [kept.clock]
      refine ⟨List.getElem?_concat_length .., fun time after before => ?_⟩
      rw [List.length_append, List.length_singleton] at before
      omega
  case granted =>
    intro pop other found
    rcases get_of_concat found with early | ⟨rfl, last⟩
    · rcases kept.granted_concat (.pop env granted) early with due | began
      · rw [idle] at due
        contradiction
      · exact .inr began
    · cases last
      exact .inl (by rw [kept.clock]; rfl)

theorem step {m : Ledger} (kept : Kept traffic l) (step : Step item l m) :
    Kept (traffic ++ [item]) m := by
  have clock : m.clock = (traffic ++ [item]).length := step.clock.trans (kept.clock_concat item)
  cases step with
  | calls made =>
    refine ⟨clock, ?books, ?arrivals, ?served, ?turn, kept.invoked_concat nofun,
      kept.granted_other nofun⟩
    case books => exact kept.clock ▸ kept.books.calls
    case arrivals =>
      rw [map_arrival_calls, kept.arrivals, kept.clock, allArrivals_concat]
    case served =>
      exact kept.served_concat nofun fun ticket member taken time => popped_of_calls member
    case turn =>
      intro pop env due
      obtain ⟨popped, quiet⟩ := kept.turn pop env due
      exact ⟨concat_of_get popped, quiet_last quiet made⟩
  | work _ idle =>
    refine ⟨clock, kept.books.concat nofun, ?arrivals, ?served, turn_of_idle idle,
      kept.invoked_concat nofun, kept.granted_other nofun⟩
    case arrivals => simp [kept.arrivals, Traffic.arrivals]
    case served =>
      exact kept.served_concat nofun fun ticket member _ _ popped => ⟨ticket, member, rfl, popped⟩
  | take _ idle =>
    have moves := fun ticket : Ticket => ticket.movesTo_take l.clock
    refine ⟨clock, ?books, ?arrivals, ?served, turn_of_idle idle, kept.invoked_concat nofun,
      kept.granted_other nofun⟩
    case books => exact kept.clock ▸ kept.books.take
    case arrivals => simp [map_arrival moves, kept.arrivals, Traffic.arrivals]
    case served =>
      exact kept.served_concat nofun fun ticket member taken time popped =>
        ⟨_, mem_map_of_popped moves member popped⟩
  | @leave _ drain outer isOpen idle innermost finished =>
    have moves := fun ticket : Ticket => ticket.movesTo_drop l.clock drain
    refine ⟨clock, ?books, ?arrivals, ?served, turn_of_idle idle, kept.invoked_concat nofun,
      kept.granted_other nofun⟩
    case books =>
      have books := kept.books
      rw [innermost] at books
      exact kept.clock ▸ books.leave rfl finished
    case arrivals => simp [map_arrival moves, kept.arrivals, Traffic.arrivals]
    case served =>
      exact kept.served_concat nofun fun ticket member taken time popped =>
        ⟨_, mem_map_of_popped moves member popped⟩
  | invoke turn => exact kept.invoke turn
  | pop granted idle innermost split first => exact kept.pop idle innermost split first

theorem path {more : List Traffic} {m : Ledger} (kept : Kept traffic l) (path : Path more l m) :
    Kept (traffic ++ more) m := by
  induction path generalizing traffic with
  | nil => rwa [List.append_nil]
  | cons step _ ih =>
    rw [List.append_cons]
    exact ih (kept.step step)

end Kept

/-- Books that have been kept from the beginning, and in which no drain is open and no
handler due any more, are a reckoning of the traffic. -/
theorem Path.reckoning {traffic : List Traffic} {l : Ledger} (path : Path traffic {} l)
    (closed : l.drains = []) (idle : l.turn = none) :
    Reckoning traffic l.waiting l.tickets := by
  have kept : Kept traffic l := kept_nil.path path
  refine ⟨kept.arrivals, kept.books.timely, ?settled, rfl, kept.books.order, kept.served,
    kept.invoked, ?granted⟩
  case settled =>
    intro ticket member taken held
    have isOpen := kept.books.held ticket member taken held
    rw [closed] at isOpen
    contradiction
  case granted =>
    intro pop env found
    rcases kept.granted pop env found with due | began
    · rw [idle] at due
      contradiction
    · exact began

end Ledger

end GameRealm
