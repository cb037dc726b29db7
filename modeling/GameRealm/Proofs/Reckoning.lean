import GameRealm.Envelope

/-!
# The reckoning of a queue

A queue fills while it waits for a tick, is taken as a whole, and what was taken is
worked off in a drain; drains may begin inside one another. Whether anything gets
lost, is served twice or overtakes is a question about this traffic alone:

1. `Traffic` is what happens to a queue, one item after another, and `Fate` what
   becomes of an envelope;
2. `Reckoning` says of every envelope that ever arrived what became of it, so that all
   the traffic is accounted for;
3. what a reckoning says stays true when the traffic goes on (`Ticket.Timely.concat`).

All times are places in the traffic.
-/

namespace GameRealm

/-! ## Times -/

section
variable {items : List α} {item found : α} {time : Nat}

theorem concat_of_get (h : items[time]? = some found) : (items ++ [item])[time]? = some found := by
  obtain ⟨inside, _⟩ := List.getElem?_eq_some_iff.mp h
  rw [List.getElem?_append_left inside, h]

theorem get_of_concat (h : (items ++ [item])[time]? = some found) :
    items[time]? = some found ∨ time = items.length ∧ item = found := by
  rw [List.getElem?_append] at h
  split at h
  · exact .inl h
  · rw [List.getElem?_singleton] at h
    split at h
    · exact .inr ⟨by omega, Option.some.inj h⟩
    · contradiction

theorem lt_of_get (h : items[time]? = some found) : time < items.length :=
  (List.getElem?_eq_some_iff.mp h).1

end

/-! ## Traffic -/

/-- What is done to a queue from the network's side. -/
inductive Call where
  | arrive (env : Envelope)
  /-- The movements that wait are removed. -/
  | purge
  deriving DecidableEq, Repr

/-- What happens to a queue at a time. -/
inductive Traffic where
  /-- Calls from the network's side, if any. -/
  | calls (calls : List Call)
  /-- The session is at work on something else. -/
  | work
  /-- A drain begins and takes what waits. -/
  | take
  /-- The innermost drain comes to an envelope, and admission speaks. -/
  | pop (env : Envelope) (granted : Bool)
  /-- The handler of an envelope begins. -/
  | invoke (env : Envelope)
  /-- The innermost drain ends, and this is what it leaves. -/
  | leave (left : List Envelope) (isOpen : Bool)
  deriving DecidableEq, Repr

/-- What becomes of an envelope. -/
inductive Fate where
  | waiting
  /-- A drain has taken it and will come to it. -/
  | held (taken : Nat)
  | popped (taken time : Nat)
  /-- Removed while it waited. -/
  | removed (time : Nat)
  /-- Left behind by the drain that had taken it. -/
  | dropped (taken time : Nat)
  deriving DecidableEq, Repr

/-- An envelope that has arrived. -/
structure Ticket where
  env : Envelope
  arrived : Nat
  fate : Fate := .waiting
  deriving DecidableEq, Repr

/-- What waits after a call. -/
def Call.enterBacklog (backlog : List Envelope) : Call → List Envelope
  | arrive env => backlog ++ [env]
  | purge => backlog.filter fun env => !env.opcode.isMovement

/-- The envelope that arrives by a call. -/
def Call.arrival? : Call → Option Envelope
  | arrive env => some env
  | purge => none

namespace Traffic

/-- The envelopes that arrive at a time. -/
def arrivals : Traffic → List Envelope
  | calls made => made.filterMap Call.arrival?
  | _ => []

/-- The calls at a time at which nothing is taken or served. -/
def made? : Traffic → Option (List Call)
  | calls made => some made
  | work => some []
  | _ => none

/-- All arrivals, in order, each with its time. -/
def allArrivals (traffic : List Traffic) : List (Nat × Envelope) :=
  traffic.zipIdx.flatMap fun item => item.1.arrivals.map (item.2, ·)

/-- The queue is taken then, for the first time after an arrival. -/
structure FirstTake (traffic : List Traffic) (arrived taken : Nat) : Prop where
  later : arrived < taken
  take : traffic[taken]? = some .take
  first : ∀ time, arrived < time → time < taken → traffic[time]? ≠ some .take

/-- Between two times there are calls only. -/
def Quiet (traffic : List Traffic) (start stop : Nat) : Prop :=
  ∀ time, start < time → time < stop → ∃ calls, traffic[time]? = some (.calls calls)

end Traffic

open Traffic

/-! ## The reckoning -/

/-- The traffic bears out what has become of the envelope. -/
def Ticket.Timely (traffic : List Traffic) (ticket : Ticket) : Prop :=
  match ticket.fate with
  | .waiting => ∀ time, ticket.arrived < time → traffic[time]? ≠ some .take
  | .held taken => FirstTake traffic ticket.arrived taken
  | .popped taken time =>
    FirstTake traffic ticket.arrived taken ∧ taken < time ∧
      ∃ granted, traffic[time]? = some (.pop ticket.env granted)
  | .removed time =>
    ticket.env.opcode.isMovement = true ∧ ticket.arrived ≤ time ∧
      (∃ calls, traffic[time]? = some (.calls calls) ∧ .purge ∈ calls) ∧
      ∀ earlier, ticket.arrived < earlier → earlier < time → traffic[earlier]? ≠ some .take
  | .dropped taken time =>
    FirstTake traffic ticket.arrived taken ∧ taken < time ∧
      ∃ left, traffic[time]? = some (.leave left false) ∧ ticket.env ∈ left

/-- What the fate of an envelope says about one that arrived later. A drain that begins
while another one still holds the earlier envelope comes first; nothing else lets the
later one overtake. What a drain drops are the last of those it took. -/
def Fate.Before : Fate → Fate → Prop
  | popped taken time, popped taken' time' => time < time' ∨ taken < taken' ∧ time' < time
  | held taken, popped taken' _ => taken < taken'
  | dropped taken _, popped taken' _ => taken < taken'
  | waiting, popped _ _ => False
  | _, _ => True

/-- A complete reckoning of a queue's traffic: a ticket for every envelope that arrived, in
the order of arrival, and what waits at the end. -/
structure Reckoning (traffic : List Traffic) (backlog : List Envelope) (tickets : List Ticket) :
    Prop where
  arrivals : tickets.map (fun ticket => (ticket.arrived, ticket.env)) = allArrivals traffic
  timely : ∀ ticket ∈ tickets, ticket.Timely traffic
  /-- No drain is left that could still come to an envelope. -/
  settled : ∀ ticket ∈ tickets, ∀ taken, ticket.fate ≠ .held taken
  waiting : (tickets.filter (·.fate = .waiting)).map (·.env) = backlog
  order : tickets.Pairwise fun earlier later => earlier.fate.Before later.fate
  /-- Nothing is popped that did not arrive. -/
  served : ∀ time env granted, traffic[time]? = some (.pop env granted) →
    ∃ ticket ∈ tickets, ticket.env = env ∧ ∃ taken, ticket.fate = .popped taken time
  /-- Handlers begin right after their envelopes have been popped and granted, -/
  invoked : ∀ time env, traffic[time]? = some (.invoke env) →
    ∃ pop < time, traffic[pop]? = some (.pop env true) ∧ Quiet traffic pop time
  /-- and they do so every time. -/
  granted : ∀ pop env, traffic[pop]? = some (.pop env true) →
    ∃ time > pop, traffic[time]? = some (.invoke env) ∧ Quiet traffic pop time

/-! ## Traffic that goes on -/

namespace Traffic

variable {traffic : List Traffic} {item : Traffic}

theorem FirstTake.concat {arrived taken : Nat} (taking : FirstTake traffic arrived taken) :
    FirstTake (traffic ++ [item]) arrived taken := by
  refine ⟨taking.later, concat_of_get taking.take, fun time after before again => ?_⟩
  have inside := lt_of_get taking.take
  rcases get_of_concat again with early | ⟨last, _⟩
  · exact taking.first time after before early
  · omega

theorem FirstTake.mono {arrived arrived' taken taken' : Nat}
    (taking : FirstTake traffic arrived taken) (taking' : FirstTake traffic arrived' taken')
    (sooner : arrived ≤ arrived') : taken ≤ taken' := by
  refine Nat.le_of_not_lt fun missed => ?_
  exact taking.first taken' (Nat.lt_of_le_of_lt sooner taking'.later) missed taking'.take

theorem Quiet.concat {start stop : Nat} (quiet : Quiet traffic start stop) :
    Quiet (traffic ++ [item]) start stop := by
  intro time after before
  obtain ⟨calls, found⟩ := quiet time after before
  exact ⟨calls, concat_of_get found⟩

@[simp] theorem allArrivals_concat :
    allArrivals (traffic ++ [item]) =
      allArrivals traffic ++ item.arrivals.map (traffic.length, ·) := by
  simp [allArrivals, List.zipIdx_append]

end Traffic

theorem Ticket.Timely.concat {ticket : Ticket} {traffic : List Traffic} {item : Traffic}
    (timely : ticket.Timely traffic) (kept : ticket.fate = .waiting → item ≠ .take) :
    ticket.Timely (traffic ++ [item]) := by
  unfold Ticket.Timely at timely ⊢
  cases fate : ticket.fate with
  | waiting =>
    simp only [fate] at timely ⊢
    intro time after taken
    rcases get_of_concat taken with early | ⟨_, last⟩
    · exact timely time after early
    · exact kept fate last
  | held taken =>
    simp only [fate] at timely ⊢
    exact timely.concat
  | popped taken time =>
    simp only [fate] at timely ⊢
    obtain ⟨taking, later, granted, popped⟩ := timely
    exact ⟨taking.concat, later, granted, concat_of_get popped⟩
  | removed time =>
    simp only [fate] at timely ⊢
    obtain ⟨movement, later, ⟨calls, found, purged⟩, waited⟩ := timely
    refine ⟨movement, later, ⟨calls, concat_of_get found, purged⟩, fun earlier after before => ?_⟩
    have inside := lt_of_get found
    intro taken
    rcases get_of_concat taken with early | ⟨last, _⟩
    · exact waited earlier after before early
    · omega
  | dropped taken time =>
    simp only [fate] at timely ⊢
    obtain ⟨taking, later, left, found, dropped⟩ := timely
    exact ⟨taking.concat, later, left, concat_of_get found, dropped⟩

end GameRealm
