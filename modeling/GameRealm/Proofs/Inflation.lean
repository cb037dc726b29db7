import GameRealm.Inflate.Stream

/-!
# What a stream inflates to

Inflating is asked for a number of bytes and need not go through a stream to its end, and a
stream with more in it than is wanted must not be noticed to be wrong for that. This module
says that stopping early is all that the wanted number does:

1. `Inflates` says of a stream what is in it, by reading it through to its checksum with room
   enough;
2. `Heeds` says of a part of the work that a limit decides where it stops and nothing else.
   Each function of a stream has a lemma that says so of it;
3. `inflate?_of_inflates`: whatever number is wanted, what comes out is the content of the
   stream, cut there.
-/

namespace GameRealm.Inflate

/-- The bytes start with a stream, and `out` is what is in it: with room for enough output it
is read through to its checksum, and leaves `out`. -/
def Inflates (bytes out : Bytes) : Prop :=
  ∃ limit work, stream { output := #[], bits := bitsOf bytes, limit } = .ok work ∧
    work.output.toList = out

theorem Inflates.of_read {bytes out : Bytes} (limit : Nat)
    (read : (stream { output := #[], bits := bitsOf bytes, limit }).toOption.map
      (·.output.toList) = some out) : Inflates bytes out := by
  obtain ⟨work, whole, rfl⟩ := Option.map_eq_some_iff.mp read
  refine ⟨limit, work, ?_, rfl⟩
  cases ran : stream { output := #[], bits := bitsOf bytes, limit } with
  | error halted => rw [ran] at whole; cases whole
  | ok done => rw [ran] at whole; cases whole; rfl

/-- Where a part of the work gets through with some limit it does so with every other, and
leaves the same, unless it makes more output than there is room for: then it halts when there
is no more room. -/
def Heeds (part : Work → Step) : Prop :=
  ∀ ⦃work done⦄, part work = .ok done →
    work.output.toList <+: done.output.toList ∧
    ∀ limit, work.output.size ≤ limit →
      part { work with limit } =
        if done.output.size ≤ limit then .ok { done with limit }
        else .error (.full, (done.output.toList.take limit).toArray)

namespace Heeds

variable {part : Work → Step}

theorem ok : Heeds .ok := by
  rintro work done ⟨⟩
  exact ⟨List.prefix_rfl, fun limit room => (if_pos room).symm⟩

/-- What always halts has nothing to get through with. -/
theorem halt (reason : Halt) : Heeds (·.halt reason) := nofun

theorem bind {next : Work → Step} (first : Heeds part) (second : Heeds next) :
    Heeds fun work => (part work).bind next := by
  intro work done (ran : (part work).bind next = .ok done)
  obtain ⟨mid, begun, ended⟩ : ∃ mid, part work = .ok mid ∧ next mid = .ok done := by
    cases begun : part work with
    | error halted => rw [begun] at ran; cases ran
    | ok mid => exact ⟨mid, rfl, by rwa [begun] at ran⟩
  obtain ⟨early, cutEarly⟩ := first begun
  obtain ⟨late, cutLate⟩ := second ended
  refine ⟨early.trans late, fun limit room => ?_⟩
  have grown : mid.output.size ≤ done.output.size := late.length_le
  simp only [cutEarly limit room]
  by_cases fits : mid.output.size ≤ limit
  · rw [if_pos fits]
    exact cutLate limit fits
  · -- The first part is already too much, and what it made is how the whole output starts.
    have same : mid.output.toList.take limit = done.output.toList.take limit := by
      obtain ⟨rest, whole⟩ := late
      rw [← whole, List.take_append_of_le_length (Nat.le_of_not_le fits)]
    rw [if_neg fits, if_neg (by omega), same]
    rfl

/-- The limit does not tell what is read from the bits. -/
theorem reading (read : List Bool → Except Halt (α × List Bool)) {next : α → Work → Step}
    (rest : ∀ value, Heeds (next value)) : Heeds (·.reading read next) := by
  intro work done (ran : work.reading read next = .ok done)
  cases taken : read work.bits with
  | error reason =>
    simp only [Work.reading, taken] at ran
    cases ran
  | ok found =>
    simp only [Work.reading, taken] at ran ⊢
    exact rest found.1 ran

theorem fuelled (part : Nat → Work → Step) (each : ∀ fuel, Heeds (part fuel)) :
    Heeds fun work => part (work.bits.length + 1) work :=
  fun work _ ran => each (work.bits.length + 1) ran

theorem aligned (rest : Heeds part) :
    Heeds fun work => part { work with bits := align work.bits } :=
  fun work done ran => @rest { work with bits := align work.bits } done ran

theorem emit (b : UInt8) : Heeds (·.emit b) := by
  intro work done (ran : work.emit b = .ok done)
  obtain ⟨-, rfl⟩ : work.output.size < work.limit ∧
      { work with output := work.output.push b } = done := by
    unfold Work.emit at ran
    split at ran
    · next room => exact ⟨room, Except.ok.inj ran⟩
    · cases ran
  refine ⟨?_, fun limit room => ?_⟩
  · rw [Array.toList_push]
    exact List.prefix_append _ _
  · change (if work.output.size < limit then _ else _) = _
    simp only [Array.size_push, Nat.succ_le_iff]
    split
    · rfl
    · next full =>
      have all : limit = work.output.toList.length := Nat.le_antisymm (Nat.le_of_not_lt full) room
      rw [Array.toList_push, List.take_append_of_le_length (Nat.le_of_eq all), all,
        List.take_length, Array.toArray_toList]
      rfl

end Heeds

/-! ## Every function of a stream does so -/

theorem heeds_copy (distance length : Nat) : Heeds (·.copy distance length) := by
  induction length with
  | zero => exact .ok
  | succ length ih =>
    intro work done ran
    exact (Heeds.emit _).bind ih ran

theorem heeds_copyMatch (distances : Code) (symbol : Nat) : Heeds (copyMatch distances symbol) :=
  .reading _ fun length => .reading _ fun _ => .reading _ fun distance =>
    heeds_copy distance length

theorem heeds_codedBlock (literals distances : Code) (fuel : Nat) :
    Heeds (codedBlock literals distances fuel) := by
  induction fuel with
  | zero => exact .halt _
  | succ fuel ih =>
    refine .reading _ fun symbol => ?_
    split
    · exact (Heeds.emit _).bind ih
    · split
      · exact .ok
      · exact (heeds_copyMatch distances symbol).bind ih

theorem heeds_storedBytes (n : Nat) : Heeds (storedBytes n) := by
  induction n with
  | zero => exact .ok
  | succ n ih =>
    let copied : Work → Step := (·.reading (takeBits 8) fun b work =>
      (work.emit (UInt8.ofNat b)).bind (storedBytes n))
    have heeds : Heeds copied := .reading _ fun b => (Heeds.emit _).bind ih
    intro work done ran
    -- Whether there is room is asked before a byte is read, but what is read next is there.
    obtain ⟨found, taken⟩ : ∃ found, takeBits 8 work.bits = .ok found := by
      unfold storedBytes at ran
      split at ran
      · cases taken : takeBits 8 work.bits with
        | error reason => simp only [Work.reading, taken] at ran; cases ran
        | ok found => exact ⟨found, rfl⟩
      · cases ran
    have same : ∀ limit, storedBytes (n + 1) { work with limit } = copied { work with limit } := by
      intro limit
      unfold storedBytes
      split
      · rfl
      · next full =>
        simp only [copied, Work.reading, taken, Work.emit, if_neg full]
        rfl
    have early : copied work = .ok done := (same work.limit).symm.trans ran
    obtain ⟨grown, cut⟩ := heeds early
    exact ⟨grown, fun limit room => (same limit).trans (cut limit room)⟩

theorem heeds_storedBlock : Heeds storedBlock := by
  have checked : Heeds (·.reading (takeBits 16) fun length work =>
      work.reading (takeBits 16) fun complement work =>
        if length + complement = 65535 then storedBytes length work else work.halt .corrupt) := by
    refine .reading _ fun length => .reading _ fun complement => ?_
    split
    · exact heeds_storedBytes length
    · exact .halt _
  exact checked.aligned

theorem heeds_block (kind : Nat) : Heeds (block kind) := by
  unfold block
  split
  · exact heeds_storedBlock
  · exact .fuelled _ (heeds_codedBlock fixedLiterals fixedDistances)
  · exact .reading _ fun codes => .fuelled _ (heeds_codedBlock codes.1 codes.2)
  · exact .halt _

theorem heeds_blocks (fuel : Nat) : Heeds (blocks fuel) := by
  induction fuel with
  | zero => exact .halt _
  | succ fuel ih =>
    refine .reading _ fun last => .reading _ fun kind => (heeds_block kind).bind ?_
    split
    · exact .ok
    · exact ih

/-- A checksum is one of the output, however much more there might have been. -/
theorem heeds_verified (sum : Nat) :
    Heeds fun work => if sum = checksum work.output then .ok work else work.halt .corrupt := by
  intro work done (ran : (if sum = checksum work.output then _ else _) = _)
  split at ran
  · next right =>
    cases ran
    exact ⟨List.prefix_rfl, fun limit room => (if_pos right).trans (if_pos room).symm⟩
  · cases ran

theorem heeds_stream : Heeds stream := by
  refine .reading _ fun method => .reading _ fun flags => ?_
  split
  · have closed : Heeds (·.reading takeChecksum fun sum work =>
        if sum = checksum work.output then .ok work else work.halt .corrupt) :=
      .reading _ heeds_verified
    exact .bind (.fuelled _ heeds_blocks) closed.aligned
  · exact .halt _

/-! ## All together -/

theorem le_windowEnd (wanted : Nat) : wanted ≤ windowEnd wanted := by
  unfold windowEnd windowSize
  omega

/-- Whatever number of bytes is wanted of a stream, they are the first of what is in it. -/
theorem inflate?_of_inflates {bytes out : Bytes} (inflates : Inflates bytes out) (wanted : Nat) :
    inflate? wanted bytes = some (out.take wanted) := by
  obtain ⟨limit, work, whole, rfl⟩ := inflates
  obtain ⟨-, cut⟩ := heeds_stream whole
  rw [inflate?, cut (windowEnd wanted) (Nat.zero_le _)]
  by_cases fits : work.output.size ≤ windowEnd wanted
  · simp only [if_pos fits]
  · simp only [if_neg fits, List.take_take]
    rw [Nat.min_eq_left (le_windowEnd wanted)]

theorem length_le_of_inflate? {wanted : Nat} {bytes body : Bytes}
    (inflated : inflate? wanted bytes = some body) : body.length ≤ wanted := by
  have cut : ∀ output : Array UInt8, (output.toList.take wanted).length ≤ wanted :=
    fun _ => List.length_take_le _ _
  unfold inflate? at inflated
  split at inflated
  · exact Option.some.inj inflated ▸ cut _
  · exact Option.some.inj inflated ▸ cut _
  · split at inflated
    · cases inflated
    · exact Option.some.inj inflated ▸ cut _
  · cases inflated

end GameRealm.Inflate
