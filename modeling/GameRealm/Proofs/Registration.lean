import GameRealm.Rehearsal.Repertoire

/-!
# Tables built by registrations

A table is built by registering handlers, one after another, from a table without
entries. Registration refuses what no tick could serve, so every slot of such a
table is sound:

1. `OpcodeTable.Built` are the tables that can be built;
2. `OpcodeTable.Built.sound_get`: an envelope that is handled at once is so by its
   mode and by its handler, and what waits for a region's tick requires a player;
3. `OpcodeTable.built_registerCore` and `Rehearsal.built_repertoire`: the tables of the
   session itself and of a rehearsal are built so.
-/

namespace GameRealm

/-- An entry that some tick, or the inbox, can serve. -/
structure Descriptor.Sound (entry : Descriptor W) : Prop where
  /-- A handler that runs where the envelope arrives belongs to the immediate mode, and
  to no other. -/
  immediate : entry.mode = .immediate ↔ ∃ run, entry.handler = .immediate run
  /-- The tick of a region serves players only. -/
  player : entry.mode = .mapThread → entry.status = .loggedIn

namespace OpcodeTable

/-- A table that was built by registrations. -/
inductive Built : OpcodeTable W → Prop where
  | empty : Built .empty
  | register {table table' : OpcodeTable W} {opcode : Opcode} {name : String}
      {status : AdmissionStatus} {mode : ProcessingMode} {run : Envelope → Act W Handled}
      (built : Built table)
      (registered : table.register opcode name status mode run = .ok table') : Built table'
  | registerImmediate {table table' : OpcodeTable W} {opcode : Opcode} {name : String}
      {status : AdmissionStatus} {run : AccountId → Envelope → InboxAct W Handled}
      (built : Built table)
      (registered : table.registerImmediate opcode name status run = .ok table') : Built table'

theorem get_of_set {table table' : OpcodeTable W} {opcode : Opcode} {entry : Descriptor W}
    (set : table.set opcode entry = .ok table') (other : Opcode) :
    table'.get other = if opcode = other then entry else table.get other := by
  unfold OpcodeTable.set at set
  split at set
  · contradiction
  · cases set
    by_cases same : opcode = other
    · simp [get, same]
    · simp [get, List.find?_cons_of_neg, same]

theorem sound_unknown : (Descriptor.unknown : Descriptor W).Sound :=
  ⟨⟨nofun, nofun⟩, nofun⟩

/-- What registration accepts is sound. -/
theorem Built.sound_get {table : OpcodeTable W} (built : table.Built) (opcode : Opcode) :
    (table.get opcode).Sound := by
  induction built with
  | empty => exact sound_unknown
  | @register table table' slot name status mode run _ registered ih =>
    unfold OpcodeTable.register at registered
    split at registered
    · contradiction
    · next session =>
      split at registered
      · contradiction
      · next served =>
        rw [get_of_set registered]
        split
        · constructor
          case immediate => exact ⟨fun immediate => absurd immediate session, nofun⟩
          case player =>
            exact fun mapThread =>
              Decidable.byContradiction fun status => served ⟨mapThread, status⟩
        · exact ih
  | @registerImmediate table table' slot name status run _ registered ih =>
    rw [get_of_set registered]
    split
    · exact ⟨⟨fun _ => ⟨run, rfl⟩, fun _ => rfl⟩, nofun⟩
    · exact ih

theorem built_registerCore {table table' : OpcodeTable W} (built : table.Built)
    (registered : table.registerCore = .ok table') : table'.Built := by
  simp only [registerCore, bind, Except.bind] at registered
  repeat' split at registered
  any_goals contradiction
  next first _ _ second _ _ third _ _ fourth =>
    exact .registerImmediate (.register (.register (.register (.register built first) second)
      third) fourth) registered

theorem built_foldl {step : OpcodeTable W → α → OpcodeTable W}
    (keeps : ∀ table entry, table.Built → (step table entry).Built) (entries : List α)
    {table : OpcodeTable W} (built : table.Built) : (entries.foldl step table).Built := by
  induction entries generalizing table with
  | nil => exact built
  | cons entry rest ih => exact ih (keeps table entry built)

end OpcodeTable

namespace Rehearsal

theorem built_registerParts (scripts : List (List Cue)) {table : OpcodeTable Stage}
    (built : table.Built) : (registerParts scripts table).Built := by
  simp only [registerParts]
  split
  case' h_1 last => refine .registerImmediate ?_ last
  all_goals
    refine OpcodeTable.built_foldl ?_ parts built
    rintro table ⟨opcode, name, status, mode, part⟩ built
    simp only
    split
    · next registered => exact .register built registered
    · exact built

theorem built_repertoire (scripts : List (List Cue)) : (repertoire scripts).Built := by
  refine built_registerParts scripts ?_
  split
  · next registered => exact OpcodeTable.built_registerCore .empty registered
  · exact .empty

end Rehearsal

end GameRealm
