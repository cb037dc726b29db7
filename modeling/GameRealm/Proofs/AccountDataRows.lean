import Mathlib.Algebra.Group.Nat.Defs
import GameRealm.Proofs.Frame

/-!
# Account data out of rows

A load empties the slots of a mask and goes through rows in whatever order and condition the
database has them: types may repeat, be out of range or belong to the other table, columns may
be missing or of another kind. This module says what is in the cache afterwards without going
through the rows one by one:

1. `Row.entry?` is what a row says, `Row.blobFor?` what it says about one slot and
   `Row.complaint?` what is wrong with it; `entry?_eq` ties them to the reader of columns;
2. `get_loadRow` and `notice_loadRow` say what one row does to a slot and what is logged for
   it, `get_loadRows` and `notices_loadRows` what rows do;
3. `LiveSession.loadAccountData_last_readable`: a slot of the mask holds the blob of the last
   readable row of its type, or nothing; the other slots, and everything else, are as before.
-/

namespace GameRealm

/-! ## What a row says -/

namespace SqlValue

/-- A column as the number of a slot: of either width, if 32 bits can hold it. -/
def slot? : SqlValue → Option Nat
  | u32 number => some number.toNat
  | u64 number => if number.toNat < 2 ^ 32 then some number.toNat else none
  | _ => none

def time? : SqlValue → Option UInt64
  | u32 seconds => some (UInt64.ofNat seconds.toNat)
  | u64 seconds => some seconds
  | _ => none

def text? : SqlValue → Option String
  | text data => some data
  | null => some ""
  | _ => none

end SqlValue

namespace Row

/-- The slot and the blob that a row tells of, if its first three columns can be read. -/
def entry? (row : Row) : Option (Nat × AccountData) :=
  match row[0]?.bind SqlValue.slot?, row[1]?.bind SqlValue.time?, row[2]?.bind SqlValue.text? with
  | some slot, some time, some data => some (slot, { time, data })
  | _, _, _ => none

/-- The blob that a row tells of, if it can be read and is of that type. -/
def blobFor? (slot : Nat) (row : Row) : Option AccountData :=
  match row.entry? with
  | none => none
  | some (type, blob) => if type = slot then some blob else none

/-- What is wrong with a row for the slots of a mask, if anything is. -/
def complaint? (mask : UInt32) (row : Row) : Option Notice :=
  match row.entry? with
  | none => some .unreadableAccountData
  | some (type, _) =>
    if type < 8 then
      if AccountDataCache.inMask mask type then none else some (.foreignAccountDataType type)
    else some (.invalidAccountDataType type)

/-! The readers of columns read just that. -/

theorem u32_toOption (row : Row) (index : Nat) :
    (row.u32 index).toOption.map UInt32.toNat = row[index]?.bind SqlValue.slot? := by
  unfold u32
  cases row[index]? with
  | none => rfl
  | some column =>
    cases column with
    | u64 number =>
      simp only [Option.bind_some, SqlValue.slot?]
      by_cases small : number.toNat < 2 ^ 32
      · have fits : number.toNat < 0x100000000 := small
        rw [if_pos small, if_pos fits, Except.toOption, Option.map_some, UInt32.toNat_ofNat',
          Nat.mod_eq_of_lt small]
      · have wide : ¬ number.toNat < 0x100000000 := small
        rw [if_neg small, if_neg wide]
        rfl
    | _ => rfl

theorem u64_toOption (row : Row) (index : Nat) :
    (row.u64 index).toOption = row[index]?.bind SqlValue.time? := by
  unfold u64
  cases row[index]? with
  | none => rfl
  | some column => cases column <;> rfl

theorem text_toOption (row : Row) (index : Nat) :
    (row.text index).toOption = row[index]?.bind SqlValue.text? := by
  unfold text
  cases row[index]? with
  | none => rfl
  | some column => cases column <;> rfl

end Row

/-- The blob in the last of some rows that can be read and is of that type. -/
def lastBlob? (slot : Nat) (rows : List Row) : Option AccountData :=
  (rows.filterMap (Row.blobFor? slot)).getLast?

theorem getD_lastBlob?_cons (slot : Nat) (row : Row) (rows : List Row) (blob : AccountData) :
    (lastBlob? slot (row :: rows)).getD blob =
      (lastBlob? slot rows).getD ((row.blobFor? slot).getD blob) := by
  unfold lastBlob?
  cases first : row.blobFor? slot with
  | none => rw [List.filterMap_cons_none first, Option.getD_none]
  | some found =>
    rw [List.filterMap_cons_some first, List.getLast?_cons, Option.getD_some, Option.getD_some]

namespace AccountDataCache

theorem entry?_eq (row : Row) :
    row.entry? = (readRow row).toOption.map fun (type, blob) => (type.toNat, blob) := by
  have slot := row.u32_toOption 0
  have time := row.u64_toOption 1
  have data := row.text_toOption 2
  rw [Row.entry?, ← slot, ← time, ← data, readRow]
  cases row.u32 0 with
  | error _ => rfl
  | ok type =>
    cases row.u64 1 with
    | error _ => rfl
    | ok time => cases row.text 2 <;> rfl

/-! ## What rows do to the slots -/

section
variable (mask : UInt32)

theorem get_clear (cache : AccountDataCache) (slot : Fin 8) :
    (cache.clear mask).get slot = if inMask mask slot then {} else cache.get slot := by
  change (cache.clear mask)[slot] = if inMask mask slot then {} else cache[slot]
  simp only [clear, Fin.getElem_fin, Vector.getElem_ofFn]
  rfl

theorem get_loadRow (cache : AccountDataCache) (row : Row) (slot : Fin 8) :
    (loadRow mask cache row).1.get slot =
      if inMask mask slot then (row.blobFor? slot).getD (cache.get slot) else cache.get slot := by
  change (loadRow mask cache row).1[slot] =
    if inMask mask slot then (row.blobFor? slot).getD cache[slot] else cache[slot]
  rw [Row.blobFor?, entry?_eq, loadRow]
  cases readRow row with
  | error _ => simp [Except.toOption]
  | ok said =>
    obtain ⟨type, blob⟩ := said
    simp only [Except.toOption, Option.map_some]
    by_cases same : type.toNat = slot
    · have valid : type.toNat < 8 := same ▸ slot.isLt
      have masked : inMask mask type.toNat = inMask mask slot := congrArg (inMask mask) same
      rw [dif_pos valid, if_pos same, Option.getD_some, masked]
      cases inMask mask slot <;> simp [same]
    · rw [if_neg same, Option.getD_none, ite_self]
      split
      · split
        · simp [same]
        · rfl
      · rfl

theorem notice_loadRow (cache : AccountDataCache) (row : Row) :
    (loadRow mask cache row).2 = row.complaint? mask := by
  rw [Row.complaint?, entry?_eq, loadRow]
  cases readRow row with
  | error _ => rfl
  | ok said =>
    simp only [Except.toOption, Option.map_some]
    split
    · split <;> rfl
    · rfl

/-- No row stops the rows after it: the last one for a slot counts. -/
theorem get_loadRows (rows : List Row) (cache : AccountDataCache) (slot : Fin 8) :
    (loadRows mask rows cache).1.get slot =
      if inMask mask slot then (lastBlob? slot rows).getD (cache.get slot) else cache.get slot := by
  induction rows generalizing cache with
  | nil => simp [loadRows, lastBlob?]
  | cons row rows ih =>
    simp only [loadRows, ih, get_loadRow, getD_lastBlob?_cons]
    cases inMask mask slot <;> rfl

theorem notices_loadRows (rows : List Row) (cache : AccountDataCache) :
    (loadRows mask rows cache).2 = rows.filterMap (Row.complaint? mask) := by
  induction rows generalizing cache with
  | nil => rfl
  | cons row rows ih =>
    simp only [loadRows, ih, notice_loadRow]
    cases wrong : row.complaint? mask with
    | none => rw [List.filterMap_cons_none wrong]; rfl
    | some notice => rw [List.filterMap_cons_some wrong]; rfl

end

end AccountDataCache

/-! ## Loads -/

namespace LiveSession

/-- Whatever the mask and whatever the rows: a slot of the mask holds the blob of the last row
that can be read and is of its type, or the empty one if there is no such row, and a slot outside
the mask holds what it held before. Each row that cannot be read, is out of range or belongs to
no slot of the mask is logged, in order, and changes nothing; and nothing else happens. -/
theorem loadAccountData_last_readable (sv : Services W) (mask : UInt32) (rows : List Row)
    (d : LiveSession W) :
    let loaded := d.loadAccountData sv mask rows
    (∀ slot : Fin 8, loaded.session.accountData.get slot =
      if AccountDataCache.inMask mask slot then (lastBlob? slot rows).getD {}
      else d.session.accountData.get slot) ∧
    loaded.own = ({ d.session with accountData := loaded.session.accountData }, d.inbox) ∧
    loaded.outside =
      d.outside.logAll sv.collaborators (rows.filterMap (Row.complaint? mask)) := by
  intro loaded
  refine ⟨fun slot => ?slots, rfl, ?logged⟩
  case slots =>
    have filled : loaded.session.accountData.get slot = _ :=
      AccountDataCache.get_loadRows mask rows (d.session.accountData.clear mask) slot
    rw [filled, AccountDataCache.get_clear]
    cases AccountDataCache.inMask mask slot <;> rfl
  case logged =>
    have notices := AccountDataCache.notices_loadRows mask rows (d.session.accountData.clear mask)
    rw [← notices]
    rfl

end LiveSession

end GameRealm
