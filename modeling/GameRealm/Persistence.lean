import GameRealm.Identity
import GameRealm.Message

/-!
# Persistence

The statements a session may run, the values bound to them, and the rows they
return. No statement is built from text at run time: each is one of the named
constructors, with its parameters in position.
-/

namespace GameRealm

/-- Why a database call failed. -/
inductive PersistenceError where
  /-- A statement could not be executed. -/
  | statement (name reason : String)
  /-- A transaction could not be started, committed or rolled back. -/
  | transaction (reason : String)
  /-- A column of a row is missing or of another type. -/
  | column (index : Nat)
  /-- The database cannot be reached. -/
  | unavailable (reason : String)
  deriving DecidableEq, Repr, Inhabited

namespace PersistenceError

def message : PersistenceError → String
  | statement name reason => "statement \x60" ++ name ++ "\x60 failed: " ++ reason
  | transaction reason => "transaction failed: " ++ reason
  | column index => "column " ++ toString index ++ " missing or of unexpected type"
  | unavailable reason => "database unavailable: " ++ reason

end PersistenceError

/-- A bound parameter or a result column. -/
inductive SqlValue where
  | u32 (value : UInt32)
  | u64 (value : UInt64)
  | text (value : String)
  | null
  deriving DecidableEq, Repr, Inhabited

abbrev Row := List SqlValue

namespace Row

/-- A column as a 32-bit number; a wider one that fits is taken too. -/
def u32 (row : Row) (index : Nat) : Except PersistenceError UInt32 :=
  match row[index]? with
  | some (.u32 v) => .ok v
  | some (.u64 v) =>
    if v.toNat < 0x100000000 then .ok (UInt32.ofNat v.toNat) else .error (.column index)
  | _ => .error (.column index)

def u64 (row : Row) (index : Nat) : Except PersistenceError UInt64 :=
  match row[index]? with
  | some (.u64 v) => .ok v
  | some (.u32 v) => .ok (UInt64.ofNat v.toNat)
  | _ => .error (.column index)

/-- A column as text; a null is the empty text. -/
def text (row : Row) (index : Nat) : Except PersistenceError String :=
  match row[index]? with
  | some (.text v) => .ok v
  | some .null => .ok ""
  | _ => .error (.column index)

end Row

/-- A statement with its parameters. -/
inductive Statement where
  /-- Clears the mark that the account is online on this realm. -/
  | accountInactive (account : AccountId)
  | characterOffline (guid : PlayerGuid)
  | selectAccountData (account : AccountId)
  | selectCharacterAccountData (guid : PlayerGuid)
  | deleteAccountData (account : AccountId) (type : UInt32)
  | insertAccountData (account : AccountId) (type : UInt32) (time : UInt64) (data : String)
  | deleteCharacterAccountData (guid : PlayerGuid) (type : UInt32)
  | insertCharacterAccountData (guid : PlayerGuid) (type : UInt32) (time : UInt64)
      (data : String)
  | selectTutorials (account : AccountId)
  | updateTutorials (account : AccountId) (flags : TutorialFlags)
  | insertTutorials (account : AccountId) (flags : TutorialFlags)
  deriving DecidableEq, Repr

namespace Statement

def name : Statement → String
  | accountInactive .. => "account_inactive"
  | characterOffline .. => "character_offline"
  | selectAccountData .. => "select_account_data"
  | selectCharacterAccountData .. => "select_character_account_data"
  | deleteAccountData .. => "delete_account_data"
  | insertAccountData .. => "insert_account_data"
  | deleteCharacterAccountData .. => "delete_character_account_data"
  | insertCharacterAccountData .. => "insert_character_account_data"
  | selectTutorials .. => "select_tutorials"
  | updateTutorials .. => "update_tutorials"
  | insertTutorials .. => "insert_tutorials"

/-- The text that is prepared, with a mark for each parameter. -/
def sql : Statement → String
  | accountInactive .. => "UPDATE account SET active_realm_id = ? WHERE id = ?"
  | characterOffline .. => "UPDATE characters SET online = 0 WHERE guid = ?"
  | selectAccountData .. => "SELECT type, time, data FROM account_data WHERE account = ?"
  | selectCharacterAccountData .. =>
    "SELECT type, time, data FROM character_account_data WHERE guid = ?"
  | deleteAccountData .. => "DELETE FROM account_data WHERE account = ? AND type = ?"
  | insertAccountData .. => "INSERT INTO account_data VALUES (?, ?, ?, ?)"
  | deleteCharacterAccountData .. =>
    "DELETE FROM character_account_data WHERE guid = ? AND type = ?"
  | insertCharacterAccountData .. =>
    "INSERT INTO character_account_data VALUES (?, ?, ?, ?)"
  | selectTutorials .. =>
    "SELECT tut0, tut1, tut2, tut3, tut4, tut5, tut6, tut7 FROM character_tutorial WHERE account = ?"
  | updateTutorials .. =>
    "UPDATE character_tutorial SET tut0 = ?, tut1 = ?, tut2 = ?, tut3 = ?, tut4 = ?, tut5 = ?, tut6 = ?, tut7 = ? WHERE account = ?"
  | insertTutorials .. =>
    "INSERT INTO character_tutorial (account, tut0, tut1, tut2, tut3, tut4, tut5, tut6, tut7) VALUES (?, ?, ?, ?, ?, ?, ?, ?, ?)"

def params : Statement → List SqlValue
  | accountInactive account => [.u32 0, .u32 account.val]
  | characterOffline guid => [.u32 guid.val]
  | selectAccountData account => [.u32 account.val]
  | selectCharacterAccountData guid => [.u32 guid.val]
  | deleteAccountData account type => [.u32 account.val, .u32 type]
  | insertAccountData account type time data =>
    [.u32 account.val, .u32 type, .u64 time, .text data]
  | deleteCharacterAccountData guid type => [.u32 guid.val, .u32 type]
  | insertCharacterAccountData guid type time data =>
    [.u32 guid.val, .u32 type, .u64 time, .text data]
  | selectTutorials account => [.u32 account.val]
  | updateTutorials account flags => flags.toList.map .u32 ++ [.u32 account.val]
  | insertTutorials account flags => .u32 account.val :: flags.toList.map .u32

end Statement

/-- The two logical databases of a realm. -/
inductive Database where
  | login
  | character
  deriving DecidableEq, Repr, Inhabited

inductive DatabaseCall where
  /-- Runs a statement that returns no rows. -/
  | execute (statement : Statement)
  /-- Runs a statement for its rows. -/
  | query (statement : Statement)
  | begin
  | commit
  | rollback
  deriving DecidableEq, Repr

end GameRealm
