/-!
# Failures of SQL statements

A statement fails with a message and a result code: `1` for an error in the text or in what it
names, and an extended constraint code for a row that breaks a constraint. A message about a
token or a name also records where it stands in the text, as a byte offset. When several
messages arise while one statement is read, the last message stands and the first recorded
offset stays.
-/
namespace Shipyard.Sql

/-- Why a statement fails. The offset is counted in bytes from the start of the whole text. -/
structure SqlError where
  message : String
  code : Nat := 1
  offset : Option Nat := none
  /-- Whether the failure also ends the transaction (`RAISE(ROLLBACK, …)` and the `ROLLBACK`
  conflict resolution). -/
  rollback : Bool := false
  /-- Whether the rows the statement wrote before it failed stay written (`RAISE(FAIL, …)` and
  the `FAIL` conflict resolution). -/
  keep : Bool := false
  deriving Repr, Inhabited

namespace SqlError

/-- The constraint codes. -/
def checkCode : Nat := 275
def foreignKeyCode : Nat := 787
def notNullCode : Nat := 1299
def primaryKeyCode : Nat := 1555
def triggerCode : Nat := 1811
def uniqueCode : Nat := 2067
def datatypeCode : Nat := 3091
def mismatchCode : Nat := 20

/-- What a result code means. -/
def describe (code : Nat) : String :=
  match code with
  | 1 => "SQL error or missing database"
  | 2 => "Internal logic error in SQLite"
  | 3 => "Access permission denied"
  | 4 => "Callback routine requested an abort"
  | 5 => "The database file is locked"
  | 6 => "A table in the database is locked"
  | 7 => "A malloc() failed"
  | 8 => "Attempt to write a readonly database"
  | 9 => "Operation terminated by sqlite3_interrupt()"
  | 10 => "Some kind of disk I/O error occurred"
  | 11 => "The database disk image is malformed"
  | 12 => "Unknown opcode in sqlite3_file_control()"
  | 13 => "Insertion failed because database is full"
  | 14 => "Unable to open the database file"
  | 15 => "Database lock protocol error"
  | 16 => "Database is empty"
  | 17 => "The database schema changed"
  | 18 => "String or BLOB exceeds size limit"
  | 19 => "Abort due to constraint violation"
  | 20 => "Data type mismatch"
  | 21 => "Library used incorrectly"
  | 22 => "Uses OS features not supported on host"
  | 23 => "Authorization denied"
  | 24 => "Auxiliary database format error"
  | 25 => "2nd parameter to sqlite3_bind out of range"
  | 26 => "File opened that is not a database file"
  | 275 => "A CHECK constraint failed"
  | 531 => "A commit hook caused the transaction to roll back"
  | 787 => "Foreign key constraint failed"
  | 1043 => "Error returned from extension function"
  | 1299 => "A NOT NULL constraint failed"
  | 1555 => "A PRIMARY KEY constraint failed"
  | 1811 => "A RAISE function within a trigger fired, causing the SQL statement to abort"
  | 2067 => "A UNIQUE constraint failed"
  | 2323 => "An application-defined virtual table error occurred"
  | 2579 => "A non-unique rowid occurred"
  | 2835 => "SQLITE_CONSTRAINT_PINNED"
  | 3091 => "SQLITE_CONSTRAINT_DATATYPE"
  | _ => "Unknown error code"

/-- The longest string or blob a value may be, in bytes. -/
def lengthLimit : Nat := 1000000000

/-- The failure of making a string or blob longer than `lengthLimit`. -/
def tooBig : SqlError := { message := "string or blob too big", code := 18 }

/-- The failure of an insert that finds no row id left to give. -/
def full : SqlError := { message := "database or disk is full", code := 13 }

/-- The signal of `RAISE(IGNORE)`: not a failure, but the end of the work on the current row.
It is the one error with code 0. -/
def ignoreRow : SqlError := { message := "", code := 0 }

/-- Whether an error is the signal of `RAISE(IGNORE)`. -/
def isIgnore (e : SqlError) : Bool := e.code == 0

/-- A message with no offset. -/
def plain (message : String) : SqlError := { message }

/-- A message that points at a byte offset. -/
def atOffset (message : String) (offset : Nat) : SqlError := { message, offset := some offset }

/-- A message that points at an offset if there is one. -/
def atMaybe (message : String) (offset : Option Nat) : SqlError := { message, offset }

/-- A failure with a constraint code. -/
def constraint (code : Nat) (message : String) : SqlError := { message, code }

/-- A later failure over an earlier one: the later message, the earlier offset if it had
one. -/
def after (earlier later : SqlError) : SqlError :=
  { later with offset := earlier.offset.orElse fun _ => later.offset }

end SqlError

end Shipyard.Sql
