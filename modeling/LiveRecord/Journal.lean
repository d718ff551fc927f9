import LiveRecord.Executor

/-!
# The journal

What happens during a session is written into a journal, oldest event first: the messages for a
log, the readings of the clocks, and every exchange with an executor, request and answer. The
content of a database row after a session is what the accepted statements of the journal made
of it.
-/

namespace LiveRecord

/-- How serious a message is. -/
inductive Level where
  | trace
  | debug
  | warn
  deriving Repr, DecidableEq

/-- A message for the log. -/
inductive Message where
  | registering (name : String)
  | booting (path : String)
  /-- A statement is about to be sent with so many parameters. -/
  | sending (sql : String) (count : Nat)
  | filling (table key : String)
  /-- A fill left out a key that may not be set. -/
  | dropping (table key : String)
  | nothingToSave (table : String)
  | updating (table key : String) (value : Value) (columns : Nat)
  | inserted (table : String)
  | insertedKey (table key : String) (value : Value)
  | deleting (table key : String) (value : Value)

/-- The name of a level in a log. -/
def Level.name : Level → String
  | .trace => "TRACE"
  | .debug => "DEBUG"
  | .warn => "WARN"

namespace Message

/-- How serious the message is. -/
def level : Message → Level
  | .filling .. | .nothingToSave _ => .trace
  | .dropping .. => .warn
  | _ => .debug

/-- The wording of a message. -/
def text : Message → String
  | .registering name => "registering connection \x60" ++ name ++ "\x60"
  | .booting path => "booting record type " ++ path
  | .sending sql count => sql ++ " | " ++ toString count ++ " bound value(s)"
  | .filling table key => "fill " ++ table ++ "." ++ key
  | .dropping table key => "dropping guarded attribute \x60" ++ key ++ "\x60 on " ++ table
  | .nothingToSave table => table ++ ": nothing to save"
  | .updating table key value columns =>
    "updating " ++ table ++ " where " ++ key ++ " = " ++ value.display ++ ": " ++
      toString columns ++ " column(s)"
  | .inserted table => "inserted into " ++ table
  | .insertedKey table key value =>
    "inserted into " ++ table ++ " with " ++ key ++ " = " ++ value.display
  | .deleting table key value =>
    "deleting from " ++ table ++ " where " ++ key ++ " = " ++ value.display

/-- The line of a message in a log. -/
def line (message : Message) : String := message.level.name ++ " " ++ message.text

end Message

/-- An exchange with an executor: the call, and what the executor answered. -/
inductive Exchange where
  | executed (request : Request) (answer : Except DatabaseError Nat)
  | queried (request : Request) (answer : Except DatabaseError (List Row))
  | insertedForKey (request : Request) (key : String) (answer : Except DatabaseError Value)

namespace Exchange

/-- What the executor was asked to run. -/
def request : Exchange → Request
  | .executed request _ | .queried request _ | .insertedForKey request _ _ => request

/-- Does the call write? -/
def isWrite : Exchange → Bool
  | .executed .. | .insertedForKey .. => true
  | .queried .. => false

/-- Did the executor report success? -/
def accepted : Exchange → Bool
  | .executed _ answer => answer.isOk
  | .queried _ answer => answer.isOk
  | .insertedForKey _ _ answer => answer.isOk

end Exchange

/-- An event of a session. -/
inductive Event where
  | noted (message : Message)
  | clockRead (path : String) (reading : DateTime)
  | exchanged (executor : Executor) (exchange : Exchange)

end LiveRecord
