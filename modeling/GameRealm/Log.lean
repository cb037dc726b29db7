/-!
# Log entries

What the realm says about itself: a level, a fixed sentence, and the values
that belong to it, in order.
-/

namespace GameRealm

/-- How serious an entry is. -/
inductive LogLevel where
  | debug | info | warn | error
  deriving DecidableEq, Repr, Inhabited

namespace LogLevel

def name : LogLevel → String
  | debug => "DEBUG"
  | info => "INFO"
  | warn => "WARN"
  | error => "ERROR"

end LogLevel

structure LogEntry where
  level : LogLevel
  message : String
  fields : List (String × String) := []
  deriving DecidableEq, Repr, Inhabited

namespace LogEntry

/-- Level, sentence, and every value as `name=value`. -/
def render (entry : LogEntry) : String :=
  entry.fields.foldl (fun line (name, value) => line ++ " " ++ name ++ "=" ++ value)
    (entry.level.name ++ " " ++ entry.message)

end LogEntry

end GameRealm
