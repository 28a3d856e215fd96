import Forge.Error
import Forge.Text.Blank
import Forge.Text.Lines

/-!
# Running commands

A command is started in a directory, with an environment of its own or the one that is there, and
runs until it ends or its time is over. What a command that failed has to say is its last line:
`CommandFailure.detail` finds it.
-/

namespace Forge

/-- A run of a command: its words, the directory it runs in, the variables that are set for it on
top of those that are there, and the time it may take. -/
structure ProcessCall (τ : Type) where
  arguments : List String
  directory : String
  settings : Option (List (String × String))
  limit : Option τ
deriving DecidableEq, Repr

/-- How the run of a command ends: with an exit status and what it has written, by its time limit,
before it has begun, or because what it was given or what it has written cannot be handled. -/
inductive ProcessOutcome where
  | finished (status : Int) (out err : String)
  | timedOut
  | unstartable (error : SystemError)
  | rejected (fault : RunFault)
deriving DecidableEq, Repr

/-- A run that ended with a status other than zero. -/
structure CommandFailure where
  arguments : List String
  status : Int
  out : String
  err : String
deriving DecidableEq, Repr

namespace CommandFailure

/-- The failure in words. -/
def message (f : CommandFailure) : String :=
  "command failed: " ++ " ".intercalate f.arguments ++ " (exit " ++ toString f.status ++ ")"

/-- What the command itself says: the last line of its error text, or of its output if it has no
error text. A command that says nothing but blanks gets the failure in words. -/
def detail (f : CommandFailure) : String :=
  let text := Text.strip (if f.err = "" then f.out else f.err)
  if text = "" then f.message else (Text.lines text).getLastD f.message

end CommandFailure

end Forge
