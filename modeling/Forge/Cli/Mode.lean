import Forge.Settings.Host
import Forge.Text.Case
import Forge.Text.Quoted

/-!
# Output modes and the acting user

Output is plain, a line for each record, or rich, with tables and panels. The option `--output` and
then the variable `REPOFLOW_OUTPUT` say which; `auto`, or neither, leaves it to whether the output
is a terminal.
-/

namespace Forge.Cli

/-- The modes of output. -/
inductive OutputMode where
  | plain
  | rich
deriving DecidableEq, Repr

/-- The name of a mode. -/
def OutputMode.text : OutputMode → String
  | .plain => "plain"
  | .rich => "rich"

/-- What can be asked for. -/
def outputChoices : List String := ["auto", "plain", "rich"]

/-- The variable of the output mode. -/
def outputVariable : String := "REPOFLOW_OUTPUT"

/-- A wish for a mode that is none. -/
structure UnknownMode where
  source : String
  wish : String
deriving DecidableEq, Repr

/-- The words for an unknown mode. -/
def UnknownMode.message (u : UnknownMode) : String :=
  u.source ++ " must be one of " ++ ", ".intercalate outputChoices ++ ", got " ++
    Text.quoted u.wish

/-- The mode of an output that is or is not a terminal. -/
def OutputMode.forTerminal (terminal : Bool) : OutputMode :=
  if terminal then .rich else .plain

/-- The mode from wishes, each with where it comes from: the first that is not blank counts. -/
def chooseMode (terminal : Bool) : List (String × String) → Except UnknownMode OutputMode
  | [] => .ok (.forTerminal terminal)
  | (wish, source) :: rest =>
    let choice := Text.lower (Text.strip wish)
    if choice = "" then chooseMode terminal rest
    else if !outputChoices.contains choice then .error ⟨source, wish⟩
    else if choice = "auto" then .ok (.forTerminal terminal)
    else .ok (if choice = "rich" then .rich else .plain)

/-- The mode for an option and an environment. -/
def outputMode (e : Environment) (requested : Option String) (terminal : Bool) :
    Except UnknownMode OutputMode :=
  chooseMode terminal [(requested.getD "", "--output"), (e.get outputVariable, outputVariable)]

/-- The variable of the acting user. -/
def actorVariable : String := "REPOFLOW_USER"

/-- The variables that hold the login name, the first that is set being the one. -/
def loginVariables : List String := ["LOGNAME", "USER", "LNAME", "USERNAME"]

/-- The account that a program runs under is not there. -/
structure NoAccount where
  number : Nat
deriving DecidableEq, Repr

/-- The words for an account that is not there. -/
def NoAccount.message (a : NoAccount) : String :=
  Text.quoted ("getpwuid(): uid not found: " ++ toString a.number)

/-- The login name, which is that of the account if no variable holds it. -/
def loginName (e : Environment) : Except NoAccount String :=
  match (loginVariables.map e.get).find? (· != "") with
  | some name => .ok name
  | none =>
    match e.account? with
    | some account => .ok account.name
    | none => .error ⟨e.user⟩

/-- The acting user: as given, as the environment says, or whoever has logged in. -/
def actingUser (e : Environment) (explicit : Option String) : Except NoAccount String :=
  let given := Text.strip (explicit.getD "")
  let named := Text.strip (e.get actorVariable)
  if given != "" then .ok given else if named != "" then .ok named else loginName e

end Forge.Cli
