import Forge.Cli.Format
import Forge.Cli.Grammar
import Forge.Cli.Mode

/-!
# Commands

The commands of the three groups, with their arguments, and the forms in which they are written.
`Invocation.read` takes a command line to a command and to the wishes for its output.
-/

namespace Forge.Cli

/-- A command with its arguments. -/
inductive Command where
  | addRepository (name path : String)
  | listRepositories
  | removeRepository (name : String) (confirmed : Bool)
  | createIssue (repo title description : String) (actor : Option String)
  | listIssues (repo : String) (state : Option String) (order : Order)
  | showIssue (repo : String) (id : Int)
  | updateIssue (repo : String) (id : Int) (title description : String)
  | closeIssue (repo : String) (id : Int) (actor : Option String)
  | reopenIssue (repo : String) (id : Int)
  | deleteIssue (repo : String) (id : Int) (confirmed : Bool)
  | addDependency (repo : String) (id dependsOn : Int)
  | removeDependency (repo : String) (id dependsOn : Int)
  | hasDependency (repo : String) (id dependsOn : Int)
  | dependenciesOf (repo : String) (id : Int)
  | dependentsOf (repo : String) (id : Int)
  | createMergeRequest (repo source target title description : String) (actor : Option String)
  | listMergeRequests (repo : String) (state : Option String) (order : Order)
  | showMergeRequest (repo : String) (id : Int)
  | updateMergeRequest (repo : String) (id : Int) (title description : String)
  | merge (repo : String) (id : Int) (limit : Option Binary64) (actor : Option String)
  | closeMergeRequest (repo : String) (id : Int) (actor : Option String)
  | reopenMergeRequest (repo : String) (id : Int)
  | deleteMergeRequest (repo : String) (id : Int) (confirmed : Bool)
deriving DecidableEq, Repr

/-- A command, and how its output is wished. -/
structure Invocation where
  command : Command
  json : Bool
  output : Option String
deriving DecidableEq, Repr

/-! ## Reading values -/

namespace Values

/-- The text of a key. -/
def text? (v : Values) (key : String) : Option String :=
  match Named.get? key v with
  | some (.text s) => some s
  | _ => none

/-- The text of a key that is always there, or whose default is empty. -/
def text (v : Values) (key : String) : String := (v.text? key).getD ""

/-- The whole number of a key that is always there. -/
def whole (v : Values) (key : String) : Int :=
  match Named.get? key v with
  | some (.whole i) => i
  | _ => 0

/-- The seconds of a key. -/
def seconds? (v : Values) (key : String) : Option Binary64 :=
  match Named.get? key v with
  | some (.seconds x) => some x
  | _ => none

/-- Whether a switch is set. -/
def isOn (v : Values) (key : String) : Bool := (Named.get? key v).isSome

end Values

/-! ## Forms -/

/-- A switch of one long name. -/
def switch (name : String) : CommandOption := ⟨["--" ++ name], name, none, []⟩

/-- An option that takes one of some values. -/
def choice (name : String) (choices : List String) : CommandOption :=
  ⟨["--" ++ name], name, some .text, choices⟩

/-- The options for the output. -/
def outputOptions : List CommandOption :=
  [switch "json", choice "output" outputChoices]

/-- The option for the acting user. -/
def actorOption : CommandOption := ⟨["--as"], "actor", some .text, []⟩

/-- The option for the description of a ticket. -/
def descriptionOption : CommandOption := ⟨["-d", "--description"], "description", some .text, []⟩

/-- The options for lists of tickets. -/
def listOptions (kind : Kind) : List CommandOption :=
  [choice "state" kind.stateTexts, choice "sort" [Order.created.text, Order.updated.text]]

/-- An operand that is a text. -/
def textOperand (name : String) : Operand := ⟨name, .text⟩

/-- An operand that is a whole number. -/
def wholeOperand (name : String) : Operand := ⟨name, .whole⟩

/-- A command of a group: its name, its operands, its own options, whether it has an acting user,
and how it is made from its values. -/
def entry (group name : String) (operands : List Operand) (own : List CommandOption)
    (acting : Bool) (make : Values → Command) : String × Form × (Values → Command) :=
  let options := helpOption :: own ++ outputOptions ++ (if acting then [actorOption] else [])
  (name, ⟨group ++ " " ++ name, options, operands⟩, make)

/-- A group of commands. -/
abbrev Commands := Group (Values → Command)

/-- The commands for repositories. -/
def repositoryCommands : Commands :=
  let group := "repoflow repo"
  ⟨group, [
    entry group "add" [textOperand "name", textOperand "path"] [] false
      fun v => .addRepository (v.text "name") (v.text "path"),
    entry group "list" [] [] false fun _ => .listRepositories,
    entry group "remove" [textOperand "name"] [switch "yes"] false
      fun v => .removeRepository (v.text "name") (v.isOn "yes")]⟩

/-- The operands that name a ticket. -/
def ticketOperands : List Operand := [textOperand "repo", wholeOperand "id"]

/-- The operands that name two issues. -/
def pairOperands : List Operand := ticketOperands ++ [wholeOperand "depends_on"]

/-- The commands for issues. -/
def issueCommands : Commands :=
  let group := "repoflow issue"
  ⟨group, [
    entry group "create" [textOperand "repo", textOperand "title"] [descriptionOption] true
      fun v => .createIssue (v.text "repo") (v.text "title") (v.text "description")
        (v.text? "actor"),
    entry group "list" [textOperand "repo"] (listOptions .issue) false
      fun v => .listIssues (v.text "repo") (v.text? "state") (Order.ofText (v.text "sort")),
    entry group "show" ticketOperands [] false
      fun v => .showIssue (v.text "repo") (v.whole "id"),
    entry group "update" (ticketOperands ++ [textOperand "title"]) [descriptionOption] false
      fun v => .updateIssue (v.text "repo") (v.whole "id") (v.text "title")
        (v.text "description"),
    entry group "close" ticketOperands [] true
      fun v => .closeIssue (v.text "repo") (v.whole "id") (v.text? "actor"),
    entry group "reopen" ticketOperands [] false
      fun v => .reopenIssue (v.text "repo") (v.whole "id"),
    entry group "delete" ticketOperands [switch "yes"] false
      fun v => .deleteIssue (v.text "repo") (v.whole "id") (v.isOn "yes"),
    entry group "add-dependency" pairOperands [] false
      fun v => .addDependency (v.text "repo") (v.whole "id") (v.whole "depends_on"),
    entry group "remove-dependency" pairOperands [] false
      fun v => .removeDependency (v.text "repo") (v.whole "id") (v.whole "depends_on"),
    entry group "has-dependency" pairOperands [] false
      fun v => .hasDependency (v.text "repo") (v.whole "id") (v.whole "depends_on"),
    entry group "dependencies" ticketOperands [] false
      fun v => .dependenciesOf (v.text "repo") (v.whole "id"),
    entry group "dependents" ticketOperands [] false
      fun v => .dependentsOf (v.text "repo") (v.whole "id")]⟩

/-- The commands for merge requests. -/
def mergeRequestCommands : Commands :=
  let group := "repoflow mr"
  ⟨group, [
    entry group "create"
      [textOperand "repo", textOperand "source", textOperand "target", textOperand "title"]
      [descriptionOption] true
      fun v => .createMergeRequest (v.text "repo") (v.text "source") (v.text "target")
        (v.text "title") (v.text "description") (v.text? "actor"),
    entry group "list" [textOperand "repo"] (listOptions .mergeRequest) false
      fun v => .listMergeRequests (v.text "repo") (v.text? "state")
        (Order.ofText (v.text "sort")),
    entry group "show" ticketOperands [] false
      fun v => .showMergeRequest (v.text "repo") (v.whole "id"),
    entry group "update" (ticketOperands ++ [textOperand "title"]) [descriptionOption] false
      fun v => .updateMergeRequest (v.text "repo") (v.whole "id") (v.text "title")
        (v.text "description"),
    entry group "merge" ticketOperands [⟨["--timeout"], "timeout", some .seconds, []⟩] true
      fun v => .merge (v.text "repo") (v.whole "id") (v.seconds? "timeout") (v.text? "actor"),
    entry group "close" ticketOperands [] true
      fun v => .closeMergeRequest (v.text "repo") (v.whole "id") (v.text? "actor"),
    entry group "reopen" ticketOperands [] false
      fun v => .reopenMergeRequest (v.text "repo") (v.whole "id"),
    entry group "delete" ticketOperands [switch "yes"] false
      fun v => .deleteMergeRequest (v.text "repo") (v.whole "id") (v.isOn "yes")]⟩

/-- The commands of a group, by the names of groups. -/
def groupNamed? : String → Option Commands
  | "repo" => some repositoryCommands
  | "issue" => some issueCommands
  | "mr" => some mergeRequestCommands
  | "merge-request" => some mergeRequestCommands
  | _ => none

/-- Reads a command line of a group. -/
def Invocation.read (commands : Commands) (arguments : List String) :
    Except Stop Invocation := do
  let (make, values) ← commands.read arguments
  .ok ⟨make values, values.isOn "json", values.text? "output"⟩

end Forge.Cli
