import Forge.FileSystem.Path
import Forge.Program.Basic
import Forge.Time.Deadline

/-!
# Working trees under git

Each call on a working tree is one run of git, and merging is two: the second reads the id of the
merge commit, and its failure does not undo the first. An exit status of one answers a question
with no; every other failure becomes an error that says what was being done.
-/

namespace Forge.Git

variable {τ : Type} [TimeScale τ]

/-- How git is run: the command, the directory of the working tree, and the domain of the mail
addresses of authors. -/
structure Checkout where
  command : String
  directory : String
  mailDomain : String
deriving DecidableEq, Repr

/-- Why a run of git gave no output. -/
inductive Refusal (τ : Type) where
  | failed (failure : CommandFailure)
  | timedOut (limit : Option τ)
  | unstartable (error : SystemError)
  | rejected (fault : RunFault)

/-- The error for a refusal, `deed` being what was tried. -/
def Refusal.error (deed : String) : Refusal τ → Error
  | .failed failure => .external ("failed to " ++ deed ++ ": " ++ failure.detail)
  | .timedOut (some limit) =>
    .deadline (.step ("failed to " ++ deed ++ ": timed out after " ++ TimeScale.text limit ++ "s"))
  | .timedOut none => .noLimit
  | .unstartable error => .external ("failed to " ++ deed ++ ": " ++ error.message)
  | .rejected fault => .unrunnable fault

/-- Runs git and answers its output, or why there is none. -/
def runGit (c : Checkout) (arguments : List String) (limit : Option τ)
    (settings : Option (List (String × String))) : Program τ (Except (Refusal τ) String) := do
  let words := c.command :: arguments
  match ← Program.request (.process ⟨words, c.directory, settings, limit⟩) with
  | .finished status out err =>
    if status = 0 then pure (.ok out) else pure (.error (.failed ⟨words, status, out, err⟩))
  | .timedOut => pure (.error (.timedOut limit))
  | .unstartable error => pure (.error (.unstartable error))
  | .rejected fault => pure (.error (.rejected fault))

/-- Runs git for a deed. -/
def perform (c : Checkout) (deed : String) (arguments : List String) (limit : Option τ)
    (settings : Option (List (String × String))) : Program τ (Except Error String) := do
  match ← runGit c arguments limit settings with
  | .ok out => pure (.ok out)
  | .error refusal => pure (.error (refusal.error deed))

/-- Asks git a question that its exit status answers. -/
def question (c : Checkout) (deed : String) (arguments : List String) (limit : Option τ) :
    Program τ (Except Error Bool) := do
  match ← runGit c arguments limit none with
  | .ok _ => pure (.ok true)
  | .error (.failed failure) =>
    if failure.status = 1 then pure (.ok false)
    else pure (.error ((Refusal.failed (τ := τ) failure).error deed))
  | .error refusal => pure (.error (refusal.error deed))

/-- The variables that name the author of a commit. -/
def authorship (c : Checkout) (author : String) : List (String × String) :=
  let address := author ++ "@" ++ c.mailDomain
  [("GIT_AUTHOR_NAME", author), ("GIT_AUTHOR_EMAIL", address), ("GIT_COMMITTER_NAME", author),
    ("GIT_COMMITTER_EMAIL", address)]

/-- Makes a log record. -/
def note (level : Level) (text : String) : Program τ Unit :=
  Program.request (.log ⟨level, .tree, text⟩)

/-- Reads the id of the commit that a merge has made. A failure to read it is only recorded, unless
it is one that the forge never expects. -/
def readCommit (c : Checkout) (branch : String) : Program τ (Except Error String) := do
  match ← perform c "read merge commit" ["rev-parse", "HEAD"] none none with
  | .ok out =>
    let commit := Text.strip out
    note .debug ("merged " ++ branch ++ " in " ++ c.directory ++ " as " ++ commit)
    pure (.ok commit)
  | .error e =>
    if e.isExternal then
      note .warning ("merged " ++ branch ++ " in " ++ c.directory ++ " but " ++ e.message)
      pure (.ok "")
    else pure (.error e)

/-- The runs of git that make up a call on a working tree. -/
def carryOut {α : Type} (c : Checkout) : TreeCall τ α → Program τ (Except Error α)
  | .branchExists branch =>
    question c ("inspect branch " ++ Text.quoted branch)
      ["show-ref", "--verify", "--quiet", "refs/heads/" ++ branch] none
  | .contains branch ancestor limit =>
    question c ("compare branches " ++ Text.quoted ancestor ++ " and " ++ Text.quoted branch)
      ["merge-base", "--is-ancestor", ancestor, branch] limit
  | .checkout branch limit => do
    let r ← perform c ("checkout target branch " ++ Text.quoted branch)
      ["checkout", "--quiet", branch] limit none
    pure (r.map fun _ => ())
  | .merge branch message author limit => do
    let r ← perform c ("merge branch " ++ Text.quoted branch)
      ["merge", "--no-ff", "--no-edit", "-m", message, branch] limit (some (authorship c author))
    match r with
    | .ok _ => readCommit c branch
    | .error e => pure (.error e)
  | .abortMerge => do
    let r ← perform c "abort merge" ["merge", "--abort"] none none
    pure (r.map fun _ => ())

/-- The program with its calls on working trees carried out by git, the open one being `c`. -/
def carryOutAll {α : Type} (c : Checkout) : Program τ α → Program τ α
  | .done a => .done a
  | .ask (.openTree repo) next =>
    carryOutAll { c with directory := (Path.ofText repo.path).text } (next ())
  | .ask (.tree call) next => (carryOut c call).bind fun r => carryOutAll c (next r)
  | .ask request next => .ask request fun b => carryOutAll c (next b)

end Forge.Git
