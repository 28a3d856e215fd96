import Forge.Text.Quoted

/-!
# What the package loads by name

The package loads its workflow when that is first asked for. No other name is looked for in this
way.
-/

namespace Forge.Package

/-- What the package loads when it is first asked for. -/
inductive Lazy where
  | workflow
deriving DecidableEq, Repr

/-- The name of what is loaded, which it is asked for by and has itself. -/
def Lazy.name : Lazy → String
  | .workflow => "Workflow"

/-- A name under which nothing is loaded. -/
structure Unknown where
  name : String
deriving DecidableEq, Repr

/-- The words for a name under which nothing is loaded. -/
def Unknown.message (u : Unknown) : String :=
  "module 'repoflow' has no attribute " ++ Text.quoted u.name

/-- What is loaded under a name that the package does not have yet. -/
def load (name : String) : Except Unknown Lazy :=
  if name = Lazy.workflow.name then .ok .workflow else .error ⟨name⟩

end Forge.Package
