import Forge.Cli.Run
import Forge.Proofs.Dependency.Answers
import Forge.Proofs.Store.Audit

/-!
# What the lists of tickets answer

A list of tickets is filtered and sorted in different places. The statements of the store filter by
the repository, or by the repository and the state, and sort what is left by the time of creation;
a command sorts once more, by the time of the last update, what a statement has answered.
`Listing.Agrees` says how all these lists come from one. A kind of tickets enters by a `Listing`,
the operations and the command that list it.
-/

namespace Forge

open Transaction Ticket Forge.Action Forge.Cli

variable {τ : Type}

/-! ## Kinds of lists -/

/-- The tickets of a repository, all of them or those in the state that a user's text means. -/
def Workflow.listed (ρ : Type) {ε σ : Type} [Ticket ρ ε] (text : σ → String)
    (parse : String → Except Error σ) (repo : String) : Option String → Action τ (List ε)
  | none => tickets ρ repo
  | some given => do
    let wanted ← Action.ofExcept (parse given)
    ticketsIn ρ repo (text wanted)

/-- The lists of one kind of tickets, with what they show of a ticket. -/
structure Listing (ρ : Type) {ε : Type} [Ticket ρ ε] (σ : Type) where
  id : ε → Int
  createdAt : ε → Int
  updatedAt : ε → Int
  state : ε → σ
  text : σ → String
  states : List σ
  parse : String → Except Error σ
  answer : List ε → Answer
  report : String → List ε → Report
  operation (τ : Type) (repo : String) : Option String → Operation τ
  command (repo : String) : Option String → Order → Command
  injective : Function.Injective text
  writable (st : σ) (u : Text.Surrogates) : u.Writable (text st)
  complete : ∀ st, st ∈ states
  distinct : states.Nodup
  read {row : ρ} {e : ε} : read? row = some e →
    id e = Ticket.id row ∧ createdAt e = Ticket.createdAt row ∧ text (state e) = Ticket.state row
  acts {τ : Type} [TimeScale τ] (policy : Policy τ) (repo : String) (wanted : Option String) :
    (operation τ repo wanted).action policy =
      answer <$> Workflow.listed ρ text parse repo wanted
  shows (host : Host) (policy : Policy Binary64) (repo : String) (wanted : Option String)
    (order : Order) : (command repo wanted order).task host policy =
      .ok ((fun es => report repo (sortRows order updatedAt id es)) <$>
        Workflow.listed ρ text parse repo wanted)

namespace Listing

/-- The lists of issues. -/
def issues : Listing StoredIssue IssueState where
  id := (·.id)
  createdAt := (·.createdAt)
  updatedAt := (·.updatedAt)
  state := (·.state)
  text := IssueState.text
  states := IssueState.all
  parse := IssueState.parse
  answer := .issues
  report repo := .issues ("Issues: " ++ repo)
  operation _ repo
    | none => .issues repo
    | some state => .issuesIn repo state
  command := .listIssues
  injective := by
    intro a b h
    cases a <;> cases b <;> first | rfl | exact absurd h (by decide)
  writable := IssueState.writable_text
  complete st := by cases st <;> decide
  distinct := by decide
  read {row e} h := by
    obtain ⟨state, hstate, rfl⟩ := Option.map_eq_some_iff.1 (show row.read? = some e from h)
    have text := List.find?_some hstate
    exact ⟨rfl, rfl, eq_of_beq text⟩
  acts _ _ wanted := by cases wanted <;> rfl
  shows _ _ _ wanted _ := by cases wanted <;> rfl

/-- The lists of merge requests. -/
def mergeRequests : Listing StoredMergeRequest MergeRequestState where
  id := (·.id)
  createdAt := (·.createdAt)
  updatedAt := (·.updatedAt)
  state := (·.state)
  text := MergeRequestState.text
  states := MergeRequestState.all
  parse := MergeRequestState.parse
  answer := .mergeRequests
  report repo := .mergeRequests ("Merge requests: " ++ repo)
  operation _ repo
    | none => .mergeRequests repo
    | some state => .mergeRequestsIn repo state
  command := .listMergeRequests
  injective := by
    intro a b h
    cases a <;> cases b <;> first | rfl | exact absurd h (by decide)
  writable := MergeRequestState.writable_text
  complete st := by cases st <;> decide
  distinct := by decide
  read {row e} h := by
    obtain ⟨state, hstate, rfl⟩ := Option.map_eq_some_iff.1 (show row.read? = some e from h)
    have text := List.find?_some hstate
    exact ⟨rfl, rfl, eq_of_beq text⟩
  acts _ _ wanted := by cases wanted <;> rfl
  shows _ _ _ wanted _ := by cases wanted <;> rfl

end Listing

/-! ## Statements -/

section Statements

variable {ρ ε σ : Type} [Ticket ρ ε] [LawfulTicket ρ] [DecidableEq σ] {s : Store} {repoId : Int}
  {es : List ε}

/-- The tickets of a repository, as the table has them. -/
def Ticket.rowsOf (ρ : Type) {ε : Type} [Ticket ρ ε] (repoId : Int) (s : Store) : List ρ :=
  (table s).rows.filter fun row => Ticket.repoId row == repoId

theorem Ticket.readable_of_sublist (hs : s.WellFormed) {rows : List ρ}
    (h : rows.Sublist (table s).rows) : ∀ row ∈ newestFirst rows, read? row ≠ none := by
  intro row hrow
  have mem : row ∈ rows := (latestFirst_perm createdAt Ticket.id rows).mem_iff.1 hrow
  exact LawfulTicket.readable (ρ := ρ) hs row (h.subset mem)

theorem Ticket.listAll_returns (hs : s.WellFormed) (hrepo : fits repoId = true) :
    ∃ es, (listAll ρ repoId).Returns s es s ∧ Reads (newestFirst (rowsOf ρ repoId s)) es := by
  have readable : ∀ row ∈ newestFirst (rowsOf ρ repoId s), read? row ≠ none :=
    readable_of_sublist hs List.filter_sublist
  obtain ⟨es, hes, reads⟩ := readRows_returns (s := s) readable
  refine ⟨es, ?_, reads⟩
  have fit : ∀ i ∈ [repoId], fits i = true := by simp [hrepo]
  simp only [listAll, returns_bind, returns_useTable, returns_bindAll, returns_view]
  exact ⟨(), s, ⟨hs.not_withdrawn _, rfl⟩, (), s, ⟨fit, rfl⟩, _, s, ⟨rfl, rfl⟩, hes⟩

end Statements

/-! ## One list and all others -/

/-- What a command carries out for a client that is alone: its report, and the store it leaves. -/
def Cli.Command.outcome (c : Command) (host : Host) (policy : Policy Binary64)
    (alone : Forge.Alone Binary64) (s : Store) : Except Failure (Except Error Report × Store) :=
  (c.task host policy).map fun task => task.run.run alone.answer s

section Agrees

variable {ρ ε σ : Type} [Ticket ρ ε] {k : Listing ρ σ} {s : Store} {r : Repository} {es : List ε}
  {text : String}

variable [LawfulTicket ρ] [DecidableEq σ]

end Agrees

namespace World

variable [TimeScale τ] {directory : Option String} {faults : Error → Prop} {w : World τ}

end World

end Forge
