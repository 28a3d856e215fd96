import Forge.Proofs.Constraints.Statements
import Forge.Proofs.Replay
import Forge.Proofs.Transcript

/-!
# Where a merge request is filed

A merge request is created in two transactions, with questions to a working tree in between: the
repository is looked up, its working tree is asked for both branches, and then the row is added.
Other calls may come between any of these. `Draft.Course` says which transcripts a call can have and
what it ends in after each. As ids are never given out again, the row is either added to the
repository that was looked up, or that repository is gone and nothing is added, also if another one
has its name by then (`Draft.Fate`).
-/

namespace Forge

open Transaction Workflow

variable {τ : Type}

/-- What a caller gives for a merge request. -/
structure Draft where
  repo : String
  actor : Option String
  title : String
  source : String
  target : String
  description : Option String

namespace Draft

/-- The operation that creates the merge request. -/
def operation (d : Draft) : Operation τ :=
  .createMergeRequest d.repo d.actor d.title d.source d.target d.description

/-- The branch that is to be merged. -/
def origin (d : Draft) : String := Text.strip d.source

/-- The branch that it is to be merged into. -/
def destination (d : Draft) : String := Text.strip d.target

/-- Actor and branches pass what is checked before the repository is looked up. -/
structure Admits (d : Draft) (author : String) : Prop where
  actor : cleanActor d.actor = .ok author
  source : checkBranchName .source d.origin = .ok ()
  target : checkBranchName .target d.destination = .ok ()
  distinct : d.origin ≠ d.destination

/-- The texts of the row have UTF-8 forms. -/
def Writable (d : Draft) (u : Text.Surrogates) (author title description : String) : Prop :=
  ∀ text ∈ [title, description, d.origin, d.destination, author], u.Writable text

instance (d : Draft) (u : Text.Surrogates) (author title description : String) :
    Decidable (d.Writable u author title description) :=
  inferInstanceAs (Decidable (∀ text ∈ _, u.Writable text))

/-- Title and description pass what is checked when the row is added, and the columns can hold the
id of the repository and all texts. -/
structure Passes (d : Draft) (u : Text.Surrogates) (author : String) (r : Repository) : Prop where
  texts : ∃ title description, cleanTitle d.title = .ok title ∧
    d.description = some description ∧ d.Writable u author title description
  narrow : fits r.id = true

/-- The repository is the one that the draft names. -/
structure Finds (d : Draft) (r : Repository) (s : Store) : Prop where
  row : r ∈ s.repos.rows
  name : Repository.cleanName d.repo = .ok r.name

/-- The row that is added. -/
def row (d : Draft) (author : String) (r : Repository) (title description : String)
    (now id : Int) : StoredMergeRequest :=
  ⟨id, r.id, title, description, d.origin, d.destination, "open", author, none, none, none, none,
    now, now⟩

/-- The store with the row added. -/
def filed (d : Draft) (author : String) (r : Repository) (title description : String) (now : Int)
    (s : Store) : Store :=
  { s with mergeRequests := s.mergeRequests.insert (d.row author r title description now) }

/-- The merge request that the row is. -/
def made (d : Draft) (author : String) (r : Repository) (title description : String) (now : Int)
    (s : Store) : MergeRequest :=
  { d.row author r title description now s.mergeRequests.nextId with
    state := MergeRequestState.opened }

/-- The transaction that adds the row and reads it again. -/
def filing (d : Draft) (author : String) (r : Repository) (now : Int) :
    Transaction MergeRequest := do
  let id ← Store.createMergeRequest now r.id (some author) d.title d.description (some d.origin)
    (some d.destination)
  Ticket.get StoredMergeRequest r.id id

/-- What is asked after actor and branches have passed. -/
def asking (d : Draft) (author : String) : Action τ MergeRequest := do
  let r ← repository d.repo
  Action.ask (.openTree r)
  requireBranch .source d.origin
  requireBranch .target d.destination
  session true (d.filing author r)

/-! ## What becomes of the row -/

/-- What the transaction that adds the row comes to on a store, after a repository was found:
what it surfaces as, and the store afterwards. -/
inductive Fate (d : Draft) (author : String) (r : Repository) (s : Store) (now : Int) :
    Except Error MergeRequest → Store → Prop
  | added {title description : String} (there : r ∈ s.repos.rows)
      (cleaned : cleanTitle d.title = .ok title) (described : d.description = some description) :
      Fate d author r s now (.ok (d.made author r title description now s))
        (d.filed author r title description now s)
  | removed (gone : r ∉ s.repos.rows) (passes : d.Passes s.surrogates author r) :
      Fate d author r s now (.error (.notFound .reference)) s
  | refused {e : Error} (why : ¬ d.Passes s.surrogates author r ∨
        r ∈ s.repos.rows ∧ fits s.mergeRequests.nextId = false) :
      Fate d author r s now (.error e) s

section Filing

variable {d : Draft} {author : String} {r : Repository} {s s' : Store} {now : Int}

theorem Fate.of_ok {m : MergeRequest} (h : d.Fate author r s now (.ok m) s') :
    r ∈ s.repos.rows ∧ ∃ title description, cleanTitle d.title = .ok title ∧
      d.description = some description ∧ m = d.made author r title description now s ∧
      s' = d.filed author r title description now s := by
  cases h with
  | added there cleaned described => exact ⟨there, _, _, cleaned, described, rfl, rfl⟩

theorem Fate.of_gone {x : Except Error MergeRequest} (h : d.Fate author r s now x s')
    (passes : d.Passes s.surrogates author r) (gone : r ∉ s.repos.rows) :
    x = .error (.notFound .reference) := by
  cases h with
  | added there => exact absurd there gone
  | removed => rfl
  | refused why =>
    rcases why with fails | ⟨there, -⟩
    · exact absurd passes fails
    · exact absurd there gone

/-- The row that has just been added is the one that is read again. -/
theorem get_row (hs : s.WellFormed) (there : s.hasRepository r.id = true)
    (narrow : fits r.id = true) (room : fits s.mergeRequests.nextId = true)
    (title description : String) :
    (Ticket.get StoredMergeRequest r.id s.mergeRequests.nextId).Returns
      (d.filed author r title description now s) (d.made author r title description now s)
      (d.filed author r title description now s) := by
  have added : TicketEffect now r.id s (d.filed author r title description now s) :=
    @TicketEffect.requestAdded now r.id s title description d.origin d.destination author there
  exact @Store.WellFormed.got _ (added.wellFormed hs)
    (d.row author r title description now s.mergeRequests.nextId) (Table.mem_insert.2 (.inr rfl))
    rfl narrow room

theorem returns_createMergeRequest (hs : s.WellFormed) (hnow : fits now = true) {id : Int} :
    (Store.createMergeRequest now r.id (some author) d.title d.description (some d.origin)
      (some d.destination)).Returns s id s' ↔
      s.hasRepository r.id = true ∧ fits r.id = true ∧ id = s.mergeRequests.nextId ∧
      ∃ title description, cleanTitle d.title = .ok title ∧ d.description = some description ∧
        d.Writable s.surrogates author title description ∧
        s' = d.filed author r title description now s := by
  have bound (title description : String) : (∀ c ∈ [.int r.id, .text title,
      .ofText? (some description), .ofText? (some d.origin), .ofText? (some d.destination),
      .ofText? (some author), .int now], Cell.Bindable s.surrogates c) ↔ fits r.id = true ∧
        d.Writable s.surrogates author title description := by
    simp [Writable, hnow]
  simp only [Store.createMergeRequest, returns_bind, returns_ofExcept, returns_useTable,
    returns_useParent, returns_bindCells, returns_required, returns_whole, returns_check,
    returns_change, returns_pure]
  constructor
  · rintro ⟨title, _, ⟨cleaned, rfl⟩, _, _, ⟨-, rfl⟩, _, _, ⟨-, rfl⟩, _, _, ⟨taken, rfl⟩,
      description, _, ⟨described, rfl⟩, _, _, ⟨origin, rfl⟩, _, _, ⟨destination, rfl⟩, _, _,
      ⟨signed, rfl⟩, _, _, ⟨rfl, rfl⟩, _, _, ⟨there, rfl⟩, _, _, rfl, rfl, rfl⟩
    cases origin
    cases destination
    cases signed
    rw [described, bound] at taken
    exact ⟨there, taken.1, rfl, title, description, cleaned, described, taken.2, rfl⟩
  · rintro ⟨there, narrow, rfl, title, description, cleaned, described, texts, rfl⟩
    have taken := (bound title description).2 ⟨narrow, texts⟩
    rw [← described] at taken
    exact ⟨title, s, ⟨cleaned, rfl⟩, (), s, ⟨hs.not_withdrawn _, rfl⟩, (), s,
      ⟨hs.not_withdrawn _, rfl⟩, (), s, ⟨taken, rfl⟩, description, s,
      ⟨described, rfl⟩, _, s, ⟨rfl, rfl⟩, _, s, ⟨rfl, rfl⟩, author, s, ⟨rfl, rfl⟩, s, s,
      ⟨rfl, rfl⟩, (), s, ⟨there, rfl⟩, (), _, rfl, rfl, rfl⟩

theorem returns_filing (hs : s.WellFormed) (hnow : fits now = true) {m : MergeRequest} :
    (d.filing author r now).Returns s m s' ↔
      s.hasRepository r.id = true ∧ fits r.id = true ∧ fits s.mergeRequests.nextId = true ∧
      ∃ title description, cleanTitle d.title = .ok title ∧ d.description = some description ∧
        d.Writable s.surrogates author title description ∧
        m = d.made author r title description now s ∧
        s' = d.filed author r title description now s := by
  constructor
  · intro h
    obtain ⟨id, s₁, hc, hg⟩ := returns_bind.1 h
    obtain ⟨there, narrow, rfl, title, description, cleaned, described, texts, rfl⟩ :=
      (returns_createMergeRequest hs hnow).1 hc
    have room : fits s.mergeRequests.nextId = true := (Ticket.returns_get.1 hg).2.2.1
    obtain ⟨rfl, rfl⟩ := returns_unique (get_row hs there narrow room title description) hg
    exact ⟨there, narrow, room, title, description, cleaned, described, texts, rfl, rfl⟩
  · rintro ⟨there, narrow, room, title, description, cleaned, described, texts, rfl, rfl⟩
    exact returns_bind.2 ⟨_, _, (returns_createMergeRequest hs hnow).2
      ⟨there, narrow, rfl, title, description, cleaned, described, texts, rfl⟩,
      get_row hs there narrow room title description⟩

/-- A repository that is gone is missed by the constraint. -/
theorem violates_filing (hs : s.WellFormed) (hnow : fits now = true)
    (gone : s.hasRepository r.id = false) (passes : d.Passes s.surrogates author r) :
    (d.filing author r now).Violates s .foreignKey := by
  obtain ⟨⟨title, description, cleaned, described, texts⟩, narrow⟩ := passes
  unfold filing
  rw [violates_then fun _ _ _ => Ticket.sound_get, described]
  exact (Store.violates_createMergeRequest hs hnow).2 ⟨rfl, narrow, gone, title, cleaned, texts⟩

/-- What the transaction comes to, if there is no other repository of this id. -/
theorem fate_of_commit (hs : s.WellFormed) (hnow : fits now = true)
    (same : s.hasRepository r.id = true → r ∈ s.repos.rows) :
    d.Fate author r s now (((d.filing author r now).commit s).1.mapError Error.classified)
      ((d.filing author r now).commit s).2 := by
  have has (there : r ∈ s.repos.rows) : s.hasRepository r.id = true :=
    Store.hasRepository_iff.2 ⟨r, there, rfl⟩
  rcases (d.filing author r now).commit_cases s with ⟨m, s', returns, hc⟩ | ⟨e, fails, hc⟩
  · rw [hc]
    obtain ⟨there, -, -, title, description, cleaned, described, -, rfl, rfl⟩ :=
      (returns_filing hs hnow).1 returns
    exact .added (same there) cleaned described
  · by_cases passes : d.Passes s.surrogates author r
    · by_cases there : r ∈ s.repos.rows
      · rw [hc]
        refine .refused (.inr ⟨there, Bool.eq_false_iff.2 fun room => ?_⟩)
        obtain ⟨⟨title, description, cleaned, described, texts⟩, narrow⟩ := passes
        exact not_fails_of_returns ((returns_filing hs hnow).2
          ⟨has there, narrow, room, title, description, cleaned, described, texts, rfl, rfl⟩) fails
      · have gone : s.hasRepository r.id = false := Bool.eq_false_iff.2 fun h => there (same h)
        rw [commit_of_fails (violates_filing hs hnow gone passes)]
        exact .removed there passes
    · rw [hc]
      exact .refused (.inl passes)

end Filing

/-! ## The transcripts of a call -/

/-- The answers after which a branch is not known to be there, with the errors of a call. -/
inductive Absent (side : Side) (branch : String) : Except Error Bool → Error → Prop
  | missing : Absent side branch (.ok false) (.invalidArgument (.noSuchBranch side branch))
  | unanswered {e : Error} : Absent side branch (.error e) e

section Entries

variable (d : Draft) (author : String) (r : Repository) (s s' : Store)

/-- The repository is looked up. -/
def lookup (b : Except Error Repository) : Answered τ (Store × Store) :=
  ⟨.transact false none fun _ => Store.repositoryNamed d.repo, b, (s, s)⟩

/-- The working tree of a repository is opened. -/
def opening : Answered τ (Store × Store) :=
  ⟨.openTree r, (), (s, s)⟩

/-- The open working tree is asked for a branch. -/
def question (branch : String) (b : Except Error Bool) : Answered τ (Store × Store) :=
  ⟨.tree (.branchExists branch), b, (s, s)⟩

/-- The row is added. -/
def insertion (b : Except Error MergeRequest) : Answered τ (Store × Store) :=
  ⟨.transact true none (d.filing author r), b, (s, s')⟩

end Entries

/-- The transcripts of a call that has ended, with what it has ended in. -/
inductive Course (d : Draft) : Transcript τ → Except Error MergeRequest → Prop
  | invalid {why : Invalid} (rejected : ∀ author, ¬ d.Admits author) :
      Course d [] (.error (.invalidArgument why))
  | unknown {author : String} {e : Error} {s : Store} (admitted : d.Admits author) :
      Course d [d.lookup s (.error e)] (.error e.classified)
  | sourceMissing {author : String} {r : Repository} {b : Except Error Bool} {e : Error}
      {s₁ s₂ s₃ : Store} (admitted : d.Admits author) (found : d.Finds r s₁)
      (absent : Absent .source d.origin b e) :
      Course d [d.lookup s₁ (.ok r), opening r s₂, question s₃ d.origin b] (.error e)
  | targetMissing {author : String} {r : Repository} {b : Except Error Bool} {e : Error}
      {s₁ s₂ s₃ s₄ : Store} (admitted : d.Admits author) (found : d.Finds r s₁)
      (absent : Absent .target d.destination b e) :
      Course d [d.lookup s₁ (.ok r), opening r s₂, question s₃ d.origin (.ok true),
        question s₄ d.destination b] (.error e)
  | inserted {author : String} {r : Repository} {b : Except Error MergeRequest}
      {s₁ s₂ s₃ s₄ s s' : Store} (admitted : d.Admits author) (found : d.Finds r s₁)
      (answered : Reply (τ := τ) (fun _ => True) (.transact true none (d.filing author r)) b s s')
      (fate : ∀ now, fits now = true →
        d.Fate author r s now (((d.filing author r now).commit s).1.mapError Error.classified)
          ((d.filing author r now).commit s).2) :
      Course d [d.lookup s₁ (.ok r), opening r s₂, question s₃ d.origin (.ok true),
        question s₄ d.destination (.ok true), d.insertion author r s s' b]
        (b.mapError Error.classified)

/-- The transcripts of a call that has added a merge request to the repository that it looked up and
whose working tree it asked. -/
inductive Filed (d : Draft) : Transcript τ → MergeRequest → Prop
  | intro {author title description : String} {r : Repository} {now : Int} {s₁ s₂ s₃ s₄ s : Store}
      (admitted : d.Admits author) (found : d.Finds r s₁) (there : r ∈ s.repos.rows)
      (cleaned : cleanTitle d.title = .ok title) (described : d.description = some description) :
      Filed d [d.lookup s₁ (.ok r), opening r s₂, question s₃ d.origin (.ok true),
        question s₄ d.destination (.ok true),
        d.insertion author r s (d.filed author r title description now s)
          (.ok (d.made author r title description now s))]
        (d.made author r title description now s)

/-- The transcripts of a call whose repository is gone when the engine runs the transaction that
adds the row, although nothing else is wrong. -/
inductive Missed (d : Draft) : Transcript τ → Prop
  | intro {author : String} {r : Repository} {now : Int} {b : Except Error MergeRequest}
      {s₁ s₂ s₃ s₄ s s' : Store} (admitted : d.Admits author)
      (passes : d.Passes s.surrogates author r) (gone : r ∉ s.repos.rows) (hnow : fits now = true)
      (ran : (d.filing author r now).commit s = (b, s')) :
      Missed d [d.lookup s₁ (.ok r), opening r s₂, question s₃ d.origin (.ok true),
        question s₄ d.destination (.ok true), d.insertion author r s s' b]

namespace Course

variable {d : Draft} {t : Transcript τ} {x : Except Error MergeRequest}

/-- A call that ends in an error has changed nothing. -/
theorem unchanged (h : d.Course t x) {e : Error} (failed : x = .error e) :
    ∀ a ∈ t, a.scene.2 = a.scene.1 := by
  cases h with
  | invalid | unknown | sourceMissing | targetMissing => simp [lookup, opening, question]
  | @inserted author r b s₁ s₂ s₃ s₄ s s' admitted found answered fate =>
    have kept : s' = s := by
      rcases answered.transact with ⟨-, kept⟩ | ⟨now, -, ⟨m, rfl, -⟩ | ⟨e', -, kept, -⟩⟩
      · exact kept
      · cases failed
      · exact kept
    simp [lookup, opening, question, insertion, kept]

/-- A call that ends in a merge request has added it to the repository that it looked up. -/
theorem filed (h : d.Course t x) {m : MergeRequest} (done : x = .ok m) : d.Filed t m := by
  cases h with
  | invalid | unknown | sourceMissing | targetMissing => cases done
  | @inserted author r b s₁ s₂ s₃ s₄ s s' admitted found answered fate =>
    rcases answered.transact with
      ⟨⟨e, rfl, -⟩, -⟩ | ⟨now, hnow, ⟨m', rfl, returns⟩ | ⟨e, rfl, -⟩⟩
    · cases done
    · cases done
      have fate := fate now hnow
      rw [commit_of_returns returns] at fate
      obtain ⟨there, title, description, cleaned, described, rfl, rfl⟩ := fate.of_ok
      exact .intro admitted found there cleaned described
    · cases done

/-- The constraint that misses the repository surfaces as the refusal of a reference. -/
theorem missed (h : d.Course t x) (missed : d.Missed t) : x = .error (.notFound .reference) := by
  generalize asked : t = t' at missed
  obtain @⟨_, _, now, _, _, _, _, _, _, _, admits, passes, gone, hnow, ran⟩ := missed
  cases h with
  | invalid | unknown | sourceMissing | targetMissing => simp at asked
  | inserted admitted found answered fate =>
    simp only [lookup, opening, question, insertion, List.cons.injEq, Answered.mk.injEq,
      Request.openTree.injEq, Request.transact.injEq, heq_eq_eq, true_and, and_true, Prod.mk.injEq,
      Except.ok.injEq] at asked
    obtain ⟨⟨rfl, -⟩, -, -, -, body, rfl, rfl, -⟩ := asked
    obtain rfl := Except.ok.inj (admitted.actor.symm.trans admits.actor)
    have fate := fate now hnow
    rw [body, ran] at fate
    exact fate.of_gone passes gone

end Course

/-! ## What the program asks -/

section Ended

variable {α : Type} {t : Transcript τ}

theorem ended_requireBranch_then {side : Side} {branch : String} {k : Unit → Action τ α}
    {x : Except Error α} :
    (requireBranch side branch >>= k).Ended t x → ∃ b scene after,
      t = ⟨.tree (.branchExists branch), b, scene⟩ :: after ∧
        ((∃ e, Absent side branch b e ∧ after = [] ∧ x = .error e) ∨
          b = .ok true ∧ (k ()).Ended after x) := by
  intro h
  rcases Action.ended_bind.1 h with ⟨e, asked, rfl⟩ | ⟨_, before, after, rfl, asked, rest⟩ <;>
    obtain ⟨b, scene, u, rfl, hb⟩ := Action.ended_demand_then.1 asked
  · refine ⟨b, scene, u, rfl, .inl ⟨e, ?_⟩⟩
    rcases hb with ⟨e', rfl, rfl, he⟩ | ⟨there, rfl, hk⟩
    · cases he
      exact ⟨.unanswered, rfl, rfl⟩
    · cases there with
      | true => exact nomatch (Action.ended_pure.1 hk).2
      | false =>
        obtain ⟨rfl, he⟩ := Action.ended_throw.1 hk
        cases he
        exact ⟨.missing, rfl, rfl⟩
  · refine ⟨b, scene, u ++ after, rfl, .inr ?_⟩
    rcases hb with ⟨e', rfl, rfl, he⟩ | ⟨there, rfl, hk⟩
    · cases he
    · cases there with
      | true =>
        obtain ⟨rfl, -⟩ := Action.ended_pure.1 hk
        exact ⟨rfl, rest⟩
      | false => exact nomatch (Action.ended_throw.1 hk).2

/-- Looking the repository up changes nothing. -/
theorem finds_of_reply {d : Draft} {b : Except Error Repository} {s s' : Store}
    (h : Reply (fun _ => True) (.transact false none fun _ => Store.repositoryNamed d.repo :
      Request τ (Except Error Repository)) b s s') :
    s' = s ∧ ∀ r, b = .ok r → d.Finds r s := by
  rcases h.transact with ⟨⟨e, rfl, -⟩, rfl⟩ | ⟨now, -, ⟨r, rfl, returns⟩ | ⟨e, rfl, rfl, -⟩⟩
  · exact ⟨rfl, nofun⟩
  · obtain ⟨there, clean, rfl⟩ := Store.found_of_returns returns
    refine ⟨rfl, ?_⟩
    rintro _ ⟨⟩
    exact ⟨there, clean⟩
  · exact ⟨rfl, nofun⟩

theorem course_of_asking {d : Draft} {author : String} {x : Except Error MergeRequest}
    (admitted : d.Admits author) (told : t.Faithful)
    (h : (d.asking author : Action τ MergeRequest).Ended t x) : d.Course t x := by
  have reply {β : Type} {r : Request τ β} {b : β} {s s' : Store} (h : ⟨r, b, (s, s')⟩ ∈ t) :
      Reply (fun _ => True) r b s s' := told.replies _ h
  -- The repository is looked up, and its working tree is opened.
  obtain ⟨b, ⟨s₁, s'⟩, t₁, rfl, looked⟩ := ended_session_then.1 h
  obtain ⟨rfl, finds⟩ := finds_of_reply (reply (.head _))
  rcases looked with ⟨e, rfl, rfl, rfl⟩ | ⟨r, rfl, h₁⟩
  · exact .unknown admitted
  have found : d.Finds r s' := finds r rfl
  obtain ⟨_, ⟨s₂, s''⟩, t₂, rfl, h₂⟩ := Action.ended_ask_then.1 h₁
  obtain rfl : s'' = s₂ := reply (.tail _ (.head _))
  -- It is asked for both branches.
  obtain ⟨b, ⟨s₃, s''⟩, t₃, rfl, asked⟩ := ended_requireBranch_then h₂
  obtain rfl : s'' = s₃ := (reply (.tail _ (.tail _ (.head _)))).2
  rcases asked with ⟨e, absent, rfl, rfl⟩ | ⟨rfl, h₃⟩
  · exact .sourceMissing admitted found absent
  obtain ⟨b, ⟨s₄, s''⟩, t₄, rfl, asked⟩ := ended_requireBranch_then h₃
  obtain rfl : s'' = s₄ := (reply (.tail _ (.tail _ (.tail _ (.head _))))).2
  rcases asked with ⟨e, absent, rfl, rfl⟩ | ⟨rfl, h₄⟩
  · exact .targetMissing admitted found absent
  -- The row is added on a store that is later than the one on which the repository was found.
  obtain ⟨b, ⟨s, s''⟩, rfl, rfl⟩ := ended_session.1 h₄
  have evolves : s'.Evolves s :=
    (List.pairwise_cons.1 told.ordered).1 _ (.tail _ (.tail _ (.tail _ (.head _))))
  have same (there : s.hasRepository r.id = true) : r ∈ s.repos.rows :=
    evolves.repository_there (told.stores _ (.head _)) found.row (Store.hasRepository_iff.1 there)
  have hs : s.WellFormed := told.stores _ (.tail _ (.tail _ (.tail _ (.tail _ (.head _)))))
  exact .inserted admitted found (reply (.tail _ (.tail _ (.tail _ (.tail _ (.head _))))))
    fun now hnow => fate_of_commit hs hnow same

theorem course_of_ended {d : Draft} {x : Except Error MergeRequest} (told : t.Faithful)
    (h : (createMergeRequest d.repo d.actor d.title d.source d.target d.description :
      Action τ MergeRequest).Ended t x) : d.Course t x := by
  rcases Action.ended_ofExcept_then.1 h with ⟨e, rejected, rfl, rfl⟩ | ⟨author, actor, h₁⟩
  · obtain ⟨why, rfl⟩ := refuses_cleanActor _ _ rejected
    exact .invalid fun author admitted => nomatch rejected.symm.trans admitted.actor
  rcases Action.ended_ofExcept_then.1 h₁ with ⟨e, rejected, rfl, rfl⟩ | ⟨_, source, h₂⟩
  · obtain ⟨why, rfl⟩ := refuses_checkBranchName _ _ _ rejected
    exact .invalid fun author admitted => nomatch rejected.symm.trans admitted.source
  rcases Action.ended_ofExcept_then.1 h₂ with ⟨e, rejected, rfl, rfl⟩ | ⟨_, target, h₃⟩
  · obtain ⟨why, rfl⟩ := refuses_checkBranchName _ _ _ rejected
    exact .invalid fun author admitted => nomatch rejected.symm.trans admitted.target
  split at h₃
  · next equal =>
    rcases Action.ended_bind.1 h₃ with ⟨e, thrown, rfl⟩ | ⟨_, _, _, -, thrown, -⟩
    · obtain ⟨rfl, he⟩ := Action.ended_throw.1 thrown
      cases he
      exact .invalid fun author admitted => admitted.distinct equal
    · exact nomatch (Action.ended_throw.1 thrown).2
  · next distinct =>
    refine course_of_asking ⟨actor, source, target, distinct⟩ told ?_
    unfold asking filing origin destination
    exact h₃

end Ended

end Draft

/-! ## Worlds -/

namespace World

variable [TimeScale τ] {directory : Option String} {faults : Error → Prop} {w : World τ}

/-- **A merge request is filed where its repository was found, or nowhere.** Whatever other calls do
between the requests of a call that creates a merge request, the call ends in one of the ways of
`Draft.Course`. One that ends in a merge request has added just this row, to the repository whose
working tree it asked; one that ends in an error has changed nothing; and it is told that the
repository is gone if all else is in order and the texts have UTF-8 forms, also if there is another
one of its name. -/
theorem filed_where_found (h : w.Attained directory faults) {i : Nat} {c : Call τ}
    (call : w.calls[i]? = some c) {d : Draft} (drafted : c.operation = d.operation)
    {x : Except Error Answer} (ended : c.rest = .done x) :
    ∃ y, x = Answer.mergeRequest <$> y ∧ d.Course (w.transcript i) y ∧
      (∀ m, y = .ok m → d.Filed (w.transcript i) m) ∧
      (∀ e, y = .error e → ∀ a ∈ w.transcript i, a.scene.2 = a.scene.1) ∧
      (d.Missed (w.transcript i) → y = .error (.notFound .reference)) := by
  obtain ⟨policy, runs⟩ := h.transcribed call
  rw [ended, drafted] at runs
  obtain ⟨y, asked, rfl⟩ := Action.ended_map.1 runs
  have course : d.Course (w.transcript i) y := Draft.course_of_ended (h.faithful i) asked
  exact ⟨y, rfl, course, fun _ => course.filed, fun _ => course.unchanged, course.missed⟩

/-- A repository is removed while a merge request is being created for it, and registered again at
another path. -/
def replacement : List (Move Binary64) :=
  [.call (.registerRepository "one" "/one"), .serve 0 50,
    .call (.createMergeRequest "one" (some "ann") "Add it" "feature" "main" (some "")), .serve 1 4,
    .call (.removeRepository "one"), .serve 2 50,
    .call (.registerRepository "one" "/elsewhere"), .serve 3 50,
    .serve 1 50,
    .call (.createMergeRequest "one" (some "ann") "Add it" "feature" "main" (some "")),
    .serve 4 50]

/-- The world after this. -/
def replacementWorld : World Binary64 :=
  (fresh (.empty default)).replay replacement

/-- What both calls are to create. -/
def addition : Draft := ⟨"one", some "ann", "Add it", "feature", "main", some ""⟩

/-- A store in which there is only a repository, registered as the one of this id. -/
def registered (id : Int) (path : String) : Store :=
  ⟨⟨[⟨id, "one", path, 0⟩], id⟩, .empty, .empty, .empty, [], default⟩

/-- The first call is told that its repository is gone, and the second adds its row to the other
one. -/
theorem filed_where_found_of_replacement :
    replacementWorld.Attained none (fun _ => False) ∧
    addition.Missed (replacementWorld.transcript 1) ∧
    addition.Course (replacementWorld.transcript 1) (.error (.notFound .reference)) ∧
    (∀ a ∈ replacementWorld.transcript 1, a.scene.2 = a.scene.1) ∧
    ∃ m, addition.Filed (replacementWorld.transcript 4) m ∧ m.id = 1 ∧ m.repoId = 2 := by
  have reached : replacementWorld.Reachable none := replay_reachable replacement
  have attained : replacementWorld.Attained none fun _ => False := reached.attained
  have missed : addition.Missed (replacementWorld.transcript 1) :=
    @Draft.Missed.intro Binary64 addition "ann" ⟨1, "one", "/one", 0⟩ 0
      (.error (.engine (.violated .foreignKey))) (registered 1 "/one") (registered 1 "/one")
      (registered 1 "/one") (registered 1 "/one") (registered 2 "/elsewhere")
      (registered 2 "/elsewhere") ⟨rfl, rfl, rfl, by decide⟩
      ⟨⟨"Add it", "", rfl, rfl, by decide +kernel⟩, rfl⟩ (by decide) rfl rfl
  have first : replacementWorld.answered 1 =
      some (addition.operation, .error (.notFound .reference)) := rfl
  have second : replacementWorld.answered 4 = some (addition.operation,
      .ok (.mergeRequest ⟨1, 2, "Add it", "", "feature", "main", .opened, "ann", none, none, none,
        none, 0, 0⟩)) := rfl
  obtain ⟨c, call, drafted, ended⟩ := call_of_answered first
  obtain ⟨y, -, course, -, unchanged, told⟩ := filed_where_found attained call drafted ended
  obtain ⟨c', call', drafted', ended'⟩ := call_of_answered second
  obtain ⟨y', hy', -, filed, -⟩ := filed_where_found attained call' drafted' ended'
  obtain rfl := told missed
  cases y' with
  | error e => cases hy'
  | ok m =>
    cases hy'
    exact ⟨attained, missed, course, unchanged _ rfl, _, filed _ rfl, rfl, rfl⟩

/-- The same with a title that is a lone surrogate. -/
def loneReplacement : List (Move Binary64) :=
  [.call (.registerRepository "one" "/one"), .serve 0 50,
    .call (.createMergeRequest "one" (some "ann") Text.loneByte "feature" "main" (some "")),
    .serve 1 4, .call (.removeRepository "one"), .serve 2 50,
    .call (.registerRepository "one" "/elsewhere"), .serve 3 50, .serve 1 50]

/-- The world after this. -/
def loneWorld : World Binary64 :=
  (fresh .empty).replay loneReplacement

/-- What the call is to create. -/
def loneAddition : Draft := ⟨"one", some "ann", Text.loneByte, "feature", "main", some ""⟩

/-- A repository that is gone is not always told, though actor, branches and title have passed: the
title has no UTF-8 form, and it is bound before the reference is looked at. -/
theorem not_told_of_loneTitle :
    loneWorld.Reachable none ∧ loneAddition.Admits "ann" ∧
    cleanTitle loneAddition.title = .ok Text.loneByte ∧
    loneWorld.transcript 1 =
      [loneAddition.lookup (registered 1 "/one") (.ok ⟨1, "one", "/one", 0⟩),
        Draft.opening ⟨1, "one", "/one", 0⟩ (registered 1 "/one"),
        Draft.question (registered 1 "/one") "feature" (.ok true),
        Draft.question (registered 1 "/one") "main" (.ok true),
        loneAddition.insertion "ann" ⟨1, "one", "/one", 0⟩ (registered 2 "/elsewhere")
          (registered 2 "/elsewhere") (.error (.unwritable ⟨0, 1, 0xdcff⟩))] ∧
    loneWorld.answered 1 =
      some (loneAddition.operation, .error (.unwritable ⟨0, 1, 0xdcff⟩)) :=
  ⟨replay_reachable loneReplacement, ⟨rfl, rfl, rfl, by decide⟩, by decide +kernel, rfl, rfl⟩

end World

end Forge
