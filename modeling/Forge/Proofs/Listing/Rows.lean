import Forge.Proofs.Listing.Order
import Forge.Proofs.Store.Outcome
import Mathlib.Data.Option.Basic

/-!
# Rows that are read

The statements of the store sort rows and then read them. `Ticket.Reads` relates the rows to the
entities that are read from them, so that what is known of the one list carries over to the other.
-/

namespace Forge.Ticket

open Transaction

variable {ρ ε : Type} [Ticket ρ ε] {s : Store} {rows : List ρ} {es es' : List ε}

/-- The rows, in their order, are read as these entities. -/
def Reads (rows : List ρ) (es : List ε) : Prop :=
  rows.map read? = es.map some

/-- Rows that can all be read are read, one by one and in their order. -/
theorem readRows_returns (h : ∀ row ∈ rows, read? row ≠ none) :
    ∃ es, (readRows rows : Transaction (List ε)).Returns s es s ∧ Reads rows es := by
  induction rows with
  | nil =>
    refine ⟨[], ?_, rfl⟩
    rw [readRows, returns_pure]
    exact ⟨rfl, rfl⟩
  | cons row rows ih =>
    obtain ⟨e, he⟩ := Option.ne_none_iff_exists'.1 (h row List.mem_cons_self)
    obtain ⟨es, hes, reads⟩ := ih fun row hrow => h row (List.mem_cons_of_mem _ hrow)
    refine ⟨e :: es, ?_, ?_⟩
    · simp only [readRows, returns_bind, returns_readRow, returns_pure]
      exact ⟨e, s, ⟨he, rfl⟩, es, s, hes, rfl, rfl⟩
    · unfold Reads at reads ⊢
      rw [List.map_cons, List.map_cons, he, reads]

namespace Reads

/-- There is one reading of rows at most. -/
theorem unique (h : Reads rows es) (h' : Reads rows es') : es' = es := by
  unfold Reads at h h'
  rw [h] at h'
  exact (List.map_injective_iff.2 (Option.some_injective ε) h').symm

theorem map_eq {β : Type} {f : ρ → β} {g : ε → β} (h : Reads rows es)
    (same : ∀ row e, read? row = some e → f row = g e) : es.map g = rows.map f := by
  unfold Reads at h
  induction rows generalizing es with
  | nil =>
    cases es with
    | nil => rfl
    | cons e es => simp at h
  | cons row rows ih =>
    cases es with
    | nil => simp at h
    | cons e es =>
      simp only [List.map_cons, List.cons.injEq] at h
      rw [List.map_cons, List.map_cons, ih h.2, same row e h.1]

/-- To choose among rows is to choose among what is read from them. -/
theorem filter {p : ε → Bool} {q : ρ → Bool} (h : Reads rows es)
    (same : ∀ row e, read? row = some e → q row = p e) :
    Reads (rows.filter q) (es.filter p) := by
  unfold Reads at h ⊢
  induction rows generalizing es with
  | nil =>
    cases es with
    | nil => rfl
    | cons e es => simp at h
  | cons row rows ih =>
    cases es with
    | nil => simp at h
    | cons e es =>
      simp only [List.map_cons, List.cons.injEq] at h
      rw [List.filter_cons, List.filter_cons, same row e h.1]
      split
      · rw [List.map_cons, List.map_cons, ih h.2, h.1]
      · exact ih h.2

theorem mem_iff {e : ε} (h : Reads rows es) : e ∈ es ↔ ∃ row ∈ rows, read? row = some e := by
  unfold Reads at h
  rw [← List.mem_map_of_injective (Option.some_injective ε), ← h, List.mem_map]

/-- What is read from rows in their order of listing is in the order of the command lines. -/
theorem newest {time ident : ε → Int} (h : Reads (newestFirst rows) es)
    (distinct : (rows.map Ticket.id).Nodup)
    (same : ∀ (row : ρ) e, read? row = some e → time e = createdAt row ∧ ident e = Ticket.id row) :
    es.Pairwise (Cli.Precedes time ident) := by
  have keys := h.map_eq (f := fun row : ρ => (createdAt row, Ticket.id row))
    (g := fun e => (time e, ident e)) fun row e he => by rw [(same row e he).1, (same row e he).2]
  have onRows : ((newestFirst rows).map fun row => (createdAt row, Ticket.id row)).Pairwise
      (Cli.Precedes Prod.fst Prod.snd) :=
    List.pairwise_map.2 (Cli.latestFirst_pairwise distinct)
  rw [← keys, List.pairwise_map] at onRows
  exact onRows

end Reads

end Forge.Ticket
