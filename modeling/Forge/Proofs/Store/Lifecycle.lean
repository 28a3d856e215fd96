import Forge.Proofs.Store.Effect

/-!
# Transitions as effects

A transition is one guarded update of a ticket. It returns the ticket as it stands afterwards, and
its effect is one change of the row that it found in its source state.
-/

namespace Forge

open Transaction Ticket

theorem trimmed_of_cleanActor {given : Option String} {actor : String}
    (h : cleanActor given = .ok actor) : Text.Trimmed actor := by
  simp only [cleanActor] at h
  split at h
  · cases h
  · cases h
    exact Text.trimmed_strip ‹_›

namespace Lifecycle

variable {s s' : Store} {now repoId id : Int}

section Follow

variable {ρ ε : Type} [Ticket ρ ε] {t : Transition} {actor : Option String}

/-- Whether a row is the ticket of this repository and id, in the state that `t` starts from. -/
abbrev isSource (t : Transition) (repoId id : Int) (r : ρ) : Bool :=
  isAt repoId id r && state r == t.source

theorem returns_follow {a : ε} (h : (follow ρ t now repoId id actor).Returns s a s') :
    (t.stamps.isEmpty || hasActor actor) = true ∧
      (table s).any (isSource (ρ := ρ) t repoId id) = true ∧
      s' = setTable ((table s).modify (isSource (ρ := ρ) t repoId id)
        (setAll (t.assignments actor now))) s ∧
      (get ρ repoId id).Returns s' a s' := by
  simp only [follow, returns_bind, returns_ensure] at h
  obtain ⟨_, _, ⟨ha, rfl⟩, n, s₁, hu, h⟩ := h
  obtain ⟨rfl, rfl⟩ := returns_guardedUpdate hu
  split at h
  · simp only [returns_bind] at h
    obtain ⟨_, _, -, h⟩ := h
    exact absurd h returns_fail
  · rename_i hn
    have hs := (returns_get.1 h).2.2.2.1
    subst hs
    exact ⟨ha, any_of_count_ne_zero hn, rfl, h⟩

/-- A transition that an actor may ask for fails because the engine does, because a parameter is
refused, because the ticket is not there or in another state, or because the ticket cannot be read
back. -/
theorem fails_follow {e : Error} (ha : (t.stamps.isEmpty || hasActor actor) = true)
    (h : (follow ρ t now repoId id actor : Transaction ε).Fails s e) :
    ((∃ report, e = .engine report) ∨
      ∃ c ∈ guardedParameters repoId id t.source (t.assignments actor now),
        c.refusal? s.surrogates = some e) ∨ (get ρ repoId id : Transaction ε).Fails s e ∨
      (∃ current, e = .invalidState t.name (kind ρ) id current t.source) ∨
      (get ρ repoId id : Transaction ε).Fails (setTable ((table s).modify
        (isSource (ρ := ρ) t repoId id) (setAll (t.assignments actor now))) s) e := by
  simp only [follow, fails_bind, fails_ensure, returns_ensure] at h
  rcases h with ⟨hf, -⟩ | ⟨_, _, ⟨-, rfl⟩, h | ⟨n, s₁, hu, h⟩⟩
  · rw [ha] at hf
    cases hf
  · exact .inl (fails_guardedUpdate h)
  · obtain ⟨rfl, rfl⟩ := returns_guardedUpdate hu
    split at h
    · rename_i hn
      rw [fails_bind] at h
      rcases h with h | ⟨current, _, -, h⟩
      · exact .inr (.inr (.inr h))
      · exact .inr (.inr (.inl ⟨_, fails_fail.1 h⟩))
    · exact .inr (.inr (.inr h))

end Follow

/-! ## The transitions of the two kinds of tickets -/

theorem effect_of_closeIssue {actor : String} {a : Issue} (ha : Text.Trimmed actor)
    (h : (apply StoredIssue now repoId id "close" (some actor)).Returns s a s') :
    TicketEffect now repoId s s' := by
  obtain ⟨-, ht, rfl, -⟩ := returns_follow h
  exact .issueChanged (c := .close actor) ha ht

theorem effect_of_reopenIssue {a : Issue}
    (h : (apply StoredIssue now repoId id "reopen" none).Returns s a s') :
    TicketEffect now repoId s s' := by
  obtain ⟨-, ht, rfl, -⟩ := returns_follow h
  exact .issueChanged (c := .reopen) trivial ht

theorem effect_of_closeMergeRequest {actor : String} {a : MergeRequest}
    (ha : Text.Trimmed actor)
    (h : (apply StoredMergeRequest now repoId id "close" (some actor)).Returns s a s') :
    TicketEffect now repoId s s' := by
  obtain ⟨-, ht, rfl, -⟩ := returns_follow h
  exact .requestChanged (c := .close actor) ha ht

theorem effect_of_reopenMergeRequest {a : MergeRequest}
    (h : (apply StoredMergeRequest now repoId id "reopen" none).Returns s a s') :
    TicketEffect now repoId s s' := by
  obtain ⟨-, ht, rfl, -⟩ := returns_follow h
  exact .requestChanged (c := .reopen) trivial ht

/-! ## Marking a merge request merged -/

/-- The table of merge requests with the open one of this repository and id marked merged. -/
def markMerged (now repoId id : Int) (actor : String) (s : Store) : Store :=
  { s with
    mergeRequests := s.mergeRequests.modify (StoredMergeRequest.isOpenAt repoId id)
      (StoredMergeRequest.merged now actor) }

/-- A merge request is marked merged only while it is open, and is then returned as it stands in
the store that is left. -/
theorem returns_merge {actor : String} {a : MergeRequest}
    (h : (apply StoredMergeRequest now repoId id "merge" (some actor)).Returns s a s') :
    s.mergeRequests.any (StoredMergeRequest.isOpenAt repoId id) = true ∧
      s' = markMerged now repoId id actor s ∧
      ∃ r, s'.mergeRequests.rows.find? (isAt repoId id) = some r ∧ r.read? = some a := by
  obtain ⟨-, ht, rfl, hg⟩ := returns_follow h
  obtain ⟨-, -, -, -, r, hr, ha⟩ := returns_get.1 hg
  exact ⟨ht, rfl, r, hr, ha⟩

theorem effect_of_merge {actor : String} {a : MergeRequest}
    (h : (apply StoredMergeRequest now repoId id "merge" (some actor)).Returns s a s') :
    TicketEffect now repoId s s' := by
  obtain ⟨ht, rfl, -⟩ := returns_merge h
  exact .requestMerged ht

/-- Of the parameters of the statement that marks a merge request merged, only who merges it can be
refused where all numbers fit. -/
theorem refused_merge {u : Text.Surrogates} {actor : String} {c : Cell} {e : Error}
    (hn : fits now = true) (h₁ : fits repoId = true) (h₂ : fits id = true)
    (hc : c ∈ guardedParameters repoId id "open"
      (Transition.assignments ⟨"merge", "open", "merged", ["merged"], []⟩ (some actor) now))
    (refused : c.refusal? u = some e) :
    ∃ fault, u.fault? actor = some fault ∧ e = .unwritable fault := by
  have taken {d : Cell} (bindable : d.Bindable u) : c ≠ d := by
    rintro rfl
    cases bindable.symm.trans refused
  have plain (text : String) (low : text.toList.all (·.toNat < 0xf0000) = true) :
      (Cell.text text).Bindable u := Cell.bindable_text.2 (Text.Surrogates.writable_of_lt low)
  have hc : c ∈ [.text "merged", .text actor, .int now, .int now, .int repoId, .int id,
    .text "open"] := hc
  simp only [List.mem_cons, List.not_mem_nil, or_false, taken (Cell.bindable_int.2 hn),
    taken (Cell.bindable_int.2 h₁), taken (Cell.bindable_int.2 h₂),
    taken (plain "merged" (by decide)), taken (plain "open" (by decide)),
    false_or] at hc
  subst hc
  simpa [Cell.refusal?, eq_comm] using refused

/-- Where all merge requests can be read and all numbers fit, marking one merged fails only because
the engine does, because the name of who merges has no UTF-8 form, or because the merge request is
not there or not open. -/
theorem fails_merge {actor : String} {e : Error}
    (hr : ∀ r ∈ s.mergeRequests.rows, r.read? ≠ none) (ha : actor ≠ "")
    (hn : fits now = true) (h₁ : fits repoId = true) (h₂ : fits id = true)
    (h : (apply StoredMergeRequest now repoId id "merge" (some actor)).Fails s e) :
    (∃ report, e = .engine report) ∨
      (∃ fault, s.surrogates.fault? actor = some fault ∧ e = .unwritable fault) ∨
      (∃ what, e = .notFound what) ∨
      ∃ verb kind id current expected, e = .invalidState verb kind id current expected := by
  rcases fails_follow (by simpa [hasActor] using ha) h with
    (h | ⟨c, hc, refused⟩) | h | ⟨current, h⟩ | h
  · exact .inl h
  · exact .inr (.inl (refused_merge hn h₁ h₂ hc refused))
  · exact (fails_get hr h₁ h₂ h).imp_right fun missing => .inr (.inl missing)
  · exact .inr (.inr (.inr ⟨_, _, _, _, _, h⟩))
  · refine (fails_get ?_ h₁ h₂ h).imp_right fun missing => .inr (.inl missing)
    intro r hm
    obtain ⟨r₀, hr₀, rfl⟩ := List.mem_map.1 hm
    split
    · exact nofun
    · exact hr r₀ hr₀

end Lifecycle

end Forge
