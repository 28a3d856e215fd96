import Forge.Argument
import Forge.Proofs.Text.Writable

/-!
# Names of repositories

`Repository.cleanName` takes blanks and slashes off a text, goes to lower case, and takes off one
final `.git` and the slashes before that. It does not go on with what that has laid bare, so the
form in which a name is stored need not be its own clean form: it is if and only if it is `Tidy`.
No step brings in what has no UTF-8 form.
-/

namespace Forge

theorem toList_withoutSuffix_sublist (last s : String) :
    (withoutSuffix last s).toList.Sublist s.toList := by
  unfold withoutSuffix
  split
  · rw [String.toList_ofList]
    exact List.take_sublist ..
  · exact .refl _

theorem withoutSuffix_eq_self_iff {last s : String} (h : last ≠ "") :
    withoutSuffix last s = s ↔ Text.endsWith last s = false := by
  unfold withoutSuffix
  split
  · rename_i hends
    refine ⟨fun he => ?_, fun hn => (nomatch hn.symm.trans hends)⟩
    have hlast : last.length ≠ 0 := fun hzero => h (String.length_eq_zero_iff.1 hzero)
    have hle : last.length ≤ s.length := by
      rw [← String.length_toList, ← String.length_toList]
      exact (List.isSuffixOf_iff_suffix.1 hends).length_le
    have hlen := congrArg String.length he
    rw [String.length_ofList, List.length_take, String.length_toList] at hlen
    omega
  · rename_i hends
    exact ⟨fun _ => Bool.eq_false_iff.2 hends, fun _ => rfl⟩

namespace Repository

/-- The name has no blanks around it and does not end in `.git`. -/
structure Tidy (name : String) : Prop where
  strip : Text.strip name = name
  suffix : Text.endsWith ".git" name = false

/-- What a text must be to be a clean form. -/
structure Clean (name : String) : Prop where
  stripChar : Text.stripChar '/' name = name
  lower : ∀ c ∈ name.toList, Text.IsLower c
  ne_empty : name ≠ ""

theorem cleanName_eq_ok {name key : String} :
    cleanName name = .ok key ↔ key ≠ "" ∧ Text.stripChar '/' (withoutSuffix ".git"
      (Text.lower (Text.stripChar '/' (Text.strip name)))) = key := by
  simp only [cleanName]
  split
  · rename_i he
    exact ⟨nofun, fun ⟨hne, hk⟩ => absurd (hk.symm.trans he) hne⟩
  · rename_i hne
    rw [Except.ok.injEq]
    exact ⟨fun hk => ⟨hk ▸ hne, hk⟩, fun hk => hk.2⟩

theorem clean_of_cleanName {name key : String} (h : cleanName name = .ok key) : Clean key := by
  obtain ⟨hne, rfl⟩ := cleanName_eq_ok.1 h
  refine ⟨Text.stripChar_stripChar .., fun c hc => ?_, hne⟩
  rw [Text.toList_stripChar] at hc
  exact Text.isLower_of_mem_lower
    ((toList_withoutSuffix_sublist ..).subset ((Text.trim_sublist ..).subset hc))

/-- The clean form of a name that has a UTF-8 form has one. -/
theorem writable_cleanName {u : Text.Surrogates} {name key : String}
    (h : cleanName name = .ok key) (writable : u.Writable name) : u.Writable key := by
  obtain ⟨-, rfl⟩ := cleanName_eq_ok.1 h
  have lower := (writable.strip.stripChar '/').lower
  exact (lower.of_subset (toList_withoutSuffix_sublist ..).subset).stripChar '/'

/-- A clean form is its own clean form if and only if it is tidy. -/
theorem Clean.cleanName_eq_self_iff {name : String} (h : Clean name) :
    cleanName name = .ok name ↔ Tidy name := by
  rw [cleanName_eq_ok]
  constructor
  · rintro ⟨-, hself⟩
    have sub₁ : (Text.strip name).toList.Sublist name.toList := by
      rw [Text.toList_strip]
      exact Text.trim_sublist ..
    have sub₂ : (Text.stripChar '/' (Text.strip name)).toList.Sublist
        (Text.strip name).toList := by
      rw [Text.toList_stripChar]
      exact Text.trim_sublist ..
    rw [Text.lower_eq_self fun c hc => h.lower c (sub₁.subset (sub₂.subset hc))] at hself
    have sub₃ := toList_withoutSuffix_sublist ".git" (Text.stripChar '/' (Text.strip name))
    have sub₄ : name.toList.Sublist (withoutSuffix ".git"
        (Text.stripChar '/' (Text.strip name))).toList := by
      conv_lhs => rw [← hself, Text.toList_stripChar]
      exact Text.trim_sublist ..
    -- Each text is part of the one before and has the name as a part, so all of them are the name.
    have hstrip : Text.strip name = name :=
      String.toList_inj.1 (sub₁.antisymm (sub₄.trans (sub₃.trans sub₂)))
    have hsuffix : withoutSuffix ".git" (Text.stripChar '/' (Text.strip name)) = name :=
      String.toList_inj.1 ((sub₃.trans (sub₂.trans sub₁)).antisymm sub₄)
    rw [hstrip, h.stripChar] at hsuffix
    exact ⟨hstrip, (withoutSuffix_eq_self_iff (by decide)).1 hsuffix⟩
  · intro ht
    refine ⟨h.ne_empty, ?_⟩
    rw [ht.strip, h.stripChar, Text.lower_eq_self h.lower,
      (withoutSuffix_eq_self_iff (by decide)).2 ht.suffix, h.stripChar]

end Repository

end Forge
