import Mathlib.Data.List.TakeWhile

/-!
# Where a class of characters ends

* `cut_iff` : a text is cut behind the characters of a class that it begins with;
* `append_inj_of_class` : two texts that are put together there can be told apart again.
-/

namespace SqlOutline.Text

variable {p : Char → Bool} {cs xs ys rest rest' : List Char}

theorem cut_iff : cs.takeWhile p = xs ∧ cs.dropWhile p = rest ↔
    cs = xs ++ rest ∧ (∀ c ∈ xs, p c = true) ∧ rest.head?.any p = false := by
  constructor
  · rintro ⟨rfl, rfl⟩
    refine ⟨List.takeWhile_append_dropWhile.symm, fun c => List.mem_takeWhile_imp, ?_⟩
    have hhead := List.head?_dropWhile_not p cs
    split at hhead
    · rename_i c hc
      rw [hc]
      exact hhead
    · rename_i hnone
      rw [hnone]
      rfl
  · rintro ⟨rfl, hxs, hrest⟩
    rw [List.takeWhile_append_of_pos hxs, List.dropWhile_append_of_pos hxs]
    cases rest with
    | nil => simp
    | cons c rest =>
      have hc : p c = false := hrest
      simp [hc]

theorem append_inj_of_class (hxs : ∀ c ∈ xs, p c = true) (hys : ∀ c ∈ ys, p c = true)
    (hrest : rest.head?.any p = false) (hrest' : rest'.head?.any p = false)
    (h : xs ++ rest = ys ++ rest') : xs = ys ∧ rest = rest' := by
  obtain ⟨htake, hdrop⟩ := cut_iff.mpr ⟨rfl, hxs, hrest⟩
  obtain ⟨htake', hdrop'⟩ := cut_iff.mpr ⟨h, hys, hrest'⟩
  exact ⟨htake.symm.trans htake', hdrop.symm.trans hdrop'⟩

end SqlOutline.Text
