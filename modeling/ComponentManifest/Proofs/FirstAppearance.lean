import Mathlib.Data.List.Induction

/-!
# Order of first appearance

`List.eraseDups` keeps the first of equal elements, so the distinct elements of a list come in the
order in which they appear. A list is read from its end here: one more element is put last if it is
new, and changes nothing otherwise.
-/

namespace ComponentManifest

variable {α : Type} [BEq α] [LawfulBEq α]

theorem eraseDups_concat (xs : List α) (x : α) :
    (xs ++ [x]).eraseDups = if x ∈ xs then xs.eraseDups else xs.eraseDups ++ [x] := by
  have hnew : [x].removeAll xs = if x ∈ xs then [] else [x] := by
    simp [List.removeAll, List.filter_cons]
  rw [List.eraseDups_append, hnew]
  split
  · rw [List.eraseDups_nil, List.append_nil]
  · rw [List.eraseDups_cons, List.filter_nil, List.eraseDups_nil]

theorem nodup_eraseDups (xs : List α) : xs.eraseDups.Nodup := by
  induction xs using List.reverseRecOn with
  | nil => exact List.nodup_nil
  | append_singleton xs x ih =>
    rw [eraseDups_concat]
    split
    · exact ih
    · next hx =>
      refine List.nodup_append.2 ⟨ih, List.pairwise_singleton _ x, fun y hy z hz he => hx ?_⟩
      rw [← List.mem_singleton.1 hz, ← he]
      exact List.mem_eraseDups.1 hy

end ComponentManifest
