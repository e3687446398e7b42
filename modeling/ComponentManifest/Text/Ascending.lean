import ComponentManifest.Text.Basic

/-!
# Ascending lists of texts

A set of texts is written down as the list of its members in strictly ascending order. The main
statements say that `sortDistinct` yields such a list and that it has the members it was given.
-/

namespace ComponentManifest

/-- Each text is smaller than all that follow it, so none occurs twice. -/
def Ascending (ts : List Text) : Prop := ts.Pairwise (· < ·)

/-- Puts a text in its place; a text that is there already is not put in again. -/
def insertAscending (x : Text) : List Text → List Text
  | [] => [x]
  | y :: ys =>
    if x < y then x :: y :: ys
    else if x = y then y :: ys
    else y :: insertAscending x ys

/-- The distinct texts of a list in ascending order. -/
def sortDistinct (ts : List Text) : List Text := ts.foldr insertAscending []

@[simp] theorem mem_insertAscending {x z : Text} {ts : List Text} :
    z ∈ insertAscending x ts ↔ z = x ∨ z ∈ ts := by
  induction ts with
  | nil => simp [insertAscending]
  | cons y ys ih =>
    unfold insertAscending
    split
    · simp
    · split
      · next h => subst h; simp
      · simp only [List.mem_cons, ih]
        grind

@[simp] theorem mem_sortDistinct {z : Text} {ts : List Text} : z ∈ sortDistinct ts ↔ z ∈ ts := by
  induction ts with
  | nil => simp [sortDistinct]
  | cons y ys ih =>
    have h : sortDistinct (y :: ys) = insertAscending y (sortDistinct ys) := rfl
    rw [h, mem_insertAscending, ih, List.mem_cons]

/-- Of two different texts one is smaller. -/
theorem lt_of_not_lt_of_ne {x y : Text} (h : ¬x < y) (hne : x ≠ y) : y < x :=
  Decidable.byContradiction fun hyx =>
    hne (List.le_antisymm (List.not_lt.1 hyx) (List.not_lt.1 h))

theorem Ascending.nodup {ts : List Text} (h : Ascending ts) : ts.Nodup :=
  h.imp fun {x y} hxy (he : x = y) => List.lt_irrefl x (he ▸ hxy)

theorem Ascending.insertAscending {x : Text} {ts : List Text} (h : Ascending ts) :
    Ascending (insertAscending x ts) := by
  induction ts with
  | nil => simp [ComponentManifest.insertAscending, Ascending]
  | cons y ys ih =>
    have hy := List.pairwise_cons.1 h
    unfold ComponentManifest.insertAscending
    split
    · next hlt =>
      refine List.pairwise_cons.2 ⟨fun z hz => ?_, h⟩
      rcases List.mem_cons.1 hz with rfl | hz
      · exact hlt
      · exact List.lt_trans hlt (hy.1 z hz)
    · split
      · exact h
      · next hlt hne =>
        refine List.pairwise_cons.2 ⟨fun z hz => ?_, ih hy.2⟩
        rcases mem_insertAscending.1 hz with rfl | hz
        · exact lt_of_not_lt_of_ne hlt hne
        · exact hy.1 z hz

theorem ascending_sortDistinct (ts : List Text) : Ascending (sortDistinct ts) := by
  induction ts with
  | nil => exact List.Pairwise.nil
  | cons y ys ih => exact ih.insertAscending

end ComponentManifest
