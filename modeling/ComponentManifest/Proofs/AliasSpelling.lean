import ComponentManifest.Proofs.AliasResolution
import ComponentManifest.Proofs.NormalForm

/-!
# Spellings of an alias

The key of an alias is normalised alone, a literal is normalised as a whole. The two line up because
nothing in normalisation crosses a slash: marks do not move over a starter, and a slash merges with
no character before or after it, not even with marks at the beginning of the name.

1. `Unicode.nfkc_append_cons`: normalisation on both sides of a boundary.
2. `Alias.nfkc_literal`: the normal form of a literal with the key of an alias.
3. `Alias.resolves_every_spelling`: an alias in one spelling resolves literals in any other.
-/

namespace ComponentManifest

open Text (ofString)

/-! ## Boundaries -/

namespace Unicode

/-- The character is a starter, is its own decomposition and merges with nothing. -/
structure Boundary (x : Char) : Prop where
  starter : combiningClass x = 0
  whole : decompose x = [x]
  first : ∀ c, compose? x c = none
  second : ∀ c, compose? c x = none

theorem boundary_slash : Boundary '/' where
  starter := by decide
  whole := by decide
  first := compose?_eq_none (by decide)
  second c := by
    rw [Option.eq_none_iff_forall_ne_some]
    exact fun d h => absurd (range_of_compose? h).2.1 (by decide)

variable {x : Char} {a b : Text}

theorem Boundary.isStarter (hx : Boundary x) : isStarter x = true := by
  simp [Unicode.isStarter, hx.starter]

/-- A starter moves behind no mark. -/
theorem insertMark_starter (hx : combiningClass x = 0) (t : Text) : insertMark x t = x :: t := by
  cases t with
  | nil => rfl
  | cons d ds =>
    unfold insertMark
    exact if_neg fun h => by omega

/-- No mark moves behind a starter. -/
theorem insertMark_append_cons (hx : combiningClass x = 0) (c : Char) :
    insertMark c (a ++ x :: b) = insertMark c a ++ x :: b := by
  induction a with
  | nil =>
    show insertMark c (x :: b) = c :: x :: b
    unfold insertMark
    exact if_neg fun h => by omega
  | cons d ds ih =>
    rw [List.cons_append, insertMark, insertMark, ih]
    split <;> rfl

theorem reorder_append_cons (hx : combiningClass x = 0) :
    reorder (a ++ x :: b) = reorder a ++ x :: reorder b := by
  induction a with
  | nil => exact insertMark_starter hx (reorder b)
  | cons c cs ih =>
    rw [List.cons_append, reorder_cons, reorder_cons, ih, insertMark_append_cons hx]

theorem composeFrom_append_cons (hx : Boundary x) (s : Char) (marks : Text) :
    composeFrom s marks (a ++ x :: b) = composeFrom s marks a ++ composeFrom x [] b := by
  induction a generalizing s marks with
  | nil => simp only [List.nil_append, composeFrom, hx.second s, ite_self, hx.isStarter, if_true]
  | cons c cs ih =>
    rw [List.cons_append, composeFrom, composeFrom]
    split
    · exact ih _ marks
    · split
      · rw [ih, List.append_assoc]
      · exact ih s (c :: marks)

/-- After a boundary composition starts afresh: marks that follow it stay as they are. -/
theorem composeFrom_boundary (hx : Boundary x) (marks : Text) :
    composeFrom x marks b = x :: (marks.reverse ++ compose b) := by
  induction b generalizing marks with
  | nil => simp [composeFrom, compose]
  | cons c cs ih =>
    simp only [composeFrom, hx.first c, ite_self, compose]
    split
    · rfl
    · rw [ih, List.reverse_cons, List.append_assoc]
      rfl

theorem compose_append_cons (hx : Boundary x) :
    compose (a ++ x :: b) = compose a ++ x :: compose b := by
  have hafter : composeFrom x [] b = x :: compose b := composeFrom_boundary hx []
  induction a with
  | nil => simp only [List.nil_append, compose, hx.isStarter, if_true, hafter]
  | cons c cs ih =>
    rw [List.cons_append, compose, compose]
    split
    · rw [composeFrom_append_cons hx, hafter]
    · rw [ih, List.cons_append]

theorem nfkc_append_cons (hx : Boundary x) (a b : Text) :
    nfkc (a ++ x :: b) = nfkc a ++ x :: nfkc b := by
  unfold nfkc
  rw [List.flatMap_append, List.flatMap_cons, hx.whole, List.singleton_append,
    reorder_append_cons hx.starter, compose_append_cons hx]

end Unicode

/-! ## Aliases -/

namespace Alias

open Unicode (nfkc)

/-- In the normal form of a literal the key of the alias, the slash and the name follow one
another. -/
theorem nfkc_literal (key template : Text) (params headers : List (Text × Text)) (name : Text) :
    nfkc (key ++ '/' :: name) = (make key template params headers).key ++ '/' :: nfkc name :=
  Unicode.nfkc_append_cons Unicode.boundary_slash key name

/-- The alias catches the normal form of every spelling of its key and a name, and cutting off the
key leaves the normal form of the name. -/
theorem resolves_every_spelling (key template : Text) (params headers : List (Text × Text))
    (name : Text) (hname : name ≠ []) :
    let a := make key template params headers
    let literal := nfkc (key ++ '/' :: name)
    a.matchesLiteral literal = true ∧ a.rest literal = nfkc name ∧ nfkc name ≠ [] ∧
      literal.take (a.key.length + 1) = nfkc key ++ ['/'] ∧
      ∀ key' name' t, nfkc key' = nfkc key → nfkc name' = nfkc name →
        nfkc t = nfkc (key' ++ '/' :: name') →
        AliasTable.resolve [a] (nfkc t) = (a.url (nfkc name)).map some := by
  intro a literal
  have hliteral : literal = a.key ++ '/' :: nfkc name :=
    nfkc_literal key template params headers name
  have hne : nfkc name ≠ [] := fun h => hname (Unicode.nfkc_eq_nil.1 h)
  have hcatches : a.Catches literal := by
    rw [hliteral]
    exact catches_append.2 (Or.inr (Or.inr ⟨nfkc name, rfl⟩))
  have hrest : a.rest literal = nfkc name := by rw [hliteral, rest_slash]
  refine ⟨matchesLiteral_iff.2 hcatches, hrest, hne, ?_, ?_⟩
  · rw [hliteral, List.take_length_add_append]
    rfl
  · intro key' name' t hkey' hname' ht
    have hsame : nfkc t = literal := by
      rw [ht, hliteral, Unicode.nfkc_append_cons Unicode.boundary_slash, hkey', hname']
      rfl
    have hdecides : AliasTable.resolve ([] ++ a :: []) literal = _ :=
      AliasTable.resolve_append_cons (fun b hb => absurd hb List.not_mem_nil) hcatches
    rw [List.nil_append, hrest, if_neg hne] at hdecides
    rw [hsame, hdecides]

/-- The name begins with two marks, out of order, and the key is given with a full-width at-sign and
a mark at its end. -/
theorem resolves_every_spelling_leading_marks :
    let key := ofString "\uFF20ac\u0327"
    let name := ofString "\u0301\u0327e\u0301"
    let a := make key (ofString "https://x.test/\x7bname\x7d") [] []
    let t := ofString "@a\u00E7\uFF0F\u0327\u0301\u00E9"
    name ≠ [] ∧ nfkc key = ofString "@a\u00E7" ∧ nfkc name = ofString "\u0327\u0301\u00E9" ∧
      nfkc t = nfkc (key ++ '/' :: name) ∧
      AliasTable.resolve [a] (nfkc t) =
        .ok (some (ofString "https://x.test/\u0327\u0301\u00E9")) := by
  intro key name a t
  have hname : name ≠ [] := by decide
  have ht : nfkc t = nfkc (key ++ '/' :: name) := by decide +kernel
  have hn : nfkc name = ofString "\u0327\u0301\u00E9" := by decide +kernel
  obtain ⟨-, -, -, -, hresolves⟩ :=
    resolves_every_spelling key (ofString "https://x.test/\x7bname\x7d") [] [] name hname
  refine ⟨hname, by decide +kernel, hn, ht, ?_⟩
  rw [hresolves key name t rfl rfl ht, hn]
  decide +kernel

end Alias

end ComponentManifest
