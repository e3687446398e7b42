import ComponentManifest.Unicode.Normalization

/-!
# How a normal form begins

Decomposition, reordering and composition can each change the first character of a text. A
character that takes no part in any of them begins the normal form exactly when the text begins
with one of its compatibility forms.

1. The tables: no decomposition is empty, and which of them begin with a dot.
2. Inert characters, and how reordering and composition treat the beginning of a text.
3. `head?_nfkc`: which texts have a normal form that begins with a dot.
-/

namespace ComponentManifest.Unicode

/-! ## Decomposition -/

/-- The dot and the characters whose decomposition begins with one. -/
def dotForms : List Char :=
  ['.', '\u2024', '\u2025', '\u2026', '\uFE19', '\uFE30', '\uFE52', '\uFF0E']

/-- No row is empty, and a row that begins with a dot belongs to a form of the dot. -/
theorem blockRows_spec (b : Nat) :
    ∀ r ∈ blockRows b, r.2 ≠ [] ∧
      (r.2.head? = some '.'.toNat → r.1 ∈ dotForms.map Char.toNat) := by
  unfold blockRows
  split <;> decide +kernel

theorem decomposition_ne_nil (n : Nat) : decomposition n ≠ [] := by
  unfold decomposition
  split
  · exact List.cons_ne_nil n []
  split
  · unfold decomposeHangul
    dsimp only
    split <;> exact List.cons_ne_nil _ _
  · rcases h : (blockRows (n / 256)).lookup n with _ | d
    · exact List.cons_ne_nil n []
    · obtain ⟨xs, ys, hr, -⟩ := List.lookup_eq_some_iff.1 h
      exact (blockRows_spec (n / 256) (n, d) (by rw [hr]; simp)).1

theorem decompose_ne_nil (c : Char) : decompose c ≠ [] := by
  unfold decompose
  simpa using decomposition_ne_nil c.toNat

theorem mem_of_head?_decomposition {n : Nat} (h : (decomposition n).head? = some '.'.toNat) :
    n ∈ dotForms.map Char.toNat := by
  unfold decomposition at h
  split at h
  · rw [Option.some.inj h]
    decide
  split at h
  · unfold decomposeHangul at h
    dsimp only at h
    have hdot : '.'.toNat = 0x2E := rfl
    split at h
    · have hn := Option.some.inj h
      omega
    · have hn := Option.some.inj h
      omega
  · rcases hl : (blockRows (n / 256)).lookup n with _ | d
    · rw [hl] at h
      rw [Option.some.inj h]
      decide
    · rw [hl] at h
      obtain ⟨xs, ys, hr, -⟩ := List.lookup_eq_some_iff.1 hl
      exact (blockRows_spec (n / 256) (n, d) (by rw [hr]; simp)).2 h

/-- A number that is no character number gives the null character. -/
theorem eq_toNat_of_ofNat_eq {n : Nat} {x : Char} (h : Char.ofNat n = x) (hx : x ≠ '\x00') :
    n = x.toNat := by
  by_cases hv : n.isValidChar
  · rw [← h, Char.ofNat, dif_pos hv]
    rfl
  · rw [Char.ofNat, dif_neg hv] at h
    exact absurd h.symm hx

theorem all_dotForms : dotForms.all (fun c => (decompose c).head? == some '.') = true := by
  decide +kernel

theorem head?_decompose {c : Char} : (decompose c).head? = some '.' ↔ c ∈ dotForms := by
  constructor
  · intro h
    unfold decompose at h
    rw [List.head?_map] at h
    obtain ⟨n, hn, hc⟩ := Option.map_eq_some_iff.1 h
    rw [eq_toNat_of_ofNat_eq hc (by decide)] at hn
    obtain ⟨d, hd, he⟩ := List.mem_map.1 (mem_of_head?_decomposition hn)
    rwa [← Char.toNat_inj.1 he]
  · exact fun h => eq_of_beq (List.all_eq_true.1 all_dotForms c h)

/-! ## Reordering and composition -/

/-- The character is a starter, and composition neither uses it as one nor yields it. -/
structure Inert (x : Char) : Prop where
  starter : combiningClass x = 0
  alone : ∀ c, compose? x c = none
  fresh : ∀ a c, compose? a c ≠ some x

theorem compositions_spec : ∀ r ∈ compositions, 0x300 ≤ r.1 ∧
    ∀ p ∈ r.2, 0x3C ≤ p.1 ∧ 0xC0 ≤ p.2 ∧ p.2.isValidChar := by decide +kernel

theorem composition_spec {a b n : Nat} (h : composition a b = some n) :
    0x3C ≤ a ∧ 0x300 ≤ b ∧ 0xC0 ≤ n ∧ n.isValidChar := by
  unfold composition at h
  rcases hh : composeHangul a b with _ | s
  · rw [hh] at h
    obtain ⟨row, hrow, hp⟩ := Option.bind_eq_some_iff.1 h
    obtain ⟨xs, ys, hr, -⟩ := List.lookup_eq_some_iff.1 hrow
    obtain ⟨us, vs, hv, -⟩ := List.lookup_eq_some_iff.1 hp
    obtain ⟨hb, hpairs⟩ := compositions_spec (b, row) (by rw [hr]; simp)
    obtain ⟨ha, hn, hvalid⟩ := hpairs (a, n) (by rw [hv]; simp)
    exact ⟨ha, hb, hn, hvalid⟩
  · -- Syllables lie between their parts and the surrogates.
    rw [hh] at h
    obtain rfl := Option.some.inj h
    unfold composeHangul at hh
    split at hh
    · have hs := Option.some.inj hh
      exact ⟨by omega, by omega, by omega, Or.inl (by omega)⟩
    split at hh
    · have hs := Option.some.inj hh
      exact ⟨by omega, by omega, by omega, Or.inl (by omega)⟩
    · cases hh

/-- The first of two characters that merge is at least U+003C, the second one U+0300 and the
composite U+00C0. -/
theorem range_of_compose? {a b c : Char} (h : compose? a b = some c) :
    0x3C ≤ a.toNat ∧ 0x300 ≤ b.toNat ∧ 0xC0 ≤ c.toNat := by
  unfold compose? at h
  obtain ⟨n, hn, rfl⟩ := Option.map_eq_some_iff.1 h
  obtain ⟨ha, hb, hc, hvalid⟩ := composition_spec hn
  refine ⟨ha, hb, ?_⟩
  rwa [Char.ofNat, dif_pos hvalid]

theorem compose?_eq_none {a : Char} (h : a.toNat < 0x3C) (b : Char) : compose? a b = none := by
  rw [Option.eq_none_iff_forall_ne_some]
  exact fun c hc => absurd (range_of_compose? hc).1 (Nat.not_le.2 h)

theorem inert_dot : Inert '.' where
  starter := by decide
  alone := compose?_eq_none (by decide)
  fresh a c h := absurd (range_of_compose? h).2.2 (by decide)

theorem insertMark_ne_nil (c : Char) (t : Text) : insertMark c t ≠ [] := by
  cases t with
  | nil => exact List.cons_ne_nil c []
  | cons d ds =>
    unfold insertMark
    split <;> exact List.cons_ne_nil _ _

/-- Only a mark moves in front of a character, and an inert character is none. -/
theorem head?_insertMark {x c : Char} (hx : Inert x) {t : Text} :
    (insertMark c t).head? = some x ↔ c = x := by
  cases t with
  | nil => simp [insertMark]
  | cons d ds =>
    unfold insertMark
    split
    · next h =>
      have hs := hx.starter
      constructor
      · intro hd
        rw [Option.some.inj hd] at h
        omega
      · rintro rfl
        omega
    · simp

theorem reorder_cons (c : Char) (t : Text) : reorder (c :: t) = insertMark c (reorder t) := rfl

theorem composeFrom_ne_nil (s : Char) (marks t : Text) : composeFrom s marks t ≠ [] := by
  induction t generalizing s marks with
  | nil => exact List.cons_ne_nil s _
  | cons c cs ih =>
    unfold composeFrom
    split
    · exact ih _ _
    · split
      · exact List.cons_ne_nil s _
      · exact ih _ _

theorem head?_composeFrom {x s : Char} (hx : Inert x) {marks t : Text} :
    (composeFrom s marks t).head? = some x ↔ s = x := by
  induction t generalizing s marks with
  | nil => simp [composeFrom]
  | cons c cs ih =>
    unfold composeFrom
    split
    · next m hm =>
      have hm' : compose? s c = some m := by
        split at hm
        · exact hm
        · cases hm
      rw [ih]
      constructor
      · rintro rfl
        exact absurd hm' (hx.fresh s c)
      · rintro rfl
        rw [hx.alone c] at hm'
        cases hm'
    · split
      · simp
      · exact ih

theorem compose_ne_nil {t : Text} (h : t ≠ []) : compose t ≠ [] := by
  obtain ⟨c, cs, rfl⟩ := List.exists_cons_of_ne_nil h
  unfold compose
  split
  · exact composeFrom_ne_nil c [] cs
  · exact List.cons_ne_nil c _

theorem head?_compose {x c : Char} (hx : Inert x) {cs : Text} :
    (compose (c :: cs)).head? = some x ↔ c = x := by
  unfold compose
  split
  · exact head?_composeFrom hx
  · simp

/-! ## The normal form -/

theorem nfkc_nil : nfkc [] = [] := rfl

/-- The normal form of a text is that of its decomposition, which begins with a character. -/
theorem exists_cons_of_flatMap_decompose (c : Char) (cs : Text) :
    ∃ d ds, (c :: cs).flatMap decompose = d :: ds ∧ (decompose c).head? = some d := by
  obtain ⟨d, ds, hd⟩ := List.exists_cons_of_ne_nil (decompose_ne_nil c)
  exact ⟨d, ds ++ cs.flatMap decompose, by rw [List.flatMap_cons, hd, List.cons_append],
    by rw [hd]; rfl⟩

theorem nfkc_eq_nil {t : Text} : nfkc t = [] ↔ t = [] := by
  constructor
  · intro h
    rcases t with _ | ⟨c, cs⟩
    · rfl
    · obtain ⟨d, ds, hd, -⟩ := exists_cons_of_flatMap_decompose c cs
      unfold nfkc at h
      rw [hd, reorder_cons] at h
      exact absurd h (compose_ne_nil (insertMark_ne_nil d _))
  · rintro rfl
    exact nfkc_nil

theorem head?_nfkc {t : Text} :
    (nfkc t).head? = some '.' ↔ ∃ c ∈ dotForms, t.head? = some c := by
  rcases t with _ | ⟨c, cs⟩
  · simp [nfkc_nil]
  · obtain ⟨d, ds, hd, hc⟩ := exists_cons_of_flatMap_decompose c cs
    obtain ⟨e, es, he⟩ := List.exists_cons_of_ne_nil (insertMark_ne_nil d (reorder ds))
    have hhead : (nfkc (c :: cs)).head? = some '.' ↔ d = '.' := by
      have hmark := head?_insertMark inert_dot (c := d) (t := reorder ds)
      rw [he, List.head?_cons, Option.some.injEq] at hmark
      unfold nfkc
      rw [hd, reorder_cons, he, head?_compose inert_dot, hmark]
    rw [hhead, List.head?_cons]
    constructor
    · rintro rfl
      exact ⟨c, head?_decompose.1 hc, rfl⟩
    · rintro ⟨c', hm, he⟩
      obtain rfl := Option.some.inj he
      have := head?_decompose.2 hm
      rw [hc] at this
      exact Option.some.inj this

end ComponentManifest.Unicode
