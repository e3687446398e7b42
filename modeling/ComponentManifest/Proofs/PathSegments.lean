import ComponentManifest.Files.Path

/-!
# Paths and their segments

A path is determined by its segments, and joining and normalising are operations on segments.

1. Cutting a path at its slashes and putting it together again are inverse to each other.
2. `segments_join`: a relative path is joined by appending its segments to those that lead into
   the base.
3. `segments_normalize`: a relative path is normalised by collapsing its segments.
-/

namespace ComponentManifest.Path

/-! ## Cutting and joining -/

@[simp] theorem segments_ne_nil (p : Text) : segments p ≠ [] := List.splitOn_ne_nil '/' p

theorem ofSegments_segments (p : Text) : ofSegments (segments p) = p :=
  List.intercalate_splitOn '/'

theorem segments_ofSegments {ss : List Text} (h : ∀ s ∈ ss, '/' ∉ s) (hne : ss ≠ []) :
    segments (ofSegments ss) = ss :=
  List.splitOn_intercalate '/' h hne

theorem segments_append_slash (a b : Text) :
    segments (a ++ '/' :: b) = segments a ++ segments b :=
  List.splitOn_append_cons_self a b

theorem segments_of_not_mem {s : Text} (h : '/' ∉ s) : segments s = [s] :=
  List.splitOn_eq_singleton h

theorem segments_cons (c : Char) (p : Text) :
    segments (c :: p) = if c = '/' then [] :: segments p else (segments p).modifyHead (c :: ·) := by
  unfold segments
  rw [List.splitOn_cons_eq_if_modifyHead]
  simp only [beq_iff_eq]

theorem slash_not_mem {p s : Text} (h : s ∈ segments p) : '/' ∉ s := by
  induction p generalizing s with
  | nil =>
    rw [show segments [] = [[]] from rfl, List.mem_singleton] at h
    rw [h]
    exact List.not_mem_nil
  | cons c cs ih =>
    rw [segments_cons] at h
    split at h
    · rcases List.mem_cons.1 h with rfl | h
      · exact List.not_mem_nil
      · exact ih h
    · next hc =>
      obtain ⟨x, xs, hx⟩ := List.exists_cons_of_ne_nil (segments_ne_nil cs)
      rw [hx, List.modifyHead_cons] at h
      rcases List.mem_cons.1 h with rfl | h
      · intro hm
        rcases List.mem_cons.1 hm with rfl | hm
        · exact hc rfl
        · exact ih (hx ▸ List.mem_cons_self) hm
      · exact ih (hx ▸ List.mem_cons_of_mem _ h)

theorem exists_mem_segments {p : Text} {c : Char} (h : c ∈ p) (hc : c ≠ '/') :
    ∃ s ∈ segments p, c ∈ s := by
  induction p with
  | nil => exact absurd h List.not_mem_nil
  | cons d ds ih =>
    obtain ⟨x, xs, hx⟩ := List.exists_cons_of_ne_nil (segments_ne_nil ds)
    rw [segments_cons]
    rcases List.mem_cons.1 h with rfl | h
    · rw [if_neg hc, hx]
      exact ⟨c :: x, List.mem_cons_self, List.mem_cons_self⟩
    · obtain ⟨s, hs, hm⟩ := ih h
      split
      · exact ⟨s, List.mem_cons_of_mem _ hs, hm⟩
      · rw [hx] at hs ⊢
        rcases List.mem_cons.1 hs with rfl | hs
        · exact ⟨d :: s, List.mem_cons_self, List.mem_cons_of_mem d hm⟩
        · exact ⟨s, List.mem_cons_of_mem _ hs, hm⟩

theorem mem_of_mem_segments {p s : Text} {c : Char} (h : s ∈ segments p) (hc : c ∈ s) : c ∈ p := by
  induction p generalizing s with
  | nil =>
    rw [show segments [] = [[]] from rfl, List.mem_singleton] at h
    rwa [h] at hc
  | cons d ds ih =>
    obtain ⟨x, xs, hx⟩ := List.exists_cons_of_ne_nil (segments_ne_nil ds)
    rw [segments_cons, hx] at h
    rw [hx] at ih
    split at h
    · rcases List.mem_cons.1 h with rfl | h
      · exact absurd hc List.not_mem_nil
      · exact List.mem_cons_of_mem d (ih h hc)
    · rcases List.mem_cons.1 h with rfl | h
      · rcases List.mem_cons.1 hc with rfl | hc
        · exact List.mem_cons_self
        · exact List.mem_cons_of_mem d (ih List.mem_cons_self hc)
      · exact List.mem_cons_of_mem d (ih (List.mem_cons_of_mem x h) hc)

theorem eq_of_segments_eq {p q : Text} (h : segments p = segments q) : p = q := by
  rw [← ofSegments_segments p, h, ofSegments_segments]

/-- Where the segments of a path are cut in two, there is a slash in the path. -/
theorem eq_of_segments_eq_append {p : Text} {xs ys : List Text} (h : segments p = xs ++ ys)
    (hx : xs ≠ []) (hy : ys ≠ []) : p = ofSegments xs ++ '/' :: ofSegments ys := by
  have hslash : ∀ s ∈ xs ++ ys, '/' ∉ s := fun s hs => slash_not_mem (h ▸ hs)
  apply eq_of_segments_eq
  rw [segments_append_slash,
    segments_ofSegments (fun s hs => hslash s (List.mem_append_left ys hs)) hx,
    segments_ofSegments (fun s hs => hslash s (List.mem_append_right xs hs)) hy, h]

/-- Only an absolute path has an empty segment at its beginning and more after it. -/
theorem isAbsolute_eq_false {p : Text} (h : ∀ s ∈ segments p, s ≠ []) : isAbsolute p = false := by
  rcases p with _ | ⟨c, cs⟩
  · rfl
  · have hc : c ≠ '/' := by
      intro hc
      rw [segments_cons, if_pos hc] at h
      exact h [] List.mem_cons_self rfl
    simp [isAbsolute, hc]

/-- A text without slashes that is put after a path becomes part of its last segment. -/
theorem exists_segments_append (p : Text) :
    ∃ init l, segments p = init ++ [l] ∧
      ∀ t, '/' ∉ t → segments (p ++ t) = init ++ [l ++ t] := by
  induction p with
  | nil => exact ⟨[], [], rfl, fun t ht => segments_of_not_mem ht⟩
  | cons c cs ih =>
    obtain ⟨init, l, hcs, hall⟩ := ih
    by_cases hc : c = '/'
    · refine ⟨[] :: init, l, ?_, fun t ht => ?_⟩
      · rw [segments_cons, if_pos hc, hcs, List.cons_append]
      · rw [List.cons_append, segments_cons, if_pos hc, hall t ht, List.cons_append]
    · rcases init with _ | ⟨x, xs⟩
      · refine ⟨[], c :: l, ?_, fun t ht => ?_⟩
        · rw [segments_cons, if_neg hc, hcs]
          rfl
        · rw [List.cons_append, segments_cons, if_neg hc, hall t ht]
          rfl
      · refine ⟨(c :: x) :: xs, l, ?_, fun t ht => ?_⟩
        · rw [segments_cons, if_neg hc, hcs]
          rfl
        · rw [List.cons_append, segments_cons, if_neg hc, hall t ht]
          rfl

/-! ## Joining -/

/-- Seen from nowhere a path stays as it is. -/
theorem nil_join (p : Text) : join [] p = p := by
  unfold join
  split <;> rfl

theorem join_of_slash {base p : Text} (hl : base.getLast? = some '/') (hp : isAbsolute p = false) :
    join base p = base ++ p := by
  unfold join
  simp [hp, hl]

theorem join_of_no_slash {base p : Text} (hb : base ≠ []) (hl : base.getLast? ≠ some '/')
    (hp : isAbsolute p = false) : join base p = base ++ '/' :: p := by
  unfold join
  simp [hp, hb, hl]

/-- The segments of a base that stand before those of a path joined to it. -/
def lead (base : Text) : List Text :=
  if base.getLast? = some '/' then (segments base).dropLast else segments base

/-- A path has the segments that lead into it, and an empty one more if it ends in a slash. -/
theorem segments_eq_lead (p : Text) :
    (segments p = lead p ∧ p.getLast? ≠ some '/') ∨ segments p = lead p ++ [[]] := by
  unfold lead
  split
  · next hl =>
    obtain ⟨q, rfl⟩ := List.getLast?_eq_some_iff.1 hl
    have hs : segments (q ++ ['/']) = segments q ++ [[]] := segments_append_slash q []
    right
    rw [hs, List.dropLast_concat]
  · next hl => exact Or.inl ⟨rfl, hl⟩

theorem mem_lead {p s : Text} (h : s ∈ lead p) : s ∈ segments p := by
  rcases segments_eq_lead p with ⟨hs, -⟩ | hs
  · exact hs ▸ h
  · exact hs ▸ List.mem_append_left _ h

theorem segments_join {base p : Text} (hb : base ≠ []) (hp : isAbsolute p = false) :
    segments (join base p) = lead base ++ segments p := by
  unfold lead
  by_cases hl : base.getLast? = some '/'
  · rw [join_of_slash hl hp, if_pos hl]
    obtain ⟨b, rfl⟩ := List.getLast?_eq_some_iff.1 hl
    have hs : segments (b ++ ['/']) = segments b ++ [[]] := segments_append_slash b []
    rw [hs, List.dropLast_concat, List.append_assoc]
    exact segments_append_slash b p
  · rw [join_of_no_slash hb hl hp, if_neg hl]
    exact segments_append_slash base p

theorem isAbsolute_join {base p : Text} (hb : base ≠ []) (hp : isAbsolute p = false) :
    isAbsolute (join base p) = isAbsolute base := by
  obtain ⟨c, cs, rfl⟩ := List.exists_cons_of_ne_nil hb
  unfold join
  rw [if_neg (by simp [hp])]
  split <;> rfl

theorem join_ne_nil {base p : Text} (hb : base ≠ []) : join base p ≠ [] := by
  unfold join
  split
  · next h => intro hp; rw [hp] at h; simp [isAbsolute] at h
  · split <;> simp [hb]

/-! ## Normalising -/

/-- Does the segment stand for the directory that the path has reached already? -/
def Idle (s : Text) : Prop := s = [] ∨ s = here

instance (s : Text) : Decidable (Idle s) := inferInstanceAs (Decidable (_ ∨ _))

/-- Does the segment name an entry? -/
def Proper (s : Text) : Prop := ¬ Idle s ∧ s ≠ up

instance (s : Text) : Decidable (Proper s) := inferInstanceAs (Decidable (_ ∧ _))

theorem isAbsolute_ofSegments {ss : List Text} (h : ∀ s ∈ ss, '/' ∉ s ∧ ¬ Idle s) :
    isAbsolute (ofSegments ss) = false := by
  by_cases hne : ss = []
  · subst hne
    rfl
  apply isAbsolute_eq_false
  rw [segments_ofSegments (fun s hs => (h s hs).1) hne]
  exact fun s hs he => (h s hs).2 (Or.inl he)

theorem push_idle {r : Bool} {kept : List Text} {s : Text} (h : Idle s) :
    push r kept s = kept := if_pos h

theorem push_proper {r : Bool} {kept : List Text} {s : Text} (h : Proper s) :
    push r kept s = s :: kept := (if_neg h.1).trans (if_neg h.2)

@[simp] theorem not_idle_up : ¬ Idle up := by decide

theorem push_up_cons {r : Bool} {kept : List Text} {k : Text} (h : k ≠ up) :
    push r (k :: kept) up = kept :=
  ((if_neg not_idle_up).trans (if_pos rfl)).trans (if_neg h)

theorem mem_push {r : Bool} {kept : List Text} {s k : Text} (h : k ∈ push r kept s) :
    k ∈ kept ∨ (k = s ∧ ¬ Idle s) := by
  unfold push at h
  split at h
  · exact Or.inl h
  · next hs =>
    split at h
    · next hu =>
      cases kept with
      | nil =>
        cases r
        · exact Or.inr ⟨(List.mem_singleton.1 h).trans hu.symm, hs⟩
        · simp at h
      | cons x xs =>
        dsimp only at h
        split at h
        · rcases List.mem_cons.1 h with rfl | h
          · exact Or.inr ⟨hu.symm, hs⟩
          · exact Or.inl h
        · exact Or.inl (List.mem_cons_of_mem _ h)
    · rcases List.mem_cons.1 h with rfl | h
      · exact Or.inr ⟨rfl, hs⟩
      · exact Or.inl h

theorem mem_foldl_push {r : Bool} {ss kept : List Text} {k : Text}
    (h : k ∈ ss.foldl (push r) kept) : k ∈ kept ∨ (k ∈ ss ∧ ¬ Idle k) := by
  induction ss generalizing kept with
  | nil => exact Or.inl h
  | cons s ss ih =>
    rcases ih h with h | ⟨hm, hk⟩
    · rcases mem_push h with h | ⟨rfl, hs⟩
      · exact Or.inl h
      · exact Or.inr ⟨List.mem_cons_self, hs⟩
    · exact Or.inr ⟨List.mem_cons_of_mem _ hm, hk⟩

theorem mem_collapse {r : Bool} {ss : List Text} {k : Text} (h : k ∈ collapse r ss) :
    k ∈ ss ∧ ¬ Idle k := by
  rcases mem_foldl_push (List.mem_reverse.1 h) with h | h
  · exact absurd h List.not_mem_nil
  · exact h

theorem rootSlashes_eq_zero {p : Text} (h : isAbsolute p = false) : rootSlashes p = 0 := by
  unfold rootSlashes
  split <;> first | rfl | simp [isAbsolute] at h

/-- The segments of a normalised relative path; when nothing is left it is the directory itself. -/
theorem segments_normalize {p : Text} (h : isAbsolute p = false) :
    segments (normalize p) =
      if collapse false (segments p) = [] then [here] else collapse false (segments p) := by
  have hs : ∀ s ∈ collapse false (segments p), '/' ∉ s :=
    fun s hm => slash_not_mem (mem_collapse hm).1
  unfold normalize
  simp only [rootSlashes_eq_zero h, bne_self_eq_false, List.replicate_zero, List.nil_append]
  by_cases hc : collapse false (segments p) = []
  · rw [if_pos hc, hc]
    decide
  · rw [if_neg hc]
    have hne : ofSegments (collapse false (segments p)) ≠ [] := by
      intro he
      have hseg := segments_ofSegments hs hc
      rw [he] at hseg
      have hm : ([] : Text) ∈ collapse false (segments p) := by
        rw [← hseg]; exact List.mem_singleton_self _
      exact (mem_collapse hm).2 (Or.inl rfl)
    rw [if_neg (by simpa using hne), segments_ofSegments hs hc]

theorem isAbsolute_normalize {p : Text} (h : isAbsolute p = false) :
    isAbsolute (normalize p) = false := by
  apply isAbsolute_eq_false
  rw [segments_normalize h]
  intro s hs
  split at hs
  · rw [List.mem_singleton.1 hs]
    decide
  · exact fun he => (mem_collapse hs).2 (Or.inl he)

end ComponentManifest.Path
