import ComponentManifest.Proofs.Walk

/-!
# Paths made of plain names

A list of plain names, which are names that a directory can hold, is written either as a relative
path or after the one or two slashes of a root. On such paths the operations on text are operations
on lists.

1. Plain names and the relative paths made of them.
2. `rooted`, the absolute paths made of them.
3. Joining, directory, last name and relative path of a rooted one.
4. `exists_rooted`: every path that is made absolute is rooted.
5. What a rooted path leads to.
6. Paths that the operating system can be given.
-/

namespace ComponentManifest

namespace Path

variable {b b' : Bool} {r : Bool} {ss ms kept : List Text} {p s x : Text}

/-! ## Plain names -/

/-- Each segment names an entry. -/
def Plain (ss : List Text) : Prop := ∀ s ∈ ss, Proper s ∧ '/' ∉ s

theorem plain_nil : Plain [] := fun _ h => absurd h List.not_mem_nil

theorem Plain.append (hs : Plain ss) (hm : Plain ms) : Plain (ss ++ ms) := by
  intro s h
  rcases List.mem_append.1 h with h | h
  · exact hs s h
  · exact hm s h

theorem Plain.left (h : Plain (ss ++ ms)) : Plain ss :=
  fun s hs => h s (List.mem_append_left ms hs)

theorem Plain.right (h : Plain (ss ++ ms)) : Plain ms :=
  fun s hs => h s (List.mem_append_right ss hs)

theorem Plain.ne_nil (h : Plain ss) (hs : s ∈ ss) : s ≠ [] := fun he => (h s hs).1.1 (Or.inl he)

theorem Plain.segments_ofSegments (h : Plain ss) (hne : ss ≠ []) : segments (ofSegments ss) = ss :=
  Path.segments_ofSegments (fun s hs => (h s hs).2) hne

theorem ofSegments_append (hs : Plain ss) (hm : Plain ms) (hsn : ss ≠ []) (hmn : ms ≠ []) :
    ofSegments (ss ++ ms) = ofSegments ss ++ '/' :: ofSegments ms := by
  apply eq_of_segments_eq
  rw [(hs.append hm).segments_ofSegments (by simp [hsn]), segments_append_slash,
    hs.segments_ofSegments hsn, hm.segments_ofSegments hmn]

theorem Plain.ofSegments_eq (h : Plain [x]) : ofSegments [x] = x := by
  rw [← segments_of_not_mem (h x (List.mem_singleton_self x)).2, ofSegments_segments]

theorem ofSegments_ne_nil (h : Plain ss) (hne : ss ≠ []) : ofSegments ss ≠ [] := by
  intro he
  have hss := h.segments_ofSegments hne
  rw [he] at hss
  exact h.ne_nil (hss ▸ List.mem_singleton_self []) rfl

theorem Plain.isAbsolute_ofSegments (h : Plain ss) : isAbsolute (ofSegments ss) = false :=
  Path.isAbsolute_ofSegments fun s hs => ⟨(h s hs).2, (h s hs).1.1⟩

theorem getLast?_ofSegments (h : Plain ss) : (ofSegments ss).getLast? ≠ some '/' := by
  intro hl
  obtain ⟨a, ha⟩ := List.getLast?_eq_some_iff.1 hl
  have hne : ss ≠ [] := by
    rintro rfl
    cases hl
  have hss := h.segments_ofSegments hne
  rw [ha, segments_append_slash a []] at hss
  exact h.ne_nil (hss ▸ List.mem_append_right _ (List.mem_singleton_self [])) rfl

theorem join_ofSegments (hs : Plain ss) (hm : Plain ms) (hsn : ss ≠ []) (hmn : ms ≠ []) :
    join (ofSegments ss) (ofSegments ms) = ofSegments (ss ++ ms) := by
  rw [join_of_no_slash (ofSegments_ne_nil hs hsn) (getLast?_ofSegments hs)
    hm.isAbsolute_ofSegments, ofSegments_append hs hm hsn hmn]

/-- A name put after a path that may be empty. -/
theorem join_name (hs : Plain ss) (hx : Plain [x]) :
    join (ofSegments ss) x = ofSegments (ss ++ [x]) := by
  have ho := hx.ofSegments_eq
  by_cases hsn : ss = []
  · subst hsn
    exact (nil_join x).trans ho.symm
  · rw [← join_ofSegments hs hx hsn (List.cons_ne_nil x []), ho]

theorem foldl_push_plain (h : Plain ss) : ss.foldl (push r) kept = ss.reverse ++ kept := by
  induction ss generalizing kept with
  | nil => rfl
  | cons s ss ih =>
    rw [List.foldl_cons, push_proper (h s List.mem_cons_self).1,
      ih fun x hx => h x (List.mem_cons_of_mem _ hx), List.reverse_cons, List.append_assoc]
    rfl

theorem Plain.collapse_eq (h : Plain ss) : collapse r ss = ss := by
  unfold collapse
  rw [foldl_push_plain h, List.append_nil, List.reverse_reverse]

/-! ## Rooted paths -/

/-- The slashes of a root: one, or two that are kept apart from one. -/
def root (double : Bool) : Text := if double then ['/', '/'] else ['/']

/-- The absolute path of some names below a root. -/
def rooted (double : Bool) (ss : List Text) : Text := root double ++ ofSegments ss

theorem rooted_ne_nil : rooted b ss ≠ [] := by
  cases b <;> exact List.cons_ne_nil _ _

theorem isAbsolute_rooted : isAbsolute (rooted b ss) = true := by
  cases b <;> rfl

/-- Before the names of a rooted path are empty segments; they stand alone at a root. -/
theorem segments_rooted (h : Plain ss) :
    ∃ n, segments (rooted b ss) = List.replicate n [] ++ ss := by
  by_cases hne : ss = []
  · subst hne
    cases b
    · exact ⟨2, rfl⟩
    · exact ⟨3, rfl⟩
  · have hss := h.segments_ofSegments hne
    cases b
    · exact ⟨1, (segments_append_slash [] (ofSegments ss)).trans (congrArg ([[]] ++ ·) hss)⟩
    · exact ⟨2, (segments_append_slash ['/'] (ofSegments ss)).trans (congrArg ([[], []] ++ ·) hss)⟩

theorem names_rooted (h : Plain ss) : names (rooted b ss) = ss := by
  obtain ⟨n, hn⟩ := segments_rooted (b := b) h
  have hss : ss.filter (· ≠ []) = ss :=
    List.filter_eq_self.2 fun s hs => by simpa using h.ne_nil hs
  unfold names
  rw [hn, List.filter_append, hss]
  simp

/-- A rooted path determines its names. -/
theorem rooted_injective (hs : Plain ss) (hm : Plain ms) (h : rooted b ss = rooted b' ms) :
    ss = ms := by
  rw [← names_rooted hs, h, names_rooted hm]

theorem rootSlashes_rooted (h : Plain ss) : rootSlashes (rooted b ss) = (root b).length := by
  have ha := h.isAbsolute_ofSegments
  unfold rooted
  rcases ho : ofSegments ss with _ | ⟨c, cs⟩
  · cases b <;> rfl
  · have hc : c ≠ '/' := by
      rintro rfl
      simp [isAbsolute, ho] at ha
    cases b
    · show rootSlashes ('/' :: c :: cs) = 1
      simp [rootSlashes, hc]
    · show rootSlashes ('/' :: '/' :: c :: cs) = 2
      simp [rootSlashes, hc]

/-- A rooted path holds, apart from slashes, what its names hold. -/
theorem mem_rooted_iff {c : Char} (h : Plain ss) (hc : c ≠ '/') :
    c ∈ rooted b ss ↔ ∃ s ∈ ss, c ∈ s := by
  obtain ⟨n, hn⟩ := segments_rooted (b := b) h
  constructor
  · intro hm
    obtain ⟨s, hs, hcs⟩ := exists_mem_segments hm hc
    rw [hn] at hs
    rcases List.mem_append.1 hs with hs | hs
    · rw [List.eq_of_mem_replicate hs] at hcs
      exact absurd hcs List.not_mem_nil
    · exact ⟨s, hs, hcs⟩
  · rintro ⟨s, hs, hcs⟩
    refine mem_of_mem_segments (s := s) ?_ hcs
    rw [hn]
    exact List.mem_append_right _ hs

theorem foldl_push_replicate (n : Nat) :
    (List.replicate n []).foldl (push r) kept = kept := by
  induction n with
  | zero => rfl
  | succ n ih => rw [List.replicate_succ, List.foldl_cons, push_idle (Or.inl rfl), ih]

theorem root_eq_replicate : root b = List.replicate (root b).length '/' := by cases b <;> rfl

theorem normalize_rooted (h : Plain ss) : normalize (rooted b ss) = rooted b ss := by
  obtain ⟨n, hn⟩ := segments_rooted (b := b) h
  have hc : collapse ((root b).length != 0) (segments (rooted b ss)) = ss := by
    unfold collapse
    rw [hn, List.foldl_append, foldl_push_replicate]
    exact h.collapse_eq
  have hne : (rooted b ss).isEmpty = false := by simpa using rooted_ne_nil
  unfold normalize
  dsimp only
  rw [rootSlashes_rooted h, hc, ← root_eq_replicate]
  show (if (rooted b ss).isEmpty = true then here else rooted b ss) = rooted b ss
  rw [hne]
  rfl

/-! ## Below a rooted path -/

theorem rooted_append (hs : Plain ss) (hm : Plain ms) (hsn : ss ≠ []) (hmn : ms ≠ []) :
    rooted b (ss ++ ms) = rooted b ss ++ '/' :: ofSegments ms := by
  unfold rooted
  rw [ofSegments_append hs hm hsn hmn, List.append_assoc]

theorem getLast?_rooted (h : Plain ss) (hne : ss ≠ []) : (rooted b ss).getLast? ≠ some '/' := by
  have hl := getLast?_ofSegments h
  have ho := ofSegments_ne_nil h hne
  unfold rooted
  rw [List.getLast?_append]
  rcases hc : (ofSegments ss).getLast? with _ | c
  · exact absurd (List.getLast?_eq_none_iff.1 hc) ho
  · rw [hc] at hl
    exact hl

/-- No slash stands at the end of a path below the root. -/
theorem dropSlashes_rooted (h : Plain ss) (hne : ss ≠ []) :
    ((rooted b ss).reverse.dropWhile (· == '/')).reverse = rooted b ss := by
  have hl : (rooted b ss).reverse.head? ≠ some '/' := by
    rw [List.head?_reverse]
    exact getLast?_rooted h hne
  rcases hrev : (rooted b ss).reverse with _ | ⟨c, cs⟩
  · simpa using hrev
  · rw [hrev] at hl
    have hc : (c == '/') = false := by simpa using hl
    rw [List.dropWhile_cons, hc, ← hrev]
    simp

theorem join_rooted_nil {p : Text} (hp : isAbsolute p = false) :
    join (rooted b []) p = root b ++ p := by
  have hroot : rooted b [] = root b := by cases b <;> rfl
  rw [hroot]
  exact join_of_slash (by cases b <;> rfl) hp

theorem join_rooted (hs : Plain ss) (hm : Plain ms) (hmn : ms ≠ []) :
    join (rooted b ss) (ofSegments ms) = rooted b (ss ++ ms) := by
  by_cases hsn : ss = []
  · subst hsn
    rw [join_rooted_nil hm.isAbsolute_ofSegments]
    rfl
  · rw [join_of_no_slash rooted_ne_nil (getLast?_rooted hs hsn) hm.isAbsolute_ofSegments,
      rooted_append hs hm hsn hmn]

theorem join_rooted_name (hs : Plain ss) (hx : Plain [x]) :
    join (rooted b ss) x = rooted b (ss ++ [x]) := by
  rw [← join_rooted hs hx (List.cons_ne_nil x []), hx.ofSegments_eq]

/-- What stands before the last name: the root alone, or the directory and a slash. -/
theorem rooted_concat (hs : Plain ss) (hx : Plain [x]) :
    rooted b (ss ++ [x]) = (if ss = [] then root b else rooted b ss ++ ['/']) ++ x := by
  have ho := hx.ofSegments_eq
  by_cases hsn : ss = []
  · subst hsn
    exact congrArg (root b ++ ·) ho
  · rw [if_neg hsn, rooted_append hs hx hsn (List.cons_ne_nil x []), ho, List.append_assoc]
    rfl

theorem slash_not_mem_reverse (hx : Plain [x]) : ∀ c ∈ x.reverse, (c != '/') = true := by
  intro c hc
  rw [bne_iff_ne]
  rintro rfl
  exact (hx x (List.mem_singleton_self x)).2 (List.mem_reverse.1 hc)

/-- The last slash stands right before the last name. -/
theorem exists_reverse_rooted_concat (hs : Plain ss) (hx : Plain [x]) :
    ∃ q, (rooted b (ss ++ [x])).reverse = x.reverse ++ '/' :: q ∧
      ('/' :: q).reverse = if ss = [] then root b else rooted b ss ++ ['/'] := by
  by_cases hsn : ss = []
  · cases b
    · exact ⟨[], by rw [rooted_concat hs hx, if_pos hsn, List.reverse_append]; rfl, by
        rw [if_pos hsn]; rfl⟩
    · exact ⟨['/'], by rw [rooted_concat hs hx, if_pos hsn, List.reverse_append]; rfl, by
        rw [if_pos hsn]; rfl⟩
  · refine ⟨(rooted b ss).reverse, ?_, ?_⟩
    · rw [rooted_concat hs hx, if_neg hsn]
      simp
    · rw [if_neg hsn]
      simp

theorem dirname_rooted (hs : Plain ss) (hx : Plain [x]) :
    dirname (rooted b (ss ++ [x])) = rooted b ss := by
  obtain ⟨q, hq, hr⟩ := exists_reverse_rooted_concat (b := b) hs hx
  have hd : (rooted b (ss ++ [x])).reverse.dropWhile (· != '/') = '/' :: q := by
    rw [hq, List.dropWhile_append_of_pos (slash_not_mem_reverse hx)]
    rfl
  unfold dirname
  dsimp only
  rw [hd, hr]
  by_cases hsn : ss = []
  · subst hsn
    cases b <;> rfl
  · have hb : ((rooted b ss ++ ['/']).reverse.dropWhile (· == '/')).reverse = rooted b ss := by
      rw [List.reverse_append]
      exact dropSlashes_rooted hs hsn
    have he : (rooted b ss).isEmpty = false := by simpa using rooted_ne_nil
    rw [if_neg hsn, hb, he]
    rfl

theorem basename_rooted (hs : Plain ss) (hx : Plain [x]) :
    basename (rooted b (ss ++ [x])) = x := by
  obtain ⟨q, hq, -⟩ := exists_reverse_rooted_concat (b := b) hs hx
  unfold basename
  rw [hq, List.takeWhile_append_of_pos (slash_not_mem_reverse hx)]
  simp

theorem commonPrefix_append (ss ms ns : List Text) :
    commonPrefix (ss ++ ms) (ss ++ ns) = ss ++ commonPrefix ms ns := by
  induction ss with
  | nil => rfl
  | cons s ss ih =>
    show (if s = s then s :: commonPrefix (ss ++ ms) (ss ++ ns) else []) = s :: _
    rw [if_pos rfl, ih]
    rfl

theorem commonPrefix_below (ss ms : List Text) : commonPrefix ss (ss ++ ms) = ss := by
  have h := commonPrefix_append ss [] ms
  rw [List.append_nil] at h
  exact h.trans (by cases ms <;> exact List.append_nil ss)

/-- From a directory the way to a path below it leads only down. -/
theorem relative_rooted (hs : Plain ss) (hm : Plain ms) (hmn : ms ≠ []) :
    relative (rooted b (ss ++ ms)) (rooted b' ss) = ofSegments ms := by
  have he : ms.isEmpty = false := by simpa using hmn
  unfold relative
  dsimp only
  rw [names_rooted (hs.append hm), names_rooted hs, commonPrefix_below, Nat.sub_self,
    List.drop_left, List.replicate_zero, List.nil_append, he]
  rfl

/-! ## Paths made absolute -/

/-- Above the root is the root, so no step up is kept. -/
theorem up_not_mem_push (h : up ∉ kept) : up ∉ push true kept s := by
  unfold push
  split
  · exact h
  split
  · rcases kept with _ | ⟨k, ks⟩
    · exact List.not_mem_nil
    · have hk : k ≠ up := fun he => h (he ▸ List.mem_cons_self)
      dsimp only
      rw [if_neg hk]
      exact fun hm => h (List.mem_cons_of_mem k hm)
  · next hs =>
    intro hm
    rcases List.mem_cons.1 hm with hm | hm
    · exact hs hm.symm
    · exact h hm

theorem up_not_mem_foldl_push (h : up ∉ kept) : up ∉ ss.foldl (push true) kept := by
  induction ss generalizing kept with
  | nil => exact h
  | cons s ss ih => exact ih (up_not_mem_push h)

theorem plain_collapse (p : Text) : Plain (collapse true (segments p)) := by
  intro s hs
  obtain ⟨hm, hi⟩ := mem_collapse hs
  refine ⟨⟨hi, ?_⟩, slash_not_mem hm⟩
  rintro rfl
  exact up_not_mem_foldl_push List.not_mem_nil (List.mem_reverse.1 hs)

theorem exists_rootSlashes (h : isAbsolute p = true) : ∃ b, rootSlashes p = (root b).length := by
  unfold rootSlashes
  split
  · exact ⟨false, rfl⟩
  · exact ⟨true, rfl⟩
  · exact ⟨false, rfl⟩
  · next hp =>
    rcases p with _ | ⟨c, cs⟩
    · cases h
    · have hc : c = '/' := by simpa [isAbsolute] using h
      exact absurd (hc ▸ rfl) (hp cs)

/-- A normalised absolute path is rooted. -/
theorem exists_rooted_normalize (h : isAbsolute p = true) :
    ∃ b ss, Plain ss ∧ normalize p = rooted b ss := by
  obtain ⟨b, hb⟩ := exists_rootSlashes h
  refine ⟨b, collapse true (segments p), plain_collapse p, ?_⟩
  have hn : ((root b).length != 0) = true := by cases b <;> rfl
  have hne : (rooted b (collapse true (segments p))).isEmpty = false := by
    simpa using rooted_ne_nil
  unfold normalize
  dsimp only
  rw [hb, hn, ← root_eq_replicate]
  show (if (rooted b (collapse true (segments p))).isEmpty = true then here else _) = _
  rw [hne]
  rfl

theorem isAbsolute_join_of_base {base : Text} (h : isAbsolute base = true) :
    isAbsolute (join base p) = true := by
  have hb : base ≠ [] := by
    rintro rfl
    cases h
  rcases hp : isAbsolute p
  · rw [isAbsolute_join hb hp, h]
  · unfold join
    rw [hp]
    exact hp

end Path

namespace Workspace

open ComponentManifest.Path (Plain rooted)

variable {w : Workspace} {b : Bool} {ss : List Text} {p : Text} {fl : Bool}

theorem exists_rooted (w : Workspace) (p : Text) :
    ∃ b ss, Plain ss ∧ w.absolute p = rooted b ss :=
  Path.exists_rooted_normalize (Path.isAbsolute_join_of_base rfl)

theorem exists_rooted_of_absolute (h : ∃ d, p = w.absolute d) :
    ∃ b ss, Plain ss ∧ p = rooted b ss := by
  obtain ⟨d, rfl⟩ := h
  exact w.exists_rooted d

theorem absolute_rooted (h : Plain ss) : w.absolute (rooted b ss) = rooted b ss := by
  have hj : Path.join w.cwdPath (rooted b ss) = rooted b ss := if_pos Path.isAbsolute_rooted
  unfold absolute Path.absolute
  rw [hj, Path.normalize_rooted h]

/-! ## What a rooted path leads to -/

theorem walk_replicate {n m : Nat} {dir : Location} (t : Tree) :
    t.walk fl n dir (List.replicate m [] ++ ss) = t.walk fl n dir ss := by
  induction m with
  | zero => rfl
  | succ m ih =>
    rw [List.replicate_succ, List.cons_append, Tree.walk_idle (Or.inl rfl), ih]

/-- A rooted path leads where its names lead from the root of the tree. -/
theorem reach_rooted (h : Plain ss) :
    w.reach fl (rooted b ss) = w.tree.walk fl maxLinks [] ss := by
  obtain ⟨n, hn⟩ := Path.segments_rooted (b := b) h
  have hs : Tree.startOf w.cwd (rooted b ss) = [] := if_pos Path.isAbsolute_rooted
  rw [reach_of_ne_nil Path.rooted_ne_nil, hs, hn]
  exact walk_replicate w.tree

/-- The segments of a file's path lead to it. -/
theorem leads_of_isFile (h : w.isFile p = true) :
    ∃ k dir l content, w.tree.Leads k dir (Path.segments p) l (.file content) := by
  obtain ⟨l, content, hr⟩ := isFile_iff.1 h
  obtain ⟨k, -, hl⟩ := leads_of_reach hr
  exact ⟨k, _, l, content, hl⟩

theorem isDir_rooted (h : Plain ss) :
    w.isDir (rooted b ss) = true ↔ ∃ k ≤ maxLinks, ∃ l, w.tree.Leads k [] ss l .dir := by
  rw [isDir_iff, reach_rooted h]
  simp only [Tree.walk_eq_entry_iff]
  grind

theorem isFile_rooted (h : Plain ss) :
    w.isFile (rooted b ss) = true ↔
      ∃ k ≤ maxLinks, ∃ l content, w.tree.Leads k [] ss l (.file content) := by
  rw [isFile_iff, reach_rooted h]
  simp only [Tree.walk_eq_entry_iff]
  grind

theorem mem_list_rooted {x : Text} (h : Plain ss) :
    x ∈ w.list (rooted b ss) ↔
      ∃ k ≤ maxLinks, ∃ l, w.tree.Leads k [] ss l .dir ∧ x ∈ w.tree.children l := by
  unfold list
  rw [reach_rooted h]
  constructor
  · intro hx
    split at hx
    · next l hr =>
      obtain ⟨k, hk, hl⟩ := Tree.leads_of_walk hr
      exact ⟨k, hk, l, hl, hx⟩
    · exact absurd hx List.not_mem_nil
  · rintro ⟨k, hk, l, hl, hx⟩
    rw [hl.walk_eq hk]
    exact hx

end Workspace

/-! ## Usable paths -/

namespace Path

variable {b : Bool} {ss : List Text} {p q s : Text}

theorem isUsable_rooted (h : Plain ss) :
    isUsable (rooted b ss) = true ↔ ∀ s ∈ ss, isUsable s = true := by
  unfold isUsable
  simp only [List.all_eq_true]
  constructor
  · intro hu s hs c hc
    by_cases hslash : c = '/'
    · subst hslash
      decide
    · exact hu c ((mem_rooted_iff h hslash).2 ⟨s, hs, hc⟩)
  · intro hu c hc
    by_cases hslash : c = '/'
    · subst hslash
      decide
    · obtain ⟨s, hs, hcs⟩ := (mem_rooted_iff h hslash).1 hc
      exact hu s hs c hcs

/-- What is made of the characters of a usable path, and of slashes, is usable too. -/
theorem isUsable_of_subset (h : isUsable p = true) (hq : ∀ c ∈ q, c ∈ p ∨ c = '/') :
    isUsable q = true := by
  unfold isUsable at h ⊢
  rw [List.all_eq_true] at h ⊢
  intro c hc
  rcases hq c hc with hc | rfl
  · exact h c hc
  · decide

theorem isUsable_of_mem_segments (h : isUsable p = true) (hs : s ∈ segments p) :
    isUsable s = true :=
  isUsable_of_subset h fun _ hc => Or.inl (mem_of_mem_segments hs hc)

theorem isUsable_of_segments (h : ∀ s ∈ segments p, isUsable s = true) : isUsable p = true := by
  refine List.all_eq_true.2 fun c hc => ?_
  by_cases hslash : c = '/'
  · subst hslash
    decide
  · obtain ⟨s, hs, hcs⟩ := exists_mem_segments hc hslash
    exact List.all_eq_true.1 (h s hs) c hcs

end Path

end ComponentManifest
