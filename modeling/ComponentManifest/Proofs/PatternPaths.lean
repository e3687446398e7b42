import ComponentManifest.Files.Listing

/-!
# What a pattern stands for

A listing asks of every segment of its pattern whether it is `**`, has a wildcard, is empty, or is a
name. Here each answer is a constructor: what holds of all that is listed is proved by cases on a
segment, and by induction on the leading segments.

1. `Below`: the paths of visible names below a directory.
2. `Expands`: what one segment stands for in a directory.
3. `Visits`: the directories that the leading segments stand for.
4. `Matches`: what a whole pattern stands for.
5. `glob_eq_ok_iff`: when a search can be made.
-/

namespace ComponentManifest

namespace Workspace

open ComponentManifest.Path (segments)

variable {w : Workspace} {od : Bool} {n : Nat} {rest : List Text}
  {base dir pattern d p s x : Text}

/-! ## Below a directory -/

theorem mem_listNames :
    x ∈ w.listNames od dir ↔
      x ∈ w.list dir ∧ (od = true → w.isDir (Path.join dir x) = true) := by
  cases od <;> simp [listNames]

/-- The path is made of at most so many visible names, each of them listed in the directory that
those before it lead to. -/
inductive Below (w : Workspace) (od : Bool) : Nat → Text → Text → Prop
  | name {n : Nat} {dir x : Text} :
      x ∈ w.listNames od dir → isHidden x = false → Below w od (n + 1) dir x
  | path {n : Nat} {dir x p : Text} :
      x ∈ w.listNames od dir → isHidden x = false → Below w od n (within dir x) p →
        Below w od (n + 1) dir (within x p)

theorem mem_listBelow_iff : p ∈ w.listBelow od n dir ↔ w.Below od n dir p := by
  induction n generalizing dir p with
  | zero =>
    constructor
    · exact fun h => absurd h List.not_mem_nil
    · rintro ⟨⟩
  | succ n ih =>
    unfold listBelow
    simp only [List.mem_flatMap, List.mem_filter, List.mem_cons, List.mem_map,
      Bool.not_eq_true', ih]
    constructor
    · rintro ⟨x, ⟨hx, hv⟩, rfl | ⟨y, hy, rfl⟩⟩
      · exact .name hx hv
      · exact .path hx hv hy
    · rintro (⟨hx, hv⟩ | ⟨hx, hv, hy⟩)
      · exact ⟨p, ⟨hx, hv⟩, Or.inl rfl⟩
      · exact ⟨_, ⟨hx, hv⟩, Or.inr ⟨_, hy, rfl⟩⟩

/-! ## One segment -/

/-- What a segment stands for in a directory. -/
inductive Expands (w : Workspace) (od : Bool) (dir : Text) : Text → Text → Prop
  /-- Any number of directories may be none. -/
  | start : Expands w od dir anyDepth []
  | below {p : Text} : w.Below od w.maxDepth dir p → Expands w od dir anyDepth p
  | listed {s x : Text} :
      s ≠ anyDepth → Glob.hasMagic s = true → x ∈ w.listNames od dir →
        (isHidden s || !isHidden x) = true → Glob.matchesName s x = true → Expands w od dir s x
  /-- A slash at the end asks for a directory. -/
  | slash : w.isDir dir = true → Expands w od dir [] []
  | literal {s : Text} :
      Glob.hasMagic s = false → s ≠ [] → w.lexists (within dir s) = true → Expands w od dir s s

theorem mem_expand_wildcard (ha : s ≠ anyDepth) (hm : Glob.hasMagic s = true) :
    x ∈ w.expand od dir s ↔
      x ∈ w.listNames od dir ∧ (isHidden s || !isHidden x) = true ∧
        Glob.matchesName s x = true := by
  unfold expand
  rw [if_neg ha, if_pos hm, List.mem_filter, Bool.and_eq_true]

theorem mem_expand_nil : x ∈ w.expand od dir [] ↔ x = [] ∧ w.isDir dir = true := by
  unfold expand
  rw [if_neg (by decide), if_neg (by decide), if_pos List.isEmpty_nil]
  split <;> simp [*]

theorem mem_expand_literal (hm : Glob.hasMagic s = false) (hs : s ≠ []) :
    x ∈ w.expand od dir s ↔ x = s ∧ w.lexists (within dir s) = true := by
  have ha : s ≠ anyDepth := by
    rintro rfl
    cases hm
  unfold expand
  rw [if_neg ha, hm, if_neg Bool.false_ne_true, if_neg (by simpa using hs)]
  split <;> simp [*]

theorem mem_expand_iff : x ∈ w.expand od dir s ↔ w.Expands od dir s x := by
  constructor
  · intro h
    by_cases ha : s = anyDepth
    · subst ha
      rcases List.mem_cons.1 h with rfl | h
      · exact .start
      · exact .below (mem_listBelow_iff.1 h)
    cases hm : Glob.hasMagic s with
    | true =>
      obtain ⟨hx, hv, hmatch⟩ := (mem_expand_wildcard ha hm).1 h
      exact .listed ha hm hx hv hmatch
    | false =>
      by_cases hs : s = []
      · subst hs
        obtain ⟨rfl, hd⟩ := mem_expand_nil.1 h
        exact .slash hd
      · obtain ⟨rfl, hl⟩ := (mem_expand_literal hm hs).1 h
        exact .literal hm hs hl
  · rintro (_ | h | ⟨ha, hm, hx, hv, hmatch⟩ | hd | ⟨hm, hs, hl⟩)
    · exact List.mem_cons_self
    · exact List.mem_cons_of_mem _ (mem_listBelow_iff.2 h)
    · exact (mem_expand_wildcard ha hm).2 ⟨hx, hv, hmatch⟩
    · exact mem_expand_nil.2 ⟨rfl, hd⟩
    · exact (mem_expand_literal hm hs).2 ⟨rfl, hl⟩

/-- A segment with a wildcard stands for the visible names that match it, unless it begins with a
dot. -/
theorem mem_expand (hm : Glob.hasMagic s = true) (ha : s ≠ anyDepth) (hh : isHidden s = false) :
    x ∈ w.expand od dir s ↔
      x ∈ w.listNames od dir ∧ isHidden x = false ∧ Glob.matchesName s x = true := by
  rw [mem_expand_wildcard ha hm, hh, Bool.false_or, Bool.not_eq_true']

/-! ## Leading segments -/

/-- The directories that the leading segments of a pattern stand for, given last to first. -/
inductive Visits (w : Workspace) (base : Text) : List Text → Text → Prop
  | base : Visits w base [] []
  /-- Without wildcards the segments are taken as they are. -/
  | literal {rest : List Text} :
      rest ≠ [] → rest.any Glob.hasMagic = false → Visits w base rest (literalDir rest)
  | slash {rest : List Text} {d : Text} :
      (([] : Text) :: rest).any Glob.hasMagic = true → Visits w base rest d →
        Visits w base ([] :: rest) d
  | step {rest : List Text} {d s x : Text} :
      (s :: rest).any Glob.hasMagic = true → s ≠ [] → Visits w base rest d →
        w.Expands true (within base d) s x → Visits w base (s :: rest) (Path.join d x)

theorem mem_directories_nil : p ∈ w.directories base [] ↔ p = [] := List.mem_singleton

theorem mem_directories_literal (hm : (s :: rest).any Glob.hasMagic = false) :
    p ∈ w.directories base (s :: rest) ↔ p = literalDir (s :: rest) := by
  unfold directories
  rw [hm]
  exact List.mem_singleton

theorem directories_slash (hm : (([] : Text) :: rest).any Glob.hasMagic = true) :
    w.directories base ([] :: rest) = w.directories base rest := by
  conv => lhs; unfold directories
  rw [hm]
  rfl

theorem mem_directories_step (hm : (s :: rest).any Glob.hasMagic = true) (hs : s ≠ []) :
    p ∈ w.directories base (s :: rest) ↔
      ∃ d ∈ w.directories base rest, ∃ x ∈ w.expand true (within base d) s,
        p = Path.join d x := by
  conv => lhs; unfold directories
  rw [hm, if_neg (by decide), if_neg (by simpa using hs)]
  simp only [List.mem_flatMap, List.mem_map, eq_comm (a := p)]

theorem mem_directories_iff : d ∈ w.directories base rest ↔ w.Visits base rest d := by
  constructor
  · intro h
    induction rest generalizing d with
    | nil => exact List.mem_singleton.1 h ▸ .base
    | cons s rest ih =>
      cases hm : (s :: rest).any Glob.hasMagic with
      | false =>
        rw [(mem_directories_literal hm).1 h]
        exact .literal (List.cons_ne_nil s rest) hm
      | true =>
        by_cases hs : s = []
        · subst hs
          rw [directories_slash hm] at h
          exact .slash hm (ih h)
        · obtain ⟨d, hd, x, hx, rfl⟩ := (mem_directories_step hm hs).1 h
          exact .step hm hs (ih hd) (mem_expand_iff.1 hx)
  · intro h
    induction h with
    | base => exact mem_directories_nil.2 rfl
    | literal hne hm =>
      obtain ⟨s, rest, rfl⟩ := List.exists_cons_of_ne_nil hne
      exact (mem_directories_literal hm).2 rfl
    | slash hm _ ih =>
      rw [directories_slash hm]
      exact ih
    | step hm hs _ hx ih =>
      exact (mem_directories_step hm hs).2 ⟨_, ih, _, mem_expand_iff.2 hx, rfl⟩

theorem mem_directories (hs : Glob.hasMagic s = true) :
    p ∈ w.directories base (s :: rest) ↔
      ∃ d ∈ w.directories base rest, ∃ x ∈ w.expand true (within base d) s,
        p = Path.join d x := by
  refine mem_directories_step (by rw [List.any_cons, hs, Bool.true_or]) ?_
  rintro rfl
  cases hs

/-! ## The whole pattern -/

/-- What a pattern stands for below a directory. -/
inductive Matches (w : Workspace) (base pattern : Text) : Text → Prop
  | listed {rest : List Text} {d s x : Text} :
      Glob.hasMagic pattern = true → (segments pattern).reverse = s :: rest →
        w.Visits base rest d → w.Expands false (within base d) s x →
          Matches w base pattern (Path.join d x)
  /-- Without wildcards the pattern stands for itself, if it leads somewhere. -/
  | literal {rest : List Text} {s : Text} :
      Glob.hasMagic pattern = false → (segments pattern).reverse = s :: rest →
        (if s = [] then w.isDir (within base (literalDir (s :: rest)))
          else w.lexists (within base pattern)) = true →
          Matches w base pattern pattern

/-- The paths of a pattern with a wildcard end in what the last segment stands for. -/
theorem mem_matchPaths_last (hp : (segments pattern).reverse = s :: rest)
    (hm : Glob.hasMagic pattern = true) :
    p ∈ w.matchPaths base pattern ↔
      ∃ d ∈ w.directories base rest, ∃ x ∈ w.expand false (within base d) s,
        p = Path.join d x := by
  unfold matchPaths
  rw [hp]
  dsimp only
  rw [if_pos hm]
  simp only [List.mem_flatMap, List.mem_map, eq_comm (a := p)]

theorem mem_matchPaths_literal (hp : (segments pattern).reverse = s :: rest)
    (hm : Glob.hasMagic pattern = false) :
    p ∈ w.matchPaths base pattern ↔
      p = pattern ∧ (if s = [] then w.isDir (within base (literalDir (s :: rest)))
        else w.lexists (within base pattern)) = true := by
  unfold matchPaths
  rw [hp]
  dsimp only
  rw [hm, if_neg Bool.false_ne_true]
  by_cases hs : s = []
  · subst hs
    rw [if_pos rfl, if_pos List.isEmpty_nil]
    split <;> simp [*]
  · rw [if_neg hs, if_neg (by simpa using hs)]
    split <;> simp [*]

theorem mem_matchPaths_iff : p ∈ w.matchPaths base pattern ↔ w.Matches base pattern p := by
  constructor
  · intro h
    rcases hp : (segments pattern).reverse with _ | ⟨s, rest⟩
    · unfold matchPaths at h
      rw [hp] at h
      cases h
    cases hm : Glob.hasMagic pattern with
    | true =>
      obtain ⟨d, hd, x, hx, rfl⟩ := (mem_matchPaths_last hp hm).1 h
      exact .listed hm hp (mem_directories_iff.1 hd) (mem_expand_iff.1 hx)
    | false =>
      obtain ⟨rfl, hl⟩ := (mem_matchPaths_literal hp hm).1 h
      exact .literal hm hp hl
  · rintro (⟨hm, hp, hd, hx⟩ | ⟨hm, hp, hl⟩)
    · exact (mem_matchPaths_last hp hm).2
        ⟨_, mem_directories_iff.2 hd, _, mem_expand_iff.2 hx, rfl⟩
    · exact (mem_matchPaths_literal hp hm).2 ⟨rfl, hl⟩

/-! ## The search -/

/-- A search that can be made finds what the pattern stands for. -/
theorem glob_eq_ok_iff {paths : List Text} :
    w.glob base pattern = .ok paths ↔
      searchLevels pattern ≤ maxLevels ∧
        (∀ d, firstListed base pattern = some d → Path.isUsable d = true) ∧
        w.matchPaths base pattern = paths := by
  unfold glob
  generalize maxLevels = most
  by_cases hdeep : most < searchLevels pattern
  · rw [if_pos hdeep]
    exact iff_of_false (by simp) fun h => Nat.not_le_of_lt hdeep h.1
  rw [if_neg hdeep]
  cases firstListed base pattern with
  | none => simp [Nat.le_of_not_lt hdeep]
  | some d => cases hd : Path.isUsable d <;> simp [hd, Nat.le_of_not_lt hdeep]

end Workspace

end ComponentManifest
