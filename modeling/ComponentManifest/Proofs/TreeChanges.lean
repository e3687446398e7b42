import ComponentManifest.Files.Change
import ComponentManifest.Proofs.FreeNames
import Mathlib.Data.List.Induction

/-!
# Making directories and writing files

What a change can do to a tree. A failed change leaves the tree as it is, and one that is made
touches what its path leads to, and nothing else.

1. New directories on the way to a location.
2. Paths that the operating system can be given.
3. `makeDirsWithin_succ_cases`: how directories are made one after another.
4. `FailsAt`, `failsAt_makeDirs`: which changes fail, and why.
5. `makesDirs_makeDirs`: a missing directory and those above it are made all or none. Once the first
   is made nothing stands in the way of the others, for a new directory is empty.
6. `writeFile_cases`: a file is written at the end of its path, or nothing is.
7. `written_of_wroteFile`: a file that is written into a directory just made.
-/

namespace ComponentManifest

open ComponentManifest.Path (Plain Proper rooted)

/-! ## New directories -/

namespace Tree

variable {t t' : Tree} {d l : Location} {x : Text}

/-- The second tree is the first one with new directories on the way to a location. -/
def NewDirs (t t' : Tree) (d : Location) : Prop :=
  ∀ l, t'.entry? l = t.entry? l ∨ t.entry? l = none ∧ t'.entry? l = some .dir ∧ l <+: d

theorem NewDirs.refl : t.NewDirs t d := fun _ => Or.inl rfl

/-- One more new directory at the end of the way. -/
theorem NewDirs.put (h : t.NewDirs t' d) (ha : t'.Accepts (d ++ [x]))
    (hf : t'.entry? (d ++ [x]) = none) : t.NewDirs (t'.put (d ++ [x]) .dir) (d ++ [x]) := by
  intro l
  by_cases hl : l = d ++ [x]
  · subst hl
    have ht : t.entry? (d ++ [x]) = none := by
      rcases h (d ++ [x]) with he | ⟨he, -⟩
      · rw [← he, hf]
      · exact he
    exact Or.inr ⟨ht, entry?_put_self ha, List.prefix_refl _⟩
  · rw [entry?_put_of_ne hl]
    rcases h l with he | ⟨hn, hd, hp⟩
    · exact Or.inl he
    · exact Or.inr ⟨hn, hd, hp.trans (List.prefix_append d [x])⟩

theorem NewDirs.cleanLinks (h : t.NewDirs t' d) (hc : t.CleanLinks) : t'.CleanLinks := by
  intro l target hl
  rcases h l with hsame | ⟨-, hdir, -⟩
  · exact hc l target (hsame ▸ hl)
  · rw [hdir] at hl
    cases hl

theorem entry?_below_put (hf : t.entry? l = none) :
    Tree.entry? (t.put l .dir) (l ++ [x]) = none := by
  have hne : l ++ [x] ≠ l := by simp
  rw [entry?_put_of_ne hne]
  exact entry?_concat_eq_none (by simp [hf])

end Tree

/-! ## Usable paths -/

namespace Path

variable {b : Bool} {ss : List Text} {x : Text}

theorem mem_dirname {c : Char} {p : Text} (h : c ∈ dirname p) : c ∈ p := by
  have hpart : ∀ (q : Char → Bool) (t : Text), c ∈ (t.reverse.dropWhile q).reverse → c ∈ t :=
    fun q t hc => List.mem_reverse.1 ((List.dropWhile_suffix q).subset (List.mem_reverse.1 hc))
  unfold dirname at h
  dsimp only at h
  split at h
  · exact hpart _ p h
  · exact hpart _ p (hpart _ _ h)

theorem validName_of_isUsable (hp : Proper x) (hs : '/' ∉ x) (hu : isUsable x = true) :
    ValidName x :=
  ⟨fun h => hp.1 (Or.inl h), hs, hu, fun h => hp.1 (Or.inr h), hp.2⟩

theorem cleanSegments_of_isUsable (h : Plain ss) (hu : isUsable (rooted b ss) = true) :
    Tree.CleanSegments ss := fun s hs =>
  ⟨(h s hs).2, (isUsable_rooted h).1 hu s hs⟩

theorem withoutFinalSlashes_rooted (h : Plain ss) :
    Workspace.withoutFinalSlashes (rooted b ss) = rooted b ss := by
  by_cases hne : ss = []
  · subst hne
    cases b <;> rfl
  · unfold Workspace.withoutFinalSlashes
    rw [dropSlashes_rooted h hne]
    have he : (rooted b ss).isEmpty = false := by simpa using rooted_ne_nil
    simp [he]

theorem parentAndName_rooted (hs : Plain ss) (hx : Plain [x]) :
    Workspace.parentAndName (rooted b (ss ++ [x])) = (rooted b ss, x) := by
  have he : x.isEmpty = false := by simpa using hx.ne_nil (List.mem_singleton_self x)
  unfold Workspace.parentAndName
  rw [basename_rooted hs hx, dirname_rooted hs hx, he]
  rfl

theorem length_le_rooted (h : Plain ss) : ss.length ≤ (rooted b ss).length := by
  induction ss using List.reverseRecOn with
  | nil => exact Nat.zero_le _
  | append_singleton ss x ih =>
    have hx : 0 < x.length := List.length_pos_iff.2 (h.right.ne_nil (List.mem_singleton_self x))
    have hle := ih h.left
    rw [rooted_concat h.left h.right]
    split
    · next hn => simp [hn]; omega
    · simp; omega

end Path

namespace Workspace

variable {w : Workspace} {t : Tree} {b : Bool} {ss : List Text} {d l : Location} {x p : Text}
  {n : Nat} {content : Bytes}

/-! ## One directory after another -/

/-- A directory is made at once, or after those above it: with nothing left to make, or not at all
because of a failure there, or in what was made. -/
theorem makeDirsWithin_succ_cases (w : Workspace) (n : Nat) (p : Text) :
    let above := w.makeDirsWithin n (parentAndName p).1
    let made := w.makeDirsWithin (n + 1) p
    made = w.ensureDir p ∨
      w.exists? (parentAndName p).1 = false ∧ (parentAndName p).2 ≠ [] ∧
        ((parentAndName p).2 = Path.here ∧ made = ⟨above.tree, none⟩ ∨
          (∃ f, above.failure = some f ∧ made = above) ∨
          (above.failure = none ∨ ∃ q, above.failure = some (.access .exists q)) ∧
            made = (w.withTree above.tree).ensureDir p) := by
  intro above made
  have hmade : made = w.makeDirsWithin (n + 1) p := rfl
  unfold makeDirsWithin at hmade
  dsimp only at hmade
  split at hmade
  · next hcond =>
    simp only [Bool.and_eq_true, Bool.not_eq_true', List.isEmpty_eq_false_iff] at hcond
    refine Or.inr ⟨hcond.2, hcond.1.2, ?_⟩
    split at hmade
    · next hf =>
      split at hmade
      · next hhere =>
        refine Or.inl ⟨hhere, hmade.trans ?_⟩
        rw [← hf]
      · exact Or.inr (Or.inr ⟨Or.inl hf, hmade⟩)
    · next q hf =>
      split at hmade
      · next hhere => exact Or.inl ⟨hhere, hmade⟩
      · exact Or.inr (Or.inr ⟨Or.inr ⟨q, hf⟩, hmade⟩)
    · next f _ hf => exact Or.inr (Or.inl ⟨f, hf, hmade⟩)
  · exact Or.inl hmade

theorem makeDirs_cases (w : Workspace) (p : Text) :
    w.makeDirs p = ⟨w.tree, some .tooDeep⟩ ∨ w.makeDirs p = w.makeDirsWithin p.length p := by
  unfold makeDirs
  split
  · exact Or.inl rfl
  · exact Or.inr rfl

/-! ## Failures -/

/-- The failure is the operating system's, or it cannot be given the path. -/
def FailsAt (p : Text) : ChangeFailure → Prop
  | .access _ _ => True
  | .unusable _ => Path.isUsable p = false
  | .tooDeep => False

theorem failsAt_changing {change : Changed} {x : ChangeFailure}
    (hchange : ∀ x, change.failure = some x → ∃ why q, x = .access why q)
    (h : (w.changing p change).failure = some x) : FailsAt p x := by
  unfold changing at h
  split at h
  · obtain ⟨why, q, rfl⟩ := hchange x h
    exact trivial
  · next hu =>
    obtain rfl := Option.some.inj h
    exact Bool.eq_false_iff.2 hu

theorem failsAt_ensureDir {x : ChangeFailure} (h : (w.ensureDir p).failure = some x) :
    FailsAt p x := by
  unfold ensureDir at h
  dsimp only at h
  split at h
  · cases h
  · refine failsAt_changing (fun y hy => ?_) h
    rcases hr : w.reach false (withoutFinalSlashes p) with ⟨l, e⟩ | ⟨d, x, slash⟩ | why <;>
      rw [hr] at hy <;> cases hy <;> exact ⟨_, _, rfl⟩

theorem mem_parentAndName {c : Char} (h : c ∈ (parentAndName p).1) : c ∈ p := by
  unfold parentAndName at h
  split at h
  · dsimp only at h
    exact Path.mem_dirname (Path.mem_dirname h)
  · exact Path.mem_dirname h

/-- A path below one that cannot be used cannot be used either. -/
theorem FailsAt.of_parent {x : ChangeFailure} (h : FailsAt (parentAndName p).1 x) :
    FailsAt p x := by
  cases x with
  | unusable q =>
    refine Bool.eq_false_iff.2 fun hu => Bool.eq_false_iff.1 h ?_
    exact Path.isUsable_of_subset hu fun c hc => Or.inl (mem_parentAndName hc)
  | _ => exact h

theorem failsAt_makeDirsWithin {x : ChangeFailure}
    (h : (w.makeDirsWithin n p).failure = some x) : FailsAt p x := by
  induction n generalizing p with
  | zero => exact failsAt_ensureDir h
  | succ n ih =>
    rcases makeDirsWithin_succ_cases w n p with
      hmade | ⟨-, -, ⟨-, hmade⟩ | ⟨f, -, hmade⟩ | ⟨-, hmade⟩⟩
    all_goals rw [hmade] at h
    · exact failsAt_ensureDir h
    · cases h
    · exact (ih h).of_parent
    · exact failsAt_ensureDir h

theorem failsAt_makeDirs {x : ChangeFailure} (h : (w.makeDirs p).failure = some x) :
    FailsAt p x ∨ x = .tooDeep ∧ maxLevels < w.missingAbove p.length p := by
  unfold makeDirs at h
  split at h
  · next hdeep => exact Or.inr ⟨(Option.some.inj h).symm, hdeep⟩
  · exact Or.inl (failsAt_makeDirsWithin h)

/-! ## Making directories -/

/-- What is left when a rooted directory is there: nothing, or new directories on the way to it. If
there are any, nothing is in it. -/
structure MadeDirs (w : Workspace) (b : Bool) (ss : List Text) (t : Tree) (d : Location) :
    Prop where
  leads : ∃ k ≤ maxLinks, t.Leads k [] ss d .dir
  new : w.tree.NewDirs t d
  fresh : t = w.tree ∨ Path.isUsable (rooted b ss) = true ∧ ∀ x, t.entry? (d ++ [x]) = none

/-- The directory is there, or making it failed and nothing has changed. Only for a path that cannot
be used there may be new directories on the way. -/
def MakesDirs (w : Workspace) (b : Bool) (ss : List Text) (c : Changed) : Prop :=
  match c.failure with
  | none => ∃ d, w.MadeDirs b ss c.tree d
  | some (.access _ _) | some .tooDeep => c.tree = w.tree
  | some (.unusable _) => ∃ d, w.tree.NewDirs c.tree d

theorem makesDirs_of_isDir (hs : Plain ss) (h : w.isDir (rooted b ss) = true) :
    w.MakesDirs b ss w.unchanged := by
  obtain ⟨k, hk, d, hl⟩ := (isDir_rooted hs).1 h
  exact ⟨d, ⟨k, hk, hl⟩, .refl, Or.inl rfl⟩

theorem makesDirs_makeDir (hc : w.tree.CleanLinks) (hs : Plain ss) :
    w.MakesDirs b ss (w.makeDir (rooted b ss)) := by
  unfold makeDir changing
  rw [Path.withoutFinalSlashes_rooted hs, reach_rooted hs]
  rcases hu : Path.isUsable (rooted b ss)
  · exact ⟨[], .refl⟩
  rw [if_pos rfl]
  rcases hr : w.tree.walk false maxLinks [] ss with ⟨l, e⟩ | ⟨d, x, slash⟩ | why
  · rfl
  · have hf := Tree.freeName_of_walk hc rfl (Path.cleanSegments_of_isUsable hs hu) hr
    refine ⟨d ++ [x], ⟨?_, Tree.NewDirs.refl.put hf.accepts hf.free, Or.inr ⟨hu, fun y => ?_⟩⟩⟩
    · exact hf.leads _ _ hf.keeps (Tree.entry?_put_self hf.accepts) (Or.inl rfl)
    · exact Tree.entry?_below_put hf.free
  · rfl

theorem makesDirs_ensureDir (hc : w.tree.CleanLinks) (hs : Plain ss) :
    w.MakesDirs b ss (w.ensureDir (rooted b ss)) := by
  unfold ensureDir
  dsimp only
  split
  · next h =>
    exact makesDirs_of_isDir hs (Bool.and_eq_true_iff.1 h).2
  · exact makesDirs_makeDir hc hs

/-- A rooted path to a name that its directory does not have leads there. -/
theorem reach_free {k : Nat} {fl : Bool} (hl : w.tree.Leads k [] ss d .dir) (hk : k ≤ maxLinks)
    (hs : Plain (ss ++ [x])) (hd : w.tree.entry? (d ++ [x]) = none) :
    w.reach fl (rooted b (ss ++ [x])) = .vacant d x false := by
  obtain ⟨m, hm⟩ : ∃ m, maxLinks = k + m := ⟨maxLinks - k, by omega⟩
  rw [reach_rooted hs, hm, hl.walk_append (List.cons_ne_nil x []),
    Tree.walk_vacant (hs x (by simp)).1 hd]
  rfl

theorem makesDirs_below (h : w.MadeDirs b ss t d) (hd : ∀ y, t.entry? (d ++ [y]) = none)
    (hs : Plain ss) (hx : Plain [x]) :
    w.MakesDirs b (ss ++ [x]) ((w.withTree t).ensureDir (rooted b (ss ++ [x]))) := by
  have hp : Plain (ss ++ [x]) := hs.append hx
  obtain ⟨hproper, hslash⟩ := hx x (List.mem_singleton_self x)
  obtain ⟨k, hk, hl⟩ := h.leads
  have hreach (fl : Bool) :
      (w.withTree t).reach fl (rooted b (ss ++ [x])) = .vacant d x false :=
    reach_free hl hk hp (hd x)
  have hmissing : (w.withTree t).isDir (rooted b (ss ++ [x])) = false := by
    unfold isDir entry?
    rw [hreach true]
    rfl
  unfold ensureDir
  rw [hmissing]
  simp only [Bool.and_false, Bool.false_eq_true, if_false]
  unfold makeDir changing
  rw [Path.withoutFinalSlashes_rooted hp, hreach false]
  rcases hu : Path.isUsable (rooted b (ss ++ [x]))
  · exact ⟨d, h.new⟩
  · have hxu : Path.isUsable x = true := (Path.isUsable_rooted hp).1 hu x (by simp)
    have hdir : t.entry? d = some .dir := hl.entry?_eq rfl
    have hv : ValidName x := Path.validName_of_isUsable hproper hslash hxu
    have ha : t.Accepts (d ++ [x]) := Tree.accepts_concat hdir hv (by simp [hd x])
    have hself := Tree.entry?_put_self (e := .dir) ha
    rw [if_pos rfl]
    refine ⟨d ++ [x], ⟨?_, h.new.put ha (hd x), Or.inr ⟨hu, fun y => ?_⟩⟩⟩
    · have hkeep : t.Keeps (t.put (d ++ [x]) .dir) := Tree.keeps_put (by simp [hd x])
      exact ⟨k, hk, (hl.keeps_dir hkeep).append
        (.enter hproper hself (.arrive _))⟩
    · exact Tree.entry?_below_put (hd x)

theorem exists?_of_isDir (h : w.isDir p = true) : w.exists? p = true := by
  unfold isDir at h
  unfold exists?
  rw [eq_of_beq h]
  rfl

/-- What a failure leaves behind does not depend on the directory that was asked for. -/
theorem MakesDirs.of_failure {c : Changed} {f : ChangeFailure} {ss' : List Text}
    (h : w.MakesDirs b ss c) (hf : c.failure = some f) : w.MakesDirs b ss' c := by
  unfold MakesDirs at h ⊢
  rw [hf] at h ⊢
  cases f <;> exact h

/-- With room for all names the directories are made all or none. -/
theorem makesDirs_makeDirsWithin (hc : w.tree.CleanLinks) (hs : Plain ss) (hn : ss.length ≤ n) :
    w.MakesDirs b ss (w.makeDirsWithin n (rooted b ss)) := by
  induction n generalizing ss with
  | zero => exact makesDirs_ensureDir hc hs
  | succ n ih =>
    rcases makeDirsWithin_succ_cases w n (rooted b ss) with hmade | ⟨hmissing, hname, hcases⟩
    · rw [hmade]
      exact makesDirs_ensureDir hc hs
    rcases List.eq_nil_or_concat ss with rfl | ⟨ss, x, rfl⟩
    · exact absurd (by cases b <;> rfl) hname
    rw [List.concat_eq_append] at hs hn hmissing hcases ⊢
    have hx : Plain [x] := hs.right
    have above := ih hs.left (by simpa using hn)
    rw [Path.parentAndName_rooted hs.left hx] at hmissing hcases
    rcases hcases with ⟨hhere, -⟩ | ⟨f, hf, hmade⟩ | ⟨hnone | ⟨q, hf⟩, hmade⟩
    · exact absurd (Or.inr hhere) (hx x (List.mem_singleton_self x)).1.1
    · rw [hmade]
      exact above.of_failure hf
    · unfold MakesDirs at above
      rw [hnone] at above
      rw [hmade]
      obtain ⟨d, hd⟩ := above
      -- Had nothing been made above, the directory above would have been there.
      rcases hd.fresh with ht | ⟨-, hempty⟩
      · obtain ⟨k, hk, hl⟩ := hd.leads
        rw [ht] at hl
        have he := exists?_of_isDir ((isDir_rooted (b := b) hs.left).2 ⟨k, hk, d, hl⟩)
        cases hmissing.symm.trans he
      · exact makesDirs_below hd hempty hs.left hx
    · unfold MakesDirs at above
      rw [hf] at above
      rw [hmade, show (w.makeDirsWithin n (rooted b ss)).tree = w.tree from above]
      exact makesDirs_ensureDir hc hs

theorem makesDirs_makeDirs (hc : w.tree.CleanLinks) (hs : Plain ss) :
    w.MakesDirs b ss (w.makeDirs (rooted b ss)) := by
  rcases makeDirs_cases w (rooted b ss) with hmade | hmade
  · rw [hmade]
    exact (rfl : w.tree = w.tree)
  · rw [hmade]
    exact makesDirs_makeDirsWithin hc hs (Path.length_le_rooted hs)

/-! ## Writing a file -/

/-- What is left when a file is written at the end of a path: the file, which is new or replaces
the one that the path led to. -/
structure WroteFile (w : Workspace) (ss : List Text) (content : Bytes) (t : Tree) (l : Location) :
    Prop where
  leads : ∃ k ≤ maxLinks, t.Leads k [] ss l (.file content)
  rest : ∀ l', l' ≠ l → t.entry? l' = w.tree.entry? l'
  old : w.tree.entry? l = none ∨ ∃ k ≤ maxLinks, ∃ old, w.tree.Leads k [] ss l (.file old)
  keeps : w.tree.Keeps t

/-- A file is put where the path leads, or nothing changes. -/
theorem writeFile_of_walk {dir : Location} (hc : w.tree.CleanLinks)
    (hd : w.tree.entry? dir = some .dir) (hss : Path.isUsable p = true → Tree.CleanSegments ss)
    (hp : w.reach true p = w.tree.walk true maxLinks dir ss) (content : Bytes) :
    (∃ f, w.writeFile p content = ⟨w.tree, some f⟩) ∨
    ∃ l, w.writeFile p content = ⟨w.tree.put l (.file content), none⟩ ∧
      (∃ k ≤ maxLinks, (w.tree.put l (.file content)).Leads k dir ss l (.file content)) ∧
      (w.tree.entry? l = none ∨ ∃ k ≤ maxLinks, ∃ old, w.tree.Leads k dir ss l (.file old)) ∧
      w.tree.Keeps (w.tree.put l (.file content)) := by
  unfold writeFile changing
  rw [hp]
  rcases hu : Path.isUsable p
  · exact Or.inl ⟨_, rfl⟩
  rw [if_pos rfl]
  rcases hr : w.tree.walk true maxLinks dir ss with ⟨l, _ | old | target⟩ | ⟨d, x, _ | _⟩ | why
  · exact Or.inl ⟨_, rfl⟩
  · obtain ⟨k, hk, hl⟩ := Tree.leads_of_walk hr
    have he := hl.entry?_eq hd
    have hself := Tree.entry?_put_self (e := .file content) (Tree.accepts_of_file he)
    have hkeep : w.tree.Keeps (w.tree.put l (.file content)) := Tree.keeps_put (by simp [he])
    have hnew := hl.transfer hkeep (Or.inr ⟨by simp, content, rfl, hself⟩)
    exact Or.inr ⟨l, rfl, ⟨k, hk, hnew⟩, Or.inr ⟨k, hk, old, hl⟩, hkeep⟩
  · exact Or.inl ⟨_, rfl⟩
  · have hf := Tree.freeName_of_walk hc hd (hss hu) hr
    have hself := Tree.entry?_put_self (e := .file content) hf.accepts
    have hnew := hf.leads _ _ hf.keeps hself (Or.inr ⟨rfl, content, rfl⟩)
    exact Or.inr ⟨d ++ [x], rfl, hnew, Or.inl hf.free, hf.keeps⟩
  · exact Or.inl ⟨_, rfl⟩
  · exact Or.inl ⟨_, rfl⟩

theorem writeFile_cases (hc : w.tree.CleanLinks) (hs : Plain ss) (content : Bytes) :
    (∃ f, w.writeFile (rooted b ss) content = ⟨w.tree, some f⟩) ∨
    ∃ t l, w.writeFile (rooted b ss) content = ⟨t, none⟩ ∧ w.WroteFile ss content t l := by
  refine (writeFile_of_walk hc rfl (Path.cleanSegments_of_isUsable hs) (reach_rooted hs)
    content).imp_right ?_
  rintro ⟨l, hw, hl, hold, hkeep⟩
  exact ⟨_, l, hw, hl, fun _ hne => Tree.entry?_put_of_ne hne, hold, hkeep⟩

/-- Nothing stands in the way of a file in an empty directory. -/
theorem writeFile_below {k : Nat} (hl : w.tree.Leads k [] ss d .dir) (hk : k ≤ maxLinks)
    (hs : Plain (ss ++ [x])) (hd : w.tree.entry? (d ++ [x]) = none)
    (hu : Path.isUsable (rooted b (ss ++ [x])) = true) :
    (w.writeFile (rooted b (ss ++ [x])) content).failure = none := by
  unfold writeFile changing
  rw [reach_free hl hk hs hd, if_pos hu]
  rfl

/-! ## A file in a directory made for it -/

/-- The tree differs from that of the workspace in a file, which is new or replaces a file, and in
new directories on the way to the directory. -/
structure Written (w : Workspace) (dir p : Text) (content : Bytes) (t : Tree) (d l : Location) :
    Prop where
  directory : (w.withTree t).reach true dir = .entry d .dir
  file : (w.withTree t).reach true p = .entry l (.file content)
  old : ∀ e, w.tree.entry? l = some e → ∃ content, e = .file content
  rest : ∀ l', l' ≠ l → t.entry? l' = w.tree.entry? l' ∨
    w.tree.entry? l' = none ∧ t.entry? l' = some .dir ∧ l' <+: d

theorem written_of_wroteFile {t' : Tree} (h : w.MadeDirs b ss t d)
    (hf : (w.withTree t).WroteFile (ss ++ [x]) content t' l) (hs : Plain (ss ++ [x])) :
    w.Written (rooted b ss) (rooted b (ss ++ [x])) content t' d l := by
  obtain ⟨k, hk, hl⟩ := h.leads
  obtain ⟨k', hk', hl'⟩ := hf.leads
  constructor
  · rw [reach_rooted hs.left]
    exact (hl.keeps_dir hf.keeps).walk_eq hk
  · rw [reach_rooted hs]
    exact hl'.walk_eq hk'
  · intro e he
    have ht : t.entry? l = some e := by
      rcases h.new l with hsame | ⟨hnone, -⟩
      · rw [hsame, he]
      · rw [he] at hnone
        cases hnone
    rcases hf.old with hnone | ⟨_, -, old, hold⟩
    · rw [show (w.withTree t).tree = t from rfl, ht] at hnone
      cases hnone
    · have hfile : t.entry? l = some (.file old) := hold.entry?_eq rfl
      rw [ht] at hfile
      exact ⟨old, Option.some.inj hfile⟩
  · intro l' hne
    rw [hf.rest l' hne]
    exact h.new l'

end Workspace

end ComponentManifest
