import ComponentManifest.Proofs.LinkFree
import ComponentManifest.Proofs.ReadConfinement
import ComponentManifest.Proofs.RelativePaths
import ComponentManifest.Proofs.ReportedFaults

/-!
# Which files the check passes

The check of a file's path refuses as a traversal whatever begins with two dots when it is
normalised, also a name such as `..a.ts`. What it passes it takes from the real path, so besides the
regular files inside the project it passes a few paths that open nothing.

1. Normalised paths that climb, and those that only begin with two dots.
2. Tracing plain names below a directory.
3. `Stuck`: locations that nothing leads to, where the trace ends in a tree without broken links.
4. Real paths of regular files.
5. `file_check_exact`: what the check answers.
-/

namespace ComponentManifest

open ComponentManifest.Path (Idle Plain Proper rooted)

/-! ## Paths that climb -/

namespace Path

variable {p q x : Text} {ss kept : List Text} {n : Nat}

theorem head?_segments_append (hx : '/' ∉ x) (r : Text) :
    ∃ t, (segments (x ++ r)).head? = some (x ++ t) := by
  induction x with
  | nil => exact ⟨_, List.head?_eq_some_head (segments_ne_nil r)⟩
  | cons c x ih =>
    rw [List.mem_cons, not_or] at hx
    obtain ⟨t, ht⟩ := ih hx.2
    refine ⟨t, ?_⟩
    rw [List.cons_append, segments_cons, if_neg (Ne.symm hx.1), List.head?_modifyHead, ht]
    rfl

theorem prefix_iff_head?_segments (hx : '/' ∉ x) :
    x <+: q ↔ ∃ t, (segments q).head? = some (x ++ t) := by
  constructor
  · rintro ⟨r, rfl⟩
    exact head?_segments_append hx r
  · rintro ⟨t, ht⟩
    obtain ⟨rest, hq⟩ := List.head?_eq_some_iff.1 ht
    have hone : ofSegments [x ++ t] = x ++ t := by
      unfold ofSegments Text.joinWith
      exact List.intercalate_singleton
    rw [← ofSegments_segments q, hq]
    by_cases hrest : rest = []
    · rw [hrest, hone]
      exact List.prefix_append x t
    · have hcut : segments q = [x ++ t] ++ rest := hq
      have hsplit := eq_of_segments_eq_append hcut (by simp) hrest
      rw [← hq, ofSegments_segments, hsplit, hone, List.append_assoc]
      exact List.prefix_append x _

/-- The normalised path leads out of the directory that it is seen from. -/
def Climbs (p : Text) : Prop := (segments (normalize p)).head? = some up

instance (p : Text) : Decidable (Climbs p) := inferInstanceAs (Decidable (_ = _))

/-- The normalised path begins with a name that begins with two dots. -/
def BeginsWithDots (p : Text) : Prop :=
  ∃ c t, (segments (normalize p)).head? = some (up ++ c :: t)

theorem up_prefix_normalize : up <+: normalize p ↔ Climbs p ∨ BeginsWithDots p := by
  rw [prefix_iff_head?_segments (by decide)]
  constructor
  · rintro ⟨_ | ⟨c, t⟩, h⟩
    · exact .inl h
    · exact .inr ⟨c, t, h⟩
  · rintro (h | ⟨c, t, h⟩)
    · exact ⟨[], h⟩
    · exact ⟨c :: t, h⟩

/-- Steps up that a relative path keeps stand before its names. -/
theorem exists_foldl_push_false (xs : List Text) (h : up ∉ kept) :
    ∃ ms m, xs.foldl (push false) (kept ++ List.replicate n up) = ms ++ List.replicate m up ∧
      up ∉ ms := by
  induction xs generalizing kept n with
  | nil => exact ⟨kept, n, rfl, h⟩
  | cons x xs ih =>
    rw [List.foldl_cons]
    by_cases hi : Idle x
    · rw [push_idle hi]
      exact ih h
    by_cases hu : x = up
    · subst hu
      rcases kept with _ | ⟨k, ks⟩
      · have hup : push false (List.replicate n up) up = List.replicate (n + 1) up := by
          cases n <;> rfl
        rw [List.nil_append, hup]
        exact ih (n := n + 1) h
      · rw [List.mem_cons, not_or] at h
        rw [List.cons_append, push_up_cons (Ne.symm h.1)]
        exact ih h.2
    · rw [push_proper ⟨hi, hu⟩, ← List.cons_append]
      exact ih fun hm => (List.mem_cons.1 hm).elim (fun he => hu he.symm) h

/-- A normalised relative path that does not climb is the directory itself or passes only names. -/
theorem plain_normalize (hp : isAbsolute p = false) (h : ¬ Climbs p) :
    segments (normalize p) = [here] ∨ Plain (segments (normalize p)) := by
  obtain ⟨ms, m, hms, hup⟩ := exists_foldl_push_false (n := 0) (segments p) List.not_mem_nil
  have hcollapse : collapse false (segments p) = List.replicate m up ++ ms.reverse := by
    unfold collapse
    rw [show ([] : List Text) = [] ++ List.replicate 0 up from rfl, hms, List.reverse_append,
      List.reverse_replicate]
  unfold Climbs at h
  rw [segments_normalize hp] at h ⊢
  by_cases hnil : collapse false (segments p) = []
  · exact .inl (if_pos hnil)
  rw [if_neg hnil] at h ⊢
  have hm : m = 0 := by
    by_contra hm
    obtain ⟨m, rfl⟩ := Nat.exists_eq_succ_of_ne_zero hm
    rw [hcollapse] at h
    exact h rfl
  refine .inr fun s hs => ⟨⟨(mem_collapse hs).2, ?_⟩, slash_not_mem (mem_collapse hs).1⟩
  rintro rfl
  rw [hcollapse, hm] at hs
  exact hup (by simpa using hs)

end Path

/-! ## Tracing names -/

namespace Tree

variable {t : Tree} {enter : Location → Text → Traced} {dir d l : Location} {a b ss : List Text}
  {s x : Text} {e : Entry} {k : Nat} {content : Bytes}

theorem followWith_append (h : t.followWith enter dir a = ⟨d, true⟩) :
    t.followWith enter dir (a ++ b) = t.followWith enter d b := by
  induction a generalizing dir with
  | nil => cases h; rfl
  | cons s a ih =>
    rw [List.cons_append]
    by_cases hi : Idle s
    · rw [followWith_idle hi] at h ⊢
      exact ih h
    by_cases hu : s = Path.up
    · subst hu
      rw [followWith_up] at h ⊢
      exact ih h
    rw [followWith_proper ⟨hi, hu⟩] at h ⊢
    rcases he : t.entry? (dir ++ [s]) with _ | (_ | _ | target) <;> rw [he] at h
    · exact ih h
    · exact ih h
    · exact ih h
    · dsimp only at h ⊢
      split at h
      · next hr => exact (if_pos hr).trans (ih h)
      · cases h

theorem appendText_plain (h : Plain ss) : appendText l ss = l ++ ss := by
  have hbase : appendText l ss = (ss.foldl (Path.push true) l.reverse).reverse := by
    unfold appendText
    split
    · exact absurd rfl (h.ne_nil List.mem_cons_self)
    · rfl
  rw [hbase, Path.foldl_push_plain h, List.reverse_append, List.reverse_reverse,
    List.reverse_reverse]

/-- Below what is no directory names are kept as they are. -/
theorem followWith_of_not_dir (hd : t.entry? dir ≠ some .dir) (hs : Plain ss) :
    t.followWith enter dir ss = ⟨dir ++ ss, true⟩ := by
  induction ss generalizing dir with
  | nil => rw [List.append_nil]; rfl
  | cons s ss ih =>
    have hnone : t.entry? (dir ++ [s]) = none := entry?_concat_eq_none hd
    rw [followWith_proper (hs s List.mem_cons_self).1, hnone]
    show t.followWith enter (dir ++ [s]) ss = _
    rw [ih (by simp [hnone]) fun x hx => hs x (List.mem_cons_of_mem s hx), List.append_assoc]
    rfl

/-- A name that no entry can have stays in the traced location. -/
theorem mem_followWith_of_not_valid (hs : Plain ss) (hx : x ∈ ss) (hn : ¬ ValidName x) :
    x ∈ (t.followWith enter dir ss).location := by
  induction ss generalizing dir with
  | nil => exact absurd hx List.not_mem_nil
  | cons s ss ih =>
    have hss : Plain ss := fun y hy => hs y (List.mem_cons_of_mem s hy)
    rw [followWith_proper (hs s List.mem_cons_self).1]
    rcases List.mem_cons.1 hx with rfl | hx
    · have hnone : t.entry? (dir ++ [x]) = none := by
        by_contra he
        obtain ⟨e, he⟩ := Option.ne_none_iff_exists'.1 he
        exact hn (validName_of_eq_some he)
      rw [hnone]
      show x ∈ (t.followWith enter (dir ++ [x]) ss).location
      rw [followWith_of_not_dir (by simp [hnone]) hss]
      simp
    · rcases t.entry? (dir ++ [s]) with _ | (_ | _ | target)
      · exact ih hss hx
      · exact ih hss hx
      · exact ih hss hx
      · dsimp only
        split
        · exact ih hss hx
        · rw [appendText_plain hss]
          exact List.mem_append_right _ hx

/-! ## Where a trace can end -/

/-- Links are entered rightly: one that leads somewhere gives the place. -/
def Resolves (t : Tree) (enter : Location → Text → Traced) : Prop :=
  ∀ link target k l e, t.entry? link = some (.link target) →
    t.Leads k (startOf link.dropLast target) (Path.segments target) l e →
      enter link target = ⟨l, true⟩

theorem exists_resolves (t : Tree) :
    ∃ enter, t.Resolves enter ∧
      ∀ dir ss, t.follow (t.entries.length + 1) [] dir ss = t.followWith enter dir ss := by
  refine ⟨_, ?_, fun dir ss => rfl⟩
  intro link target k l e he hl
  have hcost : t.Costs link k := ⟨target, l, e, he, hl⟩
  have hbusy : t.Entering [link] k := (Entering.nil (k := k + 1)).cons hcost (Nat.lt_succ_self k)
  have hidle : ¬ ([] : List Location).contains link = true := by simp
  exact (if_neg hidle).trans (follow_of_leads hl hbusy (by simp))

theorem plain_location (h : t.entry? l = some e) : Plain l := plain_of_entry? (d := []) h

theorem leads_self (h : t.entry? l = some e) (he : ∀ target, e ≠ .link target) :
    t.Leads 0 [] l l e := by
  induction l using List.reverseRecOn generalizing e with
  | nil => cases h; exact .arrive []
  | append_singleton l x ih =>
    have hparent : t.entry? l = some .dir := by
      have := entry?_dropLast h
      rwa [List.dropLast_concat] at this
    have hx : Proper x := (plain_of_validName (validName_of_eq_some h) x (by simp)).1
    have hlast : t.Leads 0 l [x] (l ++ [x]) e := by
      rcases e with _ | content | target
      · exact .enter hx h (.arrive _)
      · exact .file hx h
      · exact absurd rfl (he target)
    exact (ih hparent (by simp)).append hlast

theorem Leads.entry?_of_file (h : t.Leads k dir ss l (.file content)) :
    t.entry? l = some (.file content) := by
  generalize he : Entry.file content = e at h
  induction h with
  | arrive => cases he
  | idle _ _ ih => exact ih he
  | up _ ih => exact ih he
  | enter _ _ _ ih => exact ih he
  | file _ hf => exact hf
  | follow _ _ _ ih => exact ih he

/-- Names to which nothing leads. -/
structure Stuck (t : Tree) (l : Location) : Prop where
  plain : Plain l
  nothing : ∀ k l' e, ¬ t.Leads k [] l l' e

theorem stuck_of_none (hd : t.entry? d = some .dir) (hs : Plain (s :: ss))
    (hn : t.entry? (d ++ [s]) = none) : t.Stuck (d ++ s :: ss) where
  plain := (plain_location hd).append hs
  nothing := by
    intro k l' e h
    obtain ⟨k₁, k₂, d', -, h₁, h₂⟩ := h.split (List.cons_ne_nil s ss)
    obtain ⟨-, rfl, -⟩ := h₁.unique (leads_self hd (by simp))
    have hp : Proper s := (hs s List.mem_cons_self).1
    rcases h₂.proper_cases hp with ⟨he, -⟩ | ⟨_, he, -⟩ | ⟨_, _, he, -⟩
    · cases hn.symm.trans he
    · cases hn.symm.trans he
    · cases hn.symm.trans he

theorem stuck_of_file (hf : t.entry? l = some (.file content)) (hs : Plain ss) (hne : ss ≠ []) :
    t.Stuck (l ++ ss) where
  plain := (plain_location hf).append hs
  nothing := by
    intro k l' e h
    obtain ⟨k₁, k₂, d', -, h₁, h₂⟩ := h.split hne
    obtain ⟨-, -, he⟩ := h₁.unique (leads_self hf (by simp))
    cases he

/-- The link leads nowhere. -/
def Broken (t : Tree) (link : Location) : Prop :=
  ∃ target, t.entry? link = some (.link target) ∧
    ∀ k l e, ¬ t.Leads k (startOf link.dropLast target) (Path.segments target) l e

theorem Leads.ne_link (h : t.Leads k dir ss l e) (target : Text) : e ≠ .link target := by
  induction h with
  | arrive => simp
  | idle _ _ ih => exact ih
  | up _ ih => exact ih
  | enter _ _ _ ih => exact ih
  | file => simp
  | follow _ _ _ ih => exact ih

/-- The trace of names ends where they lead, or nowhere, if it does so from each directory that the
segments before them lead to. -/
theorem followWith_cases_of_leads {a : List Text} (h : t.Leads k d a l e)
    (hd : t.entry? d = some .dir) (hs : Plain ss)
    (hdir : t.entry? l = some .dir →
      (∃ k e, t.Leads k l ss (t.followWith enter l ss).location e) ∨
        t.Stuck (t.followWith enter l ss).location) :
    (∃ k e, t.Leads k d (a ++ ss) (t.followWith enter l ss).location e) ∨
      t.Stuck (t.followWith enter l ss).location := by
  have hl : t.entry? l = some e := h.entry?_eq hd
  rcases e with _ | content | target
  · exact (hdir hl).imp_left fun ⟨k', e, h'⟩ => ⟨_, e, h.append h'⟩
  · rw [followWith_of_not_dir (by simp [hl]) hs]
    by_cases hne : ss = []
    · subst hne
      rw [List.append_nil, List.append_nil]
      exact Or.inl ⟨k, _, h⟩
    · exact Or.inr (stuck_of_file hl hs hne)
  · exact absurd rfl (h.ne_link target)

/-- Without broken links the trace of names below a directory ends where they lead, or nowhere. -/
theorem followWith_cases (henter : t.Resolves enter) (hlinks : ∀ link, ¬ t.Broken link)
    (hd : t.entry? d = some .dir) (hs : Plain ss) :
    (∃ k e, t.Leads k d ss (t.followWith enter d ss).location e) ∨
      t.Stuck (t.followWith enter d ss).location := by
  induction ss generalizing d with
  | nil => exact .inl ⟨0, .dir, .arrive d⟩
  | cons s ss ih =>
    have hss : Plain ss := fun y hy => hs y (List.mem_cons_of_mem s hy)
    have hp : Proper s := (hs s List.mem_cons_self).1
    rw [followWith_proper hp]
    rcases he : t.entry? (d ++ [s]) with _ | (_ | content | target)
    · right
      show t.Stuck (t.followWith enter (d ++ [s]) ss).location
      rw [followWith_of_not_dir (by simp [he]) hss, List.append_assoc]
      exact stuck_of_none hd hs he
    · exact followWith_cases_of_leads (.enter hp he (.arrive _)) hd hss fun hl => ih hl hss
    · exact followWith_cases_of_leads (.file hp he) hd hss fun hl => ih hl hss
    · obtain ⟨c, l, e, hl⟩ : ∃ c l e, t.Leads c (startOf d target) (Path.segments target) l e := by
        by_contra hno
        refine hlinks (d ++ [s]) ⟨target, he, fun c l e hl => hno ⟨c, l, e, ?_⟩⟩
        rwa [List.dropLast_concat] at hl
      have hinner : enter (d ++ [s]) target = ⟨l, true⟩ :=
        henter _ target c l e he (by rwa [List.dropLast_concat])
      have hlink : t.Leads (c + 1) d [s] l e := .follow hp he (by rwa [List.append_nil])
      dsimp only
      rw [hinner, if_pos rfl]
      exact followWith_cases_of_leads hlink hd hss fun hdir => ih hdir hss

end Tree

/-! ## Real paths of files -/

namespace Workspace

variable {w : Workspace} {base p : Text} {d l : Location} {k : Nat} {e : Entry} {content : Bytes}

/-- The path whose real path is checked. -/
def checkedPath (base p : Text) : Text := Path.join base (Path.normalize p)

/-- Opening the path gives a file inside the base. -/
def HoldsFile (w : Workspace) (base p : Text) : Prop :=
  ∃ l, w.Opens (checkedPath base p) l ∧ w.realLocation base <+: l

/-- Opening the path gives no file, but its real path, which goes on where the operating system
stops, is that of a file inside the base. -/
structure TextOnly (w : Workspace) (base p : Text) : Prop where
  unopened : ∀ l, ¬ w.Opens (checkedPath base p) l
  file : w.isFile (w.realPath (checkedPath base p)) = true
  inside : w.realLocation base <+: w.realLocation (checkedPath base p)

theorem ne_nil_of_isDir (h : w.isDir base = true) : base ≠ [] := by
  rintro rfl
  cases h

theorem exists_leads_lead (h : w.isDir base = true) :
    ∃ k d, w.tree.Leads k (Tree.startOf w.cwd base) (Path.lead base) d .dir := by
  obtain ⟨d, hr⟩ := isDir_iff.1 h
  obtain ⟨k, -, hl⟩ := leads_of_reach hr
  rcases Path.segments_eq_lead base with ⟨hs, -⟩ | hs
  · exact ⟨k, d, hs ▸ hl⟩
  · rw [hs] at hl
    obtain ⟨k₁, -, d', -, h₁, -⟩ := hl.split (List.cons_ne_nil [] [])
    exact ⟨k₁, d', h₁⟩

theorem exists_realLocation_eq (hb : base ≠ []) (ha : Path.isAbsolute p = false)
    (hl : w.tree.Leads k (Tree.startOf w.cwd base) (Path.lead base) d .dir) :
    ∃ enter, w.tree.Resolves enter ∧
      w.realLocation (checkedPath base p) =
        (w.tree.followWith enter d (Path.segments (Path.normalize p))).location := by
  obtain ⟨enter, henter, hfollow⟩ := w.tree.exists_resolves
  have hn : Path.isAbsolute (Path.normalize p) = false := Path.isAbsolute_normalize ha
  have hstart : Tree.startOf w.cwd (checkedPath base p) = Tree.startOf w.cwd base := by
    unfold Tree.startOf checkedPath
    rw [Path.isAbsolute_join hb hn]
  have hbase : w.tree.followWith enter (Tree.startOf w.cwd base) (Path.lead base) = ⟨d, true⟩ :=
    Tree.followWith_of_leads (fun link target c l e _ => henter link target c l e) hl
      (Nat.le_refl k)
  refine ⟨enter, henter, ?_⟩
  unfold realLocation
  rw [hfollow, hstart, checkedPath, Path.segments_join hb hn, Tree.followWith_append hbase]

theorem isFile_path_of_entry? (h : w.tree.entry? l = some (.file content)) :
    w.isFile l.path = true := by
  have hp : Plain l := Tree.plain_location h
  exact (isFile_rooted (b := false) hp).2
    ⟨0, Nat.zero_le _, l, content, Tree.leads_self h (by simp)⟩

theorem exists_content_of_isFile_path (h : w.tree.entry? l = some e)
    (he : ∀ target, e ≠ .link target) (hf : w.isFile l.path = true) :
    ∃ content, e = .file content := by
  have hp : Plain l := Tree.plain_location h
  obtain ⟨k, -, l', content, hl⟩ := (isFile_rooted (b := false) hp).1 hf
  obtain ⟨-, -, heq⟩ := (Tree.leads_self h he).unique hl
  exact ⟨content, heq⟩

theorem mem_path {x : Text} {c : Char} (hx : x ∈ l) (hc : c ∈ x) : c ∈ l.path := by
  refine List.mem_cons_of_mem _ ?_
  show c ∈ List.intercalate ['/'] l
  induction l with
  | nil => exact absurd hx List.not_mem_nil
  | cons y l ih =>
    rcases l with _ | ⟨z, l⟩
    · rw [List.mem_singleton] at hx
      rwa [List.intercalate_singleton, ← hx]
    · rw [List.intercalate_cons_cons, List.mem_append, List.mem_append]
      rcases List.mem_cons.1 hx with rfl | hx
      · exact .inl (.inl hc)
      · exact .inr (ih hx)

/-- The real path of a checked path is that of a file only if the operating system can be given the
checked path. -/
theorem isUsable_checkedPath (hbase : w.isDir base = true) (ha : Path.isAbsolute p = false)
    (hclimb : ¬ Path.Climbs p) (hf : w.isFile (w.realPath (checkedPath base p)) = true) :
    Path.isUsable (checkedPath base p) = true := by
  have hb := ne_nil_of_isDir hbase
  obtain ⟨k, d, hl⟩ := exists_leads_lead hbase
  obtain ⟨enter, -, hreal⟩ := exists_realLocation_eq hb ha hl
  refine Path.isUsable_of_segments fun x hx => ?_
  rw [checkedPath, Path.segments_join hb (Path.isAbsolute_normalize ha), List.mem_append] at hx
  rcases hx with hx | hx
  · exact hl.isUsable x hx
  rcases Path.plain_normalize ha hclimb with hhere | hplain
  · rw [hhere, List.mem_singleton] at hx
    subst hx
    decide
  · by_contra hlost
    have hx' : x ∈ w.realLocation (checkedPath base p) := by
      rw [hreal]
      exact Tree.mem_followWith_of_not_valid hplain hx fun hv => hlost hv.2.2.1
    exact hlost (Path.isUsable_of_subset (isUsable_of_isFile hf) fun c hc => .inl (mem_path hx' hc))

theorem Opens.isFile_realPath {q : Text} (h : w.Opens q l) : w.isFile (w.realPath q) = true := by
  obtain ⟨content, hr⟩ := h
  unfold realPath
  rw [realLocation_of_reach hr]
  obtain ⟨k, -, hl⟩ := leads_of_reach hr
  exact isFile_path_of_entry? hl.entry?_of_file

/-- Where the operating system finds no file and the real path is that of one, there is a broken
link in the tree, or the path leads through more links than are followed. -/
theorem TextOnly.cause (h : w.TextOnly base p) (hcwd : w.tree.entry? w.cwd = some .dir)
    (hbase : w.isDir base = true) (ha : Path.isAbsolute p = false) (hclimb : ¬ Path.Climbs p) :
    (∃ link, w.tree.Broken link) ∨
      ∃ k l content, maxLinks < k ∧ w.tree.Leads k (Tree.startOf w.cwd base)
        (Path.segments (checkedPath base p)) l (.file content) := by
  by_cases hbroken : ∃ link, w.tree.Broken link
  · exact .inl hbroken
  right
  have hb := ne_nil_of_isDir hbase
  obtain ⟨k, d, hl⟩ := exists_leads_lead hbase
  have hd : w.tree.entry? d = some .dir := hl.entry?_eq (Tree.startOf_dir hcwd)
  obtain ⟨enter, henter, hreal⟩ := exists_realLocation_eq hb ha hl
  have hcases : (∃ k e, w.tree.Leads k d (Path.segments (Path.normalize p))
        (w.realLocation (checkedPath base p)) e) ∨
      w.tree.Stuck (w.realLocation (checkedPath base p)) := by
    rw [hreal]
    rcases Path.plain_normalize ha hclimb with hhere | hplain
    · rw [hhere]
      exact .inl ⟨0, .dir, .idle (.inr rfl) (.arrive d)⟩
    · exact Tree.followWith_cases henter (not_exists.1 hbroken) hd hplain
  have hfile := h.file
  unfold realPath at hfile
  generalize w.realLocation (checkedPath base p) = l at hcases hfile
  rcases hcases with ⟨k', e, hl'⟩ | hstuck
  · have he : w.tree.entry? l = some e := hl'.entry?_eq hd
    obtain ⟨content, rfl⟩ := exists_content_of_isFile_path he hl'.ne_link hfile
    have hall : w.tree.Leads (k + k') (Tree.startOf w.cwd base)
        (Path.segments (checkedPath base p)) l (.file content) := by
      rw [checkedPath, Path.segments_join hb (Path.isAbsolute_normalize ha)]
      exact hl.append hl'
    refine ⟨k + k', l, content, ?_, hall⟩
    -- Within the limit on links the operating system would open this very file.
    by_contra hk
    refine h.unopened l ⟨content, ?_⟩
    rw [checkedPath, reach_eq_walk hb (Path.isAbsolute_normalize ha)]
    exact (hl.append hl').walk_eq (Nat.not_lt.1 hk)
  · obtain ⟨k', -, l', content, hl'⟩ := (isFile_rooted (b := false) hstuck.plain).1 hfile
    exact absurd hl' (hstuck.nothing k' l' _)

end Workspace

/-! ## The answers of the check -/

section Check

open Workspace

variable {w : Workspace} {base p : Text}

/-- The questions that the check asks of a relative path, one after another. -/
theorem checkFile_eq (hb : base ≠ []) (hp : p ≠ []) (ha : Path.isAbsolute p = false)
    (hc : (p.drop 1).head? ≠ some ':') :
    checkFile w p base =
      if Path.up <+: Path.normalize p then .ok (some (.traversal p))
      else if Path.isUsable (checkedPath base p) = false then
        .error (.ofPath (Path.untilUnusable (checkedPath base p)))
      else if w.realLocation base <+: w.realLocation (checkedPath base p) then
        if w.isFile (w.realPath (checkedPath base p)) = true then .ok none
        else .ok (some (.missing p))
      else .ok (some .outside) := by
  have hp' : p.isEmpty = false := by simpa using hp
  have hb' : base.isEmpty = false := by simpa using hb
  have hc' : ((p.drop 1).head? == some ':') = false := by simpa using hc
  unfold checkFile
  rw [hp', hb', ha, hc']
  show (if Path.up.isPrefixOf (Path.normalize p) then _ else if !Path.isUsable (checkedPath base p)
    then _ else if !(w.realLocation base).isPrefixOf (w.realLocation (checkedPath base p)) then _
    else if !w.isFile (w.realPath (checkedPath base p)) then _ else _) = _
  simp only [← List.isPrefixOf_iff_prefix, Bool.not_eq_eq_eq_not, Bool.not_true]
  cases (w.realLocation base).isPrefixOf (w.realLocation (checkedPath base p)) <;>
    cases w.isFile (w.realPath (checkedPath base p)) <;> rfl

theorem checkFile_eq_traversal_iff (hb : base ≠ []) (hp : p ≠ []) (ha : Path.isAbsolute p = false)
    (hc : (p.drop 1).head? ≠ some ':') :
    checkFile w p base = .ok (some (.traversal p)) ↔ Path.Climbs p ∨ Path.BeginsWithDots p := by
  rw [checkFile_eq hb hp ha hc, ← Path.up_prefix_normalize]
  split
  · next h => exact iff_of_true rfl h
  · next h =>
    refine iff_of_false ?_ h
    split
    · simp
    split
    · split <;> simp
    · simp

theorem checkFile_eq_none_iff (hbase : w.isDir base = true) (hp : p ≠ [])
    (ha : Path.isAbsolute p = false) (hc : (p.drop 1).head? ≠ some ':') :
    checkFile w p base = .ok none ↔
      ¬ Path.Climbs p ∧ ¬ Path.BeginsWithDots p ∧ (w.HoldsFile base p ∨ w.TextOnly base p) := by
  rw [← and_assoc, ← not_or, ← Path.up_prefix_normalize,
    checkFile_eq (ne_nil_of_isDir hbase) hp ha hc]
  constructor
  · intro h
    split at h
    · cases h
    next hup =>
    split at h
    · cases h
    split at h
    · next hin =>
      split at h
      · next hfile =>
        refine ⟨hup, ?_⟩
        by_cases hopen : ∃ l, w.Opens (checkedPath base p) l
        · obtain ⟨l, hl⟩ := hopen
          rw [hl.realLocation_eq] at hin
          exact .inl ⟨l, hl, hin⟩
        · exact .inr ⟨not_exists.1 hopen, hfile, hin⟩
      · cases h
    · cases h
  · rintro ⟨hup, h⟩
    have hfile : w.isFile (w.realPath (checkedPath base p)) = true ∧
        w.realLocation base <+: w.realLocation (checkedPath base p) := by
      rcases h with ⟨l, hl, hin⟩ | h
      · rw [hl.realLocation_eq]
        exact ⟨hl.isFile_realPath, hin⟩
      · exact ⟨h.file, h.inside⟩
    have hclimb : ¬ Path.Climbs p := fun hc => hup (Path.up_prefix_normalize.2 (.inl hc))
    have husable := isUsable_checkedPath hbase ha hclimb hfile.1
    rw [if_neg hup, if_neg (by simp [husable]), if_pos hfile.2, if_pos hfile.1]

/-- A path is refused as a traversal exactly if its normal form climbs or begins with two dots, and
passes exactly if it opens a file inside the base or its text alone does. -/
theorem file_check_exact (hbase : w.isDir base = true) (hp : p ≠ [])
    (ha : Path.isAbsolute p = false) (hc : (p.drop 1).head? ≠ some ':') :
    (checkFile w p base = .ok (some (.traversal p)) ↔ Path.Climbs p ∨ Path.BeginsWithDots p) ∧
      (checkFile w p base = .ok none ↔
        ¬ Path.Climbs p ∧ ¬ Path.BeginsWithDots p ∧ (w.HoldsFile base p ∨ w.TextOnly base p)) ∧
      (¬ Path.Climbs p → w.TextOnly base p → w.tree.entry? w.cwd = some .dir →
        (∃ link, w.tree.Broken link) ∨
          ∃ k l content, maxLinks < k ∧ w.tree.Leads k (Tree.startOf w.cwd base)
            (Path.segments (checkedPath base p)) l (.file content)) :=
  ⟨checkFile_eq_traversal_iff (ne_nil_of_isDir hbase) hp ha hc, checkFile_eq_none_iff hbase hp ha hc,
    fun hclimb h hcwd => h.cause hcwd hbase ha hclimb⟩

/-- A project `/p` with a file whose name begins with two dots, and a link `k` through a directory
that is missing. -/
def dottedProject : Workspace where
  tree := {
    entries := [([['p']], .dir), ([['p'], "..a.ts".toList], .file []),
      ([['p'], "b.ts".toList], .file []), ([['p'], ['k']], .link "missing/../b.ts".toList)]
    named := by decide
    closed := by decide
    distinct := by decide }
  cwd := []

/-- The link passes the check by its text, for the tree has a broken link: this one. -/
theorem file_check_exact_broken_link :
    dottedProject.isDir "/p".toList = true ∧ dottedProject.TextOnly "/p".toList ['k'] ∧
      checkFile dottedProject ['k'] "/p".toList = .ok none ∧
      ((∃ link, dottedProject.tree.Broken link) ∨
        ∃ k l content, maxLinks < k ∧ dottedProject.tree.Leads k []
          (Path.segments (checkedPath "/p".toList ['k'])) l (.file content)) := by
  have hbase : dottedProject.isDir "/p".toList = true := by decide
  have htext : dottedProject.TextOnly "/p".toList ['k'] := by
    refine ⟨fun l => ?_, by decide, by decide⟩
    rintro ⟨content, hr⟩
    have hnone : dottedProject.reach true (checkedPath "/p".toList ['k']) = .blocked .notFound := by
      decide
    rw [hnone] at hr
    cases hr
  obtain ⟨-, hnone, hcause⟩ := file_check_exact (p := ['k']) hbase (by decide) (by decide) (by decide)
  have hdots : ¬ Path.BeginsWithDots ['k'] := by
    rintro ⟨c, t, h⟩
    cases h
  exact ⟨hbase, htext, hnone.2 ⟨by decide, hdots, .inr htext⟩, hcause (by decide) htext rfl⟩

/-- The file `..a.ts` lies in the project and its path does not climb, but it is refused as a
traversal. -/
theorem dotted_name_is_refused :
    dottedProject.isDir "/p".toList = true ∧
      ¬ Path.Climbs "..a.ts".toList ∧ dottedProject.HoldsFile "/p".toList "..a.ts".toList ∧
      checkFile dottedProject "..a.ts".toList "/p".toList =
        .ok (some (.traversal "..a.ts".toList)) := by
  refine ⟨by decide, by decide, ⟨[['p'], "..a.ts".toList], ⟨[], by decide⟩, by decide⟩, by decide⟩

end Check

end ComponentManifest
