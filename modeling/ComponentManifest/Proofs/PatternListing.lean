import ComponentManifest.Project.Config
import ComponentManifest.Proofs.PatternPaths
import ComponentManifest.Proofs.PlainPath

/-!
# Listing by the default patterns

The default patterns are made of stars and an extension. Below a rooted directory they list paths
made of plain names, and every visible file at the right depth.

1. The names in a directory are plain, and a path to an entry goes through listed names.
2. `matchesName_star_literal`: a star and literal characters match the names that end in them.
3. What a segment of a default pattern stands for.
4. The directories that lead to a file.
5. The paths of the component pattern, and those of the file pattern.
6. `glob_eq_ok`: listing an existing directory does not fail.
-/

namespace ComponentManifest

open ComponentManifest.Path (Plain Proper rooted)

/-! ## Names in a directory -/

namespace Tree

variable {t : Tree} {k : Nat} {dir l : Location} {e : Entry} {s x : Text} {ss : List Text}

theorem mem_entries_of_eq_some (h : t.entry? l = some e) (hl : l ≠ []) : (l, e) ∈ t.entries := by
  unfold entry? entryIn at h
  rw [if_neg hl] at h
  obtain ⟨xs, ys, hes, -⟩ := List.lookup_eq_some_iff.1 h
  rw [hes]
  simp

theorem validName_of_eq_some (h : t.entry? (dir ++ [s]) = some e) : ValidName s :=
  (t.named _ (mem_entries_of_eq_some h (by simp))).2 s (by simp)

theorem mem_children_of_eq_some (h : t.entry? (dir ++ [s]) = some e) : s ∈ t.children dir :=
  List.mem_filterMap.2 ⟨_, mem_entries_of_eq_some h (by simp), by simp⟩

theorem validName_of_mem_children (h : x ∈ t.children l) : ValidName x := by
  obtain ⟨entry, hm, hx⟩ := List.mem_filterMap.1 h
  split at hx
  · exact (t.named entry hm).2 x (List.mem_of_getLast? hx)
  · cases hx

theorem plain_of_validName (h : ValidName x) : Plain [x] := by
  obtain ⟨hn, hs, -, hh, hu⟩ := h
  intro s hm
  rw [List.mem_singleton.1 hm]
  exact ⟨⟨fun hi => hi.elim hn hh, hu⟩, hs⟩

/-- Every segment that leads somewhere is the name of an entry, or holds no more than dots. -/
theorem Leads.forall_segments {P : Text → Prop} (h : t.Leads k dir ss l e) (hn : P [])
    (hh : P Path.here) (hu : P Path.up)
    (hname : ∀ dir s e, t.entry? (dir ++ [s]) = some e → P s) : ∀ s ∈ ss, P s := by
  induction h with
  | arrive => exact fun s hs => absurd hs List.not_mem_nil
  | idle hi _ ih =>
    refine List.forall_mem_cons.2 ⟨?_, ih⟩
    rcases hi with rfl | rfl
    · exact hn
    · exact hh
  | up _ ih => exact List.forall_mem_cons.2 ⟨hu, ih⟩
  | enter _ he _ ih => exact List.forall_mem_cons.2 ⟨hname _ _ _ he, ih⟩
  | file _ he =>
    intro s hs
    exact List.mem_singleton.1 hs ▸ hname _ _ _ he
  | follow _ he _ ih =>
    exact List.forall_mem_cons.2 ⟨hname _ _ _ he, fun s hs => ih s (List.mem_append_right _ hs)⟩

theorem Leads.isUsable (h : t.Leads k dir ss l e) : ∀ s ∈ ss, Path.isUsable s = true :=
  h.forall_segments (by decide) (by decide) (by decide) fun _ _ _ he =>
    (validName_of_eq_some he).2.2.1

/-- Before a last name the segments lead to a directory that lists the name. -/
theorem Leads.parent (h : t.Leads k dir (ss ++ [x]) l e) (hx : Proper x) :
    ∃ k' ≤ k, ∃ d, t.Leads k' dir ss d .dir ∧ x ∈ t.children d := by
  obtain ⟨k₁, k₂, d, rfl, h₁, h₂⟩ := h.split (List.cons_ne_nil x [])
  refine ⟨k₁, Nat.le_add_right .., d, h₁, ?_⟩
  rcases h₂.proper_cases hx with ⟨he, -⟩ | ⟨_, he, -⟩ | ⟨_, _, he, -⟩
  · exact mem_children_of_eq_some he
  · exact mem_children_of_eq_some he
  · exact mem_children_of_eq_some he

end Tree

/-! ## Stars and extensions -/

namespace Glob

variable {ext lit n t u : Text}

/-- A star leaves any suffix to what comes after it. -/
theorem accepts_many {ts : List Token} :
    accepts (.many :: ts) t = true ↔ ∃ u, u <:+ t ∧ accepts ts u = true := by
  simp only [accepts, List.any_eq_true, List.mem_range]
  constructor
  · rintro ⟨n, -, h⟩
    exact ⟨t.drop n, List.drop_suffix n t, h⟩
  · rintro ⟨u, hu, h⟩
    refine ⟨t.length - u.length, by omega, ?_⟩
    rwa [← List.suffix_iff_eq_drop.1 hu]

/-- Characters that stand for themselves in a pattern. -/
def Literal (lit : Text) : Prop := ∀ c ∈ lit, c ≠ '*' ∧ c ≠ '?' ∧ c ≠ '['

instance (lit : Text) : Decidable (Literal lit) :=
  List.decidableBAll (fun c => c ≠ '*' ∧ c ≠ '?' ∧ c ≠ '[') lit

theorem tokensFrom_literal (h : Literal lit) :
    tokensFrom 0 lit = lit.map fun c => .one (.single c) := by
  induction lit with
  | nil => rfl
  | cons c cs ih =>
    obtain ⟨h₁, h₂, h₃⟩ := h c List.mem_cons_self
    unfold tokensFrom
    rw [if_neg h₁, if_neg h₂, if_neg h₃, ih fun x hx => h x (List.mem_cons_of_mem c hx)]
    rfl

theorem contains_single {c d : Char} : (CharSet.single c).contains d = true ↔ d = c := by
  simp only [CharSet.single, CharSet.contains, List.any_cons, List.any_nil, Bool.or_false,
    bne_iff_ne, ne_eq, Bool.not_eq_false, Bool.and_eq_true, decide_eq_true_eq]
  exact ⟨fun h => Char.le_antisymm h.2 h.1, fun h => h ▸ ⟨Char.le_refl d, Char.le_refl d⟩⟩

theorem accepts_literal :
    accepts (lit.map fun c => .one (.single c)) t = true ↔ t = lit := by
  induction lit generalizing t with
  | nil => simp [accepts]
  | cons c cs ih =>
    rcases t with _ | ⟨d, ds⟩
    · simp [accepts]
    · simp only [List.map_cons, accepts, Bool.and_eq_true, contains_single, ih, List.cons.injEq]

theorem matchesName_star_literal (h : Literal lit) :
    matchesName ('*' :: lit) n = true ↔ lit <:+ n := by
  have ht : tokens ('*' :: lit) = .many :: lit.map fun c => .one (.single c) := by
    rw [← tokensFrom_literal h]
    rfl
  unfold matchesName
  rw [ht]
  simp only [accepts_many, accepts_literal, exists_eq_right]

end Glob

namespace Workspace

variable {w : Workspace} {b od : Bool} {ss ms rest : List Text} {dir base d p s x y z ext : Text}
  {k n : Nat} {l : Location} {e : Entry}

/-! ## One segment of a default pattern -/

theorem mem_expand_star {lit : Text} (h : Glob.Literal lit) :
    x ∈ w.expand od dir ('*' :: lit) ↔
      x ∈ w.listNames od dir ∧ isHidden x = false ∧ lit <:+ x := by
  have ha : '*' :: lit ≠ anyDepth := by
    intro he
    obtain rfl := (List.cons.inj he).2
    exact (h '*' (List.mem_singleton_self '*')).1 rfl
  rw [mem_expand rfl ha rfl, Glob.matchesName_star_literal h]

theorem plain_of_mem_listNames (hs : Plain ss) (h : x ∈ w.listNames od (rooted b ss)) :
    Plain [x] := by
  obtain ⟨k, -, l, -, hx⟩ := (mem_list_rooted hs).1 (mem_listNames.1 h).1
  exact Tree.plain_of_validName (Tree.validName_of_mem_children hx)

theorem mem_list_of_leads (hs : Plain (ss ++ [x])) (hk : k ≤ maxLinks)
    (h : w.tree.Leads k [] (ss ++ [x]) l e) : x ∈ w.list (rooted b ss) := by
  obtain ⟨k', hk', d, hd, hx⟩ := h.parent (hs x (by simp)).1
  exact (mem_list_rooted hs.left).2 ⟨k', Nat.le_trans hk' hk, d, hd, hx⟩

/-- On the way to an entry every directory lists the next name as that of a directory. -/
theorem mem_listNames_of_leads (hs : Plain (ss ++ [x] ++ ms)) (hk : k ≤ maxLinks) (hm : ms ≠ [])
    (h : w.tree.Leads k [] (ss ++ [x] ++ ms) l e) : x ∈ w.listNames true (rooted b ss) := by
  obtain ⟨k₁, k₂, d, rfl, hd, -⟩ := h.split hm
  have hk₁ : k₁ ≤ maxLinks := by omega
  refine mem_listNames.2 ⟨mem_list_of_leads hs.left hk₁ hd, fun _ => ?_⟩
  rw [Path.join_rooted_name hs.left.left hs.left.right, isDir_rooted hs.left]
  exact ⟨k₁, hk₁, d, hd⟩

theorem within_eq_ite (hd : dir ≠ []) (hm : Plain ms) :
    within dir (Path.ofSegments ms) =
      if ms = [] then dir else Path.join dir (Path.ofSegments ms) := by
  have he : dir.isEmpty = false := by simpa using hd
  unfold within
  rw [he]
  by_cases hmn : ms = []
  · subst hmn
    rfl
  · have hme : (Path.ofSegments ms).isEmpty = false := by
      simpa using Path.ofSegments_ne_nil hm hmn
    rw [hme, if_neg hmn]
    rfl

theorem within_rooted (hs : Plain ss) (hm : Plain ms) :
    within (rooted b ss) (Path.ofSegments ms) = rooted b (ss ++ ms) := by
  rw [within_eq_ite Path.rooted_ne_nil hm]
  split
  · next hmn => rw [hmn, List.append_nil]
  · next hmn => exact Path.join_rooted hs hm hmn

theorem within_nil : within (rooted b ss) [] = rooted b ss :=
  (within_eq_ite Path.rooted_ne_nil Path.plain_nil).trans (if_pos rfl)

theorem within_ofSegments (hs : Plain ss) (hm : Plain ms) (hsn : ss ≠ []) :
    within (Path.ofSegments ss) (Path.ofSegments ms) = Path.ofSegments (ss ++ ms) := by
  rw [within_eq_ite (Path.ofSegments_ne_nil hs hsn) hm]
  split
  · next hmn => rw [hmn, List.append_nil]
  · next hmn => exact Path.join_ofSegments hs hm hsn hmn

/-! ## Leading segments -/

theorem mem_directories_star :
    p ∈ w.directories base (['*'] :: rest) ↔
      ∃ d ∈ w.directories base rest, ∃ x ∈ w.listNames true (within base d),
        isHidden x = false ∧ p = Path.join d x := by
  have hl : Glob.Literal [] := fun _ hc => absurd hc List.not_mem_nil
  rw [mem_directories rfl]
  refine exists_congr fun d => and_congr_right fun _ => exists_congr fun x => ?_
  rw [mem_expand_star hl, and_assoc, and_assoc]
  simp

theorem plain_of_mem_directories (hs : Plain ss)
    (h : p ∈ w.directories (rooted b ss) (List.replicate n ['*'])) :
    ∃ ms, Plain ms ∧ ms.length = n ∧ p = Path.ofSegments ms := by
  induction n generalizing p with
  | zero => exact ⟨[], Path.plain_nil, rfl, mem_directories_nil.1 h⟩
  | succ n ih =>
    obtain ⟨d, hd, x, hx, -, rfl⟩ := mem_directories_star.1 h
    obtain ⟨ms, hms, rfl, rfl⟩ := ih hd
    rw [within_rooted hs hms] at hx
    have hx := plain_of_mem_listNames (hs.append hms) hx
    exact ⟨ms ++ [x], hms.append hx, List.length_append, Path.join_name hms hx⟩

/-- The visible directories on the way to an entry are found by as many stars. -/
theorem mem_directories_of_leads (hs : Plain (ss ++ ms ++ rest)) (hr : rest ≠ [])
    (hv : ∀ x ∈ ms, isHidden x = false) (hk : k ≤ maxLinks)
    (h : w.tree.Leads k [] (ss ++ ms ++ rest) l e) :
    Path.ofSegments ms ∈ w.directories (rooted b ss) (List.replicate ms.length ['*']) := by
  -- The names are taken from the last one on, as the segments of the pattern are.
  induction hn : ms.length generalizing ms rest with
  | zero =>
    rw [List.length_eq_zero_iff.1 hn]
    exact mem_directories_nil.2 rfl
  | succ n ih =>
    obtain ⟨ns, x, rfl⟩ : ∃ ns x, ms = ns ++ [x] := by
      rcases List.eq_nil_or_concat ms with rfl | ⟨ns, x, rfl⟩
      · cases hn
      · exact ⟨ns, x, List.concat_eq_append⟩
    have hlen : ns.length = n := by simpa using hn
    rw [← List.append_assoc] at hs h
    have hx : x ∈ w.listNames true (rooted b (ss ++ ns)) := mem_listNames_of_leads hs hk hr h
    have hns : Plain ns := hs.left.left.right
    refine mem_directories_star.2 ⟨Path.ofSegments ns, ?_, x, ?_, hv x (by simp), ?_⟩
    · rw [List.append_assoc] at hs h
      exact ih hs (List.cons_ne_nil x rest) (fun y hy => hv y (List.mem_append_left _ hy)) h hlen
    · rwa [within_rooted hs.left.left.left hns]
    · exact (Path.join_name hns hs.left.right).symm

/-! ## The component pattern -/

/-- An extension that can stand in a pattern for itself. -/
def PlainExtension (ext : Text) : Prop := Glob.Literal ext ∧ '/' ∉ ext

instance (ext : Text) : Decidable (PlainExtension ext) := inferInstanceAs (Decidable (_ ∧ _))

/-- Is the name visible and does it have the extension? -/
def HasExtension (ext x : Text) : Prop := isHidden x = false ∧ '.' :: ext <:+ x

theorem literal_dot (h : PlainExtension ext) : Glob.Literal ('.' :: ext) := by
  intro c hc
  rcases List.mem_cons.1 hc with rfl | hc
  · decide
  · exact h.1 c hc

theorem segments_extension (h : '/' ∉ ext) :
    Path.segments ('*' :: '.' :: ext) = ['*' :: '.' :: ext] :=
  Path.segments_of_not_mem (by simp [h])

theorem mem_matchPaths {pattern : Text} (h : PlainExtension ext)
    (hp : (Path.segments pattern).reverse = ('*' :: '.' :: ext) :: rest)
    (hm : Glob.hasMagic pattern = true) :
    p ∈ w.matchPaths base pattern ↔
      ∃ d ∈ w.directories base rest, ∃ x ∈ w.listNames false (within base d),
        HasExtension ext x ∧ p = Path.join d x := by
  rw [mem_matchPaths_last hp hm]
  simp only [mem_expand_star (literal_dot h), HasExtension, and_assoc]

theorem segments_componentPattern (h : '/' ∉ ext) :
    Path.segments (defaultComponentPattern ++ '.' :: ext) =
      [['*'], ['*'], '*' :: '.' :: ext] :=
  calc Path.segments (['*'] ++ '/' :: (['*'] ++ '/' :: '*' :: '.' :: ext))
    _ = Path.segments ['*'] ++ Path.segments (['*'] ++ '/' :: '*' :: '.' :: ext) :=
        Path.segments_append_slash _ _
    _ = Path.segments ['*'] ++ (Path.segments ['*'] ++ Path.segments ('*' :: '.' :: ext)) := by
        rw [Path.segments_append_slash]
    _ = [['*'], ['*'], '*' :: '.' :: ext] := by
        rw [segments_extension h]
        rfl

theorem mem_componentPaths (h : PlainExtension ext) :
    p ∈ w.matchPaths base (defaultComponentPattern ++ '.' :: ext) ↔
      ∃ d ∈ w.directories base (List.replicate 2 ['*']),
        ∃ x ∈ w.listNames false (within base d), HasExtension ext x ∧ p = Path.join d x :=
  mem_matchPaths h (by rw [segments_componentPattern h.2]; rfl) rfl

theorem plain_of_mem_componentPaths (hs : Plain ss) (h : PlainExtension ext)
    (hp : p ∈ w.matchPaths (rooted b ss) (defaultComponentPattern ++ '.' :: ext)) :
    ∃ ms, Plain ms ∧ ms.length = 3 ∧ p = Path.ofSegments ms := by
  obtain ⟨d, hd, x, hx, -, rfl⟩ := (mem_componentPaths h).1 hp
  obtain ⟨ms, hms, hlen, rfl⟩ := plain_of_mem_directories hs hd
  rw [within_rooted hs hms] at hx
  have hx := plain_of_mem_listNames (hs.append hms) hx
  refine ⟨ms ++ [x], hms.append hx, ?_, Path.join_name hms hx⟩
  rw [List.length_append, hlen]
  rfl

/-- The component pattern stands for every visible file with the extension that is three levels
below. -/
theorem mem_componentPaths_of_isFile (hs : Plain ss) (h : PlainExtension ext)
    (hm : Plain [x, y, z]) (hx : isHidden x = false) (hy : isHidden y = false)
    (hz : HasExtension ext z) (hf : w.isFile (rooted b (ss ++ [x, y, z])) = true) :
    Path.ofSegments [x, y, z] ∈
      w.matchPaths (rooted b ss) (defaultComponentPattern ++ '.' :: ext) := by
  obtain ⟨k, hk, l, content, hl⟩ := (isFile_rooted (hs.append hm)).1 hf
  have hxy : Plain [x, y] := (show Plain ([x, y] ++ [z]) from hm).left
  have hsz : Plain (ss ++ [x, y] ++ [z]) := by
    rw [List.append_assoc]
    exact hs.append hm
  have hl : w.tree.Leads k [] (ss ++ [x, y] ++ [z]) l (.file content) := by
    rw [List.append_assoc]
    exact hl
  refine (mem_componentPaths h).2 ⟨Path.ofSegments [x, y], ?_, z, ?_, hz, ?_⟩
  · refine mem_directories_of_leads hsz (List.cons_ne_nil z []) ?_ hk hl
    simp [hx, hy]
  · rw [within_rooted hs hxy, mem_listNames]
    exact ⟨mem_list_of_leads hsz hk hl, fun he => absurd he (by decide)⟩
  · exact (Path.join_name hxy hsz.right).symm

/-! ## The file pattern -/

/-- Below a rooted directory `**` stands for paths made of plain names, all of them visible. -/
theorem plain_of_mem_listBelow (hs : Plain ss) (h : p ∈ w.listBelow od n (rooted b ss)) :
    ∃ ms, Plain ms ∧ (∀ x ∈ ms, isHidden x = false) ∧ p = Path.ofSegments ms := by
  replace h := mem_listBelow_iff.1 h
  generalize hdir : rooted b ss = dir at h
  induction h generalizing ss with
  | @name n dir x hx hv =>
    subst hdir
    have hx := plain_of_mem_listNames hs hx
    exact ⟨[x], hx, List.forall_mem_singleton.2 hv, hx.ofSegments_eq.symm⟩
  | @path n dir x p hx hv _ ih =>
    subst hdir
    have hx := plain_of_mem_listNames hs hx
    have ho := hx.ofSegments_eq
    have hw : rooted b (ss ++ [x]) = within (rooted b ss) x := by
      rw [← within_rooted hs hx, ho]
    obtain ⟨ms, hms, hvs, rfl⟩ := ih (hs.append hx) hw
    refine ⟨[x] ++ ms, hx.append hms, List.forall_mem_cons.2 ⟨hv, hvs⟩, ?_⟩
    rw [← within_ofSegments hx hms (List.cons_ne_nil x []), ho]

theorem segments_filePattern (h : '/' ∉ ext) :
    Path.segments (defaultFilePattern ++ '.' :: ext) = [anyDepth, '*' :: '.' :: ext] :=
  calc Path.segments (anyDepth ++ '/' :: '*' :: '.' :: ext)
    _ = Path.segments anyDepth ++ Path.segments ('*' :: '.' :: ext) :=
        Path.segments_append_slash _ _
    _ = [anyDepth, '*' :: '.' :: ext] := by
        rw [segments_extension h]
        rfl

theorem mem_filePaths (h : PlainExtension ext) :
    p ∈ w.matchPaths base (defaultFilePattern ++ '.' :: ext) ↔
      ∃ d ∈ w.directories base [anyDepth],
        ∃ x ∈ w.listNames false (within base d), HasExtension ext x ∧ p = Path.join d x :=
  mem_matchPaths h (by rw [segments_filePattern h.2]; rfl) rfl

theorem mem_directories_anyDepth :
    p ∈ w.directories (rooted b ss) [anyDepth] ↔
      p = [] ∨ p ∈ w.listBelow true w.maxDepth (rooted b ss) := by
  have he : w.expand true (rooted b ss) anyDepth =
      [] :: w.listBelow true w.maxDepth (rooted b ss) := if_pos rfl
  rw [mem_directories rfl]
  simp only [mem_directories_nil, exists_eq_left, within_nil, he, Path.nil_join, exists_eq_right',
    List.mem_cons]

theorem plain_of_mem_filePaths (hs : Plain ss) (h : PlainExtension ext)
    (hp : p ∈ w.matchPaths (rooted b ss) (defaultFilePattern ++ '.' :: ext)) :
    ∃ ms, Plain ms ∧ ms ≠ [] ∧ p = Path.ofSegments ms := by
  obtain ⟨d, hd, x, hx, -, rfl⟩ := (mem_filePaths h).1 hp
  obtain ⟨ms, hms, rfl⟩ : ∃ ms, Plain ms ∧ d = Path.ofSegments ms := by
    rcases mem_directories_anyDepth.1 hd with rfl | hd
    · exact ⟨[], Path.plain_nil, rfl⟩
    · obtain ⟨ms, hms, -, hd⟩ := plain_of_mem_listBelow hs hd
      exact ⟨ms, hms, hd⟩
  rw [within_rooted hs hms] at hx
  have hx := plain_of_mem_listNames (hs.append hms) hx
  exact ⟨ms ++ [x], hms.append hx, by simp, Path.join_name hms hx⟩

/-- The file pattern stands for every visible file with the extension that is right below. -/
theorem mem_filePaths_of_isFile (hs : Plain ss) (h : PlainExtension ext) (hx : Plain [x])
    (hv : HasExtension ext x) (hf : w.isFile (rooted b (ss ++ [x])) = true) :
    x ∈ w.matchPaths (rooted b ss) (defaultFilePattern ++ '.' :: ext) := by
  obtain ⟨k, hk, l, content, hl⟩ := (isFile_rooted (hs.append hx)).1 hf
  refine (mem_filePaths h).2 ⟨[], mem_directories_anyDepth.2 (Or.inl rfl), x, ?_, hv, ?_⟩
  · rw [within_nil, mem_listNames]
    exact ⟨mem_list_of_leads (hs.append hx) hk hl, fun he => absurd he (by decide)⟩
  · have hj := Path.join_name Path.plain_nil hx
    rw [List.nil_append, hx.ofSegments_eq] at hj
    exact hj.symm

/-! ## No failure -/

theorem isUsable_of_leads (hs : Plain ss) (h : w.tree.Leads k [] ss l e) :
    Path.isUsable (rooted b ss) = true :=
  (Path.isUsable_rooted hs).2 fun s hm => h.isUsable s hm

theorem isUsable_of_isFile {p : Text} (h : w.isFile p = true) : Path.isUsable p = true := by
  obtain ⟨k, dir, l, content, hl⟩ := leads_of_isFile h
  exact Path.isUsable_of_segments hl.isUsable

theorem searchLevels_le (pattern : Text) :
    searchLevels pattern ≤ (Path.segments pattern).length :=
  Nat.le_trans List.countP_le_length (List.dropWhile_suffix _).length_le

/-- A pattern that begins with a wildcard lists first the directory that it is seen from. -/
theorem glob_eq_ok {pattern : Text} (hp : Path.segments pattern = s :: rest)
    (hs : Glob.hasMagic s = true) (hm : Glob.hasMagic pattern = true)
    (hlevels : rest.length < maxLevels) (hb : Path.isUsable (rooted b ss) = true) :
    w.glob (rooted b ss) pattern = .ok (w.matchPaths (rooted b ss) pattern) := by
  have hf : firstListed (rooted b ss) pattern = some (rooted b ss) := by
    unfold firstListed
    dsimp only
    rw [hm, hp, List.reverse_reverse, List.takeWhile_cons, hs]
    exact congrArg some within_nil
  have hdeep : searchLevels pattern ≤ maxLevels := by
    have hle := searchLevels_le pattern
    rw [hp] at hle
    exact Nat.le_trans hle hlevels
  refine glob_eq_ok_iff.2 ⟨hdeep, fun d hd => ?_, rfl⟩
  rw [hf] at hd
  exact Option.some.inj hd ▸ hb

end Workspace

end ComponentManifest
