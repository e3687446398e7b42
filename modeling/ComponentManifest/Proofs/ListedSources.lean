import ComponentManifest.Proofs.StableBuild

/-!
# Listed sources and scanned sources

A file is scanned if its suffix, in lower case, is one of the extensions, and it is listed if its
name matches a pattern for one of them, case and all. Below a directory the two do not agree on
suffixes with capitals: such a file is scanned when it is asked for, but no listing has it. For
extensions without anything special in them this is the only difference.

1. How deep a path can lead through links.
2. `**` stands for every visible directory below.
3. The paths of the file pattern with any extension.
4. The suffix of a name.
5. `mem_list_iff_isSource`: what a listing has.
6. A file that is scanned and not listed.
-/

namespace ComponentManifest

open ComponentManifest.Path (Plain Proper rooted)

/-! ## The depth of a path -/

namespace Tree

variable {t : Tree} {k : Nat} {dir l : Location} {rest : List Text} {e : Entry}

/-- Names that lead somewhere are not more than the tree is deep, if no link is followed; each link
starts again, after one name. -/
theorem Leads.length_le (hs : Plain rest) (hd : t.entry? dir = some .dir)
    (h : t.Leads k dir rest l e) : dir.length + rest.length ≤ t.depth + k * (t.depth + 1) := by
  -- The target of a link may have steps up; only where it ends counts, which is a directory again.
  induction rest generalizing k dir with
  | nil =>
    have hle := length_le_depth hd
    exact Nat.le_trans hle (Nat.le_add_right ..)
  | cons s rest ih =>
    have hp : Proper s := (hs s List.mem_cons_self).1
    have hrest : Plain rest := fun x hx => hs x (List.mem_cons_of_mem s hx)
    have hle := length_le_depth hd
    rw [List.length_cons]
    rcases h.proper_cases hp with ⟨he, hl⟩ | ⟨_, he, -, rfl, -⟩ | ⟨target, k, he, rfl, hl⟩
    · have hnext := ih hrest he hl
      rw [List.length_append, List.length_singleton] at hnext
      omega
    · have hfile := length_le_depth he
      rw [List.length_append, List.length_singleton] at hfile
      simp only [List.length_nil]
      omega
    · rw [Nat.succ_mul]
      by_cases hn : rest = []
      · subst hn
        simp only [List.length_nil]
        omega
      · obtain ⟨k₁, k₂, d, rfl, h₁, h₂⟩ := hl.split hn
        have hdir : t.entry? d = some .dir := h₁.entry?_eq (startOf_dir hd)
        have hnext := ih hrest hdir h₂
        have hk : k₂ * (t.depth + 1) ≤ (k₁ + k₂) * (t.depth + 1) :=
          Nat.mul_le_mul_right _ (Nat.le_add_left k₂ k₁)
        omega

end Tree

namespace Workspace

variable {w : Workspace} {b : Bool} {ss ms rest : List Text} {p x ext : Text} {k n : Nat}
  {l : Location} {e : Entry}

theorem length_le_maxDepth_of_leads (hs : Plain ss) (hk : k ≤ maxLinks)
    (h : w.tree.Leads k [] ss l e) : ss.length ≤ w.maxDepth := by
  have hle := h.length_le hs rfl
  have hlinks := Nat.mul_le_mul_right (w.tree.depth + 1) hk
  rw [maxDepth_eq, Nat.succ_mul]
  rw [List.length_nil, Nat.zero_add] at hle
  omega

/-! ## Any number of directories -/

/-- The visible directories on the way to an entry are listed below the one where it starts. -/
theorem mem_listBelow_of_leads (hs : Plain (ss ++ ms ++ rest)) (hm : ms ≠ []) (hr : rest ≠ [])
    (hv : ∀ x ∈ ms, isHidden x = false) (hn : ms.length ≤ n) (hk : k ≤ maxLinks)
    (h : w.tree.Leads k [] (ss ++ ms ++ rest) l e) :
    Path.ofSegments ms ∈ w.listBelow true n (rooted b ss) := by
  induction n generalizing ss ms with
  | zero => exact absurd (List.length_eq_zero_iff.1 (Nat.le_zero.1 hn)) hm
  | succ n ih =>
    obtain ⟨x, ms, rfl⟩ := List.exists_cons_of_ne_nil hm
    obtain ⟨hvx, hvs⟩ := List.forall_mem_cons.1 hv
    rw [List.append_cons ss x ms, List.append_assoc] at hs h
    have hx : Plain [x] := hs.left.right
    have hlisted : x ∈ w.listNames true (rooted b ss) :=
      mem_listNames_of_leads hs hk (by simp [hr]) h
    rw [mem_listBelow_iff]
    by_cases hms : ms = []
    · subst hms
      rw [hx.ofSegments_eq]
      exact .name hlisted hvx
    · have hw : within (rooted b ss) x = rooted b (ss ++ [x]) := by
        rw [← within_rooted hs.left.left hx, hx.ofSegments_eq]
      rw [← List.append_assoc] at hs h
      have hbelow := mem_listBelow_iff.1 (ih hs hms hvs (Nat.le_of_succ_le_succ hn) h)
      rw [← hw] at hbelow
      rw [← within_name hx hs.left.right]
      exact .path hlisted hvx hbelow

/-! ## The file pattern with any extension -/

/-- Does the name match a star and the extension? -/
def MatchesExtension (ext x : Text) : Prop := Glob.matchesName ('*' :: '.' :: ext) x = true

/-- None of the names begins with a dot. -/
def Visible (ms : List Text) : Prop := ∀ x ∈ ms, isHidden x = false

theorem mem_filePaths_expand (h : '/' ∉ ext) :
    p ∈ w.matchPaths (rooted b ss) (defaultFilePattern ++ '.' :: ext) ↔
      ∃ d, (d = [] ∨ d ∈ w.listBelow true w.maxDepth (rooted b ss)) ∧
        ∃ x ∈ w.listNames false (within (rooted b ss) d),
          isHidden x = false ∧ MatchesExtension ext x ∧ p = Path.join d x := by
  have hreverse : (Path.segments (defaultFilePattern ++ '.' :: ext)).reverse =
      ('*' :: '.' :: ext) :: [anyDepth] := by
    rw [segments_filePattern h]
    rfl
  have ha : '*' :: '.' :: ext ≠ anyDepth := by
    intro he
    cases he
  rw [mem_matchPaths_last hreverse rfl]
  simp only [mem_directories_anyDepth, mem_expand rfl ha rfl, and_assoc, MatchesExtension]

theorem exists_of_mem_filePaths (hs : Plain ss) (h : '/' ∉ ext)
    (hp : p ∈ w.matchPaths (rooted b ss) (defaultFilePattern ++ '.' :: ext)) :
    ∃ ms x, Plain (ms ++ [x]) ∧ Visible (ms ++ [x]) ∧ MatchesExtension ext x ∧
      p = Path.ofSegments (ms ++ [x]) := by
  obtain ⟨d, hd, x, hx, hv, hext, rfl⟩ := (mem_filePaths_expand h).1 hp
  obtain ⟨ms, hms, hvs, rfl⟩ : ∃ ms, Plain ms ∧ Visible ms ∧ d = Path.ofSegments ms := by
    rcases hd with rfl | hd
    · exact ⟨[], Path.plain_nil, List.forall_mem_nil _, rfl⟩
    · exact plain_of_mem_listBelow hs hd
  rw [within_rooted hs hms] at hx
  have hx := plain_of_mem_listNames (hs.append hms) hx
  have hall : Visible (ms ++ [x]) :=
    List.forall_mem_append.2 ⟨hvs, List.forall_mem_singleton.2 hv⟩
  exact ⟨ms, x, hms.append hx, hall, hext, Path.join_name hms hx⟩

theorem mem_filePaths_of_visible (hs : Plain ss) (h : '/' ∉ ext) (hm : Plain (ms ++ [x]))
    (hv : Visible (ms ++ [x])) (hx : MatchesExtension ext x)
    (hf : w.isFile (rooted b (ss ++ (ms ++ [x]))) = true) :
    Path.ofSegments (ms ++ [x]) ∈
      w.matchPaths (rooted b ss) (defaultFilePattern ++ '.' :: ext) := by
  obtain ⟨k, hk, l, content, hl⟩ := (isFile_rooted (hs.append hm)).1 hf
  obtain ⟨hvs, hvx⟩ := List.forall_mem_append.1 hv
  have hplain : Plain (ss ++ ms ++ [x]) := List.append_assoc .. ▸ hs.append hm
  rw [← List.append_assoc] at hl
  refine (mem_filePaths_expand h).2 ⟨Path.ofSegments ms, ?_, x, ?_, hvx x (by simp), hx,
    (Path.join_name hm.left hm.right).symm⟩
  · by_cases hms : ms = []
    · subst hms
      exact Or.inl rfl
    · have hlen := length_le_maxDepth_of_leads hplain hk hl
      simp only [List.length_append] at hlen
      exact Or.inr (mem_listBelow_of_leads hplain hms (List.cons_ne_nil x []) hvs (by omega) hk hl)
  · rw [within_rooted hs hm.left, mem_listNames]
    exact ⟨mem_list_of_leads hplain hk hl, fun he => absurd he (by decide)⟩

end Workspace

/-! ## The suffix of a name -/

namespace Path

variable {p x pre tail ext : Text}

theorem suffix_of_append (hp : finalName p = pre ++ '.' :: tail) (ht : '.' ∉ tail) :
    suffix p = if pre ≠ [] ∧ tail ≠ [] then '.' :: tail else [] := by
  have hback : (pre ++ '.' :: tail).reverse = tail.reverse ++ '.' :: pre.reverse := by simp
  have hkeep : ∀ c ∈ tail.reverse, (c != '.') = true := by
    intro c hc
    have hne : c ≠ '.' := by
      rintro rfl
      exact ht (List.mem_reverse.1 hc)
    simpa using hne
  have htake : ((pre ++ '.' :: tail).reverse.takeWhile (· != '.')).reverse = tail := by
    rw [hback, List.takeWhile_append_of_pos hkeep, List.takeWhile_cons_of_neg (by simp)]
    simp
  have hlen : (pre ++ '.' :: tail).length - tail.length = pre.length + 1 := by
    simp only [List.length_append, List.length_cons]
    omega
  have hpos : 1 < pre.length + 1 ↔ pre ≠ [] := by
    rw [← List.length_pos_iff]
    omega
  unfold suffix
  simp only [hp, htake, hlen, hpos]

theorem suffix_of_not_mem (hp : '.' ∉ finalName p) : suffix p = [] := by
  have htake : (finalName p).reverse.takeWhile (· != '.') = (finalName p).reverse := by
    refine List.takeWhile_eq_self_iff.2 fun c hc => ?_
    have hne : c ≠ '.' := by
      rintro rfl
      exact hp (List.mem_reverse.1 hc)
    simpa using hne
  unfold suffix
  simp only [htake, List.reverse_reverse, Nat.sub_self]
  simp

theorem suffix_eq_iff (hp : finalName p = x) :
    suffix p = '.' :: ext ↔ ext ≠ [] ∧ '.' ∉ ext ∧ ∃ pre, pre ≠ [] ∧ x = pre ++ '.' :: ext := by
  constructor
  · intro h
    by_cases hdot : '.' ∈ x
    · obtain ⟨as, bs, hx, has⟩ := List.eq_append_cons_of_mem (List.mem_reverse.2 hdot)
      have hx : x = bs.reverse ++ '.' :: as.reverse := by
        rw [← List.reverse_reverse x, hx]
        simp
      rw [suffix_of_append (hp.trans hx) (by simpa using has)] at h
      split at h
      · next hne =>
        obtain rfl := (List.cons.inj h).2
        exact ⟨hne.2, by simpa using has, bs.reverse, hne.1, hx⟩
      · cases h
    · rw [suffix_of_not_mem (hp ▸ hdot)] at h
      cases h
  · rintro ⟨hne, hdot, pre, hpre, rfl⟩
    rw [suffix_of_append hp hdot, if_pos ⟨hpre, hne⟩]

theorem suffix_eq_nil_or (p : Text) : suffix p = [] ∨ ∃ ext, suffix p = '.' :: ext := by
  unfold suffix
  dsimp only
  split
  · exact Or.inr ⟨_, rfl⟩
  · exact Or.inl rfl

end Path

/-! ## Extensions -/

namespace SourceFilter

variable {f : SourceFilter} {w : Workspace} {b : Bool} {ss ms : List Text} {x q e : Text}

/-- An extension with nothing special in it: no wildcard, no slash, no dot, and no capital. -/
structure SimpleExtension (e : Text) : Prop where
  literal : Glob.Literal e
  dotless : '.' ∉ e
  ne_nil : e ≠ []
  lower : Unicode.lower ('.' :: e) = '.' :: e

theorem dropWhile_dot (h : '.' ∉ e) : ('.' :: e).dropWhile (· == '.') = e := by
  cases e with
  | nil => rfl
  | cons c cs =>
    have hc : c ≠ '.' := fun he => h (he ▸ List.mem_cons_self)
    simp [hc]

theorem literal_dot_simple (h : SimpleExtension e) : Glob.Literal ('.' :: e) :=
  List.forall_mem_cons.2 ⟨by decide, h.literal⟩

/-- For simple extensions a visible name matches one of them exactly if it is a source and its
suffix has no capitals. -/
theorem matches_iff_isSource (hf : ∀ e ∈ f.extensions, SimpleExtension e)
    (hv : Workspace.isHidden x = false) (hq : Path.finalName q = x) :
    (∃ e ∈ f.extensions, Workspace.MatchesExtension e x) ↔
      f.isSource q = true ∧ Unicode.lower (Path.suffix q) = Path.suffix q := by
  have hsource : f.isSource q = true ↔
      (Unicode.lower (Path.suffix q)).dropWhile (· == '.') ∈ f.extensions := by
    unfold isSource
    rw [List.contains_iff_mem]
  rw [hsource]
  constructor
  · rintro ⟨e, he, hx⟩
    have hs := hf e he
    obtain ⟨pre, rfl⟩ := (Glob.matchesName_star_literal (literal_dot_simple hs)).1 hx
    have hpre : pre ≠ [] := by
      rintro rfl
      cases hv
    have hsuffix : Path.suffix q = '.' :: e :=
      (Path.suffix_eq_iff hq).2 ⟨hs.ne_nil, hs.dotless, pre, hpre, rfl⟩
    rw [hsuffix, hs.lower, dropWhile_dot hs.dotless]
    exact ⟨he, rfl⟩
  · rintro ⟨hmem, hlower⟩
    rw [hlower] at hmem
    rcases Path.suffix_eq_nil_or q with hnil | ⟨e, hsuffix⟩
    · rw [hnil] at hmem
      exact absurd rfl (hf _ hmem).ne_nil
    · obtain ⟨-, hdot, pre, -, rfl⟩ := (Path.suffix_eq_iff hq).1 hsuffix
      rw [hsuffix, dropWhile_dot hdot] at hmem
      exact ⟨e, hmem, (Glob.matchesName_star_literal (literal_dot_simple (hf e hmem))).2
        (List.suffix_append pre ('.' :: e))⟩

/-! ## Listings -/

/-- The names lead from a directory to a regular file, none of them is hidden, and the file is not
excluded. -/
structure Keeps (f : SourceFilter) (w : Workspace) (b : Bool) (ss ms : List Text) : Prop where
  plain : Plain ms
  visible : Workspace.Visible ms
  isFile : w.isFile (rooted b (ss ++ ms)) = true
  kept : f.isExcluded (Path.ofSegments ms) = false

theorem finds_iff (hs : Plain ss) (he : ∀ e ∈ f.extensions, '/' ∉ e) :
    f.Finds w (rooted b ss) defaultFilePattern f.extensions q ↔
      ∃ ms x, f.Keeps w b ss (ms ++ [x]) ∧ q = rooted b (ss ++ (ms ++ [x])) ∧
        ∃ e ∈ f.extensions, Workspace.MatchesExtension e x := by
  constructor
  · rintro ⟨e, hmem, p, hp, hkept, hf, rfl⟩
    obtain ⟨ms, x, hm, hv, hx, rfl⟩ := Workspace.exists_of_mem_filePaths hs (he e hmem) hp
    have hj : Path.join (rooted b ss) (Path.ofSegments (ms ++ [x])) =
        rooted b (ss ++ (ms ++ [x])) := Path.join_rooted hs hm (by simp)
    rw [hj] at hf ⊢
    rw [Path.normalize_rooted (hs.append hm)]
    exact ⟨ms, x, ⟨hm, hv, hf, hkept⟩, rfl, e, hmem, hx⟩
  · rintro ⟨ms, x, hk, rfl, e, hmem, hx⟩
    have hj : Path.join (rooted b ss) (Path.ofSegments (ms ++ [x])) =
        rooted b (ss ++ (ms ++ [x])) := Path.join_rooted hs hk.plain (by simp)
    refine ⟨e, hmem, Path.ofSegments (ms ++ [x]),
      Workspace.mem_filePaths_of_visible hs (he e hmem) hk.plain hk.visible hx hk.isFile,
      hk.kept, ?_, ?_⟩
    · rw [hj, hk.isFile]
    · rw [hj, Path.normalize_rooted (hs.append hk.plain)]

theorem exists_list (hs : Plain ss) (hb : Path.isUsable (rooted b ss) = true)
    (he : ∀ e ∈ f.extensions, '/' ∉ e) :
    ∃ files, f.list w (rooted b ss) defaultFilePattern = .ok files ∧
      ∀ q, q ∈ files ↔ f.Finds w (rooted b ss) defaultFilePattern f.extensions q := by
  obtain ⟨found, hfound, hq⟩ : ∃ found,
      f.listEach w (rooted b ss) defaultFilePattern f.extensions = .ok found ∧
        ∀ q, q ∈ found ↔ f.Finds w (rooted b ss) defaultFilePattern f.extensions q :=
    listEach_eq_ok fun e hmem =>
      Workspace.glob_eq_ok (Workspace.segments_filePattern (he e hmem)) rfl rfl
        (by simp [maxLevels]) hb
  refine ⟨sortDistinct found, ?_, fun q => mem_sortDistinct.trans (hq q)⟩
  unfold list
  rw [Workspace.absolute_rooted hs, hfound]
  rfl

/-- Listing all below a directory has, in order and once each, the files that are kept and match an
extension: the sources among them, but for those with capitals in their suffix. -/
theorem mem_list_iff_isSource (f : SourceFilter) (w : Workspace) (base : Text)
    (hb : Path.isUsable (w.absolute base) = true) (he : ∀ e ∈ f.extensions, '/' ∉ e) :
    ∃ b ss files, Plain ss ∧ w.absolute base = rooted b ss ∧
      f.list w base defaultFilePattern = .ok files ∧ Ascending files ∧
      (∀ q, q ∈ files ↔ ∃ ms x, f.Keeps w b ss (ms ++ [x]) ∧ q = rooted b (ss ++ (ms ++ [x])) ∧
        ∃ e ∈ f.extensions, Workspace.MatchesExtension e x) ∧
      ((∀ e ∈ f.extensions, SimpleExtension e) → ∀ q, q ∈ files ↔
        (∃ ms x, f.Keeps w b ss (ms ++ [x]) ∧ q = rooted b (ss ++ (ms ++ [x]))) ∧
          f.isSource q = true ∧ Unicode.lower (Path.suffix q) = Path.suffix q) := by
  obtain ⟨b, ss, hs, hbase⟩ := w.exists_rooted base
  rw [hbase] at hb
  obtain ⟨files, hlist, hq⟩ := exists_list (w := w) hs hb he
  have hmem : ∀ q, q ∈ files ↔ ∃ ms x, f.Keeps w b ss (ms ++ [x]) ∧
      q = rooted b (ss ++ (ms ++ [x])) ∧ ∃ e ∈ f.extensions, Workspace.MatchesExtension e x :=
    fun q => (hq q).trans (finds_iff hs he)
  have hsame : f.list w base defaultFilePattern = f.list w (rooted b ss) defaultFilePattern := by
    unfold list
    rw [hbase, Workspace.absolute_rooted hs]
  refine ⟨b, ss, files, hs, hbase, hsame.trans hlist, ascending_list hs hlist, hmem,
    fun hsimple q => ?_⟩
  have hsource : ∀ {ms x}, f.Keeps w b ss (ms ++ [x]) →
      ((∃ e ∈ f.extensions, Workspace.MatchesExtension e x) ↔
        f.isSource (rooted b (ss ++ (ms ++ [x]))) = true ∧
          Unicode.lower (Path.suffix (rooted b (ss ++ (ms ++ [x])))) =
            Path.suffix (rooted b (ss ++ (ms ++ [x])))) := by
    intro ms x hk
    refine matches_iff_isSource hsimple (hk.visible x (by simp)) ?_
    rw [← List.append_assoc]
    exact Path.finalName_rooted (List.append_assoc .. ▸ hs.append hk.plain)
  rw [hmem]
  constructor
  · rintro ⟨ms, x, hk, rfl, hext⟩
    exact ⟨⟨ms, x, hk, rfl⟩, (hsource hk).1 hext⟩
  · rintro ⟨⟨ms, x, hk, rfl⟩, hq⟩
    exact ⟨ms, x, hk, rfl, (hsource hk).2 hq⟩

theorem simpleExtension_standard : ∀ e ∈ standard.extensions, SimpleExtension e := by
  have hstandard : ∀ e ∈ standard.extensions, Glob.Literal e ∧ '.' ∉ e ∧ e ≠ [] ∧
      Unicode.lower ('.' :: e) = '.' :: e := by
    decide +kernel
  intro e he
  obtain ⟨hl, hd, hn, hlow⟩ := hstandard e he
  exact ⟨hl, hd, hn, hlow⟩

/-- Three sources; the suffix of one is written in capitals. -/
def mixedSources : Workspace where
  tree := {
    entries := [(["a.VUE".toList], .file []), (["b.ts".toList], .file []),
      (["c.d.ts".toList], .file [])]
    named := by decide
    closed := by decide
    distinct := by decide }
  cwd := []

theorem keeps_mixedSources {x : Text} (hx : ValidName x) (hv : Workspace.isHidden x = false)
    (hf : mixedSources.isFile (rooted false [x]) = true)
    (hk : standard.isExcluded x = false) : standard.Keeps mixedSources false [] [x] := by
  have hplain := Tree.plain_of_validName hx
  exact ⟨hplain, List.forall_mem_singleton.2 hv, hf, hplain.ofSegments_eq.symm ▸ hk⟩

theorem mem_list_iff_isSource_mixed :
    ∃ files, standard.list mixedSources ['/'] defaultFilePattern = .ok files ∧
      "/b.ts".toList ∈ files ∧ "/a.VUE".toList ∉ files := by
  obtain ⟨b, ss, files, hs, hbase, hlist, -, -, hmem⟩ :=
    mem_list_iff_isSource standard mixedSources ['/'] (by decide +kernel)
      fun e he => (plainExtension_standard e he).2
  have hroot : rooted b ss = rooted false [] := hbase.symm.trans (by decide +kernel)
  obtain rfl : b = false := by
    have hslashes := congrArg Path.rootSlashes hroot
    rw [Path.rootSlashes_rooted hs, Path.rootSlashes_rooted Path.plain_nil] at hslashes
    cases b
    · rfl
    · cases hslashes
  obtain rfl := Path.rooted_injective hs Path.plain_nil hroot
  have hmem := hmem simpleExtension_standard
  have hb : standard.Keeps mixedSources false [] ["b.ts".toList] :=
    keeps_mixedSources (by decide) (by decide) (by decide +kernel) (by decide +kernel)
  refine ⟨files, hlist, (hmem _).2 ⟨⟨[], _, hb, by decide⟩, by decide +kernel⟩, ?_⟩
  intro h
  exact absurd ((hmem _).1 h).2.2 (by decide +kernel)

/-- A file whose suffix is in capitals is a source, and no listing has it; and with an extension
that has a dot in it, what is listed is no source. -/
theorem source_in_capitals_is_not_listed :
    standard.Keeps mixedSources false [] ["a.VUE".toList] ∧
      standard.isSource "/a.VUE".toList = true ∧
      standard.list mixedSources ['/'] defaultFilePattern =
        .ok ["/b.ts".toList, "/c.d.ts".toList] ∧
      ∃ f, make Exclusion.gitignore [] ["d.ts".toList] = .ok f ∧
        f.list mixedSources ['/'] defaultFilePattern = .ok ["/c.d.ts".toList] ∧
        f.isSource "/c.d.ts".toList = false := by
  have hlist : (standard.list mixedSources ['/'] defaultFilePattern).toOption =
      some ["/b.ts".toList, "/c.d.ts".toList] := by
    decide +kernel
  have hother : (make Exclusion.gitignore [] ["d.ts".toList]).toOption.map (fun f =>
      ((f.list mixedSources ['/'] defaultFilePattern).toOption, f.isSource "/c.d.ts".toList)) =
      some (some ["/c.d.ts".toList], false) := by
    decide +kernel
  obtain ⟨f, hf, hfound⟩ := Option.map_eq_some_iff.1 hother
  obtain ⟨hfiles, hsource⟩ := Prod.mk.inj hfound
  refine ⟨keeps_mixedSources (by decide) (by decide) (by decide +kernel) (by decide +kernel),
    by decide +kernel, except_eq_ok_of_toOption hlist, f, except_eq_ok_of_toOption hf,
    except_eq_ok_of_toOption hfiles, hsource⟩

end SourceFilter

end ComponentManifest
