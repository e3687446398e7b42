import ComponentManifest.Proofs.DirectoryRules
import ComponentManifest.Proofs.ManifestPaths

/-!
# Excluded names do not reach a manifest

A file is compared with the rules of a filter twice: by its path from the scan directory when its
unit is found, and by its path from the directory of the unit when it is listed. Together the two
paths hold all names that stand before the file's own in the manifest. Whoever reads the rules, they
say nothing of a path that begins with `./` and an empty segment, and such a path can only come from
a pattern that begins in the same way.

1. `SpelledBy`: where an empty segment at the beginning of a listed path comes from.
2. `Workspace.PlainNames`: what the paths of files do not hold.
3. `Trail`: the segments that lead to a unit, and from there to a file.
4. `excluded_stay_out`: all items of a manifest, and what exclusion leaves out.
-/

namespace ComponentManifest

open ComponentManifest.Path (Plain Proper rooted isAbsolute segments ofSegments here up)

/-! ## Empty segments in listed paths -/

theorem segments_of_detours {p : Text} (h : Detours p) : ∃ zs, segments p = [here, []] ++ zs := by
  obtain ⟨q, rfl⟩ := h
  exact ⟨segments q, by
    rw [show Text.ofString ".//" ++ q = here ++ '/' :: ([] ++ '/' :: q) from rfl,
      Path.segments_append_slash, Path.segments_append_slash]
    rfl⟩

theorem detours_of_segments {p : Text} {zs : List Text} (h : segments p = [here, []] ++ zs)
    (hzs : zs ≠ []) : Detours p := by
  rw [Path.eq_of_segments_eq_append h (by simp) hzs]
  exact ⟨ofSegments zs, rfl⟩

/-- The path is empty, or none of its segments is. -/
def Filled (p : Text) : Prop := p = [] ∨ [] ∉ segments p

theorem Filled.of_slash_not_mem {x : Text} (h : '/' ∉ x) : Filled x := by
  by_cases hx : x = []
  · exact Or.inl hx
  · refine Or.inr fun hm => hx ?_
    rw [Path.segments_of_not_mem h, List.mem_singleton] at hm
    exact hm.symm

theorem Filled.nil_not_mem {p a b : Text} {ss : List Text} (h : Filled p)
    (hs : segments p = a :: b :: ss) : [] ∉ a :: b :: ss := by
  rcases h with rfl | h
  · cases hs
  · rwa [hs] at h

theorem Filled.isAbsolute {p : Text} (h : Filled p) : isAbsolute p = false := by
  rcases h with rfl | h
  · rfl
  · exact Path.isAbsolute_eq_false fun s hs he => h (he ▸ hs)

theorem Filled.within {x y : Text} (hx : x ≠ []) (hslash : '/' ∉ x) (hy : Filled y) :
    Filled (Workspace.within x y) := by
  have hname : Filled x := .of_slash_not_mem hslash
  have he : x.isEmpty = false := by simpa using hx
  unfold Workspace.within
  rw [he]
  rcases hy with rfl | hy
  · exact hname
  have hyn : y ≠ [] := by
    rintro rfl
    exact hy (List.mem_singleton_self [])
  have hey : y.isEmpty = false := by simpa using hyn
  have hlead : Path.lead x = [x] := by
    unfold Path.lead
    rw [if_neg fun hl => hslash (List.mem_of_getLast? hl), Path.segments_of_not_mem hslash]
  rw [hey]
  refine Or.inr fun hm => ?_
  rw [if_neg Bool.false_ne_true, if_neg Bool.false_ne_true,
    Path.segments_join hx (Filled.isAbsolute (Or.inr hy)), hlead] at hm
  rcases List.mem_append.1 hm with hm | hm
  · exact hx (List.mem_singleton.1 hm).symm
  · exact hy hm

namespace Workspace

variable {w : Workspace} {od : Bool} {n : Nat} {pre rest zs : List Text} {base dir d p s x z : Text}

theorem Below.filled (h : w.Below od n dir p) : Filled p := by
  induction h with
  | name hx _ => exact .of_slash_not_mem (validName_of_mem_listNames hx).2.1
  | path hx _ _ ih =>
    have hname := validName_of_mem_listNames hx
    exact .within hname.1 hname.2.1 ih

theorem Expands.filled (h : w.Expands od dir s x) (hs : '/' ∉ s) : Filled x := by
  cases h with
  | start => exact Or.inl rfl
  | below h => exact h.filled
  | listed _ _ hx _ _ => exact .of_slash_not_mem (validName_of_mem_listNames hx).2.1
  | slash _ => exact Or.inl rfl
  | literal _ _ _ => exact .of_slash_not_mem hs

/-- If the path begins with `./` and an empty segment, so do the segments `pre`. -/
def SpelledBy (pre : List Text) (d : Text) : Prop := Detours d → [here, []] <+: pre

theorem SpelledBy.mono {pre' : List Text} (h : SpelledBy pre d) (hpre : pre <+: pre') :
    SpelledBy pre' d := fun hd => (h hd).trans hpre

theorem spelledBy_nil : SpelledBy pre [] := fun hd => nomatch List.prefix_nil.1 hd

/-- What is added to a directory brings no empty segment to the beginning. -/
theorem detours_of_join (hx : Filled x) (h : Detours (Path.join d x)) : Detours d := by
  have habs : ∀ q, x ≠ '/' :: q := by
    rintro q rfl
    exact absurd hx.isAbsolute (by simp [isAbsolute])
  have hjoin : Path.join d x = d ++ x ∧ (d = [] ∨ d.getLast? = some '/') ∨
      Path.join d x = d ++ '/' :: x ∧ d.getLast? ≠ some '/' := by
    unfold Path.join
    rw [hx.isAbsolute, if_neg Bool.false_ne_true]
    split
    · next hsep => exact Or.inl ⟨rfl, by simpa using hsep⟩
    · next hsep => exact Or.inr ⟨rfl, fun hl => hsep (by simp [hl])⟩
  obtain ⟨q, hq⟩ := h
  replace hq : '.' :: '/' :: '/' :: q = Path.join d x := hq
  -- The three characters are the directory's own, or the path would begin with a slash.
  rcases d with _ | ⟨a, _ | ⟨b, _ | ⟨c, cs⟩⟩⟩
  · obtain ⟨zs, hzs⟩ := segments_of_detours ⟨q, hq⟩
    rw [Path.nil_join] at hzs
    exact absurd (by simp) (hx.nil_not_mem hzs)
  · rcases hjoin with ⟨hj, hsep⟩ | ⟨hj, hsep⟩ <;> grind
  · rcases hjoin with ⟨hj, hsep⟩ | ⟨hj, hsep⟩ <;> grind
  · have hd : a = '.' ∧ b = '/' ∧ c = '/' := by
      rcases hjoin with ⟨hj, -⟩ | ⟨hj, -⟩ <;> grind
    obtain ⟨rfl, rfl, rfl⟩ := hd
    exact List.prefix_append _ cs

theorem SpelledBy.join (hd : SpelledBy pre d) (hx : Filled x) : SpelledBy pre (Path.join d x) :=
  fun h => hd (detours_of_join hx h)

theorem spelledBy_literalDir (h : ∀ s ∈ rest, '/' ∉ s) (hne : rest ≠ [])
    (hlast : rest.getLast? ≠ some []) : SpelledBy rest.reverse (literalDir rest) := by
  obtain ⟨pre, y, ys, rfl, hy, hdir⟩ := exists_literalDir hne hlast
  have hslash : ∀ s ∈ (y :: ys).reverse, '/' ∉ s := fun s hs =>
    h s (List.mem_append_right pre (List.mem_reverse.1 hs))
  have hpre : (y :: ys).reverse <+: (pre ++ y :: ys).reverse :=
    List.reverse_prefix.2 (List.suffix_append pre (y :: ys))
  intro hd
  rw [hdir] at hd
  obtain ⟨zs, hzs⟩ := segments_of_detours hd
  rw [Path.segments_ofSegments hslash (by simp)] at hzs
  exact (hzs ▸ List.prefix_append [here, []] zs).trans hpre

theorem prefix_reverse_cons : rest.reverse <+: (s :: rest).reverse := by
  rw [List.reverse_cons]
  exact List.prefix_append _ _

theorem Visits.spelledBy (hp : w.Visits base rest p) (h : ∀ s ∈ rest, '/' ∉ s)
    (hlast : rest.getLast? ≠ some []) : SpelledBy rest.reverse p := by
  induction hp with
  | base => exact spelledBy_nil
  | literal hne _ => exact spelledBy_literalDir h hne hlast
  | slash _ _ ih =>
    exact (ih (fun s hs => h s (List.mem_cons_of_mem _ hs)) (getLast?_ne_of_cons hlast)).mono
      prefix_reverse_cons
  | step _ _ _ hx ih =>
    have hd := ih (fun s hs => h s (List.mem_cons_of_mem _ hs)) (getLast?_ne_of_cons hlast)
    exact (hd.mono prefix_reverse_cons).join (hx.filled (h _ List.mem_cons_self))

/-- Only a pattern that begins so stands for a path that begins with `./` and an empty segment. -/
theorem detours_of_mem_matchPaths {pattern : Text} (h : isAbsolute pattern = false)
    (hne : pattern ≠ []) (hp : p ∈ w.matchPaths base pattern) (hd : Detours p) :
    Detours pattern := by
  cases mem_matchPaths_iff.1 hp with
  | literal _ _ _ => exact hd
  | @listed rest d s x _ hr hv hx =>
    have hmem := mem_segments_of_reverse hr
    have hspelled := (hv.spelledBy (fun s hs => (hmem s (List.mem_cons_of_mem _ hs)).2)
      (getLast?_of_reverse_segments h hne hr)).join (hx.filled (hmem s List.mem_cons_self).2)
    obtain ⟨ms, hms⟩ := hspelled hd
    have hpattern : segments pattern = [here, []] ++ (ms ++ [s]) := by
      rw [← List.append_assoc, hms, ← List.reverse_cons, ← hr, List.reverse_reverse]
    exact detours_of_segments hpattern (by simp)

end Workspace

/-! ## Names in a tree -/

/-- No name in the tree has a line break, which rules do not look past, or a backslash, which they
take for a slash. -/
def Workspace.PlainNames (w : Workspace) : Prop :=
  ∀ e ∈ w.tree.entries, ∀ s ∈ e.1, '\n' ∉ s ∧ '\\' ∉ s

instance (w : Workspace) : Decidable w.PlainNames :=
  inferInstanceAs (Decidable (∀ e ∈ w.tree.entries, ∀ s ∈ e.1, '\n' ∉ s ∧ '\\' ∉ s))

variable {f : SourceFilter} {w : Workspace} {c : Config} {u : ComponentUnit} {b : Bool}
  {more exts ss cs ds fs init files found : List Text} {base pattern pattern' p n s x q : Text}

theorem Workspace.PlainNames.not_mem (hw : w.PlainNames) (hb : base ≠ [])
    (hp : isAbsolute p = false) (hf : w.isFile (Path.join base p) = true) :
    '\n' ∉ p ∧ '\\' ∉ p := by
  obtain ⟨k, dir, l, content, hl⟩ := Workspace.leads_of_isFile hf
  have hall : ∀ s ∈ segments (Path.join base p), '\n' ∉ s ∧ '\\' ∉ s :=
    hl.forall_segments (by decide) (by decide) (by decide) fun dir s e he =>
      hw _ (Tree.mem_entries_of_eq_some he (by simp)) s (by simp)
  have hfree : ∀ d, d ≠ '/' → (∀ s ∈ segments (Path.join base p), d ∉ s) → d ∉ p := by
    intro d hd hseg hm
    obtain ⟨s, hs, hc⟩ := Path.exists_mem_segments hm hd
    rw [Path.segments_join hb hp] at hseg
    exact hseg s (List.mem_append_right _ hs) hc
  exact ⟨hfree _ (by decide) fun s hs => (hall s hs).1,
    hfree _ (by decide) fun s hs => (hall s hs).2⟩

/-! ## Names on the way to a file -/

/-- With one of the extensions the pattern begins with `./` and an empty segment. -/
def SourceFilter.Detours (f : SourceFilter) (pattern : Text) : Prop :=
  ∃ e ∈ f.extensions, ComponentManifest.Detours (pattern ++ '.' :: e)

instance (f : SourceFilter) (pattern : Text) : Decidable (f.Detours pattern) :=
  inferInstanceAs (Decidable (∃ e ∈ f.extensions, ComponentManifest.Detours (pattern ++ '.' :: e)))

/-- The segments `init` lead from one directory to another, and an excluded name is among them only
if the pattern detours. -/
structure Trail (f : SourceFilter) (pattern : Text) (ss init ds : List Text) : Prop where
  leads : (init.foldl (Path.push true) ss.reverse).reverse = ds
  plain : Plain ds
  detours : ∀ n ∈ f.excluded, n ∈ init → f.Detours pattern

theorem Trail.refl (hs : Plain ss) : Trail f pattern ss [] ss :=
  ⟨List.reverse_reverse ss, hs, fun _ _ hm => absurd hm List.not_mem_nil⟩

/-- Before the last segment of a path in the manifest stand steps up, and segments that lead from
the scan directory to the unit or from there to the file. -/
theorem mem_dropLast_manifestPath {init' : List Text} (hc : Plain cs)
    (hunit : Trail f pattern cs init ds) (hfile : Trail f pattern' ds init' fs) (hx : Plain [x])
    (h : s ∈ (segments (manifestPath (Path.relative (rooted b ds) (rooted b cs)) (rooted b ds)
      (rooted b (fs ++ [x])))).dropLast) : s = up ∨ s ∈ init ∨ s ∈ init' := by
  obtain ⟨as, bs, hfirst, has, hbs⟩ := Path.exists_way_foldl_push hc.up_not_mem init []
  rw [hunit.leads, List.append_nil, List.suffix_nil.1 hbs, List.append_nil] at hfirst
  obtain ⟨as', bs', hsecond, has', hbs'⟩ :=
    Path.exists_way_foldl_push hunit.plain.up_not_mem init' [x]
  rw [hfile.leads] at hsecond
  have hcollapse : s ∈ (Path.collapse false (as ++ as' ++ bs')).dropLast := by
    rw [segments_manifestPath hc hunit.plain (hfile.plain.append hx), hfirst, hsecond,
      ← List.append_assoc] at h
    split at h
    · exact absurd h List.not_mem_nil
    · exact h
  have hmem : s ∈ as ++ as' := by
    rcases List.suffix_cons_iff.1 hbs' with rfl | hnil
    · have hproper := (hx x (List.mem_singleton_self x)).1
      unfold Path.collapse at hcollapse
      rw [List.foldl_append, List.foldl_cons, List.foldl_nil, Path.push_proper hproper,
        List.reverse_cons, List.dropLast_concat] at hcollapse
      exact (Path.mem_collapse hcollapse).1
    · rw [List.suffix_nil.1 hnil, List.append_nil] at hcollapse
      exact (Path.mem_collapse (List.dropLast_subset _ hcollapse)).1
  rcases List.mem_append.1 hmem with hs | hs
  · exact (has s hs).imp_right Or.inl
  · exact (has' s hs).imp_right Or.inr

section Filter

variable {r : RuleReader} (hr : r.Lawful) (hf : SourceFilter.make r more exts = .ok f)
  (hmore : ∀ n ∈ more, PlainName n) (hw : w.PlainNames)

include hr hf hmore hw

/-- What is listed was led to by segments that were compared with the rules. -/
theorem exists_trail (hs : Plain ss) (hp : isAbsolute pattern = false)
    (h : f.list w (rooted b ss) pattern = .ok files) (hq : q ∈ files) :
    ∃ init ds x, Trail f pattern ss init ds ∧ Plain [x] ∧ q = rooted b (ds ++ [x]) := by
  obtain ⟨found, rfl, hfound⟩ := SourceFilter.list_eq_sortDistinct hs h
  obtain ⟨e, he, p, hmem, hkept, hfile, rfl⟩ := hfound q (mem_sortDistinct.1 hq)
  have hpattern : isAbsolute (pattern ++ '.' :: e) = false := SourceFilter.isAbsolute_extension hp
  obtain ⟨habs, -⟩ := Workspace.fromPattern_matchPaths hpattern (by simp) hmem
  obtain ⟨init, x, hseg, hx, hq⟩ := Workspace.normalize_of_isFile hs habs hfile
  obtain ⟨hline, hback⟩ := hw.not_mem Path.rooted_ne_nil habs hfile
  have hslash : ∀ s ∈ init ++ [x], '/' ∉ s := fun s hm => Path.slash_not_mem (hseg ▸ hm)
  have hkeep : Plain ss.reverse := fun s hm => hs s (List.mem_reverse.1 hm)
  have hplain : Plain (init.foldl (Path.push true) ss.reverse) :=
    Path.plain_foldl_push hkeep fun s hm => hslash s (List.mem_append_left _ hm)
  refine ⟨init, _, x, ⟨rfl, fun s hm => hplain s (List.mem_reverse.1 hm), ?_⟩, fun s hm => ?_, hq⟩
  · intro n hn hm
    by_contra hnone
    have hd : ¬ Detours p := fun hd =>
      hnone ⟨e, he, Workspace.detours_of_mem_matchPaths hpattern (by simp) hmem hd⟩
    obtain ⟨xs, ys, rfl⟩ := List.append_of_mem hm
    have hin : Within n p := ⟨xs, ys ++ [x], by rw [hseg]; simp, by simp⟩
    rw [SourceFilter.isExcluded_of_within hr hf hmore habs hline hback hd hn hin] at hkept
    cases hkept
  · rw [List.mem_singleton.1 hm]
    exact ⟨hx, hslash x (by simp)⟩

theorem exists_trail_of_unit (hc : Plain cs) (hp : isAbsolute pattern = false)
    (hfound : f.list w (rooted b cs) pattern = .ok found) (hu : u ∈ groupFiles found) :
    ∃ init ds, Trail f pattern cs init ds ∧ u.directory = rooted b ds ∧
      ∀ q ∈ u.files, ∃ x, Plain [x] ∧ q = rooted b (ds ++ [x]) := by
  obtain ⟨hne, hsub, hdirs⟩ := files_of_mem_groupFiles hu
  have hown : ∀ q ∈ u.files, ∃ init ds x, Trail f pattern cs init ds ∧ Plain [x] ∧
      q = rooted b (ds ++ [x]) ∧ u.directory = rooted b ds := by
    intro q hq
    obtain ⟨init, ds, x, ht, hx, rfl⟩ := exists_trail hr hf hmore hw hc hp hfound (hsub.subset hq)
    exact ⟨init, ds, x, ht, hx, rfl, by rw [← hdirs _ hq, Path.dirname_rooted ht.plain hx]⟩
  obtain ⟨q₀, hq₀⟩ := List.exists_mem_of_ne_nil _ hne
  obtain ⟨init, ds, -, ht, -, -, hdir⟩ := hown q₀ hq₀
  refine ⟨init, ds, ht, hdir, fun q hq => ?_⟩
  obtain ⟨_, ds', x, ht', hx, rfl, hdir'⟩ := hown q hq
  exact ⟨x, hx, by rw [Path.rooted_injective ht'.plain ht.plain (hdir'.symm.trans hdir)]⟩

/-- An excluded name stands before the last segment of a path of a unit only if a pattern
detours. -/
theorem detours_of_unit (hc : Plain cs) (hcwd : c.cwd = rooted b cs)
    (hfound : f.list w (rooted b cs) c.componentPattern.display = .ok found)
    (hcp : isAbsolute c.componentPattern.display = false)
    (hfp : isAbsolute c.filePattern.display = false) (hu : u ∈ groupFiles found)
    (hfiles : unitFiles f w c u = .ok files) (hn : n ∈ f.excluded)
    (hp : p ∈ u.manifestPaths c files) (hm : n ∈ (segments p).dropLast) :
    f.Detours c.componentPattern.display ∨ f.Detours c.filePattern.display := by
  have hup : n ≠ up := (SourceFilter.plainName_of_mem_excluded hf hmore hn).2.2.2.1
  obtain ⟨init, ds, ht, hdir, hown⟩ := exists_trail_of_unit hr hf hmore hw hc hcp hfound hu
  have hlisted : ∀ q ∈ files, ∃ init' fs x, Trail f c.filePattern.display ds init' fs ∧
      Plain [x] ∧ q = rooted b (fs ++ [x]) := by
    rcases unitFiles_cases hfiles with rfl | ⟨-, hl⟩
    · intro q hq
      obtain ⟨x, hx, hq⟩ := hown q hq
      exact ⟨[], ds, x, .refl ht.plain, hx, hq⟩
    · rw [hdir] at hl
      exact fun q hq => exists_trail hr hf hmore hw ht.plain hfp hl hq
  unfold ComponentUnit.manifestPaths at hp
  rw [hcwd, hdir] at hp
  obtain ⟨q, hq, rfl⟩ := List.mem_map.1 hp
  obtain ⟨init', fs, x, ht', hx, rfl⟩ := hlisted q hq
  rcases mem_dropLast_manifestPath hc ht ht' hx hm with hm | hm | hm
  · exact absurd hm hup
  · exact Or.inl (ht.detours n hn hm)
  · exact Or.inr (ht'.detours n hn hm)

end Filter

/-! ## All items -/

variable {given : Option ProjectDependencies} {workers : Option Int}
  {memory memory' : BuildMemory} {m : Manifest}

/-- No path in a manifest has an excluded name before its last segment, unless a pattern begins with
`./` and an empty segment. -/
theorem excluded_stay_out {r : RuleReader} (hr : r.Lawful)
    (hf : SourceFilter.make r more exts = .ok f) (hmore : ∀ n ∈ more, PlainName n)
    (hw : w.PlainNames) (hc : ∃ d, c.cwd = w.absolute d)
    (hcp : isAbsolute c.componentPattern.display = false)
    (hfp : isAbsolute c.filePattern.display = false) (hm : memory.Reached w c given f)
    (hb : (build w c given f workers memory).result = .ok (m, memory')) :
    (∀ n, n ∈ f.excluded ↔ n ∈ SourceFilter.alwaysExcluded ∨ n ∈ more) ∧
    (∀ item ∈ m.items, ∀ file ∈ item.files, ∀ n ∈ f.excluded,
      n ∈ (segments file.path).dropLast →
        f.Detours c.componentPattern.display ∨ f.Detours c.filePattern.display) ∧
    ∀ base pattern p, base ≠ [] → pattern ≠ [] → isAbsolute pattern = false →
      p ∈ w.matchPaths base pattern → w.isFile (Path.join base p) = true →
        (f.isExcluded p = true → ∃ n ∈ f.excluded, Within n p) ∧
        (¬ Detours pattern → (∃ n ∈ f.excluded, Within n p) → f.isExcluded p = true) := by
  refine ⟨fun n => SourceFilter.mem_excluded hf, ?_, ?_⟩
  · obtain ⟨d, hd⟩ := hc
    obtain ⟨b, cs, hcs, hroot⟩ := w.exists_rooted d
    have hcwd : c.cwd = rooted b cs := hd.trans hroot
    obtain ⟨-, k, units, items, memo, skipped, hk, hu, -, hi, rfl, -⟩ := build_eq_ok.1 hb
    have hfilter : k.filter = f := (BuildMemory.serves_of_classifierFor hm.serves rfl hk).filter
    obtain ⟨found, hfound, rfl⟩ := discover_eq_ok.1 hu
    rw [hcwd] at hfound
    intro item hitem file hfile n hn hmem
    obtain ⟨u, hu, memo, memo', skipped, hmade⟩ :=
      exists_of_forall₂ (forall₂_of_makeItems hi) hitem
    obtain ⟨files, scan, hfiles, -, hmade, -⟩ := makeItem_eq_ok.1 hmade
    rw [hfilter] at hfiles
    have hpaths : item.files.map (·.path) = u.manifestPaths c files := by
      have hitem : item = (itemOf c memo u files (.ofClassifications scan.found)).1 :=
        congrArg Prod.fst hmade
      rw [hitem]
      exact tagPaths_paths ..
    have hpath : file.path ∈ u.manifestPaths c files := by
      rw [← hpaths]
      exact List.mem_map_of_mem hfile
    exact detours_of_unit hr hf hmore hw hcs hcwd hfound hcp hfp hu hfiles hn hpath hmem
  · intro base pattern p hbase hne hp hmem hfile
    obtain ⟨habs, -⟩ := Workspace.fromPattern_matchPaths hp hne hmem
    obtain ⟨hline, hback⟩ := hw.not_mem hbase habs hfile
    refine ⟨SourceFilter.within_of_isExcluded hr hf hmore hback, ?_⟩
    rintro hd ⟨n, hn, hin⟩
    refine SourceFilter.isExcluded_of_within hr hf hmore habs hline hback (fun hp' => hd ?_) hn hin
    exact Workspace.detours_of_mem_matchPaths hp hne hmem hp'

/-- A project with sources in directories called `dist`, and one source outside of them. -/
def distProject : Workspace where
  tree := {
    entries := [([['p']], .dir), ([['p'], "dist".toList], .dir),
      ([['p'], "dist".toList, "x.ts".toList], .file []), ([['p'], ['a']], .dir),
      ([['p'], ['a'], "dist".toList], .dir),
      ([['p'], ['a'], "dist".toList, "y.ts".toList], .file []),
      ([['p'], ['a'], ['b']], .dir), ([['p'], ['a'], ['b'], "index.ts".toList], .file []),
      ([['p'], ['a'], ['b'], "dist".toList], .dir),
      ([['p'], ['a'], ['b'], "dist".toList, "z.ts".toList], .file [])]
    named := by decide
    closed := by decide
    distinct := by decide }
  cwd := []

theorem excluded_stay_out_dist_directories :
    ∃ m memory', (build distProject packageConfig none .standard none .fresh).result =
        .ok (m, memory') ∧
      m.items.map (fun i => i.files.map (·.path)) = [["a/b/index.ts".toList]] ∧
      (∀ item ∈ m.items, ∀ file ∈ item.files, "dist".toList ∉ (segments file.path).dropLast) ∧
      SourceFilter.standard.isExcluded "a/dist/y.ts".toList = true := by
  have hpaths : (build distProject packageConfig none .standard none .fresh).result.toOption.map
      (fun r => r.1.items.map fun i => i.files.map (·.path)) = some [["a/b/index.ts".toList]] := by
    decide +kernel
  rcases hb : (build distProject packageConfig none .standard none .fresh).result
    with e | ⟨m, memory'⟩
  · rw [hb] at hpaths
    cases hpaths
  rw [hb] at hpaths
  have hdist : "dist".toList ∈ SourceFilter.standard.excluded := by decide +kernel
  obtain ⟨-, hout, hdrop⟩ := excluded_stay_out Exclusion.gitignore_lawful
    SourceFilter.make_standard (fun n hn => absurd hn List.not_mem_nil) (by decide)
    ⟨"/p".toList, by decide⟩ (by decide) (by decide) .fresh hb
  refine ⟨m, memory', rfl, Option.some.inj hpaths, fun item hi file hf hm => ?_, ?_⟩
  · rcases hout item hi file hf _ hdist hm with h | h
    · exact absurd h (by decide +kernel)
    · exact absurd h (by decide +kernel)
  · have hfound : "a/dist/y.ts".toList ∈ distProject.matchPaths "/p".toList "*/*/*.ts".toList := by
      decide +kernel
    refine (hdrop _ _ _ (by decide) (by decide) (by decide) hfound (by decide +kernel)).2
      (by decide) ⟨_, hdist, [['a']], ["y.ts".toList], by decide, by decide⟩

/-- A configuration whose pattern begins with `./` and an empty segment. -/
def detouringConfig : Config :=
  { packageConfig with componentPattern := .str (Text.ofString ".//dist/*") }

/-- A source in `dist` is in the manifest of that configuration, although `dist` is excluded. -/
theorem hidden_name_reaches_manifest :
    distProject.PlainNames ∧ detouringConfig.cwd = distProject.absolute "/p".toList ∧
      isAbsolute detouringConfig.componentPattern.display = false ∧
      isAbsolute detouringConfig.filePattern.display = false ∧
      "dist".toList ∈ SourceFilter.standard.excluded ∧
      (build distProject detouringConfig none .standard none .fresh).result.toOption.map
        (fun r => r.1.items.map fun i => i.files.map (·.path)) = some [["dist/x.ts".toList]] ∧
      "dist".toList ∈ (segments "dist/x.ts".toList).dropLast := by
  decide +kernel

end ComponentManifest
