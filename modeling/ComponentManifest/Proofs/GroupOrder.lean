import ComponentManifest.Proofs.FirstAppearance
import ComponentManifest.Proofs.Grouping

/-!
# Units in order of appearance

What grouping makes of a list of files, said without the loop: the directories in the order in which
they first appear, and for each of them its files in theirs. The units of a directory are one with
all its files, if one of them is an entry file, and one a file otherwise.

1. `Groups.ofFiles_eq`: the groups, read off the list.
2. `Groups.ofFiles_flatMap`: groups written out one after another are found again.
3. `nodup_keys`: what identifies a unit.
4. `groupFiles_partition`: the whole rule.
-/

namespace ComponentManifest

variable {files : List Text} {d q : Text}

/-- The directories of some files, in order of first appearance. -/
def directoriesOf (files : List Text) : List Text := (files.map Path.dirname).eraseDups

/-- The files right in a directory, in order of first appearance. -/
def filesIn (dir : Text) (files : List Text) : List Text :=
  (files.filter fun q => Path.dirname q = dir).eraseDups

/-! ## The groups of a list -/

theorem mem_directoriesOf : d ∈ directoriesOf files ↔ ∃ q ∈ files, Path.dirname q = d := by
  rw [directoriesOf, List.mem_eraseDups, List.mem_map]

theorem mem_filesIn : q ∈ filesIn d files ↔ q ∈ files ∧ Path.dirname q = d := by
  rw [filesIn, List.mem_eraseDups, List.mem_filter, decide_eq_true_iff]

theorem nodup_directoriesOf (files : List Text) : (directoriesOf files).Nodup :=
  nodup_eraseDups _

theorem directoriesOf_concat (files : List Text) (q : Text) :
    directoriesOf (files ++ [q]) =
      if Path.dirname q ∈ directoriesOf files then directoriesOf files
      else directoriesOf files ++ [Path.dirname q] := by
  unfold directoriesOf
  rw [List.map_append, List.map_singleton, eraseDups_concat]
  simp only [List.mem_eraseDups]

theorem filesIn_concat (files : List Text) (d q : Text) :
    filesIn d (files ++ [q]) =
      if d = Path.dirname q then
        if q ∈ filesIn d files then filesIn d files else filesIn d files ++ [q]
      else filesIn d files := by
  unfold filesIn
  rw [List.filter_append]
  by_cases h : d = Path.dirname q
  · rw [List.filter_cons_of_pos (by simp [h]), List.filter_nil, eraseDups_concat, if_pos h]
    simp only [List.mem_eraseDups]
  · rw [List.filter_cons_of_neg (by simp [Ne.symm h]), List.filter_nil, List.append_nil, if_neg h]

namespace Groups

variable {gs hs : Groups} {ds fs : List Text} {F : Text → List Text}

/-- A file that is added changes the group of its directory, or is put last as a new one. -/
theorem add_map (hds : ds.Nodup) (hF : d ∉ ds → F d = []) :
    add d q (ds.map fun k => (k, F k)) =
      (if d ∈ ds then ds else ds ++ [d]).map fun k =>
        (k, if k = d then if q ∈ F k then F k else F k ++ [q] else F k) := by
  induction ds with
  | nil => simp [add, hF]
  | cons e es ih =>
    obtain ⟨he, hes⟩ := List.nodup_cons.1 hds
    rw [List.map_cons, add]
    by_cases hed : e = d
    · subst hed
      have hsame : ∀ k ∈ es, (k, F k) =
          (k, if k = e then if q ∈ F k then F k else F k ++ [q] else F k) := by
        intro k hk
        rw [if_neg fun hke : k = e => he (hke ▸ hk)]
      rw [if_pos rfl, if_pos List.mem_cons_self, List.map_cons, List.map_congr_left hsame,
        if_pos rfl]
      simp only [List.contains_iff_mem]
    · have hmem : d ∈ e :: es ↔ d ∈ es := by simp [Ne.symm hed]
      rw [if_neg hed, ih hes fun h => hF (mt hmem.1 h)]
      simp only [hmem]
      split
      · rw [List.map_cons, if_neg hed]
      · rw [List.cons_append, List.map_cons, if_neg hed]

theorem ofFiles_eq (files : List Text) :
    ofFiles files = (directoriesOf files).map fun d => (d, filesIn d files) := by
  induction files using List.reverseRecOn with
  | nil => rfl
  | append_singleton files q ih =>
    have hnone : Path.dirname q ∉ directoriesOf files → filesIn (Path.dirname q) files = [] := by
      intro h
      rw [List.eq_nil_iff_forall_not_mem]
      intro p hp
      obtain ⟨hp, hd⟩ := mem_filesIn.1 hp
      exact h (mem_directoriesOf.2 ⟨p, hp, hd⟩)
    have hstep : ofFiles (files ++ [q]) = add (Path.dirname q) q (ofFiles files) :=
      List.foldl_concat ..
    rw [hstep, ih, add_map (nodup_directoriesOf files) hnone, directoriesOf_concat]
    simp only [filesIn_concat]

/-! ## Grouping again -/

theorem add_append_of_not_mem (h : d ∉ gs.map (·.1)) : add d q (gs ++ hs) = gs ++ add d q hs := by
  induction gs with
  | nil => rfl
  | cons g gs ih =>
    rw [List.map_cons, List.mem_cons, not_or] at h
    rw [List.cons_append, add, if_neg (Ne.symm h.1), ih h.2, List.cons_append]

theorem foldl_add_new (hd : d ∉ gs.map (·.1)) (hne : fs ≠ []) (hn : fs.Nodup)
    (hfs : ∀ q ∈ fs, Path.dirname q = d) :
    fs.foldl (fun gs q => add (Path.dirname q) q gs) gs = gs ++ [(d, fs)] := by
  induction fs using List.reverseRecOn with
  | nil => exact absurd rfl hne
  | append_singleton fs q ih =>
    obtain ⟨hn, -, hq⟩ := List.nodup_append.1 hn
    have hnew : q ∉ fs := fun hm => hq q hm q (List.mem_singleton_self q) rfl
    rw [List.foldl_concat, hfs q (by simp)]
    by_cases he : fs = []
    · subst he
      show add d q gs = gs ++ [(d, [q])]
      rw [← List.append_nil gs, add_append_of_not_mem hd, List.append_nil]
      rfl
    · rw [ih he hn fun q hq => hfs q (List.mem_append_left _ hq), add_append_of_not_mem hd]
      simp [add, hnew]

/-- Groups that are written out one after another are found again. -/
theorem Partitions.ofFiles_flatMap (h : Partitions gs files) : ofFiles (gs.flatMap (·.2)) = gs := by
  obtain ⟨hdistinct, hgroup, -⟩ := h
  induction gs using List.reverseRecOn with
  | nil => rfl
  | append_singleton gs g ih =>
    rw [List.map_append, List.map_singleton] at hdistinct
    obtain ⟨hdistinct, -, hg⟩ := List.nodup_append.1 hdistinct
    have hnew : g.1 ∉ gs.map (·.1) := fun hm => hg g.1 hm g.1 (List.mem_singleton_self _) rfl
    obtain ⟨hne, hn, hdir⟩ := hgroup g (by simp)
    have hbefore := ih hdistinct fun g' hg' => hgroup g' (List.mem_append_left _ hg')
    unfold ofFiles at hbefore ⊢
    rw [List.flatMap_append, List.flatMap_singleton, List.foldl_append, hbefore,
      foldl_add_new hnew hne hn hdir]

/-! ## Files and keys of units -/

theorem Partitions.pairwise_ne (h : Partitions gs files) : gs.Pairwise fun g g' => g.1 ≠ g'.1 :=
  List.pairwise_map.1 h.distinct

theorem Partitions.nodup_flatMap (h : Partitions gs files) : (gs.flatMap (·.2)).Nodup := by
  refine List.nodup_flatMap.2 ⟨fun g hg => (h.group g hg).2.1, ?_⟩
  refine h.pairwise_ne.imp_of_mem fun {g g'} hg hg' hne q hq hq' => hne ?_
  rw [← (h.group g hg).2.2 q hq, (h.group g' hg').2.2 q hq']

end Groups

theorem flatMap_files_unitsOf (g : Text × List Text) : (unitsOf g).flatMap (·.files) = g.2 := by
  unfold unitsOf
  split
  · exact List.append_nil g.2
  · rw [List.flatMap_map]
    exact List.flatMap_singleton' g.2

theorem flatMap_files_groupFiles (files : List Text) :
    (groupFiles files).flatMap (·.files) = (Groups.ofFiles files).flatMap (·.2) := by
  unfold groupFiles
  rw [List.flatMap_assoc]
  exact List.flatMap_congr fun g _ => flatMap_files_unitsOf g

theorem map_key_unitsOf (g : Text × List Text) :
    (unitsOf g).map (·.key) = if g.2.any isEntryFile then [g.1] else g.2 := by
  unfold unitsOf
  split
  · rfl
  · rw [List.map_map]
    exact List.map_id g.2

/-- Only a file that is the directory of another one could be taken for the unit of this
directory. -/
theorem nodup_keys (h : ∀ p ∈ files, ∀ q ∈ files, p ≠ q → p ≠ Path.dirname q) :
    ((groupFiles files).map (·.key)).Nodup := by
  have hpart := Groups.partitions_ofFiles files
  -- A directory is never a file of another group.
  have hapart : ∀ g ∈ Groups.ofFiles files, ∀ g' ∈ Groups.ofFiles files, g.1 ≠ g'.1 →
      g.1 ∉ g'.2 := by
    intro g hg g' hg' hne hm
    obtain ⟨hnonempty, -, hdir⟩ := hpart.group g hg
    obtain ⟨q, hq⟩ := List.exists_mem_of_ne_nil _ hnonempty
    have hdir' := (hpart.group g' hg').2.2 g.1 hm
    refine h g.1 ((hpart.mem_iff _).2 ⟨g', hg', hm⟩) q ((hpart.mem_iff _).2 ⟨g, hg, hq⟩) ?_
      (hdir q hq).symm
    rintro rfl
    exact hne ((hdir _ hq).symm.trans hdir')
  unfold groupFiles
  rw [List.map_flatMap]
  simp only [map_key_unitsOf]
  refine List.nodup_flatMap.2 ⟨fun g hg => ?_, hpart.pairwise_ne.imp_of_mem ?_⟩
  · split
    · exact List.nodup_singleton g.1
    · exact (hpart.group g hg).2.1
  · intro g g' hg hg' hne k hk hk'
    dsimp only at hk hk'
    split at hk <;> split at hk'
    · exact hne ((List.mem_singleton.1 hk).symm.trans (List.mem_singleton.1 hk'))
    · exact hapart g hg g' hg' hne (List.mem_singleton.1 hk ▸ hk')
    · exact hapart g' hg' g hg hne.symm (List.mem_singleton.1 hk' ▸ hk)
    · exact hne (((hpart.group g hg).2.2 k hk).symm.trans ((hpart.group g' hg').2.2 k hk'))

/-! ## The rule -/

theorem groupFiles_eq (files : List Text) :
    groupFiles files = (directoriesOf files).flatMap fun d => unitsOf (d, filesIn d files) := by
  unfold groupFiles
  rw [Groups.ofFiles_eq, List.flatMap_map]

/-- A unit is not loose exactly if its directory has an entry file; a loose one has one file. -/
theorem fileBased_of_mem_groupFiles {u : ComponentUnit} (hu : u ∈ groupFiles files) :
    (u.fileBased = false ↔ ∃ q ∈ files, Path.dirname q = u.directory ∧ isEntryFile q = true) ∧
      (u.fileBased = true → ∃ q, u.files = [q]) := by
  rw [groupFiles_eq] at hu
  obtain ⟨d, -, hu⟩ := List.mem_flatMap.1 hu
  have hentry : (filesIn d files).any isEntryFile = true ↔
      ∃ q ∈ files, Path.dirname q = d ∧ isEntryFile q = true := by
    simp only [List.any_eq_true, mem_filesIn, and_assoc]
  unfold unitsOf at hu
  split at hu
  · next hany =>
    obtain rfl := List.mem_singleton.1 hu
    exact ⟨iff_of_true rfl (hentry.1 hany), fun h => Bool.noConfusion h⟩
  · next hany =>
    obtain ⟨q, -, rfl⟩ := List.mem_map.1 hu
    exact ⟨iff_of_false (fun h => Bool.noConfusion h) (mt hentry.2 hany), fun _ => ⟨q, rfl⟩⟩

/-- Grouping shares out the files of a list: each is in one unit, once, and directories and files
come in the order in which they first appear. -/
theorem groupFiles_partition (files : List Text) :
    groupFiles files = ((directoriesOf files).flatMap fun d =>
      if (filesIn d files).any isEntryFile then [⟨d, filesIn d files, false⟩]
      else (filesIn d files).map fun q => ⟨d, [q], true⟩) ∧
    ((groupFiles files).flatMap (·.files)).Nodup ∧
    (∀ q, q ∈ (groupFiles files).flatMap (·.files) ↔ q ∈ files) ∧
    (∀ u ∈ groupFiles files, (∀ q ∈ u.files, Path.dirname q = u.directory) ∧
      (u.fileBased = false ↔ ∃ q ∈ files, Path.dirname q = u.directory ∧ isEntryFile q = true) ∧
      (u.fileBased = true → ∃ q, u.files = [q])) ∧
    ((∀ p ∈ files, ∀ q ∈ files, p ≠ q → p ≠ Path.dirname q) →
      ((groupFiles files).map (·.key)).Nodup) ∧
    groupFiles ((groupFiles files).flatMap (·.files)) = groupFiles files := by
  have hpart := Groups.partitions_ofFiles files
  have hflat := flatMap_files_groupFiles files
  refine ⟨groupFiles_eq files, ?_, fun q => ?_, fun u hu => ?_, nodup_keys, ?_⟩
  · rw [hflat]
    exact hpart.nodup_flatMap
  · rw [hflat, List.mem_flatMap, hpart.mem_iff]
  · exact ⟨(files_of_mem_groupFiles hu).2.2, fileBased_of_mem_groupFiles hu⟩
  · have hagain : Groups.ofFiles ((Groups.ofFiles files).flatMap (·.2)) = Groups.ofFiles files :=
      hpart.ofFiles_flatMap
    rw [hflat]
    unfold groupFiles
    rw [hagain]

/-- Files of three directories, interleaved and with repetitions; one directory has an entry file,
and another is the parent of it. -/
theorem groupFiles_partition_interleaved :
    let files := ["u/b/x.ts".toList, "u/a.vue".toList, "u/b/index.ts".toList, "v/c.ts".toList,
      "u/b/x.ts".toList, "u/d.ts".toList]
    groupFiles files =
      [⟨"u/b".toList, ["u/b/x.ts".toList, "u/b/index.ts".toList], false⟩,
        ⟨"u".toList, ["u/a.vue".toList], true⟩, ⟨"u".toList, ["u/d.ts".toList], true⟩,
        ⟨"v".toList, ["v/c.ts".toList], true⟩] ∧
      ((groupFiles files).map (·.key)).Nodup ∧
      groupFiles ((groupFiles files).flatMap (·.files)) = groupFiles files ∧
      ∀ u ∈ groupFiles files, ∀ q ∈ u.files, Path.dirname q = u.directory := by
  intro files
  obtain ⟨-, -, -, hunits, hkeys, hagain⟩ := groupFiles_partition files
  exact ⟨by decide +kernel, hkeys (by decide +kernel), hagain, fun u hu => (hunits u hu).1⟩

end ComponentManifest
