import ComponentManifest.Manifest.Unit
import Mathlib.Data.List.Nodup

/-!
# Groups of files

Grouping files by their directories loses none and repeats none.

1. Adding one file.
2. `partitions_ofFiles`: each file is in the group of its directory, and groups have different
   directories.
3. `sublist_of_mem_ofFiles`: a group keeps the order of its files, and so does a unit.
-/

namespace ComponentManifest.Groups

variable {gs : Groups} {dir file q k : Text} {files seen : List Text}

/-! ## Adding a file -/

theorem mem_keys_add :
    k ∈ (add dir file gs).map (·.1) ↔ k = dir ∨ k ∈ gs.map (·.1) := by
  induction gs with
  | nil => simp [add]
  | cons g gs ih =>
    unfold add
    split
    · next hg =>
      subst hg
      simp
    · simp only [List.map_cons, List.mem_cons, ih]
      exact or_left_comm

theorem nodup_keys_add (h : (gs.map (·.1)).Nodup) : ((add dir file gs).map (·.1)).Nodup := by
  induction gs with
  | nil => exact List.nodup_singleton dir
  | cons g gs ih =>
    obtain ⟨hg, hgs⟩ := List.nodup_cons.1 h
    unfold add
    split
    · next he =>
      subst he
      exact h
    · next hne =>
      refine List.nodup_cons.2 ⟨fun hm => ?_, ih hgs⟩
      rcases mem_keys_add.1 hm with he | hm
      · exact hne he
      · exact hg hm

/-- What holds of every group still holds when a file is added, if it holds of the file alone and
of the group of its directory with the file put last. -/
theorem forall_add {P : Text × List Text → Prop} (h : ∀ g ∈ gs, P g) (hnew : P (dir, [file]))
    (hold : ∀ fs, P (dir, fs) → file ∉ fs → P (dir, fs ++ [file])) :
    ∀ g ∈ add dir file gs, P g := by
  induction gs with
  | nil =>
    intro g hg
    rw [List.mem_singleton.1 hg]
    exact hnew
  | cons g gs ih =>
    obtain ⟨hg, hgs⟩ := List.forall_mem_cons.1 h
    unfold add
    split
    · next he =>
      subst he
      refine List.forall_mem_cons.2 ⟨?_, hgs⟩
      split
      · exact hg
      · next hf => exact hold g.2 hg (by simpa using hf)
    · exact List.forall_mem_cons.2 ⟨hg, ih hgs⟩

theorem exists_mem_add :
    (∃ g ∈ add dir file gs, q ∈ g.2) ↔ q = file ∨ ∃ g ∈ gs, q ∈ g.2 := by
  induction gs with
  | nil => simp [add]
  | cons g gs ih =>
    unfold add
    split
    · by_cases hf : file ∈ g.2
      · simp [hf]
        grind
      · simp [hf]
        grind
    · simp only [List.mem_cons, exists_eq_or_imp] at ih ⊢
      rw [ih]
      exact or_left_comm

/-! ## All files -/

/-- The groups share out the files: groups have different directories, none is empty, and each file
is once in the group of its directory. -/
structure Partitions (gs : Groups) (files : List Text) : Prop where
  distinct : (gs.map (·.1)).Nodup
  group : ∀ g ∈ gs, g.2 ≠ [] ∧ g.2.Nodup ∧ ∀ q ∈ g.2, Path.dirname q = g.1
  mem_iff : ∀ q, q ∈ files ↔ ∃ g ∈ gs, q ∈ g.2

theorem Partitions.add (h : Partitions gs files) :
    Partitions (add (Path.dirname file) file gs) (files ++ [file]) where
  distinct := nodup_keys_add h.distinct
  group := by
    refine forall_add h.group ⟨List.cons_ne_nil file [], List.nodup_singleton file, ?_⟩ ?_
    · intro q hq
      rw [List.mem_singleton.1 hq]
    · rintro fs ⟨-, hnodup, hdir⟩ hf
      refine ⟨by simp, ?_, fun q hq => ?_⟩
      · rw [List.nodup_append]
        refine ⟨hnodup, List.nodup_singleton file, fun x hx y hy he => ?_⟩
        rw [List.mem_singleton.1 hy] at he
        exact hf (he ▸ hx)
      · rcases List.mem_append.1 hq with hq | hq
        · exact hdir q hq
        · rw [List.mem_singleton.1 hq]
  mem_iff := by
    intro q
    rw [exists_mem_add, ← h.mem_iff, List.mem_append, List.mem_singleton]
    exact or_comm

theorem Partitions.foldl (h : Partitions gs seen) :
    Partitions (files.foldl (fun gs f => Groups.add (Path.dirname f) f gs) gs) (seen ++ files) := by
  induction files generalizing gs seen with
  | nil => rwa [List.append_nil]
  | cons file files ih =>
    rw [List.foldl_cons, ← List.singleton_append, ← List.append_assoc]
    exact ih h.add

theorem partitions_ofFiles (files : List Text) : Partitions (ofFiles files) files := by
  have h : Partitions [] [] := ⟨List.nodup_nil, fun _ h => absurd h List.not_mem_nil, by simp⟩
  exact h.foldl

/-! ## Order -/

theorem sublist_foldl (h : ∀ g ∈ gs, g.2.Sublist seen) :
    ∀ g ∈ files.foldl (fun gs f => Groups.add (Path.dirname f) f gs) gs,
      g.2.Sublist (seen ++ files) := by
  induction files generalizing gs seen with
  | nil =>
    rw [List.append_nil]
    exact h
  | cons file files ih =>
    rw [List.foldl_cons, ← List.singleton_append, ← List.append_assoc]
    have hold : ∀ g ∈ gs, g.2.Sublist (seen ++ [file]) :=
      fun g hg => (h g hg).trans (List.sublist_append_left seen [file])
    -- A group that is changed gets the file last, as the list of all files seen does.
    have hgroups : ∀ g ∈ Groups.add (Path.dirname file) file gs,
        g.2.Sublist (seen ++ [file]) ∧ (file ∉ g.2 → g.2.Sublist seen) :=
      forall_add (fun g hg => ⟨hold g hg, fun _ => h g hg⟩)
        ⟨List.sublist_append_right seen [file], fun hf => absurd (List.mem_singleton_self file) hf⟩
        fun fs hfs hf => ⟨(hfs.2 hf).append_right [file], fun hf' => absurd (by simp) hf'⟩
    exact ih fun g hg => (hgroups g hg).1

theorem sublist_of_mem_ofFiles {g : Text × List Text} (h : g ∈ ofFiles files) :
    g.2.Sublist files := by
  have hnone : ∀ g ∈ ([] : Groups), g.2.Sublist [] := fun g hg => absurd hg List.not_mem_nil
  exact sublist_foldl hnone g h

end ComponentManifest.Groups

namespace ComponentManifest

/-- A unit has some of the files, in their order, and all of them lie in its directory. -/
theorem files_of_mem_groupFiles {files : List Text} {u : ComponentUnit}
    (h : u ∈ groupFiles files) :
    u.files ≠ [] ∧ u.files.Sublist files ∧ ∀ q ∈ u.files, Path.dirname q = u.directory := by
  obtain ⟨g, hg, hu⟩ := List.mem_flatMap.1 h
  obtain ⟨hne, -, hdir⟩ := (Groups.partitions_ofFiles files).group g hg
  have hsub := Groups.sublist_of_mem_ofFiles hg
  unfold unitsOf at hu
  split at hu
  · rw [List.mem_singleton.1 hu]
    exact ⟨hne, hsub, hdir⟩
  · obtain ⟨q, hq, rfl⟩ := List.mem_map.1 hu
    refine ⟨List.cons_ne_nil q [], (List.singleton_sublist.2 hq).trans hsub, fun q' hq' => ?_⟩
    rw [List.mem_singleton.1 hq']
    exact hdir q hq

end ComponentManifest
