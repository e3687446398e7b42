import ComponentManifest.Proofs.Coverage
import ComponentManifest.Proofs.GroupOrder

/-!
# Names of loose files

A loose file is named after itself, or after its directory when its own name is short or is the
name of the directory in other letters. So the loose files of one directory are not always told
apart by their names.

1. `ownName` and `TakesDirectoryName`: the two names that a loose file can have.
2. `componentName_eq_iff`: when two loose files of a directory have one name.
3. Different units have different files.
4. `loose_names_differ`: the loose components of a manifest.
-/

namespace ComponentManifest

variable {dir p q : Text} {u v : ComponentUnit} {files : List Text}

/-! ## The two names -/

/-- The name of a file without its extension. -/
def ownName (file : Text) : Text := stem (Path.basename file)

/-- The name of a directory. -/
def directoryName (dir : Text) : Text := Path.basename (Path.normalize dir)

/-- Does the component of a loose file take the directory's name? It does if the file's own name has
at most two characters, or is the directory's but for upper and lower case. -/
def TakesDirectoryName (dir file : Text) : Prop :=
  Unicode.lower (ownName file) = Unicode.lower (directoryName dir) ∨ (ownName file).length ≤ 2

instance (dir file : Text) : Decidable (TakesDirectoryName dir file) :=
  inferInstanceAs (Decidable (_ ∨ _))

theorem componentName_of_takes (he : isEntryFile p = false) (h : TakesDirectoryName dir p) :
    componentName dir [p] = directoryName dir := by
  unfold componentName
  simp only [List.any_cons, List.any_nil, he, Bool.or_false, Bool.false_eq_true, if_false]
  split
  · rfl
  · next hlower =>
    have hshort : ¬ 2 < (ownName p).length := Nat.not_lt.2 (h.resolve_left hlower)
    exact if_neg hshort

theorem componentName_of_not_takes (he : isEntryFile p = false) (h : ¬ TakesDirectoryName dir p) :
    componentName dir [p] = ownName p := by
  obtain ⟨hlower, hlong⟩ := not_or.1 h
  unfold componentName
  simp only [List.any_cons, List.any_nil, he, Bool.or_false, Bool.false_eq_true, if_false]
  exact (if_neg hlower).trans (if_pos (Nat.not_le.1 hlong))

theorem ownName_ne_directoryName (h : ¬ TakesDirectoryName dir p) :
    ownName p ≠ directoryName dir := by
  intro hname
  apply h
  left
  rw [hname]

/-- Two loose files of a directory have one name exactly if their own names are equal, or both take
the directory's. -/
theorem componentName_eq_iff (hp : isEntryFile p = false) (hq : isEntryFile q = false) :
    componentName dir [p] = componentName dir [q] ↔
      ownName p = ownName q ∨ TakesDirectoryName dir p ∧ TakesDirectoryName dir q := by
  have hsame (h : ownName p = ownName q) : TakesDirectoryName dir p ↔ TakesDirectoryName dir q := by
    unfold TakesDirectoryName
    rw [h]
  by_cases htp : TakesDirectoryName dir p
  · rw [componentName_of_takes hp htp]
    by_cases htq : TakesDirectoryName dir q
    · rw [componentName_of_takes hq htq]
      exact iff_of_true rfl (.inr ⟨htp, htq⟩)
    · rw [componentName_of_not_takes hq htq]
      refine iff_of_false (ownName_ne_directoryName htq).symm ?_
      rintro (h | h)
      · exact htq ((hsame h).1 htp)
      · exact htq h.2
  · rw [componentName_of_not_takes hp htp]
    by_cases htq : TakesDirectoryName dir q
    · rw [componentName_of_takes hq htq]
      refine iff_of_false (ownName_ne_directoryName htp) ?_
      rintro (h | h)
      · exact htp ((hsame h).2 htq)
      · exact htp h.1
    · rw [componentName_of_not_takes hq htq]
      exact ⟨.inl, fun h => h.resolve_right fun h => htp h.1⟩

/-! ## Loose units -/

/-- A loose unit has one file, which is no entry file. -/
theorem exists_file_of_fileBased (hu : u ∈ groupFiles files) (hb : u.fileBased = true) :
    ∃ p, u.files = [p] ∧ isEntryFile p = false := by
  obtain ⟨hentry, hone⟩ := fileBased_of_mem_groupFiles hu
  obtain ⟨p, hp⟩ := hone hb
  obtain ⟨-, hsub, hdir⟩ := files_of_mem_groupFiles hu
  refine ⟨p, hp, ?_⟩
  rw [hp] at hsub hdir
  by_contra he
  have hnot := hentry.2 ⟨p, hsub.subset (List.mem_singleton_self p),
    hdir p (List.mem_singleton_self p), by simpa using he⟩
  rw [hb] at hnot
  cases hnot

theorem pairwise_disjoint_groupFiles (files : List Text) :
    (groupFiles files).Pairwise fun u v => ∀ p ∈ u.files, p ∉ v.files := by
  have hnodup : ((groupFiles files).flatMap (·.files)).Nodup := by
    rw [flatMap_files_groupFiles]
    exact (Groups.partitions_ofFiles files).nodup_flatMap
  exact (List.nodup_flatMap.1 hnodup).2

variable {w : Workspace} {c : Config} {given : Option ProjectDependencies} {f : SourceFilter}
  {workers : Option Int} {memory memory' : BuildMemory} {m : Manifest}

/-- The item has the name of the unit, and the files of a loose one. -/
structure NamedAfter (c : Config) (u : ComponentUnit) (item : Item) : Prop where
  name : item.name = componentName u.directory u.files
  paths : u.fileBased = true → item.files.map (·.path) = u.manifestPaths c u.files

theorem namedAfter_of_makeItem {k : Classifier} {memo memo' : TagMemo} {item : Item}
    {skipped : List Text} (h : (makeItem k w c memo u).result = .ok (item, memo', skipped)) :
    NamedAfter c u item := by
  obtain ⟨files, scan, hfiles, -, hitem, -⟩ := makeItem_eq_ok.1 h
  obtain ⟨rfl, -⟩ := Prod.mk.inj hitem
  refine ⟨rfl, fun hb => ?_⟩
  unfold unitFiles at hfiles
  rw [if_pos hb] at hfiles
  cases hfiles
  exact tagPaths_paths ..

/-- Two loose components from one directory stand for different files. They have one name exactly if
their files have, or if both take the name of the directory. -/
theorem loose_names_differ (hb : (build w c given f workers memory).result = .ok (m, memory')) :
    ∃ units,
      (discover f w c.cwd c.componentPattern.display c.componentPattern.shown).result =
        .ok units ∧
      List.Forall₂ (NamedAfter c) units m.items ∧
      (units.zip m.items).Pairwise fun x y =>
        x.1.fileBased = true → y.1.fileBased = true → x.1.directory = y.1.directory →
          ∃ p q, x.1.files = [p] ∧ y.1.files = [q] ∧ p ≠ q ∧
            (x.2.name = y.2.name ↔ ownName p = ownName q ∨
              TakesDirectoryName x.1.directory p ∧ TakesDirectoryName x.1.directory q) := by
  obtain ⟨-, k, units, items, memo, skipped, -, hu, -, hi, rfl, -⟩ := build_eq_ok.1 hb
  obtain ⟨found, -, rfl⟩ := discover_eq_ok.1 hu
  have hall : List.Forall₂ (NamedAfter c) (groupFiles found) items :=
    (forall₂_of_makeItems hi).imp fun u item ⟨_, _, _, h⟩ => namedAfter_of_makeItem h
  refine ⟨_, hu, hall, List.pairwise_iff_getElem.2 fun i j hi hj hij => ?_⟩
  rw [List.length_zip, Nat.lt_min] at hi hj
  rw [List.getElem_zip, List.getElem_zip]
  intro hbi hbj hdir
  have hni : NamedAfter c (groupFiles found)[i] items[i] := hall.get hi.1 hi.2
  have hnj : NamedAfter c (groupFiles found)[j] items[j] := hall.get hj.1 hj.2
  obtain ⟨p, hp, hpe⟩ := exists_file_of_fileBased (List.getElem_mem hi.1) hbi
  obtain ⟨q, hq, hqe⟩ := exists_file_of_fileBased (List.getElem_mem hj.1) hbj
  have hne : p ≠ q := by
    have hdisjoint := List.pairwise_iff_getElem.1 (pairwise_disjoint_groupFiles found) i j
      hi.1 hj.1 hij p
    rw [hp, hq] at hdisjoint
    exact fun h => hdisjoint (List.mem_singleton_self p) (List.mem_singleton.2 h)
  refine ⟨p, q, hp, hq, hne, ?_⟩
  rw [hni.name, hnj.name, hp, hq, ← hdir]
  exact componentName_eq_iff hpe hqe

/-- Loose files of one directory: two with short names, and two whose names differ in the
extension. -/
def shortNamesProject : Workspace where
  tree := {
    entries := [([['p']], .dir), ([['p'], ['a']], .dir), ([['p'], ['a'], ['b']], .dir),
      ([['p'], ['a'], ['b'], "cd.ts".toList], .file []),
      ([['p'], ['a'], ['b'], "ef.ts".toList], .file []),
      ([['p'], ['a'], ['b'], "use.ts".toList], .file []),
      ([['p'], ['a'], ['b'], "use.vue".toList], .file [])]
    named := by decide
    closed := by decide
    distinct := by decide }
  cwd := []

/-- The units of these files. -/
def shortNamesUnits : List ComponentUnit :=
  ["cd.ts", "ef.ts", "use.ts", "use.vue"].map fun name =>
    { directory := "/p/a/b".toList, files := ["/p/a/b/".toList ++ name.toList], fileBased := true }

theorem loose_names_differ_short_names :
    ∃ m memory', (build shortNamesProject packageConfig none .standard none .fresh).result =
        .ok (m, memory') ∧
      List.Forall₂ (NamedAfter packageConfig) shortNamesUnits m.items ∧
      ∃ x y rest, m.items = x :: y :: rest ∧ x.name = y.name := by
  have hok : (build shortNamesProject packageConfig none .standard none .fresh).result.isOk =
      true := by decide +kernel
  have hunits : (discover .standard shortNamesProject packageConfig.cwd
      packageConfig.componentPattern.display packageConfig.componentPattern.shown).result.toOption =
      some shortNamesUnits := by decide +kernel
  rcases hb : (build shortNamesProject packageConfig none .standard none .fresh).result
    with e | ⟨m, memory'⟩
  · rw [hb] at hok
    cases hok
  obtain ⟨units, hu, hnames, hdiffer⟩ := loose_names_differ hb
  rw [hu] at hunits
  cases hunits
  refine ⟨m, memory', rfl, hnames, ?_⟩
  have hlength := hnames.length_eq
  obtain ⟨x, y, rest, hitems⟩ : ∃ x y rest, m.items = x :: y :: rest := by
    match hitems : m.items with
    | [] | [_] => rw [hitems] at hlength; cases hlength
    | x :: y :: rest => exact ⟨x, y, rest, rfl⟩
  rw [hitems] at hdiffer
  obtain ⟨p, q, hp, hq, -, hname⟩ := List.rel_of_pairwise_cons hdiffer
    (List.mem_cons_self ..) rfl rfl rfl
  obtain rfl : "/p/a/b/cd.ts".toList = p := (List.cons.inj hp).1
  obtain rfl : "/p/a/b/ef.ts".toList = q := (List.cons.inj hq).1
  have htakes : TakesDirectoryName "/p/a/b".toList "/p/a/b/cd.ts".toList ∧
      TakesDirectoryName "/p/a/b".toList "/p/a/b/ef.ts".toList := by decide
  exact ⟨x, y, rest, hitems, hname.2 (.inr htakes)⟩

/-- The names of the four components are two. -/
theorem loose_names_coincide :
    (discover .standard shortNamesProject packageConfig.cwd packageConfig.componentPattern.display
        packageConfig.componentPattern.shown).result.toOption = some shortNamesUnits ∧
      (build shortNamesProject packageConfig none .standard none .fresh).result.toOption.map
        (fun r => r.1.items.map (·.name)) =
          some ["b".toList, "b".toList, "use".toList, "use".toList] := by
  decide +kernel

end ComponentManifest
