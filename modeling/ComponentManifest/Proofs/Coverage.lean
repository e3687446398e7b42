import ComponentManifest.Proofs.Configurations
import ComponentManifest.Proofs.Grouping
import ComponentManifest.Proofs.PackageLists
import ComponentManifest.Proofs.RelativePaths
import ComponentManifest.Proofs.SourceListing

/-!
# What a manifest covers

With the default patterns a manifest is made by three listings: the sources three levels below the
scan directory, their groups, and the sources below the directory of each group that has an entry
file. They fit together without a gap and without an overlap.

1. Configurations that name no patterns.
2. A group of listed files lies in one directory, two levels below the scan directory.
3. The sources of a unit.
4. `nodup_sources` and `mem_sources`: no source is listed for two units, and none is lost.
5. The paths in the manifest stand for these sources.
6. `covers_once`: no file is in the manifest twice, and those three levels below are in it once.
-/

namespace ComponentManifest

open ComponentManifest.Path (Plain rooted)

variable {w : Workspace} {c : Config} {b : Bool} {ss ds ms : List Text} {g g' : Text × List Text}
  {u : ComponentUnit} {files : List Text} {q x y z e : Text}

/-! ## Configurations -/

/-- The configuration names no patterns, and its scan directory was made absolute. -/
structure Config.ByDefault (c : Config) (w : Workspace) : Prop where
  cwd : ∃ d, c.cwd = w.absolute d
  componentPattern : c.componentPattern = .str defaultComponentPattern
  filePattern : c.filePattern = .str defaultFilePattern

/-- A configuration that is read without scan patterns is one by default. -/
theorem Config.byDefault_of_ofJson {ms : Members} {base : Text} {path : Option Text}
    (h : Config.ofJson w base path (.obj ms) = .ok c)
    (hp : givenField ms (Text.ofString "scanPatterns") = none) : c.ByDefault w := by
  have hnone : patternsField ms = .ok [] := by
    unfold patternsField
    rw [hp]
  obtain ⟨d, hread, rfl⟩ := ofJson_obj_eq_ok_iff.1 h
  obtain ⟨ps, hps, hcomponent, hfile⟩ := hread.patterns
  obtain rfl : ps = [] := Except.ok.inj (hps.symm.trans hnone)
  exact ⟨directory_eq w d.root d.cwd, hcomponent, hfile⟩

theorem Config.ByDefault.override (h : c.ByDefault w) (cwd output : Option Text) :
    (c.override w cwd output).ByDefault w := by
  refine ⟨?_, h.componentPattern, h.filePattern⟩
  rcases cwd with _ | d
  · exact h.cwd
  · show ∃ d', (if d.isEmpty then c.cwd else w.absolute d) = w.absolute d'
    split
    · exact h.cwd
    · exact ⟨d, rfl⟩

/-! ## Groups of listed files -/

/-- The group has files right in the directory of some names, each of them once. -/
structure InDirectory (w : Workspace) (b : Bool) (ds : List Text) (g : Text × List Text) :
    Prop where
  plain : Plain ds
  directory : g.1 = rooted b ds
  isDir : w.isDir (rooted b ds) = true
  nodup : g.2.Nodup
  files : ∀ q ∈ g.2, ∃ x, Plain [x] ∧ q = rooted b (ds ++ [x]) ∧ w.isFile q = true

theorem isDir_of_isFile (hs : Plain (ss ++ [x])) (h : w.isFile (rooted b (ss ++ [x])) = true) :
    w.isDir (rooted b ss) = true := by
  obtain ⟨k, hk, l, content, hl⟩ := (Workspace.isFile_rooted hs).1 h
  obtain ⟨k', hk', d, hd, -⟩ := hl.parent (hs x (by simp)).1
  exact (Workspace.isDir_rooted hs.left).2 ⟨k', Nat.le_trans hk' hk, d, hd⟩

theorem exists_concat_of_length {n : Nat} (h : ms.length = n + 1) :
    ∃ ds x, ms = ds ++ [x] ∧ ds.length = n := by
  rcases List.eq_nil_or_concat ms with rfl | ⟨ds, x, rfl⟩
  · cases h
  · exact ⟨ds, x, List.concat_eq_append, by simpa using h⟩

section Listed

variable (hs : Plain ss) (hf : SourceFilter.FoundBelow w b ss (·.length = 3) files)

include hs hf

/-- A listed file gives the names of the directory of its group. -/
theorem names_of_mem_group (hg : g ∈ Groups.ofFiles files) (hq : q ∈ g.2) :
    ∃ ds x, Plain (ss ++ ds ++ [x]) ∧ ds.length = 2 ∧ q = rooted b (ss ++ ds ++ [x]) ∧
      w.isFile q = true ∧ g.1 = rooted b (ss ++ ds) := by
  have hpart := Groups.partitions_ofFiles files
  obtain ⟨ms, hm, hlen, rfl, hfile⟩ := hf q ((hpart.mem_iff q).2 ⟨g, hg, hq⟩)
  obtain ⟨ds, x, rfl, hd⟩ := exists_concat_of_length hlen
  have hplain : Plain (ss ++ ds ++ [x]) := by
    rw [List.append_assoc]
    exact hs.append hm
  rw [← List.append_assoc] at hq hfile ⊢
  have hdir := (hpart.group g hg).2.2 _ hq
  rw [Path.dirname_rooted hplain.left hplain.right] at hdir
  exact ⟨ds, x, hplain, hd, rfl, hfile, hdir.symm⟩

/-- The groups of files three levels below a directory lie in directories two levels below it. -/
theorem inDirectory_of_mem_ofFiles (hg : g ∈ Groups.ofFiles files) :
    ∃ ds, ds.length = 2 ∧ InDirectory w b (ss ++ ds) g := by
  obtain ⟨hne, hnodup, -⟩ := (Groups.partitions_ofFiles files).group g hg
  obtain ⟨q, hq⟩ := List.exists_mem_of_ne_nil _ hne
  obtain ⟨ds, x, hplain, hlen, rfl, hfile, hdir⟩ := names_of_mem_group hs hf hg hq
  refine ⟨ds, hlen, hplain.left, hdir, isDir_of_isFile hplain hfile, hnodup, fun q' hq' => ?_⟩
  obtain ⟨ds', x', hplain', -, rfl, hfile', hdir'⟩ := names_of_mem_group hs hf hg hq'
  have he : ss ++ ds = ss ++ ds' :=
    Path.rooted_injective hplain.left hplain'.left (hdir ▸ hdir')
  rw [← he] at hfile' ⊢
  exact ⟨x', hplain'.right, rfl, hfile'⟩

theorem exists_group (hu : u ∈ groupFiles files) :
    ∃ g ds, ds.length = 2 ∧ InDirectory w b (ss ++ ds) g ∧ u ∈ unitsOf g := by
  obtain ⟨g, hg, hug⟩ := List.mem_flatMap.1 hu
  obtain ⟨ds, hlen, hin⟩ := inDirectory_of_mem_ofFiles hs hf hg
  exact ⟨g, ds, hlen, hin, hug⟩

end Listed

/-! ## The sources of a unit -/

/-- The files that are listed for a unit. -/
def unitSources (w : Workspace) (c : Config) (u : ComponentUnit) : List Text :=
  match unitFiles .standard w c u with
  | .ok files => files
  | .error _ => []

theorem unitSources_eq (h : unitFiles .standard w c u = .ok files) :
    unitSources w c u = files := by
  unfold unitSources
  rw [h]

section Group

variable (hp : c.filePattern = .str defaultFilePattern) (hg : InDirectory w b ds g)

include hp

/-- A directory is listed again; if nothing is found, the files that were grouped remain. -/
theorem unitFiles_directory {dir : Text} {found grouped : List Text}
    (h : SourceFilter.standard.list w dir defaultFilePattern = .ok found) :
    unitFiles .standard w c ⟨dir, grouped, false⟩ =
      .ok (if found.isEmpty then grouped else found) := by
  unfold unitFiles
  rw [hp]
  dsimp only [Json.display]
  rw [h]
  rfl

include hg

theorem unitFiles_eq_ok (hu : u ∈ unitsOf g) :
    unitFiles .standard w c u = .ok (unitSources w c u) ∧ u.directory = g.1 ∧
      (unitSources w c u).Nodup ∧
      SourceFilter.FoundBelow w b ds (· ≠ []) (unitSources w c u) := by
  have hright (q : Text) (hq : q ∈ g.2) : ∃ ms, Plain ms ∧ ms ≠ [] ∧ q = rooted b (ds ++ ms) ∧
      w.isFile q = true := by
    obtain ⟨x, hx, hq⟩ := hg.files q hq
    exact ⟨[x], hx, List.cons_ne_nil x [], hq⟩
  unfold unitsOf at hu
  split at hu
  · rw [List.mem_singleton.1 hu]
    obtain ⟨found, hlist, hnodup, hshape, -⟩ := SourceFilter.list_file_eq_ok hg.plain hg.isDir
      SourceFilter.plainExtension_standard
    rw [← hg.directory] at hlist
    have hfiles : unitFiles .standard w c ⟨g.1, g.2, false⟩ = _ :=
      unitFiles_directory hp hlist
    rw [unitSources_eq hfiles]
    refine ⟨hfiles, rfl, ?_⟩
    split
    · exact ⟨hg.nodup, hright⟩
    · exact ⟨hnodup, hshape⟩
  · obtain ⟨q, hq, rfl⟩ := List.mem_map.1 hu
    have hfiles : unitFiles .standard w c ⟨g.1, [q], true⟩ = .ok [q] := rfl
    rw [unitSources_eq hfiles]
    refine ⟨hfiles, rfl, List.nodup_singleton q, fun q' hq' => ?_⟩
    rw [List.mem_singleton.1 hq']
    exact hright q hq

omit hp hg in
/-- Without an entry file the units of a group share out its files. -/
theorem flatMap_unitSources_loose (h : ¬ g.2.any isEntryFile = true) :
    (unitsOf g).flatMap (unitSources w c) = g.2 := by
  unfold unitsOf
  rw [if_neg h, List.flatMap_map]
  exact List.flatMap_singleton' g.2

theorem nodup_group : ((unitsOf g).flatMap (unitSources w c)).Nodup := by
  by_cases h : g.2.any isEntryFile = true
  · have hu : unitsOf g = [⟨g.1, g.2, false⟩] := if_pos h
    rw [hu, List.flatMap_singleton]
    exact (unitFiles_eq_ok hp hg (hu ▸ List.mem_singleton_self _)).2.2.1
  · rw [flatMap_unitSources_loose h]
    exact hg.nodup

theorem mem_group (hx : Plain [x])
    (he : ∃ e ∈ SourceFilter.standard.extensions, Workspace.HasExtension e x)
    (hb : '\\' ∉ x) (hq : rooted b (ds ++ [x]) ∈ g.2) :
    rooted b (ds ++ [x]) ∈ (unitsOf g).flatMap (unitSources w c) := by
  by_cases h : g.2.any isEntryFile = true
  · -- The directory is listed again, and the exclusion is decided on the bare name.
    have hu : unitsOf g = [⟨g.1, g.2, false⟩] := if_pos h
    obtain ⟨found, hlist, -, -, hmem⟩ := SourceFilter.list_file_eq_ok hg.plain hg.isDir
      SourceFilter.plainExtension_standard
    obtain ⟨x', hx', heq, hfile⟩ := hg.files _ hq
    have hm : rooted b (ds ++ [x]) ∈ found := by
      refine hmem x hx he ?_ hfile
      exact SourceFilter.isExcluded_standard_name (hx x (List.mem_singleton_self x)).2 hb
    have hne : found.isEmpty = false := by
      simpa using List.ne_nil_of_mem hm
    rw [← hg.directory] at hlist
    have hfiles : unitFiles .standard w c ⟨g.1, g.2, false⟩ = _ :=
      unitFiles_directory hp hlist
    rw [hne] at hfiles
    rw [hu, List.flatMap_singleton, unitSources_eq hfiles]
    exact hm
  · rw [flatMap_unitSources_loose h]
    exact hq

end Group

/-! ## The sources of all units -/

section Sources

variable (hp : c.filePattern = .str defaultFilePattern) (hs : Plain ss)
  (hf : SourceFilter.FoundBelow w b ss (·.length = 3) files)

include hp hs hf

theorem nodup_sources : ((groupFiles files).flatMap (unitSources w c)).Nodup := by
  unfold groupFiles
  rw [List.flatMap_assoc, List.nodup_flatMap]
  refine ⟨fun g hg => ?_, ?_⟩
  · obtain ⟨ds, -, hin⟩ := inDirectory_of_mem_ofFiles hs hf hg
    exact nodup_group hp hin
  · -- Files below different directories at the same depth are different.
    refine (List.pairwise_map.1 (Groups.partitions_ofFiles files).distinct).imp_of_mem
      fun {g g'} hg hg' hne => ?_
    obtain ⟨ds, hlen, hin⟩ := inDirectory_of_mem_ofFiles hs hf hg
    obtain ⟨ds', hlen', hin'⟩ := inDirectory_of_mem_ofFiles hs hf hg'
    intro q hq hq'
    obtain ⟨u, hu, hq⟩ := List.mem_flatMap.1 hq
    obtain ⟨u', hu', hq'⟩ := List.mem_flatMap.1 hq'
    obtain ⟨ms, hm, -, rfl, -⟩ := (unitFiles_eq_ok hp hin hu).2.2.2 q hq
    obtain ⟨ms', hm', -, heq, -⟩ := (unitFiles_eq_ok hp hin' hu').2.2.2 _ hq'
    have hnames := Path.rooted_injective (hin.plain.append hm) (hin'.plain.append hm') heq
    have hds : ss ++ ds = ss ++ ds' := (List.append_inj hnames (by simp [hlen, hlen'])).1
    rw [hin.directory, hin'.directory, hds] at hne
    exact hne rfl

theorem mem_sources (hm : Plain [x, y, z])
    (he : ∃ e ∈ SourceFilter.standard.extensions, Workspace.HasExtension e z)
    (hb : '\\' ∉ z) (hq : rooted b (ss ++ [x, y, z]) ∈ files) :
    rooted b (ss ++ [x, y, z]) ∈ (groupFiles files).flatMap (unitSources w c) := by
  obtain ⟨g, hg, hqg⟩ := ((Groups.partitions_ofFiles files).mem_iff _).1 hq
  obtain ⟨ds, hlen, hin⟩ := inDirectory_of_mem_ofFiles hs hf hg
  obtain ⟨z', hz', heq, -⟩ := hin.files _ hqg
  have hnames : ss ++ [x, y] ++ [z] = ss ++ ds ++ [z'] := by
    rw [List.append_assoc]
    exact Path.rooted_injective (hs.append hm) (hin.plain.append hz') heq
  obtain ⟨hds, hz⟩ := List.append_inj' hnames rfl
  obtain rfl := List.singleton_inj.1 hz
  rw [heq] at hqg ⊢
  obtain ⟨u, hu, hqu⟩ := List.mem_flatMap.1 (mem_group hp hin hz' he hb hqg)
  exact List.mem_flatMap.2 ⟨u, List.mem_flatMap.2 ⟨g, hg, hu⟩, hqu⟩

end Sources

/-! ## Paths in the manifest -/

/-- The paths of all files in a manifest, item by item. -/
def Manifest.paths (m : Manifest) : List Text := m.items.flatMap fun i => i.files.map (·.path)

/-- What stands in the manifest for a unit are the ways to its sources, which lead back to them. -/
theorem manifestPaths_eq (hp : c.filePattern = .str defaultFilePattern) (hs : Plain ss)
    (hc : c.cwd = rooted b ss) (hlen : ds.length = 2) (hg : InDirectory w b (ss ++ ds) g)
    (hu : u ∈ unitsOf g) :
    ∀ q ∈ unitSources w c u,
      manifestPath (Path.relative u.directory c.cwd) u.directory q = Path.relative q c.cwd ∧
        Path.join c.cwd (Path.relative q c.cwd) = q := by
  intro q hq
  obtain ⟨-, hd, -, hshape⟩ := unitFiles_eq_ok hp hg hu
  obtain ⟨ms, hms, hmn, rfl, -⟩ := hshape q hq
  have hds : Plain ds := hg.plain.right
  have hdn : ds ≠ [] := by
    rintro rfl
    cases hlen
  have hn : ds ++ ms ≠ [] := by simp [hdn]
  rw [hd, hg.directory, hc, manifestPath_below hs hds hms hmn, List.append_assoc,
    Path.relative_rooted hs (hds.append hms) hn]
  exact ⟨rfl, Path.join_rooted hs (hds.append hms) hn⟩

/-! ## The build -/

variable {given : Option ProjectDependencies} {workers : Option Int}
  {memory memory' : BuildMemory} {m : Manifest}

theorem flatMap_paths {F : ComponentUnit → List Text} {units : List ComponentUnit}
    {items : List Item}
    (h : List.Forall₂ (fun u item => item.files.map (·.path) = F u) units items) :
    items.flatMap (fun i => i.files.map (·.path)) = units.flatMap F := by
  induction h with
  | nil => rfl
  | cons hu _ ih => rw [List.flatMap_cons, List.flatMap_cons, hu, ih]

theorem canShare_eq_false {units : List ComponentUnit} (h : canShare workers units = false) :
    ∃ n, workers = some n ∧ n ≤ 0 := by
  rcases workers with _ | n
  · cases h
  · obtain ⟨-, hn⟩ := Bool.or_eq_false_iff.1 h
    exact ⟨n, rfl, by simpa using hn⟩

section Build

variable (hd : c.ByDefault w) (hs : Plain ss)
  (hf : SourceFilter.FoundBelow w b ss (·.length = 3) files)

include hd hs hf

theorem paths_of_build (hc : c.cwd = rooted b ss) (hm : memory.Reached w c given .standard)
    (hlist : SourceFilter.standard.list w c.cwd defaultComponentPattern = .ok files)
    (hb : (build w c given .standard workers memory).result = .ok (m, memory')) :
    m.paths = ((groupFiles files).flatMap (unitSources w c)).map (Path.relative · c.cwd) := by
  obtain ⟨-, k, units, items, memo, skipped, hk, hu, -, hi, rfl, -⟩ := build_eq_ok.1 hb
  obtain ⟨files', hfiles', rfl⟩ := discover_eq_ok.1 hu
  obtain rfl : files' = files := by
    rw [hd.componentPattern] at hfiles'
    exact Except.ok.inj (hfiles'.symm.trans hlist)
  have hfilter : k.filter = .standard :=
    (BuildMemory.serves_of_classifierFor hm.serves rfl hk).filter
  have hall := (List.forall₂_and_left _ _).2
    ⟨fun u hu => exists_group hs hf hu, forall₂_of_makeItems hi⟩
  rw [List.map_flatMap]
  refine flatMap_paths (hall.imp fun u item ⟨hgroup, memo, memo', skipped, hitem⟩ => ?_)
  obtain ⟨g, ds, hlen, hin, hug⟩ := hgroup
  obtain ⟨files, scan, hfu, -, hitem, -⟩ := makeItem_eq_ok.1 hitem
  obtain ⟨rfl, -⟩ := Prod.mk.inj hitem
  rw [hfilter] at hfu
  obtain rfl := unitSources_eq hfu
  show (tagPaths memo _).2.1.map (·.path) = _
  rw [tagPaths_paths]
  exact List.map_congr_left fun q hq =>
    (manifestPaths_eq hd.filePattern hs hc hlen hin hug q hq).1

/-- The way to a source leads from the scan directory to a regular file. -/
theorem join_relative_of_mem_sources (hc : c.cwd = rooted b ss) :
    ∀ q ∈ (groupFiles files).flatMap (unitSources w c),
      Path.join c.cwd (Path.relative q c.cwd) = q ∧ w.isFile q = true := by
  intro q hq
  obtain ⟨u, hu, hq⟩ := List.mem_flatMap.1 hq
  obtain ⟨g, ds, hlen, hin, hug⟩ := exists_group hs hf hu
  obtain ⟨ms, -, -, -, hfile⟩ := (unitFiles_eq_ok hd.filePattern hin hug).2.2.2 q hq
  exact ⟨(manifestPaths_eq hd.filePattern hs hc hlen hin hug q hq).2, hfile⟩

/-- Only an alias can keep an item from being made. -/
theorem spoils_of_makeItems {k : Classifier} {memo : TagMemo} {skipped : List Text} {e : Fault}
    (hk : k.filter = .standard)
    (h : (makeItems k w c memo skipped (groupFiles files)).result = .error e) :
    k.aliases.Spoils e := by
  obtain ⟨u, hu, h⟩ := makeItems_eq_error h
  obtain ⟨g, ds, hlen, hin, hug⟩ := exists_group hs hf hu
  obtain ⟨hfiles, -, -, hshape⟩ := unitFiles_eq_ok hd.filePattern hin hug
  rw [hk, hfiles] at h
  rcases h with h | ⟨sources, hsources, hscan⟩
  · cases h
  obtain rfl := Except.ok.inj hsources
  refine (Classifier.scanFiles_eq_error hscan).resolve_left ?_
  rintro ⟨q, hq, hlost, -⟩
  obtain ⟨ms, hms, -, rfl, hfile⟩ := hshape q hq
  rw [Workspace.isUsable_of_isFile hfile] at hlost
  cases hlost

end Build

/-- With the default patterns and the standard filter a manifest lists regular files, none of them
twice, and each visible source two directories below the scan directory exactly once. -/
theorem covers_once (hd : c.ByDefault w) (hm : memory.Reached w c given .standard)
    (hdir : w.isDir c.cwd = true) :
    (∀ m memory', (build w c given .standard workers memory).result = .ok (m, memory') →
      (m.paths.map (Path.join c.cwd)).Nodup ∧
      (∀ p ∈ m.paths, w.isFile (Path.join c.cwd p) = true) ∧
      ∀ x y z e, ValidName x → ValidName y → ValidName z →
        Workspace.isHidden x = false → Workspace.isHidden y = false →
        Workspace.isHidden z = false → e ∈ SourceFilter.standard.extensions →
        '.' :: e <:+ z → '\\' ∉ z →
        SourceFilter.standard.isExcluded (Path.ofSegments [x, y, z]) = false →
        w.isFile (Path.join c.cwd (Path.ofSegments [x, y, z])) = true →
          m.paths.count (Path.ofSegments [x, y, z]) = 1) ∧
    ∀ e, (build w c given .standard workers memory).result = .error e →
      (memory.classifierFor w c given .standard).result = .error e ∨
        (∃ k, (memory.classifierFor w c given .standard).result = .ok k ∧ k.aliases.Spoils e) ∨
        e = .noWorkers ∧ ∃ n, workers = some n ∧ n ≤ 0 := by
  obtain ⟨d, hd'⟩ := hd.cwd
  obtain ⟨b, ss, hs, hroot⟩ := w.exists_rooted d
  have hc : c.cwd = rooted b ss := hd'.trans hroot
  obtain ⟨files, hlist, hnodup, hshape, hmem⟩ := SourceFilter.list_component_eq_ok hs
    (hc ▸ hdir) SourceFilter.plainExtension_standard
  rw [← hc] at hlist
  refine ⟨fun m memory' hb => ?_, fun e he => ?_⟩
  · have hpaths := paths_of_build hd hs hshape hc hm hlist hb
    have hback := join_relative_of_mem_sources hd hs hshape hc
    have hsources : m.paths.map (Path.join c.cwd) =
        (groupFiles files).flatMap (unitSources w c) := by
      rw [hpaths, List.map_map]
      exact (List.map_congr_left fun q hq => (hback q hq).1).trans (List.map_id _)
    have honce : (m.paths.map (Path.join c.cwd)).Nodup :=
      hsources ▸ nodup_sources hd.filePattern hs hshape
    refine ⟨honce, fun p hp => ?_, fun x y z e hx hy hz hvx hvy hvz he hez hbz hex hfile => ?_⟩
    · have hq := List.mem_map_of_mem (f := Path.join c.cwd) hp
      rw [hsources] at hq
      exact (hback _ hq).2
    · have hplain : Plain [x, y, z] :=
        ((Tree.plain_of_validName hx).append (Tree.plain_of_validName hy)).append
          (Tree.plain_of_validName hz)
      have hext : ∃ e ∈ SourceFilter.standard.extensions, Workspace.HasExtension e z :=
        ⟨e, he, hvz, hez⟩
      rw [hc, Path.join_rooted hs hplain (List.cons_ne_nil x [y, z])] at hfile
      have hq := mem_sources hd.filePattern hs hshape hplain hext hbz
        (hmem x y z hplain hvx hvy hext hex hfile)
      refine List.count_eq_one_of_mem (honce.of_map _) ?_
      rw [hpaths, List.mem_map]
      refine ⟨_, hq, ?_⟩
      rw [hc, Path.relative_rooted hs hplain (List.cons_ne_nil x [y, z])]
  · rw [build_of_isDir hdir] at he
    rcases Outcome.bind_eq_error he with he | ⟨k, hk, he⟩
    · exact Or.inl he
    · have hfilter : k.filter = .standard :=
        (BuildMemory.serves_of_classifierFor hm.serves rfl hk).filter
      have hu : (discover .standard w c.cwd c.componentPattern.display
          c.componentPattern.shown).result = .ok (groupFiles files) := by
        refine discover_eq_ok.2 ⟨files, ?_, rfl⟩
        rw [hd.componentPattern]
        exact hlist
      obtain ⟨units, hunits, he⟩ := (buildWith_eq_error he).resolve_left fun hx => by
        rw [hu] at hx
        cases hx
      obtain rfl := Except.ok.inj (hu.symm.trans hunits)
      rcases he with ⟨rfl, hw⟩ | he
      · exact Or.inr (Or.inr ⟨rfl, canShare_eq_false hw⟩)
      · exact Or.inr (Or.inl ⟨k, hk, spoils_of_makeItems hd hs hshape hfilter he⟩)

/-- A directory with an entry file and another source, beside a directory with a loose source. -/
def mixedProject : Workspace where
  tree := {
    entries := [([['p']], .dir), ([['p'], ['a']], .dir), ([['p'], ['a'], ['b']], .dir),
      ([['p'], ['a'], ['b'], "index.ts".toList], .file []),
      ([['p'], ['a'], ['b'], "x.vue".toList], .file []),
      ([['p'], ['a'], ['c']], .dir), ([['p'], ['a'], ['c'], "use.ts".toList], .file [])]
    named := by decide
    closed := by decide
    distinct := by decide }
  cwd := []

theorem covers_once_entry_directory :
    ∃ m memory', (build mixedProject packageConfig none .standard none .fresh).result =
        .ok (m, memory') ∧
      m.paths.count "a/b/x.vue".toList = 1 := by
  have hd : packageConfig.ByDefault mixedProject := ⟨⟨"/p".toList, by decide⟩, rfl, rfl⟩
  have hdir : mixedProject.isDir packageConfig.cwd = true := by decide
  have hok : (build mixedProject packageConfig none .standard none .fresh).result.isOk = true := by
    decide +kernel
  rcases hb : (build mixedProject packageConfig none .standard none .fresh).result
    with e | ⟨m, memory'⟩
  · rw [hb] at hok
    cases hok
  · obtain ⟨-, -, hcount⟩ := (covers_once hd .fresh hdir).1 m memory' hb
    exact ⟨m, memory', rfl, hcount "a".toList "b".toList "x.vue".toList "vue".toList (by decide)
      (by decide) (by decide) (by decide) (by decide) (by decide) (by decide) (by decide)
      (by decide) (by decide) (by decide)⟩

end ComponentManifest
