import ComponentManifest.Proofs.Coverage
import ComponentManifest.Proofs.ListedPaths

/-!
# Paths in a manifest

Each path in a manifest is relative to the scan directory and leads back to its file, whatever the
patterns find. Without steps up in the patterns the paths lead only down, and the files of an item
stand in ascending order.

1. The directory of a unit, and where its files are.
2. The paths of a unit lead back.
3. Below the scan directory the order of the files is that of their paths.
4. `paths_lead_back`: all items of a manifest.
-/

namespace ComponentManifest

open ComponentManifest.Path (Plain rooted)

variable {f : SourceFilter} {w : Workspace} {c : Config} {b : Bool} {cs ds ss : List Text}
  {u : ComponentUnit} {found files : List Text}

/-! ## The files of a unit -/

theorem NamedBelow.weaken (hds : Plain ds) (h : NamedBelow b (ss ++ ds) files) :
    NamedBelow b ss files := by
  intro q hq
  obtain ⟨ms, hms, hmn, rfl⟩ := h q hq
  exact ⟨ds ++ ms, hds.append hms, by simp [hmn], by rw [List.append_assoc]⟩

theorem exists_directory_of_unit (hs : Plain ss) (h : NamedBelow b ss found)
    (hu : u ∈ groupFiles found) :
    ∃ ds, Plain ds ∧ u.directory = rooted b (ss ++ ds) ∧ NamedBelow b (ss ++ ds) u.files := by
  obtain ⟨hne, hsub, hdir⟩ := files_of_mem_groupFiles hu
  have hsplit : ∀ q ∈ u.files, ∃ ds x, Plain ds ∧ Plain [x] ∧ q = rooted b (ss ++ ds ++ [x]) ∧
      u.directory = rooted b (ss ++ ds) := by
    intro q hq
    obtain ⟨ms, hms, hmn, rfl⟩ := h q (hsub.subset hq)
    obtain ⟨ds, x, rfl⟩ := List.eq_nil_or_concat ms |>.resolve_left hmn
    rw [List.concat_eq_append] at hms hq ⊢
    refine ⟨ds, x, hms.left, hms.right, by rw [List.append_assoc], ?_⟩
    rw [← hdir _ hq, ← List.append_assoc, Path.dirname_rooted (hs.append hms.left) hms.right]
  obtain ⟨q, hq⟩ := List.exists_mem_of_ne_nil _ hne
  obtain ⟨ds, -, hds, -, -, hud⟩ := hsplit q hq
  refine ⟨ds, hds, hud, fun q' hq' => ?_⟩
  obtain ⟨ds', x, hds', hx, rfl, hud'⟩ := hsplit q' hq'
  have he : ss ++ ds' = ss ++ ds :=
    Path.rooted_injective (hs.append hds') (hs.append hds) (hud'.symm.trans hud)
  exact ⟨[x], hx, List.cons_ne_nil x [], by rw [he]⟩

/-- What is listed for a unit: its own files, or those that the file pattern finds. -/
theorem unitFiles_cases (h : unitFiles f w c u = .ok files) :
    files = u.files ∨
      files ≠ [] ∧ f.list w u.directory c.filePattern.display = .ok files := by
  unfold unitFiles at h
  split at h
  · exact Or.inl (Except.ok.inj h).symm
  · rcases hl : f.list w u.directory c.filePattern.display with e | listed
    · rw [hl] at h
      cases h
    · rw [hl] at h
      replace h : (if listed.isEmpty = true then u.files else listed) = files := Except.ok.inj h
      split at h
      · exact Or.inl h.symm
      · next hne =>
        subst h
        exact Or.inr ⟨by simpa using hne, rfl⟩

theorem ascending_unitFiles (hs : Plain ss) (hfound : Ascending found)
    (h : NamedBelow b ss found) (hu : u ∈ groupFiles found)
    (hfiles : unitFiles f w c u = .ok files) : files ≠ [] ∧ Ascending files := by
  obtain ⟨hne, hsub, -⟩ := files_of_mem_groupFiles hu
  obtain ⟨ds, hds, hdir, -⟩ := exists_directory_of_unit hs h hu
  rcases unitFiles_cases hfiles with rfl | ⟨hne', hl⟩
  · exact ⟨hne, hfound.sublist hsub⟩
  · rw [hdir] at hl
    exact ⟨hne', SourceFilter.ascending_list (hs.append hds) hl⟩

/-! ## The way back -/

/-- Each path is relative and leads from a directory back to its file. -/
def LeadBack (cwd : Text) (files paths : List Text) : Prop :=
  List.Forall₂ (fun q p => Path.isAbsolute p = false ∧ Path.normalize (Path.join cwd p) = q)
    files paths

theorem LeadBack.map_eq {cwd : Text} {paths : List Text} (h : LeadBack cwd files paths) :
    paths.map (fun p => Path.normalize (Path.join cwd p)) = files := by
  induction h with
  | nil => rfl
  | cons hp _ ih => rw [List.map_cons, hp.2, ih]

theorem LeadBack.nodup {cwd : Text} {paths : List Text} (h : LeadBack cwd files paths)
    (hf : files.Nodup) : paths.Nodup := List.Nodup.of_map _ (h.map_eq.symm ▸ hf)

theorem leadBack_manifestPath (hc : Plain cs) (hd : Plain ds) (h : NamedBelow b [] files) :
    LeadBack (rooted b cs) files
      (files.map (manifestPath (Path.relative (rooted b ds) (rooted b cs)) (rooted b ds))) := by
  refine List.forall₂_map_right_iff.2 (List.forall₂_same.2 fun q hq => ?_)
  obtain ⟨ms, hms, -, rfl⟩ := h q hq
  exact ⟨isAbsolute_manifestPath hc hd hms, normalize_join_manifestPath hc hd hms⟩

/-! ## Below the scan directory -/

/-- What stands before the names of a path below a rooted directory. -/
def trunk (b : Bool) (cs : List Text) : Text :=
  if cs = [] then Path.root b else rooted b cs ++ ['/']

theorem rooted_append_eq_trunk {ms : List Text} (hc : Plain cs) (hm : Plain ms) (hmn : ms ≠ []) :
    rooted b (cs ++ ms) = trunk b cs ++ Path.ofSegments ms := by
  unfold trunk
  split
  · next he =>
    subst he
    rfl
  · next hne =>
    rw [Path.rooted_append hc hm hne hmn, List.append_assoc]
    rfl

theorem lt_of_append_lt {p s t : Text} (h : p ++ s < p ++ t) : s < t := by
  induction p with
  | nil => exact h
  | cons x xs ih =>
    rcases List.cons_lt_cons_iff.1 h with hlt | ⟨-, hlt⟩
    · exact absurd hlt (Char.lt_irrefl x)
    · exact ih hlt

/-- The files of a unit below the scan directory stand in the manifest by ways down, in their
order. -/
theorem paths_below (hc : Plain cs) (hd : Plain ds) (h : NamedBelow b (cs ++ ds) files)
    (hf : Ascending files) :
    (∀ p ∈ files.map
        (manifestPath (Path.relative (rooted b (cs ++ ds)) (rooted b cs)) (rooted b (cs ++ ds))),
      Path.up ∉ Path.segments p) ∧
    Ascending (files.map
      (manifestPath (Path.relative (rooted b (cs ++ ds)) (rooted b cs)) (rooted b (cs ++ ds)))) := by
  have hpath : ∀ q ∈ files, ∃ ms, Plain (ds ++ ms) ∧ ds ++ ms ≠ [] ∧
      manifestPath (Path.relative (rooted b (cs ++ ds)) (rooted b cs)) (rooted b (cs ++ ds)) q =
        Path.ofSegments (ds ++ ms) ∧ q = trunk b cs ++ Path.ofSegments (ds ++ ms) := by
    intro q hq
    obtain ⟨ms, hms, hmn, rfl⟩ := h q hq
    have hn : ds ++ ms ≠ [] := by simp [hmn]
    refine ⟨ms, hd.append hms, hn, manifestPath_below hc hd hms hmn, ?_⟩
    rw [List.append_assoc, rooted_append_eq_trunk hc (hd.append hms) hn]
  refine ⟨fun p hp => ?_, List.pairwise_map.2 (hf.imp_of_mem fun {x y} hx hy hxy => ?_)⟩
  · obtain ⟨q, hq, rfl⟩ := List.mem_map.1 hp
    obtain ⟨ms, hm, hn, hq, -⟩ := hpath q hq
    rw [hq, hm.segments_ofSegments hn]
    exact hm.up_not_mem
  · obtain ⟨ms, -, -, hmx, hx⟩ := hpath x hx
    obtain ⟨ms', -, -, hmy, hy⟩ := hpath y hy
    rw [hmx, hmy]
    rw [hx, hy] at hxy
    exact lt_of_append_lt hxy

/-! ## All items -/

section Unit

variable (hc : Plain cs) (hcwd : c.cwd = rooted b cs)
  (hfound : f.list w (rooted b cs) c.componentPattern.display = .ok found)
  (hcp : Path.isAbsolute c.componentPattern.display = false)
  (hfp : Path.isAbsolute c.filePattern.display = false) (hu : u ∈ groupFiles found)
  (hfiles : unitFiles f w c u = .ok files)

include hc hcwd hfound hcp hfp hu hfiles

theorem leadBack_of_unit : LeadBack c.cwd files (u.manifestPaths c files) := by
  have hrooted := SourceFilter.list_rooted hc hfound hcp
  obtain ⟨ds, hds, hdir, hown⟩ := exists_directory_of_unit Path.plain_nil hrooted hu
  rw [List.nil_append] at hdir hown
  have hnamed : NamedBelow b [] files := by
    rcases unitFiles_cases hfiles with rfl | ⟨-, hl⟩
    · exact hown.weaken hds
    · rw [hdir] at hl
      exact SourceFilter.list_rooted hds hl hfp
  unfold ComponentUnit.manifestPaths
  rw [hcwd, hdir]
  exact leadBack_manifestPath hc hds hnamed

/-- Without steps up in the patterns the paths of a unit lead only down, in the order of its
files. -/
theorem paths_below_of_unit (hcu : Path.up ∉ Path.segments c.componentPattern.display)
    (hfu : Path.up ∉ Path.segments c.filePattern.display)
    (hext : ∀ e ∈ f.extensions, SourceFilter.SafeExtension e) (hf : Ascending files) :
    (∀ p ∈ u.manifestPaths c files, Path.up ∉ Path.segments p) ∧
      Ascending (u.manifestPaths c files) := by
  have hbelow := SourceFilter.list_below hc hfound hcp hcu hext
  obtain ⟨ds, hds, hdir, hown⟩ := exists_directory_of_unit hc hbelow hu
  have hlisted : NamedBelow b (cs ++ ds) files := by
    rcases unitFiles_cases hfiles with rfl | ⟨-, hl⟩
    · exact hown
    · rw [hdir] at hl
      exact SourceFilter.list_below (hc.append hds) hl hfp hfu hext
  unfold ComponentUnit.manifestPaths
  rw [hcwd, hdir]
  exact paths_below hc hds hlisted hf

end Unit

variable {given : Option ProjectDependencies} {workers : Option Int}
  {memory memory' : BuildMemory} {m : Manifest}

/-- The paths of every item are relative to the scan directory and lead back to its files. Without
steps up in the patterns they lead only down, in ascending order. -/
theorem paths_lead_back (hc : ∃ d, c.cwd = w.absolute d)
    (hcp : Path.isAbsolute c.componentPattern.display = false)
    (hfp : Path.isAbsolute c.filePattern.display = false) (hm : memory.Reached w c given f)
    (hb : (build w c given f workers memory).result = .ok (m, memory')) :
    ∃ units,
      (discover f w c.cwd c.componentPattern.display c.componentPattern.shown).result =
        .ok units ∧
      List.Forall₂ (fun u item => ∃ files,
        unitFiles f w c u = .ok files ∧ files ≠ [] ∧
        LeadBack c.cwd files (item.files.map (·.path)) ∧
        (item.files.map (·.path)).Nodup ∧
        (Path.up ∉ Path.segments c.componentPattern.display →
          Path.up ∉ Path.segments c.filePattern.display →
          (∀ e ∈ f.extensions, SourceFilter.SafeExtension e) →
          (∀ p ∈ item.files.map (·.path), Path.up ∉ Path.segments p) ∧
            Ascending (item.files.map (·.path)))) units m.items := by
  obtain ⟨d, hd⟩ := hc
  obtain ⟨b, cs, hcs, hroot⟩ := w.exists_rooted d
  have hcwd : c.cwd = rooted b cs := hd.trans hroot
  obtain ⟨-, k, units, items, memo, skipped, hk, hu, -, hi, rfl, -⟩ := build_eq_ok.1 hb
  have hfilter : k.filter = f := (BuildMemory.serves_of_classifierFor hm.serves rfl hk).filter
  obtain ⟨found, hfound, rfl⟩ := discover_eq_ok.1 hu
  rw [hcwd] at hfound
  have hall := (List.forall₂_and_left _ _).2 ⟨fun u hu => hu, forall₂_of_makeItems hi⟩
  refine ⟨_, hu, hall.imp fun u item ⟨hu, memo, memo', skipped, hitem⟩ => ?_⟩
  obtain ⟨files, scan, hfiles, -, hitem, -⟩ := makeItem_eq_ok.1 hitem
  rw [hfilter] at hfiles
  have hpaths : item.files.map (·.path) = u.manifestPaths c files := by
    have hitem : item = (itemOf c memo u files (.ofClassifications scan.found)).1 :=
      congrArg Prod.fst hitem
    rw [hitem]
    exact tagPaths_paths ..
  obtain ⟨hne, hasc⟩ := ascending_unitFiles Path.plain_nil (SourceFilter.ascending_list hcs hfound)
    (SourceFilter.list_rooted hcs hfound hcp) hu hfiles
  have hback := leadBack_of_unit hcs hcwd hfound hcp hfp hu hfiles
  rw [hpaths]
  refine ⟨files, hfiles, hne, hback, hback.nodup hasc.nodup, fun hcu hfu hext => ?_⟩
  exact paths_below_of_unit hcs hcwd hfound hcp hfp hu hfiles hcu hfu hext hasc

theorem paths_lead_back_entry_directory :
    ∃ m memory' units, (build mixedProject packageConfig none .standard none .fresh).result =
        .ok (m, memory') ∧
      m.items.map (fun i => i.files.map (·.path)) =
        [["a/b/index.ts".toList, "a/b/x.vue".toList], ["a/c/use.ts".toList]] ∧
      List.Forall₂ (fun u item => ∃ files,
        unitFiles .standard mixedProject packageConfig u = .ok files ∧
        LeadBack "/p".toList files (item.files.map (·.path)) ∧
        Ascending (item.files.map (·.path))) units m.items := by
  have hpaths : (build mixedProject packageConfig none .standard none .fresh).result.toOption.map
      (fun r => r.1.items.map fun i => i.files.map (·.path)) =
        some [["a/b/index.ts".toList, "a/b/x.vue".toList], ["a/c/use.ts".toList]] := by
    decide +kernel
  rcases hb : (build mixedProject packageConfig none .standard none .fresh).result
    with e | ⟨m, memory'⟩
  · rw [hb] at hpaths
    cases hpaths
  rw [hb] at hpaths
  obtain ⟨units, -, hall⟩ :=
    paths_lead_back ⟨"/p".toList, by decide⟩ (by decide) (by decide) .fresh hb
  refine ⟨m, memory', units, rfl, Option.some.inj hpaths, hall.imp fun u item h => ?_⟩
  obtain ⟨files, hfiles, -, hback, -, hdown⟩ := h
  exact ⟨files, hfiles, hback, (hdown (by decide) (by decide) (by decide +kernel)).2⟩

end ComponentManifest
