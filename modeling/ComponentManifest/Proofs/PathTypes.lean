import ComponentManifest.Proofs.PackageLists
import ComponentManifest.Proofs.Programs
import ComponentManifest.Proofs.ReportedFaults
import ComponentManifest.Proofs.TagMemory

/-!
# Types of paths

The right part of a path decides its type if it names a known kind, and otherwise the left part
does. An item has the type of its directory, so a file of it has the type that the names below the
directory give it, or else that of the item.

1. `TagTable.tag_slash`: the type of a path of two parts.
2. `makeItems_of_sound`: the types that a build gives to items and files.
3. `Path.Below`: the names that lead down to a path.
4. `tags_right_biased`: the whole rule.
-/

namespace ComponentManifest

open ComponentManifest.Path (Plain rooted)

/-! ## Paths of two parts -/

namespace TagTable

variable {table : TagTable} {p q s : Text} {k : Kind} {before after : List Text}

theorem deepest_append (table : TagTable) (xs ys : List Text) :
    table.deepest (xs ++ ys) = (table.deepest xs).or (table.deepest ys) := List.findSome?_append

theorem tag_of_deepest_eq_none (h : table.deepest (Path.segments p).reverse = none) :
    table.tag p = .passed (Path.segments p).head? := by
  unfold tag
  simp only [h]

theorem tag_of_deepest_eq_some (h : table.deepest (Path.segments p).reverse = some k) :
    table.tag p = .known k := by
  unfold tag
  simp only [h]

/-- Only when the right part names no known kind does the left part count. -/
theorem tag_slash (table : TagTable) (p q : Text) :
    table.tag (p ++ '/' :: q) = if (table.tag q).isKnown then table.tag q else table.tag p := by
  have hdeepest : table.deepest (Path.segments (p ++ '/' :: q)).reverse =
      (table.deepest (Path.segments q).reverse).or (table.deepest (Path.segments p).reverse) := by
    rw [Path.segments_append_slash, List.reverse_append, deepest_append]
  have hhead : (Path.segments (p ++ '/' :: q)).head? = (Path.segments p).head? := by
    rw [Path.segments_append_slash, List.head?_append_of_ne_nil _ (Path.segments_ne_nil p)]
  cases hq : table.deepest (Path.segments q).reverse with
  | some k =>
    rw [hq, Option.some_or] at hdeepest
    rw [tag_of_deepest_eq_some hdeepest, tag_of_deepest_eq_some hq]
    rfl
  | none =>
    rw [hq, Option.none_or] at hdeepest
    rw [tag_of_deepest_eq_none hq]
    show table.tag (p ++ '/' :: q) = table.tag p
    unfold tag
    simp only [hdeepest, hhead]

theorem tag_of_unmapped (h : ∀ s ∈ Path.segments p, table.lookup s = none) :
    table.tag p = .passed (Path.segments p).head? :=
  tag_of_deepest_eq_none <| List.findSome?_eq_none_iff.2 fun s hs => h s (List.mem_reverse.1 hs)

theorem tag_of_mapped (hp : Path.segments p = before ++ s :: after) (hs : table.lookup s = some k)
    (hafter : ∀ x ∈ after, table.lookup x = none) : table.tag p = .known k := by
  refine tag_of_deepest_eq_some (List.findSome?_eq_some_iff.2 ?_)
  exact ⟨after.reverse, s, before.reverse, by rw [hp]; simp, hs,
    fun x hx => hafter x (List.mem_reverse.1 hx)⟩

end TagTable

/-- The tag is that of the last of the names that is mapped, and without one it is the tag `own`. -/
structure Tag.Inherits (table : TagTable) (own : Tag) (names : List Text) (t : Tag) : Prop where
  own : (∀ s ∈ names, table.lookup s = none) → t = own
  mapped : ∀ before s after k, names = before ++ s :: after → table.lookup s = some k →
    (∀ x ∈ after, table.lookup x = none) → t = .known k

theorem Tag.inherits_slash (table : TagTable) (p q : Text) :
    Tag.Inherits table (table.tag p) (Path.segments q) (table.tag (p ++ '/' :: q)) where
  own h := by
    rw [TagTable.tag_slash, TagTable.tag_of_unmapped h]
    rfl
  mapped before s after k hq hs hafter := by
    rw [TagTable.tag_slash, TagTable.tag_of_mapped hq hs hafter]
    rfl

/-! ## Types in a build -/

section Build

variable {f : SourceFilter} {w : Workspace} {c : Config} {given : Option ProjectDependencies}
  {k : Classifier} {memo memo' : TagMemo} {skipped skipped' : List Text}
  {units : List ComponentUnit} {items : List Item} {memory memory' : BuildMemory}
  {workers : Option Int} {m : Manifest}

theorem TagMemo.Sound.tag (h : memo.Sound) (p : Text) :
    (memo.tag .standard p).2.1 = TagTable.standard.tag p ∧ (memo.tag .standard p).2.2.Sound := by
  by_cases hp : p ∈ memo.paths
  · obtain ⟨t, ht⟩ := Option.ne_none_iff_exists'.1 fun hn => TagMemo.lookup_eq_none.1 hn hp
    unfold TagMemo.tag
    rw [ht]
    exact ⟨(h.lookup_eq_some ht).1, h⟩
  · rw [TagMemo.tag_of_not_mem hp]
    exact ⟨rfl, h.store⟩

theorem TagMemo.Sound.tagPaths (h : memo.Sound) (ps : List Text) :
    (tagPaths memo ps).2.1 = ps.map (fun p => ⟨p, TagTable.standard.tag p⟩) ∧
      (tagPaths memo ps).2.2.Sound := by
  induction ps generalizing memo with
  | nil => exact ⟨rfl, h⟩
  | cons p ps ih =>
    obtain ⟨ht, hs⟩ := h.tag p
    obtain ⟨hts, hss⟩ := ih hs
    refine ⟨?_, hss⟩
    show ItemFile.mk p (memo.tag .standard p).2.1 :: (ComponentManifest.tagPaths _ ps).2.1 = _
    rw [ht, List.map_cons]
    exact congrArg (_ :: ·) hts

/-- The item is typed by its directory, and its files by their paths. -/
structure Item.Typed (c : Config) (u : ComponentUnit) (files : List Text) (item : Item) : Prop where
  tag : item.tag = TagTable.standard.tag (Path.relative u.directory c.cwd)
  files : item.files = (u.manifestPaths c files).map fun p => ⟨p, TagTable.standard.tag p⟩

theorem TagMemo.Sound.itemOf (h : memo.Sound) (u : ComponentUnit) (files : List Text)
    (lists : DependencyLists) :
    (itemOf c memo u files lists).1.Typed c u files ∧ (itemOf c memo u files lists).2.Sound := by
  obtain ⟨hfiles, hs⟩ := h.tagPaths (u.manifestPaths c files)
  obtain ⟨htag, hs'⟩ := hs.tag (Path.relative u.directory c.cwd)
  exact ⟨⟨htag, hfiles⟩, hs'⟩

/-- From a sound memo all items are typed by their paths, and the memo stays sound. -/
theorem makeItems_of_sound (hs : memo.Sound)
    (h : (makeItems k w c memo skipped units).result = .ok (items, memo', skipped')) :
    List.Forall₂ (fun u item => ∃ files, unitFiles k.filter w c u = .ok files ∧
      item.Typed c u files) units items ∧ memo'.Sound := by
  induction units generalizing memo skipped items with
  | nil =>
    cases h
    exact ⟨.nil, hs⟩
  | cons u units ih =>
    unfold makeItems at h
    simp only [Outcome.bind_eq_ok, Outcome.result_pure, Prod.exists, Prod.mk.injEq] at h
    obtain ⟨item, memo₁, more, hitem, items, memo₂, skipped₂, hitems, rfl, rfl, rfl⟩ := h
    obtain ⟨files, scan, hfiles, -, hmade, -⟩ := makeItem_eq_ok.1 hitem
    obtain ⟨htyped, hs₁⟩ := hs.itemOf u files (.ofClassifications scan.found) (c := c)
    rw [← hmade] at htyped hs₁
    obtain ⟨hall, hs₂⟩ := ih hs₁ hitems
    exact ⟨.cons ⟨files, hfiles, htyped⟩ hall, hs₂⟩

theorem BuildMemory.Reached.sound (h : memory.Reached w c given f) : memory.memo.Sound := by
  induction h with
  | fresh => exact .nil
  | built _ _ hb ih =>
    obtain ⟨-, k, units, items, memo, skipped, -, -, -, hi, -, rfl⟩ := build_eq_ok.1 hb
    exact (makeItems_of_sound ih hi).2

end Build

/-! ## Names that lead down -/

namespace Path

/-- The names lead from a directory down to a path. -/
structure Below (dir : Text) (ss : List Text) (p : Text) : Prop where
  ne_nil : ss ≠ []
  names : names p = names dir ++ ss

variable {b : Bool} {dir p : Text} {ss ds : List Text}

theorem Regular.exists_below (hp : Regular p) (hd : Plain ds) (h : Below (rooted b ds) ss p) :
    ∃ b', Plain ss ∧ p = rooted b' (ds ++ ss) := by
  obtain ⟨b', ps, hps, rfl, -⟩ := hp
  have hnames := h.names
  rw [names_rooted hps, names_rooted hd] at hnames
  subst hnames
  exact ⟨b', hps.right, rfl⟩

end Path

/-- The path of a file in the manifest is that of its unit's directory, below the scan directory,
and the names after it. -/
theorem manifestPath_eq_slash {cwd dir q : Text} {ds ms : List Text}
    (hc : ∃ b cs, Plain cs ∧ cwd = rooted b cs) (hdir : Path.Regular dir) (hq : Path.Regular q)
    (hds : Path.Below cwd ds dir) (hms : Path.Below dir ms q) :
    manifestPath (Path.relative dir cwd) dir q =
        Path.relative dir cwd ++ '/' :: Path.ofSegments ms ∧
      Path.segments (Path.ofSegments ms) = ms := by
  obtain ⟨b, cs, hcs, rfl⟩ := hc
  obtain ⟨b', hdp, rfl⟩ := hdir.exists_below hcs hds
  obtain ⟨b'', hmp, rfl⟩ := hq.exists_below (hcs.append hdp) hms
  refine ⟨?_, hmp.segments_ofSegments hms.ne_nil⟩
  rw [manifestPath_below hcs hdp hmp hms.ne_nil, Path.relative_rooted hcs hdp hds.ne_nil,
    Path.ofSegments_append hdp hmp hds.ne_nil hms.ne_nil]

/-! ## All types -/

variable {f : SourceFilter} {w : Workspace} {c : Config} {u : ComponentUnit} {files : List Text}
  {item : Item}

/-- The files of an item below the scan directory inherit its type. -/
theorem Item.Typed.inherits (h : item.Typed c u files) (hc : ∃ d, c.cwd = w.absolute d)
    (hu : Path.Regular u.directory) (hfiles : ∀ q ∈ files, Path.Regular q) {ds : List Text}
    (hds : Path.Below c.cwd ds u.directory) :
    List.Forall₂ (fun q entry => ∀ ms, Path.Below u.directory ms q →
      Tag.Inherits .standard item.tag ms entry.tag) files item.files := by
  have hcwd := Workspace.exists_rooted_of_absolute hc
  rw [h.files, ComponentUnit.manifestPaths, List.map_map]
  refine List.forall₂_map_right_iff.2 (List.forall₂_same.2 fun q hq ms hms => ?_)
  obtain ⟨hpath, hsegments⟩ := manifestPath_eq_slash hcwd hu (hfiles q hq) hds hms
  show Tag.Inherits .standard item.tag ms (TagTable.standard.tag (manifestPath _ _ q))
  rw [h.tag, hpath]
  have hlaw := Tag.inherits_slash .standard (Path.relative u.directory c.cwd) (Path.ofSegments ms)
  rwa [hsegments] at hlaw

/-- The right one of two parts of a path decides its type if it is known, and else the left one. So
the files of an item inherit its type. -/
theorem tags_right_biased :
    (∀ (table : TagTable) (rs : List TagRequest) (p : Text),
      (((Tagger.make table).after rs).ask (.classify p)).2.2 = .tag (table.tag p)) ∧
    (∀ (table : TagTable) (p q : Text),
      table.tag (p ++ '/' :: q) = if (table.tag q).isKnown then table.tag q else table.tag p) ∧
    (∀ (table : TagTable) (p q : Text),
      (∀ s ∈ Path.segments p ++ Path.segments q, table.lookup s = none) →
        table.tag (p ++ '/' :: q) = .passed (Path.segments p).head?) ∧
    ∀ (w : Workspace) (c : Config) (given : Option ProjectDependencies) (f : SourceFilter)
      (workers : Option Int) (memory memory' : BuildMemory) (m : Manifest),
      (∃ d, c.cwd = w.absolute d) → memory.Reached w c given f →
      (build w c given f workers memory).result = .ok (m, memory') →
      ∃ units,
        (discover f w c.cwd c.componentPattern.display c.componentPattern.shown).result =
          .ok units ∧
        List.Forall₂ (fun u item => ∃ files,
          unitFiles f w c u = .ok files ∧
          item.files.map (·.path) = u.manifestPaths c files ∧
          ∀ ds, Path.Below c.cwd ds u.directory →
            List.Forall₂ (fun q entry => ∀ ms, Path.Below u.directory ms q →
              Tag.Inherits .standard item.tag ms entry.tag) files item.files) units m.items := by
  refine ⟨Tagger.classify_after, TagTable.tag_slash, fun table p q h => ?_, ?_⟩
  · rw [TagTable.tag_of_unmapped (by rwa [Path.segments_append_slash]),
      Path.segments_append_slash, List.head?_append_of_ne_nil _ (Path.segments_ne_nil p)]
  · intro w c given f workers memory memory' m hc hm hb
    obtain ⟨-, k, units, items, memo, skipped, hk, hu, -, hi, rfl, -⟩ := build_eq_ok.1 hb
    have hfilter : k.filter = f := (BuildMemory.serves_of_classifierFor hm.serves rfl hk).filter
    obtain ⟨found, hfound, rfl⟩ := discover_eq_ok.1 hu
    have hregular := SourceFilter.regular_of_list hfound
    have hall := (List.forall₂_and_left _ _).2 ⟨fun u hu => hu, (makeItems_of_sound hm.sound hi).1⟩
    refine ⟨_, hu, hall.imp fun u item ⟨hu, files, hfiles, htyped⟩ => ?_⟩
    rw [hfilter] at hfiles
    obtain ⟨hdir, hown⟩ := regular_of_unit hregular hu
    refine ⟨files, hfiles, ?_, fun ds hds => ?_⟩
    · rw [htyped.files, List.map_map]
      exact List.map_id _
    · exact htyped.inherits hc hdir (regular_of_unitFiles hown hfiles) hds

/-- A component in a directory for blocks with a file in one for small parts, and a component for
which the table knows no name. -/
def typedProject : Workspace where
  tree := {
    entries := [([['p']], .dir), ([['p'], "blocks".toList], .dir),
      ([['p'], "blocks".toList, ['c']], .dir),
      ([['p'], "blocks".toList, ['c'], "index.ts".toList], .file []),
      ([['p'], "blocks".toList, ['c'], "ui".toList], .dir),
      ([['p'], "blocks".toList, ['c'], "ui".toList, "a.vue".toList], .file []),
      ([['p'], ['x']], .dir), ([['p'], ['x'], ['y']], .dir),
      ([['p'], ['x'], ['y'], "index.ts".toList], .file [])]
    named := by decide
    closed := by decide
    distinct := by decide }
  cwd := []

theorem tags_right_biased_small_part :
    ∃ m memory' units, (build typedProject packageConfig none .standard none .fresh).result =
        .ok (m, memory') ∧
      m.items.map (fun i => (i.tag, i.files.map (·.tag))) =
        [(.known .block, [.known .block, .known .ui]),
          (.passed (some ['x']), [.passed (some ['x'])])] ∧
      Path.Below "/p".toList ["blocks".toList, ['c']] "/p/blocks/c".toList ∧
      Path.Below "/p/blocks/c".toList ["ui".toList, "a.vue".toList] "/p/blocks/c/ui/a.vue".toList ∧
      List.Forall₂ (fun u item => ∃ files,
        unitFiles .standard typedProject packageConfig u = .ok files ∧
        ∀ ds, Path.Below "/p".toList ds u.directory →
          List.Forall₂ (fun q entry => ∀ ms, Path.Below u.directory ms q →
            Tag.Inherits .standard item.tag ms entry.tag) files item.files) units m.items := by
  have htags : (build typedProject packageConfig none .standard none .fresh).result.toOption.map
      (fun r => r.1.items.map fun i => (i.tag, i.files.map (·.tag))) =
        some [(.known .block, [.known .block, .known .ui]),
          (.passed (some ['x']), [.passed (some ['x'])])] := by decide +kernel
  rcases hb : (build typedProject packageConfig none .standard none .fresh).result
    with e | ⟨m, memory'⟩
  · rw [hb] at htags
    cases htags
  rw [hb] at htags
  obtain ⟨units, -, hall⟩ := tags_right_biased.2.2.2 typedProject packageConfig none .standard none
    .fresh memory' m ⟨"/p".toList, by decide⟩ .fresh hb
  refine ⟨m, memory', units, rfl, Option.some.inj htags, ⟨by decide, by decide⟩,
    ⟨by decide, by decide⟩, hall.imp fun u item h => ?_⟩
  obtain ⟨files, hfiles, -, hinherits⟩ := h
  exact ⟨files, hfiles, hinherits⟩

end ComponentManifest
