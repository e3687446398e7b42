import ComponentManifest.Proofs.ReadConfinement
import ComponentManifest.Proofs.Regeneration

/-!
# Asking about the files of an item

A client that asks for the dependencies of an item's files gets the lists of the item. The files are
named from the project directory, not from the scan directory, and in any order.

1. A file contributes the same by either path, and the order of the files does not matter.
2. The paths of an item's files from the project directory.
3. What a session answers about them.
4. The lists that an item shows.
5. `classification_agrees`.
-/

namespace ComponentManifest

open ComponentManifest.Path (Plain rooted Down)
open SourceFilter (safeExtension_standard)
open Text (ofString)

variable {s : Session} {v w w' : Workspace} {t : Tree} {b b' : Bool} {ss ms files paths : List Text}
  {x p base path pattern : Text} {k : Classifier} {c : Config} {m : Manifest} {answer : Json}
  {y : Classification}

/-! ## What a file contributes -/

/-- The classification is one of those that a scan finds in the file. -/
def Classifier.FindsIn (k : Classifier) (w : Workspace) (q : Text) (y : Classification) : Prop :=
  k.filter.isSource q = true ∧ ∃ t, w.readText? q = some t ∧ k.Finds t y

theorem Workspace.readText?_root (hs : Plain ss) (b b' : Bool) :
    w.readText? (rooted b ss) = w.readText? (rooted b' ss) := by
  unfold readText? read
  rw [reach_rooted hs, reach_rooted hs]

theorem findsIn_of_sameSources (h : w.tree.SameSources w'.tree) (hk : k.filter = .standard)
    (hs : Plain (ss ++ [x])) :
    k.FindsIn w (rooted b (ss ++ [x])) y ↔ k.FindsIn w' (rooted b' (ss ++ [x])) y := by
  unfold Classifier.FindsIn
  rw [SourceFilter.isSource_rooted hs, SourceFilter.isSource_rooted hs]
  refine and_congr_right fun hsource => ?_
  have hx : x ≠ manifestFile := by
    rintro rfl
    rw [hk, SourceFilter.isSource_manifestFile] at hsource
    cases hsource
  rw [Workspace.readText?_of_sameSources h hs hx, Workspace.readText?_root hs b b']

/-- A file that can be scanned in one tree can be scanned in the other, by a path that can be
used. -/
theorem scannable_of_sameSources (h : w.tree.SameSources w'.tree) (hk : k.filter = .standard)
    (hs : Plain ss) (hms : Plain ms) (hne : ms ≠ [])
    (hu : Path.isUsable (rooted b' (ss ++ ms)) = true)
    (hscan : k.Scannable w (rooted b (ss ++ ms))) :
    k.Scannable w' (Path.join (rooted b' ss) (Path.ofSegments ms)) := by
  obtain ⟨init, x, rfl⟩ := List.eq_nil_or_concat ms |>.resolve_left hne
  rw [Path.join_rooted hs hms hne]
  rw [List.concat_eq_append] at hms hu hscan ⊢
  have hplain := hs.append hms
  rw [← List.append_assoc] at hplain hu hscan ⊢
  intro hsource
  rw [SourceFilter.isSource_rooted hplain] at hsource
  have hx : x ≠ manifestFile := by
    rintro rfl
    rw [hk, SourceFilter.isSource_manifestFile] at hsource
    cases hsource
  refine ⟨hu, fun t ht => ?_⟩
  rw [← Workspace.readText?_of_sameSources h hplain hx,
    Workspace.readText?_root hplain b' b] at ht
  exact (hscan (SourceFilter.isSource_rooted hplain ▸ hsource)).2 t ht

theorem DependencyLists.ofClassifications_congr {ys ys' : List Classification}
    (h : ∀ y, y ∈ ys ↔ y ∈ ys') : ofClassifications ys = ofClassifications ys' := by
  have hnames (bucket : Bucket) :
      sortDistinct ((ys.filter fun y => y.bucket == bucket).map (·.name)) =
        sortDistinct ((ys'.filter fun y => y.bucket == bucket).map (·.name)) :=
    sortDistinct_congr fun p => by rw [mem_names, mem_names, h]
  unfold ofClassifications ofNames
  dsimp only
  rw [hnames, hnames, hnames]

/-! ## Paths from the project directory -/

theorem Path.normalize_ofSegments (hm : Plain ms) (hne : ms ≠ []) :
    normalize (ofSegments ms) = ofSegments ms := by
  apply eq_of_segments_eq
  rw [segments_normalize hm.isAbsolute_ofSegments, hm.segments_ofSegments hne, hm.collapse_eq,
    if_neg hne]

theorem Path.join_relative (hs : Plain ss) (hm : Plain ms) (hne : ms ≠ []) :
    join (rooted b' ss) (relative (rooted b (ss ++ ms)) (rooted b' ss)) = rooted b' (ss ++ ms) := by
  rw [relative_rooted hs hm hne, join_rooted hs hm hne]

/-- What a scan finds does not depend on the order of the files, nor on the way in which their paths
are written. -/
theorem mem_found_of_perm {scan scan' : Scan} (h : w.tree.SameSources w'.tree)
    (hk : k.filter = .standard) (hs : Plain ss) (hfiles : NamedBelow b ss files)
    (hperm : paths.Perm (files.map fun q => Path.relative q (rooted b' ss)))
    (hscan : (k.scanFiles w files).result = .ok scan)
    (hscan' : (k.scanFiles w' (paths.map (Path.join (rooted b' ss)))).result = .ok scan') :
    y ∈ scan.found ↔ y ∈ scan'.found := by
  have hsame : ∀ q ∈ files, (k.FindsIn w q y ↔
      k.FindsIn w' (Path.join (rooted b' ss) (Path.relative q (rooted b' ss))) y) := by
    intro q hq
    obtain ⟨ms, hms, hne, rfl⟩ := hfiles q hq
    rw [Path.join_relative hs hms hne]
    obtain ⟨init, x, rfl⟩ := List.eq_nil_or_concat ms |>.resolve_left hne
    rw [List.concat_eq_append] at hms ⊢
    have hplain := hs.append hms
    rw [← List.append_assoc] at hplain ⊢
    exact findsIn_of_sameSources h hk hplain
  rw [mem_found hscan, mem_found hscan']
  constructor
  · rintro ⟨q, hq, hy⟩
    have hmem := hperm.mem_iff.2 (List.mem_map_of_mem hq)
    exact ⟨_, List.mem_map_of_mem hmem, (hsame q hq).1 hy⟩
  · rintro ⟨q', hq', hy⟩
    obtain ⟨p, hp, rfl⟩ := List.mem_map.1 hq'
    obtain ⟨q, hq, rfl⟩ := List.mem_map.1 (hperm.mem_iff.1 hp)
    exact ⟨q, hq, (hsame q hq).2 hy⟩

/-- The path from a directory of what a path in the manifest leads to from the scan directory. -/
def Config.pathFrom (c : Config) (base path : Text) : Text :=
  Path.relative (Path.normalize (Path.join c.cwd path)) base

/-- The files of an item lie below the scan directory, and the paths from the project directory are
theirs. -/
theorem ItemSource.below {found : List Text} {item : Item} {u : ComponentUnit} {scan : Scan}
    {cs : List Text} (hsrc : ItemSource k w c found item u files scan) (hc : Plain cs)
    (hcwd : c.cwd = rooted b cs)
    (hfound : SourceFilter.standard.list w c.cwd c.componentPattern.display = .ok found)
    (hcp : Down c.componentPattern.display) (hfp : Down c.filePattern.display) :
    NamedBelow b cs files ∧
      ∀ base, (item.files.map (·.path)).map (c.pathFrom base) =
        files.map fun q => Path.relative q base := by
  rw [hcwd] at hfound
  have hbelow := SourceFilter.list_below hc hfound hcp.relative hcp.noUp safeExtension_standard
  obtain ⟨ds, hds, hdir, hown⟩ := exists_directory_of_unit hc hbelow hsrc.unit
  have hback := leadBack_of_unit hc hcwd hfound hcp.relative hfp.relative hsrc.unit hsrc.listed
  refine ⟨?_, fun base => ?_⟩
  · rcases unitFiles_cases hsrc.listed with rfl | ⟨-, hl⟩
    · exact hown.weaken hds
    · rw [hdir] at hl
      exact (SourceFilter.list_below (hc.append hds) hl hfp.relative hfp.noUp
        safeExtension_standard).weaken hds
  · have hmap := congrArg (List.map fun q => Path.relative q base) hback.map_eq
    rw [List.map_map, ← hsrc.paths] at hmap
    exact hmap

/-! ## Questions about files -/

namespace Workspace

theorem isUsable_of_checkFile (h : checkFile w p base = .ok none) :
    Path.isUsable (Path.join base (Path.normalize p)) = true := by
  unfold checkFile at h
  split at h
  · cases h
  split at h
  · cases h
  split at h
  · cases h
  dsimp only at h
  split at h
  · cases h
  split at h
  · cases h
  next hu => simpa using hu

end Workspace

namespace Session

theorem requireFiles_of_checkFile (h : ∀ p ∈ paths, checkFile w p s.basePath = .ok none) :
    s.requireFiles w paths = .ok () := by
  induction paths with
  | nil => rfl
  | cons p ps ih =>
    unfold requireFiles requireFile
    rw [h p List.mem_cons_self]
    exact ih fun q hq => h q (List.mem_cons_of_mem p hq)

/-- When nothing is declared, a question is answered with the classifier of the manifest. -/
theorem classifierFor_of_sameSources (hl : c.Located) (h : w.tree.SameSources t)
    (hc : s.generateConfig w pattern = .ok c)
    (hk : (configClassifier w c none .standard).result = .ok k) :
    (s.classifierFor (w.withTree t) ⟨none, none, none⟩).result = .ok k := by
  have hk' : (configClassifier (w.withTree t) c none .standard).result = .ok k :=
    (configClassifier_of_sameSources h hl).trans hk
  obtain ⟨own, -, hown, ⟨-, rfl⟩ | ⟨-, -, rfl⟩⟩ := generateConfig_eq_ok.1 hc
  · unfold classifierFor
    rw [hown]
    exact hk'
  · unfold classifierFor
    rw [hown]
    exact hk'

/-- A request that is answered leaves the sources, whether it writes the manifest or not. -/
theorem sameSources_of_generate {write : Bool} (hl : c.Located) (ht : w.tree.LinkFree)
    (hc : s.generateConfig w pattern = .ok c)
    (h : (s.generate w write pattern).2.result = .ok answer) :
    ∃ m written, (buildOnce w c).result = .ok m ∧ answer = generatedAnswer m written ∧
      w.tree.SameSources (s.generate w write pattern).1 := by
  cases write with
  | false =>
    rcases hm : (buildOnce w c).result with e | m
    · rw [generate_of_not_built false hc hm] at h
      cases h
    · rw [generate_unwritten hc hm] at h ⊢
      exact ⟨m, none, rfl, (Except.ok.inj h).symm, .refl ht⟩
  | true =>
    obtain ⟨m, d, l, hm, hanswer, -, hw⟩ := written_of_generate hl ht hc h
    obtain ⟨b, os, hos, hout⟩ := hl.output
    rw [hout] at hw
    exact ⟨m, _, hm, hanswer, hw.sameSources ht hos⟩

/-- Asked about files that pass its check, a session that declares nothing finds in them what the
scan for the manifest has found. -/
theorem Holds.classify_of_scanned {files : List Text} {scan : Scan} (hold : s.Holds v path)
    (hc : s.generateConfig w pattern = .ok c) (h : w.tree.SameSources t)
    (hk : (configClassifier w c none .standard).result = .ok k) (hs : Plain ss)
    (hbase : s.basePath = rooted b' ss) (hfiles : NamedBelow b ss files)
    (hscan : (k.scanFiles w files).result = .ok scan)
    (hperm : paths.Perm (files.map fun q => Path.relative q s.basePath))
    (hok : ∀ p ∈ paths, checkFile (w.withTree t) p s.basePath = .ok none) :
    (s.classifyDependencies (w.withTree t) paths ⟨none, none, none⟩).result =
      .ok (DependencyLists.ofClassifications scan.found).toJson := by
  have hsame : w.tree.SameSources (w.withTree t).tree := h
  have hl := hold.located_of_generateConfig hc
  obtain ⟨own, hp, -⟩ := generateConfig_eq_ok.1 hc
  have htakes : s.Takes (w.withTree t) paths :=
    ⟨hold.requireProject_of_sameSources h hp, requireFiles_of_checkFile hok⟩
  have hk' := classifierFor_of_sameSources hl h hc hk
  have hfilter : k.filter = .standard := (configClassifier_serves hk).filter
  rw [hbase] at hperm
  have hscannable : ∀ q ∈ paths.map (Path.join (rooted b' ss)), k.Scannable (w.withTree t) q := by
    intro q hq
    obtain ⟨p, hp, rfl⟩ := List.mem_map.1 hq
    have hcheck := Workspace.isUsable_of_checkFile (hok p hp)
    obtain ⟨file, hfile, rfl⟩ := List.mem_map.1 (hperm.mem_iff.1 hp)
    have hfirst := Classifier.exists_scanFiles_iff.1 ⟨scan, hscan⟩ file hfile
    obtain ⟨ms, hms, hne, rfl⟩ := hfiles file hfile
    rw [hbase, Path.relative_rooted hs hms hne, Path.normalize_ofSegments hms hne,
      Path.join_rooted hs hms hne] at hcheck
    rw [Path.relative_rooted hs hms hne]
    exact scannable_of_sameSources hsame hfilter hs hms hne hcheck hfirst
  obtain ⟨scan', hscan'⟩ := Classifier.exists_scanFiles_iff.2 hscannable
  have hlists : DependencyLists.ofClassifications scan.found = .ofClassifications scan'.found :=
    DependencyLists.ofClassifications_congr fun y =>
      mem_found_of_perm hsame hfilter hs hfiles hperm hscan hscan'
  rw [classifyDependencies_of_takes htakes, hlists, hbase]
  refine Outcome.bind_eq_ok.2 ⟨k, hk', Outcome.bind_eq_ok.2 ⟨(_, scan'.skipped), ?_, rfl⟩⟩
  exact classifyFiles_eq_ok.2 ⟨scan', hscan', rfl, rfl⟩

end Session

/-! ## The lists of an item -/

/-- The texts that an object lists under a key; none if the key is left out. -/
def Json.listAt (v : Json) (key : Text) : List Text :=
  match v with
  | .obj ms => ((Members.get? ms key).bind Json.texts?).getD []
  | _ => []

theorem Json.texts?_ofTexts (ts : List Text) : (Json.ofTexts ts).texts? = some ts := by
  show (ts.map Json.str).mapM Json.text? = some ts
  induction ts with
  | nil => rfl
  | cons t ts ih =>
    rw [List.map_cons, List.mapM_cons, ih]
    rfl

section ListMember

variable {key key' : Text} {ts : List Text}

theorem get?_listMember_of_ne (h : key' ≠ key) : Members.get? (listMember key ts) key' = none := by
  unfold Members.get?
  rw [List.lookup_eq_none_iff]
  intro m hm
  have hkey : m.1 ∈ Members.keys (listMember key ts) := List.mem_map_of_mem hm
  rw [List.mem_singleton.1 ((keys_listMember key ts).subset hkey)]
  simpa using h

theorem texts_listMember :
    ((Members.get? (listMember key ts) key).bind Json.texts?).getD [] = ts := by
  unfold listMember
  split
  · next hempty =>
    rw [List.isEmpty_iff.1 hempty]
    rfl
  · unfold Members.get?
    rw [List.lookup_cons_self, Option.bind_some, Json.texts?_ofTexts]
    rfl

end ListMember

theorem Item.listAt_toJson (i : Item) :
    i.toJson.listAt (ofString "dependencies") = i.dependencies ∧
      i.toJson.listAt (ofString "devDependencies") = i.devDependencies ∧
      i.toJson.listAt (ofString "registryDependencies") = i.registryDependencies := by
  have happend (xs ys : Members) (key : Text) :
      Members.get? (xs ++ ys) key = (Members.get? xs key).or (Members.get? ys key) :=
    List.lookup_append
  have hfixed (key : Text) (h : key ∉ [ofString "name", ofString "type", ofString "files"]) :
      Members.get? [(ofString "name", .str i.name), (ofString "type", .str i.tag.text),
        (ofString "files", .arr (i.files.map ItemFile.toJson))] key = none := by
    refine List.lookup_eq_none_iff.2 fun m hm => ?_
    simp only [List.mem_cons, List.not_mem_nil, or_false, not_or] at hm h
    obtain ⟨hname, htype, hfiles⟩ := h
    rcases hm with rfl | rfl | rfl
    · simpa using hname
    · simpa using htype
    · simpa using hfiles
  unfold Item.toJson Json.listAt
  dsimp only
  refine ⟨?_, ?_, ?_⟩
  · simp (disch := decide) only [happend, hfixed, get?_listMember_of_ne, Option.none_or,
      Option.or_none, texts_listMember]
  · simp (disch := decide) only [happend, hfixed, get?_listMember_of_ne, Option.none_or,
      Option.or_none, texts_listMember]
  · simp (disch := decide) only [happend, hfixed, get?_listMember_of_ne, Option.none_or,
      texts_listMember]

/-! ## Agreement -/

namespace Server

/-- Asked about the files of an item that pass its check, in any order, the server answers with the
lists that the item has in the manifest. -/
theorem classification_agrees {s : Server} {write : Bool} (hold : s.session.Holds v path)
    (ht : s.workspace.tree.LinkFree)
    (hc : s.session.generateConfig s.workspace pattern = .ok c)
    (hcp : Down c.componentPattern.display) (hfp : Down c.filePattern.display)
    (hin : Path.names s.session.basePath <+: Path.names c.cwd)
    (h : (s.call (.generateRegistry write pattern)).2.result = .ok answer) :
    let next := (s.call (.generateRegistry write pattern)).1
    ∃ m written, (buildOnce s.workspace c).result = .ok m ∧
      answer = Session.generatedAnswer m written ∧
      ∀ item ∈ m.items, ∀ paths,
        paths.Perm ((item.files.map (·.path)).map (c.pathFrom s.session.basePath)) →
        (∀ p ∈ paths, checkFile next.workspace p s.session.basePath = .ok none) →
        (next.call (.classifyDependencies paths ⟨none, none, none⟩)).2.result =
          .ok (.obj [
            (ofString "dependencies", .ofTexts (item.toJson.listAt (ofString "dependencies"))),
            (ofString "devDependencies", .ofTexts (item.toJson.listAt (ofString "devDependencies"))),
            (ofString "registryDependencies",
              .ofTexts (item.toJson.listAt (ofString "registryDependencies")))]) := by
  have hl := hold.located_of_generateConfig hc
  obtain ⟨m, written, hm, hanswer, hsame⟩ := Session.sameSources_of_generate hl ht hc h
  refine ⟨m, written, hm, hanswer, fun item hitem paths hperm hok => ?_⟩
  obtain ⟨k, found, hk, hfound, hitems⟩ := items_of_buildOnce hm
  obtain ⟨u, files, scan, hsrc⟩ := hitems item hitem
  obtain ⟨b, cs, hcs, hcwd⟩ := hl.cwd
  obtain ⟨b', bs, hbs, hbase⟩ := hold.exists_rooted
  obtain ⟨hbelow, hpaths⟩ := hsrc.below hcs hcwd hfound hcp hfp
  -- The project directory is above the scan directory, and so above the files.
  rw [hbase, hcwd, Path.names_rooted hbs, Path.names_rooted hcs] at hin
  obtain ⟨rest, rfl⟩ := hin
  rw [hpaths] at hperm
  have hclassified := hold.classify_of_scanned hc hsame hk hbs hbase (hbelow.weaken hcs.right)
    hsrc.scanned hperm hok
  obtain ⟨memo, hmade⟩ := hsrc.made
  obtain ⟨hdeps, hdev, hreg⟩ := item.listAt_toJson
  rw [hdeps, hdev, hreg, hmade]
  exact hclassified

/-- The item of the library. -/
def libraryItem : Item :=
  ⟨['b'], .known .ui, [⟨"ui/b/c.ts".toList, .known .ui⟩, ⟨"ui/b/index.ts".toList, .known .ui⟩],
    ["vue".toList], ["vite".toList], ["left-pad".toList]⟩

theorem classification_agrees_reversed :
    ∃ c answer, libraryServer.session.generateConfig libraryServer.workspace [] = .ok c ∧
      Down c.componentPattern.display ∧ Down c.filePattern.display ∧
      libraryServer.workspace.tree.LinkFree ∧
      Path.names libraryServer.session.basePath <+: Path.names c.cwd ∧
      (libraryServer.call (.generateRegistry true [])).2.result = .ok answer ∧
      (∀ p ∈ ["s/ui/b/index.ts".toList, "s/ui/b/c.ts".toList],
        checkFile (libraryServer.call (.generateRegistry true [])).1.workspace p
          libraryServer.session.basePath = .ok none) ∧
      ((libraryServer.call (.generateRegistry true [])).1.call (.classifyDependencies
        ["s/ui/b/index.ts".toList, "s/ui/b/c.ts".toList] ⟨none, none, none⟩)).2.result =
          .ok (.obj [(ofString "dependencies", .ofTexts ["vue".toList]),
            (ofString "devDependencies", .ofTexts ["vite".toList]),
            (ofString "registryDependencies", .ofTexts ["left-pad".toList])]) := by
  have hfree : libraryServer.workspace.tree.LinkFree := Tree.linkFree_of_entries (by decide)
  have hbase : libraryServer.session.basePath = "/p".toList := by decide +kernel
  have hfields : ((libraryServer.session.generateConfig libraryServer.workspace []).toOption.bind
      fun c => (buildOnce libraryServer.workspace c).result.toOption.map fun m =>
        (c.cwd, decide (Down c.componentPattern.display ∧ Down c.filePattern.display), m.items)) =
      some ("/p/s".toList, true, [libraryItem]) := by decide +kernel
  obtain ⟨c, m, ⟨hc, hm⟩, hf⟩ := Session.exists_builds hfields
  obtain ⟨hcwd, hf⟩ := Prod.mk.inj hf
  obtain ⟨hdown, hitems⟩ := Prod.mk.inj hf
  obtain ⟨hcp, hfp⟩ := of_decide_eq_true hdown
  have hin : Path.names libraryServer.session.basePath <+: Path.names c.cwd := by
    rw [hbase, hcwd]
    decide
  obtain ⟨hchecked, hok⟩ : (∀ p ∈ ["s/ui/b/index.ts".toList, "s/ui/b/c.ts".toList],
      checkFile (libraryServer.call (.generateRegistry true [])).1.workspace p
        libraryServer.session.basePath = .ok none) ∧
      (libraryServer.call (.generateRegistry true [])).2.result.isOk = true := by decide +kernel
  rcases hr : (libraryServer.call (.generateRegistry true [])).2.result with e | answer
  · rw [hr] at hok
    cases hok
  obtain ⟨m', -, hm', -, hagree⟩ :=
    classification_agrees holds_libraryServer hfree hc hcp hfp hin hr
  obtain rfl : m = m' := Except.ok.inj (hm.symm.trans hm')
  have hpaths : ["ui/b/c.ts".toList, "ui/b/index.ts".toList].map
      (c.pathFrom libraryServer.session.basePath) =
        ["s/ui/b/c.ts".toList, "s/ui/b/index.ts".toList] := by
    rw [hbase]
    unfold Config.pathFrom
    rw [hcwd]
    decide
  have hperm : ["s/ui/b/index.ts".toList, "s/ui/b/c.ts".toList].Perm
      ((libraryItem.files.map (·.path)).map (c.pathFrom libraryServer.session.basePath)) :=
    hpaths ▸ List.Perm.swap ..
  have hmem : libraryItem ∈ m.items := by
    rw [hitems]
    exact List.mem_singleton_self libraryItem
  have hanswer := hagree libraryItem hmem _ hperm hchecked
  obtain ⟨hdeps, hdev, hreg⟩ := libraryItem.listAt_toJson
  rw [hdeps, hdev, hreg] at hanswer
  exact ⟨c, answer, hc, hcp, hfp, hfree, hin, rfl, hchecked, hanswer⟩

end Server

end ComponentManifest
