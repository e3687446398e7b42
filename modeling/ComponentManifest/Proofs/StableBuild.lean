import ComponentManifest.Proofs.Generation
import ComponentManifest.Proofs.JsonRoundTrip
import ComponentManifest.Proofs.StableListing

/-!
# Builds that do not change

A build reads directories, sources and the two files in which a project declares its packages and
aliases. It never reads a manifest, so a tree in which only manifests and new directories differ
gives the same manifest again.

1. Trees that hold the same sources.
2. Whether a file is a source, and scanning it.
3. What a project declares.
4. The items of a manifest.
5. `buildOnce_of_sameSources`.
-/

namespace ComponentManifest

open ComponentManifest.Path (Plain rooted Down segments)

/-! ## The same sources -/

/-- Neither tree has links. The second one has the directories of the first and, but for manifests,
the same files. -/
structure Tree.SameSources (t t' : Tree) : Prop where
  linkFree : t.LinkFree
  linkFree' : t'.LinkFree
  files : t.SameFiles manifestFile t'
  directories : ∀ l, t.entry? l = some .dir → t'.entry? l = some .dir

theorem Tree.SameSources.refl {t : Tree} (h : t.LinkFree) : t.SameSources t :=
  ⟨h, h, fun _ _ _ _ => Iff.rfl, fun _ hl => hl⟩

variable {w w' : Workspace} {b : Bool} {ss : List Text} {x : Text} {k : Classifier} {c : Config}
  {f : SourceFilter} {files found : List Text} {u : ComponentUnit} {m : Manifest}

theorem Workspace.isDir_of_sameSources (h : w.tree.SameSources w'.tree) (hs : Plain ss)
    (hd : w.isDir (rooted b ss) = true) : w'.isDir (rooted b ss) = true := by
  have hq := Path.spells_rooted (b := b) hs
  have he := (Workspace.isDir_spells h.linkFree hq).1 hd
  exact (Workspace.isDir_spells h.linkFree' hq).2 (h.directories ss he)

theorem Path.exists_segments_rooted (hs : Plain (ss ++ [x])) :
    ∃ init, segments (rooted b (ss ++ [x])) = init ++ [x] := by
  obtain ⟨n, hn⟩ := Path.segments_rooted (b := b) hs
  exact ⟨List.replicate n [] ++ ss, by rw [hn, List.append_assoc]⟩

theorem Workspace.readText?_of_sameSources (h : w.tree.SameSources w'.tree)
    (hs : Plain (ss ++ [x])) (hx : x ≠ manifestFile) :
    w.readText? (rooted b (ss ++ [x])) = w'.readText? (rooted b (ss ++ [x])) := by
  obtain ⟨init, hseg⟩ := Path.exists_segments_rooted (b := b) hs
  exact readText?_of_sameFiles h.linkFree h.linkFree' h.files (Path.spells_rooted hs) hseg hx

/-! ## Sources by their names -/

theorem Path.finalName_of_segments {p : Text} {init : List Text} (h : segments p = init ++ [x])
    (hx : ¬ Idle x) : finalName p = x := by
  have hkeep : [x].filter (fun s => s ≠ [] ∧ s ≠ here) = [x] :=
    List.filter_cons_of_pos (decide_eq_true ⟨fun he => hx (Or.inl he), fun he => hx (Or.inr he)⟩)
  unfold finalName
  rw [h, List.filter_append, hkeep, List.getLast?_concat]
  rfl

theorem Path.finalName_rooted (hs : Plain (ss ++ [x])) : finalName (rooted b (ss ++ [x])) = x := by
  obtain ⟨init, hseg⟩ := exists_segments_rooted (b := b) hs
  exact finalName_of_segments hseg (hs x (by simp)).1.1

theorem SourceFilter.isSource_rooted (hs : Plain (ss ++ [x])) :
    f.isSource (rooted b (ss ++ [x])) = f.isSource x := by
  obtain ⟨hx, hslash⟩ := hs x (by simp)
  have hname : segments x = [] ++ [x] := Path.segments_of_not_mem hslash
  unfold isSource Path.suffix
  rw [Path.finalName_rooted hs, Path.finalName_of_segments hname hx.1]

/-- A manifest is no source, and a listing never has one. -/
theorem SourceFilter.isSource_manifestFile : standard.isSource manifestFile = false := by
  decide +kernel

theorem SourceFilter.avoids_manifestFile : ∀ e ∈ standard.extensions, Avoids manifestFile e := by
  decide +kernel

theorem scanFile_of_sameSources (h : w.tree.SameSources w'.tree) (hk : k.filter = .standard)
    (hs : Plain (ss ++ [x])) :
    k.scanFile w (rooted b (ss ++ [x])) = k.scanFile w' (rooted b (ss ++ [x])) := by
  unfold Classifier.scanFile
  by_cases hx : x = manifestFile
  · subst hx
    have hno : k.filter.isSource (rooted b (ss ++ [manifestFile])) = false := by
      rw [SourceFilter.isSource_rooted hs, hk]
      exact SourceFilter.isSource_manifestFile
    rw [hno]
    rfl
  · rw [Workspace.readText?_of_sameSources h hs hx]

theorem scanFiles_of_sameSources (h : w.tree.SameSources w'.tree) (hk : k.filter = .standard)
    (hfiles : NamedBelow b [] files) : k.scanFiles w files = k.scanFiles w' files := by
  induction files with
  | nil => rfl
  | cons q qs ih =>
    obtain ⟨ms, hms, hne, hq⟩ := hfiles q List.mem_cons_self
    obtain ⟨init, x, rfl⟩ := List.eq_nil_or_concat ms |>.resolve_left hne
    rw [List.concat_eq_append] at hms hq
    rw [List.nil_append] at hq
    subst hq
    unfold Classifier.scanFiles
    rw [scanFile_of_sameSources h hk hms, ih fun q hq => hfiles q (List.mem_cons_of_mem _ hq)]

/-! ## Declarations -/

theorem plain_componentsFile : Plain [componentsFile] := Tree.plain_of_validName (by decide)

theorem plain_packageFile : Plain [packageFile] := Tree.plain_of_validName (by decide)

variable {name root root' : Text}

theorem loadRegistries_result (w : Workspace) (root : Text) :
    (loadRegistries w root).result = takenFrom [] registriesOf
      (match findUp w [componentsFile] root with
      | some p => readJson w p
      | none => .error .malformed) := by
  unfold loadRegistries
  rcases findUp w [componentsFile] root with _ | p
  · rfl
  dsimp only
  rcases readJson w p with (_ | what) | v <;> rfl

/-- The content of the nearest components file, if there is one that can be read. -/
def tableSource? (w : Workspace) (root : Text) : Option Bytes :=
  (findUp w [componentsFile] root).bind fun p => (w.read p).toOption

/-- The content of the package file, if it can be read. -/
def listSource? (w : Workspace) (root : Text) : Option Bytes :=
  (w.read (Path.join root packageFile)).toOption

/-- The value in what was read, if anything was. -/
def jsonIn (content : Option Bytes) : Except Json.Failure Json :=
  match (content.bind Text.decodeUtf8?).map Text.unifyNewlines with
  | some t => Json.parse t
  | none => .error .malformed

theorem readJson_eq (w : Workspace) (p : Text) : readJson w p = jsonIn (w.read p).toOption := by
  unfold readJson jsonIn Workspace.readText?
  rcases w.read p <;> rfl

/-- Without carriage returns, a text that was written is the text that is parsed. -/
theorem readJson_of_read {p t : Text} (h : w.read p = .ok (Text.encodeUtf8 t)) (ht : '\r' ∉ t) :
    readJson w p = Json.parse t := by
  unfold readJson Workspace.readText?
  rw [h]
  dsimp only
  rw [Text.decodeUtf8?_encodeUtf8, Option.map_some, Text.unifyNewlines_of_not_mem ht]

theorem loadRegistries_congr (h : tableSource? w' root' = tableSource? w root) :
    (loadRegistries w' root').result = (loadRegistries w root).result := by
  have hsource : ∀ (w : Workspace) (root : Text), (loadRegistries w root).result =
      takenFrom [] registriesOf (jsonIn (tableSource? w root)) := by
    intro w root
    rw [loadRegistries_result]
    unfold tableSource?
    rcases findUp w [componentsFile] root with _ | p
    · rfl
    · dsimp only
      rw [readJson_eq]
      rfl
  rw [hsource, hsource, h]

theorem loadPackages_congr (h : listSource? w' root' = listSource? w root) :
    (loadPackages w' root').result = (loadPackages w root).result := by
  unfold listSource? at h
  rw [loadPackages_result, loadPackages_result, readJson_eq, readJson_eq, h]

/-- Of what is loaded, the alias table comes from one file and the two lists from the other. -/
theorem loadProject_eq_ok {d : ProjectDependencies} :
    (loadProject w root).result = .ok d ↔ (loadRegistries w root).result = .ok d.registries ∧
      (loadPackages w root).result = .ok (d.dependencies, d.devDependencies) := by
  unfold loadProject
  simp only [Outcome.bind_eq_ok, Outcome.result_pure]
  constructor
  · rintro ⟨rs, hrs, names, hnames, rfl⟩
    exact ⟨hrs, hnames⟩
  · rintro ⟨hrs, hnames⟩
    exact ⟨_, hrs, _, hnames, rfl⟩

theorem Workspace.toOption_read_of_sameFiles (ht : w.tree.LinkFree) (ht' : w'.tree.LinkFree)
    (hsame : w.tree.SameFiles name w'.tree) (hs : Plain (ss ++ [x])) (hx : x ≠ name) :
    (w'.read (rooted b (ss ++ [x]))).toOption = (w.read (rooted b (ss ++ [x]))).toOption := by
  obtain ⟨init, hseg⟩ := Path.exists_segments_rooted (b := b) hs
  have hread : ∀ content, w.read (rooted b (ss ++ [x])) = .ok content ↔
      w'.read (rooted b (ss ++ [x])) = .ok content := fun _ =>
    read_of_sameFiles ht ht' hsame (Path.spells_rooted hs) hseg hx
  rcases hr : w.read (rooted b (ss ++ [x])) with e | content
  · rcases hr' : w'.read (rooted b (ss ++ [x])) with e' | content'
    · rfl
    · rw [(hread content').2 hr'] at hr
      cases hr
  · rw [(hread content).1 hr]

/-- Files of another name do not change where the alias table comes from. -/
theorem tableSource?_of_sameFiles (ht : w.tree.LinkFree) (ht' : w'.tree.LinkFree)
    (hsame : w.tree.SameFiles name w'.tree) (hname : componentsFile ≠ name) (hs : Plain ss) :
    tableSource? w' (rooted b ss) = tableSource? w (rooted b ss) := by
  have hup : findUp w' [componentsFile] (rooted b ss) =
      findUp w [componentsFile] (rooted b ss) := by
    refine (findUp_congr hs plain_componentsFile fun d hd => ?_).symm
    obtain ⟨rest, rfl⟩ := hd
    have hd : Plain (d ++ [componentsFile]) := hs.left.append plain_componentsFile
    obtain ⟨init, hseg⟩ := Path.exists_segments_rooted (b := b) hd
    exact Workspace.isFile_of_sameFiles ht ht' hsame (Path.spells_rooted hd) hseg hname
  unfold tableSource?
  rw [hup]
  rcases hf : findUp w [componentsFile] (rooted b ss) with _ | p
  · rfl
  obtain ⟨above, ⟨⟨rest, rfl⟩, -⟩, rfl⟩ := nearest_of_findUp hs plain_componentsFile hf
  exact Workspace.toOption_read_of_sameFiles ht ht' hsame (hs.left.append plain_componentsFile) hname

theorem listSource?_of_sameFiles (ht : w.tree.LinkFree) (ht' : w'.tree.LinkFree)
    (hsame : w.tree.SameFiles name w'.tree) (hname : packageFile ≠ name) (hs : Plain ss) :
    listSource? w' (rooted b ss) = listSource? w (rooted b ss) := by
  unfold listSource?
  rw [Path.join_rooted_name hs plain_packageFile]
  exact Workspace.toOption_read_of_sameFiles ht ht' hsame (hs.append plain_packageFile) hname

/-- The package file may have become a directory; it counts as empty all the same. -/
theorem loadProject_of_sameSources (h : w.tree.SameSources w'.tree) (hs : Plain ss) :
    (loadProject w' (rooted b ss)).result = (loadProject w (rooted b ss)).result := by
  have htable := loadRegistries_congr
    (tableSource?_of_sameFiles (b := b) h.linkFree h.linkFree' h.files (by decide) hs)
  have hlists := loadPackages_congr
    (listSource?_of_sameFiles (b := b) h.linkFree h.linkFree' h.files (by decide) hs)
  unfold loadProject
  refine Outcome.result_bind_congr htable fun registries => ?_
  exact Outcome.result_bind_congr hlists fun packages => rfl

theorem configClassifier_of_sameSources (h : w.tree.SameSources w'.tree) (hc : c.Located) :
    (configClassifier w' c none f).result = (configClassifier w c none f).result := by
  obtain ⟨b, ss, hs, hroot⟩ := hc.root
  unfold configClassifier
  rw [hroot]
  exact Outcome.result_bind_congr (loadProject_of_sameSources h hs) fun loaded => rfl

/-! ## Items -/

theorem unitFiles_of_sameSources (h : w.tree.SameSources w'.tree) (hs : Plain ss)
    (hu : u.directory = rooted b ss) (hp : Down c.filePattern.display)
    (hf : unitFiles .standard w c u = .ok files) : unitFiles .standard w' c u = .ok files := by
  unfold unitFiles at hf ⊢
  split
  · next hloose => rwa [if_pos hloose] at hf
  next hloose =>
  rw [if_neg hloose, hu] at hf
  rw [hu]
  rcases hl : SourceFilter.standard.list w (rooted b ss) c.filePattern.display with e | listed
  · rw [hl] at hf
    cases hf
  · rw [hl] at hf
    rw [SourceFilter.list_of_sameFiles h.linkFree h.linkFree' h.files hs hp
      SourceFilter.avoids_manifestFile hl]
    exact hf

/-- Items that can be made in one tree can be made in the other if that is so for each unit. -/
theorem makeItems_congr {memo : TagMemo} {skipped : List Text} {units : List ComponentUnit}
    {r : List Item × TagMemo × List Text}
    (hu : ∀ u ∈ units, ∀ memo r, (makeItem k w c memo u).result = .ok r →
      (makeItem k w' c memo u).result = .ok r)
    (h : (makeItems k w c memo skipped units).result = .ok r) :
    (makeItems k w' c memo skipped units).result = .ok r := by
  induction units generalizing memo skipped r with
  | nil => exact h
  | cons u units ih =>
    unfold makeItems at h ⊢
    obtain ⟨made, hitem, h⟩ := Outcome.bind_eq_ok.1 h
    obtain ⟨rest, hrest, h⟩ := Outcome.bind_eq_ok.1 h
    have hitem' := hu u List.mem_cons_self memo made hitem
    have hrest' := ih (fun u hm => hu u (List.mem_cons_of_mem _ hm)) hrest
    exact Outcome.bind_eq_ok.2 ⟨made, hitem', Outcome.bind_eq_ok.2 ⟨rest, hrest', h⟩⟩

theorem namedBelow_unitFiles (hs : Plain ss)
    (hlist : SourceFilter.standard.list w (rooted b ss) c.componentPattern.display = .ok found)
    (hcp : Path.isAbsolute c.componentPattern.display = false)
    (hfp : Path.isAbsolute c.filePattern.display = false) (hu : u ∈ groupFiles found)
    (hf : unitFiles .standard w c u = .ok files) :
    (∃ ds, Plain ds ∧ u.directory = rooted b ds) ∧ NamedBelow b [] files := by
  have hrooted := SourceFilter.list_rooted hs hlist hcp
  obtain ⟨ds, hds, hdir, hown⟩ := exists_directory_of_unit Path.plain_nil hrooted hu
  rw [List.nil_append] at hdir hown
  refine ⟨⟨ds, hds, hdir⟩, ?_⟩
  rcases unitFiles_cases hf with rfl | ⟨-, hl⟩
  · exact hown.weaken hds
  · rw [hdir] at hl
    exact SourceFilter.list_rooted hds hl hfp

theorem makeItem_of_sameSources {memo : TagMemo} {r : Item × TagMemo × List Text}
    (h : w.tree.SameSources w'.tree) (hk : k.filter = .standard) (hs : Plain ss)
    (hlist : SourceFilter.standard.list w (rooted b ss) c.componentPattern.display = .ok found)
    (hcp : Down c.componentPattern.display) (hfp : Down c.filePattern.display)
    (hu : u ∈ groupFiles found) (hr : (makeItem k w c memo u).result = .ok r) :
    (makeItem k w' c memo u).result = .ok r := by
  obtain ⟨files, scan, hf, hscan, hmade, hskipped⟩ := makeItem_eq_ok.1 hr
  rw [hk] at hf
  obtain ⟨⟨ds, hds, hdir⟩, hnamed⟩ :=
    namedBelow_unitFiles hs hlist hcp.relative hfp.relative hu hf
  have hf' := unitFiles_of_sameSources h hds hdir hfp hf
  rw [scanFiles_of_sameSources h hk hnamed] at hscan
  exact makeItem_eq_ok.2 ⟨files, scan, hk ▸ hf', hscan, hmade, hskipped⟩

/-! ## The build -/

/-- From the same sources the same manifest is built. -/
theorem buildOnce_of_sameSources (h : w.tree.SameSources w'.tree) (hc : c.Located)
    (hcp : Down c.componentPattern.display) (hfp : Down c.filePattern.display)
    (hm : (buildOnce w c).result = .ok m) : (buildOnce w' c).result = .ok m := by
  obtain ⟨memory, hb⟩ := buildOnce_eq_ok.1 hm
  obtain ⟨hd, k, units, items, memo, skipped, hk, hu, hshare, hi, rfl, rfl⟩ := build_eq_ok.1 hb
  obtain ⟨found, hfound, rfl⟩ := discover_eq_ok.1 hu
  obtain ⟨b, ss, hs, hcwd⟩ := hc.cwd
  have hfilter : k.filter = .standard := (configClassifier_serves hk).filter
  have hk' : (configClassifier w' c none .standard).result = .ok k :=
    (configClassifier_of_sameSources h hc).trans hk
  rw [hcwd] at hd hfound
  have hd' : w'.isDir c.cwd = true := hcwd ▸ Workspace.isDir_of_sameSources h hs hd
  have hfound' : SourceFilter.standard.list w' c.cwd c.componentPattern.display = .ok found := by
    rw [hcwd]
    exact SourceFilter.list_of_sameFiles h.linkFree h.linkFree' h.files hs hcp
      SourceFilter.avoids_manifestFile hfound
  have hi' := makeItems_congr (fun u hu memo r hr =>
    makeItem_of_sameSources h hfilter hs hfound hcp hfp hu hr) hi
  refine buildOnce_eq_ok.2 ⟨⟨some k, memo, skipped⟩, build_eq_ok.2 ⟨hd', k, _, items, memo, skipped,
    hk', discover_eq_ok.2 ⟨found, hfound', rfl⟩, hshare, hi', rfl, rfl⟩⟩

end ComponentManifest
