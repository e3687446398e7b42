import ComponentManifest.Proofs.BuildSteps
import ComponentManifest.Proofs.ImportClauses
import ComponentManifest.Proofs.ImportSpelling

/-!
# The package lists of an item

An item lists the declared packages that its own files import, and nothing else decides about the
two lists: not the other items, and not what the builder did before.

1. `declaredNames`, the packages of a project, and the classifier that is made of them.
2. The literals that go into one of the two lists.
3. `mem_found`: what the scan of some files finds.
4. `ListsPackages`, what the two lists of an item should hold.
5. `BuildMemory.Reached`, a builder that may have been used before.
6. `packages_of_items`: the lists of every item of a manifest.
-/

namespace ComponentManifest

open Imports

variable {k : Classifier} {w : Workspace} {c : Config} {given : Option ProjectDependencies}
  {f : SourceFilter} {files : List Text} {l p q t : Text}

/-! ## Declared packages -/

/-- The keys of the two sections of the package file in a directory; a file that cannot be used
has none. -/
def packageKeys (w : Workspace) (root : Text) : List Text × List Text :=
  ((readJson w (Path.join root packageFile)).toOption.bind packagesOf?).getD ([], [])

/-- The packages that a project depends on and those that it needs for development: what its
package file declares, unless that is given, and what the configuration adds. -/
def declaredNames (w : Workspace) (c : Config) (given : Option ProjectDependencies) :
    List Text × List Text :=
  let own := match given with
    | some p => (p.dependencies, p.devDependencies)
    | none => packageKeys w c.root
  (own.1 ++ c.dependencies, own.2 ++ c.devDependencies)

theorem readText?_of_not_exists (h : w.exists? p = false) : w.readText? p = none := by
  unfold Workspace.exists? Workspace.entry? at h
  unfold Workspace.readText? Workspace.read
  rcases hr : w.reach true p with ⟨l, e⟩ | ⟨d, n, s⟩ | why
  · rw [hr] at h
    cases h
  · rfl
  · rfl

/-- What is taken from a file: nothing from a malformed one, and one that is nested too deep makes
loading fail. -/
def takenFrom {α : Type} (empty : α) (take : Json → α) : Except Json.Failure Json → Except Fault α
  | .ok v => .ok (take v)
  | .error .malformed => .ok empty
  | .error (.tooDeep what) => .error (.tooDeep what)

/-- A package file with a section of the wrong shape counts as empty, as a missing one does. -/
theorem loadPackages_result (w : Workspace) (root : Text) :
    (loadPackages w root).result = takenFrom ([], []) (fun v => (packagesOf? v).getD ([], []))
      (readJson w (Path.join root packageFile)) := by
  unfold loadPackages
  dsimp only
  rcases he : w.exists? (Path.join root packageFile)
  · have hr : readJson w (Path.join root packageFile) = .error .malformed := by
      unfold readJson
      rw [readText?_of_not_exists he]
    rw [hr]
    rfl
  rcases readJson w (Path.join root packageFile) with (_ | what) | v
  · rfl
  · rfl
  · unfold takenFrom
    rcases hp : packagesOf? v with _ | names
    · simp only [Except.map, hp]
      rfl
    · simp only [Except.map, hp]
      rfl

theorem loadPackages_names {root : Text} {names : List Text × List Text}
    (h : (loadPackages w root).result = .ok names) : names = packageKeys w root := by
  rw [loadPackages_result] at h
  unfold packageKeys
  rcases hr : readJson w (Path.join root packageFile) with (_ | what) | v
  · rw [hr] at h
    exact (Except.ok.inj h).symm
  · rw [hr] at h
    cases h
  · rw [hr] at h
    exact (Except.ok.inj h).symm

/-- The classifier knows the packages and the filter of a project. -/
structure Classifier.Serves (k : Classifier) (declared : List Text × List Text)
    (f : SourceFilter) : Prop where
  dependencies : k.dependencies = declared.1
  devDependencies : k.devDependencies = declared.2
  filter : k.filter = f

theorem makeClassifier_eq_ok {d : ProjectDependencies}
    (h : (makeClassifier c d f).result = .ok k) :
    k.Serves (d.dependencies ++ c.dependencies, d.devDependencies ++ c.devDependencies) f := by
  unfold makeClassifier at h
  obtain ⟨aliases, -, h⟩ := Outcome.bind_eq_ok.1 h
  obtain rfl := Outcome.result_pure .. |>.1 h
  exact ⟨rfl, rfl, rfl⟩

theorem configClassifier_serves (h : (configClassifier w c given f).result = .ok k) :
    k.Serves (declaredNames w c given) f := by
  rcases given with _ | d
  · obtain ⟨loaded, hloaded, hk⟩ := Outcome.bind_eq_ok.1 h
    obtain ⟨registries, -, hloaded⟩ := Outcome.bind_eq_ok.1 hloaded
    obtain ⟨packages, hpackages, hloaded⟩ := Outcome.bind_eq_ok.1 hloaded
    obtain rfl := Outcome.result_pure .. |>.1 hloaded
    unfold declaredNames
    dsimp only
    rw [← loadPackages_names hpackages]
    exact makeClassifier_eq_ok hk
  · exact makeClassifier_eq_ok h

/-! ## Literals of packages -/

/-- Does the literal name the package? Relative literals and the shared helpers name none. -/
def NamesPackage (l p : Text) : Prop :=
  isRelative l = false ∧ isSharedHelpers (Unicode.nfkc l) = false ∧
    packageName (Unicode.nfkc l) = p

theorem classifyLiteral_dependencies (hl : l ≠ []) :
    k.classifyLiteral l = .ok (some ⟨.dependencies, p⟩) ↔
      p ∈ k.dependencies ∧ NamesPackage l p := by
  rw [Classifier.classifyLiteral_eq hl]
  unfold Classifier.classifyNormal NamesPackage
  cases isRelative l
  · cases isSharedHelpers (Unicode.nfkc l)
    · cases k.reference (Unicode.nfkc l) <;> grind [Except.map]
    · simp
  · simp

theorem classifyLiteral_devDependencies (hl : l ≠ []) :
    k.classifyLiteral l = .ok (some ⟨.devDependencies, p⟩) ↔
      (p ∈ k.devDependencies ∧ p ∉ k.dependencies) ∧ NamesPackage l p := by
  rw [Classifier.classifyLiteral_eq hl]
  unfold Classifier.classifyNormal NamesPackage
  cases isRelative l
  · cases isSharedHelpers (Unicode.nfkc l)
    · cases k.reference (Unicode.nfkc l) <;> grind [Except.map]
    · simp
  · simp

/-! ## What a scan finds -/

/-- A literal of the text is classified so. -/
def Classifier.Finds (k : Classifier) (t : Text) (x : Classification) : Prop :=
  ∃ l ∈ literals t, k.classifyLiteral l = .ok (some x)

theorem mem_classifySource {x : Classification} {cs : List Classification}
    (h : k.classifySource t = .ok cs) : x ∈ cs ↔ k.Finds t x := by
  unfold Classifier.classifySource Classifier.classifyLiterals at h
  obtain ⟨os, hos, h⟩ := except_bind_eq_ok.1 h
  cases h
  simp only [List.mem_filterMap, id, mem_of_except_mapM hos, exists_eq_right]
  rfl

theorem mem_found_of_scanFile {scan : Scan} {x : Classification}
    (h : (k.scanFile w q).result = .ok scan) :
    x ∈ scan.found ↔ k.filter.isSource q = true ∧
      ∃ t, w.readText? q = some t ∧ k.Finds t x := by
  unfold Classifier.scanFile at h
  split at h
  · next hs =>
    cases h
    simp_all
  · next hs =>
    split at h
    · cases h
    split at h
    · next t ht =>
      obtain ⟨cs, hcs, rfl⟩ := except_map_eq_ok.1 h
      rw [mem_classifySource hcs]
      simp_all
    · next ht => cases h; simp [ht]

theorem mem_found {scan : Scan} {x : Classification}
    (h : (k.scanFiles w files).result = .ok scan) :
    x ∈ scan.found ↔ ∃ q ∈ files, k.filter.isSource q = true ∧
      ∃ t, w.readText? q = some t ∧ k.Finds t x := by
  induction files generalizing scan with
  | nil => cases h; simp
  | cons q qs ih =>
    unfold Classifier.scanFiles at h
    obtain ⟨first, hfirst, h⟩ := Outcome.bind_eq_ok.1 h
    obtain ⟨rest, hrest, h⟩ := Outcome.bind_eq_ok.1 h
    obtain rfl := Outcome.result_pure .. |>.1 h
    rw [List.mem_append, mem_found_of_scanFile hfirst, ih hrest, List.exists_mem_cons_iff]

/-- Does one of the sources among the files import the package? A file that cannot be read, or is
not UTF-8, imports nothing. -/
def Imported (f : SourceFilter) (w : Workspace) (files : List Text) (p : Text) : Prop :=
  ∃ q ∈ files, f.isSource q = true ∧
    ∃ content t, w.read q = .ok content ∧ Text.decodeUtf8? content = some t ∧
      ∃ l ∈ literals (Text.unifyNewlines t), NamesPackage l p

theorem readText?_eq_some :
    w.readText? q = some t ↔ ∃ content t', w.read q = .ok content ∧
      Text.decodeUtf8? content = some t' ∧ Text.unifyNewlines t' = t := by
  unfold Workspace.readText?
  cases w.read q <;> simp

/-- A classification is found exactly if its package is imported, provided that it is what all
literals of the package are classified as. -/
theorem mem_found_iff {scan : Scan} {x : Classification} {P : Prop}
    (hx : ∀ l, l ≠ [] → (k.classifyLiteral l = .ok (some x) ↔ P ∧ NamesPackage l p))
    (h : (k.scanFiles w files).result = .ok scan) :
    x ∈ scan.found ↔ P ∧ Imported k.filter w files p := by
  rw [mem_found h]
  constructor
  · rintro ⟨q, hq, hs, t, ht, l, hl, hc⟩
    obtain ⟨content, t', hr, hd, rfl⟩ := readText?_eq_some.1 ht
    obtain ⟨hp, hn⟩ := (hx l (literals_ne_nil hl)).1 hc
    exact ⟨hp, q, hq, hs, content, t', hr, hd, l, hl, hn⟩
  · rintro ⟨hp, q, hq, hs, content, t', hr, hd, l, hl, hn⟩
    exact ⟨q, hq, hs, _, readText?_eq_some.2 ⟨content, t', hr, hd, rfl⟩,
      l, hl, (hx l (literals_ne_nil hl)).2 ⟨hp, hn⟩⟩

theorem mem_names {b : Bucket} {cs : List Classification} :
    p ∈ (cs.filter fun x => x.bucket == b).map (·.name) ↔ ⟨b, p⟩ ∈ cs := by
  simp only [List.mem_map, List.mem_filter, beq_iff_eq]
  constructor
  · rintro ⟨⟨b', n⟩, ⟨hm, rfl⟩, rfl⟩
    exact hm
  · exact fun hm => ⟨⟨b, p⟩, ⟨hm, rfl⟩, rfl⟩

/-! ## The lists of an item -/

/-- The two lists hold, each in ascending order, the packages that a project declares and that the
sources among the files import; a package of the first list does not go into the second. -/
structure ListsPackages (declared : List Text × List Text) (f : SourceFilter) (w : Workspace)
    (files : List Text) (item : Item) : Prop where
  ascending : Ascending item.dependencies
  mem_iff : ∀ p, p ∈ item.dependencies ↔ p ∈ declared.1 ∧ Imported f w files p
  devAscending : Ascending item.devDependencies
  mem_dev_iff : ∀ p, p ∈ item.devDependencies ↔
    (p ∈ declared.2 ∧ p ∉ declared.1) ∧ Imported f w files p

theorem listsPackages_itemOf {declared : List Text × List Text} {memo : TagMemo}
    {u : ComponentUnit} {scan : Scan} (hk : k.Serves declared f)
    (h : (k.scanFiles w files).result = .ok scan) :
    ListsPackages declared f w files
      (itemOf c memo u files (.ofClassifications scan.found)).1 := by
  obtain ⟨hd, hv, rfl⟩ := hk
  refine ⟨ascending_sortDistinct _, fun p => ?_, ascending_sortDistinct _, fun p => ?_⟩
  · rw [← hd]
    exact (mem_sortDistinct.trans mem_names).trans
      (mem_found_iff (fun l => classifyLiteral_dependencies) h)
  · rw [← hd, ← hv]
    exact (mem_sortDistinct.trans mem_names).trans
      (mem_found_iff (fun l => classifyLiteral_devDependencies) h)

theorem ListsPackages.disjoint {declared : List Text × List Text} {item : Item}
    (h : ListsPackages declared f w files item) :
    ∀ p ∈ item.dependencies, p ∉ item.devDependencies :=
  fun p hp hv => ((h.mem_dev_iff p).1 hv).1.2 ((h.mem_iff p).1 hp).1

/-! ## Builders that were used before -/

/-- The memory of a builder after any number of builds that succeeded, over file trees in which the
project declares the same packages. -/
inductive BuildMemory.Reached (w : Workspace) (c : Config) (given : Option ProjectDependencies)
    (f : SourceFilter) : BuildMemory → Prop
  | fresh : Reached w c given f .fresh
  | built {v : Workspace} {workers : Option Int} {memory memory' : BuildMemory} {m : Manifest} :
      Reached w c given f memory → declaredNames v c given = declaredNames w c given →
        (build v c given f workers memory).result = .ok (m, memory') →
          Reached w c given f memory'

variable {memory memory' : BuildMemory} {workers : Option Int} {m : Manifest}

/-- A classifier that serves the project is remembered or made. -/
theorem BuildMemory.serves_of_classifierFor {declared : List Text × List Text}
    (hm : ∀ k, memory.classifier = some k → k.Serves declared f)
    (hd : declaredNames w c given = declared)
    (h : (memory.classifierFor w c given f).result = .ok k) : k.Serves declared f := by
  unfold classifierFor at h
  rcases hc : memory.classifier with _ | k'
  · rw [hc] at h
    exact hd ▸ configClassifier_serves h
  · rw [hc] at h
    cases h
    exact hm k hc

/-- Whatever a builder did before, the classifier that it remembers serves the project. -/
theorem BuildMemory.Reached.serves (h : memory.Reached w c given f) :
    ∀ k, memory.classifier = some k → k.Serves (declaredNames w c given) f := by
  induction h with
  | fresh =>
    intro k hk
    cases hk
  | built _ hv hb ih =>
    obtain ⟨-, k', units, items, memo, skipped, hk', -, -, -, -, rfl⟩ := build_eq_ok.1 hb
    intro k hk
    cases hk
    exact serves_of_classifierFor ih hv hk'

/-! ## Every item of a manifest -/

/-- Every item of a manifest lists the declared packages that the sources among its unit's own files
import, and neither another item nor an earlier build has part in it. -/
theorem packages_of_items (hm : memory.Reached w c given f)
    (hb : (build w c given f workers memory).result = .ok (m, memory')) :
    ∃ units,
      (discover f w c.cwd c.componentPattern.display c.componentPattern.shown).result =
        .ok units ∧
      List.Forall₂ (fun u item => ∃ files,
        unitFiles f w c u = .ok files ∧
        item.files.map (·.path) = u.manifestPaths c files ∧
        ListsPackages (declaredNames w c given) f w files item ∧
        ∀ p ∈ item.dependencies, p ∉ item.devDependencies) units m.items := by
  obtain ⟨-, k, units, items, memo, skipped, hk, hu, -, hi, rfl, -⟩ := build_eq_ok.1 hb
  have hserves := BuildMemory.serves_of_classifierFor hm.serves rfl hk
  refine ⟨units, hu, (forall₂_of_makeItems hi).imp fun u item h => ?_⟩
  obtain ⟨memo, memo', skipped, h⟩ := h
  obtain ⟨files, scan, hf, hs, hitem, -⟩ := makeItem_eq_ok.1 h
  obtain ⟨rfl, -⟩ := Prod.mk.inj hitem
  have hlists : ListsPackages (declaredNames w c given) f w files
      (itemOf c memo u files (.ofClassifications scan.found)).1 := listsPackages_itemOf hserves hs
  exact ⟨files, hserves.filter ▸ hf, tagPaths_paths .., hlists, hlists.disjoint⟩

/-- A project that depends on `vue` and names it again for development, beside `vite`. -/
def packageProject : Workspace where
  tree := {
    entries := [([['p']], .dir),
      ([['p'], packageFile], .file (Text.encodeUtf8 <| Text.ofString <|
        "\x7b\"dependencies\": \x7b\"vue\": 1\x7d, " ++
        "\"devDependencies\": \x7b\"vite\": 1, \"vue\": 1\x7d\x7d")),
      ([['p'], ['a']], .dir), ([['p'], ['a'], ['b']], .dir),
      ([['p'], ['a'], ['b'], "c.ts".toList], .file (Text.encodeUtf8 <| Text.ofString
        "import 'vue'; import 'vite/x'; import 'left-pad'"))]
    named := by decide
    closed := by decide
    distinct := by decide }
  cwd := []

/-- Its configuration. -/
def packageConfig : Config :=
  { (default : Config) with
    root := "/p".toList
    cwd := "/p".toList
    componentPattern := .str defaultComponentPattern
    filePattern := .str defaultFilePattern }

/-- A build of it. -/
def packageBuild (memory : BuildMemory) : Outcome (Manifest × BuildMemory) :=
  build packageProject packageConfig none .standard none memory

/-- What a builder remembers after its first build. -/
def packageMemory : BuildMemory :=
  match (packageBuild .fresh).result with
  | .ok built => built.2
  | .error _ => .fresh

theorem packages_of_items_second_build :
    packageMemory.Reached packageProject packageConfig none .standard ∧
      ∃ m memory' item files, (packageBuild packageMemory).result = .ok (m, memory') ∧
        m.items = [item] ∧ item.dependencies = ["vue".toList] ∧
        item.devDependencies = ["vite".toList] ∧
        ListsPackages (["vue".toList], ["vite".toList, "vue".toList]) .standard packageProject
          files item := by
  have hm : packageMemory.Reached packageProject packageConfig none .standard := by
    have hok : (packageBuild .fresh).result.isOk = true := by decide +kernel
    unfold packageMemory
    rcases hb : (packageBuild .fresh).result with e | ⟨m, memory⟩
    · rw [hb] at hok
      cases hok
    · exact .built .fresh rfl hb
  have hlists : (packageBuild packageMemory).result.toOption.map
      (·.1.items.map fun i => (i.dependencies, i.devDependencies)) =
        some [(["vue".toList], ["vite".toList])] := by decide +kernel
  refine ⟨hm, ?_⟩
  rcases hb : (packageBuild packageMemory).result with e | ⟨m, memory'⟩
  · rw [hb] at hlists
    cases hlists
  rw [hb] at hlists
  obtain ⟨units, -, hall⟩ := packages_of_items hm hb
  obtain ⟨item, hitem, hpair⟩ := List.map_eq_singleton_iff.1 (Option.some.inj hlists)
  rw [hitem] at hall
  obtain ⟨u, -, ⟨files, -, -, hl, -⟩, -, -⟩ := List.forall₂_cons_right_iff.1 hall
  have hd : declaredNames packageProject packageConfig none =
      (["vue".toList], ["vite".toList, "vue".toList]) := by decide +kernel
  exact ⟨m, memory', item, files, rfl, hitem, (Prod.mk.inj hpair).1, (Prod.mk.inj hpair).2,
    hd ▸ hl⟩

end ComponentManifest
