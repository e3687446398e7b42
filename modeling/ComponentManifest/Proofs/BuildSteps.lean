import ComponentManifest.Manifest.Build
import ComponentManifest.Proofs.AliasResolution
import Mathlib.Data.List.Forall2

/-!
# What a build does

A build that succeeds is taken apart into its steps: the classifier, the units that are found, and
one item a unit, made in the order of the units.

1. `Scannable`, `scanFiles_eq_error`: when files can be scanned, and what can make a scan fail.
2. `makeItem_eq_ok`: the item of a unit.
3. `forall₂_of_makeItems`, `makeItems_eq_error`: the items stand for the units one by one.
4. `build_eq_ok`, `buildWith_eq_error`: the manifest has these items, and what can go wrong.
-/

namespace ComponentManifest

/-! ## Scans -/

namespace Classifier

variable {k : Classifier} {w : Workspace} {t p : Text} {files : List Text} {e : Fault}

theorem spoils_of_classifyNormal (h : k.classifyNormal t = .error e) : k.aliases.Spoils e := by
  unfold classifyNormal at h
  split at h
  · cases h
  dsimp only at h
  split at h
  · cases h
  split at h
  · cases h
  have href := except_map_eq_error.1 h
  unfold reference at href
  split at href
  · cases href
  · exact AliasTable.spoils_of_resolve (except_map_eq_error.1 href)

theorem spoils_of_classifyLiteral (h : k.classifyLiteral t = .error e) : k.aliases.Spoils e := by
  unfold classifyLiteral at h
  split at h
  · cases h
  · exact spoils_of_classifyNormal h

theorem spoils_of_classifySource (h : k.classifySource t = .error e) : k.aliases.Spoils e := by
  unfold classifySource classifyLiterals at h
  rcases except_bind_eq_error.1 h with h | ⟨_, -, h⟩
  · obtain ⟨_, literal, _, -, -, hliteral⟩ := except_mapM_eq_error.1 h
    exact spoils_of_classifyLiteral hliteral
  · cases h

theorem scanFile_eq_error (h : (k.scanFile w p).result = .error e) :
    Path.isUsable p = false ∧ e = .ofPath p ∨ k.aliases.Spoils e := by
  unfold scanFile at h
  split at h
  · cases h
  split at h
  · next hu => exact Or.inl ⟨by simpa using hu, (Except.error.inj h).symm⟩
  split at h
  · exact Or.inr (spoils_of_classifySource (except_map_eq_error.1 h))
  · cases h

/-- A scan fails for a path that the operating system cannot be given, or for an alias. -/
theorem scanFiles_eq_error (h : (k.scanFiles w files).result = .error e) :
    (∃ q ∈ files, Path.isUsable q = false ∧ e = .ofPath q) ∨ k.aliases.Spoils e := by
  induction files with
  | nil => cases h
  | cons q qs ih =>
    unfold scanFiles at h
    rcases Outcome.bind_eq_error h with h | ⟨_, -, h⟩
    · exact (scanFile_eq_error h).imp_left fun hq => ⟨q, List.mem_cons_self, hq⟩
    rcases Outcome.bind_eq_error h with h | ⟨_, -, h⟩
    · exact (ih h).imp_left fun ⟨q', hq', he⟩ => ⟨q', List.mem_cons_of_mem q hq', he⟩
    · cases h

/-- If the path is that of a source, the operating system can be given it, and the literals of what
is read there can be classified. -/
def Scannable (k : Classifier) (w : Workspace) (p : Text) : Prop :=
  k.filter.isSource p = true →
    Path.isUsable p = true ∧ ∀ t, w.readText? p = some t → ∃ cs, k.classifySource t = .ok cs

theorem exists_scanFile_iff :
    (∃ scan, (k.scanFile w p).result = .ok scan) ↔ k.Scannable w p := by
  unfold scanFile Scannable
  rcases k.filter.isSource p
  · exact iff_of_true ⟨_, rfl⟩ (by simp)
  rcases Path.isUsable p
  · exact iff_of_false (by rintro ⟨_, h⟩; cases h) (by simp)
  rcases w.readText? p with _ | t
  · exact iff_of_true ⟨_, rfl⟩ (by simp)
  constructor
  · rintro ⟨scan, h⟩ -
    obtain ⟨cs, hcs, -⟩ := except_map_eq_ok.1 h
    exact ⟨rfl, fun t' ht => ⟨cs, Option.some.inj ht ▸ hcs⟩⟩
  · intro h
    obtain ⟨cs, hcs⟩ := (h rfl).2 t rfl
    exact ⟨_, except_map_eq_ok.2 ⟨cs, hcs, rfl⟩⟩

theorem exists_scanFiles_iff :
    (∃ scan, (k.scanFiles w files).result = .ok scan) ↔ ∀ q ∈ files, k.Scannable w q := by
  induction files with
  | nil => exact iff_of_true ⟨_, rfl⟩ (by simp)
  | cons q qs ih =>
    rw [List.forall_mem_cons]
    constructor
    · rintro ⟨scan, h⟩
      unfold scanFiles at h
      obtain ⟨first, hfirst, h⟩ := Outcome.bind_eq_ok.1 h
      obtain ⟨rest, hrest, -⟩ := Outcome.bind_eq_ok.1 h
      exact ⟨exists_scanFile_iff.1 ⟨first, hfirst⟩, ih.1 ⟨rest, hrest⟩⟩
    · rintro ⟨hq, hqs⟩
      obtain ⟨first, hfirst⟩ := exists_scanFile_iff.2 hq
      obtain ⟨rest, hrest⟩ := ih.2 hqs
      exact ⟨_, Outcome.bind_eq_ok.2 ⟨first, hfirst, Outcome.bind_eq_ok.2 ⟨rest, hrest, rfl⟩⟩⟩

theorem exists_classifySource (ha : ∀ a ∈ k.aliases, a.Sendable) (t : Text) :
    ∃ cs, k.classifySource t = .ok cs := by
  rcases hc : k.classifySource t with e | cs
  · obtain ⟨⟨a, hm, hlost⟩, -⟩ := spoils_of_classifySource hc
    exact absurd (ha a hm) hlost
  · exact ⟨cs, rfl⟩

end Classifier

/-! ## One item -/

theorem discover_eq_ok {f : SourceFilter} {w : Workspace} {root pattern shown : Text}
    {units : List ComponentUnit} :
    (discover f w root pattern shown).result = .ok units ↔
      ∃ files, f.list w root pattern = .ok files ∧ groupFiles files = units := by
  unfold discover
  simp only [Outcome.bind_eq_ok, Outcome.result_ofExcept, Outcome.result_report,
    Outcome.result_pure, true_and, exists_const]

theorem tagPaths_paths (memo : TagMemo) (ps : List Text) :
    (tagPaths memo ps).2.1.map (·.path) = ps := by
  induction ps generalizing memo with
  | nil => rfl
  | cons p ps ih => exact congrArg (p :: ·) (ih _)

/-- The paths in the manifest of some files of a unit. -/
def ComponentUnit.manifestPaths (u : ComponentUnit) (c : Config) (files : List Text) : List Text :=
  files.map (manifestPath (Path.relative u.directory c.cwd) u.directory)

/-- The item of a unit with some files and dependencies, and the memo after it. -/
def itemOf (c : Config) (memo : TagMemo) (u : ComponentUnit) (files : List Text)
    (lists : DependencyLists) : Item × TagMemo :=
  let tagged := tagPaths memo (u.manifestPaths c files)
  let own := tagged.2.2.tag .standard (Path.relative u.directory c.cwd)
  (⟨componentName u.directory u.files, own.2.1, tagged.2.1, lists.dependencies,
    lists.devDependencies, lists.registryDependencies⟩, own.2.2)

variable {k : Classifier} {w : Workspace} {c : Config} {memo memo' : TagMemo} {u : ComponentUnit}
  {item : Item} {skipped skipped' : List Text} {lists : DependencyLists}

theorem result_classifyFiles (k : Classifier) (w : Workspace) (files : List Text) :
    (k.classifyFiles w files).result = (k.scanFiles w files).result.map fun scan =>
      (DependencyLists.ofClassifications scan.found, scan.skipped) := by
  unfold Classifier.classifyFiles
  rw [Outcome.result_bind]
  cases (k.scanFiles w files).result <;> rfl

theorem classifyFiles_eq_ok {files : List Text} :
    (k.classifyFiles w files).result = .ok (lists, skipped) ↔
      ∃ scan, (k.scanFiles w files).result = .ok scan ∧
        lists = .ofClassifications scan.found ∧ skipped = scan.skipped := by
  rw [result_classifyFiles, except_map_eq_ok]
  simp only [Prod.mk.injEq, eq_comm]

/-- The item of a unit is made of the files listed for it and of what their scan finds. -/
theorem makeItem_eq_ok :
    (makeItem k w c memo u).result = .ok (item, memo', skipped) ↔
      ∃ files scan, unitFiles k.filter w c u = .ok files ∧
        (k.scanFiles w files).result = .ok scan ∧
        (item, memo') = itemOf c memo u files (.ofClassifications scan.found) ∧
        skipped = scan.skipped := by
  unfold makeItem
  simp only [Outcome.bind_eq_ok, Outcome.result_ofExcept, Outcome.result_report,
    Outcome.result_pure, Prod.exists, Prod.mk.injEq, classifyFiles_eq_ok, true_and, exists_const]
  constructor
  · rintro ⟨files, hf, lists, skipped', ⟨scan, hs, rfl, rfl⟩, rfl, rfl, rfl⟩
    exact ⟨files, scan, hf, hs, rfl, rfl⟩
  · rintro ⟨files, scan, hf, hs, hi, rfl⟩
    obtain ⟨rfl, rfl⟩ := Prod.mk.inj hi
    exact ⟨files, hf, _, _, ⟨scan, hs, rfl, rfl⟩, rfl, rfl, rfl⟩

theorem makeItem_eq_error {e : Fault} (h : (makeItem k w c memo u).result = .error e) :
    unitFiles k.filter w c u = .error e ∨
      ∃ files, unitFiles k.filter w c u = .ok files ∧ (k.scanFiles w files).result = .error e := by
  unfold makeItem at h
  rcases Outcome.bind_eq_error h with h | ⟨files, hf, h⟩
  · exact Or.inl h
  refine Or.inr ⟨files, hf, ?_⟩
  rcases Outcome.bind_eq_error h with h | ⟨_, -, h⟩
  · cases h
  rcases Outcome.bind_eq_error h with h | ⟨_, -, h⟩
  · rcases Outcome.bind_eq_error h with h | ⟨_, -, h⟩
    · exact h
    · cases h
  · cases h

/-! ## All items -/

theorem exists_of_forall₂ {α β : Type} {R : α → β → Prop} {xs : List α} {ys : List β} {y : β}
    (h : List.Forall₂ R xs ys) (hy : y ∈ ys) : ∃ x ∈ xs, R x y := by
  induction h with
  | nil => exact absurd hy List.not_mem_nil
  | cons hxy _ ih =>
    rcases List.mem_cons.1 hy with rfl | hy
    · exact ⟨_, List.mem_cons_self, hxy⟩
    · obtain ⟨x, hx, hr⟩ := ih hy
      exact ⟨x, List.mem_cons_of_mem _ hx, hr⟩

/-- The items of a build stand for its units, one by one and in order. -/
theorem forall₂_of_makeItems {units : List ComponentUnit} {items : List Item}
    (h : (makeItems k w c memo skipped units).result = .ok (items, memo', skipped')) :
    List.Forall₂ (fun u item => ∃ memo memo' skipped,
      (makeItem k w c memo u).result = .ok (item, memo', skipped)) units items := by
  induction units generalizing memo skipped items with
  | nil =>
    cases h
    exact .nil
  | cons u units ih =>
    unfold makeItems at h
    simp only [Outcome.bind_eq_ok, Outcome.result_pure, Prod.exists, Prod.mk.injEq] at h
    obtain ⟨item, memo₁, more, hitem, items, memo₂, skipped₂, hitems, rfl, rfl, rfl⟩ := h
    exact .cons ⟨memo, memo₁, more, hitem⟩ (ih hitems)

theorem makeItems_eq_error {units : List ComponentUnit} {e : Fault}
    (h : (makeItems k w c memo skipped units).result = .error e) :
    ∃ u ∈ units, unitFiles k.filter w c u = .error e ∨
      ∃ files, unitFiles k.filter w c u = .ok files ∧ (k.scanFiles w files).result = .error e := by
  induction units generalizing memo skipped with
  | nil => cases h
  | cons u units ih =>
    unfold makeItems at h
    rcases Outcome.bind_eq_error h with h | ⟨_, -, h⟩
    · exact ⟨u, List.mem_cons_self, makeItem_eq_error h⟩
    rcases Outcome.bind_eq_error h with h | ⟨_, -, h⟩
    · obtain ⟨u', hu', he⟩ := ih h
      exact ⟨u', List.mem_cons_of_mem u hu', he⟩
    · cases h

/-! ## The build -/

/-- The classifier with which a build works: the one it remembers, or that of the configuration. -/
def BuildMemory.classifierFor (memory : BuildMemory) (w : Workspace) (c : Config)
    (given : Option ProjectDependencies) (f : SourceFilter) : Outcome Classifier :=
  match memory.classifier with
  | some k => .value k
  | none => configClassifier w c given f

variable {given : Option ProjectDependencies} {f : SourceFilter} {workers : Option Int}
  {memory memory' : BuildMemory} {m : Manifest}

/-- The part of a build after its classifier is found. -/
def buildWith (k : Classifier) (w : Workspace) (c : Config) (f : SourceFilter)
    (workers : Option Int) (memory : BuildMemory) : Outcome (Manifest × BuildMemory) := do
  let units ← discover f w c.cwd c.componentPattern.display c.componentPattern.shown
  Outcome.report (.componentsFound units.length c.cwd)
  if !canShare workers units then Outcome.fail .noWorkers
  let (items, memo, skipped) ← makeItems k w c memory.memo memory.skipped units
  if !skipped.isEmpty then Outcome.report (.filesSkipped skipped.length)
  Outcome.report (.manifestBuilt items.length)
  return (⟨schemaUrl, c.name, c.homepage, items⟩, ⟨some k, memo, skipped⟩)

theorem build_of_isDir (h : w.isDir c.cwd = true) :
    (build w c given f workers memory).result =
      (memory.classifierFor w c given f >>= fun k =>
        buildWith k w c f workers memory).result := by
  unfold build BuildMemory.classifierFor
  rw [h]
  cases memory.classifier <;> rfl

theorem build_of_not_isDir (h : w.isDir c.cwd = false) :
    (build w c given f workers memory).result = .error (.directoryNotFound c.cwd) := by
  unfold build
  rw [h]
  rfl

theorem buildWith_eq_ok :
    (buildWith k w c f workers memory).result = .ok (m, memory') ↔
      ∃ units items memo skipped,
        (discover f w c.cwd c.componentPattern.display c.componentPattern.shown).result =
          .ok units ∧
        canShare workers units = true ∧
        (makeItems k w c memory.memo memory.skipped units).result =
          .ok (items, memo, skipped) ∧
        m = ⟨schemaUrl, c.name, c.homepage, items⟩ ∧ memory' = ⟨some k, memo, skipped⟩ := by
  unfold buildWith
  simp only [Outcome.bind_eq_ok, Outcome.result_report, true_and, exists_const]
  refine exists_congr fun units => ?_
  cases canShare workers units
  · simp [Outcome.bind_eq_ok]
  constructor
  · rintro ⟨hd, h⟩
    obtain ⟨⟨items, memo, skipped⟩, hm, h⟩ := Outcome.bind_eq_ok.1 h
    refine ⟨items, memo, skipped, hd, rfl, hm, ?_⟩
    cases skipped <;> cases h <;> exact ⟨rfl, rfl⟩
  · rintro ⟨items, memo, skipped, hd, -, hm, rfl, rfl⟩
    refine ⟨hd, Outcome.bind_eq_ok.2 ⟨_, hm, ?_⟩⟩
    cases skipped <;> rfl

/-- With the classifier found, a build fails when it finds no units, cannot share them out, or
cannot make their items. -/
theorem buildWith_eq_error {e : Fault} (h : (buildWith k w c f workers memory).result = .error e) :
    (discover f w c.cwd c.componentPattern.display c.componentPattern.shown).result = .error e ∨
      ∃ units, (discover f w c.cwd c.componentPattern.display c.componentPattern.shown).result =
          .ok units ∧
        (e = .noWorkers ∧ canShare workers units = false ∨
          (makeItems k w c memory.memo memory.skipped units).result = .error e) := by
  unfold buildWith at h
  rcases Outcome.bind_eq_error h with h | ⟨units, hu, h⟩
  · exact Or.inl h
  refine Or.inr ⟨units, hu, ?_⟩
  rcases Outcome.bind_eq_error h with h | ⟨_, -, h⟩
  · cases h
  rcases hw : canShare workers units
  · rw [hw] at h
    exact Or.inl ⟨(Except.error.inj h).symm, rfl⟩
  · rw [hw] at h
    rcases Outcome.bind_eq_error h with h | ⟨⟨items, memo, skipped⟩, -, h⟩
    · exact Or.inr h
    · cases skipped <;> cases h

theorem build_eq_ok :
    (build w c given f workers memory).result = .ok (m, memory') ↔
      w.isDir c.cwd = true ∧
      ∃ k units items memo skipped,
        (memory.classifierFor w c given f).result = .ok k ∧
        (discover f w c.cwd c.componentPattern.display c.componentPattern.shown).result =
          .ok units ∧
        canShare workers units = true ∧
        (makeItems k w c memory.memo memory.skipped units).result =
          .ok (items, memo, skipped) ∧
        m = ⟨schemaUrl, c.name, c.homepage, items⟩ ∧ memory' = ⟨some k, memo, skipped⟩ := by
  rcases hd : w.isDir c.cwd
  · simp [build_of_not_isDir hd]
  rw [build_of_isDir hd, Outcome.bind_eq_ok]
  simp only [buildWith_eq_ok, true_and]
  grind

end ComponentManifest
