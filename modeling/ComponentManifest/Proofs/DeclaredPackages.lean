import ComponentManifest.Proofs.FileBatches

/-!
# One more declared package

A package that a project declares in addition takes the imports of this package and no others: they
leave the lists in which they were and go into the list of the package. What is left of the
references to registry items are those that some literal of another package gives.

1. `Agrees`: two classifiers that may differ only in one package classify the literals of all others
   alike.
2. `mem_lists`: the lists of a run, by the literals that it scans.
3. `Agrees.tracks`: the second run fails only where the first does.
4. `AddsDependency` and `AddsDevDependency`, and what they do to the lists: `one_more_package`.
-/

namespace ComponentManifest

open Imports
open Unicode (nfkc)

variable {k k' : Classifier} {w : Workspace} {f : SourceFilter} {files : List Text}
  {l n p : Text} {b : Bucket} {scan : Scan}

namespace Classifier

/-! ## The other literals -/

/-- The classifiers have the same aliases and sources, and declare the same packages except perhaps
one. -/
structure Agrees (k : Classifier) (p : Text) (k' : Classifier) : Prop where
  dependencies : ∀ q, q ≠ p → (q ∈ k'.dependencies ↔ q ∈ k.dependencies)
  devDependencies : ∀ q, q ≠ p → (q ∈ k'.devDependencies ↔ q ∈ k.devDependencies)
  aliases : k'.aliases = k.aliases
  filter : k'.filter = k.filter

theorem Agrees.classifyLiteral (h : k.Agrees p k') (hl : packageName (nfkc l) ≠ p) :
    k'.classifyLiteral l = k.classifyLiteral l := by
  have hd : k'.dependencies.contains (packageName (nfkc l)) =
      k.dependencies.contains (packageName (nfkc l)) := by
    simpa using h.dependencies _ hl
  have hv : k'.devDependencies.contains (packageName (nfkc l)) =
      k.devDependencies.contains (packageName (nfkc l)) := by
    simpa using h.devDependencies _ hl
  unfold Classifier.classifyLiteral classifyNormal reference
  simp only [hd, hv, h.aliases]

theorem not_mem_of_registry (h : k.classifyLiteral l = .ok (some ⟨.registryDependencies, n⟩)) :
    packageName (nfkc l) ∉ k.dependencies ∧ packageName (nfkc l) ∉ k.devDependencies := by
  unfold Classifier.classifyLiteral classifyNormal at h
  split at h
  · cases h
  split at h
  · cases h
  dsimp only at h
  split at h
  · cases h
  next hd =>
  split at h
  · cases h
  next hv =>
  exact ⟨by simpa using hd, by simpa using hv⟩

/-- Once the package is declared, the references are those of the literals of other packages. -/
theorem Agrees.registry_iff (h : k.Agrees p k')
    (hp : p ∈ k'.dependencies ∨ p ∈ k'.devDependencies) :
    k'.classifyLiteral l = .ok (some ⟨.registryDependencies, n⟩) ↔
      packageName (nfkc l) ≠ p ∧ k.classifyLiteral l = .ok (some ⟨.registryDependencies, n⟩) := by
  constructor
  · intro hl
    have hne : packageName (nfkc l) ≠ p := by
      rintro rfl
      obtain ⟨hd, hv⟩ := not_mem_of_registry hl
      exact hp.elim hd hv
    exact ⟨hne, h.classifyLiteral hne ▸ hl⟩
  · rintro ⟨hne, hl⟩
    rw [h.classifyLiteral hne, hl]

end Classifier

/-! ## The lists of a run -/

/-- The literal is scanned: one of the sources among the files can be read, and it has an import
clause with this literal. -/
def Scanned (f : SourceFilter) (w : Workspace) (files : List Text) (l : Text) : Prop :=
  ∃ q ∈ files, f.isSource q = true ∧ ∃ content t, w.read q = .ok content ∧
    Text.decodeUtf8? content = some t ∧ l ∈ literals (Text.unifyNewlines t)

namespace Classifier

theorem mem_lists (h : (k.scanFiles w files).result = .ok scan) :
    n ∈ (DependencyLists.ofClassifications scan.found).names b ↔
      ∃ l, Scanned k.filter w files l ∧ k.classifyLiteral l = .ok (some ⟨b, n⟩) := by
  rw [DependencyLists.names_ofClassifications, mem_sortDistinct, mem_names, mem_found h]
  constructor
  · rintro ⟨q, hq, hs, t, ht, hx⟩
    obtain ⟨content, t', hr, hd, rfl⟩ := readText?_eq_some.1 ht
    obtain ⟨l, hl, hc⟩ := hx
    exact ⟨l, ⟨q, hq, hs, content, t', hr, hd, hl⟩, hc⟩
  · rintro ⟨l, ⟨q, hq, hs, content, t, hr, hd, hl⟩, hc⟩
    exact ⟨q, hq, hs, _, readText?_eq_some.2 ⟨content, t, hr, hd, rfl⟩,
      l, hl, hc⟩

theorem mem_dependencies (h : (k.scanFiles w files).result = .ok scan) :
    n ∈ (DependencyLists.ofClassifications scan.found).dependencies ↔
      n ∈ k.dependencies ∧ Imported k.filter w files n :=
  (mem_sortDistinct.trans mem_names).trans
    (mem_found_iff (fun _ => classifyLiteral_dependencies) h)

theorem mem_devDependencies (h : (k.scanFiles w files).result = .ok scan) :
    n ∈ (DependencyLists.ofClassifications scan.found).devDependencies ↔
      (n ∈ k.devDependencies ∧ n ∉ k.dependencies) ∧ Imported k.filter w files n :=
  (mem_sortDistinct.trans mem_names).trans
    (mem_found_iff (fun _ => classifyLiteral_devDependencies) h)

/-! ## Two runs -/

/-- A result tracks another one: it is there if the other is, and otherwise it is the same fault,
unless that one is excused. -/
def Tracks {α β : Type} (excused : Fault → Prop) (x : Except Fault α) (y : Except Fault β) : Prop :=
  match x with
  | .ok _ => ∃ b, y = .ok b
  | .error e => y = .error e ∨ excused e

section

variable {α β γ δ : Type} {excused more : Fault → Prop} {x : Except Fault α} {y : Except Fault β}

theorem Tracks.bind {g : α → Except Fault γ} {g' : β → Except Fault δ} (h : Tracks excused x y)
    (hg : ∀ a b, Tracks excused (g a) (g' b)) : Tracks excused (x >>= g) (y >>= g') := by
  rcases x with e | a
  · rcases h with rfl | he
    · exact Or.inl rfl
    · exact Or.inr he
  · obtain ⟨b, rfl⟩ := h
    exact hg a b

theorem Tracks.map {g : α → γ} {g' : β → δ} (h : Tracks excused x y) :
    Tracks excused (x.map g) (y.map g') := by
  rcases x with e | a
  · rcases h with rfl | he
    · exact Or.inl rfl
    · exact Or.inr he
  · obtain ⟨b, rfl⟩ := h
    exact ⟨g' b, rfl⟩

theorem Tracks.mono (h : Tracks excused x y) (hm : ∀ e, excused e → more e) :
    Tracks more x y := by
  rcases x with e | a
  · exact Or.imp_right (hm e) h
  · exact h

theorem Tracks.mapM {g : γ → Except Fault α} {g' : γ → Except Fault β} {xs : List γ}
    (h : ∀ x ∈ xs, Tracks excused (g x) (g' x)) : Tracks excused (xs.mapM g) (xs.mapM g') := by
  induction xs with
  | nil => exact ⟨[], rfl⟩
  | cons x xs ih =>
    rw [List.mapM_cons, List.mapM_cons]
    refine (h x List.mem_cons_self).bind fun a b => ?_
    exact (ih fun y hy => h y (List.mem_cons_of_mem x hy)).bind fun as bs => ⟨_, rfl⟩

end

/-- The fault is that of a scanned literal of the package. -/
def Blames (k : Classifier) (p : Text) (w : Workspace) (files : List Text) (e : Fault) : Prop :=
  ∃ l, Scanned k.filter w files l ∧ packageName (nfkc l) = p ∧ k.classifyLiteral l = .error e

theorem Blames.mono {files' : List Text} {e : Fault} (hsub : files ⊆ files')
    (h : k.Blames p w files e) : k.Blames p w files' e := by
  obtain ⟨l, ⟨q, hq, hl⟩, hp, he⟩ := h
  exact ⟨l, ⟨q, hsub hq, hl⟩, hp, he⟩

/-- Once its package is declared, a literal is classified. -/
theorem exists_classifyLiteral
    (hp : packageName (nfkc l) ∈ k.dependencies ∨ packageName (nfkc l) ∈ k.devDependencies) :
    ∃ r, k.classifyLiteral l = .ok r := by
  unfold Classifier.classifyLiteral classifyNormal
  split
  · exact ⟨_, rfl⟩
  split
  · exact ⟨_, rfl⟩
  dsimp only
  split
  · exact ⟨_, rfl⟩
  next hd =>
  split
  · exact ⟨_, rfl⟩
  next hv =>
  rcases hp with hp | hp
  · exact absurd (List.contains_iff_mem.2 hp) hd
  · exact absurd (List.contains_iff_mem.2 hp) hv

theorem Agrees.tracks_classifyLiteral (h : k.Agrees p k')
    (hp : p ∈ k'.dependencies ∨ p ∈ k'.devDependencies) (l : Text) :
    Tracks (fun e => packageName (nfkc l) = p ∧ k.classifyLiteral l = .error e)
      (k.classifyLiteral l) (k'.classifyLiteral l) := by
  by_cases hl : packageName (nfkc l) = p
  · rcases hc : k.classifyLiteral l with e | r
    · exact Or.inr ⟨hl, rfl⟩
    · exact exists_classifyLiteral (hl ▸ hp)
  · rw [h.classifyLiteral hl]
    rcases k.classifyLiteral l with e | r
    · exact Or.inl rfl
    · exact ⟨r, rfl⟩

theorem Agrees.tracks_scanFile (h : k.Agrees p k')
    (hp : p ∈ k'.dependencies ∨ p ∈ k'.devDependencies) (q : Text) :
    Tracks (k.Blames p w [q]) (k.scanFile w q).result (k'.scanFile w q).result := by
  unfold scanFile
  rw [h.filter]
  split
  · exact ⟨_, rfl⟩
  next hs =>
  split
  · exact Or.inl rfl
  split
  · next t ht =>
    refine Tracks.map (Tracks.bind (Tracks.mapM fun l hl => ?_) fun _ _ => ⟨_, rfl⟩)
    refine (h.tracks_classifyLiteral hp l).mono fun e he => ?_
    obtain ⟨content, t', hr, hd, rfl⟩ := readText?_eq_some.1 ht
    exact ⟨l, ⟨q, List.mem_singleton_self q, by simpa using hs, content, t', hr, hd, hl⟩, he⟩
  · exact ⟨_, rfl⟩

/-- With the package declared a run fails only where it failed before. -/
theorem Agrees.tracks (h : k.Agrees p k') (hp : p ∈ k'.dependencies ∨ p ∈ k'.devDependencies)
    (files : List Text) :
    Tracks (k.Blames p w files) (k.scanFiles w files).result (k'.scanFiles w files).result := by
  induction files with
  | nil => exact ⟨_, rfl⟩
  | cons q qs ih =>
    unfold scanFiles
    rw [Outcome.result_bind, Outcome.result_bind]
    have hfirst := (h.tracks_scanFile (w := w) hp q).mono fun e he =>
      he.mono (List.cons_subset_cons q (List.nil_subset qs))
    refine hfirst.bind fun first first' => ?_
    rw [Outcome.result_bind, Outcome.result_bind]
    exact (ih.mono fun e he => he.mono (List.subset_cons_self q qs)).bind fun _ _ => ⟨_, rfl⟩

/-- The runs of two classifiers over some files end with lists that are related, and with the same
skipped files; or with one fault, unless a literal of the package is to blame for it in the
first. -/
def RunsRelated (k k' : Classifier) (p : Text) (w : Workspace) (files : List Text)
    (R : DependencyLists → DependencyLists → Prop) : Prop :=
  (∃ d d' skipped, (k.classifyFiles w files).result = .ok (d, skipped) ∧
    (k'.classifyFiles w files).result = .ok (d', skipped) ∧ R d d') ∨
  ∃ e, (k.classifyFiles w files).result = .error e ∧
    ((k'.classifyFiles w files).result = .error e ∨ k.Blames p w files e)

theorem Agrees.runsRelated {R : DependencyLists → DependencyLists → Prop} (ha : k.Agrees p k')
    (hp : p ∈ k'.dependencies ∨ p ∈ k'.devDependencies)
    (h : ∀ scan scan', (k.scanFiles w files).result = .ok scan →
      (k'.scanFiles w files).result = .ok scan' →
        R (.ofClassifications scan.found) (.ofClassifications scan'.found)) :
    k.RunsRelated k' p w files R := by
  have htracks := ha.tracks (w := w) hp files
  rcases hs : (k.scanFiles w files).result with e | scan
  · rw [hs] at htracks
    refine .inr ⟨e, by rw [result_classifyFiles, hs]; rfl, htracks.imp_left fun he => ?_⟩
    rw [result_classifyFiles, he]
    rfl
  · rw [hs] at htracks
    obtain ⟨scan', hs'⟩ := htracks
    have hskip : scan'.skipped = scan.skipped := by
      rw [skipped_of_scanFiles hs, skipped_of_scanFiles hs']
      unfold skips
      rw [ha.filter]
    exact .inl ⟨_, _, scan.skipped, classifyFiles_eq_ok.2 ⟨scan, hs, rfl, rfl⟩,
      classifyFiles_eq_ok.2 ⟨scan', hs', rfl, hskip.symm⟩, h scan scan' hs hs'⟩

/-! ## One more package -/

/-- The second classifier is the first with one more package that the project depends on. -/
structure AddsDependency (k : Classifier) (p : Text) (k' : Classifier) : Prop where
  dependencies : ∀ q, q ∈ k'.dependencies ↔ q = p ∨ q ∈ k.dependencies
  devDependencies : ∀ q, q ∈ k'.devDependencies ↔ q ∈ k.devDependencies
  aliases : k'.aliases = k.aliases
  filter : k'.filter = k.filter

/-- The second classifier is the first with one more package for development. -/
structure AddsDevDependency (k : Classifier) (p : Text) (k' : Classifier) : Prop where
  dependencies : ∀ q, q ∈ k'.dependencies ↔ q ∈ k.dependencies
  devDependencies : ∀ q, q ∈ k'.devDependencies ↔ q = p ∨ q ∈ k.devDependencies
  aliases : k'.aliases = k.aliases
  filter : k'.filter = k.filter

theorem AddsDependency.agrees (h : k.AddsDependency p k') : k.Agrees p k' where
  dependencies q hq := by rw [h.dependencies, or_iff_right hq]
  devDependencies q _ := h.devDependencies q
  aliases := h.aliases
  filter := h.filter

theorem AddsDevDependency.agrees (h : k.AddsDevDependency p k') : k.Agrees p k' where
  dependencies q _ := h.dependencies q
  devDependencies q hq := by rw [h.devDependencies, or_iff_right hq]
  aliases := h.aliases
  filter := h.filter

/-- The references to registry items that are left are those of literals of other packages. -/
structure ReferencesLeft (k : Classifier) (p : Text) (w : Workspace) (files : List Text)
    (d d' : DependencyLists) : Prop where
  mem_iff : ∀ n, n ∈ d'.registryDependencies ↔
    ∃ l, Scanned k.filter w files l ∧ packageName (nfkc l) ≠ p ∧
      k.classifyLiteral l = .ok (some ⟨.registryDependencies, n⟩)
  subset : ∀ n ∈ d'.registryDependencies, n ∈ d.registryDependencies

/-- The lists after one more package that the project depends on: it is among the dependencies if it
is imported, it is gone from those for development, and its literals refer to no item. -/
structure GainsDependency (k : Classifier) (p : Text) (w : Workspace) (files : List Text)
    (d d' : DependencyLists) : Prop where
  dependencies : ∀ n, n ∈ d'.dependencies ↔
    n ∈ d.dependencies ∨ n = p ∧ Imported k.filter w files p
  gained : p ∈ d'.dependencies ∧ p ∉ d.dependencies ↔
    p ∉ k.dependencies ∧ Imported k.filter w files p
  devDependencies : ∀ n, n ∈ d'.devDependencies ↔ n ∈ d.devDependencies ∧ n ≠ p
  references : k.ReferencesLeft p w files d d'

/-- The lists after one more package for development: it is among those if it is imported and the
project does not depend on it anyway, and its literals refer to no item. -/
structure GainsDevDependency (k : Classifier) (p : Text) (w : Workspace) (files : List Text)
    (d d' : DependencyLists) : Prop where
  dependencies : d'.dependencies = d.dependencies
  devDependencies : ∀ n, n ∈ d'.devDependencies ↔
    n ∈ d.devDependencies ∨ n = p ∧ p ∉ k.dependencies ∧ Imported k.filter w files p
  references : k.ReferencesLeft p w files d d'

theorem Agrees.referencesLeft {scan' : Scan} (h : k.Agrees p k')
    (hp : p ∈ k'.dependencies ∨ p ∈ k'.devDependencies)
    (hs : (k.scanFiles w files).result = .ok scan)
    (hs' : (k'.scanFiles w files).result = .ok scan') :
    k.ReferencesLeft p w files (.ofClassifications scan.found)
      (.ofClassifications scan'.found) := by
  have hleft (n : Text) : n ∈ (DependencyLists.ofClassifications scan'.found).registryDependencies ↔
      ∃ l, Scanned k.filter w files l ∧ packageName (nfkc l) ≠ p ∧
        k.classifyLiteral l = .ok (some ⟨.registryDependencies, n⟩) := by
    have hmem := mem_lists (n := n) (b := .registryDependencies) hs'
    simp only [h.filter, h.registry_iff hp] at hmem
    exact hmem
  refine ⟨hleft, fun n hn => ?_⟩
  obtain ⟨l, hl, -, hc⟩ := (hleft n).1 hn
  exact (mem_lists (b := .registryDependencies) hs).2 ⟨l, hl, hc⟩

theorem AddsDependency.gains {scan' : Scan} (h : k.AddsDependency p k')
    (hs : (k.scanFiles w files).result = .ok scan)
    (hs' : (k'.scanFiles w files).result = .ok scan') :
    k.GainsDependency p w files (.ofClassifications scan.found)
      (.ofClassifications scan'.found) where
  dependencies n := by
    rw [mem_dependencies hs, mem_dependencies hs', h.dependencies, h.filter]
    grind
  gained := by
    rw [mem_dependencies hs, mem_dependencies hs', h.dependencies, h.filter]
    grind
  devDependencies n := by
    rw [mem_devDependencies hs, mem_devDependencies hs', h.dependencies, h.devDependencies,
      h.filter]
    grind
  references := h.agrees.referencesLeft (.inl ((h.dependencies p).2 (.inl rfl))) hs hs'

theorem AddsDevDependency.gains {scan' : Scan} (h : k.AddsDevDependency p k')
    (hs : (k.scanFiles w files).result = .ok scan)
    (hs' : (k'.scanFiles w files).result = .ok scan') :
    k.GainsDevDependency p w files (.ofClassifications scan.found)
      (.ofClassifications scan'.found) where
  dependencies := by
    refine sortDistinct_congr fun n => ?_
    have hmem : n ∈ (DependencyLists.ofClassifications scan'.found).dependencies ↔
        n ∈ (DependencyLists.ofClassifications scan.found).dependencies := by
      rw [mem_dependencies hs, mem_dependencies hs', h.dependencies, h.filter]
    exact mem_sortDistinct.symm.trans (hmem.trans mem_sortDistinct)
  devDependencies n := by
    rw [mem_devDependencies hs, mem_devDependencies hs', h.dependencies, h.devDependencies,
      h.filter]
    grind
  references := h.agrees.referencesLeft (.inr ((h.devDependencies p).2 (.inl rfl))) hs hs'

/-- One more package that a project declares moves its own imports and no others, over any files. -/
theorem one_more_package (k k' : Classifier) (p : Text) :
    (k.AddsDependency p k' →
      (∀ l, packageName (nfkc l) ≠ p → k'.classifyLiteral l = k.classifyLiteral l) ∧
      ∀ w files, k.RunsRelated k' p w files (k.GainsDependency p w files)) ∧
    (k.AddsDevDependency p k' →
      (∀ l, packageName (nfkc l) ≠ p → k'.classifyLiteral l = k.classifyLiteral l) ∧
      ∀ w files, k.RunsRelated k' p w files (k.GainsDevDependency p w files)) := by
  refine ⟨fun h => ⟨fun l => h.agrees.classifyLiteral, fun w files => ?_⟩,
    fun h => ⟨fun l => h.agrees.classifyLiteral, fun w files => ?_⟩⟩
  · exact h.agrees.runsRelated (.inl ((h.dependencies p).2 (.inl rfl))) fun _ _ => h.gains
  · exact h.agrees.runsRelated (.inr ((h.devDependencies p).2 (.inl rfl))) fun _ _ => h.gains

/-- A source that names a local component twice, once by way of the package `x`. -/
def twiceNamed : Workspace where
  tree := {
    entries := [(["a.ts".toList], .file (Text.encodeUtf8
      "import '@/components/ui/card'; import 'x/components/ui/card'; import 'x/y'".toList))]
    named := by decide
    closed := by decide
    distinct := by decide }
  cwd := []

/-- The classifier of a project that depends on `vue` and on `x`. -/
def vueAndXClassifier : Classifier := ⟨["x".toList, "vue".toList], [], [], .standard⟩

/-- The classifier of a project that depends on `vue` and needs `x` for development. -/
def vueWithXClassifier : Classifier := ⟨["vue".toList], ["x".toList], [], .standard⟩

theorem one_more_package_twice_named :
    (vueClassifier.AddsDependency "x".toList vueAndXClassifier ∧
      (vueClassifier.classifyFiles twiceNamed ["a.ts".toList]).result =
        .ok (⟨[], [], ["card".toList, "x/y".toList]⟩, []) ∧
      (vueAndXClassifier.classifyFiles twiceNamed ["a.ts".toList]).result =
        .ok (⟨["x".toList], [], ["card".toList]⟩, []) ∧
      vueClassifier.RunsRelated vueAndXClassifier "x".toList twiceNamed ["a.ts".toList]
        (vueClassifier.GainsDependency "x".toList twiceNamed ["a.ts".toList])) ∧
    vueClassifier.AddsDevDependency "x".toList vueWithXClassifier ∧
      vueWithXClassifier.classifyLiteral "vue".toList =
        .ok (some ⟨.dependencies, "vue".toList⟩) := by
  have hadds : vueClassifier.AddsDependency "x".toList vueAndXClassifier :=
    ⟨by simp [vueClassifier, vueAndXClassifier], fun _ => Iff.rfl, rfl, rfl⟩
  have hdev : vueClassifier.AddsDevDependency "x".toList vueWithXClassifier :=
    ⟨fun _ => Iff.rfl, by simp [vueClassifier, vueWithXClassifier], rfl, rfl⟩
  refine ⟨⟨hadds, by decide +kernel, by decide +kernel, ?_⟩, hdev, ?_⟩
  · exact ((one_more_package _ _ _).1 hadds).2 _ _
  · have hvue : packageName (nfkc "vue".toList) ≠ "x".toList := by decide +kernel
    rw [((one_more_package _ _ _).2 hdev).1 _ hvue]
    decide +kernel

end Classifier

end ComponentManifest
