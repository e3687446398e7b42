import ComponentManifest.Proofs.ItemQuestions

/-!
# Batches of files

A classifier works on one batch of files after another. Of a batch it gives the union of what the
sources in it contribute that can be read, and of all batches it keeps the files that it skipped.
No batch has a part in the lists of another. A file that cannot be opened is skipped, but a path
that the operating system cannot be given ends its batch, and so does an alias whose parameters
cannot be written.

1. `skips_iff`: the reasons for which a file is skipped.
2. `gathered`, the lists of some files, depend on the readable sources among them.
3. `classifyFiles_eq` and `classifyBatches_eq`: one batch, and any number of them.
4. `classifyBatches_unites`, and batches that are not classified to their end.
-/

namespace ComponentManifest

open Text (decodeUtf8? unifyNewlines)

variable {w : Workspace} {k : Classifier} {p n : Text} {files xs ys : List Text} {b : Bucket}
  {scan : Scan} {y : Classification}

/-! ## Skipped files -/

namespace Tree

variable {t : Tree} {followLast : Bool} {links : Nat} {dir : Location} {ss : List Text}

theorem advance_ne_exists : t.advance followLast dir ss ≠ .reach (.blocked .exists) := by
  induction ss generalizing dir with
  | nil => exact nofun
  | cons s rest ih =>
    unfold advance
    split
    · exact ih
    split
    · exact ih
    split
    · split <;> exact nofun
    · exact ih
    · split <;> exact nofun
    · split <;> exact nofun

theorem walk_ne_exists : t.walk followLast links dir ss ≠ .blocked .exists := by
  induction links generalizing dir ss with
  | zero =>
    unfold walk
    cases h : t.advance followLast dir ss with
    | reach r =>
      rintro rfl
      exact advance_ne_exists h
    | link d target rest =>
      intro h
      cases h
  | succ links ih =>
    unfold walk
    cases h : t.advance followLast dir ss with
    | reach r =>
      rintro rfl
      exact advance_ne_exists h
    | link d target rest => exact ih

end Tree

theorem Workspace.read_ne_exists : w.read p ≠ .error .exists := by
  have hreach : w.reach true p ≠ .blocked .exists := by
    unfold reach
    split
    · exact nofun
    · exact Tree.walk_ne_exists
  intro h
  unfold read at h
  split at h
  · cases h
  · cases h
  · cases h
  · cases h
  · next hblocked =>
    cases h
    exact hreach hblocked

namespace Classifier

/-- Is the file a source that cannot be read, or is no UTF-8? -/
def skips (k : Classifier) (w : Workspace) (p : Text) : Bool :=
  k.filter.isSource p && (w.readText? p).isNone

/-- The path leads to no file that can be opened: there is nothing, there is a directory, it goes
below something that is no directory, or its links lead in a circle. -/
def Unopened (w : Workspace) (p : Text) : Prop :=
  w.read p = .error .notFound ∨ w.read p = .error .isDirectory ∨
    w.read p = .error .notDirectory ∨ w.read p = .error .linkLoop

theorem unopened_iff : Unopened w p ↔ ∃ why, w.read p = .error why := by
  constructor
  · rintro (h | h | h | h) <;> exact ⟨_, h⟩
  · rintro ⟨why, h⟩
    have hne : why ≠ .exists := by
      rintro rfl
      exact Workspace.read_ne_exists h
    unfold Unopened
    rw [h]
    cases why <;> simp_all

theorem skips_iff :
    k.skips w p = true ↔ k.filter.isSource p = true ∧
      (Unopened w p ∨ ∃ content, w.read p = .ok content ∧ decodeUtf8? content = none) := by
  unfold skips Workspace.readText?
  rw [Bool.and_eq_true, unopened_iff]
  cases w.read p <;> simp

theorem skipped_of_scanFile (h : (k.scanFile w p).result = .ok scan) :
    scan.skipped = if k.skips w p then [p] else [] := by
  unfold skips
  unfold scanFile at h
  split at h
  · next hno =>
    cases h
    simp_all
  split at h
  · cases h
  split at h
  · next ht =>
    obtain ⟨cs, -, rfl⟩ := except_map_eq_ok.1 h
    simp [ht]
  · next hsource _ ht =>
    cases h
    simp_all

theorem skipped_of_scanFiles (h : (k.scanFiles w files).result = .ok scan) :
    scan.skipped = files.filter (k.skips w) := by
  induction files generalizing scan with
  | nil => cases h; rfl
  | cons q qs ih =>
    unfold scanFiles at h
    obtain ⟨first, hfirst, h⟩ := Outcome.bind_eq_ok.1 h
    obtain ⟨rest, hrest, h⟩ := Outcome.bind_eq_ok.1 h
    obtain rfl := Outcome.result_pure .. |>.1 h
    rw [List.filter_cons, ← ih hrest]
    show first.skipped ++ rest.skipped = _
    rw [skipped_of_scanFile hfirst]
    cases k.skips w q <;> rfl

/-! ## The lists of some files -/

/-- The text of a source that can be read. -/
def sourceText? (k : Classifier) (w : Workspace) (p : Text) : Option Text :=
  if k.filter.isSource p then w.readText? p else none

end Classifier

/-- The list of a bucket. -/
def DependencyLists.names (d : DependencyLists) : Bucket → List Text
  | .dependencies => d.dependencies
  | .devDependencies => d.devDependencies
  | .registryDependencies => d.registryDependencies

theorem DependencyLists.names_ofClassifications (cs : List Classification) (b : Bucket) :
    (ofClassifications cs).names b =
      sortDistinct ((cs.filter fun c => c.bucket == b).map (·.name)) := by
  cases b <;> rfl

namespace Classifier

/-- What the readable sources among some files import. -/
def imported (k : Classifier) (w : Workspace) (files : List Text) : List Classification :=
  (files.filterMap (k.sourceText? w)).flatMap fun t => (k.classifySource t).toOption.getD []

theorem mem_imported : y ∈ k.imported w files ↔ ∃ p ∈ files, k.filter.isSource p = true ∧
    ∃ t cs, w.readText? p = some t ∧ k.classifySource t = .ok cs ∧ y ∈ cs := by
  have hgiven : ∀ t, y ∈ (k.classifySource t).toOption.getD [] ↔
      ∃ cs, k.classifySource t = .ok cs ∧ y ∈ cs := by
    intro t
    cases k.classifySource t <;> simp [Except.toOption]
  simp only [imported, List.mem_flatMap, List.mem_filterMap, sourceText?, hgiven]
  constructor
  · rintro ⟨t, ⟨p, hp, ht⟩, cs, hcs, hy⟩
    split at ht
    · next hsource => exact ⟨p, hp, hsource, t, cs, ht, hcs, hy⟩
    · cases ht
  · rintro ⟨p, hp, hsource, t, cs, ht, hcs, hy⟩
    exact ⟨t, ⟨p, hp, (if_pos hsource).trans ht⟩, cs, hcs, hy⟩

/-- The lists of what the readable sources among some files import. -/
def gathered (k : Classifier) (w : Workspace) (files : List Text) : DependencyLists :=
  .ofClassifications (k.imported w files)

/-- One of the files is a readable source in which the name is found for the bucket. -/
def Contributes (k : Classifier) (w : Workspace) (files : List Text) (b : Bucket) (n : Text) :
    Prop :=
  ∃ p ∈ files, k.filter.isSource p = true ∧ ∃ content t, w.read p = .ok content ∧
    decodeUtf8? content = some t ∧
      ∃ cs, k.classifySource (unifyNewlines t) = .ok cs ∧ ⟨b, n⟩ ∈ cs

theorem mem_gathered : n ∈ (k.gathered w files).names b ↔ k.Contributes w files b n := by
  unfold gathered
  rw [DependencyLists.names_ofClassifications, mem_sortDistinct, mem_names, mem_imported]
  refine exists_congr fun p => and_congr_right fun _ => and_congr_right fun _ => ?_
  constructor
  · rintro ⟨t, cs, ht, hx⟩
    obtain ⟨content, t', hread, hdecode, rfl⟩ := readText?_eq_some.1 ht
    exact ⟨content, t', hread, hdecode, cs, hx⟩
  · rintro ⟨content, t, hread, hdecode, cs, hx⟩
    exact ⟨_, cs, readText?_eq_some.2 ⟨content, t, hread, hdecode, rfl⟩, hx⟩

theorem ascending_gathered : Ascending ((k.gathered w files).names b) := by
  unfold gathered
  rw [DependencyLists.names_ofClassifications]
  exact ascending_sortDistinct _

/-- Files that hold the same readable sources have the same lists, whatever their order, their
repetitions and the other files among them. -/
theorem gathered_congr (h : ∀ p, (k.sourceText? w p).isSome = true → (p ∈ xs ↔ p ∈ ys)) :
    k.gathered w xs = k.gathered w ys := by
  refine DependencyLists.ofClassifications_congr fun y => ?_
  rw [mem_imported, mem_imported]
  refine exists_congr fun p => and_congr_left fun hy => h p ?_
  obtain ⟨hsource, t, -, ht, -⟩ := hy
  unfold sourceText?
  rw [if_pos hsource, ht]
  rfl

theorem mem_gathered_append :
    n ∈ (k.gathered w (xs ++ ys)).names b ↔
      n ∈ (k.gathered w xs).names b ∨ n ∈ (k.gathered w ys).names b := by
  simp only [mem_gathered, Contributes, List.mem_append, or_and_right, exists_or]

/-! ## Batches -/

theorem classifyFiles_eq (h : ∀ p ∈ files, k.Scannable w p) :
    (k.classifyFiles w files).result = .ok (k.gathered w files, files.filter (k.skips w)) := by
  obtain ⟨scan, hscan⟩ := exists_scanFiles_iff.2 h
  refine classifyFiles_eq_ok.2 ⟨scan, hscan, ?_, (skipped_of_scanFiles hscan).symm⟩
  refine DependencyLists.ofClassifications_congr fun y => ?_
  rw [mem_imported, mem_found hscan]
  refine exists_congr fun p => and_congr_right fun hp => and_congr_right fun hsource => ?_
  refine exists_congr fun t => ?_
  constructor
  · rintro ⟨cs, ht, hcs, hy⟩
    exact ⟨ht, (mem_classifySource hcs).1 hy⟩
  · rintro ⟨ht, hy⟩
    obtain ⟨cs, hcs⟩ := (h p hp hsource).2 t ht
    exact ⟨cs, ht, hcs, (mem_classifySource hcs).2 hy⟩

theorem scannable_of_classifyFiles {r : DependencyLists × List Text}
    (h : (k.classifyFiles w files).result = .ok r) : ∀ p ∈ files, k.Scannable w p := by
  obtain ⟨scan, hscan, -⟩ := classifyFiles_eq_ok.1 h
  exact exists_scanFiles_iff.1 ⟨scan, hscan⟩

/-- The lists of each batch, with all files that were skipped up to it. -/
theorem classifyBatches_eq {batches : List (List Text)} (skipped : List Text)
    (h : ∀ batch ∈ batches, ∀ p ∈ batch, k.Scannable w p) :
    ∃ answers, (k.classifyBatches w skipped batches).result = .ok answers ∧
      ∀ i, answers[i]? = batches[i]?.map fun batch =>
        (k.gathered w batch, skipped ++ (batches.take (i + 1)).flatten.filter (k.skips w)) := by
  induction batches generalizing skipped with
  | nil => exact ⟨[], rfl, fun i => rfl⟩
  | cons batch batches ih =>
    have hbatch := classifyFiles_eq (k := k) (w := w) (h batch List.mem_cons_self)
    obtain ⟨rest, hrest, hall⟩ := ih (skipped ++ batch.filter (k.skips w))
      fun b hb => h b (List.mem_cons_of_mem _ hb)
    refine ⟨_, Outcome.bind_eq_ok.2 ⟨_, hbatch, Outcome.bind_eq_ok.2 ⟨rest, hrest, rfl⟩⟩, ?_⟩
    intro i
    cases i with
    | zero => simp
    | succ i =>
      rw [List.getElem?_cons_succ, hall i]
      simp [List.append_assoc]

theorem scannable_of_classifyBatches {batches : List (List Text)} {skipped : List Text}
    {answers : List (DependencyLists × List Text)}
    (h : (k.classifyBatches w skipped batches).result = .ok answers) :
    ∀ batch ∈ batches, ∀ p ∈ batch, k.Scannable w p := by
  induction batches generalizing skipped answers with
  | nil => exact fun _ hb => absurd hb List.not_mem_nil
  | cons batch batches ih =>
    unfold classifyBatches at h
    obtain ⟨first, hfirst, h⟩ := Outcome.bind_eq_ok.1 h
    obtain ⟨rest, hrest, -⟩ := Outcome.bind_eq_ok.1 h
    exact List.forall_mem_cons.2 ⟨scannable_of_classifyFiles hfirst, ih hrest⟩

/-- Batches are classified to their end exactly if all their sources can be scanned. The lists of a
batch then unite what its readable sources contribute. -/
theorem classifyBatches_unites (k : Classifier) (w : Workspace) (skipped : List Text)
    (batches : List (List Text)) :
    ((∃ answers, (k.classifyBatches w skipped batches).result = .ok answers) ↔
      ∀ batch ∈ batches, ∀ p ∈ batch, k.Scannable w p) ∧
    (∀ p, Path.isUsable p = true → (∀ a ∈ k.aliases, a.Sendable) → k.Scannable w p) ∧
    (∀ answers, (k.classifyBatches w skipped batches).result = .ok answers →
      ∀ i, answers[i]? = batches[i]?.map fun batch =>
        (k.gathered w batch, skipped ++ (batches.take (i + 1)).flatten.filter (k.skips w))) ∧
    (∀ files b, Ascending ((k.gathered w files).names b) ∧
      ∀ n, n ∈ (k.gathered w files).names b ↔ k.Contributes w files b n) ∧
    (∀ xs ys, (∀ p, (k.sourceText? w p).isSome = true → (p ∈ xs ↔ p ∈ ys)) →
      k.gathered w xs = k.gathered w ys) ∧
    (∀ xs ys b n, n ∈ (k.gathered w (xs ++ ys)).names b ↔
      n ∈ (k.gathered w xs).names b ∨ n ∈ (k.gathered w ys).names b) ∧
    (∀ p, k.skips w p = true ↔ k.filter.isSource p = true ∧
      (Unopened w p ∨ ∃ content, w.read p = .ok content ∧ decodeUtf8? content = none)) := by
  refine ⟨⟨fun ⟨_, h⟩ => scannable_of_classifyBatches h, fun h => ?_⟩,
    fun p hu ha _ => ⟨hu, fun t _ => exists_classifySource ha t⟩, fun answers h => ?_,
    fun _ _ => ⟨ascending_gathered, fun _ => mem_gathered⟩, fun _ _ => gathered_congr,
    fun _ _ _ _ => mem_gathered_append, fun _ => skips_iff⟩
  · obtain ⟨answers, hok, -⟩ := classifyBatches_eq skipped h
    exact ⟨answers, hok⟩
  · obtain ⟨answers', hok, hall⟩ := classifyBatches_eq skipped (scannable_of_classifyBatches h)
    obtain rfl := Except.ok.inj (h.symm.trans hok)
    exact hall

/-- A directory with a source, a source that is no UTF-8 and a link to itself. -/
def mixedFiles : Workspace where
  tree := {
    entries := [(["a.ts".toList], .file (Text.encodeUtf8 "import 'vue'".toList)),
      (["b.ts".toList], .file [0xE9]), (["c.ts".toList], .link "c.ts".toList)]
    named := by decide
    closed := by decide
    distinct := by decide }
  cwd := []

/-- The classifier of a project that depends on `vue`. -/
def vueClassifier : Classifier := ⟨["vue".toList], [], [], .standard⟩

/-- Two batches of its files. -/
def mixedBatches : List (List Text) :=
  [["b.ts".toList, "a.ts".toList], ["c.ts".toList, "a.ts".toList, "b.ts".toList]]

theorem classifyBatches_unites_bad_files :
    (∀ batch ∈ mixedBatches, ∀ p ∈ batch, vueClassifier.Scannable mixedFiles p) ∧
      ∃ answers, (vueClassifier.classifyBatches mixedFiles [] mixedBatches).result = .ok answers ∧
        answers.map (·.1.dependencies) = [["vue".toList], ["vue".toList]] ∧
        answers.map (·.2) = [["b.ts".toList], ["b.ts".toList, "c.ts".toList, "b.ts".toList]] := by
  have husable : ∀ batch ∈ mixedBatches, ∀ p ∈ batch, Path.isUsable p = true := by decide
  obtain ⟨hiff, hscannable, -⟩ := classifyBatches_unites vueClassifier mixedFiles [] mixedBatches
  have hall : ∀ batch ∈ mixedBatches, ∀ p ∈ batch, vueClassifier.Scannable mixedFiles p :=
    fun batch hb p hp =>
      hscannable p (husable batch hb p hp) fun a ha => absurd ha List.not_mem_nil
  obtain ⟨answers, hok⟩ := hiff.2 hall
  have hrun : (vueClassifier.classifyBatches mixedFiles [] mixedBatches).result.toOption.map
      (fun as => (as.map (·.1.dependencies), as.map (·.2))) =
        some ([["vue".toList], ["vue".toList]],
          [["b.ts".toList], ["b.ts".toList, "c.ts".toList, "b.ts".toList]]) := by decide +kernel
  rw [hok] at hrun
  obtain ⟨hdependencies, hskipped⟩ := Prod.mk.inj (Option.some.inj hrun)
  exact ⟨hall, answers, hok, hdependencies, hskipped⟩

/-- A path that has no encoding. -/
def halfPath : Text := Text.half 0xD800 :: ".ts".toList

/-- A source that imports what an alias stands for. -/
def aliasedFiles : Workspace where
  tree := {
    entries := [(["a.ts".toList], .file (Text.encodeUtf8 "import '@a/button'".toList))]
    named := by decide
    closed := by decide
    distinct := by decide }
  cwd := []

/-- A classifier with that alias, a parameter of which has no encoding. -/
def halvedClassifier : Classifier := ⟨[], [], [AliasTable.halved], .standard⟩

/-- Neither path has a null character, but the first one ends its batch, and so does the alias. -/
theorem halves_end_a_batch :
    '\x00' ∉ halfPath ∧
      (vueClassifier.classifyBatches mixedFiles [] [[halfPath, "a.ts".toList]]).result =
        .error (.unencodable 0 [Text.half 0xD800]) ∧
      (halvedClassifier.classifyBatches aliasedFiles [] [["a.ts".toList]]).result =
        .error (.unencodable 0 [Text.half 0xD800]) := by
  have hpath : (vueClassifier.classifyBatches mixedFiles []
      [[halfPath, "a.ts".toList]]).result.map (fun _ => ()) =
        .error (.unencodable 0 [Text.half 0xD800]) := by decide +kernel
  have halias : (halvedClassifier.classifyBatches aliasedFiles []
      [["a.ts".toList]]).result.map (fun _ => ()) =
        .error (.unencodable 0 [Text.half 0xD800]) := by decide +kernel
  exact ⟨by decide, except_map_eq_error.1 hpath, except_map_eq_error.1 halias⟩

end Classifier

end ComponentManifest
