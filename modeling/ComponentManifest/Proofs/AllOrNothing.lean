import ComponentManifest.CommandLine.Run
import ComponentManifest.Proofs.Configurations
import ComponentManifest.Proofs.TreeChanges

/-!
# A run changes all that it is asked to, or nothing

`run_all_or_nothing` says what a run of the command leaves behind. When the exit code is not 0 the
tree is as it was before. There is one exception: a manifest that holds half of a surrogate pair has
no encoding, which shows only after its file was opened and so emptied.

1. One file, and the manifest in its directory.
2. `generate`, whose output directory is a rooted path.
3. `init`.
4. The command, and a torn name that empties a manifest.
-/

namespace ComponentManifest

open ComponentManifest.Path (Plain rooted)
open Text (ofString)

variable {w : Workspace} {t : Tree} {b : Bool} {ss : List Text} {d l : Location} {x p dir : Text}
  {content : Bytes} {m : Manifest} {c : Config}

/-! ## Writing the manifest -/

theorem writeOne_of_failure {f : ChangeFailure} (h : w.writeFile p content = ⟨t, some f⟩) :
    writeOne w p content = (t, .error f.fault) := by
  unfold writeOne
  rw [h]

theorem writeOne_of_tree (h : w.writeFile p content = ⟨t, none⟩) :
    writeOne w p content = (t, .ok p) := by
  unfold writeOne
  rw [h]

theorem isUsable_concat (hs : Plain (ss ++ [x])) (hx : Path.isUsable x = true)
    (hu : Path.isUsable (rooted b ss) = true) : Path.isUsable (rooted b (ss ++ [x])) = true := by
  rw [Path.isUsable_rooted hs]
  intro s hm
  rcases List.mem_append.1 hm with hm | hm
  · exact (Path.isUsable_rooted hs.left).1 hu s hm
  · rwa [List.mem_singleton.1 hm]

/-- In a directory that was just made a file is written; in one that was there before, a file is
written or nothing changes. -/
theorem writeOne_cases (hc : w.tree.CleanLinks) (h : w.MadeDirs b ss t d)
    (hs : Plain (ss ++ [x])) (hx : Path.isUsable x = true) (content : Bytes) :
    (∃ e, writeOne (w.withTree t) (rooted b (ss ++ [x])) content = (w.tree, .error e)) ∨
    ∃ t' l, writeOne (w.withTree t) (rooted b (ss ++ [x])) content =
        (t', .ok (rooted b (ss ++ [x]))) ∧
      w.Written (rooted b ss) (rooted b (ss ++ [x])) content t' d l := by
  have hct : (w.withTree t).tree.CleanLinks := h.new.cleanLinks hc
  rcases Workspace.writeFile_cases (b := b) hct hs content with ⟨f, hf⟩ | ⟨t', l, ht, hw⟩
  · left
    have ht : t = w.tree := by
      rcases h.fresh with ht | ⟨hu, hempty⟩
      · exact ht
      · obtain ⟨k, hk, hl⟩ := h.leads
        have hok : ((w.withTree t).writeFile (rooted b (ss ++ [x])) content).failure = none :=
          Workspace.writeFile_below hl hk hs (hempty x) (isUsable_concat hs hx hu)
        rw [hf] at hok
        cases hok
    subst ht
    exact ⟨f.fault, writeOne_of_failure hf⟩
  · exact Or.inr ⟨t', l, writeOne_of_tree ht, Workspace.written_of_wroteFile h hw hs⟩

/-- What writing a manifest into a directory comes to. -/
inductive Manifest.Writes (m : Manifest) (w : Workspace) (dir : Text) :
    Tree → Except Fault Text → Prop
  /-- Nothing was changed. -/
  | refused (e : Fault) : Writes m w dir w.tree (.error e)
  /-- The operating system cannot be given the directory's path, only the beginning of it. -/
  | unusable {t : Tree} {d : Location} (e : Fault) :
      Path.isUsable dir = false → w.tree.NewDirs t d → Writes m w dir t (.error e)
  /-- The text has no encoding, and the file is empty. -/
  | torn {t : Tree} {d l : Location} {n : Nat} {halves : Text} :
      Text.firstHalves? m.text = some (n, halves) →
        w.Written dir (Path.join dir manifestFile) [] t d l →
          Writes m w dir t (.error (.unencodable n halves))
  /-- The manifest is in its file. -/
  | done {t : Tree} {d l : Location} :
      w.Written dir (Path.join dir manifestFile) m.content t d l →
        Writes m w dir t (.ok (Path.join dir manifestFile))

/-- The manifest's own content is written, or nothing but the file was opened. -/
theorem Manifest.writes_writeFile {v : Workspace} (hp : p = Path.join dir manifestFile)
    (h : ∀ content, (∃ e, writeOne v p content = (w.tree, .error e)) ∨
      ∃ t l, writeOne v p content = (t, .ok p) ∧ w.Written dir p content t d l) :
    m.Writes w dir (m.writeFile v p).1 (m.writeFile v p).2.result := by
  subst hp
  unfold Manifest.writeFile
  split
  · rcases h m.content with ⟨e, he⟩ | ⟨t, l, ht, hw⟩
    · rw [he]
      exact .refused e
    · rw [ht]
      exact .done hw
  · next hh =>
    rcases h [] with ⟨e, he⟩ | ⟨t, l, ht, hw⟩
    · rw [he]
      exact .refused e
    · rw [ht]
      exact .torn hh hw

theorem Manifest.writes_write (m : Manifest) (hc : w.tree.CleanLinks) (hs : Plain ss) :
    m.Writes w (rooted b ss) (m.write w (rooted b ss)).1 (m.write w (rooted b ss)).2.result := by
  have hx : Plain [manifestFile] := Tree.plain_of_validName (by decide)
  have hj := Path.join_rooted_name (b := b) hs hx
  have hmade := Workspace.makesDirs_makeDirs (b := b) hc hs
  unfold Workspace.MakesDirs at hmade
  unfold Manifest.write
  dsimp only
  split
  · next f hf =>
    rw [hf] at hmade
    rcases f with ⟨why, q⟩ | q | _
    · rw [show (w.makeDirs (rooted b ss)).tree = w.tree from hmade]
      exact .refused _
    · obtain ⟨d, hd⟩ := hmade
      rcases Workspace.failsAt_makeDirs hf with hu | ⟨hdeep, -⟩
      · exact .unusable _ hu hd
      · cases hdeep
    · rw [show (w.makeDirs (rooted b ss)).tree = w.tree from hmade]
      exact .refused _
  · next hf =>
    rw [hf] at hmade
    obtain ⟨d, hd⟩ := hmade
    refine writes_writeFile (d := d) rfl fun content => ?_
    rw [hj]
    exact writeOne_cases hc hd (hs.append hx) (by decide) content

/-! ## Generating -/

namespace CommandLine

variable {v : Values}

theorem directories_of_resolved (h : (resolved w v).result = .ok c) :
    (∃ d, c.cwd = w.absolute d) ∧ ∃ d, c.output = w.absolute d := by
  have hgiven : ∀ d old : Text, (∃ d', old = w.absolute d') →
      ∃ d', (if d.isEmpty then old else w.absolute d) = w.absolute d' := by
    intro d old hold
    split
    · exact hold
    · exact ⟨d, rfl⟩
  unfold resolved at h
  simp only [Outcome.bind_eq_ok, Outcome.result_report, Outcome.result_pure, true_and,
    exists_const] at h
  obtain ⟨c', hc', rfl⟩ := h
  obtain ⟨base, path, json, hj⟩ := loadConfig_eq_ok hc'
  obtain ⟨-, hcwd, hout⟩ := Config.directories_of_ofJson hj
  constructor
  · rcases v.cwd with _ | d
    · exact hcwd
    · exact hgiven d _ hcwd
  · rcases v.output with _ | d
    · exact hout
    · exact hgiven d _ hout

theorem exists_rooted_of_built (h : (built w v).result = .ok (m, dir)) :
    ∃ b ss, Plain ss ∧ dir = rooted b ss := by
  obtain ⟨c, hc, h⟩ := Outcome.bind_eq_ok.1 h
  obtain ⟨m', -, h⟩ := Outcome.bind_eq_ok.1 h
  cases h
  exact Workspace.exists_rooted_of_absolute (directories_of_resolved hc).2

theorem generate_of_built (h : (built w v).result = .ok (m, dir)) :
    (generate w v).1 = (m.write w dir).1 ∧
      (generate w v).2.result = (m.write w dir).2.result.map fun _ => () := by
  unfold generate
  dsimp only
  rw [h]
  dsimp only
  split
  · next e he => exact ⟨rfl, by rw [he]; rfl⟩
  · next p hp => exact ⟨rfl, by rw [hp]; rfl⟩

theorem generate_of_not_built {e : Fault} (h : (built w v).result = .error e) :
    (generate w v).1 = w.tree ∧ (generate w v).2.result = .error e := by
  unfold generate
  dsimp only
  rw [h]
  exact ⟨rfl, rfl⟩

/-- Nothing is written before the manifest is built, and then only the manifest. -/
theorem generate_cases (hc : w.tree.CleanLinks) :
    (∃ e, (built w v).result = .error e ∧ (generate w v).1 = w.tree ∧
      (generate w v).2.result = .error e) ∨
    ∃ m dir, (built w v).result = .ok (m, dir) ∧
      ∃ r, m.Writes w dir (generate w v).1 r ∧ (generate w v).2.result = r.map fun _ => () := by
  rcases hb : (built w v).result with e | ⟨m, dir⟩
  · exact Or.inl ⟨e, rfl, generate_of_not_built hb⟩
  · obtain ⟨b, ss, hs, rfl⟩ := exists_rooted_of_built hb
    obtain ⟨ht, hr⟩ := generate_of_built hb
    rw [ht, hr]
    exact Or.inr ⟨m, _, rfl, _, m.writes_write hc hs, rfl⟩

/-! ## Starting a project -/

/-- The path of the configuration in the working directory. -/
def ownConfigPath (w : Workspace) : Text := Path.join w.cwdPath configFile

theorem ownConfigPath_eq (hd : w.tree.entry? w.cwd = some .dir) :
    Plain (w.cwd ++ [configFile]) ∧ ownConfigPath w = rooted false (w.cwd ++ [configFile]) ∧
      (starterFile w w.cwdPath configFile).1 = rooted false (w.cwd ++ [configFile]) := by
  have hcwd : Plain w.cwd := fun s hs =>
    Tree.plain_of_validName (Tree.validNames_of_eq_some hd s hs) s (List.mem_singleton_self s)
  have hx : Plain [configFile] := Tree.plain_of_validName (by decide)
  have hj := Path.join_rooted_name (b := false) hcwd hx
  refine ⟨hcwd.append hx, hj, ?_⟩
  show Path.join (w.absolute (rooted false w.cwd)) configFile = _
  rw [Workspace.absolute_rooted hcwd, hj]

/-- The tree has a new file where the path of the configuration leads, and is the same elsewhere. -/
structure Started (w : Workspace) (t : Tree) (l : Location) : Prop where
  missing : w.exists? (ownConfigPath w) = false
  free : w.tree.entry? l = none
  file : (w.withTree t).reach true (ownConfigPath w) =
    .entry l (.file (starterFile w w.cwdPath configFile).2)
  rest : ∀ l', l' ≠ l → t.entry? l' = w.tree.entry? l'

theorem initProject_cases (hd : w.tree.entry? w.cwd = some .dir) (hc : w.tree.CleanLinks) :
    ((initProject w).1 = w.tree ∧ (initProject w).2.result ≠ .ok true) ∨
      (initProject w).2.result = .ok true ∧ ∃ l, Started w (initProject w).1 l := by
  obtain ⟨hs, hp, hstarter⟩ := ownConfigPath_eq hd
  unfold initProject
  dsimp only
  split
  · exact Or.inl ⟨rfl, by simp⟩
  next hmissing =>
  replace hmissing : w.exists? (ownConfigPath w) = false := Bool.not_eq_true _ |>.mp hmissing
  unfold writeStarter
  dsimp only
  rw [hstarter]
  rcases Workspace.writeFile_cases (b := false) hc hs (starterFile w w.cwdPath configFile).2 with
    ⟨f, hf⟩ | ⟨t, l, ht, hw⟩
  · rw [writeOne_of_failure hf]
    exact Or.inl ⟨rfl, by simp [Outcome.fail]⟩
  · rw [writeOne_of_tree ht]
    obtain ⟨k, hk, hl⟩ := hw.leads
    refine Or.inr ⟨rfl, l, hmissing, ?_, ?_, hw.rest⟩
    · rcases hw.old with hn | ⟨k', hk', old, hold⟩
      · exact hn
      · rw [hp] at hmissing
        unfold Workspace.exists? Workspace.entry? at hmissing
        rw [Workspace.reach_rooted hs, hold.walk_eq hk'] at hmissing
        cases hmissing
    · rw [hp, Workspace.reach_rooted hs]
      exact hl.walk_eq hk

/-! ## The command -/

theorem finish_tree (t : Tree) (o : Outcome Nat) : (finish t o).tree = t := by
  unfold finish
  split
  · rfl
  · split <;> rfl

theorem finish_exit_eq_zero {o : Outcome Nat} :
    (finish t o).exit = .ok 0 ↔ o.result = .ok 0 := by
  unfold finish
  split
  · next code h => rw [h]
  · next e h =>
    rw [h]
    split <;> simp

theorem run_generate_of_built (h : (built w v).result = .ok (m, dir)) :
    (run w (.generate v)).tree = (m.write w dir).1 ∧
      ((run w (.generate v)).exit = .ok 0 ↔ ∃ p, (m.write w dir).2.result = .ok p) := by
  obtain ⟨ht, hr⟩ := generate_of_built h
  unfold run
  rw [finish_tree, finish_exit_eq_zero, ht, hr]
  refine ⟨rfl, ?_⟩
  rcases (m.write w dir).2.result with e | p
  · simp [Except.map]
  · simp [Except.map]

theorem run_generate_cases (hc : w.tree.CleanLinks) (v : Values) :
    ((run w (.generate v)).exit ≠ .ok 0 ∧ (run w (.generate v)).tree = w.tree) ∨
    ∃ m dir, (built w v).result = .ok (m, dir) ∧
      ((∃ n halves d l, Text.firstHalves? m.text = some (n, halves) ∧
          (run w (.generate v)).exit = .error (.unencodable n halves) ∧
          w.Written dir (Path.join dir manifestFile) [] (run w (.generate v)).tree d l) ∨
        ((run w (.generate v)).exit ≠ .ok 0 ∧ Path.isUsable dir = false ∧
          ∃ d, w.tree.NewDirs (run w (.generate v)).tree d) ∨
        ((run w (.generate v)).exit = .ok 0 ∧
          ∃ d l, w.Written dir (Path.join dir manifestFile) m.content
            (run w (.generate v)).tree d l)) := by
  unfold run
  simp only [finish_tree, ne_eq, finish_exit_eq_zero]
  rcases generate_cases (v := v) hc with ⟨e, -, ht, hr⟩ | ⟨m, dir, hb, r, hw, hr⟩
  · exact Or.inl ⟨by rw [hr]; simp [Except.map], ht⟩
  rw [hr]
  generalize (generate w v).1 = t at hw ⊢
  cases hw with
  | refused e => exact Or.inl ⟨by simp [Except.map], rfl⟩
  | unusable e hu hn =>
    exact Or.inr ⟨m, dir, hb, Or.inr (Or.inl ⟨by simp [Except.map], hu, _, hn⟩)⟩
  | torn hh hw =>
    exact Or.inr ⟨m, dir, hb, Or.inl ⟨_, _, _, _, hh, rfl, hw⟩⟩
  | done hw => exact Or.inr ⟨m, dir, hb, Or.inr (Or.inr ⟨rfl, _, _, hw⟩)⟩

theorem run_init_cases (hd : w.tree.entry? w.cwd = some .dir) (hc : w.tree.CleanLinks) :
    ((run w .init).exit ≠ .ok 0 ∧ (run w .init).tree = w.tree) ∨
      ((run w .init).exit = .ok 0 ∧ ∃ l, Started w (run w .init).tree l) := by
  unfold run
  simp only [finish_tree, ne_eq, finish_exit_eq_zero]
  rcases initProject_cases hd hc with ⟨ht, hr⟩ | ⟨hr, hl⟩
  · refine Or.inl ⟨?_, ht⟩
    rcases hres : (initProject w).2.result with e | _ | _
    · simp [Except.map]
    · simp [Except.map]
    · exact absurd hres hr
  · exact Or.inr ⟨by rw [hr]; rfl, hl⟩

/-- A run without the exit code 0 leaves the tree as it was, unless the manifest has no encoding or
its directory no path. Any other run changes only what it is asked for. -/
theorem run_all_or_nothing (hd : w.tree.entry? w.cwd = some .dir) (hc : w.tree.CleanLinks)
    (args : List Text) :
    let done := (runArguments w args).2
    (done.exit ≠ .ok 0 → done.tree = w.tree ∨
      ∃ v m dir, (request args).2 = .generate v ∧ (built w v).result = .ok (m, dir) ∧
        ((∃ n halves d l, Text.firstHalves? m.text = some (n, halves) ∧
            done.exit = .error (.unencodable n halves) ∧
            w.Written dir (Path.join dir manifestFile) [] done.tree d l) ∨
          Path.isUsable dir = false ∧ ∃ d, w.tree.NewDirs done.tree d)) ∧
    (done.exit = .ok 0 →
      match (request args).2 with
      | .generate v => ∃ m dir d l, (built w v).result = .ok (m, dir) ∧
          w.Written dir (Path.join dir manifestFile) m.content done.tree d l
      | .init => ∃ l, Started w done.tree l
      | _ => done.tree = w.tree) := by
  show (_ → _) ∧ (_ → _)
  have hdone : (runArguments w args).2 = run w (request args).2 := rfl
  rw [hdone]
  rcases hr : (request args).2 with _ | _ | _ | _ | _ | v
  · exact ⟨fun h => absurd rfl h, fun _ => rfl⟩
  · exact ⟨fun h => absurd rfl h, fun _ => rfl⟩
  · exact ⟨fun _ => Or.inl rfl, fun _ => rfl⟩
  · exact ⟨fun _ => Or.inl rfl, fun _ => rfl⟩
  · rcases run_init_cases hd hc with ⟨hne, ht⟩ | ⟨h0, hl⟩
    · exact ⟨fun _ => Or.inl ht, fun h => absurd h hne⟩
    · exact ⟨fun h => absurd h0 h, fun _ => hl⟩
  · rcases run_generate_cases hc v with ⟨hne, ht⟩ | ⟨m, dir, hb, torn | unusable | done⟩
    · exact ⟨fun _ => Or.inl ht, fun h => absurd h hne⟩
    · obtain ⟨n, halves, d, l, hh, he, hw⟩ := torn
      refine ⟨fun _ => Or.inr ⟨v, m, dir, rfl, hb, Or.inl ⟨n, halves, d, l, hh, he, hw⟩⟩, ?_⟩
      intro h
      rw [he] at h
      cases h
    · obtain ⟨hne, hu, hn⟩ := unusable
      exact ⟨fun _ => Or.inr ⟨v, m, dir, rfl, hb, Or.inr ⟨hu, hn⟩⟩, fun h => absurd h hne⟩
    · obtain ⟨h0, d, l, hw⟩ := done
      exact ⟨fun h => absurd h0 h, fun _ => ⟨m, dir, d, l, hb, hw⟩⟩

/-! ## A project whose manifest goes elsewhere, and one whose name has no encoding -/

/-- A directory that holds a configuration with the given text and a manifest. -/
def configured (config : String) : Workspace where
  tree := {
    entries := [([configFile], .file (Text.encodeUtf8 (ofString config))),
      ([manifestFile], .file (Text.encodeUtf8 (ofString "old")))]
    named := by
      intro e he
      simp only [List.mem_cons, List.not_mem_nil, or_false] at he
      rcases he with rfl | rfl
      · exact (by decide : [configFile] ≠ [] ∧ ∀ n ∈ [configFile], ValidName n)
      · exact (by decide : [manifestFile] ≠ [] ∧ ∀ n ∈ [manifestFile], ValidName n)
    closed := by
      intro e he
      simp only [List.mem_cons, List.not_mem_nil, or_false] at he
      rcases he with rfl | rfl <;> rfl
    distinct := by
      show [[configFile], [manifestFile]].Nodup
      decide }
  cwd := []

theorem cleanLinks_configured (config : String) : (configured config).tree.CleanLinks := by
  intro l target hl
  by_cases hn : l = []
  · subst hn
    cases hl
  · have hm := Tree.mem_entries_of_eq_some hl hn
    simp [configured] at hm

/-- What a build comes to, when it comes to no items. -/
theorem built_of_fields {w : Workspace} {v : Values} {name homepage dir : Text}
    (h : (built w v).result.toOption.map
        (fun r => (r.1.schema, r.1.name, r.1.homepage, r.1.items.length, r.2)) =
      some (schemaUrl, name, homepage, 0, dir)) :
    (built w v).result = .ok (⟨schemaUrl, name, homepage, []⟩, dir) := by
  rcases hb : (built w v).result with e | ⟨m, dir'⟩
  · rw [hb] at h
    cases h
  · rw [hb] at h
    simp only [Except.toOption, Option.map_some, Option.some.injEq, Prod.mk.injEq,
      List.length_eq_zero_iff] at h
    obtain ⟨hs, hn, hh, hi, hd⟩ := h
    obtain ⟨s, n, hp, is⟩ := m
    subst hs hn hh hi hd
    rfl

theorem request_generate : (request [ofString "generate"]).2 = .generate default := by
  decide +kernel

theorem runArguments_generate (w : Workspace) :
    (runArguments w [ofString "generate"]).2 = run w (.generate default) := by
  show run w (request [ofString "generate"]).2 = _
  rw [request_generate]

/-- A project without components, of which the manifest goes into new directories. -/
def outwardProject : Workspace :=
  configured "\x7b\"root\": \".\", \"output\": \"a/b\"\x7d"

theorem run_all_or_nothing_new_directories :
    ∃ d l, outwardProject.Written (ofString "/a/b") (Path.join (ofString "/a/b") manifestFile)
      (Manifest.content ⟨schemaUrl, [], [], []⟩)
      (runArguments outwardProject [ofString "generate"]).2.tree d l := by
  have hb : (built outwardProject default).result =
      .ok (⟨schemaUrl, [], [], []⟩, ofString "/a/b") := built_of_fields (by decide +kernel)
  have hw : (Manifest.write ⟨schemaUrl, [], [], []⟩ outwardProject (ofString "/a/b")).2.result =
      .ok (Path.join (ofString "/a/b") manifestFile) := by rfl
  have hexit : (runArguments outwardProject [ofString "generate"]).2.exit = .ok 0 := by
    rw [runArguments_generate]
    exact (run_generate_of_built hb).2.2 ⟨_, hw⟩
  have h := (run_all_or_nothing rfl (cleanLinks_configured _) [ofString "generate"]).2 hexit
  rw [request_generate] at h
  obtain ⟨m, dir, d, l, hb', hwritten⟩ := h
  cases hb.symm.trans hb'
  exact ⟨d, l, hwritten⟩

/-- A project whose name has no encoding. -/
def tornProject : Workspace :=
  configured "\x7b\"root\": \".\", \"name\": \"\\ud800\"\x7d"

/-- The command fails, and the old manifest is lost. -/
theorem torn_name_empties_manifest :
    tornProject.tree.entry? tornProject.cwd = some .dir ∧ tornProject.tree.CleanLinks ∧
      (runArguments tornProject [ofString "generate"]).2.exit ≠ .ok 0 ∧
      tornProject.tree.entry? [manifestFile] = some (.file (Text.encodeUtf8 (ofString "old"))) ∧
      Tree.entry? (runArguments tornProject [ofString "generate"]).2.tree [manifestFile] =
        some (.file []) := by
  have hb : (built tornProject default).result =
      .ok (⟨schemaUrl, [Text.half 0xD800], [], []⟩, ['/']) := built_of_fields (by decide +kernel)
  obtain ⟨ht, hexit⟩ := run_generate_of_built hb
  rw [runArguments_generate, ne_eq, hexit, ht]
  refine ⟨rfl, cleanLinks_configured _, ?_, rfl, by decide +kernel⟩
  rintro ⟨p, hp⟩
  have hfails : (Manifest.write ⟨schemaUrl, [Text.half 0xD800], [], []⟩ tornProject
      ['/']).2.result.toOption = none := by decide +kernel
  rw [hp] at hfails
  cases hfails

end CommandLine

end ComponentManifest
