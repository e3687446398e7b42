import ComponentManifest.Proofs.RelativePaths
import ComponentManifest.Proofs.SessionHistory

/-!
# Rounds of a search

A search goes up without counting: it stops where it finds a file, or where the directory above is
the directory itself. `Searches` is that loop, round by round. It ends, at the latest in the round
that looks into the root, and what it finds is the nearest file. A configuration that was found in
this way is the one that is loaded from its path, wherever that is done.

1. The rounds, and how many there are.
2. Absolute paths mean the same in every working directory.
3. Loading what was found.
4. `search_finds_nearest`.
-/

namespace ComponentManifest

open ComponentManifest.Path (Plain rooted isAbsolute)

variable {w u : Workspace} {b : Bool} {ss names : List Text} {start given file base p x : Text}
  {n m : Nat} {r r' : Option Text}

/-! ## Rounds -/

/-- A search from a directory ends after a number of rounds with a result. Each round looks into one
directory. It is the last one if a file is found there, or if the directory above is the same. -/
inductive Workspace.Searches (w : Workspace) (names : List Text) :
    Text → Nat → Option Text → Prop
  | found {dir file : Text} : w.fileIn? names dir = some file → Searches w names dir 1 (some file)
  | ended {dir : Text} : w.fileIn? names dir = none → Path.dirname dir = dir →
      Searches w names dir 1 none
  | above {dir : Text} {n : Nat} {r : Option Text} : w.fileIn? names dir = none →
      Path.dirname dir ≠ dir → Searches w names (Path.dirname dir) n r →
      Searches w names dir (n + 1) r

/-- The rounds and the result of a search are determined by where it starts. -/
theorem Workspace.Searches.unique {dir : Text} (h : w.Searches names dir n r)
    (h' : w.Searches names dir m r') : m = n ∧ r' = r := by
  induction h generalizing m with
  | found hf =>
    cases h' with
    | found hf' => exact ⟨rfl, hf'.symm.trans hf⟩
    | ended hn => rw [hf] at hn; cases hn
    | above hn => rw [hf] at hn; cases hn
  | ended hn hd =>
    cases h' with
    | found hf => rw [hn] at hf; cases hf
    | ended => exact ⟨rfl, rfl⟩
    | above _ hne => exact absurd hd hne
  | above hn hne _ ih =>
    cases h' with
    | found hf => rw [hn] at hf; cases hf
    | ended _ hd => exact absurd hd hne
    | above _ _ h' =>
      obtain ⟨rfl, hr⟩ := ih h'
      exact ⟨rfl, hr⟩

/-- A search ends with what `findUp` says, after at most one round for each name on the way and one
for the root. -/
theorem exists_searches (hs : Plain ss) :
    ∃ n ≤ ss.length + 1, w.Searches names (rooted b ss) n (findUp w names (rooted b ss)) := by
  induction ss using List.reverseRecOn with
  | nil =>
    refine ⟨1, Nat.le_refl 1, ?_⟩
    rw [findUp_rooted_nil]
    rcases hf : w.fileIn? names (rooted b []) with _ | file
    · exact .ended hf dirname_root
    · exact .found hf
  | append_singleton ss x ih =>
    rw [findUp_rooted_concat hs]
    rcases hf : w.fileIn? names (rooted b (ss ++ [x])) with _ | file
    · obtain ⟨n, hn, hsearch⟩ := ih hs.left
      have hd : Path.dirname (rooted b (ss ++ [x])) = rooted b ss :=
        Path.dirname_rooted hs.left hs.right
      have hne : Path.dirname (rooted b (ss ++ [x])) ≠ rooted b (ss ++ [x]) :=
        hd.symm ▸ rooted_ne_concat hs
      exact ⟨n + 1, by simpa using hn, .above hf hne (hd.symm ▸ hsearch)⟩
    · exact ⟨1, by omega, .found hf⟩

/-! ## Working directories -/

namespace Workspace

theorem absolute_nil (w : Workspace) : w.absolute [] = w.absolute w.cwdPath := by
  have hj : Path.join w.cwdPath w.cwdPath = w.cwdPath := if_pos rfl
  unfold absolute Path.absolute
  rw [hj]
  exact Path.normalize_join_nil rfl

theorem absolute_of_isAbsolute (h : isAbsolute p = true) : w.absolute p = Path.normalize p :=
  congrArg Path.normalize (if_pos h)

theorem isAbsolute_absolute (w : Workspace) (p : Text) : isAbsolute (w.absolute p) = true := by
  obtain ⟨b, ss, -, hp⟩ := w.exists_rooted p
  rw [hp, Path.isAbsolute_rooted]

theorem reach_of_isAbsolute {fl : Bool} (ht : u.tree = w.tree) (h : isAbsolute p = true) :
    u.reach fl p = w.reach fl p := by
  unfold reach Tree.startOf
  rw [ht, if_pos h, if_pos h]

theorem isFile_of_isAbsolute (ht : u.tree = w.tree) (h : isAbsolute p = true) :
    u.isFile p = w.isFile p := by
  unfold isFile entry?
  rw [reach_of_isAbsolute ht h]

theorem readJson_of_isAbsolute (ht : u.tree = w.tree) (h : isAbsolute p = true) :
    readJson u p = readJson w p := by
  unfold readJson readText? read
  rw [reach_of_isAbsolute ht h]

end Workspace

theorem Config.directory_of_isAbsolute {root dir : Text} (h : isAbsolute root = true) :
    directory u root dir = directory w root dir := by
  have hj := Path.isAbsolute_join_of_base (p := dir) h
  unfold directory
  rw [Workspace.absolute_of_isAbsolute hj, Workspace.absolute_of_isAbsolute hj]

theorem isAbsolute_of_rootField {root : Json} (hb : isAbsolute base = true)
    (h : rootField base root = .ok (.str p)) : isAbsolute p = true := by
  have hne : base.isEmpty = false := by
    cases base
    · cases hb
    · rfl
  unfold rootField at h
  rw [hne, if_neg Bool.false_ne_true] at h
  cases root with
  | str t =>
    obtain rfl := Json.str.inj (Except.ok.inj h)
    exact Path.isAbsolute_join_of_base hb
  | _ => cases h

/-- Seen from an absolute directory, a configuration does not depend on the working directory. -/
theorem Config.ofJson_of_isAbsolute {path : Option Text} {v : Json} (hb : isAbsolute base = true) :
    ofJson u base path v = ofJson w base path v := by
  unfold ofJson
  split
  · split
    · rfl
    · next root _ =>
      refine bind_congr fun ps => bind_congr fun rs => except_bind_congr fun joined hj => ?_
      refine bind_congr fun name => bind_congr fun homepage => bind_congr fun cwd =>
        bind_congr fun output => bind_congr fun deps => bind_congr fun devs => ?_
      split
      · next path =>
        have ha := isAbsolute_of_rootField hb hj
        have hroot : isAbsolute (Path.normalize path) = true := by
          rw [← Workspace.absolute_of_isAbsolute (w := w) ha]
          exact w.isAbsolute_absolute path
        rw [Workspace.absolute_of_isAbsolute ha, Workspace.absolute_of_isAbsolute ha]
        dsimp only
        rw [directory_of_isAbsolute (u := u) (w := w) hroot,
          directory_of_isAbsolute (u := u) (w := w) hroot]
      · rfl
  · rfl

/-! ## Loading what was found -/

/-- The configuration in a file that has been located. -/
def Workspace.configIn (w : Workspace) (file : Text) : Outcome Config :=
  match readJson w file with
  | .error .malformed => Outcome.fail (.malformedConfig file)
  | .error (.tooDeep what) => Outcome.fail (.tooDeep what)
  | .ok v => do
    Outcome.report (.configLoaded file)
    Outcome.ofExcept (Config.ofJson w (Path.dirname file) (some file) v)

theorem Workspace.configIn_congr (ht : u.tree = w.tree) (hs : Plain (ss ++ [x])) :
    u.configIn (rooted b (ss ++ [x])) = w.configIn (rooted b (ss ++ [x])) := by
  have hd : Path.dirname (rooted b (ss ++ [x])) = rooted b ss :=
    Path.dirname_rooted hs.left hs.right
  unfold configIn
  rw [readJson_of_isAbsolute ht Path.isAbsolute_rooted, hd]
  rcases readJson w (rooted b (ss ++ [x])) with (_ | what) | v
  · rfl
  · rfl
  · dsimp only
    rw [Config.ofJson_of_isAbsolute (u := u) (w := w) Path.isAbsolute_rooted]

theorem loadConfig_of_locate
    (h : locateConfig w (if start.isEmpty then w.cwdPath else start) given = .ok file) :
    loadConfig w start given = w.configIn file := by
  unfold loadConfig Workspace.configIn
  rw [h]
  exact Outcome.bind_ok [] file _

theorem findUp_cwdPath :
    findUp w names (if start.isEmpty then w.cwdPath else start) = findUp w names start := by
  cases start with
  | nil =>
    unfold findUp
    rw [w.absolute_nil]
    rfl
  | cons => rfl

theorem loadConfig_of_findUp (h : findUp w [configFile] start = some file) :
    loadConfig w start [] = w.configIn file := by
  refine loadConfig_of_locate ?_
  unfold locateConfig
  rw [findUp_cwdPath, h]
  rfl

theorem loadConfig_of_isFile (hs : Plain ss) (hf : w.isFile (rooted b ss) = true) :
    loadConfig w start (rooted b ss) = w.configIn (rooted b ss) := by
  have hne : (rooted b ss).isEmpty = false := by simpa using Path.rooted_ne_nil
  refine loadConfig_of_locate ?_
  unfold locateConfig
  rw [hne, if_neg Bool.false_ne_true, if_pos hf, Workspace.absolute_rooted hs]

theorem exists_rooted_of_findUp (h : findUp w [configFile] start = some file) :
    ∃ b ds, Plain (ds ++ [configFile]) ∧ file = rooted b (ds ++ [configFile]) ∧
      w.isFile file = true := by
  obtain ⟨b, ss, hs, hstart⟩ := w.exists_rooted start
  rw [findUp_of_absolute hs hstart] at h
  obtain ⟨ds, ⟨⟨rest, rfl⟩, hf, -⟩, rfl⟩ := nearest_of_findUp hs plain_configFile h
  exact ⟨b, ds, hs.left.append plain_configFile, rfl, hf⟩

/-! ## Searches -/

/-- A search ends after at most one round for each name on the way and one more, with the first file
that there is from the start up to the root. -/
theorem search_finds_nearest (w : Workspace) (names : List Text) (start : Text)
    (hn : ∀ x ∈ names, Plain [x]) :
    (∃ b ss n, Plain ss ∧ w.absolute start = rooted b ss ∧ n ≤ ss.length + 1 ∧
      w.Searches names (w.absolute start) n (findUp w names start) ∧
      (∀ m r, w.Searches names (w.absolute start) m r → m = n ∧ r = findUp w names start) ∧
      (∀ file, findUp w names start = some file ↔
        ∃ ds x, w.FirstMet b ss names ds x ∧ file = rooted b (ds ++ [x])) ∧
      (findUp w names start = none ↔
        ∀ d, d <+: ss → ∀ x ∈ names, w.isFile (rooted b (d ++ [x])) = false)) ∧
    ∀ (u v : Workspace) (dir dir' file : Text), u.tree = w.tree → v.tree = w.tree →
      findUp w [configFile] dir = some file → findUp u [configFile] dir' = some file →
        loadConfig w dir [] = loadConfig u dir' [] ∧
          ∀ other, loadConfig v other file = loadConfig w dir [] := by
  refine ⟨?_, fun u v dir dir' file hu hv hdir hdir' => ?_⟩
  · obtain ⟨b, ss, hs, hstart⟩ := w.exists_rooted start
    have hfound : findUp w names start = findUp w names (rooted b ss) :=
      findUp_of_absolute hs hstart
    rw [hfound, hstart]
    obtain ⟨n, hle, hsearch⟩ :
        ∃ n ≤ ss.length + 1, w.Searches names (rooted b ss) n (findUp w names (rooted b ss)) :=
      exists_searches hs
    exact ⟨b, ss, n, hs, rfl, hle, hsearch, fun m r hr => hsearch.unique hr,
      fun file => findUp_eq_some_iff hs hn, findUp_eq_none_iff hs hn⟩
  · obtain ⟨b, ds, hds, rfl, hf⟩ := exists_rooted_of_findUp hdir
    have hfv : v.isFile (rooted b (ds ++ [configFile])) = true := by
      rw [Workspace.isFile_of_isAbsolute hv Path.isAbsolute_rooted, hf]
    rw [loadConfig_of_findUp hdir, loadConfig_of_findUp hdir', Workspace.configIn_congr hu hds]
    refine ⟨rfl, fun other => ?_⟩
    rw [loadConfig_of_isFile hds hfv, Workspace.configIn_congr hv hds]

theorem search_finds_nearest_library :
    findUp libraryProject [packageFile, configFile] "p/s/../s//none".toList =
        some "/p/package.json".toList ∧
      libraryProject.Searches [packageFile, configFile] "/p/s/none".toList 3
        (some "/p/package.json".toList) ∧
      libraryProject.Searches [packageFile, configFile] "//".toList 1 none ∧
      loadConfig ⟨libraryProject.tree, [['p'], ['s']]⟩ [] [] =
        loadConfig libraryProject "p/s".toList [] ∧
      loadConfig ⟨libraryProject.tree, [['q']]⟩ "//".toList "/p/registry.config.json".toList =
        loadConfig libraryProject "p/s".toList [] ∧
      (loadConfig libraryProject "p/s".toList []).result.toOption.map Config.cwd =
        some "/p/s".toList := by
  have hnames : ∀ x ∈ [packageFile, configFile], Plain [x] :=
    List.forall_mem_cons.2 ⟨Tree.plain_of_validName (by decide),
      List.forall_mem_singleton.2 plain_configFile⟩
  have hwalk : libraryProject.Searches [packageFile, configFile] "/p/s/none".toList 3
      (some "/p/package.json".toList) :=
    .above (by decide +kernel) (by decide) <| .above (by decide +kernel) (by decide) <|
      .found (by decide +kernel)
  have hstart : libraryProject.absolute "p/s/../s//none".toList = "/p/s/none".toList := by
    decide +kernel
  obtain ⟨⟨b, ss, n, -, -, -, -, hunique, -⟩, hload⟩ :=
    search_finds_nearest libraryProject _ "p/s/../s//none".toList hnames
  rw [hstart] at hunique
  obtain ⟨hsame, hgiven⟩ := hload ⟨libraryProject.tree, [['p'], ['s']]⟩
    ⟨libraryProject.tree, [['q']]⟩ "p/s".toList [] "/p/registry.config.json".toList rfl rfl
    (by decide +kernel) (by decide +kernel)
  exact ⟨(hunique _ _ hwalk).2.symm, hwalk, .ended (by decide +kernel) (by decide), hsame.symm,
    hgiven _, by decide +kernel⟩

end ComponentManifest
