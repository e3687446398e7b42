import ComponentManifest.Proofs.Configurations
import ComponentManifest.Proofs.UpwardSearch
import ComponentManifest.Service.Call

/-!
# What a session holds after a run

The project directory and the configuration of a session are two fields, and each call may fail
halfway. After any run the two still belong together: they come from the last choice of a project
that succeeded, whatever was called and whatever changed in the files since.

1. `Holds`: the session has what a choice computes.
2. A choice that succeeds, and calls that leave the session alone.
3. `session_of_last_choice`, by induction over the run.
-/

namespace ComponentManifest

open ComponentManifest.Path (Plain rooted)

variable {s : Session} {w : Workspace} {path : Text}

/-! ## What a choice computes -/

/-- The session has the project that choosing `path` gives in the files `w`: the absolute path, and
the configuration in the nearest configuration file at this path or above it. -/
structure Session.Holds (s : Session) (w : Workspace) (path : Text) : Prop where
  attached : s.attached = true
  basePath : s.basePath = w.absolute path
  config : ∃ b ss above v c, Plain ss ∧ w.absolute path = rooted b ss ∧
    w.Nearest b configFile ss above ∧
    readJson w (rooted b (above ++ [configFile])) = .ok v ∧
    Config.ofJson w (rooted b above) (some (rooted b (above ++ [configFile]))) v = .ok c ∧
    s.config = some c

theorem plain_configFile : Plain [configFile] := Tree.plain_of_validName (by decide)

theorem findUp_of_locateConfig {start file : Text} (h : locateConfig w start [] = .ok file) :
    findUp w [configFile] start = some file := by
  unfold locateConfig at h
  rw [List.isEmpty_nil, if_pos rfl] at h
  split at h
  · next p hp => rw [hp, Except.ok.inj h]
  · cases h

/-- Without a given file, what is loaded is the value in the nearest configuration file. -/
theorem loadConfig_nearest {ss : List Text} {b : Bool} {c : Config} (hs : Plain ss)
    (h : (loadConfig w (rooted b ss) []).result = .ok c) :
    ∃ above v, w.Nearest b configFile ss above ∧
      readJson w (rooted b (above ++ [configFile])) = .ok v ∧
      Config.ofJson w (rooted b above) (some (rooted b (above ++ [configFile]))) v = .ok c := by
  have hne : (rooted b ss).isEmpty = false := by simpa using Path.rooted_ne_nil
  unfold loadConfig at h
  rw [hne] at h
  obtain ⟨file, hfile, hread⟩ := Outcome.bind_eq_ok.1 h
  have hfound : findUp w [configFile] (rooted b ss) = some file := findUp_of_locateConfig hfile
  obtain ⟨above, hnear, rfl⟩ := nearest_of_findUp hs plain_configFile hfound
  obtain ⟨below, rfl⟩ := hnear.1
  rw [Path.dirname_rooted hs.left plain_configFile] at hread
  split at hread
  · cases hread
  · cases hread
  · next v hv =>
    obtain ⟨-, -, hof⟩ := Outcome.bind_eq_ok.1 hread
    exact ⟨above, v, hnear, hv, hof⟩

/-- A choice that succeeds gives an attached session the project that it computes. -/
theorem Session.holds_of_chooseProject {shown : Text} {next : Session} (ha : s.attached = true)
    (h : (s.chooseProject w path).result = .ok (shown, next)) : next.Holds w path := by
  obtain ⟨b, ss, hs, hfull⟩ := w.exists_rooted path
  unfold chooseProject at h
  split at h
  · cases h
  · obtain ⟨c, hc, h⟩ := Outcome.bind_eq_ok.1 h
    obtain ⟨-, -, h⟩ := Outcome.bind_eq_ok.1 h
    have hnext : (s.setBasePath (w.absolute path)).setConfig (some c) = next :=
      congrArg Prod.snd (Except.ok.inj h)
    have hset : next = { s with basePath := w.absolute path, config := some c } := by
      rw [← hnext]
      unfold setBasePath setConfig
      rw [if_pos ha]
      exact if_pos ha
    rw [hfull] at hc
    obtain ⟨above, v, hnear, hv, hof⟩ := loadConfig_nearest hs hc
    subst hset
    exact ⟨ha, rfl, b, ss, above, v, c, hs, hfull, hnear, hv, hof, rfl⟩

/-! ## Choices in a run -/

namespace Server

variable {s : Server} {c : Call} {h : Happening} {hs : List Happening}

/-- Choosing the path succeeds. -/
def Accepts (s : Server) (path : Text) : Prop :=
  ∃ answer, (s.call (.setProjectPath path)).2.result = .ok answer

/-- No choice in the run succeeds. -/
def Steady (s : Server) (hs : List Happening) : Prop :=
  ∀ pre path post, hs = pre ++ .call (.setProjectPath path) :: post → ¬ (s.run pre).Accepts path

theorem run_append (pre post : List Happening) : s.run (pre ++ post) = (s.run pre).run post :=
  List.foldl_append

theorem run_concat (hs : List Happening) (h : Happening) :
    s.run (hs ++ [h]) = (s.run hs).after h := by
  rw [run_append]
  rfl

theorem accepts_iff : s.Accepts path ↔
    ∃ shown next, (s.session.chooseProject s.workspace path).result = .ok (shown, next) := by
  show (∃ answer, ((s.session.chooseProject s.workspace path).result.map _) = .ok answer) ↔ _
  rcases (s.session.chooseProject s.workspace path).result with e | ⟨shown, next⟩
  · constructor
    · rintro ⟨answer, h⟩
      cases h
    · rintro ⟨shown, next, h⟩
      cases h
  · exact ⟨fun _ => ⟨shown, next, rfl⟩, fun _ => ⟨_, rfl⟩⟩

theorem after_of_chosen {shown : Text} {next : Session}
    (h : (s.session.chooseProject s.workspace path).result = .ok (shown, next)) :
    s.after (.call (.setProjectPath path)) = { s with session := next } := by
  unfold after call
  dsimp only
  rw [h]

theorem after_of_not_chosen {e : Fault}
    (h : (s.session.chooseProject s.workspace path).result = .error e) :
    s.after (.call (.setProjectPath path)) = s := by
  unfold after call
  dsimp only
  rw [h]

/-- A choice that succeeds replaces the project. -/
theorem holds_after (ha : s.session.attached = true) (hp : s.Accepts path) :
    (s.after (.call (.setProjectPath path))).session.Holds s.workspace path := by
  obtain ⟨shown, next, hc⟩ := accepts_iff.1 hp
  rw [after_of_chosen hc]
  exact Session.holds_of_chooseProject ha hc

/-- Everything else leaves the project: choices that fail, all other calls, whether they succeed or
fail, and changes of the files. -/
theorem session_after (hn : ∀ path, h = .call (.setProjectPath path) → ¬ s.Accepts path) :
    (s.after h).session = s.session := by
  cases h with
  | change t => rfl
  | call c =>
    cases c with
    | setProjectPath path =>
      rcases hc : (s.session.chooseProject s.workspace path).result with e | ⟨shown, next⟩
      · rw [after_of_not_chosen hc]
      · exact absurd (accepts_iff.2 ⟨shown, next, hc⟩) (hn path rfl)
    | generateRegistry write pattern => rfl
    | classifyDependencies paths declared => rfl
    | registryType path => rfl
    | componentName directory files => rfl
    | showConfig => rfl

/-! ## Runs -/

theorem steady_nil : s.Steady [] := by
  intro pre path post h
  cases pre <;> cases h

theorem Steady.concat (hsteady : s.Steady hs)
    (hn : ∀ path, h = .call (.setProjectPath path) → ¬ (s.run hs).Accepts path) :
    s.Steady (hs ++ [h]) := by
  intro pre path post he
  rcases List.eq_nil_or_concat post with rfl | ⟨post, last, rfl⟩
  · obtain ⟨rfl, hlast⟩ := List.append_inj' he rfl
    exact hn path (List.singleton_inj.1 hlast)
  · rw [List.concat_eq_append, ← List.cons_append, ← List.append_assoc] at he
    exact hsteady pre path post (List.append_inj' he rfl).1

/-- Of the choices in a run, the one after `pre` is the last that succeeds. -/
structure LastChoice (s : Server) (hs pre : List Happening) (path : Text) : Prop where
  accepted : (s.run pre).Accepts path
  steady : ∃ post, hs = pre ++ [.call (.setProjectPath path)] ++ post ∧
    (s.run (pre ++ [.call (.setProjectPath path)])).Steady post

theorem LastChoice.concat {pre : List Happening} (hl : s.LastChoice hs pre path)
    (hn : ∀ path, h = .call (.setProjectPath path) → ¬ (s.run hs).Accepts path) :
    s.LastChoice (hs ++ [h]) pre path := by
  obtain ⟨post, rfl, hsteady⟩ := hl.steady
  refine ⟨hl.accepted, post ++ [h], List.append_assoc _ _ _, hsteady.concat fun p hp => ?_⟩
  rw [← run_append]
  exact hn p hp

/-- What a session may hold after a run: nothing, if no choice has succeeded, and otherwise what the
last choice that succeeded has computed from the files of its time. -/
def Kept (s : Server) (hs : List Happening) : Prop :=
  (s.Steady hs ∧ (s.run hs).session = .start) ∨
    ∃ pre path, s.LastChoice hs pre path ∧ (s.run hs).session.Holds (s.run pre).workspace path

theorem Kept.attached (hk : s.Kept hs) : (s.run hs).session.attached = true := by
  obtain ⟨-, he⟩ | ⟨pre, path, -, hold⟩ := hk
  · rw [he]
    rfl
  · exact hold.attached

theorem Kept.concat (hk : s.Kept hs) (h : Happening) : s.Kept (hs ++ [h]) := by
  by_cases hn : ∀ path, h = .call (.setProjectPath path) → ¬ (s.run hs).Accepts path
  · have hsame : (s.run (hs ++ [h])).session = (s.run hs).session := by
      rw [run_concat]
      exact session_after hn
    obtain ⟨hsteady, he⟩ | ⟨pre, path, hl, hold⟩ := hk
    · exact Or.inl ⟨hsteady.concat hn, hsame.trans he⟩
    · exact Or.inr ⟨pre, path, hl.concat hn, hsame ▸ hold⟩
  · obtain ⟨path, hp⟩ := not_forall.1 hn
    obtain ⟨rfl, hacc⟩ := Classical.not_imp.1 hp
    have hacc := Classical.not_not.1 hacc
    refine Or.inr ⟨hs, path, ⟨hacc, [], (List.append_nil _).symm, steady_nil⟩, ?_⟩
    rw [run_concat]
    exact holds_after hk.attached hacc

/-- After every run of calls and changes by others, a session has no project or the one that the
last successful choice has computed. -/
theorem session_of_last_choice (w : Workspace) (hs : List Happening) :
    (fresh w).Kept hs ∧
      ∀ h, (∀ path, h = .call (.setProjectPath path) → ¬ ((fresh w).run hs).Accepts path) →
        ((fresh w).run (hs ++ [h])).session = ((fresh w).run hs).session := by
  constructor
  · induction hs using List.reverseRecOn with
    | nil => exact Or.inl ⟨steady_nil, rfl⟩
    | append_singleton hs h ih => exact ih.concat h
  · intro h hn
    rw [run_concat]
    exact session_after hn

end Server

/-! ## A project to choose -/

/-- A project with one component of two files, in a scan directory of its own. Its manifest goes
there too, into a directory that is named like a source. -/
def libraryProject : Workspace where
  tree := {
    entries := [([['p']], .dir),
      ([['p'], configFile], .file (Text.encodeUtf8 <| Text.ofString
        "\x7b\"root\": \".\", \"cwd\": \"s\", \"output\": \"s/ui/b/d.ts\"\x7d")),
      ([['p'], packageFile], .file (Text.encodeUtf8 <| Text.ofString <|
        "\x7b\"dependencies\": \x7b\"vue\": 1\x7d, " ++
        "\"devDependencies\": \x7b\"vite\": 1\x7d\x7d")),
      ([['p'], ['s']], .dir), ([['p'], ['s'], "ui".toList], .dir),
      ([['p'], ['s'], "ui".toList, ['b']], .dir),
      ([['p'], ['s'], "ui".toList, ['b'], "c.ts".toList], .file (Text.encodeUtf8 <| Text.ofString
        "import 'vue'; import 'vite/x'")),
      ([['p'], ['s'], "ui".toList, ['b'], "index.ts".toList], .file (Text.encodeUtf8 <|
        Text.ofString "import 'left-pad'; import 'vue'"))]
    named := by decide
    closed := by decide
    distinct := by decide }
  cwd := []

/-- The session in which it is chosen. -/
def librarySession : Session :=
  match (Session.start.chooseProject libraryProject "/p".toList).result with
  | .ok chosen => chosen.2
  | .error _ => .start

theorem holds_librarySession : librarySession.Holds libraryProject "/p".toList := by
  have hok : (Session.start.chooseProject libraryProject "/p".toList).result.isOk = true := by
    decide +kernel
  unfold librarySession
  rcases hc : (Session.start.chooseProject libraryProject "/p".toList).result with e | ⟨t, next⟩
  · rw [hc] at hok
    cases hok
  · exact Session.holds_of_chooseProject rfl hc

/-- The server that works on it. -/
def libraryServer : Server := ⟨librarySession, libraryProject⟩

theorem holds_libraryServer :
    libraryServer.session.Holds libraryServer.workspace "/p".toList := by
  unfold libraryServer
  dsimp only
  exact holds_librarySession

namespace Server

/-- The project is chosen from its scan directory, then all files vanish and other calls fail. -/
def libraryRun : List Happening :=
  [.call (.setProjectPath "/p/s".toList), .change .empty, .call (.generateRegistry true []),
    .call (.setProjectPath "/q".toList)]

theorem session_of_last_choice_library :
    (∃ pre path, (fresh libraryProject).LastChoice libraryRun pre path ∧
      ((fresh libraryProject).run libraryRun).session.Holds
        ((fresh libraryProject).run pre).workspace path) ∧
      ((fresh libraryProject).run (libraryRun ++ [.call .showConfig])).session.basePath =
        "/p/s".toList := by
  have hbase : ((fresh libraryProject).run libraryRun).session.basePath = "/p/s".toList := by
    decide +kernel
  obtain ⟨hkept, hnext⟩ := session_of_last_choice libraryProject libraryRun
  constructor
  · obtain ⟨-, hstart⟩ | hchosen := hkept
    · rw [hstart] at hbase
      exact absurd hbase (by decide)
    · exact hchosen
  · rw [hnext (.call .showConfig) fun path h => by cases h]
    exact hbase

end Server

end ComponentManifest
