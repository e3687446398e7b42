import ComponentManifest.Project.Load
import ComponentManifest.Proofs.BuildSteps

/-!
# What a configuration can look like

A configuration and an alias table are read from JSON values of any shape. Reading succeeds exactly
when every field that is looked at has its type, and otherwise fails with a fault of the
configuration; only a root that is no text, and parameters or headers of an alias that are no
object, are used before their type is known.

1. The types of fields.
2. `ofJson_obj_eq_ok_iff`: a configuration is what the fields say, with the directories resolved.
3. `ofJson_eq_ok_iff` and `fault_of_ofJson`: when there is one, and what is wrong otherwise.
4. `AliasTable.ofJson_eq_ok_iff` and `AliasTable.fault_of_ofJson`: alias tables.
5. `loadConfig`, and the directories of a configuration.
-/

namespace ComponentManifest

open Text (ofString)

/-! ## Faults of a configuration -/

/-- Does the fault say that a configuration is malformed, or a field of it? -/
def Fault.isInvalidConfiguration : Fault → Bool
  | .configNotObject | .scanPatternsNotObject | .registriesNotObject | .fieldNotText _
  | .fieldNotNames _ | .malformedConfig _ | .aliasShape _ => true
  | _ => false

/-- The value is a text. -/
def Json.IsText (v : Json) : Prop := ∃ t, v = .str t

/-- The value is a list of texts. -/
def Json.IsTexts (v : Json) : Prop := ∃ ts, v.texts? = some ts

/-- The value is an object. -/
def Json.IsObject (v : Json) : Prop := ∃ ms, v = .obj ms

/-- A field that may be missing or null. -/
def Nullable (P : Json → Prop) (field : Option Json) : Prop :=
  ∀ v, field = some v → v = .null ∨ P v

/-- A field that may be missing or count as not given. -/
def Omissible (P : Json → Prop) (field : Option Json) : Prop :=
  ∀ v, field = some v → v.isGiven = true → P v

variable {ms : Members} {key : Text} {e : Fault} {v : Json}

theorem textField_eq_ok_iff :
    (∃ t, textField ms key = .ok t) ↔ Nullable Json.IsText (ms.get? key) := by
  unfold textField Nullable Json.IsText
  rcases ms.get? key with _ | (_ | _ | _ | _ | _ | _ | _) <;> simp

theorem textField_eq_error (h : textField ms key = .error e) : e = .fieldNotText key := by
  unfold textField at h
  split at h <;> cases h
  rfl

theorem namesField_eq_ok_iff :
    (∃ ts, namesField ms key = .ok ts) ↔ Nullable Json.IsTexts (ms.get? key) := by
  unfold namesField Nullable Json.IsTexts
  rcases ms.get? key with _ | v
  · simp
  · by_cases hn : v = .null
    · subst hn
      simp
    · rcases ht : v.texts? with _ | ts
      · simp [hn, ht]
      · simp [ht]

theorem namesField_eq_error (h : namesField ms key = .error e) : e = .fieldNotNames key := by
  unfold namesField at h
  split at h
  · cases h
  · cases h
  · split at h <;> cases h
    rfl

theorem givenField_eq_some_iff :
    givenField ms key = some v ↔ ms.get? key = some v ∧ v.isGiven = true := by
  unfold givenField
  split
  · next x hx =>
    rw [hx]
    grind
  · next hx =>
    rw [hx]
    simp

theorem patternsField_eq_ok_iff :
    (∃ ps, patternsField ms = .ok ps) ↔
      Omissible Json.IsObject (ms.get? (ofString "scanPatterns")) := by
  have h : (∃ ps, patternsField ms = .ok ps) ↔
      ∀ v, givenField ms (ofString "scanPatterns") = some v → v.IsObject := by
    unfold patternsField Json.IsObject
    rcases givenField ms (ofString "scanPatterns") with _ | (_ | _ | _ | _ | _ | _ | _) <;> simp
  simp only [h, givenField_eq_some_iff, and_imp]
  rfl

theorem patternsField_eq_error (h : patternsField ms = .error e) : e = .scanPatternsNotObject := by
  unfold patternsField at h
  split at h <;> cases h
  rfl

theorem registriesField_eq_ok_iff :
    (∃ rs, registriesField ms = .ok rs) ↔
      Nullable Json.IsObject (ms.get? (ofString "registries")) := by
  unfold registriesField Nullable Json.IsObject
  rcases ms.get? (ofString "registries") with _ | (_ | _ | _ | _ | _ | _ | _) <;> simp

theorem registriesField_eq_error (h : registriesField ms = .error e) :
    e = .registriesNotObject := by
  unfold registriesField at h
  split at h <;> cases h
  rfl

/-! ## Configurations -/

namespace Config

variable {w : Workspace} {base : Text} {path : Option Text} {c : Config}

/-- The fields of a configuration have their types. -/
structure WellTyped (ms : Members) : Prop where
  root : ∃ t, givenField ms (ofString "root") = some (.str t)
  scanPatterns : Omissible Json.IsObject (ms.get? (ofString "scanPatterns"))
  registries : Nullable Json.IsObject (ms.get? (ofString "registries"))
  name : Nullable Json.IsText (ms.get? (ofString "name"))
  homepage : Nullable Json.IsText (ms.get? (ofString "homepage"))
  cwd : Nullable Json.IsText (ms.get? (ofString "cwd"))
  output : Nullable Json.IsText (ms.get? (ofString "output"))
  dependencies : Nullable Json.IsTexts (ms.get? (ofString "dependencies"))
  devDependencies : Nullable Json.IsTexts (ms.get? (ofString "devDependencies"))

/-- The root is given, but it is no text. -/
def RootNotText (v root : Json) : Prop :=
  ∃ ms, v = .obj ms ∧ givenField ms (ofString "root") = some root ∧ ¬ root.IsText

theorem directory_eq (w : Workspace) (root dir : Text) :
    ∃ d, directory w (w.absolute root) dir = w.absolute d := by
  unfold directory
  split
  · exact ⟨root, rfl⟩
  · exact ⟨_, rfl⟩

theorem rootField_text (base t : Text) : ∃ p, rootField base (.str t) = .ok (.str p) := by
  unfold rootField
  split
  · exact ⟨t, rfl⟩
  · exact ⟨_, rfl⟩

theorem isText_of_rootField {root : Json} {p : Text} (h : rootField base root = .ok (.str p)) :
    root.IsText := by
  unfold rootField at h
  split at h
  · exact ⟨p, Except.ok.inj h⟩
  · cases root <;> first | exact ⟨_, rfl⟩ | cases h

theorem notText_of_rootField_error {root : Json} (h : rootField base root = .error e) :
    ¬ root.IsText ∧ e = .rootNotPath root.shapeName := by
  refine ⟨?_, ?_⟩
  · rintro ⟨t, rfl⟩
    obtain ⟨p, hp⟩ := rootField_text base t
    rw [hp] at h
    cases h
  · unfold rootField at h
    split at h
    · cases h
    · split at h <;> cases h
      rfl

/-- A root that is no text is left as it is. -/
theorem eq_of_rootField {root joined : Json} (h : rootField base root = .ok joined)
    (hn : ¬ joined.IsText) : joined = root ∧ ¬ root.IsText := by
  have he : joined = root := by
    unfold rootField at h
    split at h
    · exact (Except.ok.inj h).symm
    · split at h <;> cases h
      exact absurd ⟨_, rfl⟩ hn
  exact ⟨he, he ▸ hn⟩

/-- The configuration with its directories resolved: the root against the working directory, and the
other two against the root. -/
def resolve (c : Config) (w : Workspace) : Config :=
  { c with
    root := w.absolute c.root
    cwd := directory w (w.absolute c.root) c.cwd
    output := directory w (w.absolute c.root) c.output }

/-- The configuration has what the fields of the object say, with the directories as they are
written; only the root is joined to `base`. -/
structure Reads (base : Text) (path : Option Text) (ms : Members) (c : Config) : Prop where
  root : ∃ v, givenField ms (ofString "root") = some v ∧ rootField base v = .ok (.str c.root)
  patterns : ∃ ps, patternsField ms = .ok ps ∧
    c.componentPattern =
      (givenField ps (ofString "componentPattern")).getD (.str defaultComponentPattern) ∧
    c.filePattern = (givenField ps (ofString "filePattern")).getD (.str defaultFilePattern)
  registries : registriesField ms = .ok c.registries
  name : textField ms (ofString "name") = .ok c.name
  homepage : textField ms (ofString "homepage") = .ok c.homepage
  cwd : textField ms (ofString "cwd") = .ok c.cwd
  output : textField ms (ofString "output") = .ok c.output
  dependencies : namesField ms (ofString "dependencies") = .ok c.dependencies
  devDependencies : namesField ms (ofString "devDependencies") = .ok c.devDependencies
  configPath : c.configPath = path

theorem ofJson_obj_eq_ok_iff :
    ofJson w base path (.obj ms) = .ok c ↔ ∃ d, Reads base path ms d ∧ d.resolve w = c := by
  constructor
  · intro h
    unfold ofJson at h
    dsimp only at h
    split at h
    · cases h
    · next root hroot =>
      simp only [except_bind_eq_ok] at h
      obtain ⟨ps, hps, rs, hrs, joined, hj, name, hname, homepage, hhome, cwd, hcwd, output, hout,
        deps, hdeps, devs, hdevs, h⟩ := h
      split at h
      · next t =>
        exact ⟨{ root := t, name, homepage, cwd, output, dependencies := deps,
                 devDependencies := devs, registries := rs, configPath := path,
                 componentPattern := _, filePattern := _ },
          ⟨⟨root, hroot, hj⟩, ⟨ps, hps, rfl, rfl⟩, hrs, hname, hhome, hcwd, hout, hdeps, hdevs, rfl⟩,
          Except.ok.inj h⟩
      · cases h
  · rintro ⟨d, ⟨⟨root, hroot, hj⟩, ⟨ps, hps, hcp, hfp⟩, hrs, hname, hhome, hcwd, hout, hdeps, hdevs,
      rfl⟩, rfl⟩
    unfold ofJson resolve
    simp only [hroot, hps, hrs, hj, hname, hhome, hcwd, hout, hdeps, hdevs, hcp, hfp]
    rfl

theorem exists_obj_of_ofJson (h : ofJson w base path v = .ok c) : ∃ ms, v = .obj ms := by
  cases v with
  | obj ms => exact ⟨ms, rfl⟩
  | _ => cases h

theorem Reads.wellTyped (h : Reads base path ms c) : WellTyped ms := by
  obtain ⟨root, hroot, hj⟩ := h.root
  obtain ⟨ps, hps, -⟩ := h.patterns
  obtain ⟨t, rfl⟩ := isText_of_rootField hj
  exact
    { root := ⟨t, hroot⟩
      scanPatterns := patternsField_eq_ok_iff.1 ⟨_, hps⟩
      registries := registriesField_eq_ok_iff.1 ⟨_, h.registries⟩
      name := textField_eq_ok_iff.1 ⟨_, h.name⟩
      homepage := textField_eq_ok_iff.1 ⟨_, h.homepage⟩
      cwd := textField_eq_ok_iff.1 ⟨_, h.cwd⟩
      output := textField_eq_ok_iff.1 ⟨_, h.output⟩
      dependencies := namesField_eq_ok_iff.1 ⟨_, h.dependencies⟩
      devDependencies := namesField_eq_ok_iff.1 ⟨_, h.devDependencies⟩ }

theorem exists_reads (base : Text) (path : Option Text) (h : WellTyped ms) :
    ∃ c, Reads base path ms c := by
  obtain ⟨t, hroot⟩ := h.root
  obtain ⟨p, hp⟩ := rootField_text base t
  obtain ⟨ps, hps⟩ := patternsField_eq_ok_iff.2 h.scanPatterns
  obtain ⟨rs, hrs⟩ := registriesField_eq_ok_iff.2 h.registries
  obtain ⟨name, hname⟩ := textField_eq_ok_iff.2 h.name
  obtain ⟨homepage, hhome⟩ := textField_eq_ok_iff.2 h.homepage
  obtain ⟨cwd, hcwd⟩ := textField_eq_ok_iff.2 h.cwd
  obtain ⟨output, hout⟩ := textField_eq_ok_iff.2 h.output
  obtain ⟨deps, hdeps⟩ := namesField_eq_ok_iff.2 h.dependencies
  obtain ⟨devs, hdevs⟩ := namesField_eq_ok_iff.2 h.devDependencies
  exact ⟨⟨p, name, homepage, cwd, output, deps, devs, rs, _, _, path⟩,
    ⟨_, hroot, hp⟩, ⟨ps, hps, rfl, rfl⟩, hrs, hname, hhome, hcwd, hout, hdeps, hdevs, rfl⟩

theorem directories_of_ofJson (h : ofJson w base path v = .ok c) :
    (∃ d, c.root = w.absolute d) ∧ (∃ d, c.cwd = w.absolute d) ∧ ∃ d, c.output = w.absolute d := by
  obtain ⟨ms, rfl⟩ := exists_obj_of_ofJson h
  obtain ⟨d, -, rfl⟩ := ofJson_obj_eq_ok_iff.1 h
  exact ⟨⟨d.root, rfl⟩, directory_eq w d.root d.cwd, directory_eq w d.root d.output⟩

theorem ofJson_eq_ok_iff :
    (∃ c, ofJson w base path v = .ok c) ↔ ∃ ms, v = .obj ms ∧ WellTyped ms := by
  constructor
  · rintro ⟨c, h⟩
    obtain ⟨ms, rfl⟩ := exists_obj_of_ofJson h
    obtain ⟨d, hread, -⟩ := ofJson_obj_eq_ok_iff.1 h
    exact ⟨ms, rfl, hread.wellTyped⟩
  · rintro ⟨ms, rfl, h⟩
    obtain ⟨d, hread⟩ := exists_reads base path h
    exact ⟨d.resolve w, ofJson_obj_eq_ok_iff.2 ⟨d, hread, rfl⟩⟩

/-- An object that has no root, or one that does not count as given. -/
def RootMissing (v : Json) : Prop :=
  ∃ ms, v = .obj ms ∧ givenField ms (ofString "root") = none

/-- A value that makes no configuration has no root, or has a field that is found malformed, or the
root is used as a path without being a text. -/
theorem fault_of_ofJson (h : ofJson w base path v = .error e) :
    (RootMissing v ∧ e = .rootUnspecified) ∨ e.isInvalidConfiguration = true ∨
      ∃ root, RootNotText v root ∧ e = .rootNotPath root.shapeName := by
  unfold ofJson at h
  split at h
  · next ms =>
    split at h
    · next hroot =>
      cases h
      exact Or.inl ⟨⟨ms, rfl, hroot⟩, rfl⟩
    right
    next root hroot =>
    simp only [except_bind_eq_error] at h
    rcases h with h | ⟨ps, -, h⟩
    · exact Or.inl (by rw [patternsField_eq_error h]; rfl)
    rcases h with h | ⟨rs, -, h⟩
    · exact Or.inl (by rw [registriesField_eq_error h]; rfl)
    rcases h with h | ⟨joined, hj, h⟩
    · obtain ⟨hn, he⟩ := notText_of_rootField_error h
      exact Or.inr ⟨root, ⟨ms, rfl, hroot, hn⟩, he⟩
    rcases h with h | ⟨name, -, h⟩
    · exact Or.inl (by rw [textField_eq_error h]; rfl)
    rcases h with h | ⟨homepage, -, h⟩
    · exact Or.inl (by rw [textField_eq_error h]; rfl)
    rcases h with h | ⟨cwd, -, h⟩
    · exact Or.inl (by rw [textField_eq_error h]; rfl)
    rcases h with h | ⟨output, -, h⟩
    · exact Or.inl (by rw [textField_eq_error h]; rfl)
    rcases h with h | ⟨deps, -, h⟩
    · exact Or.inl (by rw [namesField_eq_error h]; rfl)
    rcases h with h | ⟨devs, -, h⟩
    · exact Or.inl (by rw [namesField_eq_error h]; rfl)
    split at h
    · cases h
    · next hnot =>
      have hr : joined = root ∧ ¬ root.IsText := eq_of_rootField hj fun ⟨p, hp⟩ => hnot p hp
      cases h
      exact Or.inr ⟨root, ⟨ms, rfl, hroot, hr.2⟩, by rw [hr.1]⟩
  · cases h
    exact Or.inr (Or.inl rfl)

end Config

/-! ## Alias tables -/

/-- The value describes an alias. -/
def Alias.WellTyped (v : Json) : Prop :=
  v.IsText ∨ ∃ ms : Members, v = .obj ms ∧ (∃ t, ms.get? (ofString "url") = some (.str t)) ∧
    Omissible Json.IsObject (ms.get? (ofString "params")) ∧
    Omissible Json.IsObject (ms.get? (ofString "headers"))

/-- The parameters or the headers of an alias are given, but they are no object. -/
def Alias.NotMapping (v pairs : Json) : Prop :=
  ∃ ms : Members, v = .obj ms ∧
    (ms.get? (ofString "params") = some pairs ∨ ms.get? (ofString "headers") = some pairs) ∧
    pairs.isGiven = true ∧ ¬ pairs.IsObject

namespace Alias

theorem textPairs_eq_ok_iff {field : Option Json} :
    (∃ ps, textPairs field = .ok ps) ↔ Omissible Json.IsObject field := by
  unfold textPairs Omissible Json.IsObject
  rcases field with _ | v
  · simp
  · rcases hg : v.isGiven
    · simp [hg]
    · cases v <;> simp [hg]

theorem textPairs_eq_error {field : Option Json} (h : textPairs field = .error e) :
    ∃ pairs, field = some pairs ∧ pairs.isGiven = true ∧ ¬ pairs.IsObject ∧
      e = .notMapping pairs.shapeName := by
  unfold textPairs at h
  rcases field with _ | v
  · cases h
  · dsimp only at h
    split at h
    · cases h
    · next hg =>
      split at h
      · cases h
      · next hn =>
        cases h
        exact ⟨v, rfl, by simpa using hg, fun ⟨ms, hm⟩ => hn ms hm, rfl⟩

theorem ofJson_obj_eq_ok_iff {key : Text} {ms : Members} :
    (∃ a, ofJson key (.obj ms) = .ok a) ↔
      (∃ t, ms.get? (ofString "url") = some (.str t)) ∧
        Omissible Json.IsObject (ms.get? (ofString "params")) ∧
        Omissible Json.IsObject (ms.get? (ofString "headers")) := by
  rw [← textPairs_eq_ok_iff, ← textPairs_eq_ok_iff]
  unfold ofJson
  dsimp only
  split
  · next t ht =>
    simp only [except_bind_eq_ok]
    constructor
    · rintro ⟨a, params, hp, headers, hh, -⟩
      exact ⟨⟨t, ht⟩, ⟨params, hp⟩, ⟨headers, hh⟩⟩
    · rintro ⟨-, ⟨params, hp⟩, ⟨headers, hh⟩⟩
      exact ⟨_, params, hp, headers, hh, rfl⟩
  · next hn =>
    constructor
    · rintro ⟨a, ha⟩
      cases ha
    · rintro ⟨⟨t, ht⟩, -⟩
      exact absurd ht (hn t)

theorem ofJson_eq_ok_iff {key : Text} : (∃ a, ofJson key v = .ok a) ↔ WellTyped v := by
  unfold WellTyped
  cases v with
  | str t => exact ⟨fun _ => Or.inl ⟨t, rfl⟩, fun _ => ⟨_, rfl⟩⟩
  | obj ms => rw [ofJson_obj_eq_ok_iff]; simp [Json.IsText]
  | _ => simp [ofJson, Json.IsText]

theorem fault_of_ofJson {key : Text} (h : ofJson key v = .error e) :
    e.isInvalidConfiguration = true ∨
      ∃ pairs, NotMapping v pairs ∧ e = .notMapping pairs.shapeName := by
  unfold ofJson at h
  split at h
  · cases h
  · next ms =>
    split at h
    · simp only [except_bind_eq_error] at h
      rcases h with h | ⟨params, -, h⟩
      · obtain ⟨pairs, hp, hg, hn, he⟩ := textPairs_eq_error h
        exact Or.inr ⟨pairs, ⟨ms, rfl, Or.inl hp, hg, hn⟩, he⟩
      rcases h with h | ⟨headers, -, h⟩
      · obtain ⟨pairs, hp, hg, hn, he⟩ := textPairs_eq_error h
        exact Or.inr ⟨pairs, ⟨ms, rfl, Or.inr hp, hg, hn⟩, he⟩
      · cases h
    · cases h
      exact Or.inl rfl
  · cases h
    exact Or.inl rfl

end Alias

namespace AliasTable

theorem ofMembers_eq_ok_iff {ms : Members} :
    (∃ table, ofMembers ms = .ok table) ↔ ∀ m ∈ ms, Alias.WellTyped m.2 := by
  induction ms with
  | nil => simp [ofMembers]
  | cons m ms ih =>
    unfold ofMembers
    simp only [except_bind_eq_ok, List.mem_cons, forall_eq_or_imp, ← ih]
    constructor
    · rintro ⟨table, a, ha, as, has, -⟩
      exact ⟨Alias.ofJson_eq_ok_iff.1 ⟨a, ha⟩, as, has⟩
    · rintro ⟨hw, as, has⟩
      obtain ⟨a, ha⟩ := Alias.ofJson_eq_ok_iff.2 hw
      exact ⟨_, a, ha, as, has, rfl⟩

theorem fault_of_ofMembers {ms : Members} (h : ofMembers ms = .error e) :
    e.isInvalidConfiguration = true ∨
      ∃ m ∈ ms, ∃ pairs, Alias.NotMapping m.2 pairs ∧ e = .notMapping pairs.shapeName := by
  induction ms with
  | nil => cases h
  | cons m ms ih =>
    unfold ofMembers at h
    simp only [except_bind_eq_error] at h
    rcases h with h | ⟨a, -, h⟩
    · rcases Alias.fault_of_ofJson h with he | ⟨pairs, hp, he⟩
      · exact Or.inl he
      · exact Or.inr ⟨m, List.mem_cons_self, pairs, hp, he⟩
    rcases h with h | ⟨as, -, h⟩
    · rcases ih h with he | ⟨m', hm, hp⟩
      · exact Or.inl he
      · exact Or.inr ⟨m', List.mem_cons_of_mem m hm, hp⟩
    · cases h

theorem ofJson_eq_ok_iff :
    (∃ table, (AliasTable.ofJson v).result = .ok table) ↔
      (v.isGiven = true → ∃ ms, v = .obj ms ∧ ∀ m ∈ ms, Alias.WellTyped m.2) := by
  unfold AliasTable.ofJson
  rcases hg : v.isGiven
  · simp [Outcome.value]
  cases v with
  | obj ms =>
    simp only [← ofMembers_eq_ok_iff, Json.obj.injEq, exists_eq_left']
    rcases AliasTable.ofMembers ms with e | table <;> simp [Outcome.fail]
  | _ => simp [Outcome.fail]

theorem fault_of_ofJson (h : (AliasTable.ofJson v).result = .error e) :
    e.isInvalidConfiguration = true ∨
      ∃ ms, v = .obj ms ∧ ∃ m ∈ ms, ∃ pairs,
        Alias.NotMapping m.2 pairs ∧ e = .notMapping pairs.shapeName := by
  unfold AliasTable.ofJson at h
  split at h
  · cases h
  cases v with
  | obj ms =>
    dsimp only at h
    split at h
    · cases h
    · next f hf =>
      cases h
      exact (fault_of_ofMembers hf).imp_right fun hm => ⟨ms, rfl, hm⟩
  | _ =>
    cases h
    exact Or.inl rfl

end AliasTable

/-! ## The configuration file -/

variable {w : Workspace} {start given : Text} {c : Config}

theorem loadConfig_eq_ok (h : (loadConfig w start given).result = .ok c) :
    ∃ base path v, Config.ofJson w base path v = .ok c := by
  unfold loadConfig at h
  obtain ⟨path, -, h⟩ := Outcome.bind_eq_ok.1 h
  split at h
  · cases h
  · cases h
  · next v hv =>
    obtain ⟨-, -, h⟩ := Outcome.bind_eq_ok.1 h
    exact ⟨_, _, v, h⟩

end ComponentManifest
