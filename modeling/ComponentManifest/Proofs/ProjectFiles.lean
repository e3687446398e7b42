import ComponentManifest.Proofs.StableBuild

/-!
# Project files that cannot be used

What a project declares comes from two files, and each of them may be missing, or hold anything.
Loading takes one thing after another from the files, and every step may fail. The failures are
caught where they arise, and nothing is kept of a package file that fails halfway. So each file
counts in full or not at all, whatever the other one holds. Only a file that is nested too deep is
not caught: then there is no result.

1. `Loading`, step by step, with what a step may raise.
2. `Loading.run_project`: what is raised and what is left is what `loadProject` says.
3. What is taken from each file.
4. `project_files_independent`, and a file for which loading raises.
-/

namespace ComponentManifest

open ComponentManifest.Path (Plain rooted)
open Text (ofString)

variable {w w' : Workspace} {b : Bool} {ss ds names : List Text} {root root' p x : Text}
  {ms : Members} {l : Location}

/-! ## Loading step by step -/

namespace Loading

/-- What a step may raise: a file cannot be read, it holds no JSON text or one that is nested too
deep, or a value is asked for members that it has not. -/
inductive Failure where
  | access (why : AccessError)
  | malformed
  | tooDeep (what : Nested)
  | noMembers
  deriving DecidableEq

/-- A step changes the reports and what was taken so far; if it fails, the changes stay. -/
abbrev Step (α : Type) := ExceptT Failure (StateM (List Event × ProjectDependencies)) α

/-- Reports an event. -/
def report (e : Event) : Step Unit := modify fun s => (s.1 ++ [e], s.2)

/-- Changes what was taken so far. -/
def take (f : ProjectDependencies → ProjectDependencies) : Step Unit :=
  modify fun s => (s.1, f s.2)

/-- The value in a file. -/
def value (w : Workspace) (p : Text) : Step Json :=
  match w.read p with
  | .error why => throw (.access why)
  | .ok content =>
    match jsonIn (some content) with
    | .ok v => return v
    | .error .malformed => throw .malformed
    | .error (.tooDeep what) => throw (.tooDeep what)

/-- The keys of a section; whatever counts as given is asked for them. -/
def keys (v : Json) (key : Text) : Step (List Text) :=
  match v with
  | .obj ms =>
    match givenField ms key with
    | none => return []
    | some (.obj names) => return Members.keys names
    | some _ => throw .noMembers
  | _ => throw .noMembers

/-- Takes the alias table of a components file, if it has one. -/
def table (w : Workspace) (p : Text) : Step Unit := do
  match ← value w p with
  | .obj ms =>
    match Members.get? ms (ofString "registries") with
    | some (.obj rs) => take fun d => { d with registries := rs }
    | _ => pure ()
  | _ => pure ()

/-- Takes the alias table of the nearest components file. A file that cannot be read or holds no
JSON text is reported; nothing else is caught. -/
def registries (w : Workspace) (root : Text) : Step Unit :=
  match findUp w [componentsFile] root with
  | none => report (.componentsAbsent root)
  | some p =>
    tryCatch (table w p) fun
      | .access _ | .malformed => report (.componentsUnreadable p)
      | e => throw e

/-- Takes the two lists of a package file one after the other. -/
def lists (v : Json) : Step Unit := do
  let dependencies ← keys v (ofString "dependencies")
  take fun d => { d with dependencies }
  let devDependencies ← keys v (ofString "devDependencies")
  take fun d => { d with devDependencies }

/-- Takes the two lists of the package file. If that fails, it is reported and both lists are
emptied; only a file that is nested too deep is not caught. -/
def packages (w : Workspace) (root : Text) : Step Unit :=
  let p := Path.join root packageFile
  if !w.exists? p then report (.packageAbsent root)
  else
    tryCatch (value w p >>= lists) fun
      | .tooDeep what => throw (.tooDeep what)
      | _ => do
        report .packageUnreadable
        take fun d => { d with dependencies := [], devDependencies := [] }

/-- Takes what the files of a project declare. -/
def project (w : Workspace) (root : Text) : Step Unit := do
  registries w root
  packages w root

/-- The result of some steps, and what they leave of the reports and of what was taken. -/
def run {α : Type} (x : Step α) (s : List Event × ProjectDependencies) :
    Except Failure α × List Event × ProjectDependencies :=
  (ExceptT.run x).run s

/-! ## What is raised -/

variable {α β : Type} {y : Step α} {f : α → Step β} {g : Failure → Step α} {a : α} {e : Failure}
  {s s' : List Event × ProjectDependencies} {v : Json} {es : List Event} {d : ProjectDependencies}

theorem run_bind_of_ok (h : run y s = (.ok a, s')) : run (y >>= f) s = run (f a) s' := by
  unfold run at h ⊢
  rw [ExceptT.run_bind, StateT.run_bind, h]
  rfl

theorem run_bind_of_error (h : run y s = (.error e, s')) : run (y >>= f) s = (.error e, s') := by
  unfold run at h ⊢
  rw [ExceptT.run_bind, StateT.run_bind, h]
  rfl

theorem run_tryCatch_of_ok (h : run y s = (.ok a, s')) : run (tryCatch y g) s = (.ok a, s') := by
  unfold run at h ⊢
  rw [ExceptT.run_tryCatch, StateT.run_bind, h]
  rfl

theorem run_tryCatch_of_error (h : run y s = (.error e, s')) :
    run (tryCatch y g) s = run (g e) s' := by
  unfold run at h ⊢
  rw [ExceptT.run_tryCatch, StateT.run_bind, h]
  rfl

theorem run_value_of_ok (h : readJson w p = .ok v) : run (value w p) s = (.ok v, s) := by
  rw [readJson_eq] at h
  unfold value
  rcases hr : w.read p with why | content
  · rw [hr] at h
    cases h
  · rw [hr] at h
    dsimp only
    rw [show jsonIn (some content) = .ok v from h]
    rfl

theorem run_value_of_tooDeep {what : Nested} (h : readJson w p = .error (.tooDeep what)) :
    run (value w p) s = (.error (.tooDeep what), s) := by
  rw [readJson_eq] at h
  unfold value
  rcases hr : w.read p with why | content
  · rw [hr] at h
    cases h
  · rw [hr] at h
    dsimp only
    rw [show jsonIn (some content) = .error (.tooDeep what) from h]
    rfl

/-- Asking for the value of a malformed file raises a failure that is caught. -/
theorem run_value_of_malformed (h : readJson w p = .error .malformed) :
    (∃ why, run (value w p) s = (.error (.access why), s)) ∨
      run (value w p) s = (.error .malformed, s) := by
  rw [readJson_eq] at h
  unfold value
  rcases hr : w.read p with why | content
  · exact Or.inl ⟨why, rfl⟩
  · rw [hr] at h
    dsimp only
    rw [show jsonIn (some content) = .error .malformed from h]
    exact Or.inr rfl

/-- What a file leaves: its part of what is declared, or it is nested too deep and nothing
changes. -/
inductive Leaves {α : Type} (y : Step Unit) (s : List Event × ProjectDependencies)
    (o : Outcome α) (put : α → ProjectDependencies) : Prop
  | taken {a : α} (h : o.result = .ok a) (hr : run y s = (.ok (), s.1 ++ o.events, put a))
  | raised {what : Nested} (h : o.result = .error (.tooDeep what))
      (hr : run y s = (.error (.tooDeep what), s.1 ++ o.events, s.2))

theorem run_registries (hd : d.registries = []) :
    Leaves (registries w root) (es, d) (loadRegistries w root)
      fun rs => { d with registries := rs } := by
  obtain ⟨dependencies, devDependencies, rs⟩ := d
  obtain rfl : rs = [] := hd
  unfold registries loadRegistries
  rcases findUp w [componentsFile] root with _ | p
  · exact .taken rfl rfl
  dsimp only
  rcases hv : readJson w p with (_ | what) | v
  · refine .taken rfl ?_
    rcases run_value_of_malformed (s := (es, ⟨dependencies, devDependencies, []⟩)) hv with
      ⟨why, hrun⟩ | hrun
    · have htable : run (table w p) _ = _ := run_bind_of_error hrun
      rw [run_tryCatch_of_error htable]
      rfl
    · have htable : run (table w p) _ = _ := run_bind_of_error hrun
      rw [run_tryCatch_of_error htable]
      rfl
  · have htable : run (table w p) (es, ⟨dependencies, devDependencies, []⟩) = _ :=
      run_bind_of_error (run_value_of_tooDeep hv)
    refine .raised rfl ?_
    rw [run_tryCatch_of_error htable]
    exact congrArg (fun es => (_, es, _)) (List.append_nil es).symm
  · refine .taken rfl (run_tryCatch_of_ok ((run_bind_of_ok (run_value_of_ok hv)).trans ?_))
    rw [show (Outcome.value (registriesOf v)).events = [] from rfl, List.append_nil]
    unfold registriesOf
    cases v with
    | obj ms =>
      dsimp only
      rcases Members.get? ms (ofString "registries") with _ | _ | _ | _ | _ | _ | _ | _ <;> rfl
    | _ => rfl

theorem run_keys (ms : Members) (key : Text) (s : List Event × ProjectDependencies) :
    run (keys (.obj ms) key) s =
      match sectionKeys? ms key with
      | some names => (.ok names, s)
      | none => (.error .noMembers, s) := by
  unfold keys sectionKeys?
  dsimp only
  rcases givenField ms key with _ | _ | _ | _ | _ | _ | _ | _ <;> rfl

/-- The two lists are taken, or a step fails; then nothing but the first list is touched. -/
theorem run_lists (v : Json) (es : List Event) (d : ProjectDependencies) :
    (∃ names, packagesOf? v = some names ∧
      run (lists v) (es, d) =
        (.ok (), es, { d with dependencies := names.1, devDependencies := names.2 })) ∨
      packagesOf? v = none ∧ ∃ ds,
        run (lists v) (es, d) = (.error .noMembers, es, { d with dependencies := ds }) := by
  cases v with
  | obj ms =>
    unfold packagesOf?
    dsimp only
    have hfirst := run_keys ms (ofString "dependencies") (es, d)
    rcases hk : sectionKeys? ms (ofString "dependencies") with _ | dependencies
    · rw [hk] at hfirst
      exact Or.inr ⟨rfl, d.dependencies, run_bind_of_error hfirst⟩
    rw [hk] at hfirst
    have hstart : run (lists (.obj ms)) (es, d) = _ := run_bind_of_ok hfirst
    have htake : run (take fun d => { d with dependencies }) (es, d) =
      (.ok (), es, { d with dependencies }) := rfl
    -- From here on the first list is taken, also when the second section fails.
    have hsecond := run_keys ms (ofString "devDependencies") (es, { d with dependencies })
    rcases hk' : sectionKeys? ms (ofString "devDependencies") with _ | devDependencies
    · rw [hk'] at hsecond
      refine Or.inr ⟨rfl, dependencies, ?_⟩
      rw [hstart, run_bind_of_ok htake, run_bind_of_error hsecond]
    · rw [hk'] at hsecond
      refine Or.inl ⟨(dependencies, devDependencies), rfl, ?_⟩
      rw [hstart, run_bind_of_ok htake, run_bind_of_ok hsecond]
      rfl
  | _ => exact Or.inr ⟨rfl, d.dependencies, rfl⟩

theorem run_packages (hd : d.dependencies = []) (hv : d.devDependencies = []) :
    Leaves (packages w root) (es, d) (loadPackages w root)
      fun names => { d with dependencies := names.1, devDependencies := names.2 } := by
  obtain ⟨dependencies, devDependencies, rs⟩ := d
  obtain rfl : dependencies = [] := hd
  obtain rfl : devDependencies = [] := hv
  unfold packages loadPackages
  dsimp only
  rcases w.exists? (Path.join root packageFile)
  · exact .taken rfl rfl
  rw [Bool.not_true, if_neg Bool.false_ne_true, if_neg Bool.false_ne_true]
  rcases hv : readJson w (Path.join root packageFile) with (_ | what) | v
  · refine .taken rfl ?_
    rcases run_value_of_malformed (s := (es, ⟨[], [], rs⟩)) hv with ⟨why, hrun⟩ | hrun
    · rw [run_tryCatch_of_error (run_bind_of_error hrun)]
      rfl
    · rw [run_tryCatch_of_error (run_bind_of_error hrun)]
      rfl
  · refine .raised rfl ?_
    rw [run_tryCatch_of_error (run_bind_of_error (run_value_of_tooDeep hv))]
    exact congrArg (fun es => (_, es, _)) (List.append_nil es).symm
  · have hvalue := run_value_of_ok (s := (es, ⟨[], [], rs⟩)) hv
    rcases run_lists v es ⟨[], [], rs⟩ with ⟨names, hp, hrun⟩ | ⟨hp, ds, hrun⟩
    · rw [show Except.map packagesOf? (.ok v : Except Json.Failure Json) = .ok (some names) from
        congrArg Except.ok hp]
      refine .taken rfl (run_tryCatch_of_ok ((run_bind_of_ok hvalue).trans ?_))
      rw [hrun]
      exact congrArg (fun es => (_, es, _)) (List.append_nil es).symm
    · rw [show Except.map packagesOf? (.ok v : Except Json.Failure Json) = .ok none from
        congrArg Except.ok hp]
      refine .taken rfl ?_
      rw [run_tryCatch_of_error ((run_bind_of_ok hvalue).trans hrun)]
      rfl

/-- Loading leaves what `loadProject` says, and raises nothing unless a file is nested too deep. -/
theorem run_project (w : Workspace) (root : Text) :
    (∀ d, (loadProject w root).result = .ok d →
      run (project w root) ([], ⟨[], [], []⟩) = (.ok (), (loadProject w root).events, d)) ∧
    ∀ e, (loadProject w root).result = .error e → ∃ what d, e = .tooDeep what ∧
      run (project w root) ([], ⟨[], [], []⟩) =
        (.error (.tooDeep what), (loadProject w root).events, d) := by
  have hfirst : Leaves (registries w root) ([], ⟨[], [], []⟩) (loadRegistries w root) _ :=
    run_registries rfl
  unfold loadProject project
  generalize loadRegistries w root = first at hfirst ⊢
  obtain ⟨events, result⟩ := first
  rcases hfirst with ⟨rfl, hr⟩ | ⟨rfl, hr⟩
  · next rs =>
    rw [run_bind_of_ok hr, List.nil_append]
    have hsecond : Leaves (packages w root) (events, ⟨[], [], rs⟩) (loadPackages w root) _ :=
      run_packages rfl rfl
    generalize loadPackages w root = second at hsecond ⊢
    obtain ⟨more, result⟩ := second
    rcases hsecond with ⟨rfl, hr⟩ | ⟨rfl, hr⟩
    · refine ⟨fun d hd => ?_, fun e he => by cases he⟩
      cases hd
      rw [hr]
      exact congrArg (fun es => (_, _ ++ es, _)) (List.append_nil more).symm
    · refine ⟨fun d hd => (by cases hd), fun e he => ?_⟩
      cases he
      exact ⟨_, _, rfl, hr⟩
  · refine ⟨fun d hd => (by cases hd), fun e he => ?_⟩
    cases he
    exact ⟨_, _, rfl, run_bind_of_error hr⟩

end Loading

/-! ## What is taken -/

/-- What is there is taken; where nothing is there it is empty. -/
def Taken {α : Type} (there : α → Prop) (empty a : α) : Prop :=
  there a ∨ (∀ x, ¬ there x) ∧ a = empty

/-- The file holds an object with an alias table. -/
def HoldsTable (w : Workspace) (p : Text) (rs : Members) : Prop :=
  ∃ ms, readJson w p = .ok (.obj ms) ∧ Members.get? ms (ofString "registries") = some (.obj rs)

/-- The section names its keys in their order; a missing one, or one that does not count as given,
names nothing. -/
def Names (ms : Members) (key : Text) (names : List Text) : Prop :=
  givenField ms key = none ∧ names = [] ∨
    ∃ ks, givenField ms key = some (.obj ks) ∧ names = Members.keys ks

/-- The file holds an object with two sections of names. -/
def HoldsLists (w : Workspace) (p : Text) (lists : List Text × List Text) : Prop :=
  ∃ ms, readJson w p = .ok (.obj ms) ∧ Names ms (ofString "dependencies") lists.1 ∧
    Names ms (ofString "devDependencies") lists.2

theorem sectionKeys?_eq_some_iff {key : Text} :
    sectionKeys? ms key = some names ↔ Names ms key names := by
  unfold sectionKeys? Names
  rcases givenField ms key with _ | _ | _ | _ | _ | _ | _ | _ <;> simp [eq_comm]

theorem packagesOf?_eq_some_iff {lists : List Text × List Text} :
    packagesOf? (.obj ms) = some lists ↔
      Names ms (ofString "dependencies") lists.1 ∧
        Names ms (ofString "devDependencies") lists.2 := by
  rw [← sectionKeys?_eq_some_iff, ← sectionKeys?_eq_some_iff]
  unfold packagesOf?
  dsimp only
  rcases sectionKeys? ms (ofString "dependencies") with _ | dependencies
  · simp
  · rcases sectionKeys? ms (ofString "devDependencies") with _ | devDependencies <;>
      simp [Prod.ext_iff]

theorem holdsLists_iff {lists : List Text × List Text} :
    HoldsLists w p lists ↔ (readJson w p).toOption.bind packagesOf? = some lists := by
  unfold HoldsLists
  rcases readJson w p with failure | v
  · simp [Except.toOption]
  show _ ↔ packagesOf? v = some lists
  cases v with
  | obj ms => simp [packagesOf?_eq_some_iff]
  | _ => simp [packagesOf?]

theorem taken_lists {lists : List Text × List Text} (h : (loadPackages w root).result = .ok lists) :
    Taken (HoldsLists w (Path.join root packageFile)) ([], []) lists := by
  obtain rfl := loadPackages_names h
  unfold packageKeys
  rcases h : (readJson w (Path.join root packageFile)).toOption.bind packagesOf? with _ | lists
  · refine Or.inr ⟨fun lists hl => ?_, rfl⟩
    rw [holdsLists_iff, h] at hl
    cases hl
  · exact Or.inl (holdsLists_iff.2 h)

theorem taken_registriesOf {rs : Members} (h : takenFrom [] registriesOf (readJson w p) = .ok rs) :
    Taken (HoldsTable w p) [] rs := by
  unfold HoldsTable
  rcases hv : readJson w p with (_ | what) | v
  · rw [hv] at h
    exact Or.inr ⟨by simp, (Except.ok.inj h).symm⟩
  · rw [hv] at h
    cases h
  rw [hv] at h
  obtain rfl : registriesOf v = rs := Except.ok.inj h
  cases v with
  | obj ms =>
    unfold registriesOf
    dsimp only
    split
    · next rs h => exact Or.inl ⟨ms, rfl, h⟩
    · next h =>
      refine Or.inr ⟨?_, rfl⟩
      rintro rs ⟨ms', hms, hrs⟩
      obtain rfl : ms = ms' := Json.obj.inj (Except.ok.inj hms)
      exact h rs hrs
  | _ => exact Or.inr ⟨by simp, rfl⟩

theorem findUp_iff_nearest (hs : Plain ss) (h : w.absolute root = rooted b ss) :
    findUp w [componentsFile] root = some p ↔
      ∃ above, w.Nearest b componentsFile ss above ∧ p = rooted b (above ++ [componentsFile]) := by
  rw [findUp_of_absolute hs h]
  refine ⟨nearest_of_findUp hs plain_componentsFile, ?_⟩
  rintro ⟨above, hn, rfl⟩
  exact findUp_of_nearest hs plain_componentsFile hn

theorem taken_table {rs : Members} (hs : Plain ss) (h : w.absolute root = rooted b ss)
    (hl : (loadRegistries w root).result = .ok rs) :
    Taken (fun rs => ∃ above, w.Nearest b componentsFile ss above ∧
      HoldsTable w (rooted b (above ++ [componentsFile])) rs) [] rs := by
  rw [loadRegistries_result] at hl
  rcases hf : findUp w [componentsFile] root with _ | p
  · rw [hf] at hl
    refine Or.inr ⟨?_, (Except.ok.inj hl).symm⟩
    rintro rs ⟨above, hn, -⟩
    rw [(findUp_iff_nearest hs h).2 ⟨above, hn, rfl⟩] at hf
    cases hf
  rw [hf] at hl
  obtain ⟨above, hn, rfl⟩ := (findUp_iff_nearest hs h).1 hf
  rcases taken_registriesOf hl with ht | ⟨hno, hr⟩
  · exact Or.inl ⟨above, hn, ht⟩
  · refine Or.inr ⟨?_, hr⟩
    rintro rs ⟨other, ho, ht⟩
    rw [← Option.some.inj (hf.symm.trans ((findUp_iff_nearest hs h).2 ⟨other, ho, rfl⟩))] at ht
    exact hno rs ht

/-! ## The two files of a project -/

/-- One of the two files of a project is nested too deep: the nearest components file, seen from the
location `ss` of the root, or the package file. -/
def NestedTooDeep (w : Workspace) (root : Text) (b : Bool) (ss : List Text) (what : Nested) :
    Prop :=
  (∃ above, w.Nearest b componentsFile ss above ∧
    readJson w (rooted b (above ++ [componentsFile])) = .error (.tooDeep what)) ∨
  readJson w (Path.join root packageFile) = .error (.tooDeep what)

theorem takenFrom_eq_error {α : Type} {empty : α} {take : Json → α} {e : Fault}
    {x : Except Json.Failure Json} :
    takenFrom empty take x = .error e ↔ ∃ what, x = .error (.tooDeep what) ∧ e = .tooDeep what := by
  unfold takenFrom
  rcases x with (_ | what) | v <;> simp [eq_comm]

/-- Loading fails exactly for files that are nested too deep. -/
theorem nestedTooDeep_of_loadProject (hs : Plain ss) (h : w.absolute root = rooted b ss) :
    (∀ e, (loadProject w root).result = .error e →
      ∃ what, NestedTooDeep w root b ss what ∧ e = .tooDeep what) ∧
    ∀ d, (loadProject w root).result = .ok d → ∀ what, ¬ NestedTooDeep w root b ss what := by
  refine ⟨fun e he => ?_, fun d hd what hdeep => ?_⟩
  · rcases Outcome.bind_eq_error he with he | ⟨rs, -, he⟩
    · rw [loadRegistries_result] at he
      obtain ⟨what, hread, rfl⟩ := takenFrom_eq_error.1 he
      rcases hf : findUp w [componentsFile] root with _ | p
      · rw [hf] at hread
        cases hread
      · rw [hf] at hread
        obtain ⟨above, hn, rfl⟩ := (findUp_iff_nearest hs h).1 hf
        exact ⟨what, Or.inl ⟨above, hn, hread⟩, rfl⟩
    · rcases Outcome.bind_eq_error he with he | ⟨names, -, he⟩
      · rw [loadPackages_result] at he
        obtain ⟨what, hread, rfl⟩ := takenFrom_eq_error.1 he
        exact ⟨what, Or.inr hread, rfl⟩
      · cases he
  · obtain ⟨htable, hlists⟩ := loadProject_eq_ok.1 hd
    rcases hdeep with ⟨above, hn, hread⟩ | hread
    · rw [loadRegistries_result, (findUp_iff_nearest hs h).2 ⟨above, hn, rfl⟩] at htable
      dsimp only at htable
      rw [hread] at htable
      cases htable
    · rw [loadPackages_result, hread] at hlists
      cases hlists

/-- Loading raises nothing unless a project file is nested too deep. Each file then counts in full
or not at all, whatever the other one holds. -/
theorem project_files_independent (w : Workspace) (root : Text) :
    (∃ b ss, Plain ss ∧ w.absolute root = rooted b ss ∧
      (∀ e, (loadProject w root).result = .error e → ∃ what d,
        NestedTooDeep w root b ss what ∧ e = .tooDeep what ∧
        Loading.run (Loading.project w root) ([], ⟨[], [], []⟩) =
          (.error (.tooDeep what), (loadProject w root).events, d)) ∧
      ∀ d, (loadProject w root).result = .ok d →
        (∀ what, ¬ NestedTooDeep w root b ss what) ∧
        Loading.run (Loading.project w root) ([], ⟨[], [], []⟩) =
          (.ok (), (loadProject w root).events, d) ∧
        Taken (fun rs => ∃ above, w.Nearest b componentsFile ss above ∧
          HoldsTable w (rooted b (above ++ [componentsFile])) rs) [] d.registries ∧
        Taken (HoldsLists w (Path.join root packageFile)) ([], [])
          (d.dependencies, d.devDependencies)) ∧
    ∀ w' root' d d', (loadProject w root).result = .ok d →
      (loadProject w' root').result = .ok d' →
        (tableSource? w' root' = tableSource? w root → d'.registries = d.registries) ∧
        (listSource? w' root' = listSource? w root →
          d'.dependencies = d.dependencies ∧ d'.devDependencies = d.devDependencies) ∧
        ∀ b ss, Plain ss → root = rooted b ss → root' = root → w.tree.LinkFree →
          w'.tree.LinkFree →
            (w.tree.SameFiles packageFile w'.tree → d'.registries = d.registries) ∧
            (w.tree.SameFiles componentsFile w'.tree →
              d'.dependencies = d.dependencies ∧ d'.devDependencies = d.devDependencies) := by
  obtain ⟨hok, herror⟩ := Loading.run_project w root
  refine ⟨?_, fun w' root' d d' hd hd' => ?_⟩
  · obtain ⟨b, ss, hs, hroot⟩ := w.exists_rooted root
    obtain ⟨hdeep, hflat⟩ := nestedTooDeep_of_loadProject hs hroot
    refine ⟨b, ss, hs, hroot, fun e he => ?_, fun d hd => ⟨hflat d hd, hok d hd, ?_, ?_⟩⟩
    · obtain ⟨what, hnested, rfl⟩ := hdeep e he
      obtain ⟨what', d, heq, hrun⟩ := herror _ he
      obtain rfl := Fault.tooDeep.inj heq
      exact ⟨what, d, hnested, rfl, hrun⟩
    · exact taken_table hs hroot (loadProject_eq_ok.1 hd).1
    · exact taken_lists (loadProject_eq_ok.1 hd).2
  · obtain ⟨htable, hlists⟩ := loadProject_eq_ok.1 hd
    obtain ⟨htable', hlists'⟩ := loadProject_eq_ok.1 hd'
    have htables : tableSource? w' root' = tableSource? w root → d'.registries = d.registries :=
      fun h => Except.ok.inj (htable'.symm.trans ((loadRegistries_congr h).trans htable))
    have hboth : listSource? w' root' = listSource? w root →
        d'.dependencies = d.dependencies ∧ d'.devDependencies = d.devDependencies := fun h =>
      Prod.mk.inj (Except.ok.inj (hlists'.symm.trans ((loadPackages_congr h).trans hlists)))
    refine ⟨htables, hboth, ?_⟩
    rintro b ss hs rfl rfl ht ht'
    exact ⟨fun h => htables (tableSource?_of_sameFiles ht ht' h (by decide) hs),
      fun h => hboth (listSource?_of_sameFiles ht ht' h (by decide) hs)⟩

/-- A project with an alias table above its package file. -/
def declaringProject : Workspace where
  tree := {
    entries := [([componentsFile], .file (Text.encodeUtf8 <| ofString
        "\x7b\"registries\": \x7b\"@ui\": \"u\"\x7d\x7d")),
      ([['p']], .dir),
      ([['p'], packageFile], .file (Text.encodeUtf8 <| ofString <|
        "\x7b\"devDependencies\": null, \"dependencies\": \x7b\"vue\": 1, \"pug\": 2\x7d\x7d"))]
    named := by decide
    closed := by decide
    distinct := by decide }
  cwd := []

/-- The project with a section that is a number, after one that is as it should be. -/
def halfDeclaringProject : Workspace :=
  declaringProject.withTree <| declaringProject.tree.put [['p'], packageFile] <|
    .file (Text.encodeUtf8 <| ofString
      "\x7b\"devDependencies\": 7, \"dependencies\": \x7b\"vue\": 1\x7d\x7d")

theorem sameFiles_halfDeclaringProject :
    declaringProject.tree.SameFiles packageFile halfDeclaringProject.tree := by
  intro l x hx content
  have hne : l ++ [x] ≠ [['p'], packageFile] := by
    intro h
    have h : l ++ [x] = [['p']] ++ [packageFile] := h
    exact hx (List.singleton_inj.1 (List.append_inj' h rfl).2)
  show _ ↔ Tree.entry? (Tree.put _ _ _) (l ++ [x]) = _
  rw [Tree.entry?_put_of_ne hne]

theorem project_files_independent_half_declared :
    ∃ d d', (loadProject declaringProject "/p".toList).result = .ok d ∧
      (loadProject halfDeclaringProject "/p".toList).result = .ok d' ∧
      (Loading.run (Loading.project halfDeclaringProject "/p".toList) ([], ⟨[], [], []⟩)).1 =
        .ok () ∧
      d.dependencies = ["vue".toList, "pug".toList] ∧ d'.dependencies = [] ∧
      d'.registries = d.registries ∧ Members.keys d.registries = ["@ui".toList] := by
  have hnames : (loadProject declaringProject "/p".toList).result.toOption.map
      (fun d => (d.dependencies, Members.keys d.registries)) =
        some (["vue".toList, "pug".toList], ["@ui".toList]) := by decide +kernel
  have hnames' : (loadProject halfDeclaringProject "/p".toList).result.toOption.map
      (·.dependencies) = some [] := by decide +kernel
  rcases hd : (loadProject declaringProject "/p".toList).result with e | d
  · rw [hd] at hnames
    cases hnames
  rcases hd' : (loadProject halfDeclaringProject "/p".toList).result with e | d'
  · rw [hd'] at hnames'
    cases hnames'
  rw [hd] at hnames
  rw [hd'] at hnames'
  obtain ⟨hdependencies, hkeys⟩ := Prod.mk.inj (Option.some.inj hnames)
  obtain ⟨⟨b, ss, -, -, -, hloaded⟩, -⟩ :=
    project_files_independent halfDeclaringProject "/p".toList
  obtain ⟨-, hrun, -⟩ := hloaded d' hd'
  obtain ⟨-, hother⟩ := project_files_independent declaringProject "/p".toList
  have hs : Plain [['p']] := Tree.plain_of_validName (by decide)
  have hlinks : declaringProject.tree.LinkFree := Tree.linkFree_of_entries (by decide)
  have hlinks' : halfDeclaringProject.tree.LinkFree :=
    Tree.linkFree_of_entries (by decide +kernel)
  obtain ⟨-, -, hbroken⟩ := hother halfDeclaringProject "/p".toList d d' hd hd'
  obtain ⟨htable, -⟩ := hbroken false [['p']] hs rfl rfl hlinks hlinks'
  exact ⟨d, d', rfl, rfl, congrArg Prod.fst hrun, hdependencies, Option.some.inj hnames',
    htable sameFiles_halfDeclaringProject, hkeys⟩

/-- A package file with more opening brackets than the stack has levels, and nothing else. -/
def bracketedProject : Workspace where
  tree := {
    entries := [([['p']], .dir),
      ([['p'], packageFile], .file (Text.encodeUtf8 (List.replicate (maxLevels + 1) '[')))]
    named := by decide
    closed := by decide
    distinct := by decide }
  cwd := []

theorem readJson_bracketedProject :
    readJson bracketedProject (Path.join "/p".toList packageFile) = .error (.tooDeep .array) := by
  have hread : bracketedProject.read (Path.join "/p".toList packageFile) =
      .ok (Text.encodeUtf8 (List.replicate (maxLevels + 1) '[')) := rfl
  have hparse := Json.parse_brackets []
  rw [List.append_nil] at hparse
  rw [readJson_of_read hread (by simp), hparse]

theorem loadProject_of_lists {rs : Members} {e : Fault}
    (hr : (loadRegistries w root).result = .ok rs)
    (hl : (loadPackages w root).result = .error e) : (loadProject w root).result = .error e :=
  (Outcome.result_bind_of_ok hr).trans (Outcome.result_bind_of_error hl)

/-- Loading raises for such a file, although one that is no JSON text is otherwise only reported. -/
theorem brackets_escape_loading :
    (loadProject bracketedProject "/p".toList).result = .error (.tooDeep .array) ∧
      (Loading.run (Loading.project bracketedProject "/p".toList) ([], ⟨[], [], []⟩)).1 =
        .error (.tooDeep .array) := by
  have htable : (loadRegistries bracketedProject "/p".toList).result = .ok [] := by
    have hnone : findUp bracketedProject [componentsFile] "/p".toList = none := by decide +kernel
    rw [loadRegistries_result, hnone]
    rfl
  have hlists : (loadPackages bracketedProject "/p".toList).result =
      .error (.tooDeep .array) := by
    rw [loadPackages_result, readJson_bracketedProject]
    rfl
  have hdeep := loadProject_of_lists htable hlists
  obtain ⟨what, d, hwhat, hrun⟩ := (Loading.run_project bracketedProject "/p".toList).2 _ hdeep
  obtain rfl := Fault.tooDeep.inj hwhat
  exact ⟨hdeep, congrArg Prod.fst hrun⟩

end ComponentManifest
