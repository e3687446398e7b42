import ComponentManifest.Proofs.ManifestPaths
import ComponentManifest.Proofs.SessionHistory

/-!
# What a session generates

A session builds the manifest of its own configuration, or of that configuration with another
component pattern. The directories of a loaded configuration are normalised absolute paths.

1. Where a loaded configuration works.
2. The configuration of a request, and its refusal.
3. The manifest that an answer shows.
4. The unit and the files behind each item.
-/

namespace ComponentManifest

open ComponentManifest.Path (Plain rooted)

variable {s : Session} {v w : Workspace} {path pattern : Text} {c : Config} {m : Manifest}

/-! ## Loaded configurations -/

/-- The directories of the configuration are normalised absolute paths. -/
structure Config.Located (c : Config) : Prop where
  root : ∃ b ss, Plain ss ∧ c.root = rooted b ss
  cwd : ∃ b ss, Plain ss ∧ c.cwd = rooted b ss
  output : ∃ b ss, Plain ss ∧ c.output = rooted b ss

theorem Config.located_of_ofJson {base : Text} {configPath : Option Text} {j : Json}
    (h : ofJson w base configPath j = .ok c) : c.Located := by
  obtain ⟨hroot, hcwd, hout⟩ := directories_of_ofJson h
  exact ⟨Workspace.exists_rooted_of_absolute hroot,
    Workspace.exists_rooted_of_absolute hcwd, Workspace.exists_rooted_of_absolute hout⟩

theorem Config.Located.withPattern (h : c.Located) : (c.withPattern pattern).Located :=
  ⟨h.root, h.cwd, h.output⟩

namespace Session

theorem Holds.located (hold : s.Holds v path) (hc : s.config = some c) : c.Located := by
  obtain ⟨_, _, _, _, c', -, -, -, -, hof, hc'⟩ := hold.config
  obtain rfl : c = c' := Option.some.inj (hc.symm.trans hc')
  exact Config.located_of_ofJson hof

/-! ## Requests -/

theorem requireConfig_eq_ok : s.requireConfig w = .ok c ↔
    s.requireProject w = .ok () ∧ s.config = some c := by
  unfold requireConfig
  rw [except_bind_eq_ok]
  constructor
  · rintro ⟨_, hp, hc⟩
    split at hc
    · next own hown => exact ⟨hp, hown.trans (congrArg some (Except.ok.inj hc))⟩
    · cases hc
  · rintro ⟨hp, hc⟩
    exact ⟨(), hp, by rw [hc]; rfl⟩

/-- A request is for the configuration as it is, or with an accepted pattern. -/
theorem generateConfig_eq_ok : s.generateConfig w pattern = .ok c ↔
    ∃ own, s.requireProject w = .ok () ∧ s.config = some own ∧
      (pattern = [] ∧ c = own ∨
        pattern ≠ [] ∧ checkPattern pattern = none ∧ c = own.withPattern pattern) := by
  unfold generateConfig
  rw [except_bind_eq_ok]
  refine exists_congr fun own => ?_
  rw [requireConfig_eq_ok, and_assoc]
  refine and_congr_right fun _ => and_congr_right fun _ => ?_
  rcases pattern with _ | ⟨x, xs⟩
  · show (Except.ok own = Except.ok c) ↔ _
    simp [eq_comm]
  · rcases hp : checkPattern (x :: xs) with _ | why
    · simp [eq_comm, pure, Except.pure]
    · simp [throw, throwThe, MonadExceptOf.throw]

theorem Holds.located_of_generateConfig (hold : s.Holds v path)
    (hc : s.generateConfig w pattern = .ok c) : c.Located := by
  obtain ⟨own, -, hown, ⟨-, rfl⟩ | ⟨-, -, rfl⟩⟩ := generateConfig_eq_ok.1 hc
  · exact hold.located hown
  · exact (hold.located hown).withPattern

theorem generate_of_refused {e : Fault} (write : Bool) (h : s.generateConfig w pattern = .error e) :
    s.generate w write pattern = (w.tree, .fail e) := by
  unfold generate
  rw [h]

theorem generate_of_not_built {e : Fault} (write : Bool) (hc : s.generateConfig w pattern = .ok c)
    (h : (buildOnce w c).result = .error e) :
    s.generate w write pattern = (w.tree, ⟨(buildOnce w c).events, .error e⟩) := by
  unfold generate
  rw [hc]
  dsimp only
  rw [h]

theorem generate_unwritten (hc : s.generateConfig w pattern = .ok c)
    (h : (buildOnce w c).result = .ok m) :
    s.generate w false pattern =
      (w.tree, ⟨(buildOnce w c).events, .ok (generatedAnswer m none)⟩) := by
  unfold generate
  rw [hc]
  dsimp only
  rw [h]
  rfl

theorem generate_written (hc : s.generateConfig w pattern = .ok c)
    (h : (buildOnce w c).result = .ok m) :
    (s.generate w true pattern).1 = (m.write w c.output).1 ∧
      (s.generate w true pattern).2.result =
        (m.write w c.output).2.result.map fun p => generatedAnswer m (some p) := by
  unfold generate
  rw [hc]
  dsimp only
  rw [h]
  exact ⟨rfl, rfl⟩

/-- For the request the manifest is built, with that configuration. -/
def Builds (s : Session) (w : Workspace) (pattern : Text) (c : Config) (m : Manifest) : Prop :=
  s.generateConfig w pattern = .ok c ∧ (buildOnce w c).result = .ok m

theorem exists_builds {α : Type} {f : Config → Manifest → α} {a : α}
    (h : ((s.generateConfig w pattern).toOption.bind fun c =>
      (buildOnce w c).result.toOption.map (f c)) = some a) :
    ∃ c m, s.Builds w pattern c m ∧ f c m = a := by
  obtain ⟨c, hc, hbuilt⟩ := Option.bind_eq_some_iff.1 h
  obtain ⟨m, hm, ha⟩ := Option.map_eq_some_iff.1 hbuilt
  exact ⟨c, m, ⟨except_eq_ok_of_toOption hc, except_eq_ok_of_toOption hm⟩, ha⟩

/-- An answer shows a manifest that was built for it. -/
theorem shows_built {write : Bool} {answer : Json}
    (h : (s.generate w write pattern).2.result = .ok answer) :
    ∃ c m written, s.Builds w pattern c m ∧ answer = generatedAnswer m written := by
  rcases hc : s.generateConfig w pattern with e | c
  · rw [generate_of_refused write hc] at h
    cases h
  rcases hm : (buildOnce w c).result with e | m
  · rw [generate_of_not_built write hc hm] at h
    cases h
  cases write
  · rw [generate_unwritten hc hm] at h
    exact ⟨c, m, none, ⟨hc, hm⟩, (Except.ok.inj h).symm⟩
  · rw [(generate_written hc hm).2] at h
    rcases hw : (m.write w c.output).2.result with e | p
    · rw [hw] at h
      cases h
    · rw [hw] at h
      exact ⟨c, m, some p, ⟨hc, hm⟩, (Except.ok.inj h).symm⟩

end Session

/-! ## Items -/

theorem buildOnce_eq_ok : (buildOnce w c).result = .ok m ↔
    ∃ memory, (build w c none .standard none .fresh).result = .ok (m, memory) := by
  show (build w c none .standard none .fresh).result.map Prod.fst = .ok m ↔ _
  rcases (build w c none .standard none .fresh).result with e | ⟨m', memory⟩
  · constructor
    · intro h
      cases h
    · rintro ⟨_, h⟩
      cases h
  · constructor
    · intro h
      exact ⟨memory, by rw [← Except.ok.inj h]⟩
    · rintro ⟨_, h⟩
      exact congrArg Except.ok (congrArg Prod.fst (Except.ok.inj h))

/-- Behind an item stand a unit, the files that are listed for it, and what their scan finds. -/
structure ItemSource (k : Classifier) (w : Workspace) (c : Config) (found : List Text) (item : Item)
    (u : ComponentUnit) (files : List Text) (scan : Scan) : Prop where
  unit : u ∈ groupFiles found
  listed : unitFiles .standard w c u = .ok files
  scanned : (k.scanFiles w files).result = .ok scan
  made : ∃ memo, item = (itemOf c memo u files (.ofClassifications scan.found)).1

/-- The paths of an item are those of the files listed for its unit. -/
theorem ItemSource.paths {k : Classifier} {found files : List Text} {item : Item}
    {u : ComponentUnit} {scan : Scan} (h : ItemSource k w c found item u files scan) :
    item.files.map (·.path) = u.manifestPaths c files := by
  obtain ⟨memo, rfl⟩ := h.made
  exact tagPaths_paths ..

theorem items_of_buildOnce (h : (buildOnce w c).result = .ok m) :
    ∃ k found, (configClassifier w c none .standard).result = .ok k ∧
      SourceFilter.standard.list w c.cwd c.componentPattern.display = .ok found ∧
      ∀ item ∈ m.items, ∃ u files scan, ItemSource k w c found item u files scan := by
  obtain ⟨memory, hb⟩ := buildOnce_eq_ok.1 h
  obtain ⟨-, k, units, items, memo, skipped, hk, hu, -, hi, rfl, -⟩ := build_eq_ok.1 hb
  obtain ⟨found, hfound, rfl⟩ := discover_eq_ok.1 hu
  have hfilter : k.filter = .standard := (configClassifier_serves hk).filter
  refine ⟨k, found, hk, hfound, fun item hitem => ?_⟩
  obtain ⟨u, hmem, memo, memo', more, hmake⟩ := exists_of_forall₂ (forall₂_of_makeItems hi) hitem
  obtain ⟨files, scan, hfiles, hscan, hmade, -⟩ := makeItem_eq_ok.1 hmake
  exact ⟨u, files, scan, hmem, hfilter ▸ hfiles, hscan, memo, congrArg Prod.fst hmade⟩

end ComponentManifest
