import ComponentManifest.Proofs.ItemQuestions

/-!
# Resolved configurations

The directories of a configuration are resolved when it is read. What is resolved stays as it is
when it is resolved again, wherever that is done. So a configuration that is shown as an object and
read again is the same one, and another component pattern changes nothing but the pattern.

1. Resolving again, and reading what is shown.
2. An object with another component pattern.
3. Requests to generate.
4. `resolution_idempotent`.
-/

namespace ComponentManifest

open ComponentManifest.Path (Plain rooted isAbsolute)
open Text (ofString)

variable {v w : Workspace} {base p t : Text} {path : Option Text} {ms ms' ps ps' : Members}
  {c d : Config} {s : Session}

namespace Config

/-! ## Resolving again -/

theorem directory_rooted {b : Bool} {ds : List Text} (hd : Plain ds) :
    directory w t (rooted b ds) = rooted b ds := by
  have hne : (rooted b ds).isEmpty = false := by simpa using Path.rooted_ne_nil
  have hj : Path.join t (rooted b ds) = rooted b ds := if_pos Path.isAbsolute_rooted
  unfold directory
  rw [hne, hj, Workspace.absolute_rooted hd]
  rfl

theorem Located.resolve_eq (h : c.Located) (w : Workspace) : c.resolve w = c := by
  obtain ⟨br, rs, hrs, hroot⟩ := h.root
  obtain ⟨bc, cs, hcs, hcwd⟩ := h.cwd
  obtain ⟨bo, os, hos, hout⟩ := h.output
  have hr : w.absolute c.root = c.root := by rw [hroot, Workspace.absolute_rooted hrs]
  have hc : directory w c.root c.cwd = c.cwd := by rw [hcwd, directory_rooted hcs]
  have ho : directory w c.root c.output = c.output := by rw [hout, directory_rooted hos]
  unfold resolve
  rw [hr, hc, ho]

/-- The patterns of a configuration count as given. -/
def PatternsGiven (c : Config) : Prop :=
  c.componentPattern.isGiven = true ∧ c.filePattern.isGiven = true

theorem isGiven_getD {key : Text} (ht : t ≠ []) :
    ((givenField ps key).getD (.str t)).isGiven = true := by
  rcases h : givenField ps key with _ | v
  · simpa [Json.isGiven] using ht
  · exact (givenField_eq_some_iff.1 h).2

theorem patternsGiven_of_ofJson (h : ofJson w base path (.obj ms) = .ok c) : c.PatternsGiven := by
  obtain ⟨d, hread, rfl⟩ := ofJson_obj_eq_ok_iff.1 h
  obtain ⟨ps, -, hcp, hfp⟩ := hread.patterns
  refine ⟨?_, ?_⟩
  · show d.componentPattern.isGiven = true
    rw [hcp]
    exact isGiven_getD (by decide)
  · show d.filePattern.isGiven = true
    rw [hfp]
    exact isGiven_getD (by decide)

/-- The alias table is there, if only as an empty one. -/
def withTable (c : Config) : Config := { c with registries := some (c.registries.getD []) }

theorem namesField_ofTexts {key : Text} {ts : List Text}
    (h : ms.get? key = some (.ofTexts ts)) : namesField ms key = .ok ts := by
  unfold namesField
  rw [h]
  dsimp only [Json.ofTexts]
  rw [← Json.ofTexts, Json.texts?_ofTexts]

/-- The fields of the object that is shown say what the configuration has. -/
theorem exists_reads_toJson (hroot : c.root ≠ []) (hp : c.PatternsGiven) :
    ∃ ms, c.toJson = .obj ms ∧ Reads [] c.configPath ms c.withTable := by
  have hgiven : (Json.str c.root).isGiven = true := by simpa [Json.isGiven] using hroot
  exact ⟨_, rfl,
    { root := ⟨.str c.root, givenField_eq_some_iff.2 ⟨rfl, hgiven⟩, rfl⟩
      patterns := by
        refine ⟨_, rfl, ?_, ?_⟩
        · rw [givenField_eq_some_iff.2 ⟨rfl, hp.1⟩]
          rfl
        · rw [givenField_eq_some_iff.2 ⟨rfl, hp.2⟩]
          rfl
      registries := rfl
      name := rfl
      homepage := rfl
      cwd := rfl
      output := rfl
      dependencies := namesField_ofTexts rfl
      devDependencies := namesField_ofTexts rfl
      configPath := rfl }⟩

/-- What is shown is read as what it was, in any working directory. -/
theorem ofJson_toJson (hl : c.Located) (hp : c.PatternsGiven) (w : Workspace) :
    ofJson w [] c.configPath c.toJson = .ok c.withTable := by
  have hroot : c.root ≠ [] := by
    obtain ⟨b, ss, -, hr⟩ := hl.root
    exact hr ▸ Path.rooted_ne_nil
  obtain ⟨ms, hms, hread⟩ := exists_reads_toJson hroot hp
  have htable : c.withTable.Located := ⟨hl.root, hl.cwd, hl.output⟩
  rw [hms, ofJson_obj_eq_ok_iff]
  exact ⟨c.withTable, hread, htable.resolve_eq w⟩

/-! ## Another component pattern -/

/-- The second object is like the first one, apart from its component pattern, which is `p`. -/
structure Repatterned (ms : Members) (p : Text) (ms' : Members) : Prop where
  fields : ∀ key, key ≠ ofString "scanPatterns" → ms'.get? key = ms.get? key
  patterns : ∃ ps ps' : Members, patternsField ms = .ok ps ∧
    ms'.get? (ofString "scanPatterns") = some (.obj ps') ∧
    ps'.get? (ofString "componentPattern") = some (.str p) ∧
    ∀ key, key ≠ ofString "componentPattern" → ps'.get? key = ps.get? key

theorem givenField_congr {key : Text} (h : ms'.get? key = ms.get? key) :
    givenField ms' key = givenField ms key := by
  unfold givenField
  rw [h]

theorem textField_congr {key : Text} (h : ms'.get? key = ms.get? key) :
    textField ms' key = textField ms key := by
  unfold textField
  rw [h]

theorem namesField_congr {key : Text} (h : ms'.get? key = ms.get? key) :
    namesField ms' key = namesField ms key := by
  unfold namesField
  rw [h]

theorem registriesField_congr
    (h : ms'.get? (ofString "registries") = ms.get? (ofString "registries")) :
    registriesField ms' = registriesField ms := by
  unfold registriesField
  rw [h]

theorem Repatterned.reads (h : Repatterned ms p ms') (hp : p ≠ []) (hread : Reads base path ms c) :
    Reads base path ms' (c.withPattern p) := by
  obtain ⟨root, hroot, hj⟩ := hread.root
  obtain ⟨ps, hps, -, hfp⟩ := hread.patterns
  obtain ⟨ps₁, ps', hps₁, hobj, hcp, hkeep⟩ := h.patterns
  obtain rfl : ps = ps₁ := Except.ok.inj (hps.symm.trans hps₁)
  have hgiven : (Json.str p).isGiven = true := by simpa [Json.isGiven] using hp
  have hne : (Json.obj ps').isGiven = true := by
    cases ps'
    · cases hcp
    · rfl
  refine
    { root := ⟨root, (givenField_congr (h.fields _ (by decide))).trans hroot, hj⟩
      patterns := ⟨ps', ?_, ?_, ?_⟩
      registries := (registriesField_congr (h.fields _ (by decide))).trans hread.registries
      name := (textField_congr (h.fields _ (by decide))).trans hread.name
      homepage := (textField_congr (h.fields _ (by decide))).trans hread.homepage
      cwd := (textField_congr (h.fields _ (by decide))).trans hread.cwd
      output := (textField_congr (h.fields _ (by decide))).trans hread.output
      dependencies := (namesField_congr (h.fields _ (by decide))).trans hread.dependencies
      devDependencies := (namesField_congr (h.fields _ (by decide))).trans hread.devDependencies
      configPath := hread.configPath }
  · unfold patternsField
    rw [givenField_eq_some_iff.2 ⟨hobj, hne⟩]
  · rw [givenField_eq_some_iff.2 ⟨hcp, hgiven⟩]
    rfl
  · rw [givenField_congr (hkeep _ (by decide))]
    exact hfp

/-- An object with another component pattern makes the configuration with that pattern. -/
theorem Repatterned.ofJson_eq (h : Repatterned ms p ms') (hp : p ≠ [])
    (hc : ofJson w base path (.obj ms) = .ok c) :
    ofJson w base path (.obj ms') = .ok (c.withPattern p) := by
  obtain ⟨d, hread, rfl⟩ := ofJson_obj_eq_ok_iff.1 hc
  exact ofJson_obj_eq_ok_iff.2 ⟨d.withPattern p, h.reads hp hread, rfl⟩

end Config

/-! ## Requests -/

theorem ne_nil_of_checkPattern (h : checkPattern p = none) : p ≠ [] := by
  rintro rfl
  cases h

/-- The session with another configuration of its project. -/
def Session.withConfig (s : Session) (c : Config) : Session := { s with config := some c }

/-- A request with an accepted pattern does what one without does in a session that has the pattern
in its configuration. -/
theorem Session.generate_withPattern (hc : s.config = some c) (hp : checkPattern p = none)
    (w : Workspace) (write : Bool) :
    s.generate w write p = (s.withConfig (c.withPattern p)).generate w write [] := by
  have hne : p.isEmpty = false := by simpa using ne_nil_of_checkPattern hp
  have hproject : (s.withConfig (c.withPattern p)).requireProject w = s.requireProject w := rfl
  have hconfig : s.generateConfig w p = (s.withConfig (c.withPattern p)).generateConfig w [] := by
    unfold generateConfig requireConfig
    rw [hproject, hne, hp, hc]
    rcases s.requireProject w with e | u <;> rfl
  unfold generate
  rw [hconfig]

namespace Config

/-- What is shown of a configuration is read as this configuration in any working directory, and a
pattern in the object does what the same pattern in a request does. -/
theorem resolution_idempotent (h : ofJson v base path (.obj ms) = .ok c) :
    (∀ w, ofJson w [] c.configPath c.toJson =
      .ok { c with registries := some (c.registries.getD []) }) ∧
    (∀ w p, Config.resolve { c with componentPattern := .str p } w =
      { c with componentPattern := .str p }) ∧
    ∀ p ms', Repatterned ms p ms' → checkPattern p = none →
      ∃ c', ofJson v base path (.obj ms') = .ok c' ∧
        c' = { c with componentPattern := .str p } ∧
        ∀ (s : Session) (w : Workspace) (write : Bool), s.config = some c →
          s.generate w write p = (s.withConfig c').generate w write [] := by
  have hl := located_of_ofJson h
  refine ⟨ofJson_toJson hl (patternsGiven_of_ofJson h), fun w p => hl.withPattern.resolve_eq w, ?_⟩
  intro p ms' hms hp
  exact ⟨c.withPattern p, hms.ofJson_eq (ne_nil_of_checkPattern hp) h, rfl,
    fun s w write hs => Session.generate_withPattern hs hp w write⟩

/-- An object whose root and directories lead up and down. -/
def windingMembers (patterns : Members) : Members :=
  [(ofString "root", .str "../r/./s".toList), (ofString "cwd", .str "a/../../b".toList),
    (ofString "output", .str []), (ofString "scanPatterns", .obj patterns)]

theorem repatterned_windingMembers :
    Repatterned (windingMembers [(ofString "filePattern", .str ['*'])]) "ui/*".toList
      (windingMembers [(ofString "componentPattern", .str "ui/*".toList),
        (ofString "filePattern", .str ['*'])]) where
  fields key hk := by
    have hne : (key == ofString "scanPatterns") = false := beq_eq_false_iff_ne.2 hk
    simp only [windingMembers, Members.get?, List.lookup_cons, hne]
  patterns := by
    refine ⟨_, _, rfl, rfl, rfl, fun key hk => ?_⟩
    have hne : (key == ofString "componentPattern") = false := beq_eq_false_iff_ne.2 hk
    simp only [Members.get?, List.lookup_cons, hne]

theorem resolution_idempotent_winding :
    ∃ c c', ofJson ⟨.empty, [['q']]⟩ "//d".toList none
        (.obj (windingMembers [(ofString "filePattern", .str ['*'])])) = .ok c ∧
      (c.root, c.cwd, c.output) = ("//r/s".toList, "//r/b".toList, "//r/s".toList) ∧
      ofJson libraryProject [] c.configPath c.toJson = .ok { c with registries := some [] } ∧
      Config.resolve { c with componentPattern := .str ['*'] } libraryProject =
        { c with componentPattern := .str ['*'] } ∧
      ofJson ⟨.empty, [['q']]⟩ "//d".toList none
        (.obj (windingMembers [(ofString "componentPattern", .str "ui/*".toList),
          (ofString "filePattern", .str ['*'])])) = .ok c' ∧
      Session.generate ⟨true, ['/'], some c⟩ libraryProject true "ui/*".toList =
        Session.generate ⟨true, ['/'], some c'⟩ libraryProject true [] := by
  have hdirs : (ofJson ⟨.empty, [['q']]⟩ "//d".toList none
      (.obj (windingMembers [(ofString "filePattern", .str ['*'])]))).toOption.map
        (fun c => ((c.root, c.cwd, c.output), c.registries.isNone)) =
      some (("//r/s".toList, "//r/b".toList, "//r/s".toList), true) := by
    decide +kernel
  obtain ⟨c, hc, hfields⟩ := Option.map_eq_some_iff.1 hdirs
  have hc := except_eq_ok_of_toOption hc
  obtain ⟨hdirs, hnone⟩ := Prod.mk.inj hfields
  obtain ⟨hshown, hresolve, hpattern⟩ := resolution_idempotent hc
  obtain ⟨c', hc', -, hsame⟩ := hpattern _ _ repatterned_windingMembers (by decide)
  have hshown := hshown libraryProject
  rw [Option.isNone_iff_eq_none.1 hnone] at hshown
  exact ⟨c, c', hc, hdirs, hshown, hresolve libraryProject ['*'], hc', hsame _ _ true rfl⟩

end Config

end ComponentManifest
