import ComponentManifest.Proofs.Generation

/-!
# Patterns stay below the scan directory

A pattern from a caller is checked before anything is built. The check counts a backslash as a
slash, the matching does not, so it refuses every pattern that has a step up, and some that have
none.

1. What an accepted pattern is like.
2. What it finds.
3. `pattern_confined`: an accepted pattern leads below the scan directory, a refused one to nothing.
-/

namespace ComponentManifest

open ComponentManifest.Path (Plain rooted)
open SourceFilter (safeExtension_standard)

variable {w : Workspace} {c : Config} {m : Manifest} {p : Text}

/-! ## Accepted patterns -/

theorem Path.segments_replaceChar (ss : List Text) (hne : ss ≠ []) :
    segments (Text.replaceChar '\\' '/' (ofSegments ss)) =
      ss.flatMap fun s => segments (Text.replaceChar '\\' '/' s) := by
  induction ss with
  | nil => exact absurd rfl hne
  | cons s ss ih =>
    rcases ss with _ | ⟨s', ss⟩
    · simp [ofSegments, Text.joinWith]
    · have hcons : ofSegments (s :: s' :: ss) = s ++ '/' :: ofSegments (s' :: ss) := by
        simp [ofSegments, Text.joinWith, List.intercalate]
      have hrep : Text.replaceChar '\\' '/' (s ++ '/' :: ofSegments (s' :: ss)) =
          Text.replaceChar '\\' '/' s ++
            '/' :: Text.replaceChar '\\' '/' (ofSegments (s' :: ss)) := by
        simp [Text.replaceChar]
      rw [hcons, hrep, segments_append_slash, ih (List.cons_ne_nil s' ss)]
      rfl

theorem Path.up_mem_segments_replaceChar (h : up ∈ segments p) :
    up ∈ segments (Text.replaceChar '\\' '/' p) := by
  have hp := segments_replaceChar (segments p) (segments_ne_nil p)
  rw [ofSegments_segments] at hp
  rw [hp]
  exact List.mem_flatMap.2 ⟨up, h, by decide⟩

/-- An accepted pattern is relative and has no step up. -/
theorem relative_of_checkPattern (h : checkPattern p = none) :
    Path.isAbsolute p = false ∧ Path.up ∉ Path.segments p := by
  unfold checkPattern at h
  split at h
  · cases h
  split at h
  · cases h
  next hroot =>
  split at h
  · cases h
  next hup =>
  constructor
  · unfold Path.isAbsolute
    simp at hroot ⊢
    exact hroot.1
  · intro hm
    exact hup (List.contains_iff_mem.2 (Path.up_mem_segments_replaceChar hm))

/-! ## What is found -/

/-- Every path leads from the directory strictly down. -/
def StrictlyBelow (dir : Text) (files : List Text) : Prop :=
  ∃ b ss, Plain ss ∧ dir = rooted b ss ∧ NamedBelow b ss files

theorem strictlyBelow_of_list {base : Text} {files : List Text} (hp : checkPattern p = none)
    (h : SourceFilter.standard.list w base p = .ok files) :
    StrictlyBelow (w.absolute base) files := by
  obtain ⟨b, ss, hs, hbase⟩ := w.exists_rooted base
  obtain ⟨habs, hup⟩ := relative_of_checkPattern hp
  have hlist : SourceFilter.standard.list w (rooted b ss) p = .ok files := by
    rw [← h]
    unfold SourceFilter.list
    rw [hbase, Workspace.absolute_rooted hs]
  exact ⟨b, ss, hs, hbase, SourceFilter.list_below hs hlist habs hup safeExtension_standard⟩

/-- Every path of the manifest is relative and has no step up. -/
def Manifest.Descends (m : Manifest) : Prop :=
  ∀ item ∈ m.items, ∀ f ∈ item.files,
    Path.isAbsolute f.path = false ∧ Path.up ∉ Path.segments f.path

/-- Patterns that lead down make paths that lead down. -/
theorem descends_of_buildOnce (hl : c.Located) (hm : (buildOnce w c).result = .ok m)
    (hcp : Path.isAbsolute c.componentPattern.display = false)
    (hcu : Path.up ∉ Path.segments c.componentPattern.display)
    (hfp : Path.isAbsolute c.filePattern.display = false)
    (hfu : Path.up ∉ Path.segments c.filePattern.display) : m.Descends := by
  obtain ⟨b, cs, hcs, hcwd⟩ := hl.cwd
  obtain ⟨k, found, -, hfound, hitems⟩ := items_of_buildOnce hm
  rw [hcwd] at hfound
  intro item hitem f hf
  obtain ⟨u, files, scan, hsrc⟩ := hitems item hitem
  have hback := leadBack_of_unit hcs hcwd hfound hcp hfp hsrc.unit hsrc.listed
  obtain ⟨-, hasc⟩ := ascending_unitFiles Path.plain_nil (SourceFilter.ascending_list hcs hfound)
    (SourceFilter.list_rooted hcs hfound hcp) hsrc.unit hsrc.listed
  obtain ⟨hdown, -⟩ := paths_below_of_unit hcs hcwd hfound hcp hfp hsrc.unit hsrc.listed hcu hfu
    safeExtension_standard hasc
  have hpath : f.path ∈ u.manifestPaths c files := by
    rw [← hsrc.paths]
    exact List.mem_map_of_mem hf
  obtain ⟨q, -, habs, -⟩ := exists_of_forall₂ hback hpath
  exact ⟨habs, hdown _ hpath⟩

/-! ## Requests with a pattern -/

/-- The request builds nothing, writes nothing and fails; with a loaded configuration the pattern is
what it fails for. -/
structure Session.Refuses (s : Session) (w : Workspace) (write : Bool) (p : Text)
    (why : PatternRefusal) : Prop where
  builds : ∀ c m, ¬ s.Builds w p c m
  fails : ∃ e, s.generate w write p = (w.tree, .fail e) ∧
    ∀ own, s.requireConfig w = .ok own → e = .pattern why

theorem Session.refuses_of_checkPattern {s : Session} {why : PatternRefusal} (write : Bool)
    (hp : checkPattern p = some why) (hne : p ≠ []) : s.Refuses w write p why := by
  have hrefused : ∀ c, s.generateConfig w p ≠ .ok c := by
    intro c hc
    obtain ⟨own, -, -, ⟨rfl, -⟩ | ⟨-, hnone, -⟩⟩ := generateConfig_eq_ok.1 hc
    · exact hne rfl
    · rw [hp] at hnone
      cases hnone
  refine ⟨fun c m h => hrefused c h.1, ?_⟩
  rcases hc : s.generateConfig w p with e | c
  · refine ⟨e, generate_of_refused write hc, fun own hown => ?_⟩
    unfold generateConfig at hc
    have hempty : p.isEmpty = false := by simpa using hne
    rw [hown] at hc
    simp only [hempty, hp] at hc
    exact (Except.error.inj hc).symm
  · exact absurd hc (hrefused c)

/-- An accepted pattern finds only paths strictly below the listed directory, and the manifests
built for it lead only down. For a pattern that is refused nothing is built or written. -/
theorem pattern_confined (w : Workspace) (p : Text) :
    (checkPattern p = none →
      (∀ base files, SourceFilter.standard.list w base p = .ok files →
        StrictlyBelow (w.absolute base) files) ∧
      ∀ s v path, Session.Holds s v path →
        (∀ own, s.config = some own → own.filePattern = .str defaultFilePattern) →
        (∀ c m, s.Builds w p c m → m.Descends) ∧
        ∀ write answer, (s.generate w write p).2.result = .ok answer →
          ∃ c m written, s.Builds w p c m ∧ answer = Session.generatedAnswer m written) ∧
    ∀ why, checkPattern p = some why → p ≠ [] → ∀ s write, Session.Refuses s w write p why := by
  refine ⟨fun hp => ⟨fun base files h => strictlyBelow_of_list hp h, ?_⟩,
    fun why hp hne s write => Session.refuses_of_checkPattern write hp hne⟩
  intro s v path hold hdefault
  refine ⟨fun c m ⟨hc, hm⟩ => ?_, fun write answer h => Session.shows_built h⟩
  have hl := hold.located_of_generateConfig hc
  obtain ⟨habs, hup⟩ := relative_of_checkPattern hp
  obtain ⟨own, -, hown, ⟨rfl, rfl⟩ | ⟨-, -, rfl⟩⟩ := Session.generateConfig_eq_ok.1 hc
  · cases hp
  · have hfile : (own.withPattern p).filePattern.display = defaultFilePattern :=
      congrArg Json.display (hdefault own hown)
    refine descends_of_buildOnce hl hm habs hup ?_ ?_
    · rw [hfile]
      decide
    · rw [hfile]
      decide

theorem Json.eq_str_of_text? {v : Json} {t : Text} (h : v.text? = some t) : v = .str t := by
  unfold text? at h
  split at h
  · rw [Option.some.inj h]
  · cases h

theorem filePattern_librarySession :
    ∀ own, librarySession.config = some own → own.filePattern = .str defaultFilePattern := by
  have hall : (librarySession.config.all fun own =>
      own.filePattern.text? == some defaultFilePattern) = true := by decide +kernel
  intro own hown
  rw [hown, Option.all_some] at hall
  exact Json.eq_str_of_text? (eq_of_beq hall)

theorem pattern_confined_library :
    checkPattern defaultComponentPattern = none ∧
      (∃ c m, librarySession.Builds libraryProject defaultComponentPattern c m ∧
        m.items.map (fun i => i.files.map (·.path)) =
          [["ui/b/c.ts".toList, "ui/b/index.ts".toList]] ∧ m.Descends) ∧
      checkPattern "s\\..".toList = some .leaving ∧
      librarySession.Refuses libraryProject true "s\\..".toList .leaving := by
  have haccepted : checkPattern defaultComponentPattern = none := by decide
  have hrefused : checkPattern "s\\..".toList = some .leaving := by decide
  obtain ⟨hdown, -⟩ := ((pattern_confined libraryProject defaultComponentPattern).1 haccepted).2
    librarySession libraryProject "/p".toList holds_librarySession filePattern_librarySession
  refine ⟨haccepted, ?_, hrefused,
    (pattern_confined libraryProject _).2 _ hrefused (by decide) librarySession true⟩
  have hpaths : ((librarySession.generateConfig libraryProject defaultComponentPattern).toOption.bind
      fun c => (buildOnce libraryProject c).result.toOption.map fun m =>
        m.items.map fun i => i.files.map (·.path)) =
      some [["ui/b/c.ts".toList, "ui/b/index.ts".toList]] := by
    decide +kernel
  obtain ⟨c, m, hb, hitems⟩ := Session.exists_builds hpaths
  exact ⟨c, m, hb, hitems, hdown c m hb⟩

end ComponentManifest
