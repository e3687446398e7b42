import ComponentManifest.Proofs.DirectoryRules

/-!
# Listing sources by the default patterns

A filter lists below a rooted directory files that are named by plain names, each of them once.

1. `list_eq_ok`: a listing has the files of all its extensions.
2. What the two default patterns list.
-/

namespace ComponentManifest

open ComponentManifest.Path (Plain rooted)

namespace SourceFilter

variable {f : SourceFilter} {w : Workspace} {b : Bool} {ss ms : List Text}
  {base pattern q x y z e : Text} {files : List Text}

theorem plainExtension_standard : ∀ e ∈ standard.extensions, Workspace.PlainExtension e := by
  decide +kernel

/-! ## The files of a listing -/

theorem listExtension_eq_ok (h : w.glob base (pattern ++ '.' :: e) =
      .ok (w.matchPaths base (pattern ++ '.' :: e))) :
    ∃ files, f.listExtension w base pattern e = .ok files ∧
      ∀ q, q ∈ files ↔ ∃ p ∈ w.matchPaths base (pattern ++ '.' :: e),
        f.isExcluded p = false ∧ w.isFile (Path.join base p) = true ∧
          q = Path.normalize (Path.join base p) := by
  unfold listExtension
  rw [h]
  refine ⟨_, rfl, fun q => ?_⟩
  simp only [List.mem_map, List.mem_filter, Bool.not_eq_true']
  grind

/-- What a pattern without extension stands for, with one of the extensions. -/
def Finds (f : SourceFilter) (w : Workspace) (base pattern : Text) (exts : List Text)
    (q : Text) : Prop :=
  ∃ e ∈ exts, ∃ p ∈ w.matchPaths base (pattern ++ '.' :: e),
    f.isExcluded p = false ∧ w.isFile (Path.join base p) = true ∧
      q = Path.normalize (Path.join base p)

theorem listEach_eq_ok {exts : List Text}
    (h : ∀ e ∈ exts, w.glob base (pattern ++ '.' :: e) =
      .ok (w.matchPaths base (pattern ++ '.' :: e))) :
    ∃ files, f.listEach w base pattern exts = .ok files ∧
      ∀ q, q ∈ files ↔ f.Finds w base pattern exts q := by
  induction exts with
  | nil => exact ⟨[], rfl, fun q => by simp [Finds]⟩
  | cons e es ih =>
    obtain ⟨first, hfirst, hf⟩ := listExtension_eq_ok (f := f) (h e List.mem_cons_self)
    obtain ⟨rest, hrest, hr⟩ := ih fun e he => h e (List.mem_cons_of_mem _ he)
    refine ⟨first ++ rest, ?_, fun q => ?_⟩
    · unfold listEach
      rw [hfirst, hrest]
      rfl
    · rw [List.mem_append, hf, hr]
      simp only [Finds, List.mem_cons, exists_eq_or_imp]

/-- A listing of some extensions that succeeds has made a search for each of them, and has what they
find. -/
theorem listed_of_listEach {exts : List Text} (h : f.listEach w base pattern exts = .ok files) :
    (∀ e ∈ exts, w.glob base (pattern ++ '.' :: e) =
      .ok (w.matchPaths base (pattern ++ '.' :: e))) ∧
      ∀ q, q ∈ files ↔ f.Finds w base pattern exts q := by
  have hglob : ∀ e ∈ exts, w.glob base (pattern ++ '.' :: e) =
      .ok (w.matchPaths base (pattern ++ '.' :: e)) := by
    induction exts generalizing files with
    | nil => exact fun e he => absurd he List.not_mem_nil
    | cons e es ih =>
      unfold listEach listExtension at h
      obtain ⟨first, hfirst, h⟩ := except_bind_eq_ok.1 h
      obtain ⟨rest, hrest, -⟩ := except_bind_eq_ok.1 h
      obtain ⟨paths, hpaths, -⟩ := except_bind_eq_ok.1 hfirst
      obtain rfl := (Workspace.glob_eq_ok_iff.1 hpaths).2.2
      exact List.forall_mem_cons.2 ⟨hpaths, ih hrest⟩
  obtain ⟨files', hfiles, hq⟩ := listEach_eq_ok (f := f) hglob
  obtain rfl : files = files' := Except.ok.inj (h.symm.trans hfiles)
  exact ⟨hglob, hq⟩

/-- The files are regular files below a rooted directory, and `Q` holds of the names that lead to
them from there. -/
def FoundBelow (w : Workspace) (b : Bool) (ss : List Text) (Q : List Text → Prop)
    (files : List Text) : Prop :=
  ∀ q ∈ files, ∃ ms, Plain ms ∧ Q ms ∧ q = rooted b (ss ++ ms) ∧ w.isFile q = true

/-- A pattern that stands for paths made of plain names lists files below the directory, each of
them once, and all that it finds and that are not excluded. -/
theorem list_eq_ok {Q : List Text → Prop} (hs : Plain ss)
    (hglob : ∀ e ∈ f.extensions, w.glob (rooted b ss) (pattern ++ '.' :: e) =
      .ok (w.matchPaths (rooted b ss) (pattern ++ '.' :: e)))
    (hplain : ∀ e ∈ f.extensions, ∀ p ∈ w.matchPaths (rooted b ss) (pattern ++ '.' :: e),
      ∃ ms, Plain ms ∧ Q ms ∧ p = Path.ofSegments ms) (hQ : ∀ ms, Q ms → ms ≠ []) :
    ∃ files, f.list w (rooted b ss) pattern = .ok files ∧ files.Nodup ∧
      FoundBelow w b ss Q files ∧
      ∀ ms, Plain ms → ms ≠ [] →
        (∃ e ∈ f.extensions,
          Path.ofSegments ms ∈ w.matchPaths (rooted b ss) (pattern ++ '.' :: e)) →
        f.isExcluded (Path.ofSegments ms) = false → w.isFile (rooted b (ss ++ ms)) = true →
          rooted b (ss ++ ms) ∈ files := by
  obtain ⟨found, hfound, hq⟩ := listEach_eq_ok (f := f) hglob
  refine ⟨sortDistinct found, ?_, (ascending_sortDistinct found).nodup, fun q h => ?_,
    fun ms hm hmn he hx hf => ?_⟩
  · unfold list
    rw [Workspace.absolute_rooted hs, hfound]
    rfl
  · obtain ⟨e, he, p, hp, -, hf, rfl⟩ := (hq q).1 (mem_sortDistinct.1 h)
    obtain ⟨ms, hm, hQm, rfl⟩ := hplain e he p hp
    rw [Path.join_rooted hs hm (hQ ms hQm)] at hf ⊢
    rw [Path.normalize_rooted (hs.append hm)]
    exact ⟨ms, hm, hQm, rfl, hf⟩
  · obtain ⟨e, he, hp⟩ := he
    have hj := Path.join_rooted (b := b) hs hm hmn
    refine mem_sortDistinct.2 ((hq _).2 ⟨e, he, Path.ofSegments ms, hp, hx, ?_, ?_⟩)
    · rw [hj]
      exact hf
    · rw [hj, Path.normalize_rooted (hs.append hm)]

/-! ## The default patterns -/

theorem isUsable_of_isDir (hs : Plain ss) (hd : w.isDir (rooted b ss) = true) :
    Path.isUsable (rooted b ss) = true := by
  obtain ⟨k, -, l, hl⟩ := (Workspace.isDir_rooted hs).1 hd
  exact Workspace.isUsable_of_leads hs hl

theorem list_component_eq_ok (hs : Plain ss) (hd : w.isDir (rooted b ss) = true)
    (hext : ∀ e ∈ f.extensions, Workspace.PlainExtension e) :
    ∃ files, f.list w (rooted b ss) defaultComponentPattern = .ok files ∧ files.Nodup ∧
      FoundBelow w b ss (·.length = 3) files ∧
      ∀ x y z, Plain [x, y, z] → Workspace.isHidden x = false → Workspace.isHidden y = false →
        (∃ e ∈ f.extensions, Workspace.HasExtension e z) →
        f.isExcluded (Path.ofSegments [x, y, z]) = false →
        w.isFile (rooted b (ss ++ [x, y, z])) = true → rooted b (ss ++ [x, y, z]) ∈ files := by
  have hglob (e : Text) (he : e ∈ f.extensions) :
      w.glob (rooted b ss) (defaultComponentPattern ++ '.' :: e) =
        .ok (w.matchPaths (rooted b ss) (defaultComponentPattern ++ '.' :: e)) :=
    Workspace.glob_eq_ok (Workspace.segments_componentPattern (hext e he).2) rfl rfl
      (by simp [maxLevels]) (isUsable_of_isDir hs hd)
  have hplain (e : Text) (he : e ∈ f.extensions) (p : Text) :=
    Workspace.plain_of_mem_componentPaths (w := w) (b := b) (p := p) hs (hext e he)
  have hlen (ms : List Text) (h : ms.length = 3) : ms ≠ [] := by
    rintro rfl
    cases h
  obtain ⟨files, hlist, hnodup, hshape, hmem⟩ := list_eq_ok hs hglob hplain hlen
  refine ⟨files, hlist, hnodup, hshape, fun x y z hm hx hy hz hex hf => ?_⟩
  obtain ⟨e, he, hz⟩ := hz
  exact hmem _ hm (List.cons_ne_nil x [y, z])
    ⟨e, he, Workspace.mem_componentPaths_of_isFile hs (hext e he) hm hx hy hz hf⟩ hex hf

theorem list_file_eq_ok (hs : Plain ss) (hd : w.isDir (rooted b ss) = true)
    (hext : ∀ e ∈ f.extensions, Workspace.PlainExtension e) :
    ∃ files, f.list w (rooted b ss) defaultFilePattern = .ok files ∧ files.Nodup ∧
      FoundBelow w b ss (· ≠ []) files ∧
      ∀ x, Plain [x] → (∃ e ∈ f.extensions, Workspace.HasExtension e x) →
        f.isExcluded x = false → w.isFile (rooted b (ss ++ [x])) = true →
          rooted b (ss ++ [x]) ∈ files := by
  have hglob (e : Text) (he : e ∈ f.extensions) :
      w.glob (rooted b ss) (defaultFilePattern ++ '.' :: e) =
        .ok (w.matchPaths (rooted b ss) (defaultFilePattern ++ '.' :: e)) :=
    Workspace.glob_eq_ok (Workspace.segments_filePattern (hext e he).2) rfl rfl
      (by simp [maxLevels]) (isUsable_of_isDir hs hd)
  have hplain (e : Text) (he : e ∈ f.extensions) (p : Text) :=
    Workspace.plain_of_mem_filePaths (w := w) (b := b) (p := p) hs (hext e he)
  obtain ⟨files, hlist, hnodup, hshape, hmem⟩ := list_eq_ok hs hglob hplain fun _ h => h
  refine ⟨files, hlist, hnodup, hshape, fun x hx hz hex hf => ?_⟩
  obtain ⟨e, he, hz⟩ := hz
  have ho := hx.ofSegments_eq
  refine hmem [x] hx (List.cons_ne_nil x []) ⟨e, he, ?_⟩ (ho.symm ▸ hex) hf
  rw [ho]
  exact Workspace.mem_filePaths_of_isFile hs (hext e he) hx hz hf

end SourceFilter

end ComponentManifest
