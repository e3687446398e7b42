import ComponentManifest.Proofs.RelativePaths
import ComponentManifest.Proofs.SourceListing
import Mathlib.Data.List.Basic
import Mathlib.Data.List.TakeWhile

/-!
# Listing by any pattern

A pattern that is no absolute path finds relative paths, whatever its wildcards: their segments are
names in directories, segments of the pattern, or empty. The files that are listed for it are
rooted, and they lie below the directory when the pattern has no step up.

1. `FromPattern`, the paths that are made of such segments.
2. What a pattern stands for is from the pattern.
3. A file has a name.
4. `list_rooted` and `list_below`: where the listed files are.
-/

namespace ComponentManifest

open ComponentManifest.Path (Plain Proper rooted isAbsolute segments up)

/-! ## Paths made of given segments -/

/-- The path is relative, and each of its segments is empty, a name that a directory can hold, or
one of the given ones. -/
def FromPattern (ss : List Text) (p : Text) : Prop :=
  isAbsolute p = false ∧ ∀ s ∈ segments p, s = [] ∨ ValidName s ∨ s ∈ ss

namespace FromPattern

variable {ss : List Text} {d p s x : Text}

theorem nil : FromPattern ss [] := by
  refine ⟨rfl, fun s hs => Or.inl ?_⟩
  rwa [show segments [] = [[]] from rfl, List.mem_singleton] at hs

theorem of_slash_not_mem (hx : '/' ∉ x) (h : x = [] ∨ ValidName x ∨ x ∈ ss) :
    FromPattern ss x := by
  have hseg : segments x = [x] := Path.segments_of_not_mem hx
  refine ⟨?_, fun s hs => ?_⟩
  · rcases x with _ | ⟨c, cs⟩
    · rfl
    · have hc : c ≠ '/' := fun he => hx (he ▸ List.mem_cons_self)
      simp [isAbsolute, hc]
  · rw [hseg, List.mem_singleton] at hs
    exact hs ▸ h

theorem name (h : ValidName x) : FromPattern ss x := of_slash_not_mem h.2.1 (Or.inr (Or.inl h))

theorem join (hd : FromPattern ss d) (hx : FromPattern ss x) :
    FromPattern ss (Path.join d x) := by
  refine ⟨Path.isAbsolute_join_eq_false hd.1 hx.1, fun s hs => ?_⟩
  by_cases hn : d = []
  · subst hn
    rw [Path.nil_join] at hs
    exact hx.2 s hs
  · rw [Path.segments_join hn hx.1] at hs
    rcases List.mem_append.1 hs with hs | hs
    · exact hd.2 s (Path.mem_lead hs)
    · exact hx.2 s hs

theorem within (hd : FromPattern ss d) (hx : FromPattern ss x) :
    FromPattern ss (Workspace.within d x) := by
  unfold Workspace.within
  split
  · exact hx
  · split
    · exact hd
    · exact hd.join hx

theorem ofSegments {ms : List Text} (h : ∀ s ∈ ms, s ∈ ss ∧ '/' ∉ s) (hne : ms ≠ [])
    (hhead : ms.head? ≠ some []) : FromPattern ss (Path.ofSegments ms) := by
  have hseg : segments (Path.ofSegments ms) = ms :=
    Path.segments_ofSegments (fun s hs => (h s hs).2) hne
  refine ⟨?_, fun s hs => Or.inr (Or.inr (h s (hseg ▸ hs)).1)⟩
  -- An absolute path would have an empty segment first.
  rcases hp : Path.ofSegments ms with _ | ⟨c, cs⟩
  · rfl
  · have hc : c ≠ '/' := by
      rintro rfl
      rw [hp, Path.segments_cons, if_pos rfl] at hseg
      exact hhead (hseg ▸ rfl)
    simp [isAbsolute, hc]

end FromPattern

/-! ## What a pattern stands for -/

namespace Workspace

variable {w : Workspace} {od : Bool} {n : Nat} {ss rest : List Text} {base dir p s x : Text}

theorem validName_of_mem_listNames (h : x ∈ w.listNames od dir) : ValidName x := by
  have hx := (mem_listNames.1 h).1
  unfold list at hx
  split at hx
  · exact Tree.validName_of_mem_children hx
  · exact absurd hx List.not_mem_nil

theorem Below.fromPattern (h : w.Below od n dir p) : FromPattern ss p := by
  induction h with
  | name hx _ => exact .name (validName_of_mem_listNames hx)
  | path hx _ _ ih => exact .within (.name (validName_of_mem_listNames hx)) ih

theorem Expands.fromPattern (h : w.Expands od dir s x) (hs : s ∈ ss) (hslash : '/' ∉ s) :
    FromPattern ss x := by
  cases h with
  | start => exact .nil
  | below h => exact h.fromPattern
  | listed _ _ hx _ _ => exact .name (validName_of_mem_listNames hx)
  | slash _ => exact .nil
  | literal _ _ _ => exact .of_slash_not_mem hslash (Or.inr (Or.inr hs))

/-- Literal segments that do not begin with an empty one are kept up to the last that is not
empty. -/
theorem exists_literalDir (hne : rest ≠ []) (hlast : rest.getLast? ≠ some []) :
    ∃ pre y ys, rest = pre ++ y :: ys ∧ y ≠ [] ∧
      literalDir rest = Path.ofSegments (y :: ys).reverse := by
  obtain ⟨pre, hpre⟩ := List.dropWhile_suffix (fun s : Text => s.isEmpty) (l := rest)
  have hhead := List.head?_dropWhile_not (fun s : Text => s.isEmpty) rest
  rcases hbody : rest.dropWhile (fun s => s.isEmpty) with _ | ⟨y, ys⟩
  · have hall := List.dropWhile_eq_nil_iff.1 hbody
    have hx := hall (rest.getLast hne) (List.getLast_mem hne)
    rw [List.getLast?_eq_some_getLast hne, List.isEmpty_iff.1 hx] at hlast
    exact absurd rfl hlast
  · rw [hbody] at hpre hhead
    refine ⟨pre, y, ys, hpre.symm, by simpa using hhead, ?_⟩
    unfold literalDir
    rw [hbody]
    rfl

theorem fromPattern_literalDir (h : ∀ s ∈ rest, s ∈ ss ∧ '/' ∉ s) (hne : rest ≠ [])
    (hlast : rest.getLast? ≠ some []) : FromPattern ss (literalDir rest) := by
  obtain ⟨pre, y, ys, rfl, -, hdir⟩ := exists_literalDir hne hlast
  rw [List.getLast?_append_of_ne_nil pre (List.cons_ne_nil y ys)] at hlast
  rw [hdir]
  refine .ofSegments (fun s hs => ?_) (by simp) (by rwa [List.head?_reverse])
  exact h s (List.mem_append_right pre (List.mem_reverse.1 hs))

theorem getLast?_ne_of_cons (h : (s :: rest).getLast? ≠ some x) : rest.getLast? ≠ some x := by
  rcases rest with _ | ⟨y, ys⟩
  · simp
  · rwa [List.getLast?_cons_cons] at h

theorem Visits.fromPattern (hp : w.Visits base rest p) (h : ∀ s ∈ rest, s ∈ ss ∧ '/' ∉ s)
    (hlast : rest.getLast? ≠ some []) : FromPattern ss p := by
  induction hp with
  | base => exact .nil
  | literal hne _ => exact fromPattern_literalDir h hne hlast
  | slash _ _ ih =>
    exact ih (fun s hs => h s (List.mem_cons_of_mem _ hs)) (getLast?_ne_of_cons hlast)
  | step _ _ _ hx ih =>
    obtain ⟨hs, hslash⟩ := h _ List.mem_cons_self
    exact (ih (fun s hs => h s (List.mem_cons_of_mem _ hs)) (getLast?_ne_of_cons hlast)).join
      (hx.fromPattern hs hslash)

/-- Only the empty path and absolute paths begin with an empty segment. -/
theorem head?_segments {pattern : Text} (h : isAbsolute pattern = false) (hne : pattern ≠ []) :
    (segments pattern).head? ≠ some [] := by
  obtain ⟨c, cs, rfl⟩ := List.exists_cons_of_ne_nil hne
  have hc : c ≠ '/' := by
    rintro rfl
    cases h
  obtain ⟨x, xs, hx⟩ := List.exists_cons_of_ne_nil (Path.segments_ne_nil cs)
  rw [Path.segments_cons, if_neg hc, hx]
  simp

theorem mem_segments_of_reverse {pattern : Text} (hr : (segments pattern).reverse = rest) :
    ∀ s ∈ rest, s ∈ segments pattern ∧ '/' ∉ s := fun s hs => by
  rw [← hr, List.mem_reverse] at hs
  exact ⟨hs, Path.slash_not_mem hs⟩

theorem getLast?_of_reverse_segments {pattern : Text} (h : isAbsolute pattern = false)
    (hne : pattern ≠ []) (hr : (segments pattern).reverse = s :: rest) :
    rest.getLast? ≠ some [] := by
  refine getLast?_ne_of_cons (s := s) ?_
  rw [← hr, List.getLast?_reverse]
  exact head?_segments h hne

/-- What a pattern stands for is made of its segments and of names in directories. -/
theorem fromPattern_matchPaths {pattern : Text} (h : isAbsolute pattern = false)
    (hne : pattern ≠ []) (hp : p ∈ w.matchPaths base pattern) :
    FromPattern (segments pattern) p := by
  cases mem_matchPaths_iff.1 hp with
  | literal _ _ _ => exact ⟨h, fun s hs => Or.inr (Or.inr hs)⟩
  | listed _ hr hd hx =>
    have hmem := mem_segments_of_reverse hr
    obtain ⟨hs, hslash⟩ := hmem _ List.mem_cons_self
    exact .join (hd.fromPattern (fun s hs => hmem s (List.mem_cons_of_mem _ hs))
      (getLast?_of_reverse_segments h hne hr)) (hx.fromPattern hs hslash)

end Workspace

/-! ## A file has a name -/

/-- The segments that lead to something else than a directory end with its name. -/
theorem Tree.Leads.exists_name {t : Tree} {k : Nat} {dir l : Location} {ss : List Text} {e : Entry}
    (h : t.Leads k dir ss l e) (he : e ≠ .dir) : ∃ init x, ss = init ++ [x] ∧ Proper x := by
  induction h with
  | arrive => exact absurd rfl he
  | @idle _ _ _ s _ _ _ _ ih =>
    obtain ⟨init, x, rfl, hx⟩ := ih he
    exact ⟨s :: init, x, rfl, hx⟩
  | up _ ih =>
    obtain ⟨init, x, rfl, hx⟩ := ih he
    exact ⟨Path.up :: init, x, rfl, hx⟩
  | @enter _ _ _ s _ _ _ _ _ ih =>
    obtain ⟨init, x, rfl, hx⟩ := ih he
    exact ⟨s :: init, x, rfl, hx⟩
  | @file _ s _ hs _ => exact ⟨[], s, rfl, hs⟩
  | @follow _ _ _ s _ rest _ hs _ _ ih =>
    obtain ⟨init, x, hrest, hx⟩ := ih he
    rcases List.eq_nil_or_concat rest with rfl | ⟨rest', y, rfl⟩
    · exact ⟨[], s, rfl, hs⟩
    · rw [List.concat_eq_append, ← List.append_assoc] at hrest
      have hy : y = x := List.singleton_inj.1 (List.append_inj' hrest rfl).2
      exact ⟨s :: rest', y, by rw [List.concat_eq_append]; rfl, hy ▸ hx⟩

theorem Workspace.exists_name_of_isFile {w : Workspace} {q : Text} (h : w.isFile q = true) :
    ∃ init x, segments q = init ++ [x] ∧ Proper x := by
  obtain ⟨k, dir, l, content, hl⟩ := leads_of_isFile h
  exact hl.exists_name (by simp)

/-- A file that a relative path denotes from a rooted directory lies where the segments before its
name lead. -/
theorem Workspace.normalize_of_isFile {w : Workspace} {b : Bool} {ss : List Text} {p : Text}
    (hs : Plain ss) (hp : isAbsolute p = false) (hf : w.isFile (Path.join (rooted b ss) p) = true) :
    ∃ init x, segments p = init ++ [x] ∧ Proper x ∧
      Path.normalize (Path.join (rooted b ss) p) =
        rooted b ((init.foldl (Path.push true) ss.reverse).reverse ++ [x]) := by
  obtain ⟨init', x, hseg, hx⟩ := exists_name_of_isFile hf
  rw [Path.segments_join Path.rooted_ne_nil hp] at hseg
  obtain ⟨init, y, hinit⟩ : ∃ init y, segments p = init ++ [y] := by
    obtain ⟨init, y, h⟩ := List.eq_nil_or_concat (segments p) |>.resolve_left
      (Path.segments_ne_nil p)
    exact ⟨init, y, h.trans List.concat_eq_append⟩
  rw [hinit, ← List.append_assoc] at hseg
  obtain rfl : y = x := List.singleton_inj.1 (List.append_inj' hseg rfl).2
  refine ⟨init, y, hinit, hx, ?_⟩
  rw [Path.normalize_join_rooted hs hp, hinit, List.foldl_append]
  show rooted b (Path.push true _ y).reverse = _
  rw [Path.push_proper hx, List.reverse_cons]

/-! ## Where the listed files are -/

/-- The paths of some names below a rooted directory. -/
def NamedBelow (b : Bool) (ss : List Text) (files : List Text) : Prop :=
  ∀ q ∈ files, ∃ ms, Plain ms ∧ ms ≠ [] ∧ q = rooted b (ss ++ ms)

namespace SourceFilter

variable {f : SourceFilter} {w : Workspace} {b : Bool} {ss : List Text}
  {base pattern e q : Text} {files exts : List Text}

theorem list_eq_sortDistinct (hs : Plain ss) (h : f.list w (rooted b ss) pattern = .ok files) :
    ∃ found, files = sortDistinct found ∧
      ∀ q ∈ found, f.Finds w (rooted b ss) pattern f.extensions q := by
  unfold list at h
  rw [Workspace.absolute_rooted hs] at h
  obtain ⟨found, hfound, h⟩ := except_bind_eq_ok.1 h
  exact ⟨found, (Except.ok.inj h).symm, fun q => ((listed_of_listEach hfound).2 q).1⟩

theorem ascending_list (hs : Plain ss) (h : f.list w (rooted b ss) pattern = .ok files) :
    Ascending files := by
  obtain ⟨found, rfl, -⟩ := list_eq_sortDistinct hs h
  exact ascending_sortDistinct found

theorem isAbsolute_extension (h : isAbsolute pattern = false) :
    isAbsolute (pattern ++ '.' :: e) = false := by
  rcases pattern with _ | ⟨c, cs⟩
  · rfl
  · exact h

/-- The path of a file that is found is collapsed to names, of which the last is kept. -/
theorem Finds.exists_rooted (hs : Plain ss) (hp : isAbsolute pattern = false)
    (h : f.Finds w (rooted b ss) pattern exts q) :
    ∃ e ∈ exts, ∃ init x, Proper x ∧ '/' ∉ x ∧
      (∀ s ∈ init ++ [x], '/' ∉ s ∧ (s = [] ∨ ValidName s ∨ s ∈ segments (pattern ++ '.' :: e))) ∧
      q = rooted b ((init.foldl (Path.push true) ss.reverse).reverse ++ [x]) := by
  obtain ⟨e, he, p, hmem, -, hfile, rfl⟩ := h
  obtain ⟨habs, hsegs⟩ := Workspace.fromPattern_matchPaths (isAbsolute_extension hp) (by simp) hmem
  obtain ⟨init, x, hinit, hx, hq⟩ := Workspace.normalize_of_isFile hs habs hfile
  have hslash : ∀ s ∈ init ++ [x], '/' ∉ s := fun s hs => Path.slash_not_mem (hinit ▸ hs)
  exact ⟨e, he, init, x, hx, hslash x (by simp),
    fun s hs => ⟨hslash s hs, hsegs s (hinit ▸ hs)⟩, hq⟩

theorem list_rooted (hs : Plain ss) (h : f.list w (rooted b ss) pattern = .ok files)
    (hp : isAbsolute pattern = false) : NamedBelow b [] files := by
  obtain ⟨found, rfl, hfound⟩ := list_eq_sortDistinct hs h
  intro q hq
  obtain ⟨e, -, init, x, hx, hslash, hinit, rfl⟩ :=
    (hfound q (mem_sortDistinct.1 hq)).exists_rooted hs hp
  have hkept : Plain ss.reverse := fun s hm => hs s (List.mem_reverse.1 hm)
  have hplain : Plain (init.foldl (Path.push true) ss.reverse) :=
    Path.plain_foldl_push hkept fun s hm => (hinit s (List.mem_append_left _ hm)).1
  refine ⟨_, Plain.append (fun s hm => hplain s (List.mem_reverse.1 hm)) fun s hm => ?_, ?_, rfl⟩
  · rw [List.mem_singleton.1 hm]
    exact ⟨hx, hslash⟩
  · simp

/-- An extension that brings in neither another segment nor a step up. -/
def SafeExtension (e : Text) : Prop := '/' ∉ e ∧ e ≠ [] ∧ e ≠ ['.']

instance (e : Text) : Decidable (SafeExtension e) := inferInstanceAs (Decidable (_ ∧ _ ∧ _))

theorem safeExtension_standard : ∀ e ∈ standard.extensions, SafeExtension e := by decide +kernel

theorem up_not_mem_segments_extension (he : SafeExtension e) (hup : up ∉ segments pattern) :
    up ∉ segments (pattern ++ '.' :: e) := by
  obtain ⟨init, l, hinit, hall⟩ := Path.exists_segments_append pattern
  obtain ⟨hslash, hne, hdot⟩ := he
  rw [hinit] at hup
  rw [hall ('.' :: e) (by simp [hslash])]
  intro hm
  rcases List.mem_append.1 hm with hm | hm
  · exact hup (List.mem_append_left _ hm)
  · have hl : ['.', '.'] = l ++ '.' :: e := List.mem_singleton.1 hm
    rcases l with _ | ⟨c, _ | ⟨d, ds⟩⟩
    · exact hdot (List.cons.inj hl).2.symm
    · exact hne (List.cons.inj (List.cons.inj hl).2).2.symm
    · have hlen := congrArg List.length hl
      simp at hlen

/-- A pattern without a step up lists paths below the directory. -/
theorem list_below (hs : Plain ss) (h : f.list w (rooted b ss) pattern = .ok files)
    (hp : isAbsolute pattern = false) (hup : up ∉ segments pattern)
    (hext : ∀ e ∈ f.extensions, SafeExtension e) : NamedBelow b ss files := by
  obtain ⟨found, rfl, hfound⟩ := list_eq_sortDistinct hs h
  intro q hq
  obtain ⟨e, he, init, x, hx, hslash, hinit, rfl⟩ :=
    (hfound q (mem_sortDistinct.1 hq)).exists_rooted hs hp
  have hup' : up ∉ init := by
    intro hm
    rcases (hinit up (List.mem_append_left _ hm)).2 with h | h | h
    · cases h
    · exact h.2.2.2.2 rfl
    · exact up_not_mem_segments_extension (hext e he) hup h
  refine ⟨(init.filter fun s => ¬ Path.Idle s) ++ [x], ?_, by simp, ?_⟩
  · intro s hm
    rcases List.mem_append.1 hm with hm | hm
    · obtain ⟨hm, hi⟩ := List.mem_filter.1 hm
      exact ⟨⟨by simpa using hi, fun he => hup' (he ▸ hm)⟩,
        (hinit s (List.mem_append_left _ hm)).1⟩
    · rw [List.mem_singleton.1 hm]
      exact ⟨hx, hslash⟩
  · rw [Path.foldl_push_of_up_not_mem hup', List.reverse_append, List.reverse_reverse,
      List.reverse_reverse, List.append_assoc]

end SourceFilter

end ComponentManifest
