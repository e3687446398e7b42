import ComponentManifest.Proofs.RealPath
import ComponentManifest.Service.Session

/-!
# Which files the paths of a question lead to

A caller asks for the dependencies of files by paths relative to the project directory. A path is
checked in its normalised form and then opened as it was written.

1. `leavesLink` finds the steps up that leave a link, and `reach_normalize` shows that without
   them a path denotes the same entry as its normalised form.
2. What the check of a path ensures.
3. `reads_inside_project`: the file that is opened for a path lies where the path as written really
   leads, and it is the checked file, inside the project, unless a step up leaves a link.
-/

namespace ComponentManifest

open ComponentManifest.Path (Idle Proper)

namespace Workspace

variable {w : Workspace} {base p : Text} {l : Location} {e : Entry}

/-! ## Steps up that leave a link -/

/-- Does the path end at a link? -/
def isLink (w : Workspace) (p : Text) : Bool :=
  match w.reach false p with
  | .entry _ (.link _) => true
  | _ => false

/-- Does one of the segments step up from a link? `kept` are the segments before them that are not
taken back, the last one first. -/
def leavesLink (w : Workspace) (base : Text) (kept : List Text) : List Text → Bool
  | [] => false
  | s :: ss =>
    (s == Path.up && w.isLink (Path.join base (Path.ofSegments kept.reverse))) ||
      w.leavesLink base (Path.push false kept s) ss

theorem reach_eq_walk (hb : base ≠ []) (hp : Path.isAbsolute p = false) (fl : Bool) :
    w.reach fl (Path.join base p) =
      w.tree.walk fl maxLinks (Tree.startOf w.cwd base) (Path.lead base ++ Path.segments p) := by
  have hstart : Tree.startOf w.cwd (Path.join base p) = Tree.startOf w.cwd base := by
    unfold Tree.startOf
    rw [Path.isAbsolute_join hb hp]
  rw [reach_of_ne_nil (Path.join_ne_nil hb), hstart, Path.segments_join hb hp]

/-- A link among the segments that lead from the base is the end of the path up to it. -/
theorem isLink_of_leads {k : Nat} {kept : List Text} {x target : Text} {d : Location}
    (hb : base ≠ []) (hkept : ∀ s ∈ x :: kept, '/' ∉ s ∧ ¬ Idle s) (hx : x ≠ Path.up)
    (h : w.tree.Leads k (Tree.startOf w.cwd base) (Path.lead base ++ kept.reverse) d .dir)
    (hk : k ≤ maxLinks) (he : w.tree.entry? (d ++ [x]) = some (.link target)) :
    w.isLink (Path.join base (Path.ofSegments (x :: kept).reverse)) = true := by
  have hall : ∀ s ∈ (x :: kept).reverse, '/' ∉ s ∧ ¬ Idle s :=
    fun s hs => hkept s (List.mem_reverse.1 hs)
  have hseg : Path.segments (Path.ofSegments (x :: kept).reverse) = kept.reverse ++ [x] := by
    rw [Path.segments_ofSegments (fun s hs => (hall s hs).1) (by simp), List.reverse_cons]
  have hproper : Proper x := ⟨(hkept x List.mem_cons_self).2, hx⟩
  obtain ⟨n, hn⟩ : ∃ n, maxLinks = k + n := ⟨maxLinks - k, by omega⟩
  unfold isLink
  rw [reach_eq_walk hb (Path.isAbsolute_ofSegments hall), hseg, ← List.append_assoc, hn,
    h.walk_append (List.cons_ne_nil x []), Tree.walk_link_last hproper he]

/-- When no step up leaves a link, the segments lead where those lead that are kept of them. -/
theorem leads_foldl_push {k : Nat} {kept ss : List Text} (hb : base ≠ [])
    (hkept : ∀ s ∈ kept, '/' ∉ s ∧ ¬ Idle s) (hss : ∀ s ∈ ss, '/' ∉ s)
    (h : w.tree.Leads k (Tree.startOf w.cwd base) (Path.lead base ++ kept.reverse ++ ss) l e)
    (hk : k ≤ maxLinks) (hn : w.leavesLink base kept ss = false) :
    w.tree.Leads k (Tree.startOf w.cwd base)
      (Path.lead base ++ (ss.foldl (Path.push false) kept).reverse) l e := by
  induction ss generalizing kept with
  | nil => rwa [List.append_nil] at h
  | cons s ss ih =>
    obtain ⟨hlink, hrest⟩ := Bool.or_eq_false_iff.1 hn
    have hss' : ∀ s ∈ ss, '/' ∉ s := fun s hs => hss s (List.mem_cons_of_mem _ hs)
    rw [List.foldl_cons]
    -- A kept segment joins those before it.
    have keep (hs : ¬ Idle s) (hp : Path.push false kept s = s :: kept) :
        w.tree.Leads k (Tree.startOf w.cwd base)
          (Path.lead base ++ (ss.foldl (Path.push false) (Path.push false kept s)).reverse) l e := by
      rw [hp] at hrest ⊢
      refine ih ?_ hss' ?_ hrest
      · intro x hx
        rcases List.mem_cons.1 hx with rfl | hx
        · exact ⟨hss x List.mem_cons_self, hs⟩
        · exact hkept x hx
      · rwa [List.reverse_cons, ← List.append_assoc, List.append_assoc _ [s], List.singleton_append]
    by_cases hi : Idle s
    · rw [Path.push_idle hi] at hrest ⊢
      exact ih hkept hss' (h.drop_idle hi) hrest
    by_cases hu : s = Path.up
    · subst hu
      rcases kept with _ | ⟨x, kept⟩
      · exact keep hi rfl
      by_cases hx : x = Path.up
      · subst hx
        exact keep hi rfl
      rw [Path.push_up_cons hx] at hrest ⊢
      refine ih (fun y hy => hkept y (List.mem_cons_of_mem _ hy)) hss' ?_ hrest
      rw [List.reverse_cons, ← List.append_assoc, List.append_assoc _ [x], List.singleton_append] at h
      refine h.drop_detour ⟨(hkept x List.mem_cons_self).2, hx⟩ ?_
      intro k₁ d target hk₁ h₁ he
      have hl := isLink_of_leads hb hkept hx h₁ (Nat.le_trans hk₁ hk) he
      rw [hl] at hlink
      simp at hlink
    · exact keep hi (Path.push_proper ⟨hi, hu⟩)

/-- A path that leaves no link denotes what its normalised form denotes. -/
theorem reach_normalize (hb : base ≠ []) (hp : Path.isAbsolute p = false)
    (h : w.reach true (Path.join base p) = .entry l e)
    (hn : w.leavesLink base [] (Path.segments p) = false) :
    w.reach true (Path.join base (Path.normalize p)) = .entry l e := by
  rw [reach_eq_walk hb hp] at h
  obtain ⟨k, hk, hl⟩ := Tree.leads_of_walk h
  have hc : w.tree.Leads k (Tree.startOf w.cwd base)
      (Path.lead base ++ Path.collapse false (Path.segments p)) l e :=
    leads_foldl_push hb (fun s hs => absurd hs List.not_mem_nil) (fun s hs => Path.slash_not_mem hs)
      (by simpa using hl) hk hn
  have hseg := Path.segments_normalize hp
  rw [reach_eq_walk hb (Path.isAbsolute_normalize hp), hseg]
  split
  · next hnil =>
    -- Nothing is left of the path, so it leads to the base itself, which is a directory.
    rw [hnil, List.append_nil] at hc
    obtain ⟨k₁, k₂, d, rfl, h₁, h₂⟩ := hl.split (Path.segments_ne_nil p)
    obtain ⟨-, rfl, rfl⟩ := hc.unique h₁
    exact (hc.append (.idle (Or.inr rfl) (.arrive _))).walk_eq hk
  · exact hc.walk_eq hk

/-! ## Opening a path -/

/-- Opening the path gives the file at the location. -/
def Opens (w : Workspace) (p : Text) (l : Location) : Prop :=
  ∃ content, w.reach true p = .entry l (.file content)

/-- The real path of the path as it is written lies inside the base. -/
def ReallyInside (w : Workspace) (base p : Text) : Prop :=
  w.realLocation base <+: w.realLocation (Path.join base p)

theorem Opens.realLocation_eq (h : w.Opens p l) : w.realLocation p = l := by
  obtain ⟨content, hr⟩ := h
  exact realLocation_of_reach hr

/-! ## Checked paths -/

theorem checkFile_eq_none (h : checkFile w p base = .ok none) :
    base ≠ [] ∧ Path.isAbsolute p = false ∧
      w.realLocation base <+: w.realLocation (Path.join base (Path.normalize p)) := by
  unfold checkFile at h
  split at h
  · cases h
  split at h
  · cases h
  next hb =>
  split at h
  · cases h
  next ha =>
  dsimp only at h
  split at h
  · cases h
  split at h
  · cases h
  split at h
  · cases h
  next hin =>
  refine ⟨by simpa using hb, ?_, ?_⟩
  · have := (Bool.or_eq_false_iff.1 (Bool.not_eq_true _ ▸ ha)).1
    exact this
  · simpa using hin

end Workspace

namespace Session

variable {s : Session} {w : Workspace} {paths : List Text} {p : Text}

/-- The tool takes the paths: the session has a project, and each path passes the check. -/
def Takes (s : Session) (w : Workspace) (paths : List Text) : Prop :=
  s.requireProject w = .ok () ∧ s.requireFiles w paths = .ok ()

theorem checkFile_of_requireFiles (h : s.requireFiles w paths = .ok ()) (hp : p ∈ paths) :
    checkFile w p s.basePath = .ok none := by
  induction paths with
  | nil => exact absurd hp List.not_mem_nil
  | cons q ps ih =>
    unfold requireFiles requireFile at h
    rcases hq : checkFile w q s.basePath with f | _ | why
    · rw [hq] at h; cases h
    · rw [hq] at h
      rcases List.mem_cons.1 hp with rfl | hp
      · exact hq
      · exact ih h hp
    · rw [hq] at h; cases h

theorem classifyDependencies_of_takes (h : s.Takes w paths) (d : Declared) :
    s.classifyDependencies w paths d =
      (s.classifierFor w d).andThen fun k =>
        (k.classifyFiles w (paths.map (Path.join s.basePath))).andThen fun r =>
          .value r.1.toJson := by
  unfold classifyDependencies
  rw [h.1, h.2]
  rfl

/-! ## Confinement -/

/-- A file opened for an accepted path lies inside the project exactly if the real path of the path
as written does, which is so unless a step up leaves a link. -/
theorem reads_inside_project (h : s.Takes w paths) (d : Declared) :
    s.classifyDependencies w paths d =
        ((s.classifierFor w d).andThen fun k =>
          (k.classifyFiles w (paths.map (Path.join s.basePath))).andThen fun r =>
            .value r.1.toJson) ∧
      ∀ p ∈ paths, ∀ l, w.Opens (Path.join s.basePath p) l →
        (w.realLocation s.basePath <+: l ↔ w.ReallyInside s.basePath p) ∧
        (w.leavesLink s.basePath [] (Path.segments p) = false →
          w.Opens (Path.join s.basePath (Path.normalize p)) l ∧
            w.realLocation s.basePath <+: l) := by
  refine ⟨classifyDependencies_of_takes h d, fun p hp l ho => ⟨?_, fun hn => ?_⟩⟩
  · unfold Workspace.ReallyInside
    rw [ho.realLocation_eq]
  · obtain ⟨hb, ha, hin⟩ := Workspace.checkFile_eq_none (checkFile_of_requireFiles h.2 hp)
    obtain ⟨content, hr⟩ := ho
    have ho' : w.Opens (Path.join s.basePath (Path.normalize p)) l :=
      ⟨content, Workspace.reach_normalize hb ha hr hn⟩
    rw [ho'.realLocation_eq] at hin
    exact ⟨ho', hin⟩

/-- A project `/p` with a directory `d` and a link `k` to a directory elsewhere, each side with a
source `a.ts`. -/
def linkedProject : Workspace where
  tree := {
    entries := [([['p']], .dir), ([['p'], ['d']], .dir), ([['p'], ['k']], .link "/o/e".toList),
      ([['p'], "a.ts".toList], .file []), ([['o']], .dir), ([['o'], ['e']], .dir),
      ([['o'], "a.ts".toList], .file [])]
    named := by decide
    closed := by decide
    distinct := by decide }
  cwd := []

/-- A session for it. -/
def linkedSession : Session := ⟨true, "/p".toList, none⟩

theorem reads_inside_project_detour :
    linkedSession.Takes linkedProject ["d/../a.ts".toList] ∧
      linkedProject.Opens (Path.join "/p".toList "d/../a.ts".toList) [['p'], "a.ts".toList] ∧
      linkedProject.leavesLink "/p".toList [] (Path.segments "d/../a.ts".toList) = false ∧
      linkedProject.Opens (Path.join "/p".toList (Path.normalize "d/../a.ts".toList))
        [['p'], "a.ts".toList] := by
  have ht : linkedSession.Takes linkedProject ["d/../a.ts".toList] := ⟨rfl, rfl⟩
  have ho : linkedProject.Opens (Path.join "/p".toList "d/../a.ts".toList)
      [['p'], "a.ts".toList] := ⟨[], by decide⟩
  have hn : linkedProject.leavesLink "/p".toList [] (Path.segments "d/../a.ts".toList) = false := by
    decide
  exact ⟨ht, ho, hn,
    (((reads_inside_project ht default).2 _ List.mem_cons_self _ ho).2 hn).1⟩

/-- The path `k/../a.ts` is accepted because its normalised form `a.ts` is a file of the project,
but it opens the file beside the target of the link. -/
theorem step_up_from_link_reads_outside :
    linkedSession.Takes linkedProject ["k/../a.ts".toList] ∧
      linkedProject.Opens (Path.join linkedSession.basePath "k/../a.ts".toList)
        [['o'], "a.ts".toList] ∧
      ¬ linkedProject.realLocation linkedSession.basePath <+: [['o'], "a.ts".toList] := by
  refine ⟨⟨rfl, rfl⟩, ⟨[], by decide⟩, by decide⟩

end Session

end ComponentManifest
