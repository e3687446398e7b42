import ComponentManifest.Proofs.PackageLists
import ComponentManifest.Proofs.Programs
import Mathlib.Algebra.GroupWithZero.Nat
import Mathlib.Data.List.Perm.Basic

/-!
# Schedules of a pool

Whatever the order in which the workers of a pool act, the pool comes to the same end: each unit
gets the item it would get alone, the memo gets the tags of the same paths, and the same files are
skipped.

1. `Owe`: the results that the cells will have, and the paths and skipped files still to come.
2. `collect` is stable: a fault that decides about the whole goes on deciding.
3. `Pool.HeadsFor`: where a pool is heading; a step keeps it, and shortens what is left.
4. `Pool.exists_step`: a pool that is not settled can go on.
5. The end of a pool against the items made one after another.
6. `build_independent_of_schedule`: a builder whose units are shared out.
-/

namespace ComponentManifest

variable {r : Except Fault Item} {rs : List (Except Fault Item)} {ps ps' qs qs' : List Text}
  {c c' : Cell} {cs pre post : List Cell}

/-! ## What the cells owe -/

/-- The result that a unit will have, with the paths that it will know the tags of and the files it
will skip by then. A unit that was dropped may owe anything. -/
inductive Cell.Owes : Cell → Except Fault Item → List Text → List Text → Prop
  | waiting {p : Program Item} {r : Except Fault Item} {ps qs : List Text} :
      p.Ends r ps qs → Owes (.waiting p) r ps qs
  | running {p : Program Item} {r : Except Fault Item} {ps qs : List Text} :
      p.Ends r ps qs → Owes (.running p) r ps qs
  | finished (r : Except Fault Item) : Owes (.finished r) r [] []
  | dropped (r : Except Fault Item) (ps qs : List Text) : Owes .dropped r ps qs

/-- What all units owe together. -/
inductive Owe : List Cell → List (Except Fault Item) → List Text → List Text → Prop
  | nil : Owe [] [] [] []
  | cons {c : Cell} {cs : List Cell} {r : Except Fault Item} {rs : List (Except Fault Item)}
      {ps ps' qs qs' : List Text} :
      c.Owes r ps qs → Owe cs rs ps' qs' → Owe (c :: cs) (r :: rs) (ps ++ ps') (qs ++ qs')

/-- One cell may be replaced by another that will have the same result. -/
theorem Owe.replace (h : Owe (pre ++ c :: post) rs ps qs) :
    ∃ r ps₀ ps₁ ps₂ qs₀ qs₁ qs₂, c.Owes r ps₁ qs₁ ∧ ps = ps₀ ++ (ps₁ ++ ps₂) ∧
      qs = qs₀ ++ (qs₁ ++ qs₂) ∧
      ∀ c' ps₁' qs₁', c'.Owes r ps₁' qs₁' →
        Owe (pre ++ c' :: post) rs (ps₀ ++ (ps₁' ++ ps₂)) (qs₀ ++ (qs₁' ++ qs₂)) := by
  induction pre generalizing rs ps qs with
  | nil =>
    cases h with
    | @cons _ _ r rs ps₁ ps₂ qs₁ qs₂ hc hcs =>
      refine ⟨r, [], ps₁, ps₂, [], qs₁, qs₂, hc, rfl, rfl, fun c' ps' qs' hc' => ?_⟩
      show Owe (c' :: post) _ (ps' ++ ps₂) (qs' ++ qs₂)
      exact .cons hc' hcs
  | cons d pre ih =>
    cases h with
    | @cons _ _ r rs ps' _ qs' _ hd hrest =>
      obtain ⟨r, ps₀, ps₁, ps₂, qs₀, qs₁, qs₂, hc, rfl, rfl, hrep⟩ := ih hrest
      refine ⟨r, ps' ++ ps₀, ps₁, ps₂, qs' ++ qs₀, qs₁, qs₂, hc, by simp, by simp, ?_⟩
      intro c' ps₁' qs₁' hc'
      rw [List.append_assoc, List.append_assoc qs']
      exact .cons hd (hrep c' ps₁' qs₁' hc')

/-- The results of all units in their order. -/
def collectResults (rs : List (Except Fault Item)) : Except Fault (List Item) :=
  rs.mapM id

theorem collectResults_cons (i : Item) :
    collectResults (.ok i :: rs) = (collectResults rs).map (i :: ·) := by
  unfold collectResults
  rw [List.mapM_cons]
  cases rs.mapM id <;> rfl

theorem Owe.collect_eq_some {r : Except Fault (List Item)} (h : Owe cs rs ps qs)
    (hc : collect cs = some r) : collectResults rs = r := by
  induction h generalizing r with
  | nil => exact Option.some.inj hc
  | @cons c cs r' rs _ _ _ _ hown _ ih =>
    cases hown with
    | waiting _ | running _ | dropped => cases hc
    | finished r' =>
      rcases r' with e | i
      · exact Option.some.inj hc
      · obtain ⟨r₀, hr₀, rfl⟩ := Option.map_eq_some_iff.1 hc
        rw [collectResults_cons, ih hr₀]

theorem Owe.nothing_left {items : List Item} (h : Owe cs rs ps qs)
    (hc : collect cs = some (.ok items)) : ps = [] ∧ qs = [] := by
  induction h generalizing items with
  | nil => exact ⟨rfl, rfl⟩
  | @cons c cs r' rs _ _ _ _ hown _ ih =>
    cases hown with
    | waiting _ | running _ | dropped => cases hc
    | finished r' =>
      rcases r' with e | i
      · cases hc
      · obtain ⟨r₀, hr₀, hr⟩ := Option.map_eq_some_iff.1 hc
        rcases r₀ with e | items'
        · cases hr
        · exact ih hr₀

/-! ## Collecting is stable -/

/-- A fault that is known to decide does so whatever becomes of a unit that is not finished. -/
theorem collect_replace {e : Fault} (hf : ∀ r, c ≠ .finished r)
    (h : collect (pre ++ c :: post) = some (.error e)) :
    collect (pre ++ c' :: post) = some (.error e) := by
  induction pre with
  | nil =>
    cases c with
    | finished r => exact absurd rfl (hf r)
    | waiting _ | running _ | dropped => cases h
  | cons d pre ih =>
    cases d with
    | waiting _ | running _ | dropped => cases h
    | finished r =>
      rcases r with e' | i
      · exact h
      · obtain ⟨r₀, hr₀, hr⟩ := Option.map_eq_some_iff.1 h
        rcases r₀ with e' | items
        · cases hr
          show (collect (pre ++ c' :: post)).map _ = _
          rw [ih hr₀]
          rfl
        · cases hr

theorem exists_collect (hs : cs.all Cell.isSettled = true) (hd : Cell.dropped ∉ cs) :
    ∃ r, collect cs = some r := by
  induction cs with
  | nil => exact ⟨_, rfl⟩
  | cons c cs ih =>
    simp only [List.all_cons, Bool.and_eq_true, List.mem_cons, not_or] at hs hd
    cases c with
    | waiting _ | running _ => cases hs.1
    | dropped => exact absurd rfl hd.1
    | finished r =>
      rcases r with e | i
      · exact ⟨_, rfl⟩
      · obtain ⟨r, hr⟩ := ih hs.2 hd.2
        exact ⟨r.map (i :: ·), by show (collect cs).map _ = _; rw [hr]; rfl⟩

/-! ## Where a pool is heading -/

/-- The steps that are left to the worker of a unit, with the taking and the handing in. -/
def Cell.cost : Cell → Nat
  | waiting p => p.cost + 2
  | running p => p.cost + 1
  | finished _ | dropped => 0

namespace Pool

variable {q q' q'' : Pool} {known skips : List Text} {n workers : Nat}

/-- A bound on the steps that are left. -/
def cost (q : Pool) : Nat := (q.cells.map Cell.cost).sum

/-- The pool is heading for some results, for a memo of some known paths and for some skipped
files. -/
structure HeadsFor (q : Pool) (rs : List (Except Fault Item)) (known skips : List Text) :
    Prop where
  sound : q.shared.memo.Sound
  owe : ∃ ps qs, Owe q.cells rs ps qs ∧
    (∀ x, x ∈ q.shared.memo.paths ∨ x ∈ ps ↔ x ∈ known) ∧ (q.shared.skipped ++ qs).Perm skips
  dropped : .dropped ∈ q.cells → ∃ e, collect q.cells = some (.error e)

/-- A unit may be handed on when what is known and what is skipped stays the same. -/
theorem HeadsFor.replace {s s' : Shared} (h : HeadsFor ⟨s, pre ++ c :: post⟩ rs known skips)
    (hc : ∀ r ps qs, c.Owes r ps qs → ∃ ps' qs', c'.Owes r ps' qs' ∧ s'.memo.Sound ∧
      (∀ x, x ∈ s'.memo.paths ∨ x ∈ ps' ↔ x ∈ s.memo.paths ∨ x ∈ ps) ∧
      s'.skipped ++ qs' = s.skipped ++ qs)
    (hf : ∀ r, c ≠ .finished r)
    (hd : c' = .dropped → ∃ e, collect (pre ++ c :: post) = some (.error e)) :
    HeadsFor ⟨s', pre ++ c' :: post⟩ rs known skips := by
  obtain ⟨ps, qs, howe, hknown, hskips⟩ := h.owe
  obtain ⟨r, ps₀, ps₁, ps₂, qs₀, qs₁, qs₂, hown, rfl, rfl, hrep⟩ := howe.replace
  obtain ⟨ps₁', qs₁', hown', hsound, hpaths, hskip⟩ := hc r ps₁ qs₁ hown
  refine ⟨hsound, ⟨_, _, hrep c' ps₁' qs₁' hown', fun x => ?_, ?_⟩, fun hmem => ?_⟩
  · rw [← hknown x]
    have hx := hpaths x
    simp only [List.mem_append] at hx ⊢
    grind
  · -- the skipped files of this unit come right after those that are skipped already
    have hmove (l l' : List Text) :
        (l ++ (qs₀ ++ (l' ++ qs₂))).Perm ((l ++ l') ++ (qs₀ ++ qs₂)) := by
      rw [List.append_assoc]
      refine List.Perm.append_left l ?_
      rw [← List.append_assoc, ← List.append_assoc]
      exact List.perm_append_comm.append_right qs₂
    refine (hmove _ _).trans (.trans ?_ hskips)
    rw [hskip]
    exact (hmove _ _).symm
  · have hold : ∃ e, collect (pre ++ c :: post) = some (.error e) := by
      rcases List.mem_append.1 hmem with hm | hm
      · exact h.dropped (List.mem_append_left _ hm)
      · rcases List.mem_cons.1 hm with hm | hm
        · exact hd hm.symm
        · exact h.dropped (List.mem_append_right _ (List.mem_cons_of_mem _ hm))
    obtain ⟨e, he⟩ := hold
    exact ⟨e, collect_replace hf he⟩

theorem HeadsFor.step (h : q.HeadsFor rs known skips) (hs : Step workers q q') :
    q'.HeadsFor rs known skips := by
  cases hs with
  | begin _ _ =>
    refine h.replace (fun r ps qs hown => ?_) (by simp) (by simp)
    cases hown with
    | waiting hp => exact ⟨ps, qs, .running hp, h.sound, fun x => Iff.rfl, rfl⟩
  | act hstep =>
    refine h.replace (fun r ps qs hown => ?_) (by simp) (by simp)
    cases hown with
    | running hp =>
      obtain ⟨ps', qs', hp', hrest⟩ := hp.step h.sound hstep
      exact ⟨ps', qs', .running hp', hrest⟩
  | finish =>
    refine h.replace (fun r ps qs hown => ?_) (by simp) (by simp)
    cases hown with
    | running hp =>
      cases hp with
      | done => exact ⟨[], [], .finished _, h.sound, fun x => Iff.rfl, rfl⟩
  | drop hc =>
    refine h.replace (fun r ps qs hown => ?_) (by simp) (fun _ => ⟨_, hc⟩)
    exact ⟨ps, qs, .dropped r ps qs, h.sound, fun x => Iff.rfl, rfl⟩

theorem cost_step_lt (h : q.shared.memo.Sound) (hs : Step workers q q') : q'.cost < q.cost := by
  have hreplace (c c' : Cell) (pre post : List Cell) (hlt : c'.cost < c.cost) :
      ((pre ++ c' :: post).map Cell.cost).sum < ((pre ++ c :: post).map Cell.cost).sum := by
    simp only [List.map_append, List.map_cons, List.sum_append, List.sum_cons]
    omega
  cases hs with
  | begin _ _ => exact hreplace _ _ _ _ (Nat.lt_succ_self _)
  | act hstep => exact hreplace _ _ _ _ (Nat.succ_lt_succ (Program.cost_step h hstep))
  | finish => exact hreplace _ _ _ _ (Nat.lt_succ_self _)
  | drop _ => exact hreplace _ _ _ _ (Nat.succ_pos _)

/-- What holds of a whole run: where the pool is heading, and how long the run can be. -/
theorem HeadsFor.runs (h : q.HeadsFor rs known skips) (hr : Runs workers n q q') :
    q'.HeadsFor rs known skips ∧ n + q'.cost ≤ q.cost := by
  induction hr with
  | refl q => exact ⟨h, by omega⟩
  | tail _ hs ih =>
    obtain ⟨hq, hcost⟩ := ih h
    have hlt := cost_step_lt hq.sound hs
    exact ⟨hq.step hs, by omega⟩

/-! ## A pool that can go on -/

/-- A pool with a worker that is not settled can go on: a busy worker acts, or one takes the first
unit that waits. -/
theorem exists_step (hw : 0 < workers) (hs : q.isSettled = false) : ∃ q', Step workers q q' := by
  obtain ⟨s, cells⟩ := q
  by_cases hbusy : ∃ c ∈ cells, c.isRunning = true
  · obtain ⟨c, hc, hrun⟩ := hbusy
    obtain ⟨pre, post, rfl⟩ := List.append_of_mem hc
    cases c with
    | waiting _ | finished _ | dropped => cases hrun
    | running p =>
      rcases hp : p.step s with _ | ⟨p', s'⟩
      · obtain ⟨r, rfl⟩ := Program.step_eq_none.1 hp
        exact ⟨_, .finish⟩
      · exact ⟨_, .act hp⟩
  · have hfree : cells.countP Cell.isRunning = 0 :=
      List.countP_eq_zero.2 fun c hc hrun => hbusy ⟨c, hc, hrun⟩
    obtain ⟨c, hc⟩ : ∃ c, cells.find? Cell.isWaiting = some c := by
      refine Option.isSome_iff_exists.1 (List.find?_isSome.2 ?_)
      obtain ⟨c, hc, hns⟩ := List.all_eq_false.1 hs
      refine ⟨c, hc, ?_⟩
      cases c with
      | waiting _ => rfl
      | running p => exact absurd ⟨_, hc, rfl⟩ hbusy
      | finished _ | dropped => exact absurd rfl hns
    obtain ⟨hwait, pre, post, rfl, hpre⟩ := List.find?_eq_some_iff_append.1 hc
    cases c with
    | running _ | finished _ | dropped => cases hwait
    | waiting p =>
      refine ⟨_, .begin (fun c hc => ?_) (by omega)⟩
      simpa using hpre c hc

theorem HeadsFor.exists_settled (hw : 0 < workers) (h : q.HeadsFor rs known skips) :
    ∃ n q', Runs workers n q q' ∧ q'.isSettled = true := by
  suffices hgo : ∀ left n q', Runs workers n q q' → q'.cost ≤ left →
      ∃ n q', Runs workers n q q' ∧ q'.isSettled = true from hgo _ 0 q (.refl q) (Nat.le_refl _)
  intro left
  induction left with
  | zero =>
    intro n q' hr hcost
    rcases hs : q'.isSettled
    · obtain ⟨q'', hstep⟩ := exists_step hw hs
      have hlt := cost_step_lt (h.runs hr).1.sound hstep
      omega
    · exact ⟨n, q', hr, hs⟩
  | succ left ih =>
    intro n q' hr hcost
    rcases hs : q'.isSettled
    · obtain ⟨q'', hstep⟩ := exists_step hw hs
      have hlt := cost_step_lt (h.runs hr).1.sound hstep
      exact ih (n + 1) q'' (.tail hr hstep) (by omega)
    · exact ⟨n, q', hr, hs⟩

theorem HeadsFor.exists_collect (h : q.HeadsFor rs known skips) (hs : q.isSettled = true) :
    collect q.cells = some (collectResults rs) := by
  obtain ⟨ps, qs, howe, -, -⟩ := h.owe
  obtain ⟨r, hr⟩ : ∃ r, collect q.cells = some r := by
    by_cases hd : Cell.dropped ∈ q.cells
    · obtain ⟨e, he⟩ := h.dropped hd
      exact ⟨_, he⟩
    · exact ComponentManifest.exists_collect hs hd
  rw [hr, howe.collect_eq_some hr]

theorem HeadsFor.ended {items : List Item} (h : q.HeadsFor rs known skips)
    (hc : collect q.cells = some (.ok items)) :
    (∀ x, x ∈ q.shared.memo.paths ↔ x ∈ known) ∧ q.shared.skipped.Perm skips := by
  obtain ⟨ps, qs, howe, hknown, hskips⟩ := h.owe
  obtain ⟨rfl, rfl⟩ := howe.nothing_left hc
  rw [List.append_nil] at hskips
  exact ⟨fun x => by rw [← hknown x]; simp, hskips⟩

end Pool

/-! ## One after another -/

section OneAfterAnother

variable {k : Classifier} {w : Workspace} {c : Config} {memo : TagMemo}

theorem exists_owe (k : Classifier) (w : Workspace) (c : Config) (units : List ComponentUnit) :
    ∃ rs ps qs, Owe (units.map fun u => .waiting (itemProgram k w c u)) rs ps qs := by
  induction units with
  | nil => exact ⟨_, _, _, .nil⟩
  | cons u units ih =>
    obtain ⟨r, ps, qs, hu⟩ := Program.exists_ends_itemProgram k w c u
    obtain ⟨rs, ps', qs', hunits⟩ := ih
    exact ⟨_, _, _, .cons (.waiting hu) hunits⟩

theorem makeItems_of_owe {units : List ComponentUnit} (skipped : List Text)
    (h : Owe (units.map fun u => .waiting (itemProgram k w c u)) rs ps qs) (hs : memo.Sound) :
    ∃ memo' : TagMemo, memo'.Sound ∧
      (∀ items, collectResults rs = .ok items →
        ∀ x, x ∈ memo'.paths ↔ x ∈ memo.paths ∨ x ∈ ps) ∧
      (makeItems k w c memo skipped units).result =
        (collectResults rs).map (·, memo', skipped ++ qs) := by
  induction units generalizing rs ps qs memo skipped with
  | nil =>
    cases h
    exact ⟨memo, hs, by simp, by simp [makeItems, Outcome.value, collectResults]; rfl⟩
  | cons u units ih =>
    cases h with
    | @cons _ _ r rs ps ps' qs qs' hu hunits =>
      cases hu with
      | waiting hends =>
        obtain ⟨memo₁, hs₁, hpaths₁, hitem⟩ := hends.alone hs
        rw [Program.alone_itemProgram] at hitem
        unfold makeItems
        rcases r with e | item
        · refine ⟨memo₁, hs₁, fun items hc => ?_, Outcome.result_bind_of_error hitem⟩
          cases hc
        · obtain ⟨memo', hs', hpaths', hitems⟩ := ih (skipped ++ qs) hunits hs₁
          refine ⟨memo', hs', fun items hc x => ?_, ?_⟩
          · rw [collectResults_cons] at hc
            rcases hrs : collectResults rs with e | items'
            · rw [hrs] at hc
              cases hc
            · rw [hpaths' items' hrs, hpaths₁, List.mem_append, or_assoc]
          · rw [Outcome.result_bind_of_ok hitem, collectResults_cons]
            rcases hrs : collectResults rs with e | items'
            · rw [hrs] at hitems
              exact Outcome.result_bind_of_error hitems
            · rw [hrs] at hitems
              rw [Outcome.result_bind_of_ok hitems, List.append_assoc]
              rfl

theorem headsFor_start {memory : BuildMemory} {units : List ComponentUnit}
    (h : Owe (units.map fun u => .waiting (itemProgram k w c u)) rs ps qs)
    (hs : memory.memo.Sound) :
    (Pool.start k w c memory units).HeadsFor rs (memory.memo.paths ++ ps)
      (memory.skipped ++ qs) where
  sound := hs
  owe := ⟨ps, qs, h, fun x => List.mem_append.symm, .refl _⟩
  dropped := by simp [Pool.start]

end OneAfterAnother

/-! ## Builds -/

section Builds

variable {w : Workspace} {c : Config} {given : Option ProjectDependencies} {f : SourceFilter}
  {memory memory' : BuildMemory} {k : Classifier} {units : List ComponentUnit} {workers j : Nat}
  {m : Manifest} {ms : List Manifest} {a b : Except Fault (Manifest × BuildMemory)}

theorem prepare_of_isDir (h : w.isDir c.cwd = true) :
    (prepare w c given f memory).result =
      (memory.classifierFor w c given f >>= fun k =>
        discover f w c.cwd c.componentPattern.display c.componentPattern.shown >>= fun units =>
          pure (k, units)).result := by
  unfold prepare BuildMemory.classifierFor
  rw [h]
  cases memory.classifier <;> rfl

theorem prepare_of_not_isDir (h : w.isDir c.cwd = false) :
    (prepare w c given f memory).result = .error (.directoryNotFound c.cwd) := by
  unfold prepare
  rw [h]
  rfl

/-- A builder that is prepared once finds the same classifier and units later on. -/
theorem prepare_again (h : (prepare w c given f memory).result = .ok (k, units))
    (hk : memory'.classifier = some k) : (prepare w c given f memory').result = .ok (k, units) := by
  rcases hd : w.isDir c.cwd
  · rw [prepare_of_not_isDir hd] at h
    cases h
  · rw [prepare_of_isDir hd] at h ⊢
    obtain ⟨k', -, h⟩ := Outcome.bind_eq_ok.1 h
    obtain ⟨units', hu, h⟩ := Outcome.bind_eq_ok.1 h
    obtain ⟨rfl, rfl⟩ := Prod.mk.inj (Except.ok.inj h)
    unfold BuildMemory.classifierFor
    rw [hk]
    exact Outcome.bind_eq_ok.2 ⟨k', rfl, Outcome.bind_eq_ok.2 ⟨units', hu, rfl⟩⟩

theorem canShare_of_pos (hw : 0 < workers) : canShare (some workers) units = true := by
  simp [canShare, hw]

/-- A build is its preparation, and then one item after another. -/
theorem build_eq_prepare (hw : 0 < workers) :
    (build w c given f (some workers) memory).result =
      match (prepare w c given f memory).result with
      | .error e => .error e
      | .ok (k, units) =>
        (makeItems k w c memory.memo memory.skipped units).result.map fun made =>
          (⟨schemaUrl, c.name, c.homepage, made.1⟩, ⟨some k, made.2.1, made.2.2⟩) := by
  rcases hd : w.isDir c.cwd
  · rw [build_of_not_isDir hd, prepare_of_not_isDir hd]
  rw [build_of_isDir hd, prepare_of_isDir hd]
  rcases memory.classifierFor w c given f with ⟨-, e | k⟩
  · rfl
  unfold buildWith
  rcases discover f w c.cwd c.componentPattern.display c.componentPattern.shown with ⟨-, e | units⟩
  · rfl
  rw [Outcome.result_bind_of_ok rfl, Outcome.result_bind_of_ok rfl, Outcome.result_bind_of_ok rfl,
    canShare_of_pos hw]
  show _ = Except.map _ (makeItems k w c memory.memo memory.skipped units).result
  rcases makeItems k w c memory.memo memory.skipped units with ⟨-, e | ⟨items, memo, skipped⟩⟩
  · rfl
  · cases skipped <;> rfl

/-- How a build ends whose units owe some results, tags and skipped files. -/
inductive EndsAs (c : Config) (k : Classifier) (memory : BuildMemory)
    (rs : List (Except Fault Item)) (ps qs : List Text) :
    Except Fault (Manifest × BuildMemory) → Prop
  | fault {e : Fault} : collectResults rs = .error e → EndsAs c k memory rs ps qs (.error e)
  | manifest {items : List Item} {memo : TagMemo} {skipped : List Text} :
      collectResults rs = .ok items → memo.Sound →
      (∀ x, x ∈ memo.paths ↔ x ∈ memory.memo.paths ∨ x ∈ ps) →
      skipped.Perm (memory.skipped ++ qs) →
      EndsAs c k memory rs ps qs
        (.ok (⟨schemaUrl, c.name, c.homepage, items⟩, ⟨some k, memo, skipped⟩))

/-- Two builds end alike: with the same fault, or with the same manifest and, in any order, the same
memo entries and skipped files. -/
inductive SameEnd : Except Fault (Manifest × BuildMemory) → Except Fault (Manifest × BuildMemory) →
    Prop
  | fault (e : Fault) : SameEnd (.error e) (.error e)
  | manifest (m : Manifest) {memory memory' : BuildMemory} :
      memory.classifier = memory'.classifier → memory.memo.Perm memory'.memo →
      memory.skipped.Perm memory'.skipped → SameEnd (.ok (m, memory)) (.ok (m, memory'))

theorem EndsAs.sameEnd (ha : EndsAs c k memory rs ps qs a) (hb : EndsAs c k memory rs ps qs b) :
    SameEnd a b := by
  cases ha with
  | fault he =>
    cases hb with
    | fault he' =>
      cases he.symm.trans he'
      exact .fault _
    | manifest hi' _ _ _ => cases he.symm.trans hi'
  | manifest hi hs hpaths hskips =>
    cases hb with
    | fault he' => cases hi.symm.trans he'
    | manifest hi' hs' hpaths' hskips' =>
      cases hi.symm.trans hi'
      exact .manifest _ rfl (hs.perm hs' fun x => (hpaths x).trans (hpaths' x).symm)
        (hskips.trans hskips'.symm)

theorem EndsAs.of_ok (h : EndsAs c k memory rs ps qs (.ok (m, memory'))) :
    collectResults rs = .ok m.items ∧ m = ⟨schemaUrl, c.name, c.homepage, m.items⟩ ∧
      memory'.classifier = some k ∧ memory'.memo.Sound ∧
      (∀ x, x ∈ memory'.memo.paths ↔ x ∈ memory.memo.paths ∨ x ∈ ps) ∧
      memory'.skipped.Perm (memory.skipped ++ qs) := by
  cases h with
  | manifest hi hs hpaths hskips => exact ⟨hi, rfl, rfl, hs, hpaths, hskips⟩

theorem endsAs_build (hw : 0 < workers) (hm : memory.memo.Sound)
    (hp : (prepare w c given f memory).result = .ok (k, units))
    (howe : Owe (units.map fun u => .waiting (itemProgram k w c u)) rs ps qs) :
    EndsAs c k memory rs ps qs (build w c given f (some workers) memory).result := by
  obtain ⟨memo, hs, hpaths, hitems⟩ := makeItems_of_owe memory.skipped howe hm
  rw [build_eq_prepare hw, hp]
  show EndsAs c k memory rs ps qs (Except.map _ _)
  rw [hitems]
  rcases hr : collectResults rs with e | items
  · exact .fault hr
  · exact .manifest hr hs (hpaths items hr) (.refl _)

theorem endsAs_pool {n : Nat} {q : Pool} {r : Except Fault (List Item)} (hm : memory.memo.Sound)
    (howe : Owe (units.map fun u => .waiting (itemProgram k w c u)) rs ps qs)
    (hr : Pool.Runs workers n (.start k w c memory units) q) (hc : collect q.cells = some r)
    (hs : q.isSettled = true) :
    EndsAs c k memory rs ps qs (q.answer c k r) := by
  have hq := ((headsFor_start howe hm).runs hr).1
  have hrs : collectResults rs = r := Option.some.inj ((hq.exists_collect hs).symm.trans hc)
  rcases r with e | items
  · exact .fault hrs
  · obtain ⟨hpaths, hskips⟩ := hq.ended hc
    exact .manifest hrs hq.sound (fun x => (hpaths x).trans List.mem_append) hskips

/-- Every build of a pool ends as its units owe. -/
theorem PooledBuild.endsAs (hm : memory.memo.Sound)
    (hp : (prepare w c given f memory).result = .ok (k, units))
    (howe : Owe (units.map fun u => .waiting (itemProgram k w c u)) rs ps qs)
    (hb : PooledBuild workers w c given f memory a) : EndsAs c k memory rs ps qs a := by
  cases hb with
  | unprepared he => cases he.symm.trans hp
  | ended hp' hr hs hc =>
    cases hp'.symm.trans hp
    exact endsAs_pool hm howe hr hc hs

theorem exists_pooledBuild (hw : 0 < workers) (hm : memory.memo.Sound) :
    ∃ r, PooledBuild workers w c given f memory r := by
  rcases hp : (prepare w c given f memory).result with e | ⟨k, units⟩
  · exact ⟨_, .unprepared hp⟩
  · obtain ⟨rs, ps, qs, howe⟩ := exists_owe k w c units
    have hstart := headsFor_start howe hm
    obtain ⟨n, q, hr, hs⟩ := hstart.exists_settled hw
    exact ⟨_, .ended hp hr hs ((hstart.runs hr).1.exists_collect hs)⟩

/-- A build of a pool ends like one that makes one item after another. -/
theorem PooledBuild.sameEnd (hw : 0 < workers) (hm : memory.memo.Sound)
    (hb : PooledBuild workers w c given f memory a) :
    SameEnd a (build w c given f (some workers) memory).result := by
  rcases hp : (prepare w c given f memory).result with e | ⟨k, units⟩
  · rw [build_eq_prepare hw, hp]
    cases hb with
    | unprepared he =>
      cases he.symm.trans hp
      exact .fault _
    | ended hp' _ _ _ => cases hp'.symm.trans hp
  · obtain ⟨rs, ps, qs, howe⟩ := exists_owe k w c units
    exact (hb.endsAs hm hp howe).sameEnd (endsAs_build hw hm hp howe)

theorem PooledBuild.prepared (hb : PooledBuild workers w c given f memory (.ok (m, memory'))) :
    ∃ k units, (prepare w c given f memory).result = .ok (k, units) := by
  generalize hr : Except.ok (m, memory') = r at hb
  cases hb with
  | unprepared _ => cases hr
  | ended hp _ _ _ => exact ⟨_, _, hp⟩

theorem PooledBuild.sound (hm : memory.memo.Sound)
    (hb : PooledBuild workers w c given f memory (.ok (m, memory'))) : memory'.memo.Sound := by
  obtain ⟨k, units, hp⟩ := hb.prepared
  obtain ⟨rs, ps, qs, howe⟩ := exists_owe k w c units
  exact (hb.endsAs hm hp howe).of_ok.2.2.2.1

theorem PooledBuilds.sound {first : BuildMemory} (hm : first.memo.Sound)
    (hj : PooledBuilds workers w c given f j first ms memory) : memory.memo.Sound := by
  induction hj with
  | none => exact hm
  | again _ hb ih => exact hb.sound (ih hm)

/-- What builds that follow one another leave: the same manifest each time, the tags of the same
paths from the first build on, and the same skipped files once more each time. -/
theorem PooledBuilds.repeats {first : BuildMemory} {items : List Item} (hm : first.memo.Sound)
    (hp : (prepare w c given f first).result = .ok (k, units))
    (howe : Owe (units.map fun u => .waiting (itemProgram k w c u)) rs ps qs)
    (hi : collectResults rs = .ok items)
    (hj : PooledBuilds workers w c given f j first ms memory) :
    (prepare w c given f memory).result = .ok (k, units) ∧
      ms = List.replicate j ⟨schemaUrl, c.name, c.homepage, items⟩ ∧
      (∀ x, x ∈ memory.memo.paths ↔ x ∈ first.memo.paths ∨ 0 < j ∧ x ∈ ps) ∧
      memory.skipped.Perm (first.skipped ++ (List.replicate j qs).flatten) := by
  induction hj with
  | none first => exact ⟨hp, rfl, by simp, by simp⟩
  | @again j first memory₁ memory₂ ms m hj hb ih =>
    obtain ⟨hp₁, rfl, hpaths, hskips⟩ := ih hm hp
    obtain ⟨hi', hman, hk, -, hpaths', hskips'⟩ := (hb.endsAs (hj.sound hm) hp₁ howe).of_ok
    refine ⟨prepare_again hp₁ hk, ?_, fun x => ?_, ?_⟩
    · rw [List.replicate_succ', hman, Except.ok.inj (hi'.symm.trans hi)]
    · rw [hpaths', hpaths]
      grind
    · refine hskips'.trans ?_
      rw [List.replicate_succ', List.flatten_append, List.flatten_singleton, ← List.append_assoc]
      exact hskips.append_right qs

/-- Workers come to an end whatever they do, and their build cannot be told from one that makes one
item after another; nor can any number of builds in a row. -/
theorem build_independent_of_schedule (hw : 0 < workers)
    (hj : PooledBuilds workers w c given f j .fresh ms memory) :
    (∀ k units, (prepare w c given f memory).result = .ok (k, units) →
      ∃ bound, ∀ n q, Pool.Runs workers n (.start k w c memory units) q →
        n ≤ bound ∧ (q.isSettled = true ∨ ∃ q', Pool.Step workers q q')) ∧
    (∃ r, PooledBuild workers w c given f memory r) ∧
    (∀ r, PooledBuild workers w c given f memory r →
      SameEnd r (build w c given f (some workers) memory).result) ∧
    ∀ m first, (build w c given f (some workers) .fresh).result = .ok (m, first) →
      ms = List.replicate j m ∧
      (0 < j → memory.memo.Perm first.memo) ∧
      memory.skipped.Perm (List.replicate j first.skipped).flatten ∧
      ∃ last, PooledBuild workers w c given f memory (.ok (m, last)) := by
  have hfresh : BuildMemory.fresh.memo.Sound := .nil
  have hm : memory.memo.Sound := hj.sound hfresh
  refine ⟨fun k units hp => ?_, exists_pooledBuild hw hm, fun r hb => hb.sameEnd hw hm,
    fun m first hb => ?_⟩
  · obtain ⟨rs, ps, qs, howe⟩ := exists_owe k w c units
    refine ⟨(Pool.start k w c memory units).cost, fun n q hr => ?_⟩
    obtain ⟨hq, hcost⟩ := (headsFor_start howe hm).runs hr
    refine ⟨by omega, ?_⟩
    rcases hs : q.isSettled
    · exact Or.inr (Pool.exists_step hw hs)
    · exact Or.inl rfl
  · rcases hp : (prepare w c given f .fresh).result with e | ⟨k, units⟩
    · rw [build_eq_prepare hw, hp] at hb
      cases hb
    obtain ⟨rs, ps, qs, howe⟩ := exists_owe k w c units
    obtain ⟨hi, hman, -, hs, hpaths, hskips⟩ := (hb ▸ endsAs_build hw hfresh hp howe).of_ok
    obtain ⟨hp', hms, hpaths', hskips'⟩ := hj.repeats hfresh hp howe hi
    refine ⟨hman ▸ hms, fun hpos => hm.perm hs fun x => ?_, ?_, ?_⟩
    · rw [hpaths', hpaths]
      simp [hpos]
    · refine hskips'.trans (List.Perm.flatten_congr ?_)
      exact List.forall₂_iff_get.2 ⟨by simp, by
        simpa using fun _ _ => (show qs.Perm first.skipped from hskips.symm)⟩
    · obtain ⟨r, hr⟩ : ∃ r, PooledBuild workers w c given f memory r := exists_pooledBuild hw hm
      cases hr.endsAs hm hp' howe with
      | fault he => cases hi.symm.trans he
      | manifest hi' _ _ _ =>
        rw [hman, ← Except.ok.inj (hi'.symm.trans hi)]
        exact ⟨_, hr⟩

end Builds

/-- Two loose files of one directory, of which one is not UTF-8. -/
def looseProject : Workspace where
  tree := {
    entries := [([['p']], .dir), ([['p'], ['a']], .dir), ([['p'], ['a'], ['b']], .dir),
      ([['p'], ['a'], ['b'], "x.ts".toList], .file [255]),
      ([['p'], ['a'], ['b'], "y.ts".toList], .file [])]
    named := by decide
    closed := by decide
    distinct := by decide }
  cwd := []

/-- A build of them by one worker after another. -/
def looseBuild : Outcome (Manifest × BuildMemory) :=
  build looseProject packageConfig none .standard (some (2 : Nat)) .fresh

theorem build_independent_of_schedule_loose_files :
    ∃ m first, looseBuild.result = .ok (m, first) ∧
      first.skipped = ["/p/a/b/x.ts".toList] ∧
      ∃ last, PooledBuilds 2 looseProject packageConfig none .standard 2 .fresh [m, m] last ∧
        last.memo.Perm first.memo ∧
        last.skipped.Perm ["/p/a/b/x.ts".toList, "/p/a/b/x.ts".toList] := by
  have hskips : looseBuild.result.toOption.map (·.2.skipped) =
      some ["/p/a/b/x.ts".toList] := by decide +kernel
  rcases hb : looseBuild.result with e | ⟨m, first⟩
  · rw [hb] at hskips
    cases hskips
  rw [hb] at hskips
  have hfirst : first.skipped = ["/p/a/b/x.ts".toList] := Option.some.inj hskips
  have hnone : PooledBuilds 2 looseProject packageConfig none .standard 0 .fresh [] .fresh :=
    .none .fresh
  obtain ⟨memory₁, h₁⟩ := ((build_independent_of_schedule (by decide) hnone).2.2.2 m first hb).2.2.2
  have hone := PooledBuilds.again hnone h₁
  obtain ⟨memory₂, h₂⟩ := ((build_independent_of_schedule (by decide) hone).2.2.2 m first hb).2.2.2
  have htwo := PooledBuilds.again hone h₂
  obtain ⟨-, hmemo, hskipped, -⟩ :=
    (build_independent_of_schedule (by decide) htwo).2.2.2 m first hb
  rw [hfirst] at hskipped
  exact ⟨m, first, rfl, hfirst, memory₂, htwo, hmemo (by decide), hskipped⟩

end ComponentManifest
