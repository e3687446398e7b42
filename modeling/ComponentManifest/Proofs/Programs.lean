import ComponentManifest.Manifest.Pool
import ComponentManifest.Proofs.BuildSteps
import Mathlib.Data.List.Nodup

/-!
# What a program does beside others

A program that looks up and stores tags can be run beside others on one memo. It does the same
whatever they do, as long as the memo only holds right tags: a tag that is found is the one that the
table gives.

1. `TagMemo.Sound`: the memos that hold right tags, and what a store makes of them.
2. `alone_itemProgram`: the program of a unit, run alone, makes its item.
3. `Program.Ends`: a program comes to one end, whatever it finds in sound memos.
4. What one step leaves of this, and what a run alone makes of it.
-/

namespace ComponentManifest

variable {α : Type} {memo memo' : TagMemo} {p q x : Text} {t : Tag} {ps qs : List Text}
  {prog prog' next : Program α} {r : Except Fault α} {s s' : Shared}

/-! ## Sound memos -/

namespace TagMemo

/-- The paths of a memo. -/
def paths (memo : TagMemo) : List Text := memo.map (·.1)

/-- Every path has the tag that the table gives, and none is there twice. -/
structure Sound (memo : TagMemo) : Prop where
  right : ∀ e ∈ memo, e.2 = TagTable.standard.tag e.1
  distinct : memo.paths.Nodup

theorem Sound.nil : Sound [] := ⟨by simp, List.nodup_nil⟩

theorem lookup_eq_none : memo.lookup p = none ↔ p ∉ memo.paths := by
  unfold paths
  rw [List.lookup_eq_none_iff]
  simp only [bne_iff_ne, List.mem_map, not_exists, not_and]
  exact ⟨fun h e he hp => h e he hp.symm, fun h e he hp => h e he hp.symm⟩

theorem Sound.lookup_eq_some (h : memo.Sound) (hl : memo.lookup p = some t) :
    t = TagTable.standard.tag p ∧ p ∈ memo.paths := by
  obtain ⟨l₁, l₂, rfl, -⟩ := List.lookup_eq_some_iff.1 hl
  have he : (p, t) ∈ l₁ ++ (p, t) :: l₂ := by simp
  exact ⟨h.right _ he, List.mem_map.2 ⟨_, he, rfl⟩⟩

@[simp] theorem mem_paths_store : x ∈ (memo.store p t).paths ↔ x = p ∨ x ∈ memo.paths := by
  induction memo with
  | nil => simp [store, paths]
  | cons e es ih =>
    unfold paths at ih ⊢
    unfold store
    split
    · next h =>
      subst h
      simp
    · simp only [List.map_cons, List.mem_cons, ih]
      exact or_left_comm

theorem store_of_not_mem (h : p ∉ memo.paths) : memo.store p t = memo ++ [(p, t)] := by
  induction memo with
  | nil => rfl
  | cons e es ih =>
    simp only [paths, List.map_cons, List.mem_cons, not_or] at h
    unfold store
    rw [if_neg (Ne.symm h.1), ih h.2]
    rfl

theorem mem_store (e : Text × Tag) (h : e ∈ memo.store p t) : e = (p, t) ∨ e ∈ memo := by
  induction memo with
  | nil => simpa [store] using h
  | cons e' es ih =>
    unfold store at h
    split at h
    · rcases List.mem_cons.1 h with h | h
      · exact Or.inl h
      · exact Or.inr (List.mem_cons_of_mem _ h)
    · rcases List.mem_cons.1 h with h | h
      · exact Or.inr (h ▸ List.mem_cons_self)
      · exact (ih h).imp_right (List.mem_cons_of_mem _)

theorem nodup_paths_store (h : memo.paths.Nodup) : (memo.store p t).paths.Nodup := by
  induction memo with
  | nil => simp [store, paths]
  | cons e es ih =>
    obtain ⟨he, hes⟩ := List.nodup_cons.1 h
    unfold store
    split
    · next hp =>
      subst hp
      exact h
    · next hp =>
      refine List.nodup_cons.2 ⟨fun hm => ?_, ih hes⟩
      rcases mem_paths_store.1 hm with hm | hm
      · exact hp hm
      · exact he hm

/-- A right tag may be stored again. -/
theorem Sound.store (h : memo.Sound) : (memo.store p (TagTable.standard.tag p)).Sound where
  right := by
    intro e he
    rcases mem_store e he with rfl | he
    · rfl
    · exact h.right e he
  distinct := nodup_paths_store h.distinct

/-- Sound memos of the same paths hold the same entries. -/
theorem Sound.perm (h : memo.Sound) (h' : memo'.Sound)
    (hp : ∀ x, x ∈ memo.paths ↔ x ∈ memo'.paths) : memo.Perm memo' := by
  have hmem (m₁ m₂ : TagMemo) (h₁ : m₁.Sound) (h₂ : m₂.Sound)
      (hp : ∀ x, x ∈ m₁.paths → x ∈ m₂.paths) : ∀ e ∈ m₁, e ∈ m₂ := by
    intro e he
    obtain ⟨e', he', hfst⟩ := List.mem_map.1 (hp e.1 (List.mem_map.2 ⟨e, he, rfl⟩))
    have hsnd : e'.2 = e.2 := by rw [h₁.right e he, h₂.right e' he', hfst]
    rwa [Prod.ext hfst hsnd] at he'
  refine (List.perm_ext_iff_of_nodup (List.Nodup.of_map _ h.distinct)
    (List.Nodup.of_map _ h'.distinct)).2 fun e => ⟨?_, ?_⟩
  · exact hmem memo memo' h h' (fun x => (hp x).1) e
  · exact hmem memo' memo h' h (fun x => (hp x).2) e

/-- Finding a tag is a look-up and, when the path is new, a store. -/
theorem tag_of_not_mem (h : p ∉ memo.paths) :
    memo.tag .standard p =
      ((TagMemo.tag .standard [] p).1, TagTable.standard.tag p,
        memo.store p (TagTable.standard.tag p)) := by
  unfold tag
  rw [lookup_eq_none.2 h, store_of_not_mem h]
  rfl

end TagMemo

/-! ## Running alone -/


namespace Program

@[simp] theorem alone_reporting (es : List Event) :
    (reporting es next).alone memo =
      ⟨es ++ (next.alone memo).events, (next.alone memo).result⟩ := by
  induction es with
  | nil => rfl
  | cons e es ih =>
    show alone (.report e (reporting es next)) memo = _
    simp only [alone, ih, List.cons_append]

theorem alone_skipping (ps : List Text) :
    (skipping ps next).alone memo =
      ⟨(next.alone memo).events,
        (next.alone memo).result.map fun r => (r.1, r.2.1, ps ++ r.2.2)⟩ := by
  induction ps with
  | nil =>
    show next.alone memo = _
    rcases next.alone memo with ⟨events, _ | _⟩ <;> rfl
  | cons p ps ih =>
    show alone (.skip p (skipping ps next)) memo = _
    simp only [alone, ih]
    cases (next.alone memo).result <;> rfl

theorem alone_tagging (next : Tag → Program α) :
    (tagging p next).alone memo =
      let tagged := memo.tag .standard p
      ⟨tagged.1 ++ ((next tagged.2.1).alone tagged.2.2).events,
        ((next tagged.2.1).alone tagged.2.2).result⟩ := by
  by_cases hp : p ∈ memo.paths
  · obtain ⟨t, ht⟩ := Option.ne_none_iff_exists'.1 fun h => TagMemo.lookup_eq_none.1 h hp
    unfold tagging TagMemo.tag
    simp only [alone, ht, List.nil_append]
  · rw [TagMemo.tag_of_not_mem hp]
    unfold tagging
    simp only [alone, TagMemo.lookup_eq_none.2 hp, alone_reporting]
    rfl

theorem alone_taggingAll (next : List ItemFile → Program α) :
    (taggingAll ps next).alone memo =
      let tagged := tagPaths memo ps
      ⟨tagged.1 ++ ((next tagged.2.1).alone tagged.2.2).events,
        ((next tagged.2.1).alone tagged.2.2).result⟩ := by
  induction ps generalizing memo next with
  | nil => rfl
  | cons p ps ih =>
    unfold taggingAll tagPaths
    simp only [alone_tagging, ih, List.append_assoc]

theorem alone_scanning {k : Classifier} {w : Workspace}
    (next : List Classification → Program α) :
    (scanning k w ps next).alone memo =
      let scan := k.scanFiles w ps
      match scan.result with
      | .error e => ⟨scan.events, .error e⟩
      | .ok s => ⟨scan.events ++ ((next s.found).alone memo).events,
          ((next s.found).alone memo).result.map fun r => (r.1, r.2.1, s.skipped ++ r.2.2)⟩ := by
  induction ps generalizing next with
  | nil =>
    show (next []).alone memo = _
    simp only [Classifier.scanFiles, Outcome.value]
    rcases (next []).alone memo with ⟨events, _ | _⟩ <;> rfl
  | cons q qs ih =>
    show alone (reporting (k.scanFile w q).events _) memo = _
    unfold Classifier.scanFiles
    rw [alone_reporting]
    rcases k.scanFile w q with ⟨events, e | first⟩
    · simp only [alone, Outcome.fail, List.append_nil]
      rfl
    · simp only [alone_skipping, ih]
      rcases k.scanFiles w qs with ⟨moreEvents, e | rest⟩
      · rfl
      · show Outcome.mk _ _ = Outcome.mk (events ++ (moreEvents ++ []) ++ _) _
        simp only [List.append_nil, List.append_assoc]
        rcases (next (first.found ++ rest.found)).alone memo with ⟨es, e | r⟩
        · rfl
        · simp only [Except.map]

/-- The program of a unit, run alone, makes the item of the unit. -/
theorem alone_itemProgram (k : Classifier) (w : Workspace) (c : Config) (u : ComponentUnit) :
    (itemProgram k w c u).alone memo = makeItem k w c memo u := by
  unfold itemProgram makeItem Classifier.classifyFiles
  rcases unitFiles k.filter w c u with e | files
  · rfl
  rw [alone_taggingAll]
  simp only [alone_scanning, alone, alone_tagging, Outcome.ofExcept, Outcome.bind_ok,
    List.nil_append]
  rcases k.scanFiles w files with ⟨events, e | scan⟩
  · simp only [Outcome.bind_error]
  · simp [Outcome.report, Outcome.bind_ok, Outcome.value, pure, Except.map]

/-! ## The end of a program -/

/-- The program has one end, whatever right tags it finds: a result, after the tags of some paths
are known and some files were skipped, in order. -/
inductive Ends : Program α → Except Fault α → List Text → List Text → Prop
  | done (r : Except Fault α) : Ends (done r) r [] []
  | lookUp {p : Text} {next : Option Tag → Program α} {r : Except Fault α} {ps qs : List Text} :
      Ends (next none) r (p :: ps) qs → Ends (next (some (TagTable.standard.tag p))) r ps qs →
      Ends (lookUp p next) r (p :: ps) qs
  | store {p : Text} {next : Program α} {r : Except Fault α} {ps qs : List Text} :
      Ends next r ps qs → Ends (store p (TagTable.standard.tag p) next) r (p :: ps) qs
  | skip {q : Text} {next : Program α} {r : Except Fault α} {ps qs : List Text} :
      Ends next r ps qs → Ends (skip q next) r ps (q :: qs)
  | report {e : Event} {next : Program α} {r : Except Fault α} {ps qs : List Text} :
      Ends next r ps qs → Ends (report e next) r ps qs

theorem Ends.reporting (es : List Event) (h : next.Ends r ps qs) :
    (reporting es next).Ends r ps qs := by
  induction es with
  | nil => exact h
  | cons e es ih => exact .report ih

theorem Ends.skipping (l : List Text) (h : next.Ends r ps qs) :
    (skipping l next).Ends r ps (l ++ qs) := by
  induction l with
  | nil => exact h
  | cons q l ih => exact .skip ih

theorem Ends.tagging {next : Tag → Program α}
    (h : (next (TagTable.standard.tag p)).Ends r ps qs) : (tagging p next).Ends r (p :: ps) qs :=
  .lookUp (.reporting _ (.store h)) h

theorem exists_ends_taggingAll {next : List ItemFile → Program α}
    (h : ∀ files, ∃ r ps qs, (next files).Ends r ps qs) (l : List Text) :
    ∃ r ps qs, (taggingAll l next).Ends r ps qs := by
  induction l generalizing next with
  | nil => exact h []
  | cons p l ih =>
    obtain ⟨r, ps, qs, hrest⟩ := ih fun files => h (⟨p, TagTable.standard.tag p⟩ :: files)
    exact ⟨r, p :: ps, qs, .tagging hrest⟩

theorem exists_ends_scanning {k : Classifier} {w : Workspace}
    {next : List Classification → Program α} (h : ∀ found, ∃ r ps qs, (next found).Ends r ps qs)
    (l : List Text) : ∃ r ps qs, (scanning k w l next).Ends r ps qs := by
  induction l generalizing next with
  | nil => exact h []
  | cons q l ih =>
    unfold scanning
    rcases k.scanFile w q with ⟨events, e | scan⟩
    · exact ⟨_, _, _, .reporting _ (.done _)⟩
    · obtain ⟨r, ps, qs, hrest⟩ := ih fun found => h (scan.found ++ found)
      exact ⟨r, ps, scan.skipped ++ qs, .reporting _ (.skipping _ hrest)⟩

theorem exists_ends_itemProgram (k : Classifier) (w : Workspace) (c : Config) (u : ComponentUnit) :
    ∃ r ps qs, (itemProgram k w c u).Ends r ps qs := by
  unfold itemProgram
  rcases unitFiles k.filter w c u with e | files
  · exact ⟨_, _, _, .done _⟩
  · refine exists_ends_taggingAll (fun itemFiles => ?_) _
    refine exists_ends_scanning (fun found => ?_) _
    exact ⟨_, _, _, .report (.tagging (.report (.done _)))⟩

/-- Run alone on a sound memo, a program comes to its end. -/
theorem Ends.alone (h : prog.Ends r ps qs) (hs : memo.Sound) :
    ∃ memo' : TagMemo, memo'.Sound ∧
      (∀ x, x ∈ memo'.paths ↔ x ∈ memo.paths ∨ x ∈ ps) ∧
      (prog.alone memo).result = r.map (·, memo', qs) := by
  induction h generalizing memo with
  | done r =>
    refine ⟨memo, hs, by simp, ?_⟩
    cases r <;> rfl
  | @lookUp p next r ps qs _ _ ihNone ihSome =>
    unfold Program.alone
    rcases hl : memo.lookup p with _ | t
    · exact ihNone hs
    · obtain ⟨rfl, hp⟩ := hs.lookup_eq_some hl
      obtain ⟨memo', hs', hpaths, hres⟩ := ihSome hs
      refine ⟨memo', hs', fun x => ?_, hres⟩
      rw [hpaths, List.mem_cons]
      grind
  | @store p next r ps qs _ ih =>
    obtain ⟨memo', hs', hpaths, hres⟩ := ih hs.store
    refine ⟨memo', hs', fun x => ?_, hres⟩
    rw [hpaths, TagMemo.mem_paths_store, List.mem_cons]
    grind
  | @skip q next r ps qs _ ih =>
    obtain ⟨memo', hs', hpaths, hres⟩ := ih hs
    refine ⟨memo', hs', hpaths, ?_⟩
    simp only [Program.alone, hres]
    cases r <;> rfl
  | report _ ih => exact ih hs

/-- What one step leaves of the end: the tags that are known or will be, the files that were
skipped or will be, and the result are the same. -/
theorem Ends.step (h : prog.Ends r ps qs) (hs : s.memo.Sound)
    (hstep : prog.step s = some (prog', s')) :
    ∃ ps' qs', prog'.Ends r ps' qs' ∧ s'.memo.Sound ∧
      (∀ x, x ∈ s'.memo.paths ∨ x ∈ ps' ↔ x ∈ s.memo.paths ∨ x ∈ ps) ∧
      s'.skipped ++ qs' = s.skipped ++ qs := by
  cases h with
  | done r => cases hstep
  | @lookUp p next _ ps _ hNone hSome =>
    cases hstep
    rcases hl : s.memo.lookup p with _ | t
    · exact ⟨p :: ps, qs, hNone, hs, fun x => Iff.rfl, rfl⟩
    · obtain ⟨rfl, hp⟩ := hs.lookup_eq_some hl
      refine ⟨ps, qs, hSome, hs, fun x => ?_, rfl⟩
      rw [List.mem_cons]
      grind
  | @store p next _ ps _ hNext =>
    cases hstep
    refine ⟨ps, qs, hNext, hs.store, fun x => ?_, rfl⟩
    rw [TagMemo.mem_paths_store, List.mem_cons]
    grind
  | @skip q next _ _ qs hNext =>
    cases hstep
    exact ⟨ps, qs, hNext, hs, fun x => Iff.rfl, by simp⟩
  | report hNext =>
    cases hstep
    exact ⟨ps, qs, hNext, hs, fun x => Iff.rfl, rfl⟩

/-! ## The length of a program -/

/-- A bound on the steps of a program that finds right tags. -/
def cost : Program α → Nat
  | done _ => 0
  | lookUp p next => max (next none).cost (next (some (TagTable.standard.tag p))).cost + 1
  | store _ _ next | skip _ next | report _ next => next.cost + 1

theorem cost_step (hs : s.memo.Sound) (hstep : prog.step s = some (prog', s')) :
    prog'.cost < prog.cost := by
  cases prog with
  | done r => cases hstep
  | lookUp p next =>
    cases hstep
    rw [cost]
    rcases hl : s.memo.lookup p with _ | t
    · omega
    · obtain ⟨rfl, -⟩ := hs.lookup_eq_some hl
      omega
  | store | skip | report =>
    cases hstep
    exact Nat.lt_succ_self _

theorem step_eq_none : prog.step s = none ↔ ∃ r, prog = done r := by
  cases prog <;> simp [step]

end Program

end ComponentManifest
