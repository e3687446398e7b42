import ComponentManifest.Proofs.PatternListing

/-!
# Free names

A path that leads to no entry may still lead to a name which is free in a directory. An entry that
is put there is found under the same path.

1. Putting an entry: it is found at its location, and every other location stays as it is.
2. `Leads.transfer`: a path leads to the same location in every tree that keeps the directories and
   links.
3. `freeName_of_walk`: where a walk ends at a free name, an entry put there is at its end.
-/

namespace ComponentManifest

open ComponentManifest.Path (Idle Plain Proper)

namespace Tree

variable {t t' : Tree} {fl slash : Bool} {n k : Nat} {dir d l l' : Location} {s x : Text}
  {ss : List Text} {e e' : Entry} {target : Text} {content : Bytes}

/-! ## Putting an entry -/

theorem entry?_put_of_ne (h : l' ≠ l) : Tree.entry? (t.put l e) l' = t.entry? l' := by
  unfold put entry?
  split
  · exact entryIn_put_of_ne h
  · rfl

theorem entry?_put_self (h : t.Accepts l) : Tree.entry? (t.put l e) l = some e := by
  have hnone : (without t.entries l).lookup l = none := by
    rw [List.lookup_eq_none_iff]
    intro x hx
    have hne : x.1 ≠ l := by simpa [without] using (List.mem_filter.1 hx).2
    simpa using hne.symm
  unfold put
  rw [dif_pos h]
  show (if l = [] then some Entry.dir else (without t.entries l ++ [(l, e)]).lookup l) = some e
  rw [if_neg h.1, List.lookup_append, hnone]
  simp

theorem validNames_of_eq_some (h : t.entry? l = some e) : ∀ s ∈ l, ValidName s := by
  by_cases hl : l = []
  · subst hl
    exact fun s hs => absurd hs List.not_mem_nil
  · exact (t.named _ (mem_entries_of_eq_some h hl)).2

theorem entry?_dropLast (h : t.entry? l = some e) : t.entry? l.dropLast = some .dir := by
  by_cases hl : l = []
  · subst hl
    rfl
  · exact t.closed _ (mem_entries_of_eq_some h hl)

theorem entry?_concat_eq_none (h : t.entry? l ≠ some .dir) : t.entry? (l ++ [s]) = none := by
  rcases hs : t.entry? (l ++ [s]) with _ | e
  · rfl
  · have hd := entry?_dropLast hs
    rw [List.dropLast_concat] at hd
    exact absurd hd h

theorem accepts_concat (hd : t.entry? d = some .dir) (hx : ValidName x)
    (hf : t.entry? (d ++ [x]) ≠ some .dir) : t.Accepts (d ++ [x]) := by
  refine ⟨by simp, fun s hs => ?_, by rwa [List.dropLast_concat], hf⟩
  rcases List.mem_append.1 hs with hs | hs
  · exact validNames_of_eq_some hd s hs
  · rwa [List.mem_singleton.1 hs]

theorem accepts_of_file (h : t.entry? l = some (.file content)) : t.Accepts l := by
  refine ⟨?_, validNames_of_eq_some h, entry?_dropLast h, by simp [h]⟩
  rintro rfl
  cases h

/-! ## Trees with the same directories and links -/

/-- The second tree has the directories and links of the first. -/
structure Keeps (t t' : Tree) : Prop where
  dir : ∀ l, t.entry? l = some .dir → t'.entry? l = some .dir
  link : ∀ l target, t.entry? l = some (.link target) → t'.entry? l = some (.link target)

/-- A new entry, or one in place of a file, keeps directories and links. -/
theorem keeps_put (h : ∀ old, t.entry? l = some old → ∃ content, old = .file content) :
    t.Keeps (t.put l e) := by
  have hne : ∀ {k old}, t.entry? k = some old → (∀ content, old ≠ .file content) → k ≠ l := by
    rintro k old hk ho rfl
    obtain ⟨content, hc⟩ := h old hk
    exact ho content hc
  constructor
  · intro k hk
    rw [entry?_put_of_ne (hne hk (by simp)), hk]
  · intro k target hk
    rw [entry?_put_of_ne (hne hk (by simp)), hk]

/-- Every link has a target that the operating system can be given. -/
def CleanLinks (t : Tree) : Prop :=
  ∀ l target, t.entry? l = some (.link target) → Path.isUsable target = true

theorem CleanLinks.put (h : t.CleanLinks) (he : ∀ target, e ≠ .link target) :
    (t.put l e).CleanLinks := by
  intro k target hk
  by_cases hkl : k = l
  · subst hkl
    by_cases ha : t.Accepts k
    · rw [entry?_put_self ha] at hk
      exact absurd (Option.some.inj hk) (he target)
    · unfold Tree.put at hk
      rw [dif_neg ha] at hk
      exact h k target hk
  · rw [entry?_put_of_ne hkl] at hk
    exact h k target hk

theorem startOf_dir (h : t.entry? dir = some .dir) : t.entry? (startOf dir target) = some .dir := by
  unfold startOf
  split
  · rfl
  · exact h

theorem Leads.entry?_eq (h : t.Leads k dir ss l e) (hd : t.entry? dir = some .dir) :
    t.entry? l = some e := by
  induction h with
  | arrive => exact hd
  | idle _ _ ih => exact ih hd
  | up _ ih => exact ih (entry?_dropLast hd)
  | enter _ he _ ih => exact ih he
  | file _ he => exact he
  | follow _ _ _ ih => exact ih (startOf_dir hd)

/-- The path leads to the same location in a tree that keeps the directories and links; at its end
may be another file. -/
theorem Leads.transfer (h : t.Leads k dir ss l e) (hk : t.Keeps t')
    (he : e = .dir ∧ e' = .dir ∨ e ≠ .dir ∧ ∃ content, e' = .file content ∧ t'.entry? l = some e') :
    t'.Leads k dir ss l e' := by
  induction h with
  | arrive dir =>
    rcases he with ⟨-, rfl⟩ | ⟨hn, -⟩
    · exact .arrive dir
    · exact absurd rfl hn
  | idle hs _ ih => exact .idle hs (ih he)
  | up _ ih => exact .up (ih he)
  | enter hp hd _ ih => exact .enter hp (hk.dir _ hd) (ih he)
  | file hp _ =>
    rcases he with ⟨hc, -⟩ | ⟨-, content, rfl, he⟩
    · cases hc
    · exact .file hp he
  | follow hp hl _ ih => exact .follow hp (hk.link _ _ hl) (ih he)

theorem Leads.keeps_dir (h : t.Leads k dir ss l .dir) (hk : t.Keeps t') :
    t'.Leads k dir ss l .dir := h.transfer hk (Or.inl ⟨rfl, rfl⟩)

/-! ## Where a free name is -/

/-- The segments lead to a name that is free in a directory. In a tree that has an entry there, the
segments lead to it; after a slash it has to be a directory. -/
structure FreeName (t : Tree) (n : Nat) (dir : Location) (ss : List Text) (d : Location) (x : Text)
    (slash : Bool) : Prop where
  parent : t.entry? d = some .dir
  free : t.entry? (d ++ [x]) = none
  valid : ValidName x
  leads : ∀ t' e, t.Keeps t' → t'.entry? (d ++ [x]) = some e →
    (e = .dir ∨ slash = false ∧ ∃ content, e = .file content) →
    ∃ k ≤ n, t'.Leads k dir ss (d ++ [x]) e

theorem FreeName.accepts (h : t.FreeName n dir ss d x slash) : t.Accepts (d ++ [x]) :=
  accepts_concat h.parent h.valid (by simp [h.free])

theorem FreeName.keeps (h : t.FreeName n dir ss d x slash) : t.Keeps (t.put (d ++ [x]) e) :=
  keeps_put (by simp [h.free])

theorem FreeName.via {m : Nat} {dir' : Location} {ss' : List Text}
    (h : t.FreeName m dir' ss' d x slash)
    (hl : ∀ t' k l e, t.Keeps t' → k ≤ m → t'.Leads k dir' ss' l e →
      ∃ k' ≤ n, t'.Leads k' dir ss l e) :
    t.FreeName n dir ss d x slash := by
  refine ⟨h.parent, h.free, h.valid, fun t' e hk he hs => ?_⟩
  obtain ⟨k, hle, hlead⟩ := h.leads t' e hk he hs
  exact hl t' k _ e hk hle hlead

theorem leads_empty (h : ss.all (·.isEmpty) = true) : t.Leads 0 dir ss dir .dir := by
  induction ss with
  | nil => exact .arrive dir
  | cons s ss ih =>
    rw [List.all_cons, Bool.and_eq_true] at h
    exact .idle (Or.inl (List.isEmpty_iff.1 h.1)) (ih h.2)

/-- No segment holds a slash or anything else that no name can have. -/
def CleanSegments (ss : List Text) : Prop := ∀ s ∈ ss, '/' ∉ s ∧ Path.isUsable s = true

theorem cleanSegments_segments {p : Text} (h : Path.isUsable p = true) :
    CleanSegments (Path.segments p) :=
  fun _ hs => ⟨Path.slash_not_mem hs, Path.isUsable_of_mem_segments h hs⟩

/-- A name that is missing in the directory itself is free, when only slashes follow it. -/
theorem freeName_here {rest : List Text} (hd : t.entry? dir = some .dir)
    (hss : CleanSegments (x :: rest)) (hp : Proper x) (he : t.entry? (dir ++ [x]) = none)
    (ha : rest.all (·.isEmpty) = true) : t.FreeName n dir (x :: rest) dir x !rest.isEmpty := by
  obtain ⟨hslash, husable⟩ := hss x List.mem_cons_self
  have hx : ValidName x :=
    ⟨fun hn => hp.1 (Or.inl hn), hslash, husable, fun hn => hp.1 (Or.inr hn), hp.2⟩
  refine ⟨hd, he, hx, ?_⟩
  rintro t' e hk he' (rfl | ⟨hr, content, rfl⟩)
  · exact ⟨0, Nat.zero_le n, .enter hp he' (leads_empty ha)⟩
  · have hnil : rest = [] := by simpa using hr
    subst hnil
    exact ⟨0, Nat.zero_le n, .file hp he'⟩

/-- A walk that ends at a free name leads to what is put there. -/
theorem freeName_of_walk (hc : t.CleanLinks) (hd : t.entry? dir = some .dir)
    (hss : CleanSegments ss) (h : t.walk fl n dir ss = .vacant d x slash) :
    t.FreeName n dir ss d x slash := by
  have rest_clean {s : Text} {ss : List Text} (h : CleanSegments (s :: ss)) : CleanSegments ss :=
    fun y hy => h y (List.mem_cons_of_mem s hy)
  induction n, dir, ss using walk_induction (t := t) with
  | nil n dir =>
    rw [walk_nil] at h
    cases h
  | idle n dir s ss hi ih =>
    rw [walk_idle hi] at h
    exact (ih hd (rest_clean hss) h).via fun t' k l e _ hk hl => ⟨k, hk, .idle hi hl⟩
  | up n dir ss ih =>
    rw [walk_up] at h
    exact (ih (entry?_dropLast hd) (rest_clean hss) h).via fun t' k l e _ hk hl => ⟨k, hk, .up hl⟩
  | vacant n dir s ss hp he =>
    rw [walk_vacant hp he] at h
    split at h
    · next ha =>
      cases h
      exact freeName_here hd hss hp he ha
    · cases h
  | enter n dir s ss hp he ih =>
    rw [walk_dir hp he] at h
    exact (ih he (rest_clean hss) h).via fun t' k l e hkeeps hk hl =>
      ⟨k, hk, .enter hp (hkeeps.dir _ he) hl⟩
  | file n dir s ss content hp he =>
    rw [walk_file hp he] at h
    split at h <;> cases h
  | link n dir s ss target hp he ih =>
    by_cases hlast : ss ≠ [] ∨ fl = true
    · rw [walk_link hp he hlast] at h
      rcases n with _ | m
      · cases h
      · have hclean : CleanSegments (Path.segments target ++ ss) :=
          List.forall_mem_append.2 ⟨cleanSegments_segments (hc _ _ he), rest_clean hss⟩
        exact (ih m rfl (startOf_dir hd) hclean h).via fun t' k l e hkeeps hk hl =>
          ⟨k + 1, Nat.succ_le_succ hk, .follow hp (hkeeps.link _ _ he) hl⟩
    · obtain ⟨rfl, rfl⟩ : ss = [] ∧ fl = false := by simpa using hlast
      rw [walk_link_last hp he] at h
      cases h

end Tree

end ComponentManifest
