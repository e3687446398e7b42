import ComponentManifest.Files.RealPath
import ComponentManifest.Proofs.Walk

/-!
# Where a walk arrives is its real path

`Workspace.realLocation_of_reach`: when the operating system finds an entry for a path, the real
path of that path is the entry's location.

1. Tracing a path, segment by segment.
2. What entering a link costs, and the invariant of the links that are being entered: none is
   entered twice, for the second time would have to cost less than the first.
3. The trace of a path that leads somewhere ends there, with all links resolved.
-/

namespace ComponentManifest

open ComponentManifest.Path (Idle Proper)

namespace Tree

variable {t : Tree} {enter : Location → Text → Traced} {n k k' : Nat} {dir l : Location} {s : Text}
  {ss : List Text} {e : Entry} {target : Text} {busy : List Location}

/-! ## Tracing, segment by segment -/

theorem followWith_idle (h : Idle s) :
    t.followWith enter dir (s :: ss) = t.followWith enter dir ss := if_pos h

theorem followWith_up :
    t.followWith enter dir (Path.up :: ss) = t.followWith enter dir.dropLast ss :=
  (if_neg Path.not_idle_up).trans (if_pos rfl)

theorem followWith_proper (h : Proper s) :
    t.followWith enter dir (s :: ss) =
      match t.entry? (dir ++ [s]) with
      | some (.link target) =>
        if (enter (dir ++ [s]) target).resolved then
          t.followWith enter (enter (dir ++ [s]) target).location ss
        else ⟨appendText (enter (dir ++ [s]) target).location ss, false⟩
      | _ => t.followWith enter (dir ++ [s]) ss :=
  (if_neg h.1).trans (if_neg h.2)

/-! ## What entering a link costs -/

/-- The target of the link leads to a directory or file through `k` more links. -/
def Costs (t : Tree) (link : Location) (k : Nat) : Prop :=
  ∃ target l e, t.entry? link = some (.link target) ∧
    t.Leads k (startOf link.dropLast target) (Path.segments target) l e

theorem Costs.unique {link : Location} (h : t.Costs link k) (h' : t.Costs link k') : k = k' := by
  obtain ⟨target, l, e, he, hl⟩ := h
  obtain ⟨target', l', e', he', hl'⟩ := h'
  rw [he] at he'
  cases he'
  exact (hl.unique hl').1

theorem mem_keys_of_entry? (h : t.entry? l = some e) (hl : l ≠ []) :
    l ∈ t.entries.map (·.1) := by
  unfold entry? entryIn at h
  rw [if_neg hl] at h
  obtain ⟨x, y, hx, -⟩ := List.lookup_eq_some_iff.1 h
  rw [hx]
  exact List.mem_map.2 ⟨(l, e), by simp, rfl⟩

theorem Costs.mem_keys {link : Location} (h : t.Costs link k) : link ∈ t.entries.map (·.1) := by
  obtain ⟨target, l, e, he, -⟩ := h
  refine mem_keys_of_entry? he ?_
  rintro rfl
  rw [entry?_root] at he
  cases he

/-- The links that are being entered are all different, and each costs at least `k`. -/
structure Entering (t : Tree) (busy : List Location) (k : Nat) : Prop where
  nodup : busy.Nodup
  costs : ∀ link ∈ busy, ∃ c, k ≤ c ∧ t.Costs link c

theorem Entering.nil : t.Entering [] k := ⟨List.nodup_nil, fun _ h => absurd h List.not_mem_nil⟩

theorem Entering.length_le (h : t.Entering busy k) : busy.length ≤ t.entries.length := by
  have hsub : busy ⊆ t.entries.map (·.1) := by
    intro link hm
    obtain ⟨c, -, hc⟩ := h.costs link hm
    exact hc.mem_keys
  simpa using h.nodup.length_le_of_subset hsub

theorem Entering.not_mem {link : Location} (h : t.Entering busy k) (hc : t.Costs link k')
    (hk : k' < k) : link ∉ busy := by
  intro hm
  obtain ⟨c, hle, hc'⟩ := h.costs link hm
  have := hc.unique hc'
  omega

theorem Entering.cons {link : Location} (h : t.Entering busy k) (hc : t.Costs link k')
    (hk : k' < k) : t.Entering (link :: busy) k' where
  nodup := List.nodup_cons.2 ⟨h.not_mem hc hk, h.nodup⟩
  costs := by
    intro x hx
    rcases List.mem_cons.1 hx with rfl | hx
    · exact ⟨k', Nat.le_refl _, hc⟩
    · obtain ⟨c, hle, hc'⟩ := h.costs x hx
      exact ⟨c, by omega, hc'⟩

/-! ## Tracing what leads somewhere -/

/-- When cheaper links are entered rightly, the trace ends where the path leads. -/
theorem followWith_of_leads
    (henter : ∀ link target c l e, c < k → t.entry? link = some (.link target) →
      t.Leads c (startOf link.dropLast target) (Path.segments target) l e →
        enter link target = ⟨l, true⟩)
    (h : t.Leads k' dir ss l e) (hk : k' ≤ k) : t.followWith enter dir ss = ⟨l, true⟩ := by
  induction ss generalizing k' dir with
  | nil => cases h; rfl
  | cons s ss ih =>
    cases h with
    | idle hs h => rw [followWith_idle hs]; exact ih h hk
    | up h => rw [followWith_up]; exact ih h hk
    | enter hp he h => rw [followWith_proper hp, he]; exact ih h hk
    | file hp he => rw [followWith_proper hp, he]; rfl
    | @follow c _ _ _ target _ _ hp he h =>
      rw [followWith_proper hp, he]
      dsimp only
      by_cases hs : ss = []
      · subst hs
        rw [List.append_nil] at h
        rw [henter (dir ++ [s]) target c l e hk he (by rwa [List.dropLast_concat])]
        rfl
      · obtain ⟨c₁, c₂, d, rfl, h₁, h₂⟩ := h.split hs
        rw [henter (dir ++ [s]) target c₁ d .dir (by omega) he (by rwa [List.dropLast_concat])]
        exact ih h₂ (by omega)

/-- With room for the links that are not being entered yet, the trace ends where the path leads. -/
theorem follow_of_leads (h : t.Leads k dir ss l e) (hb : t.Entering busy k)
    (hn : t.entries.length < n + busy.length) : t.follow n busy dir ss = ⟨l, true⟩ := by
  induction k using Nat.strongRecOn generalizing n busy dir ss l e with
  | ind k ih =>
  obtain ⟨m, rfl⟩ : ∃ m, n = m + 1 := ⟨n - 1, by have := hb.length_le; omega⟩
  unfold follow
  refine followWith_of_leads (k := k) ?_ h (Nat.le_refl k)
  intro link target c l e hc he hl
  have hcost : t.Costs link c := ⟨target, l, e, he, hl⟩
  rw [if_neg (by simpa using hb.not_mem hcost hc)]
  refine ih c hc hl (hb.cons hcost hc) ?_
  rw [List.length_cons]
  omega

end Tree

/-- The real path of a path that denotes an entry is where the entry is. -/
theorem Workspace.realLocation_of_reach {w : Workspace} {p : Text} {l : Location} {e : Entry}
    (h : w.reach true p = .entry l e) : w.realLocation p = l := by
  obtain ⟨k, -, hl⟩ := leads_of_reach h
  unfold realLocation
  rw [Tree.follow_of_leads hl .nil (by simp)]

end ComponentManifest
