import ComponentManifest.Files.Resolve
import ComponentManifest.Proofs.PathSegments

/-!
# Walks that arrive

`Tree.Leads t k dir ss l e` says that the segments `ss`, walked from the directory `dir` with every
link followed, arrive at the location `l`, which holds `e`, after `k` links.

1. The walk, segment by segment.
2. `walk_eq_entry_iff`: a walk with a limit on links arrives exactly if such a derivation needs no
   more links.
3. A derivation is determined by where it starts, and it can be cut between any two segments.
4. Consequences: idle segments and steps back over plain directories change nothing.
5. `reach_eq_entry_iff`: a path denotes what its segments lead to.
-/

namespace ComponentManifest

open ComponentManifest.Path (Idle Proper)

namespace Tree

variable {t : Tree} {fl : Bool} {n k k' : Nat} {dir d l l' : Location} {s : Text}
  {ss rest a b : List Text} {e e' : Entry} {target : Text} {content : Bytes}

/-! ## The walk, segment by segment -/

theorem walk_eq (t : Tree) (fl : Bool) (n : Nat) (dir : Location) (ss : List Text) :
    t.walk fl n dir ss =
      match t.advance fl dir ss with
      | .reach r => r
      | .link d target rest =>
        match n with
        | 0 => .blocked .linkLoop
        | n + 1 => t.walk fl n (startOf d target) (Path.segments target ++ rest) :=
  walk.eq_def t fl n dir ss

theorem walk_congr {dir' : Location} {ss' : List Text}
    (h : t.advance fl dir ss = t.advance fl dir' ss') :
    t.walk fl n dir ss = t.walk fl n dir' ss' := by
  rw [walk_eq, walk_eq t fl n dir', h]

@[simp] theorem walk_nil : t.walk fl n dir [] = .entry dir .dir := by
  rw [walk_eq]; rfl

theorem walk_idle (h : Idle s) : t.walk fl n dir (s :: ss) = t.walk fl n dir ss :=
  walk_congr (if_pos h)

theorem walk_up : t.walk fl n dir (Path.up :: ss) = t.walk fl n dir.dropLast ss :=
  have h : t.advance fl dir (Path.up :: ss) = t.advance fl dir.dropLast ss :=
    (if_neg Path.not_idle_up).trans (if_pos rfl)
  walk_congr h

theorem advance_proper (h : Proper s) :
    t.advance fl dir (s :: rest) =
      match t.entry? (dir ++ [s]) with
      | none =>
        .reach (if rest.all (·.isEmpty) then .vacant dir s !rest.isEmpty else .blocked .notFound)
      | some .dir => t.advance fl (dir ++ [s]) rest
      | some (.file content) =>
        .reach (if rest.isEmpty then .entry (dir ++ [s]) (.file content) else .blocked .notDirectory)
      | some (.link target) =>
        if rest.isEmpty && !fl then .reach (.entry (dir ++ [s]) (.link target))
        else .link dir target rest := by
  conv => lhs; unfold advance
  exact (if_neg h.1).trans (if_neg h.2)

theorem walk_dir (h : Proper s) (he : t.entry? (dir ++ [s]) = some .dir) :
    t.walk fl n dir (s :: ss) = t.walk fl n (dir ++ [s]) ss :=
  walk_congr (by rw [advance_proper h, he])

theorem walk_file (h : Proper s) (he : t.entry? (dir ++ [s]) = some (.file content)) :
    t.walk fl n dir (s :: ss) =
      if ss = [] then .entry (dir ++ [s]) (.file content) else .blocked .notDirectory := by
  rw [walk_eq, advance_proper h, he]
  cases ss <;> rfl

theorem walk_vacant (h : Proper s) (he : t.entry? (dir ++ [s]) = none) :
    t.walk fl n dir (s :: ss) =
      if ss.all (·.isEmpty) then .vacant dir s !ss.isEmpty else .blocked .notFound := by
  rw [walk_eq, advance_proper h, he]

theorem walk_link_last (h : Proper s) (he : t.entry? (dir ++ [s]) = some (.link target)) :
    t.walk false n dir [s] = .entry (dir ++ [s]) (.link target) := by
  rw [walk_eq, advance_proper h, he]
  rfl

theorem walk_link (h : Proper s) (he : t.entry? (dir ++ [s]) = some (.link target))
    (hf : ss ≠ [] ∨ fl = true) :
    t.walk fl n dir (s :: ss) =
      match n with
      | 0 => .blocked .linkLoop
      | m + 1 => t.walk fl m (startOf dir target) (Path.segments target ++ ss) := by
  have hc : (ss.isEmpty && !fl) = false := by
    rcases hf with hf | hf
    · simp [hf]
    · simp [hf]
  rw [walk_eq, advance_proper h, he]
  simp only [hc, Bool.false_eq_true, if_false]

/-- What holds at the end of every walk and before each of its steps holds of all walks. -/
theorem walk_induction {P : Nat → Location → List Text → Prop}
    (nil : ∀ n dir, P n dir [])
    (idle : ∀ n dir s ss, Idle s → P n dir ss → P n dir (s :: ss))
    (up : ∀ n dir ss, P n dir.dropLast ss → P n dir (Path.up :: ss))
    (vacant : ∀ n dir s ss, Proper s → t.entry? (dir ++ [s]) = none → P n dir (s :: ss))
    (enter : ∀ n dir s ss, Proper s → t.entry? (dir ++ [s]) = some .dir →
      P n (dir ++ [s]) ss → P n dir (s :: ss))
    (file : ∀ n dir s ss content, Proper s → t.entry? (dir ++ [s]) = some (.file content) →
      P n dir (s :: ss))
    (link : ∀ n dir s ss target, Proper s → t.entry? (dir ++ [s]) = some (.link target) →
      (∀ m, n = m + 1 → P m (startOf dir target) (Path.segments target ++ ss)) →
        P n dir (s :: ss)) :
    ∀ n dir ss, P n dir ss := by
  intro n
  induction n using Nat.strongRecOn with
  | ind n ihn =>
  intro dir ss
  induction ss generalizing dir with
  | nil => exact nil n dir
  | cons s ss ih =>
    by_cases hi : Idle s
    · exact idle n dir s ss hi (ih dir)
    by_cases hu : s = Path.up
    · subst hu
      exact up n dir ss (ih dir.dropLast)
    have hp : Proper s := ⟨hi, hu⟩
    rcases he : t.entry? (dir ++ [s]) with _ | (_ | content | target)
    · exact vacant n dir s ss hp he
    · exact enter n dir s ss hp he (ih (dir ++ [s]))
    · exact file n dir s ss content hp he
    · refine link n dir s ss target hp he ?_
      rintro m rfl
      exact ihn m (Nat.lt_succ_self m) _ _

/-! ## Derivations -/

/-- The segments lead from a directory to an entry through `k` links, all of them followed. -/
inductive Leads (t : Tree) : Nat → Location → List Text → Location → Entry → Prop
  | arrive (dir : Location) : Leads t 0 dir [] dir .dir
  | idle {k : Nat} {dir l : Location} {s : Text} {rest : List Text} {e : Entry} :
      Idle s → Leads t k dir rest l e → Leads t k dir (s :: rest) l e
  | up {k : Nat} {dir l : Location} {rest : List Text} {e : Entry} :
      Leads t k dir.dropLast rest l e → Leads t k dir (Path.up :: rest) l e
  | enter {k : Nat} {dir l : Location} {s : Text} {rest : List Text} {e : Entry} :
      Proper s → t.entry? (dir ++ [s]) = some .dir →
        Leads t k (dir ++ [s]) rest l e → Leads t k dir (s :: rest) l e
  | file {dir : Location} {s : Text} {content : Bytes} :
      Proper s → t.entry? (dir ++ [s]) = some (.file content) →
        Leads t 0 dir [s] (dir ++ [s]) (.file content)
  | follow {k : Nat} {dir l : Location} {s target : Text} {rest : List Text} {e : Entry} :
      Proper s → t.entry? (dir ++ [s]) = some (.link target) →
        Leads t k (startOf dir target) (Path.segments target ++ rest) l e →
          Leads t (k + 1) dir (s :: rest) l e

/-- With enough links allowed, the walk arrives where the derivation does. -/
theorem Leads.walk_eq (h : t.Leads k dir ss l e) (hk : k ≤ n) :
    t.walk true n dir ss = .entry l e := by
  induction h generalizing n with
  | arrive dir => exact walk_nil
  | idle hs _ ih => rw [walk_idle hs, ih hk]
  | up _ ih => rw [walk_up, ih hk]
  | enter hs he _ ih => rw [walk_dir hs he, ih hk]
  | file hs he => rw [walk_file hs he, if_pos rfl]
  | follow hs he _ ih =>
    obtain ⟨m, rfl⟩ : ∃ m, n = m + 1 := ⟨n - 1, by omega⟩
    rw [walk_link hs he (Or.inr rfl)]
    exact ih (by omega)

theorem leads_of_walk (h : t.walk true n dir ss = .entry l e) :
    ∃ k ≤ n, t.Leads k dir ss l e := by
  induction n, dir, ss using walk_induction (t := t) with
  | nil n dir =>
    rw [walk_nil] at h
    cases h
    exact ⟨0, Nat.zero_le n, .arrive _⟩
  | idle n dir s ss hi ih =>
    rw [walk_idle hi] at h
    obtain ⟨k, hk, hl⟩ := ih h
    exact ⟨k, hk, .idle hi hl⟩
  | up n dir ss ih =>
    rw [walk_up] at h
    obtain ⟨k, hk, hl⟩ := ih h
    exact ⟨k, hk, .up hl⟩
  | vacant n dir s ss hp he =>
    rw [walk_vacant hp he] at h
    split at h <;> cases h
  | enter n dir s ss hp he ih =>
    rw [walk_dir hp he] at h
    obtain ⟨k, hk, hl⟩ := ih h
    exact ⟨k, hk, .enter hp he hl⟩
  | file n dir s ss content hp he =>
    rw [walk_file hp he] at h
    split at h
    · next hs =>
      subst hs
      cases h
      exact ⟨0, Nat.zero_le n, .file hp he⟩
    · cases h
  | link n dir s ss target hp he ih =>
    rw [walk_link hp he (Or.inr rfl)] at h
    rcases n with _ | m
    · cases h
    · obtain ⟨k, hk, hl⟩ := ih m rfl h
      exact ⟨k + 1, Nat.succ_le_succ hk, .follow hp he hl⟩

theorem walk_eq_entry_iff :
    t.walk true n dir ss = .entry l e ↔ ∃ k ≤ n, t.Leads k dir ss l e :=
  ⟨leads_of_walk, fun ⟨_, hk, h⟩ => h.walk_eq hk⟩

/-! ## Determinism -/

theorem leads_idle_iff (hs : Idle s) : t.Leads k dir (s :: ss) l e ↔ t.Leads k dir ss l e := by
  refine ⟨fun h => ?_, .idle hs⟩
  cases h with
  | idle _ h => exact h
  | up => exact absurd hs Path.not_idle_up
  | enter hp => exact absurd hs hp.1
  | file hp => exact absurd hs hp.1
  | follow hp => exact absurd hs hp.1

theorem leads_up_iff : t.Leads k dir (Path.up :: ss) l e ↔ t.Leads k dir.dropLast ss l e := by
  refine ⟨fun h => ?_, .up⟩
  cases h with
  | idle hs => exact absurd hs Path.not_idle_up
  | up h => exact h
  | enter hp => exact absurd rfl hp.2
  | file hp => exact absurd rfl hp.2
  | follow hp => exact absurd rfl hp.2

/-- At a proper name a derivation does what the entry of that name asks for. -/
theorem Leads.proper_cases (h : t.Leads k dir (s :: ss) l e) (hp : Proper s) :
    (t.entry? (dir ++ [s]) = some .dir ∧ t.Leads k (dir ++ [s]) ss l e) ∨
      (∃ content, t.entry? (dir ++ [s]) = some (.file content) ∧
        k = 0 ∧ ss = [] ∧ l = dir ++ [s] ∧ e = .file content) ∨
      ∃ target k', t.entry? (dir ++ [s]) = some (.link target) ∧ k = k' + 1 ∧
        t.Leads k' (startOf dir target) (Path.segments target ++ ss) l e := by
  cases h with
  | idle hs => exact absurd hs hp.1
  | up => exact absurd rfl hp.2
  | enter _ he h => exact Or.inl ⟨he, h⟩
  | file _ he => exact Or.inr (Or.inl ⟨_, he, rfl, rfl, rfl, rfl⟩)
  | follow _ he h => exact Or.inr (Or.inr ⟨_, _, he, rfl, h⟩)

/-- Where segments lead, and through how many links, depends only on where they start. -/
theorem Leads.unique (h : t.Leads k dir ss l e) (h' : t.Leads k' dir ss l' e') :
    k = k' ∧ l = l' ∧ e = e' := by
  induction h generalizing k' with
  | arrive dir =>
    cases h'
    exact ⟨rfl, rfl, rfl⟩
  | idle hs _ ih => exact ih ((leads_idle_iff hs).1 h')
  | up _ ih => exact ih (leads_up_iff.1 h')
  | enter hp he _ ih =>
    rcases h'.proper_cases hp with ⟨-, h'⟩ | ⟨_, he', -⟩ | ⟨_, _, he', -⟩
    · exact ih h'
    · cases he.symm.trans he'
    · cases he.symm.trans he'
  | file hp he =>
    rcases h'.proper_cases hp with ⟨he', -⟩ | ⟨_, he', rfl, -, rfl, rfl⟩ | ⟨_, _, he', -⟩
    · cases he.symm.trans he'
    · cases he.symm.trans he'
      exact ⟨rfl, rfl, rfl⟩
    · cases he.symm.trans he'
  | follow hp he _ ih =>
    rcases h'.proper_cases hp with ⟨he', -⟩ | ⟨_, he', -⟩ | ⟨_, _, he', rfl, h'⟩
    · cases he.symm.trans he'
    · cases he.symm.trans he'
    · cases he.symm.trans he'
      obtain ⟨rfl, hl, he⟩ := ih h'
      exact ⟨rfl, hl, he⟩

/-! ## Cutting and joining derivations -/

theorem Leads.append {k₁ k₂ : Nat} (ha : t.Leads k₁ dir a d .dir) (hb : t.Leads k₂ d b l e) :
    t.Leads (k₁ + k₂) dir (a ++ b) l e := by
  generalize hd : Entry.dir = e₁ at ha
  induction ha with
  | arrive dir => rw [Nat.zero_add]; exact hb
  | idle hs _ ih => exact .idle hs (ih hb hd)
  | up _ ih => exact .up (ih hb hd)
  | enter hp he _ ih => exact .enter hp he (ih hb hd)
  | file => cases hd
  | follow hp he _ ih =>
    rw [Nat.add_right_comm]
    refine .follow hp he ?_
    show t.Leads _ _ (_ ++ (_ ++ b)) l e
    rw [← List.append_assoc]
    exact ih hb hd

/-- Before more segments the walk is in a directory. -/
theorem Leads.split (h : t.Leads k dir (a ++ b) l e) (hb : b ≠ []) :
    ∃ k₁ k₂ d, k = k₁ + k₂ ∧ t.Leads k₁ dir a d .dir ∧ t.Leads k₂ d b l e := by
  generalize hs : a ++ b = ss at h
  induction h generalizing a with
  | arrive dir => exact absurd (List.append_eq_nil_iff.1 hs).2 hb
  | @idle k dir l s rest e hi h ih =>
    rcases List.append_eq_cons_iff.1 hs with ⟨rfl, rfl⟩ | ⟨a', rfl, rfl⟩
    · exact ⟨0, k, dir, (Nat.zero_add k).symm, .arrive dir, .idle hi h⟩
    · obtain ⟨k₁, k₂, d, hk, h₁, h₂⟩ := ih rfl
      exact ⟨k₁, k₂, d, hk, .idle hi h₁, h₂⟩
  | @up k dir l rest e h ih =>
    rcases List.append_eq_cons_iff.1 hs with ⟨rfl, rfl⟩ | ⟨a', rfl, rfl⟩
    · exact ⟨0, k, dir, (Nat.zero_add k).symm, .arrive dir, .up h⟩
    · obtain ⟨k₁, k₂, d, hk, h₁, h₂⟩ := ih rfl
      exact ⟨k₁, k₂, d, hk, .up h₁, h₂⟩
  | @enter k dir l s rest e hp he h ih =>
    rcases List.append_eq_cons_iff.1 hs with ⟨rfl, rfl⟩ | ⟨a', rfl, rfl⟩
    · exact ⟨0, k, dir, (Nat.zero_add k).symm, .arrive dir, .enter hp he h⟩
    · obtain ⟨k₁, k₂, d, hk, h₁, h₂⟩ := ih rfl
      exact ⟨k₁, k₂, d, hk, .enter hp he h₁, h₂⟩
  | @file dir s content hp he =>
    rcases List.append_eq_cons_iff.1 hs with ⟨rfl, rfl⟩ | ⟨a', rfl, ha⟩
    · exact ⟨0, 0, dir, rfl, .arrive dir, .file hp he⟩
    · exact absurd (List.append_eq_nil_iff.1 ha.symm).2 hb
  | @follow k dir l s target rest e hp he h ih =>
    rcases List.append_eq_cons_iff.1 hs with ⟨rfl, rfl⟩ | ⟨a', rfl, rfl⟩
    · exact ⟨0, k + 1, dir, (Nat.zero_add _).symm, .arrive dir, .follow hp he h⟩
    · obtain ⟨k₁, k₂, d, hk, h₁, h₂⟩ := ih (List.append_assoc ..)
      exact ⟨k₁ + 1, k₂, d, by omega, .follow hp he h₁, h₂⟩

theorem Leads.walk_append (h : t.Leads k dir a d .dir) (hb : b ≠ []) :
    t.walk fl (k + n) dir (a ++ b) = t.walk fl n d b := by
  generalize hd : Entry.dir = e at h
  induction h with
  | arrive dir => rw [Nat.zero_add, List.nil_append]
  | idle hs _ ih => rw [List.cons_append, walk_idle hs, ih hd]
  | up _ ih => rw [List.cons_append, walk_up, ih hd]
  | enter hp he _ ih => rw [List.cons_append, walk_dir hp he, ih hd]
  | file => cases hd
  | follow hp he _ ih =>
    rw [List.cons_append, walk_link hp he (Or.inl (by simp [hb])), Nat.add_right_comm]
    rw [List.append_assoc] at ih
    exact ih hd

/-! ## Segments that change nothing -/

/-- Where a path with an idle segment arrives, the path without it arrives too. -/
theorem Leads.drop_idle (h : t.Leads k dir (a ++ s :: b) l e) (hs : Idle s) :
    t.Leads k dir (a ++ b) l e := by
  obtain ⟨k₁, k₂, d, rfl, h₁, h₂⟩ := h.split (List.cons_ne_nil s b)
  exact h₁.append ((leads_idle_iff hs).1 h₂)

/-- Where a path that enters something other than a link and steps back arrives, the path without
the detour arrives too. -/
theorem Leads.drop_detour (h : t.Leads k dir (a ++ s :: Path.up :: b) l e) (hs : Proper s)
    (hn : ∀ k₁ d target, k₁ ≤ k → t.Leads k₁ dir a d .dir →
      t.entry? (d ++ [s]) ≠ some (.link target)) :
    t.Leads k dir (a ++ b) l e := by
  obtain ⟨k₁, k₂, d, rfl, h₁, h₂⟩ := h.split (List.cons_ne_nil s _)
  rcases h₂.proper_cases hs with ⟨-, h₂⟩ | ⟨_, _, -, hnil, -⟩ | ⟨target, _, he, -⟩
  · have hback := leads_up_iff.1 h₂
    rw [List.dropLast_concat] at hback
    exact h₁.append hback
  · cases hnil
  · exact absurd he (hn k₁ d target (Nat.le_add_right ..) h₁)

end Tree

/-! ## Paths -/

namespace Workspace

variable {w : Workspace} {fl : Bool} {l : Location} {e : Entry} {p : Text} {content : Bytes}

theorem reach_of_ne_nil (hp : p ≠ []) :
    w.reach fl p = w.tree.walk fl maxLinks (Tree.startOf w.cwd p) (Path.segments p) :=
  if_neg (by simpa using hp)

/-- A path denotes what its segments lead to. -/
theorem reach_eq_entry_iff :
    w.reach true p = .entry l e ↔ p ≠ [] ∧ ∃ k ≤ maxLinks,
      w.tree.Leads k (Tree.startOf w.cwd p) (Path.segments p) l e := by
  by_cases hp : p = []
  · subst hp
    constructor
    · intro h
      cases h
    · exact fun h => absurd rfl h.1
  · rw [reach_of_ne_nil hp, Tree.walk_eq_entry_iff]
    exact (and_iff_right hp).symm

theorem leads_of_reach (h : w.reach true p = .entry l e) :
    ∃ k ≤ maxLinks, w.tree.Leads k (Tree.startOf w.cwd p) (Path.segments p) l e :=
  (reach_eq_entry_iff.1 h).2

theorem isDir_iff : w.isDir p = true ↔ ∃ l, w.reach true p = .entry l .dir := by
  unfold isDir entry?
  cases w.reach true p <;> simp

theorem isFile_iff :
    w.isFile p = true ↔ ∃ l content, w.reach true p = .entry l (.file content) := by
  unfold isFile entry?
  rcases w.reach true p with ⟨l, _ | content | target⟩ | _ | _ <;> simp

theorem read_eq_ok_iff :
    w.read p = .ok content ↔ ∃ l, w.reach true p = .entry l (.file content) := by
  unfold read
  rcases w.reach true p with ⟨l, _ | content' | target⟩ | _ | _ <;> simp

end Workspace

end ComponentManifest
