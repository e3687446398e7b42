import ComponentManifest.Proofs.FreeNames
import ComponentManifest.Proofs.ListedPaths
import Mathlib.Data.List.Induction

/-!
# Trees without links

Without links the text of a path alone says where it leads, as long as the path has no step up: to
the location of the names that it passes. What is there then answers every question about the path.

1. Trees without links.
2. Names that segments pass, and where they lead.
3. `Spells`: the location that the text of a path gives.
4. Questions about such a path.
-/

namespace ComponentManifest

open ComponentManifest.Path (Idle Plain Proper rooted)

/-! ## Trees without links -/

namespace Tree

variable {t : Tree} {dir l d : Location} {ss : List Text} {s x : Text} {e : Entry} {k n : Nat}
  {fl : Bool}

/-- No location holds a link. -/
def LinkFree (t : Tree) : Prop := ∀ l target, t.entry? l ≠ some (.link target)

theorem LinkFree.cleanLinks (h : t.LinkFree) : t.CleanLinks :=
  fun l target hl => absurd hl (h l target)

theorem linkFree_of_entries (h : t.entries.all fun e => match e.2 with
    | .link _ => false
    | _ => true) : t.LinkFree := by
  intro l target hl
  have hne : l ≠ [] := by
    rintro rfl
    cases hl
  have hall := List.all_eq_true.1 h _ (mem_entries_of_eq_some hl hne)
  cases hall

/-- Everything on the way to an entry is a directory. -/
theorem entry?_of_append (h : t.entry? (d ++ ss) = some e) (hs : ss ≠ []) :
    t.entry? d = some .dir := by
  induction ss using List.reverseRecOn generalizing e with
  | nil => exact absurd rfl hs
  | append_singleton ss x ih =>
    have habove := entry?_dropLast h
    rw [← List.append_assoc, List.dropLast_concat] at habove
    by_cases hn : ss = []
    · rwa [hn, List.append_nil] at habove
    · exact ih habove hn

/-- The names of a location with an entry are plain. -/
theorem plain_of_entry? (h : t.entry? (d ++ ss) = some e) : Plain ss := fun s hs =>
  plain_of_validName (validNames_of_eq_some h s (List.mem_append_right d hs)) s
    (List.mem_singleton_self s)

theorem exists_entry_of_mem_children (h : x ∈ t.children l) :
    ∃ e, t.entry? (l ++ [x]) = some e := by
  obtain ⟨⟨l', e⟩, hm, hx⟩ := List.mem_filterMap.1 h
  split at hx
  · next hl =>
    have hne : l' ≠ [] := (t.named _ hm).1
    have hl' : l' = l ++ [x] := by
      rw [← hl]
      exact (List.dropLast_append_getLast? x hx).symm
    subst hl'
    unfold entry? entryIn
    rw [if_neg hne]
    rcases hlook : t.entries.lookup (l ++ [x]) with _ | e'
    · have hnone := List.lookup_eq_none_iff.1 hlook _ hm
      simp at hnone
    · exact ⟨e', rfl⟩
  · cases hx

/-- Without links a walk ends where it first stops, and it makes no difference whether the last link
is to be followed. -/
theorem LinkFree.exists_advance (h : t.LinkFree) (dir : Location) (ss : List Text) :
    ∃ r, ∀ fl, t.advance fl dir ss = .reach r := by
  induction ss generalizing dir with
  | nil => exact ⟨_, fun _ => rfl⟩
  | cons s rest ih =>
    by_cases hi : Idle s
    · exact (ih dir).imp fun r hr fl => (if_pos hi).trans (hr fl)
    by_cases hu : s = Path.up
    · exact (ih dir.dropLast).imp fun r hr fl => ((if_neg hi).trans (if_pos hu)).trans (hr fl)
    rcases he : t.entry? (dir ++ [s]) with _ | (_ | content | target)
    · exact ⟨_, fun fl => by rw [advance_proper ⟨hi, hu⟩, he]⟩
    · exact (ih (dir ++ [s])).imp fun r hr fl => by rw [advance_proper ⟨hi, hu⟩, he]; exact hr fl
    · exact ⟨_, fun fl => by rw [advance_proper ⟨hi, hu⟩, he]⟩
    · exact absurd he (h _ _)

theorem LinkFree.walk_eq (h : t.LinkFree) :
    t.walk false n dir ss = t.walk true n dir ss := by
  obtain ⟨r, hr⟩ := h.exists_advance dir ss
  rw [Tree.walk_eq, Tree.walk_eq t true, hr, hr]

end Tree

/-! ## Where segments lead -/

/-- The names that segments without steps up pass. -/
def Path.passed (ss : List Text) : List Text := ss.filter fun s => ¬ Idle s

/-- The last segment is a name. -/
def Path.EndsInName (ss : List Text) : Prop := ∃ init x, ss = init ++ [x] ∧ Proper x

namespace Path

variable {ss ms : List Text} {s x : Text}

theorem passed_append (ss ms : List Text) : passed (ss ++ ms) = passed ss ++ passed ms :=
  List.filter_append ..

theorem passed_idle (h : Idle s) : passed (s :: ss) = passed ss :=
  List.filter_cons_of_neg (by simpa using h)

theorem passed_proper (h : Proper s) : passed (s :: ss) = s :: passed ss :=
  List.filter_cons_of_pos (by simpa using h.1)

theorem Plain.passed_eq (h : Plain ss) : passed ss = ss :=
  List.filter_eq_self.2 fun s hs => by simpa using (h s hs).1.1

theorem EndsInName.passed_ne_nil (h : EndsInName ss) : passed ss ≠ [] := by
  obtain ⟨init, x, rfl, hx⟩ := h
  rw [passed_append, passed_proper hx]
  simp

theorem EndsInName.tail (h : EndsInName (s :: ss)) (hs : ss ≠ [] ∨ ¬ Proper s) : EndsInName ss := by
  obtain ⟨init, x, he, hx⟩ := h
  rcases init with _ | ⟨y, init⟩
  · obtain ⟨rfl, rfl⟩ := List.cons.inj he
    rcases hs with hs | hs
    · exact absurd rfl hs
    · exact absurd hx hs
  · exact ⟨init, x, (List.cons.inj he).2, hx⟩

end Path

namespace Tree

variable {t : Tree} {dir l : Location} {ss : List Text} {e : Entry} {k : Nat}

theorem Leads.passed_of_linkFree (ht : t.LinkFree) (hup : Path.up ∉ ss) (h : t.Leads k dir ss l e) :
    k = 0 ∧ l = dir ++ Path.passed ss := by
  induction h with
  | arrive dir => exact ⟨rfl, (List.append_nil dir).symm⟩
  | idle hs _ ih =>
    rw [Path.passed_idle hs]
    exact ih fun hm => hup (List.mem_cons_of_mem _ hm)
  | up => exact absurd List.mem_cons_self hup
  | enter hs _ _ ih =>
    obtain ⟨hk, hl⟩ := ih fun hm => hup (List.mem_cons_of_mem _ hm)
    rw [Path.passed_proper hs, hl, List.append_assoc]
    exact ⟨hk, rfl⟩
  | file hs _ =>
    rw [Path.passed_proper hs]
    exact ⟨rfl, rfl⟩
  | follow _ he => exact absurd he (ht _ _)

/-- Segments without steps up lead to whatever lies at the names that they pass; a file has to be
named by the last of them. -/
theorem leads_of_passed (ht : t.LinkFree) (hup : Path.up ∉ ss)
    (he : t.entry? (dir ++ Path.passed ss) = some e) (hn : e = .dir ∨ Path.EndsInName ss) :
    t.Leads 0 dir ss (dir ++ Path.passed ss) e := by
  induction ss generalizing dir with
  | nil =>
    obtain rfl : e = .dir := by
      rcases hn with hn | hn
      · exact hn
      · exact absurd rfl hn.passed_ne_nil
    rw [show Path.passed [] = [] from rfl, List.append_nil]
    exact .arrive dir
  | cons s rest ih =>
    have hup' : Path.up ∉ rest := fun hm => hup (List.mem_cons_of_mem _ hm)
    by_cases hi : Idle s
    · rw [Path.passed_idle hi] at he ⊢
      exact .idle hi (ih hup' he (hn.imp_right fun h => h.tail (Or.inr fun hp => hp.1 hi)))
    have hs : Proper s := ⟨hi, fun hu => hup (hu ▸ List.mem_cons_self)⟩
    have hsplit : dir ++ Path.passed (s :: rest) = dir ++ [s] ++ Path.passed rest := by
      rw [Path.passed_proper hs, List.append_assoc]
      rfl
    rw [hsplit] at he ⊢
    by_cases hr : rest = []
    · subst hr
      rw [show Path.passed [] = [] from rfl, List.append_nil] at he ⊢
      cases e with
      | dir => exact .enter hs he (.arrive _)
      | file content => exact .file hs he
      | link target => exact absurd he (ht _ _)
    · -- Whatever lies further on, the name before it is that of a directory.
      have hn' : e = .dir ∨ Path.EndsInName rest := hn.imp_right fun h => h.tail (Or.inl hr)
      have hd : t.entry? (dir ++ [s]) = some .dir := by
        by_cases hp : Path.passed rest = []
        · rw [hp, List.append_nil] at he
          rcases hn' with rfl | hn'
          · exact he
          · exact absurd hp hn'.passed_ne_nil
        · exact entry?_of_append he hp
      exact .enter hs hd (ih hup' he hn')

theorem walk_of_linkFree (ht : t.LinkFree) (hd : t.entry? dir = some .dir) (hup : Path.up ∉ ss)
    (n : Nat) : t.walk true n dir ss = .entry l e ↔
      l = dir ++ Path.passed ss ∧ t.entry? l = some e ∧ (e = .dir ∨ Path.EndsInName ss) := by
  rw [walk_eq_entry_iff]
  constructor
  · rintro ⟨k, -, h⟩
    refine ⟨(h.passed_of_linkFree ht hup).2, h.entry?_eq hd, ?_⟩
    by_cases he : e = .dir
    · exact Or.inl he
    · exact Or.inr (h.exists_name he)
  · rintro ⟨rfl, he, hn⟩
    exact ⟨0, Nat.zero_le n, leads_of_passed ht hup he hn⟩

end Tree

/-! ## Locations that paths spell -/

namespace Path

variable {p q : Text} {l : Location} {b : Bool} {ss : List Text}

/-- The path is relative and has no step up. -/
structure Down (p : Text) : Prop where
  relative : isAbsolute p = false
  noUp : up ∉ segments p

theorem down_iff : (isAbsolute p || (segments p).any (· == up)) = false ↔ Down p := by
  rw [Bool.or_eq_false_iff]
  constructor
  · rintro ⟨hrelative, hup⟩
    exact ⟨hrelative, fun hm => by simpa using List.any_eq_false.1 hup up hm⟩
  · rintro ⟨hrelative, hup⟩
    refine ⟨hrelative, List.any_eq_false.2 fun s hs he => hup ?_⟩
    rwa [← eq_of_beq he]

instance (p : Text) : Decidable (Down p) := decidable_of_iff _ down_iff

/-- The path is absolute and has no step up, and these are the names that it passes. -/
structure Spells (q : Text) (l : Location) : Prop where
  absolute : isAbsolute q = true
  noUp : up ∉ segments q
  passed : passed (segments q) = l

theorem Spells.ne_nil (h : Spells q l) : q ≠ [] := by
  rintro rfl
  cases h.absolute

theorem spells_rooted (h : Plain ss) : Spells (rooted b ss) ss := by
  obtain ⟨n, hn⟩ := segments_rooted (b := b) h
  refine ⟨isAbsolute_rooted, fun hup => ?_, ?_⟩
  · rw [hn, List.mem_append] at hup
    rcases hup with hup | hup
    · cases List.eq_of_mem_replicate hup
    · exact h.up_not_mem hup
  · have hidle : Path.passed (List.replicate n []) = [] :=
      List.filter_eq_nil_iff.2 fun s hs => by simp [List.eq_of_mem_replicate hs, Idle]
    rw [hn, passed_append, hidle, h.passed_eq]
    rfl

theorem down_ofSegments (h : Plain ss) : Down (ofSegments ss) := by
  refine ⟨h.isAbsolute_ofSegments, fun hup => ?_⟩
  by_cases hne : ss = []
  · subst hne
    simp [ofSegments, Text.joinWith, segments] at hup
    cases hup
  · rw [h.segments_ofSegments hne] at hup
    exact h.up_not_mem hup

theorem passed_lead (q : Text) : Path.passed (lead q) = Path.passed (segments q) := by
  rcases Path.segments_eq_lead q with ⟨hs, -⟩ | hs
  · rw [hs]
  · rw [hs, passed_append, passed_idle (Or.inl rfl)]
    exact (List.append_nil _).symm

theorem Spells.join (h : Spells q l) (hp : Down p) :
    Spells (join q p) (l ++ Path.passed (segments p)) := by
  have hs := segments_join h.ne_nil hp.relative
  refine ⟨(isAbsolute_join h.ne_nil hp.relative).trans h.absolute, fun hup => ?_, ?_⟩
  · rw [hs, List.mem_append] at hup
    exact hup.elim (fun hm => h.noUp (mem_lead hm)) hp.noUp
  · rw [hs, passed_append, passed_lead, h.passed]

theorem within_eq_join (hq : q ≠ []) (hp : p ≠ []) : Workspace.within q p = join q p := by
  have hqe : q.isEmpty = false := by simpa using hq
  have hpe : p.isEmpty = false := by simpa using hp
  unfold Workspace.within
  rw [hqe, hpe]
  rfl

theorem Spells.within (h : Spells q l) (hp : Down p) :
    Spells (Workspace.within q p) (l ++ Path.passed (segments p)) := by
  by_cases hn : p = []
  · subst hn
    have hq : q.isEmpty = false := by simpa using h.ne_nil
    unfold Workspace.within
    rw [hq]
    show Spells q (l ++ [])
    rwa [List.append_nil]
  · rw [within_eq_join h.ne_nil hn]
    exact h.join hp

theorem Spells.name {x : Text} (h : Spells q l) (hx : Plain [x]) :
    Spells (Path.join q x) (l ++ [x]) ∧ Spells (Workspace.within q x) (l ++ [x]) := by
  have hdown : Down x := hx.ofSegments_eq ▸ down_ofSegments hx
  have hpassed : Path.passed (segments x) = [x] := by
    rw [← hx.ofSegments_eq, hx.segments_ofSegments (List.cons_ne_nil x []), hx.ofSegments_eq,
      hx.passed_eq]
  exact ⟨hpassed ▸ h.join hdown, hpassed ▸ h.within hdown⟩

theorem EndsInName.ne_nil (h : EndsInName (segments p)) : p ≠ [] := by
  rintro rfl
  exact h.passed_ne_nil rfl

theorem Down.join {d : Text} (hd : Down d) (hp : Down p) : Down (Path.join d p) := by
  refine ⟨isAbsolute_join_eq_false hd.relative hp.relative, fun hup => ?_⟩
  by_cases hn : d = []
  · subst hn
    rw [nil_join] at hup
    exact hp.noUp hup
  · rw [segments_join hn hp.relative, List.mem_append] at hup
    exact hup.elim (fun hm => hd.noUp (mem_lead hm)) hp.noUp

theorem passed_join {d : Text} (hp : Down p) :
    Path.passed (segments (Path.join d p)) =
      Path.passed (segments d) ++ Path.passed (segments p) := by
  by_cases hn : d = []
  · subst hn
    rw [nil_join]
    rfl
  · rw [segments_join hn hp.relative, passed_append, passed_lead]

/-- Whether a joined path ends in a name is seen at its second part. -/
theorem endsInName_join (hp : Down p) :
    EndsInName (segments (Path.join q p)) ↔ EndsInName (segments p) := by
  by_cases hq : q = []
  · subst hq
    rw [nil_join]
  rw [segments_join hq hp.relative]
  obtain ⟨init, x, hx⟩ := List.eq_nil_or_concat (segments p) |>.resolve_left (segments_ne_nil p)
  rw [hx, List.concat_eq_append, ← List.append_assoc]
  constructor
  · rintro ⟨init', y, he, hy⟩
    obtain ⟨-, he⟩ := List.append_inj' he rfl
    exact ⟨init, x, rfl, List.singleton_inj.1 he ▸ hy⟩
  · rintro ⟨init', y, he, hy⟩
    obtain ⟨-, he⟩ := List.append_inj' he rfl
    exact ⟨_, x, rfl, List.singleton_inj.1 he ▸ hy⟩

theorem down_of_fromPattern (h : FromPattern ss p) (hup : up ∉ ss) : Down p := by
  refine ⟨h.1, fun hm => ?_⟩
  rcases h.2 up hm with he | hv | hs
  · cases he
  · exact hv.2.2.2.2 rfl
  · exact hup hs

end Path

/-! ## Questions -/

namespace Workspace

open ComponentManifest.Path (Spells EndsInName segments)

variable {w : Workspace} {q x : Text} {l l' : Location} {e : Entry} {content : Bytes}

theorem reach_spells (ht : w.tree.LinkFree) (hq : Spells q l) :
    w.reach true q = .entry l' e ↔
      l' = l ∧ w.tree.entry? l = some e ∧ (e = .dir ∨ EndsInName (segments q)) := by
  have hstart : Tree.startOf w.cwd q = [] := if_pos hq.absolute
  rw [reach_of_ne_nil hq.ne_nil, hstart, Tree.walk_of_linkFree ht (Tree.entry?_root _) hq.noUp,
    List.nil_append, hq.passed]
  constructor
  · rintro ⟨rfl, h⟩
    exact ⟨rfl, h⟩
  · rintro ⟨rfl, h⟩
    exact ⟨rfl, h⟩

theorem isDir_spells (ht : w.tree.LinkFree) (hq : Spells q l) :
    w.isDir q = true ↔ w.tree.entry? l = some .dir := by
  rw [isDir_iff]
  constructor
  · rintro ⟨l', hr⟩
    exact ((reach_spells ht hq).1 hr).2.1
  · intro he
    exact ⟨l, (reach_spells ht hq).2 ⟨rfl, he, Or.inl rfl⟩⟩

theorem read_spells (ht : w.tree.LinkFree) (hq : Spells q l) :
    w.read q = .ok content ↔
      w.tree.entry? l = some (.file content) ∧ EndsInName (segments q) := by
  rw [read_eq_ok_iff]
  constructor
  · rintro ⟨l', hr⟩
    obtain ⟨-, he, hn⟩ := (reach_spells ht hq).1 hr
    exact ⟨he, hn.resolve_left (by simp)⟩
  · rintro ⟨he, hn⟩
    exact ⟨l, (reach_spells ht hq).2 ⟨rfl, he, Or.inr hn⟩⟩

theorem isFile_spells (ht : w.tree.LinkFree) (hq : Spells q l) :
    w.isFile q = true ↔
      ∃ content, w.tree.entry? l = some (.file content) ∧ EndsInName (segments q) := by
  rw [isFile_iff]
  constructor
  · rintro ⟨l', content, hr⟩
    obtain ⟨-, he, hn⟩ := (reach_spells ht hq).1 hr
    exact ⟨content, he, hn.resolve_left (by simp)⟩
  · rintro ⟨content, he, hn⟩
    exact ⟨l, content, (reach_spells ht hq).2 ⟨rfl, he, Or.inr hn⟩⟩

theorem mem_list_spells (ht : w.tree.LinkFree) (hq : Spells q l) :
    x ∈ w.list q ↔ ∃ e, w.tree.entry? (l ++ [x]) = some e := by
  unfold list
  constructor
  · intro hx
    split at hx
    · next l' hr =>
      rw [((reach_spells ht hq).1 hr).1] at hx
      exact Tree.exists_entry_of_mem_children hx
    · cases hx
  · rintro ⟨e, he⟩
    have hd := Tree.entry?_of_append he (List.cons_ne_nil x [])
    rw [(reach_spells ht hq).2 ⟨rfl, hd, Or.inl rfl⟩]
    exact Tree.mem_children_of_eq_some he

/-- The names listed in a directory are those with an entry there. -/
theorem mem_listNames_spells {od : Bool} (ht : w.tree.LinkFree) (hq : Spells q l) :
    x ∈ w.listNames od q ↔
      ∃ e, w.tree.entry? (l ++ [x]) = some e ∧ (od = true → e = .dir) := by
  rw [mem_listNames, mem_list_spells ht hq]
  constructor
  · rintro ⟨⟨e, he⟩, hdir⟩
    refine ⟨e, he, fun ho => ?_⟩
    have hd := (isDir_spells ht (hq.name (Tree.plain_of_entry? he)).1).1 (hdir ho)
    rw [he] at hd
    exact Option.some.inj hd
  · rintro ⟨e, he, hod⟩
    refine ⟨⟨e, he⟩, fun ho => ?_⟩
    exact (isDir_spells ht (hq.name (Tree.plain_of_entry? he)).1).2 (hod ho ▸ he)

/-- Without links everything that a path leads to is there at its end. -/
theorem lexists_of_reach (ht : w.tree.LinkFree) (h : w.reach true q = .entry l e) :
    w.lexists q = true := by
  have hsame : w.reach false q = w.reach true q := by
    unfold reach
    rw [ht.walk_eq]
  unfold lexists
  rw [hsame, h]

end Workspace

end ComponentManifest
