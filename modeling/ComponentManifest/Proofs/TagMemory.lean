import Mathlib.Data.List.Basic
import ComponentManifest.Manifest.Tagger
import ComponentManifest.Proofs.FirstAppearance

/-!
# The memory of a tagger

What a tagger remembers does not show in its answers. After any requests it holds the paths that
were classified since it was cleared, each once, with the tags that its table gives; and whatever
others are asked meanwhile, or happens to the mapping that it was made of, it is as if it had been
alone.

1. `TagMemo.kept`: the memo of some paths, and `TagMemo.tag_kept`, one more path.
2. `Tagger.after_make`: a tagger after any requests.
3. `Taggers.exists_making`: each tagger goes back to its making.
4. `Taggers.memo_invisible`: the answers of a tagger among others.
-/

namespace ComponentManifest

open Text (ofString)

variable {table : TagTable} {p : Text} {ps : List Text} {i m : Nat} {g : Tagger} {s : Taggers}

/-! ## The memo of some paths -/

/-- The paths of a list, each once, with their tags. -/
def TagMemo.kept (table : TagTable) (ps : List Text) : TagMemo :=
  ps.eraseDups.map fun p => (p, table.tag p)

theorem TagMemo.lookup_map (F : Text → Tag) (ps : List Text) (p : Text) :
    (ps.map fun q => (q, F q)).lookup p = if p ∈ ps then some (F p) else none := by
  induction ps with
  | nil => rfl
  | cons q qs ih =>
    rw [List.map_cons, List.lookup_cons, ih]
    by_cases h : p = q
    · simp [h]
    · simp [h, beq_eq_false_iff_ne.2 h]

/-- The answer is right, whether the path is remembered or not, and then it is remembered. -/
theorem TagMemo.tag_kept (table : TagTable) (ps : List Text) (p : Text) :
    ((kept table ps).tag table p).2 = (table.tag p, kept table (ps ++ [p])) := by
  have hlookup : (kept table ps).lookup p = if p ∈ ps then some (table.tag p) else none := by
    unfold kept
    rw [lookup_map]
    simp only [List.mem_eraseDups]
  unfold tag
  rw [hlookup]
  by_cases h : p ∈ ps
  · rw [if_pos h]
    unfold kept
    rw [eraseDups_concat, if_pos h]
  · rw [if_neg h]
    unfold kept
    rw [eraseDups_concat, if_neg h, List.map_append, List.map_singleton]

/-! ## One tagger -/

/-- The path that a request is about. -/
def TagRequest.path? : TagRequest → Option Text
  | .classify path => some path
  | .size => none
  | .clear => none

/-- The paths that were classified since the last request to forget them. -/
def pathsSinceClear (rs : List TagRequest) : List Text :=
  (rs.reverse.takeWhile (· ≠ .clear)).reverse.filterMap TagRequest.path?

theorem pathsSinceClear_concat (rs : List TagRequest) (r : TagRequest) :
    pathsSinceClear (rs ++ [r]) =
      if r = .clear then [] else pathsSinceClear rs ++ r.path?.toList := by
  unfold pathsSinceClear
  rw [List.reverse_concat, List.takeWhile_cons]
  by_cases h : r = .clear
  · simp [h]
  · simp [h, List.filterMap_append, List.filterMap_cons]
    cases r.path? <;> rfl

namespace Tagger

theorem ask_kept (table : TagTable) (ps : List Text) (r : TagRequest) :
    (ask ⟨table, .kept table ps⟩ r).1 =
      ⟨table, .kept table (if r = .clear then [] else ps ++ r.path?.toList)⟩ := by
  cases r with
  | classify p =>
    show Tagger.mk table ((TagMemo.kept table ps).tag table p).2.2 = _
    rw [TagMemo.tag_kept]
    rfl
  | size => simp [ask, TagRequest.path?]
  | clear => rfl

theorem after_make (table : TagTable) (rs : List TagRequest) :
    (make table).after rs = ⟨table, .kept table (pathsSinceClear rs)⟩ := by
  induction rs using List.reverseRecOn with
  | nil => rfl
  | append_singleton rs r ih =>
    have hstep : (make table).after (rs ++ [r]) = (((make table).after rs).ask r).1 :=
      List.foldl_concat ..
    rw [hstep, ih, ask_kept, pathsSinceClear_concat]

theorem classify_after (table : TagTable) (rs : List TagRequest) (p : Text) :
    (((make table).after rs).ask (.classify p)).2.2 = .tag (table.tag p) := by
  rw [after_make]
  show TagAnswer.tag ((TagMemo.kept table (pathsSinceClear rs)).tag table p).2.1 = _
  rw [TagMemo.tag_kept]

theorem size_after (table : TagTable) (rs : List TagRequest) :
    (((make table).after rs).ask .size).2.2 = .size (pathsSinceClear rs).eraseDups.length := by
  rw [after_make]
  show TagAnswer.size (TagMemo.kept table (pathsSinceClear rs)).length = _
  rw [TagMemo.kept, List.length_map]

end Tagger

/-! ## Among others -/

namespace Taggers

/-- The requests to one tagger among all that happens. -/
def requestsTo (i : Nat) (acts : List TaggerAct) : List TagRequest :=
  acts.filterMap fun
    | .ask j r => if j = i then some r else none
    | _ => none

theorem requestsTo_concat (i : Nat) (acts : List TaggerAct) (a : TaggerAct) :
    requestsTo i (acts ++ [a]) = requestsTo i acts ++ requestsTo i [a] :=
  List.filterMap_append ..

theorem run_concat (s : Taggers) (acts : List TaggerAct) (a : TaggerAct) :
    s.run (acts ++ [a]) = ((s.run acts).act a).1 := List.foldl_concat ..

/-- A tagger stays at its place, and takes notice of the requests to it alone. -/
theorem tagger_after_act (hg : s.taggers[i]? = some g) (a : TaggerAct) :
    (s.act a).1.taggers[i]? = some (g.after (requestsTo i [a])) := by
  cases a with
  | hold table => exact hg
  | edit m table => exact hg
  | make m =>
    cases hm : s.mappings[m]? with
    | none =>
      simp only [act, hm, hg]
      rfl
    | some table =>
      have hi : i < s.taggers.length := (List.getElem?_eq_some_iff.1 hg).1
      simp only [act, hm, List.getElem?_append_left hi, hg]
      rfl
  | ask j r =>
    by_cases hj : j = i
    · subst hj
      have hi : j < s.taggers.length := (List.getElem?_eq_some_iff.1 hg).1
      simp only [act, hg, List.getElem?_set_self hi, requestsTo, List.filterMap_cons, if_pos]
      rfl
    · have hother : requestsTo i [.ask j r] = [] := by simp [requestsTo, hj]
      cases hgj : s.taggers[j]? with
      | none =>
        simp only [act, hgj, hother, hg]
        rfl
      | some g' =>
        simp only [act, hgj, hother, List.getElem?_set_ne hj, hg]
        rfl

theorem tagger_after_run (hg : s.taggers[i]? = some g) (acts : List TaggerAct) :
    (s.run acts).taggers[i]? = some (g.after (requestsTo i acts)) := by
  induction acts using List.reverseRecOn with
  | nil => exact hg
  | append_singleton acts a ih =>
    rw [run_concat, tagger_after_act ih, requestsTo_concat]
    exact congrArg some (List.foldl_append ..).symm

/-- A tagger that an act leaves behind was there before, or has just been made. -/
theorem tagger_of_act {a : TaggerAct} (hg : (s.act a).1.taggers[i]? = some g) :
    (∃ g₀, s.taggers[i]? = some g₀ ∧ g = g₀.after (requestsTo i [a])) ∨
      ∃ m table, a = .make m ∧ s.taggers.length = i ∧ s.mappings[m]? = some table ∧
        g = .make table := by
  cases hg₀ : s.taggers[i]? with
  | some g₀ =>
    rw [tagger_after_act hg₀] at hg
    exact .inl ⟨g₀, rfl, (Option.some.inj hg).symm⟩
  | none =>
    refine .inr ?_
    have hi : s.taggers.length ≤ i := List.getElem?_eq_none_iff.1 hg₀
    cases a with
    | hold table => exact absurd (hg₀.symm.trans hg) (by simp)
    | edit m table => exact absurd (hg₀.symm.trans hg) (by simp)
    | make m =>
      cases hm : s.mappings[m]? with
      | none =>
        simp only [act, hm, hg₀] at hg
        cases hg
      | some table =>
        simp only [act, hm, List.getElem?_append_right hi, List.getElem?_singleton] at hg
        split at hg
        · next h0 => exact ⟨m, table, rfl, by omega, hm, (Option.some.inj hg).symm⟩
        · cases hg
    | ask j r =>
      have hlength : (s.act (.ask j r)).1.taggers.length = s.taggers.length := by
        cases hgj : s.taggers[j]? with
        | none => simp only [act, hgj]
        | some g' => simp only [act, hgj, List.length_set]
      have hlt := (List.getElem?_eq_some_iff.1 hg).1
      omega

/-- Each tagger was made at some time, of what a mapping held then, and is as the requests to it
have left it. -/
theorem exists_making (acts : List TaggerAct) :
    ∀ i g, (start.run acts).taggers[i]? = some g →
      ∃ before m table later, acts = before ++ .make m :: later ∧
        (start.run before).taggers.length = i ∧ (start.run before).mappings[m]? = some table ∧
        g = (Tagger.make table).after (requestsTo i later) := by
  induction acts using List.reverseRecOn with
  | nil =>
    intro i g hg
    cases hg
  | append_singleton acts a ih =>
    intro i g hg
    rw [run_concat] at hg
    obtain ⟨g₀, hg₀, rfl⟩ | ⟨m, table, rfl, hi, hm, rfl⟩ := tagger_of_act hg
    · obtain ⟨before, m, table, later, rfl, hi, hm, rfl⟩ := ih i g₀ hg₀
      refine ⟨before, m, table, later ++ [a], by simp, hi, hm, ?_⟩
      rw [requestsTo_concat]
      exact (List.foldl_append ..).symm
    · exact ⟨acts, m, table, [], rfl, hi, hm, rfl⟩

/-- Whatever has happened, a tagger answers for the mapping as it was when the tagger was made, and
counts the distinct paths it was asked for since it was cleared. -/
theorem memo_invisible {acts : List TaggerAct} (hg : (start.run acts).taggers[i]? = some g) :
    (∃ before m table later, acts = before ++ .make m :: later ∧
      (start.run before).taggers.length = i ∧ (start.run before).mappings[m]? = some table ∧
      (∀ p, ((start.run acts).act (.ask i (.classify p))).2.2 = some (.tag (table.tag p))) ∧
      ((start.run acts).act (.ask i .size)).2.2 =
        some (.size (pathsSinceClear (requestsTo i later)).eraseDups.length)) ∧
    ∀ more, requestsTo i more = [] → ((start.run acts).run more).taggers[i]? = some g := by
  have hask : ∀ r, ((start.run acts).act (.ask i r)).2.2 = some (g.ask r).2.2 := by
    intro r
    simp only [act, hg]
  refine ⟨?_, fun more hmore => ?_⟩
  · obtain ⟨before, m, table, later, hacts, hi, hm, hmade⟩ := exists_making acts i g hg
    refine ⟨before, m, table, later, hacts, hi, hm, fun p => ?_, ?_⟩
    · rw [hask, hmade, Tagger.classify_after]
    · rw [hask, hmade, Tagger.size_after]
  · rw [tagger_after_run hg, hmore]
    rfl

/-- Two taggers of one mapping, which is changed between them and emptied after them. The first is
asked twice for one path, and once for the same path with two slashes. -/
def twoOfOneMapping : List TaggerAct :=
  [.hold [(ofString "ui", .ui)], .make 0, .edit 0 [(ofString "a", .page)], .make 0,
    .ask 0 (.classify (ofString "a")), .ask 0 .clear,
    .ask 0 (.classify (ofString "ui/a")), .ask 1 (.classify (ofString "ui/a")),
    .ask 0 (.classify (ofString "ui//a")), .ask 1 .clear, .ask 0 (.classify (ofString "ui/a")),
    .edit 0 []]

/-- The first of them after all this. -/
def firstOfTwo : Tagger :=
  ⟨[(ofString "ui", .ui)], [(ofString "ui/a", .known .ui), (ofString "ui//a", .known .ui)]⟩

theorem memo_invisible_two_of_one_mapping :
    (start.run twoOfOneMapping).taggers[0]? = some firstOfTwo ∧
      (∃ before m table later, twoOfOneMapping = before ++ .make m :: later ∧
        (start.run before).taggers.length = 0 ∧ (start.run before).mappings[m]? = some table ∧
        (∀ p, ((start.run twoOfOneMapping).act (.ask 0 (.classify p))).2.2 =
          some (.tag (table.tag p))) ∧
        ((start.run twoOfOneMapping).act (.ask 0 .size)).2.2 =
          some (.size (pathsSinceClear (requestsTo 0 later)).eraseDups.length)) ∧
      ∀ more, requestsTo 0 more = [] →
        ((start.run twoOfOneMapping).run more).taggers[0]? = some firstOfTwo := by
  have hg : (start.run twoOfOneMapping).taggers[0]? = some firstOfTwo := by decide +kernel
  exact ⟨hg, memo_invisible hg⟩

example : (start.run twoOfOneMapping |>.act (.ask 1 .size)).2.2 = some (.size 0) := by
  decide +kernel

end Taggers

end ComponentManifest
