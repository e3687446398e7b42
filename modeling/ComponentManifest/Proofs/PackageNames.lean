import ComponentManifest.Proofs.SegmentRules

/-!
# Package names of literals

The name of a package is made of whole segments at the beginning of a literal: a scope and a name
after it, or a single segment without a scope. What comes after them has no part in it. Only a scope
without a name names no package, and then the literal stands for itself.

1. `NamesPackage`, the segments that make a name.
2. `packageName_of_segments`, `packageName_of_lacksName`: the two kinds of literals.
3. `packageName_stable`: names, names of names, and names of literals with more segments.
-/

namespace ComponentManifest.Imports

open ComponentManifest.Path (segments ofSegments ofSegments_segments segments_append_slash
  slash_not_mem eq_of_segments_eq_append)
open Text (ofString)

variable {t s : Text} {ps ss : List Text}

/-! ## The segments of a name -/

/-- Segments that make the name of a package: a single one without a scope, or a scope and a name
that is not empty. -/
inductive NamesPackage : List Text → Prop
  | single {name : Text} (h : name.head? ≠ some '@') : NamesPackage [name]
  | ofScope {scope name : Text} (h : scope.head? = some '@') (hn : name ≠ []) :
      NamesPackage [scope, name]

/-- Does the literal begin with a scope, but not with two segments that are not empty? -/
def LacksName (t : Text) : Prop :=
  t.head? = some '@' ∧ ¬∃ scope name rest,
    segments t = scope :: name :: rest ∧ scope ≠ [] ∧ name ≠ []

theorem head?_of_segments (h : segments t = s :: ss) :
    t.head? = some '@' ↔ s.head? = some '@' := by
  have hs : s = t.takeWhile (· != '/') := by
    have hfirst := getElem?_zero_segments t
    rw [h] at hfirst
    exact Option.some.inj hfirst
  cases t with
  | nil => simp [hs]
  | cons c cs =>
    by_cases hc : c = '/'
    · simp [hs, hc]
    · simp [hs, hc]

theorem NamesPackage.ne_nil (hp : NamesPackage ps) : ps ≠ [] := by
  cases hp <;> exact List.cons_ne_nil _ _

theorem namesPackage_or_lacksName (t : Text) :
    (∃ ps rest, NamesPackage ps ∧ segments t = ps ++ rest) ∨ LacksName t := by
  obtain ⟨s, ss, hs⟩ := List.exists_cons_of_ne_nil (Path.segments_ne_nil t)
  by_cases hscope : t.head? = some '@'
  · by_cases hname : ∃ scope name rest, segments t = scope :: name :: rest ∧ scope ≠ [] ∧ name ≠ []
    · obtain ⟨scope, name, rest, hg, -, hn⟩ := hname
      exact .inl ⟨_, rest, .ofScope ((head?_of_segments hg).1 hscope) hn, hg⟩
    · exact .inr ⟨hscope, hname⟩
  · exact .inl ⟨_, ss, .single (mt (head?_of_segments hs).2 hscope), hs⟩

theorem NamesPackage.not_lacksName (hp : NamesPackage ps) (h : segments t = ps ++ ss) :
    ¬ LacksName t := by
  rintro ⟨hscope, hname⟩
  cases hp with
  | single hplain => exact hplain ((head?_of_segments h).1 hscope)
  | ofScope hs hn =>
    refine hname ⟨_, _, ss, h, ?_, hn⟩
    rintro rfl
    cases hs

theorem NamesPackage.segments_ofSegments (hp : NamesPackage ps) (h : segments t = ps ++ ss) :
    segments (ofSegments ps) = ps ++ [] := by
  have hslash : ∀ s ∈ ps, '/' ∉ s := fun s hs => slash_not_mem (h ▸ List.mem_append_left ss hs)
  rw [Path.segments_ofSegments hslash hp.ne_nil, List.append_nil]

/-! ## The two kinds of literals -/

/-- The name is the text of the segments that make it, whatever follows them. -/
theorem packageName_of_segments (hp : NamesPackage ps) (h : segments t = ps ++ ss) :
    packageName t = ofSegments ps := by
  rw [packageName_eq, packageOfSegments, h]
  cases hp with
  | @single name hplain =>
    rw [if_neg (mt (head?_of_segments h).1 hplain)]
    show name = ofSegments [name]
    rw [ofSegments, Text.joinWith, List.intercalate_singleton]
  | @ofScope scope name hs hn =>
    have hscope : scope ≠ [] := List.ne_nil_of_mem (List.mem_of_head? hs)
    rw [if_pos ((head?_of_segments h).2 hs)]
    show (if scope ≠ [] ∧ name ≠ [] then scope ++ '/' :: name else t) = ofSegments [scope, name]
    rw [if_pos ⟨hscope, hn⟩, ofSegments, Text.joinWith, List.intercalate_cons_cons,
      List.intercalate_singleton, List.append_assoc, List.singleton_append]

theorem packageName_of_lacksName (h : LacksName t) : packageName t = t := by
  obtain ⟨hscope, hname⟩ := h
  rw [packageName_eq, packageOfSegments, if_pos hscope]
  rcases hg : segments t with _ | ⟨scope, _ | ⟨name, rest⟩⟩
  · rfl
  · rfl
  · exact if_neg fun ⟨hs, hn⟩ => hname ⟨scope, name, rest, hg, hs, hn⟩

/-! ## What the names have in common -/

/-- A name ends where its literal ends, or where a segment of it does. -/
theorem packageName_leads (t : Text) :
    packageName t = t ∨ ∃ rest, t = packageName t ++ '/' :: rest := by
  rcases namesPackage_or_lacksName t with ⟨ps, rest, hp, hseg⟩ | hlacks
  · rw [packageName_of_segments hp hseg]
    by_cases hrest : rest = []
    · left
      rw [← ofSegments_segments t, hseg, hrest, List.append_nil]
    · exact .inr ⟨_, eq_of_segments_eq_append hseg hp.ne_nil hrest⟩
  · exact .inl (packageName_of_lacksName hlacks)

theorem packageName_packageName (t : Text) : packageName (packageName t) = packageName t := by
  rcases namesPackage_or_lacksName t with ⟨ps, rest, hp, hseg⟩ | hlacks
  · rw [packageName_of_segments hp hseg, packageName_of_segments hp (hp.segments_ofSegments hseg)]
  · rw [packageName_of_lacksName hlacks, packageName_of_lacksName hlacks]

/-- More segments leave the name of a package as it is, and change what lacks a name. -/
theorem packageName_slash_iff (t r : Text) :
    packageName (t ++ '/' :: r) = packageName t ↔ ¬ LacksName t := by
  rcases namesPackage_or_lacksName t with ⟨ps, rest, hp, hseg⟩ | hlacks
  · have hlonger : segments (t ++ '/' :: r) = ps ++ (rest ++ segments r) := by
      rw [segments_append_slash, hseg, List.append_assoc]
    rw [packageName_of_segments hp hlonger, packageName_of_segments hp hseg]
    exact iff_of_true rfl (hp.not_lacksName hseg)
  · rw [packageName_of_lacksName hlacks]
    refine iff_of_false (fun h => ?_) (· hlacks)
    -- A name of the longer literal would be made of segments of `t`, or be all of the longer one.
    rcases namesPackage_or_lacksName (t ++ '/' :: r) with ⟨ps, rest, hp, hseg⟩ | hlonger
    · have ht := hp.segments_ofSegments hseg
      rw [← packageName_of_segments hp hseg, h] at ht
      exact hp.not_lacksName ht hlacks
    · rw [packageName_of_lacksName hlonger] at h
      simpa using congrArg List.length h

/-- The name of a package stands at the beginning of the literal, is its own name and stays whatever
follows after a slash, unless a scope lacks a name. -/
theorem packageName_stable (t : Text) :
    (packageName t = t ∨ ∃ rest, t = packageName t ++ '/' :: rest) ∧
    packageName (packageName t) = packageName t ∧
    ∀ r, packageName (t ++ '/' :: r) = packageName t ↔ ¬ LacksName t :=
  ⟨packageName_leads t, packageName_packageName t, packageName_slash_iff t⟩

/-- A scope alone is another package than the same scope with a name, to which more can be added. -/
example :
    packageName (ofString "@vue") = ofString "@vue" ∧
      packageName (ofString "@vue/core") = ofString "@vue/core" ∧
      packageName (ofString "@vue/core//dist") = ofString "@vue/core" := by
  decide

end ComponentManifest.Imports
