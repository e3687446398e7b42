import ComponentManifest.Imports.Classification
import ComponentManifest.Proofs.PathSegments
import Mathlib.Data.List.Basic

/-!
# Import rules on segments

The decision on an import literal searches its normal form character by character for `lib/utils`
at the end and for `components/ui/`, and cuts a package name off its beginning. What it comes to is
a decision on the segments of the normal form.

1. `isSharedHelpers_iff`: the shared helpers are known by the last two segments.
2. `componentName?_eq`: the component is the one that stands first among the segments.
3. `packageName_eq`: the package is made of the first one or two segments.
4. `classifyLiteral_eq_decideOnSegments`: the whole decision.
-/

namespace ComponentManifest.Imports

open ComponentManifest.Path (segments ofSegments segments_ofSegments ofSegments_segments
  segments_append_slash segments_cons slash_not_mem eq_of_segments_eq eq_of_segments_eq_append)
open Text (ofString)

variable {t : Text}

/-! ## The end of a literal -/

/-- The segments of a literal end in some segments exactly if it is the text of these, or ends in a
slash and that text. -/
theorem suffix_segments_iff (ss : List Text) (hs : ∀ s ∈ ss, '/' ∉ s) (hne : ss ≠ []) :
    ss <:+ segments t ↔ t = ofSegments ss ∨ ('/' :: ofSegments ss) <:+ t := by
  have hss := segments_ofSegments hs hne
  constructor
  · rintro ⟨xs, hxs⟩
    by_cases hx : xs = []
    · left
      apply eq_of_segments_eq
      rw [hss, ← hxs, hx, List.nil_append]
    · right
      exact ⟨ofSegments xs, (eq_of_segments_eq_append hxs.symm hx hne).symm⟩
  · rintro (rfl | ⟨a, rfl⟩)
    · exact ⟨[], hss.symm⟩
    · rw [segments_append_slash, hss]
      exact List.suffix_append _ ss

theorem concat_suffix_concat {u b : Text} {c d : Char} :
    u ++ [c] <:+ b ++ [d] ↔ u <:+ b ∧ c = d := by
  constructor
  · rintro ⟨a, h⟩
    rw [← List.append_assoc] at h
    obtain ⟨hb, hcd⟩ := List.append_inj' h rfl
    exact ⟨⟨a, hb⟩, List.singleton_inj.1 hcd⟩
  · rintro ⟨⟨a, rfl⟩, rfl⟩
    exact ⟨a, (List.append_assoc a u [c]).symm⟩

/-- Are `lib` and `utils` the last two segments? A single line feed at the very end does not
count. -/
def EndsInHelpers (g : List Text) : Prop :=
  [ofString "lib", ofString "utils"] <:+ g ∨ [ofString "lib", ofString "utils\n"] <:+ g

instance (g : List Text) : Decidable (EndsInHelpers g) := inferInstanceAs (Decidable (_ ∨ _))

/-- The test of the text's end is a test of the last two segments. -/
theorem isSharedHelpers_iff : isSharedHelpers t = true ↔ EndsInHelpers (segments t) := by
  unfold EndsInHelpers
  rw [suffix_segments_iff [ofString "lib", ofString "utils"] (by decide) (by decide),
    suffix_segments_iff [ofString "lib", ofString "utils\n"] (by decide) (by decide)]
  show (dropFinalNewline t == ofString "lib/utils" ||
      (ofString "/lib/utils").isSuffixOf (dropFinalNewline t)) = true ↔
    (t = ofString "lib/util" ++ ['s'] ∨ ofString "/lib/util" ++ ['s'] <:+ t) ∨
      (t = ofString "lib/utils" ++ ['\n'] ∨ ofString "/lib/utils" ++ ['\n'] <:+ t)
  rw [Bool.or_eq_true, beq_iff_eq, List.isSuffixOf_iff_suffix]
  unfold dropFinalNewline
  by_cases hn : t.getLast? = some '\n'
  · obtain ⟨b, rfl⟩ := List.getLast?_eq_some_iff.1 hn
    rw [if_pos hn, List.dropLast_concat, concat_suffix_concat, concat_suffix_concat]
    simp
  · rw [if_neg hn]
    have hline : ¬ (t = ofString "lib/utils" ++ ['\n'] ∨
        ofString "/lib/utils" ++ ['\n'] <:+ t) := by
      rintro (rfl | ⟨a, rfl⟩)
      · exact hn List.getLast?_concat
      · rw [← List.append_assoc] at hn
        exact hn List.getLast?_concat
    rw [or_iff_left hline]
    exact Iff.rfl

/-! ## The component -/

/-- The segment after `components` and `ui` if these two stand at the place `i`, unless it is
empty. -/
def componentAfter? (g : List Text) (i : Nat) : Option Text :=
  if g[i]? = some (ofString "components") ∧ g[i + 1]? = some (ofString "ui") then
    g[i + 2]?.filter (· ≠ [])
  else none

/-- The component at the least place where there is one. -/
def firstComponent? (g : List Text) : Option Text :=
  (List.range g.length).findSome? (componentAfter? g)

theorem firstComponent?_cons (s : Text) (g : List Text) :
    firstComponent? (s :: g) = (componentAfter? (s :: g) 0).or (firstComponent? g) := by
  unfold firstComponent?
  rw [List.length_cons, List.range_succ_eq_map, List.findSome?_cons, List.findSome?_map]
  cases componentAfter? (s :: g) 0 <;> rfl

theorem getElem?_zero_segments (t : Text) :
    (segments t)[0]? = some (t.takeWhile (· != '/')) := by
  induction t with
  | nil => rfl
  | cons c cs ih =>
    obtain ⟨s, ss, hs⟩ := List.exists_cons_of_ne_nil (Path.segments_ne_nil cs)
    rw [segments_cons]
    by_cases hc : c = '/'
    · rw [if_pos hc, hc]
      rfl
    · rw [hs, List.getElem?_cons_zero, Option.some.injEq] at ih
      rw [if_neg hc, hs, ih, List.takeWhile_cons_of_pos (by simpa using hc)]
      rfl

theorem componentAt?_eq (t : Text) : componentAt? t = componentAfter? (segments t) 0 := by
  unfold componentAt?
  cases hp : (ofString "components/ui/").isPrefixOf? t with
  | some r =>
    obtain rfl := List.isPrefixOf?_eq_some_iff_append_eq.1 hp
    have hsegments : segments (ofString "components/ui/" ++ r) =
        ofString "components" :: ofString "ui" :: segments r := by
      show segments (ofString "components" ++ '/' :: (ofString "ui" ++ '/' :: r)) = _
      rw [segments_append_slash, segments_append_slash]
      rfl
    have hname : (segments (ofString "components/ui/" ++ r))[2]? =
        some (r.takeWhile (· != '/')) := by
      rw [hsegments]
      exact getElem?_zero_segments r
    unfold componentAfter?
    rw [if_pos (by rw [hsegments]; exact ⟨rfl, rfl⟩), hname, Option.bind_some]
    cases r.takeWhile (· != '/') <;> rfl
  | none =>
    unfold componentAfter?
    split
    · next h =>
      rcases hg : segments t with _ | ⟨a, _ | ⟨b, _ | ⟨name, rest⟩⟩⟩
      · rfl
      · rfl
      · rfl
      · -- Segments with one after the two are those of a text with the prefix.
        rw [hg] at h
        obtain ⟨rfl, rfl⟩ : a = ofString "components" ∧ b = ofString "ui" := by simpa using h
        have hcut : segments t = [ofString "components", ofString "ui"] ++ name :: rest := hg
        have ht := eq_of_segments_eq_append hcut (by decide) (List.cons_ne_nil name rest)
        have hprefix : (ofString "components/ui/").isPrefixOf? t =
            some (ofSegments (name :: rest)) :=
          List.isPrefixOf?_eq_some_iff_append_eq.2 ht.symm
        rw [hp] at hprefix
        cases hprefix
    · rfl

theorem componentBelow?_eq (t : Text) : componentBelow? t = firstComponent? (segments t).tail := by
  induction t with
  | nil => rfl
  | cons c cs ih =>
    obtain ⟨s, ss, hs⟩ := List.exists_cons_of_ne_nil (Path.segments_ne_nil cs)
    unfold componentBelow?
    rw [segments_cons]
    split
    · rw [List.tail_cons, hs, firstComponent?_cons, ← hs, ← componentAt?_eq, ih, hs, List.tail_cons]
      cases componentAt? cs <;> rfl
    · rw [ih, hs]
      rfl

/-- The component that a search from the left finds is the first one among the segments. -/
theorem componentName?_eq (t : Text) : componentName? t = firstComponent? (segments t) := by
  obtain ⟨s, ss, hs⟩ := List.exists_cons_of_ne_nil (Path.segments_ne_nil t)
  unfold componentName?
  rw [componentBelow?_eq, hs, firstComponent?_cons, ← hs, ← componentAt?_eq, hs, List.tail_cons]
  cases componentAt? t <;> rfl

/-- An empty segment is no component, and the search goes on behind it. -/
example :
    componentName? (ofString "components/ui//components/ui/card/x") = some (ofString "card") := by
  decide

/-! ## The package -/

/-- The package that the segments `g` of the literal `t` name: the first two of a scoped literal
that has them, the first one of any other. -/
def packageOfSegments (t : Text) (g : List Text) : Text :=
  if t.head? = some '@' then
    match g[0]?, g[1]? with
    | some scope, some name =>
      if scope ≠ [] ∧ name ≠ [] then scope ++ '/' :: name else t
    | _, _ => t
  else g.headD []

theorem packageName_eq (t : Text) : packageName t = packageOfSegments t (segments t) := by
  unfold packageName packageOfSegments
  split
  · next ht =>
    obtain ⟨cs, rfl⟩ := List.head?_eq_some_iff.1 ht
    obtain ⟨s, ss, hs⟩ := List.exists_cons_of_ne_nil (Path.segments_ne_nil cs)
    rw [segments_cons, if_neg (by decide), hs, List.modifyHead_cons]
    cases ss with
    | nil => rfl
    | cons name rest => cases name <;> rfl
  · cases segments t <;> rfl

end ComponentManifest.Imports

namespace ComponentManifest.Classifier

open Imports
open Unicode (nfkc)

/-! ## The decision -/

/-- The reference of a literal in normal form with its segments: a component of the library, an
address that is not empty, or the literal itself. -/
def referenceOfSegments (aliases : AliasTable) (normal : Text) (g : List Text) :
    Except Fault Text :=
  match firstComponent? g with
  | some name => .ok name
  | none => (aliases.resolve normal).map fun address => (address.filter (· ≠ [])).getD normal

/-- The decision on a literal, made on the segments of its normal form: packages that the project
declares come first, then local components, then addresses of the alias table. -/
def decideOnSegments (k : Classifier) (t : Text) : Except Fault (Option Classification) :=
  if t = [] ∨ t.head? = some '.' then .ok none
  else
    let normal := nfkc t
    let g := Path.segments normal
    if EndsInHelpers g then .ok none
    else
      let package := packageOfSegments normal g
      if package ∈ k.dependencies then .ok (some ⟨.dependencies, package⟩)
      else if package ∈ k.devDependencies then .ok (some ⟨.devDependencies, package⟩)
      else
        (referenceOfSegments k.aliases normal g).map fun name =>
          some ⟨.registryDependencies, name⟩

theorem reference_eq (k : Classifier) (t : Text) :
    k.reference t = referenceOfSegments k.aliases t (Path.segments t) := by
  unfold reference referenceOfSegments
  rw [componentName?_eq]
  cases firstComponent? (Path.segments t) with
  | some name => rfl
  | none =>
    rcases k.aliases.resolve t with e | _ | url
    · rfl
    · rfl
    · cases url <;> rfl

/-- Whatever the project declares, every literal is classified by the segments of its normal
form. -/
theorem classifyLiteral_eq_decideOnSegments (k : Classifier) (t : Text) :
    k.classifyLiteral t = k.decideOnSegments t := by
  unfold classifyLiteral decideOnSegments classifyNormal
  simp only [Bool.or_eq_true, List.isEmpty_iff, isRelative, beq_iff_eq, isSharedHelpers_iff,
    List.contains_iff_mem, packageName_eq, reference_eq]

end ComponentManifest.Classifier
