import ComponentManifest.Imports.Classification
import ComponentManifest.Proofs.NormalForm
import Mathlib.Data.List.Basic

/-!
# Spellings of an import literal

Literals with one normal form are meant to be the same import. The decision on a literal is made on
its normal form, but for one question that is asked of the literal as written: whether it begins
with a dot.

1. `classifyLiteral_eq`: the decision on a literal.
2. `classifyLiteral_spelling`: two spellings fall apart exactly when only one of them begins with a
   plain dot.
-/

namespace ComponentManifest.Classifier

open Imports
open Unicode (nfkc)

variable {k : Classifier} {a b t : Text}

/-! ## The decision on a literal -/

theorem classifyLiteral_eq (ht : t ≠ []) :
    k.classifyLiteral t = if isRelative t then .ok none else k.classifyNormal (nfkc t) := by
  have he : t.isEmpty = false := by simpa using ht
  unfold classifyLiteral
  rw [he, Bool.false_or]

/-- Only the shared helpers have a normal form that is not classified. -/
theorem classifyNormal_eq_none : k.classifyNormal t = .ok none ↔ isSharedHelpers t = true := by
  unfold classifyNormal
  split
  · next h => simp [h]
  · next h =>
    dsimp only
    split
    · simp [h]
    split
    · simp [h]
    · cases k.reference t <;> simp [h, Except.map]

theorem isRelative_iff : isRelative t = true ↔ t.head? = some '.' := by
  simp [isRelative]

theorem isRelative_nfkc :
    isRelative (nfkc t) = true ↔ ∃ c ∈ Unicode.dotForms, t.head? = some c :=
  isRelative_iff.trans Unicode.head?_nfkc

theorem ne_nil_of_isRelative_nfkc (h : isRelative (nfkc t) = true) : t ≠ [] := by
  rintro rfl
  rw [Unicode.nfkc_nil] at h
  cases h

/-! ## Spellings -/

theorem classifyLiteral_eq_iff (h : nfkc a = nfkc b) :
    k.classifyLiteral a = k.classifyLiteral b ↔
      isRelative a = isRelative b ∨ isSharedHelpers (nfkc a) = true := by
  by_cases ha : a = []
  · obtain rfl : b = [] := by
      rw [← Unicode.nfkc_eq_nil, ← h, ha]
      rfl
    simp [ha]
  have hb : b ≠ [] := fun hb => ha (by rw [← Unicode.nfkc_eq_nil, h, hb]; rfl)
  rw [classifyLiteral_eq ha, classifyLiteral_eq hb, ← h]
  cases isRelative a <;> cases isRelative b
  · simp
  · simp [classifyNormal_eq_none]
  · simp only [Bool.true_eq_false, if_true, false_or]
    exact eq_comm.trans classifyNormal_eq_none
  · simp

theorem classifyLiteral_eq_none_iff (h : isRelative (nfkc t) = true) :
    k.classifyLiteral t = .ok none ↔ isRelative t = true ∨ isSharedHelpers (nfkc t) = true := by
  rw [classifyLiteral_eq (ne_nil_of_isRelative_nfkc h)]
  cases isRelative t
  · simp [classifyNormal_eq_none]
  · simp

/-- Two spellings of one import are classified alike exactly if both or none of them begins with a
plain dot, or they stand for the shared helpers. -/
theorem classifyLiteral_spelling (k : Classifier) :
    (∀ a b, nfkc a = nfkc b →
      (k.classifyLiteral a = k.classifyLiteral b ↔
        isRelative a = isRelative b ∨ isSharedHelpers (nfkc a) = true)) ∧
    (∀ t, (isRelative (nfkc t) = true ↔ ∃ c ∈ Unicode.dotForms, t.head? = some c)) ∧
    (∀ t, isRelative (nfkc t) = true →
      (k.classifyLiteral t = .ok none ↔
        isRelative t = true ∨ isSharedHelpers (nfkc t) = true)) :=
  ⟨fun _ _ => classifyLiteral_eq_iff, fun _ => isRelative_nfkc,
    fun _ => classifyLiteral_eq_none_iff⟩

/-- A project that depends on `vue`. -/
def vueProject : Classifier := ⟨["vue".toList], [], [], ⟨[], [], fun _ => false⟩⟩

theorem classifyLiteral_spelling_wide_letter :
    nfkc "\uFF56ue".toList = nfkc "vue".toList ∧
      vueProject.classifyLiteral "\uFF56ue".toList = vueProject.classifyLiteral "vue".toList ∧
      isRelative (nfkc "\uFF0E/x".toList) = true ∧
      vueProject.classifyLiteral "\uFF0E/x".toList ≠ .ok none := by
  have hn : nfkc "\uFF56ue".toList = nfkc "vue".toList := by decide +kernel
  have hr : isRelative (nfkc "\uFF0E/x".toList) = true := by decide +kernel
  have hs : ¬ (isRelative "\uFF0E/x".toList = true ∨
      isSharedHelpers (nfkc "\uFF0E/x".toList) = true) := by decide +kernel
  obtain ⟨halike, -, hout⟩ := classifyLiteral_spelling vueProject
  exact ⟨hn, (halike _ _ hn).2 (Or.inl (by decide)), hr, fun h => hs ((hout _ hr).1 h)⟩

/-- A full-width dot makes a reference of what is a relative path in its other spelling. -/
theorem wide_dot_is_classified :
    nfkc "\uFF0E/x".toList = nfkc "./x".toList ∧
      vueProject.classifyLiteral "\uFF0E/x".toList =
        .ok (some ⟨.registryDependencies, "./x".toList⟩) ∧
      vueProject.classifyLiteral "./x".toList = .ok none := by
  decide +kernel

end ComponentManifest.Classifier
