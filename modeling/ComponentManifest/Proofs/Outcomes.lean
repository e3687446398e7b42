import ComponentManifest.Report.Event

/-!
# Steps that may fail

A computation that may fail is taken apart at its steps: it has a result exactly when every step
has, and otherwise fails with the fault of one of them. This holds with reports and without.

1. Results without reports.
2. Outcomes, which report what happens.
-/

namespace ComponentManifest

/-! ## Results without reports -/

section

variable {ε α β : Type} {x : Except ε α} {f g : α → Except ε β}

theorem except_bind_eq_ok {r : β} :
    (x >>= f) = .ok r ↔ ∃ a, x = .ok a ∧ f a = .ok r := by
  cases x <;> simp [bind, Except.bind]

theorem except_bind_eq_error {e : ε} :
    (x >>= f) = .error e ↔ x = .error e ∨ ∃ a, x = .ok a ∧ f a = .error e := by
  cases x <;> simp [bind, Except.bind]

theorem except_bind_congr (h : ∀ a, x = .ok a → f a = g a) : x >>= f = x >>= g := by
  cases x with
  | error e => rfl
  | ok a => exact h a rfl

theorem except_eq_ok_of_toOption {a : α} (h : x.toOption = some a) : x = .ok a := by
  cases x with
  | error e => cases h
  | ok a' => exact congrArg Except.ok (Option.some.inj h)

theorem except_map_eq_ok {h : α → β} {b : β} : x.map h = .ok b ↔ ∃ a, x = .ok a ∧ h a = b := by
  cases x <;> simp [Except.map]

theorem except_map_eq_error {h : α → β} {e : ε} : x.map h = .error e ↔ x = .error e := by
  cases x <;> simp [Except.map]

/-- The results of steps that succeed are those of the single ones. -/
theorem mem_of_except_mapM {xs : List α} {ys : List β} {y : β} (h : xs.mapM f = .ok ys) :
    y ∈ ys ↔ ∃ x ∈ xs, f x = .ok y := by
  induction xs generalizing ys with
  | nil =>
    cases h
    simp
  | cons x xs ih =>
    rw [List.mapM_cons] at h
    obtain ⟨b, hb, h⟩ := except_bind_eq_ok.1 h
    obtain ⟨bs, hbs, h⟩ := except_bind_eq_ok.1 h
    cases h
    simp only [List.mem_cons, exists_eq_or_imp, ih hbs, hb, Except.ok.injEq, eq_comm (a := b)]

/-- One step that fails is enough for all to fail, with the fault of the first one. -/
theorem except_mapM_eq_error {xs : List α} {e : ε} : xs.mapM f = .error e ↔
    ∃ before x after, xs = before ++ x :: after ∧ (∀ y ∈ before, ∃ b, f y = .ok b) ∧
      f x = .error e := by
  induction xs with
  | nil => simp [pure, Except.pure]
  | cons y ys ih =>
    rw [List.mapM_cons, except_bind_eq_error]
    simp only [List.cons_eq_append_iff]
    constructor
    · rintro (hy | ⟨b, hb, h⟩)
      · exact ⟨[], y, ys, Or.inl ⟨rfl, rfl⟩, by simp, hy⟩
      · rcases except_bind_eq_error.1 h with h | ⟨bs, -, h⟩
        · obtain ⟨before, x, after, rfl, hbefore, hx⟩ := ih.1 h
          exact ⟨y :: before, x, after, Or.inr ⟨before, rfl, rfl⟩,
            List.forall_mem_cons.2 ⟨⟨b, hb⟩, hbefore⟩, hx⟩
        · cases h
    · rintro ⟨before, x, after, ⟨rfl, h⟩ | ⟨before, rfl, rfl⟩, hbefore, hx⟩
      · obtain ⟨rfl, rfl⟩ := List.cons.inj h
        exact Or.inl hx
      · obtain ⟨⟨b, hb⟩, hbefore⟩ := List.forall_mem_cons.1 hbefore
        refine Or.inr ⟨b, hb, except_bind_eq_error.2 (Or.inl ?_)⟩
        exact ih.2 ⟨before, x, after, rfl, hbefore, hx⟩

end

/-! ## Outcomes -/

namespace Outcome

variable {α β : Type} {x : Outcome α} {f : α → Outcome β} {b : β}

theorem result_bind (x : Outcome α) (f : α → Outcome β) :
    (x >>= f).result = x.result >>= fun a => (f a).result := by
  rcases x with ⟨events, e | a⟩ <;> rfl

theorem bind_eq_ok :
    (x >>= f).result = .ok b ↔ ∃ a, x.result = .ok a ∧ (f a).result = .ok b := by
  rw [result_bind, except_bind_eq_ok]

theorem bind_eq_error {e : Fault} (h : (x >>= f).result = .error e) :
    x.result = .error e ∨ ∃ a, x.result = .ok a ∧ (f a).result = .error e := by
  rw [result_bind] at h
  exact except_bind_eq_error.1 h

theorem bind_ok (es : List Event) (a : α) (f : α → Outcome β) :
    (⟨es, .ok a⟩ : Outcome α) >>= f = ⟨es ++ (f a).events, (f a).result⟩ := rfl

theorem bind_error (es : List Event) (e : Fault) (f : α → Outcome β) :
    (⟨es, .error e⟩ : Outcome α) >>= f = ⟨es, .error e⟩ := rfl

theorem result_bind_of_ok {a : α} (h : x.result = .ok a) : (x >>= f).result = (f a).result := by
  rcases x with ⟨es, _ | a'⟩
  · cases h
  · cases h
    rfl

theorem result_bind_of_error {e : Fault} (h : x.result = .error e) :
    (x >>= f).result = .error e := by
  rcases x with ⟨es, e' | _⟩
  · cases h
    rfl
  · cases h

/-- Reports made on the way do not change the result. -/
theorem result_bind_congr {y : Outcome α} {g : α → Outcome β} (h : y.result = x.result)
    (hf : ∀ a, (g a).result = (f a).result) : (y >>= g).result = (x >>= f).result := by
  rcases hx : x.result with e | a
  · rw [result_bind_of_error hx, result_bind_of_error (h.trans hx)]
  · rw [result_bind_of_ok hx, result_bind_of_ok (h.trans hx), hf]

@[simp] theorem result_pure (a b : α) : (pure a : Outcome α).result = .ok b ↔ a = b := by
  show (.ok a : Except Fault α) = .ok b ↔ _
  simp

@[simp] theorem result_ofExcept (r : Except Fault α) : (ofExcept r).result = r := rfl

@[simp] theorem result_report (e : Event) : (report e).result = .ok () := rfl

@[simp] theorem result_fail (e : Fault) : (fail e : Outcome α).result = .error e := rfl

end Outcome

end ComponentManifest
