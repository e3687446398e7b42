import ComponentManifest.Imports.Literal
import Mathlib.Data.List.Sort
import Mathlib.Data.List.TakeWhile

/-!
# Import clauses of a text

The scan for import literals goes through a text once and cuts clauses out of it by taking
characters while they are blank or no quote. What it finds are the literals of the leftmost disjoint
occurrences of clauses, whatever the text is.

1. `Clause`, and `Clause.eq_of_prefix`: at one place there is at most one clause.
2. `clause?_eq_some_iff`: the reader for one clause is sound and complete.
3. `literals_of_clause` and `literals_cons`: one step of the scan.
4. `exists_leftmostFrom` and `LeftmostFrom.unique`: the occurrences that a whole scan picks.
5. `literals_woven`: texts made of clauses and what stands between them.
6. `literals_leftmost`: the literals of any text.
-/

namespace ComponentManifest.Imports

open Text (ofString)
open Unicode (isBlank)

variable {t r : Text}

/-! ## Cutting a text -/

/-- A text is cut in one way at its first character that satisfies `p`. -/
theorem eq_of_append_cons {p : Char → Bool} {a b r s : Text} {x y : Char}
    (ha : ∀ c ∈ a, p c = false) (hb : ∀ c ∈ b, p c = false) (hx : p x = true) (hy : p y = true)
    (h : a ++ x :: r = b ++ y :: s) : a = b ∧ x = y ∧ r = s := by
  induction a generalizing b with
  | nil =>
    cases b with
    | nil => simpa using h
    | cons d ds =>
      obtain ⟨rfl, -⟩ := List.cons.inj h
      rw [hb x List.mem_cons_self] at hx
      cases hx
  | cons c cs ih =>
    cases b with
    | nil =>
      obtain ⟨rfl, -⟩ := List.cons.inj h
      rw [ha c List.mem_cons_self] at hy
      cases hy
    | cons d ds =>
      obtain ⟨rfl, hrest⟩ := List.cons.inj h
      obtain ⟨rfl, hxy⟩ := ih (fun e he => ha e (List.mem_cons_of_mem c he))
        (fun e he => hb e (List.mem_cons_of_mem c he)) hrest
      exact ⟨rfl, hxy⟩

/-- The characters taken while `p` holds end before one where it does not. -/
theorem takeWhile_append_cons {p : Char → Bool} {a : Text} {x : Char}
    (ha : ∀ c ∈ a, p c = true) (hx : p x = false) : (a ++ x :: r).takeWhile p = a := by
  rw [List.takeWhile_append_of_pos ha, List.takeWhile_cons_of_neg (by simp [hx]), List.append_nil]

theorem exists_drop_takeWhile (p : Char → Bool) (t : Text) :
    ∃ a r, t = a ++ r ∧ t.takeWhile p = a ∧ t.drop a.length = r ∧ (∀ c ∈ a, p c = true) ∧
      ∀ x s, r = x :: s → p x = false := by
  have hcut := List.takeWhile_append_dropWhile (p := p) (l := t)
  refine ⟨t.takeWhile p, t.dropWhile p, hcut.symm, rfl, ?_, fun c => List.mem_takeWhile_imp, ?_⟩
  · have hdrop : (t.takeWhile p ++ t.dropWhile p).drop (t.takeWhile p).length = t.dropWhile p :=
      List.drop_left
    rwa [hcut] at hdrop
  · intro x s hr
    have hhead := List.head?_dropWhile_not p t
    rwa [hr] at hhead

/-! ## Clauses -/

/-- A keyword, white space, and a literal between two quotes. -/
@[ext]
structure Clause where
  keyword : Text
  blanks : Text
  opening : Char
  literal : Text
  closing : Char
  keyword_mem : keyword ∈ keywords
  blanks_ne_nil : blanks ≠ []
  blank : blanks.all isBlank = true
  opening_quote : isQuote opening = true
  literal_ne_nil : literal ≠ []
  no_quote : literal.any isQuote = false
  closing_quote : isQuote closing = true

theorem not_any_iff {p : Char → Bool} : t.any p = false ↔ ∀ c ∈ t, p c = false := by
  simp only [List.any_eq_false, Bool.not_eq_true]

theorem isBlank_of_keyword : ∀ k ∈ keywords, k.any isBlank = false := by decide

theorem isQuote_of_keyword : ∀ k ∈ keywords, k.any isQuote = false := by decide

theorem eq_nil_of_keywords {g k w : Text} (hk : k ∈ keywords) (hw : w ∈ keywords)
    (h : w = g ++ k) : g = [] := by
  have hsuffix : ∀ w ∈ keywords, ∀ k ∈ keywords, k <:+ w → k.length = w.length := by decide
  have hlength := hsuffix w hw k hk ⟨g, h.symm⟩
  rw [h, List.length_append] at hlength
  exact List.eq_nil_of_length_eq_zero (by omega)

theorem isQuote_of_isBlank {c : Char} (h : isBlank c = true) : isQuote c = false := by
  apply Bool.eq_false_iff.2
  intro hq
  rcases (by simpa [isQuote] using hq : c = '\'' ∨ c = '"') with rfl | rfl
  · exact absurd h (by decide)
  · exact absurd h (by decide)

namespace Clause

variable {k k' : Clause}

/-- The clause as it stands in a text. -/
def text (k : Clause) : Text :=
  k.keyword ++ (k.blanks ++ k.opening :: (k.literal ++ [k.closing]))

theorem text_append (k : Clause) (r : Text) :
    k.text ++ r = (k.keyword ++ k.blanks) ++ k.opening :: (k.literal ++ k.closing :: r) := by
  simp [text]

theorem length_text (k : Clause) :
    k.text.length = k.keyword.length + (k.blanks.length + k.literal.length + 2) := by
  simp only [text, List.length_append, List.length_cons, List.length_nil]
  omega

theorem text_ne_nil (k : Clause) : k.text ≠ [] := by
  intro h
  have hlength := k.length_text
  rw [h, List.length_nil] at hlength
  omega

theorem isBlank_of_mem (k : Clause) {c : Char} (h : c ∈ k.blanks) : isBlank c = true :=
  List.all_eq_true.1 k.blank c h

theorem isQuote_literal (k : Clause) : ∀ c ∈ k.literal, isQuote c = false :=
  not_any_iff.1 k.no_quote

theorem isQuote_lead (k : Clause) : ∀ c ∈ k.keyword ++ k.blanks, isQuote c = false := by
  intro c hc
  rcases List.mem_append.1 hc with hc | hc
  · exact not_any_iff.1 (isQuote_of_keyword _ k.keyword_mem) c hc
  · exact isQuote_of_isBlank (k.isBlank_of_mem hc)

theorem eq_of_prefix (h : k.text <+: t) (h' : k'.text <+: t) : k = k' := by
  obtain ⟨r, hr⟩ := h
  obtain ⟨r', hr'⟩ := h'
  rw [← hr', text_append, text_append] at hr
  obtain ⟨hlead, hopening, hrest⟩ :=
    eq_of_append_cons k.isQuote_lead k'.isQuote_lead k.opening_quote k'.opening_quote hr
  obtain ⟨hliteral, hclosing, -⟩ :=
    eq_of_append_cons k.isQuote_literal k'.isQuote_literal k.closing_quote k'.closing_quote hrest
  obtain ⟨b, bs, hb⟩ := List.exists_cons_of_ne_nil k.blanks_ne_nil
  obtain ⟨b', bs', hb'⟩ := List.exists_cons_of_ne_nil k'.blanks_ne_nil
  rw [hb, hb'] at hlead
  obtain ⟨hkeyword, hfirst, hblanks⟩ :=
    eq_of_append_cons (not_any_iff.1 (isBlank_of_keyword _ k.keyword_mem))
      (not_any_iff.1 (isBlank_of_keyword _ k'.keyword_mem))
      (k.isBlank_of_mem (by rw [hb]; exact List.mem_cons_self))
      (k'.isBlank_of_mem (by rw [hb']; exact List.mem_cons_self)) hlead
  exact Clause.ext hkeyword (by rw [hb, hb', hfirst, hblanks]) hopening hliteral hclosing

end Clause

/-! ## Reading one clause -/

theorem clauseTail?_eq_some {l : Text} {n : Nat} (h : clauseTail? t = some (l, n)) :
    ∃ blanks opening closing rest, t = blanks ++ opening :: (l ++ closing :: rest) ∧
      blanks ≠ [] ∧ blanks.all isBlank = true ∧ isQuote opening = true ∧ l ≠ [] ∧
      l.any isQuote = false ∧ isQuote closing = true ∧
      n = blanks.length + l.length + 2 := by
  obtain ⟨blanks, r, ht, htake, hdrop, hblank, -⟩ := exists_drop_takeWhile isBlank t
  unfold clauseTail? at h
  simp only [htake, hdrop] at h
  rcases r with _ | ⟨opening, r⟩
  · cases h
  · obtain ⟨literal, rest, hr, htake', hdrop', hquote, hstop⟩ :=
      exists_drop_takeWhile (fun c => !isQuote c) r
    simp only [htake', hdrop'] at h
    split at h
    · cases h
    · next hgood =>
      simp only [Bool.or_eq_true, not_or, List.isEmpty_iff, Bool.not_eq_true', Bool.not_eq_false]
        at hgood
      obtain ⟨⟨⟨hne, hopening⟩, hliteral⟩, hrest⟩ := hgood
      obtain ⟨closing, s, hs⟩ := List.exists_cons_of_ne_nil hrest
      cases h
      refine ⟨blanks, opening, closing, s, ?_, hne, List.all_eq_true.2 hblank, hopening, hliteral,
        ?_, ?_, rfl⟩
      · rw [ht, hr, hs]
      · exact not_any_iff.2 fun c hc => by simpa using hquote c hc
      · simpa using hstop closing s hs

theorem clauseTail?_clause (k : Clause) (r : Text) :
    clauseTail? (k.blanks ++ k.opening :: (k.literal ++ k.closing :: r)) =
      some (k.literal, k.blanks.length + k.literal.length + 2) := by
  have hopening : isBlank k.opening = false := by
    apply Bool.eq_false_iff.2
    intro hb
    have hq := isQuote_of_isBlank hb
    rw [k.opening_quote] at hq
    cases hq
  have hblanks := takeWhile_append_cons (r := k.literal ++ k.closing :: r)
    (fun c => k.isBlank_of_mem) hopening
  have hliteral := takeWhile_append_cons (p := fun c => !isQuote c) (r := r) (a := k.literal)
    (x := k.closing) (fun c hc => by simp [k.isQuote_literal c hc]) (by simp [k.closing_quote])
  unfold clauseTail?
  simp only [hblanks, List.drop_left, hliteral]
  rw [if_neg (by simp [k.blanks_ne_nil, k.opening_quote, k.literal_ne_nil])]

/-- The reader finds the clause that a text begins with, and nothing else. -/
theorem clause?_eq_some_iff {l : Text} {n : Nat} :
    clause? t = some (l, n) ↔ ∃ k : Clause, k.text <+: t ∧ k.literal = l ∧ k.text.length = n := by
  have sound : ∀ {l n}, clause? t = some (l, n) →
      ∃ k : Clause, k.text <+: t ∧ k.literal = l ∧ k.text.length = n := by
    intro l n h
    obtain ⟨word, hword, hw⟩ := List.exists_of_findSome?_eq_some h
    obtain ⟨r, hr, htail⟩ := Option.bind_eq_some_iff.1 hw
    obtain ⟨⟨l', m⟩, ht, he⟩ := Option.map_eq_some_iff.1 htail
    cases he
    obtain ⟨blanks, opening, closing, rest, rfl, hne, hblank, hopening, hl, hquote, hclosing, rfl⟩ :=
      clauseTail?_eq_some ht
    let k : Clause :=
      ⟨word, blanks, opening, l', closing, hword, hne, hblank, hopening, hl, hquote, hclosing⟩
    refine ⟨k, ⟨rest, ?_⟩, rfl, k.length_text⟩
    rw [← List.isPrefixOf?_eq_some_iff_append_eq.1 hr, k.text_append, List.append_assoc]
  constructor
  · exact sound
  · -- The search over the keywords succeeds, and what it finds is the same clause.
    rintro ⟨k, hk, rfl, rfl⟩
    have hsome : (clause? t).isSome := by
      obtain ⟨r, rfl⟩ := hk
      unfold clause?
      rw [List.findSome?_isSome_iff]
      refine ⟨k.keyword, k.keyword_mem, ?_⟩
      rw [k.text_append, List.append_assoc,
        List.isPrefixOf?_eq_some_iff_append_eq.2 rfl, Option.bind_some, clauseTail?_clause]
      rfl
    obtain ⟨⟨l, n⟩, h⟩ := Option.isSome_iff_exists.1 hsome
    obtain ⟨k', hk', rfl, rfl⟩ := sound h
    rw [h, Clause.eq_of_prefix hk hk']

theorem clause?_eq_none_iff : clause? t = none ↔ ∀ k : Clause, ¬ k.text <+: t := by
  rw [Option.eq_none_iff_forall_ne_some]
  constructor
  · exact fun h k hk => h _ (clause?_eq_some_iff.2 ⟨k, hk, rfl, rfl⟩)
  · rintro h ⟨l, n⟩ hc
    obtain ⟨k, hk, -⟩ := clause?_eq_some_iff.1 hc
    exact h k hk

/-! ## One step of the scan -/

/-- The characters that belong to an earlier clause are passed over. -/
theorem literalsFrom_eq (n : Nat) (t : Text) : literalsFrom n t = literals (t.drop n) := by
  induction t generalizing n with
  | nil => rw [List.drop_nil]; cases n <;> rfl
  | cons c cs ih =>
    cases n with
    | zero => rfl
    | succ n => exact ih n

theorem literals_of_clause {k : Clause} (h : k.text <+: t) :
    literals t = k.literal :: literals (t.drop k.text.length) := by
  have hc := clause?_eq_some_iff.2 ⟨k, h, rfl, rfl⟩
  obtain ⟨x, xs, hx⟩ := List.exists_cons_of_ne_nil k.text_ne_nil
  obtain ⟨c, cs, rfl⟩ := List.exists_cons_of_ne_nil (h.ne_nil k.text_ne_nil)
  unfold literals
  rw [literalsFrom]
  simp only [hc]
  rw [literalsFrom_eq, hx, List.length_cons, Nat.add_sub_cancel, List.drop_succ_cons]
  rfl

theorem literals_cons {c : Char} {cs : Text} (h : ∀ k : Clause, ¬ k.text <+: c :: cs) :
    literals (c :: cs) = literals cs := by
  have hc := clause?_eq_none_iff.2 h
  unfold literals
  rw [literalsFrom]
  simp only [hc]

/-! ## Occurrences -/

/-- A clause at a place. -/
@[ext]
structure Occurrence where
  start : Nat
  clause : Clause

namespace Occurrence

/-- The place after the clause. -/
def stop (o : Occurrence) : Nat := o.start + o.clause.text.length

/-- Does the clause stand at its place in the text? -/
def In (o : Occurrence) (t : Text) : Prop := o.clause.text <+: t.drop o.start

instance (o : Occurrence) (t : Text) : Decidable (o.In t) :=
  inferInstanceAs (Decidable (_ <+: _))

/-- Does one occurrence begin inside another, after its first character? -/
def StartsInside (o other : Occurrence) : Prop := other.start < o.start ∧ o.start < other.stop

/-- Does one occurrence end before another begins? -/
def Before (o other : Occurrence) : Prop := o.stop ≤ other.start

theorem start_lt_stop (o : Occurrence) : o.start < o.stop :=
  Nat.lt_add_of_pos_right (List.length_pos_iff.2 o.clause.text_ne_nil)

instance : Std.Irrefl Before where
  irrefl o h := absurd o.start_lt_stop (Nat.not_lt.2 h)

instance : Std.Antisymm Before where
  antisymm o other h h' := by
    have ho := o.start_lt_stop
    have hother := other.start_lt_stop
    unfold Before at h h'
    omega

theorem eq_of_start_eq {o other : Occurrence} (ho : o.In t) (hother : other.In t)
    (h : o.start = other.start) : o = other := by
  unfold In at ho hother
  rw [← h] at hother
  exact Occurrence.ext h (Clause.eq_of_prefix ho hother)

end Occurrence

/-- These are the occurrences from the place `i` on that do not begin inside one of them. They are
given in order and do not overlap. -/
structure LeftmostFrom (t : Text) (i : Nat) (os : List Occurrence) : Prop where
  disjoint : os.Pairwise Occurrence.Before
  mem_iff : ∀ o, o ∈ os ↔ i ≤ o.start ∧ o.In t ∧ ∀ other ∈ os, ¬ o.StartsInside other

namespace LeftmostFrom

variable {i : Nat} {os os' : List Occurrence}

theorem nil (h : t.length ≤ i) : LeftmostFrom t i [] where
  disjoint := List.Pairwise.nil
  mem_iff o := by
    refine iff_of_false List.not_mem_nil ?_
    rintro ⟨hi, hin, -⟩
    unfold Occurrence.In at hin
    rw [List.drop_eq_nil_of_le (h.trans hi)] at hin
    exact o.clause.text_ne_nil (List.prefix_nil.1 hin)

theorem skip (h : ∀ k : Clause, ¬ k.text <+: t.drop i) (hos : LeftmostFrom t (i + 1) os) :
    LeftmostFrom t i os where
  disjoint := hos.disjoint
  mem_iff o := by
    rw [hos.mem_iff]
    constructor
    · exact fun ⟨hi, ho⟩ => ⟨Nat.le_of_succ_le hi, ho⟩
    · rintro ⟨hi, hin, hout⟩
      refine ⟨Nat.lt_of_le_of_ne hi ?_, hin, hout⟩
      rintro rfl
      exact h o.clause hin

theorem cons {k : Clause} (h : k.text <+: t.drop i)
    (hos : LeftmostFrom t (i + k.text.length) os) : LeftmostFrom t i (⟨i, k⟩ :: os) where
  disjoint := List.pairwise_cons.2 ⟨fun o ho => ((hos.mem_iff o).1 ho).1, hos.disjoint⟩
  mem_iff o := by
    have hafter : ∀ o ∈ os, i + k.text.length ≤ o.start := fun o ho => ((hos.mem_iff o).1 ho).1
    have hlength : 0 < k.text.length := List.length_pos_iff.2 k.text_ne_nil
    constructor
    · intro ho
      rcases List.mem_cons.1 ho with rfl | ho
      · refine ⟨Nat.le_refl i, h, fun other hother hinside => ?_⟩
        rcases List.mem_cons.1 hother with rfl | hother
        · exact Nat.lt_irrefl i hinside.1
        · have hstart : other.start < i := hinside.1
          have := hafter other hother
          omega
      · obtain ⟨hi, hin, hout⟩ := (hos.mem_iff o).1 ho
        refine ⟨(Nat.le_add_right i _).trans hi, hin, fun other hother hinside => ?_⟩
        rcases List.mem_cons.1 hother with rfl | hother
        · exact absurd hinside.2 (Nat.not_lt.2 hi)
        · exact hout other hother hinside
    · rintro ⟨hi, hin, hout⟩
      rcases Nat.eq_or_lt_of_le hi with he | hlt
      · have ho : o = ⟨i, k⟩ := Occurrence.eq_of_start_eq hin h he.symm
        rw [ho]
        exact List.mem_cons_self
      · refine List.mem_cons_of_mem _ ((hos.mem_iff o).2 ⟨?_, hin, fun other hother =>
          hout other (List.mem_cons_of_mem _ hother)⟩)
        have hstop := hout ⟨i, k⟩ List.mem_cons_self
        exact Nat.not_lt.1 fun hinside => hstop ⟨hlt, hinside⟩

/-- An occurrence that is left out begins inside one that is not. -/
theorem mem_or_startsInside (hos : LeftmostFrom t 0 os) {o : Occurrence} (ho : o.In t) :
    o ∈ os ∨ ∃ other ∈ os, o.StartsInside other := by
  by_contra hnot
  rw [not_or] at hnot
  exact hnot.1 ((hos.mem_iff o).2 ⟨Nat.zero_le _, ho, fun other hother hinside =>
    hnot.2 ⟨other, hother, hinside⟩⟩)

theorem unique (hos : LeftmostFrom t i os) (hos' : LeftmostFrom t i os') : os' = os := by
  -- What is in the lists up to a place decides which occurrences at that place are.
  have hmem : ∀ n, ∀ o : Occurrence, o.start < n → (o ∈ os' ↔ o ∈ os) := by
    intro n
    induction n with
    | zero => exact fun o ho => absurd ho (Nat.not_lt_zero _)
    | succ n ih =>
      intro o ho
      have hsame : ∀ other, o.StartsInside other → (other ∈ os' ↔ other ∈ os) :=
        fun other hinside => ih other (Nat.lt_of_lt_of_le hinside.1 (Nat.le_of_lt_succ ho))
      rw [hos.mem_iff, hos'.mem_iff]
      refine and_congr_right fun _ => and_congr_right fun _ => forall_congr' fun other => ?_
      exact ⟨fun h hm hinside => h ((hsame other hinside).2 hm) hinside,
        fun h hm hinside => h ((hsame other hinside).1 hm) hinside⟩
  exact hos'.disjoint.eq_of_mem_iff hos.disjoint fun o => hmem (o.start + 1) o (Nat.lt_succ_self _)

end LeftmostFrom

/-- From every place on, the scan picks the leftmost disjoint occurrences. -/
theorem exists_leftmostFrom (t : Text) (i : Nat) :
    ∃ os, LeftmostFrom t i os ∧ literals (t.drop i) = os.map fun o => o.clause.literal := by
  -- The place moves on, by a whole clause or by one character.
  induction hn : t.length - i using Nat.strongRecOn generalizing i with
  | _ n ih =>
    subst hn
    by_cases hi : t.length ≤ i
    · exact ⟨[], LeftmostFrom.nil hi, by rw [List.drop_eq_nil_of_le hi]; rfl⟩
    · by_cases hk : ∃ k : Clause, k.text <+: t.drop i
      · obtain ⟨k, hk⟩ := hk
        have hlength : 0 < k.text.length := List.length_pos_iff.2 k.text_ne_nil
        obtain ⟨os, hos, hliterals⟩ := ih _ (by omega) (i + k.text.length) rfl
        refine ⟨⟨i, k⟩ :: os, hos.cons hk, ?_⟩
        rw [literals_of_clause hk, List.drop_drop, hliterals]
        rfl
      · obtain ⟨os, hos, hliterals⟩ := ih _ (by omega) (i + 1) rfl
        refine ⟨os, hos.skip (not_exists.1 hk), ?_⟩
        rw [List.drop_eq_getElem_cons (Nat.lt_of_not_le hi)] at hk ⊢
        rw [literals_cons (not_exists.1 hk), hliterals]

theorem literals_ne_nil {l : Text} (h : l ∈ literals t) : l ≠ [] := by
  obtain ⟨os, -, hliterals⟩ := exists_leftmostFrom t 0
  rw [List.drop_zero] at hliterals
  rw [hliterals] at h
  obtain ⟨o, -, rfl⟩ := List.mem_map.1 h
  exact o.clause.literal_ne_nil

/-! ## Clauses and gaps -/

/-- Clauses with a text before each, and a text after the last. -/
def woven : List (Text × Clause) → Text → Text
  | [], last => last
  | (gap, k) :: parts, last => gap ++ (k.text ++ woven parts last)

theorem exists_reverse_keyword {w : Text} (hw : w ∈ keywords) :
    ∃ x xs, w.reverse = x :: xs ∧ isBlank x = false := by
  rcases List.mem_cons.1 hw with rfl | hw
  · exact ⟨'t', _, rfl, by decide⟩
  · rw [List.mem_singleton.1 hw]
    exact ⟨'m', _, rfl, by decide⟩

/-- The blanks before a quote end at the keyword, so they are the same for all that end there. -/
theorem keyword_eq_append {gap : Text} {k k' : Clause}
    (h : k'.keyword ++ k'.blanks = gap ++ (k.keyword ++ k.blanks)) :
    k'.keyword = gap ++ k.keyword := by
  obtain ⟨x, xs, hx, hxb⟩ := exists_reverse_keyword k.keyword_mem
  obtain ⟨y, ys, hy, hyb⟩ := exists_reverse_keyword k'.keyword_mem
  have hreverse := congrArg List.reverse h
  simp only [List.reverse_append, hx, hy, List.append_assoc, List.cons_append] at hreverse
  obtain ⟨-, hxy, hrest⟩ := eq_of_append_cons (p := fun c => !isBlank c)
    (fun c hc => by simp [k'.isBlank_of_mem (List.mem_reverse.1 hc)])
    (fun c hc => by simp [k.isBlank_of_mem (List.mem_reverse.1 hc)])
    (by simp [hyb]) (by simp [hxb]) hreverse
  apply List.reverse_injective
  rw [List.reverse_append, hx, hy, hxy, hrest, List.cons_append]

/-- Before a clause that follows a text without quotes, no other one begins. -/
theorem gap_eq_nil {gap : Text} {k k' : Clause} (hgap : gap.any isQuote = false)
    (h : k'.text <+: gap ++ (k.text ++ r)) : gap = [] := by
  obtain ⟨s, hs⟩ := h
  rw [k.text_append, k'.text_append, ← List.append_assoc] at hs
  have hlead : ∀ c ∈ gap ++ (k.keyword ++ k.blanks), isQuote c = false := by
    intro c hc
    rcases List.mem_append.1 hc with hc | hc
    · exact not_any_iff.1 hgap c hc
    · exact k.isQuote_lead c hc
  obtain ⟨hcut, -⟩ :=
    eq_of_append_cons k'.isQuote_lead hlead k'.opening_quote k.opening_quote hs
  exact eq_nil_of_keywords k.keyword_mem k'.keyword_mem (keyword_eq_append hcut)

theorem literals_gap {gap : Text} (k : Clause) (hgap : gap.any isQuote = false) :
    literals (gap ++ (k.text ++ r)) = k.literal :: literals r := by
  induction gap with
  | nil =>
    rw [List.nil_append, literals_of_clause (List.prefix_append k.text r), List.drop_left]
  | cons c cs ih =>
    rw [List.cons_append, literals_cons, ih (Bool.or_eq_false_iff.1 hgap).2]
    intro k' hk'
    exact List.cons_ne_nil c cs (gap_eq_nil hgap hk')

theorem literals_eq_nil {last : Text} (h : last.any isQuote = false) : literals last = [] := by
  induction last with
  | nil => rfl
  | cons c cs ih =>
    rw [literals_cons, ih (Bool.or_eq_false_iff.1 h).2]
    rintro k ⟨r, hr⟩
    rw [k.text_append] at hr
    have hq := not_any_iff.1 h k.opening (by rw [← hr]; simp)
    rw [k.opening_quote] at hq
    cases hq

theorem literals_woven {parts : List (Text × Clause)} {last : Text}
    (hparts : ∀ p ∈ parts, p.1.any isQuote = false) (hlast : last.any isQuote = false) :
    literals (woven parts last) = parts.map fun p => p.2.literal := by
  induction parts with
  | nil => exact literals_eq_nil hlast
  | cons p ps ih =>
    obtain ⟨gap, k⟩ := p
    rw [List.map_cons, ← ih fun q hq => hparts q (List.mem_cons_of_mem _ hq)]
    exact literals_gap k (hparts (gap, k) List.mem_cons_self)

/-! ## The literals of a text -/

/-- The literals of a text are those of its leftmost disjoint import clauses, in order, and there is
no other choice of such clauses. -/
theorem literals_leftmost (t : Text) :
    (∃ os : List Occurrence, literals t = os.map (fun o => o.clause.literal) ∧
      os.Pairwise Occurrence.Before ∧
      (∀ o, o ∈ os ↔ o.In t ∧ ∀ other ∈ os, ¬ o.StartsInside other) ∧
      (∀ o, o.In t → o ∈ os ∨ ∃ other ∈ os, o.StartsInside other) ∧
      ∀ os', LeftmostFrom t 0 os' → os' = os) ∧
    (∀ o other : Occurrence, o.In t → other.In t → o.start = other.start → o = other) ∧
    (∀ parts last, t = woven parts last → (∀ p ∈ parts, p.1.any isQuote = false) →
      last.any isQuote = false → literals t = parts.map fun p => p.2.literal) := by
  refine ⟨?_, fun o other => Occurrence.eq_of_start_eq, ?_⟩
  · obtain ⟨os, hos, hliterals⟩ := exists_leftmostFrom t 0
    refine ⟨os, hliterals, hos.disjoint, fun o => ?_, fun o => hos.mem_or_startsInside,
      fun os' => hos.unique⟩
    rw [hos.mem_iff]
    exact and_iff_right (Nat.zero_le _)
  · rintro parts last rfl hparts hlast
    exact literals_woven hparts hlast

/-- The clause `from 'vue'`. -/
def vueClause : Clause where
  keyword := ofString "from"
  blanks := [' ']
  opening := '\''
  literal := ofString "vue"
  closing := '\''
  keyword_mem := by decide
  blanks_ne_nil := by decide
  blank := by decide
  opening_quote := by decide
  literal_ne_nil := by decide
  no_quote := by decide
  closing_quote := by decide

/-- A clause over three lines whose quotes differ. -/
def threeLineClause : Clause where
  keyword := ofString "import"
  blanks := ofString "\t\n"
  opening := '"'
  literal := ofString "from \n./a"
  closing := '\''
  keyword_mem := by decide
  blanks_ne_nil := by decide
  blank := by decide
  opening_quote := by decide
  literal_ne_nil := by decide
  no_quote := by decide
  closing_quote := by decide

theorem literals_leftmost_three_lines :
    let parts := [(ofString "import x ", vueClause), (ofString "; import from", threeLineClause)]
    let last := ofString " from"
    (∀ p ∈ parts, p.1.any isQuote = false) ∧ last.any isQuote = false ∧
      literals (woven parts last) = [ofString "vue", ofString "from \n./a"] ∧
      (Occurrence.mk 9 vueClause).In (woven parts last) ∧
      ∀ other : Occurrence, other.In (woven parts last) → other.start = 9 →
        other = ⟨9, vueClause⟩ := by
  intro parts last
  obtain ⟨-, hone, hwoven⟩ := literals_leftmost (woven parts last)
  have hin : (Occurrence.mk 9 vueClause).In (woven parts last) := by decide
  exact ⟨by decide, by decide, hwoven parts last rfl (by decide) (by decide), hin,
    fun other hother hstart => hone other ⟨9, vueClause⟩ hother hin hstart⟩

/-- A clause that begins inside another one does not count. -/
example : literals (ofString "from 'a import \"b\"") = [ofString "a import "] := by decide

end ComponentManifest.Imports
