import ComponentManifest.Proofs.AliasResolution
import Mathlib.Data.List.Forall2
import Mathlib.Data.List.Pairwise
import Mathlib.Data.List.Perm.Basic

/-!
# The order of a table

The order of a table decides only between keys of which one lies within the other at a slash.
Without such keys a table is a set of aliases: a literal with a name is caught by one alias at most,
and where two catch a literal, one key is the other with a line feed after it and neither gives an
address.

1. `Alias.Apart`, two keys of which none lies within the other.
2. `Alias.Apart.newline`: how both can catch one literal.
3. `AliasTable.resolve_eq_map_some_iff`: the addresses of such a table, without its order.
4. `AliasTable.resolve_in_any_order`: the whole rule.
-/

namespace ComponentManifest

open Text (ofString)

/-! ## Two aliases -/

namespace Alias

variable {a b : Alias} {t n : Text}

/-- The keys differ, and none goes on with a slash in the other. -/
structure Apart (a b : Alias) : Prop where
  ne : a.key ≠ b.key
  left : ¬ a.key ++ ['/'] <+: b.key
  right : ¬ b.key ++ ['/'] <+: a.key

instance : Std.Symm Apart := ⟨fun _ _ h => ⟨h.ne.symm, h.right, h.left⟩⟩

instance (a b : Alias) : Decidable (a.Apart b) :=
  decidable_of_iff (a.key ≠ b.key ∧ ¬ a.key ++ ['/'] <+: b.key ∧ ¬ b.key ++ ['/'] <+: a.key)
    ⟨fun ⟨hne, hl, hr⟩ => ⟨hne, hl, hr⟩, fun h => ⟨h.ne, h.left, h.right⟩⟩

theorem catches_slash (a : Alias) (n : Text) : a.Catches (a.key ++ '/' :: n) :=
  catches_append.2 (Or.inr (Or.inr ⟨n, rfl⟩))

/-- A literal that goes on with a slash after one key is not caught by the other. -/
theorem Apart.not_catches (h : a.Apart b) : ¬ b.Catches (a.key ++ '/' :: n) := by
  have ha : a.key ++ ['/'] <+: a.key ++ '/' :: n :=
    (List.prefix_append_right_inj a.key).2 (List.prefix_append ['/'] n)
  rintro (he | he | hb)
  · exact h.left (he ▸ ha)
  · rw [he] at ha
    rcases List.prefix_concat_iff.1 ha with he | ha
    · cases (List.append_inj' he rfl).2
    · exact h.left ha
  · -- Both keys with their slashes begin the literal, so one of them begins the other.
    rcases List.prefix_or_prefix_of_prefix ha hb with hab | hba
    · rcases List.prefix_concat_iff.1 hab with he | hab
      · exact h.ne (List.append_inj' he rfl).1
      · exact h.left hab
    · rcases List.prefix_concat_iff.1 hba with he | hba
      · exact h.ne (List.append_inj' he rfl).1.symm
      · exact h.right hba

/-- Both can catch a literal only at the line feed that may follow a key. -/
theorem Apart.newline (h : a.Apart b) (ha : a.Catches t) (hb : b.Catches t) :
    t = a.key ∧ a.key = b.key ++ ['\n'] ∨ t = b.key ∧ b.key = a.key ++ ['\n'] := by
  have hplain : ∀ {x y : Alias}, x.Apart y → x.Catches t → y.Catches t →
      t = x.key ∨ t = x.key ++ ['\n'] := by
    intro x y hxy hx hy
    rcases hx with hx | hx | ⟨n, rfl⟩
    · exact Or.inl hx
    · exact Or.inr hx
    · rw [List.append_assoc] at hy
      exact absurd hy hxy.not_catches
  rcases hplain h ha hb with hta | hta <;> rcases hplain (symm h) hb ha with htb | htb
  · exact absurd (hta.symm.trans htb) h.ne
  · exact Or.inl ⟨hta, hta.symm.trans htb⟩
  · exact Or.inr ⟨htb, htb.symm.trans hta⟩
  · exact absurd (List.append_inj' (hta.symm.trans htb) rfl).1 h.ne

theorem Apart.rest_eq_nil (h : a.Apart b) (ha : a.Catches t) (hb : b.Catches t) :
    a.rest t = [] := by
  rw [rest_eq_nil_iff ha]
  rintro ⟨n, -, rfl⟩
  exact h.not_catches hb

end Alias

/-! ## Tables -/

namespace AliasTable

variable {table table' : AliasTable} {a b : Alias} {t : Text} {r : Except Fault Text}
  {ms ms' : Members}

/-- No two keys of the table lie within one another. -/
def Unnested (table : AliasTable) : Prop := table.Pairwise Alias.Apart

theorem resolve_cons (ha : a.Catches t) (after : AliasTable) :
    resolve (a :: after) t =
      if a.rest t = [] then .ok none else (a.url (a.rest t)).map some := by
  show resolve ([] ++ a :: after) t = _
  exact resolve_append_cons (fun _ hb => absurd hb List.not_mem_nil) ha

theorem ok_none_ne_map_some : (.ok none : Except Fault (Option Text)) ≠ r.map some := by
  cases r <;> simp [Except.map]

theorem map_some_inj {r' : Except Fault Text} : r.map some = r'.map some ↔ r = r' := by
  cases r <;> cases r' <;> simp [Except.map]

/-- A table without nested keys gives the addresses of its aliases, whatever their order. -/
theorem resolve_eq_map_some_iff (h : table.Unnested) :
    table.resolve t = r.map some ↔
      ∃ a ∈ table, ∃ n, n ≠ [] ∧ t = a.key ++ '/' :: n ∧ a.url n = r := by
  induction table with
  | nil => simpa [resolve] using ok_none_ne_map_some
  | cons a as ih =>
    obtain ⟨ha, has⟩ := List.pairwise_cons.1 h
    by_cases hc : a.Catches t
    · have honly : ∀ b ∈ as, ∀ n, t ≠ b.key ++ '/' :: n := by
        rintro b hb n rfl
        exact (symm (ha b hb) : b.Apart a).not_catches hc
      rw [resolve_cons hc]
      constructor
      · intro hu
        split at hu
        · exact absurd hu ok_none_ne_map_some
        · next hne =>
          obtain ⟨n, hn, rfl⟩ := not_not.1 (mt (Alias.rest_eq_nil_iff hc).2 hne)
          rw [Alias.rest_slash] at hu
          exact ⟨a, List.mem_cons_self, n, hn, rfl, map_some_inj.1 hu⟩
      · rintro ⟨b, hb, n, hn, rfl, rfl⟩
        rcases List.mem_cons.1 hb with rfl | hb
        · rw [Alias.rest_slash, if_neg hn]
        · exact absurd rfl (honly b hb n)
    · rw [resolve, if_neg (mt Alias.matchesLiteral_iff.1 hc), ih has]
      have hother : ∀ n, t ≠ a.key ++ '/' :: n := by
        rintro n rfl
        exact hc (a.catches_slash n)
      simp [hother]

theorem resolve_perm (h : table.Unnested) (hp : table.Perm table') (t : Text) :
    table'.resolve t = table.resolve t := by
  have h' : table'.Unnested := hp.pairwise h fun hab => symm hab
  have hsame : ∀ r : Except Fault Text,
      table'.resolve t = r.map some ↔ table.resolve t = r.map some := by
    intro r
    rw [resolve_eq_map_some_iff h, resolve_eq_map_some_iff h']
    simp only [hp.mem_iff]
  rcases hr : table.resolve t with e | _ | u
  · exact (hsame (.error e)).2 hr
  · rcases hr' : table'.resolve t with e | _ | u
    · exact absurd (hr.symm.trans ((hsame (.error e)).1 hr')) ok_none_ne_map_some
    · rfl
    · exact absurd (hr.symm.trans ((hsame (.ok u)).1 hr')) ok_none_ne_map_some
  · exact (hsame (.ok u)).2 hr

theorem ofMembers_eq_ok_iff_forall₂ :
    ofMembers ms = .ok table ↔ List.Forall₂ (fun m a => Alias.ofJson m.1 m.2 = .ok a) ms table := by
  induction ms generalizing table with
  | nil => cases table <;> simp [ofMembers]
  | cons m ms ih =>
    unfold ofMembers
    simp only [except_bind_eq_ok, List.forall₂_cons_left_iff, ih]
    constructor
    · rintro ⟨a, ha, as, has, h⟩
      exact ⟨a, as, ha, has, (Except.ok.inj h).symm⟩
    · rintro ⟨a, as, ha, has, rfl⟩
      exact ⟨a, ha, as, has, rfl⟩

/-- Entries in another order make a table in this order. -/
theorem exists_ofMembers_perm (h : ofMembers ms = .ok table) (hp : ms.Perm ms') :
    ∃ table', ofMembers ms' = .ok table' ∧ table.Perm table' := by
  obtain ⟨table', hread, htable⟩ :=
    List.perm_comp_forall₂ hp.symm (ofMembers_eq_ok_iff_forall₂.1 h)
  exact ⟨table', ofMembers_eq_ok_iff_forall₂.2 hread, htable.symm⟩

/-- In a table without nested keys neither the order of the aliases matters nor that of the entries
in a configuration. -/
theorem resolve_in_any_order (h : table.Unnested) :
    (∀ table' : AliasTable, table.Perm table' → ∀ t, table'.resolve t = table.resolve t) ∧
    (∀ ms ms' : Members, ofMembers ms = .ok table → ms.Perm ms' →
      ∃ table', ofMembers ms' = .ok table' ∧ ∀ t, table'.resolve t = table.resolve t) ∧
    (∀ t (r : Except Fault Text), table.resolve t = r.map some ↔
      ∃ a ∈ table, ∃ n, n ≠ [] ∧ t = a.key ++ '/' :: n ∧ a.url n = r) ∧
    ∀ a ∈ table, ∀ b ∈ table, a ≠ b → ∀ t, a.matchesLiteral t = true → b.matchesLiteral t = true →
      (t = a.key ∧ a.key = b.key ++ ['\n'] ∨ t = b.key ∧ b.key = a.key ++ ['\n']) ∧
      resolve [a] t = .ok none ∧ resolve [b] t = .ok none ∧ table.resolve t = .ok none := by
  refine ⟨fun table' => resolve_perm h, fun ms ms' hms hp => ?_, 
    fun t r => resolve_eq_map_some_iff h,
    fun a ha b hb hne t hat hbt => ?_⟩
  · obtain ⟨table', htable', hperm⟩ := exists_ofMembers_perm hms hp
    exact ⟨table', htable', resolve_perm h hperm⟩
  · have hapart : ∀ x ∈ table, ∀ y ∈ table, x ≠ y → x.Apart y := fun x hx y hy =>
      List.Pairwise.forall h hx hy
    have hab := hapart a ha b hb hne
    have hca := Alias.matchesLiteral_iff.1 hat
    have hcb := Alias.matchesLiteral_iff.1 hbt
    refine ⟨hab.newline hca hcb, ?_, ?_, ?_⟩
    · rw [resolve_cons hca, if_pos (hab.rest_eq_nil hca hcb)]
    · rw [resolve_cons hcb, if_pos (Alias.Apart.rest_eq_nil (symm hab) hcb hca)]
    · -- An alias that gave an address would be apart from one of the two.
      have hnone : ∀ r : Except Fault Text, table.resolve t ≠ r.map some := by
        intro r hr
        obtain ⟨x, hx, n, -, rfl, -⟩ := (resolve_eq_map_some_iff h).1 hr
        by_cases hxa : x = a
        · subst hxa
          exact hab.not_catches hcb
        · exact (hapart x hx a ha hxa).not_catches hca
      rcases hr : table.resolve t with e | _ | u
      · exact absurd hr (hnone (.error e))
      · rfl
      · exact absurd hr (hnone (.ok u))

/-- An alias whose key is that of another one with a line feed after it, and a third one whose key
begins with the other without a slash. -/
def lineFeedTable : AliasTable :=
  [Alias.make (ofString "@a") (ofString "https://a.test/\x7bname\x7d") [] [],
    Alias.make (ofString "@a\n") (ofString "https://n.test/\x7bname\x7d") [] [],
    Alias.make (ofString "@ab") (ofString "https://ab.test/\x7bname\x7d") [] []]

theorem resolve_in_any_order_line_feed :
    lineFeedTable.Unnested ∧ lineFeedTable.Perm lineFeedTable.reverse ∧
      lineFeedTable.resolve (ofString "@a/x") = .ok (some (ofString "https://a.test/x")) ∧
      resolve lineFeedTable.reverse (ofString "@a/x") =
        .ok (some (ofString "https://a.test/x")) ∧
      (∀ a ∈ lineFeedTable, a.matchesLiteral (ofString "@a\n") = true ↔ a.key ≠ ofString "@ab") ∧
      lineFeedTable.resolve (ofString "@a\n") = .ok none ∧
      resolve lineFeedTable.reverse (ofString "@a\n") = .ok none := by
  have hun : lineFeedTable.Unnested := by
    unfold Unnested
    decide +kernel
  have hperm : lineFeedTable.Perm lineFeedTable.reverse := (List.reverse_perm _).symm
  obtain ⟨horder, -, haddress, hboth⟩ := resolve_in_any_order hun
  have hx : lineFeedTable.resolve (ofString "@a/x") = .ok (some (ofString "https://a.test/x")) :=
    (haddress _ (.ok _)).2 ⟨_, List.mem_cons_self, ofString "x", by decide +kernel, by decide +kernel,
      by decide +kernel⟩
  have hn : lineFeedTable.resolve (ofString "@a\n") = .ok none :=
    (hboth _ List.mem_cons_self _ (List.mem_cons_of_mem _ List.mem_cons_self) (by decide +kernel) _
      (by decide +kernel) (by decide +kernel)).2.2.2
  refine ⟨hun, hperm, hx, ?_, by decide +kernel, hn, ?_⟩
  · rw [horder _ hperm, hx]
  · rw [horder _ hperm, hn]

end AliasTable

end ComponentManifest
