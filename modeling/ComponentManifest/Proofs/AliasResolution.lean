import ComponentManifest.Proofs.QueryParameters
import Mathlib.Data.List.Infix

/-!
# Resolving a literal with an alias table

A table is tried in order. The first alias whose key stands for whole segments at the beginning of a
literal decides alone: it gives an address if a name follows the key, and none otherwise. Only
parameters that cannot be written make it fail.

1. `Text.replacedOnce_replaceFirst`: the name is put into the template once.
2. `Alias.matchesLiteral_iff`: which literals the key of an alias catches.
3. `AliasTable.resolve_append_cons`: the first alias that catches a literal decides.
4. `AliasTable.resolve_first_match`: the whole rule.
-/

namespace ComponentManifest

open Text (ofString)

/-! ## Replacing once -/

namespace Text

/-- The text `u` is `t` with its first `old` replaced by `new`. A `t` without any `old` stays as it
is. What stands around the replaced part is not looked at again. -/
def ReplacedOnce (old new t u : Text) : Prop :=
  (¬ old <:+: t ∧ u = t) ∨
    ∃ before after, t = before ++ (old ++ after) ∧ u = before ++ (new ++ after) ∧
      ∀ b a, t = b ++ (old ++ a) → before.length ≤ b.length

theorem replacedOnce_replaceFirst {old : Text} (hold : old ≠ []) (new t : Text) :
    ReplacedOnce old new t (replaceFirst old new t) := by
  induction t with
  | nil => exact Or.inl ⟨fun h => hold (List.infix_nil.1 h), rfl⟩
  | cons c cs ih =>
    unfold replaceFirst
    cases hprefix : old.isPrefixOf? (c :: cs) with
    | some rest =>
      have hcut := List.isPrefixOf?_eq_some_iff_append_eq.1 hprefix
      exact Or.inr ⟨[], rest, hcut.symm, rfl, fun b a _ => Nat.zero_le b.length⟩
    | none =>
      have hnot : ∀ a, c :: cs ≠ old ++ a := by
        intro a ha
        rw [List.isPrefixOf?_eq_some_iff_append_eq.2 ha.symm] at hprefix
        cases hprefix
      rcases ih with ⟨hfree, hsame⟩ | ⟨before, after, hcs, hreplaced, hfirst⟩
      · refine Or.inl ⟨fun h => ?_, by rw [hsame]⟩
        rcases List.infix_cons_iff.1 h with ⟨a, ha⟩ | h
        · exact hnot a ha.symm
        · exact hfree h
      · refine Or.inr ⟨c :: before, after, by rw [hcs]; rfl, by rw [hreplaced]; rfl, ?_⟩
        intro b a h
        cases b with
        | nil => exact absurd h (hnot a)
        | cons d ds => exact Nat.succ_le_succ (hfirst ds a (List.cons.inj h).2)

end Text

/-! ## Keys -/

namespace Alias

variable {a : Alias} {t : Text}

/-- A key catches itself, alone or with a single line feed after it, and all that goes on with a
slash. -/
def Catches (a : Alias) (t : Text) : Prop :=
  t = a.key ∨ t = a.key ++ ['\n'] ∨ a.key ++ ['/'] <+: t

instance (a : Alias) (t : Text) : Decidable (a.Catches t) :=
  inferInstanceAs (Decidable (_ ∨ _ ∨ _))

theorem catches_append {r : Text} :
    a.Catches (a.key ++ r) ↔ r = [] ∨ r = ['\n'] ∨ ∃ n, r = '/' :: n := by
  unfold Catches
  rw [List.append_right_eq_self, List.append_right_inj, List.prefix_append_right_inj]
  refine or_congr_right (or_congr_right ?_)
  exact ⟨fun ⟨n, hn⟩ => ⟨n, hn.symm⟩, fun ⟨n, hn⟩ => ⟨n, hn.symm⟩⟩

theorem prefix_of_catches (h : a.Catches t) : a.key <+: t := by
  rcases h with rfl | rfl | h
  · exact List.prefix_rfl
  · exact List.prefix_append _ _
  · exact (List.prefix_append _ _).trans h

/-- The characters of a key are compared one by one, whatever they are. -/
theorem matchesLiteral_iff : a.matchesLiteral t = true ↔ a.Catches t := by
  unfold matchesLiteral
  cases hprefix : a.key.isPrefixOf? t with
  | none =>
    refine iff_of_false Bool.false_ne_true fun h => ?_
    obtain ⟨r, hr⟩ := prefix_of_catches h
    rw [List.isPrefixOf?_eq_some_iff_append_eq.2 hr] at hprefix
    cases hprefix
  | some r =>
    obtain rfl := List.isPrefixOf?_eq_some_iff_append_eq.1 hprefix
    rw [catches_append]
    rcases r with _ | ⟨c, _ | ⟨d, cs⟩⟩
    · simp
    · by_cases hc : c = '/'
      · simp [hc]
      · by_cases hn : c = '\n'
        · simp [hn]
        · simp [hc, hn]
    · by_cases hc : c = '/'
      · simp [hc]
      · simp [hc]

theorem rest_slash (a : Alias) (n : Text) : a.rest (a.key ++ '/' :: n) = n := by
  unfold rest
  rw [← List.drop_drop, List.drop_left]
  rfl

/-- The key is cut off by its length, which leaves a name only after a slash. -/
theorem rest_eq_nil_iff (h : a.Catches t) :
    a.rest t = [] ↔ ¬ ∃ n, n ≠ [] ∧ t = a.key ++ '/' :: n := by
  obtain ⟨r, rfl⟩ := prefix_of_catches h
  constructor
  · rintro hnil ⟨n, hn, hr⟩
    rw [hr, rest_slash] at hnil
    exact hn hnil
  · intro hno
    rcases catches_append.1 h with rfl | rfl | ⟨n, rfl⟩
    · unfold rest
      exact List.drop_eq_nil_of_le (by simp)
    · unfold rest
      exact List.drop_eq_nil_of_le (by simp)
    · rw [rest_slash]
      exact not_not.1 fun hn => hno ⟨n, hn, rfl⟩

/-- The name takes the first place that the template has for it, and the parameters follow. -/
theorem exists_url (h : a.Sendable) (name : Text) :
    ∃ u, Text.ReplacedOnce placeholder name a.template u ∧ a.url name = .ok (u ++ a.tail) :=
  ⟨_, Text.replacedOnce_replaceFirst (by decide) name a.template, url_eq_ok_iff.2 ⟨h, rfl⟩⟩

theorem url_of_not_sendable (h : ¬ a.Sendable) (name : Text) :
    ∃ position halves, a.url name = .error (.unencodable position halves) := by
  have hparams : a.params.isEmpty = false := by
    rcases hp : a.params with _ | ⟨p, ps⟩
    · exact absurd (by unfold Sendable; simp [hp]) h
    · rfl
  rcases hq : Text.formQuery a.params with ⟨position, halves⟩ | q
  · refine ⟨position, halves, ?_⟩
    unfold url query
    rw [hparams, hq]
    rfl
  · exact absurd (Text.formQuery_eq_ok_iff.1 hq).1 h

end Alias

/-! ## Tables -/

namespace AliasTable

variable {table before after : AliasTable} {a : Alias} {t : Text}

theorem resolve_eq_none (h : ∀ a ∈ table, ¬ a.Catches t) : table.resolve t = .ok none := by
  induction table with
  | nil => rfl
  | cons a as ih =>
    unfold resolve
    rw [if_neg fun hm => h a List.mem_cons_self (Alias.matchesLiteral_iff.1 hm)]
    exact ih fun b hb => h b (List.mem_cons_of_mem a hb)

/-- The first alias that catches a literal decides, whatever comes after it. -/
theorem resolve_append_cons (hbefore : ∀ b ∈ before, ¬ b.Catches t) (ha : a.Catches t) :
    resolve (before ++ a :: after) t =
      if a.rest t = [] then .ok none else (a.url (a.rest t)).map some := by
  induction before with
  | nil =>
    rw [List.nil_append, resolve, if_pos (Alias.matchesLiteral_iff.2 ha)]
    simp only [List.isEmpty_iff]
  | cons b bs ih =>
    rw [List.cons_append, resolve,
      if_neg fun hm => hbefore b List.mem_cons_self (Alias.matchesLiteral_iff.1 hm)]
    exact ih fun d hd => hbefore d (List.mem_cons_of_mem b hd)

/-- The table has an alias whose parameters cannot be written, which is what the fault tells. -/
def Spoils (table : AliasTable) (e : Fault) : Prop :=
  (∃ a ∈ table, ¬ a.Sendable) ∧ ∃ position halves, e = .unencodable position halves

theorem spoils_of_resolve {e : Fault} (h : table.resolve t = .error e) : table.Spoils e := by
  induction table with
  | nil => cases h
  | cons a as ih =>
    unfold resolve at h
    split at h
    · dsimp only at h
      split at h
      · cases h
      have hurl := except_map_eq_error.1 h
      have hlost : ¬ a.Sendable := by
        intro hsend
        rw [Alias.url_eq_ok_iff.2 ⟨hsend, rfl⟩] at hurl
        cases hurl
      obtain ⟨position, halves, he⟩ := Alias.url_of_not_sendable hlost (a.rest t)
      rw [he] at hurl
      exact ⟨⟨a, List.mem_cons_self, hlost⟩, position, halves, (Except.error.inj hurl).symm⟩
    · obtain ⟨⟨b, hb, hlost⟩, he⟩ := ih h
      exact ⟨⟨b, List.mem_cons_of_mem a hb, hlost⟩, he⟩

/-- The keys of a table are the normal forms of the given ones, in the given order. -/
theorem keys_of_ofMembers {ms : Members} (h : ofMembers ms = .ok table) :
    table.map Alias.key = ms.map fun m => Unicode.nfkc m.1 := by
  have hkey : ∀ (key : Text) (v : Json) (a : Alias), Alias.ofJson key v = .ok a →
      a.key = Unicode.nfkc key := by
    intro key v a ha
    unfold Alias.ofJson at ha
    split at ha
    · cases ha
      rfl
    · split at ha
      · simp only [except_bind_eq_ok] at ha
        obtain ⟨params, -, headers, -, ha⟩ := ha
        cases ha
        rfl
      · cases ha
    · cases ha
  induction ms generalizing table with
  | nil =>
    cases h
    rfl
  | cons m ms ih =>
    unfold ofMembers at h
    simp only [except_bind_eq_ok] at h
    obtain ⟨a, ha, as, has, h⟩ := h
    cases h
    rw [List.map_cons, List.map_cons, hkey _ _ _ ha, ih has]

/-- The first alias that catches a literal decides: there is an address exactly if a name follows
the key and a slash, unless the parameters of that alias cannot be written. -/
theorem resolve_first_match (table : AliasTable) (t : Text) :
    ((∀ a ∈ table, ¬ a.Catches t) → table.resolve t = .ok none) ∧
    (∀ before a after, table = before ++ a :: after → (∀ b ∈ before, ¬ b.Catches t) →
      a.Catches t →
      (table.resolve t = .ok none ↔ ¬ ∃ n, n ≠ [] ∧ t = a.key ++ '/' :: n) ∧
      (∀ n, n ≠ [] → t = a.key ++ '/' :: n →
        (a.Sendable → ∃ u, Text.ReplacedOnce Alias.placeholder n a.template u ∧
          table.resolve t = .ok (some (u ++ a.tail))) ∧
        (¬ a.Sendable →
          ∃ position halves, table.resolve t = .error (.unencodable position halves))) ∧
      ∀ more, resolve (table ++ more) t = table.resolve t) ∧
    (∀ (a : Alias) c r, c ≠ '/' → c :: r ≠ ['\n'] → ¬ a.Catches (a.key ++ c :: r)) ∧
    ∀ ms, ofMembers ms = .ok table → table.map Alias.key = ms.map fun m => Unicode.nfkc m.1 := by
  refine ⟨resolve_eq_none, ?_, ?_, fun ms => keys_of_ofMembers⟩
  · rintro before a after rfl hbefore ha
    have hdecides : resolve (before ++ a :: after) t = _ := resolve_append_cons hbefore ha
    refine ⟨?_, ?_, fun more => ?_⟩
    · rw [hdecides, ← Alias.rest_eq_nil_iff ha]
      cases a.url (a.rest t) <;> simp [Except.map]
    · rintro n hn rfl
      rw [hdecides, Alias.rest_slash, if_neg hn]
      constructor
      · intro hsend
        obtain ⟨u, hu, hurl⟩ := Alias.exists_url hsend n
        exact ⟨u, hu, by rw [hurl]; rfl⟩
      · intro hlost
        obtain ⟨position, halves, hurl⟩ := Alias.url_of_not_sendable hlost n
        exact ⟨position, halves, by rw [hurl]; rfl⟩
    · rw [hdecides, List.append_assoc, List.cons_append, resolve_append_cons hbefore ha]
  · intro a c r hslash hline hcatches
    rcases Alias.catches_append.1 hcatches with h | h | ⟨n, h⟩
    · exact List.cons_ne_nil c r h
    · exact hline h
    · exact hslash (List.cons.inj h).1

/-- An alias with a half of a pair in a parameter, as JSON can write it. -/
def halved : Alias :=
  Alias.make (ofString "@a") (ofString "https://x.test/\x7bname\x7d")
    [(ofString "v", [Text.half 0xD800])] []

/-- A name follows the key, but there is no address. -/
theorem halved_has_no_address :
    ofString "@a/button" = halved.key ++ '/' :: ofString "button" ∧
      resolve [halved] (ofString "@a/button") = .error (.unencodable 0 [Text.half 0xD800]) := by
  constructor
  · decide +kernel
  · decide +kernel

/-- An alias without parameters. -/
def acme : Alias :=
  Alias.make (ofString "@acme") (ofString "https://acme.test/\x7bname\x7d.json") [] []

/-- An alias with a full-width at-sign, a dot, two placeholders and a parameter. -/
def acmeCorp : Alias :=
  Alias.make (ofString "\uFF20acme.corp") (ofString "https://x.test/\x7bname\x7d/\x7bname\x7d")
    [(ofString "v", ofString "1")] []

/-- The two aliases in a configuration. -/
def acmeMembers : Members :=
  [(ofString "@acme", .str acme.template),
    (ofString "\uFF20acme.corp", .obj [(ofString "url", .str acmeCorp.template),
      (ofString "params", .obj [(ofString "v", .str (ofString "1"))])])]

theorem resolve_first_match_placeholder :
    let t := ofString "@acme.corp/\x7bname\x7d"
    ofMembers acmeMembers = .ok [acme, acmeCorp] ∧
      [acme, acmeCorp].map Alias.key = [ofString "@acme", ofString "@acme.corp"] ∧
      ¬ acme.Catches t ∧ ¬ acme.Catches (ofString "@acmecorp/x") ∧ acmeCorp.Catches t ∧
      ∃ u, Text.ReplacedOnce Alias.placeholder Alias.placeholder acmeCorp.template u ∧
        resolve [acme, acmeCorp] t = .ok (some (u ++ ofString "?v=1")) := by
  intro t
  have hmembers : ofMembers acmeMembers = .ok [acme, acmeCorp] := rfl
  have hacme : ¬ acme.Catches t := by decide +kernel
  have hcorp : acmeCorp.Catches t := by decide +kernel
  have ht : t = acmeCorp.key ++ '/' :: Alias.placeholder := by decide +kernel
  have hx : ofString "@acmecorp/x" = acme.key ++ 'c' :: ofString "orp/x" := by decide +kernel
  obtain ⟨-, hdecides, hwithin, hkeys⟩ := resolve_first_match [acme, acmeCorp] t
  have hsend : acmeCorp.Sendable := by decide +kernel
  obtain ⟨-, haddress, -⟩ := hdecides [acme] acmeCorp [] rfl (by simpa using hacme) hcorp
  obtain ⟨u, hu, hresolve⟩ := (haddress Alias.placeholder (by decide) ht).1 hsend
  refine ⟨hmembers, ?_, hacme, ?_, hcorp, u, hu, hresolve⟩
  · rw [hkeys acmeMembers hmembers]
    decide +kernel
  · rw [hx]
    exact hwithin acme 'c' (ofString "orp/x") (by decide) (by decide)

end AliasTable

end ComponentManifest
