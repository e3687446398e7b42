import ComponentManifest.Imports.Alias
import ComponentManifest.Json.Parser
import ComponentManifest.Proofs.Outcomes

/-!
# Query parameters of an address

The parameters of an alias are written behind the address as a query. A reader that cuts the query
at every `&`, cuts each part at its `=` and decodes both sides finds the same parameters again, so
the query tells all that the parameters do. Only halves of pairs cannot be written.

1. `formPairs?`, a reader for queries.
2. `IsFormChar`: the characters of a written name or value, none of which separates.
3. `formDecode?_formSpelling`: one name or value is read back.
4. `formPairs?_formParts`: the whole query is read back.
5. `Text.Whole`, and which pairs can be written.
6. `Alias.parameters_survive`: what an address tells of its parameters.
-/

namespace ComponentManifest

open Text (ofString)

namespace Text

/-! ## A reader for queries -/

/-- The bytes that a form-encoded text stands for: a plus sign is a space, a percent sign comes with
the two hexadecimal digits of a byte, and any other ASCII character is its own byte. -/
def formBytes? : Text → Option Bytes
  | [] => some []
  | '+' :: t => (formBytes? t).map (0x20 :: ·)
  | '%' :: h :: l :: t => do
    let high ← Json.hexValue? h
    let low ← Json.hexValue? l
    let bytes ← formBytes? t
    return UInt8.ofNat (high * 16 + low) :: bytes
  | c :: t =>
    if c = '%' ∨ 0x80 ≤ c.toNat then none
    else (formBytes? t).map (UInt8.ofNat c.toNat :: ·)

/-- The text that was form-encoded. -/
def formDecode? (t : Text) : Option Text := (formBytes? t).bind decodeUtf8?

/-- The name and the value of one part of a query. -/
def formPair? (part : Text) : Option (Text × Text) :=
  match part.splitOn '=' with
  | [name, value] => do
    let name ← formDecode? name
    let value ← formDecode? value
    return (name, value)
  | _ => none

/-- The pairs of a query. -/
def formPairs? (query : Text) : Option (List (Text × Text)) := (query.splitOn '&').mapM formPair?

/-! ## The characters of a query -/

/-- The characters of a form-encoded name or value. -/
def IsFormChar (c : Char) : Prop := isFormSafe c = true ∨ c = '+' ∨ c = '%'

/-- The characters of a query: ASCII letters and digits, and a few marks. -/
def IsQueryChar (c : Char) : Prop := c.isAlphanum = true ∨ c ∈ ofString "*-._+%=&"

theorem IsFormChar.isQueryChar {c : Char} (h : IsFormChar c) : IsQueryChar c := by
  rcases h with h | rfl | rfl
  · unfold isFormSafe at h
    simp only [Bool.or_eq_true, beq_iff_eq] at h
    rcases h with (((h | rfl) | rfl) | rfl) | rfl
    · exact Or.inl h
    all_goals exact Or.inr (by decide)
  · exact Or.inr (by decide)
  · exact Or.inr (by decide)

theorem IsFormChar.ne_equals {c : Char} (h : IsFormChar c) : c ≠ '=' := by
  rintro rfl
  exact absurd h (by unfold IsFormChar; decide)

theorem IsFormChar.ne_ampersand {c : Char} (h : IsFormChar c) : c ≠ '&' := by
  rintro rfl
  exact absurd h (by unfold IsFormChar; decide)

theorem isFormSafe_hexDigit : ∀ n < 16, isFormSafe (hexDigit n) = true := by decide

theorem isFormChar_formByte {b : UInt8} {c : Char} (h : c ∈ formByte b) : IsFormChar c := by
  have hb : b.toNat < 256 := b.toNat_lt
  unfold formByte at h
  dsimp only at h
  split at h
  · next hsafe =>
    rw [List.mem_singleton.1 h]
    exact Or.inl hsafe
  split at h
  · exact Or.inr (Or.inl (List.mem_singleton.1 h))
  · rcases List.mem_cons.1 h with rfl | h
    · exact Or.inr (Or.inr rfl)
    rcases List.mem_cons.1 h with rfl | h
    · exact Or.inl (isFormSafe_hexDigit _ (by omega))
    · rw [List.mem_singleton.1 h]
      exact Or.inl (isFormSafe_hexDigit _ (by omega))

theorem isFormChar_formSpelling {t : Text} {c : Char} (h : c ∈ formSpelling t) : IsFormChar c := by
  obtain ⟨b, -, hc⟩ := List.mem_flatMap.1 h
  exact isFormChar_formByte hc

/-! ## Reading back one name or value -/

/-- A safe character is ASCII and has no meaning of its own. -/
theorem isFormSafe_spec : ∀ n < 256, isFormSafe (Char.ofNat n) = true →
    (Char.ofNat n).toNat = n ∧ n < 0x80 ∧ Char.ofNat n ≠ '+' ∧ Char.ofNat n ≠ '%' := by
  decide +kernel

theorem space_of_ofNat : ∀ n < 256, Char.ofNat n = ' ' → n = 0x20 := by decide +kernel

theorem hexValue?_hexDigit : ∀ n < 16, Json.hexValue? (hexDigit n) = some n := by decide

theorem formBytes?_plain {c : Char} {t : Text} (hplus : c ≠ '+') (hpercent : c ≠ '%')
    (hascii : c.toNat < 0x80) :
    formBytes? (c :: t) = (formBytes? t).map (UInt8.ofNat c.toNat :: ·) := by
  rw [formBytes?.eq_4 c t (fun h => hplus h) (fun _ _ _ h _ => hpercent h),
    if_neg (not_or.2 ⟨hpercent, Nat.not_le.2 hascii⟩)]

/-- A written byte is read back, whatever follows it. -/
theorem formBytes?_formByte (b : UInt8) (t : Text) :
    formBytes? (formByte b ++ t) = (formBytes? t).map (b :: ·) := by
  have hb : b.toNat < 256 := b.toNat_lt
  unfold formByte
  dsimp only
  split
  · next hsafe =>
    obtain ⟨hchar, hascii, hplus, hpercent⟩ := isFormSafe_spec b.toNat hb hsafe
    rw [List.singleton_append, formBytes?_plain hplus hpercent (by rwa [hchar]), hchar,
      UInt8.ofNat_toNat]
  split
  · next hspace =>
    have hbyte : b = 0x20 := UInt8.toNat_inj.1 (space_of_ofNat b.toNat hb hspace)
    rw [List.singleton_append, formBytes?, hbyte]
  · have hvalue : b.toNat / 16 * 16 + b.toNat % 16 = b.toNat := by omega
    show formBytes? ('%' :: hexDigit (b.toNat / 16) :: hexDigit (b.toNat % 16) :: t) = _
    rw [formBytes?, hexValue?_hexDigit _ (by omega), hexValue?_hexDigit _ (by omega)]
    cases formBytes? t with
    | none => rfl
    | some bytes =>
      show some (UInt8.ofNat (b.toNat / 16 * 16 + b.toNat % 16) :: bytes) = some (b :: bytes)
      rw [hvalue, UInt8.ofNat_toNat]

theorem formBytes?_flatMap (bs : Bytes) : formBytes? (bs.flatMap formByte) = some bs := by
  induction bs with
  | nil => rfl
  | cons b bs ih => rw [List.flatMap_cons, formBytes?_formByte, ih, Option.map_some]

/-- Every name and every value is read back. -/
theorem formDecode?_formSpelling (t : Text) : formDecode? (formSpelling t) = some t := by
  unfold formDecode? formSpelling
  rw [formBytes?_flatMap, Option.bind_some, decodeUtf8?_encodeUtf8]

/-! ## Reading back a query -/

/-- The part of a query that one pair becomes. -/
def formPart (p : Text × Text) : Text := formSpelling p.1 ++ '=' :: formSpelling p.2

/-- The query that some pairs become. -/
def formParts (pairs : List (Text × Text)) : Text := joinWith ['&'] (pairs.map formPart)

theorem equals_not_mem_formSpelling (t : Text) : '=' ∉ formSpelling t :=
  fun h => (isFormChar_formSpelling h).ne_equals rfl

theorem ampersand_not_mem_formPart (p : Text × Text) : '&' ∉ formPart p := by
  intro h
  rcases List.mem_append.1 h with h | h
  · exact (isFormChar_formSpelling h).ne_ampersand rfl
  · rcases List.mem_cons.1 h with h | h
    · exact absurd h (by decide)
    · exact (isFormChar_formSpelling h).ne_ampersand rfl

theorem count_formPart (p : Text × Text) : (formPart p).count '=' = 1 := by
  unfold formPart
  rw [List.count_append, List.count_cons_self,
    List.count_eq_zero_of_not_mem (equals_not_mem_formSpelling p.1),
    List.count_eq_zero_of_not_mem (equals_not_mem_formSpelling p.2)]

theorem formPair?_formPart (p : Text × Text) : formPair? (formPart p) = some p := by
  have hcut : (formPart p).splitOn '=' = [formSpelling p.1, formSpelling p.2] := by
    unfold formPart
    rw [List.splitOn_append_cons_self, List.splitOn_eq_singleton (equals_not_mem_formSpelling p.1),
      List.splitOn_eq_singleton (equals_not_mem_formSpelling p.2)]
    rfl
  unfold formPair?
  rw [hcut]
  simp only [formDecode?_formSpelling]
  rfl

variable {pairs : List (Text × Text)}

/-- Cutting a query at its ampersands gives the parts of its pairs. -/
theorem splitOn_formParts (h : pairs ≠ []) :
    (formParts pairs).splitOn '&' = pairs.map formPart := by
  refine List.splitOn_intercalate '&' (fun part hpart => ?_) (by simpa using h)
  obtain ⟨p, -, rfl⟩ := List.mem_map.1 hpart
  exact ampersand_not_mem_formPart p

theorem formPairs?_formParts (h : pairs ≠ []) : formPairs? (formParts pairs) = some pairs := by
  have hread : ∀ ps : List (Text × Text), (ps.map formPart).mapM formPair? = some ps := by
    intro ps
    induction ps with
    | nil => rfl
    | cons p ps ih =>
      rw [List.map_cons, List.mapM_cons, formPair?_formPart, ih]
      rfl
  unfold formPairs?
  rw [splitOn_formParts h, hread]

theorem formParts_singleton (p : Text × Text) : formParts [p] = formPart p := by
  show List.intercalate ['&'] [formPart p] = formPart p
  exact List.intercalate_singleton

theorem formParts_cons_cons (p q : Text × Text) (ps : List (Text × Text)) :
    formParts (p :: q :: ps) = formPart p ++ '&' :: formParts (q :: ps) := by
  show List.intercalate ['&'] (formPart p :: formPart q :: ps.map formPart) = _
  rw [List.intercalate_cons_cons, List.append_assoc]
  rfl

theorem isQueryChar_formPart {p : Text × Text} {c : Char} (h : c ∈ formPart p) :
    IsQueryChar c := by
  rcases List.mem_append.1 h with h | h
  · exact (isFormChar_formSpelling h).isQueryChar
  · rcases List.mem_cons.1 h with rfl | h
    · exact Or.inr (by decide)
    · exact (isFormChar_formSpelling h).isQueryChar

theorem isQueryChar_formParts {c : Char} (h : c ∈ formParts pairs) : IsQueryChar c := by
  induction pairs with
  | nil => exact absurd h List.not_mem_nil
  | cons p ps ih =>
    cases ps with
    | nil => exact isQueryChar_formPart (formParts_singleton p ▸ h)
    | cons q qs =>
      rw [formParts_cons_cons] at h
      rcases List.mem_append.1 h with h | h
      · exact isQueryChar_formPart h
      · rcases List.mem_cons.1 h with rfl | h
        · exact Or.inr (by decide)
        · exact ih h

/-! ## Which pairs can be written -/

/-- No character of the text is half of a pair, so that it has an encoding. -/
def Whole (t : Text) : Prop := ∀ c ∈ t, isHalf c = false

instance (t : Text) : Decidable (Whole t) := List.decidableBAll (fun c => isHalf c = false) t

variable {t u : Text} {p : Text × Text}

theorem firstHalves?_eq_none_iff : firstHalves? t = none ↔ Whole t := by
  unfold firstHalves? firstLost? Whole
  simp

theorem formEncode_eq_ok_iff : formEncode t = .ok u ↔ Whole t ∧ u = formSpelling t := by
  unfold formEncode
  rw [← firstHalves?_eq_none_iff]
  cases firstHalves? t with
  | none => simpa using eq_comm
  | some halves => simp

theorem formPair_eq_ok_iff :
    formPair p = .ok u ↔ (Whole p.1 ∧ Whole p.2) ∧ u = formPart p := by
  unfold formPair
  simp only [except_bind_eq_ok, formEncode_eq_ok_iff]
  constructor
  · rintro ⟨_, ⟨hname, rfl⟩, _, ⟨hvalue, rfl⟩, h⟩
    exact ⟨⟨hname, hvalue⟩, (Except.ok.inj h).symm⟩
  · rintro ⟨⟨hname, hvalue⟩, rfl⟩
    exact ⟨_, ⟨hname, rfl⟩, _, ⟨hvalue, rfl⟩, rfl⟩

/-- Pairs can be written exactly if their names and values are whole. -/
theorem formQuery_eq_ok_iff : formQuery pairs = .ok u ↔
    (∀ p ∈ pairs, Whole p.1 ∧ Whole p.2) ∧ u = formParts pairs := by
  have hparts : ∀ (ps : List (Text × Text)) (us : List Text), ps.mapM formPair = .ok us ↔
      (∀ p ∈ ps, Whole p.1 ∧ Whole p.2) ∧ us = ps.map formPart := by
    intro ps
    induction ps with
    | nil => simp [pure, Except.pure, eq_comm]
    | cons p ps ih =>
      intro us
      rw [List.mapM_cons, List.forall_mem_cons, List.map_cons]
      simp only [except_bind_eq_ok, formPair_eq_ok_iff, ih]
      constructor
      · rintro ⟨_, ⟨hp, rfl⟩, _, ⟨hps, rfl⟩, h⟩
        exact ⟨⟨hp, hps⟩, (Except.ok.inj h).symm⟩
      · rintro ⟨⟨hp, hps⟩, rfl⟩
        exact ⟨_, ⟨hp, rfl⟩, _, ⟨hps, rfl⟩, rfl⟩
  unfold formQuery
  simp only [except_bind_eq_ok, hparts]
  constructor
  · rintro ⟨_, ⟨hall, rfl⟩, h⟩
    exact ⟨hall, (Except.ok.inj h).symm⟩
  · rintro ⟨hall, rfl⟩
    exact ⟨_, ⟨hall, rfl⟩, rfl⟩

end Text

namespace Alias

/-! ## Addresses -/

/-- The parameters of the alias can be written. -/
def Sendable (a : Alias) : Prop := ∀ p ∈ a.params, Text.Whole p.1 ∧ Text.Whole p.2

instance (a : Alias) : Decidable a.Sendable := inferInstanceAs (Decidable (∀ p ∈ a.params, _))

/-- What follows the address of every name: nothing, or a question mark and the parameters. -/
def tail (a : Alias) : Text := if a.params = [] then [] else '?' :: Text.formParts a.params

variable {a : Alias} {name u : Text}

theorem query_eq_ok_iff {q : Text} : a.query = .ok q ↔ a.Sendable ∧ q = a.tail := by
  unfold query tail Sendable
  by_cases hparams : a.params = []
  · simp [hparams, eq_comm]
  · rw [if_neg (by simpa using hparams), if_neg hparams]
    rcases hq : Text.formQuery a.params with ⟨n, halves⟩ | parts
    · refine iff_of_false (by simp) fun h => ?_
      rw [Text.formQuery_eq_ok_iff.2 ⟨h.1, rfl⟩] at hq
      cases hq
    · obtain ⟨hall, rfl⟩ := Text.formQuery_eq_ok_iff.1 hq
      exact ⟨fun h => ⟨hall, (Except.ok.inj h).symm⟩, fun h => congrArg Except.ok h.2.symm⟩

theorem url_eq_ok_iff : a.url name = .ok u ↔
    a.Sendable ∧ u = Text.replaceFirst placeholder name a.template ++ a.tail := by
  unfold url
  simp only [except_map_eq_ok, query_eq_ok_iff]
  constructor
  · rintro ⟨_, ⟨h, rfl⟩, rfl⟩
    exact ⟨h, rfl⟩
  · rintro ⟨h, rfl⟩
    exact ⟨_, ⟨h, rfl⟩, rfl⟩

/-- Parameters that can be written follow the address of every name as a plain query, from which
they are read back in their order. -/
theorem parameters_survive (a : Alias) (name : Text) (h : a.params ≠ []) (hsend : a.Sendable) :
    ∃ query, a.url name = .ok (Text.replaceFirst placeholder name a.template ++ '?' :: query) ∧
      (∀ c ∈ query, Text.IsQueryChar c) ∧
      (∀ part ∈ query.splitOn '&', part.count '=' = 1) ∧
      Text.formPairs? query = some a.params ∧
      ∀ (b : Alias) (name' : Text), b.params ≠ [] →
        b.url name' = .ok (Text.replaceFirst placeholder name' b.template ++ '?' :: query) →
        b.params = a.params := by
  have htail : ∀ b : Alias, b.params ≠ [] → b.tail = '?' :: Text.formParts b.params :=
    fun b hb => if_neg hb
  refine ⟨Text.formParts a.params, url_eq_ok_iff.2 ⟨hsend, by rw [htail a h]⟩,
    fun c => Text.isQueryChar_formParts, ?_, Text.formPairs?_formParts h, ?_⟩
  · intro part hpart
    rw [Text.splitOn_formParts h] at hpart
    obtain ⟨p, -, rfl⟩ := List.mem_map.1 hpart
    exact Text.count_formPart p
  · intro b name' hb hsame
    have haddress := (url_eq_ok_iff.1 hsame).2
    rw [htail b hb] at haddress
    have hquery := (List.cons.inj (List.append_cancel_left haddress)).2
    have hread := Text.formPairs?_formParts hb
    rw [← hquery, Text.formPairs?_formParts h] at hread
    exact (Option.some.inj hread).symm

/-- An alias with an empty parameter, and one made of marks that a query uses itself. -/
def marked : Alias :=
  Alias.make (ofString "@x") (ofString "https://x.test/\x7bname\x7d")
    [([], []), (ofString "\u00E9&=", ofString "%+~ \u20AC*")] []

/-- The same parameters at another address. -/
def markedElsewhere : Alias :=
  Alias.make (ofString "@acme") (ofString "https://acme.test/\x7bname\x7d.json") marked.params []

theorem parameters_survive_marks :
    let query := ofString "=&%C3%A9%26%3D=%25%2B%7E+%E2%82%AC*"
    marked.params ≠ [] ∧ marked.Sendable ∧
      marked.url (ofString "a") = .ok (ofString "https://x.test/a" ++ '?' :: query) ∧
      Text.formPairs? query = some marked.params ∧ markedElsewhere.params ≠ [] ∧
      markedElsewhere.url (ofString "z") =
        .ok (ofString "https://acme.test/z.json" ++ '?' :: query) ∧
      markedElsewhere.params = marked.params := by
  intro query
  have hparams : marked.params ≠ [] := List.cons_ne_nil _ _
  have hsend : marked.Sendable := by decide +kernel
  have hcut : Text.replaceFirst placeholder (ofString "a") marked.template =
      ofString "https://x.test/a" := by decide +kernel
  have hcut' : Text.replaceFirst placeholder (ofString "z") markedElsewhere.template =
      ofString "https://acme.test/z.json" := by decide +kernel
  have htail : marked.tail = '?' :: query := by decide +kernel
  have haddress : marked.url (ofString "a") = .ok (ofString "https://x.test/a" ++ '?' :: query) :=
    url_eq_ok_iff.2 ⟨hsend, by rw [hcut, htail]⟩
  have helsewhere : markedElsewhere.url (ofString "z") =
      .ok (ofString "https://acme.test/z.json" ++ '?' :: query) :=
    url_eq_ok_iff.2 ⟨hsend, by rw [hcut', show markedElsewhere.tail = _ from htail]⟩
  obtain ⟨query', hurl, -, -, hread, hsame⟩ :=
    parameters_survive marked (ofString "a") hparams hsend
  have hquery : query' = query := by
    rw [hurl, hcut] at haddress
    exact (List.cons.inj (List.append_cancel_left (Except.ok.inj haddress))).2
  rw [hquery] at hread hsame
  exact ⟨hparams, hsend, haddress, hread, hparams, helsewhere,
    hsame markedElsewhere (ofString "z") hparams (hcut' ▸ helsewhere)⟩

end Alias

end ComponentManifest
