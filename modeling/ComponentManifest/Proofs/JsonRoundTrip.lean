import ComponentManifest.Json.Parser
import ComponentManifest.Json.Printer
import ComponentManifest.Text.Newline

/-!
# Reading back what was written

The reader undoes the writer on every value that is made of strings, lists and objects without
repeated keys and that is not nested too deep: every escape, line break and indentation is taken
back.

1. Blanks.
2. Strings, one character at a time.
3. Values made of texts, and reading them back.
4. `comesFrom_of_mem_block`: where the characters of a written value come from.
5. Values made of texts are written without carriage returns.
6. `parse_block`, and `parse_brackets` for what is nested too deep.
-/

namespace ComponentManifest

theorem Text.unifyNewlines_of_not_mem {t : Text} (h : '\r' ∉ t) : Text.unifyNewlines t = t := by
  fun_induction Text.unifyNewlines t with
  | case1 => rfl
  | case2 cs => exact absurd List.mem_cons_self h
  | case3 c cs _ ih =>
    obtain ⟨hc, hcs⟩ := not_or.1 (mt List.mem_cons.2 h)
    rw [if_neg (Ne.symm hc), ih hcs]

namespace Json

variable {r t : Text} {v : Json} {level n room : Nat}

/-! ## Blanks -/

theorem skipSpace_cons {c : Char} (h : isSpace c = false) : skipSpace (c :: t) = c :: t :=
  List.dropWhile_cons_of_neg (by simp [h])

theorem skipSpace_newline : skipSpace (newline level ++ t) = skipSpace t := by
  have hblank : ∀ c ∈ newline level, isSpace c = true := by
    intro c hc
    rcases List.mem_cons.1 hc with rfl | hc
    · rfl
    · rw [List.eq_of_mem_replicate hc]
      rfl
  exact List.dropWhile_append_of_pos hblank

/-! ## Strings -/

theorem readString_none {a b c d : Char} (h : unit? a b c d = none) :
    readString ('\\' :: 'u' :: a :: b :: c :: d :: r) = none := by
  unfold readString
  split
  · rfl
  · next he => cases he
  · next he => cases he; rw [h]
  · next he => cases he; rw [h]
  · next hno he => cases he; exact absurd rfl (hno a b c d r rfl)
  · next hno he => cases he; exact absurd rfl (hno _ _ rfl)

/-- The escape of a unit that is in no pair stands for its character, whatever follows. -/
theorem readString_unit {a b c d : Char} {u : Nat} (hu : unit? a b c d = some u)
    (hlt : u < 0xD800) :
    readString ('\\' :: 'u' :: a :: b :: c :: d :: r) = consRead (unitChar u) (readString r) := by
  have hpair : ∀ v, pairChar? u v = none := fun v => if_neg (by omega)
  conv => lhs; unfold readString
  split
  · next he => cases he
  · next he => cases he
  · next e f g h' r' he =>
    cases he
    rw [hu]
    rcases hv : unit? e f g h' with _ | v
    · rw [readString_none hv]; rfl
    · simp only [hpair]
  · next he => cases he; rw [hu]
  · next hno he => cases he; exact absurd rfl (hno a b c d r rfl)
  · next hno he => cases he; exact absurd rfl (hno _ _ rfl)

theorem readString_escape {e x : Char} (he : escaped? e = some x) (hu : e ≠ 'u') :
    readString ('\\' :: e :: r) = consRead x (readString r) := by
  conv => lhs; unfold readString
  split
  · next h => cases h
  · next h => cases h
  · next h => cases h; exact absurd rfl hu
  · next h => cases h; exact absurd rfl hu
  · next h => cases h; rw [he]
  · next hno h => cases h; exact absurd rfl (hno _ _ rfl)

theorem readString_raw {c : Char} (hq : c ≠ '"') (hb : c ≠ '\\') (hc : ¬ c.toNat < 0x20) :
    readString (c :: r) = consRead c (readString r) := by
  conv => lhs; unfold readString
  split
  · next h => cases h
  · next h => cases h; exact absurd rfl hq
  · next h => cases h; exact absurd rfl hb
  · next h => cases h; exact absurd rfl hb
  · next h => cases h; exact absurd rfl hb
  · next h =>
    cases h
    exact if_neg (by rintro (h | h) <;> contradiction)

theorem unit?_hexadecimal : ∀ k < 0x20, (match Text.hexadecimal 4 k with
    | [a, b, c, d] => unit? a b c d == some k && unitChar k == Char.ofNat k
    | _ => false) = true := by decide

theorem readString_control {c : Char} (hc : c.toNat < 0x20) :
    readString (unitEscape c.toNat ++ r) = consRead c (readString r) := by
  have hall := unit?_hexadecimal c.toNat hc
  unfold unitEscape
  split at hall
  · next a b d e hhex =>
    obtain ⟨hu, hchar⟩ := Bool.and_eq_true_iff.1 hall
    rw [hhex]
    have hread := readString_unit (r := r) (eq_of_beq hu) (by omega)
    rw [eq_of_beq hchar, Char.ofNat_toNat] at hread
    exact hread
  · cases hall

/-- A character is written with an escape of its own, by its number, or as it is. -/
inductive Spelling (c : Char) : Text → Prop
  | escaped {e : Char} : escaped? e = some c → e ≠ 'u' → Spelling c ['\\', e]
  | numbered : c.toNat < 0x20 → Spelling c (unitEscape c.toNat)
  | raw : c ≠ '"' → c ≠ '\\' → ¬ c.toNat < 0x20 → Spelling c [c]

theorem spelling_stringChar (c : Char) : Spelling c (stringChar .unicode c) := by
  unfold stringChar
  by_cases hq : c = '"' ∨ c = '\\'
  · rw [if_pos hq]
    rcases hq with rfl | rfl
    · exact .escaped rfl (by decide)
    · exact .escaped rfl (by decide)
  obtain ⟨hquote, hback⟩ := not_or.1 hq
  rw [if_neg hq]
  by_cases hn : c = '\n'
  · rw [if_pos hn]
    exact hn ▸ .escaped rfl (by decide)
  rw [if_neg hn]
  by_cases hr : c = '\r'
  · rw [if_pos hr]
    exact hr ▸ .escaped rfl (by decide)
  rw [if_neg hr]
  by_cases ht : c = '\t'
  · rw [if_pos ht]
    exact ht ▸ .escaped rfl (by decide)
  rw [if_neg ht]
  by_cases hf : c = '\x0c'
  · rw [if_pos hf]
    exact hf ▸ .escaped rfl (by decide)
  rw [if_neg hf]
  by_cases hb : c = '\x08'
  · rw [if_pos hb]
    exact hb ▸ .escaped rfl (by decide)
  rw [if_neg hb]
  by_cases hc : c.toNat < 0x20
  · rw [if_pos hc]
    exact .numbered hc
  · rw [if_neg hc, if_pos (Or.inl rfl)]
    exact .raw hquote hback hc

theorem readString_stringChar (c : Char) :
    readString (stringChar .unicode c ++ r) = consRead c (readString r) := by
  have hs := spelling_stringChar c
  generalize stringChar .unicode c = written at hs ⊢
  cases hs with
  | escaped he hu => exact readString_escape he hu
  | numbered hc => exact readString_control hc
  | raw hq hb hc => exact readString_raw hq hb hc

theorem readString_flatMap :
    readString (t.flatMap (stringChar .unicode) ++ '"' :: r) = some (t, r) := by
  induction t with
  | nil => rfl
  | cons c t ih =>
    rw [List.flatMap_cons, List.append_assoc, readString_stringChar, ih]
    rfl

/-! ## Values made of texts -/

mutual

/-- The value is made of strings, lists and objects, at most `room` of these one inside the other,
and no object has a key twice. -/
def Textual : Json → Nat → Prop
  | .str _, _ => True
  | .arr xs, room + 1 => TextualElements xs room
  | .obj ms, room + 1 => (Members.keys ms).Nodup ∧ TextualMembers ms room
  | _, _ => False

/-- So are all elements. -/
def TextualElements : List Json → Nat → Prop
  | [], _ => True
  | x :: xs, room => Textual x room ∧ TextualElements xs room

/-- So are the values of all members. -/
def TextualMembers : List (Text × Json) → Nat → Prop
  | [], _ => True
  | (_, x) :: ms, room => Textual x room ∧ TextualMembers ms room

end

theorem textualElements_iff {xs : List Json} :
    TextualElements xs room ↔ ∀ x ∈ xs, Textual x room := by
  induction xs with
  | nil => simp [TextualElements]
  | cons x xs ih => simp [TextualElements, ih]

theorem textual_ofTexts (ts : List Text) : Textual (.ofTexts ts) (room + 1) := by
  refine textualElements_iff.2 fun x hx => ?_
  obtain ⟨t, -, rfl⟩ := List.mem_map.1 hx
  trivial

theorem set_of_not_mem {key : Text} {ms : Members} (h : key ∉ Members.keys ms) :
    Members.set key v ms = ms ++ [(key, v)] := by
  induction ms with
  | nil => rfl
  | cons m ms ih =>
    obtain ⟨hm, hms⟩ := not_or.1 (mt List.mem_cons.2 (show key ∉ m.1 :: Members.keys ms from h))
    unfold Members.set
    rw [if_neg (Ne.symm hm), ih hms]
    rfl

theorem ofMembers_of_nodup {ms : Members} (h : (Members.keys ms).Nodup) :
    ofMembers ms = .obj ms := by
  have hfold : ∀ (ms acc : Members), (Members.keys (acc ++ ms)).Nodup →
      ms.foldl (fun acc m => Members.set m.1 m.2 acc) acc = acc ++ ms := by
    intro ms
    induction ms with
    | nil => exact fun acc _ => (List.append_nil acc).symm
    | cons m ms ih =>
      intro acc hnodup
      have hm : m.1 ∉ Members.keys acc := by
        intro hm
        unfold Members.keys at hnodup hm
        rw [List.map_append, List.map_cons, List.nodup_append] at hnodup
        exact hnodup.2.2 _ hm _ List.mem_cons_self rfl
      rw [List.append_cons] at hnodup
      rw [List.foldl_cons, set_of_not_mem hm, ih _ hnodup, List.append_assoc]
      rfl
  exact congrArg Json.obj (hfold ms [] h)

/-! ## Reading back -/

/-- A value made of texts begins with a character that is neither blank nor closes anything. -/
theorem block_eq_cons (h : Textual v room) (level : Nat) :
    ∃ c t, block .unicode level v = c :: t ∧ isSpace c = false ∧ c ≠ ']' ∧ c ≠ '\x7d' := by
  cases v with
  | str t => exact ⟨'"', _, rfl, rfl, by decide, by decide⟩
  | arr xs => cases xs <;> exact ⟨'[', _, rfl, rfl, by decide, by decide⟩
  | obj ms => cases ms <;> exact ⟨'\x7b', _, rfl, rfl, by decide, by decide⟩
  | null => exact h.elim
  | bool b => exact h.elim
  | int n => exact h.elim
  | float x => exact h.elim

theorem skipSpace_block (h : Textual v room) : skipSpace (block .unicode level v ++ r) =
    block .unicode level v ++ r := by
  obtain ⟨c, t, hb, hc, -⟩ := block_eq_cons h level
  rw [hb]
  exact skipSpace_cons hc

variable {x : Json} {key rest s : Text}

theorem readElements_last (hx : readValue n room t = .ok (x, rest))
    (hr : skipSpace rest = ']' :: s) :
    readElements (n + 1) room t = .ok ([x], s) := by
  unfold readElements
  rw [hx]
  dsimp only
  rw [hr]
  rfl

theorem readElements_more (hx : readValue n room t = .ok (x, rest))
    (hr : skipSpace rest = ',' :: s) :
    readElements (n + 1) room t =
      (readElements n room (skipSpace s)).map fun p => (x :: p.1, p.2) := by
  conv => lhs; unfold readElements
  rw [hx]
  dsimp only
  rw [hr]
  rfl

/-- A key in quotes, a colon, a blank and a value are read as one member. -/
def ReadsMember (n room : Nat) (t key : Text) (x : Json) (rest : Text) : Prop :=
  ∃ body after, t = '"' :: body ∧ readString body = some (key, ':' :: after) ∧
    readValue n room (skipSpace after) = .ok (x, rest)

theorem readMembers_last (hm : ReadsMember n room t key x rest)
    (hr : skipSpace rest = '\x7d' :: s) :
    readMembers (n + 1) room t = .ok ([(key, x)], s) := by
  obtain ⟨body, after, rfl, hkey, hx⟩ := hm
  have hcolon : skipSpace (':' :: after) = ':' :: after := skipSpace_cons rfl
  conv => lhs; unfold readMembers
  simp only [hkey, hcolon, hx, hr]

theorem readMembers_more (hm : ReadsMember n room t key x rest) (hr : skipSpace rest = ',' :: s) :
    readMembers (n + 1) room t =
      (readMembers n room (skipSpace s)).map fun p => ((key, x) :: p.1, p.2) := by
  obtain ⟨body, after, rfl, hkey, hx⟩ := hm
  have hcolon : skipSpace (':' :: after) = ':' :: after := skipSpace_cons rfl
  conv => lhs; unfold readMembers
  simp only [hkey, hcolon, hx, hr]

theorem readsMember_block (key : Text) (hx : Textual x room)
    (hread : readValue n room (block .unicode level x ++ rest) = .ok (x, rest)) :
    ReadsMember n room (stringText .unicode key ++ ':' :: ' ' :: (block .unicode level x ++ rest))
      key x rest := by
  have hblank : skipSpace (' ' :: (block .unicode level x ++ rest)) =
      block .unicode level x ++ rest := skipSpace_block hx
  refine ⟨key.flatMap (stringChar .unicode) ++
    '"' :: ':' :: ' ' :: (block .unicode level x ++ rest), _, ?_, readString_flatMap, ?_⟩
  · unfold stringText
    simp
  · rw [hblank]
    exact hread

theorem readValue_elements {xs : List Json} (hr : skipSpace t = s) (hclose : s.head? ≠ some ']')
    (hxs : readElements n room s = .ok (xs, r)) :
    readValue (n + 1) (room + 1) ('[' :: t) = .ok (.arr xs, r) := by
  unfold readValue
  simp only [hr]
  split
  · exact absurd rfl hclose
  · rw [hxs]
    rfl

theorem readValue_members {ms : Members} (hr : skipSpace t = s) (hclose : s.head? ≠ some '\x7d')
    (hms : readMembers n room s = .ok (ms, r)) (hnodup : (Members.keys ms).Nodup) :
    readValue (n + 1) (room + 1) ('\x7b' :: t) = .ok (.obj ms, r) := by
  unfold readValue
  simp only [hr]
  split
  · exact absurd rfl hclose
  · rw [hms]
    exact congrArg (fun v => Except.ok (v, r)) (ofMembers_of_nodup hnodup)

/-- What the first element of a list begins with after its line break. -/
theorem skipSpace_blockElements (hx : Textual x room) (level : Nat) (xs : List Json) (r : Text) :
    ∃ rest, skipSpace (blockElements .unicode level (x :: xs) ++ r) =
      block .unicode level x ++ rest := by
  cases xs with
  | nil =>
    refine ⟨r, ?_⟩
    show skipSpace (newline level ++ block .unicode level x ++ r) = _
    rw [List.append_assoc, skipSpace_newline, skipSpace_block hx]
  | cons y ys =>
    refine ⟨',' :: blockElements .unicode level (y :: ys) ++ r, ?_⟩
    show skipSpace (newline level ++ block .unicode level x ++
      ',' :: blockElements .unicode level (y :: ys) ++ r) = _
    rw [List.append_assoc, List.append_assoc, skipSpace_newline, skipSpace_block hx]

theorem skipSpace_stringText (key : Text) (r : Text) :
    skipSpace (stringText .unicode key ++ r) = stringText .unicode key ++ r := skipSpace_cons rfl

/-- What the members of an object begin with after the first line break. -/
theorem skipSpace_blockMembers (level : Nat) (m : Text × Json) (ms : Members) (r : Text) :
    ∃ rest, skipSpace (blockMembers .unicode level (m :: ms) ++ r) = '"' :: rest := by
  have hfirst : ∀ rest, skipSpace (newline level ++ (stringText .unicode m.1 ++ rest)) =
      '"' :: (m.1.flatMap (stringChar .unicode) ++ ['"'] ++ rest) := by
    intro rest
    rw [skipSpace_newline, skipSpace_stringText]
    rfl
  cases ms with
  | nil =>
    refine ⟨_, Eq.trans ?_ (hfirst (':' :: ' ' :: block .unicode level m.2 ++ r))⟩
    show skipSpace (newline level ++ stringText .unicode m.1 ++
      ':' :: ' ' :: block .unicode level m.2 ++ r) = _
    rw [List.append_assoc, List.append_assoc]
  | cons m' ms =>
    refine ⟨_, Eq.trans ?_ (hfirst (':' :: ' ' :: block .unicode level m.2 ++
      (',' :: blockMembers .unicode level (m' :: ms) ++ r)))⟩
    show skipSpace (newline level ++ stringText .unicode m.1 ++
      ':' :: ' ' :: block .unicode level m.2 ++
        ',' :: blockMembers .unicode level (m' :: ms) ++ r) = _
    rw [List.append_assoc, List.append_assoc, List.append_assoc]

mutual

/-- A value is read back, and what follows it is left. The fuel may be the length of its text. -/
theorem readValue_block : ∀ (v : Json) (level n room : Nat) (r : Text), Textual v room →
    (block .unicode level v).length ≤ n →
    readValue n room (block .unicode level v ++ r) = .ok (v, r)
  | .str t, level, n, room, r, _, hn => by
    obtain ⟨n, rfl⟩ := Nat.exists_eq_add_one_of_ne_zero (n := n) (by rintro rfl; cases hn)
    have hread := readString_flatMap (t := t) (r := r)
    show found ((readString (t.flatMap (stringChar .unicode) ++ ['"'] ++ r)).map
      fun p => (Json.str p.1, p.2)) = _
    rw [List.append_assoc, List.singleton_append, hread]
    rfl
  | .arr _, _, _, 0, _, h, _ => h.elim
  | .obj _, _, _, 0, _, h, _ => h.elim
  | .arr [], level, n, room + 1, r, _, hn => by
    obtain ⟨n, rfl⟩ := Nat.exists_eq_add_one_of_ne_zero (n := n) (by rintro rfl; cases hn)
    rfl
  | .arr (x :: xs), level, n, room + 1, r, h, hn => by
    obtain ⟨n, rfl⟩ := Nat.exists_eq_add_one_of_ne_zero (n := n) (by rintro rfl; cases hn)
    have hlen : (blockElements .unicode (level + 1) (x :: xs)).length ≤ n := by
      simp only [block, List.cons_append, List.length_cons, List.length_append] at hn
      omega
    have hread := readElements_block (x :: xs) (level + 1) level n room r (List.cons_ne_nil x xs) h
      hlen
    obtain ⟨rest, hrest⟩ := skipSpace_blockElements h.1 (level + 1) xs (newline level ++ ']' :: r)
    have hclose : (block .unicode (level + 1) x ++ rest).head? ≠ some ']' := by
      obtain ⟨c, t, hb, -, hc, -⟩ := block_eq_cons h.1 (level + 1)
      rw [hb]
      simpa using hc
    show readValue (n + 1) (room + 1)
      ('[' :: blockElements .unicode (level + 1) (x :: xs) ++ newline level ++
      [']'] ++ r) = _
    rw [List.append_assoc, List.append_assoc, List.singleton_append]
    exact readValue_elements hrest hclose (hrest ▸ hread)
  | .obj [], level, n, room + 1, r, _, hn => by
    obtain ⟨n, rfl⟩ := Nat.exists_eq_add_one_of_ne_zero (n := n) (by rintro rfl; cases hn)
    rfl
  | .obj (m :: ms), level, n, room + 1, r, h, hn => by
    obtain ⟨n, rfl⟩ := Nat.exists_eq_add_one_of_ne_zero (n := n) (by rintro rfl; cases hn)
    have hlen : (blockMembers .unicode (level + 1) (m :: ms)).length ≤ n := by
      simp only [block, List.cons_append, List.length_cons, List.length_append] at hn
      omega
    have hread := readMembers_block (m :: ms) (level + 1) level n room r (List.cons_ne_nil m ms) h.2
      hlen
    obtain ⟨rest, hrest⟩ := skipSpace_blockMembers (level + 1) m ms
      (newline level ++ '\x7d' :: r)
    show readValue (n + 1) (room + 1)
      ('\x7b' :: blockMembers .unicode (level + 1) (m :: ms) ++ newline level ++
      ['\x7d'] ++ r) = _
    rw [List.append_assoc, List.append_assoc, List.singleton_append]
    exact readValue_members hrest (by simp) (hrest ▸ hread) h.1
  | .null, _, _, _, _, h, _ => h.elim
  | .bool _, _, _, _, _, h, _ => h.elim
  | .int _, _, _, _, _, h, _ => h.elim
  | .float _, _, _, _, _, h, _ => h.elim

theorem readElements_block : ∀ (xs : List Json) (level k n room : Nat) (r : Text), xs ≠ [] →
    TextualElements xs room →
    (blockElements .unicode level xs).length ≤ n →
    readElements n room (skipSpace (blockElements .unicode level xs ++ (newline k ++ ']' :: r))) =
      .ok (xs, r)
  | [], _, _, _, _, _, h, _, _ => absurd rfl h
  | [x], level, k, n, room, r, _, h, hn => by
    have hlen : (newline level ++ block .unicode level x).length ≤ n := hn
    rw [List.length_append, newline, List.length_cons] at hlen
    obtain ⟨n, rfl⟩ := Nat.exists_eq_add_one_of_ne_zero (n := n) (by omega)
    have hread := readValue_block x level n room (newline k ++ ']' :: r) h.1 (by omega)
    show readElements (n + 1) room (skipSpace (newline level ++ block .unicode level x ++ _)) = _
    rw [List.append_assoc, skipSpace_newline, skipSpace_block h.1]
    exact readElements_last hread (skipSpace_newline.trans (skipSpace_cons rfl))
  | x :: y :: xs, level, k, n, room, r, _, h, hn => by
    have hlen : (newline level ++ block .unicode level x ++
      ',' :: blockElements .unicode level (y :: xs)).length ≤ n := hn
    rw [List.length_append, List.length_append, newline, List.length_cons, List.length_cons] at hlen
    obtain ⟨n, rfl⟩ := Nat.exists_eq_add_one_of_ne_zero (n := n) (by omega)
    have hread := readValue_block x level n room
      (',' :: blockElements .unicode level (y :: xs) ++ (newline k ++ ']' :: r)) h.1 (by omega)
    have hmore := readElements_block (y :: xs) level k n room r (List.cons_ne_nil y xs) h.2
      (by omega)
    show readElements (n + 1) room (skipSpace (newline level ++ block .unicode level x ++
      ',' :: blockElements .unicode level (y :: xs) ++ _)) = _
    rw [List.append_assoc, List.append_assoc, skipSpace_newline, skipSpace_block h.1]
    refine (readElements_more hread (skipSpace_cons rfl)).trans ?_
    exact congrArg (Except.map fun p : List Json × Text => (x :: p.1, p.2)) hmore

theorem readMembers_block : ∀ (ms : List (Text × Json)) (level k n room : Nat) (r : Text),
    ms ≠ [] → TextualMembers ms room →
    (blockMembers .unicode level ms).length ≤ n →
    readMembers n room (skipSpace (blockMembers .unicode level ms ++ (newline k ++ '\x7d' :: r))) =
      .ok (ms, r)
  | [], _, _, _, _, _, h, _, _ => absurd rfl h
  | [(key, x)], level, k, n, room, r, _, h, hn => by
    have hlen : (newline level ++ stringText .unicode key ++
      ':' :: ' ' :: block .unicode level x).length ≤ n := hn
    simp only [List.length_append, newline, List.length_cons] at hlen
    obtain ⟨n, rfl⟩ := Nat.exists_eq_add_one_of_ne_zero (n := n) (by omega)
    have hread := readValue_block x level n room (newline k ++ '\x7d' :: r) h.1 (by omega)
    have hmember := readsMember_block key h.1 hread
    show readMembers (n + 1) room (skipSpace (newline level ++ stringText .unicode key ++
      ':' :: ' ' :: block .unicode level x ++ _)) = _
    rw [List.append_assoc, List.append_assoc, skipSpace_newline, skipSpace_stringText]
    exact readMembers_last hmember (skipSpace_newline.trans (skipSpace_cons rfl))
  | (key, x) :: m :: ms, level, k, n, room, r, _, h, hn => by
    have hlen : (newline level ++ stringText .unicode key ++ ':' :: ' ' :: block .unicode level x ++
      ',' :: blockMembers .unicode level (m :: ms)).length ≤ n := hn
    simp only [List.length_append, newline, List.length_cons] at hlen
    obtain ⟨n, rfl⟩ := Nat.exists_eq_add_one_of_ne_zero (n := n) (by omega)
    have hread := readValue_block x level n room
      (',' :: blockMembers .unicode level (m :: ms) ++ (newline k ++ '\x7d' :: r)) h.1 (by omega)
    have hmember := readsMember_block key h.1 hread
    have hmore := readMembers_block (m :: ms) level k n room r (List.cons_ne_nil m ms) h.2
      (by omega)
    show readMembers (n + 1) room (skipSpace (newline level ++ stringText .unicode key ++
      ':' :: ' ' :: block .unicode level x ++ ',' :: blockMembers .unicode level (m :: ms) ++ _)) = _
    rw [List.append_assoc, List.append_assoc, List.append_assoc, skipSpace_newline,
      skipSpace_stringText]
    refine (readMembers_more hmember (skipSpace_cons rfl)).trans ?_
    exact congrArg (Except.map fun p : Members × Text => ((key, x) :: p.1, p.2)) hmore

end

/-! ## Characters of a written value -/

mutual

/-- The keys and strings of a value, in order. -/
def strings : Json → List Text
  | .str t => [t]
  | .arr xs => elementStrings xs
  | .obj ms => memberStrings ms
  | _ => []

/-- Those of all elements. -/
def elementStrings : List Json → List Text
  | [] => []
  | x :: xs => strings x ++ elementStrings xs

/-- Those of all members. -/
def memberStrings : List (Text × Json) → List Text
  | [] => []
  | (key, x) :: ms => key :: strings x ++ memberStrings ms

end

/-- The characters that a layout puts between strings, and the quote. -/
def layoutCharacters : Text := Text.ofString "[]\x7b\x7d,: \n\""

/-- The character belongs to the layout, or to the escaped form of a character of the strings. -/
def ComesFrom (ss : List Text) (c : Char) : Prop :=
  c ∈ layoutCharacters ∨ ∃ s ∈ ss, ∃ x ∈ s, c ∈ stringChar .unicode x

variable {c : Char} {ss ss' : List Text}

theorem ComesFrom.mono (h : ComesFrom ss c) (hsub : ss ⊆ ss') : ComesFrom ss' c :=
  h.imp id fun ⟨s, hs, hx⟩ => ⟨s, hsub hs, hx⟩

theorem comesFrom_of_mem_newline (h : c ∈ newline level) : ComesFrom ss c := by
  rcases List.mem_cons.1 h with rfl | h
  · exact Or.inl (by decide)
  · rw [List.eq_of_mem_replicate h]
    exact Or.inl (by decide)

theorem comesFrom_of_mem_stringText (h : c ∈ stringText .unicode t) : ComesFrom [t] c := by
  rcases List.mem_append.1 h with h | h
  · rcases List.mem_cons.1 h with rfl | h
    · exact Or.inl (by decide)
    · obtain ⟨x, hx, hc⟩ := List.mem_flatMap.1 h
      exact Or.inr ⟨t, List.mem_singleton_self t, x, hx, hc⟩
  · rw [List.mem_singleton.1 h]
    exact Or.inl (by decide)

/-- What stands between two brackets comes from the strings if all in between does. -/
theorem comesFrom_of_mem_brackets {a b : Char} {body : Text} (ha : a ∈ layoutCharacters)
    (hb : b ∈ layoutCharacters) (hbody : ∀ c ∈ body, ComesFrom ss c)
    (h : c ∈ a :: body ++ newline level ++ [b]) : ComesFrom ss c := by
  rcases List.mem_append.1 h with h | h
  · rcases List.mem_append.1 h with h | h
    · rcases List.mem_cons.1 h with rfl | h
      · exact Or.inl ha
      · exact hbody c h
    · exact comesFrom_of_mem_newline h
  · rw [List.mem_singleton.1 h]
    exact Or.inl hb

theorem comesFrom_of_mem_member {key : Text} (hbody : ∀ c ∈ t, ComesFrom ss c)
    (h : c ∈ newline level ++ stringText .unicode key ++ ':' :: ' ' :: t) :
    ComesFrom (key :: ss) c := by
  rcases List.mem_append.1 h with h | h
  · rcases List.mem_append.1 h with h | h
    · exact comesFrom_of_mem_newline h
    · exact (comesFrom_of_mem_stringText h).mono (by simp)
  · rcases List.mem_cons.1 h with rfl | h
    · exact Or.inl (by decide)
    rcases List.mem_cons.1 h with rfl | h
    · exact Or.inl (by decide)
    · exact (hbody c h).mono (List.subset_cons_self key ss)

mutual

/-- Every character of a written value belongs to the layout or comes from a key or a string. -/
theorem comesFrom_of_mem_block : ∀ (v : Json) (level room : Nat), Textual v room →
    ∀ c ∈ block .unicode level v, ComesFrom v.strings c
  | .str t, _, _, _ => fun _ h => comesFrom_of_mem_stringText h
  | .arr _, _, 0, h => h.elim
  | .obj _, _, 0, h => h.elim
  | .arr [], _, _ + 1, _ => fun c h =>
    Or.inl ((by decide : ['[', ']'] ⊆ layoutCharacters) h)
  | .arr (x :: xs), level, room + 1, h => fun c hc =>
    comesFrom_of_mem_brackets (by decide) (by decide)
      (comesFrom_of_mem_elements (x :: xs) (level + 1) room h) hc
  | .obj [], _, _ + 1, _ => fun c h =>
    Or.inl ((by decide : ['\x7b', '\x7d'] ⊆ layoutCharacters) h)
  | .obj (m :: ms), level, room + 1, h => fun c hc =>
    comesFrom_of_mem_brackets (by decide) (by decide)
      (comesFrom_of_mem_members (m :: ms) (level + 1) room h.2) hc
  | .null, _, _, h => h.elim
  | .bool _, _, _, h => h.elim
  | .int _, _, _, h => h.elim
  | .float _, _, _, h => h.elim

theorem comesFrom_of_mem_elements : ∀ (xs : List Json) (level room : Nat), TextualElements xs room →
    ∀ c ∈ blockElements .unicode level xs, ComesFrom (elementStrings xs) c
  | [], _, _, _ => fun _ h => absurd h List.not_mem_nil
  | [x], level, room, h => fun c hc => by
    rcases List.mem_append.1 hc with hc | hc
    · exact comesFrom_of_mem_newline hc
    · exact (comesFrom_of_mem_block x level room h.1 c hc).mono (List.subset_append_left _ _)
  | x :: y :: xs, level, room, h => fun c hc => by
    rcases List.mem_append.1 hc with hc | hc
    · rcases List.mem_append.1 hc with hc | hc
      · exact comesFrom_of_mem_newline hc
      · exact (comesFrom_of_mem_block x level room h.1 c hc).mono (List.subset_append_left _ _)
    · rcases List.mem_cons.1 hc with rfl | hc
      · exact Or.inl (by decide)
      · exact (comesFrom_of_mem_elements (y :: xs) level room h.2 c hc).mono
          (List.subset_append_right _ _)

theorem comesFrom_of_mem_members : ∀ (ms : List (Text × Json)) (level room : Nat),
    TextualMembers ms room →
    ∀ c ∈ blockMembers .unicode level ms, ComesFrom (memberStrings ms) c
  | [], _, _, _ => fun _ h => absurd h List.not_mem_nil
  | [(key, x)], level, room, h => fun c hc =>
    (comesFrom_of_mem_member (comesFrom_of_mem_block x level room h.1) hc).mono
      (List.subset_append_left _ _)
  | (key, x) :: m :: ms, level, room, h => fun c hc => by
    rcases List.mem_append.1 hc with hc | hc
    · exact (comesFrom_of_mem_member (comesFrom_of_mem_block x level room h.1) hc).mono
        (List.subset_append_left _ _)
    · rcases List.mem_cons.1 hc with rfl | hc
      · exact Or.inl (by decide)
      · exact (comesFrom_of_mem_members (m :: ms) level room h.2 c hc).mono
          (List.subset_append_right _ _)

end

/-! ## Line ends -/

theorem return_not_mem_stringChar (c : Char) : '\r' ∉ stringChar .unicode c := by
  have hcontrol : ∀ n < 0x20, '\r' ∉ unitEscape n := by decide
  have hs := spelling_stringChar c
  generalize stringChar .unicode c = written at hs ⊢
  cases hs with
  | @escaped e he _ =>
    rw [List.mem_cons, List.mem_singleton]
    rintro (h | rfl)
    · cases h
    · cases he
  | numbered hc => exact hcontrol _ hc
  | raw _ _ hc =>
    rw [List.mem_singleton]
    rintro rfl
    exact hc (by decide)

/-- A value made of texts is written without carriage returns: strings have them escaped. -/
theorem return_not_mem_block (h : Textual v room) : '\r' ∉ block .unicode level v := by
  intro hm
  rcases comesFrom_of_mem_block v level room h _ hm with hl | ⟨s, -, x, -, hx⟩
  · exact absurd hl (by decide)
  · exact return_not_mem_stringChar x hx

/-! ## Whole texts -/

/-- The text of a value that is made of texts is read as that value, whatever blanks come after
it. -/
theorem parse_block_append (h : Textual v maxLevels) (hr : skipSpace r = []) :
    parse (block .unicode 0 v ++ r) = .ok v := by
  have hread := readValue_block v 0 (2 * (block .unicode 0 v ++ r).length + 1) maxLevels r h
    (by simp; omega)
  unfold parse
  rw [skipSpace_block h, hread]
  dsimp only
  rw [hr]
  rfl

theorem parse_block (h : Textual v maxLevels) : parse (block .unicode 0 v ++ ['\n']) = .ok v :=
  parse_block_append h rfl

/-! ## Nesting -/

theorem readValue_brackets (h : 2 * room < n) (t : Text) :
    readValue n room (List.replicate (room + 1) '[' ++ t) = .error (.tooDeep .array) := by
  induction room generalizing n with
  | zero =>
    obtain ⟨m, rfl⟩ : ∃ m, n = m + 1 := ⟨n - 1, by omega⟩
    rfl
  | succ room ih =>
    obtain ⟨m, rfl⟩ : ∃ m, n = m + 2 := ⟨n - 2, by omega⟩
    have hinner : readElements (m + 1) room (List.replicate (room + 1) '[' ++ t) =
        .error (.tooDeep .array) := by
      unfold readElements
      rw [ih (by omega)]
    rw [List.replicate_succ, List.cons_append] at hinner
    rw [List.replicate_succ, List.replicate_succ, List.cons_append, List.cons_append]
    have hskip : skipSpace ('[' :: (List.replicate room '[' ++ t)) =
        '[' :: (List.replicate room '[' ++ t) := skipSpace_cons (by decide)
    unfold readValue
    simp only [hskip]
    split
    · next heq => cases heq
    · rw [hinner]
      rfl

/-- A text that begins with more opening brackets than there may be arrays one inside the other is
nested too deep, whatever comes after them. -/
theorem parse_brackets (t : Text) :
    parse (List.replicate (maxLevels + 1) '[' ++ t) = .error (.tooDeep .array) := by
  have hfuel : 2 * maxLevels < 2 * (List.replicate (maxLevels + 1) '[' ++ t).length + 1 := by
    simp
    omega
  have hskip : skipSpace (List.replicate (maxLevels + 1) '[' ++ t) =
      List.replicate (maxLevels + 1) '[' ++ t := by
    rw [List.replicate_succ, List.cons_append]
    exact skipSpace_cons (by decide)
  unfold parse
  rw [hskip, readValue_brackets hfuel t]

end Json

end ComponentManifest
