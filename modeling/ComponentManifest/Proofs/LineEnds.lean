import ComponentManifest.Proofs.FileBatches
import ComponentManifest.Proofs.ReportedFaults

/-!
# Line ends of sources

A text without carriage returns can be stored with any of the three line ends. Whichever it is, the
text is read back, so a classifier finds the same imports, also where a line ends between a keyword
and its literal or within a literal.

1. `LineEnd`, and how a text is written with it.
2. `readText?_of_content`: a file that holds the text in UTF-8 is read as the text.
3. `Tree.SameLines`: trees that differ only in the line ends of files. What a path leads to is the
   same in both, and so is the text that is read.
4. `line_ends_invisible`.
-/

namespace ComponentManifest

open Text (encodeUtf8 unifyNewlines)

/-! ## Texts with line ends -/

/-- What a line of a stored text ends with. -/
inductive LineEnd where
  | lf
  | crlf
  | cr
  deriving DecidableEq, Repr

namespace LineEnd

variable {e : LineEnd} {c : Char} {t : Text}

/-- The characters of a line end. -/
def marks : LineEnd → Text
  | lf => ['\n']
  | crlf => ['\r', '\n']
  | cr => ['\r']

/-- The text with the line end in place of each line feed. -/
def write (e : LineEnd) (t : Text) : Text := t.flatMap fun c => if c = '\n' then e.marks else [c]

/-- The content of a file that holds the text with the line end. -/
def content (e : LineEnd) (t : Text) : Bytes := encodeUtf8 (e.write t)

theorem write_feed_cons : e.write ('\n' :: t) = e.marks ++ e.write t := by
  simp [write]

theorem write_cons (h : c ≠ '\n') : e.write (c :: t) = c :: e.write t := by
  simp [write, h]

/-- Written with carriage returns alone, a text has no line feed. -/
theorem feed_not_mem_write_cr : '\n' ∉ LineEnd.cr.write t := by
  intro h
  obtain ⟨c, -, hc⟩ := List.mem_flatMap.1 h
  split at hc
  · simp [marks] at hc
  · next hne => exact hne (List.mem_singleton.1 hc).symm

end LineEnd

namespace Text

variable {c : Char} {t : Text}

theorem unifyNewlines_cons (h : c ≠ '\r') : unifyNewlines (c :: t) = c :: unifyNewlines t := by
  rw [unifyNewlines.eq_3 c t fun _ hc _ => h hc, if_neg h]

theorem unifyNewlines_return (h : '\n' ∉ t) :
    unifyNewlines ('\r' :: t) = '\n' :: unifyNewlines t := by
  rw [unifyNewlines.eq_3 '\r' t fun _ _ ht => h (ht ▸ List.mem_cons_self), if_pos rfl]

theorem unifyNewlines_write (e : LineEnd) (h : '\r' ∉ t) : unifyNewlines (e.write t) = t := by
  induction t with
  | nil => rfl
  | cons c t ih =>
    have hc : c ≠ '\r' := fun he => h (he ▸ List.mem_cons_self)
    have ht : '\r' ∉ t := fun hm => h (List.mem_cons_of_mem c hm)
    by_cases hn : c = '\n'
    · subst hn
      rw [LineEnd.write_feed_cons]
      cases e with
      | lf =>
        show unifyNewlines ('\n' :: LineEnd.lf.write t) = '\n' :: t
        rw [unifyNewlines_cons (by decide), ih ht]
      | crlf =>
        show '\n' :: unifyNewlines (LineEnd.crlf.write t) = '\n' :: t
        rw [ih ht]
      | cr =>
        show unifyNewlines ('\r' :: LineEnd.cr.write t) = '\n' :: t
        rw [unifyNewlines_return LineEnd.feed_not_mem_write_cr, ih ht]
    · rw [LineEnd.write_cons hn, unifyNewlines_cons hc, ih ht]

end Text

/-! ## Files with line ends -/

variable {w w' : Workspace} {p t : Text} {e : LineEnd} {k : Classifier} {files : List Text}

theorem LineEnd.readContent (h : '\r' ∉ t) :
    (Text.decodeUtf8? (e.content t)).map unifyNewlines = some t := by
  rw [content, Text.decodeUtf8?_encodeUtf8, Option.map_some, Text.unifyNewlines_write e h]

theorem Workspace.readText?_of_content (h : '\r' ∉ t) (hp : w.read p = .ok (e.content t)) :
    w.readText? p = some t := by
  unfold readText?
  rw [hp]
  exact LineEnd.readContent h

theorem Workspace.isUsable_of_read {content : Bytes} (h : w.read p = .ok content) :
    Path.isUsable p = true := by
  apply isUsable_of_isFile
  unfold read at h
  unfold isFile entry?
  split at h
  · next hr => rw [hr]
  all_goals cases h

/-! ## Trees that differ in line ends -/

/-- The entries are equal, or they are files that hold one text with two line ends. -/
inductive Entry.SameLines : Entry → Entry → Prop
  | refl (e : Entry) : SameLines e e
  | file {t : Text} (a b : LineEnd) (h : '\r' ∉ t) :
      SameLines (.file (a.content t)) (.file (b.content t))

/-- Every location holds the same in both trees, but for the line ends of files. -/
def Tree.SameLines (t t' : Tree) : Prop :=
  ∀ l, Option.Rel Entry.SameLines (t.entry? l) (t'.entry? l)

/-- The walks end alike, at entries that are the same but for line ends. -/
inductive Reach.SameLines : Reach → Reach → Prop
  | refl (r : Reach) : SameLines r r
  | entry {e e' : Entry} (l : Location) (h : e.SameLines e') : SameLines (.entry l e) (.entry l e')

inductive Stop.SameLines : Stop → Stop → Prop
  | refl (s : Stop) : SameLines s s
  | reach {r r' : Reach} (h : r.SameLines r') : SameLines (.reach r) (.reach r')

namespace Tree

variable {t t' : Tree}

theorem sameLines_advance (h : t.SameLines t') (fl : Bool) (dir : Location) (ss : List Text) :
    Stop.SameLines (t.advance fl dir ss) (t'.advance fl dir ss) := by
  induction ss generalizing dir with
  | nil => exact .refl _
  | cons s rest ih =>
    unfold advance
    by_cases hi : s = [] ∨ s = Path.here
    · simpa only [if_pos hi] using ih dir
    by_cases hu : s = Path.up
    · simpa only [if_neg hi, if_pos hu] using ih dir.dropLast
    simp only [if_neg hi, if_neg hu]
    have he := h (dir ++ [s])
    generalize t.entry? (dir ++ [s]) = x at he ⊢
    generalize t'.entry? (dir ++ [s]) = y at he ⊢
    cases he with
    | none => exact .refl _
    | @some a b he =>
      cases he with
      | refl =>
        cases a with
        | dir => exact ih (dir ++ [s])
        | file content => exact .refl _
        | link target => exact .refl _
      | file c d hr =>
        -- Only as the last name of a path is the file reached.
        dsimp only
        split
        · exact .reach (.entry _ (.file c d hr))
        · exact .refl _

theorem sameLines_walk (h : t.SameLines t') (fl : Bool) (n : Nat) (dir : Location)
    (ss : List Text) : Reach.SameLines (t.walk fl n dir ss) (t'.walk fl n dir ss) := by
  induction n generalizing dir ss with
  | zero =>
    rw [walk_eq, walk_eq t']
    have hs := sameLines_advance h fl dir ss
    generalize t.advance fl dir ss = x at hs ⊢
    generalize t'.advance fl dir ss = y at hs ⊢
    cases hs with
    | refl s => exact .refl _
    | reach hr => exact hr
  | succ n ih =>
    rw [walk_eq, walk_eq t']
    have hs := sameLines_advance h fl dir ss
    generalize t.advance fl dir ss = x at hs ⊢
    generalize t'.advance fl dir ss = y at hs ⊢
    cases hs with
    | refl =>
      cases x with
      | reach r => exact .refl _
      | link d target rest => exact ih _ _
    | reach hr => exact hr

theorem SameLines.refl (t : Tree) : t.SameLines t := by
  intro l
  cases t.entry? l with
  | none => exact .none
  | some e => exact .some (.refl e)

/-- Storing one text with two line ends at a location makes two trees that differ in nothing
else. -/
theorem sameLines_put {s : Text} (h : '\r' ∉ s) (t : Tree) (l : Location) (a b : LineEnd) :
    (t.put l (.file (a.content s))).SameLines (t.put l (.file (b.content s))) := by
  intro l'
  by_cases ha : t.Accepts l
  · by_cases hl : l' = l
    · subst hl
      rw [entry?_put_self ha, entry?_put_self ha]
      exact .some (.file a b h)
    · rw [entry?_put_of_ne hl, entry?_put_of_ne hl]
      exact SameLines.refl t l'
  · have hput (e : Entry) : t.put l e = t := dif_neg ha
    rw [hput, hput]
    exact SameLines.refl t l'

end Tree

namespace Workspace

theorem sameLines_reach (hc : w.cwd = w'.cwd) (h : w.tree.SameLines w'.tree) (fl : Bool)
    (p : Text) : Reach.SameLines (w.reach fl p) (w'.reach fl p) := by
  unfold reach
  split
  · exact .refl _
  · rw [hc]
    exact Tree.sameLines_walk h fl maxLinks _ _

theorem readText?_of_sameLines (hc : w.cwd = w'.cwd) (h : w.tree.SameLines w'.tree) (p : Text) :
    w.readText? p = w'.readText? p := by
  have hr := sameLines_reach hc h true p
  unfold readText? read
  generalize w.reach true p = x at hr ⊢
  generalize w'.reach true p = y at hr ⊢
  cases hr with
  | refl r => rfl
  | entry l he =>
    cases he with
    | refl e => rfl
    | file a b ht =>
      dsimp only
      rw [LineEnd.readContent ht, LineEnd.readContent ht]

end Workspace

/-! ## Classifying -/

namespace Classifier

theorem scanFiles_congr (h : ∀ p ∈ files, w.readText? p = w'.readText? p) :
    k.scanFiles w files = k.scanFiles w' files := by
  induction files with
  | nil => rfl
  | cons p ps ih =>
    have hp : k.scanFile w p = k.scanFile w' p := by
      unfold scanFile
      rw [h p List.mem_cons_self]
    unfold scanFiles
    rw [hp, ih fun q hq => h q (List.mem_cons_of_mem p hq)]

/-- A source that holds a text is classified by the imports of the text. -/
theorem classifyFiles_of_readText? (hu : Path.isUsable p = true) (h : w.readText? p = some t) :
    (k.classifyFiles w [p]).result =
      (if k.filter.isSource p then k.classifySource t else .ok []).map fun cs =>
        (.ofClassifications cs, []) := by
  have hscan : (k.scanFile w p).result =
      (if k.filter.isSource p then k.classifySource t else .ok []).map fun cs => ⟨cs, []⟩ := by
    unfold scanFile
    rw [hu, h]
    cases k.filter.isSource p <;> rfl
  rw [result_classifyFiles]
  unfold scanFiles scanFiles
  rw [Outcome.result_bind, hscan]
  rcases (if k.filter.isSource p then k.classifySource t else .ok []) with e | cs
  · rfl
  · show Except.ok (DependencyLists.ofClassifications (cs ++ []), ([] : List Text)) = _
    rw [List.append_nil]
    rfl

/-- The line ends of a source, or of other files, change nothing that its classification gives or
reports. -/
theorem line_ends_invisible (k : Classifier) :
    (∀ (w : Workspace) (p t : Text) (e : LineEnd), '\r' ∉ t → w.read p = .ok (e.content t) →
      (k.classifyFiles w [p]).result =
        (if k.filter.isSource p then k.classifySource t else .ok []).map fun cs =>
          (.ofClassifications cs, [])) ∧
    ∀ w w' : Workspace, w.cwd = w'.cwd → w.tree.SameLines w'.tree →
      ∀ files, k.classifyFiles w files = k.classifyFiles w' files := by
  refine ⟨fun w p t e ht hp => ?_, fun w w' hc h files => ?_⟩
  · exact classifyFiles_of_readText? (Workspace.isUsable_of_read hp)
      (Workspace.readText?_of_content ht hp)
  · unfold classifyFiles
    rw [scanFiles_congr fun p _ => Workspace.readText?_of_sameLines hc h p]

/-- A source whose first keyword is cut off from its literal by a line end, and whose second literal
has a line end in it. -/
def brokenLines : Text := "import\n'vue'\nimport 'a\nb'\n".toList

/-- A directory with this source, stored with a line end. -/
def brokenSource (e : LineEnd) : Workspace :=
  ⟨Tree.empty.put ["a.ts".toList] (.file (e.content brokenLines)), []⟩

theorem line_ends_invisible_broken_lines :
    ('\r' ∉ brokenLines ∧
      (brokenSource .cr).read "a.ts".toList = .ok (LineEnd.cr.content brokenLines)) ∧
    ((brokenSource .crlf).cwd = (brokenSource .cr).cwd ∧
      (brokenSource .crlf).tree.SameLines (brokenSource .cr).tree) ∧
    (vueClassifier.classifyFiles (brokenSource .crlf) ["a.ts".toList]).result =
      .ok (⟨["vue".toList], [], ["a\nb".toList]⟩, []) := by
  have ht : '\r' ∉ brokenLines := by decide
  have hread : (brokenSource .cr).read "a.ts".toList = .ok (LineEnd.cr.content brokenLines) := by
    decide +kernel
  have hsame : (brokenSource .crlf).tree.SameLines (brokenSource .cr).tree :=
    Tree.sameLines_put ht Tree.empty ["a.ts".toList] .crlf .cr
  obtain ⟨hown, hboth⟩ := line_ends_invisible vueClassifier
  refine ⟨⟨ht, hread⟩, ⟨rfl, hsame⟩, ?_⟩
  rw [hboth (brokenSource .crlf) (brokenSource .cr) rfl hsame, hown _ _ _ _ ht hread]
  decide +kernel

end Classifier

end ComponentManifest
