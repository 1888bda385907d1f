import RecordSchema.Layout
import RecordSchema.Proofs.InstantText
import RecordSchema.Proofs.Resolution
import RecordSchema.Proofs.Session
import RecordSchema.Proofs.Stored
import RecordSchema.Text.Parts

/-!
# Joining the lines of a layout

`Text.joinLines` undoes what breaking a layout into lines does to it: it drops the blanks at the
start of each line and puts one behind each comma that ends a line. A layout whose labels cannot be
taken for indentation and whose delimiters and atoms do not look like separators (`Layout.IsPlain`)
keeps its text, whatever the width and the indentation (`Layout.KeepsText`): the lines, joined, are
the text on one line. The layouts of values are plain when the names of fields can be labels
(`Value.keepsText_layout`).
-/

namespace RecordSchema

open Outcome

namespace Text

/-! ## Lines -/

/-- What a line contributes to the joined text: the indentation goes, and a comma at the end is
followed by a blank. -/
def joinedLine (line : List Char) : List Char :=
  line.dropWhile (· == ' ') ++ if line.getLast? = some ',' then [' '] else []

/-- The lines of a text in one. -/
def joinLines (text : List Char) : List Char :=
  (splitOn '\n' text).flatMap joinedLine

/-- A text without the separator is its only part. -/
theorem splitOn_of_not_mem {separator : Char} {text : List Char} (h : separator ∉ text) :
    splitOn separator text = [text] := by
  induction text with
  | nil => rfl
  | cons c rest ih =>
      obtain ⟨hc, hrest⟩ := not_or.mp (mt List.mem_cons.mpr h)
      rw [splitOn, if_neg (Ne.symm hc), ih hrest]

/-- A separator ends the parts before it. -/
theorem splitOn_append_cons (separator : Char) (left right : List Char) :
    splitOn separator (left ++ separator :: right)
      = splitOn separator left ++ splitOn separator right := by
  induction left with
  | nil => simp [splitOn]
  | cons c rest ih =>
      rw [List.cons_append, splitOn, splitOn]
      by_cases hc : c = separator
      · rw [if_pos hc, if_pos hc, ih, List.cons_append]
      · rw [if_neg hc, if_neg hc, ih]
        cases hparts : splitOn separator rest with
        | nil => exact absurd hparts (splitOn_ne_nil separator rest)
        | cons part parts => rfl

/-- Lines side by side are a line. -/
theorem not_mem_append_append {c : Char} {left text right : List Char} (hleft : c ∉ left)
    (htext : c ∉ text) (hright : c ∉ right) : c ∉ left ++ text ++ right := by
  simp [hleft, htext, hright]

/-- A single line is joined by itself. -/
theorem joinLines_of_not_mem {line : List Char} (h : '\n' ∉ line) :
    joinLines line = joinedLine line := by
  rw [joinLines, splitOn_of_not_mem h, List.flatMap_singleton]

/-- The lines before a line break and those behind it are joined by themselves. -/
theorem joinLines_append_cons (left right : List Char) :
    joinLines (left ++ '\n' :: right) = joinLines left ++ joinLines right := by
  rw [joinLines, splitOn_append_cons, List.flatMap_append, joinLines, joinLines]

/-! ## Labels and tokens -/

/-- The text can start a line: it is no indentation, and it does not break the line. -/
structure IsLabel (text : List Char) : Prop where
  not_mem : '\n' ∉ text
  head : text.head? ≠ some ' '

/-- The text can start a line and end it: it is there, and its last character is no comma. -/
structure IsToken (text : List Char) : Prop extends IsLabel text where
  ne_nil : text ≠ []
  last : text.getLast? ≠ some ','

instance (text : List Char) : Decidable (IsLabel text) :=
  decidable_of_iff ('\n' ∉ text ∧ text.head? ≠ some ' ')
    ⟨fun h => ⟨h.1, h.2⟩, fun h => ⟨h.not_mem, h.head⟩⟩

variable {text left right : List Char}

/-- A label is no indentation. -/
theorem IsLabel.dropWhile_blank (h : IsLabel text) : text.dropWhile (· == ' ') = text := by
  cases text with
  | nil => rfl
  | cons c rest =>
      have hc : c ≠ ' ' := fun hc => h.head (congrArg some hc)
      rw [List.dropWhile_cons_of_neg (by simpa using hc)]

/-- A label stays one when a label follows. -/
theorem IsLabel.append (hleft : IsLabel left) (hright : IsLabel right) :
    IsLabel (left ++ right) where
  not_mem := by simp [hleft.not_mem, hright.not_mem]
  head := by
    cases left with
    | nil => exact hright.head
    | cons c rest => exact hleft.head

/-- A label before a token makes a token. -/
theorem IsLabel.append_token (hleft : IsLabel left) (hright : IsToken right) :
    IsToken (left ++ right) where
  toIsLabel := hleft.append hright.toIsLabel
  ne_nil := List.append_ne_nil_of_right_ne_nil left hright.ne_nil
  last := by
    rw [List.getLast?_append_of_ne_nil left hright.ne_nil]
    exact hright.last

/-- What encloses a line between two tokens makes a token. -/
theorem IsToken.append_append (hleft : IsToken left) (htext : '\n' ∉ text)
    (hright : IsToken right) : IsToken (left ++ text ++ right) where
  not_mem := not_mem_append_append hleft.not_mem htext hright.not_mem
  head := by
    obtain ⟨c, rest, rfl⟩ := List.exists_cons_of_ne_nil hleft.ne_nil
    exact hleft.head
  ne_nil := List.append_ne_nil_of_right_ne_nil _ hright.ne_nil
  last := by
    rw [List.getLast?_append_of_ne_nil _ hright.ne_nil]
    exact hright.last

/-- The character neither breaks a line nor separates entries. -/
def IsSolid (c : Char) : Prop :=
  c ≠ '\n' ∧ c ≠ ' ' ∧ c ≠ ','

instance (c : Char) : Decidable (IsSolid c) :=
  inferInstanceAs (Decidable (_ ∧ _))

/-- A text of solid characters is a token. -/
theorem isToken_of_isSolid (hne : text ≠ []) (h : ∀ c ∈ text, IsSolid c) : IsToken text where
  not_mem hmem := (h _ hmem).1 rfl
  head hhead := (h _ (List.mem_of_head? hhead)).2.1 rfl
  ne_nil := hne
  last hlast := (h _ (List.mem_of_getLast? hlast)).2.2 rfl

/-- The characters of a fixed text can be tested. -/
theorem isToken_of_all (hne : text ≠ []) (h : text.all fun c ↦ decide (IsSolid c)) : IsToken text :=
  isToken_of_isSolid hne fun c hc => of_decide_eq_true (List.all_eq_true.mp h c hc)

/-- What a test accepts is solid if the test refuses the other characters. -/
theorem isSolid_of_test {test : Char → Bool} {c : Char} (hc : test c)
    (htest : test '\n' = false ∧ test ' ' = false ∧ test ',' = false) : IsSolid c := by
  obtain ⟨hbreak, hblank, hcomma⟩ := htest
  refine ⟨?_, ?_, ?_⟩ <;> rintro rfl <;> simp_all

/-- What starts with a token is not indented. -/
theorem IsToken.joinedLine_append (h : IsToken text) (after : List Char) :
    joinedLine (text ++ after)
      = text ++ after ++ if (text ++ after).getLast? = some ',' then [' '] else [] := by
  obtain ⟨c, rest, rfl⟩ := List.exists_cons_of_ne_nil h.ne_nil
  have hc : c ≠ ' ' := fun hc => h.head (congrArg some hc)
  rw [joinedLine, List.cons_append, List.dropWhile_cons_of_neg (by simpa using hc)]

/-- A token is joined to itself. -/
theorem IsToken.joinedLine_eq (h : IsToken text) : joinedLine text = text := by
  simpa [h.last] using h.joinedLine_append []

/-- A separating comma at the end of a line is followed by a blank. -/
theorem IsToken.joinedLine_comma (h : IsToken text) :
    joinedLine (text ++ [',']) = text ++ [',', ' '] := by
  simpa using h.joinedLine_append [',']

end Text

namespace Layout

open Text

theorem not_mem_blanks (indent : Nat) {c : Char} (hc : c ≠ ' ') : c ∉ blanks indent :=
  fun hmem => hc (List.eq_of_mem_replicate hmem)

/-- Blanks at the start of a line are its indentation. -/
theorem joinedLine_blanks_append (indent : Nat) {line : List Char} (hne : line ≠ []) :
    joinedLine (blanks indent ++ line) = joinedLine line := by
  have hdrop : (blanks indent ++ line).dropWhile (· == ' ') = line.dropWhile (· == ' ') := by
    rw [List.dropWhile_append_of_pos fun c hc => by simp [List.eq_of_mem_replicate hc]]
  rw [joinedLine, joinedLine, hdrop, List.getLast?_append_of_ne_nil _ hne]

/-! ## Plain layouts -/

/-- What holds of a layout whenever it holds of its entries holds of every layout. -/
@[elab_as_elim]
theorem induction {motive : Layout → Prop} (atom : ∀ text, motive (.atom text))
    (group : ∀ opening closing entries, (∀ entry ∈ entries, motive entry.2) →
      motive (.group opening closing entries))
    (layout : Layout) : motive layout :=
  @Layout.rec motive (fun entries => ∀ entry ∈ entries, motive entry.2)
    (fun entry => motive entry.2) atom group (fun _ h => absurd h List.not_mem_nil)
    (fun _ _ hhead htail => List.forall_mem_cons.mpr ⟨hhead, htail⟩) (fun _ _ h => h) layout

/-- The atoms and the delimiters of the layout are tokens, and its labels are labels. -/
inductive IsPlain : Layout → Prop where
  | atom {text} : IsToken text → IsPlain (.atom text)
  | group {opening closing entries} : IsToken opening → IsToken closing →
      (∀ entry ∈ entries, IsLabel entry.1) → (∀ entry ∈ entries, IsPlain entry.2) →
      IsPlain (.group opening closing entries)

/-- Entries on one line are a line if their labels and layouts are. -/
theorem not_mem_flatEntries : ∀ {entries : List (List Char × Layout)},
    (∀ entry ∈ entries, '\n' ∉ entry.1 ∧ '\n' ∉ entry.2.flat) → '\n' ∉ flatEntries entries
  | [], _ => by simp [flatEntries]
  | [(label, entry)], h => by simpa [flatEntries] using h
  | (label, entry) :: next :: rest, h => by
      obtain ⟨⟨hlabel, hentry⟩, hrest⟩ := List.forall_mem_cons.mp h
      simp [flatEntries, hlabel, hentry, not_mem_flatEntries hrest]

/-- A plain layout on one line is a token. -/
theorem IsPlain.isToken_flat {layout : Layout} (h : layout.IsPlain) : IsToken layout.flat := by
  induction h with
  | atom htext => rwa [flat]
  | group hopening hclosing hlabels _ ih =>
      rw [flat]
      refine hopening.append_append (not_mem_flatEntries fun entry hmem => ?_) hclosing
      exact ⟨(hlabels entry hmem).not_mem, (ih entry hmem).not_mem⟩

/-! ## Joining what was broken -/

/-- Between whatever stands before and behind it on its first and its last line, the layout is
joined to its text on one line. -/
def Joins (layout : Layout) : Prop :=
  ∀ config indent column trailing before after, '\n' ∉ before → '\n' ∉ after →
    joinLines (before ++ layout.chars config indent column trailing ++ after)
      = joinedLine (before ++ layout.flat ++ after)

/-- A group that is broken behind its opening and before its closing loses nothing. -/
theorem joinedLine_group {opening closing : List Char} (hopening : IsToken opening)
    (hclosing : IsToken closing) (before middle after : List Char) (indent : Nat) :
    joinedLine (before ++ opening) ++ middle ++ joinedLine (blanks indent ++ (closing ++ after))
      = joinedLine (before ++ (opening ++ middle ++ closing) ++ after) := by
  -- The opening is no indentation, so that only what is before it can be.
  have hstart : (before ++ opening).dropWhile (· == ' ') ≠ [] := by
    rw [List.dropWhile_append, hopening.dropWhile_blank]
    split
    · exact hopening.ne_nil
    · exact List.append_ne_nil_of_right_ne_nil _ hopening.ne_nil
  have hdrop : ∀ rest, (before ++ opening ++ rest).dropWhile (· == ' ')
      = (before ++ opening).dropWhile (· == ' ') ++ rest := fun rest => by
    rw [List.dropWhile_append, if_neg (by simpa using hstart)]
  have hopened : joinedLine (before ++ opening) = (before ++ opening).dropWhile (· == ' ') := by
    rw [joinedLine, List.getLast?_append_of_ne_nil _ hopening.ne_nil, if_neg hopening.last,
      List.append_nil]
  have hclosed : joinedLine (blanks indent ++ (closing ++ after))
      = closing ++ after ++ if (closing ++ after).getLast? = some ',' then [' '] else [] := by
    rw [joinedLine_blanks_append indent (List.append_ne_nil_of_left_ne_nil hclosing.ne_nil _),
      hclosing.joinedLine_append]
  have hlast : (before ++ opening ++ (middle ++ (closing ++ after))).getLast?
      = (closing ++ after).getLast? := by
    rw [← List.append_assoc,
      List.getLast?_append_of_ne_nil _ (List.append_ne_nil_of_left_ne_nil hclosing.ne_nil _)]
  have hassoc : before ++ (opening ++ middle ++ closing) ++ after
      = before ++ opening ++ (middle ++ (closing ++ after)) := by
    simp only [List.append_assoc]
  rw [hopened, hclosed, hassoc, joinedLine, hlast, hdrop]
  simp only [List.append_assoc]

/-- An entry on a line of its own is joined to its label and its text. -/
theorem Joins.joinLines_entry {layout : Layout} (h : layout.Joins) {label after : List Char}
    (hlabel : IsLabel label) (htoken : IsToken layout.flat) (hafter : '\n' ∉ after)
    (config : LayoutConfig) (indent column trailing : Nat) :
    joinLines (blanks indent ++ label ++ layout.chars config indent column trailing ++ after)
      = joinedLine (label ++ layout.flat ++ after) := by
  have hbefore : '\n' ∉ blanks indent ++ label := by simp [not_mem_blanks, hlabel.not_mem]
  have hne : label ++ layout.flat ++ after ≠ [] := by simp [htoken.ne_nil]
  rw [h _ _ _ _ _ _ hbefore hafter, ← joinedLine_blanks_append indent hne]
  simp only [List.append_assoc]

/-- The entries of a broken group give the entries on one line. -/
theorem joinLines_brokenEntries (config : LayoutConfig) (indent : Nat) (rest : List Char) :
    ∀ {entries : List (List Char × Layout)}, (∀ entry ∈ entries, IsLabel entry.1) →
      (∀ entry ∈ entries, IsToken entry.2.flat) → (∀ entry ∈ entries, entry.2.Joins) →
      joinLines (brokenEntries config indent entries ++ rest)
        = flatEntries entries ++ joinLines rest
  | [], _, _, _ => rfl
  | [(label, entry)], hlabels, htokens, hjoins => by
      have hlabel : IsLabel label := hlabels _ List.mem_cons_self
      have htoken : IsToken entry.flat := htokens _ List.mem_cons_self
      have hjoin : entry.Joins := hjoins _ List.mem_cons_self
      have hline := hjoin.joinLines_entry hlabel htoken List.not_mem_nil config indent
        (indent + label.length) 0
      rw [List.append_nil, List.append_nil, (hlabel.append_token htoken).joinedLine_eq] at hline
      rw [brokenEntries, flatEntries, List.append_assoc, List.singleton_append,
        joinLines_append_cons, hline]
  | (label, entry) :: next :: others, hlabels, htokens, hjoins => by
      have hlabel : IsLabel label := hlabels _ List.mem_cons_self
      have htoken : IsToken entry.flat := htokens _ List.mem_cons_self
      have hjoin : entry.Joins := hjoins _ List.mem_cons_self
      have hcomma : '\n' ∉ [','] := by decide
      have hline := hjoin.joinLines_entry hlabel htoken hcomma config indent
        (indent + label.length) 1
      rw [(hlabel.append_token htoken).joinedLine_comma] at hline
      have hothers := joinLines_brokenEntries config indent rest
        (List.forall_mem_of_forall_mem_cons hlabels) (List.forall_mem_of_forall_mem_cons htokens)
        (List.forall_mem_of_forall_mem_cons hjoins)
      rw [brokenEntries, flatEntries, List.append_assoc _ _ rest, List.cons_append,
        List.cons_append, List.append_cons, joinLines_append_cons, hline, hothers]
      simp only [List.append_assoc, List.cons_append, List.nil_append]

/-- A plain layout loses nothing when it is broken. -/
theorem IsPlain.joins {layout : Layout} (h : layout.IsPlain) : layout.Joins := by
  induction layout using Layout.induction with
  | atom text =>
      intro config indent column trailing before after hbefore hafter
      have hline := h.isToken_flat.not_mem
      rw [flat] at hline
      rw [chars, flat, joinLines_of_not_mem (not_mem_append_append hbefore hline hafter)]
  | group opening closing entries ih =>
      intro config indent column trailing before after hbefore hafter
      have hline := h.isToken_flat.not_mem
      obtain - | ⟨hopening, hclosing, hlabels, hentries⟩ := h
      rw [flat] at hline
      rw [chars, flat]
      split
      next => rw [joinLines_of_not_mem (not_mem_append_append hbefore hline hafter)]
      next =>
        have hfirst : '\n' ∉ before ++ opening := by simp [hbefore, hopening.not_mem]
        have hlast : '\n' ∉ blanks indent ++ (closing ++ after) := by
          simp [not_mem_blanks, hclosing.not_mem, hafter]
        have hmiddle := joinLines_brokenEntries config (indent + config.indent)
          (blanks indent ++ (closing ++ after)) hlabels
          (fun entry hmem => (hentries entry hmem).isToken_flat)
          fun entry hmem => ih entry hmem (hentries entry hmem)
        have hlines : before ++ (opening ++ '\n' :: brokenEntries config (indent + config.indent)
              entries ++ blanks indent ++ closing) ++ after
            = before ++ opening ++ '\n' :: (brokenEntries config (indent + config.indent) entries
              ++ (blanks indent ++ (closing ++ after))) := by
          simp only [List.append_assoc, List.cons_append]
        rw [hlines, joinLines_append_cons, hmiddle, joinLines_of_not_mem hfirst,
          joinLines_of_not_mem hlast, ← List.append_assoc, joinedLine_group hopening hclosing]

/-- All configurations lay out one text: it is the whole text where the lines are wide enough, and
what the lines give when they are joined. -/
structure KeepsText (layout : Layout) : Prop where
  wide : ∀ config : LayoutConfig, layout.flat.length ≤ config.maxWidth →
    (layout.text config).toList = layout.flat
  joined : ∀ config, joinLines (layout.text config).toList = layout.flat
  same : ∀ config other,
    joinLines (layout.text config).toList = joinLines (layout.text other).toList

/-- A plain layout keeps its text. -/
theorem IsPlain.keepsText {layout : Layout} (h : layout.IsPlain) : layout.KeepsText := by
  have hjoined : ∀ config, joinLines (layout.text config).toList = layout.flat := by
    intro config
    have hjoin := h.joins config 0 0 0 [] [] List.not_mem_nil List.not_mem_nil
    rw [text, String.toList_ofList]
    simpa [h.isToken_flat.joinedLine_eq] using hjoin
  refine ⟨fun config hwide => ?_, hjoined, fun config other => ?_⟩
  · rw [text, String.toList_ofList, chars_eq_flat (by simpa using hwide)]
  · rw [hjoined, hjoined]

end Layout

/-! ## Atoms and labels of values -/

namespace Text

theorem isSolid_of_isDigit {c : Char} (h : c.isDigit) : IsSolid c :=
  isSolid_of_test h (by decide)

/-- An identifier is a token. -/
theorem isToken_of_isIdentifier {name : String} (h : isIdentifier name) : IsToken name.toList := by
  refine isToken_of_isSolid ?_ fun c hc => ?_
  · intro hnil
    simp [isIdentifier, hnil, isIdentifierChars] at h
  · exact isSolid_of_test (List.all_eq_true.mp (all_continuesIdentifier h) c hc) (by decide)

/-- No line is broken inside quotes. -/
theorem not_mem_escapeChar (c : Char) : '\n' ∉ escapeChar c := by
  have hdigit : ∀ n < 16, '\n' ≠ hexDigit n := by decide
  unfold escapeChar
  split
  case h_8 _ _ _ _ hbreak _ _ =>
    split
    next hcontrol =>
      have hhigh := hdigit (c.toNat / 16) (by omega)
      have hlow := hdigit (c.toNat % 16) (by omega)
      simp [hhigh, hlow]
    next => simpa using Ne.symm hbreak
  all_goals decide

/-- A quoted text is a token. -/
theorem isToken_quoteChars (text : List Char) : IsToken (quoteChars text) := by
  have hquote : IsToken ['"'] := isToken_of_all (by decide) (by decide)
  refine hquote.append_append (fun hmem => ?_) hquote
  obtain ⟨c, -, hc⟩ := List.mem_flatMap.mp hmem
  exact not_mem_escapeChar c hc

end Text

namespace Value

open Text Layout

section Characters

variable {p : Char → Prop} (hdigit : ∀ c, c.isDigit → p c)

include hdigit

/-- A decimal without exponent is written in digits, with a point. -/
theorem forall_mem_positional (hpoint : p '.') (d : Decimal) : ∀ c ∈ d.positional false, p c := by
  have hdigits : ∀ c ∈ d.digitChars, p c := fun c hc =>
    hdigit c (Nat.isDigit_of_mem_toDigits (by decide) (by decide) hc)
  have hzeros : ∀ count, ∀ c ∈ List.replicate count '0', p c := fun count c hc => by
    rw [List.eq_of_mem_replicate hc]
    exact hdigit _ (by decide)
  have htake : ∀ count, ∀ c ∈ d.digitChars.take count, p c :=
    fun count c hc => hdigits c (List.mem_of_mem_take hc)
  have hdrop : ∀ count, ∀ c ∈ d.digitChars.drop count, p c :=
    fun count c hc => hdigits c (List.mem_of_mem_drop hc)
  simp only [Decimal.positional, Bool.false_eq_true, if_false, List.append_nil]
  split
  · simpa only [List.forall_mem_append] using ⟨hdigits, hzeros _⟩
  · split
    · simpa only [List.forall_mem_append, List.forall_mem_cons] using ⟨htake _, hpoint, hdrop _⟩
    · simpa only [List.forall_mem_append, List.forall_mem_cons, List.cons_append]
        using ⟨hdigit _ (by decide), hpoint, hzeros _, hdigits⟩

/-- An instant is written in digits, with letters and signs between them. -/
theorem forall_mem_textChars [DecidablePred p] (hsigns : ['-', '+', 'T', ':', '.', 'Z'].all p)
    (i : Instant) : ∀ c ∈ i.textChars, p c := by
  have hsign : ∀ c ∈ ['-', '+', 'T', ':', '.', 'Z'], p c := by simpa using hsigns
  have hdigits : ∀ width n, ∀ c ∈ Instant.padded width n, p c := fun width n c hc =>
    hdigit c (Instant.isDigit_of_mem_padded width n hc)
  have hyear : ∀ c ∈ Instant.yearText i.day.year, p c := by
    intro c hc
    rw [Instant.yearText] at hc
    split at hc
    · exact hdigits _ _ c hc
    · rcases List.mem_cons.mp hc with rfl | hc
      · split <;> exact hsign _ (by decide)
      · exact hdigits _ _ c hc
  have hpart : ∀ {sign : Char}, sign ∈ ['-', '+', 'T', ':', '.', 'Z'] → ∀ width n,
      ∀ c ∈ sign :: Instant.padded width n, p c := fun hmem width n =>
    List.forall_mem_cons.mpr ⟨hsign _ hmem, hdigits width n⟩
  have hend : ∀ c ∈ ['Z'], p c := List.forall_mem_singleton.mpr (hsign _ (by decide))
  simp only [Instant.textChars, List.forall_mem_append]
  exact ⟨⟨⟨⟨⟨⟨⟨hyear, hpart (by decide) _ _⟩, hpart (by decide) _ _⟩, hpart (by decide) _ _⟩,
    hpart (by decide) _ _⟩, hpart (by decide) _ _⟩, hpart (by decide) _ _⟩, hend⟩

end Characters

theorem isToken_positional (d : Decimal) : IsToken (d.positional false) := by
  refine isToken_of_isSolid ?_
    (forall_mem_positional (fun c => isSolid_of_isDigit) (by decide) d)
  have hne : d.digitChars ≠ [] := Nat.toDigits_ne_nil
  simp only [Decimal.positional]
  split
  · simp [hne]
  · split <;> simp

/-- A number is written as a decimal, with a sign, or in letters. -/
theorem isToken_valueText (x : Binary64) : IsToken x.valueText.toList := by
  have hsign : ∀ negative : Bool, IsLabel (if negative then ['-'] else []) := by
    rintro (_ | _) <;> constructor <;> decide
  cases x with
  | nan => exact isToken_of_all (by decide) (by decide)
  | infinity negative => cases negative <;> exact isToken_of_all (by decide) (by decide)
  | finite negative mantissa exponent canonical =>
      rw [Binary64.valueText, Binary64.text]
      split
      next => cases negative <;> exact isToken_of_all (by decide) (by decide)
      next =>
        rw [String.toList_ofList]
        exact (hsign negative).append_token (isToken_positional _)

theorem isToken_textChars (i : Instant) : IsToken i.textChars := by
  refine isToken_of_isSolid (List.append_ne_nil_of_right_ne_nil _ (List.cons_ne_nil _ _)) ?_
  exact forall_mem_textChars (fun c => isSolid_of_isDigit) (by decide) i

/-- The label of a field is one when the name of the field is. -/
theorem isLabel_fieldLabel {name : String} (h : IsLabel name.toList) : IsLabel (fieldLabel name) :=
  h.append ⟨by decide, by decide⟩

/-- The label of a member is an identifier or quoted. -/
theorem isLabel_memberLabel (key : String) : IsLabel (memberLabel key) := by
  rw [memberLabel]
  refine IsLabel.append ?_ ⟨by decide, by decide⟩
  split
  next hkey => exact (isToken_of_isIdentifier hkey).toIsLabel
  next => exact (isToken_quoteChars key.toList).toIsLabel

/-! ## Instances -/

/-- Fields are named by texts that can start a line, if the value is an instance. -/
def HasLabels : Value → Prop
  | .tagged _ _ fields => ∀ field ∈ fields, IsLabel field.1.toList
  | _ => True

/-- The value is of a type that some registry was built with, if it is an instance, and of a variant
of it, if it is a union. -/
def IsOfBuiltType : Value → Prop
  | .tagged tag variant _ => ∃ r : Registry, r.IsBuiltWithCodecs ∧ tag.registry = r.number ∧
      ∃ d, r.definition? tag.typeName = some d ∧ (d.fieldsOf? variant).isSome
  | _ => True

end Value

/-- Types are declared under identifiers. -/
theorem TypeDefinition.IsDeclared.isIdentifier_name {d : TypeDefinition} (h : d.IsDeclared) :
    Text.isIdentifier d.name := by
  have hchecked : ∀ {name}, checkName name = .ok () → Text.isIdentifier name := by
    intro name hname
    by_contra hnot
    simp [checkName, hnot] at hname
  induction h with
  | record _ hd =>
      obtain ⟨_, hname, -⟩ := bind_eq_ok.mp hd
      rw [eq_of_record hd]
      exact hchecked hname
  | union _ _ hd =>
      obtain ⟨_, hname, -⟩ := bind_eq_ok.mp hd
      rw [(eq_of_union hd).1]
      exact hchecked hname
  | withIdField _ ih => exact ih

/-- The types of a built registry are filed under identifiers. -/
theorem Registry.IsBuiltWithCodecs.isIdentifier_of_definition? {r : Registry}
    (hr : r.IsBuiltWithCodecs) {typeName : String} {d : TypeDefinition}
    (hd : r.definition? typeName = some d) : Text.isIdentifier typeName := by
  obtain ⟨entry, hentry, -⟩ := Option.map_eq_some_iff.mp hd
  obtain ⟨declarations, hdeclared, hbuild⟩ := hr
  obtain ⟨-, -, hregistered⟩ := Declarations.build_eq_ok.mp hbuild
  obtain ⟨declared, hmem, hregisters⟩ :=
    exists_of_mem_right hregistered (Entries.mem_of_get? hentry)
  have hname : typeName = declared.name := hregisters.name_eq
  exact hname ▸ (hdeclared declared hmem).isIdentifier_name

namespace Value

open Text Layout

/-- What is sound among built registries has instances of their types only. -/
theorem Sound.isOfBuiltType {registries : List Registry} {value : Value}
    (h : value.Sound registries) (hbuilt : ∀ r ∈ registries, r.IsBuilt) :
    value.Everywhere IsOfBuiltType := by
  refine h.imp fun part hpart => ?_
  cases part with
  | tagged tag variant fields =>
      obtain ⟨r, hr, typeName, hvalid⟩ := hpart
      cases hvalid with
      | tagged hd hdeclared =>
          exact ⟨r, (hbuilt r hr).isBuiltWithCodecs, rfl, _, hd, Option.isSome_of_eq_some hdeclared⟩
  | _ => trivial

/-- An instance is laid out under the name of its type, with that of its variant. -/
theorem isToken_qualifiedName {tag : TypeTag} {variant : Option String} {fields : Entries Value}
    (h : IsOfBuiltType (.tagged tag variant fields)) :
    IsToken (Instance.mk tag variant []).qualifiedName.toList := by
  obtain ⟨r, hr, -, d, hd, hfields⟩ := h
  have htype : IsToken tag.typeName.toList :=
    isToken_of_isIdentifier (hr.isIdentifier_of_definition? hd)
  cases variant with
  | none => exact htype
  | some variant =>
      obtain ⟨declared, hdeclared⟩ := Option.isSome_iff_exists.mp hfields
      have hvariant : IsToken variant.toList :=
        isToken_of_isIdentifier ((hr.checked.names hd).identifier hdeclared)
      have hpoint : IsLabel ['.'] := ⟨by decide, by decide⟩
      have htoken := (htype.toIsLabel.append hpoint).append_token hvariant
      simpa [Instance.qualifiedName, Instance.typeName] using htoken

/-- Items are laid out one by one. -/
theorem layoutItems_eq_map (items : List Value) :
    layoutItems items = items.map fun item ↦ ([], item.layout) := by
  induction items with
  | nil => rfl
  | cons item items ih => rw [layoutItems, ih, List.map_cons]

/-- Named values are laid out plainly under labels. -/
theorem isPlain_group_layoutEntries {label : String → List Char} {entries : Entries Value}
    {opening closing : List Char} (hopening : IsToken opening) (hclosing : IsToken closing)
    (hlabels : ∀ entry ∈ entries, IsLabel (label entry.1))
    (hentries : ∀ entry ∈ entries, entry.2.layout.IsPlain) :
    (Layout.group opening closing (layoutEntries label entries)).IsPlain := by
  rw [layoutEntries_eq_map]
  refine .group hopening hclosing ?_ ?_
  · simpa only [List.forall_mem_map] using hlabels
  · simpa only [List.forall_mem_map] using hentries

/-- Values are laid out plainly if their fields can be labels. -/
theorem isPlain_layout {value : Value} (hlabels : value.Everywhere HasLabels)
    (htypes : value.Everywhere IsOfBuiltType) : value.layout.IsPlain := by
  have hsign : ∀ sign : Char, IsSolid sign → IsToken [sign] := fun sign hsign =>
    isToken_of_isSolid (List.cons_ne_nil _ _) (by simpa using hsign)
  induction value using Value.induction with
  | null => exact .atom (isToken_of_all (by decide) (by decide))
  | bool b => cases b <;> exact .atom (isToken_of_all (by decide) (by decide))
  | number x => exact .atom (isToken_valueText x)
  | string s => exact .atom (isToken_quoteChars s.toList)
  | date i => exact .atom (isToken_textChars i)
  | array items ih =>
      rw [everywhere_array] at hlabels htypes
      have hempty : IsLabel [] := ⟨by decide, by decide⟩
      rw [layout, layoutItems_eq_map]
      refine .group (hsign _ (by decide)) (hsign _ (by decide)) ?_ ?_
      · simpa only [List.forall_mem_map] using fun item _ => hempty
      · simpa only [List.forall_mem_map] using fun item hmem =>
          ih item hmem (hlabels.2 item hmem) (htypes.2 item hmem)
  | object members ih =>
      rw [everywhere_object] at hlabels htypes
      exact isPlain_group_layoutEntries (hsign _ (by decide)) (hsign _ (by decide))
        (fun member _ => isLabel_memberLabel member.1)
        fun member hmem => ih member hmem (hlabels.2 member hmem) (htypes.2 member hmem)
  | tagged tag variant fields ih =>
      rw [everywhere_tagged] at hlabels htypes
      have hopening := (isToken_qualifiedName htypes.1).toIsLabel.append_token
        (hsign '(' (by decide))
      exact isPlain_group_layoutEntries hopening (hsign _ (by decide))
        (fun field hmem => isLabel_fieldLabel (hlabels.1 field hmem))
        fun field hmem => ih field hmem (hlabels.2 field hmem) (htypes.2 field hmem)

/-- Breaking the text of a value into lines does not change it, whatever the width and the
indentation. The same holds of named fields under a given name. -/
theorem keepsText_layout :
    (∀ value : Value, value.Everywhere HasLabels → value.Everywhere IsOfBuiltType →
      value.layout.KeepsText) ∧
    ∀ (name : String) (fields : Entries Value), IsLabel name.toList →
      (∀ field ∈ fields, IsLabel field.1.toList) →
      (∀ field ∈ fields, field.2.Everywhere HasLabels) →
      (∀ field ∈ fields, field.2.Everywhere IsOfBuiltType) →
      (Instance.layoutFields name fields).KeepsText := by
  refine ⟨fun value hlabels htypes => (isPlain_layout hlabels htypes).keepsText, ?_⟩
  intro name fields hname hfields hlabels htypes
  have hopening : IsToken (name.toList ++ ['(']) :=
    hname.append_token (isToken_of_all (by decide) (by decide))
  have hclosing : IsToken [')'] := isToken_of_all (by decide) (by decide)
  refine (isPlain_group_layoutEntries hopening hclosing ?_ ?_).keepsText
  · exact fun field hmem => isLabel_fieldLabel (hfields field hmem)
  · exact fun field hmem => isPlain_layout (hlabels field hmem) (htypes field hmem)

end Value

/-- A board with tasks and events keeps its text, however it is broken into lines, and so do its
fields under another name. -/
theorem Boards.keepsText_board :
    (Value.ofInstance board).layout.KeepsText ∧
      (Instance.layoutFields "Plan" board.fields).KeepsText := by
  have hlabels : (Value.ofInstance board).Everywhere Value.HasLabels := by
    have hstring : ∀ s, (Value.string s).Everywhere Value.HasLabels :=
      fun s => .of_leaf trivial trivial
    have hnumber : ∀ x, (Value.number x).Everywhere Value.HasLabels :=
      fun x => .of_leaf trivial trivial
    have hdate : ∀ i, (Value.date i).Everywhere Value.HasLabels := fun i => .of_leaf trivial trivial
    have hnull : Value.null.Everywhere Value.HasLabels := .of_leaf trivial trivial
    simp +decide [Value.ofInstance, board, dueTask, task, opened, Value.everywhere_tagged,
      Value.everywhere_object, Value.everywhere_array, Value.HasLabels, hstring, hnumber, hdate,
      hnull]
  have hsound : (Value.ofInstance board).Sound session.registries :=
    reachable_session.isSound.sound ⟨decodeBoard, board⟩ List.mem_cons_self
  have htypes := hsound.isOfBuiltType reachable_session.isSound.built
  have hinner := Value.everywhere_tagged.mp hlabels
  exact ⟨Value.keepsText_layout.1 _ hlabels htypes, Value.keepsText_layout.2 _ _ (by decide)
    hinner.1 hinner.2 (Value.everywhere_tagged.mp htypes).2⟩

end RecordSchema
