import RecordSchema.Json.Reader
import RecordSchema.Proofs.JoinedLines

/-!
# Reading data from its text

Data is what a value is if it holds no instance. Two such values have the same text, on one line or
broken into lines, exactly if they are written alike (`Value.text_layout_eq_iff`): they differ in
the sign of zero and in what is finer than a millisecond, at the most. The lines of a text are
joined first. A layout is then the only one with its text (`Layout.IsReadable.isReadOnce`), since
its atoms are quoted or are words, which have none of the signs between atoms in them, and the
layout tells the data.
-/

namespace RecordSchema

open Text

/-! ## Quoted text -/

namespace Json

/-- A character is read back from its escape, or from itself if it needs none. -/
theorem stringFrom?_escapeChar (steps : Nat) (read : List Char) (c : Char) (rest : List Char) :
    stringFrom? (steps + 1) read (escapeChar c ++ rest) = stringFrom? steps (c :: read) rest := by
  have hhex : ∀ n < 16, hexValue? (hexDigit n) = some n := by decide
  unfold escapeChar
  split
  case h_8 _ hquote hback _ _ _ _ _ =>
    split
    next hcontrol =>
      have hescape : unicodeEscape? ('0' :: '0' :: hexDigit (c.toNat / 16) ::
          hexDigit (c.toNat % 16) :: rest) = some (c, rest) := by
        have hhigh := hhex (c.toNat / 16) (by omega)
        have hlow := hhex (c.toNat % 16) (by omega)
        have hzero : hexValue? '0' = some 0 := by decide
        have hcode : 16 * (c.toNat / 16) + c.toNat % 16 = c.toNat := Nat.div_add_mod _ _
        simp [unicodeEscape?, fourHex?, hhigh, hlow, hzero, hcode]
        omega
      simp [stringFrom?, escape?, hescape]
    next hplain =>
      rw [List.singleton_append, stringFrom?, if_neg hplain]
      · exact hquote
      · exact hback
  all_goals rfl

/-- A text is read back from between its quotes. -/
theorem stringFrom?_flatMap_escapeChar (text read rest : List Char) {steps : Nat}
    (h : text.length ≤ steps) :
    stringFrom? steps read (text.flatMap escapeChar ++ '"' :: rest) =
      some (String.ofList (read.reverse ++ text), rest) := by
  induction text generalizing read steps with
  | nil => simp [stringFrom?]
  | cons c text ih =>
      obtain ⟨steps, rfl⟩ := Nat.exists_eq_add_one_of_ne_zero (Nat.ne_zero_of_lt h)
      rw [List.flatMap_cons, List.append_assoc, stringFrom?_escapeChar,
        ih _ (Nat.le_of_succ_le_succ h)]
      simp

end Json

namespace Text

variable {left right rest rest' : List Char}

/-- At the start of a text, only one quoted text can be read. -/
theorem quoteChars_append_inj (h : quoteChars left ++ rest = quoteChars right ++ rest') :
    left = right ∧ rest = rest' := by
  have hinner :
      left.flatMap escapeChar ++ '"' :: rest = right.flatMap escapeChar ++ '"' :: rest' := by
    simpa [quoteChars] using h
  have hread := Json.stringFrom?_flatMap_escapeChar left [] rest
    (Nat.le_add_right left.length right.length)
  rw [hinner, Json.stringFrom?_flatMap_escapeChar right [] rest' (Nat.le_add_left _ _)] at hread
  obtain ⟨htext, hrest⟩ := Prod.mk.inj (Option.some.inj hread)
  exact ⟨(String.ofList_injective htext).symm, hrest.symm⟩

/-! ## Words -/

/-- At the start of a text, only one run of accepted characters can be read up to a character that
is not accepted. -/
theorem append_inj_of_all {test : Char → Bool} (hleft : left.all test) (hright : right.all test)
    (hrest : ∀ c ∈ rest.head?, test c = false) (hrest' : ∀ c ∈ rest'.head?, test c = false)
    (h : left ++ rest = right ++ rest') : left = right ∧ rest = rest' := by
  have hrun : ∀ {text rest : List Char}, text.all test → (∀ c ∈ rest.head?, test c = false) →
      (text ++ rest).takeWhile test = text := by
    intro text rest htext hrest
    rw [List.takeWhile_append_of_pos (List.all_eq_true.mp htext)]
    cases rest with
    | nil => rw [List.takeWhile_nil, List.append_nil]
    | cons c rest => rw [List.takeWhile_cons_of_neg (by simp [hrest c rfl]), List.append_nil]
  obtain rfl : left = right := by rw [← hrun hleft hrest, h, hrun hright hrest']
  exact ⟨rfl, List.append_cancel_left h⟩

/-- The character ends an entry: it separates it from the next one or closes its group. -/
def endsEntry (c : Char) : Bool :=
  [',', ']', '}'].contains c

/-- The character can stand in a word. -/
def isWordChar (c : Char) : Bool :=
  !([',', ']', '}', '"', '[', '{'].contains c)

/-- The text is a word: an atom that is not quoted. -/
structure IsWord (text : List Char) : Prop where
  ne_nil : text ≠ []
  all : text.all isWordChar

/-- What follows an entry: nothing, or a character that ends it. -/
def FollowsEntry (rest : List Char) : Prop :=
  ∀ c ∈ rest.head?, endsEntry c

theorem followsEntry_nil : FollowsEntry [] := nofun

theorem followsEntry_cons {c : Char} (h : endsEntry c) : FollowsEntry (c :: rest) := by
  rintro _ ⟨⟩
  exact h

theorem isWordChar_eq_false {c : Char} (h : endsEntry c) : isWordChar c = false := by
  have hends : c = ',' ∨ c = ']' ∨ c = '}' := by simpa [endsEntry] using h
  rcases hends with rfl | rfl | rfl <;> rfl

/-- No word goes on behind the end of its entry. -/
theorem FollowsEntry.isWordChar_eq (h : FollowsEntry rest) :
    ∀ c ∈ rest.head?, isWordChar c = false :=
  fun c hc => isWordChar_eq_false (h c hc)

/-- A word starts with one of its characters. -/
theorem IsWord.exists_cons (h : IsWord left) : ∃ c rest, left = c :: rest ∧ isWordChar c := by
  obtain ⟨c, rest, rfl⟩ := List.exists_cons_of_ne_nil h.ne_nil
  exact ⟨c, rest, rfl, List.all_eq_true.mp h.all c List.mem_cons_self⟩

/-- A word does not start with a character that cannot stand in one. -/
theorem IsWord.append_ne_cons (h : IsWord left) {c : Char} (hc : isWordChar c = false) :
    left ++ rest ≠ c :: rest' := by
  obtain ⟨d, tail, rfl, hd⟩ := h.exists_cons
  intro heq
  rw [(List.cons.inj heq).1, hc] at hd
  cases hd

/-- An identifier starts with one of its characters. -/
theorem exists_cons_of_isIdentifier {name : String} (h : isIdentifier name) :
    ∃ c rest, name.toList = c :: rest ∧ continuesIdentifier c := by
  obtain ⟨c, rest, hname⟩ := List.exists_cons_of_ne_nil (isToken_of_isIdentifier h).ne_nil
  exact ⟨c, rest, hname, List.all_eq_true.mp (all_continuesIdentifier h) c (by simp [hname])⟩

/-- An identifier does not start with a quote. -/
theorem append_ne_quote_of_isIdentifier {name : String} (h : isIdentifier name) :
    name.toList ++ rest ≠ '"' :: rest' := by
  obtain ⟨c, chars, hname, hc⟩ := exists_cons_of_isIdentifier h
  intro heq
  rw [hname] at heq
  rw [(List.cons.inj heq).1] at hc
  exact absurd hc (by decide)

end Text

namespace Value

variable {rest rest' : List Char}

/-- At the start of a text, only one label of a member can be read. -/
theorem memberLabel_append_inj {left right : String}
    (h : memberLabel left ++ rest = memberLabel right ++ rest') : left = right ∧ rest = rest' := by
  -- A key that is an identifier ends at the colon.
  have hcolon : ∀ {rest : List Char}, ∀ c ∈ (':' :: rest).head?, continuesIdentifier c = false := by
    rintro rest _ ⟨⟩
    decide
  simp only [memberLabel, List.append_assoc, List.cons_append, List.nil_append] at h
  by_cases hleft : isIdentifier left <;> by_cases hright : isIdentifier right
  · rw [if_pos hleft, if_pos hright] at h
    obtain ⟨hkey, hrest⟩ := append_inj_of_all (all_continuesIdentifier hleft)
      (all_continuesIdentifier hright) hcolon hcolon h
    exact ⟨String.toList_injective hkey, by simpa using hrest⟩
  · rw [if_pos hleft, if_neg hright] at h
    exact absurd h (append_ne_quote_of_isIdentifier hleft)
  · rw [if_neg hleft, if_pos hright] at h
    exact absurd h.symm (append_ne_quote_of_isIdentifier hright)
  · rw [if_neg hleft, if_neg hright] at h
    obtain ⟨hkey, hrest⟩ := quoteChars_append_inj h
    exact ⟨String.toList_injective hkey, by simpa using hrest⟩

/-- The label of a member does not start with what ends an entry. -/
theorem exists_memberLabel_eq_cons (key : String) :
    ∃ c rest, memberLabel key = c :: rest ∧ endsEntry c = false := by
  rw [memberLabel]
  split
  next hkey =>
    obtain ⟨c, chars, hchars, hc⟩ := exists_cons_of_isIdentifier hkey
    rw [hchars]
    refine ⟨c, _, rfl, Bool.eq_false_iff.mpr fun hends => ?_⟩
    have hnot : [',', ']', '}'].all fun d => !continuesIdentifier d := by decide
    simpa [hc] using List.all_eq_true.mp hnot c (List.contains_iff_mem.mp hends)
  next => exact ⟨'"', _, rfl, by decide⟩

end Value

/-! ## Layouts -/

namespace Layout

/-- The layout can be read from its text: its atoms are words or quoted, and its groups are lists
of entries without labels, or members under the labels of keys. -/
inductive IsReadable : Layout → Prop where
  | word {text} : IsWord text → IsReadable (.atom text)
  | quoted (text) : IsReadable (.atom (quoteChars text))
  | items {entries} : (∀ entry ∈ entries, entry.1 = []) →
      (∀ entry ∈ entries, IsReadable entry.2) → IsReadable (.group ['['] [']'] entries)
  | members {entries} : (∀ entry ∈ entries, ∃ key, entry.1 = Value.memberLabel key) →
      (∀ entry ∈ entries, IsReadable entry.2) →
      IsReadable (.group ['{'] ['}'] entries)

/-- What follows the first of some entries on one line: the closing of the group, or a comma and
the other entries. -/
def flatTail (closing : List Char) : List (List Char × Layout) → List Char
  | [] => closing
  | next :: rest => ',' :: ' ' :: flatEntries (next :: rest) ++ closing

theorem flatEntries_cons_append (label : List Char) (entry : Layout)
    (rest : List (List Char × Layout)) (closing : List Char) :
    flatEntries ((label, entry) :: rest) ++ closing =
      label ++ (entry.flat ++ flatTail closing rest) := by
  cases rest with
  | nil => simp [flatEntries, flatTail]
  | cons next rest => simp [flatEntries, flatTail]

variable {rest rest' : List Char}

theorem followsEntry_flatTail {closing : Char} (hclosing : endsEntry closing)
    (entries : List (List Char × Layout)) : FollowsEntry (flatTail (closing :: rest) entries) := by
  cases entries with
  | nil => exact followsEntry_cons hclosing
  | cons next entries => exact followsEntry_cons rfl

/-- What follows the first of some entries tells whether there are others, and what their text
is. -/
theorem flatTail_inj {closing : Char} (hcomma : closing ≠ ',')
    {entries others : List (List Char × Layout)}
    (h : flatTail (closing :: rest) entries = flatTail (closing :: rest') others) :
    flatEntries entries ++ closing :: rest = flatEntries others ++ closing :: rest' := by
  cases entries with
  | nil =>
      cases others with
      | nil => exact h
      | cons other others => exact absurd (List.cons.inj h).1 hcomma
  | cons entry entries =>
      cases others with
      | nil => exact absurd (List.cons.inj h).1.symm hcomma
      | cons other others => exact (List.cons.inj (List.cons.inj h).2).2

/-- The text does not start like the end of an entry. -/
def StartsEntry (text : List Char) : Prop :=
  ∃ c rest, text = c :: rest ∧ endsEntry c = false

theorem StartsEntry.append {text : List Char} (h : StartsEntry text) (rest : List Char) :
    StartsEntry (text ++ rest) := by
  obtain ⟨c, tail, rfl, hc⟩ := h
  exact ⟨c, tail ++ rest, rfl, hc⟩

theorem IsReadable.startsEntry_flat {layout : Layout} (h : layout.IsReadable) :
    StartsEntry layout.flat := by
  cases h with
  | word hword =>
      obtain ⟨c, rest, rfl, hc⟩ := hword.exists_cons
      refine ⟨c, rest, rfl, Bool.eq_false_iff.mpr fun hends => ?_⟩
      rw [isWordChar_eq_false hends] at hc
      cases hc
  | quoted text => exact ⟨'"', _, rfl, by decide⟩
  | items => exact ⟨'[', _, rfl, by decide⟩
  | members => exact ⟨'{', _, rfl, by decide⟩

/-- At the start of a text, up to the end of its entry, no other layout can be read. -/
def IsReadOnce (layout : Layout) : Prop :=
  ∀ {other rest rest'}, other.IsReadable → FollowsEntry rest → FollowsEntry rest' →
    layout.flat ++ rest = other.flat ++ rest' → layout = other ∧ rest = rest'

/-- Labels of a kind that can be told from what follows them. -/
structure AreLabels (P : List Char → Prop) : Prop where
  inj : ∀ {left right rest rest'}, P left → P right → left ++ rest = right ++ rest' →
    left = right ∧ rest = rest'
  startsEntry : ∀ {label rest}, P label → StartsEntry rest → StartsEntry (label ++ rest)

theorem areLabels_nil : AreLabels (· = []) where
  inj := by
    rintro _ _ _ _ rfl rfl h
    exact ⟨rfl, h⟩
  startsEntry := by
    rintro _ _ rfl h
    exact h

theorem areLabels_memberLabel : AreLabels fun label => ∃ key, label = Value.memberLabel key where
  inj := by
    rintro _ _ rest rest' ⟨left, rfl⟩ ⟨right, rfl⟩ h
    obtain ⟨rfl, rfl⟩ := Value.memberLabel_append_inj h
    exact ⟨rfl, rfl⟩
  startsEntry := by
    rintro _ rest ⟨key, rfl⟩ -
    exact StartsEntry.append (Value.exists_memberLabel_eq_cons key) rest

/-- A group with entries does not have the text of an empty one. -/
theorem flatEntries_cons_append_ne {P : List Char → Prop} (hlabels : AreLabels P) {closing : Char}
    (hclosing : endsEntry closing) {label : List Char} {entry : Layout}
    {entries : List (List Char × Layout)} (hlabel : P label) (hentry : entry.IsReadable) :
    flatEntries ((label, entry) :: entries) ++ closing :: rest ≠ closing :: rest' := by
  intro heq
  obtain ⟨c, _, htext, hc⟩ := hlabels.startsEntry hlabel
    (hentry.startsEntry_flat.append (flatTail (closing :: rest) entries))
  rw [flatEntries_cons_append, htext] at heq
  rw [(List.cons.inj heq).1, hclosing] at hc
  cases hc

/-- The entries of a group are read from their text, if each of them is. -/
theorem flatEntries_append_inj {P : List Char → Prop} (hlabels : AreLabels P) {closing : Char}
    (hclosing : endsEntry closing) (hcomma : closing ≠ ',')
    {entries others : List (List Char × Layout)}
    (hentries : ∀ entry ∈ entries, P entry.1 ∧ entry.2.IsReadable ∧ entry.2.IsReadOnce)
    (hothers : ∀ entry ∈ others, P entry.1 ∧ entry.2.IsReadable)
    (h : flatEntries entries ++ closing :: rest = flatEntries others ++ closing :: rest') :
    entries = others ∧ rest = rest' := by
  induction entries generalizing others with
  | nil =>
      cases others with
      | nil => exact ⟨rfl, (List.cons.inj h).2⟩
      | cons other others =>
          obtain ⟨hlabel, hother⟩ := hothers other List.mem_cons_self
          exact absurd h.symm (flatEntries_cons_append_ne hlabels hclosing hlabel hother)
  | cons entry entries ih =>
      obtain ⟨⟨hlabel, hentry, honce⟩, htail⟩ := List.forall_mem_cons.mp hentries
      cases others with
      | nil => exact absurd h (flatEntries_cons_append_ne hlabels hclosing hlabel hentry)
      | cons other others =>
          obtain ⟨⟨hlabel', hother⟩, htail'⟩ := List.forall_mem_cons.mp hothers
          rw [flatEntries_cons_append, flatEntries_cons_append] at h
          obtain ⟨hlabel, h⟩ := hlabels.inj hlabel hlabel' h
          obtain ⟨hentry, h⟩ := honce hother (followsEntry_flatTail hclosing _)
            (followsEntry_flatTail hclosing _) h
          obtain ⟨rfl, hrest⟩ := ih htail htail' (flatTail_inj hcomma h)
          exact ⟨congrArg (· :: entries) (Prod.ext hlabel hentry), hrest⟩

/-- No two readable layouts have the same text on one line. -/
theorem IsReadable.isReadOnce {layout : Layout} (h : layout.IsReadable) : layout.IsReadOnce := by
  induction h with
  | word hword =>
      intro other rest rest' hother hrest hrest' heq
      cases hother with
      | word hword' =>
          obtain ⟨rfl, rfl⟩ := append_inj_of_all hword.all hword'.all hrest.isWordChar_eq
            hrest'.isWordChar_eq heq
          exact ⟨rfl, rfl⟩
      | _ => exact absurd heq (hword.append_ne_cons (by decide))
  | quoted text =>
      intro other rest rest' hother hrest hrest' heq
      cases hother with
      | word hword => exact absurd heq.symm (hword.append_ne_cons (by decide))
      | quoted text' =>
          obtain ⟨rfl, rfl⟩ := quoteChars_append_inj heq
          exact ⟨rfl, rfl⟩
      | _ => cases (List.cons.inj heq).1
  | items hlabels hentries ih =>
      intro other rest rest' hother hrest hrest' heq
      cases hother with
      | word hword => exact absurd heq.symm (hword.append_ne_cons (by decide))
      | items hlabels' hentries' =>
          have hclosing : endsEntry ']' := rfl
          obtain ⟨rfl, rfl⟩ := flatEntries_append_inj areLabels_nil hclosing (by decide)
            (fun entry hmem => ⟨hlabels entry hmem, hentries entry hmem, ih entry hmem⟩)
            (fun entry hmem => ⟨hlabels' entry hmem, hentries' entry hmem⟩)
            (by simpa [flat] using heq)
          exact ⟨rfl, rfl⟩
      | _ => cases (List.cons.inj heq).1
  | members hlabels hentries ih =>
      intro other rest rest' hother hrest hrest' heq
      cases hother with
      | word hword => exact absurd heq.symm (hword.append_ne_cons (by decide))
      | members hlabels' hentries' =>
          have hclosing : endsEntry '}' := rfl
          obtain ⟨rfl, rfl⟩ := flatEntries_append_inj areLabels_memberLabel hclosing (by decide)
            (fun entry hmem => ⟨hlabels entry hmem, hentries entry hmem, ih entry hmem⟩)
            (fun entry hmem => ⟨hlabels' entry hmem, hentries' entry hmem⟩)
            (by simpa [flat] using heq)
          exact ⟨rfl, rfl⟩
      | _ => cases (List.cons.inj heq).1

end Layout

/-! ## Data -/

namespace Value

/-- The value is no instance. -/
def IsData (value : Value) : Prop :=
  value.instance? = none

/-- The values are written alike: they have the same structure, the same keys in the same order, the
same strings and truth values, numbers of one text, and instants of one text. -/
inductive IsWrittenLike : Value → Value → Prop where
  | null : IsWrittenLike .null .null
  | bool (b) : IsWrittenLike (.bool b) (.bool b)
  | number {x y} : x.valueText = y.valueText → IsWrittenLike (.number x) (.number y)
  | string (s) : IsWrittenLike (.string s) (.string s)
  | date {i j} : i.text = j.text → IsWrittenLike (.date i) (.date j)
  | array {items others} : List.Forall₂ IsWrittenLike items others →
      IsWrittenLike (.array items) (.array others)
  | object {members others} : Entries.names members = Entries.names others →
      List.Forall₂ IsWrittenLike (Entries.values members) (Entries.values others) →
      IsWrittenLike (.object members) (.object others)

/-- Letters and signs in a list are no digits. -/
theorem not_mem_of_isDigit {others : List Char} (h : others.all fun c => !c.isDigit) (c : Char)
    (hc : c.isDigit) : c ∉ others := by
  intro hmem
  simpa [hc] using List.all_eq_true.mp h c hmem

/-- A number is written in digits, with signs and letters from a few words. -/
theorem forall_mem_valueText {p : Char → Prop} [DecidablePred p] (hdigit : ∀ c, c.isDigit → p c)
    (hothers : ['-', '.', 'N', 'a', 'I', 'n', 'f', 'i', 't', 'y'].all p) (x : Binary64) :
    ∀ c ∈ x.valueText.toList, p c := by
  have hother : ∀ c ∈ ['-', '.', 'N', 'a', 'I', 'n', 'f', 'i', 't', 'y'], p c := by
    simpa using hothers
  have hword : ∀ {word : String},
      word.toList ⊆ ['-', '.', 'N', 'a', 'I', 'n', 'f', 'i', 't', 'y'] → ∀ c ∈ word.toList, p c :=
    fun hletters c hc => hother c (hletters hc)
  cases x with
  | nan => exact hword (by decide)
  | infinity negative => cases negative <;> exact hword (by decide)
  | finite negative mantissa exponent canonical =>
      rw [Binary64.valueText, Binary64.text]
      split
      next => simpa [NumberLayout.value] using hdigit '0' (by decide)
      next =>
        rw [String.toList_ofList, List.forall_mem_append]
        refine ⟨?_, forall_mem_positional hdigit (hother _ (by decide)) _⟩
        cases negative with
        | false => exact fun c hc => absurd hc List.not_mem_nil
        | true => simpa using hother '-' (by decide)

/-- The layout of data can be read from its text. -/
theorem isReadable_layout {value : Value} (h : value.Everywhere IsData) :
    value.layout.IsReadable := by
  have hdigit : ∀ c : Char, c.isDigit → isWordChar c := by
    have hnone : [',', ']', '}', '"', '[', '{'].all fun c => !c.isDigit := by decide
    simpa [isWordChar] using not_mem_of_isDigit hnone
  induction value using Value.induction with
  | null => exact .word ⟨by decide, by decide⟩
  | bool b => cases b <;> exact .word ⟨by decide, by decide⟩
  | number x =>
      have hall := forall_mem_valueText hdigit (by decide) x
      exact .word ⟨(isToken_valueText x).ne_nil, List.all_eq_true.mpr hall⟩
  | string s => exact .quoted s.toList
  | date i =>
      have hall := forall_mem_textChars hdigit (by decide) i
      exact .word ⟨(isToken_textChars i).ne_nil, List.all_eq_true.mpr hall⟩
  | array items ih =>
      have hitems := (everywhere_array.mp h).2
      rw [layout, layoutItems_eq_map]
      refine .items ?_ ?_
      · simp
      · simpa only [List.forall_mem_map] using fun item hmem => ih item hmem (hitems item hmem)
  | object members ih =>
      have hmembers := (everywhere_object.mp h).2
      rw [layout, layoutEntries_eq_map]
      refine .members ?_ ?_
      · simpa only [List.forall_mem_map] using fun member _ => ⟨member.1, rfl⟩
      · simpa only [List.forall_mem_map] using
          fun member hmem => ih member hmem (hmembers member hmem)
  | tagged => cases h.here

end Value

/-- The kind of the data that is laid out in this way. -/
def Layout.kindName : Layout → String
  | .atom text =>
      if '"' ∈ text then "String"
      else if ':' ∈ text then "Date"
      else if text = ['n', 'u', 'l', 'l'] then "Null"
      else if text = ['t', 'r', 'u', 'e'] ∨ text = ['f', 'a', 'l', 's', 'e'] then "Boolean"
      else "Number"
  | .group opening _ _ => if opening = ['['] then "Array" else "Object"

namespace Value

/-- The layout of data tells its kind. -/
theorem kindName_layout {value : Value} (h : value.IsData) :
    value.layout.kindName = value.kindName := by
  cases value with
  | null => rfl
  | bool b => cases b <;> rfl
  | number x =>
      have hchars : ∀ c ∈ x.valueText.toList, c ∉ ['"', ':', 'l', 'e'] :=
        forall_mem_valueText (not_mem_of_isDigit (by decide)) (by decide) x
      have hne : ∀ {text : List Char} (c : Char), c ∈ ['"', ':', 'l', 'e'] → c ∈ text →
          x.valueText.toList ≠ text := by
        rintro _ c hc hmem rfl
        exact hchars c hmem hc
      rw [layout, Layout.kindName, if_neg fun hmem => hchars _ hmem (by decide),
        if_neg fun hmem => hchars _ hmem (by decide), if_neg (hne 'l' (by decide) (by decide)),
        if_neg (not_or.mpr ⟨hne 'e' (by decide) (by decide), hne 'e' (by decide) (by decide)⟩)]
      rfl
  | string s =>
      rw [layout, Layout.kindName, if_pos (by simp [quoteChars])]
      rfl
  | date i =>
      have hchars : ∀ c ∈ i.textChars, c ∉ ['"'] :=
        forall_mem_textChars (not_mem_of_isDigit (by decide)) (by decide) i
      rw [layout, Layout.kindName, if_neg fun hmem => hchars _ hmem (by decide),
        if_pos (by simp [Instant.textChars])]
      rfl
  | array items => rfl
  | object members => rfl
  | tagged => cases h

/-- Data that is laid out in the same way is of one kind. -/
theorem kindName_eq_of_layout_eq {value other : Value} (hvalue : value.IsData)
    (hother : other.IsData) (h : value.layout = other.layout) :
    value.kindName = other.kindName := by
  rw [← kindName_layout hvalue, h, kindName_layout hother]

/-- Data that is laid out in the same way is written alike. -/
theorem isWrittenLike_of_layout_eq {value other : Value} (hvalue : value.Everywhere IsData)
    (hother : other.Everywhere IsData) (h : value.layout = other.layout) :
    IsWrittenLike value other := by
  have hkind := kindName_eq_of_layout_eq hvalue.here hother.here h
  induction value using Value.induction generalizing other with
  | null =>
      cases other with
      | null => exact .null
      | _ => simp [kindName] at hkind
  | bool b =>
      cases other with
      | bool c =>
          obtain rfl : b = c := by
            cases b <;> cases c <;> first | rfl | exact absurd (Layout.atom.inj h) (by decide)
          exact .bool b
      | _ => simp [kindName] at hkind
  | number x =>
      cases other with
      | number y => exact .number (String.toList_injective (Layout.atom.inj h))
      | _ => simp [kindName] at hkind
  | string s =>
      cases other with
      | string t =>
          obtain ⟨hs, -⟩ := quoteChars_append_inj (congrArg (· ++ []) (Layout.atom.inj h))
          exact String.toList_injective hs ▸ .string s
      | _ => simp [kindName] at hkind
  | date i =>
      cases other with
      | date j => exact .date (congrArg String.ofList (Layout.atom.inj h))
      | _ => simp [kindName] at hkind
  | array items ih =>
      cases other with
      | array others =>
          have hitems := (everywhere_array.mp hvalue).2
          have hothers := (everywhere_array.mp hother).2
          simp only [layout, Layout.group.injEq, layoutItems_eq_map] at h
          refine .array (Outcome.forall₂_imp_left ?_
            (Outcome.forall₂_and_right.mpr ⟨Outcome.map_eq_map_iff.mp h.2.2, hothers⟩))
          rintro item hmem other ⟨heq, hother⟩
          have hlayout := (Prod.mk.inj heq).2
          exact ih item hmem (hitems item hmem) hother hlayout
            (kindName_eq_of_layout_eq (hitems item hmem).here hother.here hlayout)
      | _ => simp [kindName] at hkind
  | object members ih =>
      cases other with
      | object others =>
          have hmembers := (everywhere_object.mp hvalue).2
          have hothers := (everywhere_object.mp hother).2
          simp only [layout, Layout.group.injEq, layoutEntries_eq_map] at h
          have hall : List.Forall₂ (fun left right => left.1 = right.1 ∧
              IsWrittenLike left.2 right.2) members others := by
            refine Outcome.forall₂_imp_left ?_
              (Outcome.forall₂_and_right.mpr ⟨Outcome.map_eq_map_iff.mp h.2.2, hothers⟩)
            rintro member hmem other ⟨heq, hother⟩
            obtain ⟨hlabel, hlayout⟩ := Prod.mk.inj heq
            obtain ⟨hkey, -⟩ := memberLabel_append_inj (congrArg (· ++ []) hlabel)
            exact ⟨hkey, ih member hmem (hmembers member hmem) hother hlayout
              (kindName_eq_of_layout_eq (hmembers member hmem).here hother.here hlayout)⟩
          obtain ⟨hnames, hvalues⟩ := Entries.forall₂_iff.mp hall
          exact .object hnames hvalues
      | _ => simp [kindName] at hkind
  | tagged => cases hvalue.here

/-- Values that are written alike are laid out in the same way. -/
theorem IsWrittenLike.layout_eq {value other : Value} (h : IsWrittenLike value other) :
    value.layout = other.layout := by
  induction value using Value.induction generalizing other with
  | null => cases h; rfl
  | bool b => cases h; rfl
  | number x =>
      cases h with
      | number htext => rw [layout, layout, htext]
  | string s => cases h; rfl
  | date i =>
      cases h with
      | date htext => rw [layout, layout, String.ofList_injective htext]
  | array items ih =>
      cases h with
      | array hitems =>
          rw [layout, layout, layoutItems_eq_map, layoutItems_eq_map, Outcome.map_eq_map_iff.mpr]
          refine Outcome.forall₂_imp_left (fun item hmem other hitem => ?_) hitems
          rw [ih item hmem hitem]
  | object members ih =>
      cases h with
      | object hnames hvalues =>
          rw [layout, layout, layoutEntries_eq_map, layoutEntries_eq_map,
            Outcome.map_eq_map_iff.mpr]
          refine Outcome.forall₂_imp_left (fun member hmem other hmember => ?_)
            (Entries.forall₂_iff.mpr ⟨hnames, hvalues⟩)
          rw [hmember.1, ih member hmem hmember.2]
  | tagged => cases h

/-- Two values without instances have the same text, however it is broken into lines, exactly if
they are written alike. -/
theorem text_layout_eq_iff {value other : Value} (hvalue : value.Everywhere IsData)
    (hother : other.Everywhere IsData) (config : LayoutConfig) :
    value.layout.text config = other.layout.text config ↔ IsWrittenLike value other := by
  have hjoined : ∀ {value : Value}, value.Everywhere IsData →
      joinLines (value.layout.text config).toList = value.layout.flat := by
    intro value hvalue
    refine (isPlain_layout (hvalue.imp fun part hpart => ?_)
      (hvalue.imp fun part hpart => ?_)).keepsText.joined config
    · cases part with
      | tagged => cases hpart
      | _ => trivial
    · cases part with
      | tagged => cases hpart
      | _ => trivial
  constructor
  · intro h
    have hflat : value.layout.flat = other.layout.flat := by
      rw [← hjoined hvalue, h, hjoined hother]
    obtain ⟨hlayout, -⟩ := (isReadable_layout hvalue).isReadOnce (isReadable_layout hother)
      followsEntry_nil followsEntry_nil (congrArg (· ++ []) hflat)
    exact isWrittenLike_of_layout_eq hvalue hother hlayout
  · intro h
    rw [h.layout_eq]

end Value

/-! ## Notes

A note whose words have commas and brackets in them, and the same words cut in another way.
-/

namespace Notes

/-- A note of its words, a number and a time. -/
def note (words : List String) (x : Binary64) (i : Instant) : Value :=
  .object [("words", .array (words.map .string)), ("rank, or id", .number x), ("at", .date i)]

/-- A morning in March. -/
def morning : Instant :=
  ⟨⟨2024, 3, 1⟩, ⟨9, 30, 0, 0⟩, by decide, by decide⟩

/-- One microsecond later. -/
def later : Instant :=
  ⟨⟨2024, 3, 1⟩, ⟨9, 30, 0, 1000⟩, by decide, by decide⟩

theorem everywhere_note (words : List String) (x : Binary64) (i : Instant) :
    (note words x i).Everywhere Value.IsData := by
  have hstring : ∀ s, (Value.string s).Everywhere Value.IsData := fun s => .of_leaf trivial rfl
  have hnumber : (Value.number x).Everywhere Value.IsData := .of_leaf trivial rfl
  have hdate : (Value.date i).Everywhere Value.IsData := .of_leaf trivial rfl
  simp [note, Value.everywhere_object, Value.everywhere_array, Value.IsData, Value.instance?,
    hstring, hnumber, hdate]

end Notes

/-- The sign of zero and a microsecond do not show in a note that is broken into lines, but the cut
between its words does. -/
theorem Notes.text_note :
    (note ["a, b]"] (.zero true) morning).layout.text ⟨9, 2⟩ =
      (note ["a, b]"] (.zero false) later).layout.text ⟨9, 2⟩ ∧
    (note ["a, b]"] (.zero true) morning).layout.text ⟨9, 2⟩ ≠
      (note ["a", "b]"] (.zero true) morning).layout.text ⟨9, 2⟩ := by
  constructor
  · refine (Value.text_layout_eq_iff (everywhere_note _ _ _) (everywhere_note _ _ _) _).mpr ?_
    refine .object rfl (.cons (.array (.cons (.string _) .nil)) ?_)
    exact .cons (.number (by decide +kernel)) (.cons (.date (by decide +kernel)) .nil)
  · intro h
    cases (Value.text_layout_eq_iff (everywhere_note _ _ _) (everywhere_note _ _ _) _).mp h with
    | object _ hvalues =>
        obtain ⟨hwords, -⟩ := List.forall₂_cons.mp hvalues
        cases hwords with
        | array hitems => cases hitems.length_eq

end RecordSchema
