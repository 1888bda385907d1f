import RecordSchema.Proofs.JoinedLines

/-!
# Where a layout is broken

An `Arrangement` is a layout with the choice, for each group on lines of its own, between one line
and lines for its entries. The lines of a text are those of an arrangement in which a group stays on
one line exactly if that line, with its indentation, its label and its comma, is within the width
(`Layout.BreaksExactly`). A line that is too long then holds nothing that could be broken. The text
of every value is laid out in this way if the names of fields break no line
(`Value.exists_breaksExactly`).
-/

namespace RecordSchema

open Text

namespace Layout

/-- The layout is a group with entries. -/
def hasEntries : Layout → Bool
  | .atom _ => false
  | .group _ _ entries => !entries.isEmpty

/-! ## Arrangements -/

/-- Where a layout stands on lines of its own: how they are indented, what its label is, and whether
another entry follows it. -/
structure Place where
  indent : Nat
  label : List Char
  isFollowed : Bool

namespace Place

/-- The place of a text that starts a line and ends it. -/
def start : Place :=
  ⟨0, [], false⟩

/-- The comma before the next entry. -/
def comma (place : Place) : List Char :=
  if place.isFollowed then [','] else []

/-- A text at its place, with the indentation, the label and the comma. -/
def line (place : Place) (text : List Char) : List Char :=
  blanks place.indent ++ place.label ++ text ++ place.comma

end Place

/-- A layout with some of its groups broken: the others are on one line. -/
inductive Arrangement where
  | line (layout : Layout)
  | broken (opening closing : List Char) (entries : List (List Char × Arrangement))

/-- A line of an arrangement: a layout on one line, or what opens or closes a broken group. -/
inductive Line where
  | whole (place : Place) (layout : Layout)
  | opening (place : Place) (text : List Char)
  | closing (place : Place) (text : List Char)

namespace Line

/-- The characters of the line. -/
def chars : Line → List Char
  | .whole place layout => place.line layout.flat
  | .opening place text => blanks place.indent ++ place.label ++ text
  | .closing place text => blanks place.indent ++ text ++ place.comma

/-- The line has no group with entries on it: what it has is an atom, an empty group, or a delimiter
of a broken group. -/
def IsUnbreakable : Line → Prop
  | .whole _ layout => layout.hasEntries = false
  | .opening _ _ => True
  | .closing _ _ => True

end Line

namespace Arrangement

/-- The arrangement is on one line. -/
def isLine : Arrangement → Bool
  | .line _ => true
  | .broken _ _ _ => false

mutual

/-- The layout that is arranged. -/
def layout : Arrangement → Layout
  | .line layout => layout
  | .broken opening closing entries => .group opening closing (layoutEntries entries)

/-- The layouts that are arranged, under their labels. -/
def layoutEntries : List (List Char × Arrangement) → List (List Char × Layout)
  | [] => []
  | (label, entry) :: rest => (label, layout entry) :: layoutEntries rest

end

mutual

/-- The lines of an arrangement at a place, when each level is indented by `step` more. -/
def lines (step : Nat) (place : Place) : Arrangement → List Line
  | .line layout => [.whole place layout]
  | .broken opening closing entries =>
      .opening place opening :: linesOfEntries step (place.indent + step) entries
        ++ [.closing place closing]

/-- The lines of the entries of a broken group. -/
def linesOfEntries (step indent : Nat) : List (List Char × Arrangement) → List Line
  | [] => []
  | (label, entry) :: rest =>
      lines step ⟨indent, label, !rest.isEmpty⟩ entry ++ linesOfEntries step indent rest

end

mutual

/-- What stands on lines of its own, with its place: the whole arrangement and the entries of the
broken groups in it. -/
def parts (step : Nat) (place : Place) : Arrangement → List (Place × Arrangement)
  | .line layout => [(place, .line layout)]
  | .broken opening closing entries =>
      (place, .broken opening closing entries)
        :: partsOfEntries step (place.indent + step) entries

/-- What stands on lines of its own in the entries of a broken group. -/
def partsOfEntries (step indent : Nat) :
    List (List Char × Arrangement) → List (Place × Arrangement)
  | [] => []
  | (label, entry) :: rest =>
      parts step ⟨indent, label, !rest.isEmpty⟩ entry ++ partsOfEntries step indent rest

end

end Arrangement

/-- The part is on one line exactly if that line is within the width, unless it is an atom or an
empty group, which cannot be broken. -/
def BreaksIfTooLong (config : LayoutConfig) (part : Place × Arrangement) : Prop :=
  part.2.layout.hasEntries →
    (part.2.isLine ↔ (part.1.line part.2.layout.flat).length ≤ config.maxWidth)

/-- The text of the layout has the lines of the arrangement. A group with entries that stands on
lines of its own is on one line exactly if that line is within the width, so that lines which are
too long hold none. -/
structure BreaksExactly (config : LayoutConfig) (layout : Layout) (arrangement : Arrangement) :
    Prop where
  layout_eq : arrangement.layout = layout
  lines_eq : splitOn '\n' (layout.text config).toList
    = (arrangement.lines config.indent .start).map Line.chars
  exact : ∀ part ∈ arrangement.parts config.indent .start, BreaksIfTooLong config part
  long : ∀ line ∈ arrangement.lines config.indent .start, config.maxWidth < line.chars.length →
    line.IsUnbreakable

namespace Arrangement

/-- What holds of an arrangement whenever it holds of its entries holds of every arrangement. -/
@[elab_as_elim]
theorem induction {motive : Arrangement → Prop} (line : ∀ layout, motive (.line layout))
    (broken : ∀ opening closing entries, (∀ entry ∈ entries, motive entry.2) →
      motive (.broken opening closing entries))
    (arrangement : Arrangement) : motive arrangement :=
  @Arrangement.rec motive (fun entries => ∀ entry ∈ entries, motive entry.2)
    (fun entry => motive entry.2) line broken (fun _ h => absurd h List.not_mem_nil)
    (fun _ _ hhead htail => List.forall_mem_cons.mpr ⟨hhead, htail⟩) (fun _ _ h => h) arrangement

/-- A layout that has a line of its own is a part. -/
theorem mem_parts_of_mem_lines {step : Nat} {arrangement : Arrangement} {start place : Place}
    {layout : Layout} (h : .whole place layout ∈ arrangement.lines step start) :
    (place, .line layout) ∈ arrangement.parts step start := by
  induction arrangement using Arrangement.induction generalizing start with
  | line other =>
      obtain ⟨rfl, rfl⟩ := Line.whole.inj (List.mem_singleton.mp h)
      exact List.mem_singleton.mpr rfl
  | broken opening closing entries ih =>
      have hentries : ∀ indent, ∀ rest ⊆ entries,
          .whole place layout ∈ linesOfEntries step indent rest →
            (place, .line layout) ∈ partsOfEntries step indent rest := by
        intro indent rest
        induction rest with
        | nil => exact fun _ h => absurd h List.not_mem_nil
        | cons entry rest ihrest =>
            intro hsub h
            obtain ⟨hentry, hrest⟩ := List.cons_subset.mp hsub
            rw [linesOfEntries, List.mem_append] at h
            rw [partsOfEntries, List.mem_append]
            exact h.imp (ih entry hentry) (ihrest hrest)
      have hinside : .whole place layout ∈ linesOfEntries step (start.indent + step) entries := by
        simpa [lines] using h
      rw [parts]
      exact List.mem_cons_of_mem _ (hentries _ _ (List.Subset.refl _) hinside)

end Arrangement

/-! ## The arrangement of a text -/

namespace Place

variable {place : Place} {text : List Char}

theorem not_mem_comma (place : Place) : '\n' ∉ place.comma := by
  rw [comma]
  split <;> decide

/-- A text at its place is a line if it and its label are. -/
theorem not_mem_line (hlabel : '\n' ∉ place.label) (htext : '\n' ∉ text) :
    '\n' ∉ place.line text := by
  simp [line, not_mem_blanks, hlabel, htext, not_mem_comma]

/-- The width that a text takes at its place. -/
theorem length_line (place : Place) (text : List Char) :
    (place.line text).length
      = place.indent + place.label.length + text.length + place.comma.length := by
  simp only [line, blanks, List.length_append, List.length_replicate]

/-- A broken group at its place: the label is on its first line and the comma on its last. -/
theorem line_broken (place : Place) (opening entries closing : List Char) :
    place.line (opening ++ '\n' :: entries ++ blanks place.indent ++ closing)
      = blanks place.indent ++ place.label ++ opening
        ++ '\n' :: (entries ++ (blanks place.indent ++ closing ++ place.comma)) := by
  simp [line]

end Place

/-- Labels and layouts do not break the line on which they all are. -/
theorem not_mem_of_not_mem_flatEntries : ∀ {entries : List (List Char × Layout)},
    '\n' ∉ flatEntries entries → ∀ entry ∈ entries, '\n' ∉ entry.1 ∧ '\n' ∉ entry.2.flat
  | [], _ => fun _ h => absurd h List.not_mem_nil
  | [(label, entry)], h => by simpa [flatEntries] using h
  | (label, entry) :: next :: rest, h => by
      simp only [flatEntries, List.mem_append, List.mem_cons, not_or] at h
      obtain ⟨hentry, -, -, hrest⟩ := h
      exact List.forall_mem_cons.mpr ⟨hentry, not_mem_of_not_mem_flatEntries hrest⟩

/-- A group at its place is broken if it has entries and is too long there. -/
theorem chars_group (config : LayoutConfig) (place : Place) (opening closing : List Char)
    (entries : List (List Char × Layout)) :
    (group opening closing entries).chars config place.indent (place.indent + place.label.length)
        place.comma.length =
      if (group opening closing entries).hasEntries ∧
          config.maxWidth < (place.line (group opening closing entries).flat).length then
        opening ++ '\n' :: brokenEntries config (place.indent + config.indent) entries
          ++ blanks place.indent ++ closing
      else (group opening closing entries).flat := by
  rw [chars, Place.length_line, flat, hasEntries]
  cases entries with
  | nil => rfl
  | cons entry entries =>
      simp only [List.isEmpty_cons, Bool.not_false, true_and, Bool.false_or, decide_eq_true_eq,
        ← Nat.not_le, ite_not]

/-- An entry of a broken group is at its place, and the next one starts a line. -/
theorem brokenEntries_cons (config : LayoutConfig) (indent : Nat) (label : List Char)
    (entry : Layout) (rest : List (List Char × Layout)) :
    brokenEntries config indent ((label, entry) :: rest) =
      (Place.mk indent label !rest.isEmpty).line (entry.chars config indent (indent + label.length)
        (Place.mk indent label !rest.isEmpty).comma.length)
        ++ '\n' :: brokenEntries config indent rest := by
  cases rest with
  | nil => simp [brokenEntries, Place.line, Place.comma]
  | cons next rest => simp [brokenEntries, Place.line, Place.comma]

/-- At its place, the text of the layout has the lines of the arrangement, whose groups are broken
if they are too long. -/
structure IsArrangedAt (config : LayoutConfig) (place : Place) (layout : Layout)
    (arrangement : Arrangement) : Prop where
  layout_eq : arrangement.layout = layout
  lines_eq : splitOn '\n' (place.line (layout.chars config place.indent
      (place.indent + place.label.length) place.comma.length))
    = (arrangement.lines config.indent place).map Line.chars
  exact : ∀ part ∈ arrangement.parts config.indent place, BreaksIfTooLong config part

/-- Entries that can be arranged at their places can be arranged one below the other. -/
theorem exists_arrangedEntries (config : LayoutConfig) (indent : Nat) :
    ∀ {entries : List (List Char × Layout)}, (∀ entry ∈ entries, '\n' ∉ entry.1) →
      (∀ entry ∈ entries, ∀ place : Place, '\n' ∉ place.label →
        ∃ arrangement, IsArrangedAt config place entry.2 arrangement) →
      ∃ arranged, Arrangement.layoutEntries arranged = entries ∧
        (∀ rest, splitOn '\n' (brokenEntries config indent entries ++ rest)
          = (Arrangement.linesOfEntries config.indent indent arranged).map Line.chars
            ++ splitOn '\n' rest) ∧
        ∀ part ∈ Arrangement.partsOfEntries config.indent indent arranged,
          BreaksIfTooLong config part
  | [], _, _ => ⟨[], rfl, fun _ => rfl, fun _ h => absurd h List.not_mem_nil⟩
  | (label, entry) :: rest, hlabels, harranged => by
      obtain ⟨hlabel, hlabels⟩ := List.forall_mem_cons.mp hlabels
      obtain ⟨hentry, hrest⟩ := List.forall_mem_cons.mp harranged
      obtain ⟨arrangement, hlayout, hlines, hexact⟩ := hentry ⟨indent, label, !rest.isEmpty⟩ hlabel
      obtain ⟨arranged, hlayouts, hrestLines, hrestExact⟩ :=
        exists_arrangedEntries config indent hlabels hrest
      have hlast : arranged.isEmpty = rest.isEmpty := by
        rw [← hlayouts]
        cases arranged <;> rfl
      refine ⟨(label, arrangement) :: arranged, ?_, fun after => ?_, ?_⟩
      · rw [Arrangement.layoutEntries, hlayout, hlayouts]
      · rw [brokenEntries_cons, List.append_assoc, List.cons_append, splitOn_append_cons, hlines,
          hrestLines, Arrangement.linesOfEntries, hlast, List.map_append, List.append_assoc]
      · rw [Arrangement.partsOfEntries, hlast]
        exact List.forall_mem_append.mpr ⟨hexact, hrestExact⟩

/-- A layout whose text is flat is on one line, if it is no group that is too long. -/
theorem isArrangedAt_line {config : LayoutConfig} {place : Place} {layout : Layout}
    (hflat : '\n' ∉ layout.flat) (hlabel : '\n' ∉ place.label)
    (hchars : layout.chars config place.indent (place.indent + place.label.length)
      place.comma.length = layout.flat)
    (hfits : layout.hasEntries → (place.line layout.flat).length ≤ config.maxWidth) :
    IsArrangedAt config place layout (.line layout) where
  layout_eq := rfl
  lines_eq := by
    rw [hchars]
    exact splitOn_of_not_mem (Place.not_mem_line hlabel hflat)
  exact := List.forall_mem_singleton.mpr fun hentries => iff_of_true rfl (hfits hentries)

/-- A layout that is a line when it is flat is arranged at every place whose label does not break
the line. -/
theorem exists_isArrangedAt (config : LayoutConfig) {layout : Layout} (hflat : '\n' ∉ layout.flat)
    (place : Place) (hlabel : '\n' ∉ place.label) :
    ∃ arrangement, IsArrangedAt config place layout arrangement := by
  induction layout using Layout.induction generalizing place with
  | atom text =>
      exact ⟨_, isArrangedAt_line hflat hlabel rfl fun h => absurd h Bool.false_ne_true⟩
  | group opening closing entries ih =>
      by_cases hbroken : (group opening closing entries).hasEntries ∧
          config.maxWidth < (place.line (group opening closing entries).flat).length
      · have hparts := hflat
        rw [flat, List.mem_append, List.mem_append, not_or, not_or] at hparts
        obtain ⟨⟨hopening, hentries⟩, hclosing⟩ := hparts
        have hentries := not_mem_of_not_mem_flatEntries hentries
        obtain ⟨arranged, hlayouts, hlines, hexact⟩ :=
          exists_arrangedEntries config (place.indent + config.indent)
            (fun entry hmem => (hentries entry hmem).1)
            fun entry hmem place hlabel => ih entry hmem (hentries entry hmem).2 place hlabel
        refine ⟨.broken opening closing arranged, ?_, ?_, ?_⟩
        · rw [Arrangement.layout, hlayouts]
        · have hfirst : '\n' ∉ blanks place.indent ++ place.label ++ opening := by
            simp [not_mem_blanks, hlabel, hopening]
          have hlast : '\n' ∉ blanks place.indent ++ closing ++ place.comma := by
            simp [not_mem_blanks, hclosing, Place.not_mem_comma]
          rw [chars_group, if_pos hbroken, Place.line_broken, splitOn_append_cons,
            splitOn_of_not_mem hfirst, hlines, splitOn_of_not_mem hlast, Arrangement.lines,
            List.map_append]
          rfl
        · refine List.forall_mem_cons.mpr ⟨fun _ => ?_, hexact⟩
          rw [Arrangement.layout, hlayouts]
          exact iff_of_false Bool.false_ne_true (Nat.not_le.mpr hbroken.2)
      · have hchars := chars_group config place opening closing entries
        rw [if_neg hbroken] at hchars
        exact ⟨_, isArrangedAt_line hflat hlabel hchars fun hentries =>
          Nat.not_lt.mp fun hlong => hbroken ⟨hentries, hlong⟩⟩

/-- A layout that is a line when it is flat is broken exactly where its lines would be too long. -/
theorem exists_breaksExactly_of_not_mem (config : LayoutConfig) {layout : Layout}
    (hflat : '\n' ∉ layout.flat) : ∃ arrangement, layout.BreaksExactly config arrangement := by
  obtain ⟨arrangement, hlayout, hlines, hexact⟩ :=
    exists_isArrangedAt config hflat .start List.not_mem_nil
  refine ⟨arrangement, hlayout, ?_, hexact, fun line hline hlong => ?_⟩
  · rw [← hlines, text, String.toList_ofList]
    simp [Place.line, Place.start, Place.comma, blanks]
  · cases line with
    | whole place layout =>
        -- A group with entries on this line would be a part that is on one line although too long.
        by_contra hentries
        have hfits := hexact _ (Arrangement.mem_parts_of_mem_lines hline)
          (Bool.not_eq_false _ ▸ hentries)
        exact absurd (hfits.mp rfl) (Nat.not_le.mpr hlong)
    | opening => trivial
    | closing => trivial

end Layout

/-! ## The texts of values -/

namespace Value

open Layout

/-- The names of the fields break no line, if the value is an instance. -/
def HasUnbrokenNames : Value → Prop
  | .tagged _ _ fields => ∀ field ∈ fields, '\n' ∉ field.1.toList
  | _ => True

/-- Labels that break no line do not break that of the named values behind them. -/
theorem not_mem_flat_group {label : String → List Char} {entries : Entries Value}
    {opening closing : List Char} (hopening : '\n' ∉ opening) (hclosing : '\n' ∉ closing)
    (hlabels : ∀ entry ∈ entries, '\n' ∉ label entry.1)
    (hentries : ∀ entry ∈ entries, '\n' ∉ entry.2.layout.flat) :
    '\n' ∉ (Layout.group opening closing (layoutEntries label entries)).flat := by
  rw [flat, layoutEntries_eq_map]
  refine not_mem_append_append hopening (not_mem_flatEntries ?_) hclosing
  simpa only [List.forall_mem_map] using fun entry hmem => ⟨hlabels entry hmem, hentries entry hmem⟩

theorem not_mem_fieldLabel {name : String} (h : '\n' ∉ name.toList) : '\n' ∉ fieldLabel name := by
  simp [fieldLabel, h]

/-- The flat text of a value is a line if the names of its fields break none. -/
theorem not_mem_flat_layout {value : Value} (hnames : value.Everywhere HasUnbrokenNames)
    (htypes : value.Everywhere IsOfBuiltType) : '\n' ∉ value.layout.flat := by
  induction value using Value.induction with
  | null => decide
  | bool b => cases b <;> decide
  | number x => exact (isToken_valueText x).not_mem
  | string s => exact (isToken_quoteChars s.toList).not_mem
  | date i => exact (isToken_textChars i).not_mem
  | array items ih =>
      rw [everywhere_array] at hnames htypes
      rw [layout, layoutItems_eq_map, flat]
      refine not_mem_append_append (by decide) (not_mem_flatEntries ?_) (by decide)
      simpa only [List.forall_mem_map] using fun item hmem =>
        ⟨List.not_mem_nil, ih item hmem (hnames.2 item hmem) (htypes.2 item hmem)⟩
  | object members ih =>
      rw [everywhere_object] at hnames htypes
      exact not_mem_flat_group (by decide) (by decide)
        (fun member _ => (isLabel_memberLabel member.1).not_mem)
        fun member hmem => ih member hmem (hnames.2 member hmem) (htypes.2 member hmem)
  | tagged tag variant fields ih =>
      rw [everywhere_tagged] at hnames htypes
      refine not_mem_flat_group ?_ (by decide)
        (fun field hmem => not_mem_fieldLabel (hnames.1 field hmem))
        fun field hmem => ih field hmem (hnames.2 field hmem) (htypes.2 field hmem)
      simp [(isToken_qualifiedName htypes.1).not_mem]

/-- The text of a value is broken exactly where its lines would be too long, whatever the width and
the indentation. The same holds of named fields under a given name. -/
theorem exists_breaksExactly (config : LayoutConfig) :
    (∀ value : Value, value.Everywhere HasUnbrokenNames → value.Everywhere IsOfBuiltType →
      ∃ arrangement, value.layout.BreaksExactly config arrangement) ∧
    ∀ (name : String) (fields : Entries Value), '\n' ∉ name.toList →
      (∀ field ∈ fields, '\n' ∉ field.1.toList) →
      (∀ field ∈ fields, field.2.Everywhere HasUnbrokenNames) →
      (∀ field ∈ fields, field.2.Everywhere IsOfBuiltType) →
      ∃ arrangement, (Instance.layoutFields name fields).BreaksExactly config arrangement := by
  refine ⟨fun value hnames htypes =>
    exists_breaksExactly_of_not_mem config (not_mem_flat_layout hnames htypes), ?_⟩
  intro name fields hname hfields hnames htypes
  refine exists_breaksExactly_of_not_mem config (not_mem_flat_group ?_ (by decide) ?_ ?_)
  · simp [hname]
  · exact fun field hmem => not_mem_fieldLabel (hfields field hmem)
  · exact fun field hmem => not_mem_flat_layout (hnames field hmem) (htypes field hmem)

end Value

/-- A board with tasks and events is broken exactly where its lines would be too long for a width of
thirty characters, and so are its fields under another name. -/
theorem Boards.exists_breaksExactly_board :
    (∃ arrangement, (Value.ofInstance board).layout.BreaksExactly ⟨30, 4⟩ arrangement) ∧
      ∃ arrangement,
        (Instance.layoutFields "Plan" board.fields).BreaksExactly ⟨30, 4⟩ arrangement := by
  have hnames : (Value.ofInstance board).Everywhere Value.HasUnbrokenNames := by
    have hstring : ∀ s, (Value.string s).Everywhere Value.HasUnbrokenNames :=
      fun s => .of_leaf trivial trivial
    have hnumber : ∀ x, (Value.number x).Everywhere Value.HasUnbrokenNames :=
      fun x => .of_leaf trivial trivial
    have hdate : ∀ i, (Value.date i).Everywhere Value.HasUnbrokenNames :=
      fun i => .of_leaf trivial trivial
    have hnull : Value.null.Everywhere Value.HasUnbrokenNames := .of_leaf trivial trivial
    simp +decide [Value.ofInstance, board, dueTask, task, opened, Value.everywhere_tagged,
      Value.everywhere_object, Value.everywhere_array, Value.HasUnbrokenNames, hstring, hnumber,
      hdate, hnull]
  have hsound : (Value.ofInstance board).Sound session.registries :=
    reachable_session.isSound.sound ⟨decodeBoard, board⟩ List.mem_cons_self
  have htypes := hsound.isOfBuiltType reachable_session.isSound.built
  have hinner := Value.everywhere_tagged.mp hnames
  obtain ⟨hvalues, hfields⟩ := Value.exists_breaksExactly ⟨30, 4⟩
  exact ⟨hvalues _ hnames htypes, hfields _ _ (by decide) hinner.1 hinner.2
    (Value.everywhere_tagged.mp htypes).2⟩

end RecordSchema
