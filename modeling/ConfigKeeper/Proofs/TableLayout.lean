import ConfigKeeper.Proofs.Wrapping
import ConfigKeeper.Run

namespace ConfigKeeper.Display

open Text (Narrow charWidth charWidth_blank charWidth_of_drawing charWidth_of_lt width width_append)

theorem foldl_max_le_iff {l : List Nat} {b n : Nat} :
    l.foldl max b ≤ n ↔ b ≤ n ∧ ∀ a ∈ l, a ≤ n := by
  induction l generalizing b with
  | nil => simp
  | cons a l ih => rw [List.foldl_cons, ih, Nat.max_le, List.forall_mem_cons, and_assoc]

theorem columns_le_iff {cells : List Cell} {n : Nat} :
    columns cells ≤ n ↔ ∀ c ∈ cells, ∀ line ∈ c, width line ≤ n := by
  simp only [columns, cellWidth, foldl_max_le_iff, Nat.zero_le, true_and, List.forall_mem_map]

/-- What can stand in one line of a cell: characters of one column that are not part of the frame. -/
def Ordinary (line : List Char) : Prop := ∀ c ∈ line, charWidth c = 1 ∧ c ≠ '\n' ∧ c ≠ '│'

variable {text line : List Char}

theorem Ordinary.narrow (h : Ordinary line) : Narrow line := fun c hc ↦ (h c hc).1

theorem Ordinary.newline_not_mem (h : Ordinary line) : '\n' ∉ line := fun hmem ↦ (h _ hmem).2.1 rfl

theorem Ordinary.bar_not_mem (h : Ordinary line) : '│' ∉ line := fun hmem ↦ (h _ hmem).2.2 rfl

theorem ordinary_nil : Ordinary [] := fun _ hc ↦ absurd hc List.not_mem_nil

theorem Drawn.ordinary (h : Drawn text line) (htext : Ordinary text) : Ordinary line := by
  intro c hc
  rcases h c hc with hmem | rfl | rfl
  · exact htext c hmem
  · exact ⟨charWidth_blank, by decide, by decide⟩
  · exact ⟨Text.charWidth_mark, by decide, by decide⟩

theorem Ordinary.padded (h : Ordinary line) (columns : Nat) : Ordinary (padded columns line) :=
  have hdrawn : Drawn line line := fun _ hc ↦ Or.inl hc
  (hdrawn.padded columns).ordinary h

theorem cell_of_ordinary (h : Ordinary text) : cell text = [text] :=
  List.splitOn_eq_singleton h.newline_not_mem

theorem flatMap_cell {lines : List (List Char)} (h : ∀ line ∈ lines, Ordinary line) :
    lines.flatMap cell = lines := by
  induction lines with
  | nil => rfl
  | cons line lines ih =>
    obtain ⟨hline, hlines⟩ := List.forall_mem_cons.1 h
    rw [List.flatMap_cons, cell_of_ordinary hline, ih hlines, List.singleton_append]

theorem descriptionCell_of_ordinary (h : Ordinary text) : descriptionCell text =
    if descriptionColumns < width text then wrapped descriptionColumns text else [text] := by
  have hlines : (wrapped descriptionColumns text).flatMap cell = wrapped descriptionColumns text :=
    flatMap_cell fun line hline ↦ (drawn_wrapped descriptionColumns text line hline).ordinary h
  rw [descriptionCell, hlines, cell_of_ordinary h, List.any_cons, List.any_nil, Bool.or_false]
  simp only [decide_eq_true_eq]

theorem ordinary_descriptionCell (h : Ordinary text) :
    ∀ line ∈ descriptionCell text, Ordinary line :=
  fun line hline ↦ (drawn_descriptionCell text line hline).ordinary h

theorem width_descriptionCell (h : Ordinary text) :
    ∀ line ∈ descriptionCell text, width line ≤ descriptionColumns := by
  intro line hline
  rw [descriptionCell_of_ordinary h] at hline
  split at hline
  · exact (width_of_mem_wrapped descriptionColumns text line hline).le
  · next hfits =>
    rw [List.mem_singleton.1 hline]
    exact Nat.le_of_not_lt hfits

theorem words_descriptionCell (h : Ordinary text) :
    ∃ pieces, (descriptionCell text).flatMap words = pieces.flatten ∧
      List.Forall₂ (Cut descriptionColumns) (words text) pieces := by
  rw [descriptionCell_of_ordinary h]
  split
  · exact words_wrapped (by decide) h.narrow
  · refine ⟨(words text).map fun word ↦ [word], ?_, ?_⟩
    · rw [List.flatMap_singleton, ← List.flatMap_def, List.flatMap_singleton']
    · rw [List.forall₂_map_right_iff, List.forall₂_same]
      exact fun word hword ↦ cut_whole descriptionColumns (mem_words hword).1

/-- What stands between two bars of the frame. -/
def field (columns : Nat) (line : List Char) : List Char := ' ' :: padded columns line ++ [' ']

def rowLine (first second : Nat) (key description : List Char) : List Char :=
  '│' :: field first key ++ '│' :: field second description ++ ['│']

theorem toList_part (columns : Nat) (line? : Option (List Char)) :
    (rowLines.part .plain columns line?).toList = field columns (line?.getD []) := by
  cases line? <;> simp [rowLines.part, cellLine, styled, field, padded]

theorem toList_rowLines (first second : Nat) (key description : Cell) :
    (rowLines .plain first second key description).map String.toList =
      (List.range (max key.length description.length)).map fun i ↦
        rowLine first second (key[i]?.getD []) (description[i]?.getD []) := by
  rw [rowLines, List.map_map]
  refine List.map_congr_left fun i _ ↦ ?_
  simp [toList_part, rowLine]

/-- So wide, of characters of one column each that stay on the line. -/
structure Spans (columns : Nat) (line : List Char) : Prop where
  width : width line = columns
  characters : ∀ c ∈ line, charWidth c = 1 ∧ c ≠ '\n'

theorem Spans.length {columns : Nat} (h : Spans columns line) : line.length = columns := by
  have hnarrow : Narrow line := fun c hc ↦ (h.characters c hc).1
  rw [← h.width, hnarrow.width]

theorem Spans.newline_not_mem {columns : Nat} (h : Spans columns line) : '\n' ∉ line :=
  fun hmem ↦ (h.characters _ hmem).2 rfl

theorem Spans.append {m n : Nat} {s t : List Char} (h : Spans m s) (h' : Spans n t) :
    Spans (m + n) (s ++ t) where
  width := by rw [width_append, h.width, h'.width]
  characters := List.forall_mem_append.2 ⟨h.characters, h'.characters⟩

theorem spans_replicate {c : Char} (hwidth : charWidth c = 1) (hc : c ≠ '\n') (n : Nat) :
    Spans n (List.replicate n c) where
  width := Text.width_replicate hwidth n
  characters x hx := by
    rw [List.eq_of_mem_replicate hx]
    exact ⟨hwidth, hc⟩

theorem spans_blank : Spans 1 [' '] := spans_replicate charWidth_blank (by decide) 1

theorem spans_drawing {c : Char} (h : c ∈ Text.drawing) (n : Nat) : Spans n (List.replicate n c) := by
  refine spans_replicate (charWidth_of_drawing h) ?_ n
  rintro rfl
  exact absurd h (by decide)

/-- Two cells, or two stretches of a rule, between the characters of the frame. -/
theorem spans_between {left cross right : Char} (h : [left, cross, right] ⊆ Text.drawing) {m n : Nat}
    {s t : List Char} (hs : Spans m s) (ht : Spans n t) :
    Spans (m + n + 3) (left :: s ++ cross :: t ++ [right]) := by
  have hleft := spans_drawing (h List.mem_cons_self) 1
  have hcross := spans_drawing (h (List.mem_cons_of_mem _ List.mem_cons_self)) 1
  have hright :=
    spans_drawing (h (List.mem_cons_of_mem _ (List.mem_cons_of_mem _ List.mem_cons_self))) 1
  have hsum : m + n + 3 = 1 + m + (1 + n) + 1 := by omega
  rw [hsum]
  exact ((hleft.append hs).append (hcross.append ht)).append hright

theorem spans_rule {r : Rule} (h : [r.left, r.cross, r.right] ⊆ Text.drawing) (first second : Nat) :
    Spans (first + second + 7) (r.text first second).toList := by
  have hstroke : '─' ∈ Text.drawing := by decide
  have hsum : first + second + 7 = first + 2 + (second + 2) + 3 := by omega
  rw [Rule.text, String.toList_ofList, hsum]
  exact spans_between h (spans_drawing hstroke (first + 2)) (spans_drawing hstroke (second + 2))

theorem spans_field {columns : Nat} (h : Ordinary line) (hwidth : width line ≤ columns) :
    Spans (columns + 2) (field columns line) := by
  have hpadded : Spans columns (padded columns line) :=
    ⟨width_padded hwidth, fun c hc ↦ (h.padded columns c hc).imp_right And.left⟩
  have hsum : columns + 2 = 1 + columns + 1 := by omega
  rw [hsum]
  exact (spans_blank.append hpadded).append spans_blank

section

variable {first second : Nat} {key description : List Char}

theorem spans_rowLine (hkey : Ordinary key) (hfirst : width key ≤ first)
    (hdescription : Ordinary description) (hsecond : width description ≤ second) :
    Spans (first + second + 7) (rowLine first second key description) := by
  have hbars : ['│', '│', '│'] ⊆ Text.drawing := by decide
  have hsum : first + second + 7 = first + 2 + (second + 2) + 3 := by omega
  rw [hsum]
  exact spans_between hbars (spans_field hkey hfirst) (spans_field hdescription hsecond)

/-- What stands between the second and the third bar of a line, without the blanks at its ends. -/
def descriptionPart (line : List Char) : List Char :=
  ((line.splitOn '│').getD 2 []).tail.dropLast

theorem splitOn_rowLine (hkey : Ordinary key) (hdescription : Ordinary description) :
    (rowLine first second key description).splitOn '│' =
      [[], field first key, field second description, []] := by
  have hfield {line : List Char} (hline : Ordinary line) (columns : Nat) :
      '│' ∉ field columns line := by
    have hpadded := (hline.padded columns).bar_not_mem
    simp only [field, List.cons_append, List.mem_cons, List.mem_append, not_or, List.not_mem_nil]
    exact ⟨by decide, hpadded, by decide, not_false⟩
  have hparts : rowLine first second key description =
      ['│'].intercalate [[], field first key, field second description, []] := by
    simp [rowLine, List.intercalate]
  rw [hparts]
  refine List.splitOn_intercalate '│' (fun part hpart ↦ ?_) (List.cons_ne_nil _ _)
  simp only [List.mem_cons, List.not_mem_nil, or_false] at hpart
  rcases hpart with rfl | rfl | rfl | rfl
  · exact List.not_mem_nil
  · exact hfield hkey first
  · exact hfield hdescription second
  · exact List.not_mem_nil

theorem descriptionPart_rowLine (hkey : Ordinary key) (hdescription : Ordinary description) :
    descriptionPart (rowLine first second key description) = padded second description := by
  rw [descriptionPart, splitOn_rowLine hkey hdescription]
  simp [field]

end

/-- The printable characters of ASCII. -/
def Printable (text : String) : Prop := ∀ c ∈ text.toList, 0x20 ≤ c.toNat ∧ c.toNat ≤ 0x7E

theorem Printable.ordinary {text : String} (h : Printable text) : Ordinary text.toList := by
  intro c hc
  obtain ⟨hfirst, hlast⟩ := h c hc
  refine ⟨charWidth_of_lt (by omega), ?_, ?_⟩
  · rintro rfl
    exact absurd hfirst (by decide)
  · rintro rfl
    exact absurd hlast (by decide)

theorem printable_ofList {l : List Char}
    (h : (l.all fun c ↦ 0x20 ≤ c.toNat && c.toNat ≤ 0x7E) = true) :
    Printable (String.ofList l) := by
  intro c hc
  rw [String.toList_ofList] at hc
  have hrange := List.all_eq_true.1 h c hc
  rwa [Bool.and_eq_true, decide_eq_true_eq, decide_eq_true_eq] at hrange

theorem Printable.append {s t : String} (hs : Printable s) (ht : Printable t) :
    Printable (s ++ t) := by
  rw [Printable, String.toList_append]
  exact List.forall_mem_append.2 ⟨hs, ht⟩

structure Row.Printable (r : Row) : Prop where
  key : Display.Printable r.key
  description : Display.Printable r.description

def longestKey (rows : List Row) : Nat := ((header :: rows).map (·.key.length)).foldl max 0

/-- The lines of a row. -/
def Row.block (first second : Nat) (r : Row) : List (List Char) :=
  (rowLines .plain first second r.cells.1 r.cells.2).map String.toList

/-- A row between the rules: how wide its cells are at most. -/
structure Row.Within (first second : Nat) (r : Row) : Prop where
  printable : r.Printable
  key : r.key.length ≤ first
  description : ∀ line ∈ r.cells.2, width line ≤ second

variable {first second : Nat} {r : Row}

theorem Row.Printable.cell_key (h : r.Printable) : r.cells.1 = [r.key.toList] :=
  cell_of_ordinary h.key.ordinary

theorem Row.Within.lines (h : r.Within first second) (i : Nat) :
    let key := r.cells.1[i]?.getD []
    let description := r.cells.2[i]?.getD []
    (Ordinary key ∧ width key ≤ first) ∧ Ordinary description ∧ width description ≤ second := by
  have hget {cell : Cell} {columns : Nat}
      (hcell : ∀ line ∈ cell, Ordinary line ∧ width line ≤ columns) :
      Ordinary (cell[i]?.getD []) ∧ width (cell[i]?.getD []) ≤ columns := by
    cases hline : cell[i]? with
    | none => exact ⟨ordinary_nil, Nat.zero_le columns⟩
    | some line => exact hcell line (List.mem_of_getElem? hline)
  have hkey := h.printable.key.ordinary
  have hdescription := h.printable.description.ordinary
  refine ⟨hget fun line hline ↦ ?_, hget fun line hline ↦
    ⟨ordinary_descriptionCell hdescription line hline, h.description line hline⟩⟩
  rw [h.printable.cell_key, List.mem_singleton] at hline
  rw [hline, hkey.narrow.width, String.length_toList]
  exact ⟨hkey, h.key⟩

theorem Row.Within.mem_block (h : r.Within first second) {line : List Char}
    (hline : line ∈ r.block first second) : ∃ key description,
      (Ordinary key ∧ width key ≤ first) ∧ (Ordinary description ∧ width description ≤ second) ∧
        line = rowLine first second key description := by
  rw [Row.block, toList_rowLines] at hline
  obtain ⟨i, -, rfl⟩ := List.mem_map.1 hline
  exact ⟨_, _, (h.lines i).1, (h.lines i).2, rfl⟩

/-- Past the end of a list there is nothing to say. -/
theorem flatMap_range_getElem? {α : Type} {f : List Char → List α} (hf : f [] = [])
    {lines : List (List Char)} {n : Nat} (h : lines.length ≤ n) :
    ((List.range n).flatMap fun i ↦ f (lines[i]?.getD [])) = lines.flatMap f := by
  induction n generalizing lines with
  | zero =>
    rw [List.length_eq_zero_iff.1 (Nat.le_zero.1 h)]
    rfl
  | succ n ih =>
    rw [List.range_succ_eq_map, List.flatMap_cons, List.flatMap_map]
    cases lines with
    | nil => simp [hf]
    | cons line lines =>
      have hrest := ih (Nat.le_of_succ_le_succ h)
      simpa using hrest

/-- The words that are read in the second column of a row. -/
theorem Row.Within.words_block (h : r.Within first second) :
    ((r.block first second).flatMap fun line ↦ words (descriptionPart line)) =
      r.cells.2.flatMap words := by
  have hline (i : Nat) : words (descriptionPart (rowLine first second (r.cells.1[i]?.getD [])
      (r.cells.2[i]?.getD []))) = words (r.cells.2[i]?.getD []) := by
    obtain ⟨⟨hkey, -⟩, hdescription, -⟩ := h.lines i
    rw [descriptionPart_rowLine hkey hdescription, words_padded]
  rw [Row.block, toList_rowLines, List.flatMap_map]
  simp only [hline]
  exact flatMap_range_getElem? words_nil (Nat.le_max_right _ _)

theorem Row.Within.head?_of_mem_block (h : r.Within first second) {line : List Char}
    (hline : line ∈ r.block first second) : line.head? = some '│' := by
  obtain ⟨key, description, -, -, rfl⟩ := h.mem_block hline
  rfl

theorem Row.Within.spans_of_mem_block (h : r.Within first second) {line : List Char}
    (hline : line ∈ r.block first second) : Spans (first + second + 7) line := by
  obtain ⟨key, description, ⟨hkey, hfirst⟩, ⟨hdescription, hsecond⟩, rfl⟩ := h.mem_block hline
  exact spans_rowLine hkey hfirst hdescription hsecond

def tableLines (table : String) : List (List Char) := table.toList.splitOn '\n'

/-- A line between two rows, or above the first or below the last. -/
def isRule (line : List Char) : Bool := line.head? != some '│'

/-- The lines of the rows, the one of the header among them. -/
def blocks (lines : List (List Char)) : List (List (List Char)) :=
  (lines.splitOnP isRule).tail.dropLast

theorem splitOnP_rows {first : List (List Char)} {rest : List (List (List Char))}
    {middle bottom : List Char} (hfirst : ∀ line ∈ first, isRule line = false)
    (hrest : ∀ block ∈ rest, ∀ line ∈ block, isRule line = false) (hmiddle : isRule middle = true)
    (hbottom : isRule bottom = true) :
    (first ++ rest.flatMap (middle :: ·) ++ [bottom]).splitOnP isRule = first :: (rest ++ [[]]) := by
  induction rest generalizing first with
  | nil =>
    rw [List.flatMap_nil, List.append_nil, List.splitOnP_append_cons _ _ hbottom,
      List.splitOnP_eq_singleton hfirst]
    rfl
  | cons second rest ih =>
    obtain ⟨hsecond, hrest⟩ := List.forall_mem_cons.1 hrest
    have hsplit := ih hsecond hrest
    rw [List.flatMap_cons, List.append_assoc, List.cons_append, List.cons_append,
      List.splitOnP_append_cons _ _ hmiddle, List.splitOnP_eq_singleton hfirst, hsplit]
    rfl

theorem printable_header : header.Printable :=
  ⟨printable_ofList (by decide), printable_ofList (by decide)⟩

theorem exists_within {rows : List Row} (h : ∀ r ∈ rows, r.Printable) :
    let cells := rows.map Row.cells
    let first := columns (header.cells.1 :: cells.map (·.1))
    let second := columns (header.cells.2 :: cells.map (·.2))
    first ≤ longestKey rows ∧ second ≤ descriptionColumns ∧
      ∀ r ∈ header :: rows, r.Within first second := by
  intro cells first second
  have hprintable : ∀ r ∈ header :: rows, r.Printable := List.forall_mem_cons.2 ⟨printable_header, h⟩
  have hfirst : first = columns ((header :: rows).map fun r ↦ r.cells.1) := by
    simp only [first, cells, List.map_cons, List.map_map, Function.comp_def]
  have hsecond : second = columns ((header :: rows).map fun r ↦ r.cells.2) := by
    simp only [second, cells, List.map_cons, List.map_map, Function.comp_def]
  have hkey {r : Row} (hr : r ∈ header :: rows) : width r.key.toList = r.key.length := by
    rw [(hprintable r hr).key.ordinary.narrow.width, String.length_toList]
  rw [hfirst, hsecond]
  refine ⟨?_, ?_, fun r hr ↦ ⟨hprintable r hr, ?_, fun line hline ↦ ?_⟩⟩
  · refine columns_le_iff.2 fun c hc line hline ↦ ?_
    obtain ⟨r, hr, rfl⟩ := List.mem_map.1 hc
    rw [(hprintable r hr).cell_key, List.mem_singleton] at hline
    rw [hline, hkey hr]
    exact (foldl_max_le_iff.1 le_rfl).2 _ (List.mem_map_of_mem hr)
  · refine columns_le_iff.2 fun c hc line hline ↦ ?_
    obtain ⟨r, hr, rfl⟩ := List.mem_map.1 hc
    exact width_descriptionCell (hprintable r hr).description.ordinary line hline
  · rw [← hkey hr]
    refine columns_le_iff.1 le_rfl _ (List.mem_map_of_mem hr) _ ?_
    rw [(hprintable r hr).cell_key]
    exact List.mem_singleton_self _
  · exact columns_le_iff.1 le_rfl _ (List.mem_map_of_mem hr) line hline

/-- The lines of the table, of rows in the frame. -/
def framed (first second : Nat) (rows : List Row) : List (List Char) :=
  (topRule.text first second).toList :: (header.block first second ++
    (rows.map (Row.block first second)).flatMap ((middleRule.text first second).toList :: ·) ++
      [(bottomRule.text first second).toList])

theorem mem_framed {rows : List Row} {line : List Char} (h : line ∈ framed first second rows) :
    (∃ r : Rule, [r.left, r.cross, r.right] ⊆ Text.drawing ∧ '│' ∉ [r.left, r.cross, r.right] ∧
      line = (r.text first second).toList) ∨
    ∃ r ∈ header :: rows, line ∈ r.block first second := by
  rcases List.mem_cons.1 h with rfl | h
  · exact Or.inl ⟨topRule, by decide, by decide, rfl⟩
  rcases List.mem_append.1 h with h | h
  · rcases List.mem_append.1 h with h | h
    · exact Or.inr ⟨header, List.mem_cons_self, h⟩
    · obtain ⟨block, hblock, hline⟩ := List.mem_flatMap.1 h
      obtain ⟨r, hr, rfl⟩ := List.mem_map.1 hblock
      rcases List.mem_cons.1 hline with rfl | hline
      · exact Or.inl ⟨middleRule, by decide, by decide, rfl⟩
      · exact Or.inr ⟨r, List.mem_cons_of_mem _ hr, hline⟩
  · rw [List.mem_singleton.1 h]
    exact Or.inl ⟨bottomRule, by decide, by decide, rfl⟩

theorem spans_framed {rows : List Row} (h : ∀ r ∈ header :: rows, r.Within first second)
    {line : List Char} (hline : line ∈ framed first second rows) :
    Spans (first + second + 7) line := by
  rcases mem_framed hline with ⟨rule, hdrawing, -, rfl⟩ | ⟨r, hr, hline⟩
  · exact spans_rule hdrawing first second
  · exact (h r hr).spans_of_mem_block hline

/-- The parts of a line of a row are two cells between bars, with a blank at either end. -/
theorem Row.Within.splitOn_of_mem_block (h : r.Within first second) {line : List Char}
    (hline : line ∈ r.block first second) :
    ∃ key, line.splitOn '│' = [[], key, ' ' :: descriptionPart line ++ [' '], []] := by
  obtain ⟨key, description, ⟨hkey, -⟩, ⟨hdescription, -⟩, rfl⟩ := h.mem_block hline
  refine ⟨field first key, ?_⟩
  rw [descriptionPart_rowLine hkey hdescription, splitOn_rowLine hkey hdescription, field, field]

theorem descriptionPart_framed {rows : List Row} (h : ∀ r ∈ header :: rows, r.Within first second)
    {line : List Char} (hline : line ∈ framed first second rows) :
    (descriptionPart line).length ≤ second := by
  rcases mem_framed hline with ⟨rule, -, hbar, rfl⟩ | ⟨r, hr, hline⟩
  · have hline := not_mem_rule first second hbar (by decide)
    rw [descriptionPart, List.splitOn_eq_singleton hline]
    exact Nat.zero_le second
  · obtain ⟨key, description, ⟨hkey, -⟩, ⟨hdescription, hwidth⟩, rfl⟩ := (h r hr).mem_block hline
    rw [descriptionPart_rowLine hkey hdescription, ← (hdescription.padded second).narrow.width,
      width_padded hwidth]

theorem blocks_framed {rows : List Row} (h : ∀ r ∈ header :: rows, r.Within first second) :
    blocks (framed first second rows) = (header :: rows).map (Row.block first second) := by
  have hrow (r : Row) (hr : r ∈ header :: rows) (line : List Char)
      (hline : line ∈ r.block first second) : isRule line = false := by
    rw [isRule, (h r hr).head?_of_mem_block hline]
    rfl
  have hrule {r : Rule} (hr : r.left ≠ '│') : isRule (r.text first second).toList = true := by
    rw [Rule.text, String.toList_ofList]
    exact bne_iff_ne.2 fun heq ↦ hr (Option.some.inj heq)
  have hrest : ∀ block ∈ rows.map (Row.block first second), ∀ line ∈ block, isRule line = false := by
    intro block hblock
    obtain ⟨r, hr, rfl⟩ := List.mem_map.1 hblock
    exact hrow r (List.mem_cons_of_mem _ hr)
  have hsplit := splitOnP_rows (hrow header List.mem_cons_self) hrest
    (hrule (r := middleRule) (by decide)) (hrule (r := bottomRule) (by decide))
  rw [blocks, framed, ← List.nil_append ((topRule.text first second).toList :: _),
    List.splitOnP_append_cons _ _ (hrule (by decide)), hsplit, List.splitOnP_nil,
    List.singleton_append, List.tail_cons, ← List.cons_append, List.dropLast_concat, List.map_cons]

theorem tableLines_keyTable {rows : List Row} (h : ∀ r ∈ rows, r.Printable) :
    ∃ first second, first ≤ longestKey rows ∧ second ≤ descriptionColumns ∧
      (∀ r ∈ header :: rows, r.Within first second) ∧
      tableLines (keyTable .plain rows) = framed first second rows := by
  obtain ⟨hfirst, hsecond, hwithin⟩ := exists_within h
  refine ⟨_, _, hfirst, hsecond, hwithin, ?_⟩
  rw [tableLines, keyTable_eq]
  generalize columns (header.cells.1 :: (rows.map Row.cells).map (·.1)) = first at hwithin ⊢
  generalize columns (header.cells.2 :: (rows.map Row.cells).map (·.2)) = second at hwithin ⊢
  have hlines : (topRule.text first second ::
      rowLines .plain first second header.cells.1 header.cells.2 ++
      ((rows.map Row.cells).flatMap fun c ↦
        middleRule.text first second :: rowLines .plain first second c.1 c.2) ++
      [bottomRule.text first second]).map String.toList = framed first second rows := by
    simp [framed, Row.block, List.map_flatMap, List.flatMap_map]
  have hnewline : "\n".toList = ['\n'] := rfl
  rw [String.toList_intercalate, hlines, hnewline]
  exact List.splitOn_intercalate '\n'
    (fun line hline ↦ (spans_framed hwithin hline).newline_not_mem) (List.cons_ne_nil _ _)

/-- All lines of the table are equally wide, and no wider than the longest key and a description can
make them. In the second column of a row, read line by line, are the words of its description in
their order; none of them is cut that this column can hold. -/
theorem keyTable_layout {rows : List Row} (h : ∀ r ∈ rows, r.Printable) :
    let lines := tableLines (keyTable .plain rows)
    (∃ n ≤ longestKey rows + descriptionColumns + 7,
      ∀ line ∈ lines, line.length = n ∧ width line = n) ∧
    (∀ line ∈ lines, (descriptionPart line).length ≤ descriptionColumns) ∧
    (∀ block ∈ blocks lines, ∀ line ∈ block,
      ∃ key, line.splitOn '│' = [[], key, ' ' :: descriptionPart line ++ [' '], []]) ∧
    List.Forall₂ (fun r block ↦ ∃ pieces,
        (block.flatMap fun line ↦ words (descriptionPart line)) = pieces.flatten ∧
        List.Forall₂ (Cut descriptionColumns) (words r.description.toList) pieces)
      (header :: rows) (blocks lines) := by
  intro lines
  obtain ⟨first, second, hfirst, hsecond, hwithin, hframed⟩ := tableLines_keyTable h
  have hlines : lines = framed first second rows := hframed
  rw [hlines, blocks_framed hwithin]
  refine ⟨⟨first + second + 7, by omega, fun line hline ↦ ?_⟩, fun line hline ↦ ?_,
    fun block hblock line hline ↦ ?_, ?_⟩
  · have hspans := spans_framed hwithin hline
    exact ⟨hspans.length, hspans.width⟩
  · exact (descriptionPart_framed hwithin hline).trans hsecond
  · obtain ⟨r, hr, rfl⟩ := List.mem_map.1 hblock
    exact (hwithin r hr).splitOn_of_mem_block hline
  · rw [List.forall₂_map_right_iff, List.forall₂_same]
    intro r hr
    rw [(hwithin r hr).words_block]
    exact words_descriptionCell (hwithin r hr).printable.description.ordinary

section

open Run (keyRows)

theorem printable_keyRows : ∀ r ∈ keyRows, r.Printable := by
  intro r hr
  obtain ⟨key, -, rfl⟩ := List.mem_map.1 hr
  constructor
  · cases key <;> exact printable_ofList (by decide)
  · cases key with
    | logLevel => exact (printable_ofList (by decide)).append (printable_ofList (by decide))
    | _ => exact printable_ofList (by decide)

theorem keyRows_layout : (∀ r ∈ keyRows, r.Printable) ∧
    (∃ n ≤ 80, ∀ line ∈ tableLines (keyTable .plain keyRows), line.length = n) ∧
    (blocks (tableLines (keyTable .plain keyRows))).length = 13 := by
  obtain ⟨⟨n, hn, hlines⟩, -, -, hblocks⟩ := keyTable_layout printable_keyRows
  have hlongest : longestKey keyRows = 30 := by decide
  rw [hlongest] at hn
  exact ⟨printable_keyRows, ⟨n, hn, fun line hline ↦ (hlines line hline).1⟩,
    hblocks.length_eq.symm⟩

end

end ConfigKeeper.Display
