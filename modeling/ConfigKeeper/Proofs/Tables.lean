import ConfigKeeper.Display.Table
import ConfigKeeper.Proofs.Looks
import ConfigKeeper.Proofs.Splitting

namespace ConfigKeeper.Display

/-- Of a text broken into lines, nothing but its own characters, blanks, and the marks for what was
lost. -/
def Drawn (text line : List Char) : Prop := ∀ c ∈ line, c ∈ text ∨ c = ' ' ∨ c = '\uFFFD'

variable {text line : List Char}

theorem Drawn.escape_not_mem (h : Drawn text line) (htext : '\x1b' ∉ text) : '\x1b' ∉ line := by
  intro hescape
  rcases h _ hescape with hmem | heq | heq
  · exact htext hmem
  · cases heq
  · cases heq

theorem Drawn.append {more : List Char} (h : Drawn text line) (h' : Drawn text more) :
    Drawn text (line ++ more) := List.forall_mem_append.2 ⟨h, h'⟩

theorem Drawn.replicate {c : Char} (h : c = ' ' ∨ c = '\uFFFD') (n : Nat) :
    Drawn text (List.replicate n c) := fun _ hx ↦ Or.inr (List.eq_of_mem_replicate hx ▸ h)

theorem Drawn.padded (h : Drawn text line) (columns : Nat) : Drawn text (padded columns line) :=
  h.append (.replicate (Or.inl rfl) _)

namespace Wrapping

/-- All lines are drawn from a text, those that are done and the open one. -/
structure From (text : List Char) (w : Wrapping) : Prop where
  done : ∀ line ∈ w.done, Drawn text line
  line : Drawn text w.line

variable {w : Wrapping}

theorem From.endFull (h : w.From text) (columns : Nat) : (w.endFull columns).From text := by
  rw [Wrapping.endFull]
  split
  · exact ⟨List.forall_mem_cons.2 ⟨h.line, h.done⟩, fun _ hc ↦ absurd hc List.not_mem_nil⟩
  · exact h

theorem From.char (h : w.From text) (columns : Nat) {c : Char} (hc : c ∈ text) :
    (w.char columns c).From text := by
  have hfull := h.endFull columns
  rw [Wrapping.char]
  refine From.endFull ?_ columns
  refine ⟨hfull.done, hfull.line.append ?_⟩
  split
  · exact fun x hx ↦ Or.inl (List.mem_singleton.1 hx ▸ hc)
  · exact .replicate (Or.inr rfl) _

theorem From.blank (h : w.From text) (columns : Nat) : (w.blank columns).From text := by
  rw [Wrapping.blank]
  split
  · exact ⟨h.done, h.line.append (.replicate (Or.inl rfl) 1)⟩
  · exact h

theorem From.foldl_char {word : List Char} (h : w.From text) (columns : Nat)
    (hword : ∀ c ∈ word, c ∈ text) : (word.foldl (Wrapping.char columns) w).From text := by
  induction word generalizing w with
  | nil => exact h
  | cons c word ih =>
    obtain ⟨hc, hword⟩ := List.forall_mem_cons.1 hword
    exact ih (h.char columns hc) hword

theorem From.word {word : List Char} (h : w.From text) (columns : Nat)
    (hword : ∀ c ∈ word, c ∈ text) : (w.word columns word).From text := by
  have hblank := h.blank columns
  have hdrawn : Drawn text word := fun c hc ↦ Or.inl (hword c hc)
  rw [Wrapping.word]
  split
  · exact ⟨hblank.done, hblank.line.append hdrawn⟩
  · split
    · exact ⟨List.forall_mem_cons.2 ⟨hblank.line.padded columns, hblank.done⟩, hdrawn⟩
    · exact hblank.foldl_char columns hword

theorem From.lines (h : w.From text) (columns : Nat) :
    ∀ line ∈ w.lines columns, Drawn text line := by
  intro line hline
  rw [Wrapping.lines] at hline
  split at hline
  · exact h.done line (List.mem_reverse.1 hline)
  · rcases List.mem_cons.1 (List.mem_reverse.1 hline) with rfl | hmem
    · exact h.line.padded columns
    · exact h.done line hmem

theorem From.foldl_word {words : List (List Char)} (h : w.From text) (columns : Nat)
    (hwords : ∀ word ∈ words, ∀ c ∈ word, c ∈ text) :
    (words.foldl (Wrapping.word columns) w).From text := by
  induction words generalizing w with
  | nil => exact h
  | cons word words ih =>
    obtain ⟨hword, hwords⟩ := List.forall_mem_cons.1 hwords
    exact ih (h.word columns hword) hwords

theorem from_foldl_word (columns : Nat) (text : List Char) :
    ((text.splitOn ' ').foldl (Wrapping.word columns) {}).From text := by
  have hempty : From text {} := ⟨fun _ h ↦ absurd h List.not_mem_nil,
    fun _ h ↦ absurd h List.not_mem_nil⟩
  exact hempty.foldl_word columns fun word hword c hc ↦ (mem_of_mem_splitOn hword hc).1

end Wrapping

theorem drawn_wrapped (columns : Nat) (text : List Char) :
    ∀ line ∈ wrapped columns text, Drawn text line :=
  (Wrapping.from_foldl_word columns text).lines columns

theorem drawn_cell (text : List Char) : ∀ line ∈ cell text, Drawn text line :=
  fun _ hline _ hc ↦ Or.inl (mem_of_mem_splitOn hline hc).1

theorem drawn_descriptionCell (text : List Char) :
    ∀ line ∈ descriptionCell text, Drawn text line := by
  rw [descriptionCell]
  split
  · intro line hline c hc
    obtain ⟨outer, houter, hline⟩ := List.mem_flatMap.1 hline
    exact drawn_wrapped _ text outer houter c ((mem_of_mem_splitOn hline hc).1)
  · exact drawn_cell text

theorem tinted_cellLine (palette : Palette) (columns : Nat) (h : '\x1b' ∉ line) :
    Tinted (cellLine palette columns line) (cellLine .plain columns line) := by
  have hblanks (n : Nat) : '\x1b' ∉ (String.ofList (List.replicate n ' ')).toList :=
    escape_not_mem_ofList fun hmem ↦ absurd (List.eq_of_mem_replicate hmem) (by decide)
  rw [cellLine, cellLine]
  refine .append (.append (.append (.refl (by decide)) ?_) (.refl (hblanks _))) (.refl (by decide))
  exact tinted_styled palette (by decide) (escape_not_mem_ofList h)

theorem tinted_part (palette : Palette) (columns : Nat) {line? : Option (List Char)}
    (h : ∀ line ∈ line?, '\x1b' ∉ line) :
    Tinted (rowLines.part palette columns line?) (rowLines.part .plain columns line?) := by
  cases line? with
  | none => exact tinted_cellLine .plain columns List.not_mem_nil
  | some line => exact tinted_cellLine palette columns (h line rfl)

section

variable {palette : Palette} (first second : Nat)

theorem tinted_rowLines {key description : Cell} (hkey : ∀ line ∈ key, '\x1b' ∉ line)
    (hdescription : ∀ line ∈ description, '\x1b' ∉ line) :
    List.Forall₂ Tinted (rowLines palette first second key description)
      (rowLines .plain first second key description) := by
  rw [rowLines, rowLines, List.forall₂_map_left_iff, List.forall₂_map_right_iff,
    List.forall₂_same]
  intro i _
  have hfirst : ∀ line ∈ key[i]?, '\x1b' ∉ line := fun line hline ↦
    hkey line (List.mem_of_getElem? hline)
  have hsecond : ∀ line ∈ description[i]?, '\x1b' ∉ line := fun line hline ↦
    hdescription line (List.mem_of_getElem? hline)
  have hbar : Tinted "│" "│" := .refl (by decide)
  exact (((hbar.append (tinted_part palette first hfirst)).append hbar).append
    (tinted_part palette second hsecond)).append hbar

theorem not_mem_rule {r : Rule} {c : Char} (h : c ∉ [r.left, r.cross, r.right]) (hc : c ≠ '─') :
    c ∉ (r.text first second).toList := by
  rw [Rule.text, String.toList_ofList]
  simp only [List.mem_cons, List.mem_append, List.mem_replicate, List.not_mem_nil, not_or, not_and,
    or_false] at h ⊢
  exact ⟨⟨⟨h.1, fun _ ↦ hc⟩, h.2.1, fun _ ↦ hc⟩, h.2.2⟩

theorem tinted_rule (r : Rule) (h : '\x1b' ∉ [r.left, r.cross, r.right]) :
    Tinted (r.text first second) (r.text first second) :=
  .refl (not_mem_rule first second h (by decide))

end

/-- A row that can be shown as it is: no sequence of the terminal begins in it. -/
structure Row.Clean (r : Row) : Prop where
  key : '\x1b' ∉ r.key.toList
  description : '\x1b' ∉ r.description.toList

theorem clean_header : header.Clean := ⟨by decide, by decide⟩

def Row.cells (r : Row) : Cell × Cell := (cell r.key.toList, descriptionCell r.description.toList)

theorem Row.Clean.rowLines {r : Row} (h : r.Clean) (palette : Palette) (first second : Nat) :
    List.Forall₂ Tinted (rowLines palette first second r.cells.1 r.cells.2)
      (rowLines .plain first second r.cells.1 r.cells.2) :=
  tinted_rowLines first second
    (fun line hline ↦ (drawn_cell _ line hline).escape_not_mem h.key)
    fun line hline ↦ (drawn_descriptionCell _ line hline).escape_not_mem h.description

/-- The columns are the same in all colours, which only the head has. -/
theorem keyTable_eq (palette : Palette) (rows : List Row) :
    let cells := rows.map Row.cells
    let first := columns (header.cells.1 :: cells.map (·.1))
    let second := columns (header.cells.2 :: cells.map (·.2))
    keyTable palette rows = "\n".intercalate (topRule.text first second ::
      rowLines palette first second header.cells.1 header.cells.2 ++
      (cells.flatMap fun c ↦
        middleRule.text first second :: rowLines .plain first second c.1 c.2) ++
      [bottomRule.text first second]) := by
  intro cells first second
  rw [keyTable]
  rfl

theorem tinted_keyTable (palette : Palette) {rows : List Row} (h : ∀ r ∈ rows, r.Clean) :
    Tinted (keyTable palette rows) (keyTable .plain rows) := by
  rw [keyTable_eq, keyTable_eq]
  generalize columns (header.cells.1 :: (rows.map Row.cells).map (·.1)) = first
  generalize columns (header.cells.2 :: (rows.map Row.cells).map (·.2)) = second
  refine .intercalate (by decide) ?_
  refine List.rel_append (List.rel_append (.cons ?_ ?_) ?_) (.cons ?_ .nil)
  · exact tinted_rule first second topRule (by decide)
  · exact clean_header.rowLines palette first second
  · rw [List.forall₂_same]
    intro line hline
    obtain ⟨c, hc, hline⟩ := List.mem_flatMap.1 hline
    obtain ⟨r, hr, rfl⟩ := List.mem_map.1 hc
    rcases List.mem_cons.1 hline with rfl | hline
    · exact tinted_rule first second middleRule (by decide)
    · exact List.forall₂_same.1 ((h r hr).rowLines .plain first second) line hline
  · exact tinted_rule first second bottomRule (by decide)

end ConfigKeeper.Display
