import ConfigKeeper.Proofs.Tables

namespace ConfigKeeper

namespace Text

theorem width_append (s t : List Char) : width (s ++ t) = width s + width t := by
  induction s with
  | nil => exact (Nat.zero_add _).symm
  | cons c s ih => simp only [List.cons_append, width, ih, Nat.add_assoc]

theorem width_singleton (c : Char) : width [c] = charWidth c := Nat.add_zero _

theorem width_replicate {c : Char} (hc : charWidth c = 1) (n : Nat) :
    width (List.replicate n c) = n := by
  induction n with
  | zero => rfl
  | succ n ih => rw [List.replicate_succ, width, hc, ih, Nat.add_comm]

set_option maxRecDepth 2000 in
theorem first_unusual : (weightless ++ wide).all (fun r ↦ 0x300 ≤ r.1) = true := by decide

theorem charWidth_of_lt {c : Char} (h : c.toNat < 0x300) : charWidth c = 1 := by
  have hnone (rs : List (Nat × Nat)) (hrs : rs ⊆ weightless ++ wide) :
      inRanges rs c.toNat = false := by
    rw [inRanges, List.any_eq_false]
    intro r hr
    have hfirst := List.all_eq_true.1 first_unusual r (hrs hr)
    rw [decide_eq_true_eq] at hfirst
    rw [Bool.and_eq_true, decide_eq_true_eq, not_and]
    omega
  rw [charWidth, hnone weightless (List.subset_append_left _ _),
    hnone wide (List.subset_append_right _ _)]
  rfl

/-- The mark for what was lost, and the characters of frames. -/
def drawing : List Char := ['\uFFFD', '─', '│', '┌', '┬', '┐', '├', '┼', '┤', '└', '┴', '┘']

theorem narrow_drawing : (drawing.all fun c ↦ charWidth c == 1) = true := by decide +kernel

theorem charWidth_of_drawing {c : Char} (h : c ∈ drawing) : charWidth c = 1 :=
  beq_iff_eq.1 (List.all_eq_true.1 narrow_drawing c h)

theorem charWidth_blank : charWidth ' ' = 1 := charWidth_of_lt (by decide)

theorem charWidth_mark : charWidth '\uFFFD' = 1 := charWidth_of_drawing (by decide)

/-- Each character takes up one column. -/
def Narrow (s : List Char) : Prop := ∀ c ∈ s, charWidth c = 1

theorem Narrow.width {s : List Char} (h : Narrow s) : width s = s.length := by
  induction s with
  | nil => rfl
  | cons c s ih =>
    obtain ⟨hc, hs⟩ := List.forall_mem_cons.1 h
    rw [Text.width, hc, ih hs, List.length_cons, Nat.add_comm]

end Text

namespace Display

open Text (Narrow charWidth charWidth_blank charWidth_mark width width_append
  width_replicate width_singleton)

variable {columns : Nat} {text line part : List Char} {w : Wrapping}

theorem width_padded (h : width line ≤ columns) : width (padded columns line) = columns := by
  rw [padded, width_append, width_replicate charWidth_blank]
  omega

namespace Wrapping

/-- The lines that are done are full, the open one is not over-full, and it is empty where a word is
to begin it. -/
structure Fits (columns : Nat) (w : Wrapping) : Prop where
  done : ∀ line ∈ w.done, width line = columns
  line : width w.line ≤ columns
  fresh : w.fresh = true → w.line = []

theorem Fits.endFull (h : w.Fits columns) : (w.endFull columns).Fits columns := by
  rw [Wrapping.endFull]
  split
  · next hfull =>
    have hline := Nat.le_antisymm h.line hfull
    exact ⟨List.forall_mem_cons.2 ⟨hline, h.done⟩, Nat.zero_le columns, fun _ ↦ rfl⟩
  · exact h

theorem Fits.char (h : w.Fits columns) (c : Char) : (w.char columns c).Fits columns := by
  have hfull := h.endFull
  rw [Wrapping.char]
  refine Fits.endFull ⟨hfull.done, ?_, fun hfresh ↦ absurd hfresh Bool.false_ne_true⟩
  rw [width_append]
  split
  · next hroom =>
    rw [width_singleton]
    exact Nat.add_le_of_le_sub' hfull.line hroom
  · rw [width_replicate charWidth_mark]
    exact (Nat.add_sub_of_le hfull.line).le

theorem Fits.foldl_char (h : w.Fits columns) (word : List Char) :
    (word.foldl (Wrapping.char columns) w).Fits columns := by
  induction word generalizing w with
  | nil => exact h
  | cons c word ih => exact ih (h.char c)

theorem Fits.blank (h : w.Fits columns) : (w.blank columns).Fits columns := by
  rw [Wrapping.blank]
  split
  · next hroom =>
    rw [Bool.and_eq_true, Bool.not_eq_true', decide_eq_true_eq] at hroom
    refine ⟨h.done, ?_, fun hfresh ↦ absurd (hroom.1.symm.trans hfresh) Bool.false_ne_true⟩
    rw [width_append, width_singleton, charWidth_blank]
    exact hroom.2
  · exact h

theorem Fits.word (h : w.Fits columns) (word : List Char) : (w.word columns word).Fits columns := by
  have hblank := h.blank
  rw [Wrapping.word]
  split
  · next hroom =>
    exact ⟨hblank.done, (width_append _ _).trans_le hroom,
      fun hfresh ↦ absurd hfresh Bool.false_ne_true⟩
  · split
    · next hword =>
      exact ⟨List.forall_mem_cons.2 ⟨width_padded hblank.line, hblank.done⟩, hword,
        fun hfresh ↦ absurd hfresh Bool.false_ne_true⟩
    · exact hblank.foldl_char word

theorem Fits.foldl_word (h : w.Fits columns) (words : List (List Char)) :
    (words.foldl (Wrapping.word columns) w).Fits columns := by
  induction words generalizing w with
  | nil => exact h
  | cons word words ih => exact ih (h.word word)

theorem Fits.lines (h : w.Fits columns) : ∀ line ∈ w.lines columns, width line = columns := by
  intro line hline
  rw [Wrapping.lines] at hline
  split at hline
  · exact h.done line (List.mem_reverse.1 hline)
  · rcases List.mem_cons.1 (List.mem_reverse.1 hline) with rfl | hmem
    · exact width_padded h.line
    · exact h.done line hmem

theorem fits_empty (columns : Nat) : Fits columns {} :=
  ⟨fun _ h ↦ absurd h List.not_mem_nil, Nat.zero_le columns, fun _ ↦ rfl⟩

end Wrapping

/-- Lines are as wide as they may be, whatever the text. -/
theorem width_of_mem_wrapped (columns : Nat) (text : List Char) :
    ∀ line ∈ wrapped columns text, width line = columns :=
  ((Wrapping.fits_empty columns).foldl_word _).lines

/-- The words of a text, between its blanks. -/
def words (text : List Char) : List (List Char) := (text.splitOn ' ').filter (!·.isEmpty)

theorem words_nil : words [] = [] := rfl

theorem mem_words {word : List Char} (h : word ∈ words text) : word ≠ [] ∧ ' ' ∉ word := by
  rw [words, List.mem_filter, Bool.not_eq_true', List.isEmpty_eq_false_iff] at h
  exact ⟨h.2, fun hblank ↦ (mem_of_mem_splitOn h.1 hblank).2 rfl⟩

theorem words_append_blank (s t : List Char) : words (s ++ ' ' :: t) = words s ++ words t := by
  rw [words, List.splitOn_append_cons_self, List.filter_append]
  rfl

theorem words_of_word (hne : text ≠ []) (h : ' ' ∉ text) : words text = [text] := by
  rw [words, List.splitOn_eq_singleton h, List.filter_cons_of_pos]
  · rfl
  · rw [Bool.not_eq_true', List.isEmpty_eq_false_iff]
    exact hne

theorem flatten_words (h : ' ' ∉ text) : (words text).flatten = text := by
  by_cases hne : text = []
  · rw [hne]
    rfl
  · rw [words_of_word hne h, List.flatten_singleton]

example : words " ab  c".toList = ["ab".toList, "c".toList] := by decide

theorem words_blanks (n : Nat) : words (List.replicate n ' ') = [] := by
  induction n with
  | zero => rfl
  | succ n ih => exact (words_append_blank [] _).trans ih

theorem words_padded (columns : Nat) (line : List Char) : words (padded columns line) = words line := by
  rw [padded]
  cases columns - width line with
  | zero => rw [List.replicate_zero, List.append_nil]
  | succ n => rw [List.replicate_succ, words_append_blank, words_blanks, List.append_nil]

/-- Behind these characters a word can begin. -/
def Open (front : List Char) : Prop := front = [] ∨ ∃ s, front = s ++ [' ']

theorem words_append {front : List Char} (h : Open front) (t : List Char) :
    words (front ++ t) = words front ++ words t := by
  rcases h with rfl | ⟨s, rfl⟩
  · rfl
  · rw [List.append_assoc, List.singleton_append, words_append_blank, words_append_blank, words_nil,
      List.append_nil]

/-- What becomes of a word in lines that are not wider than this. -/
structure Cut (columns : Nat) (word : List Char) (pieces : List (List Char)) : Prop where
  flatten : pieces.flatten = word
  nonempty : [] ∉ pieces
  whole : word.length ≤ columns → pieces = [word]

theorem cut_whole (columns : Nat) {word : List Char} (h : word ≠ []) : Cut columns word [word] where
  flatten := List.flatten_singleton
  nonempty hmem := h (List.mem_singleton.1 hmem).symm
  whole _ := rfl

namespace Wrapping

/-- The words of all lines, of those that are done and of the open one. -/
def said (w : Wrapping) : List (List Char) := w.done.reverse.flatMap words ++ words w.line

theorem said_endFull (columns : Nat) (w : Wrapping) : (w.endFull columns).said = w.said := by
  rw [endFull]
  split
  · simp only [said, List.reverse_cons, List.flatMap_append, List.flatMap_singleton, words_nil,
      List.append_nil]
  · rfl

theorem said_blank (columns : Nat) (w : Wrapping) : (w.blank columns).said = w.said := by
  rw [blank]
  split
  · rw [said, words_append_blank, words_nil, List.append_nil]
    rfl
  · rfl

/-- A part of a word has been written behind the words `before`, in pieces of which the last one is
at the end of the open line. -/
inductive Writes (before : List (List Char)) (w : Wrapping) : List Char → Prop
  | mk {pieces : List (List Char)} {front piece : List Char} : w.line = front ++ piece →
      Open front → ' ' ∉ piece → [] ∉ pieces →
      w.done.reverse.flatMap words ++ words front = before ++ pieces →
      Writes before w (pieces.flatten ++ piece)

variable {before : List (List Char)} {part : List Char}

theorem Writes.said (h : w.Writes before part) :
    ∃ pieces, w.said = before ++ pieces ∧ pieces.flatten = part ∧ [] ∉ pieces := by
  cases h with
  | @mk pieces front piece hline hfront hpiece hne hbefore =>
    refine ⟨pieces ++ words piece, ?_, ?_, ?_⟩
    · rw [Wrapping.said, hline, words_append hfront, ← List.append_assoc, hbefore,
        List.append_assoc]
    · rw [List.flatten_append, flatten_words hpiece]
    · rw [List.mem_append, not_or]
      exact ⟨hne, fun hmem ↦ (mem_words hmem).1 rfl⟩

theorem writes_of_open (hfront : Open w.line) : w.Writes w.said [] :=
  .mk (List.append_nil w.line).symm hfront List.not_mem_nil List.not_mem_nil
    (List.append_nil w.said).symm

theorem Writes.endFull (h : w.Writes before part) (columns : Nat) :
    (w.endFull columns).Writes before part := by
  rw [Wrapping.endFull]
  split
  · obtain ⟨pieces, hsaid, rfl, hne⟩ := h.said
    have hdone : (w.line :: w.done).reverse.flatMap words ++ words [] = before ++ pieces := by
      rw [← hsaid, List.reverse_cons, List.flatMap_append, List.flatMap_singleton, words_nil,
        List.append_nil, Wrapping.said]
    rw [← List.append_nil pieces.flatten]
    exact .mk rfl (Or.inl rfl) List.not_mem_nil hne hdone
  · exact h

theorem Writes.add (h : w.Writes before part) {c : Char} (hc : c ≠ ' ') :
    Writes before { w with line := w.line ++ [c], fresh := false } (part ++ [c]) := by
  cases h with
  | mk hline hfront hpiece hne hbefore =>
    rw [List.append_assoc]
    refine .mk ?_ hfront ?_ hne hbefore
    · rw [hline, List.append_assoc]
    · rw [List.mem_append, not_or, List.mem_singleton]
      exact ⟨hpiece, hc.symm⟩

theorem width_endFull (hcolumns : 0 < columns) (w : Wrapping) :
    width (w.endFull columns).line < columns := by
  rw [endFull]
  split
  · exact hcolumns
  · next h => exact Nat.lt_of_not_le h

theorem endFull_endFull (hcolumns : 0 < columns) (w : Wrapping) :
    (w.endFull columns).endFull columns = w.endFull columns := by
  rw [endFull, if_neg (Nat.not_le_of_lt (width_endFull hcolumns w))]

theorem char_endFull (hcolumns : 0 < columns) (w : Wrapping) (c : Char) :
    (w.endFull columns).char columns c = w.char columns c := by
  rw [char, char, endFull_endFull hcolumns]

/-- There is room for a character of one column once a full line has ended. -/
theorem char_of_narrow (hcolumns : 0 < columns) (w : Wrapping) {c : Char} (hc : charWidth c = 1) :
    w.char columns c = endFull columns
      { w.endFull columns with line := (w.endFull columns).line ++ [c], fresh := false } := by
  have hroom : charWidth c ≤ columns - width (w.endFull columns).line := by
    rw [hc]
    exact Nat.sub_pos_of_lt (width_endFull hcolumns w)
  simp only [char, if_pos hroom]

theorem Writes.char (h : w.Writes before part) (hcolumns : 0 < columns) {c : Char}
    (hc : charWidth c = 1) (hblank : c ≠ ' ') : (w.char columns c).Writes before (part ++ [c]) := by
  rw [char_of_narrow hcolumns w hc]
  exact ((h.endFull columns).add hblank).endFull columns

theorem Writes.foldl_char {word : List Char} (h : w.Writes before part) (hcolumns : 0 < columns)
    (hnarrow : Narrow word) (hblank : ' ' ∉ word) :
    (word.foldl (Wrapping.char columns) w).Writes before (part ++ word) := by
  induction word generalizing w part with
  | nil =>
    rw [List.append_nil]
    exact h
  | cons c word ih =>
    obtain ⟨hc, hnarrow⟩ := List.forall_mem_cons.1 hnarrow
    rw [List.mem_cons, not_or] at hblank
    rw [List.append_cons]
    exact ih (h.char hcolumns hc (Ne.symm hblank.1)) hnarrow hblank.2

/-- After the blank between two words a word can begin, if only on the next line. -/
theorem Fits.open_or_full (h : w.Fits columns) :
    Open (w.blank columns).line ∨ columns ≤ width (w.blank columns).line := by
  rw [Wrapping.blank]
  split
  · exact Or.inl (Or.inr ⟨w.line, rfl⟩)
  · next hroom =>
    rw [Bool.and_eq_true, Bool.not_eq_true', decide_eq_true_eq, not_and, Nat.not_lt] at hroom
    cases hfresh : w.fresh with
    | true => exact Or.inl (Or.inl (h.fresh hfresh))
    | false => exact Or.inr (hroom hfresh)

theorem said_word_nil (columns : Nat) (w : Wrapping) : (w.word columns []).said = w.said := by
  rw [← said_blank columns w, word]
  split
  · rw [said, List.append_nil]
    rfl
  · split
    · simp only [said, List.reverse_cons, List.flatMap_append, List.flatMap_singleton, words_padded,
        words_nil, List.append_nil]
    · rfl

/-- A word that no line can hold is written from the next line on if this one is full. -/
theorem Fits.said_foldl_char {word : List Char} (h : w.Fits columns) (hcolumns : 0 < columns)
    (hne : word ≠ []) (hnarrow : Narrow word) (hblank : ' ' ∉ word) :
    ∃ pieces, (word.foldl (Wrapping.char columns) (w.blank columns)).said = w.said ++ pieces ∧
      pieces.flatten = word ∧ [] ∉ pieces := by
  have hopen : Open ((w.blank columns).endFull columns).line := by
    rw [Wrapping.endFull]
    split
    · exact Or.inl rfl
    · next hfull => exact h.open_or_full.resolve_right hfull
  have hwrites := (writes_of_open hopen).foldl_char hcolumns hnarrow hblank
  rw [said_endFull, said_blank] at hwrites
  obtain ⟨c, rest, rfl⟩ := List.exists_cons_of_ne_nil hne
  rw [List.foldl_cons, char_endFull hcolumns] at hwrites
  exact hwrites.said

theorem Fits.said_word {word : List Char} (h : w.Fits columns) (hcolumns : 0 < columns)
    (hne : word ≠ []) (hnarrow : Narrow word) (hblank : ' ' ∉ word) :
    ∃ pieces, (w.word columns word).said = w.said ++ pieces ∧ Cut columns word pieces := by
  have hwidth : 0 < width word := by
    rw [hnarrow.width]
    exact List.length_pos_of_ne_nil hne
  rw [Wrapping.word]
  split
  · next hroom =>
    have hopen := h.open_or_full.resolve_right (by omega)
    refine ⟨[word], ?_, cut_whole columns hne⟩
    rw [← said_blank columns w, Wrapping.said, words_append hopen, words_of_word hne hblank,
      ← List.append_assoc]
    rfl
  · split
    · refine ⟨[word], ?_, cut_whole columns hne⟩
      rw [← said_blank columns w]
      simp only [Wrapping.said, List.reverse_cons, List.flatMap_append, List.flatMap_singleton,
        words_padded, words_of_word hne hblank]
    · next hlong =>
      obtain ⟨pieces, hsaid, hflatten, hpieces⟩ :=
        h.said_foldl_char hcolumns hne hnarrow hblank
      refine ⟨pieces, hsaid, hflatten, hpieces, fun hshort ↦ ?_⟩
      rw [hnarrow.width] at hlong
      exact absurd hshort hlong

theorem Fits.said_foldl_word {list : List (List Char)} (h : w.Fits columns) (hcolumns : 0 < columns)
    (hlist : ∀ word ∈ list, Narrow word ∧ ' ' ∉ word) :
    ∃ pieces, (list.foldl (Wrapping.word columns) w).said = w.said ++ pieces.flatten ∧
      List.Forall₂ (Cut columns) (list.filter (!·.isEmpty)) pieces := by
  induction list generalizing w with
  | nil => exact ⟨[], (List.append_nil w.said).symm, .nil⟩
  | cons word list ih =>
    obtain ⟨⟨hnarrow, hblank⟩, hlist⟩ := List.forall_mem_cons.1 hlist
    obtain ⟨pieces, hsaid, hcut⟩ := ih (h.word word) hlist
    by_cases hne : word = []
    · subst hne
      rw [said_word_nil] at hsaid
      exact ⟨pieces, hsaid, hcut⟩
    · obtain ⟨first, hfirst, hword⟩ := h.said_word hcolumns hne hnarrow hblank
      rw [hfirst, List.append_assoc] at hsaid
      have hkept : (word :: list).filter (!·.isEmpty) = word :: list.filter (!·.isEmpty) := by
        refine List.filter_cons_of_pos ?_
        rw [Bool.not_eq_true', List.isEmpty_eq_false_iff]
        exact hne
      rw [hkept]
      exact ⟨first :: pieces, hsaid, .cons hword hcut⟩

theorem flatMap_lines (columns : Nat) (hnarrow : Narrow w.line) :
    (w.lines columns).flatMap words = w.said := by
  rw [lines]
  split
  · next hzero =>
    rw [hnarrow.width, List.length_eq_zero_iff] at hzero
    rw [said, hzero, words_nil, List.append_nil]
  · rw [List.reverse_cons, List.flatMap_append, List.flatMap_singleton, words_padded, said]

end Wrapping

theorem Drawn.narrow (h : Drawn text line) (htext : Narrow text) : Narrow line := by
  intro c hc
  rcases h c hc with hmem | rfl | rfl
  · exact htext c hmem
  · exact charWidth_blank
  · exact charWidth_mark

/-- The lines of a text say its words, in their order, and no word is cut that a line can hold. -/
theorem words_wrapped (hcolumns : 0 < columns) (htext : Narrow text) :
    ∃ pieces, (wrapped columns text).flatMap words = pieces.flatten ∧
      List.Forall₂ (Cut columns) (words text) pieces := by
  have hwords : ∀ word ∈ text.splitOn ' ', Narrow word ∧ ' ' ∉ word := fun word hword ↦
    ⟨fun c hc ↦ htext c (mem_of_mem_splitOn hword hc).1,
      fun hblank ↦ (mem_of_mem_splitOn hword hblank).2 rfl⟩
  have hline := (Wrapping.from_foldl_word columns text).line.narrow htext
  obtain ⟨pieces, hsaid, hcut⟩ := (Wrapping.fits_empty columns).said_foldl_word hcolumns hwords
  refine ⟨pieces, ?_, hcut⟩
  rw [wrapped, Wrapping.flatMap_lines columns hline, hsaid]
  rfl

end Display

end ConfigKeeper
