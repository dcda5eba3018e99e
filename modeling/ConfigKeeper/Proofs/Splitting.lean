namespace ConfigKeeper

variable {α : Type} [BEq α] [LawfulBEq α] {sep : α}

theorem mem_of_mem_splitOn {s part : List α} (h : part ∈ s.splitOn sep) {a : α} (ha : a ∈ part) :
    a ∈ s ∧ a ≠ sep := by
  induction s generalizing part with
  | nil =>
    rw [List.splitOn_nil, List.mem_singleton] at h
    exact absurd (h ▸ ha) List.not_mem_nil
  | cons b s ih =>
    rw [List.splitOn_cons_eq_if_modifyHead] at h
    split at h
    · rcases List.mem_cons.1 h with rfl | h
      · exact absurd ha List.not_mem_nil
      · exact ⟨List.mem_cons_of_mem _ (ih h ha).1, (ih h ha).2⟩
    · next hb =>
      obtain ⟨first, rest, hsplit⟩ := List.exists_cons_of_ne_nil (List.splitOn_ne_nil sep s)
      rw [hsplit, List.modifyHead_cons] at h
      rw [hsplit] at ih
      rcases List.mem_cons.1 h with rfl | h
      · rcases List.mem_cons.1 ha with rfl | ha
        · exact ⟨List.mem_cons_self, by simpa using hb⟩
        · have := ih List.mem_cons_self ha
          exact ⟨List.mem_cons_of_mem _ this.1, this.2⟩
      · have := ih (List.mem_cons_of_mem _ h) ha
        exact ⟨List.mem_cons_of_mem _ this.1, this.2⟩

/-- What stands in front of the first separator goes to the first part. -/
theorem splitOn_append_of_not_mem {s : List α} (h : sep ∉ s) (rest : List α) :
    (s ++ rest).splitOn sep = (rest.splitOn sep).modifyHead (s ++ ·) := by
  induction s with
  | nil =>
    obtain ⟨first, others, hsplit⟩ := List.exists_cons_of_ne_nil (List.splitOn_ne_nil sep rest)
    rw [List.nil_append, hsplit]
    rfl
  | cons a s ih =>
    rw [List.mem_cons, not_or] at h
    have hne : (a == sep) = false := beq_eq_false_iff_ne.2 (Ne.symm h.1)
    rw [List.cons_append, List.splitOn_cons_eq_if_modifyHead, hne, ih h.2,
      List.modifyHead_modifyHead]
    rfl

theorem splitOn_intercalate_of_subset {s : List α} {parts : List (List α)}
    (h : parts ⊆ s.splitOn sep) (hne : parts ≠ []) :
    ([sep].intercalate parts).splitOn sep = parts := by
  refine List.splitOn_intercalate sep (fun part hpart hsep ↦ ?_) hne
  exact (mem_of_mem_splitOn (h hpart) hsep).2 rfl

omit [BEq α] [LawfulBEq α] in
theorem intercalate_isPrefix {sep : List α} {parts others : List (List α)} (h : parts <+: others) :
    sep.intercalate parts <+: sep.intercalate others := by
  induction parts generalizing others with
  | nil => exact List.nil_prefix
  | cons first rest ih =>
    obtain ⟨more, rfl⟩ := h
    cases rest with
    | nil =>
      rw [List.intercalate_singleton]
      cases more with
      | nil => exact List.prefix_append first []
      | cons next more =>
        rw [List.cons_append, List.nil_append, List.intercalate_cons_cons, List.append_assoc]
        exact List.prefix_append _ _
    | cons second rest =>
      rw [List.cons_append, List.cons_append, List.intercalate_cons_cons,
        List.intercalate_cons_cons]
      exact (List.prefix_append_right_inj _).2 (ih (List.prefix_append (second :: rest) more))

end ConfigKeeper
