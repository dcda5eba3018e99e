import ConfigKeeper.Proofs.SmallLetters
import ConfigKeeper.Proofs.Splitting
import ConfigKeeper.Store.Document
import ConfigKeeper.Store.Tree

namespace ConfigKeeper

/-- The parts of a key between its dots. -/
def parts (key : String) : List String := (key.toList.splitOn '.').map String.ofList

theorem parts_ne_nil (key : String) : parts key ≠ [] := by simp [parts]

@[simp]
theorem intercalate_parts (key : String) : ".".intercalate (parts key) = key := by
  rw [← String.toList_inj, String.toList_intercalate, parts, List.map_map]
  simp [Function.comp_def]

theorem parts_injective {k k' : String} (h : parts k = parts k') : k = k' := by
  rw [← intercalate_parts k, h, intercalate_parts]

theorem mem_of_mem_parts {key part : String} (h : part ∈ parts key) {c : Char}
    (hc : c ∈ part.toList) : c ∈ key.toList ∧ c ≠ '.' := by
  obtain ⟨cs, hcs, rfl⟩ := List.mem_map.1 h
  rw [String.toList_ofList] at hc
  exact mem_of_mem_splitOn hcs hc

theorem small_of_mem_parts {key part : String} (hk : Text.Small key) (h : part ∈ parts key) :
    Text.Small part := fun _ hc ↦ hk _ (mem_of_mem_parts h hc).1

theorem parts_append (k r : String) : parts (k ++ "." ++ r) = parts k ++ parts r := by
  have htext : (k ++ "." ++ r).toList = k.toList ++ '.' :: r.toList := by
    simp [String.toList_append]
  rw [parts, htext, List.splitOn_append_cons_self, List.map_append]
  rfl

theorem begins_iff {start s : String} : begins start s ↔ ∃ r, s = start ++ r := by
  rw [begins, List.isPrefixOf_iff_prefix]
  constructor
  · intro ⟨r, hr⟩
    exact ⟨String.ofList r, by rw [← String.toList_inj, ← hr]; simp⟩
  · rintro ⟨r, rfl⟩
    exact ⟨r.toList, by simp⟩

/-- The key `k'` lies under the key `k`. -/
def Under (k k' : String) : Prop := begins (k ++ ".") k'

theorem under_iff {k k' : String} :
    Under k k' ↔ ∃ rest, rest ≠ [] ∧ parts k' = parts k ++ rest := by
  rw [Under, begins_iff]
  constructor
  · rintro ⟨r, rfl⟩
    exact ⟨parts r, parts_ne_nil r, parts_append k r⟩
  · intro ⟨rest, hrest, h⟩
    refine ⟨".".intercalate rest, ?_⟩
    rw [← intercalate_parts k', h, String.intercalate_append_of_ne_nil (parts_ne_nil k) hrest,
      intercalate_parts]

theorem under_of_isPrefix {k k' : String} (hne : k ≠ k') (h : parts k <+: parts k') :
    Under k k' := by
  obtain ⟨rest, hrest⟩ := h
  refine under_iff.2 ⟨rest, ?_, hrest.symm⟩
  rintro rfl
  exact hne (parts_injective (by simpa using hrest))

theorem isPrefix_of_between {p x y : List Char} (hpx : ¬x < p) (hxy : ¬y < x) (hpy : p <+: y) :
    p <+: x := by
  -- in the order of texts what has a beginning in common stands together
  induction p generalizing x y with
  | nil => exact List.nil_prefix
  | cons a p ih =>
    obtain ⟨r, rfl⟩ := hpy
    cases x with
    | nil => exact absurd (List.nil_lt_cons a p) hpx
    | cons b x =>
      rw [List.cons_append] at hxy
      rw [List.cons_lt_cons_iff, not_or] at hpx hxy
      have hab : a = b := Char.le_antisymm (Char.not_lt.1 hpx.1) (Char.not_lt.1 hxy.1)
      subst hab
      have hpx : ¬x < p := fun hlt ↦ hpx.2 ⟨rfl, hlt⟩
      have hxy : ¬p ++ r < x := fun hlt ↦ hxy.2 ⟨rfl, hlt⟩
      exact (List.prefix_cons_inj a).2 (ih hpx hxy (List.prefix_append p r))

theorem begins_of_between {start s t : String} (hs : start ≤ s) (ht : s ≤ t)
    (h : begins start t) : begins start s := by
  rw [begins, List.isPrefixOf_iff_prefix] at h ⊢
  have hs : ¬s.toList < start.toList := fun hlt ↦ hs (String.lt_iff.2 hlt)
  have ht : ¬t.toList < s.toList := fun hlt ↦ ht (String.lt_iff.2 hlt)
  exact isPrefix_of_between hs ht h

theorem le_of_begins {start s : String} (h : begins start s) : start ≤ s := by
  obtain ⟨r, rfl⟩ := begins_iff.1 h
  intro hlt
  rw [String.lt_iff, String.toList_append] at hlt
  exact List.le_append_left hlt

theorem le_of_not_mem_before {before after : List String} {first k : String}
    (hs : (before ++ first :: after).Pairwise (· < ·)) (hk : k ∈ before ++ first :: after)
    (hnot : k ∉ before) : first ≤ k := by
  rcases List.mem_append.1 hk with hmem | hmem
  · exact absurd hmem hnot
  · rcases List.mem_cons.1 hmem with rfl | hmem
    · exact Std.le_refl _
    · have hlt := (List.pairwise_cons.1 (List.pairwise_append.1 hs).2.1).1 k hmem
      exact Std.le_of_lt hlt

/-- In ascending keys the first that satisfies `p` is the least. -/
theorem find?_le {keys : List String} (hs : keys.Pairwise (· < ·)) {p : String → Bool}
    {first k : String} (hf : keys.find? p = some first) (hk : k ∈ keys) (hp : p k) : first ≤ k := by
  obtain ⟨-, before, after, rfl, hbefore⟩ := List.find?_eq_some_iff_append.1 hf
  refine le_of_not_mem_before hs hk ?_
  intro hmem
  have := hbefore k hmem
  simp [hp] at this

/-- The first of the keys that are not before `k` and a dot, if it lies under `k`. -/
def firstUnder? (keys : List String) (k : String) : Option String :=
  (keys.find? (k ++ "." ≤ ·)).filter (begins (k ++ "."))

theorem conflict?_eq (keys : List String) :
    conflict? keys = keys.findSome? fun k ↦ (firstUnder? keys k).map (k, ·) := rfl

section Ascending

variable {keys : List String} (hs : keys.Pairwise (· < ·)) {k child : String}

include hs

theorem firstUnder?_eq_none_iff : firstUnder? keys k = none ↔ ∀ k' ∈ keys, ¬Under k k' := by
  rw [firstUnder?]
  constructor
  · intro h k' hk' hunder
    have hle : k ++ "." ≤ k' := le_of_begins hunder
    cases hf : keys.find? (fun x ↦ decide (k ++ "." ≤ x)) with
    | none =>
      have := List.find?_eq_none.1 hf k' hk'
      simp [hle] at this
    | some first =>
      have hfirst : k ++ "." ≤ first := by simpa using List.find?_some hf
      have hbetween := begins_of_between hfirst (find?_le hs hf hk' (by simpa using hle)) hunder
      rw [hf, Option.filter_some, hbetween] at h
      exact absurd h (by simp)
  · intro h
    cases hf : keys.find? (fun x ↦ decide (k ++ "." ≤ x)) with
    | none => rfl
    | some first =>
      have hnot := h first (List.mem_of_find?_eq_some hf)
      rw [Under, Bool.not_eq_true] at hnot
      simp [Option.filter_some, hnot]

theorem firstUnder?_eq_some (h : firstUnder? keys k = some child) :
    child ∈ keys ∧ Under k child ∧ ∀ k' ∈ keys, Under k k' → child ≤ k' := by
  obtain ⟨hf, hunder⟩ := Option.filter_eq_some_iff.1 h
  refine ⟨List.mem_of_find?_eq_some hf, hunder, ?_⟩
  intro k' hk' hunder'
  have hle : k ++ "." ≤ k' := le_of_begins hunder'
  exact find?_le hs hf hk' (by simpa using hle)

theorem conflict?_eq_none_iff :
    conflict? keys = none ↔ ∀ k ∈ keys, ∀ k' ∈ keys, ¬Under k k' := by
  simp only [conflict?_eq, List.findSome?_eq_none_iff, Option.map_eq_none_iff,
    firstUnder?_eq_none_iff hs]

/-- A conflict is found at the least key with keys under it, and with the least of those. -/
theorem conflict?_eq_some {parent : String} (h : conflict? keys = some (parent, child)) :
    (parent ∈ keys ∧ ∀ k ∈ keys, (∃ k' ∈ keys, Under k k') → parent ≤ k) ∧
      child ∈ keys ∧ Under parent child ∧ ∀ k' ∈ keys, Under parent k' → child ≤ k' := by
  rw [conflict?_eq, List.findSome?_eq_some_iff] at h
  obtain ⟨before, key, after, rfl, hkey, hbefore⟩ := h
  rw [Option.map_eq_some_iff] at hkey
  obtain ⟨first, hfirst, heq⟩ := hkey
  cases heq
  refine ⟨⟨by simp, ?_⟩, firstUnder?_eq_some hs hfirst⟩
  rintro k hk ⟨k', hk', hunder⟩
  refine le_of_not_mem_before hs hk ?_
  intro hmem
  have hnone := Option.map_eq_none_iff.1 (hbefore k hmem)
  exact (firstUnder?_eq_none_iff hs).1 hnone k' hk' hunder

end Ascending

end ConfigKeeper
