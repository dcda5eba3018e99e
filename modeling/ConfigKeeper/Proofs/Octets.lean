import ConfigKeeper.Bytes
import Mathlib.Data.List.Lex
import Mathlib.Tactic.SplitIfs

namespace ConfigKeeper.Bytes

theorem ofString_ofList (l : List Char) :
    ofString (String.ofList l) = l.flatMap String.utf8EncodeChar := by
  rw [ofString, String.toUTF8, String.toByteArray_ofList, List.utf8Encode, List.data_toByteArray]

theorem ofString_eq_flatMap (s : String) :
    ofString s = s.toList.flatMap String.utf8EncodeChar := by
  rw [← ofString_ofList, String.ofList_toList]

theorem ofString_append (s t : String) : ofString (s ++ t) = ofString s ++ ofString t := by
  simp only [ofString_eq_flatMap, String.toList_append, List.flatMap_append]

theorem eq_ofString_of_toString? {b : Bytes} {s : String} (h : toString? b = some s) :
    b = ofString s := by
  rw [toString?, String.fromUTF8?] at h
  split at h <;> cases h
  rfl

/-- The octets of a number: `count` of them carry six bits each, and the first one the rest. -/
def code (mark : Nat) : Nat → Nat → Bytes
  | 0, n => [UInt8.ofNat (n + mark)]
  | count + 1, n => code mark count (n / 64) ++ [UInt8.ofNat (n % 64 + 128)]

def lead (mark : Nat) : Nat → Nat → Nat
  | 0, n => n + mark
  | count + 1, n => lead mark count (n / 64)

theorem code_eq_cons (mark count n : Nat) :
    ∃ rest, code mark count n = UInt8.ofNat (lead mark count n) :: rest := by
  induction count generalizing n with
  | zero => exact ⟨[], rfl⟩
  | succ count ih =>
    obtain ⟨rest, hrest⟩ := ih (n / 64)
    refine ⟨rest ++ [UInt8.ofNat (n % 64 + 128)], ?_⟩
    rw [code, hrest]
    rfl

theorem ofNat_cons_lt {m n : Nat} (h : m < n) (hn : n < 256) (x y : Bytes) :
    UInt8.ofNat m :: x < UInt8.ofNat n :: y := by
  refine List.cons_lt_cons_iff.2 (Or.inl ?_)
  rw [UInt8.lt_iff_toNat_lt, UInt8.toNat_ofNat', UInt8.toNat_ofNat']
  omega

theorem code_lt_of_first {mark mark' count count' m n : Nat}
    (h : lead mark count m < lead mark' count' n) (hn : lead mark' count' n < 256)
    (x y : Bytes) : code mark count m ++ x < code mark' count' n ++ y := by
  obtain ⟨rest, hrest⟩ := code_eq_cons mark count m
  obtain ⟨rest', hrest'⟩ := code_eq_cons mark' count' n
  rw [hrest, hrest']
  exact ofNat_cons_lt h hn _ _

theorem code_lt {mark count m n : Nat} (h : m < n) (hn : lead mark count n < 256)
    (x y : Bytes) : code mark count m ++ x < code mark count n ++ y := by
  induction count generalizing m n x y with
  | zero => exact ofNat_cons_lt (Nat.add_lt_add_right h mark) hn x y
  | succ count ih =>
    rw [code, code, List.append_assoc, List.append_assoc]
    -- The last octet counts only where those before it are the same.
    by_cases hhigh : m / 64 < n / 64
    · exact ih hhigh hn _ _
    · have heq : m / 64 = n / 64 := by omega
      rw [heq]
      refine List.append_left_lt ?_
      exact ofNat_cons_lt (by omega) (by omega) x y

/-- What is added to the first octet of a character, and how many octets follow it. -/
def shape (n : Nat) : Nat × Nat :=
  if n < 0x80 then (0, 0)
  else if n < 0x800 then (192, 1)
  else if n < 0x10000 then (224, 2)
  else (240, 3)

def first (n : Nat) : Nat := lead (shape n).1 (shape n).2 n

theorem first_lt {n : Nat} (hn : n < 0x110000) : first n < 256 := by
  simp only [first, shape]
  split_ifs <;> simp only [lead] <;> omega

theorem first_lt_or {m n : Nat} (h : m < n) : shape m = shape n ∨ first m < first n := by
  simp only [first, shape]
  split_ifs <;> simp [lead] <;> omega

theorem toNat_lt (c : Char) : c.toNat < 0x110000 := by
  have hvalid : c.toNat < 0xD800 ∨ 0xDFFF < c.toNat ∧ c.toNat < 0x110000 := c.valid
  omega

theorem encode_eq_code (c : Char) :
    String.utf8EncodeChar c = code (shape c.toNat).1 (shape c.toNat).2 c.toNat := by
  have hnum : c.val.toNat = c.toNat := rfl
  have hc := toNat_lt c
  simp only [String.utf8EncodeChar, hnum, shape, Nat.le_iff_lt_add_one]
  split_ifs
  · rfl
  · have hmod : c.toNat / 64 % 32 = c.toNat / 64 := Nat.mod_eq_of_lt (by omega)
    simp [code, hmod]
  · have hmod : c.toNat / 4096 % 16 = c.toNat / 4096 := Nat.mod_eq_of_lt (by omega)
    simp [code, hmod, Nat.div_div_eq_div_mul]
  · have hmod : c.toNat / 262144 % 8 = c.toNat / 262144 := Nat.mod_eq_of_lt (by omega)
    simp [code, hmod, Nat.div_div_eq_div_mul]

/-- The octets of a longer character are above all those that are characters themselves. -/
theorem mem_code {mark count n : Nat} {b : UInt8} (h : b ∈ code mark count n) :
    b = UInt8.ofNat (lead mark count n) ∨ 128 ≤ b.toNat := by
  induction count generalizing n with
  | zero => exact Or.inl (List.mem_singleton.1 h)
  | succ count ih =>
    rcases List.mem_append.1 h with hfront | hlast
    · exact ih hfront
    · rw [List.mem_singleton.1 hlast, UInt8.toNat_ofNat']
      omega

theorem first_eq_of_lt {n : Nat} (h : first n < 128) : first n = n := by
  simp only [first, shape] at h ⊢
  split_ifs at h ⊢ <;> simp only [lead] at h ⊢ <;> omega

theorem toNat_of_mem_encode {c : Char} {b : UInt8} (h : b ∈ String.utf8EncodeChar c)
    (hb : b.toNat < 128) : c.toNat = b.toNat := by
  have hbound := first_lt (toNat_lt c)
  rw [encode_eq_code] at h
  rcases mem_code h with hfirst | hhigh
  · have hnat : b.toNat = first c.toNat % 256 := by
      rw [hfirst, UInt8.toNat_ofNat']
      rfl
    rw [Nat.mod_eq_of_lt hbound] at hnat
    rw [hnat] at hb ⊢
    exact (first_eq_of_lt hb).symm
  · omega

theorem encode_lt {c d : Char} (h : c < d) (x y : Bytes) :
    String.utf8EncodeChar c ++ x < String.utf8EncodeChar d ++ y := by
  have hd := first_lt (toNat_lt d)
  have h : c.toNat < d.toNat := h
  rw [encode_eq_code, encode_eq_code]
  rcases first_lt_or h with hshape | hfirst
  · rw [first, ← hshape] at hd
    rw [← hshape]
    exact code_lt h hd x y
  · exact code_lt_of_first hfirst hd x y

theorem encode_ne_nil (c : Char) : String.utf8EncodeChar c ≠ [] := by
  obtain ⟨rest, hrest⟩ := code_eq_cons (shape c.toNat).1 (shape c.toNat).2 c.toNat
  rw [encode_eq_code, hrest]
  exact List.cons_ne_nil _ _

theorem flatMap_encode_lt {s t : List Char} (h : s < t) :
    s.flatMap String.utf8EncodeChar < t.flatMap String.utf8EncodeChar := by
  induction s generalizing t with
  | nil =>
    cases t with
    | nil => exact absurd h (List.lt_irrefl [])
    | cons d t =>
      rw [List.flatMap_nil, List.flatMap_cons]
      obtain ⟨b, rest, hb⟩ := List.exists_cons_of_ne_nil (encode_ne_nil d)
      rw [hb]
      exact List.nil_lt_cons _ _
  | cons c s ih =>
    cases t with
    | nil => exact absurd h (List.not_lt_nil _)
    | cons d t =>
      rw [List.flatMap_cons, List.flatMap_cons]
      rcases List.cons_lt_cons_iff.1 h with hlt | ⟨rfl, hlt⟩
      · exact encode_lt hlt _ _
      · exact List.append_left_lt (ih hlt)

theorem ofString_lt_iff {s t : String} : ofString s < ofString t ↔ s < t := by
  have hmono : ∀ {s t : String}, s < t → ofString s < ofString t := by
    intro s t h
    rw [ofString_eq_flatMap, ofString_eq_flatMap]
    exact flatMap_encode_lt (String.lt_iff.1 h)
  refine ⟨fun h ↦ ?_, hmono⟩
  rcases Std.lt_trichotomy s t with hlt | rfl | hgt
  · exact hlt
  · exact absurd h (List.lt_irrefl _)
  · exact absurd h (List.lt_asymm (hmono hgt))

end ConfigKeeper.Bytes
