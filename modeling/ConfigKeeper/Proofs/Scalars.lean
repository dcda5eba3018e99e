import ConfigKeeper.Proofs.Nesting

namespace ConfigKeeper

open Yaml (Node)

/-- The digits of an integer, behind its sign. -/
def Number.decimal (n : Int) : List Char :=
  if n < 0 then '-' :: Nat.toDigits 10 n.natAbs else Nat.toDigits 10 n.natAbs

theorem Number.toList_toString (n : Int) : (toString n).toList = decimal n := by
  cases n with
  | ofNat m => exact Nat.toList_repr
  | negSucc m =>
    have hneg : Int.negSucc m < 0 := Int.negSucc_lt_zero m
    have hshown : toString (Int.negSucc m) = "-" ++ (m + 1).repr := rfl
    rw [decimal, if_pos hneg, hshown, String.toList_append, Nat.toList_repr]
    rfl

/-- The scalars whose plain content is known: nothing, truth values, strings and integers. -/
inductive Yaml.Node.Plain : Node → String → Prop
  | null : Plain .null ""
  | bool (b : Bool) : Plain (.bool b) (if b then "true" else "false")
  | string (s : String) : Plain (.string s) s
  | integer (n : Int) : Plain (.number (.integer n)) (.ofList (Number.decimal n))

namespace Value

def asBool? : Node → Option Value
  | .bool b => some (.bool b)
  | _ => none

def asInt? : Node → Option Value
  | .number (.integer n) =>
    if Int64.minValue.toInt ≤ n ∧ n ≤ Int64.maxValue.toInt then some (.int (.ofInt n)) else none
  | _ => none

def asText? : Node → Option Value
  | .string s => some (.string s)
  | _ => none

/-- A node as a value of the first type that it fits. -/
def tried? (n : Node) : Option Value := (asBool? n).or ((asInt? n).or (asText? n))

/-- Apart from nothing and from numbers that are no integers of 64 bits, a node is read as a value of
the first type that it fits. -/
theorem ofNode?_eq_tried {n : Node} (hnull : n ≠ .null)
    (hnumber : ∀ m, n = .number m → (asInt? n).isSome) : ofNode? n = tried? n := by
  cases n with
  | null => exact absurd rfl hnull
  | number m =>
    have hint := hnumber m rfl
    cases m with
    | float x => cases hint
    | integer i =>
      rw [asInt?] at hint
      split at hint
      · next hrange =>
        simp only [ofNode?, ofInt, tried?, asBool?, asInt?, dif_pos hrange, if_pos hrange,
          Int64.ofIntLE_eq_ofInt, Option.none_or, Option.some_or]
      · cases hint
  | bool _ | string _ | sequence _ | mapping _ | tagged _ _ => rfl

theorem toInt_mem_iff {n : Int} : (∃ i : Int64, i.toInt = n) ↔
    -9223372036854775808 ≤ n ∧ n ≤ 9223372036854775807 := by
  constructor
  · rintro ⟨i, rfl⟩
    exact ⟨i.minValue_le_toInt, i.toInt_le⟩
  · intro ⟨hlow, hhigh⟩
    exact ⟨Int64.ofIntLE n hlow hhigh, Int64.toInt_ofIntLE⟩

theorem ofInt_eq_int_iff {n : Int} {i : Int64} : ofInt n = .int i ↔ n = i.toInt := by
  rw [ofInt]
  split
  · rw [Value.int.injEq]
    constructor
    · rintro rfl
      exact Int64.toInt_ofIntLE.symm
    · rintro rfl
      exact i.ofIntLE_toInt
  · next hout =>
    simp only [reduceCtorEq, false_iff]
    rintro rfl
    exact hout ⟨i.minValue_le_toInt, i.toInt_le⟩

theorem ofInt_ne_bool (n : Int) (b : Bool) : ofInt n ≠ .bool b := by
  rw [ofInt]
  split <;> (intro h; cases h)

theorem text_ofInt (n : Int) : (ofInt n).text = .ofList (Number.decimal n) := by
  rw [← Number.toList_toString, String.ofList_toList, ofInt]
  split
  · rw [text, Int64.toInt_ofIntLE]
  · rfl

theorem ofNode?_of_plain {n : Node} {content : String} (h : n.Plain content) :
    ∃ v, ofNode? n = some v ∧ v.text = content ∧ (∀ b, v = .bool b ↔ n = .bool b) ∧
      ∀ i, v = .int i ↔ n = .number (.integer i.toInt) := by
  cases h with
  | null => exact ⟨.string "", rfl, rfl, fun b ↦ by simp, fun i ↦ by simp⟩
  | bool b =>
    refine ⟨.bool b, rfl, ?_, fun b ↦ by simp, fun i ↦ by simp⟩
    cases b <;> rfl
  | string => exact ⟨.string content, rfl, rfl, fun b ↦ by simp, fun i ↦ by simp⟩
  | integer n =>
    refine ⟨ofInt n, rfl, text_ofInt n, fun b ↦ ?_, fun i ↦ ?_⟩
    · simp [ofInt_ne_bool]
    · rw [ofInt_eq_int_iff, Node.number.injEq, Yaml.Numeral.integer.injEq]

/-- A value is read from the node it is written as, and the first type that a node fits decides what
is read from it, but for nothing and for greater numbers. What is read from a plain scalar shows its
content, is a truth value or an integer just if the node is that same one, which an integer is as
long as 64 bits hold it, and is read again from the node it is written as. Nothing is read from a
collection or a node with a tag. -/
theorem ofNode?_keeps :
    (∀ v : Value, ofNode? v.toNode = some v) ∧
    (∀ n : Node, n ≠ .null → (∀ m, n = .number m → (asInt? n).isSome) → ofNode? n = tried? n) ∧
    (∀ n content, n.Plain content → ∃ v, ofNode? n = some v ∧ v.text = content ∧
      (∀ b, v = .bool b ↔ n = .bool b) ∧
      (∀ i, v = .int i ↔ n = .number (.integer i.toInt)) ∧
      ((∃ i, v = .int i) ↔ ∃ m, n = .number (.integer m) ∧
        -9223372036854775808 ≤ m ∧ m ≤ 9223372036854775807) ∧
      (∀ s, n = .string s → v = .string s) ∧
      ofNode? v.toNode = some v) ∧
    (∀ items, ofNode? (.sequence items) = none) ∧ (∀ pairs, ofNode? (.mapping pairs) = none) ∧
    ∀ tag n, ofNode? (.tagged tag n) = none := by
  refine ⟨ofNode?_toNode, fun n ↦ ofNode?_eq_tried, fun n content hplain ↦ ?_, fun _ ↦ rfl,
    fun _ ↦ rfl, fun _ _ ↦ rfl⟩
  obtain ⟨v, hv, htext, hbool, hint⟩ := ofNode?_of_plain hplain
  refine ⟨v, hv, htext, hbool, hint, ⟨?_, ?_⟩, ?_, ofNode?_toNode v⟩
  · intro ⟨i, hi⟩
    exact ⟨i.toInt, (hint i).1 hi, toInt_mem_iff.1 ⟨i, rfl⟩⟩
  · intro ⟨m, hm, hrange⟩
    obtain ⟨i, rfl⟩ := toInt_mem_iff.2 hrange
    exact ⟨i, (hint i).2 hm⟩
  · rintro s rfl
    exact Option.some.inj hv.symm

theorem keeps_beyond : ∃ v,
    Node.Plain (.number (.integer 9223372036854775808)) "9223372036854775808" ∧
    ofNode? (.number (.integer 9223372036854775808)) = some v ∧
    v.text = "9223372036854775808" ∧ (∀ i, v ≠ .int i) ∧ ofNode? v.toNode = some v := by
  have hcontent : String.ofList (Number.decimal 9223372036854775808) = "9223372036854775808" := by
    decide
  have hplain : Node.Plain (.number (.integer 9223372036854775808)) "9223372036854775808" :=
    hcontent ▸ .integer 9223372036854775808
  obtain ⟨v, hv, htext, -, -, hint, -, hagain⟩ := ofNode?_keeps.2.2.1 _ _ hplain
  refine ⟨v, hplain, hv, htext, fun i hi ↦ ?_, hagain⟩
  obtain ⟨m, hm, -, hle⟩ := hint.1 ⟨i, hi⟩
  cases hm
  exact absurd hle (by decide)

end Value

end ConfigKeeper
