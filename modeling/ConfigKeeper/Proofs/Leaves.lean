import ConfigKeeper.Proofs.DottedKeys

namespace ConfigKeeper

namespace Yaml.Tree

mutual

/-- The scalars of a tree, each with the names that lead to it. -/
def leaves : Tree → List (List String × Tree)
  | .mapping pairs => leavesAll pairs
  | t => [([], t)]

def leavesAll : List (String × Tree) → List (List String × Tree)
  | [] => []
  | p :: rest => leavesOf p ++ leavesAll rest

def leavesOf : String × Tree → List (List String × Tree)
  | (name, t) => (leaves t).map fun l ↦ (name :: l.1, l.2)

end

mutual

/-- No mapping of the tree is empty. -/
def Full : Tree → Prop
  | .mapping pairs => pairs ≠ [] ∧ FullAll pairs
  | _ => True

def FullAll : List (String × Tree) → Prop
  | [] => True
  | p :: rest => FullOf p ∧ FullAll rest

def FullOf : String × Tree → Prop
  | (_, t) => Full t

end

theorem leavesAll_append (pairs others : List (String × Tree)) :
    leavesAll (pairs ++ others) = leavesAll pairs ++ leavesAll others := by
  induction pairs with
  | nil => rfl
  | cons p rest ih => rw [List.cons_append, leavesAll, ih, leavesAll, List.append_assoc]

theorem mem_leavesAll {pairs : List (String × Tree)} {l : List String × Tree} :
    l ∈ leavesAll pairs ↔
      ∃ name t, (name, t) ∈ pairs ∧ ∃ m ∈ t.leaves, l = (name :: m.1, m.2) := by
  induction pairs with
  | nil => simp [leavesAll]
  | cons p rest ih =>
    obtain ⟨name, t⟩ := p
    rw [leavesAll, List.mem_append, ih, leavesOf, List.mem_map]
    constructor
    · rintro (⟨m, hm, rfl⟩ | ⟨name', t', hmem, hm⟩)
      · exact ⟨name, t, List.mem_cons_self, m, hm, rfl⟩
      · exact ⟨name', t', List.mem_cons_of_mem _ hmem, hm⟩
    · rintro ⟨name', t', hmem, m, hm, rfl⟩
      rcases List.mem_cons.1 hmem with heq | hmem
      · cases heq
        exact Or.inl ⟨m, hm, rfl⟩
      · exact Or.inr ⟨name', t', hmem, m, hm, rfl⟩

theorem fullAll_iff {pairs : List (String × Tree)} : FullAll pairs ↔ ∀ p ∈ pairs, Full p.2 := by
  induction pairs with
  | nil => simp [FullAll]
  | cons p rest ih => rw [FullAll, ih, List.forall_mem_cons, FullOf]

mutual

theorem leaves_ne_nil : (t : Tree) → t.Full → t.leaves ≠ []
  | .bool _, _ => by simp [leaves]
  | .integer _, _ => by simp [leaves]
  | .string _, _ => by simp [leaves]
  | .mapping pairs, h => leavesAll_ne_nil pairs h.1 h.2

theorem leavesAll_ne_nil : (pairs : List (String × Tree)) → pairs ≠ [] → FullAll pairs →
    leavesAll pairs ≠ []
  | [], h, _ => absurd rfl h
  | p :: rest, _, h => by
    rw [leavesAll]
    exact List.append_ne_nil_of_left_ne_nil (leavesOf_ne_nil p h.1) _

theorem leavesOf_ne_nil : (p : String × Tree) → FullOf p → leavesOf p ≠ []
  | (_, t), h => by
    rw [leavesOf, ne_eq, List.map_eq_nil_iff]
    exact leaves_ne_nil t h

end

mutual

/-- A tree without empty mappings nests as deep as the longest way to a leaf. -/
theorem depth_le_iff (n : Nat) : (t : Tree) → t.Full →
    (t.depth ≤ n ↔ ∀ l ∈ t.leaves, l.1.length ≤ n)
  | .bool _, _ => by simp [leaves, depth]
  | .integer _, _ => by simp [leaves, depth]
  | .string _, _ => by simp [leaves, depth]
  | .mapping pairs, h => by
    rw [depth, leaves]
    cases n with
    | zero =>
      obtain ⟨l, hl⟩ := List.exists_mem_of_ne_nil _ (leavesAll_ne_nil pairs h.1 h.2)
      obtain ⟨name, t, -, m, -, rfl⟩ := mem_leavesAll.1 hl
      refine iff_of_false (by omega) fun hall ↦ ?_
      have := hall _ hl
      rw [List.length_cons] at this
      omega
    | succ n => rw [Nat.add_le_add_iff_right, depths_le_iff n pairs h.2]

theorem depths_le_iff (n : Nat) : (pairs : List (String × Tree)) → FullAll pairs →
    (depths pairs ≤ n ↔ ∀ l ∈ leavesAll pairs, l.1.length ≤ n + 1)
  | [], _ => by simp [leavesAll, depths]
  | p :: rest, h => by
    rw [depths, leavesAll, Nat.max_le, List.forall_mem_append, pairDepth_le_iff n p h.1,
      depths_le_iff n rest h.2]

theorem pairDepth_le_iff (n : Nat) : (p : String × Tree) → FullOf p →
    (pairDepth p ≤ n ↔ ∀ l ∈ leavesOf p, l.1.length ≤ n + 1)
  | (name, t), h => by
    rw [pairDepth, leavesOf, List.forall_mem_map, depth_le_iff n t h]
    simp

end

end Yaml.Tree

end ConfigKeeper
