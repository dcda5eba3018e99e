import ConfigKeeper.Yaml.Document
import ConfigKeeper.Yaml.Tree

namespace ConfigKeeper.Yaml

def Allowed (text : List Char) : Prop := ∀ c ∈ text, isAllowed c = true

instance (text : List Char) : Decidable (Allowed text) :=
  decidable_of_iff (text.all isAllowed = true) List.all_eq_true

theorem allowed_of_read {text : String} {n : Node} (h : read text = some n) :
    Allowed text.toList := by
  rw [read, readChars, tokens?] at h
  split at h
  · next hall => exact List.all_eq_true.1 hall
  · cases h

theorem Allowed.append {text more : List Char} (h : Allowed text) (h' : Allowed more) :
    Allowed (text ++ more) := List.forall_mem_append.2 ⟨h, h'⟩

theorem Allowed.cons {c : Char} {text : List Char} (hc : isAllowed c = true) (h : Allowed text) :
    Allowed (c :: text) := List.forall_mem_cons.2 ⟨hc, h⟩

theorem isAllowed_of_isPrintable {c : Char} (h : Style.isPrintable c = true) :
    isAllowed c = true := by
  simp only [Style.isPrintable, isAllowed, Bool.or_eq_true, Bool.and_eq_true, decide_eq_true_eq,
    beq_iff_eq] at h ⊢
  omega

theorem Style.printable_of_ne_double {flat : Bool} {s : String} (h : of flat s ≠ .double) :
    ∀ c ∈ s.toList, isPrintable c = true := by
  rw [← List.all_eq_true]
  simp only [of] at h
  split at h
  · split at h
    · next hliteral =>
      simp only [literalAllowed, Bool.and_eq_true] at hliteral
      exact hliteral.1.2
    · exact absurd rfl h
  · split at h
    · exact absurd rfl h
    · split at h
      · next hplain =>
        simp only [plainAllowed, Bool.and_eq_true] at hplain
        exact hplain.2.2
      · split at h
        · next hsingle =>
          simp only [singleAllowed, Bool.and_eq_true] at hsingle
          exact hsingle.2
        · exact absurd rfl h

namespace Tree

theorem allowed_spaces (n : Nat) : Allowed (spaces n) := by
  intro c hc
  rw [List.eq_of_mem_replicate hc]
  decide

theorem allowed_hexDigits (width n : Nat) : Allowed (hexDigits width n) := by
  have hdigit : ∀ k < 16, isAllowed (Nat.digitChar k).toUpper = true := by decide
  intro c hc
  obtain ⟨i, -, rfl⟩ := List.mem_map.1 hc
  exact hdigit _ (Nat.mod_lt _ (by omega))

theorem allowed_escaped (c : Char) : Allowed (escaped c) := by
  fun_cases escaped c
  case case15 hprintable => exact .cons (isAllowed_of_isPrintable hprintable) (by decide)
  case case16 => exact .cons (by decide) (.cons (by decide) (allowed_hexDigits 2 _))
  case case17 => exact .cons (by decide) (.cons (by decide) (allowed_hexDigits 4 _))
  case case18 => exact .cons (by decide) (.cons (by decide) (allowed_hexDigits 8 _))
  all_goals decide

theorem allowed_singleQuoted (indent : Nat) (broken : Bool) {text : List Char} (h : Allowed text) :
    Allowed (singleQuoted indent broken text) := by
  induction text generalizing broken with
  | nil =>
    rw [singleQuoted]
    split
    · exact allowed_spaces indent
    · exact h
  | cons c cs ih =>
    obtain ⟨hc, hcs⟩ := List.forall_mem_cons.1 h
    rw [singleQuoted]
    split
    · exact .cons hc (ih true hcs)
    · refine .append (.append ?_ ?_) (ih false hcs)
      · split
        · exact allowed_spaces indent
        · decide
      · split
        · decide
        · exact .cons hc (by decide)

theorem allowed_literalLines (indent : Nat) (broken : Bool) {text : List Char} (h : Allowed text) :
    Allowed (literalLines indent broken text) := by
  induction text generalizing broken with
  | nil => exact h
  | cons c cs ih =>
    obtain ⟨hc, hcs⟩ := List.forall_mem_cons.1 h
    rw [literalLines]
    split
    · exact .cons hc (ih true hcs)
    · refine .append ?_ (.cons hc (ih false hcs))
      split
      · exact allowed_spaces indent
      · decide

theorem allowed_literalHints (text : List Char) : Allowed (literalHints text) := by
  rw [literalHints]
  refine .append (by split <;> decide) ?_
  split
  · split
    · decide
    · split <;> decide
  · decide

theorem allowed_stringText (flat : Bool) (indent : Nat) (s : String) :
    Allowed (stringText flat indent s) := by
  have hprintable : Style.of flat s ≠ .double → Allowed s.toList := fun h c hc ↦
    isAllowed_of_isPrintable (Style.printable_of_ne_double h c hc)
  rw [stringText]
  cases hstyle : Style.of flat s with
  | plain => exact hprintable (by rw [hstyle]; decide)
  | single =>
    have htext := hprintable (by rw [hstyle]; decide)
    exact .append (.cons (by decide) (allowed_singleQuoted indent false htext)) (by decide)
  | double =>
    refine .append (.cons (by decide) fun c hc ↦ ?_) (by decide)
    obtain ⟨x, -, hx⟩ := List.mem_flatMap.1 hc
    exact allowed_escaped x c hx
  | literal =>
    have htext := hprintable (by rw [hstyle]; decide)
    exact .append (.cons (by decide) (allowed_literalHints _))
      (.cons (by decide) (allowed_literalLines indent true htext))

theorem allowed_newline (text : List Char) : Allowed (newline text) := by
  rw [newline]
  split <;> decide

theorem allowed_integer (n : Int) : Allowed (toString n).toList := by
  have hnat (m : Nat) : Allowed m.repr.toList := by
    intro c hc
    rw [Nat.toList_repr] at hc
    have hdigit := Nat.isDigit_of_mem_toDigits (by omega) (by omega) hc
    have hrange : 48 ≤ c.toNat ∧ c.toNat ≤ 57 := Char.isDigit_iff_toNat.1 hdigit
    simp only [isAllowed, Bool.or_eq_true, Bool.and_eq_true, decide_eq_true_eq]
    omega
  cases n with
  | ofNat m => exact hnat m
  | negSucc m =>
    change Allowed ("-" ++ (m + 1).repr).toList
    rw [String.toList_append]
    exact .append (by decide) (hnat (m + 1))

mutual

theorem allowed_valueText (flat : Bool) (indent : Nat) : (t : Tree) →
    Allowed (valueText flat indent t)
  | .bool b => by
    rw [valueText]
    split <;> decide
  | .integer n => .cons (by decide) (allowed_integer n)
  | .string s => .cons (by decide) (allowed_stringText false (indent + 2) s)
  | .mapping [] => by
    rw [valueText]
    decide
  | .mapping (p :: rest) => by
    rw [valueText]
    refine .append ?_ (allowed_pairsText (indent + 2) (p :: rest))
    split
    · exact .cons (by decide) (allowed_spaces (indent + 2))
    · decide

theorem allowed_pairsText (indent : Nat) : (pairs : List (String × Tree)) →
    Allowed (pairsText indent pairs)
  | [] => fun _ hc ↦ absurd hc List.not_mem_nil
  | p :: rest => by
    have hp := allowed_pairText indent p
    rw [pairsText]
    split
    · exact hp
    · exact ((hp.append (allowed_newline _)).append (allowed_spaces indent)).append
        (allowed_pairsText indent rest)

theorem allowed_pairText (indent : Nat) : (p : String × Tree) → Allowed (pairText indent p)
  | (k, t) => by
    rw [pairText]
    split
    · exact .append (allowed_stringText true (indent + 2) k)
        (.cons (by decide) (allowed_valueText true indent t))
    · have hkey : Allowed ('?' :: ' ' :: stringText false (indent + 2) k) :=
        .cons (by decide) (.cons (by decide) (allowed_stringText false (indent + 2) k))
      exact ((hkey.append (allowed_newline _)).append (allowed_spaces indent)).append
        (.cons (by decide) (allowed_valueText false indent t))

end

theorem allowed_chars : (t : Tree) → Allowed t.chars
  | .bool b => by cases b <;> decide
  | .integer n => (allowed_integer n).append (allowed_newline _)
  | .string s => (allowed_stringText false 2 s).append (allowed_newline _)
  | .mapping [] => by decide
  | .mapping (p :: rest) => (allowed_pairsText 0 (p :: rest)).append (allowed_newline _)

theorem allowed_render (t : Tree) : Allowed t.render.toList := by
  rw [render, String.toList_ofList]
  exact allowed_chars t

end Tree

end ConfigKeeper.Yaml
