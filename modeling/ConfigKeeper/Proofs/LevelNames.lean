import ConfigKeeper.Proofs.SmallLetters
import ConfigKeeper.Store.Basic

namespace ConfigKeeper

namespace Text

theorem capitals_past_ascii : capitals.all (fun r ↦ r.last < 0x80 || 0x80 ≤ r.first + r.shift ||
    (r.first == r.last && r.first + r.shift == 'k'.toNat)) = true := by decide

theorem CaseRun.small_past_ascii {r : CaseRun} (hr : r ∈ capitals) {n : Nat} (hn : r.covers n)
    (hpast : 0x80 ≤ n) : 0x80 ≤ n + r.shift ∨ n + r.shift = 'k'.toNat := by
  have h := List.all_eq_true.1 capitals_past_ascii r hr
  simp only [Bool.or_eq_true, Bool.and_eq_true, decide_eq_true_eq, beq_iff_eq] at h
  simp only [covers, Bool.and_eq_true, decide_eq_true_eq] at hn
  omega

/-- The letters of ASCII that are the small form of no character past it. -/
def IsPlain (c : Char) : Prop := c.toNat < 0x80 ∧ c ≠ 'k'

theorem ascii_of_plain_lowerChar {c : Char} (h : ∀ d ∈ lowerChar c, IsPlain d) :
    c.toNat < 0x80 := by
  by_cases hascii : c.toNat < 0x80
  · exact hascii
  by_cases hdot : c = '\u0130'
  · subst hdot
    exact absurd (h '\u0307' (by decide)).1 (by decide)
  have hne : (c == '\u0130') = false := beq_eq_false_iff_ne.2 hdot
  cases hr : capitals.find? (fun r ↦ r.covers c.toNat) with
  | none =>
    have hlower : lowerChar c = [c] := by simp [lowerChar, hascii, hne, hr]
    exact (h c (hlower ▸ List.mem_singleton_self c)).1
  | some r =>
    have hlower : lowerChar c = [Char.ofNat (c.toNat + r.shift).toNat] := by
      simp [lowerChar, hascii, hne, hr]
    have hmem := List.mem_of_find?_eq_some hr
    have hcovers : r.covers c.toNat := by simpa using List.find?_some hr
    obtain ⟨hlt, hk⟩ := h _ (hlower ▸ List.mem_singleton_self _)
    rw [toNat_ofNat (CaseRun.settled hmem hcovers).1] at hlt
    rcases CaseRun.small_past_ascii hmem hcovers (by omega) with hpast | heq
    · omega
    · rw [heq] at hk
      exact absurd rfl hk

theorem lowerFrom_cons_of_ascii {c : Char} (h : c.toNat < 0x80) (before rest : List Char) :
    lowerFrom before (c :: rest) = c.toLower :: lowerFrom (c :: before) rest := by
  have hne : (c == 'Σ') = false := by
    rw [beq_eq_false_iff_ne]
    rintro rfl
    exact absurd h (by decide)
  simp only [lowerFrom, hne, lowerChar, h, if_true, Bool.false_eq_true, if_false,
    List.singleton_append]

theorem ascii_of_plain_lowerFrom {before rest : List Char} {c : Char}
    (h : ∀ d ∈ lowerFrom before (c :: rest), IsPlain d) : c.toNat < 0x80 := by
  rw [lowerFrom] at h
  split at h
  · have hsigma := (h _ (List.mem_append_left _ (List.mem_singleton_self _))).1
    split at hsigma
    · exact absurd hsigma (by decide)
    · exact absurd hsigma (by decide)
  · exact ascii_of_plain_lowerChar fun d hd ↦ h d (List.mem_append_left _ hd)

/-- Between a text and plain letters only the case of the letters of ASCII can lie. -/
theorem lowerFrom_eq_iff {before s plain : List Char} (h : ∀ c ∈ plain, IsPlain c) :
    lowerFrom before s = plain ↔ s.map Char.toLower = plain := by
  induction s generalizing before plain with
  | nil => rfl
  | cons c rest ih =>
    by_cases hc : c.toNat < 0x80
    · rw [lowerFrom_cons_of_ascii hc, List.map_cons]
      cases plain with
      | nil => exact iff_of_false (List.cons_ne_nil _ _) (List.cons_ne_nil _ _)
      | cons d plain =>
        rw [List.cons.injEq, List.cons.injEq, ih fun x hx ↦ h x (List.mem_cons_of_mem d hx)]
    · constructor
      · rintro rfl
        exact absurd (ascii_of_plain_lowerFrom h) hc
      · rintro rfl
        have hlower := (h c.toLower List.mem_cons_self).1
        rw [toLower_of_not_capital (by omega)] at hlower
        exact absurd hlower hc

theorem lower_eq_iff {s plain : String} (h : ∀ c ∈ plain.toList, IsPlain c) :
    lower s = plain ↔ s.toList.map Char.toLower = plain.toList := by
  rw [← lowerFrom_eq_iff h, lower, ← String.toList_inj, String.toList_ofList]

end Text

namespace Log.Level

def spellings : Level → List String
  | .warn => ["warn", "warning"]
  | level => [level.name]

/-- A text is a name of a level, where the case of the letters of ASCII does not count. -/
def Spells (level : Level) (text : String) : Prop :=
  ∃ name ∈ level.spellings, text.toList.map Char.toLower = name.toList

theorem plain_spellings (level : Level) :
    ∀ name ∈ level.spellings, ∀ c ∈ name.toList, Text.IsPlain c := by
  have hall : (level.spellings.all fun name ↦
      name.toList.all fun c ↦ c.toNat < 0x80 && c != 'k') = true := by
    cases level <;> decide
  intro name hname c hc
  have h := List.all_eq_true.1 (List.all_eq_true.1 hall name hname) c hc
  rw [Bool.and_eq_true, decide_eq_true_eq, bne_iff_ne] at h
  exact h

theorem named?_eq_some_iff {name : String} {level : Level} :
    named? name = some level ↔ name ∈ level.spellings := by
  constructor
  · intro h
    rw [named?] at h
    split at h
    · next hname =>
      cases h
      rw [hname]
      decide
    · have heq : level.name = name := by simpa using List.find?_some h
      rw [← heq]
      cases level <;> decide
  · have hall : (level.spellings.all fun name ↦ named? name == some level) = true := by
      cases level <;> decide
    intro h
    exact beq_iff_eq.1 (List.all_eq_true.1 hall name h)

theorem ofText?_eq_some_iff {text : String} {level : Level} :
    ofText? text = some level ↔ level.Spells text := by
  rw [ofText?, named?_eq_some_iff]
  constructor
  · intro h
    exact ⟨_, h, (Text.lower_eq_iff (level.plain_spellings _ h)).1 rfl⟩
  · rintro ⟨name, hname, heq⟩
    rwa [(Text.lower_eq_iff (level.plain_spellings name hname)).2 heq]

end Log.Level

namespace Store

open Log (Event Level)

/-- The level that a store asks for, with what is reported about it: a value that names none is, and
a missing one is not. -/
inductive AsksFor (s : Store) : Level × List Event → Prop
  | missing : s.get? Key.logLevel.name = none → AsksFor s (.info, [])
  | named {v : Value} {level : Level} : s.get? Key.logLevel.name = some v →
      level.Spells v.text → AsksFor s (level, [])
  | nameless {v : Value} : s.get? Key.logLevel.name = some v →
      (∀ level : Level, ¬level.Spells v.text) → AsksFor s (.info, [.invalidLevel v])

theorem asksFor_logLevel (s : Store) : s.AsksFor s.logLevel := by
  rw [logLevel]
  cases hv : s.get? Key.logLevel.name with
  | none => exact .missing hv
  | some v =>
    cases hlevel : Level.ofText? v.text with
    | some level =>
      simp only [hlevel]
      exact .named hv (Level.ofText?_eq_some_iff.1 hlevel)
    | none =>
      simp only [hlevel]
      refine .nameless hv fun level hspells ↦ ?_
      rw [Level.ofText?_eq_some_iff.2 hspells] at hlevel
      cases hlevel

/-- A text is read as a level just if it is one of its names, in letters of either case, and a store
asks for that level if the text of its value is one, and otherwise for that of information, with a
warning unless it has no value at all. -/
theorem levels_are_named :
    (∀ text level, Level.ofText? text = some level ↔ level.Spells text) ∧
    (∀ s : Store, s.AsksFor s.logLevel) ∧ ∀ v, (Event.invalidLevel v).severity = .warn :=
  ⟨fun _ _ ↦ Level.ofText?_eq_some_iff, asksFor_logLevel, fun _ ↦ rfl⟩

end Store

end ConfigKeeper
