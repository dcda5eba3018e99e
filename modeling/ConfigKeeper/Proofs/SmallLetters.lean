import ConfigKeeper.Text.Lower

namespace ConfigKeeper.Text

/-- A character that is its own small form, wherever it stands. -/
def IsSmall (c : Char) : Prop := c ≠ 'Σ' ∧ lowerChar c = [c]

def Small (s : String) : Prop := ∀ c ∈ s.toList, IsSmall c

instance : DecidablePred IsSmall := fun c ↦
  inferInstanceAs (Decidable (c ≠ 'Σ' ∧ lowerChar c = [c]))

instance (s : String) : Decidable (Small s) := List.decidableBAll IsSmall s.toList

namespace CaseRun

/-- The run has nothing in common with every `step`-th number from `first` to `last`. -/
def misses (q : CaseRun) (first last step : Nat) : Bool :=
  last < q.first || q.last < first ||
    (q.step == 2 && (step == 2 || first == last) && (first + q.first) % 2 == 1)

theorem covers_of_misses {q : CaseRun} {first last step n : Nat} (h : q.misses first last step)
    (hf : first ≤ n) (hl : n ≤ last) (hs : (n - first) % step = 0) : q.covers n = false := by
  simp only [misses, Bool.or_eq_true, Bool.and_eq_true, decide_eq_true_eq, beq_iff_eq] at h
  simp only [covers, Bool.and_eq_false_iff, decide_eq_false_iff_not, beq_eq_false_iff_ne, ne_eq]
  rcases h with (h | h) | ⟨⟨hq, hstep⟩, hodd⟩
  · omega
  · omega
  · rw [hq]
    rcases hstep with rfl | rfl <;> omega

/-- The capital I with a dot, which has a small form of two characters. -/
def dotted : CaseRun := ⟨0x130, 0x130, 1, 0⟩

/-- The small forms of a run are characters that no run changes. -/
def settles (r : CaseRun) : Bool :=
  let first := (r.first + r.shift).toNat
  let last := (r.last + r.shift).toNat
  0 ≤ r.first + r.shift && (last < 0xD800 || (0xDFFF < first && last < 0x110000)) &&
    dotted.misses first last r.step && capitals.all (·.misses first last r.step)

-- Checked run by run and not character by character, as the runs cover more than a thousand.
theorem capitals_settle : capitals.all settles = true := by decide +kernel

theorem settled {r : CaseRun} (hr : r ∈ capitals) {n : Nat} (hn : r.covers n) :
    (n + r.shift).toNat.isValidChar ∧ (n + r.shift).toNat ≠ 0x130 ∧
      ∀ q ∈ capitals, q.covers (n + r.shift).toNat = false := by
  have h := List.all_eq_true.1 capitals_settle r hr
  simp only [settles, Bool.and_eq_true, Bool.or_eq_true, decide_eq_true_eq, List.all_eq_true] at h
  simp only [covers, Bool.and_eq_true, decide_eq_true_eq, beq_iff_eq] at hn
  obtain ⟨⟨⟨hpos, hvalid⟩, hdot⟩, hall⟩ := h
  obtain ⟨⟨hf, hl⟩, hs⟩ := hn
  have hfirst : (r.first + r.shift).toNat ≤ (n + r.shift).toNat := by omega
  have hlast : (n + r.shift).toNat ≤ (r.last + r.shift).toNat := by omega
  have hstep : ((n + r.shift).toNat - (r.first + r.shift).toNat) % r.step = 0 := by
    rw [← hs]
    congr 1
    omega
  refine ⟨?_, fun he ↦ ?_, fun q hq ↦ covers_of_misses (hall q hq) hfirst hlast hstep⟩
  · simp only [Nat.isValidChar]
    omega
  · have hd := covers_of_misses hdot hfirst hlast hstep
    rw [he] at hd
    exact absurd hd (by decide)

end CaseRun

theorem toNat_ofNat {n : Nat} (h : n.isValidChar) : (Char.ofNat n).toNat = n := by
  rw [Char.ofNat, dif_pos h]
  rfl

theorem toLower_of_not_capital {c : Char} (h : c.toNat < 0x41 ∨ 0x5A < c.toNat) :
    c.toLower = c := by
  have hnot : ¬(c.val ≥ 'A'.val ∧ c.val ≤ 'Z'.val) := by
    intro ⟨hA, hZ⟩
    have hA : 0x41 ≤ c.toNat := hA
    have hZ : c.toNat ≤ 0x5A := hZ
    omega
  exact dif_neg hnot

theorem toLower_of_not_covers {c : Char} (h : ∀ q ∈ capitals, q.covers c.toNat = false) :
    c.toLower = c := by
  have hc := h ⟨0x41, 0x5A, 1, 32⟩ (by unfold capitals; exact List.mem_cons_self)
  simp only [CaseRun.covers, Bool.and_eq_false_iff, decide_eq_false_iff_not,
    beq_eq_false_iff_ne, Nat.mod_one] at hc
  exact toLower_of_not_capital (by omega)

theorem isSmall_of_not_covers {c : Char} (hdot : c.toNat ≠ 0x130)
    (h : ∀ q ∈ capitals, q.covers c.toNat = false) : IsSmall c := by
  refine ⟨?_, ?_⟩
  · rintro rfl
    have hsigma : capitals.any (·.covers 'Σ'.toNat) = true := by decide
    obtain ⟨q, hq, hc⟩ := List.any_eq_true.1 hsigma
    rw [h q hq] at hc
    exact absurd hc (by decide)
  · have hne : (c == '\u0130') = false := by
      rw [beq_eq_false_iff_ne]
      rintro rfl
      exact hdot rfl
    have hnone : capitals.find? (·.covers c.toNat) = none := by
      rw [List.find?_eq_none]
      intro q hq
      simp [h q hq]
    simp only [lowerChar, hne, hnone, toLower_of_not_covers h]
    simp

theorem toLower_ascii (n : Nat) (h : n < 0x80) : (Char.ofNat n).toLower.toNat < 0x80 ∧
    (Char.ofNat n).toLower.toLower = (Char.ofNat n).toLower := by
  decide +revert

theorem isSmall_toLower {c : Char} (h : c.toNat < 0x80) : IsSmall c.toLower := by
  have hc := toLower_ascii c.toNat h
  rw [Char.ofNat_toNat] at hc
  obtain ⟨hlt, hid⟩ := hc
  refine ⟨?_, ?_⟩
  · intro he
    rw [he] at hlt
    exact absurd hlt (by decide)
  · simp only [lowerChar, hlt, if_true, hid]

theorem isSmall_of_mem_lowerChar {c d : Char} (hc : c ≠ 'Σ') (h : d ∈ lowerChar c) :
    IsSmall d := by
  by_cases hascii : c.toNat < 0x80
  · simp only [lowerChar, hascii, if_true, List.mem_singleton] at h
    exact h ▸ isSmall_toLower hascii
  by_cases hdot : c = '\u0130'
  · subst hdot
    have hd : d = 'i' ∨ d = '\u0307' := by simpa [lowerChar] using h
    rcases hd with rfl | rfl
    · exact ⟨by decide, by decide⟩
    · exact ⟨by decide, by decide⟩
  · have hne : (c == '\u0130') = false := beq_eq_false_iff_ne.2 hdot
    cases hr : capitals.find? (fun r ↦ r.covers c.toNat) with
    | none =>
      have hlower : lowerChar c = [c] := by simp [lowerChar, hascii, hne, hr]
      rw [hlower, List.mem_singleton] at h
      exact h ▸ ⟨hc, hlower⟩
    | some r =>
      have hlower : lowerChar c = [Char.ofNat (c.toNat + r.shift).toNat] := by
        simp [lowerChar, hascii, hne, hr]
      rw [hlower, List.mem_singleton] at h
      have hcovers : r.covers c.toNat := by simpa using List.find?_some hr
      obtain ⟨hvalid, hdot, hout⟩ := CaseRun.settled (List.mem_of_find?_eq_some hr) hcovers
      have hd : d.toNat = (c.toNat + r.shift).toNat := h ▸ toNat_ofNat hvalid
      exact isSmall_of_not_covers (hd ▸ hdot) (hd ▸ hout)

theorem isSmall_of_mem_lowerFrom {before s : List Char} {d : Char} (h : d ∈ lowerFrom before s) :
    IsSmall d := by
  induction s generalizing before with
  | nil => simp [lowerFrom] at h
  | cons c rest ih =>
    simp only [lowerFrom, List.mem_append] at h
    rcases h with h | h
    · by_cases hc : c = 'Σ'
      · have hd : d = 'ς' ∨ d = 'σ' := by
          simp only [hc, beq_self_eq_true, if_true, List.mem_singleton] at h
          split at h <;> simp [h]
        rcases hd with rfl | rfl
        · exact ⟨by decide, by decide⟩
        · exact ⟨by decide, by decide⟩
      · rw [if_neg (by simpa using hc)] at h
        exact isSmall_of_mem_lowerChar hc h
    · exact ih h

theorem small_lower (s : String) : Small (lower s) := by
  intro c hc
  rw [lower, String.toList_ofList] at hc
  exact isSmall_of_mem_lowerFrom hc

theorem lowerFrom_of_small {before s : List Char} (h : ∀ c ∈ s, IsSmall c) :
    lowerFrom before s = s := by
  induction s generalizing before with
  | nil => rfl
  | cons c rest ih =>
    obtain ⟨hne, hlower⟩ := h c List.mem_cons_self
    rw [lowerFrom, if_neg (by simpa using hne), hlower,
      ih fun d hd ↦ h d (List.mem_cons_of_mem c hd)]
    rfl

theorem Small.lower_eq {s : String} (h : Small s) : lower s = s := by
  rw [lower, lowerFrom_of_small h, String.ofList_toList]

theorem Small.append {s t : String} (hs : Small s) (ht : Small t) : Small (s ++ t) := by
  intro c hc
  rw [String.toList_append, List.mem_append] at hc
  exact hc.elim (hs c) (ht c)

theorem lowerChar_ne_nil (c : Char) : lowerChar c ≠ [] := by
  simp only [lowerChar]
  repeat' split
  all_goals exact List.cons_ne_nil _ _

theorem lower_eq_empty {s : String} (h : lower s = "") : s = "" := by
  rw [← String.toList_inj, lower, String.toList_ofList] at h
  cases hs : s.toList with
  | nil => rwa [← String.toList_inj]
  | cons c rest =>
    rw [hs, lowerFrom] at h
    obtain ⟨hfirst, -⟩ := List.append_eq_nil_iff.1 h
    split at hfirst
    · cases hfirst
    · exact absurd hfirst (lowerChar_ne_nil c)

end ConfigKeeper.Text
