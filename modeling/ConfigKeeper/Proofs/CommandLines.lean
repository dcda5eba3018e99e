import ConfigKeeper.Proofs.Arguments

namespace ConfigKeeper.CommandLine

namespace Scope

def withoutColour (s : Scope) : Scope := { s with noColor := true }

theorem aside_withoutColour : Aside withoutColour :=
  ⟨fun _ ↦ rfl, fun _ ↦ rfl, fun _ _ ↦ rfl, fun _ _ ↦ rfl⟩

theorem settle_withoutColour (s : Scope) :
    s.withoutColour.settle = s.settle.map withoutColour := aside_withoutColour.settle s

end Scope

def Move.withoutColour : Move → Move
  | .continue s => .continue s.withoutColour
  | .collect s => .collect s.withoutColour
  | m => m

namespace Scope

theorem settled_withoutColour (s : Scope) {next : Scope → Move}
    (h : ∀ t, next t.withoutColour = (next t).withoutColour) :
    s.withoutColour.settled next = (s.settled next).withoutColour := by
  rw [settled, settled, settle_withoutColour]
  cases s.settle with
  | error fault => rfl
  | ok t => exact h t

theorem spot_withoutColour (s : Scope) : s.withoutColour.spot = s.spot := rfl

theorem optionsEnded_withoutColour (s : Scope) :
    s.withoutColour.optionsEnded = s.optionsEnded := rfl

theorem hasWord_withoutColour (s : Scope) : s.withoutColour.hasWord = s.hasWord := rfl

theorem awaitsValue_withoutColour (s : Scope) : s.withoutColour.awaitsValue = s.awaitsValue := rfl

theorem word_withoutColour (s : Scope) (a : Bytes) :
    s.withoutColour.word a = (s.word a).withoutColour := by
  cases hspot : s.spot with
  | print | info => simp only [word, spot_withoutColour, hspot, Move.withoutColour]
  | set =>
    simp only [word, spot_withoutColour, hspot]
    exact s.settled_withoutColour fun _ ↦ rfl
  | view =>
    simp only [word, spot_withoutColour, hspot, hasWord_withoutColour]
    by_cases hword : s.hasWord = true
    · simp only [hword, if_true, Move.withoutColour]
    · simp only [hword, if_false, Bool.false_eq_true]
      exact s.settled_withoutColour fun _ ↦ rfl
  | program | config =>
    simp only [word, spot_withoutColour, hspot, optionsEnded_withoutColour]
    rw [apply_ite Move.withoutColour]
    rfl

theorem valueOrWord_withoutColour (s : Scope) (a : Bytes) :
    s.withoutColour.valueOrWord a = (s.valueOrWord a).withoutColour := by
  rw [valueOrWord, valueOrWord, awaitsValue_withoutColour]
  split
  · rfl
  · exact s.word_withoutColour a

theorem flag_withoutColour (s : Scope) (value : Option Bytes) {next : Scope → Move}
    (h : ∀ t, next t.withoutColour = (next t).withoutColour) :
    s.withoutColour.flag value next = (s.flag value next).withoutColour := by
  rw [flag, flag]
  split
  · rfl
  · exact s.settled_withoutColour h

theorem short_withoutColour (s : Scope) (a letters : Bytes) :
    s.withoutColour.short a letters = (s.short a letters).withoutColour := by
  have hfail (fault : UsageFault) : (s.withoutColour.settled fun _ ↦ .fail fault) =
      (s.settled fun _ ↦ .fail fault).withoutColour := s.settled_withoutColour fun _ ↦ rfl
  unfold short
  rw [spot_withoutColour]
  by_cases hset : (s.spot == .set && letters.any (· != 104)) = true
  · rw [if_pos hset, if_pos hset]
    exact s.valueOrWord_withoutColour a
  · rw [if_neg hset, if_neg hset]
    split
    · exact hfail _
    · rw [apply_ite Move.withoutColour, hfail]
      rfl
    · rfl

theorem move_of_takeConfig (s : Scope) (value : Option Bytes) :
    let next : Scope → Move := fun s ↦
      match value with
      | none => .continue { s with pending := some (.option none) }
      | some value =>
        match s.takeConfig value with
        | .ok s => .continue s
        | .error fault => .fail fault
    s.withoutColour.settled next = (s.settled next).withoutColour := by
  refine s.settled_withoutColour fun t ↦ ?_
  cases value with
  | none => rfl
  | some value =>
    simp only [aside_withoutColour.takeConfig]
    cases t.takeConfig value <;> rfl

/-- Only the option itself is understood in another way. -/
theorem long_withoutColour (s : Scope) (a name : Bytes) (value : Option Bytes) :
    s.withoutColour.long a name value = (s.long a name value).withoutColour ∨
      ∃ t, s.long a name value = .continue t ∧ t.noColor = true := by
  rw [long, long]
  by_cases hconfig : (name == .ofString "config") = true
  · rw [if_pos hconfig, if_pos hconfig]
    exact Or.inl (move_of_takeConfig s value)
  rw [if_neg hconfig, if_neg hconfig]
  by_cases hoption : (name == .ofString "no-color") = true
  · rw [if_pos hoption, if_pos hoption, flag, flag, settled, settled, settle_withoutColour]
    split
    · exact Or.inl rfl
    · cases s.settle with
      | error fault => exact Or.inl rfl
      | ok t =>
        cases hcolour : t.noColor with
        | true => exact Or.inl (by simp only [Except.map, hcolour]; rfl)
        | false => exact Or.inr ⟨_, by simp only [hcolour]; rfl, rfl⟩
  rw [if_neg hoption, if_neg hoption, spot_withoutColour]
  refine Or.inl ?_
  by_cases hhelp : (name == help) = true
  · rw [if_pos hhelp, if_pos hhelp]
    exact s.flag_withoutColour value fun _ ↦ rfl
  rw [if_neg hhelp, if_neg hhelp]
  by_cases hversion : (name == .ofString "version" && s.spot == .program) = true
  · rw [if_pos hversion, if_pos hversion]
    exact s.flag_withoutColour value fun _ ↦ rfl
  rw [if_neg hversion, if_neg hversion, apply_ite Move.withoutColour, valueOrWord_withoutColour]
  rfl

theorem move_withoutColour (s : Scope) (a : Bytes) :
    s.withoutColour.move a = (s.move a).withoutColour ∨
      ∃ t, s.move a = .continue t ∧ t.noColor = true := by
  rw [move, move, optionsEnded_withoutColour, spot_withoutColour, awaitsValue_withoutColour]
  by_cases hended : s.optionsEnded = true
  · rw [if_pos hended, if_pos hended]
    exact Or.inl (s.word_withoutColour a)
  rw [if_neg hended, if_neg hended]
  by_cases hsubcommand : (!s.awaitsValue && (s.spot.subcommand? a).isSome) = true
  · rw [if_pos hsubcommand, if_pos hsubcommand]
    cases s.spot.subcommand? a <;> exact Or.inl rfl
  rw [if_neg hsubcommand, if_neg hsubcommand]
  by_cases hhelp : (!s.awaitsValue && s.spot.isGroup && a == help) = true
  · rw [if_pos hhelp, if_pos hhelp]
    exact Or.inl rfl
  rw [if_neg hhelp, if_neg hhelp]
  cases Shape.of a with
  | endOfOptions => exact Or.inl rfl
  | long name value => exact s.long_withoutColour a name value
  | short letters => exact Or.inl (s.short_withoutColour a letters)
  | word => exact Or.inl (s.valueOrWord_withoutColour a)

theorem withoutColour_of_noColor {s : Scope} (h : s.noColor = true) : s.withoutColour = s := by
  rw [withoutColour, ← h]

variable {s : Scope} {fallback : Option Bytes} {inner : Option Reading} {r : Reading}

theorem Finishes.withoutColour (h : s.Finishes fallback inner r) :
    s.withoutColour.Finishes fallback inner { r with noColor := true } := by
  have hsettled := s.settle_withoutColour
  cases h with
  | @around t _ inner hsettle htexts hfile =>
    have hcolour : (inner.noColor || t.withoutColour.noColor) = true := Bool.or_true _
    rw [hsettle] at hsettled
    have hfinishes := Finishes.around inner hsettled htexts hfile
    rw [hcolour] at hfinishes
    exact hfinishes
  | @itself t words c hsettle htexts hfile hcommand =>
    have hkey : t.withoutColour.key = t.key := rfl
    rw [hsettle] at hsettled
    exact .itself hsettled htexts hfile
      (command_congr t.spot_withoutColour hkey hcommand fallback)

end Scope

variable {s : Scope} {fallback : Option Bytes} {rest : List Bytes} {r : Reading}

theorem Reads.withoutColour (h : Reads fallback s rest r) :
    r.noColor = true ∨ Reads fallback s.withoutColour rest { r with noColor := true } := by
  induction h with
  | nil hfinishes => exact Or.inr (.nil hfinishes.withoutColour)
  | @goOn s t a rest r hmove hreads ih =>
    rcases ih with hcolour | ih
    · exact Or.inl hcolour
    rcases s.move_withoutColour a with hsame | ⟨t', ht, hcolour⟩
    · rw [hmove] at hsame
      exact Or.inr (.goOn hsame ih)
    · -- The option is in the command line already.
      rw [hmove] at ht
      cases ht
      rw [Scope.withoutColour_of_noColor hcolour] at ih
      have hread := hreads.read.symm.trans ih.read
      exact Or.inl (congrArg Reading.noColor (Except.ok.inj hread))
  | @descend s a rest spot inner r hmove hreads hfinishes _ =>
    rcases s.move_withoutColour a with hsame | ⟨t', ht, -⟩
    · rw [hmove] at hsame
      exact Or.inr (.descend hsame hreads hfinishes.withoutColour)
    · rw [hmove] at ht
      cases ht
  | @collect s t a rest r hmove hfinishes =>
    rcases s.move_withoutColour a with hsame | ⟨t', ht, -⟩
    · rw [hmove] at hsame
      exact Or.inr (.collect hsame hfinishes.withoutColour)
    · rw [hmove] at ht
      cases ht

def withoutColourOption : Bytes := .ofString "--no-color"

theorem parse_withoutColour {env : Environment} {arguments : List Bytes} {i : Invocation}
    (h : parse env arguments = .ok i) (hcolour : i.noColor = false) :
    parse env (withoutColourOption :: arguments) = .ok { i with noColor := true } := by
  rw [parse] at h ⊢
  have hmove : ({ spot := .program } : Scope).move withoutColourOption =
      .continue ({ spot := .program } : Scope).withoutColour := rfl
  cases hread : read env.configFile { spot := .program } arguments with
  | error fault =>
    rw [hread] at h
    cases h
  | ok r =>
    simp only [hread] at h
    cases h
    rw [read, hmove]
    rcases (reads_of_read hread).withoutColour with htrue | hreads
    · have hfalse : r.noColor = false := hcolour
      rw [hfalse] at htrue
      cases htrue
    · simp only [hreads.read]

end ConfigKeeper.CommandLine
