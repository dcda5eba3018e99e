import ConfigKeeper.Proofs.Arguments

namespace ConfigKeeper.CommandLine

inductive Move.Fails : Move → Prop
  | fail (fault : UsageFault) : Fails (.fail fault)

theorem Move.Fails.ite {p : Prop} [Decidable p] {m m' : Move} (h : p → m.Fails)
    (h' : ¬p → m'.Fails) : (if p then m else m').Fails := by
  by_cases hp : p
  · rw [if_pos hp]
    exact h hp
  · rw [if_neg hp]
    exact h' hp

namespace Scope

variable {s t : Scope} {fault : UsageFault}

theorem settle_of_none (h : s.pending = none) : s.settle = .ok s := by
  rw [settle, h]

/-- A scope that is in order knows the value of its option or of its word. -/
theorem eq_of_settle (h : s.settle = .ok t) :
    t = { s with config := t.config, key := t.key, pending := none } ∧ t.hasWord = s.hasWord ∧
      s.awaitsValue = false := by
  obtain ⟨spot, config, noColor, pending, key, words, optionsEnded⟩ := s
  match pending with
  | none =>
    cases h
    exact ⟨rfl, rfl, rfl⟩
  | some (.option none) => cases h
  | some (.option (some value)) =>
    simp only [settle, takeConfig] at h
    split at h
    · cases h
    · split at h
      · cases h
      · cases h
        exact ⟨rfl, rfl, rfl⟩
  | some (.word w) =>
    simp only [settle, takeKey] at h
    split at h
    · cases h
    · split at h
      · cases h
      · cases h
        exact ⟨rfl, (Bool.or_true _).symm, rfl⟩

def ended (s : Scope) : Scope := { s with optionsEnded := true }

theorem settle_ended (s : Scope) : s.ended.settle = s.settle.map ended :=
  have haside : Aside ended := ⟨fun _ ↦ rfl, fun _ ↦ rfl, fun _ _ ↦ rfl, fun _ _ ↦ rfl⟩
  haside.settle s

theorem settle_idem (h : s.settle = .ok t) : t.settle = .ok t := by
  rw [(eq_of_settle h).1]
  rfl

theorem settled_of_settle (h : s.settle = .ok t) (next : Scope → Move) :
    s.settled next = t.settled next := by
  rw [settled, settled, h, settle_idem h]

section

variable (h : s.settle = .ok t)
include h

theorem spot_of_settle : t.spot = s.spot := by
  rw [(eq_of_settle h).1]

theorem optionsEnded_of_settle : t.optionsEnded = s.optionsEnded := by
  rw [(eq_of_settle h).1]

theorem awaitsValue_of_settle : t.awaitsValue = false := by
  rw [(eq_of_settle h).1]
  rfl

theorem word_of_settle (a : Bytes) : s.word a = t.word a := by
  rw [word, word, spot_of_settle h, optionsEnded_of_settle h, (eq_of_settle h).2.1,
    settled_of_settle h, settled_of_settle h]

theorem valueOrWord_of_settle (a : Bytes) : s.valueOrWord a = t.valueOrWord a := by
  rw [valueOrWord, valueOrWord, (eq_of_settle h).2.2, awaitsValue_of_settle h, word_of_settle h]
  rfl

theorem flag_of_settle (value : Option Bytes) (next : Scope → Move) :
    s.flag value next = t.flag value next := by
  rw [flag, flag, settled_of_settle h]

theorem long_of_settle (a name : Bytes) (value : Option Bytes) :
    s.long a name value = t.long a name value := by
  rw [long, long, spot_of_settle h, settled_of_settle h, flag_of_settle h, flag_of_settle h,
    flag_of_settle h, valueOrWord_of_settle h]

theorem short_of_settle (a letters : Bytes) : s.short a letters = t.short a letters := by
  unfold short
  rw [spot_of_settle h, settled_of_settle h, valueOrWord_of_settle h, settled_of_settle h]

/-- What is in order is understood as if it had been checked before. Only at the end of the options
it goes on unchecked. -/
theorem move_of_settle (a : Bytes) : s.move a = t.move a ∨
    (s.move a = .continue s.ended ∧ t.move a = .continue t.ended) := by
  rw [move, move, optionsEnded_of_settle h, spot_of_settle h, (eq_of_settle h).2.2,
    awaitsValue_of_settle h]
  by_cases hended : s.optionsEnded = true
  · rw [if_pos hended, if_pos hended]
    exact Or.inl (word_of_settle h a)
  rw [if_neg hended, if_neg hended]
  by_cases hsubcommand : (!false && (s.spot.subcommand? a).isSome) = true
  · rw [if_pos hsubcommand, if_pos hsubcommand]
    exact Or.inl rfl
  rw [if_neg hsubcommand, if_neg hsubcommand]
  by_cases hhelp : (!false && s.spot.isGroup && a == help) = true
  · rw [if_pos hhelp, if_pos hhelp]
    exact Or.inl rfl
  rw [if_neg hhelp, if_neg hhelp]
  cases Shape.of a with
  | endOfOptions =>
    refine Or.inr ⟨rfl, ?_⟩
    rw [ended, ← spot_of_settle h]
  | long name value => exact Or.inl (long_of_settle h a name value)
  | short letters => exact Or.inl (short_of_settle h a letters)
  | word => exact Or.inl (valueOrWord_of_settle h a)

theorem finish_of_settle (fallback : Option Bytes) (inner : Option Reading) :
    s.finish fallback inner = t.finish fallback inner := by
  rw [finish, finish, h, settle_idem h]

end

section

variable (h : s.settle = .error fault)
include h

theorem settled_fails (next : Scope → Move) : (s.settled next).Fails := by
  rw [settled, h]
  exact .fail fault

theorem flag_fails (value : Option Bytes) (next : Scope → Move) : (s.flag value next).Fails := by
  rw [flag]
  exact .ite (fun _ ↦ .fail _) fun _ ↦ settled_fails h next

theorem word_fails (a : Bytes) : (s.word a).Fails := by
  rw [word]
  cases s.spot with
  | print | info => exact .fail _
  | set => exact settled_fails h _
  | view => exact .ite (fun _ ↦ .fail _) fun _ ↦ settled_fails h _
  | program | config => exact .ite (fun _ ↦ .fail _) fun _ ↦ .fail _

variable (hvalue : s.spot = .set → s.awaitsValue = false)
include hvalue

theorem valueOrWord_fails (hset : s.spot = .set) (a : Bytes) : (s.valueOrWord a).Fails := by
  rw [valueOrWord, hvalue hset]
  exact word_fails h a

theorem long_fails (a name : Bytes) (value : Option Bytes) : (s.long a name value).Fails := by
  rw [long]
  refine .ite (fun _ ↦ settled_fails h _) fun _ ↦ ?_
  refine .ite (fun _ ↦ flag_fails h value _) fun _ ↦ ?_
  refine .ite (fun _ ↦ flag_fails h value _) fun _ ↦ ?_
  refine .ite (fun _ ↦ flag_fails h value _) fun _ ↦ ?_
  refine .ite (fun hset ↦ ?_) fun _ ↦ .fail _
  rw [Bool.and_eq_true, beq_iff_eq] at hset
  exact valueOrWord_fails h hvalue hset.1 a

theorem short_fails (a letters : Bytes) : (s.short a letters).Fails := by
  unfold short
  refine .ite (fun hset ↦ ?_) fun _ ↦ ?_
  · rw [Bool.and_eq_true, beq_iff_eq] at hset
    exact valueOrWord_fails h hvalue hset.1 a
  · split
    · exact settled_fails h _
    · exact .ite (fun _ ↦ settled_fails h _) fun _ ↦ .fail _
    · exact .fail _

end

/-- The ways on that do not take the argument. -/
inductive Passes (s : Scope) : Move → Prop
  | descend (spot : Spot) : Passes s (.descend spot)
  | explain : Passes s .explain
  | ended : Passes s (.continue s.ended)
  | fails {m : Move} : m.Fails → Passes s m

theorem move_of_unsettled (h : s.settle = .error fault) (hvalue : s.awaitsValue = false)
    (a : Bytes) : s.Passes (s.move a) := by
  have hset : s.spot = .set → s.awaitsValue = false := fun _ ↦ hvalue
  rw [move, hvalue]
  by_cases hended : s.optionsEnded = true
  · rw [if_pos hended]
    exact .fails (word_fails h a)
  rw [if_neg hended]
  split
  · cases s.spot.subcommand? a with
    | some spot => exact .descend spot
    | none => exact .fails (.fail _)
  split
  · exact .explain
  cases Shape.of a with
  | endOfOptions => exact .ended
  | long name value => exact .fails (long_fails h hset a name value)
  | short letters => exact .fails (short_fails h hset a letters)
  | word =>
    rw [valueOrWord, hvalue]
    exact .fails (word_fails h a)

theorem finish_of_unsettled (h : s.settle = .error fault) (fallback : Option Bytes)
    (inner : Option Reading) : s.finish fallback inner = .error fault := by
  rw [finish, h]

end Scope

variable {s t : Scope} {fault : UsageFault} {fallback : Option Bytes}

theorem read_of_settle (h : s.settle = .ok t) (arguments : List Bytes) :
    read fallback s arguments = read fallback t arguments := by
  induction arguments generalizing s t with
  | nil => exact Scope.finish_of_settle h fallback none
  | cons a rest ih =>
    rw [read, read]
    rcases Scope.move_of_settle h a with hsame | ⟨hs, ht⟩
    · simp only [hsame, Scope.spot_of_settle h, Scope.finish_of_settle h]
    · have hended : s.ended.settle = .ok t.ended := by
        rw [Scope.settle_ended, h]
        rfl
      simp only [hs, ht]
      exact ih hended

theorem settle_ended_of_error (h : s.settle = .error fault) : s.ended.settle = .error fault := by
  rw [Scope.settle_ended, h]
  rfl

theorem read_of_passes (h : s.settle = .error fault) {a : Bytes} {rest : List Bytes}
    (hpasses : s.Passes (s.move a)) (hended : (read fallback s.ended rest).toOption = none) :
    (read fallback s (a :: rest)).toOption = none := by
  rw [read]
  generalize s.move a = m at hpasses
  cases hpasses with
  | descend spot =>
    simp only [Scope.finish_of_unsettled h]
    split <;> rfl
  | explain => rfl
  | ended => exact hended
  | fails hfails =>
    cases hfails
    rfl

theorem read_of_unsettled (h : s.settle = .error fault) (hvalue : s.awaitsValue = false)
    (arguments : List Bytes) : (read fallback s arguments).toOption = none := by
  induction arguments generalizing s with
  | nil =>
    rw [read, Scope.finish_of_unsettled h]
    rfl
  | cons a rest ih =>
    have hended := ih (settle_ended_of_error h) (Bool.and_false _)
    exact read_of_passes h (Scope.move_of_unsettled h hvalue a) hended

end ConfigKeeper.CommandLine
