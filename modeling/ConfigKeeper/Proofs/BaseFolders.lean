import ConfigKeeper.Environment
import ConfigKeeper.Proofs.Octets
import ConfigKeeper.Proofs.Parents

namespace ConfigKeeper

namespace Bytes

def IsText (b : Bytes) : Prop := ∃ s, b = ofString s

theorem isText_ofString (s : String) : IsText (ofString s) := ⟨s, rfl⟩

theorem isText_iff {b : Bytes} : IsText b ↔ (toString? b).isSome := by
  constructor
  · rintro ⟨s, rfl⟩
    rw [toString?_ofString]
    rfl
  · intro h
    obtain ⟨s, hs⟩ := Option.isSome_iff_exists.1 h
    exact ⟨s, eq_ofString_of_toString? hs⟩

theorem isText_nil : IsText [] := ⟨"", rfl⟩

theorem IsText.append {a b : Bytes} (ha : IsText a) (hb : IsText b) : IsText (a ++ b) := by
  obtain ⟨s, rfl⟩ := ha
  obtain ⟨t, rfl⟩ := hb
  exact ⟨s ++ t, (ofString_append s t).symm⟩

theorem isText_encode (c : Char) : IsText (String.utf8EncodeChar c) := by
  refine ⟨String.ofList [c], ?_⟩
  rw [ofString_ofList, List.flatMap_singleton]

theorem IsText.intercalate {sep : Bytes} (hsep : IsText sep) {parts : List Bytes}
    (h : ∀ part ∈ parts, IsText part) : IsText (sep.intercalate parts) := by
  induction parts with
  | nil => exact isText_nil
  | cons first rest ih =>
    have hfirst := h first List.mem_cons_self
    have hrest := ih fun part hpart ↦ h part (List.mem_cons_of_mem first hpart)
    cases rest with
    | nil =>
      rw [List.intercalate_singleton]
      exact hfirst
    | cons second rest =>
      rw [List.intercalate_cons_cons]
      exact (hfirst.append hsep).append hrest

end Bytes

open Bytes (IsText)

namespace Path

theorem isText_slash : IsText [slash] := ⟨"/", rfl⟩

theorem slash_not_mem_encode {c : Char} (h : c ≠ '/') : slash ∉ String.utf8EncodeChar c :=
  fun hmem ↦ h (Char.toNat_inj.1 (Bytes.toNat_of_mem_encode hmem (by decide)))

/-- A slash is never a part of a character, so that text falls into text. -/
theorem isText_of_mem_segments {b part : Bytes} (hb : IsText b) (h : part ∈ segments b) :
    IsText part := by
  obtain ⟨s, rfl⟩ := hb
  rw [Bytes.ofString_eq_flatMap] at h
  generalize s.toList = l at h
  induction l generalizing part with
  | nil =>
    rw [List.mem_singleton.1 h]
    exact Bytes.isText_nil
  | cons c l ih =>
    rw [List.flatMap_cons] at h
    by_cases hc : c = '/'
    · subst hc
      rcases List.mem_cons.1 h with rfl | h
      · exact Bytes.isText_nil
      · exact ih h
    · obtain ⟨first, others, hsplit⟩ := List.exists_cons_of_ne_nil
        (List.splitOn_ne_nil slash (l.flatMap String.utf8EncodeChar))
      rw [segments, splitOn_append_of_not_mem (slash_not_mem_encode hc), hsplit,
        List.modifyHead_cons] at h
      rw [segments, hsplit] at ih
      rcases List.mem_cons.1 h with rfl | h
      · exact (Bytes.isText_encode c).append (ih List.mem_cons_self)
      · exact ih (List.mem_cons_of_mem first h)

theorem isText_of_isBlank {part : Bytes} (h : isBlank part) : IsText part := by
  rw [isBlank, Bool.or_eq_true, List.isEmpty_iff, beq_iff_eq] at h
  rcases h with rfl | rfl
  · exact Bytes.isText_nil
  · exact ⟨".", rfl⟩

theorem isText_of_mem_names {p : Path} (hp : IsText p.bytes) {name : Bytes} (h : name ∈ p.names) :
    IsText name :=
  isText_of_mem_segments hp (List.mem_filter.1 h).1

/-- A path is text if all its names are. -/
theorem isText_of_names {p : Path} (h : ∀ name ∈ p.names, IsText name) : IsText p.bytes := by
  rw [← intercalate_segments p.bytes]
  refine isText_slash.intercalate fun part hpart ↦ ?_
  by_cases hblank : isBlank part
  · exact isText_of_isBlank hblank
  · exact h part (List.mem_filter.2 ⟨hpart, by simpa using hblank⟩)

theorem names_append_slash (a b : Bytes) :
    names ⟨a ++ slash :: b⟩ = names ⟨a⟩ ++ names ⟨b⟩ := by
  simp only [names, segments, List.splitOn_append_cons_self, List.filter_append]

theorem names_join (p : Path) {q : Path} (hq : q.isAbsolute = false) :
    (p.join q).names = p.names ++ q.names := by
  obtain ⟨b⟩ := p
  rw [join, if_neg (by simp [hq])]
  split
  · next hend =>
    rcases List.eq_nil_or_concat b with rfl | ⟨init, c, rfl⟩
    · rfl
    · -- The slash at the end of the path has no name behind it.
      have hslash : c = slash := by simpa [isEmpty] using hend
      have hnames := names_append_slash init []
      rw [List.concat_eq_append, hslash, List.append_assoc, List.singleton_append,
        names_append_slash, hnames]
      simp [names, segments, isBlank]
  · exact names_append_slash b q.bytes

end Path

namespace Environment

/-- The file of the settings within a directory of configurations. -/
def settingsBelow (base : Path) : Path :=
  (base.join (.ofString "ephemeral-iam")).join (.ofString "config.yaml")

theorem names_settingsBelow (base : Path) : (settingsBelow base).names =
    base.names ++ [Bytes.ofString "ephemeral-iam", Bytes.ofString "config.yaml"] := by
  have hfolder : (Path.ofString "ephemeral-iam").names = [Bytes.ofString "ephemeral-iam"] := rfl
  have hfile : (Path.ofString "config.yaml").names = [Bytes.ofString "config.yaml"] := rfl
  rw [settingsBelow, Path.names_join _ rfl, Path.names_join _ rfl, hfolder, hfile,
    List.append_assoc, List.singleton_append]

/-- The directory of configurations that a home has. -/
def configIn (home : Bytes) : Path := Path.join ⟨home⟩ (.ofString ".config")

theorem names_configIn (home : Bytes) :
    (configIn home).names = Path.names ⟨home⟩ ++ [Bytes.ofString ".config"] :=
  Path.names_join _ rfl

/-- The file by the rule: in the directory of configurations if it is given and not empty, and else
in the home directory if that is given, whatever octets they have. -/
def ruledFile? (env : Environment) : Option Path :=
  match env.configHome with
  | some (b :: rest) => some (settingsBelow ⟨b :: rest⟩)
  | some [] | none => env.home.map fun home ↦ settingsBelow (configIn home)

/-- What is given first is text, and the directory of configurations is not empty. -/
structure Orderly (env : Environment) : Prop where
  configHome : ∀ b, env.configHome = some b → b ≠ [] ∧ IsText b
  home : env.configHome = none → ∀ b, env.home = some b → IsText b

/-- The file in truth: a directory that is not text is passed over, one that is empty is not. -/
inductive Locates (env : Environment) : Option Path → Prop
  | configHome {b : Bytes} : env.configHome = some b → IsText b →
      Locates env (some (settingsBelow ⟨b⟩))
  | home {b : Bytes} : (∀ c, env.configHome = some c → ¬IsText c) → env.home = some b →
      IsText b → Locates env (some (settingsBelow (configIn b)))
  | nowhere : (∀ c, env.configHome = some c → ¬IsText c) →
      (∀ c, env.home = some c → ¬IsText c) → Locates env none

theorem text?_of_isText {b : Bytes} (h : IsText b) : text? (some b) = some ⟨b⟩ :=
  if_pos (Bytes.isText_iff.1 h)

theorem text?_eq_none {value : Option Bytes} (h : ∀ b, value = some b → ¬IsText b) :
    text? value = none := by
  cases value with
  | none => rfl
  | some b => exact if_neg (Bytes.isText_iff.not.1 (h b rfl))

theorem exists_text_or (value : Option Bytes) :
    (∃ b, value = some b ∧ IsText b) ∨ ∀ b, value = some b → ¬IsText b := by
  by_cases h : ∃ b, value = some b ∧ IsText b
  · exact Or.inl h
  · exact Or.inr fun b hb htext ↦ h ⟨b, hb, htext⟩

theorem settingsFile?_locates (env : Environment) : env.Locates env.settingsFile? := by
  rcases exists_text_or env.configHome with ⟨b, hconfig, htext⟩ | hconfig
  · have hfile : env.settingsFile? = some (settingsBelow ⟨b⟩) := by
      simp only [settingsFile?, settingsFolder?, hconfig, text?_of_isText htext]
      rfl
    rw [hfile]
    exact .configHome hconfig htext
  · have hpassed := text?_eq_none hconfig
    rcases exists_text_or env.home with ⟨b, hhome, htext⟩ | hhome
    · have hfile : env.settingsFile? = some (settingsBelow (configIn b)) := by
        simp only [settingsFile?, settingsFolder?, hpassed, hhome, text?_of_isText htext]
        rfl
      rw [hfile]
      exact .home hconfig hhome htext
    · have hfile : env.settingsFile? = none := by
        simp only [settingsFile?, settingsFolder?, hpassed, text?_eq_none hhome]
        rfl
      rw [hfile]
      exact .nowhere hconfig hhome

theorem eq_none_of_passed {value : Option Bytes} (h : ∀ b, value = some b → ¬IsText b)
    (htext : ∀ b, value = some b → IsText b) : value = none := by
  cases value with
  | none => rfl
  | some b => exact absurd (htext b rfl) (h b rfl)

theorem settingsFile?_of_orderly {env : Environment} (h : env.Orderly) :
    env.settingsFile? = env.ruledFile? := by
  have htext (b : Bytes) (hb : env.configHome = some b) : IsText b := (h.configHome b hb).2
  have hlocates := env.settingsFile?_locates
  generalize env.settingsFile? = file at hlocates ⊢
  cases hlocates with
  | configHome hconfig _ =>
    obtain ⟨c, rest, rfl⟩ := List.exists_cons_of_ne_nil (h.configHome _ hconfig).1
    rw [ruledFile?, hconfig]
  | home hpassed hhome _ =>
    simp only [ruledFile?, eq_none_of_passed hpassed htext, hhome, Option.map_some]
  | nowhere hpassed hhomeless =>
    have hconfig := eq_none_of_passed hpassed htext
    simp only [ruledFile?, hconfig, eq_none_of_passed hhomeless (h.home hconfig), Option.map_none]

theorem names_ne_of_isText {b home : Bytes} (hb : ¬IsText b) (hhome : IsText home) :
    (settingsBelow (configIn home)).names ≠ (settingsBelow ⟨b⟩).names := by
  intro heq
  rw [names_settingsBelow, names_settingsBelow, List.append_cancel_right_eq, names_configIn] at heq
  refine hb (Path.isText_of_names (p := ⟨b⟩) fun name hname ↦ ?_)
  rw [← heq] at hname
  rcases List.mem_append.1 hname with hname | hname
  · exact Path.isText_of_mem_names (p := ⟨home⟩) hhome hname
  · rw [List.mem_singleton.1 hname]
    exact Bytes.isText_ofString ".config"

theorem names_ne_of_empty (home : Bytes) :
    (settingsBelow ⟨[]⟩).names ≠ (settingsBelow (configIn home)).names := by
  intro heq
  have hlength := congrArg List.length heq
  rw [names_settingsBelow, names_settingsBelow, names_configIn] at hlength
  simp [Path.names, Path.segments, Path.isBlank] at hlength

theorem configHome_of_names {env : Environment} {b : Bytes} (hconfig : env.configHome = some b)
    (h : env.settingsFile?.map Path.names = env.ruledFile?.map Path.names) : b ≠ [] ∧ IsText b := by
  have hlocates := env.settingsFile?_locates
  generalize env.settingsFile? = file at hlocates h
  cases b with
  | nil =>
    -- The empty directory is text, and so it is used where the rule goes on to the home.
    simp only [ruledFile?, hconfig] at h
    cases hlocates with
    | configHome hfound _ =>
      cases hconfig.symm.trans hfound
      cases hhome : env.home with
      | none =>
        rw [hhome] at h
        cases h
      | some home =>
        rw [hhome] at h
        exact absurd (Option.some.inj h) (names_ne_of_empty home)
    | home hpassed _ _ | nowhere hpassed _ => exact absurd Bytes.isText_nil (hpassed [] hconfig)
  | cons c rest =>
    simp only [ruledFile?, hconfig] at h
    refine ⟨List.cons_ne_nil c rest, ?_⟩
    cases hlocates with
    | configHome hfound htext =>
      cases hconfig.symm.trans hfound
      exact htext
    | home hpassed _ htext =>
      exact absurd (Option.some.inj h) (names_ne_of_isText (hpassed _ hconfig) htext)
    | nowhere hpassed _ => cases h

theorem home_of_names {env : Environment} {b : Bytes} (hconfig : env.configHome = none)
    (hhome : env.home = some b)
    (h : env.settingsFile?.map Path.names = env.ruledFile?.map Path.names) : IsText b := by
  have hlocates := env.settingsFile?_locates
  generalize env.settingsFile? = file at hlocates h
  simp only [ruledFile?, hconfig, hhome] at h
  cases hlocates with
  | configHome hfound _ => cases hconfig.symm.trans hfound
  | home _ hfound htext =>
    cases hhome.symm.trans hfound
    exact htext
  | nowhere _ _ => cases h

/-- The rule is followed just where all is text and not empty; elsewhere the names on the way to the
file are others. -/
theorem names_settingsFile?_iff (env : Environment) :
    env.settingsFile?.map Path.names = env.ruledFile?.map Path.names ↔ env.Orderly := by
  constructor
  · intro h
    exact ⟨fun b hconfig ↦ configHome_of_names hconfig h,
      fun hconfig b hhome ↦ home_of_names hconfig hhome h⟩
  · intro h
    rw [settingsFile?_of_orderly h]

end Environment

end ConfigKeeper
