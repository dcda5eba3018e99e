import ConfigKeeper.Display.Message
import ConfigKeeper.Proofs.Octets
import Mathlib.Data.List.Forall2

namespace ConfigKeeper

theorem escape_not_mem_ofList {l : List Char} (h : '\x1b' ∉ l) :
    '\x1b' ∉ (String.ofList l).toList := by
  rw [String.toList_ofList]
  exact h

theorem escape_not_mem_append {s t : String} (h : '\x1b' ∉ s.toList) (h' : '\x1b' ∉ t.toList) :
    '\x1b' ∉ (s ++ t).toList := by
  rw [String.toList_append, List.mem_append, not_or]
  exact ⟨h, h'⟩

namespace Bytes

def escape : UInt8 := 27

theorem eq_of_escape_mem {c : Char} (h : escape ∈ String.utf8EncodeChar c) : c = '\x1b' :=
  Char.toNat_inj.1 (toNat_of_mem_encode h (by decide))

theorem escape_not_mem_ofString {s : String} (h : '\x1b' ∉ s.toList) : escape ∉ ofString s := by
  rw [ofString_eq_flatMap, List.mem_flatMap]
  rintro ⟨c, hc, hescape⟩
  exact h (eq_of_escape_mem hescape ▸ hc)

/-- The parameters of a sequence are numbers between semicolons. -/
def isParameter (b : UInt8) : Bool := (48 ≤ b && b ≤ 57) || b == 59

/-- How many octets the sequence for looks has that stands in front, none if there is none. -/
def sequenceLength : Bytes → Nat
  | 27 :: 91 :: rest =>
    if (rest.dropWhile isParameter).head? = some 109 then
      (rest.takeWhile isParameter).length + 3
    else 0
  | _ => 0

/-- The octets that are left without the sequences for looks; the first `skip` of them are part of
one. -/
def unstyled (skip : Nat) : Bytes → Bytes
  | [] => []
  | b :: rest =>
    match skip with
    | n + 1 => unstyled n rest
    | 0 =>
      match sequenceLength (b :: rest) with
      | n + 1 => unstyled n rest
      | 0 => b :: unstyled 0 rest

theorem unstyled_append {a : Bytes} (h : escape ∉ a) (rest : Bytes) :
    unstyled 0 (a ++ rest) = a ++ unstyled 0 rest := by
  induction a with
  | nil => rfl
  | cons b a ih =>
    rw [List.mem_cons, not_or] at h
    have hlength : sequenceLength (b :: (a ++ rest)) = 0 := by
      rw [sequenceLength]
      rintro more heq
      exact h.1 (List.cons.inj heq).1.symm
    simp only [List.cons_append, unstyled, hlength, ih h.2]

theorem unstyled_skip (a rest : Bytes) : unstyled a.length (a ++ rest) = unstyled 0 rest := by
  induction a with
  | nil => rfl
  | cons b a ih => rw [List.cons_append, List.length_cons, unstyled, ih]

theorem unstyled_sequence {code : Bytes} (h : code.all isParameter = true) (rest : Bytes) :
    unstyled 0 (27 :: 91 :: (code ++ 109 :: rest)) = unstyled 0 rest := by
  rw [List.all_eq_true] at h
  have hlength : sequenceLength (27 :: 91 :: (code ++ 109 :: rest)) = code.length + 3 := by
    have hend : isParameter 109 = false := by decide
    have htake : (code ++ 109 :: rest).takeWhile isParameter = code := by
      rw [List.takeWhile_append_of_pos h, List.takeWhile_cons_of_neg (by simp [hend]),
        List.append_nil]
    have hdrop : (code ++ 109 :: rest).dropWhile isParameter = 109 :: rest := by
      rw [List.dropWhile_append_of_pos h, List.dropWhile_cons_of_neg (by simp [hend])]
    rw [sequenceLength, htake, hdrop, List.head?_cons, if_pos rfl]
  have hskip := unstyled_skip (91 :: (code ++ [109])) rest
  rw [List.cons_append, List.append_assoc, List.singleton_append, List.length_cons,
    List.length_append, List.length_singleton] at hskip
  rw [unstyled]
  simp only [hlength, hskip]

example : unstyled 0 (ofString "\x1b[38;5;13m\x1b[1mkey\x1b[0m: \x1b[") =
    ofString "key: \x1b[" := by decide

/-- The same but for looks, which the second has not. -/
structure Tinted (coloured plain : Bytes) : Prop where
  unstyled_append : ∀ rest, unstyled 0 (coloured ++ rest) = plain ++ unstyled 0 rest
  clean : escape ∉ plain

theorem Tinted.refl {b : Bytes} (h : escape ∉ b) : Tinted b b := ⟨Bytes.unstyled_append h, h⟩

theorem Tinted.append {a b a' b' : Bytes} (h : Tinted a b) (h' : Tinted a' b') :
    Tinted (a ++ a') (b ++ b') where
  unstyled_append rest := by
    rw [List.append_assoc, h.unstyled_append, h'.unstyled_append, List.append_assoc]
  clean := by
    rw [List.mem_append, not_or]
    exact ⟨h.clean, h'.clean⟩

theorem Tinted.unstyled {a b : Bytes} (h : Tinted a b) : unstyled 0 a = b := by
  have hnil := h.unstyled_append []
  rw [List.append_nil] at hnil
  rw [hnil, Bytes.unstyled, List.append_nil]

end Bytes

namespace Display

open Bytes (ofString)

def Tinted (coloured plain : String) : Prop := (ofString coloured).Tinted (ofString plain)

theorem Tinted.refl {s : String} (h : '\x1b' ∉ s.toList) : Tinted s s :=
  Bytes.Tinted.refl (Bytes.escape_not_mem_ofString h)

theorem Tinted.append {s t s' t' : String} (h : Tinted s t) (h' : Tinted s' t') :
    Tinted (s ++ s') (t ++ t') := by
  rw [Tinted, Bytes.ofString_append, Bytes.ofString_append]
  exact Bytes.Tinted.append h h'

theorem Tinted.intercalate {sep : String} (hsep : '\x1b' ∉ sep.toList) {lines others : List String}
    (h : List.Forall₂ Tinted lines others) :
    Tinted (sep.intercalate lines) (sep.intercalate others) := by
  induction h with
  | nil => exact .refl List.not_mem_nil
  | cons hfirst hrest ih =>
    cases hrest with
    | nil =>
      rw [String.intercalate_singleton, String.intercalate_singleton]
      exact hfirst
    | cons =>
      rw [String.intercalate_cons_cons, String.intercalate_cons_cons]
      exact (hfirst.append (.refl hsep)).append ih

theorem tinted_sequence {code : String} (h : (ofString code).all Bytes.isParameter = true) :
    Tinted (sequence code) "" where
  unstyled_append rest := by
    have hoctets : ofString (sequence code) = 27 :: 91 :: (ofString code ++ [109]) := by
      rw [sequence, Bytes.ofString_append, Bytes.ofString_append]
      rfl
    rw [hoctets, List.cons_append, List.cons_append, List.append_assoc, List.singleton_append,
      Bytes.unstyled_sequence h]
    rfl
  clean := List.not_mem_nil

theorem tinted_sequences {codes : List String}
    (h : ∀ code ∈ codes, (ofString code).all Bytes.isParameter = true) :
    Tinted (String.join (codes.map sequence)) "" := by
  induction codes with
  | nil => exact .refl List.not_mem_nil
  | cons code codes ih =>
    obtain ⟨hcode, hcodes⟩ := List.forall_mem_cons.1 h
    rw [List.map_cons, String.join_cons]
    exact (tinted_sequence hcode).append (ih hcodes)

theorem tinted_styled (palette : Palette) {codes : List String} {ending text : String}
    (hcodes : ∀ code ∈ ending :: codes, (ofString code).all Bytes.isParameter = true)
    (htext : '\x1b' ∉ text.toList) : Tinted (styled palette codes ending text) text := by
  cases palette with
  | plain => exact .refl htext
  | coloured =>
    obtain ⟨hending, hcodes⟩ := List.forall_mem_cons.1 hcodes
    have hwhole := ((tinted_sequences hcodes).append (.refl htext)).append
      (tinted_sequence hending)
    rw [String.empty_append, String.append_empty] at hwhole
    exact hwhole

theorem tinted_success (palette : Palette) {message : String} (h : '\x1b' ∉ message.toList) :
    Tinted (success palette message) (success .plain message) :=
  .append (.refl (by decide)) (tinted_styled palette (by decide) h)

theorem tinted_warning (palette : Palette) {message : String} (h : '\x1b' ∉ message.toList) :
    Tinted (warning palette message) (warning .plain message) :=
  .append (.refl (by decide)) (tinted_styled palette (by decide) h)

theorem tinted_keyValue (palette : Palette) {key value : String} (hkey : '\x1b' ∉ key.toList)
    (hvalue : '\x1b' ∉ value.toList) :
    Tinted (keyValue palette key value) (keyValue .plain key value) :=
  ((tinted_styled palette (by decide) hkey).append (.refl (by decide))).append (.refl hvalue)

end Display

end ConfigKeeper
