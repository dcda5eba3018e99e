import ConfigKeeper.Proofs.KeyMaps

namespace ConfigKeeper

/-- The list tells what stands at which place, in the order of places. -/
def InOrder {β : Type} (at? : List Nat → β → Prop) (l : List β) : Prop :=
  ∃ places : List (List Nat × β), places.map (·.2) = l ∧
    places.Pairwise (fun a b ↦ a.1 < b.1) ∧ ∀ place b, (place, b) ∈ places ↔ at? place b

namespace InOrder

variable {β γ : Type} {at? other : List Nat → β → Prop} {l more : List β}

theorem congr (h : InOrder at? l) (hiff : ∀ place b, at? place b ↔ other place b) :
    InOrder other l := by
  obtain ⟨places, hl, hordered, hmem⟩ := h
  refine ⟨places, hl, hordered, ?_⟩
  intro place b
  rw [hmem, hiff]

theorem nil (h : ∀ place b, ¬at? place b) : InOrder at? [] := by
  refine ⟨[], rfl, List.Pairwise.nil, ?_⟩
  intro place b
  simp [h place b]

theorem single {x : β} (h : ∀ place b, at? place b ↔ place = [] ∧ b = x) : InOrder at? [x] := by
  refine ⟨[([], x)], rfl, List.pairwise_singleton _ _, ?_⟩
  intro place b
  simp [h place b]

/-- What stands in the first pair and what stands in the others. -/
def Joined (first rest : List Nat → β → Prop) : List Nat → β → Prop
  | [], _ => False
  | 0 :: place, b => first place b
  | (i + 1) :: place, b => rest (i :: place) b

def next : List Nat → List Nat
  | [] => []
  | i :: place => (i + 1) :: place

theorem next_lt_next {place place' : List Nat} (hne : place ≠ []) (hlt : place < place') :
    next place < next place' := by
  cases place with
  | nil => exact absurd rfl hne
  | cons i place =>
    cases place' with
    | nil => exact absurd hlt (List.not_lt_nil _)
    | cons j place' =>
      simpa [next, List.cons_lt_cons_iff] using hlt

theorem append (h : InOrder at? l) (h' : InOrder other more) (hnil : ∀ b, ¬other [] b) :
    InOrder (Joined at? other) (l ++ more) := by
  obtain ⟨places, rfl, hordered, hmem⟩ := h
  obtain ⟨places', rfl, hordered', hmem'⟩ := h'
  have hne : ∀ e ∈ places', e.1 ≠ [] := by
    rintro ⟨place, b⟩ he rfl
    exact hnil b ((hmem' [] b).1 he)
  refine ⟨places.map (fun e ↦ (0 :: e.1, e.2)) ++ places'.map (fun e ↦ (next e.1, e.2)), ?_, ?_, ?_⟩
  · simp [Function.comp_def]
  · refine List.pairwise_append.2 ⟨?_, ?_, ?_⟩
    · refine List.pairwise_map.2 (hordered.imp ?_)
      intro a b hlt
      exact List.cons_lt_cons_iff.2 (Or.inr ⟨rfl, hlt⟩)
    · refine List.pairwise_map.2 (hordered'.imp_of_mem ?_)
      intro a b ha _ hlt
      exact next_lt_next (hne a ha) hlt
    · intro a ha b hb
      obtain ⟨e, -, rfl⟩ := List.mem_map.1 ha
      obtain ⟨e', he', rfl⟩ := List.mem_map.1 hb
      obtain ⟨i, place, hplace⟩ := List.exists_cons_of_ne_nil (hne e' he')
      simp only [hplace, next, List.cons_lt_cons_iff]
      omega
  · intro place b
    rw [List.mem_append, List.mem_map, List.mem_map]
    constructor
    · rintro (⟨⟨place, b⟩, he, heq⟩ | ⟨⟨place, b⟩, he, heq⟩)
      · cases heq
        exact (hmem place b).1 he
      · obtain ⟨i, place, rfl⟩ := List.exists_cons_of_ne_nil (hne _ he)
        cases heq
        exact (hmem' (i :: place) b).1 he
    · intro hjoined
      match place, hjoined with
      | 0 :: place, hfirst => exact Or.inl ⟨(place, b), (hmem place b).2 hfirst, rfl⟩
      | (i + 1) :: place, hrest => exact Or.inr ⟨(i :: place, b), (hmem' _ b).2 hrest, rfl⟩

theorem filterMap (h : InOrder at? l) (f : β → Option γ) :
    InOrder (fun place c ↦ ∃ b, at? place b ∧ f b = some c) (l.filterMap f) := by
  obtain ⟨places, rfl, hordered, hmem⟩ := h
  refine ⟨places.filterMap fun e ↦ (f e.2).map (e.1, ·), ?_, ?_, ?_⟩
  · rw [List.map_filterMap, List.filterMap_map]
    congr 1
    funext e
    cases h : f e.2 <;> simp [h]
  · refine List.pairwise_filterMap.2 (hordered.imp ?_)
    intro a b hlt a' ha' b' hb'
    obtain ⟨c, -, rfl⟩ := Option.map_eq_some_iff.1 ha'
    obtain ⟨c', -, rfl⟩ := Option.map_eq_some_iff.1 hb'
    exact hlt
  · intro place c
    rw [List.mem_filterMap]
    constructor
    · rintro ⟨⟨place, b⟩, he, heq⟩
      obtain ⟨c, hc, heq⟩ := Option.map_eq_some_iff.1 heq
      cases heq
      exact ⟨b, (hmem _ _).1 he, hc⟩
    · rintro ⟨b, hb, hc⟩
      exact ⟨(place, b), (hmem _ _).2 hb, by simp [hc]⟩

theorem mem_iff (h : InOrder at? l) {b : β} : b ∈ l ↔ ∃ place, at? place b := by
  obtain ⟨places, rfl, -, hmem⟩ := h
  rw [List.mem_map]
  constructor
  · rintro ⟨⟨place, b⟩, he, rfl⟩
    exact ⟨place, (hmem place b).1 he⟩
  · rintro ⟨place, hb⟩
    exact ⟨(place, b), (hmem place b).2 hb, rfl⟩

/-- Of the entries of a key the one at the last place counts. -/
theorem get?_ofList {α : Type} {set? : List Nat → String × α → Prop} {entries : List (String × α)}
    (h : InOrder set? entries) {k : String} {a : α} :
    (KeyMap.ofList entries).get? k = some a ↔
      ∃ place, set? place (k, a) ∧ ∀ place' a', set? place' (k, a') → ¬place < place' := by
  obtain ⟨places, rfl, hordered, hmem⟩ := h
  constructor
  -- What stands behind the entry that is found is in front of it in the list read backwards.
  · intro hget
    rw [KeyMap.get?_ofList, List.lookup_eq_some_iff] at hget
    obtain ⟨after, before, hsplit, hafter⟩ := hget
    rw [← List.map_reverse, List.map_eq_append_iff] at hsplit
    obtain ⟨after, rest, hplaces, rfl, hrest⟩ := hsplit
    obtain ⟨⟨place, e⟩, before, rfl, rfl, rfl⟩ := List.map_eq_cons_iff.1 hrest
    have hplaces : places = before.reverse ++ (place, (k, a)) :: after.reverse := by
      rw [← places.reverse_reverse, hplaces]
      simp
    subst hplaces
    refine ⟨place, (hmem _ _).1 (by simp), ?_⟩
    intro place' a' hset
    obtain ⟨-, hbehind, hbefore⟩ := List.pairwise_append.1 hordered
    rcases List.mem_append.1 ((hmem _ _).2 hset) with he | he
    · exact List.lt_asymm (hbefore _ he _ List.mem_cons_self)
    · rcases List.mem_cons.1 he with heq | he
      · cases heq
        exact List.lt_irrefl place
      · have hne := hafter (k, a') (List.mem_map_of_mem (f := (·.2)) (List.mem_reverse.1 he))
        simp at hne
  · rintro ⟨place, hset, hlast⟩
    obtain ⟨before, after, rfl⟩ := List.append_of_mem ((hmem _ _).2 hset)
    refine KeyMap.get?_ofList_of_last (by rw [List.map_append, List.map_cons]) ?_
    intro e he
    obtain ⟨⟨place', e⟩, hafter, rfl⟩ := List.mem_map.1 he
    obtain ⟨-, hbehind, -⟩ := List.pairwise_append.1 hordered
    have hlt := (List.pairwise_cons.1 hbehind).1 _ hafter
    intro heq
    obtain ⟨name, a'⟩ := e
    cases heq
    exact hlast place' a' ((hmem _ _).1 (by simp [hafter])) hlt

theorem get?_ofList_eq_none {α : Type} {set? : List Nat → String × α → Prop}
    {entries : List (String × α)} (h : InOrder set? entries) {k : String} :
    (KeyMap.ofList entries).get? k = none ↔ ∀ place a, ¬set? place (k, a) := by
  rw [← Option.not_isSome_iff_eq_none, ← KeyMap.mem_keys_iff, KeyMap.mem_keys_ofList, List.mem_map]
  constructor
  · intro hnot place a hset
    exact hnot ⟨(k, a), h.mem_iff.2 ⟨place, hset⟩, rfl⟩
  · rintro hnone ⟨⟨name, a⟩, he, rfl⟩
    obtain ⟨place, hset⟩ := h.mem_iff.1 he
    exact hnone place a hset

end InOrder

end ConfigKeeper
