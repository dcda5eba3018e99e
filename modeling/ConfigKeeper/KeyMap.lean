namespace ConfigKeeper

structure KeyMap (α : Type) where
  entries : List (String × α) := []
  ordered : entries.Pairwise fun a b ↦ a.1 < b.1 := by simp
  deriving DecidableEq

namespace KeyMap

variable {α : Type}

instance : EmptyCollection (KeyMap α) := ⟨{}⟩

def get? (m : KeyMap α) (key : String) : Option α := m.entries.lookup key

def keys (m : KeyMap α) : List String := m.entries.map (·.1)

def size (m : KeyMap α) : Nat := m.entries.length

def insertEntry (key : String) (a : α) : List (String × α) → List (String × α)
  | [] => [(key, a)]
  | e :: rest =>
    if key < e.1 then (key, a) :: e :: rest
    else if key = e.1 then (key, a) :: rest
    else e :: insertEntry key a rest

theorem mem_insertEntry {key : String} {a : α} {entries : List (String × α)} {e : String × α}
    (h : e ∈ insertEntry key a entries) : e = (key, a) ∨ e ∈ entries := by
  induction entries with
  | nil => simpa [insertEntry] using h
  | cons f rest ih => grind [insertEntry]

theorem ordered_insertEntry {key : String} {a : α} {entries : List (String × α)}
    (h : entries.Pairwise fun a b ↦ a.1 < b.1) :
    (insertEntry key a entries).Pairwise fun a b ↦ a.1 < b.1 := by
  induction entries with
  | nil => simp [insertEntry]
  | cons f rest ih =>
    obtain ⟨hf, hr⟩ := List.pairwise_cons.1 h
    simp only [insertEntry]
    split
    · next hlt =>
      refine List.pairwise_cons.2 ⟨fun e he ↦ ?_, h⟩
      rcases List.mem_cons.1 he with rfl | he
      · exact hlt
      · exact String.lt_trans hlt (hf e he)
    · split
      · next heq => exact List.pairwise_cons.2 ⟨fun e he ↦ heq ▸ hf e he, hr⟩
      · next hlt hne =>
        refine List.pairwise_cons.2 ⟨fun e he ↦ ?_, ih hr⟩
        rcases mem_insertEntry he with rfl | he
        · exact (Std.lt_trichotomy f.1 key).resolve_right (by grind)
        · exact hf e he

def insert (m : KeyMap α) (key : String) (a : α) : KeyMap α :=
  ⟨insertEntry key a m.entries, ordered_insertEntry m.ordered⟩

/-- Inserts entries one after the other, so that the last one of a key counts. -/
def insertAll (m : KeyMap α) (entries : List (String × α)) : KeyMap α :=
  entries.foldl (fun m e ↦ m.insert e.1 e.2) m

def ofList (entries : List (String × α)) : KeyMap α := insertAll ∅ entries

/-- The entries of `n` over those of `m`. -/
def overlay (m n : KeyMap α) : KeyMap α := m.insertAll n.entries

theorem lookup_insertEntry (key k : String) (a : α) {entries : List (String × α)}
    (h : entries.Pairwise fun a b ↦ a.1 < b.1) :
    (insertEntry key a entries).lookup k = if k = key then some a else entries.lookup k := by
  induction entries with
  | nil => by_cases hk : k = key <;> grind [insertEntry]
  | cons f rest ih =>
    obtain ⟨name, b⟩ := f
    obtain ⟨-, hr⟩ := List.pairwise_cons.1 h
    have hlt : ∀ {x y : String}, x < y → y ≠ x := fun hxy he ↦ String.lt_irrefl _ (he ▸ hxy)
    by_cases hk : k = key <;> grind [insertEntry]

@[simp]
theorem get?_insert (m : KeyMap α) (key k : String) (a : α) :
    (m.insert key a).get? k = if k = key then some a else m.get? k :=
  lookup_insertEntry key k a m.ordered

@[simp]
theorem get?_empty (k : String) : (∅ : KeyMap α).get? k = none := rfl

end KeyMap

end ConfigKeeper
