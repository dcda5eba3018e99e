import ConfigKeeper.Disk.Files

namespace ConfigKeeper.Disk

variable {d d' d'' : Disk} {place : Place}

/-- Every directory is still there, and relative paths start where they did. -/
structure KeepsFolders (d d' : Disk) : Prop where
  here : d'.here = d.here
  folder : ∀ place, d.lookup? place = some .directory → d'.lookup? place = some .directory

theorem KeepsFolders.enter {start q : Place} {s : Step} (h : KeepsFolders d d')
    (hs : d.enter start s = .ok q) : d'.enter start s = .ok q := by
  cases s with
  | stay => exact hs
  | up => exact hs
  | into name =>
    rw [Disk.enter] at hs ⊢
    split at hs
    · cases hs
    · next hlength =>
      rw [if_neg hlength]
      split at hs
      · cases hs
      · cases hs
      · next hdirectory =>
        rw [h.folder _ hdirectory]
        exact hs

theorem KeepsFolders.walk {start q : Place} {steps : List Step} (h : KeepsFolders d d')
    (hs : d.walk start steps = .ok q) : d'.walk start steps = .ok q := by
  induction steps generalizing start with
  | nil => exact hs
  | cons s rest ih =>
    rw [Disk.walk] at hs ⊢
    split at hs
    · next next hnext =>
      rw [h.enter hnext]
      exact ih hs
    · cases hs

theorem KeepsFolders.target {p : Path} {t : Target} (h : KeepsFolders d d')
    (ht : d.target p = .ok t) : d'.target p = .ok t := by
  rw [Disk.target] at ht ⊢
  split at ht
  · cases ht
  · split at ht
    · next folder hwalk =>
      rw [h.here, h.walk hwalk]
      exact ht
    · cases ht

/-- The place of a file or of nothing, where no way leads through. -/
def Vacant (d : Disk) (place : Place) : Prop := d.lookup? place ≠ some .directory

theorem Vacant.ne_nil (h : d.Vacant place) : place ≠ [] := by
  rintro rfl
  exact h rfl

theorem Vacant.keepsFolders_put (h : d.Vacant place) (e : Entry) :
    KeepsFolders d (d.put place e) where
  here := rfl
  folder q hq := by
    have hne : q ≠ place := by
      rintro rfl
      exact h hq
    rw [lookup?_put h.ne_nil, if_neg hne, hq]

/-- The only difference is that there are directories where nothing was. -/
structure Grown (d d' : Disk) : Prop where
  here : d'.here = d.here
  limit : d'.limit? = d.limit?
  entry : ∀ place, d'.lookup? place = d.lookup? place ∨
    d.lookup? place = none ∧ d'.lookup? place = some .directory

theorem Grown.refl (d : Disk) : Grown d d := ⟨rfl, rfl, fun _ ↦ Or.inl rfl⟩

theorem Grown.trans (h : Grown d d') (h' : Grown d' d'') : Grown d d'' where
  here := h'.here.trans h.here
  limit := h'.limit.trans h.limit
  entry place := by
    rcases h'.entry place with hsame | ⟨hnone, hdirectory⟩
    · rw [hsame]
      exact h.entry place
    · rcases h.entry place with hsame | ⟨-, hmade⟩
      · exact Or.inr ⟨hsame ▸ hnone, hdirectory⟩
      · rw [hmade] at hnone
        cases hnone

theorem Grown.lookup? (h : Grown d d') {e : Entry} (he : d.lookup? place = some e) :
    d'.lookup? place = some e := by
  rcases h.entry place with hsame | ⟨hnone, -⟩
  · rw [hsame, he]
  · rw [he] at hnone
    cases hnone

theorem Grown.file (h : Grown d d') {f : File} (hf : d'.lookup? place = some (.file f)) :
    d.lookup? place = some (.file f) := by
  rcases h.entry place with hsame | ⟨-, hdirectory⟩
  · rw [← hsame, hf]
  · rw [hf] at hdirectory
    cases hdirectory

theorem Grown.keepsFolders (h : Grown d d') : KeepsFolders d d' := ⟨h.here, fun _ hq ↦ h.lookup? hq⟩

/-- What can be found stays where it is. -/
theorem Grown.find (h : Grown d d') {p : Path} {found : Place × Entry}
    (hfind : d.find p = .ok found) : d'.find p = .ok found := by
  rw [Disk.find] at hfind ⊢
  split at hfind
  · cases hfind
  · next t ht =>
    rw [h.keepsFolders.target ht]
    cases hlast : t.last with
    | stay | up =>
      simp only [hlast] at hfind ⊢
      exact hfind
    | into name =>
      simp only [hlast] at hfind ⊢
      split at hfind
      · cases hfind
      · next hlength =>
        rw [if_neg hlength]
        cases he : d.lookup? (name :: t.folder) with
        | none =>
          rw [he] at hfind
          cases hfind
        | some e =>
          rw [h.lookup? he]
          rw [he] at hfind
          exact hfind

theorem read_of_find {p : Path} {f : File} (h : d.find p = .ok (place, .file f)) :
    d.read p = .ok f.data := by
  rw [read, h]

theorem find_of_read {p : Path} {data : Bytes} (h : d.read p = .ok data) :
    ∃ place f, d.find p = .ok (place, .file f) ∧ f.data = data := by
  rw [read] at h
  split at h
  · next place f hfind =>
    cases h
    exact ⟨place, f, hfind, rfl⟩
  · cases h
  · cases h

theorem Grown.read (h : Grown d d') {p : Path} {data : Bytes} (hread : d.read p = .ok data) :
    d'.read p = .ok data := by
  obtain ⟨place, f, hfind, rfl⟩ := find_of_read hread
  exact read_of_find (h.find hfind)

theorem grown_put (h : d.lookup? place = none) : Grown d (d.put place .directory) where
  here := rfl
  limit := rfl
  entry q := by
    have hne : place ≠ [] := by
      rintro rfl
      cases h
    rw [lookup?_put hne]
    by_cases hq : q = place
    · subst hq
      exact Or.inr ⟨h, if_pos rfl⟩
    · exact Or.inl (if_neg hq)

theorem grown_makeDirectory {p : Path} (h : d.makeDirectory p = .ok d') : Grown d d' := by
  rw [makeDirectory] at h
  split at h
  · cases h
  · split at h
    · cases h
    · cases h
    · split at h
      · cases h
      · split at h
        · next hnone =>
          cases h
          exact grown_put hnone
        · cases h

theorem grown_ensureDirectory {p : Path} (h : d.ensureDirectory p = .ok d') : Grown d d' := by
  rw [ensureDirectory] at h
  split at h
  · next hmake =>
    cases h
    exact grown_makeDirectory hmake
  · split at h
    · cases h
      exact .refl d
    · cases h

theorem grown_ensureChain (d : Disk) (folders : List Path) :
    Grown d (d.ensureChain folders).1 := by
  induction folders generalizing d with
  | nil => exact .refl d
  | cons p around ih =>
    rw [ensureChain]
    split
    · exact .refl d
    · split
      · next hmade => exact grown_ensureDirectory hmade
      · split
        · have hrest := ih d
          split
          · next hchain =>
            rw [hchain] at hrest
            exact hrest
          · next hchain =>
            rw [hchain] at hrest
            split
            · next hmade => exact hrest.trans (grown_ensureDirectory hmade)
            · exact hrest
        · exact .refl d

end ConfigKeeper.Disk
