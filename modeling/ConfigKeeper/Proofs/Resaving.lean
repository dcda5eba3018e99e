import ConfigKeeper.Proofs.Files
import ConfigKeeper.Proofs.Parents

namespace ConfigKeeper

namespace Disk

variable {d d' : Disk} {p : Path} {place : Place} {f : File} {data : Bytes}

theorem replace_replace (place : Place) (e e' : Entry) (entries : List (Place × Entry)) :
    replace place e' (replace place e entries) = replace place e' entries := by
  induction entries with
  | nil => simp [replace]
  | cons head rest ih =>
    obtain ⟨q, old⟩ := head
    by_cases hq : q = place <;> simp [replace, hq, ih]

theorem put_put (d : Disk) (place : Place) (e e' : Entry) :
    (d.put place e).put place e' = d.put place e' := by
  simp only [put, replace_replace]
  rfl

theorem replace_of_lookup {e : Entry} {entries : List (Place × Entry)}
    (h : entries.lookup place = some e) : replace place e entries = entries := by
  induction entries with
  | nil => cases h
  | cons head rest ih =>
    obtain ⟨q, old⟩ := head
    rw [List.lookup_cons] at h
    by_cases hq : place = q
    · simp only [hq, beq_self_eq_true, Option.some.injEq] at h
      simp [replace, hq, h]
    · have hne : (place == q) = false := beq_eq_false_iff_ne.2 hq
      simp only [hne] at h
      simp [replace, Ne.symm hq, ih h]

theorem put_of_lookup? {e : Entry} (hne : place ≠ []) (h : d.lookup? place = some e) :
    d.put place e = d := by
  rw [lookup?, if_neg hne] at h
  rw [put, replace_of_lookup h]

/-- The way to a file that can be found ends in its name. -/
theorem target_of_find (h : d.find p = .ok (place, .file f)) : ∃ name folder,
    place = name :: folder ∧ d.target p = .ok ⟨folder, .into name, false⟩ ∧
      ¬maxNameLength < name.length ∧ d.lookup? (name :: folder) = some (.file f) := by
  obtain ⟨hfault, name, folder, rfl, hwalk, hlast, hlookup⟩ := walk_of_find h
  have htarget : d.target p = .ok ⟨folder, .into name, p.endsInSlash⟩ := by
    simp only [target, hfault, hwalk, hlast, Option.getD_some]
  simp only [find, htarget, hlookup] at h
  split at h
  · cases h
  · next hlength =>
    split at h
    · cases h
    · next hslash =>
      rw [Bool.not_eq_true] at hslash
      rw [hslash] at htarget
      exact ⟨name, folder, rfl, htarget, hlength, hlookup⟩

theorem find_put (h : d.find p = .ok (place, .file f)) (g : File) :
    (d.put place (.file g)).find p = .ok (place, .file g) := by
  obtain ⟨name, folder, rfl, htarget, hlength, hlookup⟩ := target_of_find h
  have hvacant : d.Vacant (name :: folder) := by simp [Vacant, hlookup]
  exact hvacant.find_put htarget hlength g

theorem openFile_of_find (h : d.find p = .ok (place, .file f)) :
    d.openFile p = if f.locked then .error .accessDenied else .ok (place, f) := by
  obtain ⟨name, folder, rfl, htarget, hlength, hlookup⟩ := target_of_find h
  simp only [openFile, htarget, hlookup, if_neg hlength, Bool.false_eq_true, if_false]

/-- A file after it was written anew, and what came of it. -/
def File.overwritten (f : File) (limit? : Option Limit) (data : Bytes) : File × Except Fault Unit :=
  if f.locked then (f, .error .accessDenied)
  else ({ f with data := (Limit.pass limit? data).1 }, (Limit.pass limit? data).2)

theorem File.overwritten_overwritten (f : File) (limit? : Option Limit) (data data' : Bytes) :
    (f.overwritten limit? data).1.overwritten limit? data' = f.overwritten limit? data' := by
  cases hf : f.locked <;> simp [overwritten, hf]

theorem File.overwritten_none_snd (f : File) (data data' : Bytes) :
    (f.overwritten none data).2 = (f.overwritten none data').2 := by
  cases hf : f.locked <;> simp [overwritten, hf, Limit.pass]

theorem overwrite_file (h : d.find p = .ok (place, .file f)) (data : Bytes) :
    d.overwrite p data = (d.put place (.file (f.overwritten d.limit? data).1),
      (f.overwritten d.limit? data).2) := by
  have hopen := openFile_of_find h
  obtain ⟨name, folder, rfl, -, -, hlookup⟩ := target_of_find h
  cases hf : f.locked with
  | false =>
    rw [hf, if_neg Bool.false_ne_true] at hopen
    rw [overwrite_of_openFile hopen, File.overwritten, hf]
    rfl
  | true =>
    rw [hf, if_pos rfl] at hopen
    rw [overwrite_of_error hopen, File.overwritten, if_pos hf,
      put_of_lookup? (List.cons_ne_nil _ _) hlookup]

/-- Writing a file that is there gives it new octets and leaves all else as it is. -/
theorem write_of_find (h : d.write p data = .ok d') (hfind : d.find p = .ok (place, .file f)) :
    place ≠ [] ∧ d' = d.put place (.file { f with data }) := by
  obtain ⟨q, g, hopen, -, rfl⟩ := write_cases h
  rw [openFile_of_find hfind] at hopen
  split at hopen
  · cases hopen
  · cases hopen
    obtain ⟨name, folder, rfl, -⟩ := target_of_find hfind
    exact ⟨List.cons_ne_nil name folder, rfl⟩

theorem locked_of_openFile {fault : Fault} (h : d.openFile p = .error fault)
    (hfind : d.find p = .ok (place, .file f)) : f.locked = true := by
  rw [openFile_of_find hfind] at h
  split at h
  · next hlocked => exact hlocked
  · cases h

end Disk

namespace Store

variable {s : Store} {d d' : Disk} {place : Place} {f : Disk.File} {events : List Log.Event}

/-- What comes of writing a store to a file that is there. -/
theorem write_on_file {content : String} (htext : s.toText = .ok content)
    (hfind : d.find s.path = .ok (place, .file f)) : s.write d =
      let written := f.overwritten d.limit? (Bytes.ofString content)
      { result := written.2.mapError fun fault ↦
          .persistence "Failed to write updated configuration"
            (.io "Failed to write configuration file" fault)
        disk := d.put place (.file written.1)
        events := if written.2.isOk then [.wrote s.path] else [] } := by
  have hfolder := ensureFolder_of_find hfind
  have hwrite := Disk.overwrite_file hfind (Bytes.ofString content)
  simp only [write, save_of_overwrite htext hfolder hwrite]
  cases (f.overwritten d.limit? (Bytes.ofString content)).2 <;> rfl

/-- What a store finds at its path once it was written there. -/
theorem find_of_write (h : s.write d = ⟨.ok (), d', events⟩) : ∃ content place f,
    s.toText = .ok content ∧ d'.find s.path = .ok (place, .file f) ∧
      d'.lookup? place = some (.file f) ∧ place ≠ [] ∧
      f.overwritten d'.limit? (Bytes.ofString content) = (f, .ok ()) := by
  have hsaves := save_saves s d
  rw [save_of_write_ok h] at hsaves
  cases hsaves with
  | @done content between _ htext hensure hwrite =>
    obtain ⟨place, f, hopen, hpass, rfl⟩ := Disk.write_cases hwrite
    have hne := (Disk.vacant_of_openFile hopen).ne_nil
    obtain ⟨-, -, -, -, -, hlocked, -⟩ := Disk.openFile_cases hopen
    refine ⟨content, place, _, htext, Disk.find_put_of_openFile hopen _, ?_, hne, ?_⟩
    · rw [Disk.lookup?_put hne, if_pos rfl]
    · rw [Disk.File.overwritten, Disk.limit?_put, hpass, hlocked]
      rfl

theorem write_again (h : s.write d = ⟨.ok (), d', events⟩) :
    s.write d' = ⟨.ok (), d', [.wrote s.path]⟩ := by
  obtain ⟨content, place, f, htext, hfind, hlookup, hne, hsame⟩ := find_of_write h
  simp only [write_on_file htext hfind, hsame, Disk.put_of_lookup? hne hlookup]
  rfl

end Store

end ConfigKeeper
