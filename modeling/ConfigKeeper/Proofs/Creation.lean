import ConfigKeeper.Proofs.Resaving
import ConfigKeeper.Proofs.Sessions
import ConfigKeeper.Proofs.Trails

namespace ConfigKeeper

open Disk (Grown)

namespace Disk

/-- A file was written at the end of a path that led to nothing. It need not be a new one, as the
path may lead up again out of a directory that was missing. -/
structure Created (d d' : Disk) (p : Path) (place : Place) (data : Bytes) : Prop
    extends d.Written d' p place data where
  vacant : d.Rooted → .up ∉ p.steps → d.lookup? place = none

/-- No file has come to be: the files are those of before, and if the path leads to one of them
after all then to one that cannot be written. -/
structure Barren (d d' : Disk) (p : Path) : Prop where
  files : ∀ place f, d'.lookup? place = some (.file f) ↔ d.lookup? place = some (.file f)
  locked : ∀ place f, d'.find p = .ok (place, .file f) → f.locked = true
  missing : d.Rooted → .up ∉ p.steps → ∀ place f, d'.find p ≠ .ok (place, .file f)

variable {d d' : Disk} {p : Path} {place : Place} {data : Bytes}

theorem not_find_of_has (hnone : d.has p = false) (found : Place × Entry) :
    d.find p ≠ .ok found := by
  intro hfind
  rw [has, hfind] at hnone
  cases hnone

theorem Written.created (h : d.Written d' p place data) (hnone : d.has p = false) :
    d.Created d' p place data where
  toWritten := h
  vacant hd hup := by
    obtain ⟨f, hfind, -⟩ := h.file
    refine h.before.resolve_right fun ⟨old, hold⟩ ↦ ?_
    exact not_find_of_has hnone _ (hd.find hup h.here hfind hold)

theorem Grown.barren (h : Grown d d') (hnone : d.has p = false)
    (hlocked : ∀ place f, d'.find p = .ok (place, .file f) → f.locked = true) :
    d.Barren d' p where
  files _ _ := ⟨h.file, h.lookup?⟩
  locked := hlocked
  missing hd hup place f hfind := by
    obtain ⟨-, name, folder, rfl, -, -, hlookup⟩ := walk_of_find hfind
    exact not_find_of_has hnone _ (hd.find hup h.here hfind (h.file hlookup))

end Disk

namespace Store

variable {s : Store} {env : Environment} {d d' : Disk} {path : Path} {events : List Log.Event}

theorem created_of_loadOrCreate (hnone : d.has path = false)
    (h : loadOrCreate env d path = ⟨.ok s, d', events⟩) : s = initialAt env d path ∧
      ∃ content place, s.toText = .ok content ∧
        d.Created d' path place (Bytes.ofString content) := by
  obtain ⟨rfl, events', hsave⟩ := save_of_loadOrCreate hnone h
  obtain ⟨content, place, htext, hwritten⟩ := written_of_save hsave
  exact ⟨rfl, content, place, htext, hwritten.created hnone⟩

theorem load_of_created (hnone : d.has path = false)
    (h : loadOrCreate env d path = ⟨.ok s, d', events⟩) (hback : s.ReadsBack) {d'' : Disk}
    (hread : d''.read path = d'.read path) (env' : Environment) :
    (load env' d'' path).result = .ok s ∧
      loadOrCreate env' d'' path = ⟨.ok s, d'', (load env' d'' path).events⟩ := by
  obtain ⟨hs, hsaved⟩ := loadOrCreate_missing hnone h
  -- All keys of the defaults are in the file, so that those of the later environment do not show.
  have hplain : s.Plain path := hs ▸ plain_initialAt env d path
  have hsame : d''.readText path = d'.readText path := by rw [Disk.readText, hread, Disk.readText]
  have hsaved' : s.Saved d'' := hsaved.of_readText (hplain.path ▸ hsame)
  have hload := hplain.load hback hsaved' env'
  refine ⟨hload, ?_⟩
  rw [loadOrCreate_present env' (hplain.path ▸ hsaved'.has), hload]

theorem barren_or_created_of_save {e : Error} (hnone : d.has s.path = false)
    (h : s.save d = ⟨.error e, d', events⟩) :
    d.Barren d' s.path ∨ ∃ content place part fault,
      e = .io "Failed to write configuration file" fault ∧ s.toText = .ok content ∧
      Limit.Stops d.limit? (Bytes.ofString content) part fault ∧
      d.Created d' s.path place part := by
  have hgrown := grown_ensureFolder s d
  have hsaves := save_saves s d
  rw [h] at hsaves
  cases hsaves with
  | clash _ =>
    refine Or.inl ((Grown.refl d).barren hnone fun place f hfind ↦ ?_)
    exact absurd hfind (Disk.not_find_of_has hnone _)
  | noFolder hensure =>
    rw [hensure] at hgrown
    refine Or.inl (hgrown.barren hnone fun place f hfind ↦ ?_)
    exact absurd hfind (not_find_of_ensureFolder hensure)
  | noFile hensure hopen =>
    rw [hensure] at hgrown
    exact Or.inl (hgrown.barren hnone fun place f ↦ Disk.locked_of_openFile hopen)
  | @stopped content between place f part fault htext hensure hopen hstops =>
    rw [hensure] at hgrown
    have hwritten := written_of_openFile hensure hopen part
    exact Or.inr ⟨content, place, part, fault, rfl, htext, hgrown.limit ▸ hstops,
      hwritten.created hnone⟩

/-- Where nothing is at the path, a success leaves the text of the store in the file, which says the
same in every later environment for as long as the path leads to these octets. A failure brings no
file to be, unless the file was opened and only a part of its text got through. -/
theorem loadOrCreate_of_missing (hnone : d.has path = false) :
    (∀ s d' events, loadOrCreate env d path = ⟨.ok s, d', events⟩ →
      (∃ content, s.toText = .ok content ∧ d'.read path = .ok (Bytes.ofString content)) ∧
      (s.ReadsBack → ∀ env' d'', d''.read path = d'.read path →
        (load env' d'' path).result = .ok s ∧
          loadOrCreate env' d'' path = ⟨.ok s, d'', (load env' d'' path).events⟩)) ∧
    ∀ e d' events, loadOrCreate env d path = ⟨.error e, d', events⟩ →
      d.Barren d' path ∨ ∃ content place part fault,
        e = .persistence "Failed to write default configuration"
          (.io "Failed to write configuration file" fault) ∧
        (initialAt env d path).toText = .ok content ∧
        Limit.Stops d.limit? (Bytes.ofString content) part fault ∧
        d.Created d' path place part := by
  refine ⟨fun s d' events h ↦ ⟨?_, fun hback env' d'' hread ↦ ?_⟩, fun e d' events h ↦ ?_⟩
  · obtain ⟨-, content, place, htext, hcreated⟩ := created_of_loadOrCreate hnone h
    exact ⟨content, htext, hcreated.read⟩
  · exact load_of_created hnone h hback hread env'
  · obtain ⟨cause, events', rfl, hsave⟩ := save_of_loadOrCreate_error hnone h
    refine (barren_or_created_of_save hnone hsave).imp_right ?_
    rintro ⟨content, place, part, fault, rfl, htext, hstops, hcreated⟩
    exact ⟨content, place, part, fault, rfl, htext, hstops, hcreated⟩

section

open Session

def detour : Path := ⟨[120, 47, 46, 46, 47, 99]⟩

theorem ensureFolder_detour {s : Store} (hpath : s.path = detour) {d d' : Disk}
    (h : d.ensureDirectories ⟨[120, 47, 46, 46]⟩ = (d', .ok ())) :
    s.ensureFolder d = (d', .ok ()) := by
  have hparent : detour.parent? = some ⟨[120, 47, 46, 46]⟩ := by decide
  have hne : (⟨[120, 47, 46, 46]⟩ : Path).isEmpty = false := by decide
  simp only [ensureFolder, hpath, hparent, hne, h, Bool.false_eq_true, if_false]

def sealed : Disk := ⟨[([[99]], .file { data := [], locked := true })], []⟩

/-- The missing directory `x` is made, and then the path leads to the file that is locked. -/
theorem loadOrCreate_sealed : ∃ e events, loadOrCreate {} sealed detour =
    ⟨.error e, sealed.put [[120]] .directory, events⟩ := by
  have hnone : sealed.has detour = false := by decide
  obtain ⟨content, hcontent⟩ := toText_of_apart (coherent_initialAt {} sealed detour).apart
  have hfolder : (initialAt {} sealed detour).ensureFolder sealed =
      (sealed.put [[120]] .directory, .ok ()) := ensureFolder_detour rfl (by decide)
  have hopen : (sealed.put [[120]] .directory).openFile detour = .error .accessDenied := by decide
  have hsave := save_of_overwrite hcontent hfolder (Disk.overwrite_of_error hopen _)
  rw [loadOrCreate_new {} hnone, hsave]
  exact ⟨_, _, rfl⟩

/-- The file is created, and then there is no room for a single octet of its text. -/
theorem loadOrCreate_full : ∃ e events, loadOrCreate {} (full ⟨[], []⟩) ⟨[99]⟩ =
    ⟨.error e, (full ⟨[], []⟩).put [[99]] (.file { data := [] }), events⟩ := by
  have hnone : (full ⟨[], []⟩).has ⟨[99]⟩ = false := by decide
  have hfresh : initialAt {} (full ⟨[], []⟩) ⟨[99]⟩ = fresh := by decide
  have hfolder : fresh.ensureFolder (full ⟨[], []⟩) = (full ⟨[], []⟩, .ok ()) := by decide
  have hopen : (full ⟨[], []⟩).openFile ⟨[99]⟩ = .ok ([[99]], { data := [] }) := by decide
  have hroom : (full ⟨[], []⟩).limit? = some ⟨0, .noSpace⟩ := rfl
  have hpass := Limit.pass_zero (ofString_toText_ne_nil toText_fresh) .noSpace
  have hsave := save_of_overwrite toText_fresh hfolder (Disk.overwrite_of_openFile hopen _)
  rw [hroom, hpass] at hsave
  rw [loadOrCreate_new {} hnone, hfresh, hsave]
  exact ⟨_, _, rfl⟩

def tools : Disk :=
  ⟨[([[120]], .directory),
    ([Bytes.ofString "gcloud", [120]], .file { data := [], executable := true })], []⟩

theorem loadOrCreate_tools : ∃ s data events, loadOrCreate { programs := some [120] } tools detour =
    ⟨.ok s, tools.put [[99]] (.file { data }), events⟩ := by
  have hnone : tools.has detour = false := by decide
  obtain ⟨content, hcontent⟩ :=
    toText_of_apart (coherent_initialAt { programs := some [120] } tools detour).apart
  have hfolder : (initialAt { programs := some [120] } tools detour).ensureFolder tools =
      (tools, .ok ()) := ensureFolder_detour rfl (by decide)
  have hopen : tools.openFile detour = .ok ([[99]], { data := [] }) := by decide
  have hsave := save_of_overwrite hcontent hfolder (Disk.overwrite_of_openFile hopen _)
  rw [loadOrCreate_new _ hnone, hsave]
  exact ⟨_, _, _, rfl⟩

/-- After a failure the path can lead to a file that was there, and to one that was begun. And after
a success it leads nowhere if the programs are removed together with a directory on the way. -/
theorem first_use_not_stable :
    (sealed.has detour = false ∧ ∃ e d' events place f,
      loadOrCreate {} sealed detour = ⟨.error e, d', events⟩ ∧
      d'.find detour = .ok (place, .file f)) ∧
    (Disk.has (full ⟨[], []⟩) ⟨[99]⟩ = false ∧ ∃ e d' events place f,
      loadOrCreate {} (full ⟨[], []⟩) ⟨[99]⟩ = ⟨.error e, d', events⟩ ∧
      d'.find ⟨[99]⟩ = .ok (place, .file f)) ∧
    tools.has detour = false ∧ ∃ s d' events,
      loadOrCreate { programs := some [120] } tools detour = ⟨.ok s, d', events⟩ ∧
      (load {} (d'.erase [[120]]) detour).result ≠ .ok s := by
  obtain ⟨e, events, hsealed⟩ := loadOrCreate_sealed
  obtain ⟨e', events', hfull⟩ := loadOrCreate_full
  obtain ⟨s, data, events'', htools⟩ := loadOrCreate_tools
  have hlocked : (sealed.put [[120]] .directory).find detour =
      .ok ([[99]], .file { data := [], locked := true }) := by decide
  have hbegun : ((full ⟨[], []⟩).put [[99]] (.file { data := [] })).find ⟨[99]⟩ =
      .ok ([[99]], .file { data := [] }) := by decide
  have hgone : ((tools.put [[99]] (.file { data })).erase [[120]]).find detour =
      .error .notFound := rfl
  refine ⟨⟨by decide, e, _, events, _, _, hsealed, hlocked⟩,
    ⟨by decide, e', _, events', _, _, hfull, hbegun⟩, by decide, s, _, events'', htools, ?_⟩
  simp only [load, Disk.readText, Disk.read, hgone]
  intro h
  cases h

/-- The search for programs finds one that it did not find when the file was created. -/
def equipped : Environment × Disk :=
  ⟨{ programs := some [98] }, ⟨(alone freshText false).entries ++
    [([[98]], .directory),
     ([Bytes.ofString "gcloud", [98]], .file { data := [], executable := true })], []⟩⟩

theorem loadOrCreate_equipped : Disk.has ⟨[], []⟩ ⟨[99]⟩ = false ∧ fresh.ReadsBack ∧
    initialAt equipped.1 equipped.2 ⟨[99]⟩ ≠ fresh ∧
    (loadOrCreate equipped.1 equipped.2 ⟨[99]⟩).result = .ok fresh := by
  have hnone : Disk.has ⟨[], []⟩ ⟨[99]⟩ = false := by decide
  have hread : equipped.2.read ⟨[99]⟩ = (alone freshText false).read ⟨[99]⟩ := rfl
  have hother : initialAt equipped.1 equipped.2 ⟨[99]⟩ ≠ fresh := by
    intro h
    have hprogram : (initialAt equipped.1 equipped.2 ⟨[99]⟩).get? Key.gcloud.name =
        some (.string "b/gcloud") := by decide
    rw [h] at hprogram
    exact absurd hprogram (by decide)
  have hcreated := (loadOrCreate_of_missing hnone).1 _ _ _ loadOrCreate_fresh
  have h := hcreated.2 readsBack_fresh.1 equipped.1 equipped.2 hread
  refine ⟨hnone, readsBack_fresh.1, hother, ?_⟩
  rw [h.2]

end

end Store

end ConfigKeeper
