import ConfigKeeper.Proofs.Rejections

namespace ConfigKeeper

namespace Log

/-- The text broken at its line feeds. -/
structure Broken (text : String) (lines : List String) : Prop where
  joined : "\n".intercalate lines = text
  line : ∀ l ∈ lines, '\n' ∉ l.toList

theorem broken_textLines (s : String) : Broken s (textLines s) where
  joined := by
    have hid : String.toList ∘ String.ofList = id := funext fun l ↦ String.toList_ofList
    rw [← String.toList_inj, String.toList_intercalate, textLines, List.map_map, hid, List.map_id]
    exact List.intercalate_splitOn '\n'
  line l hl := by
    obtain ⟨part, hpart, rfl⟩ := List.mem_map.1 hl
    rw [String.toList_ofList]
    exact fun hfeed ↦ (mem_of_mem_splitOn hpart hfeed).2 rfl

/-- A record of a message in a format. Only an object holds a message of several lines. -/
inductive Carries (severity : Severity) (message : String) : Format → List Line → Prop
  | object : Carries severity message .json [.record .json severity message]
  | lines {shape : Format} {first : String} {rest : List String} : shape ≠ .json →
      Broken message (first :: rest) →
      Carries severity message shape (.record shape severity first :: rest.map .plain)

theorem Output.carries_lines (o : Output) (e : Event) (h : o.filter.admits e.severity = true) :
    Carries e.severity e.message o.shape (o.lines e) := by
  have hbroken := broken_textLines e.message
  obtain ⟨first, rest, hlines⟩ : ∃ first rest, textLines e.message = first :: rest := by
    refine List.exists_cons_of_ne_nil fun hnil ↦ ?_
    exact List.splitOn_ne_nil '\n' e.message.toList (List.map_eq_nil_iff.1 hnil)
  rw [hlines] at hbroken
  rw [lines, if_pos h]
  cases hshape : o.shape with
  | json => exact .object
  | text | runtime =>
    simp only [hlines]
    exact .lines (by decide) hbroken

theorem Severity.admits_error (filter : Severity) : filter.admits .error = true := by
  cases filter <;> rfl

theorem Logger.lines_failed {l : Logger} {o : Output} (h : l.output = some o) (e : Error) :
    Carries .error ("Error: " ++ e.message) o.shape (l.lines [.failed e]) := by
  have hcarries := o.carries_lines (.failed e) o.filter.admits_error
  rw [lines, h]
  simp only [List.flatMap_cons, List.flatMap_nil, List.append_nil]
  exact hcarries

end Log

open Log (Logger)

namespace Run

variable {i : Invocation} {env : Environment} {logger l : Logger} {d d' : Disk} {path : Path}
  {s : Store} {e : Error}

/-- Standard output has failed while a file was printed, and so only a part of it is out. -/
structure Curtailed (i : Invocation) (env : Environment) (e : Error) (ran : Run) : Prop where
  command : i.command = .print
  stops : ∃ path data fault, i.config.or env.settingsFile? = some path ∧
    ran.disk.read path = .ok data ∧ e = .io "Failed to write configuration to stdout" fault ∧
    Limit.Stops env.output (printed data) ran.output fault

theorem output_of_command_error {c : Command} {palette : Display.Palette} {limit? : Option Limit}
    (h : (command c palette limit? s logger d).result = .error e) :
    (command c palette limit? s logger d).output = [] ∨
      c = .print ∧ ∃ data fault, (command c palette limit? s logger d).disk.read s.path = .ok data ∧
        e = .io "Failed to write configuration to stdout" fault ∧
        Limit.Stops limit? (printed data) (command c palette limit? s logger d).output fault := by
  have hran := command_ran palette limit? s logger d c
  generalize command c palette limit? s logger d = ran at h hran ⊢
  cases hran with
  | printed _ | info | viewed | changed _ => cases h
  | unreadable _ | failed _ => exact Or.inl rfl
  | stopped hcontent hstops =>
    cases h
    exact Or.inr ⟨rfl, _, _, Store.read_of_content hcontent, rfl, hstops⟩

theorem print_of_one {data : Bytes} {fault : Disk.Fault} (hcontent : s.content d = .ok data)
    (palette : Display.Palette) (logger : Logger) :
    (command .print palette (some ⟨1, fault⟩) s logger d).result =
      .error (.io "Failed to write configuration to stdout" fault) ∧
    (command .print palette (some ⟨1, fault⟩) s logger d).output = [10] := by
  simp [command, hcontent, Limit.pass, printed]

/-- The store in memory after a command. -/
def stored (c : Command) (s : Store) (logger : Logger) (d : Disk) : Store :=
  match c with
  | .set arguments => (s.set logger d arguments).store
  | _ => s

theorem governs_command (hs : s.Governs logger l) (c : Command) (palette : Display.Palette)
    (limit? : Option Limit) (d : Disk) :
    (stored c s l d).Governs logger (command c palette limit? s l d).logger := by
  have hran := command_ran palette limit? s l d c
  generalize command c palette limit? s l d = ran at hran ⊢
  cases hran with
  | printed _ | stopped _ _ | unreadable _ | info | viewed => exact hs
  | @changed arguments _ _ | @failed arguments _ _ =>
    exact (Store.set_makes s l d arguments).governs hs

/-- The logger that an invocation ends with: the one it began with if no store was opened, and else
one that the store governs as the command has left it. -/
inductive Heeds (i : Invocation) (env : Environment) (logger : Logger) (d : Disk) : Logger → Prop
  | unopened : (∀ path s d' events, i.config.or env.settingsFile? = some path →
      Store.loadOrCreate env d path ≠ ⟨.ok s, d', events⟩) → Heeds i env logger d logger
  | opened {path : Path} {s : Store} {d' : Disk} {events : List Log.Event} {l : Logger} :
      i.config.or env.settingsFile? = some path →
      Store.loadOrCreate env d path = ⟨.ok s, d', events⟩ →
      (stored i.command s (synchronized s logger) d').Governs logger l → Heeds i env logger d l

theorem Heeds.output (h : Heeds i env .start d l) :
    l.output = some ⟨l.level.filter, l.format⟩ := by
  have hforce : l.InForce ∧ l.isAttached = true := by
    cases h with
    | unopened _ => exact ⟨fun o ho ↦ (Option.some.inj ho).symm, rfl⟩
    | opened _ _ hgoverns => exact ⟨hgoverns.inForce, hgoverns.attached⟩
  obtain ⟨o, ho⟩ := Option.isSome_iff_exists.1 hforce.2
  rw [ho, hforce.1 o ho]

theorem Heeds.governs {events : List Log.Event} (h : Heeds i env logger d l)
    (hpath : i.config.or env.settingsFile? = some path)
    (hload : Store.loadOrCreate env d path = ⟨.ok s, d', events⟩) :
    (stored i.command s (synchronized s logger) d').Governs logger l := by
  cases h with
  | unopened hnone => exact absurd hload (hnone path s d' events hpath)
  | opened hsome hopen hgoverns =>
    cases hpath.symm.trans hsome
    cases hload.symm.trans hopen
    exact hgoverns

theorem heeds_of_error (h : (invocation i env logger d).result = .error e) :
    Heeds i env logger d (invocation i env logger d).logger := by
  have hinvokes := invocation_invokes i env logger d
  generalize invocation i env logger d = ran at h hinvokes ⊢
  cases hinvokes with
  | info hinfo => cases h
  | homeless hinfo hpath =>
    refine .unopened fun path s d' events hsome ↦ ?_
    rw [hpath] at hsome
    cases hsome
  | unopened hinfo hpath hload =>
    refine .unopened fun path s d' events hsome hok ↦ ?_
    cases hpath.symm.trans hsome
    cases hload.symm.trans hok
  | opened hinfo hpath hload =>
    exact .opened hpath hload (governs_command (Store.governs_synchronized _ logger) _ _ _ _)

theorem output_of_error (h : (invocation i env logger d).result = .error e) :
    (invocation i env logger d).output = [] ∨
      Curtailed i env e (invocation i env logger d) := by
  have hinvokes := invocation_invokes i env logger d
  generalize invocation i env logger d = ran at h hinvokes ⊢
  cases hinvokes with
  | info hinfo => cases h
  | homeless hinfo hpath => exact Or.inl rfl
  | unopened hinfo hpath hload => exact Or.inl rfl
  | @opened path s d' events hinfo hpath hload =>
    rw [result_running] at h
    refine (output_of_command_error h).imp_right ?_
    rintro ⟨hprint, data, fault, hread, he, hstops⟩
    rw [Store.path_of_loadOrCreate hload] at hread
    exact ⟨hprint, path, data, fault, hpath, hread, he, hstops⟩

end Run

namespace Execution

open Log (Broken Carries)

variable {arguments : List Bytes} {env : Environment} {d : Disk} {i : Invocation} {e : Error}

theorem run_of_error (hparse : CommandLine.parse env arguments = .ok i)
    (h : (Run.invocation i env .start d).result = .error e) :
    run arguments env d =
      ⟨1, (Run.invocation i env .start d).output, (Run.invocation i env .start d).lines ++
        failureLines (Run.invocation i env .start d).logger e,
        (Run.invocation i env .start d).disk⟩ := by
  simp only [run, hparse, h]

theorem output_run_of_error (hparse : CommandLine.parse env arguments = .ok i)
    (h : (Run.invocation i env .start d).result = .error e) :
    (run arguments env d).output = (Run.invocation i env .start d).output := by
  rw [run_of_error hparse h]

theorem last_run_of_error (hparse : CommandLine.parse env arguments = .ok i)
    (h : (Run.invocation i env .start d).result = .error e) :
    (run arguments env d).lines.getLast? =
      (Log.Line.ofText ("Error: " ++ e.message)).getLast? := by
  have hne : Log.Line.ofText ("Error: " ++ e.message) ≠ [] := by
    intro hnil
    exact List.splitOn_ne_nil '\n' _ (List.map_eq_nil_iff.1 (List.map_eq_nil_iff.1 hnil))
  rw [run_of_error hparse h, failureLines, ← List.append_assoc]
  exact List.getLast?_append_of_ne_nil _ hne

/-- A failure of an invocation is told twice at the end, in the format in force and in a plain text,
with the exit code 1. Nothing is printed then, unless standard output itself has failed while the
file was printed. A command line at fault is answered without regard to the disk, which stays as it
is. -/
theorem failure_is_reported (arguments : List Bytes) (env : Environment) (d : Disk) :
    (∀ i e, CommandLine.parse env arguments = .ok i →
      (Run.invocation i env .start d).result = .error e →
      let ran := Run.invocation i env .start d
      Run.Heeds i env .start d ran.logger ∧
      ran.logger.output = some ⟨ran.logger.level.filter, ran.logger.format⟩ ∧
      (ran.output = [] ∨ Run.Curtailed i env e ran) ∧
      ∃ record last, Carries .error ("Error: " ++ e.message) ran.logger.format record ∧
        Broken ("Error: " ++ e.message) last ∧
        run arguments env d = ⟨1, ran.output, ran.lines ++ (record ++ last.map .plain), ran.disk⟩) ∧
    ∀ fault, CommandLine.parse env arguments = .error fault → ∀ d',
      run arguments env d' = ⟨fault.exitCode, (run arguments env d).output, [], d'⟩ := by
  refine ⟨fun i e hparse h ↦ ?_, fun fault hparse d' ↦ ?_⟩
  · have hheeds := Run.heeds_of_error h
    have hrecord := Logger.lines_failed hheeds.output e
    have hlast := Log.broken_textLines ("Error: " ++ e.message)
    exact ⟨hheeds, hheeds.output, Run.output_of_error h, _, _, hrecord, hlast,
      run_of_error hparse h⟩
  · simp only [run, hparse]

section

open Session

def toJson : List Bytes :=
  ["--config", "c", "config", "set", "logging.format", "json"].map Bytes.ofString

def jsonWanted : Invocation := ⟨some ⟨[99]⟩, false, .set ["logging.format", "json"]⟩

/-- The file says that the format is the plain one, and the new format that could not be written is
the one in force. -/
theorem reported_toJson : CommandLine.parse {} toJson = .ok jsonWanted ∧
    ∃ e, (Run.invocation jsonWanted {} .start (alone freshText true)).result = .error e ∧
      ∃ before last d', Broken ("Error: " ++ e.message) last ∧
        run toJson {} (alone freshText true) =
          ⟨1, [], before ++ ([.record .json .error ("Error: " ++ e.message)] ++ last.map .plain),
            d'⟩ := by
  have hparse : CommandLine.parse {} toJson = .ok jsonWanted := by decide
  have hpath : jsonWanted.config.or (Environment.settingsFile? {}) = some ⟨[99]⟩ := rfl
  have hcheck : Store.checkArguments ["logging.format", "json"] = .ok (.logFormat, "json") := by
    decide
  have hne : (Store.fresh.get? Key.logFormat.name).map Value.text ≠ some "json" := by decide
  obtain ⟨e, he⟩ : ∃ e, (Run.invocation jsonWanted {} .start (alone freshText true)).result =
      .error e := by
    rw [Run.invocation_of_ok (by decide) hpath (loadOrCreate_alone {} true), Run.result_running,
      jsonWanted, Run.result_command_set, result_set_alone plain_fresh.coherent rfl hcheck hne]
    exact ⟨_, rfl⟩
  have hreported := (failure_is_reported toJson {} (alone freshText true)).1 _ e hparse he
  generalize Run.invocation jsonWanted {} .start (alone freshText true) = ran at he hreported ⊢
  obtain ⟨hheeds, -, houtput, record, last, hrecord, hlast, hrun⟩ := hreported
  have hformat : ran.logger.format = .json := by
    have hgoverns := hheeds.governs hpath (loadOrCreate_alone {} true)
    have hstored := Store.store_set_of_ne hcheck hne (Run.synchronized .fresh .start)
      (alone freshText true)
    rw [hgoverns.inStep.2, jsonWanted, Run.stored, hstored]
    decide
  have hsilent : ran.output = [] :=
    houtput.resolve_right fun hcut ↦ absurd hcut.command (by decide)
  rw [hformat] at hrecord
  rw [hsilent] at hrun
  cases hrecord with
  | object => exact ⟨hparse, e, he, _, last, _, hlast, hrun⟩
  | lines hjson => exact absurd rfl hjson

def toPrint : List Bytes := ["--config", "c", "config", "print"].map Bytes.ofString

def printing : Invocation := ⟨some ⟨[99]⟩, false, .print⟩

/-- The reader of the output goes away after its first octet. -/
def piped : Environment := { output := some ⟨1, .brokenPipe⟩ }

theorem invocation_printing :
    (Run.invocation printing piped .start (alone freshText false)).result =
      .error (.io "Failed to write configuration to stdout" .brokenPipe) ∧
    (Run.invocation printing piped .start (alone freshText false)).output = [10] := by
  have hpath : printing.config.or piped.settingsFile? = some ⟨[99]⟩ := rfl
  have hcontent : Store.fresh.content (alone freshText false) = .ok (Bytes.ofString freshText) := by
    rw [Store.content, plain_fresh.path, read_alone]
  rw [Run.invocation_of_ok (by decide) hpath (loadOrCreate_alone piped false), Run.result_running,
    Run.output_running]
  exact Run.print_of_one hcontent _ _

def toBreak : List Bytes :=
  ["--config", "c", "config", "set", "a\nb", "1"].map Bytes.ofString

def breaking : Invocation := ⟨some ⟨[99]⟩, false, .set ["a\nb", "1"]⟩

/-- What stands on standard output and in the last line after a failure: an octet of the file, where
the output could not take more, and half a text, where the text holds a line feed. -/
theorem last_words :
    (CommandLine.parse piped toPrint = .ok printing ∧
      (∃ e, (Run.invocation printing piped .start (alone freshText false)).result = .error e) ∧
      (run toPrint piped (alone freshText false)).output = [10]) ∧
    CommandLine.parse {} toBreak = .ok breaking ∧
      (Run.invocation breaking {} .start (alone freshText false)).result =
        .error (.arguments (.unknownKey "a\nb")) ∧
      (run toBreak {} (alone freshText false)).lines.getLast? = some (.plain "b") := by
  have hprint : CommandLine.parse piped toPrint = .ok printing := by decide
  have hbreak : CommandLine.parse {} toBreak = .ok breaking := by decide
  obtain ⟨hresult, houtput⟩ := invocation_printing
  have hpath : breaking.config.or (Environment.settingsFile? {}) = some ⟨[99]⟩ := rfl
  have hcheck : Store.checkArguments ["a\nb", "1"] = .error (.unknownKey "a\nb") := by decide
  have hrefused :=
    (Run.invocation_of_refused rfl hcheck hpath (loadOrCreate_alone {} false) .start).1
  have hcut := (output_run_of_error hprint hresult).trans houtput
  have hlast := last_run_of_error hbreak hrefused
  exact ⟨⟨hprint, ⟨_, hresult⟩, hcut⟩, hbreak, hrefused, hlast.trans (by decide)⟩

end

end Execution

end ConfigKeeper
