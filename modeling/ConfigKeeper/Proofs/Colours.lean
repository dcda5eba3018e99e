import ConfigKeeper.Proofs.CommandLines
import ConfigKeeper.Proofs.Invocations
import ConfigKeeper.Proofs.KeyMaps
import ConfigKeeper.Proofs.Letters
import ConfigKeeper.Proofs.Tables
import ConfigKeeper.Proofs.Verdicts

namespace ConfigKeeper

open Log (Logger)

theorem Yaml.Allowed.escape_not_mem {text : List Char} (h : Yaml.Allowed text) :
    '\x1b' ∉ text := fun hmem ↦ absurd (h _ hmem) (by decide)

namespace Key

theorem escape_not_mem_name (key : Key) : '\x1b' ∉ key.name.toList := by cases key <;> decide

theorem escape_not_mem_description (key : Key) : '\x1b' ∉ key.description.toList := by
  -- As lists of characters the texts are short enough to be searched.
  cases key with
  | logLevel =>
    exact escape_not_mem_append (escape_not_mem_ofList (by decide))
      (escape_not_mem_ofList (by decide))
  | _ => exact escape_not_mem_ofList (by decide)

theorem escape_not_mem_coerce (kind : Kind) {text : String} (h : '\x1b' ∉ text.toList) :
    '\x1b' ∉ (kind.coerce text).text.toList := by
  cases kind with
  | text | logLevel | logFormat => exact h
  | flag =>
    rw [Kind.coerce]
    split
    · next b _ => cases b <;> decide
    · exact h

end Key

namespace Store

/-- No value of a setting has an escape character in its text. -/
def Clean (s : Store) : Prop := ∀ k v, s.get? k = some v → '\x1b' ∉ v.text.toList

variable {s : Store} {env : Environment} {logger : Logger} {d d' : Disk} {path : Path}
  {events : List Log.Event} {arguments : List String} {key : Key} {text : String}

theorem mem_of_checkArguments (h : checkArguments arguments = .ok (key, text)) :
    text ∈ arguments := by
  rw [(arguments_of_check h).1]
  exact List.mem_cons_of_mem _ List.mem_cons_self

theorem allowed_of_toText (h : s.toText = .ok text) : Yaml.Allowed text.toList := by
  rw [toText] at h
  split at h
  · cases h
    exact Yaml.Tree.allowed_render _
  · cases h

theorem escape_not_mem_content (h : loadOrCreate env d path = ⟨.ok s, d', events⟩) {data : Bytes}
    (hread : s.content d' = .ok data) : Bytes.escape ∉ data := by
  -- A value may stand in the file with an escape character, but the file has to spell it out.
  obtain ⟨text, hdata, hallowed⟩ : ∃ text, d'.readText s.path = .ok text ∧
      Yaml.Allowed text.toList := by
    cases hhas : d.has path with
    | true =>
      rw [loadOrCreate_present env hhas, Attempt.mk.injEq] at h
      obtain ⟨hload, rfl, -⟩ := h
      obtain ⟨text, htext, hof⟩ := load_eq_ok hload
      rw [ofText_path hof]
      rcases ofText_eq_ok hof with ⟨hnull, -⟩ | ⟨pairs, hpairs, -⟩
      · exact ⟨text, htext, Yaml.allowed_of_read hnull⟩
      · exact ⟨text, htext, Yaml.allowed_of_read hpairs⟩
    | false =>
      obtain ⟨text, htext, hsaved⟩ := (loadOrCreate_missing hhas h).2
      exact ⟨text, hsaved, allowed_of_toText htext⟩
  obtain ⟨octets, hoctets, htext⟩ := Disk.readText_eq_ok_iff.1 hdata
  rw [content, hoctets] at hread
  cases hread
  rw [Bytes.eq_ofString_of_toString? htext]
  exact Bytes.escape_not_mem_ofString hallowed.escape_not_mem

theorem Clean.escape_not_mem_text (h : s.Clean) (k default : String)
    (hdefault : '\x1b' ∉ default.toList) :
    '\x1b' ∉ (((s.get? k).map Value.text).getD default).toList := by
  cases hvalue : s.get? k with
  | none => exact hdefault
  | some v => exact h k v hvalue

theorem Clean.escape_not_mem_outcome (h : s.Clean)
    (harguments : ∀ a ∈ arguments, '\x1b' ∉ a.toList) {outcome : Outcome}
    (hset : (s.set logger d arguments).result = .ok outcome) : '\x1b' ∉ outcome.text.toList := by
  have hverdict := verdict_set s logger d arguments
  rw [Verdict, hset] at hverdict
  cases outcome with
  | unchanged name => exact escape_not_mem_ofList (by decide)
  | updated name old new =>
    obtain ⟨key, text, hcheck, rfl, rfl, rfl, -⟩ := hverdict
    have hnew := Key.escape_not_mem_coerce key.kind (harguments _ (mem_of_checkArguments hcheck))
    have hold := h.escape_not_mem_text key.name "" List.not_mem_nil
    have hbegin : '\x1b' ∉ ("Updated " ++ key.name ++ " from ").toList :=
      escape_not_mem_append (escape_not_mem_append (by decide) key.escape_not_mem_name) (by decide)
    have hend : '\x1b' ∉ (" to " ++ (key.kind.coerce text).text).toList :=
      escape_not_mem_append (by decide) hnew
    exact escape_not_mem_append (escape_not_mem_append hbegin hold) hend

end Store

namespace Run

/-- The runs differ in the looks of what is printed alone, and the second one has none. -/
structure Alike (coloured plain : Run) : Prop where
  result : coloured.result = plain.result
  lines : coloured.lines = plain.lines
  logger : coloured.logger = plain.logger
  disk : coloured.disk = plain.disk
  output : Bytes.unstyled 0 coloured.output = plain.output
  clean : Bytes.escape ∉ plain.output

theorem Alike.of_tinted {result : Except Error Unit} {output plain : Bytes} {lines : List Log.Line}
    {logger : Logger} {d : Disk} (h : output.Tinted plain) :
    Alike ⟨result, output, lines, logger, d⟩ ⟨result, plain, lines, logger, d⟩ :=
  ⟨rfl, rfl, rfl, rfl, h.unstyled, h.clean⟩

theorem tinted_line {s t : String} (h : Display.Tinted s t) : (line s).Tinted (line t) :=
  Display.Tinted.append h (.refl (by decide))

theorem tinted_information (palette : Display.Palette) :
    (information palette).Tinted (information .plain) := by
  refine tinted_line (Display.tinted_keyTable palette fun r hr ↦ ?_)
  obtain ⟨key, -, rfl⟩ := List.mem_map.1 hr
  exact ⟨key.escape_not_mem_name, key.escape_not_mem_description⟩

theorem escape_not_mem_printed {content : Bytes} (h : Bytes.escape ∉ content) :
    Bytes.escape ∉ printed content := by
  rw [printed, List.mem_append, List.mem_cons]
  rintro ((heq | hmem) | hend)
  · cases heq
  · exact h hmem
  · exact absurd hend (by decide)

theorem tinted_outcomeLine (palette : Display.Palette) {o : Outcome} (h : '\x1b' ∉ o.text.toList) :
    (outcomeLine palette o).Tinted (outcomeLine .plain o) := by
  rw [outcomeLine, outcomeLine]
  refine tinted_line ?_
  split
  · exact Display.tinted_warning palette h
  · exact Display.tinted_success palette h

theorem command_alike (palette : Display.Palette) (limit? : Option Limit) {c : Command} {s : Store}
    (logger : Logger) {d : Disk} (hs : s.Clean)
    (hcontent : ∀ data, s.content d = .ok data → Bytes.escape ∉ data)
    (harguments : ∀ arguments, c = .set arguments → ∀ a ∈ arguments, '\x1b' ∉ a.toList) :
    (command c palette limit? s logger d).Alike (command c .plain limit? s logger d) := by
  cases c with
  | print =>
    rw [command, command]
    cases hdata : s.content d with
    | error e => exact .of_tinted (.refl List.not_mem_nil)
    | ok data =>
      have hprinted := escape_not_mem_printed (hcontent data hdata)
      cases hpass : Limit.pass limit? (printed data) with
      | mk part result =>
        have hpart : Bytes.escape ∉ part := fun h ↦ hprinted ((Limit.isPrefix_of_pass hpass).mem h)
        simp only [hpass]
        cases result <;> exact .of_tinted (.refl hpart)
  | info => exact .of_tinted (tinted_information palette)
  | view key =>
    have hvalue := hs.escape_not_mem_text key.name "<not set>" (by decide)
    simp only [command, Store.view_name]
    exact .of_tinted (tinted_line
      (Display.tinted_keyValue palette key.escape_not_mem_name hvalue))
  | set arguments =>
    rw [command, command]
    cases hresult : (s.set logger d arguments).result with
    | error e => exact .of_tinted (.refl List.not_mem_nil)
    | ok outcome =>
      have houtcome := hs.escape_not_mem_outcome (harguments arguments rfl) hresult
      exact .of_tinted (tinted_outcomeLine palette houtcome)

end Run

/-- No escape character is in a value of the settings that are opened, nor in an argument. -/
structure Invocation.Clean (i : Invocation) (env : Environment) (d : Disk) : Prop where
  values : ∀ path s, i.config.or env.settingsFile? = some path →
    (Store.loadOrCreate env d path).result = .ok s → s.Clean
  arguments : ∀ arguments, i.command = .set arguments → ∀ a ∈ arguments, '\x1b' ∉ a.toList

namespace Run

variable {i : Invocation} {env : Environment} {d : Disk}

theorem invocation_alike (h : i.Clean env d) (noColor : Bool) (logger : Logger) :
    (invocation { i with noColor } env logger d).Alike
      (invocation { i with noColor := true } env logger d) := by
  by_cases hinfo : i.command = .info
  · rw [invocation_of_info (i := { i with noColor }) hinfo,
      invocation_of_info (i := { i with noColor := true }) hinfo]
    exact .of_tinted (tinted_information _)
  cases hpath : i.config.or env.settingsFile? with
  | none =>
    rw [invocation_of_none (i := { i with noColor }) hinfo hpath,
      invocation_of_none (i := { i with noColor := true }) hinfo hpath]
    exact .of_tinted (.refl List.not_mem_nil)
  | some path =>
    cases hload : Store.loadOrCreate env d path with
    | mk result d' events =>
      cases result with
      | error e =>
        rw [invocation_of_error (i := { i with noColor }) hinfo hpath hload,
          invocation_of_error (i := { i with noColor := true }) hinfo hpath hload]
        exact .of_tinted (.refl List.not_mem_nil)
      | ok s =>
        have hs := h.values path s hpath (congrArg Attempt.result hload)
        have halike := command_alike (.ofNoColor noColor) env.output (synchronized s logger) hs
          (fun _ hdata ↦ Store.escape_not_mem_content hload hdata) h.arguments
        rw [invocation_of_ok (i := { i with noColor }) hinfo hpath hload,
          invocation_of_ok (i := { i with noColor := true }) hinfo hpath hload]
        exact { halike with lines := congrArg (_ ++ ·) halike.lines }

/-- Colours are looks and nothing else. The option that turns them off changes nothing else about an
invocation. Without the sequences of the terminal, what is printed in colours is what is printed
without them, and the rest of the run is the same. -/
theorem colours_are_looks {arguments : List Bytes}
    (hparse : CommandLine.parse env arguments = .ok i) (h : i.Clean env d) (logger : Logger) :
    (i.noColor = false → CommandLine.parse env (CommandLine.withoutColourOption :: arguments) =
      .ok { i with noColor := true }) ∧
    (invocation { i with noColor := false } env logger d).Alike
      (invocation { i with noColor := true } env logger d) ∧
    ∀ rows : List Display.Row, (∀ r ∈ rows, r.Clean) →
      Bytes.unstyled 0 (.ofString (Display.keyTable .coloured rows)) =
        .ofString (Display.keyTable .plain rows) ∧
      Bytes.escape ∉ Bytes.ofString (Display.keyTable .plain rows) := by
  refine ⟨CommandLine.parse_withoutColour hparse, invocation_alike h false logger,
    fun rows hrows ↦ ?_⟩
  have htable := Display.tinted_keyTable .coloured hrows
  exact ⟨htable.unstyled, htable.clean⟩

section

open Session

def toView : List Bytes := ["--config", "c", "config", "view", "logging.level"].map Bytes.ofString

def viewing : Invocation := ⟨some ⟨[99]⟩, false, .view .logLevel⟩

theorem clean_fresh : Store.fresh.Clean := by
  have hentries : ∀ e ∈ Store.fresh.values.entries, '\x1b' ∉ e.2.text.toList := by decide
  exact fun k v h ↦ hentries (k, v) (KeyMap.get?_eq_some_iff.1 h)

theorem looks_viewing : CommandLine.parse {} toView = .ok viewing ∧
    viewing.Clean {} (alone freshText false) ∧
    CommandLine.parse {} (CommandLine.withoutColourOption :: toView) =
      .ok { viewing with noColor := true } ∧
    (invocation viewing {} .start (alone freshText false)).output =
      .ofString "\x1b[38;5;13m\x1b[1mlogging.level\x1b[0m: info\n" ∧
    (invocation viewing {} .start (alone freshText false)).Alike
      (invocation { viewing with noColor := true } {} .start (alone freshText false)) ∧
    Bytes.unstyled 0 (.ofString (Display.keyTable .coloured [Display.header])) =
      .ofString (Display.keyTable .plain [Display.header]) := by
  have hparse : CommandLine.parse {} toView = .ok viewing := by decide
  have hpath : viewing.config.or (Environment.settingsFile? {}) = some ⟨[99]⟩ := rfl
  have hclean : viewing.Clean {} (alone freshText false) := by
    refine ⟨fun path s hsome h ↦ ?_, fun _ h ↦ by cases h⟩
    rw [hpath, Option.some.injEq] at hsome
    subst hsome
    rw [loadOrCreate_alone {} false] at h
    cases h
    exact clean_fresh
  obtain ⟨hoption, halike, htables⟩ := colours_are_looks hparse hclean .start
  have hhead := htables [Display.header] (List.forall_mem_singleton.2 Display.clean_header)
  refine ⟨hparse, hclean, hoption rfl, ?_, halike, hhead.1⟩
  rw [invocation_of_ok (by decide) hpath (loadOrCreate_alone {} false), output_running, viewing]
  have hvalue : Store.fresh.get? Key.logLevel.name = some (.string "info") := by decide
  have hline : Display.keyValue .coloured Key.logLevel.name "info" ++ "\n" =
      "\x1b[38;5;13m\x1b[1mlogging.level\x1b[0m: info\n" := by decide
  simp only [command, Store.view_name, hvalue]
  exact congrArg Bytes.ofString hline

end

end Run

end ConfigKeeper
