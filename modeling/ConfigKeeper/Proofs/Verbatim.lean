import ConfigKeeper.Proofs.GlobalOptions
import ConfigKeeper.Proofs.Invocations
import ConfigKeeper.Proofs.Succession

namespace ConfigKeeper

open Log (Logger)

namespace CommandLine

theorem texts?_ofString (texts : List String) : texts? (texts.map Bytes.ofString) = some texts := by
  induction texts with
  | nil => rfl
  | cons s rest ih => simp only [List.map_cons, texts?, Bytes.toString?_ofString, ih]

theorem asked?_nil {env : Environment} (h : env.configFile = none) (c : Command) :
    asked? env [] c = some { command := c } := by
  have hne : env.configFile ≠ some [] := by
    rw [h]
    exact (Option.some_ne_none _).symm
  have hchosen : chosen? [] = some {} := rfl
  rw [asked?, hchosen, Option.bind_some, Chosen.invocation?, if_neg hne, h]
  rfl

theorem eq_ok_of_toOption {ε α : Type} {e : Except ε α} {a : α} (h : e.toOption = some a) :
    e = .ok a := by
  cases e with
  | error fault => cases h
  | ok b =>
    cases h
    rfl

theorem parse_set_texts {env : Environment} (henv : env.configFile = none) {name : String}
    (hname : (Bytes.ofString name).head? ≠ some hyphen) (rest : List String) :
    parse env (("config" :: "set" :: name :: rest).map Bytes.ofString) =
      .ok { command := .set (name :: rest) } := by
  have hparse := parse_set env [] hname (rest.map Bytes.ofString)
  rw [← List.map_cons, texts?_ofString, Option.bind_some, asked?_nil henv] at hparse
  exact eq_ok_of_toOption hparse

end CommandLine

namespace Key

variable {key : Key}

theorem head?_name_ne_hyphen (key : Key) :
    (Bytes.ofString key.name).head? ≠ some CommandLine.hyphen := by
  cases key <;> decide

theorem checkArguments_of_text (h : key.kind = .text) (text : String) :
    Store.checkArguments [key.name, text] = .ok (key, text) := by
  simp only [Store.checkArguments, find, named?_name, check, Kind.check, h]

end Key

namespace Store

variable {s : Store} {key : Key}

/-- A text key holds the very text it is given, and nothing else has changed. -/
theorem store_set_text (hkind : key.kind = .text) {text : String}
    (hne : (s.get? key.name).map Value.text ≠ some text) (logger : Logger) (d : Disk) :
    (s.set logger d [key.name, text]).store = s.put key.name (.string text) := by
  have harguments := Key.checkArguments_of_text hkind text
  rw [store_set_of_ne harguments hne, hkind]
  rfl

theorem saved_set_text (hkind : key.kind = .text) {text : String}
    (hne : (s.get? key.name).map Value.text ≠ some text) {logger : Logger} {d : Disk}
    {o : Outcome} (hok : (s.set logger d [key.name, text]).result = .ok o) :
    o = .updated key.name (s.get? key.name) (.string text) ∧
      (s.set logger d [key.name, text]).store.Saved (s.set logger d [key.name, text]).disk := by
  have harguments := Key.checkArguments_of_text hkind text
  have hresult := result_set_of_ne harguments hne logger d
  have hmakes := set_makes s logger d [key.name, text]
  cases hwrite : ((s.put key.name (key.kind.coerce text)).write d).result with
  | error e =>
    rw [hwrite, hok] at hresult
    cases hresult
  | ok _ =>
    rw [hwrite, hkind] at hresult
    exact ⟨Except.ok.inj (hok.symm.trans hresult), hmakes.saved hresult⟩

end Store

namespace Run

/-- Whatever text follows the name of a key in a command line to set it, no option and no wish for
help is seen in it. As soon as the file has been loaded its store is given the name and the text as
they are. A text key that showed another text holds this one then, and the file does if the run
succeeds. -/
theorem set_verbatim {env : Environment} (henv : env.configFile = none) (key : Key)
    (text : String) :
    CommandLine.parse env (["config", "set", key.name, text].map Bytes.ofString) =
      .ok { config := none, noColor := false, command := .set [key.name, text] } ∧
    ∀ (logger : Logger) {d d' : Disk} {path : Path} {s : Store} {events : List Log.Event},
      env.settingsFile? = some path →
      Store.loadOrCreate env d path = ⟨.ok s, d', events⟩ →
      let ran := invocation { command := .set [key.name, text] } env logger d
      let change := s.set (synchronized s logger) d' [key.name, text]
      ran.report = .ofChange (.ofNoColor false) change ∧
      (key.kind = .text → (s.get? key.name).map Value.text ≠ some text →
        change.store.get? key.name = some (.string text) ∧
        (∀ other ≠ key, change.store.get? other.name = s.get? other.name) ∧
        (ran.result = .ok () → change.store.Saved ran.disk ∧
          change.result = .ok (.updated key.name (s.get? key.name) (.string text)))) := by
  refine ⟨CommandLine.parse_set_texts henv key.head?_name_ne_hyphen [text], ?_⟩
  intro logger d d' path s events hpath hload ran change
  have hfile : (none : Option Path).or env.settingsFile? = some path := hpath
  have hreport : ran.report = .ofChange (.ofNoColor false) change :=
    report_invocation hfile hload [key.name, text]
  refine ⟨hreport, fun hkind hne ↦ ?_⟩
  have hstore : change.store = s.put key.name (.string text) :=
    Store.store_set_text hkind hne (synchronized s logger) d'
  refine ⟨?_, fun other hother ↦ ?_, fun hok ↦ ?_⟩
  · rw [hstore, Store.get?_put_name, if_pos rfl]
  · rw [hstore, Store.get?_put_of_ne hother]
  · obtain ⟨o, houtcome⟩ := (result_of_report hreport).1 hok
    obtain ⟨rfl, hsaved⟩ := Store.saved_set_text hkind hne houtcome
    rw [disk_of_report hreport]
    exact ⟨hsaved, houtcome⟩

section

open Store

/-- The directory of configurations is `x`, and the file of the settings in it is empty. -/
def emptyFile : Disk :=
  ⟨[([[120]], .directory), ([.ofString "ephemeral-iam", [120]], .directory),
    ([.ofString "config.yaml", .ofString "ephemeral-iam", [120]], .file { data := [] })], []⟩

def inFolderX : Environment := { configHome := some [120] }

def opened : Store := initialAt inFolderX emptyFile (.ofString "x/ephemeral-iam/config.yaml")

theorem loadOrCreate_emptyFile :
    loadOrCreate inFolderX emptyFile (.ofString "x/ephemeral-iam/config.yaml") =
      ⟨.ok opened, emptyFile, []⟩ := by
  have hhas : emptyFile.has (.ofString "x/ephemeral-iam/config.yaml") = true := by decide
  have hread : emptyFile.readText (.ofString "x/ephemeral-iam/config.yaml") = .ok "" := by decide
  have hnull : Yaml.read "" = some .null := rfl
  simp only [loadOrCreate_present inFolderX hhas, load, hread, ofText, hnull]
  rfl

def toHelp : List String := ["authproxy.certfile", "--help"]

theorem checkArguments_toHelp : checkArguments toHelp = .ok (.certFile, "--help") := by decide

theorem certFile_opened : (opened.get? Key.certFile.name).map Value.text ≠ some "--help" := by
  rw [opened, get?_initialAt]
  decide

theorem result_set_toHelp (logger : Logger) : (opened.set logger emptyFile toHelp).result =
    .ok (.updated Key.certFile.name (opened.get? Key.certFile.name) (.string "--help")) := by
  have hopened : opened.Coherent := coherent_initialAt inFolderX emptyFile _
  have hfind : emptyFile.find (.ofString "x/ephemeral-iam/config.yaml") =
      .ok ([.ofString "config.yaml", .ofString "ephemeral-iam", [120]], .file { data := [] }) := by
    decide
  exact hopened.result_set rfl hfind checkArguments_toHelp certFile_opened logger

theorem help_set_verbatim :
    inFolderX.configFile = none ∧
    CommandLine.parse inFolderX (("config" :: "set" :: toHelp).map Bytes.ofString) =
      .ok { command := .set toHelp } ∧
    (invocation { command := .set toHelp } inFolderX .start emptyFile).result = .ok () ∧
    (opened.set (synchronized opened .start) emptyFile toHelp).store.get? Key.certFile.name =
      some (.string "--help") ∧
    (opened.set (synchronized opened .start) emptyFile toHelp).store.Saved
      (invocation { command := .set toHelp } inFolderX .start emptyFile).disk := by
  have henv : inFolderX.configFile = none := rfl
  have hpath : inFolderX.settingsFile? = some (.ofString "x/ephemeral-iam/config.yaml") := by decide
  obtain ⟨hparse, hrun⟩ := set_verbatim henv .certFile "--help"
  obtain ⟨hreport, hheld⟩ := hrun .start hpath loadOrCreate_emptyFile
  obtain ⟨hvalue, -, hsaved⟩ := hheld rfl certFile_opened
  have hok := (result_of_report hreport).2 ⟨_, result_set_toHelp (synchronized opened .start)⟩
  exact ⟨henv, hparse, hok, hvalue, (hsaved hok).1⟩

end

end Run

end ConfigKeeper
