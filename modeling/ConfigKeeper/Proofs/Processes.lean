import ConfigKeeper.Proofs.Sessions
import ConfigKeeper.Run

namespace ConfigKeeper

open Log (Logger)

namespace Store

/-- The changes of one session. -/
def setAll (s : Store) (logger : Logger) (d : Disk) : List (List String) → List Change
  | [] => []
  | arguments :: rest =>
    let c := s.set logger d arguments
    c :: setAll c.store c.logger c.disk rest

/-- The changes of processes that load the file anew, each with a logger of its own. -/
def setEach (env : Environment) (path : Path) (d : Disk) : List (List String) → List Change
  | [] => []
  | arguments :: rest =>
    match loadOrCreate env d path with
    | ⟨.ok s, d, _⟩ =>
      let c := s.set (Run.synchronized s .start) d arguments
      c :: setEach env path c.disk rest
    | ⟨.error _, _, _⟩ => []

end Store

/-- What is left of a change. -/
structure Trace where
  result : Except Error Outcome
  disk : Disk
  level : Log.Level
  format : Log.Format

def Change.trace (c : Change) : Trace := ⟨c.result, c.disk, c.logger.level, c.logger.format⟩

namespace Run

/-- What a process shows of a change, and what it leaves. -/
structure Report where
  result : Except Error Unit
  output : Bytes
  disk : Disk
  logger : Logger

def report (r : Run) : Report := ⟨r.result, r.output, r.disk, r.logger⟩

def Report.ofChange (palette : Display.Palette) (c : Change) : Report :=
  match c.result with
  | .ok outcome => ⟨.ok (), outcomeLine palette outcome, c.disk, c.logger⟩
  | .error e => ⟨.error e, [], c.disk, c.logger⟩

theorem Report.disk_ofChange (palette : Display.Palette) (c : Change) :
    (Report.ofChange palette c).disk = c.disk := by
  rw [ofChange]
  split <;> rfl

theorem Report.logger_ofChange (palette : Display.Palette) (c : Change) :
    (Report.ofChange palette c).logger = c.logger := by
  rw [ofChange]
  split <;> rfl

theorem result_of_report {r : Run} {palette : Display.Palette} {c : Change}
    (h : r.report = .ofChange palette c) : r.result = .ok () ↔ ∃ o, c.result = .ok o := by
  have hresult : r.result = (Report.ofChange palette c).result := congrArg Report.result h
  rw [hresult, Report.ofChange]
  cases c.result with
  | error e =>
    refine iff_of_false (fun hok ↦ by cases hok) fun hok ↦ ?_
    obtain ⟨o, ho⟩ := hok
    cases ho
  | ok o => exact iff_of_true rfl ⟨o, rfl⟩

theorem disk_of_report {r : Run} {palette : Display.Palette} {c : Change}
    (h : r.report = .ofChange palette c) : r.disk = c.disk :=
  (congrArg Report.disk h).trans (Report.disk_ofChange palette c)

/-- The runs of processes that change one setting each. -/
def setEach (config : Option Path) (noColor : Bool) (env : Environment) (d : Disk) :
    List (List String) → List Run
  | [] => []
  | arguments :: rest =>
    let r := invocation ⟨config, noColor, .set arguments⟩ env .start d
    r :: setEach config noColor env r.disk rest

variable {config : Option Path} {noColor : Bool} {env : Environment} {d d' : Disk} {path : Path}
  {s : Store} {events : List Log.Event}

theorem report_invocation {logger : Logger} (hpath : config.or env.settingsFile? = some path)
    (hload : Store.loadOrCreate env d path = ⟨.ok s, d', events⟩) (arguments : List String) :
    (invocation ⟨config, noColor, .set arguments⟩ env logger d).report =
      .ofChange (.ofNoColor noColor) (s.set (synchronized s logger) d' arguments) := by
  have hstandalone : (⟨config, noColor, .set arguments⟩ : Invocation).isStandalone = false := by
    rw [Invocation.isStandalone, beq_eq_false_iff_ne]
    intro h
    cases h
  simp only [invocation, hstandalone, hpath, hload, command, report, Report.ofChange]
  cases (s.set (synchronized s logger) d' arguments).result <;> rfl

end Run

namespace Store

variable {env : Environment} {path : Path} {s : Store} {logger : Logger} {d : Disk} {c : Change}

theorem inStep_synchronized (s : Store) (logger : Logger) :
    s.InStep (Run.synchronized s logger) := ⟨rfl, rfl⟩

/-- The file of a store can be loaded as this store, and so can what is written for it. -/
structure Follows (env : Environment) (path : Path) (s : Store) (d : Disk) : Prop where
  present : d.has path = true
  loads : (load env d path).result = .ok s
  coherent : s.Coherent
  readable : ∀ k ∈ s.values.keys, Readable k
  path : s.path = path

theorem Follows.loadOrCreate (h : s.Follows env path d) :
    loadOrCreate env d path = ⟨.ok s, d, (Store.load env d path).events⟩ := by
  rw [loadOrCreate_present env h.present, h.loads]

theorem Follows.set (h : s.Follows env path d) (hc : Makes s logger d c)
    (hback : c.store.ReadsBack)
    (hwrite : ∀ context cause, c.result ≠ .error (.persistence context cause)) :
    c.store.Follows env path c.disk := by
  have hcoherent := hc.coherent h.coherent
  have hreadable : ∀ k ∈ c.store.values.keys, Readable k := fun k hk ↦
    h.readable k ((hc.mem_keys h.coherent).1 hk)
  have hpath := hc.path.trans h.path
  cases hc with
  | rejected f => exact h
  | unchanged key => exact h
  | failed context cause happly hw => exact absurd rfl (hwrite context cause)
  | updated happly hw =>
    have hsaved := write_ok hw
    have hload := hcoherent.load hreadable hback hsaved env
    have hpresent := hsaved.has
    rw [hpath] at hload hpresent
    exact ⟨hpresent, hload, hcoherent, hreadable, hpath⟩

theorem trace_set {other : Logger} (hs : s.InStep logger) (hother : s.InStep other)
    (d : Disk) (arguments : List String) :
    (s.set other d arguments).trace = (s.set logger d arguments).trace := by
  obtain ⟨hresult, hstore, hdisk⟩ := set_logger s other logger d arguments
  obtain ⟨hlevel, hformat⟩ := (set_makes s logger d arguments).inStep hs
  obtain ⟨hlevel', hformat'⟩ := (set_makes s other d arguments).inStep hother
  rw [Change.trace, Change.trace, hresult, hdisk, hlevel, hformat, hlevel', hformat', hstore]

theorem Follows.trace_setEach (h : s.Follows env path d) (hs : s.InStep logger)
    {changes : List (List String)}
    (hback : ∀ c ∈ s.setAll logger d changes, c.store.ReadsBack)
    (hwrite : ∀ c ∈ s.setAll logger d changes, ∀ context cause,
      c.result ≠ .error (.persistence context cause)) :
    (setEach env path d changes).map Change.trace =
      (s.setAll logger d changes).map Change.trace := by
  -- The next process starts from the file, the session from its memory: `h` says that they agree.
  induction changes generalizing s logger d with
  | nil => rfl
  | cons arguments rest ih =>
    rw [setAll, List.forall_mem_cons] at hback hwrite
    have hmakes := set_makes s logger d arguments
    have hnext := h.set hmakes hback.1 hwrite.1
    have htrace := trace_set hs (inStep_synchronized s .start) d arguments
    have hdisk := (set_logger s (Run.synchronized s .start) logger d arguments).2.2
    have hrest := ih hnext (hmakes.inStep hs) hback.2 hwrite.2
    simp only [setEach, h.loadOrCreate, setAll, List.map_cons, htrace, hdisk, hrest]

theorem Follows.report_setEach (h : s.Follows env path d) {config : Option Path}
    (hpath : config.or env.settingsFile? = some path) (noColor : Bool)
    {changes : List (List String)}
    (hback : ∀ c ∈ s.setAll logger d changes, c.store.ReadsBack)
    (hwrite : ∀ c ∈ s.setAll logger d changes, ∀ context cause,
      c.result ≠ .error (.persistence context cause)) :
    (Run.setEach config noColor env d changes).map Run.report =
      (setEach env path d changes).map (.ofChange (.ofNoColor noColor)) := by
  induction changes generalizing s logger d with
  | nil => rfl
  | cons arguments rest ih =>
    rw [setAll, List.forall_mem_cons] at hback hwrite
    have hmakes := set_makes s logger d arguments
    have hnext := h.set hmakes hback.1 hwrite.1
    have hdisk := (set_logger s (Run.synchronized s .start) logger d arguments).2.2
    have hreport : (Run.invocation ⟨config, noColor, .set arguments⟩ env .start d).report = _ :=
      Run.report_invocation hpath h.loadOrCreate arguments
    have hran : (Run.invocation ⟨config, noColor, .set arguments⟩ env .start d).disk =
        (s.set logger d arguments).disk := (Run.disk_of_report hreport).trans hdisk
    have hrest := ih hnext hback.2 hwrite.2
    simp only [Run.setEach, setEach, h.loadOrCreate, List.map_cons, hreport, hran, hdisk, hrest]

theorem setEach_of_loadOrCreate {d₀ : Disk} {events events' : List Log.Event}
    (h : Store.loadOrCreate env d path = ⟨.ok s, d₀, events⟩)
    (h₀ : Store.loadOrCreate env d₀ path = ⟨.ok s, d₀, events'⟩) (changes : List (List String)) :
    setEach env path d changes = setEach env path d₀ changes := by
  cases changes with
  | nil => rfl
  | cons arguments rest => simp only [setEach, h, h₀]

/-- Before the first change: the file has been created, or it was there and is as it was. -/
theorem follows_of_loadOrCreate {d₀ : Disk} {events : List Log.Event}
    (h : Store.loadOrCreate env d path = ⟨.ok s, d₀, events⟩) (hback : s.ReadsBack)
    (hkeys : d.has path = true → ∀ k ∈ s.values.keys, Readable k) : s.Follows env path d₀ := by
  cases hhas : d.has path with
  | false =>
    obtain ⟨hs, hsaved⟩ := loadOrCreate_missing hhas h
    have hplain : s.Plain path := hs ▸ plain_initialAt env d path
    have hpresent := hsaved.has
    rw [hplain.path] at hpresent
    exact ⟨hpresent, hplain.load hback hsaved env, hplain.coherent, hplain.readable, hplain.path⟩
  | true =>
    rw [loadOrCreate_present env hhas] at h
    have hload : (load env d path).result = .ok s := congrArg Attempt.result h
    have hdisk : d = d₀ := congrArg Attempt.disk h
    subst hdisk
    obtain ⟨text, htext, hread⟩ := load_eq_ok hload
    exact ⟨hhas, hload, coherent_of_ofText hread, hkeys hhas, ofText_path hread⟩

end Store

namespace Run

theorem setEach_of_loadOrCreate {config : Option Path} {noColor : Bool} {env : Environment}
    {path : Path} {s : Store} {d d₀ : Disk} {events events' : List Log.Event}
    (hpath : config.or env.settingsFile? = some path)
    (h : Store.loadOrCreate env d path = ⟨.ok s, d₀, events⟩)
    (h₀ : Store.loadOrCreate env d₀ path = ⟨.ok s, d₀, events'⟩) (changes : List (List String)) :
    (setEach config noColor env d changes).map report =
      (setEach config noColor env d₀ changes).map report := by
  cases changes with
  | nil => rfl
  | cons arguments rest =>
    have hreport : (invocation ⟨config, noColor, .set arguments⟩ env .start d).report =
        (invocation ⟨config, noColor, .set arguments⟩ env .start d₀).report := by
      rw [report_invocation hpath h, report_invocation hpath h₀]
    have hdisk := congrArg Report.disk hreport
    simp only [report] at hdisk
    simp only [setEach, List.map_cons, hreport, hdisk]

theorem last_setEach {palette : Display.Palette} {runs : List Run} {processes session : List Change}
    (hreport : runs.map report = processes.map (.ofChange palette))
    (htrace : processes.map Change.trace = session.map Change.trace) (hne : session ≠ []) :
    ∃ r c, runs.getLast? = some r ∧ session.getLast? = some c ∧
      r.disk = c.disk ∧ r.logger.level = c.logger.level ∧ r.logger.format = c.logger.format := by
  have hc := List.getLast?_eq_some_getLast hne
  have hlast := congrArg List.getLast? htrace
  rw [List.getLast?_map, List.getLast?_map, hc, Option.map_some, Option.map_eq_some_iff] at hlast
  obtain ⟨p, hp, hpc⟩ := hlast
  have hlast := congrArg List.getLast? hreport
  rw [List.getLast?_map, List.getLast?_map, hp, Option.map_some, Option.map_eq_some_iff] at hlast
  obtain ⟨r, hr, hrp⟩ := hlast
  have hdisk := congrArg Report.disk hrp
  have hlogger := congrArg Report.logger hrp
  rw [Report.disk_ofChange] at hdisk
  rw [Report.logger_ofChange] at hlogger
  refine ⟨r, session.getLast hne, hr, hc, ?_, ?_, ?_⟩
  · exact hdisk.trans (congrArg Trace.disk hpc)
  · exact (congrArg Logger.level hlogger).trans (congrArg Trace.level hpc)
  · exact (congrArg Logger.format hlogger).trans (congrArg Trace.format hpc)

/-- Changing settings by one process each comes to the same as changing them in one session: the
results, the disk after each change, and the level and format of the logger in the end. -/
theorem setEach_refines_setAll {config : Option Path} {env : Environment} {path : Path} {s : Store}
    {d d₀ : Disk} {events : List Log.Event} {changes : List (List String)} (logger : Logger)
    (noColor : Bool) (hpath : config.or env.settingsFile? = some path)
    (hload : Store.loadOrCreate env d path = ⟨.ok s, d₀, events⟩)
    (hkeys : d.has path = true → ∀ k ∈ s.values.keys, Store.Readable k)
    (hstart : s.ReadsBack)
    (hback : ∀ c ∈ s.setAll (synchronized s logger) d₀ changes, c.store.ReadsBack)
    (hwrite : ∀ c ∈ s.setAll (synchronized s logger) d₀ changes, ∀ context cause,
      c.result ≠ .error (.persistence context cause)) (hne : changes ≠ []) :
    (setEach config noColor env d changes).map report =
      (Store.setEach env path d changes).map (.ofChange (.ofNoColor noColor)) ∧
    (Store.setEach env path d changes).map Change.trace =
      (s.setAll (synchronized s logger) d₀ changes).map Change.trace ∧
    ∃ r c, (setEach config noColor env d changes).getLast? = some r ∧
      (s.setAll (synchronized s logger) d₀ changes).getLast? = some c ∧
      r.disk = c.disk ∧ r.logger.level = c.logger.level ∧ r.logger.format = c.logger.format := by
  have hfollows := Store.follows_of_loadOrCreate hload hstart hkeys
  have hreport := hfollows.report_setEach hpath noColor hback hwrite
  have htrace := hfollows.trace_setEach (Store.inStep_synchronized s logger) hback hwrite
  rw [← Store.setEach_of_loadOrCreate hload hfollows.loadOrCreate] at hreport htrace
  rw [← setEach_of_loadOrCreate hpath hload hfollows.loadOrCreate] at hreport
  have hsession : s.setAll (synchronized s logger) d₀ changes ≠ [] := by
    cases changes with
    | nil => exact absurd rfl hne
    | cons arguments rest => exact List.cons_ne_nil _ _
  exact ⟨hreport, htrace, last_setEach hreport htrace hsession⟩

section

open Store Session

/-- A level that is set twice, and a key that nobody knows. -/
def threeChanges : List (List String) := [toDebug, toDebug, ["no.such.key", "1"]]

theorem setAll_threeChanges {c : Change}
    (h : c ∈ fresh.setAll (synchronized fresh .start) (alone freshText false) threeChanges) :
    c.store = freshDebug ∧ ∀ context cause, c.result ≠ .error (.persistence context cause) := by
  have hsame : (freshDebug.get? Key.logLevel.name).map Value.text = some "debug" := by decide
  have hunknown : checkArguments ["no.such.key", "1"] = .error (.unknownKey "no.such.key") := by
    decide
  simp only [threeChanges, setAll, store_set_toDebug, set_of_same checkArguments_toDebug hsame,
    set_of_error hunknown, List.mem_cons, List.not_mem_nil, or_false] at h
  rcases h with rfl | rfl | rfl
  · refine ⟨store_set_toDebug _ _, fun context cause ↦ ?_⟩
    rw [result_set_toDebug]
    exact fun hresult ↦ by cases hresult
  · exact ⟨rfl, fun context cause hresult ↦ by cases hresult⟩
  · exact ⟨rfl, fun context cause hresult ↦ by cases hresult⟩

theorem trace_threeChanges :
    (Store.setEach {} ⟨[99]⟩ ⟨[], []⟩ threeChanges).map Change.trace =
      (fresh.setAll (synchronized fresh .start) (alone freshText false) threeChanges).map
        Change.trace := by
  have hpath : (some ⟨[99]⟩ : Option Path).or (Environment.settingsFile? {}) = some ⟨[99]⟩ := rfl
  have hmissing : Disk.has ⟨[], []⟩ ⟨[99]⟩ = false := by decide
  have hkeys : Disk.has ⟨[], []⟩ ⟨[99]⟩ = true → ∀ k ∈ fresh.values.keys, Readable k := by
    rw [hmissing]
    exact fun hfalse ↦ by cases hfalse
  have h := setEach_refines_setAll .start false hpath loadOrCreate_fresh hkeys readsBack_fresh.1
    (fun c hc ↦ (setAll_threeChanges hc).1 ▸ readsBack_fresh.2)
    (fun c hc ↦ (setAll_threeChanges hc).2) (List.cons_ne_nil _ _)
  exact h.2.1

end

end Run

end ConfigKeeper
