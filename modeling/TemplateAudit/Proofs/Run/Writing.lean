import TemplateAudit.Proofs.Files.Effects
import TemplateAudit.Proofs.Files.Lookup
import TemplateAudit.Proofs.Report.Agreement

/-! # What a run writes

A run either ends before there is a report, and then nothing has been written, or it delivers one
complete report. A report that goes to a file changes what is at the place of that file, and this is
all that a run ever changes.
-/

namespace TemplateAudit

def FileSystem.configuredOutput? (fs : FileSystem) (named : Option FilePath) :
    Option FilePath := do
  let file ← fs.configFile? named
  let text ← (fs.readText file).toOption
  let config ← Toml.parse text >>= Config.ofMembers
  let output ← config.outputFile
  return file.parent?.elim output (·.append output)

/-- The file that the report of a command goes to, where the command line goes first. -/
def Command.output? (fs : FileSystem) : Command → Option FilePath
  | .analyzeTemplate _ flags config => flags.outputFile <|> fs.configuredOutput? config
  | .analyzeDirectory _ flags config => flags.outputFile <|> fs.configuredOutput? config
  | _ => none

/-- The settings of a command, the root directory of its report and the templates that it analyzes,
if all of them can be read. -/
inductive Analyzes (fs : FileSystem) :
    Command → Settings → Option FilePath → List Template → Prop where
  | template {path : FilePath} {flags : Flags} {config : Option FilePath} {c : Config}
      {t : Template} : fs.configFor config = .ok c →
      Template.ofFile path (fs.readText path) = .ok t →
      Analyzes fs (.analyzeTemplate path flags config) (.merge c flags) none [t]
  | directory {directory : FilePath} {flags : Flags} {config : Option FilePath} {c : Config}
      {places : List (List String)} : fs.configFor config = .ok c →
      fs.kind? directory = some .directory → fs.filePlaces directory = .ok places →
      Analyzes fs (.analyzeDirectory directory flags config) (.merge c flags) (some directory)
        ((Run.templateFiles directory places).filterMap fun path =>
          Run.deploymentTemplate? path (fs.readText path))

inductive Reports (fs : FileSystem) : Command → Option FilePath → Nat → String → Prop where
  | intro {command : Command} {s : Settings} {root : Option FilePath} {templates : List Template}
      {rules : RuleSet} : Analyzes fs command s root templates → fs.rulesFor s = .ok rules →
      Reports fs command s.outputFile
        (Outcome.codeFor (Run.findingCount (templates.map (Run.analysisOf rules))))
        (reportText root (templates.map (Run.analysisOf rules)) s.reportFormat)

variable {fs : FileSystem} {command : Command} {outputFile : Option FilePath} {code : Nat}
  {report : String}

section Output

theorem exists_of_ofFile {file : FilePath} {content : Except FileError String} {c : Config}
    (h : Config.ofFile file content = .ok c) : ∃ text raw, content = .ok text ∧
      Toml.parse text >>= Config.ofMembers = some raw ∧ c = file.parent?.elim raw raw.seenFrom := by
  cases content with
  | error e => exact nomatch h
  | ok text =>
    rw [Config.ofFile, Config.parse] at h
    cases hraw : Toml.parse text >>= Config.ofMembers with
    | none =>
      rw [hraw] at h
      exact nomatch h
    | some raw =>
      refine ⟨text, raw, rfl, hraw, ?_⟩
      simp only [hraw] at h
      cases hparent : file.parent? <;> rw [hparent] at h <;> exact (Except.ok.inj h).symm

theorem outputFile_configFor {config : Option FilePath} {c : Config}
    (h : fs.configFor config = .ok c) : c.outputFile = fs.configuredOutput? config := by
  rw [FileSystem.configFor] at h
  rw [FileSystem.configuredOutput?]
  cases hfile : fs.configFile? config with
  | none =>
    rw [hfile] at h
    obtain rfl := Except.ok.inj h
    rfl
  | some file =>
    rw [hfile] at h
    obtain ⟨text, raw, htext, hraw, rfl⟩ := exists_of_ofFile h
    rw [Option.bind_eq_bind, Option.bind_some, htext, Except.toOption, Option.bind_eq_bind,
      Option.bind_some, hraw]
    cases file.parent? <;> cases houtput : raw.outputFile <;> simp [houtput, Config.seenFrom]

theorem Reports.output? (h : Reports fs command outputFile code report) :
    outputFile = command.output? fs := by
  cases h with
  | intro h _ =>
    cases h with
    | template hconfig _ => rw [Settings.merge, outputFile_configFor hconfig, Command.output?]
    | directory hconfig _ _ => rw [Settings.merge, outputFile_configFor hconfig, Command.output?]

theorem Reports.code_cases (h : Reports fs command outputFile code report) :
    code = 0 ∨ code = 20 := by
  cases h with
  | intro _ _ =>
    rw [Outcome.codeFor]
    split
    · exact .inl rfl
    · exact .inr rfl

end Output

namespace Run

section Steps

inductive Settles (fs : FileSystem) (command : Command) : Outcome × FileSystem → Prop where
  | failed (message : String) : Settles fs command (.failure message, fs)
  | quiet (outcome : Outcome) : outcome.exitCode = 0 ∨ outcome.exitCode = 1 →
      command.output? fs = none → Settles fs command (outcome, fs)
  | delivered {outputFile : Option FilePath} {code : Nat} {report : String} :
      Reports fs command outputFile code report →
      Settles fs command ((deliver outputFile code report : StateM FileSystem Outcome).run fs)

theorem settles_analyze {s : Settings} {root : Option FilePath} {templates : List Template}
    (h : Analyzes fs command s root templates) :
    Settles fs command ((analyze s root templates : StateM FileSystem Outcome).run fs) := by
  cases hrules : fs.rulesFor s with
  | error e =>
    rw [analyze, (reads_loadRules s).run_bind, hrules]
    exact .failed e.message
  | ok rules =>
    have hload : (s.loadRules : StateM FileSystem _).run fs = (.ok rules, fs) :=
      (reads_loadRules s fs).trans (congrArg (·, fs) hrules)
    rw [run_analyze hload root templates, report_start]
    exact .delivered (.intro h hrules)

theorem settles_withSettings {config : Option FilePath} {flags : Flags}
    {next : Settings → StateM FileSystem Outcome}
    (h : ∀ c, fs.configFor config = .ok c → Settles fs command ((next (.merge c flags)).run fs)) :
    Settles fs command ((withSettings config flags next).run fs) := by
  rw [withSettings, (reads_discover config).run_bind]
  cases hconfig : fs.configFor config with
  | error e => exact .failed e.message
  | ok c => exact h c hconfig

theorem run_analyzeDirectory {directory : FilePath} {places : List (List String)}
    (hdirectory : fs.kind? directory = some .directory)
    (hplaces : fs.filePlaces directory = .ok places) (s : Settings) :
    (analyzeDirectory directory s : StateM FileSystem Outcome).run fs =
      (analyze s (some directory) ((templateFiles directory places).filterMap fun path =>
        deploymentTemplate? path (fs.readText path)) : StateM FileSystem Outcome).run fs := by
  have hread : Reads ((templateFiles directory places).mapM readDeploymentTemplate) fun fs =>
      (templateFiles directory places).map fun path =>
        deploymentTemplate? path (fs.readText path) :=
    .mapM fun _ _ => rfl
  rw [analyzeDirectory, (reads_kind? directory).run_bind, if_pos hdirectory,
    (reads_filePlaces directory).run_bind]
  simp only [hplaces]
  rw [hread.run_bind, List.filterMap_map]
  rfl

theorem settles_execute (fs : FileSystem) (command : Command) :
    Settles fs command ((execute command : StateM FileSystem Outcome).run fs) := by
  cases command with
  | analyzeTemplate path flags config =>
    refine settles_withSettings fun c hconfig => ?_
    rw [analyzeTemplate, (reads_readText path).run_bind]
    cases ht : Template.ofFile path (fs.readText path) with
    | error e => exact .failed e.message
    | ok t => exact settles_analyze (.template hconfig ht)
  | analyzeDirectory directory flags config =>
    refine settles_withSettings fun c hconfig => ?_
    by_cases hdirectory : fs.kind? directory = some .directory
    · cases hplaces : fs.filePlaces directory with
      | error e =>
        rw [analyzeDirectory, (reads_kind? directory).run_bind, if_pos hdirectory,
          (reads_filePlaces directory).run_bind, hplaces]
        exact .failed _
      | ok places =>
        rw [run_analyzeDirectory hdirectory hplaces]
        exact settles_analyze (.directory hconfig hdirectory hplaces)
    · rw [analyzeDirectory, (reads_kind? directory).run_bind, if_neg hdirectory]
      exact .failed _
  | validateRules file =>
    rw [execute, validateRules, (reads_readText file).run_bind]
    rcases fs.readText file with e | text
    · exact .failed _
    · dsimp only
      rcases RuleSet.problems text with _ | ⟨problem, problems⟩
      · exact .quiet _ (.inl rfl) rfl
      · exact .quiet _ (.inr rfl) rfl
  | help => exact .quiet _ (.inl rfl) rfl
  | version => exact .quiet _ (.inl rfl) rfl

end Steps

section Writing

/-- A file system differs from an earlier one at most in the output file of a command, which holds
the whole report that the command has on the earlier one. -/
def WroteReport (fs : FileSystem) (command : Command) (code : Nat) (new : FileSystem) : Prop :=
  match command.output? fs with
  | none => new = fs
  | some path => ∃ report place, Reports fs command path code report ∧
      fs.target path = .ok place ∧ new.readText path = .ok report ∧
      new.workingDirectory = fs.workingDirectory ∧
      ∀ other, other ≠ place → new.root.nodeAt? other = fs.root.nodeAt? other

theorem wroteReport_of_settles {outcome : Outcome} {new : FileSystem}
    (h : Settles fs command (outcome, new)) :
    (outcome.exitCode = 1 ∧ new = fs) ∨
      (outcome.exitCode = 0 ∨ outcome.exitCode = 20) ∧
        WroteReport fs command outcome.exitCode new := by
  generalize hend : (outcome, new) = ending at h
  cases h with
  | failed message =>
    obtain ⟨rfl, rfl⟩ := Prod.mk.inj hend
    exact .inl ⟨rfl, rfl⟩
  | quiet outcome hcode hnone =>
    obtain ⟨rfl, rfl⟩ := Prod.mk.inj hend
    rcases hcode with hcode | hcode
    · refine .inr ⟨.inl hcode, ?_⟩
      rw [WroteReport, hnone]
    · exact .inl ⟨hcode, rfl⟩
  | @delivered outputFile code report hreports =>
    cases outputFile with
    | none =>
      obtain ⟨rfl, rfl⟩ := Prod.mk.inj (hend.trans (run_deliver_print code report))
      refine .inr ⟨hreports.code_cases, ?_⟩
      rw [WroteReport, ← hreports.output?]
    | some path =>
      cases hwrite : fs.writeText path report with
      | error e =>
        obtain ⟨rfl, rfl⟩ := Prod.mk.inj (hend.trans (run_deliver_refused hwrite code))
        exact .inl ⟨rfl, rfl⟩
      | ok written =>
        obtain ⟨rfl, rfl⟩ := Prod.mk.inj (hend.trans (run_deliver_file hwrite code))
        obtain ⟨place, htarget, hworking, hnode⟩ := FileSystem.exists_place_of_writeText hwrite
        refine .inr ⟨hreports.code_cases, ?_⟩
        rw [WroteReport, ← hreports.output?]
        exact ⟨report, place, hreports, htarget, FileSystem.readText_of_writeText hwrite, hworking,
          fun other hother => (hnode other).trans (if_neg hother)⟩

end Writing

/-- A run that fails leaves the file system as it was, and so does one with a wrong command line.
Any other run changes at most its output file, which then holds the whole report. -/
theorem program_writes (args : List String) (fs : FileSystem) :
    let ending := (program args : StateM FileSystem Outcome).run fs
    ending.1.exitCode ∈ [0, 1, 2, 20] ∧
    (ending.1.exitCode = 1 ∨ ending.1.exitCode = 2 → ending.2 = fs) ∧
    (ending.1.exitCode = 0 ∨ ending.1.exitCode = 20 → ∃ command,
      Command.parse? args = some command ∧
        WroteReport fs command ending.1.exitCode ending.2) := by
  generalize hend : (program args : StateM FileSystem Outcome).run fs = ending
  obtain ⟨outcome, new⟩ := ending
  rw [program] at hend
  cases hcommand : Command.parse? args with
  | none =>
    rw [hcommand] at hend
    obtain ⟨rfl, rfl⟩ := Prod.mk.inj hend
    exact ⟨by simp [Outcome.misuse], fun _ => rfl, by simp [Outcome.misuse]⟩
  | some command =>
    rw [hcommand] at hend
    have hsettles : Settles fs command (outcome, new) := hend ▸ settles_execute fs command
    rcases wroteReport_of_settles hsettles with ⟨hcode, hsame⟩ | ⟨hcode, hwrote⟩
    · refine ⟨?_, fun _ => hsame, fun h => ?_⟩
      · simp [hcode]
      · exact absurd hcode (by dsimp only at h; omega)
    · refine ⟨?_, fun h => ?_, fun _ => ⟨command, rfl, hwrote⟩⟩
      · rcases hcode with hcode | hcode <;> simp [hcode]
      · exact absurd hcode (by dsimp only at h; omega)

end Run

end TemplateAudit
