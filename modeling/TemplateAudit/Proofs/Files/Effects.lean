import TemplateAudit.Files.System
import TemplateAudit.Settings

/-! # Computations that only read

Rules, settings and templates are read without a change of the file system. What such a computation
gives is a function of the file system, and reading step by step gives what its steps give.
-/

namespace TemplateAudit

variable {α β : Type}

/-- On every file system the computation gives this value and changes nothing. -/
def Reads (x : StateM FileSystem α) (value : FileSystem → α) : Prop :=
  ∀ fs, x.run fs = (value fs, fs)

namespace Reads

variable {x : StateM FileSystem α} {value : FileSystem → α}

theorem pure (a : α) : Reads (Pure.pure a) fun _ => a := fun _ => rfl

theorem run_bind (hx : Reads x value) (next : α → StateM FileSystem β) (fs : FileSystem) :
    (x >>= next).run fs = (next (value fs)).run fs := by
  rw [StateT.run_bind, hx fs]
  rfl

theorem mapM {items : List β} {f : β → StateM FileSystem α} {result : FileSystem → β → α}
    (h : ∀ b, Reads (f b) fun fs => result fs b) :
    Reads (items.mapM f) fun fs => items.map (result fs) := by
  induction items with
  | nil => exact pure []
  | cons b rest ih =>
    intro fs
    rw [List.mapM_cons, (h b).run_bind, ih.run_bind]
    rfl

end Reads

namespace FileSystem

def readAll (fs : FileSystem) (paths : List FilePath) : List (FilePath × Except FileError String) :=
  paths.map fun path => (path, fs.readText path)

def rulesAt (fs : FileSystem) (path : FilePath) : Except RuleLoadError RuleSet :=
  match fs.kind? path with
  | none => .error (.missingPath path.text)
  | some .file => RuleSet.ofFiles (fs.readAll [path])
  | some .directory =>
    match fs.fileNames path with
    | .error _ => .error (.unreadable path.text)
    | .ok names => RuleSet.ofFiles (fs.readAll (RuleSet.rulesFiles path names))

def rulesFor (fs : FileSystem) (s : Settings) : Except RuleLoadError RuleSet :=
  match s.rules with
  | none => (RuleSet.parse Builtin.text).map s.selectRules
  | some path => (fs.rulesAt path).map s.selectRules

def configFile? (fs : FileSystem) (named : Option FilePath) : Option FilePath :=
  named <|> if fs.kind? Config.defaultFile = some .file then some Config.defaultFile else none

def configFor (fs : FileSystem) (named : Option FilePath) : Except ConfigError Config :=
  match fs.configFile? named with
  | some path => Config.ofFile path (fs.readText path)
  | none => .ok .blank

end FileSystem

section

variable (path : FilePath)

theorem reads_kind? : Reads (FileAccess.kind? path) fun fs => fs.kind? path := fun _ => rfl

theorem reads_readText : Reads (FileAccess.readText path) fun fs => fs.readText path :=
  fun _ => rfl

theorem reads_fileNames : Reads (FileAccess.fileNames path) fun fs => fs.fileNames path :=
  fun _ => rfl

theorem reads_filePlaces : Reads (FileAccess.filePlaces path) fun fs => fs.filePlaces path :=
  fun _ => rfl

end

theorem reads_readAll (paths : List FilePath) :
    Reads (paths.mapM RuleSet.readFile) fun fs => fs.readAll paths :=
  .mapM fun _ _ => rfl

theorem reads_load (path : FilePath) : Reads (RuleSet.load path) fun fs => fs.rulesAt path := by
  intro fs
  rw [RuleSet.load, (reads_kind? path).run_bind]
  simp only [FileSystem.rulesAt]
  rcases fs.kind? path with _ | _ | _
  · rfl
  · rfl
  · dsimp only
    rw [(reads_fileNames path).run_bind]
    cases fs.fileNames path with
    | error e => rfl
    | ok names =>
      dsimp only
      rw [(reads_readAll _).run_bind]
      rfl

theorem reads_loadRules (s : Settings) : Reads s.loadRules fun fs => fs.rulesFor s := by
  intro fs
  simp only [Settings.loadRules, FileSystem.rulesFor]
  cases s.rules with
  | none => rfl
  | some path =>
    dsimp only
    rw [(reads_load path).run_bind]
    rfl

theorem reads_discover (named : Option FilePath) :
    Reads (Config.discover named) fun fs => fs.configFor named := by
  intro fs
  cases named with
  | some path => rfl
  | none =>
    simp only [Config.discover, FileSystem.configFor, FileSystem.configFile?]
    rw [(reads_kind? _).run_bind]
    by_cases h : fs.kind? Config.defaultFile = some .file
    · rw [if_pos h, if_pos h]
      rfl
    · rw [if_neg h, if_neg h]
      rfl

end TemplateAudit
