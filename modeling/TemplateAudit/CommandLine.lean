import TemplateAudit.Settings

/-! # The command line

A command line names a command with its arguments. Options have a value of their own argument or
after an equals sign, and three of them may stand before the command, too; what stands after the
command wins. An option may not be repeated on one side of the command.
-/

namespace TemplateAudit

/-- What the program is asked to do. -/
inductive Command where
  | analyzeTemplate (template : FilePath) (flags : Flags) (config : Option FilePath)
  | analyzeDirectory (directory : FilePath) (flags : Flags) (config : Option FilePath)
  | validateRules (file : FilePath)
  | help
  | version
  deriving DecidableEq, Repr

namespace CommandLine

/-- The commands that work on a file. -/
inductive Verb where
  | analyzeTemplate
  | analyzeDirectory
  | validateRules
  deriving DecidableEq, Repr

def Verb.ofName? (s : String) : Option Verb :=
  if s = "analyze-template" then some .analyzeTemplate
  else if s = "analyze-directory" then some .analyzeDirectory
  else if s = "validate-rules" then some .validateRules
  else none

/-- Where an option stands: before the command or after it. -/
inductive Place where
  | before
  | after (verb : Verb)
  deriving DecidableEq, Repr

/-- The options with a value. -/
inductive Field where
  | reportFormat
  | outputFile
  | rules
  | config
  deriving DecidableEq, Repr

/-- Rules and configuration are chosen for an analysis only. -/
def Place.admits : Place → Field → Bool
  | _, .reportFormat => true
  | _, .outputFile => true
  | .before, _ => false
  | .after verb, _ => verb ≠ .validateRules

def Field.ofName? (s : String) : Option Field :=
  if s = "report-format" then some .reportFormat
  else if s = "output-file" then some .outputFile
  else if s = "rules" then some .rules
  else if s = "config" then some .config
  else none

/-- What has been given on one side of the command. -/
structure Given where
  reportFormat : Option ReportFormat
  outputFile : Option FilePath
  rules : Option FilePath
  config : Option FilePath
  verbose : Bool
  argument : Option FilePath
  deriving DecidableEq, Repr

def Given.nothing : Given := ⟨none, none, none, none, false, none⟩

/-- Why reading stops early. -/
inductive Stop where
  | misuse
  | help
  | version
  deriving DecidableEq, Repr

/-- A path has at least one character. -/
def readPath (s : String) : Except Stop FilePath :=
  if s = "" then .error .misuse else .ok ⟨s⟩

def readFormat (s : String) : Except Stop ReportFormat :=
  match ReportFormat.ofName? s with
  | some f => .ok f
  | none => .error .misuse

/-- Sets what was not set before. -/
def once {α : Type} (old : Option α) (new : Except Stop α) : Except Stop (Option α) :=
  match old with
  | some _ => .error .misuse
  | none => new.map some

namespace Given

def set (g : Given) (field : Field) (value : String) : Except Stop Given :=
  match field with
  | .reportFormat => (once g.reportFormat (readFormat value)).map ({ g with reportFormat := · })
  | .outputFile => (once g.outputFile (readPath value)).map ({ g with outputFile := · })
  | .rules => (once g.rules (readPath value)).map ({ g with rules := · })
  | .config => (once g.config (readPath value)).map ({ g with config := · })

def setArgument (g : Given) (value : String) : Except Stop Given :=
  (once g.argument (readPath value)).map ({ g with argument := · })

def setVerbose (g : Given) : Except Stop Given :=
  if g.verbose then .error .misuse else .ok { g with verbose := true }

end Given

/-- An argument, by its form. -/
inductive Token where
  | separator
  | long (name : String) (value : Option String)
  | short (letter : Char)
  | plain
  deriving DecidableEq, Repr

/-- The name of a long option and the value after its equals sign. -/
def longToken (chars : List Char) : Token :=
  let name := chars.takeWhile (· ≠ '=')
  match chars.drop name.length with
  | [] => .long (String.ofList name) none
  | _ :: value => .long (String.ofList name) (some (String.ofList value))

/-- Dashes start an option; one dash alone does not. -/
def Token.ofArgument (s : String) : Token :=
  match s.toList with
  | ['-', '-'] => .separator
  | '-' :: '-' :: chars => longToken chars
  | '-' :: c :: _ => .short c
  | _ => .plain

def stopOfLong (place : Place) (name : String) (value : Option String) : Stop :=
  if value.isSome then .misuse
  else if name = "help" then .help
  else if name = "version" ∧ place = .before then .version
  else .misuse

def stopOfShort (place : Place) (letter : Char) : Stop :=
  if letter = 'h' then .help
  else if letter = 'V' ∧ place = .before then .version
  else .misuse

/-- The option with a value that a name stands for at a place. -/
def fieldAt? (place : Place) (name : String) : Option Field :=
  (Field.ofName? name).filter place.admits

/-- Reads arguments up to the first plain one. -/
def readOptions (place : Place) (g : Given) : List String → Except Stop (Given × List String)
  | [] => .ok (g, [])
  | s :: rest =>
    match Token.ofArgument s with
    | .plain => .ok (g, s :: rest)
    | .separator => .ok (g, s :: rest)
    | .short letter => .error (stopOfShort place letter)
    | .long name value =>
      if name = "verbose" then
        if value.isSome then .error .misuse
        else match g.setVerbose with
          | .ok next => readOptions place next rest
          | .error stop => .error stop
      else match fieldAt? place name, value, rest with
        | none, _, _ => .error (stopOfLong place name value)
        | some field, some v, rest =>
          match g.set field v with
          | .ok next => readOptions place next rest
          | .error stop => .error stop
        | some _, none, [] => .error .misuse
        | some field, none, v :: more =>
          if Token.ofArgument v = .plain then
            match g.set field v with
            | .ok next => readOptions place next more
            | .error stop => .error stop
          else .error .misuse

/-- Reads the arguments of a command; after a separator all of them are plain. -/
def readArguments (verb : Verb) : Nat → Given → List String → Except Stop Given
  | 0, g, _ => .ok g
  | rounds + 1, g, args => do
    let (next, rest) ← readOptions (.after verb) g args
    match rest with
    | [] => return next
    | s :: more =>
      if Token.ofArgument s = .separator then more.foldlM Given.setArgument next
      else readArguments verb rounds (← next.setArgument s) more

/-- What was given on both sides of the command. -/
def flagsOf (before after : Given) : Flags where
  rules := after.rules
  reportFormat := after.reportFormat <|> before.reportFormat
  outputFile := after.outputFile <|> before.outputFile

def commandOf (verb : Verb) (before after : Given) : Except Stop Command :=
  match after.argument with
  | none => .error .misuse
  | some path =>
    let flags := flagsOf before after
    .ok (match verb with
      | .analyzeTemplate => .analyzeTemplate path flags after.config
      | .analyzeDirectory => .analyzeDirectory path flags after.config
      | .validateRules => .validateRules path)

/-- Help may be asked for on one command. -/
def readHelp : List String → Stop
  | [] => .help
  | [name] => if name = "help" ∨ (Verb.ofName? name).isSome then .help else .misuse
  | _ => .misuse

def readCommand (args : List String) : Except Stop Command := do
  let (before, rest) ← readOptions .before .nothing args
  match rest with
  | [] => .error .misuse
  | name :: more =>
    match Verb.ofName? name with
    | some verb => do
      let after ← readArguments verb (more.length + 1) .nothing more
      commandOf verb before after
    | none => .error (if name = "help" then readHelp more else .misuse)

end CommandLine

/-- The command that some arguments ask for, if they are used rightly. -/
def Command.parse? (args : List String) : Option Command :=
  match CommandLine.readCommand args with
  | .ok command => some command
  | .error .help => some .help
  | .error .version => some .version
  | .error .misuse => none

end TemplateAudit
