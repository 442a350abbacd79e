import ContentBlocking.Audit
import ContentBlocking.Dataset.Wire
import ContentBlocking.Number.Binary64
import ContentBlocking.Text.LineList

/-!
# The command line

There are four commands: `compile` writes the rule list of a dataset, `validate` audits a dataset,
`info` counts what is in it, and `check` decides one request by a rule list. What a command does is
a function of the files that it reads; the effects are left to the program around it.
-/

namespace ContentBlocking.CommandLine

open Json

/-! ## Arguments -/

structure CompileArguments where
  input : String
  exceptions : Option String
  unprotected : Option String
  allowlist : Option String
  output : String
  pretty : Bool
  verbose : Bool
deriving DecidableEq, Repr

structure CheckArguments where
  rules : String
  url : String
  page : String
  resourceType : Option String
  loadType : Option String
  loadContext : Option String
deriving DecidableEq, Repr

inductive Command where
  | compile (arguments : CompileArguments)
  | validate (input : String) (unprotected : Option String)
  | info (input : String)
  | check (arguments : CheckArguments)
deriving DecidableEq, Repr

structure OptionForm where
  name : String
  letter : Option Char
  /-- Whether a value follows. -/
  valued : Bool

/-- The options of a command line with their values, in order. A switch has the empty value. -/
abbrev Settings := List (String × String)

/-- Reads options written by their letters after one hyphen. The rest after the letter of an option
with a value is its value; if nothing is left, the value has yet to come. -/
def readLetters? (forms : List OptionForm) :
    List Char → Option (Settings × Option String)
  | [] => some ([], none)
  | letter :: rest =>
      match forms.find? (fun form => form.letter = some letter) with
      | none => none
      | some form =>
          if form.valued then
            match rest with
            | [] => some ([], some form.name)
            | '=' :: value => some ([(form.name, String.ofList value)], none)
            | value => some ([(form.name, String.ofList value)], none)
          else (readLetters? forms rest).map fun (settings, pending) =>
            ((form.name, "") :: settings, pending)

/-- Reads one argument: the options in it, and the option whose value has yet to come. -/
def readArgument? (forms : List OptionForm) (argument : String) :
    Option (Settings × Option String) :=
  match argument.toList with
  | '-' :: '-' :: text =>
      let name := String.ofList (text.takeWhile (fun c => c ≠ '='))
      match forms.find? (fun form => form.name = name) with
      | none => none
      | some form =>
          match text.dropWhile (fun c => c ≠ '=') with
          | [] => if form.valued then some ([], some name) else some ([(name, "")], none)
          | _ :: value => if form.valued then some ([(name, String.ofList value)], none) else none
  | '-' :: first :: letters => readLetters? forms (first :: letters)
  | _ => none

def isValue (argument : String) : Bool :=
  match argument.toList with
  | '-' :: _ :: _ => false
  | _ => true

/-- Reads the arguments of a command. Two hyphens alone end the options; nothing may follow them,
because no command takes anything but options. -/
def readSettings? (forms : List OptionForm) : List String → Option Settings
  | [] | ["--"] => some []
  | argument :: rest =>
      match readArgument? forms argument, rest with
      | some (settings, none), rest => (readSettings? forms rest).map (settings ++ ·)
      | some (settings, some name), value :: rest =>
          if isValue value then
            (readSettings? forms rest).map (settings ++ (name, value) :: ·)
          else none
      | _, _ => none

def compileForms : List OptionForm :=
  [⟨"input", some 'i', true⟩, ⟨"exceptions", some 'e', true⟩, ⟨"unprotected", some 'u', true⟩,
   ⟨"allowlist", some 'a', true⟩, ⟨"output", some 'o', true⟩, ⟨"pretty", none, false⟩,
   ⟨"verbose", some 'v', false⟩]

def validateForms : List OptionForm :=
  [⟨"input", some 'i', true⟩, ⟨"unprotected", some 'u', true⟩]

def infoForms : List OptionForm := [⟨"input", some 'i', true⟩]

def checkForms : List OptionForm :=
  [⟨"rules", some 'r', true⟩, ⟨"url", none, true⟩, ⟨"page", none, true⟩, ⟨"type", none, true⟩,
   ⟨"load-type", none, true⟩, ⟨"load-context", none, true⟩]

/-- The command of an argument list, if it is well formed. No option may be given twice. -/
def Command.ofArguments? : List String → Option Command
  | [] => none
  | command :: arguments => do
      let settings (forms : List OptionForm) : Option Settings :=
        (readSettings? forms arguments).filter fun settings => (settings.map Prod.fst).Nodup
      if command = "compile" then
        let settings ← settings compileForms
        return .compile
          { input := ← settings.lookup "input"
            exceptions := settings.lookup "exceptions"
            unprotected := settings.lookup "unprotected"
            allowlist := settings.lookup "allowlist"
            output := (settings.lookup "output").getD "rules.json"
            pretty := (settings.lookup "pretty").isSome
            verbose := (settings.lookup "verbose").isSome }
      else if command = "validate" then
        let settings ← settings validateForms
        return .validate (← settings.lookup "input") (settings.lookup "unprotected")
      else if command = "info" then
        let settings ← settings infoForms
        return .info (← settings.lookup "input")
      else if command = "check" then
        let settings ← settings checkForms
        return .check
          { rules := ← settings.lookup "rules"
            url := ← settings.lookup "url"
            page := ← settings.lookup "page"
            resourceType := settings.lookup "type"
            loadType := settings.lookup "load-type"
            loadContext := settings.lookup "load-context" }
      else none

/-! ## Files -/

inductive Failure where
  | unreadable (path reason : String)
  | unwritable (path reason : String)
  | badDataset (path : String) (problem : Problem)
  | badRuleList (path : String) (problem : Problem)
  | badAllowlist (path : String) (problem : Problem)
  | unknownName (unknown : UnknownName)
  | invalidRules (rules sources : Nat)
deriving DecidableEq, Repr

def Failure.message : Failure → String
  | .unreadable path reason => "Failed to read '" ++ path ++ "': " ++ reason
  | .unwritable path reason => "Failed to write '" ++ path ++ "': " ++ reason
  | .badDataset path problem =>
      "Invalid tracker data '" ++ path ++ "': " ++ Dataset.problemMessage problem
  | .badRuleList path problem => "Invalid rule list '" ++ path ++ "': " ++ problem.message
  | .badAllowlist path problem => "Invalid tracker allowlist '" ++ path ++ "': " ++ problem.message
  | .unknownName unknown => unknown.message
  | .invalidRules rules sources =>
      toString rules ++ " invalid rules from " ++ toString sources ++ " sources"

/-- The files that a command can read: the bytes of a file, or the reason why there are none. -/
abbrev Files := String → Except String (List UInt8)

def readBytes (files : Files) (path : String) : Except Failure (List UInt8) :=
  (files path).mapError (.unreadable path)

def symbolChar? : Symbol → Option Char
  | .char c => some c
  | .stray => none

def readText (files : Files) (path : String) : Except Failure String := do
  let bytes ← readBytes files path
  match (Symbol.ofBytes bytes).mapM symbolChar? with
  | some text => return String.ofList text
  | none => .error (.unreadable path "stream did not contain valid UTF-8")

def readDataset (files : Files) (path : String) : Except Failure Dataset := do
  let bytes ← readBytes files path
  let loaded ← (Dataset.load (Symbol.ofBytes bytes)).mapError (.badDataset path)
  return loaded.dataset

def readRules (files : Files) (path : String) : Except Failure (List Rule) := do
  let text ← readText files path
  (decodeString RuleList.decode text).mapError (.badRuleList path)

/-- The allowlist in a file; it is empty if no file is given. -/
def readAllowlist (files : Files) : Option String → Except Failure (List AllowlistEntry)
  | none => .ok []
  | some path => do
      let text ← readText files path
      (decodeString Allowlist.decode text).mapError (.badAllowlist path)

def readLines (files : Files) : Option String → Except Failure (Option (List String))
  | none => .ok none
  | some path => do
      let text ← readText files path
      return some (Text.lineList text)

/-! ## Commands -/

/-- What a command does: it prints lines, writes a file if it has one to write, prints further lines
once that is done, and may fail in the end. -/
structure Run where
  opening : List String := []
  file : Option (String × String) := none
  closing : List String := []
  failure : Option Failure := none
deriving DecidableEq, Repr

/-- A number of bytes in units of 1024, with one decimal. -/
def kilobytes (bytes : Nat) : String :=
  let tenths := nearestQuotient (10 * bytes) 1024
  toString (tenths / 10) ++ "." ++ toString (tenths % 10)

def inputLines (input : String) (dataset : Dataset) (overrides : Overrides) : List String :=
  let stats := dataset.stats
  let count (name : String) (domains : Option (List String)) : List String :=
    match domains with
    | some domains => ["  " ++ name ++ ": " ++ toString domains.length ++ " domains"]
    | none => []
  ["  " ++ input ++ " - " ++ toString stats.trackers ++ " trackers, " ++ toString stats.cnames ++
    " cnames"] ++
  count "exceptions" overrides.exceptions ++
  count "unprotected" overrides.unprotected ++
  ["  allowlist: " ++ toString overrides.allowlist.length ++ " entries"]

def resultLines (input output : String) (report : BuildReport) (bytes : Nat) : List String :=
  ["Compiled '" ++ input ++ "' to '" ++ output ++ "'",
   "  Rules:    " ++ toString report.total ++ " (trackers: " ++ toString report.trackerRules ++
     ", cnames: " ++ toString report.cnameRules ++ ", overrides: " ++
     toString report.overrideRules ++ ")",
   "  Dedupe:   " ++ toString report.removed ++ " removed",
   "  Cnames:   " ++ toString report.unresolvedCnames ++ " unresolved",
   "  Size:     " ++ toString bytes ++ " bytes (" ++ kilobytes bytes ++ " KB)"]

def runCompile (files : Files) (arguments : CompileArguments) : Except Failure Run := do
  let dataset ← readDataset files arguments.input
  let exceptions ← readLines files arguments.exceptions
  let unprotected ← readLines files arguments.unprotected
  let allowlist ← readAllowlist files arguments.allowlist
  let overrides : Overrides := { exceptions, unprotected, allowlist }
  let build := dataset.build overrides
  let text := (RuleList.toDocument build.rules).render
    (if arguments.pretty then .pretty else .compact)
  return {
    opening := if arguments.verbose then inputLines arguments.input dataset overrides else []
    file := some (arguments.output, text)
    closing := resultLines arguments.input arguments.output build.report text.utf8ByteSize }

def runValidate (files : Files) (input : String) (unprotected : Option String) :
    Except Failure Run := do
  let dataset ← readDataset files input
  let unprotected ← readLines files unprotected
  let report := dataset.audit unprotected
  if report.isValid then
    return {
      opening :=
        ["Rule list for '" ++ input ++ "' is valid",
         "  Rules:       " ++ toString report.rules] }
  else
    return {
      opening :=
        (toString report.invalid.length ++ " invalid url-filters, isolating...") ::
          report.sources.map ("  source:      " ++ ·)
      failure := some (.invalidRules report.invalid.length report.sources.length) }

def runInfo (files : Files) (input : String) : Except Failure Run := do
  let dataset ← readDataset files input
  let stats := dataset.stats
  let blocking := dataset.trackers.values.countP Tracker.isBlocking
  let withRules := dataset.trackers.values.countP fun tracker => !tracker.ruleList.isEmpty
  return {
    opening :=
      ["Tracker data: " ++ input,
       "  Trackers:    " ++ toString stats.trackers ++ " (" ++ toString blocking ++ " blocking, " ++
         toString withRules ++ " with rules)",
       "  Entities:    " ++ toString stats.entities,
       "  Domains:     " ++ toString stats.domains,
       "  Cnames:      " ++ toString stats.cnames,
       "  Unresolved owners: " ++ toString stats.unresolvedOwners] }

def Decision.word : Decision → String
  | .allow => "ALLOW"
  | .block => "BLOCK"

/-- The line about the rule that made a decision. -/
def ruleLines (rules : List Rule) (ruleIndex : Option Nat) : List String :=
  match ruleIndex with
  | none => []
  | some index =>
      match rules[index]? with
      | none => []
      | some rule =>
          ["  Rule #" ++ toString index ++ ":    " ++ rule.toDocument.render .compact]

def runCheck (files : Files) (arguments : CheckArguments) : Except Failure Run := do
  let rules ← readRules files arguments.rules
  let request ← (Request.ofNames arguments.url arguments.page arguments.resourceType
    arguments.loadType arguments.loadContext).mapError .unknownName
  let verdict := RuleList.verdict rules request
  return {
    opening :=
      [Decision.word verdict.decision ++ " " ++ arguments.url] ++
      ruleLines rules verdict.ruleIndex ++
      verdict.hidden.map ("  Hidden:      " ++ ·) }

def Command.run (files : Files) (command : Command) : Run :=
  let outcome :=
    match command with
    | .compile arguments => runCompile files arguments
    | .validate input unprotected => runValidate files input unprotected
    | .info input => runInfo files input
    | .check arguments => runCheck files arguments
  match outcome with
  | .ok run => run
  | .error failure => { failure := some failure }

/-- What a program prints, and its exit code. -/
structure Transcript where
  output : List String
  errors : List String
  code : Nat
deriving DecidableEq, Repr

/-- What is printed in the course of a run, given why its file cannot be written, if it cannot. -/
def Run.transcript (run : Run) (writeProblem : Option String) : Transcript :=
  let failWith (output : List String) (failure : Failure) : Transcript :=
    ⟨output, ["Error: " ++ failure.message], 1⟩
  match run.file, writeProblem with
  | some (path, _), some reason => failWith run.opening (.unwritable path reason)
  | _, _ =>
      let output := run.opening ++ run.closing
      match run.failure with
      | some failure => failWith output failure
      | none => ⟨output, [], 0⟩

end ContentBlocking.CommandLine
