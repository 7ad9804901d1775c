import SqlTree.Grammar.Session
import SqlTree.Traversal.Collect

/-!
# Command line

The command line reads SQL and prints the trees as JSON, or the references in them one per line.
What it prints and logs is computed here from the settings and the input; nothing is printed where
any part of the input is refused.
-/

namespace SqlTree.CommandLine

/-- The switches of the command line. -/
structure Settings where
  /-- Whether the input is one expression instead of statements. -/
  expression : Bool := false
  /-- Whether references are printed instead of trees. -/
  references : Bool := false
  /-- Whether the trees are printed on one line. -/
  compact : Bool := false
  /-- Whether the steps are logged. -/
  verbose : Bool := false
deriving DecidableEq, Repr

/-- The settings with the switch of a letter set. -/
def Settings.setLetter? (settings : Settings) : Char → Option Settings
  | 'e' => some { settings with expression := true }
  | 'r' => some { settings with references := true }
  | 'c' => some { settings with compact := true }
  | 'v' => some { settings with verbose := true }
  | _ => none

/-- The letter of a switch that is written as a word. -/
def letterOfWord? : String → Option Char
  | "--expr" => some 'e'
  | "--refs" => some 'r'
  | "--compact" => some 'c'
  | "--verbose" => some 'v'
  | _ => none

/-- What a command line asks for. -/
structure Arguments where
  settings : Settings := {}
  /-- The SQL that is given on the command line itself. -/
  sql : Option String := none
  /-- The file that the SQL is read from. -/
  file : Option String := none
deriving DecidableEq, Repr

/-- The arguments with one switch set. -/
def Arguments.setLetter? (arguments : Arguments) (letter : Char) : Option Arguments :=
  (arguments.settings.setLetter? letter).map fun settings => { arguments with settings }

/-- Reads a group of letters behind one dash. What follows the letter `s` is the SQL. -/
def Arguments.setLetters? : Arguments → List Char → Option Arguments
  | arguments, [] => some arguments
  | arguments, 's' :: value :: rest =>
    some { arguments with sql := some (String.ofList (value :: rest)) }
  | arguments, letter :: rest => do (← arguments.setLetter? letter).setLetters? rest

/-- Reads the words of a command line, and nothing where they are not understood. -/
def Arguments.read? : Arguments → List String → Option Arguments
  | arguments, [] => some arguments
  | _, ["--sql"] | _, ["-s"] => none
  | arguments, "--sql" :: sql :: words | arguments, "-s" :: sql :: words =>
    read? { arguments with sql := some sql } words
  | arguments, word :: words => do
    let changed ←
      match letterOfWord? word, word.toList with
      | some letter, _ => arguments.setLetter? letter
      | none, '-' :: '-' :: 's' :: 'q' :: 'l' :: '=' :: sql =>
        some { arguments with sql := some (String.ofList sql) }
      | none, '-' :: '-' :: _ => none
      | none, '-' :: letter :: letters => arguments.setLetters? (letter :: letters)
      | none, _ => if arguments.file.isSome then none else some { arguments with file := some word }
    changed.read? words

/-- The environment variable that holds the SQL where the command line gives none. -/
def sqlVariable : String := "PGSQL_AST_SQL"

/-- The arguments with the SQL of the environment where they give none, and nothing where there is
both SQL and a file to read it from. -/
def Arguments.completed? (arguments : Arguments) (environment : Option String) :
    Option Arguments :=
  let completed := { arguments with sql := arguments.sql <|> environment }
  if completed.sql.isSome && completed.file.isSome then none else some completed

/-- Why an input could not be read. -/
inductive ReadFault where
  | noSuchFile
  | notUtf8
  | other (reason : String)
deriving DecidableEq, Repr

/-- How a fault is worded. -/
def ReadFault.text : ReadFault → String
  | .noSuchFile => "No such file or directory (os error 2)"
  | .notUtf8 => "stream did not contain valid UTF-8"
  | .other reason => reason

/-- What was read, or the place that could not be read and why. -/
abbrev Input := Except (String × ReadFault) String

/-- The input that bytes from a place make. -/
def Input.ofBytes (place : String) (bytes : ByteArray) : Input :=
  match String.fromUTF8? bytes with
  | some text => .ok text
  | none => .error (place, .notUtf8)

/-- What a run prints, logs and returns. -/
structure Report where
  exitCode : Nat
  output : String
  log : String
deriving DecidableEq, Repr

/-- Lines, each with its end. -/
def lines (texts : List String) : String :=
  String.join (texts.map (· ++ "\n"))

/-- The text of an error with its cause, which is indented. -/
def errorText (context cause : String) : String :=
  let indented := cause.toList.flatMap fun character =>
    if character = '\n' then "\n    ".toList else [character]
  "Error: " ++ context ++ "\n\nCaused by:\n    " ++ String.ofList indented ++ "\n"

/-- The report of a run that failed. -/
def failed (log : List String) (context cause : String) : Report :=
  { exitCode := 1, output := "", log := lines log ++ errorText context cause }

/-- What is printed for trees, given their forms and the references in them. -/
def printed (settings : Settings) (forms : List Json) (references : List String) : String :=
  if settings.references then lines references
  else if settings.compact then (Json.array forms).compact ++ "\n"
  else (Json.array forms).pretty ++ "\n"

/-- A log line that is written only by a verbose run. -/
def debugLine (settings : Settings) (text : String) : List String :=
  if settings.verbose then ["DEBUG " ++ text] else []

/-- The log line of a statement that was parsed. -/
def statementLine (parsed : LocatedStatement) : String :=
  "parsed statement kind=\"" ++ parsed.statement.kind ++ "\" span=" ++ parsed.span.text

/-- The log lines of the statements of a batch. -/
def batchLines (settings : Settings) (batch : Batch) : List String :=
  batch.statements.flatMap (fun parsed => debugLine settings (statementLine parsed))
    ++ (batch.failure.map fun failure =>
        debugLine settings ("statement rejected error=" ++ failure.text)).getD []

/-- The run on an expression. -/
def runExpression (settings : Settings) (log : List String) (text : String) : Report :=
  match parseExpression text with
  | .error failure => failed log "failed to parse expression" failure.text
  | .ok expression =>
    { exitCode := 0
      output :=
        printed settings [expression.form] (referencesOf (expression.visit collectReferences))
      log := lines log }

/-- The run on statements. -/
def runStatements (settings : Settings) (log : List String) (text : String) : Report :=
  let batch := Batch.parse (.ofText text)
  let log := log ++ batchLines settings batch
  match batch.result with
  | .error failure => failed log "failed to parse SQL" failure.text
  | .ok statements =>
    { exitCode := 0
      output :=
        printed settings (statements.map Statement.form)
          (referencesOf (statements.forM fun statement => statement.visit collectReferences))
      log := lines (log ++ [" INFO parsed statements count=" ++ Nat.repr statements.length]) }

/-- The run on an input. -/
def run (settings : Settings) (input : Input) : Report :=
  match input with
  | .error (place, fault) => failed [] ("failed to read " ++ place) fault.text
  | .ok text =>
    let log := debugLine settings ("read input bytes=" ++ Nat.repr text.utf8ByteSize)
    if settings.expression then runExpression settings log text
    else runStatements settings log text

end SqlTree.CommandLine
