import Offside.Listing
import Offside.Report

/-!
# Calls of the program

A call has options, and it finds a standard input, files and memory around it. `CommandLine.call`
says what the call writes and which code it ends with: every failure ends with code 1.
-/

namespace Offside

/-- What a call of the program asks for. -/
structure Options where
  /-- The file of the program; without one the standard input is the program. -/
  path? : Option String := none
  /-- Whether the call only looks for defects. -/
  check : Bool := false
  /-- Whether the call only lists the program. -/
  tree : Bool := false
  /-- Whether the output is written as JSON. -/
  json : Bool := false
  /-- The file of the lines that the output is compared with. -/
  expected? : Option String := none
  limits : Limits := {}
  deriving DecidableEq

namespace CommandLine

/-- What a call of the program finds around it. -/
structure Surroundings where
  /-- The text of the standard input. -/
  input : String
  /-- The text of a file, or why it cannot be read. -/
  file : String → Except String String
  memory : Memory := .assumed

/-- What a call of the program leaves behind. -/
structure Outcome where
  code : Nat
  output : String := ""
  errors : String := ""
  deriving DecidableEq, Repr

/-- Some lines as one text. -/
def unlines (lines : List String) : String :=
  String.join (lines.map (· ++ "\n"))

/-- The lines of a text. A last line needs no newline, and a carriage return before a newline
belongs to neither line. -/
def fileLines (text : String) : List String :=
  let pieces := Source.pieces text.toList
  let ended := pieces.dropLast.map fun piece =>
    if piece.getLast? = some '\r' then piece.dropLast else piece
  let last := (pieces.getLast?.getD []) |> fun piece => if piece.isEmpty then [] else [piece]
  (ended ++ last).map String.ofList

/-- What is written about a failure: its message and, where the place is known, the line with
a mark under the place. -/
def failureText (source : String) (failure : Failure) : String :=
  let place :=
    match failure.line?, failure.column? with
    | some number, some column =>
        match (Source.lines source).find? (·.number == number) with
        | some line =>
            ["    " ++ String.ofList line.trimmed,
              "    " ++ String.ofList (List.replicate column ' ') ++ "^"]
        | none => []
    | _, _ => []
  unlines (("Error: " ++ failure.message) :: place)

/-- The outcome of a failure. -/
def failed (source : String) (failure : Failure) : Outcome :=
  { code := 1, errors := failureText source failure }

/-- The outcome of a file that cannot be read. -/
def unreadable (path cause : String) : Outcome :=
  { code := 1, errors := s!"Error: Reading {path}\n\nCaused by:\n    {cause}\n" }

/-- The text of the program, or the outcome where it cannot be read. -/
def Surroundings.source (surroundings : Surroundings) (path? : Option String) :
    Except Outcome String :=
  match path? with
  | some path => (surroundings.file path).mapError (unreadable path)
  | none => .ok surroundings.input

/-- What is written about the lines that differ from the expected ones. -/
def differences (output expected : List String) : List String :=
  (output.zip expected).zipIdx.filterMap fun ((found, wanted), before) =>
    if found = wanted then none
    else
      some s!"  line {before + 1}: expected {Text.quoted wanted}, got {Text.quoted found}"

/-- The code and the messages of a comparison with expected lines. -/
def compared (report : Report) (path : String) (expected : List String) : Nat × String :=
  if report.matchesLines expected then (0, s!"Output matches {path}\n")
  else
    let counts := s!"(expected {expected.length} lines, got {report.output.length})"
    (1, unlines (s!"Output does not match {path} {counts}"
      :: differences report.output expected))

/-- Only looks for defects. -/
def check (source : String) : Outcome :=
  match Defect.first? source with
  | none => { code := 0, output := "OK\n" }
  | some found => failed source (.defect found)

/-- Only lists the program. -/
def tree (source : String) : Outcome :=
  match Program.ofSource source with
  | .ok program => { code := 0, output := program.listing ++ "\n" }
  | .error failure => failed source failure

/-- Runs the program and compares its lines with the expected ones, if there are some. -/
def execute (options : Options) (surroundings : Surroundings) (source : String) : Outcome :=
  match Offside.execute source { options.limits with memory := surroundings.memory } with
  | none => { code := 1, errors := "Error: The program does not end\n" }
  | some result =>
      let report := Report.ofResult result
      let output := if options.json then report.indentedJson ++ "\n" else unlines report.output
      match result, options.expected? with
      | .error failure, _ => { failed source failure with output }
      | .ok _, none => { code := 0, output }
      | .ok _, some path =>
          match surroundings.file path with
          | .error cause => { unreadable path cause with output }
          | .ok text =>
              let (code, errors) := compared report path (fileLines text)
              { code, output, errors }

/-- What a call of the program leaves behind. -/
def call (options : Options) (surroundings : Surroundings) : Outcome :=
  match surroundings.source options.path? with
  | .error outcome => outcome
  | .ok source =>
      if options.check then check source
      else if options.tree then tree source
      else execute options surroundings source

end CommandLine

end Offside
