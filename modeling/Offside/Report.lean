import Offside.Execution

/-!
# Reports

A report holds the lines that were printed or the message of an error. It can
be compared with expected lines and written as JSON, on one line or indented.
-/

namespace Offside

/-- The outcome of a run. -/
structure Report where
  output : List String
  error? : Option String
  deriving DecidableEq

namespace Report

/-- The report of a run that printed some lines. -/
def success (output : List String) : Report := ⟨output, none⟩

/-- The report of a run that failed. -/
def failure (message : String) : Report := ⟨[], some message⟩

/-- The report of a run. -/
def ofResult : Except Failure (List String) → Report
  | .ok output => success output
  | .error error => failure error.message

/-- Whether there was no error. -/
def isSuccess (report : Report) : Bool :=
  report.error?.isNone

/-- Whether the run succeeded and printed exactly the expected lines. -/
def matchesLines (report : Report) (expected : List String) : Bool :=
  report.isSuccess && report.output == expected

/-- Only the report of the expected lines matches them. -/
theorem matchesLines_iff (report : Report) (expected : List String) :
    report.matchesLines expected ↔ report = success expected := by
  obtain ⟨output, error?⟩ := report
  cases error? <;> simp [matchesLines, isSuccess, success]

/-- The form of a character inside a JSON string. -/
def jsonForm (character : Char) : List Char :=
  match character with
  | '"' => ['\\', '"']
  | '\\' => ['\\', '\\']
  | '\x08' => ['\\', 'b']
  | '\t' => ['\\', 't']
  | '\n' => ['\\', 'n']
  | '\x0c' => ['\\', 'f']
  | '\r' => ['\\', 'r']
  | _ =>
      if character.toNat < 0x20 then
        ['\\', 'u'] ++ Decimal.padZeros 4 (Nat.toDigits 16 character.toNat)
      else [character]

/-- A text as a JSON string. -/
def jsonText (text : String) : String :=
  String.ofList ('"' :: text.toList.flatMap jsonForm ++ ['"'])

/-- The error of a report as a JSON value. -/
def jsonError (report : Report) : String :=
  (report.error?.map jsonText).getD "null"

/-- The report as JSON on one line. -/
def json (report : Report) : String :=
  "\x7b\"output\":[" ++ ",".intercalate (report.output.map jsonText) ++ "],\"error\":"
    ++ report.jsonError ++ "\x7d"

/-- The report as JSON with one line for each field and each printed line. -/
def indentedJson (report : Report) : String :=
  let output :=
    if report.output.isEmpty then "[]"
    else "[\n    " ++ ",\n    ".intercalate (report.output.map jsonText) ++ "\n  ]"
  "\x7b\n  \"output\": " ++ output ++ ",\n  \"error\": " ++ report.jsonError ++ "\n\x7d"

end Report

end Offside
