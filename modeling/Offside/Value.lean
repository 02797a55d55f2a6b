import Offside.Decimal.Layout
import Offside.Text.Blank
import Offside.Text.CaseMapping

/-!
# Values

What expressions evaluate to. Each value has a type name, a text that `print`
writes, a text that stands for it inside a printed list, and counts as true or
false where a condition is asked for.
-/

namespace Offside

/-- The functions that need no definition. -/
inductive Builtin where
  | print | range
  deriving DecidableEq, Repr

namespace Builtin

/-- The name of a function. -/
def name : Builtin → String
  | print => "print"
  | range => "range"

/-- What is written for a function that is printed itself. -/
def display (function : Builtin) : String :=
  s!"<built-in function {function.name}>"

/-- The function of a name. -/
def ofName? : String → Option Builtin
  | "print" => some print
  | "range" => some range
  | _ => none

end Builtin

/-- The methods of texts. -/
inductive TextMethod where
  | strip | stripStart | stripEnd | upper | lower
  deriving DecidableEq, Repr

namespace TextMethod

/-- The name of a method. -/
def name : TextMethod → String
  | strip => "strip"
  | stripStart => "lstrip"
  | stripEnd => "rstrip"
  | upper => "upper"
  | lower => "lower"

/-- What is written for a method that is printed itself. -/
def display (method : TextMethod) : String :=
  s!"<built-in method {method.name} of str object>"

/-- The method of a name. -/
def ofName? : String → Option TextMethod
  | "strip" => some strip
  | "lstrip" => some stripStart
  | "rstrip" => some stripEnd
  | "upper" => some upper
  | "lower" => some lower
  | _ => none

/-- What a method makes of the text it belongs to. -/
def apply (method : TextMethod) (receiver : String) : String :=
  let characters := receiver.toList
  String.ofList <| match method with
    | strip => Text.trim characters
    | stripStart => Text.trimStart characters
    | stripEnd => Text.trimEnd characters
    | upper => Text.toUpper characters
    | lower => Text.toLower characters

end TextMethod

/-- A value. -/
inductive Value where
  | integer (value : Int64)
  | float (value : Float)
  | boolean (value : Bool)
  | text (content : String)
  | list (items : List Value)
  | builtin (function : Builtin)
  | method (receiver : String) (method : TextMethod)
  | none

/-- A value as a number. -/
inductive Number where
  | integer (value : Int64)
  | float (value : Float)

/-- The float nearest to a number. -/
def Number.toFloat : Number → Float
  | integer value => value.toFloat
  | float value => value

namespace Value

/-- The name of a value's type in messages. -/
def typeName : Value → String
  | integer _ => "int"
  | float _ => "float"
  | boolean _ => "bool"
  | text _ => "str"
  | list _ => "list"
  | builtin _ => "builtin_function_or_method"
  | method .. => "method"
  | none => "NoneType"

/-- The integer that a value counts as; a truth value counts as one or zero. -/
def integer? : Value → Option Int64
  | integer value => some value
  | boolean value => some (if value then 1 else 0)
  | _ => Option.none

/-- The number that a value counts as. -/
def number? : Value → Option Number
  | integer value => some (.integer value)
  | boolean value => some (.integer (if value then 1 else 0))
  | float value => some (.float value)
  | _ => Option.none

/-- A value that counts as an integer counts as that number. -/
theorem number?_of_integer? {value : Value} {number : Int64}
    (counts : value.integer? = some number) : value.number? = some (.integer number) := by
  cases value <;> cases counts <;> rfl

/-- Whether a condition of this value holds. -/
def isTruthy : Value → Bool
  | integer value => value != 0
  | float value => value != 0
  | boolean value => value
  | text content => !content.isEmpty
  | list items => !items.isEmpty
  | builtin _ | method .. => true
  | none => false

/-- Printed floats are written in full from 10⁻⁴ to below 10¹⁶ and never look like
integers; an exponent has a sign and two digits. -/
def floatLayout : Decimal.Layout where
  writtenInFull exponent := -4 ≤ exponent && exponent < 16
  keepsFraction := true
  plusSign := true
  exponentDigits := 2
  nanText := "nan"

/-- A text between single quotes; a backslash is put before each of these quotes and each
backslash. -/
def quote (content : String) : String :=
  let escaped := content.toList.flatMap fun character =>
    if character = '\\' ∨ character = '\'' then ['\\', character] else [character]
  String.ofList ('\'' :: escaped ++ ['\''])

/-- Some texts between brackets, with commas. -/
def bracketed (items : List String) : String :=
  "[" ++ ", ".intercalate items ++ "]"

/-- What stands for a value inside a list if `print` would write `shown` for it: texts are
quoted there. -/
def listed : Value → String → String
  | text content, _ => quote content
  | _, shown => shown

mutual

/-- What `print` writes for a value. -/
def display : Value → String
  | integer value => toString value.toInt
  | float value => floatLayout.write (.ofFloat value)
  | boolean value => if value then "True" else "False"
  | text content => content
  | list items => bracketed (displayItems items)
  | builtin function => function.display
  | method _ called => called.display
  | none => "None"

/-- What stands for the items of a list between its brackets. -/
def displayItems : List Value → List String
  | [] => []
  | item :: later => item.listed item.display :: displayItems later

end

/-- What stands for a value inside a list. -/
def displayItem (value : Value) : String :=
  value.listed value.display

/-- The items of a list are written one by one. -/
theorem displayItems_eq_map (items : List Value) : displayItems items = items.map displayItem := by
  induction items with
  | nil => rfl
  | cons item later inductionHypothesis =>
      simp [displayItems, displayItem, inductionHypothesis]

end Value

end Offside
