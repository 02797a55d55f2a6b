import Offside.Decimal.Shortest

/-!
# Writing floats

Every written float has the digits of its shortest decimal. A `Layout` holds
the choices that are left: which exponents are written out in full, whether a
whole number keeps a fraction, how an exponent looks, and the name of the value
that is no number.
-/

namespace Offside.Decimal

/-- The choices of one way to write floats. -/
structure Layout where
  /-- The exponents of the numbers written in full; the others get an exponent mark. -/
  writtenInFull : Int → Bool
  /-- Whether a whole number written in full ends in `.0`. -/
  keepsFraction : Bool
  /-- Whether an exponent of zero or more has a plus sign. -/
  plusSign : Bool
  /-- The least number of digits of an exponent. -/
  exponentDigits : Nat
  /-- The text of the value that is no number. -/
  nanText : String

/-- The text padded in front with zeros to at least `width` characters. -/
def padZeros (width : Nat) (digits : List Char) : List Char :=
  List.replicate (width - digits.length) '0' ++ digits

/-- Digits with a point after the first `whole` of them, zeros filling either side. -/
def Scientific.inFull (number : Scientific) (keepsFraction : Bool) : List Char :=
  let whole := number.exponent + 1
  let inFront :=
    if whole ≤ 0 then ['0']
    else number.digits.take whole.toNat
      ++ List.replicate (whole.toNat - number.digits.length) '0'
  let behind := List.replicate (-whole).toNat '0' ++ number.digits.drop whole.toNat
  if behind.isEmpty then inFront ++ (if keepsFraction then ['.', '0'] else [])
  else inFront ++ '.' :: behind

/-- One digit, a point with the others if there are any, and the exponent. -/
def Scientific.withMark (number : Scientific) (layout : Layout) : List Char :=
  let behind := number.digits.drop 1
  let sign := if number.exponent < 0 then ['-'] else if layout.plusSign then ['+'] else []
  number.digits.take 1 ++ (if behind.isEmpty then [] else '.' :: behind)
    ++ 'e' :: sign
    ++ padZeros layout.exponentDigits (Nat.toDigits 10 number.exponent.natAbs)

/-- The text of a float. -/
def Layout.write (layout : Layout) (value : Binary64) : String :=
  let signed (negative : Bool) (text : List Char) : String :=
    String.ofList (if negative then '-' :: text else text)
  match value.decode with
  | .nan => layout.nanText
  | .infinite negative => signed negative "inf".toList
  | .finite negative mantissa exponent =>
      let number := if mantissa = 0 then ⟨['0'], 0⟩ else shortest mantissa exponent
      signed negative <|
        if mantissa = 0 ∨ layout.writtenInFull number.exponent then
          number.inFull layout.keepsFraction
        else number.withMark layout

end Offside.Decimal
