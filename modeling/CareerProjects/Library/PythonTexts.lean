import CareerProjects.Library.Documents
import CareerProjects.Library.PythonNumbers

/-! The texts that Python's `str` and `repr` make of numbers, lists and dictionaries. How the characters of a text are
quoted depends on the Unicode database and is a parameter. -/

namespace CareerProjects.Library

def Numeral.text (numeral : Numeral) : String :=
  let digits := (Nat.toDigits 10 numeral.digits).leftpad (numeral.fraction.getD 0 + 1) '0'
  let mantissa := match numeral.fraction with
    | none => digits
    | some places => digits.take (digits.length - places) ++ '.' :: digits.drop (digits.length - places)
  let exponent := match numeral.exponent with
    | none => []
    | some power => 'e' :: (if power < 0 then '-' else '+') :: (Nat.toDigits 10 power.natAbs).leftpad 2 '0'
  String.ofList ((if numeral.negative then ['-'] else []) ++ mantissa ++ exponent)

def PythonNumber.text : PythonNumber → String
  | .int value => (Numeral.ofInt value).text
  | .float (.finite negative magnitude) => (magnitude.repr negative).text
  | .float (.infinity negative) => if negative then "-inf" else "inf"

example : (Numeral.mk true 125 (some 4) (some (-7))).text = "-0.0125e-07" := by decide

namespace Document

variable {κ α : Type} (quote : κ → String) (scalar : α → String)

mutual

def repr : Document κ α → String
  | .object entries => "\x7b" ++ String.intercalate ", " (reprEntries entries) ++ "\x7d"
  | .array items => "[" ++ String.intercalate ", " (reprItems items) ++ "]"
  | .scalar value => scalar value

def reprEntries : List (κ × Document κ α) → List String
  | [] => []
  | (key, value) :: rest => (quote key ++ ": " ++ repr value) :: reprEntries rest

def reprItems : List (Document κ α) → List String
  | [] => []
  | item :: rest => repr item :: reprItems rest

end

end Document

end CareerProjects.Library
