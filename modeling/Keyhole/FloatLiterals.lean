import Keyhole.Binary64
import Keyhole.YamlSubset

/-!
# `float` of a text

The double that Python reads from a text: a decimal literal is rounded to the nearest double,
and there are words for the infinities and for what is no number.

* `literalValue`: the rational number of a literal;
* `floatOfText`, `pyFloat`: `float` of a literal, and of any text. -/

namespace KeyholeFloats

open KeyholeJson KeyholeNamespace
open Binary64
open KeyholePipeline (isDecimal decimal)
open KeyholeSubset (afterSign floatLiteral)

/-- The number of a text of digits, between which other characters do not count. -/
def digitsValue (text : Text) : Nat :=
  (text.filter isDecimal).foldl (fun n c => 10 * n + (decimal c).getD 0) 0

/-- The number of a text of digits with a sign before it. -/
def signedValue (text : Text) : ℤ :=
  if text.head? = some '-' then -digitsValue text else digitsValue text

/-- The rational number of a decimal literal. -/
def literalValue (text : Text) : ℚ :=
  let isExponent := fun c : Char => c == 'e' || c == 'E'
  let body := (afterSign text).takeWhile fun c => !isExponent c
  let fraction := (body.dropWhile (· != '.')).filter isDecimal
  let exponent := signedValue (((afterSign text).dropWhile fun c => !isExponent c).drop 1)
  let size : ℚ := digitsValue body * 10 ^ (exponent - fraction.length)
  if text.head? = some '-' then -size else size

/-- `float(text)` of a literal. -/
def floatOfText (text : Text) : Double :=
  let word := lower (String.ofList (afterSign text))
  if word = "nan" then .nan
  else if word = "inf" ∨ word = "infinity" then .infinite (decide (text.head? = some '-'))
  else Double.ofRat (literalValue text)

/-- `float(text)`, where it does not raise. -/
def pyFloat (text : Text) : Option Double :=
  if floatLiteral (stripText text) then some (floatOfText (stripText text)) else none

/-- A literal of zeros is zero. -/
theorem floatOfText_of_digits {text : Text}
    (hword : lower (String.ofList (afterSign text)) ∉ ["nan", "inf", "infinity"])
    (hdigits : digitsValue ((afterSign text).takeWhile fun c => !(c == 'e' || c == 'E')) = 0) :
    floatOfText text = .finite 0 := by
  rw [List.mem_cons, List.mem_cons, List.mem_singleton, not_or, not_or] at hword
  have hvalue : literalValue text = 0 := by
    simp only [literalValue, hdigits, Nat.cast_zero, zero_mul, neg_zero, ite_self]
  simp only [floatOfText]
  rw [if_neg hword.1, if_neg (not_or.mpr hword.2), hvalue, Double.ofRat, nearest_zero]

end KeyholeFloats
