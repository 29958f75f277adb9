import Bindery.Enumeration

/-!
# List models and markers

The entries of a list are marked by a bullet or by their ordinal, in one of several numbering
systems.  Markers are produced for any ordinal, also for zero, which has an empty numeral in the
systems that have no zero.

* `ListModel`: the systems.
* `ListModel.marker`: the marker of an entry.
-/

namespace Bindery

/-- How the entries of a list are numbered. -/
inductive ListModel where
  | none
  | number
  | upperRoman
  | lowerRoman
  | chinese
  | upperAlphabet
  | lowerAlphabet
deriving DecidableEq, Repr

namespace ListModel

/-- The name a list model is written by. -/
def name : ListModel → String
  | none => "None"
  | number => "Number"
  | upperRoman => "UpperRoman"
  | lowerRoman => "LowerRoman"
  | chinese => "Chinese"
  | upperAlphabet => "UpperAlphabet"
  | lowerAlphabet => "LowerAlphabet"

instance : Enumeration ListModel where
  values := [none, number, upperRoman, lowerRoman, chinese, upperAlphabet, lowerAlphabet]
  name := name
  find_name value := by cases value <;> decide

end ListModel

namespace Numeral

/-- The Roman signs and pairs of signs, greatest first. -/
def romanSigns : List (Nat × List Char) :=
  [(1000, ['M']), (900, ['C', 'M']), (500, ['D']), (400, ['C', 'D']), (100, ['C']),
   (90, ['X', 'C']), (50, ['L']), (40, ['X', 'L']), (10, ['X']), (9, ['I', 'X']), (5, ['V']),
   (4, ['I', 'V']), (1, ['I'])]

/-- Each sign as often as it still fits, from the greatest to the least. -/
def greedy : List (Nat × List Char) → Nat → List Char
  | [], _ => []
  | (value, sign) :: signs, n =>
    (List.replicate (n / value) sign).flatten ++ greedy signs (n % value)

/-- The Roman numeral of a number. -/
def roman (n : Nat) : List Char :=
  greedy romanSigns n

/-- The capital letter with the given place in the alphabet, counted from zero. -/
def letter (place : Nat) : Char :=
  Char.ofNat ('A'.toNat + place)

/-- Letters counted as `A`, …, `Z`, `AA`, `AB`, and so on: digits from one to twenty-six, so that
no numeral has a leading zero. -/
def alphabetic : Nat → List Char
  | 0 => []
  | n + 1 => alphabetic (n / 26) ++ [letter (n % 26)]
termination_by n => n
decreasing_by exact Nat.lt_succ_of_le (Nat.div_le_self n 26)

/-- The Chinese digits from zero to nine. -/
def chineseDigits : List Char :=
  ['零', '一', '二', '三', '四', '五', '六', '七', '八', '九']

/-- A Chinese digit. -/
def chineseDigit (n : Nat) : List Char :=
  chineseDigits[n]?.toList

/-- A Chinese digit, or nothing for zero. -/
def chineseUnits (n : Nat) : List Char :=
  if n = 0 then [] else chineseDigit n

/-- The Chinese numeral of a number below a hundred; from a hundred on, the decimal one. -/
def chinese (n : Nat) : List Char :=
  if n < 10 then chineseDigit n
  else if n < 20 then '十' :: chineseUnits (n % 10)
  else if n < 100 then chineseDigit (n / 10) ++ '十' :: chineseUnits (n % 10)
  else Nat.toDigits 10 n

end Numeral

namespace ListModel

/-- The numeral of an ordinal in a numbering system, and the sign that follows it. -/
def markerChars : ListModel → Nat → List Char
  | none, _ => ['*']
  | number, n => Nat.toDigits 10 n ++ ['.']
  | upperRoman, n => Numeral.roman n ++ ['.']
  | lowerRoman, n => (Numeral.roman n).map Char.toLower ++ ['.']
  | upperAlphabet, n => Numeral.alphabetic n ++ ['.']
  | lowerAlphabet, n => (Numeral.alphabetic n).map Char.toLower ++ ['.']
  | chinese, n => Numeral.chinese n ++ ['、']

/-- The marker of the entry with this ordinal, counted from one. -/
def marker (model : ListModel) (ordinal : Nat) : String :=
  String.ofList (model.markerChars ordinal)

end ListModel

end Bindery
