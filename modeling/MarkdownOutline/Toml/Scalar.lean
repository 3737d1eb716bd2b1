import MarkdownOutline.Text.Ascii
import MarkdownOutline.Text.Blank
import MarkdownOutline.Toml.Value

/-!
# TOML numbers and dates

The values that are written without quotes or brackets.
-/

namespace MarkdownOutline.Toml

open Text

/-- The digits of a group in which single underscores may stand between two of them. -/
def groupedDigits? (isDigit : Char → Bool) (s : List Char) : Option (List Char) :=
  let groups := splitAt '_' s
  if groups.all fun group => !group.isEmpty && group.all isDigit then some groups.flatten else none

/-- The digits of a decimal number without zeros in front. -/
def plainDigits? (s : List Char) : Option (List Char) :=
  match groupedDigits? Char.isDigit s with
  | some digits => if digits.head? == some '0' && 1 < digits.length then none else some digits
  | none => none

/-- The rest behind a sign if there is one, and whether the sign is a minus. -/
def takeSign : List Char → Bool × List Char
  | '-' :: rest => (true, rest)
  | '+' :: rest => (false, rest)
  | s => (false, s)

def signed (negative : Bool) (n : Nat) : Int := if negative then -n else n

/-- The whole number that a text writes, in base ten or behind the mark of another base. -/
def integer? (s : List Char) : Option Int :=
  let inBase (base : Nat) (isDigit : Char → Bool) (digits : List Char) : Option Int :=
    (groupedDigits? isDigit digits).map fun digits => Int.ofNat (numberValue base digits)
  match s with
  | '0' :: 'x' :: digits => inBase 16 isHexDigit digits
  | '0' :: 'o' :: digits => inBase 8 (fun c => '0' ≤ c && c ≤ '7') digits
  | '0' :: 'b' :: digits => inBase 2 (fun c => c == '0' || c == '1') digits
  | _ =>
    let (negative, digits) := takeSign s
    (plainDigits? digits).map fun digits => signed negative (decimalValue digits)

def exponent? (s : List Char) : Option Int :=
  let (negative, digits) := takeSign s
  (groupedDigits? Char.isDigit digits).map fun digits => signed negative (decimalValue digits)

def decimal? (s : List Char) : Option FloatLiteral := do
  let (mantissa, power) := s.span fun c => c != 'e' && c != 'E'
  let (whole, fraction) := mantissa.span (· != '.')
  if power.isEmpty && fraction.isEmpty then none
  let whole ← plainDigits? whole
  let fraction ← if fraction.isEmpty then some [] else groupedDigits? Char.isDigit (fraction.drop 1)
  let exponent ← if power.isEmpty then some 0 else exponent? (power.drop 1)
  return .decimal (decimalValue (whole ++ fraction)) (exponent - fraction.length)

def float? (s : List Char) : Option FloatLiteral :=
  let (_, unsigned) := takeSign s
  if unsigned = ['i', 'n', 'f'] || unsigned = ['n', 'a', 'n'] then some .special
  else decimal? unsigned

/-- The number lies below the half-way point from the greatest double to the next power of two,
from which on numbers are rounded to infinity. -/
def FloatLiteral.isFinite : FloatLiteral → Bool
  | .special => true
  | .decimal digits exponent =>
    let bound := Nat.pow 2 1024 - Nat.pow 2 970
    let magnitude := exponent + (Nat.toDigits 10 digits).length
    if digits = 0 || magnitude < 300 then true
    else if magnitude > 310 then false
    else if exponent ≥ 0 then digits * Nat.pow 10 exponent.toNat < bound
    else digits < bound * Nat.pow 10 (-exponent).toNat

def fixedDigits? (count : Nat) (s : List Char) : Option (Nat × List Char) :=
  let digits := s.take count
  if digits.length = count && digits.all Char.isDigit then some (decimalValue digits, s.drop count)
  else none

/-- What stands behind a character that the text must start with. -/
def behind? (c : Char) : List Char → Option (List Char)
  | d :: rest => if d == c then some rest else none
  | [] => none

def daysIn (year month : Nat) : Nat :=
  if month = 2 then if year % 4 = 0 && (year % 100 != 0 || year % 400 = 0) then 29 else 28
  else if [4, 6, 9, 11].contains month then 30 else 31

def date? (s : List Char) : Option (List Char) := do
  let (year, s) ← fixedDigits? 4 s
  let (month, s) ← fixedDigits? 2 (← behind? '-' s)
  let (day, s) ← fixedDigits? 2 (← behind? '-' s)
  if 1 ≤ month && month ≤ 12 && 1 ≤ day && day ≤ daysIn year month then some s else none

/-- What stands behind a time of the day. Seconds and their fraction may be left out. -/
def time? (s : List Char) : Option (List Char) := do
  let (hour, s) ← fixedDigits? 2 s
  let (minute, s) ← fixedDigits? 2 (← behind? ':' s)
  if hour > 23 || minute > 59 then none
  match s with
  | ':' :: s =>
    let (second, s) ← fixedDigits? 2 s
    if second > 60 then none
    match s with
    | '.' :: s =>
      let (fraction, s) := s.span Char.isDigit
      if fraction.isEmpty then none else some s
    | s => some s
  | s => some s

def isOffset (s : List Char) : Bool :=
  match s with
  | [] => true
  | ['Z'] => true
  | ['z'] => true
  | c :: s =>
    (c == '+' || c == '-') && (do
      let (hour, s) ← fixedDigits? 2 s
      let (minute, s) ← fixedDigits? 2 (← behind? ':' s)
      return s.isEmpty && hour ≤ 23 && minute ≤ 59).getD false

def isDateTime (s : List Char) : Bool :=
  match date? s with
  | some [] => true
  | some (c :: s) =>
    (c == 'T' || c == 't' || c == ' ') && ((time? s).map isOffset).getD false
  | none => ((time? s).map List.isEmpty).getD false

def scalar? (s : List Char) : Option Value :=
  if s = "true".toList then some (.boolean true)
  else if s = "false".toList then some (.boolean false)
  else match integer? s with
    | some n => some (.integer n)
    | none => match float? s with
      | some x => some (.float x)
      | none => if isDateTime s then some (.dateTime (String.ofList s)) else none

end MarkdownOutline.Toml
