import RecordFilter.Json.Basic
import RecordFilter.Numeric.Decimal

/-! Words of TOML that stand for values: truth values, integers, floats, dates and times. -/

namespace RecordFilter.Toml

/-- Digits with single underscores between them, without the underscores. -/
def plainDigits? (isDigit : Char → Bool) : List Char → Option (List Char)
  | [] => none
  | [last] => if isDigit last then some [last] else none
  | digit :: '_' :: next :: rest =>
    if isDigit digit && isDigit next then (plainDigits? isDigit (next :: rest)).map (digit :: ·)
    else none
  | digit :: rest => if isDigit digit then (plainDigits? isDigit rest).map (digit :: ·) else none

/-- The number that digits of a base denote. -/
def inBase (base : Nat) (text : List Char) : Nat :=
  text.foldl (fun total digit => base * total + (hexValue? digit).getD 0) 0

/-- Whether a character is a digit of a base up to sixteen. -/
def isDigitOf (base : Nat) (character : Char) : Bool :=
  (hexValue? character).any (· < base)

/-- The digits of a decimal whole number, without a zero in front of others. -/
def wholeDigits? (text : List Char) : Option (List Char) :=
  (plainDigits? Char.isDigit text).bind fun plain =>
    if plain.head? == some '0' && plain.length != 1 then none else some plain

/-- An integer as a document, if it fits in 64 bits with its sign. -/
def ofInt? (value : Int) : Option Json :=
  if value < 9223372036854775808 then (Number.ofInt? value).map Json.number else none

/-- An integer in one of four bases. -/
def integer? (text : List Char) : Option Json :=
  match text with
  | '0' :: 'x' :: digits => (plainDigits? (isDigitOf 16) digits).bind fun plain => ofInt? (inBase 16 plain)
  | '0' :: 'o' :: digits => (plainDigits? (isDigitOf 8) digits).bind fun plain => ofInt? (inBase 8 plain)
  | '0' :: 'b' :: digits => (plainDigits? (isDigitOf 2) digits).bind fun plain => ofInt? (inBase 2 plain)
  | signed =>
    let (negative, unsigned) := Decimal.takeSign signed
    (wholeDigits? unsigned).bind fun plain =>
      ofInt? (if negative then -(ofDigits plain : Int) else ofDigits plain)

/-- The fraction of a float, which is empty or a point with digits. -/
def fraction? (text : List Char) : Option (List Char) :=
  match text with
  | [] => some []
  | '.' :: digits => (plainDigits? Char.isDigit digits).map ('.' :: ·)
  | _ => none

/-- The exponent of a float, which is empty or a letter with an optional sign and digits. -/
def exponent? (text : List Char) : Option (List Char) :=
  match text with
  | [] => some []
  | _ :: signed =>
    let (negative, unsigned) := Decimal.takeSign signed
    (plainDigits? Char.isDigit unsigned).map fun plain =>
      'e' :: (if negative then '-' :: plain else plain)

/-- A double as a document, where what is not finite is null. -/
def ofDouble (value : Double) : Json :=
  ((Number.ofDouble? value).map Json.number).getD .null

/-- A float: a whole number with a fraction, an exponent, or both. -/
def float? (text : List Char) : Option Json :=
  let (negative, unsigned) := Decimal.takeSign text
  let (mantissa, exponent) := unsigned.span fun character => character != 'e' && character != 'E'
  let (whole, fraction) := mantissa.span (· != '.')
  if fraction.isEmpty && exponent.isEmpty then none
  else
    (wholeDigits? whole).bind fun wholePart =>
      (fraction? fraction).bind fun fractionPart =>
        (exponent? exponent).bind fun exponentPart =>
          (Decimal.read (wholePart ++ fractionPart ++ exponentPart)).bind fun decimal =>
            let value := { decimal with negative }.toDouble
            -- A number too large is refused, but one too far below zero is an infinity.
            if value == Double.infinity false then none else some (ofDouble value)

/-- The words for infinity and for what is no number, with or without a sign, which are null. -/
def special? (text : List Char) : Option Json :=
  let (_, word) := Decimal.takeSign text
  if word == ['i', 'n', 'f'] || word == ['n', 'a', 'n'] then some .null else none

/-- A number of just so many digits, and what follows it. -/
def takeDigits? (count : Nat) (text : List Char) : Option (Nat × List Char) :=
  let front := text.take count
  if front.length == count && front.all Char.isDigit then some (ofDigits front, text.drop count)
  else none

/-- The number of days of a month. -/
def daysOf (year month : Nat) : Nat :=
  let isLeap := year % 4 == 0 && (year % 100 != 0 || year % 400 == 0)
  match month with
  | 2 => if isLeap then 29 else 28
  | 4 => 30
  | 6 => 30
  | 9 => 30
  | 11 => 30
  | _ => 31

/-- A date at the start of a text, and what follows it. -/
def takeDate? (text : List Char) : Option (List Char × List Char) :=
  match takeDigits? 4 text with
  | some (year, '-' :: afterYear) =>
    match takeDigits? 2 afterYear with
    | some (month, '-' :: afterMonth) =>
      (takeDigits? 2 afterMonth).bind fun (day, rest) =>
        if 1 ≤ month && month ≤ 12 && 1 ≤ day && day ≤ daysOf year month then
          some (text.take 10, rest)
        else none
    | _ => none
  | _ => none

/-- The fraction of a second at the start of a text: nine places count,
and zeros at their end do not. -/
def takeFraction? (text : List Char) : Option (List Char × List Char) :=
  match text with
  | '.' :: rest =>
    let (digits, after) := spanDigits rest
    let kept := ((digits.take 9).reverse.dropWhile (· == '0')).reverse
    if digits.isEmpty then none
    else some (if kept.isEmpty then [] else '.' :: kept, after)
  | _ => some ([], text)

/-- A time of day at the start of a text, and what follows it. -/
def takeTime? (text : List Char) : Option (List Char × List Char) :=
  match takeDigits? 2 text with
  | some (hour, ':' :: afterHour) =>
    match takeDigits? 2 afterHour with
    | some (minute, ':' :: afterMinute) =>
      (takeDigits? 2 afterMinute).bind fun (second, afterSecond) =>
        (takeFraction? afterSecond).bind fun (fraction, rest) =>
          if hour ≤ 23 && minute ≤ 59 && second ≤ 60 then some (text.take 8 ++ fraction, rest)
          else none
    | _ => none
  | _ => none

/-- The distance from universal time that ends a text, if there is one. -/
def offset? (text : List Char) : Option (List Char) :=
  match text with
  | [] => some []
  | ['Z'] => some ['Z']
  | ['z'] => some ['Z']
  | sign :: rest =>
    match takeDigits? 2 rest with
    | some (hour, ':' :: minutes) =>
      (takeDigits? 2 minutes).bind fun (minute, after) =>
        if (sign == '+' || sign == '-') && hour ≤ 23 && minute ≤ 59 && after.isEmpty then some text
        else none
    | _ => none

/-- The key under which a date or a time is found. -/
def dateKey : String := "$__toml_private_datetime"

/-- A date, a time, or both, as an object with a single member. -/
def ofDate (text : List Char) : Json :=
  .object [(dateKey, .string (String.ofList text))]

/-- A date with an optional time behind it, or a time alone. -/
def dateTime? (text : List Char) : Option Json :=
  match takeDate? text with
  | some (date, []) => some (ofDate date)
  | some (date, separator :: time) =>
    if separator == 'T' || separator == 't' || separator == ' ' then
      (takeTime? time).bind fun (moment, rest) =>
        (offset? rest).map fun offset => ofDate (date ++ 'T' :: moment ++ offset)
    else none
  | none =>
    match takeTime? text with
    | some (moment, []) => some (ofDate moment)
    | _ => none

/-- The value that a word stands for. -/
def scalar? (word : List Char) : Option Json :=
  if word == ['t', 'r', 'u', 'e'] then some (.bool true)
  else if word == ['f', 'a', 'l', 's', 'e'] then some (.bool false)
  else (special? word).or ((integer? word).or ((float? word).or (dateTime? word)))

end RecordFilter.Toml
