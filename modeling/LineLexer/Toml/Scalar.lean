import LineLexer.Pattern.Basic
import LineLexer.Toml.Value

/-!
# Scalars of TOML

Numbers, Booleans and dates, each read from the whole run of characters that could belong to one.
-/

namespace LineLexer.Toml

open Pattern

def asciiDigit : Pattern := .one Char.isDigit

/-- Digits of a class, with single underscores between them. -/
def grouped (digit : Pattern) : Pattern :=
  .seq digit (many (.seq (optional (char '_')) digit))

/-- A decimal integer: signed, and without leading zeros. -/
def decimal : Pattern :=
  .seq (optional (oneOf ['+', '-']))
    (.alt (.seq (.one fun c ↦ '1' ≤ c && c ≤ '9') (many (.seq (optional (char '_')) asciiDigit)))
      (char '0'))

def radixPattern (mark : Char) (digit : Char → Bool) : Pattern :=
  concat [char '0', char mark, grouped (.one digit)]

def isHexDigit (c : Char) : Bool :=
  c.isDigit || ('a' ≤ c && c ≤ 'f') || ('A' ≤ c && c ≤ 'F')

def exponent : Pattern :=
  concat [oneOf ['e', 'E'], optional (oneOf ['+', '-']), grouped asciiDigit]

/-- A float with its parts: integer, fraction and exponent. -/
def floatPattern : Pattern :=
  .seq (.capture 1 decimal)
    (.alt (.capture 3 exponent)
      (.seq (.seq (char '.') (.capture 2 (grouped asciiDigit))) (optional (.capture 3 exponent))))

def specialFloat : Pattern :=
  .seq (optional (oneOf ['+', '-'])) (.alt (text ['i', 'n', 'f']) (text ['n', 'a', 'n']))

def datePattern : Pattern :=
  concat [.capture 1 (times 4 asciiDigit), char '-', .capture 2 (times 2 asciiDigit), char '-',
    .capture 3 (times 2 asciiDigit)]

def timePattern : Pattern :=
  concat [.capture 4 (times 2 asciiDigit), char ':', .capture 5 (times 2 asciiDigit), char ':',
    .capture 6 (times 2 asciiDigit),
    optional (.seq (char '.') (.capture 7 (many1 asciiDigit)))]

def offsetPattern : Pattern :=
  .alt (.capture 8 (oneOf ['Z', 'z']))
    (concat [.capture 9 (oneOf ['+', '-']), .capture 10 (times 2 asciiDigit), char ':',
      .capture 11 (times 2 asciiDigit)])

/-- A date with an optional time and offset, or a time. -/
def datetimePattern : Pattern :=
  .alt (.seq datePattern
      (optional (concat [oneOf ['T', 't', ' '], timePattern, optional offsetPattern])))
    timePattern

/-- The match of a pattern with a whole text. -/
def matchWhole? (pattern : Pattern) (text : List Char) : Option Match :=
  (Pattern.seq pattern .textEnd).match? text

/-- The value of digits in a base; other characters are passed over. -/
def digitsValue (base : Nat) (digits : List Char) : Nat :=
  digits.foldl (fun value c ↦
    if c.isDigit then value * base + (c.toNat - '0'.toNat)
    else if 'a' ≤ c && c ≤ 'f' then value * base + (c.toNat - 'a'.toNat + 10)
    else if 'A' ≤ c && c ≤ 'F' then value * base + (c.toNat - 'A'.toNat + 10)
    else value) 0

/-- Integers have 64 bits. -/
def integerInRange (value : Int) : Option Value :=
  if Int64.minValue.toInt ≤ value ∧ value ≤ Int64.maxValue.toInt then some (.int value) else none

def integer? (lexeme : List Char) : Option Value :=
  if (matchWhole? decimal lexeme).isSome then
    let size : Int := digitsValue 10 lexeme
    integerInRange (if lexeme.head? == some '-' then -size else size)
  else if (matchWhole? (radixPattern 'x' isHexDigit) lexeme).isSome then
    integerInRange (digitsValue 16 (lexeme.drop 2))
  else if (matchWhole? (radixPattern 'o' fun c ↦ '0' ≤ c && c ≤ '7') lexeme).isSome then
    integerInRange (digitsValue 8 (lexeme.drop 2))
  else if (matchWhole? (radixPattern 'b' fun c ↦ c == '0' || c == '1') lexeme).isSome then
    integerInRange (digitsValue 2 (lexeme.drop 2))
  else none

/-- Whether a decimal `digits * 10 ^ power` is too large for a float of 64 bits, that is, not below
halfway between the largest of them and the next power of two. -/
def overflowsFloat (digits : Nat) (power : Int) : Bool :=
  let magnitude : Int := (Nat.toDigits 10 digits).length + power
  if digits = 0 ∨ magnitude < 300 then false
  else if 320 < magnitude then true
  else
    let bound := Nat.pow 2 1024 - Nat.pow 2 970
    if 0 ≤ power then bound ≤ digits * Nat.pow 10 power.toNat
    else bound * Nat.pow 10 (-power).toNat ≤ digits

/-- The text of a group, or nothing where the group took no part. -/
def group (found : Match) (index : Nat) : List Char :=
  (found.groups[index]?.getD none).getD []

def float? (lexeme : List Char) : Option Value :=
  if (matchWhole? specialFloat lexeme).isSome then some .float
  else do
    let found ← matchWhole? floatPattern lexeme
    let fraction := (group found 1).filter Char.isDigit
    let digits := digitsValue 10 (group found 0 ++ fraction)
    let scale : Int := digitsValue 10 ((group found 2).filter Char.isDigit)
    let power := (if (group found 2).contains '-' then -scale else scale) - fraction.length
    if lexeme.head? != some '-' && overflowsFloat digits power then none else some .float

def isLeapYear (year : Nat) : Bool :=
  year % 4 = 0 && (year % 100 != 0 || year % 400 = 0)

def daysInMonth (year month : Nat) : Nat :=
  if month = 2 then if isLeapYear year then 29 else 28
  else if [4, 6, 9, 11].contains month then 30
  else 31

/-- The number in a group, or `fallback` where the group took no part. -/
def groupValue (found : Match) (index fallback : Nat) : Nat :=
  match group found index with
  | [] => fallback
  | digits => digitsValue 10 digits

/-- The parts of a date or time are in range; a minute may have a leap second. -/
def datetimeInRange (found : Match) : Bool :=
  let month := groupValue found 1 1
  let day := groupValue found 2 1
  1 ≤ month && month ≤ 12 && 1 ≤ day && day ≤ daysInMonth (groupValue found 0 0) month
    && groupValue found 3 0 ≤ 23 && groupValue found 4 0 ≤ 59 && groupValue found 5 0 ≤ 60
    && groupValue found 9 0 ≤ 23 && groupValue found 10 0 ≤ 59

/-- The fraction of a second with its point, in at most nine digits and without trailing zeros. -/
def fractionText (digits : List Char) : List Char :=
  match ((digits.take 9).reverse.dropWhile (· == '0')).reverse with
  | [] => []
  | digits => '.' :: digits

/-- The offset of a time from universal time; no offset is negative zero. -/
def offsetText (found : Match) : List Char :=
  if (group found 7).isEmpty then
    match group found 8 with
    | [] => []
    | sign =>
      let size := group found 9 ++ [':'] ++ group found 10
      if size == "00:00".toList then '+' :: size else sign ++ size
  else ['Z']

/-- The one way in which a date or time is written out: a `T` before the time, a `Z` for universal
time. -/
def datetimeText (found : Match) : List Char :=
  let date := [group found 0, group found 1, group found 2].filter (!·.isEmpty)
  let time := [group found 3, group found 4, group found 5].filter (!·.isEmpty)
  ['-'].intercalate date ++ (if date.isEmpty || time.isEmpty then [] else ['T'])
    ++ [':'].intercalate time ++ fractionText (group found 6) ++ offsetText found

def datetime? (lexeme : List Char) : Option Value := do
  let found ← matchWhole? datetimePattern lexeme
  guard (datetimeInRange found)
  return .datetime (String.ofList (datetimeText found))

/-- The scalar a run of characters stands for. -/
def scalar? (lexeme : List Char) : Option Value :=
  if lexeme = "true".toList then some (.bool true)
  else if lexeme = "false".toList then some (.bool false)
  else (datetime? lexeme).or ((float? lexeme).or (integer? lexeme))

end LineLexer.Toml
