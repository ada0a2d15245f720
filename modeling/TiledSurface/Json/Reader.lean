import TiledSurface.Json

/-!
Structured values as text. Every reader takes the characters that are left and gives what it read
with the characters behind it, or nothing if the text breaks the grammar. How a number is written
decides what it is: only a numeral without fraction and exponent is an integer.
-/

namespace TiledSurface.Json

def isBlank (c : Char) : Bool := c = ' ' ∨ c = '\t' ∨ c = '\n' ∨ c = '\r'

def skipBlanks (chars : List Char) : List Char := chars.dropWhile isBlank

def decimal (digits : List Char) : Nat :=
  digits.foldl (fun value c => 10 * value + (c.toNat - '0'.toNat)) 0

def readDigits? (chars : List Char) : Option (List Char × List Char) :=
  match chars.span Char.isDigit with
  | ([], _) => none
  | (digits, rest) => some (digits, rest)

/-- One or more digits, with no zero in front of others. -/
def readWhole? (chars : List Char) : Option (List Char × List Char) :=
  match readDigits? chars with
  | some ('0' :: _ :: _, _) => none
  | read => read

/-- A point and the digits behind it, if there is a point. -/
def readFraction? : List Char → Option (List Char × List Char)
  | '.' :: rest => readDigits? rest
  | chars => some ([], chars)

/-- The sign of an exponent; none is plus. -/
def readSign : List Char → Int × List Char
  | '-' :: rest => (-1, rest)
  | '+' :: rest => (1, rest)
  | chars => (1, chars)

/-- The power of ten behind the letter, if there is one. -/
def readExponent? : List Char → Option (Option Int × List Char)
  | c :: rest =>
    if c = 'e' ∨ c = 'E' then do
      let (sign, rest) := readSign rest
      let (digits, rest) ← readDigits? rest
      return (some (sign * decimal digits), rest)
    else some (none, c :: rest)
  | [] => some (none, [])

/-- What a numeral stands for. Minus zero is no integer. -/
def ofNumeral (negative : Bool) (whole fraction : List Char) (exponent : Option Int) : Json :=
  let size := decimal (whole ++ fraction)
  let signed : Int := if negative then -size else size
  if fraction.isEmpty ∧ exponent.isNone ∧ ¬(negative ∧ size = 0) then .integer signed
  else .real signed (exponent.getD 0 - fraction.length)

def readNumber? (chars : List Char) : Option (Json × List Char) := do
  let (negative, chars) := match chars with
    | '-' :: rest => (true, rest)
    | _ => (false, chars)
  let (whole, rest) ← readWhole? chars
  let (fraction, rest) ← readFraction? rest
  let (exponent, rest) ← readExponent? rest
  return (ofNumeral negative whole fraction exponent, rest)

def hexDigit? (c : Char) : Option Nat :=
  if c.isDigit then some (c.toNat - '0'.toNat)
  else if 'a' ≤ c ∧ c ≤ 'f' then some (c.toNat - 'a'.toNat + 10)
  else if 'A' ≤ c ∧ c ≤ 'F' then some (c.toNat - 'A'.toNat + 10)
  else none

/-- A code unit of 16 bits in four hexadecimal digits. -/
def readUnit? : List Char → Option (Nat × List Char)
  | a :: b :: c :: d :: rest => do
    let high := 16 * (← hexDigit? a) + (← hexDigit? b)
    let low := 16 * (← hexDigit? c) + (← hexDigit? d)
    return (256 * high + low, rest)
  | _ => none

/-- A character by its code units: one, or a leading and a trailing surrogate. -/
def readCodePoint? (chars : List Char) : Option (Char × List Char) := do
  let (first, rest) ← readUnit? chars
  if first < 0xD800 ∨ 0xE000 ≤ first then return (.ofNat first, rest)
  else match rest with
    | '\\' :: 'u' :: rest =>
      let (second, rest) ← readUnit? rest
      if first < 0xDC00 ∧ 0xDC00 ≤ second ∧ second < 0xE000 then
        return (.ofNat (0x10000 + 0x400 * (first - 0xD800) + (second - 0xDC00)), rest)
      else none
    | _ => none

/-- The character that a letter behind a backslash stands for. -/
def escaped? : Char → Option Char
  | '"' => some '"'
  | '\\' => some '\\'
  | '/' => some '/'
  | 'b' => some '\x08'
  | 'f' => some '\x0c'
  | 'n' => some '\n'
  | 'r' => some '\r'
  | 't' => some '\t'
  | _ => none

/-- One character of a text, perhaps escaped. Control characters must be. -/
def readChar? : List Char → Option (Char × List Char)
  | '\\' :: 'u' :: rest => readCodePoint? rest
  | '\\' :: letter :: rest => (escaped? letter).map (·, rest)
  | c :: rest => if c = '\\' ∨ c.toNat < 0x20 then none else some (c, rest)
  | [] => none

def readText? : Nat → List Char → Option (List Char × List Char)
  | 0, _ => none
  | _ + 1, '"' :: rest => some ([], rest)
  | fuel + 1, chars => do
    let (c, rest) ← readChar? chars
    let (content, rest) ← readText? fuel rest
    return (c :: content, rest)

/-- Adds a member in front. Of members of one name the last counts. -/
def addMember (name : String) (value : Json) (members : List (String × Json)) :
    List (String × Json) :=
  if members.any (·.1 == name) then members else (name, value) :: members

mutual

def readValue? : Nat → List Char → Option (Json × List Char)
  | 0, _ => none
  | fuel + 1, chars =>
    match skipBlanks chars with
    | 'n' :: 'u' :: 'l' :: 'l' :: rest => some (.null, rest)
    | 't' :: 'r' :: 'u' :: 'e' :: rest => some (.bool true, rest)
    | 'f' :: 'a' :: 'l' :: 's' :: 'e' :: rest => some (.bool false, rest)
    | '"' :: rest => do
      let (content, rest) ← readText? fuel rest
      return (.text (.ofList content), rest)
    | '[' :: rest =>
      match skipBlanks rest with
      | ']' :: rest => some (.list [], rest)
      | rest => do
        let (items, rest) ← readItems? fuel rest
        return (.list items, rest)
    | '\x7b' :: rest =>
      match skipBlanks rest with
      | '\x7d' :: rest => some (.object [], rest)
      | rest => do
        let (members, rest) ← readMembers? fuel rest
        return (.object members, rest)
    | chars => readNumber? chars

def readItems? : Nat → List Char → Option (List Json × List Char)
  | 0, _ => none
  | fuel + 1, chars => do
    let (item, rest) ← readValue? fuel chars
    match skipBlanks rest with
    | ']' :: rest => return ([item], rest)
    | ',' :: rest =>
      let (items, rest) ← readItems? fuel rest
      return (item :: items, rest)
    | _ => none

def readMembers? : Nat → List Char → Option (List (String × Json) × List Char)
  | 0, _ => none
  | fuel + 1, chars =>
    match skipBlanks chars with
    | '"' :: rest => do
      let (name, rest) ← readText? fuel rest
      match skipBlanks rest with
      | ':' :: rest =>
        let (value, rest) ← readValue? fuel rest
        match skipBlanks rest with
        | '\x7d' :: rest => return ([(.ofList name, value)], rest)
        | ',' :: rest =>
          let (members, rest) ← readMembers? fuel rest
          return (addMember (.ofList name) value members, rest)
        | _ => none
      | _ => none
    | _ => none

end

/-- The value that a text holds, with nothing but blanks around it. Every second step of reading
consumes a character, so the steps allowed are enough for any text. -/
def ofText? (text : String) : Option Json := do
  let chars := text.toList
  let (value, rest) ← readValue? (2 * chars.length + 2) chars
  if skipBlanks rest = [] then some value else none

end TiledSurface.Json
