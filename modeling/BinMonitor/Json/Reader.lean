import BinMonitor.Json.Numeral

/-! Reading JSON text. -/

namespace BinMonitor.Json

/-- A number keeps its digits as written, since what it may stand for depends on where it is
wanted; a string that escapes half of a surrogate pair is well formed but has no text. -/
inductive Value where
  | null
  | flag (b : Bool)
  | number (n : Numeral)
  | text (content : Option (List Char))
  | array (items : List Value)
  | object (members : List (Option (List Char) × Value))

def isBlank (c : Char) : Bool := c == ' ' || c == '\n' || c == '\t' || c == '\r'

def skipBlanks (s : List Char) : List Char := s.dropWhile isBlank

def isDigit (c : Char) : Bool := '0' ≤ c && c ≤ '9'

def hexValue? (c : Char) : Option Nat :=
  if isDigit c then some (c.toNat - '0'.toNat)
  else if 'a' ≤ c && c ≤ 'f' then some (c.toNat - 'a'.toNat + 10)
  else if 'A' ≤ c && c ≤ 'F' then some (c.toNat - 'A'.toNat + 10)
  else none

def hex4? : List Char → Option (Nat × List Char)
  | a :: b :: c :: d :: rest => do
    let a ← hexValue? a
    let b ← hexValue? b
    let c ← hexValue? c
    let d ← hexValue? d
    some (((a * 16 + b) * 16 + c) * 16 + d, rest)
  | _ => none

def simpleEscape? : Char → Option Char
  | '"' => some '"'
  | '\\' => some '\\'
  | '/' => some '/'
  | 'b' => some '\x08'
  | 'f' => some '\x0c'
  | 'n' => some '\n'
  | 'r' => some '\r'
  | 't' => some '\t'
  | _ => none

/-- The sixteen-bit units of a string up to its closing quote, and what follows it. -/
def takeUnits : (fuel : Nat) → List Char → Option (List Nat × List Char)
  | 0, _ => none
  | _, [] => none
  | _, '"' :: rest => some ([], rest)
  | fuel + 1, '\\' :: 'u' :: rest => do
    let (unit, rest) ← hex4? rest
    let (units, rest) ← takeUnits fuel rest
    some (unit :: units, rest)
  | fuel + 1, '\\' :: c :: rest => do
    let c ← simpleEscape? c
    let (units, rest) ← takeUnits fuel rest
    some (c.toNat :: units, rest)
  | fuel + 1, c :: rest => do
    if c.toNat < 32 || c == '\\' then none
    else
      let (units, rest) ← takeUnits fuel rest
      some (c.toNat :: units, rest)

def isLead (u : Nat) : Bool := 0xD800 ≤ u && u < 0xDC00

def isTrail (u : Nat) : Bool := 0xDC00 ≤ u && u < 0xE000

/-- The characters of a list of units, unless one is half of a pair. -/
def characters? : List Nat → Option (List Char)
  | [] => some []
  | u :: rest =>
    if isTrail u then none
    else if isLead u then
      match rest with
      | v :: rest =>
        if isTrail v then
          (characters? rest).map (Char.ofNat (0x10000 + (u - 0xD800) * 0x400 + (v - 0xDC00)) :: ·)
        else none
      | [] => none
    else (characters? rest).map (Char.ofNat u :: ·)

def takeString (fuel : Nat) (s : List Char) : Option (Option (List Char) × List Char) :=
  (takeUnits fuel s).map fun (units, rest) => (characters? units, rest)

/-- At least one digit. -/
def takeDigits (s : List Char) : Option (List Char × List Char) :=
  match s.takeWhile isDigit with
  | [] => none
  | digits => some (digits, s.dropWhile isDigit)

/-- No zero in front of other digits. -/
def takeWhole (s : List Char) : Option (List Char × List Char) := do
  let (digits, rest) ← takeDigits s
  match digits with
  | '0' :: _ :: _ => none
  | _ => some (digits, rest)

def takeFraction : List Char → Option (Option (List Char) × List Char)
  | '.' :: rest => (takeDigits rest).map fun (digits, rest) => (some digits, rest)
  | s => some (none, s)

def takeExponent : List Char → Option (Option Int × List Char)
  | [] => some (none, [])
  | c :: rest =>
    if c == 'e' || c == 'E' then
      let (negative, rest) := match rest with
        | '-' :: rest => (true, rest)
        | '+' :: rest => (false, rest)
        | rest => (false, rest)
      (takeDigits rest).map fun (digits, rest) =>
        let n : Int := Numeral.ofDigits digits
        (some (if negative then -n else n), rest)
    else some (none, c :: rest)

def takeNumeral (s : List Char) : Option (Numeral × List Char) := do
  let (negative, s) := match s with
    | '-' :: rest => (true, rest)
    | s => (false, s)
  let (whole, s) ← takeWhole s
  let (fraction, s) ← takeFraction s
  let (exponent, s) ← takeExponent s
  let plain := fraction.isNone && exponent.isNone
  some (⟨negative, whole, fraction.getD [], exponent.getD 0, plain⟩, s)

def takeWord (word : String) (s : List Char) : Option (List Char) :=
  let expected := word.toList
  if s.take expected.length = expected then some (s.drop expected.length) else none

mutual

/-- A value at the start of the text, blanks before it skipped, and what follows it. -/
def takeValue : (fuel : Nat) → List Char → Option (Value × List Char)
  | 0, _ => none
  | fuel + 1, s =>
    match skipBlanks s with
    | [] => none
    | 'n' :: rest => (takeWord "ull" rest).map (.null, ·)
    | 't' :: rest => (takeWord "rue" rest).map (.flag true, ·)
    | 'f' :: rest => (takeWord "alse" rest).map (.flag false, ·)
    | '"' :: rest => (takeString (rest.length + 1) rest).map fun (t, rest) => (.text t, rest)
    | '[' :: rest =>
      match skipBlanks rest with
      | ']' :: rest => some (.array [], rest)
      | rest => (takeItems fuel rest).map fun (items, rest) => (.array items, rest)
    | '\x7b' :: rest =>
      match skipBlanks rest with
      | '\x7d' :: rest => some (.object [], rest)
      | rest => (takeMembers fuel rest).map fun (members, rest) => (.object members, rest)
    | s => (takeNumeral s).map fun (n, rest) => (.number n, rest)

def takeItems : (fuel : Nat) → List Char → Option (List Value × List Char)
  | 0, _ => none
  | fuel + 1, s => do
    let (item, rest) ← takeValue fuel s
    match skipBlanks rest with
    | ',' :: rest =>
      let (items, rest) ← takeItems fuel rest
      some (item :: items, rest)
    | ']' :: rest => some ([item], rest)
    | _ => none

def takeMembers : (fuel : Nat) → List Char → Option (List (Option (List Char) × Value) × List Char)
  | 0, _ => none
  | fuel + 1, s => do
    let '"' :: rest := skipBlanks s | none
    let (name, rest) ← takeString (rest.length + 1) rest
    let ':' :: rest := skipBlanks rest | none
    let (value, rest) ← takeValue fuel rest
    match skipBlanks rest with
    | ',' :: rest =>
      let (members, rest) ← takeMembers fuel rest
      some ((name, value) :: members, rest)
    | '\x7d' :: rest => some ([(name, value)], rest)
    | _ => none

end

/-- The value a text stands for; only blanks may follow it. -/
def parse (text : String) : Option Value := do
  let s := text.toList
  let (value, rest) ← takeValue (2 * s.length + 2) s
  if (skipBlanks rest).isEmpty then some value else none

end BinMonitor.Json
