/-
# Why a command line is refused

`CommandLine.apply` decides which lines are understood; this file explains a
refusal for the log.  It reads the bytes of a line once more, up to the first
thing that is wrong, and tells what that is and where: the number of a line,
and the bytes between the start of that line and the place.
-/
import ControllerLink.Json.Printer
import ControllerLink.Link.CommandLine
import ControllerLink.Text.Quoted
import ControllerLink.Text.Utf8

set_option autoImplicit false

namespace ControllerLink

namespace CommandLine

/-! ## Causes -/

/-- What is wrong with a line. -/
inductive RefusalCause where
  /-- The line ended inside of what is named. -/
  | ended (inside : String)
  /-- Something else should have come. -/
  | expected (what : String)
  | invalid (what : String)
  /-- Something is left that should not be there. -/
  | trailing (what : String)
  | keyNoString
  | numberTooLarge
  | controlCharacter
  /-- The second half of a character came first, or did not come. -/
  | loneHalf
  /-- No second half of a character follows the first one. -/
  | brokenPair
  | wrongType (found wanted : String)
  | unknownField (name : String)
  | duplicateField (name : String)
  /-- An array with too few items. -/
  | tooShort (items : Nat)
deriving DecidableEq, Repr

/-- A name as it stands in a message. -/
def named (name : String) : String := "`" ++ name ++ "`"

/-- The wording of a cause. -/
def RefusalCause.message : RefusalCause → String
  | ended inside => "EOF while parsing " ++ inside
  | expected what => "expected " ++ what
  | invalid what => "invalid " ++ what
  | trailing what => "trailing " ++ what
  | keyNoString => "key must be a string"
  | numberTooLarge => "number out of range"
  | controlCharacter => "control character (\\u0000-\\u001F) found while parsing a string"
  | loneHalf => "lone leading surrogate in hex escape"
  | brokenPair => "unexpected end of hex escape"
  | wrongType found wanted => "invalid type: " ++ found ++ ", expected " ++ wanted
  | unknownField name =>
    "unknown field " ++ named name ++ ", expected one of " ++
      ", ".intercalate (CommandField.all.map fun f => named f.name)
  | duplicateField name => "duplicate field " ++ named name
  | tooShort items =>
    "invalid length " ++ toString items ++ ", expected struct CommandUpdate with " ++
      toString CommandField.all.length ++ " elements"

/-- A cause, and how many bytes of the line lie behind the place. -/
structure Refusal where
  cause : RefusalCause
  left : Nat
deriving DecidableEq, Repr

/-! ## Bytes -/

/-- Reading the bytes of a line. -/
abbrev Scanner := StateT Bytes (Except Refusal)

namespace Scanner

/-- The byte of an ASCII character. -/
def ascii (c : Char) : UInt8 := UInt8.ofNat c.toNat

/-- The character of an ASCII byte. -/
def charOf (b : UInt8) : Char := Char.ofNat b.toNat

/-- Refuse the line behind the bytes that have been read. -/
def refuse {α : Type} (cause : RefusalCause) : Scanner α := do
  throw ⟨cause, (← get).length⟩

/-- Refuse the line behind the next byte. -/
def refuseNext {α : Type} (cause : RefusalCause) : Scanner α := do
  throw ⟨cause, (← get).length - 1⟩

/-- The next byte. -/
def peek : Scanner (Option UInt8) := do return (← get).head?

/-- Pass the next byte. -/
def pass : Scanner Unit := modify List.tail

/-- The next byte, which is passed. -/
def next : Scanner (Option UInt8) := do
  let b ← peek
  pass
  return b

/-- The bytes behind blanks. -/
def dropGap (bytes : Bytes) : Bytes :=
  bytes.dropWhile fun b => Json.Token.isGap (charOf b)

/-- Pass blanks; the byte behind them. -/
def passGap : Scanner (Option UInt8) := do
  modify dropGap
  peek

/-- Pass the rest of a word. -/
def passWord : List Char → Scanner Unit
  | [] => pure ()
  | c :: cs => do
    match ← next with
    | none => refuse (.ended "a value")
    | some b => if b = ascii c then passWord cs else refuse (.expected "ident")

/-! ## Numbers -/

/-- Whether a byte is a decimal digit. -/
def isDigit (b : UInt8) : Bool := (charOf b).isDigit

/-- Pass decimal digits. -/
def passDigits : Scanner (List Char) := do
  let digits := (← get).takeWhile isDigit
  modify fun bytes => bytes.dropWhile isDigit
  return digits.map charOf

/-- Pass the digits of a whole number. -/
def passWhole : Scanner (List Char) := do
  match ← next with
  | none => refuse (.ended "a value")
  | some b =>
    if !isDigit b then refuse (.invalid "number")
    else if b = ascii '0' then
      if ((← peek).map isDigit).getD false then refuseNext (.invalid "number") else return ['0']
    else return charOf b :: (← passDigits)

/-- Pass a fraction, if one comes. -/
def passFraction : Scanner (Option (List Char)) := do
  if (← peek) ≠ some (ascii '.') then return none
  pass
  let digits ← passDigits
  if digits ≠ [] then return some digits
  else if (← peek).isNone then refuseNext (.ended "a value")
  else refuseNext (.invalid "number")

/-- Pass an exponent, if one comes. -/
def passExponent : Scanner (Option Json.Number.Exponent) := do
  let mark ← peek
  if mark ≠ some (ascii 'e') ∧ mark ≠ some (ascii 'E') then return none
  pass
  let sign ← peek
  if sign = some (ascii '+') ∨ sign = some (ascii '-') then pass
  match ← next with
  | none => refuse (.ended "a value")
  | some b =>
    if isDigit b then return some ⟨sign = some (ascii '-'), charOf b :: (← passDigits)⟩
    else refuse (.invalid "number")

/-- How many digits are left behind the one that takes an exponent past 31 bits. -/
def excess (n : Nat) : List Char → Nat
  | [] => 0
  | c :: cs =>
    let n := 10 * n + Json.Number.digitValue c
    if Nat.pow 2 31 ≤ n then cs.length else excess n cs

/-- Pass a number behind its sign. -/
def passNumber (negative : Bool) : Scanner Json.Number := do
  let whole ← passWhole
  let fraction ← passFraction
  let exponent ← passExponent
  match Json.Number.ofDigits negative whole fraction exponent with
  | some n => return n
  | none =>
    throw ⟨.numberTooLarge, (← get).length + exponent.elim 0 fun x => excess 0 x.digits⟩

/-! ## Strings -/

/-- Pass four hexadecimal digits. -/
def passHex : Scanner Nat := do
  match ← get with
  | a :: b :: c :: d :: rest =>
    set rest
    match Json.Token.hex4? (charOf a) (charOf b) (charOf c) (charOf d) with
    | some n => return n
    | none => refuse (.invalid "escape")
  | _ =>
    set ([] : Bytes)
    refuse (.ended "a string")

/-- Pass one byte of the way from the first to the second half of a character. -/
def passBetween (c : Char) : Scanner Unit := do
  let b ← peek
  if b.isNone then refuse (.ended "a string")
  pass
  if b ≠ some (ascii c) then refuse .brokenPair

/-- Pass the digits of an escape by number. -/
def passCodePoint : Scanner Char := do
  let n ← passHex
  if 0xdc00 ≤ n ∧ n < 0xe000 then refuse .loneHalf
  else if n < 0xd800 ∨ 0xdc00 ≤ n then return Char.ofNat n
  passBetween '\\'
  passBetween 'u'
  let low ← passHex
  if 0xdc00 ≤ low ∧ low < 0xe000 then return Json.Token.joinHalves n low
  else refuse .loneHalf

/-- Pass an escape behind its backslash. -/
def passEscape : Scanner Char := do
  match ← next with
  | none => refuse (.ended "a string")
  | some b =>
    if b = ascii 'u' then passCodePoint
    else
      match Json.Token.escape? (charOf b) with
      | some c => return c
      | none => refuse (.invalid "escape")

/-- Pass a string behind its opening quote; `fuel` bounds its length. -/
def passString : Nat → Scanner Bytes
  | 0 => refuse (.ended "a string")
  | fuel + 1 => do
    match ← next with
    | none => refuse (.ended "a string")
    | some b =>
      if b = ascii '"' then return []
      else if b = ascii '\\' then
        let c ← passEscape
        return Text.Utf8.encode [c] ++ (← passString fuel)
      else if b < 0x20 then refuse .controlCharacter
      else return b :: (← passString fuel)

/-- Pass a string behind its opening quote. -/
def passText : Scanner String := do
  let bytes ← passString ((← get).length + 1)
  return String.ofList (Text.Utf8.decodeLossy bytes)

/-! ## Values -/

/-- A number as it stands in a message. -/
def numberText : Json.Number → String
  | .int n => "integer " ++ named (toString n)
  | .double bits => "floating point " ++ named (Json.render (.double bits))

/-- Refuse the value that comes because it is of the wrong kind. -/
def refuseValue (wanted : String) : Scanner Unit := do
  let b ← peek
  if b = some (ascii 'n') then
    passWord ['n', 'u', 'l', 'l']
    refuse (.wrongType "null" wanted)
  else if b = some (ascii 't') then
    passWord ['t', 'r', 'u', 'e']
    refuse (.wrongType ("boolean " ++ named "true") wanted)
  else if b = some (ascii 'f') then
    passWord ['f', 'a', 'l', 's', 'e']
    refuse (.wrongType ("boolean " ++ named "false") wanted)
  else if b = some (ascii '-') then
    pass
    refuse (.wrongType (numberText (← passNumber true)) wanted)
  else if (b.map isDigit).getD false then
    refuse (.wrongType (numberText (← passNumber false)) wanted)
  else if b = some (ascii '"') then
    pass
    refuse (.wrongType ("string " ++ Text.quoted (← passText)) wanted)
  else if b = some (ascii '[') then refuse (.wrongType "sequence" wanted)
  else if b = some (ascii '\x7b') then refuse (.wrongType "map" wanted)
  else refuseNext (.expected "value")

/-- Pass a number, or refuse another value. -/
def passNumberValue (b : UInt8) : Scanner Unit := do
  if b = ascii '-' then
    pass
    let _ ← passNumber true
  else if isDigit b then
    let _ ← passNumber false
  else refuseValue "f32"

/-- Pass a truth value, or refuse another value. -/
def passFlagValue (b : UInt8) : Scanner Unit := do
  if b = ascii 't' then passWord ['t', 'r', 'u', 'e']
  else if b = ascii 'f' then passWord ['f', 'a', 'l', 's', 'e']
  else refuseValue "a boolean"

/-- Pass the value of a field. -/
def passValue (f : CommandField) : Scanner Unit := do
  match ← passGap with
  | none => refuseNext (.ended "a value")
  | some b =>
    if b = ascii 'n' then passWord ['n', 'u', 'l', 'l']
    else
      match f with
      | .number _ => passNumberValue b
      | .flag _ => passFlagValue b

/-! ## Objects and arrays -/

/-- What is left behind the end of an object, if that comes next. -/
def leaveObject (bytes : Bytes) : Bytes :=
  match dropGap bytes with
  | b :: rest => if b = ascii '\x7d' then rest else b :: rest
  | [] => []

/-- What is left behind the end of an array, which comes next. -/
def leaveArray (bytes : Bytes) : Bytes := (dropGap bytes).tail

/-- Pass a member behind the opening quote of its name. -/
def passMember (seen : List CommandField) : Scanner CommandField := do
  let name ← passText
  match CommandField.ofName? name with
  | none =>
    modify leaveObject
    refuse (.unknownField name)
  | some f =>
    if seen.contains f then
      modify leaveObject
      refuse (.duplicateField name)
    match ← passGap with
    | none => refuseNext (.ended "an object")
    | some b => if b = ascii ':' then pass else refuseNext (.expected (named ":"))
    passValue f
    return f

/-- Pass what comes before the name of a member, with its opening quote; whether there is one. -/
def passToMember (first : Bool) : Scanner Bool := do
  match ← passGap with
  | none => refuseNext (.ended "an object")
  | some b =>
    if b = ascii '\x7d' then
      pass
      return false
    else if first then
      if b ≠ ascii '"' then refuseNext .keyNoString
      pass
      return true
    else if b ≠ ascii ',' then refuseNext (.expected (named "," ++ " or " ++ named "\x7d"))
    pass
    match ← passGap with
    | none => refuseNext (.ended "a value")
    | some b =>
      if b = ascii '\x7d' then refuseNext (.trailing "comma")
      else if b ≠ ascii '"' then refuseNext .keyNoString
      pass
      return true

/-- Pass the members of an object; `fuel` bounds their number. -/
def passMembers : Nat → List CommandField → Scanner Unit
  | 0, _ => pure ()
  | fuel + 1, seen => do
    if ← passToMember seen.isEmpty then
      let f ← passMember seen
      passMembers fuel (f :: seen)

/-- Pass what comes before an item of an array, `before` other items having come. -/
def passToItem (before : Nat) : Scanner Unit := do
  match ← passGap with
  | none => refuseNext (.ended "a list")
  | some b =>
    if b = ascii ']' then
      modify leaveArray
      refuse (.tooShort before)
    else if before = 0 then pure ()
    else if b ≠ ascii ',' then refuseNext (.expected (named "," ++ " or " ++ named "]"))
    else
      pass
      match ← passGap with
      | none => refuseNext (.ended "a value")
      | some b => if b = ascii ']' then refuseNext (.trailing "comma")

/-- Pass an item for each field. -/
def passItems (before : Nat) : List CommandField → Scanner Unit
  | [] => pure ()
  | f :: fields => do
    passToItem before
    passValue f
    passItems (before + 1) fields

/-- Pass the end of an array. -/
def passArrayEnd : Scanner Unit := do
  match ← passGap with
  | none => refuseNext (.ended "a list")
  | some b =>
    if b = ascii ']' then pass
    else if b = ascii ',' then
      pass
      if (← passGap) = some (ascii ']') then refuseNext (.trailing "comma")
      else refuseNext (.trailing "characters")
    else refuseNext (.trailing "characters")

/-- Pass a whole line. -/
def passLine : Scanner Unit := do
  match ← passGap with
  | none => refuseNext (.ended "a value")
  | some b =>
    if b = ascii '[' then
      pass
      passItems 0 CommandField.all
      passArrayEnd
    else if b = ascii '\x7b' then
      pass
      passMembers ((← get).length + 1) []
    else refuseValue "struct CommandUpdate"
  if (← passGap).isSome then refuseNext (.trailing "characters")

end Scanner

/-! ## Places -/

/-- The place behind some bytes: the number of its line, and the bytes of that line before it. -/
def placeText (front : Bytes) : String :=
  let lines := front.count (Scanner.ascii '\n') + 1
  let column := (front.reverse.takeWhile (· != Scanner.ascii '\n')).length
  s!" at line {lines} column {column}"

/-- Why a line is refused; nothing for an empty line or one that is not refused. -/
def refusal? (line : String) : Option String :=
  let bytes := Text.Utf8.encode (Text.trimChars line.toList)
  if bytes = [] then none
  else
    match Scanner.passLine bytes with
    | .ok _ => none
    | .error r => some (r.cause.message ++ placeText (bytes.take (bytes.length - r.left)))

end CommandLine

end ControllerLink
