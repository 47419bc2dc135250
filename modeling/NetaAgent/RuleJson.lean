import NetaAgent.NumberText
import NetaAgent.TextOrder

/-!
The JSON parser of the rule documents.

A parsing function takes the text from its position on and returns what it read with the text
after it; a failure keeps the text from the position at which it was thrown, which gives the byte
in the message. The recursion of `parse_value` and the loops over members and elements are bounded
by the length of the text: each of them consumes a byte. The stack of the process, which a deeply
nested document exhausts, is not modelled.
-/

namespace NetaAgent.RuleJson

open Decimal NumberText TextOrder List

/-- `JsonValue`; an object holds its members in the order of their keys. -/
inductive JsonValue where
  | null
  | boolean (value : Bool)
  | number (value : Double)
  | string (value : Text)
  | array (items : List JsonValue)
  | object (members : List (Text × JsonValue))

inductive Failure where
  | thrown (rest message : Text)
  | outOfFuel

def fail {α : Type} (rest message : Text) : Except Failure α := .error (.thrown rest message)

/-- `std::map::emplace`: nothing is inserted for a key that is there. -/
def emplace {α : Type} (key : Text) (value : α) : List (Text × α) → Option (List (Text × α))
  | [] => some [(key, value)]
  | (k, v) :: m =>
    if key = k then none
    else if textLt key k then some ((key, value) :: (k, v) :: m)
    else (emplace key value m).map ((k, v) :: ·)

def skipWs (t : Text) : Text := t.dropWhile isSpace

variable (input : Text) (expected : Char)

def consume (t : Text) : Option Text :=
  match skipWs t with
  | [] => none
  | c :: r => if c = expected then some r else none

def expect (t : Text) : Except Failure Text :=
  match consume expected t with
  | some r => .ok r
  | none => .error (.thrown (skipWs t) ("expected '" ++ [expected, '\'']))

/-! ### Strings -/

def hexDigit (c : Char) : Option ℕ :=
  if '0' ≤ c ∧ c ≤ '9' then some (c.toNat - '0'.toNat)
  else if 'a' ≤ c ∧ c ≤ 'f' then some (10 + (c.toNat - 'a'.toNat))
  else if 'A' ≤ c ∧ c ≤ 'F' then some (10 + (c.toNat - 'A'.toNat))
  else none

def appendUtf8 (value : ℕ) : Text :=
  if value ≤ 0x7f then [Char.ofNat value]
  else if value ≤ 0x7ff then
    [Char.ofNat (0xc0 ||| (value >>> 6)), Char.ofNat (0x80 ||| (value &&& 0x3f))]
  else
    [Char.ofNat (0xe0 ||| (value >>> 12)), Char.ofNat (0x80 ||| ((value >>> 6) &&& 0x3f)),
      Char.ofNat (0x80 ||| (value &&& 0x3f))]

def invalidUnicode : Text := "invalid unicode escape"

/-- The four digits after `\u`, with the text behind them. -/
def parseUnicodeEscape (a b c d : Char) (r : Text) : Except Failure Text := do
  let digit (c : Char) (rest : Text) : Except Failure ℕ :=
    match hexDigit c with
    | some n => .ok n
    | none => .error (.thrown rest invalidUnicode)
  let x ← digit a (b :: c :: d :: r)
  let y ← digit b (c :: d :: r)
  let z ← digit c (d :: r)
  let w ← digit d r
  let value := ((x * 16 + y) * 16 + z) * 16 + w
  if 0xd800 ≤ value ∧ value ≤ 0xdfff then
    .error (.thrown r "surrogate escapes are not supported")
  else .ok (appendUtf8 value)

def simpleEscape (c : Char) : Option Char :=
  if c = '"' ∨ c = '\\' ∨ c = '/' then some c
  else if c = 'b' then some '\x08'
  else if c = 'f' then some '\x0c'
  else if c = 'n' then some '\n'
  else if c = 'r' then some '\r'
  else if c = 't' then some '\t'
  else none

def stringBody : Text → Except Failure (Text × Text)
  | [] => fail [] "unterminated string"
  | c :: r =>
    if c = '"' then .ok ([], r)
    else if c.toNat < 0x20 then fail r "control character in string"
    else if c ≠ '\\' then (stringBody r).map fun p => (c :: p.1, p.2)
    else
      match r with
      | [] => fail [] "unterminated escape sequence"
      | e :: r =>
        match simpleEscape e with
        | some d => (stringBody r).map fun p => (d :: p.1, p.2)
        | none =>
          if e ≠ 'u' then fail r "unsupported escape sequence"
          else
            match r with
            | a :: b :: c :: d :: r =>
              match parseUnicodeEscape a b c d r with
              | .ok bytes => (stringBody r).map fun p => (bytes ++ p.1, p.2)
              | .error e => .error e
            | _ => fail r "short unicode escape"

def parseString : Text → Except Failure (Text × Text)
  | [] => fail [] "expected string"
  | c :: r => if c = '"' then stringBody r else fail (c :: r) "expected string"

/-! ### Numbers -/

def digitsOrFail (message : Text) (t : Text) : Except Failure Text :=
  if t.takeWhile Char.isDigit = [] then .error (.thrown t message)
  else .ok (t.dropWhile Char.isDigit)

def skipFraction : Text → Except Failure Text
  | '.' :: r => digitsOrFail "invalid fraction" r
  | r => .ok r

def skipSign : Text → Text
  | '+' :: r => r
  | '-' :: r => r
  | r => r

def skipExponent : Text → Except Failure Text
  | 'e' :: r => digitsOrFail "invalid exponent" (skipSign r)
  | 'E' :: r => digitsOrFail "invalid exponent" (skipSign r)
  | r => .ok r

/-- The digits before the point: a zero alone, or digits. -/
def skipInteger : Text → Except Failure Text
  | [] => .error (.thrown [] "incomplete number")
  | '0' :: r => .ok r
  | r => digitsOrFail "invalid number" r

def skipMinus : Text → Text
  | '-' :: r => r
  | r => r

def parseNumber (t : Text) : Except Failure (Double × Text) := do
  let r ← skipInteger (skipMinus t)
  let r ← skipFraction r
  let r ← skipExponent r
  match strtod (t.take (t.length - r.length)) with
  | .finite d => .ok (d, r)
  | _ => fail r "invalid finite number"

/-! ### Values -/

def parseLiteral (literal : Text) (value : JsonValue) (t : Text) : Except Failure (JsonValue × Text) :=
  if literal <+: t then .ok (value, t.drop literal.length) else fail t "invalid literal"

def parseMembers (parseValue : Text → Except Failure (JsonValue × Text)) :
    ℕ → List (Text × JsonValue) → Text → Except Failure (JsonValue × Text)
  | 0, _, _ => .error .outOfFuel
  | fuel + 1, object, t => do
    let t := skipWs t
    if t.head? ≠ some '"' then fail t "object key must be a string"
    let (key, t) ← parseString t
    let t ← expect ':' t
    let (value, t) ← parseValue t
    match emplace key value object with
    | none => fail t ("duplicate object key: " ++ key)
    | some object =>
      match consume '\x7d' t with
      | some t => .ok (.object object, t)
      | none => do
        let t ← expect ',' t
        parseMembers parseValue fuel object t

def parseElements (parseValue : Text → Except Failure (JsonValue × Text)) :
    ℕ → List JsonValue → Text → Except Failure (JsonValue × Text)
  | 0, _, _ => .error .outOfFuel
  | fuel + 1, array, t => do
    let (value, t) ← parseValue t
    match consume ']' t with
    | some t => .ok (.array (array ++ [value]), t)
    | none => do
      let t ← expect ',' t
      parseElements parseValue fuel (array ++ [value]) t

def parseObject (parseValue : Text → Except Failure (JsonValue × Text)) (t : Text) :
    Except Failure (JsonValue × Text) := do
  let t ← expect '\x7b' t
  match consume '\x7d' t with
  | some t => .ok (.object [], t)
  | none => parseMembers parseValue (t.length + 1) [] t

def parseArray (parseValue : Text → Except Failure (JsonValue × Text)) (t : Text) :
    Except Failure (JsonValue × Text) := do
  let t ← expect '[' t
  match consume ']' t with
  | some t => .ok (.array [], t)
  | none => parseElements parseValue (t.length + 1) [] t

def parseValue : ℕ → Text → Except Failure (JsonValue × Text)
  | 0, _ => .error .outOfFuel
  | fuel + 1, t =>
    match skipWs t with
    | [] => fail [] "unexpected end of input"
    | c :: r =>
      if c = '\x7b' then parseObject (parseValue fuel) (c :: r)
      else if c = '[' then parseArray (parseValue fuel) (c :: r)
      else if c = '"' then (parseString (c :: r)).map fun p => (.string p.1, p.2)
      else if c = 't' then parseLiteral "true" (.boolean true) (c :: r)
      else if c = 'f' then parseLiteral "false" (.boolean false) (c :: r)
      else if c = 'n' then parseLiteral "null" .null (c :: r)
      else if c = '-' ∨ c.isDigit then (parseNumber (c :: r)).map fun p => (.number p.1, p.2)
      else fail (c :: r) "unexpected token"

/-- `JsonParser(input).parse()`, with the texts of its exceptions. -/
def parse : Except Failure JsonValue := do
  let (value, t) ← parseValue (input.length + 1) input
  if skipWs t ≠ [] then .error (.thrown (skipWs t) "unexpected trailing content")
  else .ok value

def Failure.message : Failure → Text
  | .thrown rest message =>
    "invalid JSON at byte " ++ decimal (input.length - rest.length) ++ ": " ++ message
  | .outOfFuel => []

/-! ### Values as types -/

def notA (label : Text) : Text := "JSON value is not a " ++ label

namespace JsonValue

def asBoolean : JsonValue → Except Text Bool
  | boolean b => .ok b
  | _ => .error (notA "boolean")

def asNumber : JsonValue → Except Text Double
  | number d => .ok d
  | _ => .error (notA "number")

def asString : JsonValue → Except Text Text
  | string s => .ok s
  | _ => .error (notA "string")

def asArray : JsonValue → Except Text (List JsonValue)
  | array items => .ok items
  | _ => .error (notA "array")

def asObject : JsonValue → Except Text (List (Text × JsonValue))
  | object members => .ok members
  | _ => .error (notA "object")

def find (value : JsonValue) (key : Text) : Except Text (Option JsonValue) := do
  let members ← value.asObject
  .ok ((members.find? fun m => m.1 = key).map Prod.snd)

/-- `JsonValue::at`. -/
def get (value : JsonValue) (key : Text) : Except Text JsonValue := do
  match ← value.find key with
  | some v => .ok v
  | none => .error ("missing JSON field: " ++ key)

end JsonValue

end NetaAgent.RuleJson
