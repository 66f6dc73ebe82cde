import Mathlib.Data.List.Sort
import Mathlib.Data.String.Basic
import IndiaSwing.Lib.DigitText

namespace JsonText

open DigitText

inductive Json
  | null
  | bool (value : Bool)
  | number (value : ℤ)
  | string (value : String)
  | array (items : List Json)
  | object (entries : List (String × Json))

/-- Why a text is not read. -/
inductive JsonError
  | syntax_
  | float
  | constant
  | duplicateKey
  deriving DecidableEq, Repr

section Render

def hexDigit (n : ℕ) : Char := Nat.digitChar n

/-- A character of a string: quotes, backslashes and control characters are escaped. -/
def escape (c : Char) : List Char :=
  if c = '"' then ['\\', '"']
  else if c = '\\' then ['\\', '\\']
  else if c = '\n' then ['\\', 'n']
  else if c = '\r' then ['\\', 'r']
  else if c = '\t' then ['\\', 't']
  else if c = '\x08' then ['\\', 'b']
  else if c = '\x0c' then ['\\', 'f']
  else if c.toNat < 32 then ['\\', 'u', '0', '0', hexDigit (c.toNat / 16), hexDigit (c.toNat % 16)]
  else [c]

/-- What follows the opening quote of a string. -/
def renderChars (chars : List Char) : List Char := chars.flatMap escape ++ ['"']

def renderString (value : String) : List Char := '"' :: renderChars value.toList

def renderNumber : ℤ → List Char
  | .ofNat n => digits n
  | .negSucc n => '-' :: digits (n + 1)

mutual

/-- The compact text of a value. -/
def render : Json → List Char
  | .null => ['n', 'u', 'l', 'l']
  | .bool true => ['t', 'r', 'u', 'e']
  | .bool false => ['f', 'a', 'l', 's', 'e']
  | .number value => renderNumber value
  | .string value => renderString value
  | .array [] => ['[', ']']
  | .array (item :: items) => '[' :: (render item ++ renderItems items)
  | .object [] => ['{', '}']
  | .object ((key, value) :: entries) =>
    '{' :: (renderString key ++ ':' :: (render value ++ renderEntries entries))

/-- The rest of an array after an item. -/
def renderItems : List Json → List Char
  | [] => [']']
  | item :: items => ',' :: (render item ++ renderItems items)

/-- The rest of an object after an entry. -/
def renderEntries : List (String × Json) → List Char
  | [] => ['}']
  | (key, value) :: entries =>
    ',' :: (renderString key ++ ':' :: (render value ++ renderEntries entries))

end

mutual

/-- The value with the entries of every object in the order of their keys. -/
def sortKeys : Json → Json
  | .array items => .array (sortItems items)
  | .object entries => .object ((sortEntries entries).insertionSort fun a b => a.1 ≤ b.1)
  | .null => .null
  | .bool value => .bool value
  | .number value => .number value
  | .string value => .string value

def sortItems : List Json → List Json
  | [] => []
  | item :: items => sortKeys item :: sortItems items

def sortEntries : List (String × Json) → List (String × Json)
  | [] => []
  | (key, value) :: entries => (key, sortKeys value) :: sortEntries entries

end

/-- The compact text with sorted keys. -/
def dumps (value : Json) : String := String.ofList (render (sortKeys value))

end Render

section Parse

def skipSpaces (text : List Char) : List Char :=
  text.dropWhile fun c => c = ' ' || c = '\t' || c = '\n' || c = '\r'

def hexValue (c : Char) : Option ℕ :=
  if '0' ≤ c ∧ c ≤ '9' then some (c.toNat - '0'.toNat)
  else if 'a' ≤ c ∧ c ≤ 'f' then some (c.toNat - 'a'.toNat + 10)
  else if 'A' ≤ c ∧ c ≤ 'F' then some (c.toNat - 'A'.toNat + 10)
  else none

def hexQuad (a b c d : Char) : Option ℕ := do
  let a ← hexValue a
  let b ← hexValue b
  let c ← hexValue c
  let d ← hexValue d
  return ((a * 16 + b) * 16 + c) * 16 + d

def simpleEscape (c : Char) : Option Char :=
  if c = '"' ∨ c = '\\' ∨ c = '/' then some c
  else if c = 'n' then some '\n'
  else if c = 'r' then some '\r'
  else if c = 't' then some '\t'
  else if c = 'b' then some '\x08'
  else if c = 'f' then some '\x0c'
  else none

def highSurrogate (n : ℕ) : Bool := 0xd800 ≤ n && n < 0xdc00

def lowSurrogate (n : ℕ) : Bool := 0xdc00 ≤ n && n < 0xe000

def consChar (c : Char) : Except JsonError (List Char × List Char) → Except JsonError (List Char × List Char)
  | .ok (chars, rest) => .ok (c :: chars, rest)
  | .error e => .error e

/-- The characters of a string up to its closing quote, and the text after it. A surrogate without its
partner is an error. -/
def scanString : List Char → Except JsonError (List Char × List Char)
  | [] => .error .syntax_
  | '"' :: rest => .ok ([], rest)
  | '\\' :: 'u' :: a :: b :: c :: d :: rest =>
    match hexQuad a b c d with
    | none => .error .syntax_
    | some n =>
      if highSurrogate n then
        match rest with
        | '\\' :: 'u' :: a :: b :: c :: d :: rest =>
          match hexQuad a b c d with
          | none => .error .syntax_
          | some m =>
            if lowSurrogate m then
              consChar (Char.ofNat (0x10000 + (n - 0xd800) * 0x400 + (m - 0xdc00))) (scanString rest)
            else .error .syntax_
        | _ => .error .syntax_
      else if lowSurrogate n then .error .syntax_
      else consChar (Char.ofNat n) (scanString rest)
  | '\\' :: c :: rest =>
    match simpleEscape c with
    | none => .error .syntax_
    | some c => consChar c (scanString rest)
  | c :: rest => if c.toNat < 32 ∨ c = '\\' then .error .syntax_ else consChar c (scanString rest)

/-- The digits of an integer and the text after them. -/
def scanInteger : List Char → Option (ℕ × List Char)
  | [] => none
  | '0' :: rest => some (0, rest)
  | c :: rest =>
    if c.isDigit then some (value (c :: rest.takeWhile (·.isDigit)), rest.dropWhile (·.isDigit)) else none

/-- A fraction or an exponent follows. -/
def floatFollows : List Char → Bool
  | '.' :: c :: _ => c.isDigit
  | e :: c :: rest =>
    (e = 'e' || e = 'E') && (c.isDigit || ((c = '+' || c = '-') && rest.head?.any (·.isDigit)))
  | _ => false

def parseNumber (text : List Char) : Except JsonError (Json × List Char) :=
  let negative := text.head? = some '-'
  match scanInteger (if negative then text.tail else text) with
  | some (n, rest) =>
    if floatFollows rest then .error .float
    else .ok (.number (if negative then -(n : ℤ) else n), rest)
  | none =>
    if ['N', 'a', 'N'] <+: text ∨ ['I', 'n', 'f', 'i', 'n', 'i', 't', 'y'] <+: text ∨
      ['-', 'I', 'n', 'f', 'i', 'n', 'i', 't', 'y'] <+: text then .error .constant
    else .error .syntax_

mutual

/-- Reads one value of at most the given depth. -/
def parseValue : ℕ → List Char → Except JsonError (Json × List Char)
  | 0, _ => .error .syntax_
  | depth + 1, text =>
    match text with
    | '"' :: rest => do
      let (chars, rest) ← scanString rest
      return (.string (String.ofList chars), rest)
    | '[' :: rest =>
      match skipSpaces rest with
      | ']' :: rest => return (.array [], rest)
      | text => do
        let (items, rest) ← parseItems depth text
        return (.array items, rest)
    | '{' :: rest =>
      match skipSpaces rest with
      | '}' :: rest => return (.object [], rest)
      | text => do
        let (entries, rest) ← parseEntries depth text
        if (entries.map (·.1)).Nodup then return (.object entries, rest)
        else throw .duplicateKey
    | 'n' :: 'u' :: 'l' :: 'l' :: rest => return (.null, rest)
    | 't' :: 'r' :: 'u' :: 'e' :: rest => return (.bool true, rest)
    | 'f' :: 'a' :: 'l' :: 's' :: 'e' :: rest => return (.bool false, rest)
    | text => parseNumber text

/-- Reads the items of an array from the first one on. -/
def parseItems : ℕ → List Char → Except JsonError (List Json × List Char)
  | 0, _ => .error .syntax_
  | depth + 1, text => do
    let (item, rest) ← parseValue depth text
    match skipSpaces rest with
    | ']' :: rest => return ([item], rest)
    | ',' :: rest => do
      let (items, rest) ← parseItems depth (skipSpaces rest)
      return (item :: items, rest)
    | _ => throw .syntax_

/-- Reads the entries of an object from the first one on. -/
def parseEntries : ℕ → List Char → Except JsonError (List (String × Json) × List Char)
  | 0, _ => .error .syntax_
  | depth + 1, text =>
    match text with
    | '"' :: rest => do
      let (key, rest) ← scanString rest
      match skipSpaces rest with
      | ':' :: rest => do
        let (value, rest) ← parseValue depth (skipSpaces rest)
        match skipSpaces rest with
        | '}' :: rest => return ([(String.ofList key, value)], rest)
        | ',' :: rest => do
          let (entries, rest) ← parseEntries depth (skipSpaces rest)
          return ((String.ofList key, value) :: entries, rest)
        | _ => throw .syntax_
      | _ => throw .syntax_
    | _ => throw .syntax_

end

/-- The value of a text: no byte order mark, no floats, no constants, no key twice. -/
def loads (text : String) : Except JsonError Json :=
  if text.toList.head? = some '\ufeff' then .error .syntax_
  else do
    let (value, rest) ← parseValue (text.toList.length + 1) (skipSpaces text.toList)
    if skipSpaces rest = [] then return value else throw .syntax_

end Parse

end JsonText
