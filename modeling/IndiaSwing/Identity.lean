import Mathlib.Data.List.Infix
import IndiaSwing.Lib.CivilTime
import IndiaSwing.Lib.DigitText
import IndiaSwing.Lib.JsonText
import IndiaSwing.Lib.KeySort

namespace IndiaSwing

open JsonText KeySort

section SensitiveNames

def sensitiveAttributeParts : List String :=
  ["api_key", "apikey", "authorization", "credential", "password", "private_key", "secret", "access_token",
    "refresh_token", "request_token", "session_token", "auth_token"]

/-- The case folding of a character, for every character whose folding has an ASCII letter. Others fold
to characters that no sensitive part has. -/
def casefoldChar (c : Char) : List Char :=
  if 'A' ≤ c ∧ c ≤ 'Z' then [Char.ofNat (c.toNat + 32)]
  else match c with
    | 'ß' | 'ẞ' => ['s', 's']
    | 'ſ' => ['s']
    | '\u212a' => ['k']
    | 'İ' => ['i', '\u0307']
    | 'ŉ' => ['\u02bc', 'n']
    | 'ǰ' => ['j', '\u030c']
    | 'ẖ' => ['h', '\u0331']
    | 'ẗ' => ['t', '\u0308']
    | 'ẘ' => ['w', '\u030a']
    | 'ẙ' => ['y', '\u030a']
    | 'ẚ' => ['a', '\u02be']
    | 'ﬀ' => ['f', 'f']
    | 'ﬁ' => ['f', 'i']
    | 'ﬂ' => ['f', 'l']
    | 'ﬃ' => ['f', 'f', 'i']
    | 'ﬄ' => ['f', 'f', 'l']
    | 'ﬅ' | 'ﬆ' => ['s', 't']
    | c => [c]

/-- `_is_sensitive_attribute` -/
def isSensitiveAttribute (name : String) : Bool :=
  let normalized := (name.toList.flatMap casefoldChar).map fun c => if c = '-' then '_' else c
  sensitiveAttributeParts.any fun part => part.toList <:+: normalized

end SensitiveNames

section Values

/-- An aware datetime: its moment, and the offset its zone shows the moment at. -/
structure AwareDatetime where
  instant : CivilTime.Instant
  utcoffset : ℤ

/-- The values with an identity, without floats, callables and plain objects. A class stands as its dotted
name, the entries of a mapping and the items of a set are in their insertion order, and a dataclass has a
value for each of its field names. -/
inductive IdentityValue
  | none
  | bool (value : Bool)
  | int (value : ℤ)
  | str (value : String)
  | decimal (value : DecimalText.Decimal)
  | datetime (value : AwareDatetime)
  | date (value : CivilTime.CivilDate)
  | bytes (value : List UInt8)
  | enum (typeName : String) (value : IdentityValue)
  | tuple (items : List IdentityValue)
  | list (items : List IdentityValue)
  | set (items : List IdentityValue)
  | mapping (entries : List (IdentityValue × IdentityValue))
  | dataclass (typeName : String) (names : {names : List String // names.Nodup})
      (values : List IdentityValue)

/-- What the encoding takes from outside: the enum classes that are also strings, and SHA-256. -/
structure IdentityContext where
  strEnum : String → Bool
  hexdigest : List UInt8 → String

variable (ctx : IdentityContext)

/-- The string that a key is, if it is one. -/
def keyText : IdentityValue → Option String
  | .str value => some value
  | .enum typeName (.str value) => if ctx.strEnum typeName then some value else none
  | _ => none

def sensitiveKey (key : IdentityValue) : Bool := (keyText ctx key).any isSensitiveAttribute

mutual

/-- `_identity_value` -/
def identityValue : IdentityValue → Json
  | .enum typeName value => .object [("$enum", .string typeName), ("value", identityValue value)]
  | .none => .null
  | .bool value => .bool value
  | .int value => .number value
  | .str value => .string value
  | .decimal value => .object [("$decimal", .string (String.ofList value.str))]
  | .datetime value =>
    .object [("$datetime", .string (String.ofList (value.instant.isoformat ++ ['+', '0', '0', ':', '0', '0'])))]
  | .date value => .object [("$date", .string (String.ofList value.isoformat))]
  | .bytes value =>
    .object [("$bytes_sha256", .string (ctx.hexdigest value)), ("length", .number value.length)]
  | .dataclass typeName names values =>
    .object [("$dataclass", .string typeName), ("fields", .object (safeFields names.1 values))]
  | .mapping entries =>
    .object [("$mapping", .array ((sortOn (fun pair => dumps pair.1) (identityPairs entries)).map
      fun pair => .array [pair.1, pair.2]))]
  | .tuple items => .object [("$tuple", .array (identityItems items))]
  | .list items => .object [("$list", .array (identityItems items))]
  | .set items => .object [("$set", .array (sortOn dumps (identityItems items)))]

def identityItems : List IdentityValue → List Json
  | [] => []
  | item :: items => identityValue item :: identityItems items

/-- The pairs of a mapping whose keys are not sensitive. -/
def identityPairs : List (IdentityValue × IdentityValue) → List (Json × Json)
  | [] => []
  | (key, item) :: entries =>
    if sensitiveKey ctx key then identityPairs entries
    else (identityValue key, identityValue item) :: identityPairs entries

/-- The fields of a dataclass whose names are not sensitive. -/
def safeFields : List String → List IdentityValue → List (String × Json)
  | name :: names, value :: values =>
    if isSensitiveAttribute name then safeFields names values
    else (name, identityValue value) :: safeFields names values
  | _, _ => []

end

/-- `canonical_identity_json` -/
def canonicalIdentityJson (value : IdentityValue) : String := dumps (identityValue ctx value)

end Values

end IndiaSwing
