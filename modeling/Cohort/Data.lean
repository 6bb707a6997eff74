/-!
# Data

Values that scripts pass around, and their text in JSON notation.
-/

set_option autoImplicit false

namespace Cohort

inductive Data where
  | null
  | bool (value : Bool)
  | int (value : Int)
  | text (value : String)
  | list (items : List Data)
  | record (fields : List (String × Data))

namespace Data

instance : Inhabited Data := ⟨.null⟩

/-- The four hexadecimal digits of a control character. -/
def hexDigits (code : Nat) : String :=
  String.ofList ([code / 4096, code / 256 % 16, code / 16 % 16, code % 16].map Nat.digitChar)

/-- Quotes, backslashes and control characters are escaped, nothing else. -/
def escape (char : Char) : String :=
  if char = '"' then "\\\""
  else if char = '\\' then "\\\\"
  else if char = '\n' then "\\n"
  else if char = '\r' then "\\r"
  else if char = '\t' then "\\t"
  else if char = '\x08' then "\\b"
  else if char = '\x0c' then "\\f"
  else if char.toNat < 32 then "\\u" ++ hexDigits char.toNat
  else char.toString

def quote (text : String) : String :=
  "\"" ++ String.join (text.toList.map escape) ++ "\""

mutual

/-- The value in compact notation, the fields of a record as they stand. -/
def render : Data → String
  | .null => "null"
  | .bool true => "true"
  | .bool false => "false"
  | .int value => toString value
  | .text value => quote value
  | .list items => "[" ++ String.intercalate "," (renderItems items) ++ "]"
  | .record fields => "\x7b" ++ String.intercalate "," (renderFields fields) ++ "\x7d"

def renderItems : List Data → List String
  | [] => []
  | item :: rest => item.render :: renderItems rest

def renderFields : List (String × Data) → List String
  | [] => []
  | (name, value) :: rest => (quote name ++ ":" ++ value.render) :: renderFields rest

end

/-- The text of a value where plain text is wanted: a text stands for itself. -/
def plain : Data → String
  | .text value => value
  | other => other.render

/-- The value of a field of a record. -/
def field? (data : Data) (name : String) : Option Data :=
  match data with
  | .record fields => (fields.find? (fun field => field.1 == name)).map Prod.snd
  | _ => none

end Data

end Cohort
