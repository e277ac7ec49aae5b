import BbAuth.Library.Table

open Library
namespace BbAuth

-- QString holds UTF-16 code units, QChar is one of them.
abbrev QChar := UInt16
abbrev QString := List QChar

-- A string literal of the sources. All of them are plain ASCII.
def text (literal : String) : QString := literal.toList.map (fun c => UInt16.ofNat c.toNat)

-- The sources compare the lower-cased text only with ASCII words in which no
-- letter is the lower case of a character outside ASCII.
def toLower (s : QString) : QString :=
  s.map (fun c => if 0x41 ≤ c ∧ c ≤ 0x5A then c + 0x20 else c)

-- Exact on ASCII text.
def toUpper (s : QString) : QString :=
  s.map (fun c => if 0x61 ≤ c ∧ c ≤ 0x7A then c - 0x20 else c)

inductive QJsonValue where
  | undefined
  | null
  | bool (value : Bool)
  | integer (value : Int)
  | fraction
  | string (value : QString)
  | array
  | object
  deriving DecidableEq, Repr

-- The conversions fall back to the default of the target type when the value
-- has another type, and toInt also when the number does not fit an int.
def QJsonValue.toString : QJsonValue → QString
  | .string value => value
  | _ => []

def QJsonValue.toInt : QJsonValue → Int
  | .integer value => if -2147483648 ≤ value ∧ value ≤ 2147483647 then value else 0
  | _ => 0

def QJsonValue.toBool : QJsonValue → Bool
  | .bool value => value
  | _ => false

-- What QJsonDocument::fromJson leaves of a received line: its top-level fields.
structure QJsonObject where
  fields : Table QString QJsonValue

def QJsonObject.value (msg : QJsonObject) (key : QString) : QJsonValue :=
  (msg.fields.find key).getD .undefined

def QJsonObject.contains (msg : QJsonObject) (key : QString) : Bool := msg.fields.contains key

def QJsonObject.ofList (fields : List (QString × QJsonValue)) : QJsonObject :=
  ⟨fields.foldr (fun field table => table.insert field.1 field.2) .empty⟩

end BbAuth
