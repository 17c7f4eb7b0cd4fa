import TemplateAudit.Json.Basic
import TemplateAudit.Text.Case

/-! # Agreement of values

The equality that rules use: texts agree up to their lower case, numbers by value, and arrays and
objects item by item. The members of an object find their partners up to ASCII case.
-/

namespace TemplateAudit.Json

def textsAgree (a b : String) : Bool := Text.lowercase a = Text.lowercase b

/-- The value of the first member whose name agrees up to ASCII case. -/
def partner? (name : String) (members : List (String × Json)) : Option Json :=
  (members.find? fun m => Text.sameIgnoringCase m.1 name).map (·.2)

mutual

def agrees : Json → Json → Bool
  | .null, .null => true
  | .bool a, .bool b => a = b
  | .number a, .number b => a.compare? b = some .eq
  | .string a, .string b => textsAgree a b
  | .array as, .array bs => itemsAgree as bs
  | .object as, .object bs => as.length = bs.length && membersAgree as bs
  | _, _ => false

def itemsAgree : List Json → List Json → Bool
  | [], [] => true
  | a :: as, b :: bs => agrees a b && itemsAgree as bs
  | _, _ => false

/-- Whether every member on the left agrees with its partner on the right. -/
def membersAgree : List (String × Json) → List (String × Json) → Bool
  | [], _ => true
  | (name, value) :: rest, others =>
    (match partner? name others with
      | some other => agrees value other
      | none => false) && membersAgree rest others

end

/-- Containment: of a part in a text, of an item in an array, of a member name in an object. -/
def contains : Json → Json → Bool
  | .string text, .string part =>
    Text.occursIn (Text.lowercase part).toList (Text.lowercase text).toList
  | .array items, item => items.any fun i => agrees i item
  | .object members, .string name => members.any fun m => Text.sameIgnoringCase m.1 name
  | _, _ => false

end TemplateAudit.Json
