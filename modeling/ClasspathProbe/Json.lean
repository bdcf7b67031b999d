import ClasspathProbe.Value

/-!
# JSON documents

The data of a JSON document, with the members of an object in their order.
-/

namespace ClasspathProbe

/-- A JSON document. A number with a fraction or an exponent is kept as the bits of its floating
point form. -/
inductive Json where
  | null
  | bool (b : Bool)
  | int (n : Int)
  | float (bits : UInt64)
  | text (s : Text)
  | list (vs : List Json)
  | object (ms : List (Text × Json))

namespace Json

instance : Inhabited Json := ⟨.null⟩

/-- The member of an object under a name. -/
def field? (name : Text) : Json → Option Json
  | .object ms => ms.lookup name
  | _ => none

mutual

/-- A document as a configuration value; of members with one name the last counts, in the place of
the first. -/
def toValue : Json → Value
  | .null => .null
  | .bool b => .bool b
  | .int n => .int n
  | .float bits => .float bits
  | .text s => .text s
  | .list vs => .list (toValues vs)
  | .object ms => .mapping (storeAll [] ms)

/-- Each of some documents as a configuration value. -/
def toValues : List Json → List Value
  | [] => []
  | v :: vs => toValue v :: toValues vs

/-- Pairs with the members of an object stored in them one after the other. -/
def storeAll (ps : List (Value × Value)) : List (Text × Json) → List (Value × Value)
  | [] => ps
  | (k, v) :: ms => storeAll (Value.store (.text k) (toValue v) ps) ms

end

end Json

end ClasspathProbe
