import ClasspathProbe.Calendar
import ClasspathProbe.Number.Shortest
import ClasspathProbe.Text.Quoted

/-!
# Configuration values

The values that a configuration document or an environment variable can hold, before it is known
whether they fit the setting they are meant for, and the text forms of such values in messages.
-/

namespace ClasspathProbe

/-- The kinds of collections. -/
inductive Shape where
  | list
  | pair
  | set
  | mapping
deriving DecidableEq, Repr

/-- A value of a configuration document. A floating point number is kept as its bits, and `again`
stands where a collection holds itself. -/
inductive Value where
  | null
  | bool (b : Bool)
  | int (n : Int)
  | float (bits : UInt64)
  | text (s : Text)
  | bytes (bs : List UInt8)
  | date (d : Date)
  | moment (m : Moment)
  | list (vs : List Value)
  | pair (key value : Value)
  | set (vs : List Value)
  | mapping (ps : List (Value × Value))
  | again (shape : Shape)

/-- Named values in order, as keyword arguments, sections and details of a failure hold them. -/
abbrev Fields := List (Text × Value)

namespace Value

instance : Inhabited Value := ⟨.null⟩

/-- The word for a value's kind in messages. -/
def kindName : Value → Text
  | .null => "NoneType"
  | .bool _ => "bool"
  | .int _ => "int"
  | .float _ => "float"
  | .text _ => "str"
  | .bytes _ => "bytes"
  | .date _ => "datetime.date"
  | .moment _ => "datetime.datetime"
  | .list _ | .again .list => "list"
  | .pair .. | .again .pair => "tuple"
  | .set _ | .again .set => "set"
  | .mapping _ | .again .mapping => "dict"

/-- Whether a value says something: null, false, zero and empty values do not. -/
def saysSomething : Value → Bool
  | .null => false
  | .bool b => b
  | .int n => n != 0
  | .float bits => bits &&& 0x7fffffffffffffff != 0
  | .text s => !s.isEmpty
  | .bytes bs => !bs.isEmpty
  | .list vs => !vs.isEmpty
  | .set vs => !vs.isEmpty
  | .mapping ps => !ps.isEmpty
  | .date _ | .moment _ | .pair .. | .again _ => true

/-- The text for a collection inside itself. -/
def shownAgain : Shape → Text
  | .list => "[...]"
  | .pair => "(...)"
  | .set => "set(...)"
  | .mapping => "\x7b...\x7d"

mutual

/-- A value as messages show it: texts between quotes, collections with their brackets. -/
def shown : Value → Text
  | .null => "None"
  | .bool b => if b then "True" else "False"
  | .int n => Text.ofInt n
  | .float bits => Number.shown bits
  | .text s => Text.quoted s
  | .bytes bs => Text.quotedBytes bs
  | .date d => d.shown
  | .moment m => m.shown
  | .list vs => '[' :: Text.joined ", " (shownEach vs) ++ "]"
  | .pair k v => '(' :: shown k ++ ", " ++ shown v ++ ")"
  | .set vs => if vs.isEmpty then "set()" else '\x7b' :: Text.joined ", " (shownEach vs) ++ "\x7d"
  | .mapping ps => '\x7b' :: Text.joined ", " (shownPairs ps) ++ "\x7d"
  | .again shape => shownAgain shape

/-- Each of some values as messages show it. -/
def shownEach : List Value → List Text
  | [] => []
  | v :: vs => shown v :: shownEach vs

/-- Each of some pairs as messages show it. -/
def shownPairs : List (Value × Value) → List Text
  | [] => []
  | (k, v) :: ps => (shown k ++ ": " ++ shown v) :: shownPairs ps

end

/-- A value turned into text: a text stays as it is, a date takes its standard form, and any other
value is shown as in messages. -/
def toText : Value → Text
  | .text s => s
  | .date d => d.iso
  | .moment m => m.iso ' '
  | v => v.shown

/-- The number that a value is for comparisons: true and false count as one and zero. -/
def asInt? : Value → Option Int
  | .bool b => some (if b then 1 else 0)
  | .int n => some n
  | .float bits => Number.whole? bits
  | _ => none

/-- Whether two values count as one key: numbers by value, whatever their kind. -/
def sameKey : Value → Value → Bool
  | .null, .null => true
  | .text s, .text t => s = t
  | .bytes s, .bytes t => s = t
  | .date d, .date e => d = e
  | .moment m, .moment n => m.same n
  | .pair k v, .pair l w => sameKey k l && sameKey v w
  | a, b =>
    match a.asInt?, b.asInt? with
    | some m, some n => m = n
    | _, _ =>
      match a, b with
      | .float x, .float y =>
        x = y && (Number.classify x != .notANumber || x = Number.commonNaN)
      | _, _ => false

/-- The value stored in pairs under a key. -/
def find? (key : Value) (ps : List (Value × Value)) : Option Value :=
  (ps.find? fun p => p.1.sameKey key).map (·.2)

/-- Pairs with a value stored under a key: in the key's place when it is there, else at the end. -/
def store (key value : Value) : List (Value × Value) → List (Value × Value)
  | [] => [(key, value)]
  | (k, v) :: ps => if k.sameKey key then (k, value) :: ps else (k, v) :: store key value ps

end Value

/-- Named values with one stored under a name: in the name's place when it is there, else at the
end. -/
def Fields.store (name : Text) (value : Value) : Fields → Fields
  | [] => [(name, value)]
  | (k, v) :: ps => if k = name then (k, value) :: ps else (k, v) :: Fields.store name value ps

def Fields.toValue (fields : Fields) : Value := .mapping (fields.map fun (k, v) => (.text k, v))

end ClasspathProbe
