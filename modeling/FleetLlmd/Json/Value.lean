import FleetLlmd.Json.Quote
import FleetLlmd.Go.Time

/-!
# Untyped values

What `encoding/json` puts into an `interface{}`: numbers keep their text under
`UseNumber` and are `float64` otherwise, and an object is a map, in which a
repeated key keeps its last value. A map is a list of entries in the order of the
keys' bytes, so that equal maps are equal values.
-/

namespace FleetLlmd.Json
open Go

inductive Value where
  | null
  | bool (b : Bool)
  | number (lit : List Char)
  | float (x : Float64)
  | string (s : String)
  | array (items : List Value)
  | object (entries : List (String × Value))

def bytesLt : Bytes → Bytes → Bool
  | _, [] => false
  | [], _ :: _ => true
  | a :: as, b :: bs => a < b || (a == b && bytesLt as bs)

def keyLt (a b : String) : Bool := bytesLt (utf8 a) (utf8 b)

section Entries
variable {α : Type}

/-- `m[key] = value` on a map kept in key order. -/
def insertKey (key : String) (value : α) : List (String × α) → List (String × α)
  | [] => [(key, value)]
  | e :: es =>
    if key = e.1 then (key, value) :: es
    else if keyLt key e.1 then (key, value) :: e :: es
    else e :: insertKey key value es

def lookupKey (key : String) : List (String × α) → Option α
  | [] => none
  | e :: es => if e.1 = key then some e.2 else lookupKey key es

def ofEntries (es : List (String × α)) : List (String × α) :=
  es.foldl (fun m e => insertKey e.1 e.2 m) []

end Entries

mutual

def Raw.toAny : Raw → Value
  | .null => .null
  | .bool b => .bool b
  | .number lit => .number lit
  | .string lit => .string (String.ofList (unquote lit))
  | .array items => .array (Raw.toAnyItems items)
  | .object members => .object (Raw.toAnyEntries members [])

def Raw.toAnyItems : List Raw → List Value
  | [] => []
  | item :: items => item.toAny :: Raw.toAnyItems items

def Raw.toAnyEntries : List (String × Raw) → List (String × Value) → List (String × Value)
  | [], m => m
  | (key, value) :: members, m => Raw.toAnyEntries members (insertKey key value.toAny m)

end

theorem Raw.toAnyItems_eq_map (items : List Raw) : Raw.toAnyItems items = items.map Raw.toAny := by
  induction items with
  | nil => rfl
  | cons item items ih => rw [Raw.toAnyItems, ih, List.map_cons]

end FleetLlmd.Json
