import FleetLlmd.Json.Value

/-!
# Decoding into typed destinations

`encoding/json` decodes into a destination that may already hold a value. The
members of an object are decoded in the order of the text; a key selects the field
of its name, or else a field whose name equals it ignoring case; a key that comes
again decodes again into the same field. So a decoder takes the old value:
structs merge, a map keeps its entries, a pointer decodes into what it points to,
and a slice decodes into the elements its array still holds.

Decoding stops at the first error. Go may report another one of several, but a
destination is never used after an error.
-/

namespace FleetLlmd.Json
open Go

abbrev Decoder (α : Type) := Raw → α → Except Error α

def Raw.kind : Raw → String
  | .null => "null"
  | .bool _ => "bool"
  | .number lit => "number " ++ String.ofList lit
  | .string _ => "string"
  | .array _ => "array"
  | .object _ => "object"

def typeError (r : Raw) (type : String) : Error :=
  .errorf "json: cannot unmarshal %s into Go value of type %s" [r.kind, type]

def decodeString : Decoder String
  | .null, s => .ok s
  | .string lit, _ => .ok (String.ofList (unquote lit))
  | r, _ => .error (typeError r "string")

def decodeBool : Decoder Bool
  | .null, b => .ok b
  | .bool b, _ => .ok b
  | r, _ => .error (typeError r "bool")

def decodeFloat64 : Decoder Float64
  | .null, x => .ok x
  | .number lit, _ =>
    match Float64.parse lit with
    | some x => .ok x
    | none => .error (typeError (.number lit) "float64")
  | r, _ => .error (typeError r "float64")

/-- `strconv.ParseInt(text, 10, 64)` on the text of a JSON number. -/
def parseInt (lit : List Char) : Option Int :=
  let magnitude (cs : List Char) : Option Int :=
    if allDigits cs then some (digitsValue cs : Nat) else none
  let value := match lit with
    | '-' :: cs => (magnitude cs).map (- ·)
    | cs => magnitude cs
  value.filter fun n => decide (-9223372036854775808 ≤ n ∧ n ≤ 9223372036854775807)

def decodeInt : Decoder Int
  | .null, n => .ok n
  | .number lit, _ =>
    match parseInt lit with
    | some n => .ok n
    | none => .error (typeError (.number lit) "int")
  | r, _ => .error (typeError r "int")

/-- `Time.UnmarshalJSON` reads the literal as it is spelled, escapes included. -/
def decodeTime : Decoder Time
  | .null, t => .ok t
  | .string lit, _ =>
    match Time.parse lit with
    | some t => .ok t
    | none => .error (.errorf "parsing time %q as RFC 3339" [String.ofList lit])
  | _, _ => .error (.sentinel "Time.UnmarshalJSON: input is not a JSON string")

def decodeRawMessage : Decoder (Option Raw) := fun r _ => .ok (some r)

def decodePointer {α : Type} (zero : α) (d : Decoder α) : Decoder (Option α)
  | .null, _ => .ok none
  | r, p => (d r (p.getD zero)).map some

inductive Slice (α : Type) where
  | nil
  | backed (items spare : List α)

namespace Slice
variable {α : Type}

def items : Slice α → List α
  | .nil => []
  | .backed items _ => items

def held : Slice α → List α
  | .nil => []
  | .backed items spare => items ++ spare

def isNil : Slice α → Bool
  | .nil => true
  | .backed _ _ => false

end Slice

def decodeItems {α : Type} (zero : α) (d : Decoder α) : List Raw → List α → Except Error (List α)
  | [], _ => .ok []
  | r :: rs, held =>
    match d r (held.headD zero) with
    | .error e => .error e
    | .ok x => (decodeItems zero d rs held.tail).map (x :: ·)

def decodeSlice {α : Type} (zero : α) (d : Decoder α) : Decoder (Slice α)
  | .null, _ => .ok .nil
  | .array [], _ => .ok (.backed [] [])
  | .array rs, s => (decodeItems zero d rs s.held).map fun xs => .backed xs (s.held.drop rs.length)
  | r, _ => .error (typeError r "slice")

/-- `map[string]any`; each entry replaces the one of its key. -/
def decodeMap : Decoder (Option (List (String × Value)))
  | .null, _ => .ok none
  | .object members, m => .ok (some (Raw.toAnyEntries members (m.getD [])))
  | r, _ => .error (typeError r "map[string]interface {}")

def decodeStringEntries : List (String × Raw) → List (String × String) →
    Except Error (List (String × String))
  | [], m => .ok m
  | (key, value) :: entries, m =>
    match decodeString value "" with
    | .error err => .error err
    | .ok s => decodeStringEntries entries (insertKey key s m)

/-- `map[string]string`. -/
def decodeStringMap : Decoder (Option (List (String × String)))
  | .null, _ => .ok none
  | .object members, m => (decodeStringEntries members (m.getD [])).map some
  | r, _ => .error (typeError r "map[string]string")

structure StructField (σ : Type) where
  name : String
  decode : Decoder σ

def structField {σ α : Type} (name : String) (get : σ → α) (set : σ → α → σ) (d : Decoder α) :
    StructField σ where
  name := name
  decode r s := (d r (get s)).map (set s)

def findField {σ : Type} (fields : List (StructField σ)) (key : String) : Option (StructField σ) :=
  match fields.find? fun f => f.name == key with
  | some f => some f
  | none => fields.find? fun f => equalFold f.name key

section Struct
variable {σ : Type} (disallowUnknown : Bool) (fields : List (StructField σ))

def decodeMembers : List (String × Raw) → σ → Except Error σ
  | [], s => .ok s
  | (key, value) :: members, s =>
    match findField fields key with
    | none =>
      if disallowUnknown then .error (.errorf "json: unknown field %q" [key])
      else decodeMembers members s
    | some f =>
      match f.decode value s with
      | .error e => .error e
      | .ok s => decodeMembers members s

def decodeStruct : Decoder σ
  | .null, s => .ok s
  | .object members, s => decodeMembers disallowUnknown fields members s
  | r, _ => .error (typeError r "struct")

end Struct

def syntaxError : Error := .sentinel "invalid JSON text"

def unmarshal {α : Type} (d : Decoder α) (content : Bytes) (zero : α) : Except Error α :=
  match parse (runes content) with
  | none => .error syntaxError
  | some r => d r zero

end FleetLlmd.Json
