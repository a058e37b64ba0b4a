import FleetLlmd.Json.Value

/-!
# Encoding

`json.Marshal`: strings with the HTML escapes, floating-point numbers in the
shortest decimal that reads back, instants in RFC 3339, maps in key order, and
structs as their members in the order of the fields, with the empty ones left out
where the field says so. Encoding fails on a value JSON cannot express.
-/

namespace FleetLlmd.Json
open Go

abbrev Encoded := Except Error (List Char)

def encodeString (s : String) : Encoded := .ok (goEscaping.quote s)

def encodeInt (n : Int) : Encoded := .ok (intText n)

def exponentForm (x : Float64) : Bool :=
  x.magnitude != 0 && (decide (x.magnitude < (Float64.ofDecimal false 1 (-6)).magnitude) ||
    decide ((Float64.ofDecimal false 1 21).magnitude ≤ x.magnitude))

def encodeFloat64 (x : Float64) : Encoded :=
  if x.isNaN || x.isInf then .error (.errorf "json: unsupported value: %s" [x.format2])
  else
    let fmt := if exponentForm x then Float64.scientificText 1 else Float64.fixedText
    match x.formatShortest fmt with
    | some text => .ok text
    | none => .error (.errorf "json: unsupported value: %s" [x.format2])

def encodeTime (t : Time) : Encoded :=
  match t.format with
  | some text => .ok ('"' :: (text ++ ['"']))
  | none => .error (.sentinel "json: error calling MarshalJSON for type time.Time")

def encodeArray : List Encoded → Except Error (List (List Char))
  | [] => .ok []
  | item :: items =>
    match item, encodeArray items with
    | .ok text, .ok texts => .ok (text :: texts)
    | .error err, _ => .error err
    | _, .error err => .error err

mutual

def Value.encode : Value → Encoded
  | .null => .ok ['n', 'u', 'l', 'l']
  | .bool true => .ok ['t', 'r', 'u', 'e']
  | .bool false => .ok ['f', 'a', 'l', 's', 'e']
  | .number lit => .ok lit
  | .float x => encodeFloat64 x
  | .string s => encodeString s
  | .array items => (encodeArray (Value.encodeItems items)).map arrayText
  | .object entries =>
    (encodeArray (Value.encodeEntries entries)).map fun texts => '{' :: (commaSep texts ++ ['}'])

def Value.encodeItems : List Value → List Encoded
  | [] => []
  | item :: items => item.encode :: Value.encodeItems items

def Value.encodeEntries : List (String × Value) → List Encoded
  | [] => []
  | (key, value) :: entries =>
    value.encode.map (fun text => memberText goEscaping (key, text)) :: Value.encodeEntries entries

end

abbrev Member := Except Error (Option (String × List Char))

def member (name : String) (text : Encoded) : Member := text.map fun t => some (name, t)

def omitEmpty (name : String) (empty : Bool) (text : Encoded) : Member :=
  if empty then .ok none else member name text

def omitNone {α : Type} (name : String) (encode : α → Encoded) : Option α → Member
  | none => .ok none
  | some a => member name (encode a)

def collectMembers : List Member → Except Error (List (String × List Char))
  | [] => .ok []
  | .error err :: _ => .error err
  | .ok m :: ms => (collectMembers ms).map fun kept => m.toList ++ kept

def encodeStruct (ms : List Member) : Encoded := (collectMembers ms).map (objectText goEscaping)

section Injective

variable {before after : List Member}

theorem collectMembers_append {kept : List (String × List Char)} :
    collectMembers (before ++ after) = .ok kept ↔ ∃ first last,
      collectMembers before = .ok first ∧ collectMembers after = .ok last ∧
        kept = first ++ last := by
  induction before generalizing kept with
  | nil => simp [collectMembers, eq_comm]
  | cons m before ih =>
    cases m with
    | error err => simp [collectMembers]
    | ok m =>
      simp only [List.cons_append, collectMembers]
      cases hrest : collectMembers (before ++ after) with
      | error err =>
        constructor
        · intro h
          cases h
        · rintro ⟨first, last, hfirst, hlast, -⟩
          cases hbefore : collectMembers before with
          | error err' => simp [hbefore, Except.map] at hfirst
          | ok start =>
            have hboth := ih.mpr ⟨start, last, hbefore, hlast, rfl⟩
            rw [hrest] at hboth
            cases hboth
      | ok rest =>
        obtain ⟨start, last, hstart, hlast, rfl⟩ := ih.mp hrest
        simp [hstart, hlast, Except.map, eq_comm]

theorem commaSep_around (before after : List (List Char)) : ∃ left right, ∀ text,
    commaSep (before ++ text :: after) = left ++ (text ++ right) := by
  induction before with
  | nil =>
    cases after with
    | nil => exact ⟨[], [], fun text => by simp [commaSep]⟩
    | cons a after => exact ⟨[], ',' :: commaSep (a :: after), fun text => rfl⟩
  | cons b before ih =>
    obtain ⟨left, right, h⟩ := ih
    refine ⟨b ++ ',' :: left, right, fun text => ?_⟩
    have hne : ∃ c cs, before ++ text :: after = c :: cs := by cases before <;> exact ⟨_, _, rfl⟩
    obtain ⟨c, cs, hcs⟩ := hne
    rw [List.cons_append, hcs, commaSep, ← hcs, h]
    · simp
    · exact fun h => nomatch h

theorem encodeStruct_member {name s : String} {text : List Char} :
    encodeStruct (before ++ member name (encodeString s) :: after) = .ok text ↔ ∃ first last,
      collectMembers before = .ok first ∧ collectMembers after = .ok last ∧
        text = objectText goEscaping (first ++ (name, goEscaping.quote s) :: last) := by
  have hcons (rest : List (String × List Char)) :
      collectMembers (member name (encodeString s) :: after) = .ok rest ↔
        ∃ last, collectMembers after = .ok last ∧ rest = (name, goEscaping.quote s) :: last := by
    simp only [member, encodeString, Except.map, collectMembers]
    cases collectMembers after with
    | error err => simp
    | ok last => simp [eq_comm]
  have hstruct (members : List Member) : encodeStruct members = .ok text ↔
      ∃ kept, collectMembers members = .ok kept ∧ text = objectText goEscaping kept := by
    unfold encodeStruct
    cases collectMembers members with
    | error err => simp [Except.map]
    | ok kept => simp [Except.map, eq_comm]
  rw [hstruct]
  constructor
  · rintro ⟨kept, hkept, rfl⟩
    obtain ⟨first, rest, hfirst, hrest, rfl⟩ := collectMembers_append.mp hkept
    obtain ⟨last, hlast, rfl⟩ := (hcons rest).mp hrest
    exact ⟨first, last, hfirst, hlast, rfl⟩
  · rintro ⟨first, last, hfirst, hlast, rfl⟩
    exact ⟨_, collectMembers_append.mpr ⟨first, _, hfirst, (hcons _).mpr ⟨last, hlast, rfl⟩, rfl⟩, rfl⟩

theorem encodeStruct_member_ok {name s : String} (t : String) {text : List Char}
    (hs : encodeStruct (before ++ member name (encodeString s) :: after) = .ok text) :
    ∃ text', encodeStruct (before ++ member name (encodeString t) :: after) = .ok text' := by
  obtain ⟨first, last, hfirst, hlast, -⟩ := encodeStruct_member.mp hs
  exact ⟨_, encodeStruct_member.mpr ⟨first, last, hfirst, hlast, rfl⟩⟩

theorem encodeStruct_member_inj {name : String} {s t : String} {text : List Char}
    (hs : encodeStruct (before ++ member name (encodeString s) :: after) = .ok text)
    (ht : encodeStruct (before ++ member name (encodeString t) :: after) = .ok text) : s = t := by
  obtain ⟨first, last, hfirst, hlast, htext⟩ := encodeStruct_member.mp hs
  obtain ⟨first', last', hfirst', hlast', htext'⟩ := encodeStruct_member.mp ht
  rw [hfirst, Except.ok.injEq] at hfirst'
  rw [hlast, Except.ok.injEq] at hlast'
  subst hfirst' hlast'
  rw [htext] at htext'
  simp only [objectText, List.map_append, List.map_cons, List.cons.injEq, true_and] at htext'
  have hcomma := List.append_cancel_right htext'
  obtain ⟨left, right, haround⟩ := commaSep_around (first.map (memberText goEscaping))
    (last.map (memberText goEscaping))
  rw [haround, haround] at hcomma
  have hmember := List.append_cancel_right (List.append_cancel_left hcomma)
  simp only [memberText, List.append_cancel_left_eq, List.cons.injEq, true_and] at hmember
  exact goEscaping.quote_injective hmember

end Injective
end FleetLlmd.Json
