import Mathlib.Data.List.Infix
import FleetLlmd.Go.Text

/-!
# Patterns of `http.ServeMux`

A pattern is a method and a path of segments. A request's path is the list of its
segments, each unescaped on its own, so that a segment may hold a slash; `URL.Path`
runs them together. What a pattern says of `URL.Path` is its stem: the text that every
path it matches begins with.
-/

namespace FleetLlmd.Go

inductive Segment where
  | literal (text : String)
  | wildcard (name : String)
  deriving DecidableEq

instance : Coe String Segment := ⟨.literal⟩

structure Pattern where
  method : String
  segments : List Segment
  deriving DecidableEq

/-- `URL.Path` of a path with these segments. -/
def urlPath (path : List Bytes) : Bytes := path.flatMap (47 :: ·)

def matchSegments : List Segment → List Bytes → Option (List (String × Bytes))
  | [], [] => some []
  | .literal text :: segments, s :: path =>
    if s = utf8 text then matchSegments segments path else none
  | .wildcard name :: segments, s :: path =>
    if s = [] then none else (matchSegments segments path).map ((name, s) :: ·)
  | _, _ => none

def Pattern.match? (p : Pattern) (method : String) (path : List Bytes) :
    Option (List (String × Bytes)) :=
  if method = p.method ∨ (p.method = "GET" ∧ method = "HEAD") then matchSegments p.segments path
  else none

def dispatch {η : Type} (routes : List (Pattern × η)) (method : String) (path : List Bytes) :
    Option (η × List (String × Bytes)) :=
  routes.findSome? fun route => (route.1.match? method path).map (route.2, ·)

variable {path : List Bytes} {values : List (String × Bytes)} {segments : List Segment}

theorem dispatch_eq_some {η : Type} {routes : List (Pattern × η)} {method : String} {handler : η}
    (h : dispatch routes method path = some (handler, values)) :
    ∃ p, (p, handler) ∈ routes ∧ p.match? method path = some values := by
  obtain ⟨⟨p, handler'⟩, hmem, hmatch⟩ := List.exists_of_findSome?_eq_some h
  obtain ⟨values', hvalues, heq⟩ := Option.map_eq_some_iff.mp hmatch
  obtain ⟨rfl, rfl⟩ := Prod.mk.inj heq
  exact ⟨p, hmem, hvalues⟩

theorem Pattern.match?_eq_some {p : Pattern} {method : String}
    (h : p.match? method path = some values) :
    (method = p.method ∨ (p.method = "GET" ∧ method = "HEAD")) ∧
      matchSegments p.segments path = some values := by
  rw [match?] at h
  split_ifs at h with hmethod
  exact ⟨hmethod, h⟩

/-! ## Stems -/

def stem : List Segment → Bytes
  | [] => []
  | .literal text :: segments => 47 :: (utf8 text ++ stem segments)
  | .wildcard _ :: _ => [47]

def isLiteral : List Segment → Bool
  | [] => true
  | .literal _ :: segments => isLiteral segments
  | .wildcard _ :: _ => false

theorem matchSegments_literal {text : String}
    (h : matchSegments (.literal text :: segments) path = some values) :
    ∃ rest, path = utf8 text :: rest ∧ matchSegments segments rest = some values := by
  cases path with
  | nil => cases h
  | cons s rest =>
    rw [matchSegments] at h
    split_ifs at h with hs
    exact ⟨rest, by rw [hs], h⟩

theorem matchSegments_wildcard {name : String}
    (h : matchSegments (.wildcard name :: segments) path = some values) :
    ∃ s rest values', path = s :: rest ∧ values = (name, s) :: values' ∧
      matchSegments segments rest = some values' := by
  cases path with
  | nil => cases h
  | cons s rest =>
    rw [matchSegments] at h
    split_ifs at h
    obtain ⟨values', hvalues, rfl⟩ := Option.map_eq_some_iff.mp h
    exact ⟨s, rest, values', rfl, rfl, hvalues⟩

theorem stem_start
    (h : matchSegments segments path = some values) : stem segments <+: urlPath path := by
  induction segments generalizing path values with
  | nil => exact List.nil_prefix
  | cons segment segments ih =>
    cases segment with
    | literal text =>
      obtain ⟨rest, rfl, hrest⟩ := matchSegments_literal h
      exact List.cons_prefix_cons.mpr ⟨rfl, (List.prefix_append_right_inj _).mpr (ih hrest)⟩
    | wildcard name =>
      obtain ⟨s, rest, values', rfl, -, -⟩ := matchSegments_wildcard h
      exact List.cons_prefix_cons.mpr ⟨rfl, List.nil_prefix⟩

theorem urlPath_of_isLiteral (h : matchSegments segments path = some values)
    (hliteral : isLiteral segments = true) : urlPath path = stem segments := by
  induction segments generalizing path values with
  | nil =>
    cases path with
    | nil => rfl
    | cons s rest => cases h
  | cons segment segments ih =>
    cases segment with
    | literal text =>
      obtain ⟨rest, rfl, hrest⟩ := matchSegments_literal h
      rw [stem, ← ih hrest hliteral]
      rfl
    | wildcard name => cases hliteral

def mayBegin (start : Bytes) (segments : List Segment) : Bool :=
  start.isPrefixOf (stem segments) ||
    (!isLiteral segments && (stem segments).isPrefixOf start)

theorem mayBegin_of_match {start : Bytes} (h : matchSegments segments path = some values)
    (hstart : start <+: urlPath path) : mayBegin start segments = true := by
  rw [mayBegin, Bool.or_eq_true, Bool.and_eq_true, List.isPrefixOf_iff_prefix,
    List.isPrefixOf_iff_prefix]
  cases hliteral : isLiteral segments with
  | true =>
    rw [urlPath_of_isLiteral h hliteral] at hstart
    exact .inl hstart
  | false =>
    exact (List.prefix_or_prefix_of_prefix hstart (stem_start h)).imp id fun h => ⟨rfl, h⟩

end FleetLlmd.Go
