import FleetLlmd.Modelpack.Resolver

/-!
# Parts of a reference

What `parseOCIRef` makes of `host/repository[:tag][@digest]`. A digest is cut off at the last `@`
and a tag is looked for only if there is no digest, so beside a digest the tag stays in the
repository.
-/

namespace FleetLlmd.Modelpack
open Go

section Cut
variable {sep : Char} {cs front back : List Char}

theorem cutFirst_eq_none : cutFirst sep cs = none ↔ sep ∉ cs := by
  induction cs with
  | nil => simp [cutFirst]
  | cons c cs ih =>
    rw [cutFirst]
    split_ifs with hc
    · simp [hc]
    · simp [ih, Ne.symm hc]

theorem cutFirst_eq_some :
    cutFirst sep cs = some (front, back) ↔ cs = front ++ sep :: back ∧ sep ∉ front := by
  induction cs generalizing front with
  | nil => simp [cutFirst]
  | cons c cs ih =>
    rw [cutFirst]
    split_ifs with hc
    · cases front <;> grind
    · rw [Option.map_eq_some_iff, Prod.exists]
      cases front with
      | nil => simp [hc]
      | cons d front => grind

theorem cutLast_eq_some :
    cutLast sep cs = some (front, back) ↔ cs = front ++ sep :: back ∧ sep ∉ back := by
  have hsplit : cs = front ++ sep :: back ↔ cs.reverse = back.reverse ++ sep :: front.reverse := by
    rw [← List.reverse_inj]
    simp
  rw [hsplit, ← List.mem_reverse, ← cutFirst_eq_some, cutLast]
  cases cutFirst sep cs.reverse with
  | none => simp
  | some r => simp [Prod.ext_iff, List.reverse_eq_iff, and_comm]

theorem cutLast_eq_none : cutLast sep cs = none ↔ sep ∉ cs := by
  simp [cutLast, cutFirst_eq_none]

theorem splitReference_digest (h : '@' ∈ cs) :
    splitReference cs = (front, back) ↔ cs = front ++ '@' :: back ∧ '@' ∉ back := by
  rw [← cutLast_eq_some, splitReference]
  cases hcut : cutLast '@' cs with
  | none => exact absurd h (cutLast_eq_none.mp hcut)
  | some split => simp

theorem splitReference_tag (hfront : '@' ∉ front)
    (hback : ∀ c ∈ back, c ≠ '/' ∧ c ≠ ':' ∧ c ≠ '@') :
    splitReference (front ++ ':' :: back) = (front, back) := by
  have hat : cutLast '@' (front ++ ':' :: back) = none := by
    simpa [cutLast_eq_none, hfront] using fun h => (hback _ h).2.2 rfl
  have hcolon : cutLast ':' (front ++ ':' :: back) = some (front, back) :=
    cutLast_eq_some.mpr ⟨rfl, fun h => (hback _ h).2.1 rfl⟩
  have hslash : '/' ∉ back := fun h => (hback _ h).1 rfl
  simp [splitReference, hat, hcolon, hslash]

end Cut

/-! ## Assembled references -/

structure AcceptedHost (host : String) : Prop where
  slash : '/' ∉ host.toList
  valid : validateOCIRef (host ++ "/") = .ok ()

theorem AcceptedHost.parse {host : String} (h : AcceptedHost host)
    {remainder repository reference : String} :
    parseOCIRef (host ++ "/" ++ remainder) = .ok ⟨host, repository, reference⟩ ↔
      splitReference remainder.toList = (repository.toList, reference.toList) ∧
        repository ≠ "" ∧ reference ≠ "" := by
  have hcut (rest : String) :
      cutFirst '/' (chars (host ++ "/" ++ rest)) = some (host.toList, rest.toList) :=
    cutFirst_eq_some.mpr ⟨by simp, h.slash⟩
  have hnonempty (rest : String) : (host ++ "/" ++ rest == "") = false := by simp
  have hvalid : validateOCIRef (host ++ "/" ++ remainder) = .ok () := by
    have hhost := h.valid
    rw [← @String.append_empty (host ++ "/")] at hhost
    rw [validateOCIRef, hnonempty, hcut] at hhost ⊢
    exact hhost
  rw [parseOCIRef, hvalid]
  dsimp only
  rw [hcut]
  dsimp only
  rcases splitReference remainder.toList with ⟨front, back⟩
  dsimp only
  split_ifs with hfront hback
  · rw [List.isEmpty_iff.mp hfront]
    simp +contextual [@eq_comm _ []]
  · rw [List.isEmpty_iff.mp hback]
    simp +contextual [@eq_comm _ []]
  · rw [List.isEmpty_iff] at hfront hback
    constructor
    · intro hok
      simp only [Except.ok.injEq, ParsedOCIRef.mk.injEq] at hok
      obtain ⟨-, rfl, rfl⟩ := hok
      simpa using ⟨hfront, hback⟩
    · rintro ⟨hsplit, -⟩
      cases hsplit
      simp

structure Digest where
  algorithm : String
  hex : String

def Digest.text (d : Digest) : String := d.algorithm ++ ":" ++ d.hex

def assemble (host repository : String) (tag : Option String) (digest : Option Digest) : String :=
  host ++ "/" ++ (repository ++ tag.elim "" (":" ++ ·) ++ digest.elim "" ("@" ++ ·.text))

/-- An assembled reference is taken apart into its parts exactly if neither the repository nor the
tag is empty, the digest has no `@` and no tag stands beside it. -/
theorem parse_assembled_iff {host repository : String} {tag : Option String}
    {digest : Option Digest} (hhost : AcceptedHost host)
    (hrepository : ∀ c ∈ repository.toList, c ≠ ':' ∧ c ≠ '@')
    (htag : ∀ t ∈ tag, ∀ c ∈ t.toList, c ≠ '/' ∧ c ≠ ':' ∧ c ≠ '@') :
    parseOCIRef (assemble host repository tag digest) =
        .ok ⟨host, repository, digest.elim (tag.getD "latest") Digest.text⟩ ↔
      repository ≠ "" ∧ tag ≠ some "" ∧ (tag = none ∨ digest = none) ∧
        ∀ d ∈ digest, '@' ∉ d.text.toList := by
  have hcolon : ':' ∉ repository.toList := fun h => (hrepository _ h).1 rfl
  have hat : '@' ∉ repository.toList := fun h => (hrepository _ h).2 rfl
  rw [assemble, hhost.parse]
  cases digest with
  | some d =>
    rw [splitReference_digest (by simp)]
    cases tag with
    | none => simp [Digest.text, and_comm]
    | some t => simp
  | none =>
    cases tag with
    | none => simp [splitReference, cutLast_eq_none.mpr hat, cutLast_eq_none.mpr hcolon]
    | some t => simp [splitReference_tag hat (htag t rfl)]

theorem tagged_parses : parseOCIRef (assemble "localhost:5000" "models/llama" (some "v1") none) =
    .ok ⟨"localhost:5000", "models/llama", "v1"⟩ :=
  (parse_assembled_iff ⟨by decide, by decide +kernel⟩ (by simp) (by simp)).mpr (by decide)

/-- With both a tag and a digest the tag is part of the repository. -/
theorem tag_kept_in_repository : AcceptedHost "ghcr.io" ∧
    parseOCIRef (assemble "ghcr.io" "llama" (some "v1") (some ⟨"sha256", "ab"⟩)) =
      .ok ⟨"ghcr.io", "llama:v1", "sha256:ab"⟩ :=
  ⟨⟨by decide, by decide +kernel⟩, by decide +kernel⟩

end FleetLlmd.Modelpack
