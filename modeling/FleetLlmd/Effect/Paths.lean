import FleetLlmd.Effect.Program

/-!
# Paths through a program

A path is the list of answered calls of one run in any environment, with the result
the run ends with. Statements that compare several runs are about several paths.
-/

namespace FleetLlmd.Effect
namespace Prog
variable {S : Signature} {α β σ : Type}

def Yields : Prog S α → List (Event S) → α → Prop
  | .done a, es, b => es = [] ∧ a = b
  | .call c k, es, b => ∃ x rest, es = ⟨c, x⟩ :: rest ∧ (k x).Yields rest b

theorem yields_bind {p : Prog S α} {f : α → Prog S β} {es : List (Event S)} {b : β} :
    (p.bind f).Yields es b ↔
      ∃ a first rest, es = first ++ rest ∧ p.Yields first a ∧ (f a).Yields rest b := by
  induction p generalizing es with
  | done a =>
    constructor
    · intro h
      exact ⟨a, [], es, rfl, ⟨rfl, rfl⟩, h⟩
    · intro ⟨a', first, rest, hes, ⟨hfirst, ha⟩, h⟩
      subst hfirst ha
      rw [hes]
      exact h
  | call c k ih =>
    constructor
    · intro ⟨x, tail, hes, htail⟩
      obtain ⟨a, first, rest, rfl, hp, hf⟩ := (ih x).mp htail
      exact ⟨a, ⟨c, x⟩ :: first, rest, hes, ⟨x, first, rfl, hp⟩, hf⟩
    · intro ⟨a, first, rest, hes, ⟨x, tail, hfirst, hp⟩, hf⟩
      refine ⟨x, tail ++ rest, by rw [hes, hfirst, List.cons_append], (ih x).mpr ?_⟩
      exact ⟨a, tail, rest, rfl, hp, hf⟩

end Prog
end FleetLlmd.Effect
