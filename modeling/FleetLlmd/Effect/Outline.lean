import FleetLlmd.Effect.History
import FleetLlmd.Effect.Interrupt

/-!
# Control outlines

An outline names the points of a program and says which answered call leads from one point
to another. A program that follows an outline needs to be gone through once: what holds at a
point is then shown call by call.
-/

namespace FleetLlmd.Effect
namespace Prog
variable {S : Signature} {α β π σ : Type}
variable (step : π → Event S → π → Prop)

def Follows (final : π → α → Prop) : Prog S α → π → Prop
  | .done a, p => final p a
  | .call c k, p => ∀ x, ∃ q, step p ⟨c, x⟩ q ∧ (k x).Follows final q

variable {step} {final : π → α → Prop} {p : π} {prog : Prog S α}

theorem Follows.bind {final' : π → β → Prop} {f : α → Prog S β} (h : prog.Follows step final p)
    (hf : ∀ q a, final q a → (f a).Follows step final' q) :
    (prog.bind f).Follows step final' p := by
  induction prog generalizing p with
  | done a => exact hf p a h
  | call c k ih =>
    intro x
    obtain ⟨q, hq, hk⟩ := h x
    exact ⟨q, hq, ih x hk⟩

theorem Follows.guards {E : Behaviour S σ} {J : π → σ → Prop} {s : σ}
    (h : prog.Follows step final p) (hJ : J p s)
    (hstep : ∀ p c x q s s', J p s → step p ⟨c, x⟩ q → E c s x s' → J q s') :
    prog.Guards E (fun s => ∃ q, J q s) (fun a s => ∃ q, final q a ∧ J q s) s := by
  induction prog generalizing p s with
  | done a => exact ⟨⟨p, hJ⟩, p, h, hJ⟩
  | call c k ih =>
    refine ⟨⟨p, hJ⟩, fun x s' hs' => ?_⟩
    obtain ⟨q, hq, hk⟩ := h x
    exact ih x hk (hstep p c x q s s' hJ hq hs')

def Reaches (E : Behaviour S σ) : Prog S α → σ → Prog S α → σ → Prop
  | .done a, s, q, t => q = .done a ∧ s = t
  | .call c k, s, q, t => (q = .call c k ∧ s = t) ∨ ∃ x s', E c s x s' ∧ (k x).Reaches E s' q t

theorem Follows.reaches {E : Behaviour S σ} {J : π → σ → Prop} {rest : Prog S α} {s t : σ}
    (h : prog.Follows step final p) (hJ : J p s)
    (hstep : ∀ p c x q s s', J p s → step p ⟨c, x⟩ q → E c s x s' → J q s')
    (hreaches : prog.Reaches E s rest t) : ∃ q, rest.Follows step final q ∧ J q t := by
  induction prog generalizing p s with
  | done a =>
    obtain ⟨rfl, rfl⟩ := hreaches
    exact ⟨p, h, hJ⟩
  | call c k ih =>
    rcases hreaches with ⟨rfl, rfl⟩ | ⟨x, s', hs', hreaches⟩
    · exact ⟨p, h, hJ⟩
    · obtain ⟨q, hq, hk⟩ := h x
      exact ih x hk (hstep p c x q s s' hJ hq hs') hreaches

theorem Follows.meets {G : List (Event S) → S.Call → Prop} {J : π → List (Event S) → Prop}
    {past : List (Event S)} (hanswer : ∀ c, Nonempty (S.Answer c))
    (h : prog.Follows step final p) (hJ : J p past)
    (hcall : ∀ p c x q past, J p past → step p ⟨c, x⟩ q → G past c)
    (hstep : ∀ p c x q past, J p past → step p ⟨c, x⟩ q → J q (⟨c, x⟩ :: past)) :
    prog.Meets G (fun past a => ∃ q, final q a ∧ J q past) past := by
  induction prog generalizing p past with
  | done a => exact ⟨p, h, hJ⟩
  | call c k ih =>
    constructor
    · obtain ⟨x⟩ := hanswer c
      obtain ⟨q, hq, -⟩ := h x
      exact hcall p c x q past hJ hq
    · intro x
      obtain ⟨q, hq, hk⟩ := h x
      exact ih x hk (hstep p c x q past hJ hq)

end Prog
end FleetLlmd.Effect
