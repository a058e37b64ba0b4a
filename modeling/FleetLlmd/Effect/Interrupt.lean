import FleetLlmd.Effect.Program

/-!
# Interrupted runs

The environment may answer a call in several ways. A run that is interrupted leaves the
state after some first calls of the program. `Guards` is the rule for such runs: it states
what holds after every call, so also if no other follows, and with which result a run ends.
-/

namespace FleetLlmd.Effect

abbrev Behaviour (S : Signature) (σ : Type) := (c : S.Call) → σ → S.Answer c → σ → Prop

namespace Prog
variable {S : Signature} {α β σ : Type} (E : Behaviour S σ)

def Ends : Prog S α → σ → α → σ → Prop
  | .done a, s, b, t => a = b ∧ s = t
  | .call c k, s, b, t => ∃ x s', E c s x s' ∧ (k x).Ends s' b t

def Partly : Prog S α → σ → σ → Prop
  | .done _, s, t => s = t
  | .call c k, s, t => s = t ∨ ∃ x s', E c s x s' ∧ (k x).Partly s' t

def Guards (I : σ → Prop) (Q : α → σ → Prop) : Prog S α → σ → Prop
  | .done a, s => I s ∧ Q a s
  | .call c k, s => I s ∧ ∀ x s', E c s x s' → (k x).Guards I Q s'

variable {E} {I : σ → Prop} {Q : α → σ → Prop} {p : Prog S α} {f : α → Prog S β} {s s' t : σ}

theorem Guards.bind {R : β → σ → Prop} (h : p.Guards E I Q s)
    (hf : ∀ a s, Q a s → (f a).Guards E I R s) : (p.bind f).Guards E I R s := by
  induction p generalizing s with
  | done a => exact hf a s h.2
  | call c k ih => exact ⟨h.1, fun x s' hs' => ih x (h.2 x s' hs')⟩

theorem Guards.mono {I' : σ → Prop} {Q' : α → σ → Prop} (h : p.Guards E I Q s)
    (hI : ∀ s, I s → I' s) (hQ : ∀ a s, Q a s → Q' a s) : p.Guards E I' Q' s := by
  induction p generalizing s with
  | done a => exact ⟨hI s h.1, hQ a s h.2⟩
  | call c k ih => exact ⟨hI s h.1, fun x s' hs' => ih x (h.2 x s' hs')⟩

theorem Guards.partly (h : p.Guards E I Q s) (ht : p.Partly E s t) : I t := by
  induction p generalizing s with
  | done a =>
    obtain rfl := ht
    exact h.1
  | call c k ih =>
    rcases ht with rfl | ⟨x, s', hs', ht⟩
    · exact h.1
    · exact ih x (h.2 x s' hs') ht

theorem Guards.ends {a : α} (h : p.Guards E I Q s) (ht : p.Ends E s a t) : Q a t := by
  induction p generalizing s with
  | done b =>
    obtain ⟨rfl, rfl⟩ := ht
    exact h.2
  | call c k ih =>
    obtain ⟨x, s', hs', ht⟩ := ht
    exact ih x (h.2 x s' hs') ht

theorem Partly.start : p.Partly E s s := by
  cases p with
  | done a => rfl
  | call c k => exact .inl rfl

theorem Ends.of_run {h : Handler S σ} {P : Event S → Prop} (hP : ∀ e ∈ p.trace h s, P e) :
    p.Ends (fun c s x s' => h c s = (x, s') ∧ P ⟨c, x⟩) s (p.run h s).1 (p.run h s).2 := by
  induction p generalizing s with
  | done a => exact ⟨rfl, rfl⟩
  | call c k ih =>
    refine ⟨(h c s).1, (h c s).2, ⟨rfl, hP _ List.mem_cons_self⟩, ih _ fun e he => ?_⟩
    exact hP e (List.mem_cons_of_mem _ he)

theorem Ends.bind {a : α} {b : β} (h : p.Ends E s a s') (hf : (f a).Ends E s' b t) :
    (p.bind f).Ends E s b t := by
  induction p generalizing s with
  | done a' =>
    obtain ⟨rfl, rfl⟩ := h
    exact hf
  | call c k ih =>
    obtain ⟨x, s₁, hs₁, h⟩ := h
    exact ⟨x, s₁, hs₁, ih x h⟩

theorem Ends.of_bind {b : β} (h : (p.bind f).Ends E s b t) :
    ∃ a s', p.Ends E s a s' ∧ (f a).Ends E s' b t := by
  induction p generalizing s with
  | done a => exact ⟨a, s, ⟨rfl, rfl⟩, h⟩
  | call c k ih =>
    obtain ⟨x, s₁, hs₁, h⟩ := h
    obtain ⟨a, s', hp, hf⟩ := ih x h
    exact ⟨a, s', ⟨x, s₁, hs₁, hp⟩, hf⟩

theorem Ends.partly_bind {a : α} (h : p.Ends E s a s') (hf : (f a).Partly E s' t) :
    (p.bind f).Partly E s t := by
  induction p generalizing s with
  | done a' =>
    obtain ⟨rfl, rfl⟩ := h
    exact hf
  | call c k ih =>
    obtain ⟨x, s₁, hs₁, h⟩ := h
    exact .inr ⟨x, s₁, hs₁, ih x h⟩

end Prog
end FleetLlmd.Effect
