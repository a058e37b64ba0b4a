import FleetLlmd.Effect.Program

/-!
# What a program may do after what it has seen

`Meets` states once, for every environment, which call a program makes next and
with which result it ends, given the answers it has received. Facts about runs
follow from it and from what the environment does with each call. The past of a
program lists its answered calls, the latest first.
-/

namespace FleetLlmd.Effect

namespace Prog
variable {S : Signature} {α β σ : Type}
variable {G G' : List (Event S) → S.Call → Prop} {Q Q' : List (Event S) → α → Prop}

def Meets (G : List (Event S) → S.Call → Prop) (Q : List (Event S) → α → Prop) :
    Prog S α → List (Event S) → Prop
  | .done a, past => Q past a
  | .call c k, past => G past c ∧ ∀ x, (k x).Meets G Q (⟨c, x⟩ :: past)

@[simp] theorem meets_done (a : α) (past : List (Event S)) :
    (Prog.done a).Meets G Q past ↔ Q past a := Iff.rfl

@[simp] theorem meets_call (c : S.Call) (k : S.Answer c → Prog S α) (past : List (Event S)) :
    (Prog.call c k).Meets G Q past ↔ G past c ∧ ∀ x, (k x).Meets G Q (⟨c, x⟩ :: past) := Iff.rfl

theorem meets_bind {Q : List (Event S) → β → Prop} (p : Prog S α) (f : α → Prog S β)
    (past : List (Event S)) :
    (p.bind f).Meets G Q past ↔ p.Meets G (fun past a => (f a).Meets G Q past) past := by
  induction p generalizing past with
  | done a => rfl
  | call c k ih => simp only [call_bind, meets_call, ih]

variable {p : Prog S α} {past : List (Event S)}

theorem Meets.mono (h : p.Meets G Q past)
    (hG : ∀ past c, G past c → G' past c) (hQ : ∀ past a, Q past a → Q' past a) :
    p.Meets G' Q' past := by
  induction p generalizing past with
  | done a => exact hQ _ _ h
  | call c k ih => exact ⟨hG _ _ h.1, fun x => ih x (h.2 x)⟩

theorem Meets.imp (h : p.Meets G Q past) (hQ : ∀ past a, Q past a → Q' past a) :
    p.Meets G Q' past :=
  h.mono (fun _ _ hc => hc) hQ

theorem Meets.of_forall (hG : ∀ past c, G past c) (hQ : ∀ past a, Q past a) (p : Prog S α)
    (past : List (Event S)) : p.Meets G Q past := by
  induction p generalizing past with
  | done a => exact hQ past a
  | call c k ih => exact ⟨hG past c, fun x => ih x _⟩

theorem Meets.keep {J : List (Event S) → Prop}
    (h : p.Meets G Q past) (hstep : ∀ past c x, J past → G past c → J (⟨c, x⟩ :: past))
    (hpast : J past) : p.Meets G (fun past a => J past ∧ Q past a) past := by
  induction p generalizing past with
  | done a => exact ⟨hpast, h⟩
  | call c k ih => exact ⟨h.1, fun x => ih x (h.2 x) (hstep past c x hpast h.1)⟩

theorem Meets.run {J : List (Event S) → σ → Prop} {h : Handler S σ}
    {s : σ} (hp : p.Meets G Q past) (hJ : J past s)
    (hstep : ∀ past s c, J past s → G past c → J (⟨c, (h c s).1⟩ :: past) (h c s).2) :
    J ((p.trace h s).reverse ++ past) (p.run h s).2 ∧
      Q ((p.trace h s).reverse ++ past) (p.run h s).1 := by
  induction p generalizing past s with
  | done a => exact ⟨hJ, hp⟩
  | call c k ih =>
    have hnext := ih (h c s).1 (hp.2 _) (hstep past s c hJ hp.1)
    simpa only [trace_call, run_call, List.reverse_cons, List.append_assoc,
      List.singleton_append] using hnext

theorem Meets.trace {h : Handler S σ} {before after : List (Event S)} {s : σ}
    {e : Event S} (hp : p.Meets G Q past) (htrace : p.trace h s = before ++ e :: after) :
    G (before.reverse ++ past) e.1 := by
  induction p generalizing past before s with
  | done a =>
    rw [trace_done] at htrace
    cases before <;> cases htrace
  | call c k ih =>
    rw [trace_call] at htrace
    cases before with
    | nil =>
      obtain ⟨rfl, -⟩ := List.cons.inj htrace
      exact hp.1
    | cons d before =>
      obtain ⟨rfl, hrest⟩ := List.cons.inj htrace
      have hnext := ih _ (hp.2 _) hrest
      simpa only [List.reverse_cons, List.append_assoc, List.singleton_append] using hnext

end Prog
end FleetLlmd.Effect
