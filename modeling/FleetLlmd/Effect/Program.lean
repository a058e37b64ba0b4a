import Mathlib.Logic.Basic

/-!
# Programs over an effect signature

A program is a tree of calls to its environment: each node names one call and
continues with whatever answer the environment gives. Running a program to its
end, running it interleaved with others and recording what it asked are three
readings of the same tree, so one translation of a source function serves
sequential and concurrent statements alike.
-/

namespace FleetLlmd.Effect

structure Signature where
  Call : Type
  Answer : Call → Type

inductive Prog (S : Signature) (α : Type) where
  | done (a : α) : Prog S α
  | call (c : S.Call) (k : S.Answer c → Prog S α) : Prog S α

namespace Prog
variable {S T : Signature} {α β γ : Type}

def bind : Prog S α → (α → Prog S β) → Prog S β
  | .done a, f => f a
  | .call c k, f => .call c fun x => (k x).bind f

def perform (c : S.Call) : Prog S (S.Answer c) := .call c .done

instance : Monad (Prog S) where
  pure := .done
  bind := bind

@[simp] theorem pure_eq_done (a : α) : (pure a : Prog S α) = .done a := rfl
@[simp] theorem bind_eq_bind (p : Prog S α) (f : α → Prog S β) : (p >>= f) = p.bind f := rfl
@[simp] theorem done_bind (a : α) (f : α → Prog S β) : (Prog.done a).bind f = f a := rfl
@[simp] theorem call_bind (c : S.Call) (k : S.Answer c → Prog S α) (f : α → Prog S β) :
    (Prog.call c k).bind f = .call c fun x => (k x).bind f := rfl
@[simp] theorem perform_bind (c : S.Call) (f : S.Answer c → Prog S β) :
    bind (α := no_index (S.Answer c)) (perform c) f = .call c f := rfl

theorem bind_assoc (p : Prog S α) (f : α → Prog S β) (g : β → Prog S γ) :
    (p.bind f).bind g = p.bind fun a => (f a).bind g := by
  induction p with
  | done a => rfl
  | call c k ih => simp only [call_bind, ih]

end Prog

abbrev Handler (S : Signature) (σ : Type) := (c : S.Call) → σ → S.Answer c × σ

abbrev Event (S : Signature) := Σ c : S.Call, S.Answer c

namespace Prog
variable {S T : Signature} {α β σ : Type}

def run (h : Handler S σ) : Prog S α → σ → α × σ
  | .done a, s => (a, s)
  | .call c k, s => (k (h c s).1).run h (h c s).2

def trace (h : Handler S σ) : Prog S α → σ → List (Event S)
  | .done _, _ => []
  | .call c k, s => ⟨c, (h c s).1⟩ :: (k (h c s).1).trace h (h c s).2

@[simp] theorem run_done (h : Handler S σ) (a : α) (s : σ) : (Prog.done a).run h s = (a, s) := rfl

@[simp] theorem run_call (h : Handler S σ) (c : S.Call) (k : S.Answer c → Prog S α) (s : σ) :
    (Prog.call c k).run h s = (k (h c s).1).run h (h c s).2 := rfl

@[simp] theorem trace_done (h : Handler S σ) (a : α) (s : σ) : (Prog.done a).trace h s = [] := rfl

@[simp] theorem trace_call (h : Handler S σ) (c : S.Call) (k : S.Answer c → Prog S α) (s : σ) :
    (Prog.call c k).trace h s = ⟨c, (h c s).1⟩ :: (k (h c s).1).trace h (h c s).2 := rfl

theorem run_bind (h : Handler S σ) (p : Prog S α) (f : α → Prog S β) (s : σ) :
    (p.bind f).run h s = (f (p.run h s).1).run h (p.run h s).2 := by
  induction p generalizing s with
  | done a => rfl
  | call c k ih => exact ih _ _

theorem mem_trace {h : Handler S σ} {p : Prog S α} {s : σ} {e : Event S} (he : e ∈ p.trace h s) :
    ∃ s', e.2 = (h e.1 s').1 := by
  induction p generalizing s with
  | done a => cases he
  | call c k ih =>
    rcases List.mem_cons.mp he with rfl | htail
    · exact ⟨s, rfl⟩
    · exact ih _ htail

def interpret (k : (c : S.Call) → Prog T (S.Answer c)) : Prog S α → Prog T α
  | .done a => .done a
  | .call c f => (k c).bind fun x => (f x).interpret k

theorem interpret_bind (k : (c : S.Call) → Prog T (S.Answer c)) (p : Prog S α) (f : α → Prog S β) :
    (p.bind f).interpret k = (p.interpret k).bind fun a => (f a).interpret k := by
  induction p with
  | done a => rfl
  | call c g ih => simp only [call_bind, interpret, ih, bind_assoc]

theorem run_interpret (h : Handler T σ) (k : (c : S.Call) → Prog T (S.Answer c)) (p : Prog S α)
    (s : σ) : (p.interpret k).run h s = p.run (fun c s => (k c).run h s) s := by
  induction p generalizing s with
  | done a => rfl
  | call c f ih => rw [interpret, run_bind, ih, run_call]

end Prog
end FleetLlmd.Effect
