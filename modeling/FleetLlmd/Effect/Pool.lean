import FleetLlmd.Effect.History
import Mathlib.Logic.Function.Basic

/-!
# Interleaved programs

Any number of programs over one shared state, each advancing by one call at a
time in whatever order the list of moves gives; moves of the surroundings may
come in between. Every thread keeps its own past, so that a condition on a move
can refer to what that thread has read.
-/

namespace FleetLlmd.Effect
variable {S : Signature} {α ι ω σ : Type} [DecidableEq ι]

structure Thread (S : Signature) (α : Type) where
  past : List (Event S)
  rest : Prog S α

def Thread.start (p : Prog S α) : Thread S α := ⟨[], p⟩

inductive Move (ι ω : Type) where
  | thread (i : ι)
  | outside (w : ω)

abbrev Pool (S : Signature) (α ι σ : Type) := (ι → Thread S α) × σ

namespace Pool

def pasts (z : Pool S α ι σ) (i : ι) : List (Event S) := (z.1 i).past

variable (h : Handler S σ) (out : ω → σ → σ)

def advance (i : ι) (c : S.Call) (k : S.Answer c → Prog S α) (z : Pool S α ι σ) : Pool S α ι σ :=
  (Function.update z.1 i ⟨⟨c, (h c z.2).1⟩ :: (z.1 i).past, k (h c z.2).1⟩, (h c z.2).2)

def move : Move ι ω → Pool S α ι σ → Pool S α ι σ
  | .thread i, z =>
    match (z.1 i).rest with
    | .done _ => z
    | .call c k => advance h i c k z
  | .outside w, z => (z.1, out w z.2)

def exec (moves : List (Move ι ω)) (z : Pool S α ι σ) : Pool S α ι σ :=
  moves.foldl (fun z m => move h out m z) z

@[simp] theorem exec_nil (z : Pool S α ι σ) : exec h out [] z = z := rfl

@[simp] theorem exec_cons (m : Move ι ω) (moves : List (Move ι ω)) (z : Pool S α ι σ) :
    exec h out (m :: moves) z = exec h out moves (move h out m z) := rfl

theorem exec_append (moves moves' : List (Move ι ω)) (z : Pool S α ι σ) :
    exec h out (moves ++ moves') z = exec h out moves' (exec h out moves z) :=
  List.foldl_append

theorem pasts_advance (i : ι) (c : S.Call) (k : S.Answer c → Prog S α) (z : Pool S α ι σ) :
    pasts (advance h i c k z) =
      Function.update (pasts z) i (⟨c, (h c z.2).1⟩ :: pasts z i) := by
  funext j
  by_cases hj : j = i
  · subst hj; simp [pasts, advance]
  · simp [pasts, advance, hj]

def PermitsNext (C : List (Event S) → S.Call → σ → Prop) (past : List (Event S)) (s : σ) :
    Prog S α → Prop
  | .done _ => True
  | .call c _ => C past c s

def Permits (C : List (Event S) → S.Call → σ → Prop) (z : Pool S α ι σ) : Move ι ω → Prop
  | .thread i => PermitsNext C (pasts z i) z.2 (z.1 i).rest
  | .outside _ => True

def Observes (C : List (Event S) → S.Call → σ → Prop) :
    List (Move ι ω) → Pool S α ι σ → Prop
  | [], _ => True
  | m :: moves, z => Permits C z m ∧ Observes C moves (move h out m z)

def ObservesEach (C : ι → List (Event S) → S.Call → σ → Prop) :
    List (Move ι ω) → Pool S α ι σ → Prop
  | [], _ => True
  | .outside w :: moves, z => ObservesEach C moves (move h out (.outside w) z)
  | .thread i :: moves, z => PermitsNext (C i) (pasts z i) z.2 (z.1 i).rest ∧
      ObservesEach C moves (move h out (.thread i) z)

variable {z : Pool S α ι σ} {C : List (Event S) → S.Call → σ → Prop}

theorem Observes.each {moves : List (Move ι ω)} (hobs : Observes h out C moves z) :
    ObservesEach h out (fun _ => C) moves z := by
  induction moves generalizing z with
  | nil => trivial
  | cons m moves ih =>
    cases m with
    | outside w => exact ih hobs.2
    | thread i => exact ⟨hobs.1, ih hobs.2⟩

theorem ObservesEach.and {C D : ι → List (Event S) → S.Call → σ → Prop} {moves : List (Move ι ω)}
    (hC : ObservesEach h out C moves z) (hD : ObservesEach h out D moves z) :
    ObservesEach h out (fun i past c s => C i past c s ∧ D i past c s) moves z := by
  induction moves generalizing z with
  | nil => trivial
  | cons m moves ih =>
    cases m with
    | outside w => exact ih hC hD
    | thread i =>
      refine ⟨?_, ih hC.2 hD.2⟩
      have hc := hC.1
      have hd := hD.1
      cases hr : (z.1 i).rest with
      | done a => trivial
      | call c k =>
        rw [hr] at hc hd
        exact ⟨hc, hd⟩

theorem observes_append (moves moves' : List (Move ι ω))
    (z : Pool S α ι σ) : Observes h out C (moves ++ moves') z ↔
      Observes h out C moves z ∧ Observes h out C moves' (exec h out moves z) := by
  induction moves generalizing z with
  | nil => simp [Observes]
  | cons m moves ih => simp only [List.cons_append, Observes, ih, exec_cons, and_assoc]

theorem observes_iff (moves : List (Move ι ω)) (z : Pool S α ι σ) : Observes h out C moves z ↔
      ∀ first m rest, moves = first ++ m :: rest → Permits C (exec h out first z) m := by
  constructor
  · rintro hobs first m rest rfl
    exact ((observes_append h out first (m :: rest) z).mp hobs).2.1
  · intro hall
    induction moves generalizing z with
    | nil => trivial
    | cons m moves ih =>
      refine ⟨hall [] m moves rfl, ih _ fun first m' rest hmoves => ?_⟩
      exact hall (m :: first) m' rest (by rw [hmoves, List.cons_append])

section Decidable
variable {C : List (Event S) → S.Call → σ → Prop} [∀ past c s, Decidable (C past c s)]

instance (past : List (Event S)) (s : σ) : (p : Prog S α) → Decidable (PermitsNext C past s p)
  | .done _ => isTrue trivial
  | .call c _ => inferInstanceAs (Decidable (C past c s))

instance (z : Pool S α ι σ) : (m : Move ι ω) → Decidable (Permits C z m)
  | .thread i => inferInstanceAs (Decidable (PermitsNext C (pasts z i) z.2 (z.1 i).rest))
  | .outside _ => isTrue trivial

instance decidableObserves : (moves : List (Move ι ω)) → (z : Pool S α ι σ) →
    Decidable (Observes h out C moves z)
  | [], _ => isTrue trivial
  | m :: moves, z =>
    have := decidableObserves moves (move h out m z)
    inferInstanceAs (Decidable (Permits C z m ∧ Observes h out C moves (move h out m z)))

end Decidable

instance decidableObservesEach {C : ι → List (Event S) → S.Call → σ → Prop}
    [∀ i past c s, Decidable (C i past c s)] : (moves : List (Move ι ω)) →
    (z : Pool S α ι σ) → Decidable (ObservesEach h out C moves z)
  | [], _ => isTrue trivial
  | .outside w :: moves, z => decidableObservesEach moves (move h out (.outside w) z)
  | .thread i :: moves, z =>
    have : Decidable (ObservesEach h out C moves (move h out (.thread i) z)) :=
      decidableObservesEach moves _
    instDecidableAnd

section Rule
variable {G : ι → List (Event S) → S.Call → Prop} {Q : ι → List (Event S) → α → Prop}

def AllMeet (G : ι → List (Event S) → S.Call → Prop) (Q : ι → List (Event S) → α → Prop)
    (z : Pool S α ι σ) : Prop := ∀ i, (z.1 i).rest.Meets (G i) (Q i) (pasts z i)

theorem AllMeet.advance {i : ι} {c : S.Call} {k : S.Answer c → Prog S α}
    (hz : AllMeet G Q z) (hc : (z.1 i).rest = .call c k) : AllMeet G Q (advance h i c k z) := by
  intro j
  by_cases hj : j = i
  · subst hj
    have hm := hz j
    rw [hc] at hm
    simpa [Pool.advance, pasts] using hm.2 (h c z.2).1
  · simpa [Pool.advance, pasts, hj] using hz j

variable {I : (ι → List (Event S)) → σ → Prop}

def Watches (C : (ι → List (Event S)) → ι → S.Call → σ → Prop) :
    List (Move ι ω) → Pool S α ι σ → Prop
  | [], _ => True
  | .outside w :: moves, z => Watches C moves (move h out (.outside w) z)
  | .thread i :: moves, z =>
    PermitsNext (fun _ c s => C (pasts z) i c s) (pasts z i) z.2 (z.1 i).rest ∧
      Watches C moves (move h out (.thread i) z)

theorem Watches.of_append {C : (ι → List (Event S)) → ι → S.Call → σ → Prop}
    {moves moves' : List (Move ι ω)}
    (hwatch : Watches h out C (moves ++ moves') z) : Watches h out C moves z := by
  induction moves generalizing z with
  | nil => trivial
  | cons m moves ih =>
    cases m with
    | outside w => exact ih (z := move h out (.outside w : Move ι ω) z) hwatch
    | thread i => exact ⟨hwatch.1, ih hwatch.2⟩

instance decidableWatches {C : (ι → List (Event S)) → ι → S.Call → σ → Prop}
    [∀ pasts i c s, Decidable (C pasts i c s)] : (moves : List (Move ι ω)) →
    (z : Pool S α ι σ) → Decidable (Watches h out C moves z)
  | [], _ => isTrue trivial
  | .outside w :: moves, z => decidableWatches moves (move h out (.outside w) z)
  | .thread i :: moves, z =>
    have : Decidable (Watches h out C moves (move h out (.thread i) z)) :=
      decidableWatches moves _
    instDecidableAnd

theorem ObservesEach.watches {C : ι → List (Event S) → S.Call → σ → Prop}
    {moves : List (Move ι ω)} (hobs : ObservesEach h out C moves z) :
    Watches h out (fun pasts i => C i (pasts i)) moves z := by
  induction moves generalizing z with
  | nil => trivial
  | cons m moves ih =>
    cases m with
    | outside w => exact ih hobs
    | thread i =>
      refine ⟨?_, ih hobs.2⟩
      have hc := hobs.1
      cases hr : (z.1 i).rest with
      | done a => trivial
      | call c k => rwa [hr] at hc

/-- If every allowed call keeps `I` and relates the state before it to the state after it, then
so does every run, whatever the interleaving. -/
theorem exec_watched {C : (ι → List (Event S)) → ι → S.Call → σ → Prop} {R : σ → σ → Prop}
    (hrefl : ∀ s, R s s) (htrans : ∀ s t u, R s t → R t u → R s u)
    (hthread : ∀ pasts s i c, I pasts s → G i (pasts i) c → C pasts i c s →
      I (Function.update pasts i (⟨c, (h c s).1⟩ :: pasts i)) (h c s).2 ∧ R s (h c s).2)
    (hout : ∀ pasts s w, I pasts s → I pasts (out w s) ∧ R s (out w s))
    (moves : List (Move ι ω)) (hm : AllMeet G Q z) (hI : I (pasts z) z.2)
    (hwatch : Watches h out C moves z) :
    AllMeet G Q (exec h out moves z) ∧
      I (pasts (exec h out moves z)) (exec h out moves z).2 ∧ R z.2 (exec h out moves z).2 := by
  induction moves generalizing z with
  | nil => exact ⟨hm, hI, hrefl _⟩
  | cons m moves ih =>
    suffices hnext : Watches h out C moves (move h out m z) ∧ AllMeet G Q (move h out m z) ∧
        I (pasts (move h out m z)) (move h out m z).2 ∧ R z.2 (move h out m z).2 by
      obtain ⟨hwatch', hm', hI', hR⟩ := hnext
      obtain ⟨hm'', hI'', hR'⟩ := ih hm' hI' hwatch'
      exact ⟨hm'', hI'', htrans _ _ _ hR hR'⟩
    cases m with
    | outside w => exact ⟨hwatch, hm, hout _ _ w hI⟩
    | thread i =>
      obtain ⟨hc, hwatch⟩ := hwatch
      refine ⟨hwatch, ?_⟩
      cases hr : (z.1 i).rest with
      | done a =>
        have hz : move h out (.thread i) z = z := by simp only [move, hr]
        rw [hz]
        exact ⟨hm, hI, hrefl _⟩
      | call c k =>
        have hz : move h out (.thread i) z = Pool.advance h i c k z := by simp only [move, hr]
        have hG := hm i
        simp only [PermitsNext, hr] at hG hc
        rw [hz, pasts_advance]
        exact ⟨hm.advance h hr, hthread _ _ i c hI hG.1 hc⟩

theorem exec_rule_each {C : ι → List (Event S) → S.Call → σ → Prop} {R : σ → σ → Prop}
    (hrefl : ∀ s, R s s) (htrans : ∀ s t u, R s t → R t u → R s u)
    (hthread : ∀ pasts s i c, I pasts s → G i (pasts i) c → C i (pasts i) c s →
      I (Function.update pasts i (⟨c, (h c s).1⟩ :: pasts i)) (h c s).2 ∧ R s (h c s).2)
    (hout : ∀ pasts s w, I pasts s → I pasts (out w s) ∧ R s (out w s))
    (moves : List (Move ι ω)) (hm : AllMeet G Q z) (hI : I (pasts z) z.2)
    (hobs : ObservesEach h out C moves z) :
    AllMeet G Q (exec h out moves z) ∧
      I (pasts (exec h out moves z)) (exec h out moves z).2 ∧ R z.2 (exec h out moves z).2 :=
  exec_watched h out hrefl htrans hthread hout moves hm hI hobs.watches

theorem exec_rule {R : σ → σ → Prop} (hrefl : ∀ s, R s s) (htrans : ∀ s t u, R s t → R t u → R s u)
    (hthread : ∀ pasts s i c, I pasts s → G i (pasts i) c → C (pasts i) c s →
      I (Function.update pasts i (⟨c, (h c s).1⟩ :: pasts i)) (h c s).2 ∧ R s (h c s).2)
    (hout : ∀ pasts s w, I pasts s → I pasts (out w s) ∧ R s (out w s))
    (moves : List (Move ι ω)) {z : Pool S α ι σ} (hm : AllMeet G Q z) (hI : I (pasts z) z.2)
    (hobs : Observes h out C moves z) :
    AllMeet G Q (exec h out moves z) ∧
      I (pasts (exec h out moves z)) (exec h out moves z).2 ∧ R z.2 (exec h out moves z).2 :=
  exec_rule_each h out hrefl htrans hthread hout moves hm hI hobs.each

theorem observes_true (moves : List (Move ι ω)) (z : Pool S α ι σ) :
    Observes h out (fun _ _ _ => True) moves z := by
  induction moves generalizing z with
  | nil => trivial
  | cons m moves ih =>
    refine ⟨?_, ih _⟩
    cases m with
    | outside w => trivial
    | thread i =>
      unfold Permits PermitsNext
      dsimp only
      split <;> trivial

theorem exec_invariant (hthread : ∀ pasts s i c, I pasts s → G i (pasts i) c →
      I (Function.update pasts i (⟨c, (h c s).1⟩ :: pasts i)) (h c s).2)
    (hout : ∀ pasts s w, I pasts s → I pasts (out w s))
    (moves : List (Move ι ω)) (hm : AllMeet G Q z) (hI : I (pasts z) z.2) :
    AllMeet G Q (exec h out moves z) ∧
      I (pasts (exec h out moves z)) (exec h out moves z).2 := by
  have hrule := exec_rule h out (C := fun _ _ _ => True) (R := fun _ _ => True)
    (fun _ => trivial) (fun _ _ _ _ _ => trivial)
    (fun pasts s i c hI hG _ => ⟨hthread pasts s i c hI hG, trivial⟩)
    (fun pasts s w hI => ⟨hout pasts s w hI, trivial⟩) moves hm hI (observes_true h out moves z)
  exact ⟨hrule.1, hrule.2.1⟩

end Rule
end Pool
end FleetLlmd.Effect
