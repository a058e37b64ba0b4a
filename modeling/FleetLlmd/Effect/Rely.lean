import FleetLlmd.Effect.Pool

/-!
# Rely and guarantee

`Ensures` states what a program does to a state it shares: whatever the others do
within `rely` between its calls, every call it makes when it is ready stays within
`guar`, and it ends in `Q`. Programs whose guarantees are what the others rely on may
run interleaved, and an invariant that every guarantee keeps holds throughout.
-/

namespace FleetLlmd.Effect

abbrev Guarantee (S : Signature) (σ : Type) := List (Event S) → σ → Event S → σ → Prop

namespace Prog
variable {S : Signature} {α β σ : Type} (h : Handler S σ) (ready : S.Call → σ → Prop)
variable (rely : σ → σ → Prop) (guar : Guarantee S σ)

def Ensures (Q : List (Event S) → α → σ → Prop) : Prog S α → List (Event S) → σ → Prop
  | .done a, past, s => ∀ s', rely s s' → Q past a s'
  | .call c k, past, s => ∀ s', rely s s' → ready c s' →
      guar past s' ⟨c, (h c s').1⟩ (h c s').2 ∧
        (k (h c s').1).Ensures Q (⟨c, (h c s').1⟩ :: past) (h c s').2

variable {h ready rely guar} {Q : List (Event S) → α → σ → Prop} {p : Prog S α}
variable {past : List (Event S)} {s s' : σ}

theorem Ensures.stable (htrans : ∀ s t u, rely s t → rely t u → rely s u)
    (hp : p.Ensures h ready rely guar Q past s) (hrely : rely s s') :
    p.Ensures h ready rely guar Q past s' := by
  cases p with
  | done a => exact fun u hu => hp u (htrans _ _ _ hrely hu)
  | call c k => exact fun u hu hready => hp u (htrans _ _ _ hrely hu) hready

theorem Ensures.mono {Q' : List (Event S) → α → σ → Prop}
    (hp : p.Ensures h ready rely guar Q past s) (hQ : ∀ past a s, Q past a s → Q' past a s) :
    p.Ensures h ready rely guar Q' past s := by
  induction p generalizing past s with
  | done a => exact fun u hu => hQ _ _ _ (hp u hu)
  | call c k ih =>
    intro u hu hready
    obtain ⟨hguar, hrest⟩ := hp u hu hready
    exact ⟨hguar, ih _ hrest⟩

theorem Ensures.bind {R : List (Event S) → β → σ → Prop} {f : α → Prog S β}
    (hrefl : ∀ s, rely s s) (hp : p.Ensures h ready rely guar Q past s)
    (hf : ∀ past a s, Q past a s → (f a).Ensures h ready rely guar R past s) :
    (p.bind f).Ensures h ready rely guar R past s := by
  induction p generalizing past s with
  | done a => exact hf _ _ _ (hp s (hrefl s))
  | call c k ih =>
    intro u hu hready
    obtain ⟨hguar, hrest⟩ := hp u hu hready
    exact ⟨hguar, ih _ hrest⟩

end Prog

namespace Pool
variable {S : Signature} {α ι ω σ : Type} [DecidableEq ι] {h : Handler S σ} {out : ω → σ → σ}
variable {ready : S.Call → σ → Prop} {rely : ι → σ → σ → Prop} {guar : ι → Guarantee S σ}
variable {Q : ι → List (Event S) → α → σ → Prop}

theorem pasts_suffix (h : Handler S σ) (out : ω → σ → σ) (moves : List (Move ι ω))
    (z : Pool S α ι σ) (i : ι) : pasts z i <:+ pasts (exec h out moves z) i := by
  induction moves generalizing z with
  | nil => exact List.suffix_rfl
  | cons m moves ih =>
    rw [exec_cons]
    refine List.IsSuffix.trans ?_ (ih (move h out m z))
    cases m with
    | outside w => exact List.suffix_rfl
    | thread j =>
      cases hr : (z.1 j).rest with
      | done a =>
        have hstay : move h out (.thread j) z = z := by simp only [move, hr]
        exact hstay.symm ▸ List.suffix_rfl
      | call c k =>
        have hmove : move h out (.thread j) z = Pool.advance h j c k z := by simp only [move, hr]
        rw [hmove, pasts_advance]
        by_cases hij : i = j
        · rw [hij, Function.update_self]
          exact List.suffix_cons _ _
        · exact (Function.update_of_ne hij _ _).symm ▸ List.suffix_rfl

def AllEnsure (h : Handler S σ) (ready : S.Call → σ → Prop) (rely : ι → σ → σ → Prop)
    (guar : ι → Guarantee S σ) (Q : ι → List (Event S) → α → σ → Prop) (z : Pool S α ι σ) : Prop :=
  ∀ i, (z.1 i).rest.Ensures h ready (rely i) (guar i) (Q i) (pasts z i) z.2

structure Compatible (out : ω → σ → σ) (rely : ι → σ → σ → Prop) (guar : ι → Guarantee S σ) :
    Prop where
  refl : ∀ i s, rely i s s
  trans : ∀ i s t u, rely i s t → rely i t u → rely i s u
  others : ∀ i j past s e s', i ≠ j → guar i past s e s' → rely j s s'
  outside : ∀ w i s, rely i s (out w s)

theorem AllEnsure.advance (hcompat : Compatible out rely guar) {i : ι} {c : S.Call}
    {k : S.Answer c → Prog S α} {z : Pool S α ι σ} (hz : AllEnsure h ready rely guar Q z)
    (hc : (z.1 i).rest = .call c k) (hready : ready c z.2) :
    guar i (pasts z i) z.2 ⟨c, (h c z.2).1⟩ (h c z.2).2 ∧
      AllEnsure h ready rely guar Q (advance h i c k z) := by
  have hi := hz i
  rw [hc] at hi
  obtain ⟨hguar, hrest⟩ := hi z.2 (hcompat.refl i _) hready
  refine ⟨hguar, fun j => ?_⟩
  by_cases hj : j = i
  · subst hj
    simpa [Pool.advance, pasts] using hrest
  · have hstable := (hz j).stable (hcompat.trans j) (hcompat.others i j _ _ _ _ (Ne.symm hj) hguar)
    simpa [Pool.advance, pasts, hj] using hstable

/-- An invariant that every guarantee and every outside move keeps holds after every interleaving
of ready calls. -/
theorem exec_ensures (hcompat : Compatible out rely guar) {I : (ι → List (Event S)) → σ → Prop}
    (hthread : ∀ pasts s i e s', I pasts s → guar i (pasts i) s e s' →
      I (Function.update pasts i (e :: pasts i)) s')
    (hout : ∀ pasts s w, I pasts s → I pasts (out w s))
    (moves : List (Move ι ω)) {z : Pool S α ι σ} (hz : AllEnsure h ready rely guar Q z)
    (hI : I (pasts z) z.2) (hobs : Observes h out (fun _ => ready) moves z) :
    AllEnsure h ready rely guar Q (exec h out moves z) ∧
      I (pasts (exec h out moves z)) (exec h out moves z).2 := by
  induction moves generalizing z with
  | nil => exact ⟨hz, hI⟩
  | cons m moves ih =>
    obtain ⟨hready, hobs⟩ := hobs
    cases m with
    | outside w =>
      have hz' : AllEnsure h ready rely guar Q (move h out (.outside w : Move ι ω) z) :=
        fun i => (hz i).stable (hcompat.trans i) (hcompat.outside w i z.2)
      exact ih hz' (hout _ _ w hI) hobs
    | thread i =>
      cases hr : (z.1 i).rest with
      | done a =>
        have hstay : move h out (.thread i) z = z := by simp only [move, hr]
        rw [exec_cons, hstay]
        rw [hstay] at hobs
        exact ih hz hI hobs
      | call c k =>
        have hmove : move h out (.thread i) z = Pool.advance h i c k z := by simp only [move, hr]
        simp only [Permits, PermitsNext, hr] at hready
        obtain ⟨hguar, hz'⟩ := hz.advance hcompat hr hready
        rw [exec_cons, hmove]
        rw [hmove] at hobs
        refine ih hz' ?_ hobs
        rw [pasts_advance]
        exact hthread _ _ i _ _ hI hguar

end Pool
end FleetLlmd.Effect
