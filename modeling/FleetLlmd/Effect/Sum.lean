import FleetLlmd.Effect.Rely

/-!
# Two environments

Programs that call two environments with states of their own. What a part of such a
program ensures of one environment it ensures of the whole, whatever happens in the
other; the past of the whole contains the past of each side.
-/

namespace FleetLlmd.Effect

abbrev Signature.sum (S T : Signature) : Signature where
  Call := S.Call ⊕ T.Call
  Answer
    | .inl c => S.Answer c
    | .inr c => T.Answer c

variable {S T : Signature} {α β σ τ : Type}

def Handler.sum (h : Handler S σ) (k : Handler T τ) : Handler (S.sum T) (σ × τ)
  | .inl c, s => ((h c s.1).1, ((h c s.1).2, s.2))
  | .inr c, s => ((k c s.2).1, (s.1, (k c s.2).2))

def lefts (past : List (Event (S.sum T))) : List (Event S) :=
  past.filterMap fun
    | ⟨.inl c, x⟩ => some ⟨c, x⟩
    | ⟨.inr _, _⟩ => none

@[simp] theorem lefts_inl (c : S.Call) (x : S.Answer c) (past : List (Event (S.sum T))) :
    lefts (⟨.inl c, x⟩ :: past) = ⟨c, x⟩ :: lefts past := rfl

@[simp] theorem lefts_inr (c : T.Call) (x : T.Answer c) (past : List (Event (S.sum T))) :
    lefts (⟨.inr c, x⟩ :: past) = lefts past := rfl

def rights (past : List (Event (S.sum T))) : List (Event T) :=
  past.filterMap fun
    | ⟨.inl _, _⟩ => none
    | ⟨.inr c, x⟩ => some ⟨c, x⟩

@[simp] theorem rights_inr (c : T.Call) (x : T.Answer c) (past : List (Event (S.sum T))) :
    rights (⟨.inr c, x⟩ :: past) = ⟨c, x⟩ :: rights past := rfl

namespace Prog

def inl : Prog S α → Prog (S.sum T) α
  | .done a => .done a
  | .call c k => .call (.inl c) fun x => (k x).inl

def inr : Prog T α → Prog (S.sum T) α
  | .done a => .done a
  | .call c k => .call (.inr c) fun x => (k x).inr

section Meets
variable {G : List (Event (S.sum T)) → (S.sum T).Call → Prop}
variable {Q : List (Event (S.sum T)) → α → Prop} {J : List (Event (S.sum T)) → Prop}
variable {past : List (Event (S.sum T))}

theorem Meets.inl {G' : List (Event S) → S.Call → Prop} {Q' : List (Event S) → α → Prop}
    {p : Prog S α} (hJ : ∀ past c x, J past → J (⟨.inl c, x⟩ :: past))
    (hp : p.Meets G' Q' (lefts past)) (hpast : J past)
    (hG : ∀ past c, J past → G' (lefts past) c → G past (.inl c))
    (hQ : ∀ past a, J past → Q' (lefts past) a → Q past a) :
    (p.inl (T := T)).Meets G Q past := by
  induction p generalizing past with
  | done a => exact hQ past a hpast hp
  | call c k ih =>
    exact ⟨hG past c hpast hp.1, fun x => ih x (hp.2 x) (hJ past c x hpast)⟩

theorem Meets.inr {G' : List (Event T) → T.Call → Prop} {Q' : List (Event T) → α → Prop}
    {p : Prog T α} (hJ : ∀ past c x, G' (rights past) c → J past → J (⟨.inr c, x⟩ :: past))
    (hp : p.Meets G' Q' (rights past)) (hpast : J past)
    (hG : ∀ past c, J past → G' (rights past) c → G past (.inr c))
    (hQ : ∀ past a, J past → Q' (rights past) a → Q past a) :
    (p.inr (S := S)).Meets G Q past := by
  induction p generalizing past with
  | done a => exact hQ past a hpast hp
  | call c k ih =>
    exact ⟨hG past c hpast hp.1, fun x => ih x (hp.2 x) (hJ past c x hp.1 hpast)⟩

end Meets

section Ensures
variable {h : Handler S σ} {k : Handler T τ} {ready : S.Call → σ → Prop}
variable {rely : σ → σ → Prop} {guar guar' : Guarantee S σ}

variable {Q : List (Event S) → α → σ → Prop}

theorem Ensures.weaken {ready' : S.Call → σ → Prop}
    {p : Prog S α} {past : List (Event S)} {s : σ} (hp : p.Ensures h ready rely guar Q past s)
    (hready : ∀ c s, ready' c s → ready c s)
    (hguar : ∀ past s e s', guar past s e s' → guar' past s e s') :
    p.Ensures h ready' rely guar' Q past s := by
  induction p generalizing past s with
  | done a => exact hp
  | call c k ih =>
    intro s' hrely hr
    obtain ⟨hg, hrest⟩ := hp s' hrely (hready c s' hr)
    exact ⟨hguar _ _ _ _ hg, ih _ hrest⟩

theorem Ensures.calls {P : S.Call → Prop}
    {R : List (Event S) → α → Prop} {p : Prog S α} {past : List (Event S)} {s : σ}
    (hp : p.Ensures h ready rely guar Q past s) (hm : p.Meets (fun _ c => P c) R past) :
    p.Ensures h ready rely (fun past s e s' => guar past s e s' ∧ P e.1) Q past s := by
  induction p generalizing past s with
  | done a => exact hp
  | call c k ih =>
    intro s' hrely hr
    obtain ⟨hg, hrest⟩ := hp s' hrely hr
    exact ⟨⟨hg, hm.1⟩, ih _ hrest (hm.2 _)⟩

def readyLeft (ready : S.Call → σ → Prop) : (S.sum T).Call → σ × τ → Prop
  | .inl c, s => ready c s.1
  | .inr _, _ => True

def guaranteeBoth (guar : Guarantee S σ) (calls : List (Event S) → T.Call → Prop) :
    Guarantee (S.sum T) (σ × τ) := fun past s e s' =>
  match e with
  | ⟨.inl c, x⟩ => guar (lefts past) s.1 ⟨c, x⟩ s'.1
  | ⟨.inr c, _⟩ => s'.1 = s.1 ∧ calls (lefts past) c

variable {calls : List (Event S) → T.Call → Prop}

theorem Ensures.inl {p : Prog S α} {past : List (Event (S.sum T))} {s : σ × τ}
    (hp : p.Ensures h ready rely guar Q (lefts past) s.1) :
    (p.inl (T := T)).Ensures (h.sum k) (readyLeft ready) (fun s s' => rely s.1 s'.1)
      (guaranteeBoth guar calls) (fun past a s => Q (lefts past) a s.1) past s := by
  induction p generalizing past s with
  | done a => exact fun s' hrely => hp s'.1 hrely
  | call c k' ih =>
    intro s' hrely hr
    obtain ⟨hg, hrest⟩ := hp s'.1 hrely hr
    exact ⟨hg, ih _ hrest⟩

theorem Ensures.inr {R : α → Prop} {p : Prog T α} {tpast : List (Event T)}
    {past : List (Event (S.sum T))} {s : σ × τ} (hrefl : ∀ s, rely s s)
    (htrans : ∀ s t u, rely s t → rely t u → rely s u)
    (hp : p.Meets (fun _ c => calls (lefts past) c) (fun _ a => R a) tpast) :
    (p.inr (S := S)).Ensures (h.sum k) (readyLeft ready) (fun s s' => rely s.1 s'.1)
      (guaranteeBoth guar calls)
      (fun past' a s' => lefts past' = lefts past ∧ rely s.1 s'.1 ∧ R a) past s := by
  suffices hgen : ∀ (past' : List (Event (S.sum T))) (t : σ × τ), lefts past' = lefts past →
      rely s.1 t.1 → (p.inr (S := S)).Ensures (h.sum k) (readyLeft ready)
        (fun s s' => rely s.1 s'.1) (guaranteeBoth guar calls)
        (fun past' a s' => lefts past' = lefts past ∧ rely s.1 s'.1 ∧ R a) past' t from
    hgen past s rfl (hrefl _)
  induction p generalizing tpast with
  | done a => exact fun past' t heq ht t' ht' => ⟨heq, htrans _ _ _ ht ht', hp⟩
  | call c k' ih =>
    intro past' t heq ht t' ht' _
    refine ⟨⟨rfl, ?_⟩, ?_⟩
    · rw [heq]
      exact hp.1
    · exact ih _ (hp.2 _) _ _ heq (htrans _ _ _ ht ht')

end Ensures
end Prog
end FleetLlmd.Effect
