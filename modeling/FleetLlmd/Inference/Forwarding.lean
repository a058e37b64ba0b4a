import FleetLlmd.Inference.InFlight
import FleetLlmd.Json.Members

/-!
# What is forwarded and what is charged

The envelope takes members ignoring case, the forwarded map keeps keys as they are
spelled. So the tokens charged are those the upstream server is asked for, and no
routing member is passed on, exactly for bodies that spell their keys plainly.
-/

namespace FleetLlmd.Inference
open Go Effect Json Quota Sql

def statedCount : Option Raw → Option Int
  | some (.number lit) => (parseInt lit).filter fun n => 0 < n
  | _ => none

def isRoutingKey (key : String) : Bool :=
  match findField inferenceEnvelopeFields key with
  | some f => f.name == "tenant_id" || f.name == "session_id" || f.name == "policy"
  | none => false

def Request.members (r : Request) : List (String × Raw) :=
  match r.body.bind fun body => parse (runes body) with
  | some (.object members) => members
  | _ => []

def countOf : Option Raw → Int
  | some (.number lit) => (parseInt lit).getD 0
  | _ => 0

structure PlainlySpelled (members : List (String × Raw)) : Prop where
  keys : ∀ m ∈ members, isRoutingKey m.1 = true →
    m.1 = "tenant_id" ∨ m.1 = "session_id" ∨ m.1 = "policy"
  tokens : ∀ n, statedCount (lastExact "max_tokens" members) = some n →
    countOf (lastFolded "max_tokens" members) = n ∨
      countOf (lastFolded "max_tokens" members) ≤ 0 ∧ n = 256

section Charges
variable {τ : Type}

def reservedBy : Event (inferenceCalls τ) → Int
  | ⟨.inl st, x⟩ => windowAddition ⟨st, x⟩
  | ⟨.inr (.reserveLocal _ check), result⟩ =>
    if QuotaCheckResult.allowed result then check.tokensRequested else 0
  | _ => 0

def tokensReserved (past : List (Event (inferenceCalls τ))) : Int := (past.map reservedBy).sum

structure Accounts (past : List (Event (inferenceCalls τ))) (u : UpstreamRequest) : Prop where
  tokens : ∀ n, statedCount (lookupKey "max_tokens" u.body) = some n → tokensReserved past = n
  keys : ∀ m ∈ u.body, isRoutingKey m.1 = false

end Charges

/-! ## The envelope -/

theorem inferenceEnvelopeFields_distinct : Distinct inferenceEnvelopeFields :=
  distinct_of_nodup (by decide +kernel)

theorem maxTokens_mem : (structField "max_tokens" (·.maxTokens)
    (fun (e : InferenceEnvelope) n => { e with maxTokens := n }) decodeInt) ∈
      inferenceEnvelopeFields := by
  simp [inferenceEnvelopeFields]

theorem structField_decode {σ α : Type} {name : String} {get : σ → α} {set : σ → α → σ}
    {d : Decoder α} {v : Raw} {s s' : σ} (h : (structField name get set d).decode v s = .ok s') :
    ∃ a, d v (get s) = .ok a ∧ s' = set s a := by
  cases hd : d v (get s) with
  | error err =>
    rw [structField] at h
    simp only [hd] at h
    cases h
  | ok a =>
    rw [structField] at h
    simp only [hd] at h
    cases h
    exact ⟨a, rfl, rfl⟩

theorem decode_maxTokens {f : StructField InferenceEnvelope} {v : Raw} {e e' : InferenceEnvelope}
    (hf : f ∈ inferenceEnvelopeFields) (h : f.decode v e = .ok e') :
    f.name = "max_tokens" ∧ decodeInt v e.maxTokens = .ok e'.maxTokens ∨
      f.name ≠ "max_tokens" ∧ e'.maxTokens = e.maxTokens := by
  simp only [inferenceEnvelopeFields, List.mem_cons, List.not_mem_nil, or_false] at hf
  rcases hf with rfl | rfl | rfl | rfl | rfl | rfl | rfl
  case inr.inr.inr.inr.inr.inr =>
    obtain ⟨n, hn, rfl⟩ := structField_decode h
    exact Or.inl ⟨rfl, hn⟩
  all_goals
    obtain ⟨a, -, rfl⟩ := structField_decode h
    exact Or.inr ⟨by decide, rfl⟩

theorem decodeInt_ok {v : Raw} {n m : Int} (h : decodeInt v n = .ok m) :
    v.isNull = true ∧ m = n ∨ v.isNull = false ∧ m = countOf (some v) := by
  cases v with
  | null =>
    cases h
    exact Or.inl ⟨rfl, rfl⟩
  | number lit =>
    rw [decodeInt] at h
    cases hparse : parseInt lit with
    | none =>
      rw [hparse] at h
      cases h
    | some k =>
      rw [hparse] at h
      cases h
      exact Or.inr ⟨rfl, by rw [countOf, hparse]; rfl⟩
  | bool b => cases h
  | string lit => cases h
  | array items => cases h
  | object members => cases h

variable {members : List (String × Raw)}

theorem decodeMembers_maxTokens {e e' : InferenceEnvelope}
    (h : decodeMembers false inferenceEnvelopeFields members e = .ok e') :
    e'.maxTokens = match lastFolded "max_tokens" members with
      | some v => countOf (some v)
      | none => e.maxTokens := by
  induction members generalizing e with
  | nil =>
    cases h
    rfl
  | cons m members ih =>
    have hselects (hfold : equalFold "max_tokens" m.1 = true) :=
      (findField_eq_some inferenceEnvelopeFields_distinct).mpr ⟨maxTokens_mem, hfold⟩
    rw [decodeMembers] at h
    rw [lastFolded]
    cases hfind : findField inferenceEnvelopeFields m.1 with
    | none =>
      rw [hfind] at h
      have hfold : equalFold "max_tokens" m.1 = false := by
        by_contra hne
        rw [hselects (by simpa using hne)] at hfind
        cases hfind
      rw [hfold, ih h]
      cases lastFolded "max_tokens" members <;> rfl
    | some f =>
      rw [hfind] at h
      dsimp only at h
      obtain ⟨hmem, hname⟩ := findField_mem hfind
      cases hdecode : f.decode m.2 e with
      | error err =>
        rw [hdecode] at h
        cases h
      | ok e₁ =>
        rw [hdecode] at h
        rw [ih h]
        rcases decode_maxTokens hmem hdecode with ⟨hf, hint⟩ | ⟨hf, hsame⟩
        · rw [hf] at hname
          rcases decodeInt_ok hint with ⟨hnull, heq⟩ | ⟨hnull, heq⟩
          · rw [hname, hnull, heq]
            cases lastFolded "max_tokens" members <;> rfl
          · rw [hname, hnull, heq]
            cases lastFolded "max_tokens" members <;> rfl
        · have hfold : equalFold "max_tokens" m.1 = false := by
            by_contra hne
            rw [hselects (by simpa using hne)] at hfind
            cases hfind
            exact hf rfl
          rw [hfold, hsame]
          cases lastFolded "max_tokens" members <;> rfl

theorem inferenceText_empty (chat : Bool) : ∃ err, inferenceText {} chat = .error err := by
  cases chat <;> exact ⟨_, rfl⟩

theorem decodeBody_ok {r : Request} {envelope : InferenceEnvelope}
    {text : String} (h : FleetController.decodeBody r = .ok (envelope, members, text)) :
    members = r.members ∧ decodeMembers false inferenceEnvelopeFields members {} = .ok envelope := by
  rw [FleetController.decodeBody] at h
  cases hbody : r.body with
  | none =>
    rw [hbody] at h
    cases h
  | some body =>
    rw [hbody] at h
    dsimp only at h
    cases hparse : parse (runes body) with
    | none =>
      rw [hparse] at h
      cases h
    | some raw =>
      rw [hparse] at h
      dsimp only at h
      cases hdecode : decodeInferenceEnvelope raw {} with
      | error err =>
        rw [hdecode] at h
        cases h
      | ok decoded =>
        rw [hdecode] at h
        dsimp only at h
        cases htext : inferenceText decoded r.chat with
        | error err =>
          rw [htext] at h
          cases h
        | ok text' =>
          rw [htext] at h
          cases raw with
          | object ms =>
            cases h
            rw [Request.members, hbody, Option.bind_some, hparse]
            exact ⟨rfl, hdecode⟩
          | null =>
            cases hdecode
            obtain ⟨err, herr⟩ := inferenceText_empty r.chat
            rw [herr] at htext
            cases htext
          | bool b => cases hdecode
          | number lit => cases hdecode
          | string lit => cases hdecode
          | array items => cases hdecode

/-! ## The forwarded object -/

theorem forwarded_count (members : List (String × Raw)) (physicalModel : String) :
    lookupKey "max_tokens" (forwardedBody members physicalModel) =
      lastExact "max_tokens" members := by
  rw [forwardedBody, lookupKey_filter, lookupKey_insertKey, if_neg (by decide), lookupKey_ofEntries]
  intro e he
  rw [he]
  decide

theorem forwarded_keys (members : List (String × Raw)) (physicalModel : String) :
    (∀ m ∈ forwardedBody members physicalModel, isRoutingKey m.1 = false) ↔
      ∀ m ∈ members, isRoutingKey m.1 = true →
        m.1 = "tenant_id" ∨ m.1 = "session_id" ∨ m.1 = "policy" := by
  constructor
  · intro h m hm hrouting
    by_contra hother
    simp only [not_or] at hother
    obtain ⟨v, hv⟩ := lastExact_isSome hm
    have hlookup : ∃ v, lookupKey m.1 (insertKey "model" (.string (goEscaping.body physicalModel))
        (ofEntries members)) = some v := by
      rw [lookupKey_insertKey, lookupKey_ofEntries, hv]
      split_ifs
      · exact ⟨_, rfl⟩
      · exact ⟨_, rfl⟩
    obtain ⟨v', hv'⟩ := hlookup
    have hmem : (m.1, v') ∈ forwardedBody members physicalModel := by
      apply List.mem_filter.mpr
      refine ⟨mem_of_lookupKey hv', ?_⟩
      simp [hother]
    rw [h _ hmem] at hrouting
    cases hrouting
  · intro h e he
    obtain ⟨hmem, hkept⟩ := List.mem_filter.mp he
    rcases mem_insertKey hmem with rfl | hentry
    · exact (by decide +kernel : isRoutingKey "model" = false)
    · by_contra hrouting
      have hspelled := h e (mem_ofEntries hentry) (by simpa using hrouting)
      rcases hspelled with heq | heq | heq <;> simp [heq] at hkept

theorem accounts_iff {τ : Type} {r : Request} {envelope : InferenceEnvelope}
    {text : String} {u : UpstreamRequest} {physicalModel : String}
    {past : List (Event (inferenceCalls τ))}
    (hdecoded : FleetController.decodeBody r = .ok (envelope, members, text))
    (hbody : u.body = forwardedBody members physicalModel)
    (hreserved : tokensReserved past = envelope.requestedTokens) :
    Accounts past u ↔ PlainlySpelled r.members := by
  obtain ⟨rfl, hmembers⟩ := decodeBody_ok hdecoded
  have hmax : envelope.maxTokens = countOf (lastFolded "max_tokens" r.members) := by
    rw [decodeMembers_maxTokens hmembers]
    cases lastFolded "max_tokens" r.members <;> rfl
  have htokens (n : Int) (hn : 0 < n) : tokensReserved past = n ↔
      countOf (lastFolded "max_tokens" r.members) = n ∨
        countOf (lastFolded "max_tokens" r.members) ≤ 0 ∧ n = 256 := by
    rw [hreserved, InferenceEnvelope.requestedTokens, ← hmax]
    split_ifs <;> omega
  have hpositive (v : Option Raw) (n : Int) (h : statedCount v = some n) : 0 < n := by
    cases v with
    | none => cases h
    | some v =>
      cases v with
      | number lit =>
        have hfilter := (Option.filter_eq_some_iff.mp h).2
        simpa using hfilter
      | null => cases h
      | bool b => cases h
      | string lit => cases h
      | array items => cases h
      | object ms => cases h
  constructor
  · intro h
    refine ⟨(forwarded_keys _ physicalModel).mp (hbody ▸ h.keys), fun n hn => ?_⟩
    apply (htokens n (hpositive _ _ hn)).mp
    apply h.tokens
    rw [hbody, forwarded_count]
    exact hn
  · intro h
    refine ⟨fun n hn => ?_, hbody ▸ (forwarded_keys _ physicalModel).mpr h.keys⟩
    rw [hbody, forwarded_count] at hn
    exact (htokens n (hpositive _ _ hn)).mpr (h.tokens n hn)

/-! ## The handler -/

section Handler
variable {τ : Type} {fc : FleetController} {r : Request} {past : List (Event (inferenceCalls τ))}

theorem tokensReserved_cons (e : Event (inferenceCalls τ)) :
    tokensReserved (e :: past) = reservedBy e + tokensReserved past := by
  simp [tokensReserved]

def SendsOnly (body : List (String × Raw)) : GatewayCall → Prop
  | .upstream u => u.body = body
  | .reserveLocal _ _ => False
  | _ => True

theorem sendsOnly_of_isRouting {body : List (String × Raw)} {c : GatewayCall}
    (h : isRouting c = true) : SendsOnly body c := by
  cases c <;> trivial

theorem reservedBy_of_sendsOnly {body : List (String × Raw)} {c : GatewayCall} {x : c.Answer}
    (h : SendsOnly body c) : reservedBy (⟨.inr c, x⟩ : Event (inferenceCalls τ)) = 0 := by
  cases c <;> first | rfl | cases h

theorem serve_sendsOnly (x : Routed) (past : List (Event gatewayCalls)) :
    (fc.serve r x).Meets (fun _ c => SendsOnly (forwardedBody x.members x.physicalModel) c)
      (fun _ _ => True) past :=
  serve_meets (fun _ => trivial) trivial
    (fun _ hc => sendsOnly_of_isRouting (isRouting_of_isSelecting hc)) fun _ h => h

def ForwardsPlainly (r : Request) (past : List (Event (inferenceCalls τ)))
    (c : (inferenceCalls τ).Call) : Prop :=
  ∀ u, c = .inr (.upstream u) → r.chargedTo ≠ "" → (Accounts past u ↔ PlainlySpelled r.members)

theorem forwardsPlainly_inl (st : Statement Row τ) : ForwardsPlainly r past (.inl st) :=
  nofun

theorem forwardsPlainly_routing {c : GatewayCall} (h : isRouting c = true) :
    ForwardsPlainly r past (.inr c) := by
  intro u heq
  rw [Sum.inr.inj heq] at h
  cases h

theorem serve_forwards {x : Routed} (hbody : FromBody r x)
    (hreserved : r.chargedTo ≠ "" → tokensReserved past = x.envelope.requestedTokens) :
    (fc.serve r x).inr.Meets (ForwardsPlainly r) (fun _ _ => True) past := by
  refine Prog.Meets.inr
    (J := fun past => r.chargedTo ≠ "" → tokensReserved past = x.envelope.requestedTokens) ?_
    (serve_sendsOnly x _) hreserved ?_ (fun _ _ _ _ => trivial)
  · intro past c answer hsends hpast htenant
    rw [tokensReserved_cons, reservedBy_of_sendsOnly hsends, hpast htenant, Int.zero_add]
  · intro past c hpast hsends u heq htenant
    rw [Sum.inr.inj heq] at hsends
    obtain ⟨text, hdecoded⟩ := hbody.decoded
    exact accounts_iff hdecoded hsends (hpast htenant)

theorem release_forwards (kind : EnforcerKind) (tenantID : String) :
    (release kind tenantID).Meets (ForwardsPlainly r) (fun _ _ => True) past := by
  rw [release]
  split_ifs
  · exact ⟨forwardsPlainly_inl _, fun answer => by cases answer <;> trivial⟩
  · trivial

theorem reserveShared_forwards (tx : τ) (tenantID : String) (tokens : Int)
    (hpast : tokensReserved past = 0 ∧ lefts past = []) :
    (reserveShared tx tenantID tokens).Meets (ForwardsPlainly r)
      (fun past result => ∀ granted, result = .ok granted → granted.allowed = true →
        tokensReserved past = tokens) past := by
  refine ⟨forwardsPlainly_routing rfl, fun profile => ⟨forwardsPlainly_routing rfl, fun now => ?_⟩⟩
  apply (Prog.meets_bind _ _ _).mpr
  refine Prog.Meets.inl (J := fun past => tokensReserved past = tokensAdded (lefts past)) ?_
    (reserveQuota_reserves tx tenantID _ tokens _ _ _ _ ?_) ?_ ?_ ?_
  · intro past st answer hpast
    rw [tokensReserved_cons, lefts_inl, tokensAdded_cons, hpast]
    rfl
  · rw [lefts_inr, lefts_inr, hpast.2]
    rfl
  · rw [tokensReserved_cons, tokensReserved_cons, hpast.1, lefts_inr, lefts_inr, hpast.2]
    rfl
  · exact fun past st _ _ => forwardsPlainly_inl st
  · intro past result hsame hallowed
    cases result with
    | error err => exact nofun
    | ok reservation =>
      intro granted heq hgranted
      cases heq
      rw [hsame]
      exact hallowed ((reservationResult_allowed _ _ _).symm.trans hgranted)

theorem reserve_forwards (tx : τ)
    (hkind : fc.quotaEnforcer = .shared ∨ fc.quotaEnforcer = .unshared) {tenantID : String}
    (check : QuotaCheckRequest) (hpast : tokensReserved past = 0 ∧ lefts past = []) :
    (reserve tx fc.quotaEnforcer tenantID check).Meets (ForwardsPlainly r)
      (fun past result => ∀ granted, result = .ok granted → granted.allowed = true →
        tenantID ≠ "" → tokensReserved past = check.tokensRequested) past := by
  unfold reserve
  by_cases htenant : tenantID = ""
  · rw [if_pos (by simp [htenant])]
    exact fun _ _ _ hne => absurd htenant hne
  · rw [if_neg (by simp [htenant])]
    rcases hkind with hkind | hkind
    · rw [hkind]
      refine (reserveShared_forwards tx tenantID check.tokensRequested hpast).mono
        (fun _ _ h => h) ?_
      exact fun _ _ h granted heq hallowed _ => h granted heq hallowed
    · rw [hkind]
      refine ⟨fun _ h => (nomatch (Sum.inr.inj h)), fun result granted heq hallowed _ => ?_⟩
      cases heq
      rw [tokensReserved_cons, hpast.1, reservedBy, if_pos hallowed, Int.add_zero]

/-- For every body forwarded for a tenant, the tokens reserved are those asked for upstream and no
routing member is forwarded, exactly if the body is plainly spelled. -/
theorem forwarded_accounted_iff (tx : τ) (fc : FleetController) (r : Request)
    (hkind : fc.quotaEnforcer = .shared ∨ fc.quotaEnforcer = .unshared) :
    (handleInference tx fc r).Meets
      (fun past c => ∀ u, c = Sum.inr (GatewayCall.upstream u) → r.chargedTo ≠ "" →
        (Accounts past u ↔ PlainlySpelled r.members)) (fun _ _ => True) [] := by
  refine handleInference_ends (A := fun past => tokensReserved past = 0 ∧ lefts past = [])
    (Q := fun _ => True) (B := fun _ => True)
    (J := fun x past => FromBody r x ∧ tokensReserved past = 0 ∧ lefts past = [])
    (K := fun x past => FromBody r x ∧
      (r.chargedTo ≠ "" → tokensReserved past = x.envelope.requestedTokens))
    ⟨⟨rfl, rfl⟩, fun _ => ⟨rfl, rfl⟩⟩ ?_ (fun _ => ⟨trivial, fun _ => trivial⟩) ?_ ?_ ?_ ?_
    (fun _ _ _ => trivial) (fun _ _ _ => trivial)
  · exact fun past => ⟨forwardsPlainly_routing rfl, forwardsPlainly_routing rfl,
      forwardsPlainly_routing rfl⟩
  · intro past hpast
    refine Prog.Meets.inr (J := fun past => tokensReserved past = 0 ∧ lefts past = []) ?_
      route_quiet hpast ?_ ?_
    · intro past c answer hrouting hpast
      have hsends : SendsOnly [] c := sendsOnly_of_isRouting hrouting
      rw [tokensReserved_cons, reservedBy_of_sendsOnly hsends, hpast.1, lefts_inr]
      exact ⟨rfl, hpast.2⟩
    · exact fun past c _ hrouting => forwardsPlainly_routing hrouting
    · intro past result hpast hkeeps
      refine ⟨trivial, ?_⟩
      cases result with
      | error reply => trivial
      | ok x => exact ⟨hkeeps, hpast⟩
  · intro x past ⟨hbody, hpast⟩
    refine (reserve_forwards tx hkind _ hpast).imp ?_
    refine fun past result hreserved => ⟨trivial, fun granted heq hallowed => ?_⟩
    exact ⟨hbody, fun htenant => hreserved granted heq hallowed (by rwa [hbody.chargedTo])⟩
  · exact fun x past h => serve_forwards h.1 h.2
  · exact fun x past _ _ => release_forwards fc.quotaEnforcer x.tenantID

theorem forwarded_accounted_iff_sample :
    (handleInference () sampleController sampleRequest).Meets
      (fun past c => ∀ u, c = Sum.inr (GatewayCall.upstream u) → sampleRequest.chargedTo ≠ "" →
        (Accounts past u ↔ PlainlySpelled sampleRequest.members)) (fun _ _ => True) [] :=
  forwarded_accounted_iff () sampleController sampleRequest (Or.inl rfl)

def firstUpstream : List (Event (inferenceCalls τ)) → List (Event (inferenceCalls τ)) →
    Option (List (Event (inferenceCalls τ)) × UpstreamRequest)
  | [], _ => none
  | ⟨.inr (.upstream u), _⟩ :: _, past => some (past, u)
  | e :: trace, past => firstUpstream trace (e :: past)

theorem firstUpstream_split {trace acc : List (Event (inferenceCalls τ))} {u : UpstreamRequest}
    (h : firstUpstream trace acc = some (past, u)) : ∃ before response after,
      trace = before ++ ⟨.inr (.upstream u), response⟩ :: after ∧ past = before.reverse ++ acc := by
  induction trace generalizing acc with
  | nil => cases h
  | cons e trace ih =>
    rw [firstUpstream.eq_def] at h
    split at h
    · next heq => cases heq
    · next heq =>
      cases heq
      cases h
      exact ⟨[], _, trace, rfl, rfl⟩
    · next heq =>
      cases heq
      obtain ⟨before, response, after, rfl, rfl⟩ := ih h
      exact ⟨_ :: before, response, after, rfl, by simp⟩

def mixedRequest : Request where
  chat := false
  body := some (utf8
    "\x7b\"max_tokens\":5,\"MAX_TOKENS\":1,\"prompt\":\"hi\",\"tenant_id\":\"t\",\"Policy\":\"p\"\x7d")

theorem mixedRequest_undercharged :
    (firstUpstream ((handleInference () sampleController mixedRequest).trace
      (Handler.sum Database.execute answer)
      (⟨fun _ => none, fun _ => none, none⟩, sampleWorld)) []).any
      (fun sent => statedCount (lookupKey "max_tokens" sent.2.body) == some 5 &&
        tokensReserved sent.1 == 1) = true := by
  decide +kernel

theorem forwarded_unaccounted :
    ¬ ∀ r, (handleInference () sampleController r).Meets
      (fun past c => ∀ u, c = Sum.inr (GatewayCall.upstream u) → r.chargedTo ≠ "" →
        Accounts past u) (fun _ _ => True) [] := by
  intro h
  obtain ⟨⟨past, u⟩, hsent, hwrong⟩ := (Option.any_eq_true _ _).mp mixedRequest_undercharged
  simp only [Bool.and_eq_true, beq_iff_eq] at hwrong
  obtain ⟨before, response, after, htrace, hpast⟩ := firstUpstream_split hsent
  have hcharged : mixedRequest.chargedTo ≠ "" := by decide +kernel
  have haccounts := (h mixedRequest).trace htrace u rfl hcharged
  rw [← hpast] at haccounts
  have hfive := haccounts.tokens 5 hwrong.1
  rw [hwrong.2] at hfive
  exact absurd hfive (by decide)

end Handler

end FleetLlmd.Inference
