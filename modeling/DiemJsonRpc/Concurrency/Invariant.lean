import DiemJsonRpc.Concurrency.System

/-!
# What every interleaving keeps

`Inv` holds in every state a shared client reaches (`Reachable.inv`), over every interleaving of
any number of reads, waits, orphaned sends and other threads' calls of
`update_last_known_state`:

* the tracker has only moved up (`HistMono`);
* a send that ended met the tracker after its read was issued, raised no `TransactionExpired`,
  and a body it returned carries integer ledger fields, which the tracker accepted and then held
  unless the read lets stale responses through (`SendInv`);
* a read that returned a value took it from such a body, and one that returned `None` without a
  body ran under `max_retries ≤ 0` (`PhaseInv`);
* a wait's lookup, in progress or of its last iteration, is a read of the client like any
  other, and the tracker read before it is the tracker of the step that issued it; a wait that
  raised `TransactionExpired` did so on the tracker read of its last iteration, at or past its
  own expiration, the lookup having returned `None` (`WaitInv`).

`Inv.step` keeps it over one step, from one lemma per kind of thread step; each of those uses
the spec lemma of the function the step runs (`sendHttpRequest_int`, `Retry.next_eq_ret`,
`afterLookup_eq_expired`, ...).  `execute_result_accepted` and
`waitForTransaction2_expired_accepted` read the two properties off it for a `Retry` whose loop
runs at least once, over the callers' reads and the waits' lookups alike.  The runs after them
reach a read that returned a value and a wait that raised `TransactionExpired`, and show what a
read that lets stale responses through, and a `Retry` with `max_retries = 0`, do instead.
-/

namespace DiemJsonRpc

variable {α : Type}

/-! ## The invariant -/

/-- The tracker has only moved up, up to step `now`. -/
def HistMono (hist : ℕ → Ledger) (now : ℕ) : Prop :=
  ∀ i j, i ≤ j → j ≤ now → hist i ≤ hist j

/-- What a send that ended tells, in a read issued at `issuedAt` whose flag `ignore` says
whether stale responses are let through. -/
structure SendInv (hist : ℕ → Ledger) (now issuedAt : ℕ) (ignore : Bool) (sr : SendResult) :
    Prop where
  issued_le : issuedAt ≤ sr.stamp
  lt_now : sr.stamp < now
  not_expired : ∀ e, sr.sent = .error e → e.isTransactionExpired = false
  accepted : ∀ json, sr.sent = .ok json → ∃ L, ledgerOf json = some L ∧
    (ignore = false → (hist sr.stamp).Accepts L ∧ hist (sr.stamp + 1) = L)

/-- What the phase of the read `R` tells. -/
def PhaseInv (cfg : Config) (hist : ℕ → Ledger) (now : ℕ) (R : Read α) : ReadPhase α → Prop
  | .idle tries => tries = 0 ∨ (tries : ℤ) < cfg.retry.maxRetries
  | .sending _ a =>
    ∀ sr ∈ a.ended, SendInv hist now R.issuedAt (R.ignoreStaleResponse.getD false) sr
  | .done result source returnedAt => returnedAt < now ∧
      (∀ sr ∈ source,
        SendInv hist now R.issuedAt (R.ignoreStaleResponse.getD false) sr ∧ sr.stamp < returnedAt) ∧
      (∀ e, result = .error e → e.isTransactionExpired = false) ∧
      (result = .ok none → cfg.retry.maxRetries ≤ 0) ∧
      (∀ v, result = .ok (some v) → ∃ sr json, source = some sr ∧ sr.sent = .ok json ∧
        finishAttempt R.resultParser (.ok json) = .ok v)

/-- What a read tells. -/
structure ReadInv (cfg : Config) (hist : ℕ → Ledger) (now : ℕ) (R : Read α) : Prop where
  issued_le : R.issuedAt ≤ now
  phase : PhaseInv cfg hist now R R.phase

/-- A lookup of `wait_for_transaction2`: `get_account_transaction` parses a transaction and
keeps stale responses out. -/
def IsLookup (cfg : Config) (R : Read (Option Transaction)) : Prop :=
  R.resultParser = some (parseObj cfg.parseTransaction) ∧ R.ignoreStaleResponse = none

/-- What the tracker read `state` and the lookup `R` of an iteration tell: the tracker was read
at the step that issued the lookup, which is a lookup with its own invariant. -/
def LookupInv (cfg : Config) (hist : ℕ → Ledger) (now : ℕ) (state : Ledger)
    (R : Read (Option Transaction)) : Prop :=
  state = hist R.issuedAt ∧ IsLookup cfg R ∧ ReadInv cfg hist now R

/-- What a `TransactionExpired(st, e)` a wait with arguments `args` raised tells of its last
iteration: `st` is its tracker read, `e` the wait's own expiration, which the read is at or
past, and its lookup returned `None`. -/
def ExpiredBy (args : WaitArgs) (st : State) (e : ℤ) :
    Option (Ledger × Read (Option Transaction)) → Prop
  | none => False
  | some (state, R) => st = state.toState ∧ e = args.expirationTimeSecs ∧
      args.expirationTimeSecs * 1000000 ≤ state.timestampUsecs ∧
      ∃ r source returnedAt, R.phase = .done (.ok r) source returnedAt ∧ r.join.join = none

/-- What a wait tells. -/
def WaitInv (cfg : Config) (hist : ℕ → Ledger) (now : ℕ) (W : Wait) : Prop :=
  match W.phase with
  | .polling => True
  | .lookingUp state R => LookupInv cfg hist now state R
  | .done result last => (∀ state R, last = some (state, R) → LookupInv cfg hist now state R) ∧
    ∀ st e, result = .error (.transactionExpired st e) → ExpiredBy W.args st e last

/-- What every reachable state satisfies. -/
structure Inv (cfg : Config) (s : Sys α) : Prop where
  mono : HistMono s.hist s.now
  reads : ∀ R ∈ s.reads, ReadInv cfg s.hist s.now R
  waits : ∀ W ∈ s.waits, WaitInv cfg s.hist s.now W

/-! ## A step leaves the record up to `now` as it was -/

section Push

variable {cfg : Config} {hist : ℕ → Ledger} {now : ℕ} (l' : Ledger)

lemma HistMono.push (h : HistMono hist now) (hle : hist now ≤ l') :
    HistMono (pushHist hist now l') (now + 1) := by
  intro i j hij hj
  by_cases hjn : j ≤ now
  · rw [pushHist_of_le _ (hij.trans hjn), pushHist_of_le _ hjn]
    exact h i j hij hjn
  · obtain rfl : j = now + 1 := by omega
    rw [pushHist_succ]
    by_cases hin : i ≤ now
    · rw [pushHist_of_le _ hin]
      exact (h i now hin le_rfl).trans hle
    · obtain rfl : i = now + 1 := by omega
      rw [pushHist_succ]

lemma SendInv.push {issuedAt : ℕ} {ignore : Bool} {sr : SendResult}
    (h : SendInv hist now issuedAt ignore sr) :
    SendInv (pushHist hist now l') (now + 1) issuedAt ignore sr where
  issued_le := h.issued_le
  lt_now := by have := h.lt_now; omega
  not_expired := h.not_expired
  accepted json hj := by
    obtain ⟨L, hL, hacc⟩ := h.accepted json hj
    have := h.lt_now
    rw [pushHist_of_le _ (by omega), pushHist_of_le _ (by omega)]
    exact ⟨L, hL, hacc⟩

lemma PhaseInv.push {R : Read α} {phase : ReadPhase α} (h : PhaseInv cfg hist now R phase) :
    PhaseInv cfg (pushHist hist now l') (now + 1) R phase := by
  cases phase with
  | idle => exact h
  | sending _ a => exact fun sr hsr => (h sr hsr).push l'
  | done result source returnedAt =>
    obtain ⟨hlt, hsrc, hexp, hnone, hsome⟩ := h
    exact ⟨by omega, fun sr hsr => ⟨(hsrc sr hsr).1.push l', (hsrc sr hsr).2⟩, hexp, hnone, hsome⟩

lemma ReadInv.push {R : Read α} (h : ReadInv cfg hist now R) :
    ReadInv cfg (pushHist hist now l') (now + 1) R :=
  ⟨by have := h.issued_le; omega, h.phase.push l'⟩

lemma LookupInv.push {state : Ledger} {R : Read (Option Transaction)}
    (h : LookupInv cfg hist now state R) : LookupInv cfg (pushHist hist now l') (now + 1) state R :=
  ⟨by rw [pushHist_of_le _ h.2.2.issued_le]; exact h.1, h.2.1, h.2.2.push l'⟩

lemma WaitInv.push {W : Wait} (h : WaitInv cfg hist now W) :
    WaitInv cfg (pushHist hist now l') (now + 1) W := by
  unfold WaitInv at h ⊢
  split at h
  · trivial
  · exact h.push l'
  · exact ⟨fun state R hl => (h.1 state R hl).push l', h.2⟩

lemma Inv.advance {s : Sys α} (h : Inv cfg s) (hle : s.tracker ≤ l') : Inv cfg (s.advance l') :=
  ⟨h.mono.push l' hle, fun R hR => (h.reads R hR).push l', fun W hW => (h.waits W hW).push l'⟩

end Push

/-! ## One step of a thread -/

section Steps

variable {cfg : Config} {hist : ℕ → Ledger} {now : ℕ}

lemma ReadInv.phase_of_eq {R : Read α} (hR : ReadInv cfg hist now R) {p : ReadPhase α}
    (hp : R.phase = p) : PhaseInv cfg hist now R p :=
  hp ▸ hR.phase

lemma WaitInv.lookingUp {W : Wait} (hW : WaitInv cfg hist now W) {state : Ledger}
    {R : Read (Option Transaction)} (hp : W.phase = .lookingUp state R) :
    LookupInv cfg hist now state R := by
  unfold WaitInv at hW
  rwa [hp] at hW

/-- A read's step changes its phase only. -/
lemma ReadStep.fields {tracker : Ledger} {R R' : Read α} {orphans : List Bool} {l' : Ledger}
    (h : ReadStep cfg now tracker R R' orphans l') :
    R'.resultParser = R.resultParser ∧ R'.ignoreStaleResponse = R.ignoreStaleResponse ∧
      R'.issuedAt = R.issuedAt := by
  cases h <;> exact ⟨rfl, rfl, rfl⟩

/-- The rest of a loop body keeps the invariant, given the send it took its outcome from. -/
lemma afterSend_inv {R : Read α} {tries : ℕ} {sent : Except PyException Body}
    {source : Option SendResult}
    (hsrc : ∀ sr ∈ source, SendInv hist (now + 1) R.issuedAt (R.ignoreStaleResponse.getD false) sr ∧
      sr.stamp < now)
    (hsent : ∀ json, sent = .ok json → ∃ sr, source = some sr ∧ sr.sent = sent)
    (hexp : ∀ e, sent = .error e → e.isTransactionExpired = false) :
    PhaseInv cfg hist (now + 1) R (afterSend cfg R.resultParser tries sent source now) := by
  unfold afterSend
  rcases hn : cfg.retry.next (tries + 1) (finishAttempt R.resultParser sent) with a | e | secs
  · have hfa := Retry.next_eq_ret hn
    obtain ⟨json, rfl⟩ := finishAttempt_eq_ok hfa
    obtain ⟨sr, rfl, hsr⟩ := hsent json rfl
    refine ⟨by omega, hsrc, fun _ he => (by cases he), fun he => (by cases he), fun v hv => ?_⟩
    cases hv
    exact ⟨sr, json, rfl, hsr, hfa⟩
  · refine ⟨by omega, hsrc, fun e' he => ?_, fun he => (by cases he), fun v hv => by cases hv⟩
    cases he
    exact (finishAttempt_eq_error (Retry.next_eq_raise hn)).elim (hexp _)
      fun h => (PyException.ofHandling_classes h).1
  · have hlt := Retry.next_eq_retryAfter hn
    dsimp only
    rcases hs : timeSleep secs with e | _ <;> dsimp only
    · refine ⟨by omega, hsrc, fun e' he => ?_, fun he => (by cases he), fun v hv => by cases hv⟩
      cases he
      rcases timeSleep_eq_error hs with ⟨_, rfl⟩ | rfl <;> rfl
    · exact Or.inr (by exact_mod_cast hlt)

/-- A read's step keeps its invariant, and moves the tracker only up. -/
lemma ReadStep.inv {R R' : Read α} {orphans : List Bool} {l' : Ledger}
    (hstep : ReadStep cfg now (hist now) R R' orphans l') (hR : ReadInv cfg hist now R) :
    hist now ≤ l' ∧ ReadInv cfg (pushHist hist now l') (now + 1) R' := by
  have hissued := hR.issued_le
  cases hstep with
  | enterDirect | enterBackups =>
    exact ⟨le_rfl, Nat.le_succ_of_le hissued, fun sr hsr => by simp [Attempt.ended] at hsr⟩
  | enterNoBackups hp =>
    exact ⟨le_rfl, Nat.le_succ_of_le hissued, afterSend_inv (fun _ h => by cases h) (fun _ h => by cases h)
      (fun _ h => by cases h; rfl)⟩
  | @fallOff tries hp hge =>
    have hidle : tries = 0 ∨ (tries : ℤ) < cfg.retry.maxRetries := hR.phase_of_eq hp
    exact ⟨le_rfl, Nat.le_succ_of_le hissued, by omega, fun _ h => (by cases h),
      fun _ h => (by cases h), fun _ => by omega, fun _ h => by cases h⟩
  | @send tries a backup http l' hp hrun hint hs =>
    obtain ⟨l'', hl'', hle, hacc⟩ :=
      sendHttpRequest_int (R.ignoreStaleResponse.getD false) hint (hist now)
    obtain rfl : l'' = l' := Ledger.toState_injective (hl''.symm.trans hs)
    refine ⟨hle, Nat.le_succ_of_le hissued, fun sr hsr => ?_⟩
    rcases Attempt.mem_ended_finish hsr with rfl | hold
    · refine ⟨hissued, Nat.lt_succ_self now, fun e he => ?_, fun json hj => ?_⟩
      · rcases sendHttpRequest_eq_error he with h | ⟨⟨_, rfl⟩, -⟩
        · exact (PyException.ofHandling_classes h).1
        · rfl
      obtain ⟨L, hL, hL'⟩ := hacc json hj
      rw [pushHist_of_le _ le_rfl, pushHist_succ]
      exact ⟨L, hL, hL'⟩
    · exact (hR.phase_of_eq hp sr hold).push l''
  | @resolve tries a sr first hp hout =>
    have hsr := hR.phase_of_eq hp sr (Attempt.outcome_mem hout)
    exact ⟨le_rfl, Nat.le_succ_of_le hissued, afterSend_inv
      (fun sr' h => by cases h; exact ⟨hsr.push _, hsr.lt_now⟩)
      (fun _ _ => ⟨sr, rfl, rfl⟩) hsr.not_expired⟩

/-- The body after a lookup keeps the wait's invariant. -/
lemma afterLookupPhase_inv {W : Wait} {state : Ledger} {R : Read (Option Transaction)}
    {result : Except PyException (Option (Option (Option Transaction)))}
    {source : Option SendResult} {returnedAt : ℕ} (hlookup : LookupInv cfg hist now state R)
    (hdone : R.phase = .done result source returnedAt) :
    WaitInv cfg (pushHist hist now (hist now)) (now + 1)
      { W with phase := afterLookupPhase cfg W state R result } := by
  have hphase := hlookup.2.2.phase_of_eq hdone
  have hlast : ∀ state' R', some (state, R) = some (state', R') →
      LookupInv cfg (pushHist hist now (hist now)) (now + 1) state' R' := by
    rintro _ _ ⟨⟩
    exact hlookup.push _
  unfold WaitInv afterLookupPhase
  rcases result with e | txn
  · refine ⟨hlast, fun st e' he => ?_⟩
    cases he
    cases hphase.2.2.1 _ rfl
  · dsimp only
    rcases hal : afterLookup cfg.constants W.args state.toState txn.join.join with _ | r
    · dsimp only
      rcases hs : timeSleep (pyOr W.args.waitDurationSecs
          cfg.constants.defaultWaitForTransactionWaitDurationSecs) with e | _
      · refine ⟨hlast, fun st e' he => ?_⟩
        cases he
        rcases timeSleep_eq_error hs with ⟨_, h⟩ | h <;> cases h
      · trivial
    · refine ⟨hlast, fun st e' he => ?_⟩
      subst he
      obtain ⟨htxn, rfl, rfl, hle⟩ := afterLookup_eq_expired hal
      exact ⟨rfl, rfl, by simpa [Ledger.toState] using hle, txn, source, returnedAt, hdone, htxn⟩

/-- A wait's step keeps its invariant, and moves the tracker only up. -/
lemma WaitStep.inv {W W' : Wait} {orphans : List Bool} {l' : Ledger}
    (hstep : WaitStep cfg now (hist now) W W' orphans l') (hW : WaitInv cfg hist now W) :
    hist now ≤ l' ∧ WaitInv cfg (pushHist hist now l') (now + 1) W' := by
  cases hstep with
  | poll reading hp _ =>
    refine ⟨le_rfl, ?_⟩
    show (hist now = pushHist hist now (hist now) now) ∧ _ ∧ _
    exact ⟨(pushHist_of_le _ le_rfl).symm, ⟨rfl, rfl⟩, le_of_lt (Nat.lt_succ_self now), .inl rfl⟩
  | timeout reading reading' hp _ =>
    exact ⟨le_rfl, fun _ _ h => (by cases h), fun st e he => by cases he⟩
  | @lookup state R R' _ _ hp hrs =>
    obtain ⟨hstate, hlookup, hR⟩ := hW.lookingUp hp
    obtain ⟨hle, hR'⟩ := hrs.inv hR
    obtain ⟨hpar, hign, hiss⟩ := hrs.fields
    refine ⟨hle, show LookupInv _ _ _ _ _ from ⟨?_, ?_, hR'⟩⟩
    · rw [hiss, pushHist_of_le _ hR.issued_le]
      exact hstate
    · rw [IsLookup, hpar, hign]
      exact hlookup
  | @decide state R result source returnedAt hp hdone =>
    exact ⟨le_rfl, afterLookupPhase_inv (hW.lookingUp hp) hdone⟩

end Steps

/-! ## Every reachable state -/

lemma Inv.step {cfg : Config} {s s' : Sys α} (h : Inv cfg s) (hstep : Step cfg s s') :
    Inv cfg s' := by
  cases hstep with
  | issue resultParser ignoreStaleResponse =>
    exact Inv.advance _ ⟨h.mono, List.forall_mem_append.2
      ⟨h.reads, List.forall_mem_singleton.2 ⟨le_rfl, Or.inl rfl⟩⟩, h.waits⟩ le_rfl
  | @read i R R' orphans l' hi hrs =>
    obtain ⟨hle, hR'⟩ := hrs.inv (h.reads R (List.getElem?_mem hi))
    refine ⟨h.mono.push l' hle, fun R₁ hR₁ => ?_, fun W hW => (h.waits W hW).push l'⟩
    rcases List.mem_or_eq_of_mem_set hR₁ with hR₁ | rfl
    · exact (h.reads R₁ hR₁).push l'
    · exact hR'
  | issueWait args startTime =>
    exact Inv.advance _ ⟨h.mono, h.reads,
      List.forall_mem_append.2 ⟨h.waits, List.forall_mem_singleton.2 trivial⟩⟩ le_rfl
  | @wait i W W' orphans l' hi hws =>
    obtain ⟨hle, hW'⟩ := hws.inv (h.waits W (List.getElem?_mem hi))
    refine ⟨h.mono.push l' hle, fun R hR => (h.reads R hR).push l', fun W₁ hW₁ => ?_⟩
    rcases List.mem_or_eq_of_mem_set hW₁ with hW₁ | rfl
    · exact (h.waits W₁ hW₁).push l'
    · exact hW'
  | @orphan j ignore http l' _ hint hs =>
    obtain ⟨l'', hl'', hle, -⟩ := sendHttpRequest_int ignore hint s.tracker
    obtain rfl : l'' = l' := Ledger.toState_injective (hl''.symm.trans hs)
    exact Inv.advance _ ⟨h.mono, h.reads, h.waits⟩ hle
  | @update c v t l' hs =>
    obtain ⟨l'', hl'', hle⟩ := updateLastKnownState_step s.tracker c v t
    obtain rfl : l'' = l' := Ledger.toState_injective (hl''.symm.trans hs)
    exact h.advance _ hle

theorem Reachable.inv {cfg : Config} {s : Sys α} (hs : Reachable cfg s) : Inv cfg s := by
  induction hs with
  | refl => exact ⟨fun _ _ _ _ => le_rfl, fun _ h => (by cases h), fun _ h => by cases h⟩
  | tail _ hstep ih => exact ih.step hstep

/-! ## The two properties -/

/-- The read returned a value at step `t`, taken from the body `json` of a send that met the
tracker at step `stamp`. -/
def Read.ReturnedFrom (R : Read α) (t : ℕ) (json : Body) (stamp : ℕ) : Prop :=
  ∃ r sr, R.phase = .done (.ok r) (some sr) t ∧ sr.sent = .ok json ∧ sr.stamp = stamp

/-- The lookup a wait holds: that of the iteration in progress, or that of its last one. -/
def Wait.lookup? (W : Wait) : Option (Read (Option Transaction)) :=
  match W.phase with
  | .lookingUp _ R => some R
  | .done _ (some (_, R)) => some R
  | _ => none

/-- A read of the client that keeps stale responses out, a caller's or a wait's lookup, was
issued at step `issuedAt` and returned at `t` a value made from the body `json` that met the
tracker at `stamp`. -/
def Sys.Returned (s : Sys α) (issuedAt t : ℕ) (json : Body) (stamp : ℕ) : Prop :=
  (∃ R ∈ s.reads, R.ignoreStaleResponse.getD false = false ∧ R.issuedAt = issuedAt ∧
      R.ReturnedFrom t json stamp) ∨
    ∃ W ∈ s.waits, ∃ R ∈ W.lookup?, R.ignoreStaleResponse.getD false = false ∧
      R.issuedAt = issuedAt ∧ R.ReturnedFrom t json stamp

/-- Every `TransactionExpired` a wait raised comes from its last iteration: the tracker read,
taken before the lookup, is the one the exception carries, the expiration it carries is the
wait's own, and the lookup returned `None` from a body that `update_last_known_state` accepted
and whose `diem_ledger_timestampusec` is at or past `expiration_time_secs * 1_000_000`. -/
def ExpiryJustified (cfg : Config) (s : Sys α) : Prop :=
  ∀ W ∈ s.waits, ∀ st e last, W.phase = .done (.error (.transactionExpired st e)) last →
    ∃ state R t json stamp v L, last = some (state, R) ∧ st = state.toState ∧
      e = W.args.expirationTimeSecs ∧ s.hist R.issuedAt = state ∧ IsLookup cfg R ∧
      R.ReturnedFrom t json stamp ∧ finishAttempt R.resultParser (.ok json) = .ok v ∧
      v.join = none ∧ ledgerOf json = some L ∧
      (updateLastKnownState (.int L.chainId) (.int L.version) (.int L.timestampUsecs)
        (s.hist stamp).toState).1 = .ok () ∧
      W.args.expirationTimeSecs * 1000000 ≤ L.timestampUsecs

section Properties

variable {cfg : Config} {hist : ℕ → Ledger} {now : ℕ}

/-- A body a send returned, in a read that keeps stale responses out, was accepted by the
tracker it met, which then held it. -/
lemma SendInv.accepted_of_ok {issuedAt : ℕ} {sr : SendResult} {json : Body}
    (h : SendInv hist now issuedAt false sr) (hj : sr.sent = .ok json) :
    ∃ L, ledgerOf json = some L ∧
      (updateLastKnownState (.int L.chainId) (.int L.version) (.int L.timestampUsecs)
        (hist sr.stamp).toState).1 = .ok () ∧ hist sr.stamp ≤ L ∧ hist (sr.stamp + 1) = L := by
  obtain ⟨L, hL, hacc⟩ := h.accepted json hj
  obtain ⟨hacc, hheld⟩ := hacc rfl
  exact ⟨L, hL, congrArg Prod.fst (updateLastKnownState_ok_iff.2 ⟨hacc, rfl⟩),
    Ledger.le_of_accepts hacc, hheld⟩

/-- A read that returned took its outcome from a send that ended before. -/
lemma ReadInv.source {R : Read α} (hR : ReadInv cfg hist now R)
    {result : Except PyException (Option (Option α))} {sr : SendResult} {t : ℕ}
    (hd : R.phase = .done result (some sr) t) :
    SendInv hist now R.issuedAt (R.ignoreStaleResponse.getD false) sr ∧ sr.stamp < t :=
  (hR.phase_of_eq hd).2.1 sr rfl

/-- Under a `Retry` whose loop runs, a read that returned a value made it from a body its last
attempt took. -/
lemma ReadInv.returned {R : Read α} (hR : ReadInv cfg hist now R)
    (hretry : 1 ≤ cfg.retry.maxRetries) {r : Option (Option α)} {source : Option SendResult}
    {t : ℕ} (hd : R.phase = .done (.ok r) source t) :
    ∃ v sr json, r = some v ∧ source = some sr ∧ sr.sent = .ok json ∧
      finishAttempt R.resultParser (.ok json) = .ok v := by
  obtain ⟨-, -, -, hnone, hsome⟩ := hR.phase_of_eq hd
  rcases r with _ | v
  · exact absurd (hnone rfl) (by omega)
  · obtain ⟨sr, json, hsrc, hj, hfa⟩ := hsome v rfl
    exact ⟨v, sr, json, rfl, hsrc, hj, hfa⟩

/-- Where the body of a returned value stands against the tracker, the read's type forgotten:
above the tracker it met, held by the tracker right after, and met between the read's issue and
return. -/
lemma ReadInv.held {R : Read α} (hR : ReadInv cfg hist now R)
    (hflag : R.ignoreStaleResponse.getD false = false) {t stamp : ℕ} {json : Body}
    (h : R.ReturnedFrom t json stamp) {L : Ledger} (hL : ledgerOf json = some L) :
    hist stamp ≤ L ∧ hist (stamp + 1) = L ∧ R.issuedAt ≤ stamp ∧ stamp < t ∧ stamp < now := by
  obtain ⟨r, sr, hd, hj, rfl⟩ := h
  obtain ⟨hsend, hlt⟩ := hR.source hd
  rw [hflag] at hsend
  obtain ⟨L', hL', -, hle, hheld⟩ := hsend.accepted_of_ok hj
  obtain rfl : L' = L := Option.some_injective _ (hL'.symm.trans hL)
  exact ⟨hle, hheld, hsend.issued_le, hlt, hsend.lt_now⟩

lemma WaitInv.lookup {W : Wait} (hW : WaitInv cfg hist now W) {R : Read (Option Transaction)}
    (hR : R ∈ W.lookup?) : ∃ state, LookupInv cfg hist now state R := by
  unfold Wait.lookup? at hR
  unfold WaitInv at hW
  split at hR <;> rename_i hp
  · rw [hp] at hW
    cases hR
    exact ⟨_, hW⟩
  · rw [hp] at hW
    cases hR
    exact ⟨_, hW.1 _ _ rfl⟩
  · cases hR

lemma Inv.returned {s : Sys α} (hinv : Inv cfg s) {i t stamp : ℕ} {json : Body}
    (h : s.Returned i t json stamp) {L : Ledger} (hL : ledgerOf json = some L) :
    s.hist stamp ≤ L ∧ s.hist (stamp + 1) = L ∧ i ≤ stamp ∧ stamp < t ∧ stamp < s.now := by
  rcases h with ⟨R, hR, hflag, rfl, hret⟩ | ⟨W, hW, R, hR, hflag, rfl, hret⟩
  · exact (hinv.reads R hR).held hflag hret hL
  · obtain ⟨_, hlook⟩ := (hinv.waits W hW).lookup hR
    exact hlook.2.2.held hflag hret hL

end Properties

/-- The configuration of the runs below: `Retry(1, 0.1, StaleResponseError)` under
`RequestStrategy`, a transaction parser that finds nothing. -/
def oneAttempt : Config :=
  ⟨⟨1, 0.1, PyException.isStaleResponseError⟩, .direct,
    ⟨30, 1, "executed", "parent_vasp", "child_vasp"⟩, fun _ => .error "no transaction"⟩

/-- The tracker of a fresh client moved to `l` by another thread's `update_last_known_state`. -/
lemma Sys.update_init (cfg : Config) (l : Ledger) (h : Ledger.unknown.Accepts l) :
    Step cfg (Sys.init : Sys α) ((Sys.init : Sys α).advance l) :=
  Step.update _ l.chainId l.version l.timestampUsecs
    (congrArg Prod.snd (updateLastKnownState_ok_iff.2 ⟨h, rfl⟩))

/-- For every client whose `Retry` makes at least one attempt, under either request strategy,
over every interleaving with any other calls on the client, with every response body carrying
integer ledger fields: whenever `wait_for_transaction2` raises `TransactionExpired`, the lookup
of that same iteration returned `None` from a response that `update_last_known_state` accepted
and whose `diem_ledger_timestampusec` is at least the wait's `expiration_time_secs * 1_000_000`,
which is the expiration the exception carries. -/
theorem waitForTransaction2_expired_accepted (cfg : Config) (hretry : 1 ≤ cfg.retry.maxRetries)
    {s : Sys α} (hs : Reachable cfg s) : ExpiryJustified cfg s := by
  have hinv := hs.inv
  intro W hW st e last hd
  have hw := hinv.waits W hW
  unfold WaitInv at hw
  rw [hd] at hw
  rcases last with _ | ⟨state, R⟩
  · exact False.elim (hw.2 st e rfl)
  obtain ⟨hstate, hlook, hR⟩ := hw.1 state R rfl
  obtain ⟨hst, rfl, hpast, r, source, t, hdone, hnone⟩ := hw.2 st e rfl
  obtain ⟨v, sr, json, rfl, rfl, hj, hfa⟩ := hR.returned hretry hdone
  obtain ⟨hsend, -⟩ := hR.source hdone
  rw [hlook.2] at hsend
  obtain ⟨L, hL, hupd, hle, -⟩ := hsend.accepted_of_ok hj
  have hmono : s.hist R.issuedAt ≤ s.hist sr.stamp :=
    hinv.mono _ _ hsend.issued_le (le_of_lt hsend.lt_now)
  refine ⟨state, R, t, json, sr.stamp, v, L, rfl, hst, rfl, hstate.symm, hlook,
    ⟨_, sr, hdone, hj, rfl⟩, hfa, by simpa using hnone, hL, hupd, ?_⟩
  calc W.args.expirationTimeSecs * 1000000 ≤ state.timestampUsecs := hpast
    _ ≤ (s.hist sr.stamp).timestampUsecs := by rw [hstate]; exact (Ledger.le_def.1 hmono).2.1
    _ ≤ L.timestampUsecs := (Ledger.le_def.1 hle).2.1

/-- A wait for a transaction expiring at second `0`, on a tracker another thread moved to
timestamp `1000`: its lookup's answer has no transaction, at the same ledger position, and the
wait raises `TransactionExpired`. -/
theorem waitForTransaction2_expired_accepted_sample :
    1 ≤ oneAttempt.retry.maxRetries ∧ ∃ s : Sys Unit, Reachable oneAttempt s ∧
      (∃ W ∈ s.waits, ∃ st e last, W.phase = .done (.error (.transactionExpired st e)) last) ∧
      ExpiryJustified oneAttempt s := by
  have hs : Reachable oneAttempt _ :=
    .tail (.tail (.tail (.tail (.tail (.tail (.tail .refl
      (Sys.update_init _ ⟨2, 10, 1000⟩ (by decide)))
      (Step.issueWait _ ⟨0, "a1b2", none, none⟩ 0))
      (@Step.wait Unit _ _ 0 ⟨⟨0, "a1b2", none, none⟩, 0, .polling⟩ _ _ _ rfl
        (WaitStep.poll 0 rfl (by decide))))
      (@Step.wait Unit _ _ 0 _ _ _ _ rfl
        (WaitStep.lookup rfl (ReadStep.enterDirect rfl (by decide) rfl))))
      (@Step.wait Unit _ _ 0 _ _ _ _ rfl (WaitStep.lookup rfl (ReadStep.send false
        (.response 200 "" (some (.object (envelopeWith .null))) 100) rfl rfl
        (intLedgerFields_of_object "" 100 (L := ⟨2, 10, 1000⟩) rfl)
        (show _ = (⟨2, 10, 1000⟩ : Ledger).toState from rfl)))))
      (@Step.wait Unit _ _ 0 _ _ _ _ rfl (WaitStep.lookup rfl (ReadStep.resolve false rfl rfl))))
      (@Step.wait Unit _ _ 0 _ _ _ _ rfl (WaitStep.decide rfl rfl))
  exact ⟨by decide, _, hs, ⟨_, List.mem_singleton_self _, _, _, _, rfl⟩,
    waitForTransaction2_expired_accepted oneAttempt (by decide) hs⟩

/-- A client whose `Retry` has `max_retries = 0`: another thread's call moves the tracker to
timestamp `5_000_000` (a `submit`'s response, say); a wait for a transaction expiring at second
`1` reads it, its lookup returns `None` without a request, and the wait raises
`TransactionExpired` though no response of its own was seen. -/
theorem waitForTransaction2_expired_without_response :
    ∃ s : Sys Unit,
      Reachable ⟨⟨0, 0.1, PyException.isStaleResponseError⟩, .direct,
        ⟨30, 1, "executed", "parent_vasp", "child_vasp"⟩, fun _ => .error "no transaction"⟩ s ∧
      ∃ W ∈ s.waits, ∃ R t, W.phase = .done (.error (.transactionExpired
          (⟨2, 10, 5000000⟩ : Ledger).toState 1)) (some (⟨2, 10, 5000000⟩, R)) ∧
        R.phase = .done (.ok none) none t := by
  refine ⟨_, .tail (.tail (.tail (.tail (.tail .refl
    (Sys.update_init _ ⟨2, 10, 5000000⟩ (by decide)))
    (Step.issueWait _ ⟨1, "a1b2", none, none⟩ 0))
    (@Step.wait Unit _ _ 0 ⟨⟨1, "a1b2", none, none⟩, 0, .polling⟩ _ _ _ rfl
      (WaitStep.poll 0 rfl (by decide))))
    (@Step.wait Unit _ _ 0 _ _ _ _ rfl (WaitStep.lookup rfl (ReadStep.fallOff rfl (by decide)))))
    (@Step.wait Unit _ _ 0 _ _ _ _ rfl (WaitStep.decide rfl rfl)), ?_⟩
  exact ⟨_, List.mem_singleton_self _, _, _, rfl, rfl⟩

end DiemJsonRpc
