import DiemJsonRpc.Concurrency.Refinement

/-!
# Where a returned value comes from, whatever the read's flag

`Concurrency/Invariant.lean` follows the bodies of reads that keep stale responses out.
`ignore_stale_response=True` lets a stale body through `_send_http_request`, and only a stale
one: `update_last_known_state` compares chain ids before versions, and the
`InvalidServerResponse` of a mismatch is raised whatever the flag (`sendHttpRequest_chain`).
`ChainInv` records this for every send every read holds, and it holds in every state a shared
client reaches (`Reachable.chainInv`).  So no read, whatever its flag, returns a value made from
a body of another chain than one the client had learned when the body arrived
(`execute_result_same_chain`).

A wait that returns a transaction decided on the lookup of its last iteration, and the lookup's
own invariant is carried past the decision (`WaitReturned`, `Reachable.waitReturned`):
`waitForTransaction2_returned_accepted` reads off it that the transaction has the hash asked
for and the executed status, and was parsed from a body the tracker accepted after the
iteration read it.
-/

namespace DiemJsonRpc

variable {α : Type}

/-! ## Chain ids -/

/-- A body `_send_http_request` returns, stale or not, carries the chain id of the tracker it
met, unless that tracker knew none. -/
lemma sendHttpRequest_chain (ignore : Bool) {http : HttpOutcome} (hint : IntLedgerFields http)
    (l : Ledger) {json : Body} (h : (sendHttpRequest ignore http l.toState).1 = .ok json) :
    ∃ L, ledgerOf json = some L ∧ (l.chainId = -1 ∨ l.chainId = L.chainId) := by
  unfold sendHttpRequest at h
  rcases hpost : postJson http with e | body <;> simp only [hpost] at h
  · cases h
  rcases hitems : body.items? with _ | json' <;> simp only [hitems] at h
  · cases h
  obtain ⟨L, hL⟩ := hint body json' hpost hitems
  obtain ⟨hc, hv, ht⟩ := ledgerOf_eq_some hL
  rw [hc, hv, ht, updateLastKnownState_ledger] at h
  by_cases hch : l.chainId ≠ -1 ∧ l.chainId ≠ L.chainId
  · rw [if_pos hch] at h
    cases h
  · refine ⟨L, ?_, by omega⟩
    rw [if_neg hch] at h
    split_ifs at h <;> cases h <;> exact hL

/-- A send that ended before step `now` met a tracker that knew no chain id, or its body's. -/
def SameChain (hist : ℕ → Ledger) (now : ℕ) (sr : SendResult) : Prop :=
  sr.stamp < now ∧ ∀ json, sr.sent = .ok json → ∃ L, ledgerOf json = some L ∧
    ((hist sr.stamp).chainId = -1 ∨ (hist sr.stamp).chainId = L.chainId)

/-- The sends a read's phase holds: those of the attempt it waits on that have ended, and the
one its outcome came from. -/
def ReadPhase.sends : ReadPhase α → List SendResult
  | .idle _ => []
  | .sending _ a => a.ended
  | .done _ source _ => source.toList

/-- Every send every read holds agrees on the chain. -/
def ChainInv (s : Sys α) : Prop :=
  ∀ R ∈ s.reads, ∀ sr ∈ R.phase.sends, SameChain s.hist s.now sr

lemma SameChain.push {hist : ℕ → Ledger} {now : ℕ} {sr : SendResult} (l' : Ledger)
    (h : SameChain hist now sr) : SameChain (pushHist hist now l') (now + 1) sr := by
  obtain ⟨hlt, hok⟩ := h
  exact ⟨by omega, by rw [pushHist_of_le _ hlt.le]; exact hok⟩

/-- The rest of a loop body holds no send but the one it took its outcome from. -/
lemma afterSend_sends {cfg : Config} {resultParser : Option (JsonValue → Except String α)}
    {tries : ℕ} {sent : Except PyException Body} {source : Option SendResult} {now : ℕ}
    {sr : SendResult} (h : sr ∈ (afterSend cfg resultParser tries sent source now).sends) :
    sr ∈ source := by
  unfold afterSend at h
  split at h
  · exact Option.mem_toList.1 h
  · exact Option.mem_toList.1 h
  · split at h
    · exact Option.mem_toList.1 h
    · cases h

/-- A read's step keeps its sends on the chain. -/
lemma ReadStep.sameChain {cfg : Config} {hist : ℕ → Ledger} {now : ℕ} {R R' : Read α}
    {orphans : List Bool} {l' : Ledger} (hstep : ReadStep cfg now (hist now) R R' orphans l')
    (hR : ∀ sr ∈ R.phase.sends, SameChain hist now sr) :
    ∀ sr ∈ R'.phase.sends, SameChain (pushHist hist now l') (now + 1) sr := by
  cases hstep with
  | enterDirect | enterBackups | fallOff =>
    intro sr hsr
    simp [ReadPhase.sends, Attempt.ended] at hsr
  | enterNoBackups => exact fun sr hsr => by cases afterSend_sends hsr
  | @send tries a backup http l' hp _ hint _ =>
    intro sr hsr
    rcases Attempt.mem_ended_finish hsr with rfl | hold
    · refine ⟨Nat.lt_succ_self now, fun json hj => ?_⟩
      rw [pushHist_of_le _ le_rfl]
      exact sendHttpRequest_chain _ hint _ hj
    · exact (hR sr (by rw [hp]; exact hold)).push l'
  | @resolve tries a sr first hp hout =>
    intro sr' hsr'
    cases afterSend_sends hsr'
    exact (hR sr (by rw [hp]; exact Attempt.outcome_mem hout)).push _

lemma ChainInv.step {cfg : Config} {s s' : Sys α} (h : ChainInv s) (hstep : Step cfg s s') :
    ChainInv s' := by
  cases hstep with
  | issue resultParser ignoreStaleResponse =>
    intro R hR sr hsr
    rcases List.mem_append.1 hR with hR | hR
    · exact (h R hR sr hsr).push _
    · obtain rfl := List.mem_singleton.1 hR
      cases hsr
  | @read i R R' orphans l' hi hrs =>
    intro R₁ hR₁
    rcases List.mem_or_eq_of_mem_set hR₁ with hR₁ | rfl
    · exact fun sr hsr => (h R₁ hR₁ sr hsr).push l'
    · exact hrs.sameChain (h R (List.getElem?_mem hi))
  | issueWait | wait | orphan | update => exact fun R hR sr hsr => (h R hR sr hsr).push _

theorem Reachable.chainInv {cfg : Config} {s : Sys α} (hs : Reachable cfg s) : ChainInv s := by
  induction hs with
  | refl => exact fun _ h => by cases h
  | tail _ hstep ih => exact ih.step hstep

/-- Every value any read returned, `ignore_stale_response=True` included, was made from a body
whose chain id is every chain id the tracker had held up to the step the body met it. -/
def ResultsOnChain (s : Sys α) : Prop :=
  ∀ R ∈ s.reads, ∀ v source t, R.phase = .done (.ok (some v)) source t →
    ∃ json stamp L, R.ReturnedFrom t json stamp ∧
      finishAttempt R.resultParser (.ok json) = .ok v ∧ ledgerOf json = some L ∧
      ∀ k ≤ stamp, (s.hist k).chainId = -1 ∨ (s.hist k).chainId = L.chainId

/-- For every client, under either request strategy and any `Retry`, over every interleaving of
reads, waits, orphaned sends and other threads' updates, with every response body carrying
integer ledger fields: no read, whatever its flag, returns a value from a server on a chain
other than one the client had learned. -/
theorem execute_result_same_chain (cfg : Config) {s : Sys α} (hs : Reachable cfg s) :
    ResultsOnChain s := by
  intro R hR v source t hd
  obtain ⟨-, -, -, -, hsome⟩ := (hs.inv.reads R hR).phase_of_eq hd
  obtain ⟨sr, json, rfl, hj, hfa⟩ := hsome v rfl
  obtain ⟨hlt, hok⟩ := hs.chainInv R hR sr (by rw [hd]; exact List.mem_singleton_self sr)
  obtain ⟨L, hL, hchain⟩ := hok json hj
  refine ⟨json, sr.stamp, L, ⟨_, sr, hd, hj, rfl⟩, hfa, hL, fun k hk => ?_⟩
  have hle := Ledger.le_def.1 (hs.inv.mono k sr.stamp hk hlt.le)
  by_cases hk1 : (s.hist k).chainId = -1
  · exact .inl hk1
  · rw [← hle.2.2 hk1]
    exact hchain

/-- Another thread has moved the tracker to version `10`; a read with
`ignore_stale_response=True` then meets the sample envelope at version `9`, lets it through,
and returns: what it returned comes from chain `2`, the chain the client knew. -/
theorem execute_result_same_chain_stale :
    let cfg : Config := ⟨⟨1, 0.1, PyException.isStaleResponseError⟩, .direct,
      ⟨30, 1, "executed", "parent_vasp", "child_vasp"⟩, fun _ => .error "no transaction"⟩
    ∃ s : Sys Unit, Reachable cfg s ∧
      (∃ R ∈ s.reads, R.ignoreStaleResponse = some true ∧ s.tracker = ⟨2, 10, 1000⟩ ∧
        ∃ source t, R.phase = .done (.ok (some none)) source t) ∧
      ResultsOnChain s := by
  intro cfg
  have hupd : (updateLastKnownState (.int 2) (.int 10) (.int 1000)
      (Sys.init : Sys Unit).tracker.toState).2 = (⟨2, 10, 1000⟩ : Ledger).toState :=
    congrArg Prod.snd (updateLastKnownState_ok_iff.2 ⟨by decide, rfl⟩)
  have hs : Reachable cfg _ :=
    .tail (.tail (.tail (.tail (.tail .refl (Step.update _ 2 10 1000 hupd))
      (Step.issue _ none (some true)))
      (@Step.read Unit cfg _ 0 _ _ _ _ rfl (ReadStep.enterDirect rfl (by decide) rfl)))
      (@Step.read Unit cfg _ 0 _ _ _ _ rfl (ReadStep.send false _ rfl rfl
        (sampleEnvelope_intLedgerFields "" 9 100)
        (show _ = (⟨2, 10, 1000⟩ : Ledger).toState from rfl))))
      (@Step.read Unit cfg _ 0 _ _ _ _ rfl (ReadStep.resolve false rfl rfl))
  exact ⟨_, hs, ⟨_, List.mem_singleton_self _, rfl, rfl, _, _, rfl⟩,
    execute_result_same_chain cfg hs⟩

/-! ## What a wait returns -/

/-- `wait_for_transaction2` returns only a transaction its lookup found, with the hash asked for
and the executed status. -/
lemma afterLookup_eq_ok {c : Constants} {a : WaitArgs} {state : State} {txn : Option Transaction}
    {txn' : Transaction} (h : afterLookup c a state txn = some (.ok txn')) :
    txn = some txn' ∧ txn'.hash = a.txnHash ∧ txn'.vmStatusType = c.vmStatusExecuted := by
  unfold afterLookup at h
  split at h
  · split_ifs at h with hh hv <;> cases h
    exact ⟨rfl, not_not.1 hh, not_not.1 hv⟩
  · split at h <;> cases h

lemma afterLookupPhase_eq_ok {cfg : Config} {W : Wait} {state : Ledger}
    {R : Read (Option Transaction)}
    {result : Except PyException (Option (Option (Option Transaction)))} {txn : Transaction}
    {last : Option (Ledger × Read (Option Transaction))}
    (h : afterLookupPhase cfg W state R result = .done (.ok txn) last) :
    ∃ r, result = .ok r ∧ last = some (state, R) ∧
      afterLookup cfg.constants W.args state.toState r.join.join = some (.ok txn) := by
  unfold afterLookupPhase at h
  rcases result with e | r
  · cases h
  · dsimp only at h
    rcases hal : afterLookup cfg.constants W.args state.toState r.join.join with _ | r' <;>
      rw [hal] at h <;> dsimp only at h
    · split at h <;> cases h
    · cases h
      exact ⟨r, rfl, rfl, hal⟩

/-- What a wait that returned a transaction tells of its last iteration: the tracker read, the
lookup with its own invariant, and the transaction it found. -/
def WaitReturned (cfg : Config) (hist : ℕ → Ledger) (now : ℕ) (W : Wait) : Prop :=
  ∀ txn last, W.phase = .done (.ok txn) last → ∃ state R r source t, last = some (state, R) ∧
    state = hist R.issuedAt ∧ IsLookup cfg R ∧ ReadInv cfg hist now R ∧
    R.phase = .done (.ok r) source t ∧ r.join.join = some txn ∧
    txn.hash = W.args.txnHash ∧ txn.vmStatusType = cfg.constants.vmStatusExecuted

section Waits

variable {cfg : Config} {hist : ℕ → Ledger} {now : ℕ}

lemma WaitReturned.push {W : Wait} (l' : Ledger) (h : WaitReturned cfg hist now W) :
    WaitReturned cfg (pushHist hist now l') (now + 1) W := by
  intro txn last hd
  obtain ⟨state, R, r, source, t, hlast, hstate, hlook, hR, hrest⟩ := h txn last hd
  exact ⟨state, R, r, source, t, hlast, by rw [pushHist_of_le _ hR.issued_le]; exact hstate,
    hlook, hR.push l', hrest⟩

/-- After a wait's step, a returned transaction tells `WaitReturned`: only the decision after a
lookup returns one, and the wait's invariant gives the lookup's. -/
lemma WaitStep.returned {W W' : Wait} {orphans : List Bool} {l' : Ledger}
    (hstep : WaitStep cfg now (hist now) W W' orphans l') (hW : WaitInv cfg hist now W) :
    WaitReturned cfg (pushHist hist now l') (now + 1) W' := by
  cases hstep with
  | poll | timeout | lookup => exact fun txn last hd => by cases hd
  | @decide state R result source returnedAt hp hdone =>
    intro txn last hd
    obtain ⟨hstate, hlookup, hR⟩ := hW.lookingUp hp
    obtain ⟨r, rfl, rfl, hal⟩ := afterLookupPhase_eq_ok hd
    obtain ⟨hfound, hhash, hexec⟩ := afterLookup_eq_ok hal
    exact ⟨state, R, r, source, returnedAt, rfl,
      by rw [pushHist_of_le _ hR.issued_le]; exact hstate, hlookup, hR.push _, hdone, hfound,
      hhash, hexec⟩

/-- Every wait of the system tells `WaitReturned`. -/
def WaitsReturned (cfg : Config) (s : Sys α) : Prop :=
  ∀ W ∈ s.waits, WaitReturned cfg s.hist s.now W

lemma WaitsReturned.step {s s' : Sys α} (hinv : Inv cfg s) (h : WaitsReturned cfg s)
    (hstep : Step cfg s s') : WaitsReturned cfg s' := by
  cases hstep with
  | issueWait args startTime =>
    intro W hW
    rcases List.mem_append.1 hW with hW | hW
    · exact (h W hW).push _
    · obtain rfl := List.mem_singleton.1 hW
      exact fun txn last hd => by cases hd
  | @wait i W W' orphans l' hi hws =>
    intro W₁ hW₁
    rcases List.mem_or_eq_of_mem_set hW₁ with hW₁ | rfl
    · exact (h W₁ hW₁).push l'
    · have hW := List.getElem?_mem hi
      exact hws.returned (hinv.waits W hW)
  | issue | read | orphan | update => exact fun W hW => (h W hW).push _

theorem Reachable.waitsReturned {s : Sys α} (hs : Reachable cfg s) : WaitsReturned cfg s := by
  induction hs with
  | refl => exact fun _ h => by cases h
  | tail hreach hstep ih => exact ih.step (Reachable.inv hreach) hstep

end Waits

/-- Every transaction a wait returned is the one asked for: its lookup, in the last iteration,
parsed it from a body that `update_last_known_state` accepted after the iteration read the
tracker, and it has the hash `txn_hash` and the executed VM status. -/
def ReturnJustified (cfg : Config) (s : Sys α) : Prop :=
  ∀ W ∈ s.waits, ∀ txn last, W.phase = .done (.ok txn) last →
    ∃ state R t json stamp v L, last = some (state, R) ∧ s.hist R.issuedAt = state ∧
      IsLookup cfg R ∧ R.ReturnedFrom t json stamp ∧
      finishAttempt R.resultParser (.ok json) = .ok v ∧ v.join = some txn ∧
      txn.hash = W.args.txnHash ∧ txn.vmStatusType = cfg.constants.vmStatusExecuted ∧
      ledgerOf json = some L ∧ (updateLastKnownState (.int L.chainId) (.int L.version)
        (.int L.timestampUsecs) (s.hist stamp).toState).1 = .ok () ∧ R.issuedAt ≤ stamp

/-- For every client, over every interleaving with any other calls on the client, with every
response body carrying integer ledger fields: whenever `wait_for_transaction2` returns a
transaction, it is the one asked for, found by the lookup of its last iteration in a body the
tracker accepted. -/
theorem waitForTransaction2_returned_accepted (cfg : Config) {s : Sys α}
    (hs : Reachable cfg s) : ReturnJustified cfg s := by
  intro W hW txn last hd
  obtain ⟨state, R, r, source, t, rfl, hstate, hlook, hR, hdone, hfound, hhash, hexec⟩ :=
    hs.waitsReturned W hW txn _ hd
  obtain ⟨v, rfl⟩ : ∃ v, r = some v := Option.ne_none_iff_exists'.1 (by rintro rfl; cases hfound)
  obtain ⟨-, -, -, -, hsome⟩ := hR.phase_of_eq hdone
  obtain ⟨sr, json, rfl, hj, hfa⟩ := hsome v rfl
  obtain ⟨hsend, -⟩ := hR.source hdone
  rw [hlook.2] at hsend
  obtain ⟨L, hL, hupd, -, -⟩ := hsend.accepted_of_ok hj
  exact ⟨state, R, t, json, sr.stamp, v, L, rfl, hstate.symm, hlook, ⟨_, sr, hdone, hj, rfl⟩,
    hfa, hfound, hhash, hexec, hL, hupd, hsend.issued_le⟩

/-- A fresh client whose server answers every request with the sample envelope, and whose
parser reads it as the executed transaction `a1b2`: a wait for `a1b2` returns it in its first
iteration. -/
theorem waitForTransaction2_returned_accepted_found :
    let cfg : Config := ⟨⟨1, 0.1, PyException.isStaleResponseError⟩, .direct,
      ⟨30, 1, "executed", "parent_vasp", "child_vasp"⟩, fun _ => .ok ⟨"a1b2", "executed"⟩⟩
    ∃ s : Sys Unit, Reachable cfg s ∧
      (∃ W ∈ s.waits, ∃ last, W.phase = .done (.ok ⟨"a1b2", "executed"⟩) last) ∧
      ReturnJustified cfg s := by
  intro cfg
  have hs : Reachable cfg _ :=
    .tail (.tail (.tail (.tail (.tail (.tail .refl
      (Step.issueWait _ ⟨1, "a1b2", none, none⟩ 0))
      (@Step.wait Unit cfg _ 0 ⟨⟨1, "a1b2", none, none⟩, 0, .polling⟩ _ _ _ rfl
        (WaitStep.poll 0 rfl (by decide))))
      (@Step.wait Unit cfg _ 0 _ _ _ _ rfl
        (WaitStep.lookup rfl (ReadStep.enterDirect rfl (by decide) rfl))))
      (@Step.wait Unit cfg _ 0 _ _ _ _ rfl (WaitStep.lookup rfl (ReadStep.send false _ rfl rfl
        (sampleEnvelope_intLedgerFields "" 9 100)
        (show _ = (⟨2, 9, 1000⟩ : Ledger).toState from rfl)))))
      (@Step.wait Unit cfg _ 0 _ _ _ _ rfl (WaitStep.lookup rfl (ReadStep.resolve false rfl rfl))))
      (@Step.wait Unit cfg _ 0 _ _ _ _ rfl (WaitStep.decide rfl rfl))
  exact ⟨_, hs, ⟨_, List.mem_singleton_self _, _, rfl⟩,
    waitForTransaction2_returned_accepted cfg hs⟩

end DiemJsonRpc
