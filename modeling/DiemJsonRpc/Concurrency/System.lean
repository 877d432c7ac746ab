import DiemJsonRpc.Client.Execute
import DiemJsonRpc.Client.Wait

/-!
# One `Client` shared by many threads

A `Client` is shared by any number of threads.  What they share is the tracker, and every access
to it holds `Client._lock`, so a run of the client is a sequence of atomic steps, each taken by
one thread.  This module is that transition system.

* A read is one call of `Client.execute` by a caller thread (`Read`).  It runs the `Retry` loop,
  and each attempt's `send_request` starts one `_send_http_request` under `RequestStrategy`, or
  two (primary and backup, on executor threads) under `RequestWithBackups`.  A send ends in one
  atomic step, in which the server's answer meets the tracker through `sendHttpRequest`.  Under
  `RequestWithBackups` the attempt is over once the futures it waits on are done: the primary
  under fallback, the first future `as_completed` yields under first-success (any finished send),
  and, when that one raised, the other.  A send still running then is left behind and may move
  the tracker later (an orphan).
* A wait is one call of `wait_for_transaction2` (`Wait`).  Each iteration reads the tracker and
  starts its lookup, a read of `get_account_transaction`; when the lookup is over, the body after
  it (`afterLookup`, from `Client/Wait.lean`) decides the wait or sends it round again.
* Any other thread may call `update_last_known_state` with integer arguments at any time: a
  `submit`, whose `execute_without_retry` swallows stale responses, or user code.

A step of a thread that does not touch the tracker is local, and is merged into the step before
or after it that does.  Every step advances a step counter `now`; `hist` records the tracker
after each step, and reads keep the counter at which they were issued, returned, and at which
their sends met the tracker.  These ghost fields are never read by a step that the code takes:
they let `Concurrency/Invariant.lean` say which tracker a response met.

The servers answer arbitrarily, but every body that is a dict carries integer ledger fields
(`IntLedgerFields`): a premise of the send steps.

The executor of `RequestWithBackups` is not modelled: a send may meet its answer at any step
once started, whatever the other sends.  A `ThreadPoolExecutor` only delays a send until a
worker is free, so every schedule it allows is a run of this system, and what holds of every run
here holds under every executor; nothing here says that a send is ever run.
-/

namespace DiemJsonRpc

/-- A response body `_send_http_request` returns: the items of a JSON dict. -/
abbrev Body := List (String × JsonValue)

/-- The three ledger fields of a body, when they are integers. -/
def ledgerOf (json : Body) : Option Ledger :=
  match dictGet json "diem_chain_id", dictGet json "diem_ledger_version",
      dictGet json "diem_ledger_timestampusec" with
  | .int c, .int v, .int t => some ⟨c, v, t⟩
  | _, _, _ => none

lemma ledgerOf_eq_some {json : Body} {L : Ledger} (h : ledgerOf json = some L) :
    dictGet json "diem_chain_id" = .int L.chainId ∧
      dictGet json "diem_ledger_version" = .int L.version ∧
      dictGet json "diem_ledger_timestampusec" = .int L.timestampUsecs := by
  unfold ledgerOf at h
  split at h
  · cases h
    exact ⟨‹_›, ‹_›, ‹_›⟩
  · cases h

/-- The answer `http` carries integer ledger fields in every body that is a dict. -/
def IntLedgerFields (http : HttpOutcome) : Prop :=
  ∀ body json, postJson http = .ok body → body.items? = some json → ∃ L, ledgerOf json = some L

/-- A 200 response whose body is a dict with integer ledger fields. -/
lemma intLedgerFields_of_object (text : String) {json : Body} (room : ℕ) {L : Ledger}
    (hL : ledgerOf json = some L) :
    IntLedgerFields (.response 200 text (some (.object json)) room) := by
  intro body json' hpost hitems
  rw [postJson_ok_status] at hpost
  split at hpost <;> cases hpost
  cases hitems
  exact ⟨L, hL⟩

/-- What a send does to an integer tracker, on an answer with integer ledger fields: it leaves an
integer tracker no lower, and a body it returns has integer ledger fields, which the tracker
accepted and now holds unless stale responses are let through. -/
lemma sendHttpRequest_int (ignore : Bool) {http : HttpOutcome} (hint : IntLedgerFields http)
    (l : Ledger) :
    ∃ l' : Ledger, (sendHttpRequest ignore http l.toState).2 = l'.toState ∧ l ≤ l' ∧
      ∀ json, (sendHttpRequest ignore http l.toState).1 = .ok json →
        ∃ L, ledgerOf json = some L ∧ (ignore = false → l.Accepts L ∧ l' = L) := by
  unfold sendHttpRequest
  rcases hpost : postJson http with e | body <;> dsimp only
  · exact ⟨l, rfl, le_rfl, fun _ h => by cases h⟩
  rcases hitems : body.items? with _ | json <;> dsimp only
  · exact ⟨l, rfl, le_rfl, fun _ h => by cases h⟩
  obtain ⟨L, hL⟩ := hint body json hpost hitems
  obtain ⟨hc, hv, ht⟩ := ledgerOf_eq_some hL
  rw [hc, hv, ht]
  rcases hu : updateLastKnownState (.int L.chainId) (.int L.version) (.int L.timestampUsecs)
      l.toState with ⟨r, s'⟩
  rcases r with e | ⟨⟩
  · obtain rfl := updateLastKnownState_error_state hu
    split <;> rename_i heq <;> cases heq
    · -- a stale response, returned only when asked for
      refine ⟨l, rfl, le_rfl, fun json' h => ?_⟩
      split_ifs at h with hi
      cases h
      exact ⟨L, hL, fun hf => by simp [hi] at hf⟩
    · exact ⟨l, rfl, le_rfl, fun json' h => by cases h⟩
  · obtain ⟨hacc, rfl⟩ := updateLastKnownState_ok_iff.1 hu
    refine ⟨L, rfl, Ledger.le_of_accepts hacc, fun json' h => ?_⟩
    cases h
    exact ⟨L, hL, fun _ => ⟨hacc, rfl⟩⟩

/-! ## The client's configuration -/

/-- `Client._rs`: `RequestStrategy()`, one send to the client's URL, or
`RequestWithBackups(backups, executor, fallback)`. -/
inductive RequestStrategy where
  | direct
  | withBackups (backups : List String) (fallback : Bool)

/-- What the threads of one `Client` share besides the tracker: its `Retry` and its request
strategy, and what `wait_for_transaction2` reads: the constants, and the parser of
`_parse_obj(lambda: rpc.Transaction())`. -/
structure Config where
  retry : Retry
  rs : RequestStrategy
  constants : Constants
  parseTransaction : JsonValue → Except String Transaction

/-! ## Reads -/

/-- A `_send_http_request` that has ended: what it returned or raised, and (ghost) the step at
which it met the tracker. -/
structure SendResult where
  sent : Except PyException Body
  stamp : ℕ

/-- The sends of one `send_request` call: the primary, and under `RequestWithBackups` the backup
(`none` under `RequestStrategy`); a send is `none` while it runs. -/
structure Attempt where
  primary : Option SendResult
  backup : Option (Option SendResult)

namespace Attempt

-- `try: return f.result() except Exception: return g.result()`: `none` while the send it
-- waits on runs.
def orElse : Option SendResult → Option SendResult → Option SendResult
  | some f, g => if f.sent.isOk then some f else g
  | none, _ => none

/-- What `send_request` returns or raises, as the send it takes it from: the primary under
`RequestStrategy`; `_fallback_to_backup`; or `_first_success`, where `first` says which future
`as_completed` yields first (`true`: the backup).  `none`: it is still waiting. -/
def outcome (fallback first : Bool) : Attempt → Option SendResult
  | ⟨primary, none⟩ => primary
  | ⟨primary, some backup⟩ =>
    if fallback then orElse primary backup
    else if first then orElse backup primary
    else orElse primary backup

-- The send `backup` names (`false`: the primary) is still running, or ends with `sr`.
def Running (a : Attempt) (backup : Bool) : Prop :=
  if backup then a.backup = some none else a.primary = none

def finish (a : Attempt) (backup : Bool) (sr : SendResult) : Attempt :=
  if backup then { a with backup := some (some sr) } else { a with primary := some sr }

-- The sends still running, left behind once `send_request` is over, and those that ended.
def running (a : Attempt) : ℕ :=
  (match a.primary with | none => 1 | some _ => 0) +
    (match a.backup with | some none => 1 | _ => 0)

def ended (a : Attempt) : List SendResult :=
  a.primary.toList ++ (a.backup.bind id).toList

lemma orElse_mem {f g : Option SendResult} {sr : SendResult} (h : orElse f g = some sr) :
    sr ∈ f.toList ++ g.toList := by
  unfold orElse at h
  split at h
  · split_ifs at h
    · cases h; simp
    · simp [h]
  · cases h

lemma outcome_mem {fallback first : Bool} {a : Attempt} {sr : SendResult}
    (h : a.outcome fallback first = some sr) : sr ∈ a.ended := by
  rcases a with ⟨primary, _ | backup⟩
  · simp [outcome] at h
    simp [ended, h]
  · simp only [outcome] at h
    split_ifs at h
    · simpa [ended] using orElse_mem h
    · have := orElse_mem h
      simp only [ended, List.mem_append] at this ⊢
      tauto
    · simpa [ended] using orElse_mem h

lemma mem_ended_finish {a : Attempt} {backup : Bool} {sr sr' : SendResult}
    (h : sr' ∈ (a.finish backup sr).ended) : sr' = sr ∨ sr' ∈ a.ended := by
  unfold finish at h
  split_ifs at h <;> simp [ended] at h ⊢ <;> tauto

end Attempt

/-- Where a read's thread is: at the test of `while tries < self.max_retries` with `tries`
calls made (`idle`); in the `tries + 1`-th call of `execute_without_retry`, waiting on its sends
(`sending`); or done, `execute` having returned or raised `result`, where `source` is the send
the last attempt took its outcome from and `returnedAt` the step (both ghost). -/
inductive ReadPhase (α : Type) where
  | idle (tries : ℕ)
  | sending (tries : ℕ) (attempt : Attempt)
  | done (result : Except PyException (Option (Option α))) (source : Option SendResult)
      (returnedAt : ℕ)

/-- One call of `Client.execute(method, params, result_parser, ignore_stale_response)`:
its arguments, the step at which it was issued (ghost), and where its thread is. -/
structure Read (α : Type) where
  resultParser : Option (JsonValue → Except String α)
  ignoreStaleResponse : Option Bool
  issuedAt : ℕ
  phase : ReadPhase α

variable {α : Type}

/-- The rest of the loop body of `Retry.execute` once `send_request` ended in `sent`, taken from
the send `source`: `execute_without_retry`'s handling, `Retry`'s `try`/`except`, and the
`time.sleep` before the next round. -/
def afterSend (cfg : Config) (resultParser : Option (JsonValue → Except String α)) (tries : ℕ)
    (sent : Except PyException Body) (source : Option SendResult) (now : ℕ) : ReadPhase α :=
  match cfg.retry.next (tries + 1) (finishAttempt resultParser sent) with
  | .ret a => .done (.ok (some a)) source now
  | .raise e => .done (.error e) source now
  | .retryAfter secs =>
    match timeSleep secs with
    | .error e => .done (.error e) source now
    | .ok () => .idle (tries + 1)

/-- One step of a read's thread at step `now`, the tracker being `tracker`: the read after it,
the ignore flags of the sends it leaves behind, and the tracker after it.  The loop test passes
and `send_request` starts its one send (`enterDirect`) or both (`enterBackups`), or, with no
backups, `random.choice` raises `IndexError` once the primary has started (`enterNoBackups`);
the loop test fails and `execute` falls off its end with `None` (`fallOff`); a running send
meets the server's answer `http` and the tracker (`send`); `send_request` is over, the loop body
goes on with its outcome, and the sends still running are left behind (`resolve`). -/
inductive ReadStep (cfg : Config) (now : ℕ) (tracker : Ledger) :
    Read α → Read α → List Bool → Ledger → Prop
  | enterDirect {R : Read α} {tries : ℕ} : R.phase = .idle tries →
      (tries : ℤ) < cfg.retry.maxRetries → cfg.rs = .direct →
      ReadStep cfg now tracker R { R with phase := .sending tries ⟨none, none⟩ } [] tracker
  | enterBackups {R : Read α} {tries : ℕ} {backup : String} {backups : List String}
      {fallback : Bool} : R.phase = .idle tries → (tries : ℤ) < cfg.retry.maxRetries →
      cfg.rs = .withBackups (backup :: backups) fallback →
      ReadStep cfg now tracker R { R with phase := .sending tries ⟨none, some none⟩ } [] tracker
  | enterNoBackups {R : Read α} {tries : ℕ} {fallback : Bool} : R.phase = .idle tries →
      (tries : ℤ) < cfg.retry.maxRetries → cfg.rs = .withBackups [] fallback →
      ReadStep cfg now tracker R
        { R with phase := afterSend cfg R.resultParser tries (.error .indexError) none now }
        [R.ignoreStaleResponse.getD false] tracker
  | fallOff {R : Read α} {tries : ℕ} : R.phase = .idle tries →
      ¬ (tries : ℤ) < cfg.retry.maxRetries →
      ReadStep cfg now tracker R { R with phase := .done (.ok none) none now } [] tracker
  | send {R : Read α} {tries : ℕ} {a : Attempt} (backup : Bool) (http : HttpOutcome)
      {l' : Ledger} : R.phase = .sending tries a → a.Running backup → IntLedgerFields http →
      (sendHttpRequest (R.ignoreStaleResponse.getD false) http tracker.toState).2 = l'.toState →
      ReadStep cfg now tracker R
        { R with phase := .sending tries (a.finish backup
          ⟨(sendHttpRequest (R.ignoreStaleResponse.getD false) http tracker.toState).1, now⟩) }
        [] l'
  | resolve {R : Read α} {tries : ℕ} {a : Attempt} {sr : SendResult} (first : Bool) :
      R.phase = .sending tries a →
      a.outcome (match cfg.rs with | .withBackups _ fallback => fallback | .direct => false)
        first = some sr →
      ReadStep cfg now tracker R
        { R with phase := afterSend cfg R.resultParser tries sr.sent (some sr) now }
        (List.replicate a.running (R.ignoreStaleResponse.getD false)) tracker

/-! ## Waits -/

/-- Where a wait's thread is: at the test of `while time.time() < max_wait`; in the lookup of
an iteration, having read the tracker as `state`; or done, `wait_for_transaction2` having
returned or raised `result`, where `last` is the tracker read and the lookup of its last
iteration. -/
inductive WaitPhase where
  | polling
  | lookingUp (state : Ledger) (lookup : Read (Option Transaction))
  | done (result : Except PyException Transaction)
      (last : Option (Ledger × Read (Option Transaction)))

/-- One call of `Client.wait_for_transaction2`: its arguments, the reading of `start_time`, and
where its thread is. -/
structure Wait where
  args : WaitArgs
  startTime : PyFloat
  phase : WaitPhase

/-- `max_wait = start_time + (timeout_secs or DEFAULT_WAIT_FOR_TRANSACTION_TIMEOUT_SECS)`. -/
def Wait.maxWait (c : Constants) (W : Wait) : PyFloat :=
  W.startTime + pyOr W.args.timeoutSecs c.defaultWaitForTransactionTimeoutSecs

/-- The `get_account_transaction(address, seq, True)` call an iteration starts at step `now`:
`execute` with `_parse_obj(lambda: rpc.Transaction())` and no `ignore_stale_response`. -/
def lookupRead (cfg : Config) (now : ℕ) : Read (Option Transaction) :=
  ⟨some (parseObj cfg.parseTransaction), none, now, .idle 0⟩

-- The loop body once the lookup returned or raised `result`, the tracker read being `state`.
def afterLookupPhase (cfg : Config) (W : Wait) (state : Ledger) (lookup : Read (Option Transaction))
    (result : Except PyException (Option (Option (Option Transaction)))) : WaitPhase :=
  match result with
  | .error e => .done (.error e) (some (state, lookup))
  | .ok txn =>
    match afterLookup cfg.constants W.args state.toState txn.join.join with
    | some r => .done r (some (state, lookup))
    | none =>
      match timeSleep (pyOr W.args.waitDurationSecs
          cfg.constants.defaultWaitForTransactionWaitDurationSecs) with
      | .error e => .done (.error e) (some (state, lookup))
      | .ok () => .polling

/-- One step of a wait's thread at step `now`, the tracker being `tracker`: a clock reading
before the deadline, and the iteration reads the tracker and starts its lookup (`poll`); a
reading not before it, and `WaitForTransactionTimeout(start_time, time.time())` (`timeout`); a
step of the lookup's thread (`lookup`); the lookup is over, and the body after it
(`decide`). -/
inductive WaitStep (cfg : Config) (now : ℕ) (tracker : Ledger) :
    Wait → Wait → List Bool → Ledger → Prop
  | poll {W : Wait} (reading : PyFloat) : W.phase = .polling → reading < W.maxWait cfg.constants →
      WaitStep cfg now tracker W { W with phase := .lookingUp tracker (lookupRead cfg now) } []
        tracker
  | timeout {W : Wait} (reading reading' : PyFloat) : W.phase = .polling →
      ¬ reading < W.maxWait cfg.constants →
      WaitStep cfg now tracker W
        { W with phase := .done (.error (.waitForTransactionTimeout W.startTime reading')) none }
        [] tracker
  | lookup {W : Wait} {state : Ledger} {R R' : Read (Option Transaction)} {orphans : List Bool}
      {l' : Ledger} : W.phase = .lookingUp state R → ReadStep cfg now tracker R R' orphans l' →
      WaitStep cfg now tracker W { W with phase := .lookingUp state R' } orphans l'
  | decide {W : Wait} {state : Ledger} {R : Read (Option Transaction)}
      {result : Except PyException (Option (Option (Option Transaction)))}
      {source : Option SendResult} {returnedAt : ℕ} : W.phase = .lookingUp state R →
      R.phase = .done result source returnedAt →
      WaitStep cfg now tracker W { W with phase := afterLookupPhase cfg W state R result } []
        tracker

/-! ## The system -/

-- The record of the tracker once the step `now` has left it at `l'`.
def pushHist (hist : ℕ → Ledger) (now : ℕ) (l' : Ledger) : ℕ → Ledger :=
  fun k => if k ≤ now then hist k else l'

lemma pushHist_of_le {hist : ℕ → Ledger} {now k : ℕ} (l' : Ledger) (h : k ≤ now) :
    pushHist hist now l' k = hist k := if_pos h

lemma pushHist_succ (hist : ℕ → Ledger) (now : ℕ) (l' : Ledger) :
    pushHist hist now l' (now + 1) = l' := if_neg (by omega)

/-- The client and its threads after `now` steps; `hist k` is the tracker after step `k`
(ghost, except `hist now`, the tracker). -/
structure Sys (α : Type) where
  now : ℕ
  hist : ℕ → Ledger
  reads : List (Read α)
  waits : List Wait
  orphans : List Bool

namespace Sys

-- `Client._last_known_server_state`.
def tracker (s : Sys α) : Ledger := s.hist s.now

-- The step counter moves on, and the tracker becomes `l'`.
def advance (s : Sys α) (l' : Ledger) : Sys α :=
  { s with now := s.now + 1, hist := pushHist s.hist s.now l' }

/-- A fresh client, `State(-1, -1, -1)`, with no thread in it. -/
def init : Sys α := ⟨0, fun _ => Ledger.unknown, [], [], []⟩

end Sys

/-- One step of the system, under the lock where it touches the tracker: a caller calls
`execute` (`issue`) or `wait_for_transaction2`, reading `start_time` (`issueWait`); a step of a
read's or a wait's thread (`read`, `wait`); a send left behind meets the server's answer and the
tracker (`orphan`); another thread calls `update_last_known_state` with integer arguments
(`update`). -/
inductive Step (cfg : Config) : Sys α → Sys α → Prop
  | issue (s : Sys α) (resultParser : Option (JsonValue → Except String α))
      (ignoreStaleResponse : Option Bool) :
      Step cfg s ({ s with reads := s.reads ++ [(⟨resultParser, ignoreStaleResponse, s.now,
        .idle 0⟩ : Read α)] }.advance s.tracker)
  | read (s : Sys α) {i : ℕ} {R R' : Read α} {orphans : List Bool} {l' : Ledger} :
      s.reads[i]? = some R → ReadStep cfg s.now s.tracker R R' orphans l' →
      Step cfg s ({ s with reads := s.reads.set i R', orphans := s.orphans ++ orphans }.advance l')
  | issueWait (s : Sys α) (args : WaitArgs) (startTime : PyFloat) :
      Step cfg s ({ s with waits := s.waits ++ [(⟨args, startTime, .polling⟩ : Wait)] }.advance s.tracker)
  | wait (s : Sys α) {i : ℕ} {W W' : Wait} {orphans : List Bool} {l' : Ledger} :
      s.waits[i]? = some W → WaitStep cfg s.now s.tracker W W' orphans l' →
      Step cfg s ({ s with waits := s.waits.set i W', orphans := s.orphans ++ orphans }.advance l')
  | orphan (s : Sys α) {j : ℕ} {ignore : Bool} (http : HttpOutcome) {l' : Ledger} :
      s.orphans[j]? = some ignore → IntLedgerFields http →
      (sendHttpRequest ignore http s.tracker.toState).2 = l'.toState →
      Step cfg s ({ s with orphans := s.orphans.eraseIdx j }.advance l')
  | update (s : Sys α) (c v t : ℤ) {l' : Ledger} :
      (updateLastKnownState (.int c) (.int v) (.int t) s.tracker.toState).2 = l'.toState →
      Step cfg s (s.advance l')

/-- The states a client reaches from a fresh one, over every interleaving. -/
def Reachable (cfg : Config) (s : Sys α) : Prop :=
  Relation.ReflTransGen (Step cfg) Sys.init s

end DiemJsonRpc
