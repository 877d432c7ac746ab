import DiemJsonRpc.Concurrency.Invariant

/-!
# The sequential functions are runs of the shared client

`Client/Execute.lean` and `Client/Wait.lean` translate `Client.execute` and
`wait_for_transaction2` as functions of what they meet; `Concurrency/System.lean` models the
same calls as threads of a shared client, one atomic step at a time.  This module connects the
two levels under `RequestStrategy`.

## One thread on its own

A read's thread is seen with the step counter and the tracker it meets, the rest of the client
left out (`Thread`, `ThreadStep`).  One attempt of the `Retry` loop is three of its steps: the
loop test and the start of the send, the send meeting the answer and the tracker, the end of
`send_request` and the rest of the loop body (`attempt_run`); the loop is followed by the
measure it terminates by (`loop_run`).  A run of the thread is a run of the client, whether the
read is a caller's (`ThreadRun.lift_read`) or a wait's lookup (`ThreadRun.lift_lookup`).

## The refinements

From any state, a call of `execute` that runs alone ends with exactly the outcome and the
tracker the function computes, and leaves every other thread and every send left behind as they
were (`execute_refines`).  A call of `wait_for_transaction2` issued at the clock's first reading
and run alone ends with the outcome the sequential loop decides on what it meets: the clock, the
trackers its own lookups leave, and what they return (`aloneEnv`, `waitForTransaction2_refines`).

`submit`, which the system lets any thread run as an `update_last_known_state` call, is one
such step (`submit_refines`).

`execute_value_accepted` follows a value `Client.execute` returns back to the answer it came
from and the tracker that answer met, along the run of calls `Retry.loop_eq_ok` locates it in.
-/

namespace DiemJsonRpc

variable {α : Type} {cfg : Config}

/-! ## A state after one step -/

namespace Sys

@[simp] lemma advance_now (s : Sys α) (l' : Ledger) : (s.advance l').now = s.now + 1 := rfl
@[simp] lemma advance_reads (s : Sys α) (l' : Ledger) : (s.advance l').reads = s.reads := rfl
@[simp] lemma advance_waits (s : Sys α) (l' : Ledger) : (s.advance l').waits = s.waits := rfl
@[simp] lemma advance_orphans (s : Sys α) (l' : Ledger) : (s.advance l').orphans = s.orphans :=
  rfl
@[simp] lemma advance_tracker (s : Sys α) (l' : Ledger) : (s.advance l').tracker = l' :=
  pushHist_succ s.hist s.now l'

end Sys

/-- Setting an index to the element it holds changes nothing. -/
lemma set_eq_self_of_getElem? {β : Type} {l : List β} {i : ℕ} {a : β} (h : l[i]? = some a) :
    l.set i a = l :=
  List.ext_getElem? fun j => by
    by_cases hij : i = j
    · subst hij
      rw [List.getElem?_set_self (List.getElem?_eq_some_iff.1 h).1, h]
    · rw [List.getElem?_set_ne hij]

/-- A step of the read at index `i`: its read changes, the counter and the tracker move, the
waits stay, and the sends it leaves behind join the orphans. -/
lemma Step.read_at {s : Sys α} {i : ℕ} {R R' : Read α} {orphans : List Bool} {l' : Ledger}
    (hi : s.reads[i]? = some R) (h : ReadStep cfg s.now s.tracker R R' orphans l') :
    ∃ s', Step cfg s s' ∧ s'.reads = s.reads.set i R' ∧ s'.now = s.now + 1 ∧ s'.tracker = l' ∧
      s'.waits = s.waits ∧ s'.orphans = s.orphans ++ orphans :=
  ⟨_, Step.read s hi h, rfl, rfl, by simp, rfl, rfl⟩

/-- A step of the wait at index `j`. -/
lemma Step.wait_at {s : Sys α} {j : ℕ} {W W' : Wait} {orphans : List Bool} {l' : Ledger}
    (hj : s.waits[j]? = some W) (h : WaitStep cfg s.now s.tracker W W' orphans l') :
    ∃ s', Step cfg s s' ∧ s'.waits = s.waits.set j W' ∧ s'.now = s.now + 1 ∧ s'.tracker = l' ∧
      s'.reads = s.reads ∧ s'.orphans = s.orphans ++ orphans :=
  ⟨_, Step.wait s hj h, rfl, rfl, by simp, rfl, rfl⟩

/-! ## One thread on its own -/

/-- A read's thread with the step counter and the tracker it meets, the rest of the client left
out. -/
structure Thread (α : Type) where
  now : ℕ
  tracker : Ledger
  read : Read α

/-- A step of a read's thread that leaves no send behind, as every step under
`RequestStrategy` does. -/
inductive ThreadStep (cfg : Config) : Thread α → Thread α → Prop
  | step {n : ℕ} {l l' : Ledger} {R R' : Read α} :
      ReadStep cfg n l R R' [] l' → ThreadStep cfg ⟨n, l, R⟩ ⟨n + 1, l', R'⟩

/-- Under `RequestStrategy` the attempt is over once its one send has ended, and leaves no send
behind. -/
lemma ReadStep.resolve_direct (hrs : cfg.rs = .direct) {now : ℕ} {tracker : Ledger} {R : Read α}
    {tries : ℕ} {sr : SendResult} (hp : R.phase = .sending tries ⟨some sr, none⟩) :
    ReadStep cfg now tracker R
      { R with phase := afterSend cfg R.resultParser tries sr.sent (some sr) now } [] tracker :=
  ReadStep.resolve false hp (by rw [hrs]; rfl)

/-- One attempt of a read under `RequestStrategy`, the server answering `http`: the loop test
passes and `send_request` starts its one send, the send meets the answer and the tracker, and
the loop body goes on with what it returned.  The tracker ends where `_send_http_request`
leaves it. -/
lemma attempt_run (hrs : cfg.rs = .direct) {n : ℕ} {l : Ledger} {R : Read α} {tries : ℕ}
    (hidle : R.phase = .idle tries) (hlt : (tries : ℤ) < cfg.retry.maxRetries)
    {http : HttpOutcome} (hint : IntLedgerFields http) :
    ∃ l' source t, Relation.ReflTransGen (ThreadStep cfg) ⟨n, l, R⟩
        ⟨n + 3, l', { R with phase := (afterSend cfg R.resultParser tries
          (sendHttpRequest (R.ignoreStaleResponse.getD false) http l.toState).1 source t) }⟩ ∧
      l'.toState = (sendHttpRequest (R.ignoreStaleResponse.getD false) http l.toState).2 := by
  obtain ⟨l', hl', -, -⟩ := sendHttpRequest_int (R.ignoreStaleResponse.getD false) hint l
  have hresolve : ReadStep cfg (n + 1 + 1) l' { R with phase := (.sending tries
      ⟨some ⟨(sendHttpRequest (R.ignoreStaleResponse.getD false) http l.toState).1, n + 1⟩, none⟩) }
      _ [] l' := ReadStep.resolve_direct hrs rfl
  exact ⟨l', _, _, .tail (.tail (.single (.step (ReadStep.enterDirect hidle hlt hrs)))
    (.step (ReadStep.send false http rfl rfl hint hl'))) (.step hresolve), hl'.symm⟩

/-- The `Retry` loop of a read under `RequestStrategy`, from the test of
`while tries < self.max_retries` with `tries` calls made: its thread reaches what `Retry.loop`
computes, and the tracker it leaves. -/
theorem loop_run (hrs : cfg.rs = .direct) (https : ℕ → HttpOutcome)
    (hint : ∀ k, IntLedgerFields (https k)) (tries : ℕ) {n : ℕ} {l : Ledger} {R : Read α}
    (hidle : R.phase = .idle tries) :
    ∃ n' l' source t, Relation.ReflTransGen (ThreadStep cfg) ⟨n, l, R⟩
        ⟨n', l', { R with phase := (.done (cfg.retry.loop (fun k w =>
          executeWithoutRetry R.resultParser R.ignoreStaleResponse (https k) w) tries
          l.toState).1 source t) }⟩ ∧
      l'.toState = (cfg.retry.loop (fun k w =>
        executeWithoutRetry R.resultParser R.ignoreStaleResponse (https k) w) tries
        l.toState).2.2 := by
  by_cases hlt : (tries : ℤ) < cfg.retry.maxRetries
  · obtain ⟨l₁, source, t, hrun, hl₁⟩ := attempt_run (n := n) hrs hidle hlt (hint tries)
    have hsend : executeWithoutRetry R.resultParser R.ignoreStaleResponse (https tries)
        l.toState = (finishAttempt R.resultParser (sendHttpRequest
          (R.ignoreStaleResponse.getD false) (https tries) l.toState).1,
          (sendHttpRequest (R.ignoreStaleResponse.getD false) (https tries) l.toState).2) :=
      rfl
    rw [Retry.loop, if_pos hlt, hsend]
    dsimp only
    rcases hn : cfg.retry.next (tries + 1) (finishAttempt R.resultParser
      (sendHttpRequest (R.ignoreStaleResponse.getD false) (https tries) l.toState).1)
      with a | e | secs <;> dsimp only
    · exact ⟨_, l₁, source, t, by simpa [afterSend, hn] using hrun, hl₁⟩
    · exact ⟨_, l₁, source, t, by simpa [afterSend, hn] using hrun, hl₁⟩
    rcases hs : timeSleep secs with e | _ <;> dsimp only
    · exact ⟨_, l₁, source, t, by simpa [afterSend, hn, hs] using hrun, hl₁⟩
    have hidle₁ : ({ R with phase := (afterSend cfg R.resultParser tries (sendHttpRequest
        (R.ignoreStaleResponse.getD false) (https tries) l.toState).1 source t) } : Read α).phase =
        .idle (tries + 1) := by
      simp [afterSend, hn, hs]
    obtain ⟨n₂, l₂, source', t', hrun', hl₂⟩ := loop_run hrs https hint (tries + 1) hidle₁
    refine ⟨n₂, l₂, source', t', hrun.trans ?_, ?_⟩
    · rw [← hl₁]
      exact hrun'
    · rw [hl₂, hl₁]
  · rw [Retry.loop, if_neg hlt]
    exact ⟨n + 1, l, none, n, .single (.step (ReadStep.fallOff hidle hlt)), rfl⟩
termination_by (cfg.retry.maxRetries - tries).toNat
decreasing_by omega

/-! ## The thread in the client -/

/-- A run of a read's thread is a run of the client the read is in: the read changes, the
counter and the tracker move, and nothing else does. -/
lemma ThreadRun.lift_read {s : Sys α} {i : ℕ} {R : Read α} (hi : s.reads[i]? = some R)
    {q : Thread α} (h : Relation.ReflTransGen (ThreadStep cfg) ⟨s.now, s.tracker, R⟩ q) :
    ∃ s', Relation.ReflTransGen (Step cfg) s s' ∧ s'.reads = s.reads.set i q.read ∧
      s'.now = q.now ∧ s'.tracker = q.tracker ∧ s'.waits = s.waits ∧ s'.orphans = s.orphans := by
  induction h with
  | refl => exact ⟨s, .refl, (set_eq_self_of_getElem? hi).symm, rfl, rfl, rfl, rfl⟩
  | tail _ hstep ih =>
    cases hstep with
    | step hrs =>
      obtain ⟨s₁, hrun, r₁, n₁, t₁, w₁, o₁⟩ := ih
      obtain ⟨s₂, h₂, r₂, n₂, t₂, w₂, o₂⟩ :=
        Step.read_at (by rw [r₁, List.getElem?_set_self (List.getElem?_eq_some_iff.1 hi).1])
          (by rw [n₁, t₁]; exact hrs)
      exact ⟨s₂, hrun.tail h₂, by rw [r₂, r₁, List.set_set], by rw [n₂, n₁], t₂, w₂.trans w₁,
        by rw [o₂, o₁, List.append_nil]⟩

/-- A run of the thread of a wait's lookup is a run of the client the wait is in. -/
lemma ThreadRun.lift_lookup {s : Sys α} {j : ℕ} {W : Wait} {state : Ledger}
    {R : Read (Option Transaction)} (hj : s.waits[j]? = some W) (hp : W.phase = .lookingUp state R)
    {q : Thread (Option Transaction)}
    (h : Relation.ReflTransGen (ThreadStep cfg) ⟨s.now, s.tracker, R⟩ q) :
    ∃ s', Relation.ReflTransGen (Step cfg) s s' ∧
      s'.waits = s.waits.set j { W with phase := .lookingUp state q.read } ∧
      s'.now = q.now ∧ s'.tracker = q.tracker ∧ s'.reads = s.reads ∧ s'.orphans = s.orphans := by
  induction h with
  | refl =>
    have hW : { W with phase := .lookingUp state R } = W := by rw [← hp]
    exact ⟨s, .refl, by rw [hW, set_eq_self_of_getElem? hj], rfl, rfl, rfl, rfl⟩
  | tail _ hstep ih =>
    cases hstep with
    | step hrs =>
      obtain ⟨s₁, hrun, w₁, n₁, t₁, r₁, o₁⟩ := ih
      obtain ⟨s₂, h₂, w₂, n₂, t₂, r₂, o₂⟩ :=
        Step.wait_at (by rw [w₁, List.getElem?_set_self (List.getElem?_eq_some_iff.1 hj).1])
          (WaitStep.lookup rfl (by rw [n₁, t₁]; exact hrs))
      exact ⟨s₂, hrun.tail h₂, by rw [w₂, w₁, List.set_set], by rw [n₂, n₁], t₂, r₂.trans r₁,
        by rw [o₂, o₁, List.append_nil]⟩

/-- For every configuration under `RequestStrategy`, every state of the shared client, every call
of `execute` in it that has not yet tested its loop, and every sequence of server answers whose
bodies carry integer ledger fields: the call's thread, run alone, ends with exactly the outcome
`Client.execute` computes from the tracker it starts with, leaves the tracker where
`Client.execute` leaves it, and changes no other read, no wait and no orphaned send. -/
theorem execute_refines (cfg : Config) (hrs : cfg.rs = .direct) (https : ℕ → HttpOutcome)
    (hint : ∀ k, IntLedgerFields (https k)) {s : Sys α} {i : ℕ} {R : Read α}
    (hi : s.reads[i]? = some R) (hidle : R.phase = .idle 0) :
    ∃ s' source t, Relation.ReflTransGen (Step cfg) s s' ∧
      s'.reads = s.reads.set i { R with phase := (.done (execute cfg.retry R.resultParser
        R.ignoreStaleResponse https s.tracker.toState).1 source t) } ∧
      s'.waits = s.waits ∧ s'.orphans = s.orphans ∧
      s'.tracker.toState =
        (execute cfg.retry R.resultParser R.ignoreStaleResponse https s.tracker.toState).2.2 := by
  obtain ⟨n', l', source, t, hrun, hl'⟩ := loop_run (n := s.now) hrs https hint 0 hidle
  obtain ⟨s', hrun', r', -, t', w', o'⟩ := ThreadRun.lift_read hi hrun
  exact ⟨s', source, t, hrun', r', w', o', by rw [t']; exact hl'⟩

lemma sampleEnvelope_intLedgerFields (text : String) (version : ℤ) (room : ℕ) :
    IntLedgerFields (.response 200 text (some (.object (sampleEnvelope version))) room) :=
  intLedgerFields_of_object text room rfl

/-- A read just issued on a fresh client, every request answered with the sample envelope. -/
theorem execute_refines_sample :
    let cfg : Config := ⟨⟨1, 0.1, PyException.isStaleResponseError⟩, .direct,
      ⟨30, 1, "executed", "parent_vasp", "child_vasp"⟩, fun _ => .error "no transaction"⟩
    let https : ℕ → HttpOutcome := fun _ => .response 200 "" (some (.object (sampleEnvelope 9))) 100
    let R : Read Unit := ⟨none, none, 0, .idle 0⟩
    let s : Sys Unit := ⟨1, fun _ => Ledger.unknown, [R], [], []⟩
    cfg.rs = .direct ∧ (∀ k, IntLedgerFields (https k)) ∧ s.reads[0]? = some R ∧
      R.phase = .idle 0 ∧
      ∃ s' source t, Relation.ReflTransGen (Step cfg) s s' ∧
        s'.reads = s.reads.set 0 { R with phase := (.done (execute cfg.retry R.resultParser
          R.ignoreStaleResponse https s.tracker.toState).1 source t) } ∧
        s'.waits = s.waits ∧ s'.orphans = s.orphans ∧
        s'.tracker.toState =
          (execute cfg.retry R.resultParser R.ignoreStaleResponse https s.tracker.toState).2.2 := by
  intro cfg https R s
  exact ⟨rfl, fun _ => sampleEnvelope_intLedgerFields "" 9 100, rfl, rfl,
    execute_refines cfg rfl https (fun _ => sampleEnvelope_intLedgerFields "" 9 100) rfl rfl⟩

/-! ## `submit`

`Concurrency/System.lean` lets any thread call `update_last_known_state` with integer arguments
at any time, standing for a `submit` among others. -/

/-- For every client under `RequestStrategy`, every state of it and every answer whose body
carries integer ledger fields: a `submit` raises no `StaleResponseError`, and what it does to the client is one step of
the system, an `update_last_known_state` call with integer arguments that leaves the tracker
where `submit` leaves it and every thread as it was. -/
theorem submit_refines (cfg : Config) (_hrs : cfg.rs = .direct) (s : Sys α) {http : HttpOutcome}
    (hint : IntLedgerFields http) :
    (∀ e, (submit http s.tracker.toState).1 = .error e → e.isStaleResponseError = false) ∧
      ∃ s', Step cfg s s' ∧ s'.tracker.toState = (submit http s.tracker.toState).2 ∧
        s'.reads = s.reads ∧ s'.waits = s.waits ∧ s'.orphans = s.orphans := by
  refine ⟨fun e h => submit_not_stale http _ h, ?_⟩
  obtain ⟨l', hl', hle, -⟩ := sendHttpRequest_int true hint s.tracker
  have hupd : (updateLastKnownState (.int l'.chainId) (.int l'.version) (.int l'.timestampUsecs)
      s.tracker.toState).2 = l'.toState :=
    congrArg Prod.snd (updateLastKnownState_ok_iff.2 ⟨Ledger.accepts_of_le hle, rfl⟩)
  exact ⟨_, Step.update s _ _ _ hupd, by rw [Sys.advance_tracker]; exact hl'.symm, rfl, rfl, rfl⟩

/-- A fresh client, the server answering the submit with the sample envelope. -/
theorem submit_refines_sample :
    let cfg : Config := ⟨⟨1, 0.1, PyException.isStaleResponseError⟩, .direct,
      ⟨30, 1, "executed", "parent_vasp", "child_vasp"⟩, fun _ => .error "no transaction"⟩
    let http : HttpOutcome := .response 200 "" (some (.object (sampleEnvelope 9))) 100
    cfg.rs = .direct ∧ IntLedgerFields http ∧
      (∀ e, (submit http (Sys.init : Sys Unit).tracker.toState).1 = .error e →
        e.isStaleResponseError = false) ∧
      ∃ s', Step cfg (Sys.init : Sys Unit) s' ∧
        s'.tracker.toState = (submit http (Sys.init : Sys Unit).tracker.toState).2 ∧
        s'.reads = (Sys.init : Sys Unit).reads ∧ s'.waits = (Sys.init : Sys Unit).waits ∧
        s'.orphans = (Sys.init : Sys Unit).orphans :=
  ⟨rfl, sampleEnvelope_intLedgerFields "" 9 100,
    submit_refines _ rfl Sys.init (sampleEnvelope_intLedgerFields "" 9 100)⟩

/-! ## A wait on its own -/

/-- `Client.get_account_transaction(address, seq, True)` on the tracker `state`, the server
answering its `k`-th attempt with `https k`: `execute` with `_parse_obj(lambda:
rpc.Transaction())`, whose value is a transaction or `None`. -/
def getAccountTransaction (cfg : Config) (https : ℕ → HttpOutcome) (state : State) :
    Except PyException (Option Transaction) × State :=
  let r := execute cfg.retry (some (parseObj cfg.parseTransaction)) none https state
  (r.1.map fun txn => txn.join.join, r.2.2)

/-- The trackers a wait reads when nothing else runs on the client: from `state`, each
iteration's lookup moves it, the server answering lookup `k` with `https k`. -/
def aloneTrackers (cfg : Config) (https : ℕ → ℕ → HttpOutcome) (state : State) : ℕ → State
  | 0 => state
  | k + 1 => (getAccountTransaction cfg (https k) (aloneTrackers cfg https state k)).2

/-- What a wait meets when nothing else runs on the client: the clock, the trackers its own
lookups leave, and what the lookups return. -/
def aloneEnv (cfg : Config) (clock : ℕ → PyFloat) (https : ℕ → ℕ → HttpOutcome) (state : State) :
    WaitEnv :=
  ⟨clock, aloneTrackers cfg https state,
    fun k => (getAccountTransaction cfg (https k) (aloneTrackers cfg https state k)).1⟩

/-- One iteration of a wait run alone, with a clock reading before the deadline: the tracker
read, the lookup's thread, and the body after it. -/
lemma iteration_run (hrs : cfg.rs = .direct) (https : ℕ → HttpOutcome)
    (hint : ∀ k, IntLedgerFields (https k)) {s : Sys α} {j : ℕ} {W : Wait}
    (hj : s.waits[j]? = some W) (hp : W.phase = .polling) {reading : PyFloat}
    (hlt : reading < W.maxWait cfg.constants) :
    ∃ s' R, Relation.ReflTransGen (Step cfg) s s' ∧
      s'.waits = s.waits.set j { W with phase := (afterLookupPhase cfg W s.tracker R
        (execute cfg.retry (some (parseObj cfg.parseTransaction)) none https
          s.tracker.toState).1) } ∧
      s'.tracker.toState = (getAccountTransaction cfg https s.tracker.toState).2 ∧
      s'.reads = s.reads ∧ s'.orphans = s.orphans := by
  have hlen : j < s.waits.length := (List.getElem?_eq_some_iff.1 hj).1
  obtain ⟨s₁, h₁, w₁, -, t₁, r₁, o₁⟩ := Step.wait_at hj (WaitStep.poll reading hp hlt)
  obtain ⟨n', l', source, t, hrun, hl'⟩ :=
    loop_run (n := s₁.now) (l := s₁.tracker) (R := lookupRead cfg s.now) hrs https hint 0 rfl
  obtain ⟨s₂, hrun₂, w₂, -, t₂, r₂, o₂⟩ :=
    ThreadRun.lift_lookup (by rw [w₁, List.getElem?_set_self hlen]) rfl hrun
  obtain ⟨s₃, h₃, w₃, -, t₃, r₃, o₃⟩ := Step.wait_at
    (by rw [w₂, List.getElem?_set_self (by rw [w₁, List.length_set]; exact hlen)])
    (WaitStep.decide rfl rfl)
  exact ⟨s₃, _, (hrun₂.head h₁).tail h₃,
    by rw [w₃, w₂, w₁, List.set_set, List.set_set, t₁]; rfl,
    by rw [t₃, t₂, hl', t₁]; rfl, by rw [r₃, r₂, r₁], by simp [o₃, o₂, o₁]⟩

/-- The poll loop of a wait run alone, from iteration `i` with the tracker the lookups before it
left: whatever the sequential loop decides within `fuel` iterations on what the wait meets, the
wait's thread reaches. -/
theorem waitLoop_run (hrs : cfg.rs = .direct) (clock : ℕ → PyFloat) (https : ℕ → ℕ → HttpOutcome)
    (hint : ∀ k n, IntLedgerFields (https k n)) (state : State) (fuel : ℕ) :
    ∀ (i : ℕ) {s : Sys α} {j : ℕ} {W : Wait} {r : Except PyException Transaction},
      s.waits[j]? = some W → W.phase = .polling →
      s.tracker.toState = aloneTrackers cfg https state i →
      (waitLoop cfg.constants W.args (aloneEnv cfg clock https state) W.startTime
        (W.maxWait cfg.constants) i fuel).1 = some r →
      ∃ s' last, Relation.ReflTransGen (Step cfg) s s' ∧
        s'.waits = s.waits.set j { W with phase := .done r last } ∧
        s'.reads = s.reads ∧ s'.orphans = s.orphans := by
  induction fuel with
  | zero => exact fun _ _ _ _ _ _ _ _ hr => by cases hr
  | succ fuel ih =>
    intro i s j W r hj hp hstate hr
    have hlen : j < s.waits.length := (List.getElem?_eq_some_iff.1 hj).1
    rw [waitLoop] at hr
    dsimp only [aloneEnv] at hr
    by_cases hlt : clock (i + 1) < W.maxWait cfg.constants
    · obtain ⟨s₁, R, hrun, w₁, t₁, r₁, o₁⟩ := iteration_run hrs (https i) (hint i) hj hp hlt
      simp only [getAccountTransaction, if_pos hlt, ← hstate] at hr
      rcases hres : (execute cfg.retry (some (parseObj cfg.parseTransaction)) none (https i)
          s.tracker.toState).1 with e | txn <;> rw [hres] at w₁ <;>
        simp only [hres, Except.map] at hr
      · cases hr
        exact ⟨s₁, some (s.tracker, R), hrun, w₁, r₁, o₁⟩
      rcases hal : afterLookup cfg.constants W.args s.tracker.toState txn.join.join with _ | r' <;>
        simp only [hal] at hr
      · rcases hs : timeSleep (pyOr W.args.waitDurationSecs
            cfg.constants.defaultWaitForTransactionWaitDurationSecs) with e | _ <;>
          simp only [hs] at hr
        · cases hr
          exact ⟨s₁, some (s.tracker, R), hrun,
            by rw [w₁]; simp only [afterLookupPhase, hal, hs], r₁, o₁⟩
        · have hpoll : afterLookupPhase cfg W s.tracker R (.ok txn) = .polling := by
            simp only [afterLookupPhase, hal, hs]
          obtain ⟨s', last, hrun', w', r', o'⟩ := ih (i + 1) (s := s₁)
            (W := { W with phase := .polling })
            (by rw [w₁, List.getElem?_set_self hlen, hpoll]) rfl
            (by rw [t₁, hstate]; rfl) hr
          refine ⟨s', last, hrun.trans hrun', ?_, r'.trans r₁, o'.trans o₁⟩
          rw [w', w₁, List.set_set]
      · cases hr
        exact ⟨s₁, some (s.tracker, R), hrun, by rw [w₁]; simp only [afterLookupPhase, hal], r₁, o₁⟩
    · simp only [if_neg hlt] at hr
      cases hr
      obtain ⟨s₁, h₁, w₁, -, -, r₁, o₁⟩ :=
        Step.wait_at hj (WaitStep.timeout (clock (i + 1)) (clock (i + 2)) hp hlt)
      exact ⟨s₁, none, .single h₁, w₁, r₁, by simp [o₁]⟩

/-- For every configuration under `RequestStrategy`, every state of the shared client, every
clock and every server whose bodies carry integer ledger fields: a call of
`wait_for_transaction2` issued in that state at the clock's first reading and run alone ends
with the outcome the sequential `waitForTransaction2` decides on what the call meets (the clock,
the trackers its own lookups leave, what they return), whenever it decides within `fuel`
iterations; no read and no orphaned send changes. -/
theorem waitForTransaction2_refines (cfg : Config) (hrs : cfg.rs = .direct) (args : WaitArgs)
    (clock : ℕ → PyFloat) (https : ℕ → ℕ → HttpOutcome) (hint : ∀ k n, IntLedgerFields (https k n))
    (fuel : ℕ) {s : Sys α} {r : Except PyException Transaction}
    (hr : (waitForTransaction2 cfg.constants args (aloneEnv cfg clock https s.tracker.toState)
      fuel).1 = some r) :
    ∃ s' last, Relation.ReflTransGen (Step cfg) s s' ∧
      s'.waits = s.waits ++ [⟨args, clock 0, .done r last⟩] ∧ s'.reads = s.reads ∧
      s'.orphans = s.orphans := by
  let s₁ : Sys α :=
    Sys.advance { s with waits := s.waits ++ [⟨args, clock 0, .polling⟩] } s.tracker
  have hissue : Step cfg s s₁ := Step.issueWait s args (clock 0)
  obtain ⟨s', last, hrun, w', r', o'⟩ := waitLoop_run hrs clock https hint s.tracker.toState fuel
    0 (s := s₁) (j := s.waits.length) (W := ⟨args, clock 0, .polling⟩) (by simp [s₁]) rfl
    (by simp [s₁]; rfl) hr
  exact ⟨s', last, .head hissue hrun, by rw [w']; simp [s₁], r', o'⟩

/-- A one-attempt client on a fresh tracker, every request answered with the sample envelope
and every body parsed as the executed transaction `a1b2`: a wait for `a1b2` returns it in its
first iteration. -/
theorem waitForTransaction2_refines_found :
    let cfg : Config := ⟨⟨1, 0.1, PyException.isStaleResponseError⟩, .direct,
      ⟨30, 1, "executed", "parent_vasp", "child_vasp"⟩, fun _ => .ok ⟨"a1b2", "executed"⟩⟩
    let https : ℕ → ℕ → HttpOutcome :=
      fun _ _ => .response 200 "" (some (.object (sampleEnvelope 9))) 100
    cfg.rs = .direct ∧ (∀ k n, IntLedgerFields (https k n)) ∧
      (waitForTransaction2 cfg.constants ⟨1, "a1b2", none, none⟩
        (aloneEnv cfg (fun _ => 0) https (Sys.init : Sys Unit).tracker.toState) 1).1 =
        some (.ok ⟨"a1b2", "executed"⟩) ∧
      ∃ s' last, Relation.ReflTransGen (Step cfg) Sys.init s' ∧
        s'.waits = (Sys.init : Sys Unit).waits ++
          [⟨⟨1, "a1b2", none, none⟩, 0, .done (.ok ⟨"a1b2", "executed"⟩) last⟩] ∧
        s'.reads = (Sys.init : Sys Unit).reads ∧ s'.orphans = (Sys.init : Sys Unit).orphans := by
  intro cfg https
  have hint : ∀ k n, IntLedgerFields (https k n) :=
    fun _ _ => sampleEnvelope_intLedgerFields "" 9 100
  have hr : (waitForTransaction2 cfg.constants ⟨1, "a1b2", none, none⟩
      (aloneEnv cfg (fun _ => 0) https (Sys.init : Sys Unit).tracker.toState) 1).1 =
      some (.ok ⟨"a1b2", "executed"⟩) := by
    simp only [waitForTransaction2, waitLoop]
    rw [if_pos (by decide)]
    simp only [aloneEnv, aloneTrackers, getAccountTransaction, execute, Retry.execute]
    rw [Retry.loop, if_pos (by decide)]
    rfl
  exact ⟨rfl, hint, hr, waitForTransaction2_refines cfg rfl _ _ https hint 1 hr⟩

/-! ## What the function inherits -/

/-- The tracker before each call of `execute`'s loop, from an integer one and with integer ledger
fields in every body, is an integer one at or above it. -/
lemma worldAt_int (resultParser : Option (JsonValue → Except String α))
    (ignoreStaleResponse : Option Bool) (https : ℕ → HttpOutcome)
    (hint : ∀ k, IntLedgerFields (https k)) (l : Ledger) :
    ∀ j, ∃ l₀ : Ledger, Retry.worldAt (fun k w => executeWithoutRetry resultParser
      ignoreStaleResponse (https k) w) l.toState j = l₀.toState ∧ l ≤ l₀
  | 0 => ⟨l, rfl, le_rfl⟩
  | j + 1 => by
    obtain ⟨l₀, hw, hle⟩ := worldAt_int resultParser ignoreStaleResponse https hint l j
    obtain ⟨l₁, hl₁, hle₁, -⟩ := sendHttpRequest_int (ignoreStaleResponse.getD false) (hint j) l₀
    exact ⟨l₁, by rw [Retry.worldAt, hw]; exact hl₁, le_trans hle hle₁⟩

/-- For every `Retry`, every integer tracker `l`, every call of `Client.execute` under
`RequestStrategy` that keeps stale responses out, and every sequence of server answers whose
bodies carry integer ledger fields: a value the call returns was made from the body of one
answer `https j`, which met the tracker `l₀` the calls before it left, at or above `l`;
`update_last_known_state` accepted its ledger fields against `l₀`, and the call leaves the
tracker at exactly those fields. -/
theorem execute_value_accepted (retry : Retry) (resultParser : Option (JsonValue → Except String α))
    (ignoreStaleResponse : Option Bool) (hflag : ignoreStaleResponse.getD false = false)
    (https : ℕ → HttpOutcome) (hint : ∀ k, IntLedgerFields (https k)) (l : Ledger) {v : Option α}
    (hv : (execute retry resultParser ignoreStaleResponse https l.toState).1 = .ok (some v)) :
    ∃ j l₀ json L, Retry.worldAt (fun k w => executeWithoutRetry resultParser
        ignoreStaleResponse (https k) w) l.toState j = l₀.toState ∧ l ≤ l₀ ∧
      (sendHttpRequest false (https j) l₀.toState).1 = .ok json ∧
      finishAttempt resultParser (.ok json) = .ok v ∧ ledgerOf json = some L ∧
      (updateLastKnownState (.int L.chainId) (.int L.version) (.int L.timestampUsecs)
        l₀.toState).1 = .ok () ∧
      (execute retry resultParser ignoreStaleResponse https l.toState).2.2 = L.toState := by
  obtain ⟨j, -, hj, hw⟩ := Retry.loop_eq_ok retry (fun k w => executeWithoutRetry resultParser
    ignoreStaleResponse (https k) w) l.toState _ 0 le_rfl hv
  obtain ⟨l₀, hl₀, hle⟩ := worldAt_int resultParser ignoreStaleResponse https hint l j
  have hfa : finishAttempt resultParser (sendHttpRequest false (https j) l₀.toState).1 =
      .ok v := by
    rw [← hflag, ← hl₀]
    exact hj
  obtain ⟨json, hjson⟩ := finishAttempt_eq_ok hfa
  obtain ⟨l₁, hl₁, -, hacc⟩ := sendHttpRequest_int false (hint j) l₀
  obtain ⟨L, hL, hacc'⟩ := hacc json hjson
  obtain ⟨hacc, rfl⟩ := hacc' rfl
  refine ⟨j, l₀, json, l₁, hl₀, hle, hjson, hjson ▸ hfa, hL,
    congrArg Prod.fst (updateLastKnownState_ok_iff.2 ⟨hacc, rfl⟩), ?_⟩
  calc (execute retry resultParser ignoreStaleResponse https l.toState).2.2
      = (sendHttpRequest (ignoreStaleResponse.getD false) (https j)
          (Retry.worldAt (fun k w => executeWithoutRetry resultParser ignoreStaleResponse
            (https k) w) l.toState j)).2 := hw
    _ = l₁.toState := by rw [hflag, hl₀, hl₁]

/-- A fresh client, every request answered with the sample envelope: the first call returns,
from the first answer, and the tracker holds its ledger fields. -/
theorem execute_value_accepted_sample :
    let https : ℕ → HttpOutcome := fun _ => .response 200 "" (some (.object (sampleEnvelope 9))) 100
    (none : Option Bool).getD false = false ∧ (∀ k, IntLedgerFields (https k)) ∧
      (execute (α := Unit) ⟨1, 0.1, PyException.isStaleResponseError⟩ none none https
        Ledger.unknown.toState).1 = .ok (some none) ∧
      ∃ j l₀ json L, Retry.worldAt (fun k w => executeWithoutRetry (α := Unit) none none
          (https k) w) Ledger.unknown.toState j = l₀.toState ∧ Ledger.unknown ≤ l₀ ∧
        (sendHttpRequest false (https j) l₀.toState).1 = .ok json ∧
        finishAttempt (α := Unit) none (.ok json) = .ok none ∧ ledgerOf json = some L ∧
        (updateLastKnownState (.int L.chainId) (.int L.version) (.int L.timestampUsecs)
          l₀.toState).1 = .ok () ∧
        (execute (α := Unit) ⟨1, 0.1, PyException.isStaleResponseError⟩ none none https
          Ledger.unknown.toState).2.2 = L.toState := by
  intro https
  have hint : ∀ k, IntLedgerFields (https k) := fun _ => sampleEnvelope_intLedgerFields "" 9 100
  have hv : (execute (α := Unit) ⟨1, 0.1, PyException.isStaleResponseError⟩ none none https
      Ledger.unknown.toState).1 = .ok (some none) := by
    rw [execute, Retry.execute, Retry.loop, if_pos (by decide)]
    rfl
  exact ⟨rfl, hint, hv, execute_value_accepted _ none none rfl https hint Ledger.unknown hv⟩

end DiemJsonRpc
