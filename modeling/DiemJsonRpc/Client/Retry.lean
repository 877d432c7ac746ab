import DiemJsonRpc.Framework.Interfaces
import Mathlib.Tactic.NormNum

/-!
# `Retry`: bounded retries with linear backoff

`Retry.execute(fn)` calls `fn` while `tries < max_retries`; a call that raises an instance of
the configured class is retried after `time.sleep(delay_secs * tries)`, unless it was the last
allowed call, in which case its exception is re-raised; any other exception propagates at once,
and a value is returned at once.  If the loop never runs (`max_retries ≤ 0`) the method falls
off its end and returns `None`.

`fn` is a closure over the client, so its calls may depend on and change the rest of the world
(the tracker, above all).  `Retry.loop` therefore threads a world `w : σ` through the calls, and
records what it does, in order, as `RetryEffect`s.  `Retry.next` is the loop body's decision
after one call; the concurrent client of `Concurrency/System.lean` takes the same decision after
each of its attempts.

`execute_eq_schedule` settles the loop for every configuration with `max_retries ≥ 1` whose
sleeps return: with `k` the number of leading calls that raise an instance of the class, it
calls `fn` exactly `min (k + 1) n` times, sleeps `delay * i` between calls `i` and `i + 1` and
never after the last, and ends with what the last call ended with.  The sleeps are float
products, and `time.sleep` raises `ValueError` on a negative length and `OverflowError` past
about `9.2e9` seconds (`execute_sleep_raises`); `max_retries ≤ 0` returns `None` without calling
`fn` (`loop_of_maxRetries_nonpos`).  `loop_eq_ok` locates the call whose value is returned.
-/

namespace DiemJsonRpc

/-- `Retry(max_retries, delay_secs, exception)`, with the class `exception` given as
`isinstance(e, exception)`.  Neither `Retry` nor `Client` checks the fields. -/
structure Retry where
  maxRetries : ℤ
  delaySecs : PyFloat
  exception : PyException → Bool

/-- What `Retry.execute` does, in order: call `fn`, or `time.sleep` for a length. -/
inductive RetryEffect where
  | call
  | sleep (secs : PyFloat)
  deriving DecidableEq, Repr

namespace Retry

/-- What the loop body does once a call of `fn` has ended. -/
inductive Next (α : Type) where
  /-- `return fn()`. -/
  | ret (a : α)
  /-- `raise e`, or the exception propagating unhandled. -/
  | raise (e : PyException)
  /-- `time.sleep(secs)`, then round the loop again. -/
  | retryAfter (secs : PyFloat)

/-- The `try`/`except` of the loop body, after its call of `fn` (the `tries`-th, counting from
one) ended in `o`. -/
def next {α : Type} (r : Retry) (tries : ℕ) : Except PyException α → Next α
  | .ok a => .ret a
  | .error e =>
    if r.exception e then
      if (tries : ℤ) < r.maxRetries then .retryAfter (r.delaySecs * (tries : PyFloat)) else .raise e
    else .raise e

section Next

variable {α : Type} {r : Retry} {tries : ℕ} {o : Except PyException α}

lemma next_eq_ret {a : α} (h : r.next tries o = .ret a) : o = .ok a := by
  unfold next at h
  split at h
  · cases h; rfl
  · split_ifs at h

lemma next_eq_raise {e : PyException} (h : r.next tries o = .raise e) : o = .error e := by
  unfold next at h
  split at h
  · cases h
  · split_ifs at h <;> cases h <;> rfl

/-- The loop goes round again only below `max_retries`. -/
lemma next_eq_retryAfter {secs : PyFloat} (h : r.next tries o = .retryAfter secs) :
    (tries : ℤ) < r.maxRetries := by
  unfold next at h
  split at h
  · cases h
  · split_ifs at h with _ hlt
    exact hlt

end Next

variable {σ α : Type}

/-- The `while tries < self.max_retries` loop, entered with `tries` calls made and the world `w`:
what it returns (`none` for falling off the end) or raises, what it did, and the world after. -/
def loop (r : Retry) (fn : ℕ → σ → Except PyException α × σ) (tries : ℕ) (w : σ) :
    Except PyException (Option α) × List RetryEffect × σ :=
  if (tries : ℤ) < r.maxRetries then
    match r.next (tries + 1) (fn tries w).1 with
    | .ret a => (.ok (some a), [.call], (fn tries w).2)
    | .raise e => (.error e, [.call], (fn tries w).2)
    | .retryAfter secs =>
      match timeSleep secs with
      | .error e => (.error e, [.call, .sleep secs], (fn tries w).2)
      | .ok () =>
        let rest := r.loop fn (tries + 1) (fn tries w).2
        (rest.1, .call :: .sleep secs :: rest.2.1, rest.2.2)
  else (.ok none, [], w)
termination_by (r.maxRetries - tries).toNat
decreasing_by omega

/-- `Retry.execute(fn)`. -/
def execute (r : Retry) (fn : ℕ → σ → Except PyException α × σ) (w : σ) :
    Except PyException (Option α) × List RetryEffect × σ :=
  r.loop fn 0 w

/-- With `max_retries ≤ 0` the loop never runs: `None`, and `fn` is never called. -/
lemma loop_of_maxRetries_nonpos (r : Retry) (fn : ℕ → σ → Except PyException α × σ) (w : σ)
    (h : r.maxRetries ≤ 0) : r.loop fn 0 w = (.ok none, [], w) := by
  rw [loop, if_neg (by omega)]

/-! ## The loop over a run of `fn`

`worldAt fn w i` is the world before the `i`-th call when all earlier calls ran, and
`outcome fn w i` what that call ends in. -/

/-- The world before call `i` (from `0`) of `fn`, every earlier call having run. -/
def worldAt (fn : ℕ → σ → Except PyException α × σ) (w : σ) : ℕ → σ
  | 0 => w
  | i + 1 => (fn i (worldAt fn w i)).2

/-- What call `i` (from `0`) of `fn` ends in. -/
def outcome (fn : ℕ → σ → Except PyException α × σ) (w : σ) (i : ℕ) : Except PyException α :=
  (fn i (worldAt fn w i)).1

/-- `o` raises an instance of the configured class. -/
def isRetryable (r : Retry) : Except PyException α → Bool
  | .error e => r.exception e
  | .ok _ => false

/-- A call that raises an instance of the class below `max_retries` is retried after
`delay_secs * tries`. -/
lemma next_of_isRetryable {r : Retry} {tries : ℕ} {o : Except PyException α} (h : r.isRetryable o)
    (hlt : (tries : ℤ) < r.maxRetries) :
    r.next tries o = .retryAfter (r.delaySecs * (tries : PyFloat)) := by
  rcases o with e | a
  · simp only [isRetryable] at h
    simp [next, h, hlt]
  · cases h

/-- Only an instance of the class is retried. -/
lemma isRetryable_of_next_eq_retryAfter {r : Retry} {tries : ℕ} {o : Except PyException α}
    {secs : PyFloat} (h : r.next tries o = .retryAfter secs) : r.isRetryable o := by
  rcases o with e | a <;> simp only [next, reduceCtorEq] at h
  split_ifs at h with he
  exact he

/-- How many of the first `n` calls, counted from the first, raise an instance of the class. -/
def leading (r : Retry) (o : ℕ → Except PyException α) : ℕ → ℕ
  | 0 => 0
  | n + 1 =>
    if leading r o n = n ∧ r.isRetryable (o n) then
      n + 1
    else leading r o n

/-- `call, sleep d·(i+1), call, …, call`: the calls `i`, …, `i + j` and the sleeps between them. -/
def schedule (d : PyFloat) (i : ℕ) : ℕ → List RetryEffect
  | 0 => [.call]
  | j + 1 => .call :: .sleep (d * ((i + 1 : ℕ) : PyFloat)) :: schedule d (i + 1) j

lemma leading_le (r : Retry) (o : ℕ → Except PyException α) (n : ℕ) : r.leading o n ≤ n := by
  induction n with
  | zero => rfl
  | succ n ih => unfold leading; split_ifs <;> omega

lemma raisesRetryable_of_lt_leading (r : Retry) (o : ℕ → Except PyException α) :
    ∀ n k, k < r.leading o n → r.isRetryable (o k) := by
  intro n
  induction n with
  | zero => intro k hk; exact absurd hk (Nat.not_lt_zero _)
  | succ n ih =>
    intro k hk
    unfold leading at hk
    split_ifs at hk with h
    · rcases Nat.lt_succ_iff_lt_or_eq.1 hk with hk | rfl
      · exact ih k (by rw [h.1]; exact hk)
      · exact h.2
    · exact ih k hk

lemma not_raisesRetryable_leading (r : Retry) (o : ℕ → Except PyException α) :
    ∀ n, r.leading o n < n → r.isRetryable (o (r.leading o n)) = false := by
  intro n
  induction n with
  | zero => intro h; exact absurd h (Nat.not_lt_zero _)
  | succ n ih =>
    intro hlt
    have hle := leading_le r o n
    unfold leading at hlt ⊢
    split_ifs at hlt ⊢ with h
    · omega
    · rcases Nat.lt_or_eq_of_le hle with hn | hn
      · exact ih hn
      · rw [hn]
        simpa [hn] using h

/-- One pass of the loop from call `i` to the deciding call `j`: the calls before `j` raise
instances of the class and are retried, and call `j` decides. -/
lemma loop_eq_of_decides (r : Retry) (fn : ℕ → σ → Except PyException α × σ) (w : σ)
    {j : ℕ} (hsleep : ∀ k : ℕ, 1 ≤ k → k ≤ j → timeSleep (r.delaySecs * (k : PyFloat)) = .ok ())
    (hj : (j : ℤ) < r.maxRetries)
    (hlead : ∀ k < j, r.isRetryable (outcome fn w k))
    (hstop : (j + 1 : ℤ) = r.maxRetries ∨ r.isRetryable (outcome fn w j) = false) :
    ∀ m i, i + m = j →
      r.loop fn i (worldAt fn w i) =
        ((outcome fn w j).map some, schedule r.delaySecs i m, worldAt fn w (j + 1)) := by
  intro m
  induction m with
  | zero =>
    rintro i rfl
    simp only [Nat.add_zero] at hstop ⊢
    rw [loop, if_pos (by omega)]
    rcases hn : r.next (i + 1) (fn i (worldAt fn w i)).1 with a | e | secs
    · simp [outcome, worldAt, schedule, next_eq_ret hn, Except.map]
    · simp [outcome, worldAt, schedule, next_eq_raise hn, Except.map]
    · have hre : r.isRetryable (outcome fn w i) := isRetryable_of_next_eq_retryAfter hn
      have hlt := next_eq_retryAfter hn
      rcases hstop with h | h
      · omega
      · rw [h] at hre
        cases hre
  | succ m ih =>
    rintro i rfl
    have hn : r.next (i + 1) (fn i (worldAt fn w i)).1 =
        .retryAfter (r.delaySecs * ((i + 1 : ℕ) : PyFloat)) :=
      next_of_isRetryable (hlead i (by omega)) (by omega)
    rw [loop, if_pos (by omega)]
    simp only [hn, hsleep (i + 1) (by omega) (by omega)]
    rw [show (fn i (worldAt fn w i)).2 = worldAt fn w (i + 1) from rfl, ih (i + 1) (by omega)]
    rfl

/-- For every `max_retries = n ≥ 1`, every delay `d` whose sleeps `time.sleep(d * i)`, `1 ≤ i < n`,
return, every class and every `fn`: with `k` the number of leading calls that raise an instance
of the class, `Retry.execute(fn)` calls `fn` exactly `min (k + 1) n` times, sleeps `d * i` between
calls `i` and `i + 1` and never after the last call, and ends as that last call did: its value
is returned, and its exception (one outside the class, or the `n`-th instance of it) is
re-raised unchanged. -/
theorem execute_eq_schedule (r : Retry) (n : ℕ) (hn : r.maxRetries = n) (h1 : 1 ≤ n)
    (hd : ∀ i : ℕ, 1 ≤ i → i < n → timeSleep (r.delaySecs * (i : PyFloat)) = .ok ())
    (fn : ℕ → σ → Except PyException α × σ) (w : σ) :
    let calls := min (r.leading (outcome fn w) n + 1) n
    (r.execute fn w).1 = (outcome fn w (calls - 1)).map some ∧
      (r.execute fn w).2.1 = schedule r.delaySecs 0 (calls - 1) := by
  intro calls
  have hk := leading_le r (outcome fn w) n
  have hj : calls - 1 = min (r.leading (outcome fn w) n) (n - 1) := by omega
  have key := loop_eq_of_decides r fn w (j := calls - 1) (fun k hk1 hkj => hd k hk1 (by omega))
    (by omega) (fun k hk' => raisesRetryable_of_lt_leading r _ n k (by omega))
    (by
      by_cases hlt : r.leading (outcome fn w) n + 1 < n
      · right
        rw [hj, min_eq_left (by omega)]
        exact not_raisesRetryable_leading r _ n (by omega)
      · left; omega)
    (calls - 1) 0 (by omega)
  unfold execute
  rw [show w = worldAt fn w 0 from rfl, key]
  exact ⟨rfl, rfl⟩

theorem execute_eq_schedule_three :
    let r : Retry := ⟨3, 0.1, PyException.isStaleResponseError⟩
    let fn : ℕ → Unit → Except PyException ℕ × Unit := fun i _ =>
      (if i = 0 then .error (.staleResponseError (.version (.int 2) (.int 1))) else .ok 7, ())
    r.maxRetries = (3 : ℕ) ∧ 1 ≤ 3 ∧
      (∀ i : ℕ, 1 ≤ i → i < 3 → timeSleep (r.delaySecs * (i : PyFloat)) = .ok ()) ∧
      let calls := min (r.leading (outcome fn ()) 3 + 1) 3
      (r.execute fn ()).1 = (outcome fn () (calls - 1)).map some ∧
        (r.execute fn ()).2.1 = schedule r.delaySecs 0 (calls - 1) := by
  intro r fn
  have hd : ∀ i : ℕ, 1 ≤ i → i < 3 → timeSleep (r.delaySecs * (i : PyFloat)) = .ok () := by
    intro i h1 h3
    obtain rfl | rfl : i = 1 ∨ i = 2 := by omega
    all_goals rfl
  exact ⟨rfl, by decide, hd, execute_eq_schedule r 3 rfl (by decide) hd fn ()⟩

/-- A sleep that raises ends the loop.  The first call raises `StaleResponseError` and the second
returns, so `min (k + 1) n = 2`; but with `Retry(2, 1e10, StaleResponseError)` the sleep of
`1e10 * 1` seconds, `10 ^ 19` nanoseconds, raises `OverflowError` after the first call, and with
a delay of `-1` the sleep raises `ValueError`. -/
theorem execute_sleep_raises :
    let fn : ℕ → Unit → Except PyException ℕ × Unit := fun i _ =>
      (if i = 0 then .error (.staleResponseError (.version (.int 2) (.int 1))) else .ok 7, ())
    min ((⟨2, 1e10, PyException.isStaleResponseError⟩ : Retry).leading (outcome fn ()) 2 + 1) 2 =
        2 ∧
      (⟨2, 1e10, PyException.isStaleResponseError⟩ : Retry).execute fn () =
        (.error .overflowError, [.call, .sleep 1e10], ()) ∧
      (⟨2, -1, PyException.isStaleResponseError⟩ : Retry).execute fn () =
        (.error (.valueError .negativeSleepLength), [.call, .sleep (-1)], ()) := by
  refine ⟨by decide, ?_, ?_⟩ <;>
  · rw [execute, loop, if_pos (by decide)]
    rfl

/-- A value the loop returns is the value of one call `j` of the run, and the loop leaves the
world as that call left it. -/
lemma loop_eq_ok (r : Retry) (fn : ℕ → σ → Except PyException α × σ) (w : σ) {v : α} :
    ∀ m (i : ℕ), (r.maxRetries - i).toNat ≤ m → (r.loop fn i (worldAt fn w i)).1 = .ok (some v) →
      ∃ j : ℕ, i ≤ j ∧ outcome fn w j = .ok v ∧
        (r.loop fn i (worldAt fn w i)).2.2 = worldAt fn w (j + 1) := by
  intro m
  induction m with
  | zero =>
    intro i hm h
    rw [loop, if_neg (by omega)] at h
    cases h
  | succ m ih =>
    intro i hm h
    rw [loop] at h ⊢
    split_ifs at h ⊢ with hlt
    · rcases hnext : r.next (i + 1) (fn i (worldAt fn w i)).1 with a | e | secs <;>
        simp only [hnext] at h ⊢
      · cases h
        exact ⟨i, le_rfl, next_eq_ret hnext, rfl⟩
      · cases h
      · rcases hs : timeSleep secs with e | _ <;> simp only [hs] at h ⊢
        · cases h
        · obtain ⟨j, hij, hj, hw⟩ := ih (i + 1) (by omega) h
          exact ⟨j, by omega, hj, hw⟩
    · cases h

end Retry

end DiemJsonRpc
