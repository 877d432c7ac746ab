import DiemJsonRpc.Framework.Interfaces
import Mathlib.Logic.Relation

/-!
# The ledger-state tracker

`Client._last_known_server_state` is the only state the client's threads share.  Every access
holds `Client._lock` for its whole duration, so an access is one atomic step, and any
interleaving of threads' accesses is a sequence of them.  A method that reads and may replace
the tracker, and may raise, is therefore a function from the tracker to what the method returns
or raises and the tracker it leaves: `updateLastKnownState`.

On an integer tracker and integer arguments the method is the spec's three rules
(`updateLastKnownState_ledger`): a known chain id that differs fails with
`InvalidServerResponse`, a version or timestamp below the stored one fails with
`StaleResponseError`, and otherwise the triple is stored.  It accepts exactly the triples above
the tracker in the order `Ledger.le` (`updateLastKnownState_ok_iff`), and a raising call leaves
the tracker as it was (`updateLastKnownState_error_state`), on any arguments.

`updateLastKnownState_run` is the run invariant: from the sentinel a fresh client starts with,
along any sequence of calls with integer arguments, the tracker stays an integer triple and only
moves up in `Ledger.le`.
-/

namespace DiemJsonRpc

/-- `Client.update_last_known_state(chain_id, version, timestamp_usecs)`, run while holding
`self._lock`: from the tracker `curr`, what the call raises, and the tracker it leaves. -/
def updateLastKnownState (chainId version timestampUsecs : JsonValue) (curr : State) :
    Except PyException Unit × State :=
  if curr.chainId.pyNe (.int (-1)) && curr.chainId.pyNe chainId then
    (.error (.invalidServerResponse (.chainIdMismatch curr.chainId chainId)), curr)
  else match curr.version.pyGt version with
    | none => (.error .typeError, curr)
    | some true => (.error (.staleResponseError (.version curr.version version)), curr)
    | some false => match curr.timestampUsecs.pyGt timestampUsecs with
      | none => (.error .typeError, curr)
      | some true =>
        (.error (.staleResponseError (.timestampUsecs curr.timestampUsecs timestampUsecs)), curr)
      | some false => (.ok (), ⟨chainId, version, timestampUsecs⟩)

/-- A raising call leaves the tracker as it found it: every `raise` comes before the one
assignment. -/
lemma updateLastKnownState_error_state {c v t : JsonValue} {curr s : State} {e : PyException}
    (h : updateLastKnownState c v t curr = (.error e, s)) : s = curr := by
  unfold updateLastKnownState at h
  split at h <;> (try split at h) <;> (try split at h) <;> cases h <;> rfl

/-- It raises `InvalidServerResponse`, `StaleResponseError` or `TypeError`, never
`TransactionExpired`. -/
lemma updateLastKnownState_not_expired {c v t : JsonValue} {curr : State} {e : PyException}
    (h : (updateLastKnownState c v t curr).1 = .error e) : e.isTransactionExpired = false := by
  unfold updateLastKnownState at h
  split at h
  · cases h; rfl
  · split at h <;> (try split at h) <;> cases h <;> rfl

namespace Ledger

/-- `l` accepts the response triple `n`: the three rules of the spec's §4.1 let it through. -/
def Accepts (l n : Ledger) : Prop :=
  (l.chainId = -1 ∨ l.chainId = n.chainId) ∧ l.version ≤ n.version ∧
    l.timestampUsecs ≤ n.timestampUsecs

instance (l n : Ledger) : Decidable (l.Accepts n) := by
  unfold Accepts; infer_instance

lemma le_of_accepts {l n : Ledger} (h : l.Accepts n) : l ≤ n := by
  obtain ⟨hc, hv, ht⟩ := h
  exact ⟨hv, ht, fun h1 => (hc.resolve_left h1).symm⟩

/-- A triple above a tracker in `≤` is accepted by it. -/
lemma accepts_of_le {l n : Ledger} (h : l ≤ n) : l.Accepts n := by
  obtain ⟨hv, ht, hc⟩ := h
  refine ⟨?_, hv, ht⟩
  by_cases h1 : l.chainId = -1
  · exact .inl h1
  · exact .inr (hc h1).symm

end Ledger

/-- On an integer tracker and integer arguments, `update_last_known_state` is the spec's
update: identity check, then the two freshness checks, then the store. -/
lemma updateLastKnownState_ledger (l : Ledger) (c v t : ℤ) :
    updateLastKnownState (.int c) (.int v) (.int t) l.toState =
      if l.chainId ≠ -1 ∧ l.chainId ≠ c then
        (.error (.invalidServerResponse (.chainIdMismatch (.int l.chainId) (.int c))), l.toState)
      else if v < l.version then
        (.error (.staleResponseError (.version (.int l.version) (.int v))), l.toState)
      else if t < l.timestampUsecs then
        (.error (.staleResponseError (.timestampUsecs (.int l.timestampUsecs) (.int t))),
          l.toState)
      else (.ok (), (⟨c, v, t⟩ : Ledger).toState) := by
  simp only [updateLastKnownState, Ledger.toState, JsonValue.pyNe_int_int, JsonValue.pyGt_int_int,
    Bool.and_eq_true, decide_eq_true_eq]
  by_cases hc : l.chainId ≠ -1 ∧ l.chainId ≠ c
  · simp [hc]
  · by_cases hv : v < l.version
    · simp [hc, hv]
    · by_cases ht : t < l.timestampUsecs <;> simp [hc, hv, ht]

/-- The call returns exactly when the tracker accepts the triple; it then stores it. -/
lemma updateLastKnownState_ok_iff {l : Ledger} {c v t : ℤ} {s : State} :
    updateLastKnownState (.int c) (.int v) (.int t) l.toState = (.ok (), s) ↔
      l.Accepts ⟨c, v, t⟩ ∧ s = (⟨c, v, t⟩ : Ledger).toState := by
  rw [updateLastKnownState_ledger]
  constructor
  · intro h
    split_ifs at h with hc hv ht <;> cases h
    refine ⟨⟨?_, ?_, ?_⟩, rfl⟩ <;> dsimp only <;> omega
  · rintro ⟨⟨hc, hv, ht⟩, rfl⟩
    dsimp only at hc hv ht
    rw [if_neg (by omega), if_neg (by omega), if_neg (by omega)]

/-- Whatever it returns, one call with integer arguments keeps an integer tracker and moves it
only up. -/
lemma updateLastKnownState_step (l : Ledger) (c v t : ℤ) :
    ∃ l' : Ledger, (updateLastKnownState (.int c) (.int v) (.int t) l.toState).2 = l'.toState ∧
      l ≤ l' := by
  rcases h : updateLastKnownState (.int c) (.int v) (.int t) l.toState with ⟨_ | _, s⟩
  · exact ⟨l, updateLastKnownState_error_state h, le_rfl⟩
  · obtain ⟨hacc, rfl⟩ := updateLastKnownState_ok_iff.1 h
    exact ⟨_, rfl, Ledger.le_of_accepts hacc⟩

/-- One call of `update_last_known_state` with integer arguments, by any thread: the tracker it
leaves, whether it returned or raised. -/
def TrackerStep (s s' : State) : Prop :=
  ∃ c v t : ℤ, s' = (updateLastKnownState (.int c) (.int v) (.int t) s).2

lemma trackerStep_run {l : Ledger} {s : State}
    (h : Relation.ReflTransGen TrackerStep l.toState s) : ∃ l', s = l'.toState ∧ l ≤ l' := by
  induction h with
  | refl => exact ⟨l, rfl, le_rfl⟩
  | tail _ hstep ih =>
    obtain ⟨l₁, rfl, hl₁⟩ := ih
    obtain ⟨c, v, t, rfl⟩ := hstep
    obtain ⟨l₂, h₂, hl₂⟩ := updateLastKnownState_step l₁ c v t
    exact ⟨l₂, h₂, hl₁.trans hl₂⟩

/-- From a fresh client's sentinel, along any sequence of `update_last_known_state` calls with
integer arguments (any threads, any order: each call is atomic under the lock), the tracker is
an integer triple that only moves up in `Ledger.le` (version and timestamp never decrease, a
known chain id never changes), and a call that raises leaves it as it was. -/
theorem updateLastKnownState_run {s s' : State}
    (h₀ : Relation.ReflTransGen TrackerStep Ledger.unknown.toState s)
    (h : Relation.ReflTransGen TrackerStep s s') :
    (∃ l l' : Ledger, s = l.toState ∧ s' = l'.toState ∧ l ≤ l') ∧
      ∀ (c v t : ℤ) (e : PyException) (s'' : State),
        updateLastKnownState (.int c) (.int v) (.int t) s = (.error e, s'') → s'' = s := by
  obtain ⟨l, rfl, -⟩ := trackerStep_run h₀
  obtain ⟨l', rfl, hl⟩ := trackerStep_run h
  exact ⟨⟨l, l', rfl, rfl, hl⟩, fun _ _ _ _ _ he => updateLastKnownState_error_state he⟩

theorem updateLastKnownState_run_after_first :
    Relation.ReflTransGen TrackerStep Ledger.unknown.toState Ledger.unknown.toState ∧
    Relation.ReflTransGen TrackerStep Ledger.unknown.toState (⟨2, 10, 1000⟩ : Ledger).toState ∧
    (∃ l l' : Ledger, Ledger.unknown.toState = l.toState ∧
        (⟨2, 10, 1000⟩ : Ledger).toState = l'.toState ∧ l ≤ l') ∧
      ∀ (c v t : ℤ) (e : PyException) (s'' : State),
        updateLastKnownState (.int c) (.int v) (.int t) Ledger.unknown.toState = (.error e, s'') →
          s'' = Ledger.unknown.toState :=
  have h₁ : Relation.ReflTransGen TrackerStep Ledger.unknown.toState
      (⟨2, 10, 1000⟩ : Ledger).toState := .single ⟨2, 10, 1000, rfl⟩
  ⟨.refl, h₁, updateLastKnownState_run .refl h₁⟩

end DiemJsonRpc
