import DiemJsonRpc.Client.Tracker
import DiemJsonRpc.Client.Retry

/-!
# One JSON-RPC call: `_send_http_request`, `execute_without_retry`, `execute`

`Client._send_http_request` posts the request, lets `raise_for_status` and `response.json()`
raise, feeds the body's three `diem_*` fields to `update_last_known_state` *before* looking at
`error` or `result`, and swallows a `StaleResponseError` only when asked to.
`execute_without_retry` then reads the envelope and maps `requests` and protobuf exceptions to
`NetworkError` and `InvalidServerResponse`; `execute` wraps it in the client's `Retry`, and
`submit` calls it once, letting stale responses through (`submit_not_stale`).

A server's answer to one request is an `HttpOutcome`.  This module runs the calls under
`RequestStrategy`, where `send_request` is a single `_send_http_request`; the racing strategy,
which runs two of them on other threads, is the subject of `Concurrency/System.lean`, and reuses
`sendHttpRequest` and `finishAttempt` from here.

`executeWithoutRetry_eq_reference` compares the code with the spec's pipeline (§4.1, §4.3) over
every integer tracker, every flag and every 200 response whose body carries integer ledger
fields.  `executeWithoutRetry_missing_ledger_fields` runs the code on bodies that lack them, and
`getAccount_without_request` runs `get_account` under a `Retry` whose loop never runs.
-/

namespace DiemJsonRpc

variable {α : Type}

/-- `self._session.post(...)`, `response.raise_for_status()` and `response.json()`: the decoded
body, or what they raise.  `json.loads` fails on a document nested past the recursion room with
`RecursionError`, which nothing catches, and on an integer of more than 4300 digits with
`ValueError`, which the `except ValueError` turns into `InvalidServerResponse` as it does a body
that is no JSON. -/
def postJson : HttpOutcome → Except PyException JsonValue
  | .raised e => .error (.requestException e)
  | .response statusCode text json room =>
    match raiseForStatus statusCode, json with
    | .error e, _ => .error e
    | .ok (), none => .error (.invalidServerResponse (.notJson text))
    | .ok (), some json =>
      match json.loadsFailure room with
      | none => .ok json
      | some .recursion => .error .recursionError
      | some .intDigits => .error (.invalidServerResponse (.notJson text))

/-- A 200 response: the decoder decides. -/
lemma postJson_ok_status (text : String) (v : JsonValue) (room : ℕ) :
    postJson (.response 200 text (some v) room) =
      match v.loadsFailure room with
      | none => .ok v
      | some .recursion => .error .recursionError
      | some .intDigits => .error (.invalidServerResponse (.notJson text)) := rfl

/-- `json.get(key)` on a dict: the value under `key`, or `None`. -/
def dictGet (json : List (String × JsonValue)) (key : String) : JsonValue :=
  (json.lookup key).getD .null

/-- `Client._send_http_request(url, request, ignore_stale_response)`, the server having answered
`http`: the dict `json` it returns, or what it raises, and the tracker it leaves.  The first
`json.get` on a body that is no dict raises `AttributeError`. -/
def sendHttpRequest (ignoreStaleResponse : Bool) (http : HttpOutcome) (s : State) :
    Except PyException (List (String × JsonValue)) × State :=
  match postJson http with
  | .error e => (.error e, s)
  | .ok body =>
    match body.items? with
    | none => (.error (.attributeError "get"), s)
    | some json =>
      match updateLastKnownState (dictGet json "diem_chain_id") (dictGet json "diem_ledger_version")
          (dictGet json "diem_ledger_timestampusec") s with
      | (.error (.staleResponseError e), s') =>
        (if ignoreStaleResponse then .ok json else .error (.staleResponseError e), s')
      | (r, s') => (r.map fun _ => json, s')

/-- The rest of `execute_without_retry`'s `try` body once `send_request` returned `json`:
`error` first, then `result` through the parser, whose failure is a `ParseError` message. -/
def handleResponse (resultParser : Option (JsonValue → Except String α))
    (json : List (String × JsonValue)) : Except PyException (Option α) :=
  match json.lookup "error", json.lookup "result" with
  | some err, _ => .error (.jsonRpcError err)
  | none, none => .error (.invalidServerResponse (.noErrorOrResult (.object json)))
  | none, some result =>
    match resultParser with
    | none => .ok none
    | some parse =>
      match parse result with
      | .ok a => .ok (some a)
      | .error msg => .error (.parseError msg)

/-- `execute_without_retry` once `send_request` ended in `sent`: the `try` body and its two
`except` clauses. -/
def finishAttempt (resultParser : Option (JsonValue → Except String α))
    (sent : Except PyException (List (String × JsonValue))) : Except PyException (Option α) :=
  match sent with
  | .error (.requestException e) => .error (.networkError e)
  | .error e => .error e
  | .ok json =>
    match handleResponse resultParser json with
    | .error (.parseError msg) => .error (.invalidServerResponse (.parseFailed msg (.object json)))
    | r => r

namespace PyException

/-- The exceptions the handling of one response raises on its own account: `requests`'s,
`RecursionError` from the decoder, `TypeError` from the tracker's comparisons,
`AttributeError` from `json.get`, `ParseError` from a parser, and `NetworkError`,
`InvalidServerResponse` and `JsonRpcError`. -/
def ofHandling : PyException → Bool
  | requestException _ | recursionError | typeError | attributeError _ | parseError _
  | networkError _ | invalidServerResponse _ | jsonRpcError _ => true
  | _ => false

lemma ofHandling_classes {e : PyException} (h : e.ofHandling) :
    e.isTransactionExpired = false ∧ e.isStaleResponseError = false := by
  cases e <;> first | exact ⟨rfl, rfl⟩ | cases h

end PyException

lemma postJson_eq_error {http : HttpOutcome} {e : PyException} (h : postJson http = .error e) :
    e.ofHandling := by
  rcases http with e' | ⟨statusCode, text, json, room⟩
  · cases h; rfl
  unfold postJson at h
  rcases hr : raiseForStatus statusCode with e' | ⟨⟩ <;> simp only [hr] at h
  · unfold raiseForStatus at hr
    split_ifs at hr
    cases hr; cases h; rfl
  · rcases json with _ | json
    · cases h; rfl
    · dsimp only at h
      split at h <;> cases h <;> rfl

/-- What a send raises: an exception of the handling, or a `StaleResponseError` when stale
responses are kept out. -/
lemma sendHttpRequest_eq_error {ignore : Bool} {http : HttpOutcome} {s : State}
    {e : PyException} (h : (sendHttpRequest ignore http s).1 = .error e) :
    e.ofHandling ∨ (∃ r, e = .staleResponseError r) ∧ ignore = false := by
  unfold sendHttpRequest at h
  split at h
  · cases h
    exact .inl (postJson_eq_error ‹_›)
  split at h
  · cases h; exact .inl rfl
  split at h
  · split_ifs at h with hi
    cases h
    exact .inr ⟨⟨_, rfl⟩, by simpa using hi⟩
  · rename_i r s' hne heq
    rcases r with e' | _ <;> cases h
    unfold updateLastKnownState at heq
    split at heq
    · cases heq; exact .inl rfl
    · split at heq <;> (try split at heq) <;> cases heq <;>
        first | exact .inl rfl | exact absurd rfl (hne _)

/-- What `execute_without_retry` raises once its send ended in `sent`: what the send raised, or
an exception of the handling. -/
lemma finishAttempt_eq_error {resultParser : Option (JsonValue → Except String α)}
    {sent : Except PyException (List (String × JsonValue))} {e : PyException}
    (h : finishAttempt resultParser sent = .error e) : sent = .error e ∨ e.ofHandling := by
  unfold finishAttempt at h
  split at h
  · cases h; exact .inr rfl
  · cases h; exact .inl rfl
  · split at h
    · cases h; exact .inr rfl
    · unfold handleResponse at h
      split at h <;> (try split at h) <;> (try split at h) <;> cases h <;> exact .inr rfl

/-- `execute_without_retry` returns only what it made of a body its send returned. -/
lemma finishAttempt_eq_ok {resultParser : Option (JsonValue → Except String α)}
    {sent : Except PyException (List (String × JsonValue))} {v : Option α}
    (h : finishAttempt resultParser sent = .ok v) : ∃ json, sent = .ok json := by
  rcases sent with e | json
  · unfold finishAttempt at h
    split at h <;> simp_all
  · exact ⟨json, rfl⟩

/-- `Client.execute_without_retry(method, params, result_parser, ignore_stale_response)` under
`RequestStrategy`, the server answering `http`. -/
def executeWithoutRetry (resultParser : Option (JsonValue → Except String α))
    (ignoreStaleResponse : Option Bool) (http : HttpOutcome) (s : State) :
    Except PyException (Option α) × State :=
  let sent := sendHttpRequest (ignoreStaleResponse.getD false) http s
  (finishAttempt resultParser sent.1, sent.2)

/-- `Client.execute(method, params, result_parser, ignore_stale_response)` under
`RequestStrategy`, the server answering the `i`-th attempt with `https i`: the outer `none` is
`Retry.execute` falling off its loop. -/
def execute (retry : Retry) (resultParser : Option (JsonValue → Except String α))
    (ignoreStaleResponse : Option Bool) (https : ℕ → HttpOutcome) (s : State) :
    Except PyException (Option (Option α)) × List RetryEffect × State :=
  retry.execute (fun i => executeWithoutRetry resultParser ignoreStaleResponse (https i)) s

/-- `Client.submit(txn)` under `RequestStrategy`, on a transaction already serialized to hex:
`execute_without_retry("submit", [txn], result_parser=None, ignore_stale_response=True)`, whose
value it drops. -/
def submit (http : HttpOutcome) (s : State) : Except PyException Unit × State :=
  let r := executeWithoutRetry (α := Unit) none (some true) http s
  (r.1.map fun _ => (), r.2)

/-- `submit` raises no `StaleResponseError`, whatever the tracker and the answer. -/
lemma submit_not_stale (http : HttpOutcome) (s : State) {e : PyException}
    (h : (submit http s).1 = .error e) : e.isStaleResponseError = false := by
  unfold submit executeWithoutRetry at h
  rcases hfa : finishAttempt (α := Unit) none (sendHttpRequest true http s).1 with e' | _ <;>
    simp only [Option.getD_some, hfa, Except.map] at h <;> cases h
  rcases finishAttempt_eq_error hfa with hs | hh
  · rcases sendHttpRequest_eq_error hs with hh | ⟨-, hf⟩
    · exact (PyException.ofHandling_classes hh).2
    · cases hf
  · exact (PyException.ofHandling_classes hh).2

/-- `_parse_obj(factory)`: a falsy result is `None`, anything else goes to `ParseDict`. -/
def parseObj {β : Type} (parseDict : JsonValue → Except String β) (result : JsonValue) :
    Except String (Option β) :=
  if result.truthy then (parseDict result).map some else .ok none

/-- `Client.get_account(account_address)`: `execute` with `_parse_obj(Account)`; Python has one
`None`, for a missing account and for the loop falling off its end alike. -/
def getAccount (retry : Retry) (parseAccount : JsonValue → Except String Account)
    (https : ℕ → HttpOutcome) (s : State) :
    Except PyException (Option Account) × List RetryEffect × State :=
  let r := execute retry (some (parseObj parseAccount)) none https s
  (r.1.map fun v => v.join.join, r.2)

/-! ## The reference pipeline -/

/-- The spec's pipeline for a response whose body `json` carries the integer ledger fields `n`,
read by a tracker at `l`: what `execute_without_retry` raises (by class) or returns, and where it
leaves the tracker.  Identity check, then freshness check (swallowed on the submit path), then
the envelope: `error` before `result`. -/
def referencePipeline (l n : Ledger) (ignoreStale : Bool) (json : List (String × JsonValue))
    (resultParser : Option (JsonValue → Except String α)) : Except String (Option α) × Ledger :=
  if l.chainId ≠ -1 ∧ l.chainId ≠ n.chainId then (.error "InvalidServerResponse", l)
  else if n.version < l.version ∨ n.timestampUsecs < l.timestampUsecs then
    if ignoreStale then (envelope, l) else (.error "StaleResponseError", l)
  else (envelope, n)
where
  /-- The envelope, once the ledger fields are through. -/
  envelope : Except String (Option α) :=
    if (json.lookup "error").isSome then .error "JsonRpcError"
    else match json.lookup "result", resultParser with
      | none, _ => .error "InvalidServerResponse"
      | some _, none => .ok none
      | some result, some parse =>
        match parse result with
        | .ok a => .ok (some a)
        | .error _ => .error "InvalidServerResponse"

lemma finishAttempt_ok_className (resultParser : Option (JsonValue → Except String α))
    (json : List (String × JsonValue)) :
    (finishAttempt resultParser (.ok json)).mapError PyException.className =
      referencePipeline.envelope json resultParser := by
  unfold finishAttempt handleResponse referencePipeline.envelope
  dsimp only
  rcases json.lookup "error" with _ | err
  · rcases json.lookup "result" with _ | result
    · rfl
    · rcases resultParser with _ | parse
      · rfl
      · simp only [Option.isSome_none]
        rcases parse result <;> rfl
  · rfl

/-- For every integer tracker, every `ignore_stale_response` and every 200 response whose body
is a dict with integer `diem_chain_id`, `diem_ledger_version` and `diem_ledger_timestampusec`
that `json.loads` decodes, `execute_without_retry` under `RequestStrategy` is the reference
pipeline: the same exception class or value, and the same tracker. -/
theorem executeWithoutRetry_eq_reference (l n : Ledger) (ignoreStaleResponse : Option Bool)
    (json : List (String × JsonValue)) (text : String) (room : ℕ)
    (hc : dictGet json "diem_chain_id" = .int n.chainId)
    (hv : dictGet json "diem_ledger_version" = .int n.version)
    (ht : dictGet json "diem_ledger_timestampusec" = .int n.timestampUsecs)
    (hloads : (JsonValue.object json).loadsFailure room = none)
    (resultParser : Option (JsonValue → Except String α)) :
    let out := executeWithoutRetry resultParser ignoreStaleResponse
      (.response 200 text (some (.object json)) room) l.toState
    let ref := referencePipeline l n (ignoreStaleResponse.getD false) json resultParser
    out.1.mapError PyException.className = ref.1 ∧ out.2 = ref.2.toState := by
  have hpost : postJson (.response 200 text (some (.object json)) room) = .ok (.object json) := by
    rw [postJson_ok_status, hloads]
  simp only [executeWithoutRetry, sendHttpRequest, hpost, JsonValue.items?, hc, hv, ht,
    updateLastKnownState_ledger, referencePipeline]
  by_cases hid : l.chainId ≠ -1 ∧ l.chainId ≠ n.chainId
  · simp only [if_pos hid]
    exact ⟨rfl, trivial⟩
  simp only [if_neg hid]
  generalize ignoreStaleResponse.getD false = ignore
  by_cases hver : n.version < l.version
  · simp only [hver, true_or, if_true]
    cases ignore
    exacts [⟨rfl, rfl⟩, ⟨finishAttempt_ok_className _ _, rfl⟩]
  by_cases hts : n.timestampUsecs < l.timestampUsecs
  · simp only [hver, hts, or_true, if_true]
    cases ignore
    exacts [⟨rfl, rfl⟩, ⟨finishAttempt_ok_className _ _, rfl⟩]
  · simp only [hver, hts, or_self, if_false]
    exact ⟨finishAttempt_ok_className _ _, trivial⟩

/-- The spec's sample envelope, `{"jsonrpc": "2.0", "id": 1, "result": {...},
"diem_ledger_version": 10, "diem_chain_id": 2, "diem_ledger_timestampusec": 1000}`. -/
def sampleEnvelope (version : ℤ) : List (String × JsonValue) :=
  [("jsonrpc", .str "2.0"), ("id", .int 1), ("result", .object [("version", .int version)]),
    ("diem_ledger_version", .int version), ("diem_chain_id", .int 2),
    ("diem_ledger_timestampusec", .int 1000)]

theorem executeWithoutRetry_eq_reference_stale :
    let l : Ledger := ⟨2, 10, 1000⟩
    let n : Ledger := ⟨2, 9, 1000⟩
    dictGet (sampleEnvelope 9) "diem_chain_id" = .int n.chainId ∧
    dictGet (sampleEnvelope 9) "diem_ledger_version" = .int n.version ∧
    dictGet (sampleEnvelope 9) "diem_ledger_timestampusec" = .int n.timestampUsecs ∧
    (JsonValue.object (sampleEnvelope 9)).loadsFailure 100 = none ∧
    let out := executeWithoutRetry (α := Unit) none none
      (.response 200 "" (some (.object (sampleEnvelope 9))) 100) l.toState
    let ref := referencePipeline l n ((none : Option Bool).getD false) (sampleEnvelope 9) none
    out.1.mapError PyException.className = ref.1 ∧ out.2 = ref.2.toState :=
  ⟨rfl, rfl, rfl, rfl, executeWithoutRetry_eq_reference ⟨2, 10, 1000⟩ ⟨2, 9, 1000⟩ none
    (sampleEnvelope 9) "" 100 rfl rfl rfl rfl none⟩

/-! ## Bodies `json.loads` refuses

A valid JSON text whose `result` nests one array more than the decoder has room for makes
`response.json()` raise `RecursionError`, which no `except` of the client catches; an integer of
more than 4300 digits makes it raise `ValueError`, which becomes `InvalidServerResponse`.  The
reference pipeline knows neither. -/

/-- `[[...[null]...]]`, `depth` arrays deep. -/
def nestedArrays : ℕ → JsonValue
  | 0 => .null
  | depth + 1 => .array [nestedArrays depth]

lemma loadsFailure_nestedArrays : ∀ room, (nestedArrays (room + 1)).loadsFailure room =
    some .recursion
  | 0 => rfl
  | room + 1 => by
    rw [nestedArrays, JsonValue.loadsFailure_array_succ, JsonValue.listFailure_cons,
      loadsFailure_nestedArrays room]
    rfl

/-- The sample envelope at version `10`, its `result` replaced by `result`. -/
def envelopeWith (result : JsonValue) : List (String × JsonValue) :=
  [("result", result), ("diem_ledger_version", .int 10), ("diem_chain_id", .int 2),
    ("diem_ledger_timestampusec", .int 1000)]

/-- For every recursion room, on a tracker at the body's own ledger position: the reference
pipeline returns `None` for a body whose `result` is nested one level deeper than the room, and
`execute_without_retry` raises `RecursionError`. -/
lemma executeWithoutRetry_nested_raises (room : ℕ) :
    let l : Ledger := ⟨2, 10, 1000⟩
    (referencePipeline (α := Unit) l l false (envelopeWith (nestedArrays room)) none).1 =
        .ok none ∧
      (executeWithoutRetry (α := Unit) none none
        (.response 200 "" (some (.object (envelopeWith (nestedArrays room)))) room)
        l.toState).1 = .error .recursionError := by
  have hdeep : (JsonValue.object (envelopeWith (nestedArrays room))).loadsFailure room =
      some .recursion := by
    rcases room with _ | room
    · rfl
    · rw [envelopeWith, JsonValue.loadsFailure_object_succ, JsonValue.itemsFailure_cons,
        loadsFailure_nestedArrays]
      rfl
  refine ⟨rfl, ?_⟩
  simp only [executeWithoutRetry, sendHttpRequest, postJson_ok_status, hdeep]
  rfl

/-- For every room that lets the decoder into the body and every integer of more than `4300`
digits as `result`: the reference pipeline returns `None`, and `execute_without_retry` raises
`InvalidServerResponse`. -/
lemma executeWithoutRetry_long_int_raises (room : ℕ) (n : ℤ) (hn : 10 ^ 4300 ≤ n.natAbs) :
    let l : Ledger := ⟨2, 10, 1000⟩
    (referencePipeline (α := Unit) l l false (envelopeWith (.int n)) none).1 = .ok none ∧
      (executeWithoutRetry (α := Unit) none none
        (.response 200 "" (some (.object (envelopeWith (.int n)))) (room + 1)) l.toState).1 =
        .error (.invalidServerResponse (.notJson "")) := by
  have hbig : (JsonValue.object (envelopeWith (.int n))).loadsFailure (room + 1) =
      some .intDigits := by
    rw [envelopeWith, JsonValue.loadsFailure_object_succ, JsonValue.itemsFailure_cons]
    simp only [JsonValue.loadsFailure, (JsonValue.moreDigitsThan_iff _ _).2 hn, if_true,
      Option.or_some]
  refine ⟨rfl, ?_⟩
  simp only [executeWithoutRetry, sendHttpRequest, postJson_ok_status, hbig]
  rfl

/-- A thread decodes with less room than `sys.getrecursionlimit()`, `1000` by default: at that
room, a body whose `result` is nested `1000` arrays deep raises `RecursionError`, and one whose
`result` is `10 ^ 4300` raises `InvalidServerResponse`, where the reference pipeline returns
`None` for both. -/
theorem executeWithoutRetry_refused_body :
    let l : Ledger := ⟨2, 10, 1000⟩
    (referencePipeline (α := Unit) l l false (envelopeWith (nestedArrays 1000)) none).1 =
        .ok none ∧
      (executeWithoutRetry (α := Unit) none none
        (.response 200 "" (some (.object (envelopeWith (nestedArrays 1000)))) 1000)
        l.toState).1 = .error .recursionError ∧
      (referencePipeline (α := Unit) l l false (envelopeWith (.int ((10 ^ 4300 : ℕ) : ℤ)))
        none).1 = .ok none ∧
      (executeWithoutRetry (α := Unit) none none
        (.response 200 "" (some (.object (envelopeWith (.int ((10 ^ 4300 : ℕ) : ℤ)))))
          1000) l.toState).1 = .error (.invalidServerResponse (.notJson "")) :=
  have deep := executeWithoutRetry_nested_raises 1000
  have long := executeWithoutRetry_long_int_raises 999 ((10 ^ 4300 : ℕ) : ℤ)
    (by rw [Int.natAbs_cast])
  ⟨deep.1, deep.2, long.1, long.2⟩

/-! ## Bodies without integer ledger fields

`_send_http_request` hands `json.get(...)` to `update_last_known_state` whatever it is: `None`
for a missing field.  Against a fresh tracker `-1 > None` raises `TypeError`, which no `except`
of the client catches; against a known chain id `2 != None` raises `InvalidServerResponse`; and
a body with version and timestamp but no chain id is accepted by a fresh tracker, which then
holds `chain_id = None`.  A body that is no JSON object fails at the first `.get`. -/

/-- `execute_without_retry` under `RequestStrategy` on HTTP 200 bodies that lack ledger fields
or are no object: a `TypeError`, an `InvalidServerResponse` for the absence, a tracker whose
chain id is `None`, and an `AttributeError`. -/
theorem executeWithoutRetry_missing_ledger_fields :
    (executeWithoutRetry (α := Unit) none none
        (.response 200 "\x7b\"jsonrpc\": \"2.0\", \"id\": 1, \"result\": null\x7d"
          (some (.object [("jsonrpc", .str "2.0"), ("id", .int 1), ("result", .null)])) 100)
        Ledger.unknown.toState).1 = .error .typeError ∧
    (executeWithoutRetry (α := Unit) none none
        (.response 200 "\x7b\"result\": null\x7d" (some (.object [("result", .null)])) 100)
        (⟨2, 10, 1000⟩ : Ledger).toState).1 =
      .error (.invalidServerResponse (.chainIdMismatch (.int 2) .null)) ∧
    (executeWithoutRetry (α := Unit) none none
        (.response 200 "\x7b\"result\": null, \"diem_ledger_version\": 10, ...\x7d"
          (some (.object [("result", .null), ("diem_ledger_version", .int 10),
            ("diem_ledger_timestampusec", .int 1000)])) 100)
        Ledger.unknown.toState) = (.ok none, ⟨.null, .int 10, .int 1000⟩) ∧
    (executeWithoutRetry (α := Unit) none none (.response 200 "[]" (some (.array [])) 100)
        Ledger.unknown.toState).1 = .error (.attributeError "get") :=
  ⟨rfl, rfl, rfl, rfl⟩

/-! ## A retry loop that never runs -/

/-- With `Retry(0, 0.1, StaleResponseError)`, `get_account` returns `None`, which its callers
read as "no such account", and sends no request at all. -/
theorem getAccount_without_request (parseAccount : JsonValue → Except String Account)
    (https : ℕ → HttpOutcome) (s : State) :
    getAccount ⟨0, 0.1, PyException.isStaleResponseError⟩ parseAccount https s =
      (.ok none, [], s) := by
  have h := Retry.loop_of_maxRetries_nonpos ⟨0, 0.1, PyException.isStaleResponseError⟩
    (fun i => executeWithoutRetry (some (parseObj parseAccount)) none (https i)) s le_rfl
  simp only [getAccount, execute, Retry.execute, h]
  rfl

end DiemJsonRpc
