import DiemJsonRpc.Framework.Json
import DiemJsonRpc.Framework.Float

/-!
# What the client imports

`client.py` takes its state record from `diem.jsonrpc.state`, its exception classes from
`diem.jsonrpc.errors` and the messages it decodes from `jsonrpc_pb2`, none of which is part of
the source of this development, and its transport and clock from `requests` and `time`.  This
module fixes what the client relies on of each of them, and nothing more: the fields the client
reads, the exceptions it raises or catches, and the two library behaviours its control flow
depends on (`raise_for_status` and `time.sleep`, whose argument is a float of
`Framework/Float.lean`).

An exception is a value of one type, `PyException`, as every Python exception is an instance of
`BaseException`; `Retry` then tests membership in a class as a predicate on that type.  A raise
site of the client is a constructor whose arguments are the values its f-string message
interpolates, so two raise sites never produce the same exception.

`Ledger` is the integer view of the tracker: the spec's LedgerState.  Its order `≤` says where a
tracker may move: version and timestamp do not go down, and a chain id, once known, stays.
-/

namespace DiemJsonRpc

/-- Modelled from the spec: `diem.jsonrpc.state.State`, the spec's LedgerState.  A dataclass
checks no types, so each field holds whatever value `update_last_known_state` was handed. -/
structure State where
  chainId : JsonValue
  version : JsonValue
  timestampUsecs : JsonValue
  deriving Repr

/-- A ledger position with integer fields, as the spec's LedgerState describes it. -/
structure Ledger where
  chainId : ℤ
  version : ℤ
  timestampUsecs : ℤ
  deriving DecidableEq, Repr

namespace Ledger

def toState (l : Ledger) : State := ⟨.int l.chainId, .int l.version, .int l.timestampUsecs⟩

/-- `State(chain_id=-1, version=-1, timestamp_usecs=-1)`, the tracker of a fresh `Client`. -/
def unknown : Ledger := ⟨-1, -1, -1⟩

-- `a ≤ b`: a tracker at `a` may move to `b`.
instance : Preorder Ledger where
  le a b := a.version ≤ b.version ∧ a.timestampUsecs ≤ b.timestampUsecs ∧
    (a.chainId ≠ -1 → b.chainId = a.chainId)
  le_refl _ := ⟨le_rfl, le_rfl, fun _ => rfl⟩
  le_trans _ _ _ hab hbc := ⟨hab.1.trans hbc.1, hab.2.1.trans hbc.2.1,
    fun h => (hbc.2.2 (hab.2.2 h ▸ h)).trans (hab.2.2 h)⟩

lemma le_def {a b : Ledger} : a ≤ b ↔ a.version ≤ b.version ∧
    a.timestampUsecs ≤ b.timestampUsecs ∧ (a.chainId ≠ -1 → b.chainId = a.chainId) := Iff.rfl

lemma toState_injective : Function.Injective toState := by
  intro a b h
  cases a; cases b
  simp only [toState, State.mk.injEq, JsonValue.int.injEq] at h
  obtain ⟨rfl, rfl, rfl⟩ := h
  rfl

end Ledger

/-! ## The decoded messages

Modelled from the spec: the fields of the `jsonrpc_pb2` messages that the client reads.  Of a
`Transaction`, `wait_for_transaction2` reads the hash and the type of the VM status; of an
`Account`, the account walks read the role, whose unset protobuf strings are empty; and a
`VaspDomainEvent` is the `data` of an event on the treasury compliance account's VASP-domain
stream. -/

structure Transaction where
  hash : String
  vmStatusType : String
  deriving DecidableEq, Repr

structure AccountRole where
  type : String
  parentVaspAddress : String
  complianceKey : String
  baseUrl : String
  vaspDomainEventsKey : String
  deriving DecidableEq, Repr

structure Account where
  role : AccountRole
  deriving DecidableEq, Repr

structure VaspDomainEvent where
  removed : Bool
  domain : String
  address : String
  deriving DecidableEq, Repr

/-- Modelled from the spec: the constants of `diem.jsonrpc.constants` that the modelled
functions read.  That module is not part of the source, so they are parameters. -/
structure Constants where
  defaultWaitForTransactionTimeoutSecs : PyFloat
  defaultWaitForTransactionWaitDurationSecs : PyFloat
  vmStatusExecuted : String
  accountRoleParentVasp : String
  accountRoleChildVasp : String

/-- Python's `x or default` on an optional float: `None` and a zero fall back; NaN is true. -/
def pyOr (x : Option PyFloat) (default : PyFloat) : PyFloat :=
  match x with
  | some v => if v.truthy then v else default
  | none => default

/-- What `requests` raises (`requests.RequestException`): a failed connection or a timeout
from `Session.post`, or `HTTPError` from `raise_for_status`. -/
inductive RequestException where
  | connectionError
  | timeout
  | httpError (statusCode : ℕ)
  deriving DecidableEq, Repr

/-- Why a `ValueError` was raised: `time.sleep` on NaN ("Invalid value NaN (not a number)") or
on a negative length ("sleep length must be non-negative"); `get_parent_vasp_account`'s "given
account address({hex}) is not a VASP account: {account}"; `get_base_url_and_compliance_key`'s
"could not find base_url and compliance_key from account: {account}"; `bytes.fromhex`'s
"non-hexadecimal number found in fromhex() arg at position ..."; and
`Ed25519PublicKey.from_public_bytes`'s "An Ed25519 public key is 32 bytes long". -/
inductive ValueErrorReason where
  | nanSleepLength
  | negativeSleepLength
  | notVaspAccount (address : String) (account : Account)
  | noBaseUrlAndComplianceKey (account : Account)
  | nonHexadecimal (hex : String)
  | ed25519KeyLength
  deriving DecidableEq, Repr

/-- The messages of `InvalidServerResponse`: "last known chain id {curr.chain_id}, but got
{chain_id}"; "Parse response as json failed: {e}, response: {response.text}"; "No error or
result in response: {json}"; "Parse result failed: {e}, response: {json}". -/
inductive InvalidReason where
  | chainIdMismatch (known got : JsonValue)
  | notJson (text : String)
  | noErrorOrResult (json : JsonValue)
  | parseFailed (message : String) (json : JsonValue)

/-- The messages of `StaleResponseError`: "last known version {curr.version} > {version}" and
"last known timestamp_usecs {curr.timestamp_usecs} > {timestamp_usecs}". -/
inductive StaleReason where
  | version (known got : JsonValue)
  | timestampUsecs (known got : JsonValue)

/-- Modelled from the spec: the exceptions the client raises or catches.  The first group
comes from Python and the libraries: `ParseError` from a result parser, `TypeError` from an
ordering Python cannot make, `AttributeError` from `.get` on a JSON value that is no dict,
`IndexError` from `random.choice([])`, `KeyError` from `del d[key]`, `RecursionError` from the
interpreter's recursion limit, `OverflowError` from `time.sleep` ("timestamp out of range for
platform time_t"), and any other class by name.  The second comes from `diem.jsonrpc.errors`,
whose classes the spec's §7 lists as distinct kinds. -/
inductive PyException where
  | requestException (e : RequestException)
  | parseError (message : String)
  | typeError
  | attributeError (name : String)
  | indexError
  | keyError (key : String)
  | valueError (reason : ValueErrorReason)
  | recursionError
  | overflowError
  | other (name : String)
  | networkError (e : RequestException)
  | invalidServerResponse (reason : InvalidReason)
  | staleResponseError (reason : StaleReason)
  | jsonRpcError (err : JsonValue)
  | accountNotFoundError (address : String)
  | transactionHashMismatchError (txn : Transaction) (txnHash : String)
  | transactionExecutionFailed (txn : Transaction)
  | transactionExpired (state : State) (expirationTimeSecs : ℤ)
  | waitForTransactionTimeout (startTime now : PyFloat)

namespace PyException

/-- `type(e).__name__`. -/
def className : PyException → String
  | requestException _ => "RequestException"
  | parseError _ => "ParseError"
  | typeError => "TypeError"
  | attributeError _ => "AttributeError"
  | indexError => "IndexError"
  | keyError _ => "KeyError"
  | valueError _ => "ValueError"
  | recursionError => "RecursionError"
  | overflowError => "OverflowError"
  | other name => name
  | networkError _ => "NetworkError"
  | invalidServerResponse _ => "InvalidServerResponse"
  | staleResponseError _ => "StaleResponseError"
  | jsonRpcError _ => "JsonRpcError"
  | accountNotFoundError _ => "AccountNotFoundError"
  | transactionHashMismatchError _ _ => "TransactionHashMismatchError"
  | transactionExecutionFailed _ => "TransactionExecutionFailed"
  | transactionExpired _ _ => "TransactionExpired"
  | waitForTransactionTimeout _ _ => "WaitForTransactionTimeout"

-- `isinstance(e, StaleResponseError)` and `isinstance(e, TransactionExpired)`.

def isStaleResponseError : PyException → Bool
  | staleResponseError _ => true
  | _ => false

def isTransactionExpired : PyException → Bool
  | transactionExpired _ _ => true
  | _ => false

end PyException

/-- What `Session.post(url, json=request, timeout=...)` gives the client: the
`RequestException` it raises, or the response.  `json` is the JSON document the body holds
(`none` when it holds none, and `.json()` raises `ValueError`), and `room` is how many nested
arrays and objects `json.loads` may still enter before the interpreter's recursion limit: about
`sys.getrecursionlimit()` less the depth of the thread's stack when it decodes. -/
inductive HttpOutcome where
  | raised (e : RequestException)
  | response (statusCode : ℕ) (text : String) (json : Option JsonValue) (room : ℕ)

/-- `response.raise_for_status()`: `requests` raises `HTTPError` on a 4xx or 5xx status and on
no other. -/
def raiseForStatus (statusCode : ℕ) : Except PyException Unit :=
  if 400 ≤ statusCode ∧ statusCode < 600 then .error (.requestException (.httpError statusCode))
  else .ok ()

/-- `time.sleep(secs)` in CPython 3.11 (`_PyTime_FromSecondsObject` with
`_PyTime_ROUND_TIMEOUT`): NaN is a `ValueError`; otherwise `secs * 1e9` as a double, rounded
away from zero to whole nanoseconds, must lie in `[-2 ^ 63, 2 ^ 63)`, or `OverflowError`; and a
negative length is a `ValueError`. -/
def timeSleep (secs : PyFloat) : Except PyException Unit :=
  match secs * 1e9 with
  | .nan => .error (.valueError .nanSleepLength)
  | .inf _ => .error .overflowError
  | .finite ns =>
    if -2 ^ 63 ≤ ns.roundAway ∧ ns.roundAway < 2 ^ 63 then
      if ns.roundAway < 0 then .error (.valueError .negativeSleepLength) else .ok ()
    else .error .overflowError

/-- `time.sleep` raises only `ValueError` and `OverflowError`. -/
lemma timeSleep_eq_error {secs : PyFloat} {e : PyException} (h : timeSleep secs = .error e) :
    (∃ reason, e = .valueError reason) ∨ e = .overflowError := by
  unfold timeSleep at h
  split at h
  · cases h; exact .inl ⟨_, rfl⟩
  · cases h; exact .inr rfl
  · split_ifs at h <;> cases h
    · exact .inl ⟨_, rfl⟩
    · exact .inr rfl

end DiemJsonRpc
