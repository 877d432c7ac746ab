import DiemJsonRpc.Framework.Interfaces
import Mathlib.Logic.Relation
import Mathlib.Data.List.Nodup

/-!
# Walking up the parent chain of an account

`Client.get_parent_vasp_account(address)` and `Client.get_base_url_and_compliance_key(address)`
have one shape: `must_get_account(address)`, then a look at the account's role that either ends
the call (a result, or `ValueError`) or recurses on `role.parent_vasp_address`.  `walkParents`
is that shape, with the look at the role as a parameter `step`, and each function is
`walkParents` applied to its own step.  The recursion has no bound of its own: what stops a
walk that never ends is the interpreter's recursion limit, so `walkParents` is given the number
of levels the stack has room for and raises `RecursionError` beyond it.  Each walk returns the
addresses it looked up, in order.

`get_account` is given by its outcome at each address.  Over a fixed map from addresses to
accounts (`accounts`), the walk follows `parentLink`, a partial function, so a walk that ends
looks up pairwise distinct addresses (`EndingChain.nodup`), while a walk from an address on a
cycle of links never ends and uses up the stack (`walkParents_of_cycle`).
`walkParents_bound` gives both cases for both functions, and `walkParents_returns` says what
each function returns: the value of the last account it looked up.
-/

namespace DiemJsonRpc

/-! ## The two walks -/

/-- `must_get_account(address)`: `AccountNotFoundError` when `get_account` returns `None`. -/
def mustGetAccount (getAccount : String → Except PyException (Option Account)) (address : String) :
    Except PyException Account :=
  match getAccount address with
  | .error e => .error e
  | .ok none => .error (.accountNotFoundError address)
  | .ok (some account) => .ok account

/-- What a level of a parent-chain walk does with the account it fetched: end the call, or
recurse on a parent address. -/
inductive WalkStep (α : Type) where
  | done (outcome : Except PyException α)
  | follow (parent : String)

/-- The address a step recurses on. -/
def WalkStep.parent? {α : Type} : WalkStep α → Option String
  | .done _ => none
  | .follow parent => some parent

/-- A walk up the parent chain from `address` with room for `depth` more levels: the outcome,
and the addresses looked up. -/
def walkParents {α : Type} (getAccount : String → Except PyException (Option Account))
    (step : String → Account → WalkStep α) : ℕ → String → Except PyException α × List String
  | 0, _ => (.error .recursionError, [])
  | depth + 1, address =>
    match mustGetAccount getAccount address with
    | .error e => (.error e, [address])
    | .ok account =>
      match step address account with
      | .done outcome => (outcome, [address])
      | .follow parent =>
        let r := walkParents getAccount step depth parent
        (r.1, address :: r.2)

/-- The look at the role in `get_parent_vasp_account`. -/
def parentVaspStep (c : Constants) (address : String) (account : Account) : WalkStep Account :=
  if account.role.type = c.accountRoleParentVasp then .done (.ok account)
  else if account.role.type = c.accountRoleChildVasp then .follow account.role.parentVaspAddress
  else .done (.error (.valueError (.notVaspAccount address account)))

/-- `Client.get_parent_vasp_account(vasp_account_address)`. -/
def getParentVaspAccount (c : Constants) (getAccount : String → Except PyException (Option Account))
    (depth : ℕ) (vaspAccountAddress : String) : Except PyException Account × List String :=
  walkParents getAccount (parentVaspStep c) depth vaspAccountAddress

/-- An Ed25519 public key: 32 bytes. -/
structure Ed25519PublicKey where
  bytes : List UInt8
  length_eq : bytes.length = 32

/-- The value of a hexadecimal digit. -/
def hexDigit? (c : Char) : Option UInt8 :=
  if '0' ≤ c ∧ c ≤ '9' then some (c.toNat - '0'.toNat).toUInt8
  else if 'a' ≤ c ∧ c ≤ 'f' then some (c.toNat - 'a'.toNat + 10).toUInt8
  else if 'A' ≤ c ∧ c ≤ 'F' then some (c.toNat - 'A'.toNat + 10).toUInt8
  else none

/-- CPython's `Py_ISSPACE`, the whitespace `bytes.fromhex` skips between bytes. -/
def pyIsSpace (c : Char) : Bool :=
  c = ' ' || c = '\t' || c = '\n' || c = '\x0b' || c = '\x0c' || c = '\r'

/-- `bytes.fromhex(s)`: two hexadecimal digits per byte, whitespace skipped between bytes;
`none` where it raises `ValueError`. -/
def bytesFromHex : List Char → Option (List UInt8)
  | [] => some []
  | c :: rest =>
    if pyIsSpace c then bytesFromHex rest
    else match rest with
      | [] => none
      | d :: rest => do
        let hi ← hexDigit? c
        let lo ← hexDigit? d
        let tail ← bytesFromHex rest
        pure ((hi * 16 + lo) :: tail)

/-- `Ed25519PublicKey.from_public_bytes(bytes.fromhex(hex))`. -/
def ed25519FromHex (hex : String) : Except PyException Ed25519PublicKey :=
  match bytesFromHex hex.toList with
  | none => .error (.valueError (.nonHexadecimal hex))
  | some bytes =>
    if h : bytes.length = 32 then .ok ⟨bytes, h⟩ else .error (.valueError .ed25519KeyLength)

/-- The look at the role in `get_base_url_and_compliance_key`: unset protobuf strings are empty,
and so false. -/
def baseUrlStep (_address : String) (account : Account) :
    WalkStep (String × Ed25519PublicKey) :=
  if account.role.complianceKey ≠ "" ∧ account.role.baseUrl ≠ "" then
    .done ((ed25519FromHex account.role.complianceKey).map fun key => (account.role.baseUrl, key))
  else if account.role.parentVaspAddress ≠ "" then .follow account.role.parentVaspAddress
  else .done (.error (.valueError (.noBaseUrlAndComplianceKey account)))

/-- `Client.get_base_url_and_compliance_key(account_address)`. -/
def getBaseUrlAndComplianceKey (getAccount : String → Except PyException (Option Account))
    (depth : ℕ) (accountAddress : String) :
    Except PyException (String × Ed25519PublicKey) × List String :=
  walkParents getAccount baseUrlStep depth accountAddress

/-! ## Chains of a partial link function -/

/-- A walk that ends: each address links to the next, and the last links nowhere. -/
inductive EndingChain (link : String → Option String) : List String → Prop
  | last (a : String) : link a = none → EndingChain link [a]
  | cons (a b : String) (rest : List String) :
      link a = some b → EndingChain link (b :: rest) → EndingChain link (a :: b :: rest)

namespace EndingChain

variable {link : String → Option String}

/-- A link function leaves one ending chain from each address. -/
lemma tail_unique {a : String} {l l' : List String} (h : EndingChain link (a :: l))
    (h' : EndingChain link (a :: l')) : l = l' := by
  induction l generalizing a l' with
  | nil =>
    cases h with
    | last _ hn => cases h' with
      | last => rfl
      | cons _ _ _ hs => simp [hn] at hs
  | cons b l ih =>
    cases h with
    | cons _ _ _ hs hc => cases h' with
      | last _ hn => simp [hn] at hs
      | cons _ b' _ hs' hc' =>
        obtain rfl : b = b' := Option.some_injective _ (hs.symm.trans hs')
        rw [ih hc hc']

lemma tail {a b : String} {l : List String} (h : EndingChain link (a :: b :: l)) :
    EndingChain link (b :: l) := by
  cases h with
  | cons _ _ _ _ hc => exact hc

/-- Every address of an ending chain starts an ending chain that is a suffix of it. -/
lemma of_mem {l : List String} (h : EndingChain link l) {x : String} (hx : x ∈ l) :
    ∃ post, EndingChain link (x :: post) ∧ x :: post <:+ l := by
  induction h with
  | last a hn =>
    rw [List.mem_singleton.1 hx]
    exact ⟨[], .last a hn, List.suffix_refl _⟩
  | cons a b rest hs hc ih =>
    rcases List.mem_cons.1 hx with rfl | hx
    · exact ⟨b :: rest, .cons _ _ _ hs hc, List.suffix_refl _⟩
    · obtain ⟨post, hpost, hsuf⟩ := ih hx
      exact ⟨post, hpost, hsuf.trans (List.suffix_cons _ _)⟩

lemma nodup {l : List String} (h : EndingChain link l) : l.Nodup := by
  induction h with
  | last => exact List.nodup_singleton _
  | cons a b rest hs hc ih =>
    refine List.nodup_cons.2 ⟨fun ha => ?_, ih⟩
    obtain ⟨post, hpost, hsuf⟩ := of_mem hc ha
    rw [tail_unique hpost (.cons _ _ _ hs hc)] at hsuf
    simpa using hsuf.length_le

/-- Whatever the links reach from the head of an ending chain is further on in it. -/
lemma mem_of_transGen {a y : String} {l : List String} (h : EndingChain link (a :: l))
    (hy : Relation.TransGen (fun x y => link x = some y) a y) : y ∈ l := by
  induction hy with
  | single hs =>
    cases h with
    | last _ hn => simp [hn] at hs
    | cons _ b _ hs' _ => exact Option.some_injective _ (hs'.symm.trans hs) ▸ List.mem_cons_self _ _
  | tail _ hs ih =>
    obtain ⟨b, l, rfl⟩ : ∃ b l', l = b :: l' := List.exists_cons_of_ne_nil (List.ne_nil_of_mem ih)
    obtain ⟨post, hpost, hsuf⟩ := of_mem h.tail ih
    cases hpost with
    | last _ hn => simp [hn] at hs
    | cons _ z _ hs' _ =>
      exact hsuf.subset (Option.some_injective _ (hs'.symm.trans hs) ▸
        List.mem_cons_of_mem _ (List.mem_cons_self _ _))

/-- No ending chain starts where the links reach a cycle. -/
lemma not_of_cycle {a x : String} {l : List String} (h : EndingChain link (a :: l))
    (hax : Relation.ReflTransGen (fun x y => link x = some y) a x)
    (hx : Relation.TransGen (fun x y => link x = some y) x x) : False := by
  have hmem : x ∈ a :: l := by
    rcases Relation.reflTransGen_iff_eq_or_transGen.1 hax with rfl | hax
    · exact List.mem_cons_self _ _
    · exact List.mem_cons_of_mem _ (mem_of_transGen h hax)
  obtain ⟨post, hpost, -⟩ := of_mem h hmem
  exact (List.nodup_cons.1 hpost.nodup).1 (mem_of_transGen hpost hx)

/-- In an ending chain only the last address links nowhere. -/
lemma eq_append_of_stop {l : List String} (h : EndingChain link l) {x : String} (hx : x ∈ l)
    (hn : link x = none) :
    ∃ l', l = l' ++ [x] ∧ ∀ y ∈ l', ∃ z, link y = some z := by
  induction h with
  | last a _ =>
    obtain rfl := List.mem_singleton.1 hx
    exact ⟨[], rfl, fun _ h => by cases h⟩
  | cons a b rest hs _ ih =>
    rcases List.mem_cons.1 hx with rfl | hx
    · rw [hs] at hn
      cases hn
    · obtain ⟨l', hl', hlink⟩ := ih hx
      refine ⟨a :: l', by rw [hl']; rfl, fun y hy => ?_⟩
      rcases List.mem_cons.1 hy with rfl | hy
      · exact ⟨b, hs⟩
      · exact hlink y hy

end EndingChain

/-! ## A walk over a fixed map of accounts -/

section Walk

variable {α : Type} (accounts : String → Option Account) (step : String → Account → WalkStep α)

/-- The parent the walk moves on to from `address`, if it moves on. -/
def parentLink (address : String) : Option String :=
  (accounts address).bind fun account => (step address account).parent?

/-- How a walk ends at `address`: `AccountNotFoundError` on a missing account, else as the step
decides. -/
def StopsWith (address : String) (outcome : Except PyException α) : Prop :=
  match accounts address with
  | none => outcome = .error (.accountNotFoundError address)
  | some account => step address account = .done outcome

variable {accounts step}

lemma walkParents_of_link {depth : ℕ} {address parent : String}
    (h : parentLink accounts step address = some parent) :
    walkParents (fun a => .ok (accounts a)) step (depth + 1) address =
      ((walkParents (fun a => .ok (accounts a)) step depth parent).1,
        address :: (walkParents (fun a => .ok (accounts a)) step depth parent).2) := by
  unfold parentLink at h
  cases ha : accounts address with
  | none => simp [ha] at h
  | some account =>
    cases hs : step address account with
    | done outcome => simp [ha, hs, WalkStep.parent?] at h
    | follow p =>
      simp only [ha, hs, Option.bind, WalkStep.parent?, Option.some.injEq] at h
      subst h
      simp [walkParents, mustGetAccount, ha, hs]

lemma walkParents_of_stop (depth : ℕ) {address : String}
    (h : parentLink accounts step address = none) :
    ∃ outcome, walkParents (fun a => .ok (accounts a)) step (depth + 1) address =
      (outcome, [address]) ∧ StopsWith accounts step address outcome := by
  unfold parentLink at h
  rcases ha : accounts address with _ | account
  · exact ⟨.error (.accountNotFoundError address), by simp [walkParents, mustGetAccount, ha],
      by simp [StopsWith, ha]⟩
  · rcases hs : step address account with outcome | p
    · exact ⟨outcome, by simp [walkParents, mustGetAccount, ha, hs], by simp [StopsWith, ha, hs]⟩
    · simp [ha, hs, WalkStep.parent?] at h

/-- Every address a walk looks up is reached from its start along parent links. -/
lemma walkParents_reach (depth : ℕ) (address : String) :
    ∀ x ∈ (walkParents (fun a => .ok (accounts a)) step depth address).2,
      Relation.ReflTransGen (fun x y => parentLink accounts step x = some y) address x := by
  induction depth generalizing address with
  | zero => simp [walkParents]
  | succ depth ih =>
    rcases hl : parentLink accounts step address with _ | parent
    · obtain ⟨outcome, hw, -⟩ := walkParents_of_stop depth hl
      rw [hw]
      rintro x hx
      rw [List.mem_singleton.1 hx]
    · rw [walkParents_of_link hl]
      rintro x (_ | ⟨_, hx⟩)
      · exact .refl
      · exact .head hl (ih parent x hx)

/-- A walk either uses up the stack, looking up `depth` addresses, or ends: its lookups form an
ending chain from its start, and its outcome is how the chain stops. -/
lemma walkParents_cases (depth : ℕ) (address : String) :
    let r := walkParents (fun a => .ok (accounts a)) step depth address
    (r.1 = .error .recursionError ∧ r.2.length = depth) ∨
      ∃ l, r.2 = address :: l ∧ EndingChain (parentLink accounts step) (address :: l) ∧
        l.length < depth ∧ ∃ last ∈ address :: l, StopsWith accounts step last r.1 := by
  induction depth generalizing address with
  | zero => exact .inl ⟨rfl, rfl⟩
  | succ depth ih =>
    rcases hl : parentLink accounts step address with _ | parent
    · obtain ⟨outcome, hw, hstop⟩ := walkParents_of_stop depth hl
      rw [hw]
      exact .inr ⟨[], rfl, .last _ hl, by simp, address, List.mem_singleton_self _, hstop⟩
    · rw [walkParents_of_link hl]
      rcases ih parent with ⟨hrec, hlen⟩ | ⟨l, hr, hc, hlen, last, hmem, hstop⟩
      · exact .inl ⟨hrec, by simp [hlen]⟩
      · refine .inr ⟨parent :: l, by rw [hr], .cons _ _ _ hl hc, by simp; omega, last,
          List.mem_cons_of_mem _ hmem, hstop⟩

/-- A walk from where the parent links reach a cycle uses up the stack. -/
lemma walkParents_of_cycle {depth : ℕ} {address x : String}
    (hax : Relation.ReflTransGen (fun x y => parentLink accounts step x = some y) address x)
    (hx : Relation.TransGen (fun x y => parentLink accounts step x = some y) x x) :
    (walkParents (fun a => .ok (accounts a)) step depth address).1 = .error .recursionError ∧
      (walkParents (fun a => .ok (accounts a)) step depth address).2.length = depth := by
  rcases walkParents_cases depth address with h | ⟨l, -, hc, -⟩
  · exact h
  · exact (hc.not_of_cycle hax hx).elim

/-- A walk that returned a value looked it up last, at an account whose step returned it; every
account looked up before it moved the walk on. -/
lemma walkParents_ok {depth : ℕ} {address : String} {v : α}
    (h : (walkParents (fun a => .ok (accounts a)) step depth address).1 = .ok v) :
    ∃ l last account, (walkParents (fun a => .ok (accounts a)) step depth address).2 = l ++ [last] ∧
      accounts last = some account ∧ step last account = .done (.ok v) ∧
      ∀ y ∈ l, ∃ account' parent, accounts y = some account' ∧ step y account' = .follow parent := by
  rcases walkParents_cases depth address with ⟨hrec, -⟩ | ⟨l, hr, hc, -, last, hmem, hstop⟩
  · rw [hrec] at h
    cases h
  rw [h] at hstop
  unfold StopsWith at hstop
  rcases hacc : accounts last with _ | account <;> rw [hacc] at hstop
  · cases hstop
  have hn : parentLink accounts step last = none := by
    simp [parentLink, hacc, hstop, WalkStep.parent?]
  obtain ⟨l', hl', hlink⟩ := hc.eq_append_of_stop hmem hn
  refine ⟨l', last, account, by rw [hr, hl'], hacc, hstop, fun y hy => ?_⟩
  obtain ⟨z, hz⟩ := hlink y hy
  unfold parentLink at hz
  rcases hy' : accounts y with _ | account' <;> rw [hy'] at hz
  · cases hz
  rcases hs : step y account' with outcome | parent <;> simp [hs, WalkStep.parent?] at hz
  exact ⟨account', parent, rfl, hs⟩

end Walk

/-! ## What the two functions end with -/

/-- A result, or one of the exceptions the two functions' docstrings name: `ValueError` and
`AccountNotFoundError`. -/
def EndsAsDocumented {α : Type} (r : Except PyException α) : Prop :=
  (∃ v, r = .ok v) ∨
    ∃ e, r = .error e ∧ (e.className = "ValueError" ∨ e.className = "AccountNotFoundError")

lemma stopsWith_documented {α : Type} {accounts : String → Option Account}
    {step : String → Account → WalkStep α}
    (hstep : ∀ a account r, step a account = .done r → EndsAsDocumented r)
    {address : String} {r : Except PyException α} (h : StopsWith accounts step address r) :
    EndsAsDocumented r := by
  unfold StopsWith at h
  split at h
  · exact .inr ⟨_, h, .inr rfl⟩
  · exact hstep _ _ _ h

lemma parentVaspStep_documented (c : Constants) (a : String) (account : Account)
    (r : Except PyException Account) (h : parentVaspStep c a account = .done r) :
    EndsAsDocumented r := by
  unfold parentVaspStep at h
  split_ifs at h <;> cases h
  · exact .inl ⟨_, rfl⟩
  · exact .inr ⟨_, rfl, .inl rfl⟩

lemma baseUrlStep_documented (a : String) (account : Account)
    (r : Except PyException (String × Ed25519PublicKey)) (h : baseUrlStep a account = .done r) :
    EndsAsDocumented r := by
  unfold baseUrlStep at h
  split_ifs at h <;> cases h
  · unfold ed25519FromHex
    split
    · exact .inr ⟨_, rfl, .inl rfl⟩
    · split
      · exact .inl ⟨_, rfl⟩
      · exact .inr ⟨_, rfl, .inl rfl⟩
  · exact .inr ⟨_, rfl, .inl rfl⟩

/-- What a walk from `address` with room for `depth` levels does: every address it looks up is
reached from `address` along parent links, and it either raises `RecursionError` after `depth`
lookups, or ends with a result, `ValueError` or `AccountNotFoundError` after at most `depth`
lookups of pairwise distinct addresses. -/
def WalkBound {α : Type} (accounts : String → Option Account) (step : String → Account → WalkStep α)
    (depth : ℕ) (address : String) (r : Except PyException α × List String) : Prop :=
  (∀ x ∈ r.2, Relation.ReflTransGen (fun x y => parentLink accounts step x = some y) address x) ∧
    ((r.1 = .error .recursionError ∧ r.2.length = depth) ∨
      (r.2.Nodup ∧ r.2.length ≤ depth ∧ EndsAsDocumented r.1))

lemma walkParents_walkBound {α : Type} {accounts : String → Option Account}
    {step : String → Account → WalkStep α}
    (hstep : ∀ a account r, step a account = .done r → EndsAsDocumented r) (depth : ℕ)
    (address : String) :
    WalkBound accounts step depth address
      (walkParents (fun a => .ok (accounts a)) step depth address) := by
  refine ⟨walkParents_reach depth address, ?_⟩
  rcases walkParents_cases depth address with h | ⟨l, hr, hc, hlen, last, -, hstop⟩
  · exact .inl h
  · rw [hr]
    exact .inr ⟨hc.nodup, by simp; omega, stopsWith_documented hstep hstop⟩

/-- For every map from addresses to accounts and every room on the stack:
`get_parent_vasp_account` and `get_base_url_and_compliance_key` look up only addresses reached
along parent links, and either end with a result, `ValueError` or `AccountNotFoundError` after
lookups of pairwise distinct addresses, or raise `RecursionError` once the stack is used up;
the latter is what a walk does whenever the links from its start reach a cycle. -/
theorem walkParents_bound (c : Constants) (accounts : String → Option Account) (depth : ℕ)
    (address : String) :
    WalkBound accounts (parentVaspStep c) depth address
        (getParentVaspAccount c (fun a => .ok (accounts a)) depth address) ∧
      WalkBound accounts baseUrlStep depth address
        (getBaseUrlAndComplianceKey (fun a => .ok (accounts a)) depth address) ∧
      ((∃ x, Relation.ReflTransGen (fun x y => parentLink accounts (parentVaspStep c) x = some y)
          address x ∧ Relation.TransGen (fun x y => parentLink accounts (parentVaspStep c) x = some y) x x) →
        (getParentVaspAccount c (fun a => .ok (accounts a)) depth address).1 = .error .recursionError ∧
          (getParentVaspAccount c (fun a => .ok (accounts a)) depth address).2.length = depth) ∧
      ((∃ x, Relation.ReflTransGen (fun x y => parentLink accounts baseUrlStep x = some y) address x ∧
          Relation.TransGen (fun x y => parentLink accounts baseUrlStep x = some y) x x) →
        (getBaseUrlAndComplianceKey (fun a => .ok (accounts a)) depth address).1 =
            .error .recursionError ∧
          (getBaseUrlAndComplianceKey (fun a => .ok (accounts a)) depth address).2.length = depth) :=
  ⟨walkParents_walkBound (parentVaspStep_documented c) depth address,
    walkParents_walkBound baseUrlStep_documented depth address,
    fun ⟨_, hax, hx⟩ => walkParents_of_cycle hax hx,
    fun ⟨_, hax, hx⟩ => walkParents_of_cycle hax hx⟩

/-- Two ChildVASP accounts that name each other as parent: with room for three levels,
`get_parent_vasp_account` looks up three times, though only two addresses are reachable, and
raises `RecursionError`, neither `ValueError` nor `AccountNotFoundError`. -/
theorem getParentVaspAccount_two_cycle :
    getParentVaspAccount ⟨30, 0.1, "executed", "parent_vasp", "child_vasp"⟩
        (fun x => .ok (if x = "a1" then some ⟨⟨"child_vasp", "b2", "", "", ""⟩⟩
          else if x = "b2" then some ⟨⟨"child_vasp", "a1", "", "", ""⟩⟩ else none)) 3 "a1" =
      (.error .recursionError, ["a1", "b2", "a1"]) := by
  rfl

/-! ## What the two functions return

A walk that returns looked up its value last, every account before it having moved it on
(`walkParents_ok`, from `EndingChain.eq_append_of_stop`). -/

/-- For every map from addresses to accounts and every room on the stack:
`get_parent_vasp_account` returns only a ParentVASP account, the one at the last address it
looked up, every account before it being a ChildVASP account; and
`get_base_url_and_compliance_key` returns the base URL and the 32-byte key of the last account it
looked up, which has both fields set, every account before it lacking one of them and naming a
parent. -/
theorem walkParents_returns (c : Constants) (accounts : String → Option Account) (depth : ℕ)
    (address : String) :
    (∀ account, (getParentVaspAccount c (fun a => .ok (accounts a)) depth address).1 =
        .ok account →
      account.role.type = c.accountRoleParentVasp ∧
      ∃ l last, (getParentVaspAccount c (fun a => .ok (accounts a)) depth address).2 =
          l ++ [last] ∧ accounts last = some account ∧
        ∀ y ∈ l, ∃ account', accounts y = some account' ∧
          account'.role.type ≠ c.accountRoleParentVasp ∧
          account'.role.type = c.accountRoleChildVasp) ∧
    ∀ baseUrl key, (getBaseUrlAndComplianceKey (fun a => .ok (accounts a)) depth address).1 =
        .ok (baseUrl, key) →
      ∃ l last account, (getBaseUrlAndComplianceKey (fun a => .ok (accounts a)) depth address).2 =
          l ++ [last] ∧ accounts last = some account ∧ account.role.baseUrl = baseUrl ∧
        baseUrl ≠ "" ∧ account.role.complianceKey ≠ "" ∧
        ed25519FromHex account.role.complianceKey = .ok key ∧
        ∀ y ∈ l, ∃ account', accounts y = some account' ∧
          ¬ (account'.role.complianceKey ≠ "" ∧ account'.role.baseUrl ≠ "") ∧
          account'.role.parentVaspAddress ≠ "" := by
  refine ⟨fun account h => ?_, fun baseUrl key h => ?_⟩
  · obtain ⟨l, last, account₀, hr, hacc, hstep, hbefore⟩ := walkParents_ok h
    unfold parentVaspStep at hstep
    split_ifs at hstep with hp <;> cases hstep
    refine ⟨hp, l, last, hr, hacc, fun y hy => ?_⟩
    obtain ⟨account', parent, hy', hs⟩ := hbefore y hy
    unfold parentVaspStep at hs
    split_ifs at hs with hp' hc'
    cases hs
    exact ⟨account', hy', hp', hc'⟩
  · obtain ⟨l, last, account, hr, hacc, hstep, hbefore⟩ := walkParents_ok h
    unfold baseUrlStep at hstep
    split_ifs at hstep with hk <;> try cases hstep
    rcases hkey : ed25519FromHex account.role.complianceKey with e | key' <;>
      rw [hkey] at hstep <;> cases hstep
    refine ⟨l, last, account, hr, hacc, rfl, hk.2, hk.1, hkey, fun y hy => ?_⟩
    obtain ⟨account', parent, hy', hs⟩ := hbefore y hy
    unfold baseUrlStep at hs
    split_ifs at hs with hk' hp'
    cases hs
    exact ⟨account', hy', hk', hp'⟩

/-- A ChildVASP account `c1` whose parent `p1` is a ParentVASP account:
`get_parent_vasp_account` returns a ParentVASP account. -/
theorem walkParents_returns_parent :
    let c : Constants := ⟨30, 0.1, "executed", "parent_vasp", "child_vasp"⟩
    let accounts : String → Option Account := fun x =>
      if x = "c1" then some ⟨⟨"child_vasp", "p1", "", "", ""⟩⟩
      else if x = "p1" then some ⟨⟨"parent_vasp", "", "", "", ""⟩⟩ else none
    ∃ account, (getParentVaspAccount c (fun a => .ok (accounts a)) 3 "c1").1 = .ok account ∧
      account.role.type = c.accountRoleParentVasp := by
  intro c accounts
  exact ⟨_, rfl, ((walkParents_returns c accounts 3 "c1").1 _ rfl).1⟩

end DiemJsonRpc
