import DiemJsonRpc.Framework.Interfaces
import Mathlib.Data.List.Nodup

/-!
# `get_vasp_domain_map`: the domain events in batches

`Client.get_vasp_domain_map(batch_size)` reads the VASP-domain event stream of the treasury
compliance account in batches: it calls `get_events(key, event_index, batch_size)`, applies the
batch to a dict (`del` for a removal, which raises `KeyError` on a domain the dict lacks, an
assignment otherwise), stops after the first batch shorter than `batch_size`, and else moves
`event_index` on by `batch_size`.

The dict is `DomainMap`: its items in insertion order with distinct keys, as CPython keeps a
`dict`; an assignment to a present key keeps its place.  `get_events` is any function of its
arguments.  It goes through `Client.execute` (`Client/Execute.lean`), so it answers with an
exception, with `None` (what `execute` returns when `Retry` makes no attempt), or with a list of
events.  The outcome of `must_get_account(TREASURY_ADDRESS)` is likewise an input.  The loop
need not end (a `batch_size` of `0` asks for empty batches forever), so it is given a number of
calls.

`getVaspDomainMap_eq_one_pass` takes `get_events` serving the slices `S[start : start + limit]`
of one stream `S`.  It shows that for every `batch_size ≥ 1` the loop ends after
`|S| / batch_size + 1` calls at `0, batch_size, 2 * batch_size, …`, that the batches it iterates
over are `S` cut in pieces, and that its outcome is that of applying `S` to `{}` in one pass, so
the same for every batch size.

The argument is not checked, and below one the exit test `len(events) < batch_size` never holds.
`getVaspDomainMap_ends_iff` takes `get_events` serving Python slices over all integers
(`pySlice`, negative bounds counting from the end): for every integer `batch_size` the loop ends
after finitely many calls exactly when `batch_size ≥ 1` or applying its first batch
`S[0 : batch_size]` raises.  With `batch_size = 0` it asks for `S[0:0]` forever
(`getVaspDomainMap_zero_batch_loops`).
-/

namespace DiemJsonRpc

/-! ## The dict -/

/-- A `dict` from domains to addresses: its items in insertion order, with distinct keys. -/
structure DomainMap where
  items : List (String × String)
  keys_nodup : (items.map Prod.fst).Nodup

namespace DomainMap

lemma keys_replace (items : List (String × String)) (domain address : String) :
    (items.map fun p => if p.1 = domain then (domain, address) else p).map Prod.fst =
      items.map Prod.fst := by
  rw [List.map_map]
  exact List.map_congr_left fun p _ => by by_cases h : p.1 = domain <;> simp [h]

lemma keys_nodup_append {items : List (String × String)} {domain : String}
    (hnd : (items.map Prod.fst).Nodup) (h : domain ∉ items.map Prod.fst) (address : String) :
    ((items ++ [(domain, address)]).map Prod.fst).Nodup := by
  rw [List.map_append, List.nodup_append]
  exact ⟨hnd, List.nodup_singleton _, by simpa [List.disjoint_singleton] using h⟩

/-- `{}`. -/
def empty : DomainMap := ⟨[], List.nodup_nil⟩

/-- `d[domain] = address`: a present key takes the new value in its place, an absent one goes
last. -/
def set (m : DomainMap) (domain address : String) : DomainMap :=
  if h : domain ∈ m.items.map Prod.fst then
    ⟨m.items.map fun p => if p.1 = domain then (domain, address) else p,
      (keys_replace m.items domain address).symm ▸ m.keys_nodup⟩
  else ⟨m.items ++ [(domain, address)], keys_nodup_append m.keys_nodup h address⟩

/-- `del d[domain]`, which raises `KeyError` on an absent key. -/
def del (m : DomainMap) (domain : String) : Except PyException DomainMap :=
  if domain ∈ m.items.map Prod.fst then
    .ok ⟨m.items.filter fun p => p.1 ≠ domain,
      m.keys_nodup.sublist ((List.filter_sublist _).map _)⟩
  else .error (.keyError domain)

/-- `d.get(domain)`. -/
def get (m : DomainMap) (domain : String) : Option String :=
  (m.items.find? fun p => p.1 = domain).map Prod.snd

lemma find?_replace_self {items : List (String × String)} {domain : String}
    (h : domain ∈ items.map Prod.fst) (address : String) :
    (items.map fun p => if p.1 = domain then (domain, address) else p).find? (fun p => p.1 = domain) =
      some (domain, address) := by
  induction items with
  | nil => simp at h
  | cons q qs ih =>
    by_cases hq : q.1 = domain
    · simp [hq]
    · rw [List.map_cons, List.mem_cons] at h
      rw [List.map_cons, List.find?_cons, if_neg hq, decide_eq_false hq]
      exact ih (h.resolve_left (Ne.symm hq))

lemma find?_replace_other (items : List (String × String)) {domain other : String}
    (ho : other ≠ domain) (address : String) :
    (items.map fun p => if p.1 = domain then (domain, address) else p).find? (fun p => p.1 = other) =
      items.find? (fun p => p.1 = other) := by
  induction items with
  | nil => rfl
  | cons q qs ih => by_cases hq : q.1 = domain <;> by_cases hq' : q.1 = other <;> simp_all

lemma find?_filter_other (items : List (String × String)) {domain other : String}
    (ho : other ≠ domain) :
    (items.filter fun p => p.1 ≠ domain).find? (fun p => p.1 = other) =
      items.find? (fun p => p.1 = other) := by
  induction items with
  | nil => rfl
  | cons q qs ih => by_cases hq : q.1 = domain <;> by_cases hq' : q.1 = other <;> simp_all

/-- After `d[domain] = address`, `d.get` is `address` at `domain` and unchanged elsewhere. -/
lemma get_set (m : DomainMap) (domain address other : String) :
    (m.set domain address).get other = if other = domain then some address else m.get other := by
  unfold set get
  split_ifs with h ho ho <;> dsimp only
  · subst ho
    rw [find?_replace_self h]
    rfl
  · rw [find?_replace_other _ ho]
  · subst ho
    have hnone : m.items.find? (fun p => p.1 = other) = none :=
      List.find?_eq_none.2 fun p hp hpd => h (List.mem_map.2 ⟨p, hp, of_decide_eq_true hpd⟩)
    simp [List.find?_append, hnone]
  · simp [List.find?_append, Ne.symm ho]

/-- `del d[domain]` succeeds only on a present key, and then `d.get` is `None` at `domain` and
unchanged elsewhere. -/
lemma get_del {m m' : DomainMap} {domain : String} (h : m.del domain = .ok m') (other : String) :
    m'.get other = if other = domain then none else m.get other := by
  unfold del at h
  split_ifs at h
  cases h
  unfold get
  split_ifs with ho
  · subst ho
    simp [List.find?_eq_none]
  · dsimp only
    rw [find?_filter_other _ ho]

end DomainMap

/-- The body of `for event in events`: `del domain_map[event.data.domain]` for a removal, else
`domain_map[event.data.domain] = event.data.address`. -/
def applyEvent (domainMap : DomainMap) (event : VaspDomainEvent) : Except PyException DomainMap :=
  if event.removed then domainMap.del event.domain
  else .ok (domainMap.set event.domain event.address)

/-! ## The loop -/

/-- The `while True` loop from `event_index`, with at most `fuel` more calls of
`get_events(key, event_index, batch_size)`: the outcome (`none`: still looping), and the
`event_index` of each call that returned events, with the events.  `for event in None` raises
`TypeError`. -/
def domainMapLoop (getEvents : String → ℤ → ℤ → Except PyException (Option (List VaspDomainEvent)))
    (key : String) (batchSize : ℤ) :
    ℕ → ℤ → DomainMap → Option (Except PyException DomainMap) × List (ℤ × List VaspDomainEvent)
  | 0, _, _ => (none, [])
  | fuel + 1, eventIndex, domainMap =>
    match getEvents key eventIndex batchSize with
    | .error e => (some (.error e), [])
    | .ok none => (some (.error .typeError), [])
    | .ok (some events) =>
      match events.foldlM applyEvent domainMap with
      | .error e => (some (.error e), [(eventIndex, events)])
      | .ok domainMap =>
        if (events.length : ℤ) < batchSize then (some (.ok domainMap), [(eventIndex, events)])
        else
          let rest := domainMapLoop getEvents key batchSize fuel (eventIndex + batchSize) domainMap
          (rest.1, (eventIndex, events) :: rest.2)

/-- `Client.get_vasp_domain_map(batch_size)`, given the outcome of
`must_get_account(TREASURY_ADDRESS)`, for at most `fuel` calls of `get_events`. -/
def getVaspDomainMap (tcAccount : Except PyException Account)
    (getEvents : String → ℤ → ℤ → Except PyException (Option (List VaspDomainEvent)))
    (batchSize : ℤ) (fuel : ℕ) :
    Option (Except PyException DomainMap) × List (ℤ × List VaspDomainEvent) :=
  match tcAccount with
  | .error e => (some (.error e), [])
  | .ok tcAccount =>
    domainMapLoop getEvents tcAccount.role.vaspDomainEventsKey batchSize fuel 0 .empty

@[simp] lemma getVaspDomainMap_ok (tcAccount : Account)
    (getEvents : String → ℤ → ℤ → Except PyException (Option (List VaspDomainEvent)))
    (batchSize : ℤ) (fuel : ℕ) :
    getVaspDomainMap (.ok tcAccount) getEvents batchSize fuel =
      domainMapLoop getEvents tcAccount.role.vaspDomainEventsKey batchSize fuel 0 .empty := rfl

/-! ## Serving one stream in slices -/

section Slices

variable {getEvents : String → ℤ → ℤ → Except PyException (Option (List VaspDomainEvent))}
  {key : String} {S : List VaspDomainEvent} {b : ℕ}

/-- A batch is a slice, and the stream from `i` is the batch followed by the stream from
`i + b`. -/
lemma drop_eq_batch_append (S : List VaspDomainEvent) (i b : ℕ) :
    S.drop i = (S.drop i).take b ++ S.drop (i + b) := by
  rw [← List.drop_drop, List.take_append_drop]

lemma range_map_succ_start (q i b : ℕ) :
    (List.range (q + 1 + 1)).map (fun k => ((i + k * b : ℕ) : ℤ)) =
      (i : ℤ) :: (List.range (q + 1)).map (fun k => ((i + b + k * b : ℕ) : ℤ)) := by
  rw [List.range_succ_eq_map, List.map_cons, List.map_map]
  congr 2
  · simp
  · funext k
    simp only [Function.comp, Nat.succ_eq_add_one, Nat.cast_inj]
    rw [Nat.add_mul, Nat.one_mul]
    omega

/-- From call index `i` on, the loop given enough calls ends with the outcome of applying the
rest of the stream in one pass; when it returns the dict, its calls are at `i, i + b, …` and
their batches make up the rest of the stream. -/
lemma domainMapLoop_serves
    (hS : ∀ start limit : ℕ, getEvents key start limit = .ok (some ((S.drop start).take limit)))
    (hb : 1 ≤ b) :
    ∀ fuel (i : ℕ) (m : DomainMap), (S.length - i) / b + 1 ≤ fuel →
      (domainMapLoop getEvents key b fuel i m).1 = some ((S.drop i).foldlM applyEvent m) ∧
      ∀ m', (domainMapLoop getEvents key b fuel i m).1 = some (.ok m') →
        (domainMapLoop getEvents key b fuel i m).2.map Prod.fst =
            (List.range ((S.length - i) / b + 1)).map (fun k => ((i + k * b : ℕ) : ℤ)) ∧
          ((domainMapLoop getEvents key b fuel i m).2.map Prod.snd).flatten = S.drop i := by
  intro fuel
  induction fuel with
  | zero => intro i m h; exact absurd h (Nat.not_succ_le_zero _)
  | succ fuel ih =>
    intro i m hfuel
    obtain ⟨batch, hbatch⟩ : ∃ batch, (S.drop i).take b = batch := ⟨_, rfl⟩
    have hsplit : S.drop i = batch ++ S.drop (i + b) := hbatch ▸ drop_eq_batch_append S i b
    have hlen : batch.length = b ∧ b ≤ S.length - i ∨
        batch.length = S.length - i ∧ S.length - i < b := by
      rw [← hbatch, List.length_take, List.length_drop, min_def]
      split_ifs <;> omega
    rw [domainMapLoop, hS, hbatch, hsplit, List.foldlM_append]
    rcases hfold : batch.foldlM applyEvent m with e | m₁ <;> simp only [hfold]
    · exact ⟨rfl, fun m' h => by simp at h⟩
    · by_cases hshort : (batch.length : ℤ) < (b : ℤ)
      · -- the last batch: the rest of the stream is empty
        have hrest : S.drop (i + b) = [] := List.drop_eq_nil_of_le (by omega)
        have hq : (S.length - i) / b = 0 := Nat.div_eq_of_lt (by omega)
        simp [hshort, hrest, hq, List.range_succ]
      · -- a full batch: one more call, `b` further on
        have hq : (S.length - i) / b = (S.length - (i + b)) / b + 1 := by
          rw [Nat.div_eq_sub_div (by omega) (by omega), Nat.sub_sub]
        have hidx : ((i : ℤ) + (b : ℤ)) = ((i + b : ℕ) : ℤ) := by push_cast; rfl
        obtain ⟨ih1, ih2⟩ := ih (i + b) m₁ (by omega)
        simp only [hshort, if_false, hidx]
        refine ⟨by simpa using ih1, fun m' hm' => ?_⟩
        obtain ⟨hcalls, hbatches⟩ := ih2 m' hm'
        exact ⟨by rw [List.map_cons, hcalls, hq, range_map_succ_start],
          by rw [List.map_cons, List.flatten_cons, hbatches]⟩

end Slices

/-- For every batch size `b ≥ 1` and every stream `S` that `get_events` serves as
`S[start : start + limit]`: given `|S| / b + 1` calls, `get_vasp_domain_map(b)` ends, with the
outcome of applying `S` to `{}` in one pass (the dict, or the `KeyError` of a removal of an
unmapped domain), which does not depend on `b`; and when it returns the dict it made exactly
`|S| / b + 1` calls, at `0, b, 2b, …`, whose batches make up `S` in order. -/
theorem getVaspDomainMap_eq_one_pass (tcAccount : Account)
    (getEvents : String → ℤ → ℤ → Except PyException (Option (List VaspDomainEvent)))
    (S : List VaspDomainEvent)
    (hS : ∀ start limit : ℕ, getEvents tcAccount.role.vaspDomainEventsKey start limit =
      .ok (some ((S.drop start).take limit)))
    (b : ℕ) (hb : 1 ≤ b) (fuel : ℕ) (hfuel : S.length / b + 1 ≤ fuel) :
    (getVaspDomainMap (.ok tcAccount) getEvents b fuel).1 = some (S.foldlM applyEvent .empty) ∧
      ∀ m, (getVaspDomainMap (.ok tcAccount) getEvents b fuel).1 = some (.ok m) →
        (getVaspDomainMap (.ok tcAccount) getEvents b fuel).2.map Prod.fst =
            (List.range (S.length / b + 1)).map (fun k => ((k * b : ℕ) : ℤ)) ∧
          ((getVaspDomainMap (.ok tcAccount) getEvents b fuel).2.map Prod.snd).flatten = S := by
  have h := domainMapLoop_serves hS hb fuel 0 .empty (by simpa using hfuel)
  simpa [getVaspDomainMap] using h

/-- A stream of four events read two at a time, a length that is a multiple of the batch size,
with a domain removed and mapped again across the batch boundary. -/
theorem getVaspDomainMap_eq_one_pass_readd :
    let S : List VaspDomainEvent := [⟨false, "a.com", "A1"⟩, ⟨false, "b.com", "B1"⟩,
      ⟨true, "a.com", ""⟩, ⟨false, "a.com", "A2"⟩]
    let tc : Account := ⟨⟨"treasury_compliance", "", "", "", "ev-key"⟩⟩
    let getEvents : String → ℤ → ℤ → Except PyException (Option (List VaspDomainEvent)) :=
      fun _ start limit => .ok (some ((S.drop start.toNat).take limit.toNat))
    (∀ start limit : ℕ, getEvents tc.role.vaspDomainEventsKey start limit =
        .ok (some ((S.drop start).take limit))) ∧ 1 ≤ 2 ∧ S.length / 2 + 1 ≤ 3 ∧
      ((getVaspDomainMap (.ok tc) getEvents (2 : ℕ) 3).1 = some (S.foldlM applyEvent .empty) ∧
        ∀ m, (getVaspDomainMap (.ok tc) getEvents (2 : ℕ) 3).1 = some (.ok m) →
          (getVaspDomainMap (.ok tc) getEvents (2 : ℕ) 3).2.map Prod.fst =
              (List.range (S.length / 2 + 1)).map (fun k => ((k * 2 : ℕ) : ℤ)) ∧
            ((getVaspDomainMap (.ok tc) getEvents (2 : ℕ) 3).2.map Prod.snd).flatten = S) :=
  ⟨fun _ _ => by simp, by decide, by decide,
    getVaspDomainMap_eq_one_pass _ _ _ (fun _ _ => by simp) 2 (by decide) 3 (by decide)⟩

/-! ## Batch sizes below one

Python slices `S[start:stop]` over all integers, as the server of `getVaspDomainMap_ends_iff`
answers `get_events(key, start, limit)`.  Under `batch_size ≤ 0` the first call asks for
`S[0 : batch_size]`, and every later one, at `event_index = k * batch_size`, for an empty
slice; the exit test never holds, so only a first batch that raises ends the loop. -/

/-- A slice bound as CPython adjusts it for a sequence of length `n` (`PySlice_AdjustIndices`):
a negative index counts from the end, and the result is clamped to `0 … n`. -/
def sliceIndex (n : ℕ) (i : ℤ) : ℕ :=
  if i < 0 then (i + n).toNat else min i.toNat n

/-- `S[start:stop]`. -/
def pySlice {β : Type} (S : List β) (start stop : ℤ) : List β :=
  (S.drop (sliceIndex S.length start)).take (sliceIndex S.length stop - sliceIndex S.length start)

section PySlice

variable {β : Type} (S : List β)

/-- On natural bounds a slice is the `drop` and `take` that `getVaspDomainMap_eq_one_pass`
serves batches with. -/
lemma pySlice_natCast (start limit : ℕ) :
    pySlice S start (start + limit) = (S.drop start).take limit := by
  have hs : sliceIndex S.length start = min start S.length := by
    rw [sliceIndex, if_neg (by omega)]
    omega
  have he : sliceIndex S.length (start + limit) = min (start + limit) S.length := by
    rw [sliceIndex, if_neg (by omega)]
    omega
  rw [pySlice, hs, he]
  rcases le_total start S.length with h | h
  · rw [min_eq_left h, List.take_eq_take, List.length_drop]
    omega
  · rw [min_eq_right h, List.drop_eq_nil_of_le le_rfl, List.drop_eq_nil_of_le h]
    simp

lemma pySlice_self (i : ℤ) : pySlice S i i = [] := by
  simp [pySlice]

/-- From a negative start, a slice that does not move forward is empty. -/
lemma pySlice_of_neg {i b : ℤ} (hi : i < 0) (hb : b ≤ 0) : pySlice S i (i + b) = [] := by
  have hle : sliceIndex S.length (i + b) ≤ sliceIndex S.length i := by
    rw [sliceIndex, sliceIndex, if_pos hi, if_pos (by omega)]
    omega
  simp [pySlice, Nat.sub_eq_zero_of_le hle]

end PySlice

section NonPositive

variable {getEvents : String → ℤ → ℤ → Except PyException (Option (List VaspDomainEvent))}
  {key : String} {S : List VaspDomainEvent} {b : ℤ}

/-- Under `batch_size ≤ 0` a batch that applies never ends the loop: it goes on at
`event_index + batch_size`. -/
lemma domainMapLoop_of_nonpos (hb : b ≤ 0) {fuel : ℕ} {i : ℤ} {m m' : DomainMap}
    {events : List VaspDomainEvent} (hget : getEvents key i b = .ok (some events))
    (hfold : events.foldlM applyEvent m = .ok m') :
    (domainMapLoop getEvents key b (fuel + 1) i m).1 =
      (domainMapLoop getEvents key b fuel (i + b) m').1 := by
  rw [domainMapLoop, hget]
  simp only [hfold, if_neg (show ¬ (events.length : ℤ) < b by omega)]

/-- Past the first call, under `batch_size ≤ 0`, every slice asked for is empty, and the loop is
still running after any number of calls. -/
lemma domainMapLoop_nonpos_running
    (hS : ∀ start limit : ℤ, getEvents key start limit = .ok (some (pySlice S start (start + limit))))
    (hb : b ≤ 0) : ∀ (fuel : ℕ) (i : ℤ) (m : DomainMap), i < 0 ∨ b = 0 →
      (domainMapLoop getEvents key b fuel i m).1 = none := by
  intro fuel
  induction fuel with
  | zero => intro i m _; rfl
  | succ fuel ih =>
    intro i m hi
    have hempty : pySlice S i (i + b) = [] := by
      rcases hi with hi | rfl
      · exact pySlice_of_neg S hi hb
      · rw [add_zero]
        exact pySlice_self S i
    have hfold : (pySlice S i (i + b)).foldlM applyEvent m = .ok m := by rw [hempty]; rfl
    rw [domainMapLoop_of_nonpos hb (hS i b) hfold]
    exact ih (i + b) m (by omega)

/-- Under `batch_size ≤ 0` the loop ends only if applying its first batch `S[0 : batch_size]`
raises, and then with that exception. -/
lemma domainMapLoop_nonpos
    (hS : ∀ start limit : ℤ, getEvents key start limit = .ok (some (pySlice S start (start + limit))))
    (hb : b ≤ 0) (fuel : ℕ) :
    (domainMapLoop getEvents key b (fuel + 1) 0 .empty).1 =
      match (pySlice S 0 b).foldlM applyEvent .empty with
      | .error e => some (.error e)
      | .ok _ => none := by
  rcases hfold : (pySlice S 0 b).foldlM applyEvent .empty with e | m
  · rw [domainMapLoop, hS, zero_add]
    simp only [hfold]
  · rw [domainMapLoop_of_nonpos hb (hS 0 b) (by rw [zero_add]; exact hfold)]
    exact domainMapLoop_nonpos_running hS hb fuel _ m (by omega)

end NonPositive

/-- For every integer `batch_size` and every stream `S` that `get_events` serves as the Python
slices `S[start : start + limit]`: `get_vasp_domain_map(batch_size)` ends, returning or raising,
after finitely many calls of `get_events` exactly when `batch_size ≥ 1` or applying its first
batch `S[0 : batch_size]` raises. -/
theorem getVaspDomainMap_ends_iff (tcAccount : Account)
    (getEvents : String → ℤ → ℤ → Except PyException (Option (List VaspDomainEvent)))
    (S : List VaspDomainEvent)
    (hS : ∀ start limit : ℤ, getEvents tcAccount.role.vaspDomainEventsKey start limit =
      .ok (some (pySlice S start (start + limit))))
    (b : ℤ) :
    (∃ fuel, (getVaspDomainMap (.ok tcAccount) getEvents b fuel).1 ≠ none) ↔
      1 ≤ b ∨ ∃ e, (pySlice S 0 b).foldlM applyEvent .empty = .error e := by
  simp only [getVaspDomainMap_ok]
  constructor
  · rintro ⟨fuel, hend⟩
    refine or_iff_not_imp_left.2 fun h1 => ?_
    rcases fuel with _ | fuel
    · exact absurd rfl hend
    rw [domainMapLoop_nonpos hS (by omega) fuel] at hend
    rcases hfold : (pySlice S 0 b).foldlM applyEvent .empty with e | m
    · exact ⟨e, rfl⟩
    · simp [hfold] at hend
  · intro h
    by_cases h1 : 1 ≤ b
    · -- a positive batch size: the stream is read through, as for `getVaspDomainMap_eq_one_pass`
      obtain ⟨n, rfl⟩ := Int.eq_ofNat_of_zero_le (by omega : 0 ≤ b)
      have hS' : ∀ start limit : ℕ, getEvents tcAccount.role.vaspDomainEventsKey start limit =
          .ok (some ((S.drop start).take limit)) := fun start limit => by
        rw [hS, pySlice_natCast]
      obtain ⟨hserve, -⟩ := domainMapLoop_serves hS' (show 1 ≤ n by omega) (S.length / n + 1) 0
        .empty (by simp)
      rw [Nat.cast_zero] at hserve
      exact ⟨S.length / n + 1, by simp [hserve]⟩
    · obtain ⟨e, he⟩ := h.resolve_left h1
      refine ⟨1, ?_⟩
      rw [domainMapLoop_nonpos hS (by omega) 0, he]
      simp

/-- `batch_size = -1` over a stream whose first event removes an unmapped domain: the first
batch `S[0:-1]` raises `KeyError`. -/
theorem getVaspDomainMap_ends_iff_negative :
    let S : List VaspDomainEvent := [⟨true, "a.com", ""⟩, ⟨false, "b.com", "B1"⟩]
    let tc : Account := ⟨⟨"treasury_compliance", "", "", "", "ev-key"⟩⟩
    let getEvents : String → ℤ → ℤ → Except PyException (Option (List VaspDomainEvent)) :=
      fun _ start limit => .ok (some (pySlice S start (start + limit)))
    (∀ start limit : ℤ, getEvents tc.role.vaspDomainEventsKey start limit =
        .ok (some (pySlice S start (start + limit)))) ∧
      ((∃ fuel, (getVaspDomainMap (.ok tc) getEvents (-1) fuel).1 ≠ none) ↔
        1 ≤ (-1 : ℤ) ∨ ∃ e, (pySlice S 0 (-1)).foldlM applyEvent .empty = .error e) :=
  ⟨fun _ _ => rfl, getVaspDomainMap_ends_iff _ _ _ (fun _ _ => rfl) (-1)⟩

/-- `batch_size = 0` over a stream of one event: every call is `get_events(key, 0, 0)`, which
serves `S[0:0] = []`, so after any number of calls the loop is still running. -/
theorem getVaspDomainMap_zero_batch_loops :
    let S : List VaspDomainEvent := [⟨false, "a.com", "A1"⟩]
    let tc : Account := ⟨⟨"treasury_compliance", "", "", "", "ev-key"⟩⟩
    let getEvents : String → ℤ → ℤ → Except PyException (Option (List VaspDomainEvent)) :=
      fun _ start limit => .ok (some (pySlice S start (start + limit)))
    ∀ fuel, getVaspDomainMap (.ok tc) getEvents 0 fuel = (none, List.replicate fuel (0, [])) := by
  intro S tc getEvents fuel
  rw [getVaspDomainMap_ok]
  induction fuel with
  | zero => rfl
  | succ fuel ih =>
    have hstep : domainMapLoop getEvents tc.role.vaspDomainEventsKey 0 (fuel + 1) 0 .empty =
        ((domainMapLoop getEvents tc.role.vaspDomainEventsKey 0 fuel 0 .empty).1,
          (0, []) :: (domainMapLoop getEvents tc.role.vaspDomainEventsKey 0 fuel 0 .empty).2) :=
      rfl
    rw [hstep, ih]
    rfl

end DiemJsonRpc
