import DiemJsonRpc.Client.DomainMap

/-!
# What `get_vasp_domain_map` computes

`Client/DomainMap.lean` translates the loop and its dict, and shows that on a served stream the
loop ends with the outcome of applying the whole stream to `{}` in one pass.  This module says
what that pass computes.

## Two levels

The dict is seen through `d.get`, a function from domains to `Optional[str]`.  `applyEventSpec`
is what an event does to that function: a removal of an unmapped domain raises `KeyError`, any
other removal unmaps the domain, an assignment maps it.  `applyEvent` on `DomainMap` refines it,
for one event (`applyEvent_get`) and for any sequence of them (`foldlM_applyEvent_get`); the
order in which CPython keeps the items is not visible through `get`.

## The closed form

On the function level a pass from `{}` is a scan: every domain holds the address of the last
event on it, unless that event is a removal (`lastAddress`), and the pass raises exactly when
some removal finds its domain unmapped by the events before it (`RemovalsMapped`,
`foldlM_applyEventSpec_eq_ok`).  `getVaspDomainMap_last_event` joins the two levels to the
one-pass lemma of the loop: for every batch size `≥ 1` and every served stream,
`get_vasp_domain_map` returns the dict whose `get` is `lastAddress S` when `RemovalsMapped S`
holds, and raises the `KeyError` of a removal in `S` when it fails.
-/

namespace DiemJsonRpc

/-! ## The dict as `d.get` -/

/-- What an event does to the dict seen as `d.get`: a removal of an unmapped domain raises
`KeyError`, any other removal unmaps it, and an assignment maps it. -/
def applyEventSpec (get : String → Option String) (event : VaspDomainEvent) :
    Except PyException (String → Option String) :=
  if event.removed then
    if get event.domain = none then .error (.keyError event.domain)
    else .ok (Function.update get event.domain none)
  else .ok (Function.update get event.domain (some event.address))

namespace DomainMap

lemma get_empty : empty.get = fun _ => none := rfl

lemma get_eq_none_iff {m : DomainMap} {domain : String} :
    m.get domain = none ↔ domain ∉ m.items.map Prod.fst := by
  simp only [get, Option.map_eq_none', List.find?_eq_none, decide_eq_true_eq, List.mem_map,
    not_exists, not_and]

end DomainMap

/-- `applyEvent` on the dict refines `applyEventSpec` on its `get`. -/
lemma applyEvent_get (m : DomainMap) (event : VaspDomainEvent) :
    (applyEvent m event).map DomainMap.get = applyEventSpec m.get event := by
  unfold applyEvent applyEventSpec
  by_cases hr : event.removed = true
  · rw [if_pos hr, if_pos hr]
    by_cases hmem : event.domain ∈ m.items.map Prod.fst
    · obtain ⟨m', hm'⟩ : ∃ m', m.del event.domain = .ok m' := ⟨_, if_pos hmem⟩
      rw [hm', if_neg (mt DomainMap.get_eq_none_iff.1 (not_not.2 hmem))]
      exact congrArg Except.ok
        (funext fun d => by rw [DomainMap.get_del hm', Function.update_apply])
    · rw [DomainMap.del, if_neg hmem, if_pos (DomainMap.get_eq_none_iff.2 hmem)]
      rfl
  · rw [if_neg hr, if_neg hr]
    exact congrArg Except.ok (funext fun d => by rw [DomainMap.get_set, Function.update_apply])

/-- Any sequence of events: the pass over the dict refines the pass over its `get`. -/
lemma foldlM_applyEvent_get (S : List VaspDomainEvent) (m : DomainMap) :
    (S.foldlM applyEvent m).map DomainMap.get = S.foldlM applyEventSpec m.get := by
  induction S generalizing m with
  | nil => rfl
  | cons event S ih =>
    have h := applyEvent_get m event
    rw [List.foldlM_cons, List.foldlM_cons]
    rcases happly : applyEvent m event with e | m'
    · rw [happly] at h
      rw [← h]
      rfl
    · rw [happly] at h
      rw [← h]
      exact ih m'

/-! ## The closed form -/

/-- What the events `S`, applied to `{}` one by one, leave at `domain`: the address of the last
event on it, unless that event is a removal. -/
def lastAddress (S : List VaspDomainEvent) (domain : String) : Option String :=
  S.foldl (fun acc event => if domain = event.domain then
    (if event.removed then none else some event.address) else acc) none

/-- Every removal in `S` finds its domain mapped by the events before it. -/
def RemovalsMapped (S : List VaspDomainEvent) : Prop :=
  ∀ i (h : i < S.length), S[i].removed → lastAddress (S.take i) S[i].domain ≠ none

instance (S : List VaspDomainEvent) : Decidable (RemovalsMapped S) := by
  unfold RemovalsMapped; infer_instance

example : ¬ RemovalsMapped [⟨false, "a.com", "A1"⟩, ⟨true, "b.com", ""⟩] := by decide

lemma lastAddress_append_singleton (S : List VaspDomainEvent) (event : VaspDomainEvent) :
    lastAddress (S ++ [event]) = Function.update (lastAddress S) event.domain
      (if event.removed then none else some event.address) := by
  funext domain
  rw [Function.update_apply]
  simp only [lastAddress, List.foldl_append, List.foldl_cons, List.foldl_nil]

lemma removalsMapped_append_singleton (S : List VaspDomainEvent) (event : VaspDomainEvent) :
    RemovalsMapped (S ++ [event]) ↔
      RemovalsMapped S ∧ (event.removed → lastAddress S event.domain ≠ none) := by
  constructor
  · intro h
    refine ⟨fun i hi hr => ?_, fun hr => ?_⟩
    · have := h i (by simp; omega) (by rwa [List.getElem_append_left hi])
      rwa [List.getElem_append_left hi, List.take_append_of_le_length hi.le] at this
    · have := h S.length (by simp) (by simpa using hr)
      simpa using this
  · rintro ⟨h, he⟩ i hi hr
    rcases Nat.lt_or_ge i S.length with hlt | hge
    · rw [List.getElem_append_left hlt] at hr ⊢
      rw [List.take_append_of_le_length hlt.le]
      exact h i hlt hr
    · obtain rfl : i = S.length := by simp at hi; omega
      simp at hr ⊢
      exact he hr

/-- A pass over `d.get` from `{}` returns exactly when every removal finds its domain mapped,
and then every domain holds the address of the last event on it, unless that was a removal. -/
lemma foldlM_applyEventSpec_eq_ok (S : List VaspDomainEvent) (get : String → Option String) :
    S.foldlM applyEventSpec (fun _ => none) = .ok get ↔
      RemovalsMapped S ∧ get = lastAddress S := by
  induction S using List.reverseRecOn generalizing get with
  | nil =>
    refine ⟨fun h => ⟨fun i hi => absurd hi (Nat.not_lt_zero i), ?_⟩, fun h => ?_⟩
    · cases h; rfl
    · rw [h.2]; rfl
  | append_singleton S event ih =>
    rw [List.foldlM_append, removalsMapped_append_singleton, lastAddress_append_singleton]
    rcases hS : S.foldlM applyEventSpec (fun _ => none) with e | get₀
    · -- the stream before `event` raised
      have hnot : ¬ RemovalsMapped S := fun h => by
        cases hS.symm.trans ((ih (lastAddress S)).2 ⟨h, rfl⟩)
      exact ⟨fun h => (by cases h), fun h => absurd h.1.1 hnot⟩
    · obtain ⟨hmapped, rfl⟩ := (ih get₀).1 hS
      simp only [bind, Except.bind, pure, Except.pure, List.foldlM_cons, List.foldlM_nil,
        applyEventSpec]
      by_cases hr : event.removed = true
      · by_cases hnone : lastAddress S event.domain = none
        · simp [hr, hnone]
        · simp [hr, hnone, hmapped, eq_comm]
      · simp [hr, hmapped, eq_comm]

/-- A pass over `d.get` raises only the `KeyError` of a removal in the stream. -/
lemma foldlM_applyEventSpec_error {S : List VaspDomainEvent} {get : String → Option String}
    {e : PyException} (h : S.foldlM applyEventSpec get = .error e) :
    ∃ r ∈ S, r.removed ∧ e = .keyError r.domain := by
  induction S generalizing get with
  | nil => cases h
  | cons event S ih =>
    rw [List.foldlM_cons] at h
    rcases happly : applyEventSpec get event with e' | get'
    · rw [happly] at h
      cases h
      unfold applyEventSpec at happly
      split_ifs at happly with hr
      cases happly
      exact ⟨event, List.mem_cons_self _ _, hr, rfl⟩
    · rw [happly] at h
      obtain ⟨r, hr, hrest⟩ := ih h
      exact ⟨r, List.mem_cons_of_mem _ hr, hrest⟩

/-- For every batch size `b ≥ 1` and every stream `S` that `get_events` serves as
`S[start : start + limit]`, given `|S| / b + 1` calls: when every removal in `S` finds its
domain mapped by the events before it, `get_vasp_domain_map(b)` returns the dict that maps each
domain to the address of the last event on it and holds no domain whose last event is a
removal; otherwise it raises the `KeyError` of a removal in `S`. -/
theorem getVaspDomainMap_last_event (tcAccount : Account)
    (getEvents : String → ℤ → ℤ → Except PyException (Option (List VaspDomainEvent)))
    (S : List VaspDomainEvent)
    (hS : ∀ start limit : ℕ, getEvents tcAccount.role.vaspDomainEventsKey start limit =
      .ok (some ((S.drop start).take limit)))
    (b : ℕ) (hb : 1 ≤ b) (fuel : ℕ) (hfuel : S.length / b + 1 ≤ fuel) :
    (RemovalsMapped S → ∃ m, (getVaspDomainMap (.ok tcAccount) getEvents b fuel).1 =
        some (.ok m) ∧ m.get = lastAddress S) ∧
      (¬ RemovalsMapped S → ∃ r ∈ S, r.removed ∧
        (getVaspDomainMap (.ok tcAccount) getEvents b fuel).1 =
          some (.error (.keyError r.domain))) := by
  have hloop := (domainMapLoop_serves hS hb fuel 0 .empty (by simpa using hfuel)).1
  rw [List.drop_zero, Nat.cast_zero] at hloop
  rw [getVaspDomainMap_ok, hloop]
  have hspec := foldlM_applyEvent_get S .empty
  rcases hfold : S.foldlM applyEvent .empty with e | m <;> rw [hfold] at hspec
  · have hnot : ¬ RemovalsMapped S := fun h =>
      by cases hspec.trans ((foldlM_applyEventSpec_eq_ok S _).2 ⟨h, rfl⟩)
    obtain ⟨r, hr, hrem, rfl⟩ := foldlM_applyEventSpec_error hspec.symm
    exact ⟨fun h => absurd h hnot, fun _ => ⟨r, hr, hrem, rfl⟩⟩
  · obtain ⟨hmapped, hget⟩ := (foldlM_applyEventSpec_eq_ok S m.get).1 hspec.symm
    exact ⟨fun _ => ⟨m, rfl, hget⟩, fun h => absurd hmapped h⟩

/-- A stream of four events read two at a time, with a domain removed and mapped again across
the batch boundary. -/
theorem getVaspDomainMap_last_event_readd :
    let S : List VaspDomainEvent := [⟨false, "a.com", "A1"⟩, ⟨false, "b.com", "B1"⟩,
      ⟨true, "a.com", ""⟩, ⟨false, "a.com", "A2"⟩]
    let tc : Account := ⟨⟨"treasury_compliance", "", "", "", "ev-key"⟩⟩
    let getEvents : String → ℤ → ℤ → Except PyException (Option (List VaspDomainEvent)) :=
      fun _ start limit => .ok (some ((S.drop start.toNat).take limit.toNat))
    (∀ start limit : ℕ, getEvents tc.role.vaspDomainEventsKey start limit =
        .ok (some ((S.drop start).take limit))) ∧ 1 ≤ 2 ∧ S.length / 2 + 1 ≤ 3 ∧
      (RemovalsMapped S → ∃ m, (getVaspDomainMap (.ok tc) getEvents (2 : ℕ) 3).1 =
          some (.ok m) ∧ m.get = lastAddress S) ∧
        (¬ RemovalsMapped S → ∃ r ∈ S, r.removed ∧
          (getVaspDomainMap (.ok tc) getEvents (2 : ℕ) 3).1 =
            some (.error (.keyError r.domain))) :=
  ⟨fun _ _ => by simp, by decide, by decide,
    getVaspDomainMap_last_event _ _ _ (fun _ _ => by simp) 2 (by decide) 3 (by decide)⟩

end DiemJsonRpc
