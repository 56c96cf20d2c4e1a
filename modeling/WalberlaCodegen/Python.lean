import Mathlib.Data.List.Dedup

/-!
# Python's dicts and exceptions

The generators keep their intermediate data in Python dicts: `dict`, `OrderedDict`,
`defaultdict(set)` and the keyword-argument dicts of configurations. All of them keep
their items in insertion order, with each key once; `Dict` is that list of items, with
the uniqueness of keys as a field, so that no dict with a repeated key can be built.
`d[k] = v` (`Dict.set`) overwrites the value of a present key in place and appends a
new one. A `defaultdict(set)` is a `Dict` of lists used as sets, and `d[k].add(x)`
is `Dict.addToSet`. A `set` is iterated in an order Python chooses by hashes; `SetOrder`
stands for that order, any order of the set's elements, each once.

A Python exception is kept with its class and its message (`PyError`); a failing
`assert` is an `AssertionError` with the assertion's message.
-/

namespace WalberlaCodegen

/-- The Python exceptions the generators raise, with their messages. -/
inductive PyError where
  /-- A failed `assert`. -/
  | assertionError (msg : String)
  /-- `ValueError`. -/
  | valueError (msg : String)
  /-- `NotImplementedError`. -/
  | notImplementedError (msg : String)
  /-- `TypeError`, raised by Python itself. -/
  | typeError (msg : String)
  /-- `IndexError`, raised by Python itself. -/
  | indexError (msg : String)
  /-- `AttributeError`, raised by Python itself. -/
  | attributeError (msg : String)
  deriving DecidableEq, Repr

theorem bind_eq_ok_iff {ε α β : Type} {x : Except ε α} {f : α → Except ε β} {b : β} :
    x >>= f = .ok b ↔ ∃ a, x = .ok a ∧ f a = .ok b := by
  cases x <;> simp [bind, Except.bind]

theorem map_eq_ok_iff {ε α β : Type} {x : Except ε α} {f : α → β} {b : β} :
    f <$> x = .ok b ↔ ∃ a, x = .ok a ∧ f a = b := by
  cases x <;> simp [Functor.map, Except.map]

@[simp] theorem ok_bind {ε α β : Type} (a : α) (f : α → Except ε β) : (Except.ok a : Except ε α) >>= f = f a :=
  rfl

@[simp] theorem error_bind {ε α β : Type} (e : ε) (f : α → Except ε β) :
    (Except.error e : Except ε α) >>= f = .error e :=
  rfl

/-- `[f(a) for a in l]`: where it returns, each result is `f` of the item in its place. -/
theorem mapM_eq_ok_forall₂ {ε α β : Type} {f : α → Except ε β} :
    ∀ {l : List α} {l' : List β}, l.mapM f = .ok l' → List.Forall₂ (fun a b => f a = .ok b) l l'
  | [], _, h => by cases h; exact .nil
  | a :: l, _, h => by
    rw [List.mapM_cons] at h
    obtain ⟨b, hb, h⟩ := bind_eq_ok_iff.mp h
    obtain ⟨bs, hbs, h⟩ := bind_eq_ok_iff.mp h
    cases h
    exact .cons hb (mapM_eq_ok_forall₂ hbs)

/-- Where `[f(a) for a in l]` returns, `f` returns on every item. -/
theorem exists_eq_ok_of_mapM_eq_ok {ε α β : Type} {f : α → Except ε β} :
    ∀ {l : List α} {l' : List β}, l.mapM f = .ok l' → ∀ a ∈ l, ∃ b, f a = .ok b
  | [], _, _, a, h => absurd h (List.not_mem_nil a)
  | x :: l, _, h, a, ha => by
    rw [List.mapM_cons] at h
    obtain ⟨b, hb, h⟩ := bind_eq_ok_iff.mp h
    obtain ⟨bs, hbs, -⟩ := bind_eq_ok_iff.mp h
    rcases List.mem_cons.mp ha with rfl | ha
    exacts [⟨b, hb⟩, exists_eq_ok_of_mapM_eq_ok hbs a ha]

/-- `[f(a) for a in l]` where `f` returns, on every item, a value related to it: the list
returned is as long, and holds at each position a value related to the item there. -/
theorem mapM_eq_ok_of_forall {ε α β : Type} {f : α → Except ε β} {P : α → β → Prop} :
    ∀ {l : List α}, (∀ a ∈ l, ∃ b, f a = .ok b ∧ P a b) →
      ∃ l' : List β, l.mapM f = .ok l' ∧ l'.length = l.length ∧ ∀ (j : Nat) a, l[j]? = some a → ∃ b, l'[j]? = some b ∧ P a b
  | [], _ => ⟨[], rfl, rfl, fun j a h => by simp at h⟩
  | a :: l, h => by
    obtain ⟨b, hb, hP⟩ := h a (List.mem_cons_self _ _)
    obtain ⟨l', hl', hlen, hP'⟩ := mapM_eq_ok_of_forall fun x hx => h x (List.mem_cons_of_mem _ hx)
    refine ⟨b :: l', by rw [List.mapM_cons, hb, ok_bind, hl', ok_bind]; rfl, by simp [hlen], fun j x hx => ?_⟩
    cases j with
    | zero =>
      rw [List.getElem?_cons_zero, Option.some.injEq] at hx
      exact ⟨b, List.getElem?_cons_zero, hx ▸ hP⟩
    | succ j =>
      rw [List.getElem?_cons_succ] at hx ⊢
      exact hP' j x hx

/-- A Python dict: its items in insertion order, each key once. -/
structure Dict (K V : Type) where
  /-- `d.items()`. -/
  items : List (K × V)
  /-- A key occurs once. -/
  keys_nodup : (items.map Prod.fst).Nodup
  deriving DecidableEq

namespace Dict

variable {K V : Type} [DecidableEq K]

/-- `{}`. -/
def empty : Dict K V := ⟨[], List.nodup_nil⟩

/-- `d.keys()`. -/
def keys (d : Dict K V) : List K := d.items.map Prod.fst

/-- `d.get(k)`, `None` for a missing key. -/
def get? (d : Dict K V) (k : K) : Option V := d.items.lookup k

/-- `d[k] = v`: overwrite in place, or append. -/
def set (d : Dict K V) (k : K) (v : V) : Dict K V :=
  if h : k ∈ d.keys then
    ⟨d.items.map fun e => if e.1 = k then (k, v) else e, by
      rw [List.map_map]
      convert d.keys_nodup using 2
      funext e
      by_cases he : e.1 = k <;> simp [he]⟩
  else
    ⟨d.items ++ [(k, v)], by
      rw [List.map_append, List.nodup_append]
      exact ⟨d.keys_nodup, List.nodup_singleton _, by simpa [keys] using h⟩⟩

/-- `d.get(k, default)`. -/
def getD (d : Dict K V) (k : K) (default : V) : V := (d.get? k).getD default

theorem set_items_of_not_mem {d : Dict K V} {k : K} (h : k ∉ d.keys) (v : V) :
    (d.set k v).items = d.items ++ [(k, v)] := by
  rw [set, dif_neg h]

theorem set_items_of_mem {d : Dict K V} {k : K} (h : k ∈ d.keys) (v : V) :
    (d.set k v).items = d.items.map fun e => if e.1 = k then (k, v) else e := by
  rw [set, dif_pos h]

@[simp] theorem keys_set (d : Dict K V) (k : K) (v : V) :
    (d.set k v).keys = if k ∈ d.keys then d.keys else d.keys ++ [k] := by
  by_cases h : k ∈ d.keys
  · rw [if_pos h, keys, set_items_of_mem h, List.map_map]
    congr 1
    funext e
    by_cases he : e.1 = k <;> simp [he]
  · rw [if_neg h, keys, set_items_of_not_mem h]
    simp [keys]

theorem mem_keys_set {d : Dict K V} {k k' : K} {v : V} : k' ∈ (d.set k v).keys ↔ k' = k ∨ k' ∈ d.keys := by
  rw [keys_set]
  split_ifs with h
  · exact ⟨.inr, fun h' => h'.elim (· ▸ h) id⟩
  · rw [List.mem_append, List.mem_singleton, or_comm]

omit [DecidableEq K] in
theorem mem_keys_iff {d : Dict K V} {k : K} : k ∈ d.keys ↔ ∃ v, (k, v) ∈ d.items := by
  simp [keys]

theorem get?_eq_some_iff {d : Dict K V} {k : K} {v : V} : d.get? k = some v ↔ (k, v) ∈ d.items := by
  obtain ⟨items, hnd⟩ := d
  simp only [get?]
  induction items with
  | nil => simp
  | cons e items ih =>
    obtain ⟨k', v'⟩ := e
    simp only [List.map_cons, List.nodup_cons, List.mem_map] at hnd
    by_cases hk : k = k'
    · subst hk
      simp only [List.lookup_cons_self, Option.some.injEq, List.mem_cons, Prod.mk.injEq, true_and]
      exact ⟨fun h => .inl h.symm, fun h => h.elim Eq.symm fun h => absurd ⟨(k, v), h, rfl⟩ hnd.1⟩
    · simp only [List.lookup_cons, beq_false_of_ne hk, List.mem_cons, Prod.mk.injEq, hk, false_and,
        false_or]
      exact ih hnd.2

@[simp] theorem get?_set_self (d : Dict K V) (k : K) (v : V) : (d.set k v).get? k = some v := by
  rw [get?_eq_some_iff]
  by_cases h : k ∈ d.keys
  · obtain ⟨v', hv'⟩ := mem_keys_iff.mp h
    rw [set_items_of_mem h, List.mem_map]
    exact ⟨(k, v'), hv', by simp⟩
  · simp [set_items_of_not_mem h]

theorem mem_set_items_of_ne (d : Dict K V) {k k' : K} (hk : k' ≠ k) (v w : V) :
    (k', w) ∈ (d.set k v).items ↔ (k', w) ∈ d.items := by
  by_cases hm : k ∈ d.keys
  · rw [set_items_of_mem hm, List.mem_map]
    constructor
    · rintro ⟨e, he, he'⟩
      by_cases hek : e.1 = k
      · simp only [hek, if_true, Prod.mk.injEq] at he'
        exact absurd he'.1.symm hk
      · rw [if_neg hek] at he'; rwa [← he']
    · exact fun h => ⟨(k', w), h, by simp [hk]⟩
  · simp [set_items_of_not_mem hm, hk]

@[simp] theorem get?_set_of_ne (d : Dict K V) {k k' : K} (hk : k' ≠ k) (v : V) :
    (d.set k v).get? k' = d.get? k' :=
  Option.ext fun w => by simp only [Option.mem_def, get?_eq_some_iff, mem_set_items_of_ne d hk]

theorem get?_set (d : Dict K V) (k k' : K) (v : V) :
    (d.set k v).get? k' = if k' = k then some v else d.get? k' := by
  split_ifs with h
  · rw [h, get?_set_self]
  · exact get?_set_of_ne d h v

/-- Setting keys one after another leaves alone a key that is never set. -/
theorem get?_foldl_set_of_not_mem {ι : Type} (l : List ι) (key : ι → K) (val : ι → V) (d : Dict K V)
    {k : K} (hk : k ∉ l.map key) : (l.foldl (fun acc e => acc.set (key e) (val e)) d).get? k = d.get? k := by
  induction l generalizing d with
  | nil => rfl
  | cons e l ih =>
    simp only [List.map_cons, List.mem_cons, not_or] at hk
    rw [List.foldl_cons, ih _ hk.2, get?_set_of_ne _ hk.1]

/-- Setting distinct keys one after another: each ends with its value. -/
theorem get?_foldl_set {ι : Type} (l : List ι) (key : ι → K) (val : ι → V) (hl : (l.map key).Nodup)
    (d : Dict K V) {x : ι} (hx : x ∈ l) :
    (l.foldl (fun acc e => acc.set (key e) (val e)) d).get? (key x) = some (val x) := by
  induction l generalizing d with
  | nil => simp at hx
  | cons e l ih =>
    rw [List.map_cons, List.nodup_cons] at hl
    rw [List.foldl_cons]
    rcases List.mem_cons.mp hx with rfl | hx
    · rw [get?_foldl_set_of_not_mem _ _ _ _ hl.1, get?_set_self]
    · exact ih hl.2 _ hx

/-- Setting distinct keys, none of them present, one after another appends their items in
order. -/
theorem items_foldl_set {ι : Type} (l : List ι) (key : ι → K) (val : ι → V) (hl : (l.map key).Nodup)
    (d : Dict K V) (hd : ∀ k ∈ l.map key, k ∉ d.keys) :
    (l.foldl (fun acc e => acc.set (key e) (val e)) d).items = d.items ++ l.map fun e => (key e, val e) := by
  induction l generalizing d with
  | nil => simp
  | cons e l ih =>
    rw [List.map_cons, List.nodup_cons] at hl
    have he : key e ∉ d.keys := hd _ (List.mem_cons_self _ _)
    rw [List.foldl_cons, ih hl.2, set_items_of_not_mem he, List.map_cons, List.append_assoc, List.singleton_append]
    intro k hk
    rw [mem_keys_set, not_or]
    exact ⟨fun h => hl.1 (h ▸ hk), hd k (List.mem_cons_of_mem _ hk)⟩

/-- Setting distinct keys, none of them present, one after another appends them in order. -/
theorem keys_foldl_set {ι : Type} (l : List ι) (key : ι → K) (val : ι → V) (hl : (l.map key).Nodup)
    (d : Dict K V) (hd : ∀ k ∈ l.map key, k ∉ d.keys) :
    (l.foldl (fun acc e => acc.set (key e) (val e)) d).keys = d.keys ++ l.map key := by
  rw [keys, items_foldl_set l key val hl d hd, List.map_append, List.map_map]
  rfl

/-- `d` without the key `k`, the other items in their order: the keyword arguments left for
`**kwargs` when Python binds `k` to a parameter of that name. -/
def erase (d : Dict K V) (k : K) : Dict K V :=
  ⟨d.items.filter (·.1 ≠ k), d.keys_nodup.sublist ((List.filter_sublist _).map _)⟩

theorem keys_erase (d : Dict K V) (k : K) : (d.erase k).keys = d.keys.filter (· ≠ k) := by
  simp [erase, keys, List.filter_map, Function.comp_def]

theorem erase_of_not_mem {d : Dict K V} {k : K} (h : k ∉ d.keys) : d.erase k = d := by
  obtain ⟨items, hnd⟩ := d
  simp only [erase, mk.injEq]
  refine List.filter_eq_self.mpr fun e he => ?_
  simpa using fun hk => h (List.mem_map.mpr ⟨e, he, hk⟩)

/-- `{k: v, **d}`: the key `k` first, then the other items of `d`. -/
def cons (k : K) (v : V) (d : Dict K V) : Dict K V :=
  ⟨(k, v) :: (d.erase k).items, List.nodup_cons.mpr ⟨by simp [erase], (d.erase k).keys_nodup⟩⟩

theorem keys_cons (k : K) (v : V) (d : Dict K V) : (d.cons k v).keys = k :: d.keys.filter (· ≠ k) := by
  rw [← keys_erase]
  rfl

theorem get?_cons_of_ne (d : Dict K V) {k k' : K} (hk : k' ≠ k) (v : V) : (d.cons k v).get? k' = d.get? k' :=
  Option.ext fun w => by
    simp only [Option.mem_def, get?_eq_some_iff]
    simp [cons, erase, hk]

theorem erase_cons_of_ne (d : Dict K V) {k k' : K} (hk : k' ≠ k) (v : V) :
    (d.cons k v).erase k' = (d.erase k').cons k v := by
  simp [cons, erase, List.filter_filter, Ne.symm hk, Bool.and_comm]

/-- `d[k].add(x)` on a `defaultdict(set)`: add `x` to the set under `k`, which starts empty. -/
def addToSet [DecidableEq V] (d : Dict K (List V)) (k : K) (x : V) : Dict K (List V) :=
  d.set k (((d.get? k).getD []).insert x)

end Dict

/-! ### Iterating over a set -/

/-- The order Python iterates over a set in: each element once, in an order of Python's
choosing. `iter l` is the iteration order of the set built by adding the elements of `l`
in turn. -/
structure SetOrder (α : Type) [DecidableEq α] where
  /-- The iteration order of the set of the elements of a list. -/
  iter : List α → List α
  /-- It lists the set's elements, each once. -/
  iter_perm : ∀ l, (iter l).Perm l.dedup

namespace SetOrder

variable {α : Type} [DecidableEq α]

theorem mem_iter (so : SetOrder α) {l : List α} {x : α} : x ∈ so.iter l ↔ x ∈ l := by
  rw [(so.iter_perm l).mem_iff, List.mem_dedup]

theorem nodup_iter (so : SetOrder α) (l : List α) : (so.iter l).Nodup :=
  (so.iter_perm l).nodup_iff.mpr (List.nodup_dedup l)

/-- One admissible order: each element at its last insertion. -/
def dedup : SetOrder α := ⟨List.dedup, fun _ => .refl _⟩

end SetOrder

/-! ### Tuples -/

/-- `t[i]` on a tuple, for an index `i ≥ 0`. -/
def pyGetItem {α : Type} (t : List α) (i : Nat) : Except PyError α :=
  match t[i]? with
  | some x => .ok x
  | none => .error (.indexError "tuple index out of range")

theorem pyGetItem_eq_ok_iff {α : Type} {t : List α} {i : Nat} {x : α} : pyGetItem t i = .ok x ↔ t[i]? = some x := by
  cases h : t[i]? <;> simp [pyGetItem, h]

theorem pyGetItem_of_lt {α : Type} {t : List α} {i : Nat} (h : i < t.length) : pyGetItem t i = .ok t[i] :=
  pyGetItem_eq_ok_iff.mpr (List.getElem?_eq_getElem h)

/-- `t.index(x)`: the position of the first `x` in `t`, scanning from the left, or the
`ValueError` Python raises when there is none. -/
def pyIndex {α : Type} [DecidableEq α] : List α → α → Except PyError Nat
  | [], _ => .error (.valueError "tuple.index(x): x not in tuple")
  | y :: t, x => if y = x then .ok 0 else (pyIndex t x).map (· + 1)

/-- An item of `t` is found, at a position that holds it. -/
theorem pyIndex_of_mem {α : Type} [DecidableEq α] {x : α} :
    ∀ {t : List α}, x ∈ t → ∃ k, pyIndex t x = .ok k ∧ t[k]? = some x
  | [], h => absurd h (List.not_mem_nil _)
  | y :: t, h => by
    by_cases hy : y = x
    · exact ⟨0, if_pos hy, by simp [hy]⟩
    · obtain ⟨k, hk, hget⟩ := pyIndex_of_mem ((List.mem_cons.mp h).resolve_left (Ne.symm hy))
      exact ⟨k + 1, by rw [pyIndex, if_neg hy, hk]; rfl, by rw [List.getElem?_cons_succ]; exact hget⟩

/-- Where `t.index(x)` returns `k`, `t[k]` is `x`. -/
theorem getElem?_of_pyIndex {α : Type} [DecidableEq α] {x : α} :
    ∀ {t : List α} {k : Nat}, pyIndex t x = .ok k → t[k]? = some x
  | [], _, h => by cases h
  | y :: t, k, h => by
    rw [pyIndex] at h
    split_ifs at h with hy
    · cases h
      simp [hy]
    · cases hk : pyIndex t x with
      | error e => rw [hk] at h; cases h
      | ok k' =>
        rw [hk] at h
        cases h
        rw [List.getElem?_cons_succ]
        exact getElem?_of_pyIndex hk

/-! ### `str.replace` -/

/-- `s.replace(old, new)` on the characters of `s`, for a non-empty `old`: from the left,
each occurrence of `old` that does not overlap an earlier one becomes `new`. The fuel
bounds the length of `s`: every step consumes a character. -/
def replaceAux (old new : List Char) : Nat → List Char → List Char
  | 0, s => s
  | _ + 1, [] => []
  | n + 1, c :: cs =>
    if old.isPrefixOf (c :: cs) then new ++ replaceAux old new n ((c :: cs).drop old.length)
    else c :: replaceAux old new n cs

/-- Python's `s.replace(old, new)`. An empty `old` occurs before every character and at the
end. -/
def pyReplace (s old new : String) : String :=
  if old.data = [] then ⟨new.data ++ s.data.flatMap fun c => c :: new.data⟩
  else ⟨replaceAux old.data new.data s.length s.data⟩

theorem replaceAux_self (old new : List Char) (hold : old ≠ []) (n : Nat) (hn : old.length ≤ n) :
    replaceAux old new n old = new := by
  obtain ⟨c, cs, rfl⟩ := List.exists_cons_of_ne_nil hold
  obtain ⟨m, rfl⟩ : ∃ m, n = m + 1 := ⟨n - 1, by simp at hn; omega⟩
  rw [replaceAux, if_pos (List.isPrefixOf_iff_prefix.mpr (List.prefix_refl _)), List.drop_length]
  cases m <;> exact List.append_nil new

/-- Renaming a name to itself followed by `_`: `name.replace(name, name + '_')` is `name + '_'`. -/
theorem pyReplace_self (s : String) : pyReplace s s (s ++ "_") = s ++ "_" := by
  unfold pyReplace
  split_ifs with h
  · exact String.ext (by simp [h])
  · exact String.ext (replaceAux_self _ _ h _ le_rfl)

end WalberlaCodegen
