import WalberlaCodegen.Symbolic
import Mathlib.Data.Nat.Digits

/-!
# Communication directions

`comm_directions(direction)` of `pystencils_walberla.codegen` lists the neighbour
directions through which a value at offset `direction` has to travel. It enumerates
`binary_numbers(len(direction))`, the 0/1 lists of that length, and rewrites each on
every axis: to `0` where `direction` is `0`, and a `1` to `-1` where `direction` is
`-1`. The zero vector is yielded as itself; rewritten candidates that are all zero are
dropped. `inverse_direction` is pystencils' negation of an offset.

## The model

Offsets and directions are lists of integers. Python's `bin(i)[2:]` is `binDigits i`,
the binary digits of `i` most significant first, `[0]` for zero; `binary_numbers`
pads it on the left with zeros to `n` digits, exactly as the source does. The generator
`comm_directions` is the list of what it yields, in order.

## What is proved

* `binaryNumbers_eq_binaryDigits`: for `n ≥ 1`, entry `i` of `binary_numbers(n)` is
  the `n`-digit binary representation `binaryDigits n i`; hence
  `mem_binaryNumbers_iff`: its entries are exactly the 0/1 lists of length `n`; and
  `binaryNumbers_enumerates`: it has `2ⁿ` entries, in the order of `i`, each 0/1 list once.
* `commDirections_yields_subDirections`: on an offset in `{-1,0,1}ⁿ`,
  `comm_directions` yields the zero vector alone for the zero vector, and otherwise
  exactly the nonzero sub-directions: the vectors with every component `0` or the
  offset's own.
* `count_commDirections`: each of them `2ᶻ` times, `z` the number of zero components of the
  offset, since the rewriting forgets a candidate's digit where the offset is zero.
-/

namespace WalberlaCodegen

/-! ### Vectors -/

/-- The zero vector: `all(e == 0 for e in v)`. -/
def IsZero (v : List Int) : Prop := ∀ x ∈ v, x = 0

/-- A first-neighbourhood offset: `all(abs(e) <= 1 for e in v)`. -/
def UnitOffset (v : List Int) : Prop := ∀ x ∈ v, x.natAbs ≤ 1

/-- `c` is a sub-direction of `d`: as long as `d`, and on every axis either `0` or
`d`'s component. -/
def SubDirection (c d : List Int) : Prop := List.Forall₂ (fun ci di => ci = 0 ∨ ci = di) c d

instance : DecidablePred IsZero := fun v => inferInstanceAs (Decidable (∀ x ∈ v, x = 0))

instance : DecidablePred UnitOffset := fun v => inferInstanceAs (Decidable (∀ x ∈ v, x.natAbs ≤ 1))

instance (c d : List Int) : Decidable (SubDirection c d) :=
  inferInstanceAs (Decidable (List.Forall₂ _ c d))

theorem all_beq_zero_iff (v : List Int) : v.all (· == 0) = true ↔ IsZero v := by
  simp [IsZero]

theorem all_natAbs_le_one_iff (v : List Int) : v.all (fun e => decide (e.natAbs ≤ 1)) = true ↔ UnitOffset v := by
  simp [UnitOffset]

theorem SubDirection.length_eq {c d : List Int} (h : SubDirection c d) : c.length = d.length :=
  List.Forall₂.length_eq h

theorem SubDirection.unitOffset {c d : List Int} (h : SubDirection c d) (hd : UnitOffset d) :
    UnitOffset c := by
  induction h with
  | nil => simp [UnitOffset]
  | cons hx _ ih =>
    simp only [UnitOffset, List.mem_cons, forall_eq_or_imp] at hd ⊢
    exact ⟨by omega, ih hd.2⟩

/-- `inverse_direction(d)`: the opposite offset. -/
def inverseDirection (d : List Int) : List Int := d.map (- ·)

@[simp] theorem inverseDirection_length (d : List Int) : (inverseDirection d).length = d.length :=
  List.length_map _ _

theorem isZero_inverseDirection_iff (d : List Int) : IsZero (inverseDirection d) ↔ IsZero d := by
  simp only [IsZero, inverseDirection, List.forall_mem_map, neg_eq_zero]

theorem unitOffset_inverseDirection_iff (d : List Int) :
    UnitOffset (inverseDirection d) ↔ UnitOffset d := by
  simp only [UnitOffset, inverseDirection, List.forall_mem_map, Int.natAbs_neg]

/-! ### `binary_numbers` -/

/-- Python's `bin(i)[2:]`, as digits: most significant first, `[0]` for zero. -/
def binDigits (i : Nat) : List Nat := if i = 0 then [0] else (Nat.digits 2 i).reverse

/-- `binary_numbers(n)`: for `i` in `range(1 << n)`, `bin(i)[2:]` padded on the left with
`'0' * (n - len(...))`, as a list of ints. -/
def binaryNumbers (n : Nat) : List (List Int) :=
  (List.range (1 <<< n)).map fun i =>
    let binaryNumber := binDigits i
    (List.replicate (n - binaryNumber.length) 0 ++ binaryNumber).map Int.ofNat

/-- The `n`-digit binary representation of `i`, most significant digit first. -/
def binaryDigits : Nat → Nat → List Nat
  | 0, _ => []
  | n + 1, i => binaryDigits n (i / 2) ++ [i % 2]

@[simp] theorem binaryDigits_length (n i : Nat) : (binaryDigits n i).length = n := by
  induction n generalizing i <;> simp [binaryDigits, *]

theorem binaryDigits_zero (n : Nat) : binaryDigits n 0 = List.replicate n 0 := by
  induction n with
  | zero => rfl
  | succ n ih => rw [binaryDigits, Nat.zero_div, ih, Nat.zero_mod, List.replicate_succ']

theorem binDigits_of_two_le {i : Nat} (h : 2 ≤ i) : binDigits i = binDigits (i / 2) ++ [i % 2] := by
  have hi : i / 2 ≠ 0 := by omega
  rw [binDigits, if_neg (by omega), binDigits, if_neg hi, Nat.digits_def' (by norm_num) (by omega),
    List.reverse_cons]

theorem binDigits_of_lt_two {i : Nat} (h : i < 2) : binDigits i = [i] := by
  rcases (by omega : i = 0 ∨ i = 1) with rfl | rfl <;> simp [binDigits]

/-- The padding of `binary_numbers` gives the `n`-digit representation, for `n ≥ 1`. -/
theorem pad_binDigits (n : Nat) :
    ∀ i < 2 ^ (n + 1),
      List.replicate (n + 1 - (binDigits i).length) 0 ++ binDigits i = binaryDigits (n + 1) i := by
  induction n with
  | zero =>
    intro i hi
    rw [binDigits_of_lt_two (by simpa using hi)]
    simp [binaryDigits, Nat.div_eq_of_lt (by simpa using hi : i < 2), Nat.mod_eq_of_lt (by simpa using hi : i < 2)]
  | succ n ih =>
    intro i hi
    rw [binaryDigits]
    by_cases h2 : i < 2
    · rw [binDigits_of_lt_two h2, Nat.div_eq_of_lt h2, binaryDigits_zero, Nat.mod_eq_of_lt h2]
      simp [List.replicate_succ']
    · have hlen := congrArg List.length (ih (i / 2) (by rw [pow_succ] at hi; omega))
      simp only [List.length_append, List.length_replicate, binaryDigits_length] at hlen
      rw [binDigits_of_two_le (by omega), ← ih (i / 2) (by rw [pow_succ] at hi; omega)]
      simp only [List.length_append, List.length_singleton, List.append_assoc]
      congr 2
      omega

/-- Entry `i` of `binary_numbers(n)`, `n ≥ 1`, is the `n`-digit binary representation of `i`. -/
theorem binaryNumbers_eq_binaryDigits (n : Nat) :
    binaryNumbers (n + 1) = (List.range (2 ^ (n + 1))).map fun i => (binaryDigits (n + 1) i).map Int.ofNat := by
  rw [binaryNumbers, Nat.one_shiftLeft]
  refine List.map_congr_left fun i hi => ?_
  simp only
  rw [pad_binDigits n i (List.mem_range.mp hi)]

theorem binaryDigits_lt_two (n i : Nat) : ∀ x ∈ binaryDigits n i, x < 2 := by
  induction n generalizing i with
  | zero => simp [binaryDigits]
  | succ n ih =>
    simp only [binaryDigits, List.mem_append, List.mem_singleton]
    rintro x (hx | rfl)
    · exact ih _ x hx
    · exact Nat.mod_lt _ (by norm_num)

/-- Reading a 0/1 list as a binary number and writing it back gives the list. -/
theorem binaryDigits_ofDigits (l : List Nat) (hl : ∀ x ∈ l, x < 2) :
    binaryDigits l.length (Nat.ofDigits 2 l.reverse) = l := by
  induction l using List.reverseRecOn with
  | nil => rfl
  | append_singleton l x ih =>
    simp only [List.mem_append, List.mem_singleton] at hl
    have hx : x < 2 := hl x (.inr rfl)
    rw [List.length_append, List.length_singleton, binaryDigits, List.reverse_append,
      List.reverse_singleton, List.singleton_append, Nat.ofDigits_cons]
    rw [show (x + 2 * Nat.ofDigits 2 l.reverse) / 2 = Nat.ofDigits 2 l.reverse by omega,
      show (x + 2 * Nat.ofDigits 2 l.reverse) % 2 = x by omega, ih fun y hy => hl y (.inl hy)]

/-- For `n ≥ 1` the entries of `binary_numbers(n)` are exactly the 0/1 lists of length `n`. -/
theorem mem_binaryNumbers_iff {n : Nat} (hn : 0 < n) (b : List Int) :
    b ∈ binaryNumbers n ↔ b.length = n ∧ ∀ x ∈ b, x = 0 ∨ x = 1 := by
  obtain ⟨n, rfl⟩ : ∃ m, n = m + 1 := ⟨n - 1, by omega⟩
  rw [binaryNumbers_eq_binaryDigits, List.mem_map]
  constructor
  · rintro ⟨i, -, rfl⟩
    refine ⟨by simp, fun x hx => ?_⟩
    obtain ⟨y, hy, rfl⟩ := List.mem_map.mp hx
    rcases (by have := binaryDigits_lt_two _ i y hy; omega : y = 0 ∨ y = 1) with rfl | rfl <;> simp
  · rintro ⟨hlen, hb⟩
    have hlt : ∀ x ∈ b.map Int.toNat, x < 2 := by
      simp only [List.mem_map]
      rintro _ ⟨x, hx, rfl⟩
      rcases hb x hx with rfl | rfl <;> decide
    refine ⟨Nat.ofDigits 2 (b.map Int.toNat).reverse, List.mem_range.mpr ?_, ?_⟩
    · simpa [hlen] using @Nat.ofDigits_lt_base_pow_length 2 _ (by norm_num)
        fun x hx => hlt x (List.mem_reverse.mp hx)
    · have := binaryDigits_ofDigits _ hlt
      rw [List.length_map, hlen] at this
      rw [this, List.map_map]
      conv_rhs => rw [← List.map_id b]
      refine List.map_congr_left fun x hx => ?_
      rcases hb x hx with rfl | rfl <;> rfl

/-- Reading the `n`-digit representation of `i < 2ⁿ` back, most significant digit first,
gives `i`. -/
theorem ofDigits_binaryDigits : ∀ n i : Nat, i < 2 ^ n → Nat.ofDigits 2 (binaryDigits n i).reverse = i
  | 0, i, hi => by simp only [binaryDigits, List.reverse_nil, Nat.ofDigits_nil]; omega
  | n + 1, i, hi => by
    rw [binaryDigits, List.reverse_append, List.reverse_singleton, List.singleton_append, Nat.ofDigits_cons,
      ofDigits_binaryDigits n (i / 2) (by rw [pow_succ] at hi; omega)]
    omega

/-- Distinct indices have distinct representations, since each reads back to its index. -/
theorem nodup_binaryNumbers (n : Nat) : (binaryNumbers (n + 1)).Nodup := by
  rw [binaryNumbers_eq_binaryDigits]
  refine (List.nodup_range _).map_on fun i hi j hj h => ?_
  rw [← ofDigits_binaryDigits _ i (List.mem_range.mp hi), ← ofDigits_binaryDigits _ j (List.mem_range.mp hj),
    List.map_injective_iff.mpr (fun _ _ => Int.ofNat.inj) h]

/-- **`binary_numbers` enumerates the 0/1 lists.** For `n ≥ 1`, `binary_numbers(n)` is, for
`i = 0, 1, …, 2ⁿ - 1` in this order, the `n`-digit big-endian binary representation of `i`:
`n` digits below 2 that read back to `i`. So it has `2ⁿ` entries, each of length `n`, and
holds every 0/1 list of length `n` exactly once. -/
theorem binaryNumbers_enumerates (n : Nat) (hn : 1 ≤ n) :
    binaryNumbers n = (List.range (2 ^ n)).map (fun i => (binaryDigits n i).map Int.ofNat) ∧
    (∀ i < 2 ^ n, (binaryDigits n i).length = n ∧ (∀ x ∈ binaryDigits n i, x < 2) ∧
      Nat.ofDigits 2 (binaryDigits n i).reverse = i) ∧
    (binaryNumbers n).length = 2 ^ n ∧ (∀ b ∈ binaryNumbers n, b.length = n) ∧
    ∀ b : List Int, b.length = n → (∀ x ∈ b, x = 0 ∨ x = 1) → (binaryNumbers n).count b = 1 := by
  obtain ⟨m, rfl⟩ : ∃ m, n = m + 1 := ⟨n - 1, by omega⟩
  have heq := binaryNumbers_eq_binaryDigits m
  refine ⟨heq, fun i hi => ⟨binaryDigits_length _ _, binaryDigits_lt_two _ i, ofDigits_binaryDigits _ i hi⟩,
    by simp [heq], fun b hb => ((mem_binaryNumbers_iff (by omega) b).mp hb).1,
    fun b hlen hb => by convert List.count_eq_one_of_mem (nodup_binaryNumbers m) ((mem_binaryNumbers_iff (by omega) b).mpr ⟨hlen, hb⟩)⟩

/-- `binary_numbers(2)`. -/
theorem binaryNumbers_enumerates_two : 1 ≤ 2 ∧ binaryNumbers 2 = [[0, 0], [0, 1], [1, 0], [1, 1]] :=
  ⟨by decide, (binaryNumbers_enumerates 2 (by decide)).1.trans (by decide)⟩

/-- The 0/1 lists of length `n`, by their first digit. -/
def bitLists : Nat → List (List Int)
  | 0 => [[]]
  | n + 1 => (bitLists n).map (0 :: ·) ++ (bitLists n).map (1 :: ·)

theorem mem_bitLists : ∀ {n : Nat} {b : List Int}, b ∈ bitLists n ↔ b.length = n ∧ ∀ x ∈ b, x = 0 ∨ x = 1
  | 0, b => by cases b <;> simp [bitLists]
  | n + 1, [] => by simp [bitLists]
  | n + 1, x :: b => by
    simp only [bitLists, List.mem_append, List.mem_map, List.cons.injEq, List.length_cons, List.mem_cons,
      forall_eq_or_imp, mem_bitLists]
    constructor
    · rintro (⟨b', hb', rfl, rfl⟩ | ⟨b', hb', rfl, rfl⟩)
      exacts [⟨by simp [hb'.1], .inl rfl, hb'.2⟩, ⟨by simp [hb'.1], .inr rfl, hb'.2⟩]
    · rintro ⟨hlen, hx | hx, hb⟩
      exacts [.inl ⟨b, ⟨by simpa using hlen, hb⟩, hx.symm, rfl⟩, .inr ⟨b, ⟨by simpa using hlen, hb⟩, hx.symm, rfl⟩]

theorem nodup_bitLists : ∀ n, (bitLists n).Nodup
  | 0 => List.nodup_singleton _
  | n + 1 => by
    rw [bitLists, List.nodup_append]
    refine ⟨(nodup_bitLists n).map (List.cons_injective), (nodup_bitLists n).map (List.cons_injective), ?_⟩
    simp [List.Disjoint]

/-- For `n ≥ 1`, `binary_numbers(n)` holds the 0/1 lists of length `n`, each once. -/
theorem binaryNumbers_perm_bitLists {n : Nat} (hn : 0 < n) : (binaryNumbers n).Perm (bitLists n) := by
  obtain ⟨m, rfl⟩ : ∃ m, n = m + 1 := ⟨n - 1, by omega⟩
  exact (List.perm_ext_iff_of_nodup (nodup_binaryNumbers m) (nodup_bitLists _)).mpr fun b => by
    rw [mem_binaryNumbers_iff hn, mem_bitLists]

/-! ### `comm_directions` -/

/-- The loop body of `comm_directions` on axis `i`, with `d = direction[i]` and
`b = comm_direction[i]`: `if direction[i] == 0: comm_direction[i] = 0`, then
`if direction[i] == -1 and comm_direction[i] == 1: comm_direction[i] = -1`. -/
def commComponent (d b : Int) : Int :=
  let b := if d = 0 then 0 else b
  if d = -1 ∧ b = 1 then -1 else b

/-- `comm_directions(direction)`: what the generator yields, in order. -/
def commDirections (direction : List Int) : List (List Int) :=
  (if direction.all (· == 0) then [direction] else []) ++
    ((binaryNumbers direction.length).map (List.zipWith commComponent direction)).filter
      fun commDirection => !commDirection.all (· == 0)

theorem commComponent_zero (b : Int) : commComponent 0 b = 0 := by
  simp [commComponent]

theorem commComponent_sub {d b : Int} (hd : d.natAbs ≤ 1) (hb : b = 0 ∨ b = 1) :
    commComponent d b = 0 ∨ commComponent d b = d := by
  simp only [commComponent]; split_ifs <;> omega

theorem commComponent_natAbs {d c : Int} (hd : d.natAbs ≤ 1) (hc : c = 0 ∨ c = d) :
    commComponent d c.natAbs = c := by
  simp only [commComponent]; split_ifs <;> omega

theorem isZero_zipWith_commComponent {d : List Int} (hd : IsZero d) (b : List Int) :
    IsZero (List.zipWith commComponent d b) := by
  intro x hx
  obtain ⟨i, hi, rfl⟩ := List.getElem_of_mem hx
  rw [List.getElem_zipWith, hd _ (List.getElem_mem _), commComponent_zero]

/-- A rewritten 0/1 candidate is a sub-direction of the offset. -/
theorem subDirection_zipWith_commComponent :
    ∀ {d b : List Int}, UnitOffset d → b.length = d.length → (∀ x ∈ b, x = 0 ∨ x = 1) →
      SubDirection (List.zipWith commComponent d b) d
  | [], [], _, _, _ => .nil
  | d :: ds, b :: bs, hd, hl, hb => by
    simp only [UnitOffset, List.mem_cons, forall_eq_or_imp] at hd hb
    exact .cons (commComponent_sub hd.1 hb.1) (subDirection_zipWith_commComponent hd.2 (by simpa using hl) hb.2)

/-- Every sub-direction is the rewriting of the candidate `|c|`. -/
theorem zipWith_commComponent_natAbs :
    ∀ {c d : List Int}, UnitOffset d → SubDirection c d →
      List.zipWith commComponent d (c.map fun x => (x.natAbs : Int)) = c
  | [], [], _, .nil => rfl
  | c :: cs, d :: ds, hd, .cons hx h => by
    simp only [UnitOffset, List.mem_cons, forall_eq_or_imp] at hd
    simp only [List.map_cons, List.zipWith_cons_cons, commComponent_natAbs hd.1 hx,
      zipWith_commComponent_natAbs hd.2 h]

theorem commDirections_of_isZero {d : List Int} (hd : IsZero d) : commDirections d = [d] := by
  rw [commDirections, if_pos ((all_beq_zero_iff d).mpr hd), List.filter_eq_nil_iff.mpr]
  · rfl
  · intro c hc
    obtain ⟨b, -, rfl⟩ := List.mem_map.mp hc
    simpa using (all_beq_zero_iff _).mpr (isZero_zipWith_commComponent hd b)

theorem mem_commDirections_of_not_isZero {d : List Int} (hd : UnitOffset d) (hz : ¬IsZero d) (c : List Int) :
    c ∈ commDirections d ↔ ¬IsZero c ∧ SubDirection c d := by
  have hn : 0 < d.length := List.length_pos.mpr fun h => hz (h ▸ fun _ => nofun)
  rw [commDirections, if_neg (by rwa [all_beq_zero_iff]), List.nil_append, List.mem_filter,
    List.mem_map, Bool.not_eq_true', Bool.eq_false_iff, Ne, all_beq_zero_iff]
  constructor
  · rintro ⟨⟨b, hb, rfl⟩, hc⟩
    rw [mem_binaryNumbers_iff hn] at hb
    exact ⟨hc, subDirection_zipWith_commComponent hd hb.1 hb.2⟩
  · rintro ⟨hc, hsub⟩
    refine ⟨⟨_, ?_, zipWith_commComponent_natAbs hd hsub⟩, hc⟩
    rw [mem_binaryNumbers_iff hn, List.length_map, hsub.length_eq]
    refine ⟨rfl, fun x hx => ?_⟩
    obtain ⟨y, hy, rfl⟩ := List.mem_map.mp hx
    have := hsub.unitOffset hd y hy
    omega

theorem length_of_mem_commDirections {d c : List Int} (h : c ∈ commDirections d) : c.length = d.length := by
  rw [commDirections, List.mem_append, List.mem_filter, List.mem_map] at h
  rcases h with h | ⟨⟨b, hb, rfl⟩, -⟩
  · split_ifs at h <;> simp_all
  · rw [List.length_zipWith]
    by_cases hn : 0 < d.length
    · rw [((mem_binaryNumbers_iff hn) b).mp hb |>.1, min_self]
    · simp_all

/-- **`comm_directions` yields the sub-directions.** For an offset `d ∈ {-1,0,1}ⁿ`: the
zero vector yields itself alone; any other offset yields exactly the nonzero vectors of
`{-1,0,1}ⁿ` whose every component is `0` or `d`'s; and every yielded vector has `d`'s
length. -/
theorem commDirections_yields_subDirections (d : List Int) (hd : UnitOffset d) :
    (IsZero d → commDirections d = [d]) ∧
    (¬IsZero d → ∀ c, c ∈ commDirections d ↔ UnitOffset c ∧ ¬IsZero c ∧ SubDirection c d) ∧
    ∀ c ∈ commDirections d, c.length = d.length := by
  refine ⟨commDirections_of_isZero, fun hz c => ?_, fun _ => length_of_mem_commDirections⟩
  rw [mem_commDirections_of_not_isZero hd hz]
  exact ⟨fun ⟨h1, h2⟩ => ⟨h2.unitOffset hd, h1, h2⟩, fun ⟨_, h1, h2⟩ => ⟨h1, h2⟩⟩

theorem commDirections_yields_subDirections_SE :
    UnitOffset [1, -1, 0] ∧
      ((IsZero [1, -1, 0] → commDirections [1, -1, 0] = [[1, -1, 0]]) ∧
        (¬IsZero [1, -1, 0] → ∀ c, c ∈ commDirections [1, -1, 0] ↔
          UnitOffset c ∧ ¬IsZero c ∧ SubDirection c [1, -1, 0]) ∧
        ∀ c ∈ commDirections [1, -1, 0], c.length = [1, -1, 0].length) :=
  ⟨by decide, commDirections_yields_subDirections _ (by decide)⟩

theorem countP_and_left {α : Type} (p : Bool) (q : α → Bool) (l : List α) :
    l.countP (fun a => p && q a) = if p then l.countP q else 0 := by
  cases p <;> simp

theorem commComponent_zero_right (d : Int) : commComponent d 0 = 0 := by
  simp [commComponent]

theorem commComponent_one {d : Int} (hd : d.natAbs ≤ 1) : commComponent d 1 = d := by
  simp only [commComponent]; split_ifs <;> omega

/-- Of the 0/1 lists of `d`'s length, the loop of `comm_directions` rewrites to `c` none if
`c` is not a sub-direction of `d`, and otherwise two choices on each axis where `d` is zero
and one on each other axis. -/
theorem countP_zipWith_commComponent : ∀ (d c : List Int), UnitOffset d →
    (bitLists d.length).countP (fun b => List.zipWith commComponent d b == c) =
      if SubDirection c d then 2 ^ d.count 0 else 0
  | [], [], _ => by simp [bitLists, SubDirection]
  | [], y :: cs, _ => by simp [bitLists, SubDirection]
  | x :: ds, [], _ => by
    simp only [List.length_cons, bitLists, List.countP_append, List.countP_map]
    simp [Function.comp_def, SubDirection]
  | x :: ds, y :: cs, hd => by
    simp only [UnitOffset, List.mem_cons, forall_eq_or_imp] at hd
    have ih := countP_zipWith_commComponent ds cs hd.2
    simp only [List.length_cons, bitLists, List.countP_append, List.countP_map, Function.comp_def,
      List.zipWith_cons_cons, List.cons_beq_cons, countP_and_left, ih]
    rw [commComponent_zero_right, commComponent_one hd.1, List.count_cons]
    simp only [SubDirection, List.forall₂_cons] at ih ⊢
    by_cases hS : List.Forall₂ (fun ci di => ci = 0 ∨ ci = di) cs ds
    · by_cases hx : x = 0
      · subst hx
        by_cases hy : y = 0
        · simp [hy, hS, pow_succ]
          omega
        · simp [hy, eq_comm (a := (0 : Int))]
      · by_cases hy : y = 0
        · simp [hy, hS, hx, Ne.symm hx]
        · by_cases hyx : y = x <;> simp [hy, hS, hx, hyx, eq_comm (a := (0 : Int)), eq_comm (a := x)]
    · simp [hS]

/-- **How often `comm_directions` yields each direction.** For an offset `d ∈ {-1,0,1}ⁿ`
other than the zero vector, `comm_directions(d)` yields every nonzero sub-direction of `d`
exactly `2ᶻ` times, `z` the number of zero components of `d`, and nothing else: the
rewriting forgets the candidate's digit wherever `d` is zero. -/
theorem count_commDirections (d : List Int) (hd : UnitOffset d) (hz : ¬IsZero d) (c : List Int) :
    (commDirections d).count c = if ¬IsZero c ∧ SubDirection c d then 2 ^ d.count 0 else 0 := by
  have hn : 0 < d.length := List.length_pos.mpr fun h => hz (h ▸ fun _ => nofun)
  rw [commDirections, if_neg (by rwa [all_beq_zero_iff]), List.nil_append]
  by_cases hc : IsZero c
  · -- the zero vector is filtered out
    rw [if_neg fun h => h.1 hc, List.count_eq_zero]
    intro hmem
    have := (List.mem_filter.mp hmem).2
    rw [(all_beq_zero_iff c).mpr hc] at this
    cases this
  · rw [List.count_filter (by rwa [Bool.not_eq_true', Bool.eq_false_iff, Ne, all_beq_zero_iff]), List.count_eq_countP, List.countP_map,
      (binaryNumbers_perm_bitLists hn).countP_eq]
    simpa only [hc, not_false_eq_true, true_and] using countP_zipWith_commComponent d c hd

/-- The east offset of three dimensions is yielded four times. -/
theorem count_commDirections_E :
    UnitOffset [1, 0, 0] ∧ ¬IsZero [1, 0, 0] ∧ (commDirections [1, 0, 0]).count [1, 0, 0] = 4 :=
  ⟨by decide, by decide, (count_commDirections [1, 0, 0] (by decide) (by decide) [1, 0, 0]).trans (by decide)⟩

/-! ### Direction names -/

/-- A naming of directions, such as pystencils' `offset_to_direction_string`, tells apart
the first-neighbourhood offsets of `n` axes. -/
def NamesDistinct (name : List Int → String) (n : Nat) : Prop :=
  ∀ u v, u.length = n → v.length = n → UnitOffset u → UnitOffset v → name u = name v → u = v

/-- Names that tell unit offsets apart tell tuples of them apart. -/
theorem NamesDistinct.map_eq {name : List Int → String} {n : Nat} (h : NamesDistinct name n) :
    ∀ {D D' : List (List Int)}, (∀ c ∈ D, c.length = n ∧ UnitOffset c) →
      (∀ c ∈ D', c.length = n ∧ UnitOffset c) → D.map name = D'.map name → D = D'
  | [], [], _, _, _ => rfl
  | [], _ :: _, _, _, he => by simp at he
  | _ :: _, [], _, _, he => by simp at he
  | c :: D, c' :: D', hD, hD', he => by
    simp only [List.map_cons, List.cons.injEq] at he
    have hc := hD c (List.mem_cons_self _ _)
    have hc' := hD' c' (List.mem_cons_self _ _)
    rw [h c c' hc.1 hc'.1 hc.2 hc'.2 he.1,
      h.map_eq (fun x hx => hD x (List.mem_cons_of_mem _ hx)) (fun x hx => hD' x (List.mem_cons_of_mem _ hx)) he.2]

/-- pystencils' `offset_to_direction_string` on first-neighbourhood offsets of up to three
axes: `T`/`B` for the z axis, then `N`/`S` for y, then `E`/`W` for x; `C` for the centre. -/
def offsetToDirectionString (v : List Int) : String :=
  let letter (i : Nat) (pos neg : String) : String :=
    if v[i]? = some 1 then pos else if v[i]? = some (-1) then neg else ""
  let s := letter 2 "T" "B" ++ letter 1 "N" "S" ++ letter 0 "E" "W"
  if s = "" then "C" else s

/-- pystencils' `direction_string_to_offset(s, dim=3)` on the names of first-neighbourhood
offsets. -/
def directionStringToOffset (s : String) : List Int :=
  let axis (pos neg : Char) : Int := if pos ∈ s.data then 1 else if neg ∈ s.data then -1 else 0
  [axis 'E' 'W', axis 'N' 'S', axis 'T' 'B']

theorem directionStringToOffset_offsetToDirectionString :
    ∀ v : List Int, v.length = 3 → UnitOffset v → directionStringToOffset (offsetToDirectionString v) = v
  | [a, b, c], _, hv => by
    simp only [UnitOffset, List.mem_cons, List.mem_singleton, forall_eq_or_imp, forall_eq,
      List.not_mem_nil, false_imp_iff, implies_true, and_true] at hv
    obtain ⟨ha, hb, hc⟩ := hv
    rcases (by omega : a = -1 ∨ a = 0 ∨ a = 1) with rfl | rfl | rfl <;>
    rcases (by omega : b = -1 ∨ b = 0 ∨ b = 1) with rfl | rfl | rfl <;>
    rcases (by omega : c = -1 ∨ c = 0 ∨ c = 1) with rfl | rfl | rfl <;> decide

/-- The names of the 27 directions of three axes are distinct. -/
theorem offsetToDirectionString_namesDistinct : NamesDistinct offsetToDirectionString 3 :=
  fun u v hu hv hu' hv' h => by
    rw [← directionStringToOffset_offsetToDirectionString u hu hu',
      ← directionStringToOffset_offsetToDirectionString v hv hv', h]

/-- A two-axis offset is named as the three-axis offset with a zero `z` component. -/
theorem offsetToDirectionString_append_zero : ∀ v : List Int, v.length = 2 →
    offsetToDirectionString (v ++ [0]) = offsetToDirectionString v
  | [_, _], _ => by simp [offsetToDirectionString]

theorem offsetToDirectionString_namesDistinct_two : NamesDistinct offsetToDirectionString 2 :=
  fun u v hu hv hu' hv' h => List.append_cancel_right (offsetToDirectionString_namesDistinct (u ++ [0]) (v ++ [0])
    (by simp [hu]) (by simp [hv]) (by simpa [UnitOffset, or_imp, forall_and] using hu')
    (by simpa [UnitOffset, or_imp, forall_and] using hv')
    (by rw [offsetToDirectionString_append_zero u hu, offsetToDirectionString_append_zero v hv, h]))

end WalberlaCodegen
