/-!
# Values by partition

A finite map from partition numbers to values, kept in increasing order of the number. Two maps that
give every partition the same value are equal.

* `PartitionMap`, with `get?`, `insert`, `erase`, `keys`, `values`;
* `PartitionSet`, the maps without values;
* the laws `get?_insert`, `get?_erase`, `get?_ofList`, `keys_insert`, `ext_get?`.
-/

namespace OrderRelay

/-- The list has strictly increasing partition numbers. -/
def IsSorted {α : Type} (xs : List (Int × α)) : Prop := xs.Pairwise fun a b => a.1 < b.1

/-- A finite map from partition numbers. -/
structure PartitionMap (α : Type) where
  entries : List (Int × α)
  sorted : IsSorted entries

namespace PartitionMap

variable {α : Type}

/-- The map without entries. -/
def empty : PartitionMap α := ⟨[], List.Pairwise.nil⟩

instance : Inhabited (PartitionMap α) := ⟨empty⟩

instance [DecidableEq α] : DecidableEq (PartitionMap α) := fun m m' =>
  decidable_of_iff (m.entries = m'.entries) ⟨fun h => by cases m; cases m'; simpa using h, congrArg _⟩

/-- The value of a partition in a list. -/
def find? (p : Int) : List (Int × α) → Option α
  | [] => none
  | (q, a) :: rest => if q = p then some a else find? p rest

/-- The list with the value of a partition put in its place. -/
def put (p : Int) (a : α) : List (Int × α) → List (Int × α)
  | [] => [(p, a)]
  | (q, b) :: rest =>
    if p < q then (p, a) :: (q, b) :: rest
    else if p = q then (p, a) :: rest
    else (q, b) :: put p a rest

theorem mem_put {p : Int} {a : α} {xs : List (Int × α)} {e : Int × α} (h : e ∈ put p a xs) :
    e = (p, a) ∨ e ∈ xs := by
  induction xs with
  | nil => simpa [put] using h
  | cons x xs ih =>
    obtain ⟨q, b⟩ := x
    simp only [put] at h
    split at h
    · simpa using h
    · split at h
      · rcases List.mem_cons.mp h with h | h
        · exact .inl h
        · exact .inr (List.mem_cons_of_mem _ h)
      · rcases List.mem_cons.mp h with h | h
        · exact .inr (by simp [h])
        · exact (ih h).imp id (List.mem_cons_of_mem _)

theorem isSorted_put {p : Int} {a : α} {xs : List (Int × α)} (h : IsSorted xs) :
    IsSorted (put p a xs) := by
  induction xs with
  | nil => simp [put, IsSorted]
  | cons x xs ih =>
    obtain ⟨q, b⟩ := x
    have hx := List.pairwise_cons.mp h
    simp only [put]
    split
    · refine List.pairwise_cons.mpr ⟨fun e he => ?_, h⟩
      rcases List.mem_cons.mp he with rfl | he
      · assumption
      · have := hx.1 e he
        simp only at this ⊢
        omega
    · split
      · rename_i hpq
        exact List.pairwise_cons.mpr ⟨fun e he => hpq ▸ hx.1 e he, hx.2⟩
      · refine List.pairwise_cons.mpr ⟨fun e he => ?_, ih hx.2⟩
        rcases mem_put he with rfl | he
        · simp only
          omega
        · exact hx.1 e he

/-- The value of a partition. -/
def get? (m : PartitionMap α) (p : Int) : Option α := find? p m.entries

/-- Give a partition a value. -/
def insert (m : PartitionMap α) (p : Int) (a : α) : PartitionMap α :=
  ⟨put p a m.entries, isSorted_put m.sorted⟩

/-- Forget a partition. -/
def erase (m : PartitionMap α) (p : Int) : PartitionMap α :=
  ⟨m.entries.filter (·.1 != p), m.sorted.sublist List.filter_sublist⟩

/-- The partitions, in increasing order. -/
def keys (m : PartitionMap α) : List Int := m.entries.map (·.1)

/-- The values, in increasing order of their partitions. -/
def values (m : PartitionMap α) : List α := m.entries.map (·.2)

/-- The partition has a value. -/
def contains (m : PartitionMap α) (p : Int) : Bool := (m.get? p).isSome

/-- The map of a list of entries; of two entries for one partition the first one counts. -/
def ofList (xs : List (Int × α)) : PartitionMap α :=
  xs.foldr (fun e m => m.insert e.1 e.2) empty

/-- The entries that satisfy a test. -/
def filter (m : PartitionMap α) (test : Int → α → Bool) : PartitionMap α :=
  ⟨m.entries.filter fun e => test e.1 e.2, m.sorted.sublist List.filter_sublist⟩

/-! ## Looking up -/

theorem find?_put (p q : Int) (a : α) (xs : List (Int × α)) :
    find? q (put p a xs) = if p = q then some a else find? q xs := by
  induction xs with
  | nil => simp [put, find?]
  | cons x xs ih =>
    obtain ⟨r, b⟩ := x
    simp only [put]
    split
    · simp [find?]
    · split
      · rename_i hpr
        subst hpr
        by_cases h : p = q <;> simp [find?, h]
      · by_cases hr : r = q
        · subst hr
          simp [find?]
          omega
        · simp [find?, hr, ih]

theorem get?_insert (m : PartitionMap α) (p q : Int) (a : α) :
    (m.insert p a).get? q = if p = q then some a else m.get? q := find?_put p q a m.entries

@[simp] theorem get?_empty (q : Int) : (empty : PartitionMap α).get? q = none := rfl

theorem get?_ofList (xs : List (Int × α)) (q : Int) : (ofList xs).get? q = find? q xs := by
  induction xs with
  | nil => rfl
  | cons x xs ih =>
    obtain ⟨p, a⟩ := x
    have h : ofList ((p, a) :: xs) = (ofList xs).insert p a := rfl
    rw [h, get?_insert, ih]
    rfl

/-- The map of a function on a list of partitions. -/
theorem get?_ofList_map (ps : List Int) (f : Int → α) (q : Int) :
    (ofList (ps.map fun p => (p, f p))).get? q = if q ∈ ps then some (f q) else none := by
  rw [get?_ofList]
  induction ps with
  | nil => rfl
  | cons p ps ih =>
    rw [List.map_cons, find?, ih]
    by_cases h : p = q
    · simp [h]
    · have h' : q ≠ p := fun e => h e.symm
      simp [h, h']

theorem find?_filter_ne (p q : Int) (xs : List (Int × α)) :
    find? q (xs.filter (·.1 != p)) = if p = q then none else find? q xs := by
  induction xs with
  | nil => simp [find?]
  | cons x xs ih =>
    obtain ⟨r, b⟩ := x
    by_cases hr : r = p
    · subst hr
      by_cases h : r = q <;> simp_all [find?]
    · by_cases h : p = q
      · subst h
        simp_all [find?]
      · simp_all [find?]

theorem get?_erase (m : PartitionMap α) (p q : Int) :
    (m.erase p).get? q = if p = q then none else m.get? q := find?_filter_ne p q m.entries

theorem mem_of_find? {p : Int} {a : α} {xs : List (Int × α)} (h : find? p xs = some a) :
    (p, a) ∈ xs := by
  induction xs with
  | nil => simp [find?] at h
  | cons x xs ih =>
    obtain ⟨r, b⟩ := x
    simp only [find?] at h
    split at h
    · rename_i hr
      simp_all
    · exact List.mem_cons_of_mem _ (ih h)

theorem find?_of_mem {p : Int} {a : α} {xs : List (Int × α)} (hs : IsSorted xs)
    (h : (p, a) ∈ xs) : find? p xs = some a := by
  induction xs with
  | nil => simp at h
  | cons x xs ih =>
    obtain ⟨r, b⟩ := x
    have hx := List.pairwise_cons.mp hs
    rcases List.mem_cons.mp h with h | h
    · cases h
      simp [find?]
    · have := hx.1 _ h
      simp only at this
      have hne : r ≠ p := by omega
      simp [find?, hne, ih hx.2 h]

theorem mem_entries_iff {m : PartitionMap α} {p : Int} {a : α} :
    (p, a) ∈ m.entries ↔ m.get? p = some a :=
  ⟨find?_of_mem m.sorted, mem_of_find?⟩

theorem mem_keys_filter_iff {m : PartitionMap α} {test : Int → α → Bool} {p : Int} :
    p ∈ (m.filter test).keys ↔ ∃ a, m.get? p = some a ∧ test p a = true := by
  unfold keys filter
  simp only [List.mem_map, List.mem_filter]
  constructor
  · rintro ⟨⟨q, a⟩, ⟨he, ht⟩, rfl⟩
    exact ⟨a, mem_entries_iff.mp he, ht⟩
  · rintro ⟨a, ha, ht⟩
    exact ⟨(p, a), ⟨mem_entries_iff.mpr ha, ht⟩, rfl⟩

theorem mem_keys_iff {m : PartitionMap α} {p : Int} : p ∈ m.keys ↔ (m.get? p).isSome = true := by
  constructor
  · intro h
    obtain ⟨⟨q, a⟩, he, rfl⟩ := List.mem_map.mp h
    simp [get?, find?_of_mem m.sorted he]
  · intro h
    obtain ⟨a, ha⟩ := Option.isSome_iff_exists.mp h
    exact List.mem_map.mpr ⟨(p, a), mem_of_find? ha, rfl⟩

theorem map_fst_put {p : Int} {a : α} {xs : List (Int × α)} (hs : IsSorted xs) (h : (find? p xs).isSome) :
    (put p a xs).map Prod.fst = xs.map Prod.fst := by
  induction xs with
  | nil => simp [find?] at h
  | cons x xs ih =>
    obtain ⟨q, b⟩ := x
    have hx := List.pairwise_cons.mp hs
    obtain ⟨v, hv⟩ := Option.isSome_iff_exists.mp h
    have hle : q ≤ p := by
      rcases List.mem_cons.mp (mem_of_find? hv) with heq | hmem
      · exact Int.le_of_eq (congrArg Prod.fst heq).symm
      · exact Int.le_of_lt (hx.1 _ hmem)
    simp only [put]
    split
    · omega
    · split
      · rename_i hpq
        rw [hpq]
        rfl
      · rename_i hpq
        have hrest : find? p ((q, b) :: xs) = find? p xs := if_neg (Ne.symm hpq)
        rw [List.map_cons, List.map_cons, ih hx.2 (hrest ▸ h)]

/-- Giving another value to a partition that has one leaves the partitions as they are. -/
theorem keys_insert {m : PartitionMap α} {p : Int} {a : α} (h : m.contains p = true) :
    (m.insert p a).keys = m.keys := map_fst_put m.sorted h

theorem eq_of_find?_eq {xs ys : List (Int × α)} (hx : IsSorted xs) (hy : IsSorted ys)
    (h : ∀ p, find? p xs = find? p ys) : xs = ys := by
  induction xs generalizing ys with
  | nil =>
    cases ys with
    | nil => rfl
    | cons y ys => simpa [find?] using h y.1
  | cons x xs ih =>
    cases ys with
    | nil => simpa [find?] using h x.1
    | cons y ys =>
      obtain ⟨p, a⟩ := x
      obtain ⟨q, b⟩ := y
      have hx' := List.pairwise_cons.mp hx
      have hy' := List.pairwise_cons.mp hy
      have hpq : p = q := by
        have h1 : (p, a) ∈ (q, b) :: ys := mem_of_find? (by rw [← h p]; simp [find?])
        have h2 : (q, b) ∈ (p, a) :: xs := mem_of_find? (by rw [h q]; simp [find?])
        rcases List.mem_cons.mp h1 with h1 | h1
        · exact congrArg Prod.fst h1
        · rcases List.mem_cons.mp h2 with h2 | h2
          · exact (congrArg Prod.fst h2).symm
          · have := hy'.1 _ h1
            have := hx'.1 _ h2
            simp only at *
            omega
      subst hpq
      have hab : a = b := by simpa [find?] using h p
      subst hab
      congr 1
      refine ih hx'.2 hy'.2 fun r => ?_
      by_cases hr : p = r
      · subst hr
        have hn : ∀ zs : List (Int × α), (∀ e ∈ zs, p < e.1) → find? p zs = none := by
          intro zs hz
          cases hf : find? p zs with
          | none => rfl
          | some c =>
            have := hz _ (mem_of_find? hf)
            simp at this
        rw [hn xs hx'.1, hn ys hy'.1]
      · simpa [find?, hr] using h r

/-- Maps that give every partition the same value are equal. -/
theorem ext_get? {m m' : PartitionMap α} (h : ∀ p, m.get? p = m'.get? p) : m = m' := by
  have := eq_of_find?_eq m.sorted m'.sorted h
  cases m
  cases m'
  simpa using this

end PartitionMap

/-- A finite set of partitions. -/
abbrev PartitionSet := PartitionMap Unit

/-- The set with one more partition. -/
def PartitionSet.add (s : PartitionSet) (p : Int) : PartitionSet := s.insert p ()

end OrderRelay
