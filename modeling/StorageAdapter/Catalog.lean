/-! # Catalogs

A catalog keeps at most one value under each key, in the order in which the keys were first put. -/

namespace StorageAdapter

/-- Values under keys. -/
structure Catalog (κ α : Type) where
  entries : List (κ × α) := []
deriving DecidableEq, Repr

namespace Catalog

variable {κ α : Type} [DecidableEq κ]

/-- The value under a key. -/
def get? (c : Catalog κ α) (k : κ) : Option α := c.entries.lookup k

/-- Whether there is a value under a key. -/
def contains (c : Catalog κ α) (k : κ) : Bool := (c.get? k).isSome

/-- Puts a value under a key in a list, in place of the one that was there. -/
def putIn (k : κ) (a : α) : List (κ × α) → List (κ × α)
  | [] => [(k, a)]
  | (k', a') :: rest => if k = k' then (k, a) :: rest else (k', a') :: putIn k a rest

/-- The catalog with a value under a key, in place of the one that was there. -/
def put (c : Catalog κ α) (k : κ) (a : α) : Catalog κ α := ⟨putIn k a c.entries⟩

/-- The catalog without the keys that a test admits. -/
def eraseWhere (c : Catalog κ α) (test : κ → Bool) : Catalog κ α :=
  ⟨c.entries.filter fun entry => !test entry.1⟩

/-- The catalog without a key. -/
def erase (c : Catalog κ α) (k : κ) : Catalog κ α := c.eraseWhere (· == k)

/-- The number of keys. -/
def size (c : Catalog κ α) : Nat := c.entries.length

theorem lookup_putIn_self (k : κ) (a : α) (l : List (κ × α)) :
    (putIn k a l).lookup k = some a := by
  fun_induction putIn k a l with
  | case1 => simp
  | case2 => simp
  | case3 k' _ _ h ih => simp [List.lookup_cons, beq_false_of_ne h, ih]

theorem lookup_putIn_of_ne {k k' : κ} (h : k' ≠ k) (a : α) (l : List (κ × α)) :
    (putIn k a l).lookup k' = l.lookup k' := by
  fun_induction putIn k a l with
  | case1 => simp [List.lookup_cons, beq_false_of_ne h]
  | case2 a' rest => simp [List.lookup_cons, beq_false_of_ne h]
  | case3 k'' a'' rest _ ih => simp [List.lookup_cons, ih]

@[simp] theorem get?_put_self (c : Catalog κ α) (k : κ) (a : α) : (c.put k a).get? k = some a :=
  lookup_putIn_self k a c.entries

theorem get?_put_of_ne (c : Catalog κ α) {k k' : κ} (h : k' ≠ k) (a : α) :
    (c.put k a).get? k' = c.get? k' :=
  lookup_putIn_of_ne h a c.entries

theorem lookup_filter_erased (test : κ → Bool) {k : κ} (h : test k = true) (l : List (κ × α)) :
    (l.filter fun entry => !test entry.1).lookup k = none := by
  induction l with
  | nil => rfl
  | cons entry l ih =>
    obtain ⟨k', a⟩ := entry
    by_cases ht : test k' = true
    · simp [ht, ih]
    · have hk : k ≠ k' := fun e => ht (e ▸ h)
      simp [ht, List.lookup_cons, beq_false_of_ne hk, ih]

theorem lookup_filter_kept (test : κ → Bool) {k : κ} (h : test k = false) (l : List (κ × α)) :
    (l.filter fun entry => !test entry.1).lookup k = l.lookup k := by
  induction l with
  | nil => rfl
  | cons entry l ih =>
    obtain ⟨k', a⟩ := entry
    by_cases hk : k = k'
    · subst hk
      simp [h]
    · by_cases ht : test k' = true
      · simp [ht, List.lookup_cons, beq_false_of_ne hk, ih]
      · simp [ht, List.lookup_cons, beq_false_of_ne hk, ih]

@[simp] theorem get?_erase_self (c : Catalog κ α) (k : κ) : (c.erase k).get? k = none :=
  lookup_filter_erased (· == k) (beq_self_eq_true k) c.entries

theorem get?_erase_of_ne (c : Catalog κ α) {k k' : κ} (h : k' ≠ k) :
    (c.erase k).get? k' = c.get? k' :=
  lookup_filter_kept (· == k) (beq_false_of_ne h) c.entries

end Catalog

end StorageAdapter
