/-!
Tables: values under keys, at most one under each.
-/

namespace Quarantine

/-- Values under keys. Of two entries with one key the first counts. -/
structure Table (κ α : Type) where
  entries : List (κ × α)
  deriving DecidableEq, Repr

namespace Table

variable {κ α : Type} [DecidableEq κ]

def empty : Table κ α :=
  ⟨[]⟩

instance : Inhabited (Table κ α) :=
  ⟨empty⟩

def get? (t : Table κ α) (k : κ) : Option α :=
  (t.entries.find? fun e => e.1 = k).map (·.2)

def contains (t : Table κ α) (k : κ) : Bool :=
  (t.get? k).isSome

def erase (t : Table κ α) (k : κ) : Table κ α :=
  ⟨t.entries.filter fun e => e.1 ≠ k⟩

def insert (t : Table κ α) (k : κ) (a : α) : Table κ α :=
  ⟨(k, a) :: (t.erase k).entries⟩

def size (t : Table κ α) : Nat :=
  t.entries.length

@[simp] theorem get?_empty (k : κ) : (empty : Table κ α).get? k = none :=
  rfl

theorem get?_erase_self (t : Table κ α) (k : κ) : (t.erase k).get? k = none := by
  simp only [get?, erase, Option.map_eq_none_iff, List.find?_eq_none, List.mem_filter]
  intro e he
  simpa using he.2

theorem find?_filter_ne {k j : κ} (h : j ≠ k) (l : List (κ × α)) :
    ((l.filter fun e => e.1 ≠ k).find? fun e => e.1 = j) = l.find? fun e => e.1 = j := by
  induction l with
  | nil => rfl
  | cons e l ih =>
    by_cases hk : e.1 = k
    · have hj : ¬ e.1 = j := fun hj => h (hj.symm.trans hk)
      simp_all
    · by_cases hj : e.1 = j <;> simp_all

theorem get?_erase_ne {k j : κ} (h : j ≠ k) (t : Table κ α) : (t.erase k).get? j = t.get? j := by
  simp only [get?, erase, find?_filter_ne h]

theorem get?_insert_self (t : Table κ α) (k : κ) (a : α) : (t.insert k a).get? k = some a := by
  simp [get?, insert]

theorem get?_insert_ne {k j : κ} (h : j ≠ k) (t : Table κ α) (a : α) :
    (t.insert k a).get? j = t.get? j := by
  have hk : ¬ k = j := fun hk => h hk.symm
  simp only [get?, insert, List.find?_cons, hk, decide_false]
  exact congrArg _ (find?_filter_ne h _)

end Table

end Quarantine
