/-! # Shelves

A shelf keeps values under ids, in ascending order of the ids.
-/

namespace AmbientTx.Script

/-- Values under ids, with the ids ascending. -/
structure Shelf (α : Type) where
  items : List (String × α) := []

namespace Shelf

variable {α : Type}

/-- Puts a value in its place in the row, over the one that is there. -/
def insertItem (id : String) (a : α) : List (String × α) → List (String × α)
  | [] => [(id, a)]
  | (k, b) :: rest =>
    if id < k then (id, a) :: (k, b) :: rest
    else if id = k then (id, a) :: rest
    else (k, b) :: insertItem id a rest

/-- The value under an id. -/
def get? (s : Shelf α) (id : String) : Option α :=
  List.lookup id s.items

/-- Puts a value under an id. -/
def put (s : Shelf α) (id : String) (a : α) : Shelf α :=
  ⟨insertItem id a s.items⟩

/-- Removes what is under an id. -/
def remove (s : Shelf α) (id : String) : Shelf α :=
  ⟨s.items.filter fun item => item.1 ≠ id⟩

/-- The values, in ascending order of their ids. -/
def values (s : Shelf α) : List α :=
  s.items.map (·.2)

/-! ## Looking up -/

/-- Looking up an item that was put in its place. -/
theorem lookup_insertItem (id k : String) (a : α) (items : List (String × α)) :
    List.lookup k (insertItem id a items) = if k = id then some a else List.lookup k items := by
  have hb : (k == id) = decide (k = id) := rfl
  induction items with
  | nil => by_cases h : k = id <;> simp [insertItem, List.lookup_cons, hb, h]
  | cons item rest ih =>
    obtain ⟨j, b⟩ := item
    unfold insertItem
    split
    · by_cases h : k = id <;> simp [List.lookup_cons, hb, h]
    · split
      · rename_i he
        subst he
        by_cases h : k = id <;> simp [List.lookup_cons, hb, h]
      · rename_i hne
        by_cases h : k = id
        · subst h
          simp [List.lookup_cons, beq_false_of_ne hne, ih]
        · simp [List.lookup_cons, ih, h]

/-- What was put under an id is found there. -/
@[simp] theorem get?_put_self (s : Shelf α) (id : String) (a : α) :
    (s.put id a).get? id = some a := by
  simp [get?, put, lookup_insertItem]

/-- Putting under one id leaves what is under the others. -/
theorem get?_put_of_ne (s : Shelf α) {id k : String} (h : k ≠ id) (a : α) :
    (s.put id a).get? k = s.get? k := by
  simp [get?, put, lookup_insertItem, h]

/-- What was removed is gone. -/
@[simp] theorem get?_remove_self (s : Shelf α) (id : String) : (s.remove id).get? id = none := by
  simp only [get?, remove, List.lookup_eq_none_iff, List.mem_filter]
  rintro ⟨k, b⟩ ⟨-, hk⟩
  exact bne_iff_ne.2 (Ne.symm (of_decide_eq_true hk))

end Shelf
end AmbientTx.Script
