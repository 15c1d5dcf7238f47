/-! # Dictionaries

What names are bound to.  Each name is bound at most once; the order of binding does not show.
Main statements: how binding and taking out change what a name is bound to (`get?_insert`,
`get?_erase`). -/

namespace ConstantResolution

/-- What each name is bound to, the last one bound first. -/
structure Dictionary (α : Type) where
  entries : List (String × α) := []
deriving DecidableEq, Inhabited

namespace Dictionary

variable {α : Type}

/-- What a name is bound to. -/
def get? (d : Dictionary α) (name : String) : Option α := d.entries.lookup name

/-- Takes a name out. -/
def erase (d : Dictionary α) (name : String) : Dictionary α :=
  ⟨d.entries.filter fun e => e.1 != name⟩

/-- Binds a name, in place of what it was bound to. -/
def insert (d : Dictionary α) (name : String) (a : α) : Dictionary α :=
  ⟨(name, a) :: (d.erase name).entries⟩

/-- The bound names in order of their code points. -/
def names (d : Dictionary α) : List String :=
  (d.entries.map (·.1)).mergeSort fun a b => !decide (b < a)

theorem lookup_cons_ne {name other : String} (h : other ≠ name) (a : α)
    (es : List (String × α)) : ((name, a) :: es).lookup other = es.lookup other := by
  simp [List.lookup_cons, beq_eq_false_iff_ne.mpr h]

theorem lookup_filter_ne (es : List (String × α)) (name other : String) :
    (es.filter fun e => e.1 != name).lookup other =
      if other = name then none else es.lookup other := by
  induction es with
  | nil => simp
  | cons e es ih =>
    obtain ⟨k, v⟩ := e
    by_cases hk : k = name
    · subst hk
      by_cases ho : other = k
      · subst ho; simpa using ih
      · simp [ih, ho, lookup_cons_ne ho]
    · have hf : (((k, v) :: es).filter fun e => e.1 != name) =
          (k, v) :: es.filter fun e => e.1 != name := by simp [hk]
      rw [hf]
      by_cases ho : other = k
      · subst ho; simp [hk]
      · rw [lookup_cons_ne ho, lookup_cons_ne ho, ih]

theorem get?_erase (d : Dictionary α) (name other : String) :
    (d.erase name).get? other = if other = name then none else d.get? other :=
  lookup_filter_ne d.entries name other

theorem get?_insert (d : Dictionary α) (name other : String) (a : α) :
    (d.insert name a).get? other = if other = name then some a else d.get? other := by
  by_cases h : other = name
  · subst h; simp [insert, get?]
  · have he := get?_erase d name other
    simp only [get?, if_neg h] at he
    rw [if_neg h, get?, insert, lookup_cons_ne h, he, get?]

theorem get?_erase_eq_some_iff {d : Dictionary α} {name other : String} {a : α} :
    (d.erase name).get? other = some a ↔ other ≠ name ∧ d.get? other = some a := by
  rw [get?_erase]
  split <;> simp_all

@[simp] theorem get?_erase_self (d : Dictionary α) (name : String) :
    (d.erase name).get? name = none := by
  rw [get?_erase, if_pos rfl]

end Dictionary
end ConstantResolution
