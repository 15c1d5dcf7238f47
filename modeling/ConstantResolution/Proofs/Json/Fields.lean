import ConstantResolution.Json.Fields
import ConstantResolution.Proofs.Json.RoundTrip

/-! # Records are read back

A record that is written with all of its fields, each under its own name, is read as these fields
(`record?_fields`).  It is proper as soon as its fields are (`proper_fields`). -/

namespace ConstantResolution.Json

/-- The members of a record, as the object has them. -/
def members (names : List String) (values : List Json) : List (Option String × Json) :=
  (names.zip values).map fun m => (some m.1, m.2)

theorem valuesOf_cons (name key : String) (v : Json) (ms : List (Option String × Json)) :
    valuesOf name ((some key, v) :: ms) = if key = name then v :: valuesOf name ms else valuesOf name ms := by
  unfold valuesOf
  rw [List.filter_cons]
  by_cases h : key = name <;> simp [h]

theorem valuesOf_members_of_not_mem {name : String} {names : List String} (h : name ∉ names)
    (values : List Json) : valuesOf name (members names values) = [] := by
  unfold valuesOf members
  rw [List.map_eq_nil_iff, List.filter_eq_nil_iff]
  intro m hm
  obtain ⟨m', hm', rfl⟩ := List.mem_map.mp hm
  have hne : m'.1 ≠ name := fun heq => h (heq ▸ (List.of_mem_zip hm').1)
  simpa using hne

/-- Under each name stands its value and no other. -/
theorem map_valuesOf_members {names : List String} (h : names.Nodup) {values : List Json}
    (hlength : names.length = values.length) :
    names.map (valuesOf · (members names values)) = values.map fun v => [v] := by
  induction names generalizing values with
  | nil =>
      obtain rfl : values = [] := List.length_eq_zero_iff.mp hlength.symm
      rfl
  | cons name names ih =>
      obtain ⟨v, values, rfl⟩ := List.exists_cons_of_length_eq_add_one hlength.symm
      obtain ⟨hfresh, hnodup⟩ := List.nodup_cons.mp h
      have hmembers : members (name :: names) (v :: values) = (some name, v) :: members names values := rfl
      have hhead : valuesOf name (members (name :: names) (v :: values)) = [v] := by
        rw [hmembers, valuesOf_cons, if_pos rfl, valuesOf_members_of_not_mem hfresh]
      have htail : names.map (valuesOf · (members (name :: names) (v :: values))) =
          names.map (valuesOf · (members names values)) := by
        refine List.map_congr_left fun n hn => ?_
        have hne : name ≠ n := fun heq => hfresh (heq ▸ hn)
        rw [hmembers, valuesOf_cons, if_neg hne]
      rw [List.map_cons, hhead, htail, ih hnodup (Nat.succ.inj hlength)]
      rfl

/-- **A record with all of its fields is read as these fields.** -/
theorem record?_fields {names : List String} (h : names.Nodup) {values : List Json}
    (hlength : names.length = values.length) :
    record? names (.fields (names.zip values)) = some (values.map some) := by
  have hvalues := map_valuesOf_members h hlength
  have hkeys : (members names values).all (·.1.isSome) = true := by
    rw [List.all_eq_true]
    intro m hm
    obtain ⟨_, -, rfl⟩ := List.mem_map.mp hm
    rfl
  have honce : names.all (fun n => (valuesOf n (members names values)).length ≤ 1) = true := by
    rw [List.all_eq_true]
    intro n hn
    have hmem : valuesOf n (members names values) ∈ values.map fun v => [v] := by
      rw [← hvalues]
      exact List.mem_map_of_mem hn
    obtain ⟨v, -, hv⟩ := List.mem_map.mp hmem
    rw [← hv]
    rfl
  have hrecord : record? names (.fields (names.zip values)) =
      some (names.map fun n => (valuesOf n (members names values)).head?) :=
    if_pos (Bool.and_eq_true_iff.mpr ⟨hkeys, honce⟩)
  have hheads := congrArg (List.map List.head?) hvalues
  rw [List.map_map, List.map_map] at hheads
  exact hrecord.trans (congrArg some hheads)

/-- A record is proper when its fields are. -/
theorem proper_fields (names : List String) {values : List Json} (h : ∀ v ∈ values, v.Proper) :
    (Json.fields (names.zip values)).Proper := by
  refine .object ?_ ?_ <;> intro m hm <;> obtain ⟨m', hm', rfl⟩ := List.mem_map.mp hm
  · rfl
  · exact h m'.2 (List.of_mem_zip hm').2

end ConstantResolution.Json
