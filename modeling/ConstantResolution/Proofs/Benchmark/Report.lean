import ConstantResolution.Proofs.Json.Fields
import ConstantResolution.Proofs.Json.Number

/-! # Reports are read back

What is written of counters is read as these counters (`Tally.read?_text`).  What is written of a list of
results is read as a list of as many, which agree in every field, except that a number comes back as what its own
text is read as (`Report.read?_write`). -/

namespace ConstantResolution

namespace Tally

theorem proper_toJson (t : Tally) : t.toJson.Proper := by
  refine Json.proper_fields _ fun j hj => ?_
  obtain ⟨c, -, rfl⟩ := List.mem_map.mp hj
  exact .number (Decimal.grammatical_ofNat c.toNat)

/-- The counters of an object that was made of them. -/
theorem ofJson?_toJson (t : Tally) : ofJson? t.toJson = some t := by
  have hrecord : Json.record? fieldNames t.toJson = some ((t.counters.map fun c => Json.nat c.toNat).map some) :=
    Json.record?_fields (by decide) rfl
  have hcount : ∀ c : UInt64, (some (Json.nat c.toNat)).bind Json.count? = some c := Json.counter?_ofNat
  unfold ofJson?
  rw [hrecord]
  simp [counters, hcount]

theorem read?_text (t : Tally) : read? t.write = some t := by
  unfold read? write
  rw [Json.parse?_print Json.blank_compact t.proper_toJson]
  exact t.ofJson?_toJson

end Tally

namespace Report

/-- What the text of a number is read as. -/
def ReadNumber (x y : Binary64) : Prop :=
  (Json.parse? ((numberJson x).print Json.compact)).bind Json.float? = some y

/-- A result that is read for one that was written.  All fields agree, the numbers up to their texts. -/
structure ReadAs (written read : Report) : Prop where
  name : read.name = written.name
  description : read.description = written.description
  duration : ReadNumber written.duration read.duration
  rate : Option.Rel ReadNumber written.rate read.rate
  tally : read.tally = written.tally
  success : read.success = written.success
  error : read.error = written.error

/-- The numbers of a result are finite. -/
structure Finite (r : Report) : Prop where
  duration : r.duration.isFinite = true
  rate : ∀ x, r.rate = some x → x.isFinite = true

/-! ### Fields -/

theorem proper_numberJson (x : Binary64) : (numberJson x).Proper := by
  unfold numberJson
  split
  · exact .number (Decimal.grammatical_numeral layout x)
  · exact .null

/-- A finite number is read, and not as null. -/
theorem float?_numberJson {x : Binary64} (h : x.isFinite = true) :
    ∃ y, Json.float? (numberJson x) = some y ∧ Json.optional? Json.float? (some (numberJson x)) = some (some y) ∧
      ReadNumber x y := by
  obtain ⟨y, hy⟩ := Json.exists_number?_numeral h
  have hjson : numberJson x = .number (layout.numeral x) := if_pos h
  have hfloat : Json.float? (numberJson x) = some y := by
    rw [hjson]
    exact hy
  refine ⟨y, hfloat, ?_, ?_⟩
  · rw [hjson] at hfloat ⊢
    exact congrArg (Option.map some) hfloat
  · unfold ReadNumber
    rw [Json.parse?_print Json.blank_compact (proper_numberJson x)]
    exact hfloat

/-- A text that may be absent. -/
theorem optional?_string (s : Option String) :
    Json.optional? Json.string? (some ((s.map Json.text).getD .null)) = some s := by
  cases s <;> rfl

/-- A number that may be absent. -/
theorem optional?_float {rate : Option Binary64} (h : ∀ x, rate = some x → x.isFinite = true) :
    ∃ rate', Json.optional? Json.float? (some ((rate.map numberJson).getD .null)) = some rate' ∧
      Option.Rel ReadNumber rate rate' := by
  cases rate with
  | none => exact ⟨none, rfl, .none⟩
  | some x =>
      obtain ⟨y, -, hy, hread⟩ := float?_numberJson (h x rfl)
      exact ⟨some y, hy, .some hread⟩

/-! ### Results -/

theorem proper_toJson (r : Report) : r.toJson.Proper := by
  refine Json.proper_fields _ fun j hj => ?_
  simp only [List.mem_cons, List.not_mem_nil, or_false] at hj
  rcases hj with rfl | rfl | rfl | rfl | rfl | rfl | rfl
  · exact .text _
  · exact .text _
  · exact proper_numberJson _
  · cases r.rate with
    | none => exact .null
    | some x => exact proper_numberJson x
  · exact r.tally.proper_toJson
  · exact .bool _
  · cases r.error with
    | none => exact .null
    | some e => exact .text e

/-- A result is read from the object that was made of it. -/
theorem ofJson?_toJson {r : Report} (h : r.Finite) : ∃ r', ofJson? r.toJson = some r' ∧ ReadAs r r' := by
  obtain ⟨duration, hduration, -, hreadDuration⟩ := float?_numberJson h.duration
  obtain ⟨rate, hrate, hreadRate⟩ := optional?_float h.rate
  refine ⟨{ r with duration, rate }, ?_, ⟨rfl, rfl, hreadDuration, hreadRate, rfl, rfl, rfl⟩⟩
  have hrecord : Json.record? fieldNames r.toJson = _ := Json.record?_fields (by decide) rfl
  unfold ofJson?
  rw [hrecord]
  simp only [List.map_cons, List.map_nil, Option.bind_eq_bind, Option.bind_some]
  rw [hduration, hrate, optional?_string, r.tally.ofJson?_toJson]
  rfl

/-- Results are read one by one. -/
theorem mapM_ofJson?_toJson {rs : List Report} (h : ∀ r ∈ rs, r.Finite) :
    ∃ rs', (rs.map toJson).mapM ofJson? = some rs' ∧ List.Forall₂ ReadAs rs rs' := by
  induction rs with
  | nil => exact ⟨[], rfl, .nil⟩
  | cons r rs ih =>
      obtain ⟨r', hr, hread⟩ := ofJson?_toJson (h r List.mem_cons_self)
      obtain ⟨rs', hrs, hreads⟩ := ih fun s hs => h s (List.mem_cons_of_mem r hs)
      refine ⟨r' :: rs', ?_, .cons hread hreads⟩
      rw [List.map_cons, List.mapM_cons, hr, hrs]
      rfl

/-- **Reports are read back.**  The results that are read from the text of finite ones are as many, in the same
order and with the same fields, each number being what its own text is read as.  Counters come back as they
were. -/
theorem read?_write :
    (∀ rs : List Report, (∀ r ∈ rs, r.Finite) → ∃ rs', read? (write rs) = some rs' ∧ List.Forall₂ ReadAs rs rs') ∧
      ∀ t : Tally, Tally.read? t.write = some t := by
  refine ⟨fun rs h => ?_, Tally.read?_text⟩
  obtain ⟨rs', hrs, hread⟩ := mapM_ofJson?_toJson h
  refine ⟨rs', ?_, hread⟩
  have hproper : (Json.array (rs.map toJson)).Proper := by
    refine .array fun j hj => ?_
    obtain ⟨r, -, rfl⟩ := List.mem_map.mp hj
    exact r.proper_toJson
  unfold read? write
  rw [Json.parse?_print Json.blank_indented hproper]
  exact hrs

/-- Two results: one with quotes, a backslash, controls and other letters in its texts, the greatest number and the
greatest counter, and one that failed with a number below the normal ones. -/
def sample : List Report :=
  [{ name := "say \"\\\"\n\t", description := String.ofList [Char.ofNat 1, 'é', '😀']
     duration := ⟨0x7FEFFFFFFFFFFFFF⟩, rate := none
     tally := { lookups := 0xFFFFFFFFFFFFFFFF }, success := true, error := none },
   { name := "", description := "slow", duration := ⟨0x8000000000000000⟩, rate := some ⟨1⟩
     tally := {}, success := false, error := some "/" }]

theorem finite_sample : ∀ r ∈ sample, r.Finite := by
  intro r hr
  simp only [sample, List.mem_cons, List.not_mem_nil, or_false] at hr
  rcases hr with rfl | rfl
  · exact ⟨by decide, nofun⟩
  · exact ⟨by decide, fun x hx => Option.some.inj hx ▸ by decide⟩

theorem read?_write_sample : ∃ rs', read? (write sample) = some rs' ∧ List.Forall₂ ReadAs sample rs' :=
  read?_write.1 sample finite_sample

end Report
end ConstantResolution
