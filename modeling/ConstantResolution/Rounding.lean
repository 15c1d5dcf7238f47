/-! # Rounded quotients

A quotient of naturals rounded to the nearest natural.  The tie, a quotient exactly between two
naturals, goes as the caller says.  Main statement: the rounded quotient is within half a unit
(`roundDiv_near`). -/

namespace ConstantResolution

/-- Where a value exactly between two neighbours goes. -/
inductive Tie where
  | toEven
  | up
deriving DecidableEq

/-- `num / den` to the nearest natural. -/
def roundDiv (tie : Tie) (num den : Nat) : Nat :=
  if 2 * (num % den) < den then num / den
  else if den < 2 * (num % den) then num / den + 1
  else match tie with
    | .up => num / den + 1
    | .toEven => if num / den % 2 = 0 then num / den else num / den + 1

/-- **The rounded quotient is within half a unit of the exact one.** -/
theorem roundDiv_near (tie : Tie) (num den : Nat) (h : 0 < den) :
    2 * (roundDiv tie num den * den) ≤ 2 * num + den ∧
      2 * num ≤ 2 * (roundDiv tie num den * den) + den := by
  have e : den * (num / den) + num % den = num := Nat.div_add_mod num den
  have l : num % den < den := Nat.mod_lt _ h
  have hs : (num / den + 1) * den = den * (num / den) + den := by
    rw [Nat.add_mul, Nat.mul_comm, Nat.one_mul]
  have h0 : num / den * den = den * (num / den) := Nat.mul_comm ..
  unfold roundDiv
  split
  · rw [h0]; omega
  · split
    · rw [hs]; omega
    · cases tie with
      | up => rw [hs]; omega
      | toEven =>
        dsimp only
        split
        · rw [h0]; omega
        · rw [hs]; omega

end ConstantResolution
