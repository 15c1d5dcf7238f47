import Mathlib.Data.List.Basic
import ConstantResolution.Text.Forms

/-! # Paths of names

A path of names is split at each pair of colons.  The name of a constant holds no colon, so a path of such
names is split into these names again (`pathSegments_intercalate`). -/

namespace ConstantResolution

/-- Splits a text at each pair of colons, from left to right. -/
def splitPath : List Char → List (List Char)
  | [] => [[]]
  | [c] => [[c]]
  | c :: d :: cs =>
    if c = ':' ∧ d = ':' then [] :: splitPath cs else (splitPath (d :: cs)).modifyHead (c :: ·)

/-- **The segments of a path.** -/
def pathSegments (path : String) : List String := (splitPath path.toList).map String.ofList

/-- What is no colon belongs to the first segment. -/
theorem splitPath_cons {c : Char} (hc : c ≠ ':') (cs : List Char) :
    splitPath (c :: cs) = (splitPath cs).modifyHead (c :: ·) := by
  cases cs with
  | nil => rfl
  | cons d cs => rw [splitPath, if_neg fun h => hc h.1]

/-- A segment without a colon stays one up to the end or up to what comes after a pair of colons. -/
theorem splitPath_append {a : List Char} (ha : ':' ∉ a) (cs : List Char) :
    splitPath (a ++ cs) = (splitPath cs).modifyHead (a ++ ·) := by
  induction a with
  | nil =>
      have hid : (fun b : List Char => [] ++ b) = id := funext List.nil_append
      rw [List.nil_append, hid, List.modifyHead_id, id]
  | cons c a ih =>
      rw [List.mem_cons, not_or] at ha
      rw [List.cons_append, splitPath_cons (Ne.symm ha.1), ih ha.2, List.modifyHead_modifyHead]
      rfl

theorem splitPath_of_not_mem {a : List Char} (ha : ':' ∉ a) : splitPath a = [a] := by
  have h := splitPath_append ha []
  rwa [List.append_nil, splitPath, List.modifyHead_cons, List.append_nil] at h

/-- **What is joined by pairs of colons is split there.** -/
theorem splitPath_intercalate {a : List Char} {as : List (List Char)} (h : ∀ b ∈ a :: as, ':' ∉ b) :
    splitPath ([':', ':'].intercalate (a :: as)) = a :: as := by
  induction as generalizing a with
  | nil =>
      rw [List.intercalate_singleton]
      exact splitPath_of_not_mem (h a List.mem_cons_self)
  | cons b as ih =>
      have htail := ih fun c hc => h c (List.mem_cons_of_mem a hc)
      have hcolons : ∀ cs, splitPath (':' :: ':' :: cs) = [] :: splitPath cs := fun cs => by
        rw [splitPath, if_pos ⟨rfl, rfl⟩]
      rw [List.intercalate_cons_cons, List.append_assoc, splitPath_append (h a List.mem_cons_self)]
      show (splitPath (':' :: ':' :: [':', ':'].intercalate (b :: as))).modifyHead (a ++ ·) = _
      rw [hcolons, htail, List.modifyHead_cons, List.append_nil]

theorem not_colon_of_isNameChar {c : Char} (h : isNameChar c = true) : c ≠ ':' := by
  rintro rfl
  exact absurd h (by decide)

/-- **The name of a constant holds no colon.** -/
theorem not_mem_of_isConstantName {name : String} (h : isConstantName name = true) : ':' ∉ name.toList := by
  unfold isConstantName at h
  rw [Bool.and_eq_true, List.all_eq_true] at h
  exact fun hm => not_colon_of_isNameChar (h.2 ':' hm) rfl

/-- **A path of names of constants is split into these names.** -/
theorem pathSegments_intercalate {names : List String} (hne : names ≠ [])
    (h : ∀ name ∈ names, isConstantName name = true) : pathSegments ("::".intercalate names) = names := by
  obtain ⟨name, names, rfl⟩ := List.exists_cons_of_ne_nil hne
  have hcolons : ∀ cs ∈ (name :: names).map String.toList, ':' ∉ cs := by
    intro cs hcs
    obtain ⟨n, hn, rfl⟩ := List.mem_map.mp hcs
    exact not_mem_of_isConstantName (h n hn)
  rw [pathSegments, String.toList_intercalate]
  show (splitPath ([':', ':'].intercalate ((name :: names).map String.toList))).map String.ofList = _
  rw [List.map_cons] at hcolons ⊢
  rw [splitPath_intercalate hcolons, ← List.map_cons, List.map_map]
  exact (List.map_congr_left fun n _ => String.ofList_toList).trans (List.map_id _)

example : pathSegments "Outer::Inner::Leaf" = ["Outer", "Inner", "Leaf"] := by decide

end ConstantResolution
