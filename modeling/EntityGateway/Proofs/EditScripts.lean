import EntityGateway.Proofs.SimilarityRange

/-!
# Edit distance as the cheapest edit script

`levenshtein` fills its table row by row from the first characters, so each entry is the
distance of two prefixes, and the table computes the distance read from the last characters
(`levenshtein_eq_editDistRev`). The recursion that defines the edit distance, `editDist`, reads
from the first characters instead. The two agree because both are the least cost of an edit
script, and a script read backwards turns the reversed texts into each other at the same cost.

* `editDist_le_scriptCost` and `exists_script_cost_eq`: `editDist` is the least cost of a script
  between two lists, and some script costs exactly that;
* `editDist_reverse`: so the distance of two lists is the distance of their reversals;
* `levenshtein_eq_editDist_toList`: the table computes the recursive edit distance of the
  characters of two texts, which is symmetric and at most the longer length.
-/

namespace EntityGateway

namespace Scoring

/-! ## Edit scripts -/

/-- One step of an edit script: a character of the source deleted, one of the target inserted,
or a character of each matched, at a cost when they differ. -/
inductive Edit
  | delete (x : Char)
  | insert (y : Char)
  | replace (x y : Char)
  deriving DecidableEq, Repr

namespace Edit

/-- The characters of the source an edit reads. -/
def source : Edit → List Char
  | delete x => [x]
  | insert _ => []
  | replace x _ => [x]

/-- The characters of the target an edit writes. -/
def target : Edit → List Char
  | delete _ => []
  | insert y => [y]
  | replace _ y => [y]

/-- What an edit costs: one, or nothing for a character matched with itself. -/
def cost : Edit → Nat
  | delete _ => 1
  | insert _ => 1
  | replace x y => if x == y then 0 else 1

@[simp] theorem reverse_source (e : Edit) : e.source.reverse = e.source := by
  cases e <;> rfl

@[simp] theorem reverse_target (e : Edit) : e.target.reverse = e.target := by
  cases e <;> rfl

end Edit

/-- The cost of a script, edit by edit. -/
def scriptCost : List Edit → Nat
  | [] => 0
  | e :: es => e.cost + scriptCost es

@[simp] theorem scriptCost_nil : scriptCost [] = 0 := rfl

@[simp] theorem scriptCost_cons (e : Edit) (es : List Edit) :
    scriptCost (e :: es) = e.cost + scriptCost es := rfl

@[simp] theorem scriptCost_append (es fs : List Edit) :
    scriptCost (es ++ fs) = scriptCost es + scriptCost fs := by
  induction es with
  | nil => simp
  | cons e es ih => simp [ih, Nat.add_assoc]

@[simp] theorem scriptCost_reverse (es : List Edit) : scriptCost es.reverse = scriptCost es := by
  induction es with
  | nil => rfl
  | cons e es ih => simp [ih, Nat.add_comm]

/-- A script read backwards reads the reversed source and writes the reversed target. -/
theorem flatMap_source_reverse (es : List Edit) :
    es.reverse.flatMap Edit.source = (es.flatMap Edit.source).reverse := by
  simp [List.reverse_flatMap, Function.comp_def]

theorem flatMap_target_reverse (es : List Edit) :
    es.reverse.flatMap Edit.target = (es.flatMap Edit.target).reverse := by
  simp [List.reverse_flatMap, Function.comp_def]

/-! ## The least cost of a script -/

theorem editDist_delete_le (x : Char) (xs ys : List Char) : editDist (x :: xs) ys ≤ editDist xs ys + 1 := by
  cases ys with
  | nil => simp
  | cons y ys =>
    rw [editDist_cons_cons]
    exact (min_le_left _ _).trans (min_le_left _ _)

theorem editDist_insert_le (xs : List Char) (y : Char) (ys : List Char) :
    editDist xs (y :: ys) ≤ editDist xs ys + 1 := by
  cases xs with
  | nil => simp
  | cons x xs =>
    rw [editDist_cons_cons]
    exact (min_le_left _ _).trans (min_le_right _ _)

theorem editDist_replace_le (x : Char) (xs : List Char) (y : Char) (ys : List Char) :
    editDist (x :: xs) (y :: ys) ≤ editDist xs ys + (Edit.replace x y).cost := by
  rw [editDist_cons_cons]
  exact min_le_right _ _

/-- No script between two lists costs less than their edit distance. -/
theorem editDist_le_scriptCost (es : List Edit) :
    editDist (es.flatMap Edit.source) (es.flatMap Edit.target) ≤ scriptCost es := by
  induction es with
  | nil => simp
  | cons e es ih =>
    -- the first edit reads and writes at most one character, at its cost
    cases e with
    | delete x =>
      have h := editDist_delete_le x (es.flatMap Edit.source) (es.flatMap Edit.target)
      simp only [List.flatMap_cons, Edit.source, Edit.target, List.singleton_append, List.nil_append,
        scriptCost_cons, Edit.cost]
      omega
    | insert y =>
      have h := editDist_insert_le (es.flatMap Edit.source) y (es.flatMap Edit.target)
      simp only [List.flatMap_cons, Edit.source, Edit.target, List.singleton_append, List.nil_append,
        scriptCost_cons, Edit.cost]
      omega
    | replace x y =>
      have h := editDist_replace_le x (es.flatMap Edit.source) y (es.flatMap Edit.target)
      simp only [List.flatMap_cons, Edit.source, Edit.target, List.singleton_append, scriptCost_cons]
      omega

/-- Inserting the characters of a list one by one turns the empty list into it. -/
theorem script_inserts (ys : List Char) :
    (ys.map Edit.insert).flatMap Edit.source = [] ∧ (ys.map Edit.insert).flatMap Edit.target = ys ∧
      scriptCost (ys.map Edit.insert) = ys.length := by
  induction ys with
  | nil => simp
  | cons y ys ih =>
    obtain ⟨hsrc, htgt, hcost⟩ := ih
    simp [Edit.source, Edit.target, Edit.cost, hsrc, htgt, hcost, Nat.add_comm]

/-- Deleting the characters of a list one by one turns it into the empty list. -/
theorem script_deletes (xs : List Char) :
    (xs.map Edit.delete).flatMap Edit.source = xs ∧ (xs.map Edit.delete).flatMap Edit.target = [] ∧
      scriptCost (xs.map Edit.delete) = xs.length := by
  induction xs with
  | nil => simp
  | cons x xs ih =>
    obtain ⟨hsrc, htgt, hcost⟩ := ih
    simp [Edit.source, Edit.target, Edit.cost, hsrc, htgt, hcost, Nat.add_comm]

/-- Some script between two lists costs exactly their edit distance: the recursion picks, at
each pair of first characters, the cheapest of three scripts. -/
theorem exists_script_cost_eq (xs ys : List Char) :
    ∃ es : List Edit, es.flatMap Edit.source = xs ∧ es.flatMap Edit.target = ys ∧
      scriptCost es = editDist xs ys := by
  fun_induction editDist xs ys with
  | case1 ys =>
    obtain ⟨hsrc, htgt, hcost⟩ := script_inserts ys
    exact ⟨_, hsrc, htgt, hcost⟩
  | case2 x xs =>
    obtain ⟨hsrc, htgt, hcost⟩ := script_deletes (x :: xs)
    exact ⟨_, hsrc, htgt, hcost⟩
  | case3 x xs y ys ih₁ ih₂ ih₃ =>
    obtain ⟨es₁, hsrc₁, htgt₁, hcost₁⟩ := ih₁
    obtain ⟨es₂, hsrc₂, htgt₂, hcost₂⟩ := ih₂
    obtain ⟨es₃, hsrc₃, htgt₃, hcost₃⟩ := ih₃
    -- the minimum is one of the three: a deletion, an insertion or a match first
    rcases min_choice (min (editDist xs (y :: ys) + 1) (editDist (x :: xs) ys + 1))
        (editDist xs ys + if x == y then 0 else 1) with hmin | hmin <;> rw [hmin]
    · rcases min_choice (editDist xs (y :: ys) + 1) (editDist (x :: xs) ys + 1) with hmin' | hmin' <;>
        rw [hmin']
      · exact ⟨.delete x :: es₁, by simp [Edit.source, hsrc₁], by simp [Edit.target, htgt₁],
          by simp [Edit.cost, hcost₁, Nat.add_comm]⟩
      · exact ⟨.insert y :: es₂, by simp [Edit.source, hsrc₂], by simp [Edit.target, htgt₂],
          by simp [Edit.cost, hcost₂, Nat.add_comm]⟩
    · exact ⟨.replace x y :: es₃, by simp [Edit.source, hsrc₃], by simp [Edit.target, htgt₃],
        by simp [Edit.cost, hcost₃, Nat.add_comm]⟩

/-! ## Reading from the last characters -/

theorem editDist_reverse_le (xs ys : List Char) : editDist xs.reverse ys.reverse ≤ editDist xs ys := by
  obtain ⟨es, hsrc, htgt, hcost⟩ := exists_script_cost_eq xs ys
  -- the cheapest script between the lists, read backwards, is a script between their reversals
  have h := editDist_le_scriptCost es.reverse
  rwa [flatMap_source_reverse, flatMap_target_reverse, hsrc, htgt, scriptCost_reverse, hcost] at h

/-- Two lists are as far apart as their reversals. -/
theorem editDist_reverse (xs ys : List Char) : editDist xs.reverse ys.reverse = editDist xs ys := by
  refine le_antisymm (editDist_reverse_le xs ys) ?_
  simpa using editDist_reverse_le xs.reverse ys.reverse

/-- The table of `levenshtein` computes the edit distance of the characters of two texts. -/
theorem levenshtein_eq_editDist (s t : String) : levenshtein s t = editDist s.toList t.toList := by
  rw [levenshtein_eq_editDistRev, editDistRev, editDist_reverse]

/-- **The edit distance of two texts.** `levenshtein` is the edit distance of their characters
by the recursion on first characters, and so it is symmetric and needs no more edits than the
longer text has characters. -/
theorem levenshtein_computes_editDist (s t : String) :
    levenshtein s t = editDist s.toList t.toList ∧ levenshtein s t = levenshtein t s ∧
      levenshtein s t ≤ max s.length t.length := by
  refine ⟨levenshtein_eq_editDist s t, ?_, ?_⟩
  · rw [levenshtein_eq_editDist, levenshtein_eq_editDist, editDist_comm]
  · rw [levenshtein_eq_editDist]
    simpa only [String.length_toList] using editDist_le_max s.toList t.toList

/-- Two substitutions and an insertion turn `kitten` into `sitting`. -/
example : levenshtein "kitten" "sitting" = 3 := by decide

end Scoring

end EntityGateway
