import Mathlib.Data.List.Nodup
import Mathlib.Data.List.Infix

/-!
# Appending distinct elements

Several lists of the gateway are built by appending, in order, the elements not yet listed:
the entities identifiers resolve to (`Service.resolveAll`, one at a time), the entities of a
network (`appendNew`, and the engine's `pushUnique`) and the values of an attribute class
gathered over records (`Projection.mergeDistinct`). `appendDistinct` is that
fold, once, with its laws.

* `appendDistinct_eq_eraseDups`: appended to a list without repeats, the result keeps the first
  occurrence of each element, so it is `List.eraseDups` of the concatenation;
* `foldl_appendDistinct`: a fold of appends appends the whole concatenation;
* `appendDistinct_take` is the prefix argument: appending to `O` the first `B` elements of a
  list that extends `O`, then cutting to `B`, gives the first `B` elements of that list;
* `foldl_eraseDups`: a fold whose steps ignore an element already seen folds the list without
  its repeats to the same end.
-/

namespace EntityGateway

/-- Append the elements of `xs` not yet listed, in order. -/
def appendDistinct {α : Type} [BEq α] (acc xs : List α) : List α :=
  xs.foldl (fun acc x => if acc.contains x then acc else acc ++ [x]) acc

section AppendDistinct

variable {α : Type} [BEq α] {acc xs : List α}

theorem appendDistinct_nil (acc : List α) : appendDistinct acc [] = acc := rfl

variable [LawfulBEq α]

theorem appendDistinct_cons (acc : List α) (x : α) (xs : List α) :
    appendDistinct acc (x :: xs) = appendDistinct (if x ∈ acc then acc else acc ++ [x]) xs := by
  simp [appendDistinct, List.foldl_cons]

theorem appendDistinct_append (acc xs ys : List α) :
    appendDistinct acc (xs ++ ys) = appendDistinct (appendDistinct acc xs) ys := by
  simp [appendDistinct, List.foldl_append]

theorem nodup_appendDistinct (hacc : acc.Nodup) : (appendDistinct acc xs).Nodup := by
  induction xs generalizing acc with
  | nil => exact hacc
  | cons x xs ih =>
    rw [appendDistinct_cons]
    split
    · exact ih hacc
    · rename_i hx
      exact ih (hacc.append (List.nodup_singleton x) (by simpa using hx))

/-- Appending extends the list: what was there stays first. -/
theorem appendDistinct_eq_append (acc xs : List α) : ∃ zs, appendDistinct acc xs = acc ++ zs := by
  induction xs generalizing acc with
  | nil => exact ⟨[], by simp [appendDistinct_nil]⟩
  | cons x xs ih =>
    rw [appendDistinct_cons]
    split
    · exact ih acc
    · obtain ⟨zs, hzs⟩ := ih (acc ++ [x])
      exact ⟨x :: zs, by simp [hzs]⟩

/-- Appending elements already listed changes nothing. -/
theorem appendDistinct_of_subset (h : ∀ x ∈ xs, x ∈ acc) : appendDistinct acc xs = acc := by
  induction xs with
  | nil => rfl
  | cons x xs ih =>
    rw [appendDistinct_cons, if_pos (h x (by simp))]
    exact ih fun y hy => h y (by simp [hy])

/-- Appending elements none of which is listed, and none twice, appends them all. -/
theorem appendDistinct_of_nodup (h : (acc ++ xs).Nodup) : appendDistinct acc xs = acc ++ xs := by
  induction xs generalizing acc with
  | nil => simp [appendDistinct_nil]
  | cons x xs ih =>
    have hx : x ∉ acc := fun hx => (List.nodup_append.1 h).2.2 x hx x (by simp) rfl
    rw [appendDistinct_cons, if_neg hx, ih (by simpa using h)]
    simp

theorem eraseDups_of_nodup {l : List α} (h : l.Nodup) : l.eraseDups = l := by
  induction l with
  | nil => rfl
  | cons a l ih =>
    obtain ⟨ha, hl⟩ := List.nodup_cons.1 h
    have hfilter : (l.filter fun b => !b == a) = l :=
      List.filter_eq_self.2 fun b hb => by simpa using fun hba : b = a => ha (hba ▸ hb)
    rw [List.eraseDups_cons, hfilter, ih hl]

/-- Appending keeps the first occurrence of each element. -/
theorem appendDistinct_eq_eraseDups (hacc : acc.Nodup) (xs : List α) :
    appendDistinct acc xs = (acc ++ xs).eraseDups := by
  induction xs generalizing acc with
  | nil => simp [appendDistinct_nil, eraseDups_of_nodup hacc]
  | cons x xs ih =>
    rw [appendDistinct_cons]
    split
    · -- an element already listed is dropped on both sides
      rename_i hx
      rw [ih hacc, List.eraseDups_append, List.eraseDups_append, List.cons_removeAll]
      simp [hx]
    · rename_i hx
      rw [ih (hacc.append (List.nodup_singleton x) (by simpa using hx)), List.append_assoc,
        List.singleton_append]

theorem foldl_appendDistinct {β : Type} (f : β → List α) (ps : List β) (acc : List α) :
    ps.foldl (fun acc p => appendDistinct acc (f p)) acc = appendDistinct acc (ps.flatMap f) := by
  induction ps generalizing acc with
  | nil => rfl
  | cons p ps ih => rw [List.foldl_cons, ih, List.flatMap_cons, appendDistinct_append]

/-- **The prefix argument.** Appending to `O` the first `B` elements of a list that appends to
`O` gives the first `B` elements of that list, or `O` itself when `O` is longer. -/
theorem appendDistinct_take {O : List α} (hO : O.Nodup) (xs : List α) (B : Nat) :
    appendDistinct O ((appendDistinct O xs).take B) = (appendDistinct O xs).take (max B O.length) := by
  obtain ⟨zs, hzs⟩ := appendDistinct_eq_append O xs
  have hnodup : (O ++ zs).Nodup := hzs ▸ nodup_appendDistinct hO
  rw [hzs]
  by_cases hB : B ≤ O.length
  · -- the cut falls within `O`
    rw [List.take_append_of_le_length hB, max_eq_right hB, List.take_left' rfl]
    exact appendDistinct_of_subset fun x hx => List.mem_of_mem_take hx
  · -- the cut keeps `O` and the first of what follows
    have hlen : O.length ≤ B := by omega
    rw [max_eq_left hlen, List.take_append, List.take_of_length_le hlen, appendDistinct_append,
      appendDistinct_of_subset fun x hx => hx, appendDistinct_of_nodup]
    exact hnodup.sublist ((List.take_sublist _ _).append_left O)

theorem take_appendDistinct_take {O : List α} (hO : O.Nodup) (xs : List α) (B : Nat) :
    (appendDistinct O ((appendDistinct O xs).take B)).take B = (appendDistinct O xs).take B := by
  rw [appendDistinct_take hO, List.take_take, min_eq_left (le_max_left _ _)]

theorem lt_length_of_lt_length_appendDistinct_take {O : List α} (hO : O.Nodup) {xs : List α}
    {B : Nat} (h : B < (appendDistinct O ((appendDistinct O xs).take B)).length) :
    B < (appendDistinct O xs).length := by
  rw [appendDistinct_take hO, List.length_take] at h
  omega

end AppendDistinct

section SkippingRepeats

variable {α β : Type} [BEq α] [LawfulBEq α] {g : β → α → β} (Seen : β → α → Prop)

/-- After a step on an element already seen, a fold goes on as if the element were not there. -/
theorem foldl_filter_of_seen (hmono : ∀ b x y, Seen b y → Seen (g b x) y)
    (hidle : ∀ b x, Seen b x → g b x = b) (x : α) :
    ∀ (l : List α) (b : β), Seen b x → (l.filter fun y => !y == x).foldl g b = l.foldl g b
  | [], _, _ => rfl
  | y :: l, b, hb => by
    by_cases hy : y = x
    · subst hy
      simp [hidle b y hb, foldl_filter_of_seen hmono hidle y l b hb]
    · simp [hy, foldl_filter_of_seen hmono hidle x l (g b y) (hmono b y x hb)]

/-- A fold whose step on an element already seen changes nothing skips the element's repeats:
`Seen b x` holds once a step on `x` is made and stays so. -/
theorem foldl_eraseDups (hseen : ∀ b x, Seen (g b x) x)
    (hmono : ∀ b x y, Seen b y → Seen (g b x) y) (hidle : ∀ b x, Seen b x → g b x = b) :
    ∀ (l : List α) (b : β), l.eraseDups.foldl g b = l.foldl g b
  | [], _ => rfl
  | x :: l, b => by
    rw [List.eraseDups_cons, List.foldl_cons, List.foldl_cons,
      foldl_eraseDups hseen hmono hidle (l.filter fun y => !y == x) (g b x),
      foldl_filter_of_seen Seen hmono hidle x l (g b x) (hseen b x)]
termination_by l => l.length
decreasing_by exact Nat.lt_succ_of_le (List.length_filter_le _ l)

end SkippingRepeats

end EntityGateway
