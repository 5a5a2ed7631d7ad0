/-!
# Ascending lists

Sets and maps kept as lists in ascending order without repeated keys, the order in which ordered
collections are traversed. Inserting keeps the order; a key met again changes its entry in place.

An `AscendingMap` carries that order with its entries: `updateAscending` keeps the keys strictly
ascending (`keysAscend_updateAscending`) wherever the comparison agrees with a transitive `<`
(`CompareAgrees`), as it does on texts, so every map built by updates is one.
-/

namespace EntityGateway

/-- Insert a value into an ascending list without repeats. -/
def insertAscending [Ord α] (x : α) : List α → List α
  | [] => [x]
  | y :: ys =>
    match compare x y with
    | .lt => x :: y :: ys
    | .eq => y :: ys
    | .gt => y :: insertAscending x ys

/-- Change the entry of a key in an association list kept in ascending key order, starting
from `init` when the key has none. -/
def updateAscending [Ord κ] (k : κ) (init : β) (f : β → β) : List (κ × β) → List (κ × β)
  | [] => [(k, f init)]
  | (k', v) :: rest =>
    match compare k k' with
    | .lt => (k, f init) :: (k', v) :: rest
    | .eq => (k', f v) :: rest
    | .gt => (k', v) :: updateAscending k init f rest

/-- The keys of an association list are strictly ascending. -/
def KeysAscend {κ β : Type} [LT κ] (l : List (κ × β)) : Prop := (l.map Prod.fst).Pairwise (· < ·)

instance {κ β : Type} [LT κ] [DecidableLT κ] (l : List (κ × β)) : Decidable (KeysAscend l) :=
  inferInstanceAs (Decidable ((l.map Prod.fst).Pairwise (· < ·)))

/-- A comparison that agrees with a transitive `<`: `lt` when below, `gt` when above. -/
class CompareAgrees (κ : Type) [Ord κ] [LT κ] : Prop where
  lt_of_compare_lt : ∀ {a b : κ}, compare a b = .lt → a < b
  lt_of_compare_gt : ∀ {a b : κ}, compare a b = .gt → b < a
  lt_trans : ∀ {a b c : κ}, a < b → b < c → a < c

/-- Texts compare by their order. -/
instance : CompareAgrees String where
  lt_of_compare_lt h := compareOfLessAndEq_eq_lt.1 h
  lt_of_compare_gt h := compareOfLessAndEq_eq_lt.1 ((@Std.OrientedCmp.gt_iff_lt String compare _ _ _).1 h)
  lt_trans := String.lt_trans

section Ascending

variable {κ β : Type}

@[simp] theorem keysAscend_nil [LT κ] : KeysAscend ([] : List (κ × β)) := List.Pairwise.nil

@[simp] theorem keysAscend_singleton [LT κ] (e : κ × β) : KeysAscend [e] := List.pairwise_singleton _ _

theorem keysAscend_cons [LT κ] {e : κ × β} {l : List (κ × β)} :
    KeysAscend (e :: l) ↔ (∀ x ∈ l.map Prod.fst, e.1 < x) ∧ KeysAscend l := by
  simp [KeysAscend, List.pairwise_cons]

/-- Changing the values keeps the keys. -/
theorem keysAscend_map_values [LT κ] {γ : Type} (g : β → γ) {l : List (κ × β)} (h : KeysAscend l) :
    KeysAscend (l.map fun (k, v) => (k, g v)) := by
  simpa [KeysAscend, List.map_map, Function.comp_def] using h

/-- An update lists its own key and the keys it found. -/
theorem mem_keys_updateAscending [Ord κ] (k : κ) (init : β) (f : β → β) {l : List (κ × β)} {x : κ}
    (hx : x ∈ (updateAscending k init f l).map Prod.fst) : x = k ∨ x ∈ l.map Prod.fst := by
  induction l with
  | nil => simpa [updateAscending] using hx
  | cons e rest ih =>
    obtain ⟨k', v⟩ := e
    simp only [updateAscending] at hx
    cases hc : compare k k' <;> simp only [hc, List.map_cons, List.mem_cons] at hx
    · rcases hx with rfl | hx
      · exact .inl rfl
      · exact .inr (by simpa using hx)
    · exact .inr (by simpa using hx)
    · rcases hx with rfl | hx
      · exact .inr (by simp)
      · rcases ih hx with rfl | hx
        · exact .inl rfl
        · exact .inr (by simp [hx])

theorem keysAscend_updateAscending [Ord κ] [LT κ] [CompareAgrees κ] (k : κ) (init : β) (f : β → β)
    {l : List (κ × β)} (h : KeysAscend l) : KeysAscend (updateAscending k init f l) := by
  induction l with
  | nil => simp [updateAscending, KeysAscend]
  | cons e rest ih =>
    obtain ⟨k', v⟩ := e
    obtain ⟨hk', hrest⟩ := keysAscend_cons.1 h
    simp only [updateAscending]
    cases hc : compare k k'
    · -- a smaller key goes first
      have hlt : k < k' := CompareAgrees.lt_of_compare_lt hc
      refine keysAscend_cons.2 ⟨?_, h⟩
      intro x hx
      simp only [List.map_cons, List.mem_cons] at hx
      rcases hx with rfl | hx
      · exact hlt
      · exact CompareAgrees.lt_trans hlt (hk' x hx)
    · exact keysAscend_cons.2 ⟨hk', hrest⟩
    · -- a larger key goes into the rest, still above the first
      have hgt : k' < k := CompareAgrees.lt_of_compare_gt hc
      refine keysAscend_cons.2 ⟨fun x hx => ?_, ih hrest⟩
      rcases mem_keys_updateAscending k init f hx with rfl | hx
      · exact hgt
      · exact hk' x hx

end Ascending

/-- An ordered map: its entries in strictly ascending key order, so each key once, the order in
which an ordered map is traversed. -/
structure AscendingMap (κ β : Type) [LT κ] where
  toList : List (κ × β)
  ascending : KeysAscend toList

namespace AscendingMap

variable {κ β : Type} [LT κ]

/-- The map without entries. -/
def empty : AscendingMap κ β := ⟨[], keysAscend_nil⟩

@[simp] theorem toList_empty : (empty : AscendingMap κ β).toList = [] := rfl

variable [Ord κ] [CompareAgrees κ]

/-- Change the value of a key, starting from `init` when the key has none. -/
def update (m : AscendingMap κ β) (k : κ) (init : β) (f : β → β) : AscendingMap κ β :=
  ⟨updateAscending k init f m.toList, keysAscend_updateAscending k init f m.ascending⟩

/-- The map of entries set one by one, as an ordered map collects them: of two entries of one
key the later wins. -/
def ofList (entries : List (κ × β)) : AscendingMap κ β :=
  entries.foldl (fun m (k, v) => m.update k v fun _ => v) empty

@[simp] theorem toList_update (m : AscendingMap κ β) (k : κ) (init : β) (f : β → β) :
    (m.update k init f).toList = updateAscending k init f m.toList := rfl

end AscendingMap

end EntityGateway
