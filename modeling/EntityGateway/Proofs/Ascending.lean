import Mathlib.Order.Basic
import Mathlib.Data.List.Sort
import Mathlib.Data.String.Basic
import EntityGateway.Sorted

/-!
# Laws of ascending association lists

`updateAscending` keeps an association list in ascending key order: it changes the entry of its
key in place, or inserts one where the key belongs. The feature lists of an entity and the merged
values of its records are built by such updates, so the proofs about them go through these laws.
Over a linearly ordered key type, whose comparison agrees with its order so that an update keeps
the keys strictly ascending (`keysAscend_updateAscending`):

* `filter_updateAscending_of_neg`: an update at a key that a filter drops is not seen through
  the filter;
* `filter_updateAscending_of_pos`: over ascending keys, updating then filtering is filtering
  then updating, when the filter keeps the key;
* `map_updateAscending`: mapping the values commutes with an update whose change the map
  follows;
* `updateAscending_comm`: updates at two keys commute, and so do two at one key whose changes
  commute;
* `eq_of_keysAscend`: two lists with ascending keys and the same entries are equal, and
  `lookup_eq_some_iff` looks a key up to the entry listed with it;
* `lookup_updateAscending_self`, `lookup_updateAscending_const` and
  `lookup_updateAscending_of_ne`: an update is looked up to the changed value at its key, and
  leaves every other key as it was.
-/

namespace EntityGateway

section Update

variable {κ β : Type} (k : κ) (init : β) (f : β → β)

theorem map_updateAscending [Ord κ] {γ : Type} (g : β → γ) (f' : γ → γ) (hg : ∀ v, g (f v) = f' (g v))
    (l : List (κ × β)) :
    (updateAscending k init f l).map (Prod.map id g) =
      updateAscending k (g init) f' (l.map (Prod.map id g)) := by
  induction l with
  | nil => simp [updateAscending, hg]
  | cons e rest ih =>
    obtain ⟨k', v⟩ := e
    simp only [updateAscending, List.map_cons, Prod.map_apply, id]
    cases compare k k' <;> simp [hg, ih]

theorem updateAscending_ne_nil [Ord κ] (l : List (κ × β)) : updateAscending k init f l ≠ [] := by
  cases l with
  | nil => simp [updateAscending]
  | cons e rest =>
    simp only [updateAscending]
    split <;> simp

/-- Mapping the values commutes with an update that sets a value. -/
theorem map_updateAscending_const [Ord κ] {γ : Type} (x : β) (g : β → γ) (l : List (κ × β)) :
    (updateAscending k init (fun _ => x) l).map (Prod.map id g) =
      updateAscending k (g init) (fun _ => g x) (l.map (Prod.map id g)) :=
  map_updateAscending k init _ g _ (fun _ => rfl) l

variable [LinearOrder κ]

/-- A linear order's comparison agrees with its `<`. -/
instance : CompareAgrees κ where
  lt_of_compare_lt := compare_lt_iff_lt.1
  lt_of_compare_gt := compare_gt_iff_gt.1
  lt_trans := lt_trans

/-- Below every key of the list, an update puts its key first. -/
theorem updateAscending_of_lt {l : List (κ × β)} (h : ∀ x ∈ l.map Prod.fst, k < x) :
    updateAscending k init f l = (k, f init) :: l := by
  cases l with
  | nil => rfl
  | cons e rest =>
    have hc : compare k e.1 = .lt := compare_lt_iff_lt.2 (h e.1 (by simp))
    simp [updateAscending, hc]

/-- Above every key of the list, an update puts its key last. -/
theorem updateAscending_of_gt {l : List (κ × β)} (h : ∀ x ∈ l.map Prod.fst, x < k) :
    updateAscending k init f l = l ++ [(k, f init)] := by
  induction l with
  | nil => rfl
  | cons e rest ih =>
    have hc : compare k e.1 = .gt := compare_gt_iff_gt.2 (h e.1 (by simp))
    simp only [updateAscending, hc, List.cons_append]
    rw [ih fun x hx => h x (by simp [hx])]

theorem filter_updateAscending_of_neg (p : κ → Bool) (hk : p k = false) (l : List (κ × β)) :
    (updateAscending k init f l).filter (fun e => p e.1) = l.filter (fun e => p e.1) := by
  induction l with
  | nil => simp [updateAscending, hk]
  | cons e rest ih =>
    obtain ⟨k', v⟩ := e
    simp only [updateAscending]
    cases hc : compare k k'
    · simp [hk]
    · -- the entry changed in place is the key's own, dropped before and after
      obtain rfl : k = k' := compare_eq_iff_eq.1 hc
      simp [hk]
    · simp [List.filter_cons, ih]

theorem filter_updateAscending_of_pos (p : κ → Bool) (hk : p k = true) {l : List (κ × β)}
    (h : KeysAscend l) :
    (updateAscending k init f l).filter (fun e => p e.1) =
      updateAscending k init f (l.filter (fun e => p e.1)) := by
  induction l with
  | nil => simp [updateAscending, hk]
  | cons e rest ih =>
    obtain ⟨k', v⟩ := e
    obtain ⟨hk', hrest⟩ := keysAscend_cons.1 h
    simp only [updateAscending]
    cases hc : compare k k'
    · -- the key goes first on both sides: every key kept is above it
      have hlt : k < k' := compare_lt_iff_lt.1 hc
      have habove : ∀ x ∈ (rest.filter fun e => p e.1).map Prod.fst, k < x := by
        intro x hx
        obtain ⟨e, he, rfl⟩ := List.mem_map.1 hx
        exact hlt.trans (hk' e.1 (List.mem_map_of_mem (List.mem_of_mem_filter he)))
      by_cases hp : p k' = true
      · simp [hk, hp, updateAscending, hc]
      · simp [hk, hp, updateAscending_of_lt k init f habove]
    · obtain rfl : k = k' := compare_eq_iff_eq.1 hc
      simp [hk, updateAscending]
    · by_cases hp : p k' = true
      · simp [hp, updateAscending, hc, ih hrest]
      · simp [hp, ih hrest]

/-- An update at the first entry, by the order of the two keys. -/
theorem updateAscending_cons (k' : κ) (v : β) (rest : List (κ × β)) :
    updateAscending k init f ((k', v) :: rest) =
      if k < k' then (k, f init) :: (k', v) :: rest
      else if k = k' then (k', f v) :: rest
      else (k', v) :: updateAscending k init f rest := by
  rcases lt_trichotomy k k' with h | rfl | h
  · simp [updateAscending, compare_lt_iff_lt.2 h, h]
  · simp [updateAscending]
  · simp [updateAscending, compare_gt_iff_gt.2 h, h.not_gt, h.ne']

/-- Updates at two keys commute: each acts at the first entry whose key is not below its own. -/
theorem updateAscending_comm_of_lt {k₁ k₂ : κ} (hk : k₁ < k₂) (i₁ i₂ : β) (f₁ f₂ : β → β)
    (l : List (κ × β)) :
    updateAscending k₂ i₂ f₂ (updateAscending k₁ i₁ f₁ l) =
      updateAscending k₁ i₁ f₁ (updateAscending k₂ i₂ f₂ l) := by
  induction l with
  | nil => simp [updateAscending, updateAscending_cons, hk, hk.not_gt, hk.ne']
  | cons e rest ih =>
    obtain ⟨k', v⟩ := e
    rcases lt_trichotomy k' k₁ with h₁ | rfl | h₁
    · -- both keys lie beyond the first entry
      have h₂ := h₁.trans hk
      simp [updateAscending_cons, h₁.not_gt, h₁.ne', h₂.not_gt, h₂.ne', ih]
    · -- the first update changes the first entry, the second acts beyond it
      simp [updateAscending_cons, hk.not_gt, hk.ne']
    · -- the first update puts its key in front of wherever the second acts
      rcases lt_trichotomy k₂ k' with h₂ | rfl | h₂
      · simp [updateAscending_cons, h₁, h₂, hk, hk.not_gt, hk.ne']
      · simp [updateAscending_cons, h₁, hk.not_gt, hk.ne']
      · simp [updateAscending_cons, h₁, h₂.not_gt, h₂.ne', hk.not_gt, hk.ne']

/-- Two updates at one key commute when their changes do and both changes, after each other,
give the same from the first values. -/
theorem updateAscending_comm_self {i₁ i₂ : β} {f₁ f₂ : β → β} (hf : ∀ v, f₂ (f₁ v) = f₁ (f₂ v))
    (hi : f₂ (f₁ i₁) = f₁ (f₂ i₂)) (l : List (κ × β)) :
    updateAscending k i₂ f₂ (updateAscending k i₁ f₁ l) =
      updateAscending k i₁ f₁ (updateAscending k i₂ f₂ l) := by
  induction l with
  | nil => simp [updateAscending, updateAscending_cons, hi]
  | cons e rest ih =>
    obtain ⟨k', v⟩ := e
    rcases lt_trichotomy k k' with h | rfl | h
    · simp [updateAscending_cons, h, hi]
    · simp [updateAscending_cons, hf]
    · simp [updateAscending_cons, h.not_gt, h.ne', ih]

theorem updateAscending_comm {k₁ k₂ : κ} {i₁ i₂ : β} {f₁ f₂ : β → β}
    (hf : ∀ v, f₂ (f₁ v) = f₁ (f₂ v)) (hi : k₁ = k₂ → f₂ (f₁ i₁) = f₁ (f₂ i₂))
    (l : List (κ × β)) :
    updateAscending k₂ i₂ f₂ (updateAscending k₁ i₁ f₁ l) =
      updateAscending k₁ i₁ f₁ (updateAscending k₂ i₂ f₂ l) := by
  rcases lt_trichotomy k₁ k₂ with h | rfl | h
  · exact updateAscending_comm_of_lt h i₁ i₂ f₁ f₂ l
  · exact updateAscending_comm_self k₁ hf (hi rfl) l
  · exact (updateAscending_comm_of_lt h i₂ i₁ f₂ f₁ l).symm

end Update

section Lookup

variable {κ β : Type} [LinearOrder κ]

/-- Lists with strictly ascending keys are equal when they list the same entries. -/
theorem eq_of_keysAscend {l₁ l₂ : List (κ × β)} (h₁ : KeysAscend l₁) (h₂ : KeysAscend l₂)
    (h : ∀ e, e ∈ l₁ ↔ e ∈ l₂) : l₁ = l₂ := by
  have : Std.Irrefl fun a b : κ × β => a.1 < b.1 := ⟨fun a => lt_irrefl a.1⟩
  have : Std.Antisymm fun a b : κ × β => a.1 < b.1 :=
    ⟨fun _ _ hab hba => absurd (hab.trans hba) (lt_irrefl _)⟩
  exact List.Pairwise.eq_of_mem_iff (List.pairwise_map.1 h₁) (List.pairwise_map.1 h₂) h

/-- Keeping some entries of an ascending list, each under its own key, keeps the keys ascending. -/
theorem keysAscend_filterMap {γ : Type} {f : κ × β → Option (κ × γ)} (hf : ∀ e x, f e = some x → x.1 = e.1) :
    ∀ {l : List (κ × β)}, KeysAscend l → KeysAscend (l.filterMap f)
  | [], _ => by simp
  | e :: rest, h => by
    obtain ⟨he, hrest⟩ := keysAscend_cons.1 h
    rw [List.filterMap_cons]
    cases hfe : f e with
    | none => exact keysAscend_filterMap hf hrest
    | some x =>
      refine keysAscend_cons.2 ⟨fun k hk => ?_, keysAscend_filterMap hf hrest⟩
      obtain ⟨y, hy, rfl⟩ := List.mem_map.1 hk
      obtain ⟨e', he', hfe'⟩ := List.mem_filterMap.1 hy
      rw [hf e x hfe, hf e' y hfe']
      exact he e'.1 (List.mem_map_of_mem he')

variable [BEq κ] [LawfulBEq κ]

/-- Over ascending keys, a key is looked up to the value listed with it. -/
theorem lookup_eq_some_iff {k : κ} {v : β} : ∀ {l : List (κ × β)}, KeysAscend l →
    (l.lookup k = some v ↔ (k, v) ∈ l)
  | [], _ => by simp
  | (k', v') :: rest, h => by
    obtain ⟨hk', hrest⟩ := keysAscend_cons.1 h
    by_cases hk : k = k'
    · subst hk
      -- the key is listed first and nowhere after
      have hnot : (k, v) ∉ rest := fun hm => lt_irrefl k (hk' k (List.mem_map_of_mem hm))
      simp [hnot, eq_comm]
    · have hb : (k == k') = false := beq_eq_false_iff_ne.2 hk
      simp [List.lookup_cons, hb, hk, lookup_eq_some_iff hrest]

theorem lookup_eq_none_of_lt {k : κ} {l : List (κ × β)} (h : ∀ x ∈ l.map Prod.fst, k < x) :
    l.lookup k = none :=
  List.lookup_eq_none_iff.2 fun p hp => bne_iff_ne.2 (h p.1 (List.mem_map_of_mem hp)).ne

/-- An update leaves the lookup of every other key as it was. -/
theorem lookup_updateAscending_of_ne {k x : κ} (init : β) (f : β → β) (hx : x ≠ k) :
    ∀ l : List (κ × β), (updateAscending k init f l).lookup x = l.lookup x
  | [] => by simp [updateAscending, List.lookup_cons, beq_eq_false_iff_ne.2 hx]
  | (k', v) :: rest => by
    rw [updateAscending_cons]
    split_ifs with hlt heq
    · simp [List.lookup_cons, beq_eq_false_iff_ne.2 hx]
    · subst heq
      simp [List.lookup_cons, beq_eq_false_iff_ne.2 hx]
    · simp only [List.lookup_cons, lookup_updateAscending_of_ne init f hx rest]

/-- An update that sets a value is looked up to that value; the entries before it have smaller
keys, so none shadows it. -/
theorem lookup_updateAscending_const (k : κ) (init v : β) :
    ∀ l : List (κ × β), (updateAscending k init (fun _ => v) l).lookup k = some v
  | [] => by simp [updateAscending]
  | (k', w) :: rest => by
    rw [updateAscending_cons]
    split_ifs with hlt heq
    · simp
    · simp [heq]
    · simp [List.lookup_cons, beq_eq_false_iff_ne.2 heq, lookup_updateAscending_const k init v rest]

/-- Over ascending keys, an update changes its own key's value by `f`, from `init` when the key
had none. -/
theorem lookup_updateAscending_self (k : κ) (init : β) (f : β → β) :
    ∀ {l : List (κ × β)}, KeysAscend l → (updateAscending k init f l).lookup k = some (f ((l.lookup k).getD init))
  | [], _ => by simp [updateAscending]
  | (k', v) :: rest, h => by
    obtain ⟨hk', hrest⟩ := keysAscend_cons.1 h
    rw [updateAscending_cons]
    split_ifs with hlt heq
    · -- every key of the list is above `k`, so it had no value
      have hnone : ((k', v) :: rest).lookup k = none :=
        lookup_eq_none_of_lt fun x hx => by
          rw [List.map_cons, List.mem_cons] at hx
          rcases hx with rfl | hx
          · exact hlt
          · exact hlt.trans (hk' x hx)
      simp [hnone]
    · simp [heq]
    · simp [List.lookup_cons, beq_eq_false_iff_ne.2 heq, lookup_updateAscending_self k init f hrest]

/-- Pairing the entries of two ascending lists by key, from either list, pairs the same entries
in the same order. -/
theorem filterMap_lookup_comm {γ δ : Type} {A : List (κ × β)} {B : List (κ × γ)} (hA : KeysAscend A)
    (hB : KeysAscend B) (h : κ → β → γ → Option δ) :
    A.filterMap (fun e => ((B.lookup e.1).bind (h e.1 e.2)).map (Prod.mk e.1)) =
      B.filterMap (fun e => ((A.lookup e.1).bind fun a => h e.1 a e.2).map (Prod.mk e.1)) := by
  have hkey : ∀ {ε : Type} (F : κ × ε → Option δ) (e : κ × ε) (x : κ × δ),
      (F e).map (Prod.mk e.1) = some x → x.1 = e.1 := by
    intro ε F e x hx
    obtain ⟨d, -, rfl⟩ := Option.map_eq_some_iff.1 hx
    rfl
  apply eq_of_keysAscend (keysAscend_filterMap (hkey _) hA) (keysAscend_filterMap (hkey _) hB)
  rintro ⟨k, d⟩
  simp only [List.mem_filterMap, Option.map_eq_some_iff, Option.bind_eq_some_iff, Prod.mk.injEq]
  constructor
  · rintro ⟨⟨k', a⟩, ha, d', ⟨b, hb, hd⟩, rfl, rfl⟩
    exact ⟨(k', b), (lookup_eq_some_iff hB).1 hb, d', ⟨a, (lookup_eq_some_iff hA).2 ha, hd⟩, rfl, rfl⟩
  · rintro ⟨⟨k', b⟩, hb, d', ⟨a, ha, hd⟩, rfl, rfl⟩
    exact ⟨(k', a), (lookup_eq_some_iff hA).1 ha, d', ⟨b, (lookup_eq_some_iff hB).2 hb, hd⟩, rfl, rfl⟩

end Lookup

end EntityGateway
