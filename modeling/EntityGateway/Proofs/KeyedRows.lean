import Mathlib.Order.Basic
import Mathlib.Data.List.Sort

/-!
# Rows kept ascending by key

The tables of a repository are lists of rows in ascending order of a key, each key once.
`upsertByKey` stores a row: it replaces the row with the same key, or puts the row where its key
belongs. `entryAt` is the row a table holds at a key. Over a linear order of keys:

* `entryAt_upsertByKey`: after an upsert a key holds the new row if that is its key, and the row
  it held otherwise; so after a run of upserts it holds the last row of the run with that key,
  else the row it held before (`entryAt_foldl_upsertByKey`);
* `keysStrict_upsertByKey`: an upsert keeps the keys strictly ascending;
* `eq_of_entryAt`: two tables with strictly ascending keys and the same row at every key are
  one table;
* `foldl_upsertByKey_twice`: running the same upserts again changes nothing, and
  `upsertByKey_of_entryAt`: storing a row the table already holds changes nothing.
-/

namespace EntityGateway

section Keyed

variable {α κ : Type} [LinearOrder κ] (key : α → κ)

/-- Store a row in a table ascending by key, replacing the row with the same key. -/
def upsertByKey (x : α) : List α → List α
  | [] => [x]
  | s :: rest =>
    match compare (key x) (key s) with
    | .lt => x :: s :: rest
    | .eq => x :: rest
    | .gt => s :: upsertByKey x rest

/-- The row a table holds at a key: the first one listed with it. -/
def entryAt (rows : List α) (k : κ) : Option α := rows.find? fun r => key r = k

/-- The keys of a table are strictly ascending. -/
def KeysStrict (rows : List α) : Prop := (rows.map key).Pairwise (· < ·)

variable {key}

@[simp] theorem entryAt_nil (k : κ) : entryAt key [] k = none := rfl

theorem entryAt_cons (r : α) (rows : List α) (k : κ) :
    entryAt key (r :: rows) k = if key r = k then some r else entryAt key rows k := by
  by_cases h : key r = k <;> simp [entryAt, h]

theorem entryAt_append (rows rows' : List α) (k : κ) :
    entryAt key (rows ++ rows') k = (entryAt key rows k).or (entryAt key rows' k) := by
  simp [entryAt, List.find?_append]

theorem mem_of_entryAt {rows : List α} {k : κ} {x : α} (h : entryAt key rows k = some x) :
    x ∈ rows :=
  List.mem_of_find?_eq_some h

theorem entryAt_ne_none {rows : List α} {x : α} (hx : x ∈ rows) : entryAt key rows (key x) ≠ none := by
  simpa [entryAt, List.find?_eq_none] using ⟨x, hx, rfl⟩

/-- After an upsert a key holds the new row if that is its key, and the row it held otherwise. -/
theorem entryAt_upsertByKey (x : α) (rows : List α) (k : κ) :
    entryAt key (upsertByKey key x rows) k = if key x = k then some x else entryAt key rows k := by
  induction rows with
  | nil => simp [upsertByKey, entryAt_cons]
  | cons s rest ih =>
    simp only [upsertByKey]
    cases hc : compare (key x) (key s)
    · rw [entryAt_cons]
    · -- the row replaced has the new row's key
      have hxs : key x = key s := compare_eq_iff_eq.1 hc
      rw [entryAt_cons, entryAt_cons, hxs]
      split_ifs <;> rfl
    · have hsx : key s < key x := compare_gt_iff_gt.1 hc
      rw [entryAt_cons, ih, entryAt_cons]
      split_ifs with hs hx
      · exact absurd (hs.trans hx.symm) hsx.ne
      all_goals rfl

/-- After a run of upserts a key holds the last row of the run with that key, or else the row it
held before. -/
theorem entryAt_foldl_upsertByKey (run rows : List α) (k : κ) :
    entryAt key (run.foldl (fun acc x => upsertByKey key x acc) rows) k =
      (entryAt key run.reverse k).or (entryAt key rows k) := by
  induction run generalizing rows with
  | nil => simp
  | cons x run ih =>
    rw [List.foldl_cons, ih, entryAt_upsertByKey, List.reverse_cons, entryAt_append, entryAt_cons]
    by_cases h : key x = k <;> simp [h]

theorem mem_upsertByKey {x : α} {rows : List α} {y : α} (hy : y ∈ upsertByKey key x rows) :
    y = x ∨ y ∈ rows := by
  induction rows with
  | nil => simpa [upsertByKey] using hy
  | cons s rest ih =>
    simp only [upsertByKey] at hy
    cases hc : compare (key x) (key s) <;> simp only [hc, List.mem_cons] at hy
    · rcases hy with rfl | rfl | hy
      · exact .inl rfl
      · exact .inr List.mem_cons_self
      · exact .inr (List.mem_cons_of_mem _ hy)
    · rcases hy with rfl | hy
      · exact .inl rfl
      · exact .inr (List.mem_cons_of_mem _ hy)
    · rcases hy with rfl | hy
      · exact .inr List.mem_cons_self
      · rcases ih hy with h | h
        · exact .inl h
        · exact .inr (List.mem_cons_of_mem _ h)

theorem mem_keys_upsertByKey {x : α} {rows : List α} {y : α} (hy : y ∈ upsertByKey key x rows) :
    key y = key x ∨ ∃ s ∈ rows, key y = key s := by
  rcases mem_upsertByKey hy with rfl | hy
  · exact .inl rfl
  · exact .inr ⟨y, hy, rfl⟩

/-- A row of a table after a run of upserts was in the table before or in the run. -/
theorem mem_foldl_upsertByKey {run rows : List α} {y : α}
    (hy : y ∈ run.foldl (fun acc x => upsertByKey key x acc) rows) : y ∈ rows ∨ y ∈ run := by
  induction run generalizing rows with
  | nil => exact .inl hy
  | cons x run ih =>
    rcases ih hy with h | h
    · rcases mem_upsertByKey h with rfl | h
      · exact .inr List.mem_cons_self
      · exact .inl h
    · exact .inr (List.mem_cons_of_mem _ h)

theorem keysStrict_cons {r : α} {rows : List α} :
    KeysStrict key (r :: rows) ↔ (∀ s ∈ rows, key r < key s) ∧ KeysStrict key rows := by
  simp [KeysStrict, List.pairwise_cons]

/-- An upsert keeps the keys strictly ascending. -/
theorem keysStrict_upsertByKey (x : α) {rows : List α} (h : KeysStrict key rows) :
    KeysStrict key (upsertByKey key x rows) := by
  induction rows with
  | nil => simp [upsertByKey, KeysStrict]
  | cons s rest ih =>
    obtain ⟨hs, hrest⟩ := keysStrict_cons.1 h
    simp only [upsertByKey]
    cases hc : compare (key x) (key s)
    · -- a smaller key goes first
      have hlt : key x < key s := compare_lt_iff_lt.1 hc
      refine keysStrict_cons.2 ⟨fun t ht => ?_, h⟩
      rcases List.mem_cons.1 ht with rfl | ht
      · exact hlt
      · exact hlt.trans (hs t ht)
    · have hxs : key x = key s := compare_eq_iff_eq.1 hc
      exact keysStrict_cons.2 ⟨fun t ht => hxs ▸ hs t ht, hrest⟩
    · -- a larger key goes into the rest, still above the first
      have hgt : key s < key x := compare_gt_iff_gt.1 hc
      refine keysStrict_cons.2 ⟨fun t ht => ?_, ih hrest⟩
      rcases mem_keys_upsertByKey ht with h | ⟨u, hu, h⟩
      · exact h ▸ hgt
      · exact h ▸ hs u hu

theorem keysStrict_foldl_upsertByKey (run : List α) {rows : List α} (h : KeysStrict key rows) :
    KeysStrict key (run.foldl (fun acc x => upsertByKey key x acc) rows) := by
  induction run generalizing rows with
  | nil => exact h
  | cons x run ih => exact ih (keysStrict_upsertByKey x h)

/-- In a table with strictly ascending keys, each row is the row of its key. -/
theorem entryAt_of_mem {rows : List α} (h : KeysStrict key rows) {x : α} (hx : x ∈ rows) :
    entryAt key rows (key x) = some x := by
  induction rows with
  | nil => simp at hx
  | cons s rest ih =>
    obtain ⟨hs, hrest⟩ := keysStrict_cons.1 h
    rw [entryAt_cons]
    rcases List.mem_cons.1 hx with rfl | hx
    · simp
    · rw [if_neg (hs x hx).ne, ih hrest hx]

/-- Two tables with strictly ascending keys and the same row at every key are one table. -/
theorem eq_of_entryAt {rows rows' : List α} (h : KeysStrict key rows) (h' : KeysStrict key rows')
    (heq : ∀ k, entryAt key rows k = entryAt key rows' k) : rows = rows' := by
  have : Std.Irrefl fun a b : α => key a < key b := ⟨fun a => lt_irrefl (key a)⟩
  have : Std.Antisymm fun a b : α => key a < key b :=
    ⟨fun _ _ hab hba => absurd (hab.trans hba) (lt_irrefl _)⟩
  refine List.Pairwise.eq_of_mem_iff (List.pairwise_map.1 h) (List.pairwise_map.1 h') fun x => ?_
  constructor
  · intro hx
    exact mem_of_entryAt ((heq (key x)).symm.trans (entryAt_of_mem h hx))
  · intro hx
    exact mem_of_entryAt ((heq (key x)).trans (entryAt_of_mem h' hx))

/-- Storing a row that a table already holds at its key changes nothing. -/
theorem upsertByKey_of_entryAt {x : α} {rows : List α} (h : KeysStrict key rows)
    (hx : entryAt key rows (key x) = some x) : upsertByKey key x rows = rows := by
  refine eq_of_entryAt (keysStrict_upsertByKey x h) h fun k => ?_
  rw [entryAt_upsertByKey]
  split_ifs with hk
  · rw [← hk, hx]
  · rfl

/-- **Repeated upserts.** Running the same upserts twice leaves a table with strictly ascending
keys as running them once: each key holds the last row of the run with that key either way. -/
theorem foldl_upsertByKey_twice (run : List α) {rows : List α} (h : KeysStrict key rows) :
    run.foldl (fun acc x => upsertByKey key x acc) (run.foldl (fun acc x => upsertByKey key x acc) rows) =
      run.foldl (fun acc x => upsertByKey key x acc) rows := by
  have hone := keysStrict_foldl_upsertByKey run h
  refine eq_of_entryAt (keysStrict_foldl_upsertByKey run hone) hone fun k => ?_
  rw [entryAt_foldl_upsertByKey, entryAt_foldl_upsertByKey, ← Option.or_assoc, Option.or_self]

end Keyed

end EntityGateway
