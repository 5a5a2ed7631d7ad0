import Mathlib.Data.List.Basic
import EntityGateway.Proofs.ReconciledKey

/-!
# Upper case is idempotent

`String.upper` maps each character by the full Unicode upper-case mappings: a character of the
several-character table to its list, one held by a run of the single-character table to the run's
image, and any other character to itself. Upper-casing twice is upper-casing once
(`String.upper_upper`), and the upper case of a trimmed text is trimmed
(`String.trimBlank_upper_trimBlank`): every character a mapping writes is its own upper case and is
no blank.

The tables are finite, so the argument is one check and its readings:

* `runImage_eq_some`: the bisection over the run table answers only the image of a run that holds
  the code point;
* `upperImagesPlain_eq_true`: every code point the tables write is valid, held by no run, the start
  of no several-character mapping, and no blank; the kernel checks it with these barred code points
  as the bits of one number (`barredMask`);
* `mapChar_upper_fixed`, `mapChar_upper_ne_nil`, `isBlank_mapChar_upper`: the upper case of a
  character is non-empty, each of its characters is its own upper case, and it holds a blank only
  when the character is one.
-/

namespace EntityGateway.Text

/-! ## Runs of the single-character table -/

/-- The run holds the code point: it lies between the run's ends, a whole number of strides from
its first. -/
def runHolds (r : Nat × Nat × Int × Nat) (c : Nat) : Bool :=
  Nat.ble r.1 c && Nat.ble c r.2.1 && Nat.beq ((c - r.1) % r.2.2.2) 0

/-- The image of a code point under a run: the code point shifted by the run's offset. -/
def runShift (r : Nat × Nat × Int × Nat) (c : Nat) : Nat := ((c : Int) + r.2.2.1).toNat

/-- The code points a run holds, in ascending order. -/
def runMembers (r : Nat × Nat × Int × Nat) : List Nat :=
  (List.range' r.1 (r.2.1 + 1 - r.1)).filter (runHolds r)

theorem mem_runMembers {r : Nat × Nat × Int × Nat} {c : Nat} : c ∈ runMembers r ↔ runHolds r c = true := by
  simp only [runMembers, List.mem_filter, List.mem_range'_1, and_iff_right_iff_imp]
  intro h
  simp only [runHolds, Bool.and_eq_true, Nat.ble_eq] at h
  omega

/-- The bisection answers only the image of a run of the table that holds the code point. -/
theorem runImage_go_eq_some {table : Array (Nat × Nat × Int × Nat)} {c lo hi n : Nat}
    (hhi : hi ≤ table.size) (h : runImage.go table c lo hi = some n) :
    ∃ r ∈ table.toList, runHolds r c = true ∧ n = runShift r c := by
  fun_induction runImage.go table c lo hi with
  | case1 lo hi hlt mid a b delta stride hget hca ih => exact ih (by omega) h
  | case2 lo hi hlt mid a b delta stride hget hca hbc ih => exact ih hhi h
  | case3 lo hi hlt mid a b delta stride hget hca hbc hstride =>
    -- the run read at the midpoint is an entry of the table, since the midpoint is below `hi`
    have hmid : mid < table.size := by omega
    rw [Array.getElem?_eq_getElem hmid, Option.getD_some] at hget
    refine ⟨(a, b, delta, stride), hget ▸ Array.getElem_mem_toList hmid, ?_, ?_⟩
    · simp only [runHolds, Bool.and_eq_true, Nat.ble_eq, Nat.beq_eq]
      simp only [beq_iff_eq] at hstride
      omega
    · simpa [runShift] using h.symm
  | case4 => cases h
  | case5 => cases h

theorem runImage_eq_some {table : Array (Nat × Nat × Int × Nat)} {c n : Nat} (h : runImage table c = some n) :
    ∃ r ∈ table.toList, runHolds r c = true ∧ n = runShift r c :=
  runImage_go_eq_some (Nat.le_refl _) h


/-! ## The tables, checked -/

/-- Code points as the bits of one number. -/
def codeMask (cs : List Nat) : Nat := cs.foldl (fun m c => m ||| 1 <<< c) 0

theorem testBit_foldl_mask {cs : List Nat} {m c : Nat} (h : c ∈ cs ∨ m.testBit c = true) :
    (cs.foldl (fun m c => m ||| 1 <<< c) m).testBit c = true := by
  induction cs generalizing m with
  | nil => simpa using h
  | cons d ds ih =>
    -- the bit of `c` is set by its own step and kept by every later one
    apply ih
    rcases h with h | h
    · rcases List.mem_cons.1 h with rfl | h
      · right
        simp [Nat.testBit_or, Nat.one_shiftLeft, Nat.testBit_two_pow_self]
      · exact .inl h
    · right
      simp [Nat.testBit_or, h]

theorem testBit_codeMask {cs : List Nat} {c : Nat} (h : c ∈ cs) : (codeMask cs).testBit c = true :=
  testBit_foldl_mask (.inl h)

/-- The code points an upper-case image must avoid: those a run holds, those a several-character
mapping starts from, and the blanks. -/
def barredCodes : List Nat :=
  upperRuns.toList.flatMap runMembers ++ upperSpecial.toList.map (·.1) ++ blankCodes

/-- The barred code points as bits, so that the check tests a bit instead of searching a list. -/
def barredMask : Nat := codeMask barredCodes

/-- A valid code point that is not barred. -/
def plainCode (n : Nat) : Bool :=
  (Nat.blt n 0xD800 || Nat.blt 0xDFFF n && Nat.blt n 0x110000) && !barredMask.testBit n

/-- Every image in the upper-case tables is plain, and every several-character image has a
character. -/
def upperImagesPlain : Bool :=
  (upperRuns.toList.all fun r => (runMembers r).all fun c => plainCode (runShift r c)) &&
  upperSpecial.toList.all fun e => !e.2.isEmpty && e.2.all plainCode

theorem upperImagesPlain_eq_true : upperImagesPlain = true := by decide +kernel

theorem plainCode_runShift {r : Nat × Nat × Int × Nat} (hr : r ∈ upperRuns.toList) {c : Nat}
    (hc : runHolds r c = true) : plainCode (runShift r c) = true := by
  have h := upperImagesPlain_eq_true
  simp only [upperImagesPlain, Bool.and_eq_true, List.all_eq_true] at h
  exact h.1 r hr c (mem_runMembers.2 hc)

theorem plainCode_upperSpecial {e : Nat × List Nat} (he : e ∈ upperSpecial.toList) :
    e.2 ≠ [] ∧ ∀ n ∈ e.2, plainCode n = true := by
  have h := upperImagesPlain_eq_true
  simp only [upperImagesPlain, Bool.and_eq_true, List.all_eq_true, Bool.not_eq_true',
    List.isEmpty_eq_false_iff] at h
  exact h.2 e he

/-! ## Plain code points -/

section Plain

variable {n : Nat} (hn : plainCode n = true)
include hn

theorem toNat_ofNat_of_plainCode : (Char.ofNat n).toNat = n := by
  simp only [plainCode, Bool.and_eq_true, Bool.or_eq_true, Nat.blt_eq] at hn
  have hvalid : n.isValidChar := (show n < 0xD800 ∨ 0xDFFF < n ∧ n < 0x110000 by omega)
  have hofNat : Char.ofNat n = Char.ofNatAux n hvalid := dif_pos hvalid
  have haux : (Char.ofNatAux n hvalid).toNat = n := rfl
  rw [hofNat, haux]

theorem not_mem_barredCodes_of_plainCode : n ∉ barredCodes := by
  intro hmem
  have hbit : barredMask.testBit n = true := testBit_codeMask hmem
  simp [plainCode, hbit] at hn

/-- A plain code point is its own upper case. -/
theorem mapChar_upper_plain : mapChar upperSpecial upperRuns (Char.ofNat n) = [Char.ofNat n] := by
  have hbar := not_mem_barredCodes_of_plainCode hn
  have hcode := toNat_ofNat_of_plainCode hn
  -- no several-character mapping starts from it, and no run holds it
  have hspecial : upperSpecial.find? (·.1 == (Char.ofNat n).toNat) = none := by
    rw [Array.find?_eq_none]
    intro e he heq
    refine hbar (List.mem_append_left _ (List.mem_append_right _ (List.mem_map.2 ⟨e, ?_, ?_⟩)))
    · exact Array.mem_toList_iff.2 he
    · simpa [hcode] using heq
  have hrun : runImage upperRuns (Char.ofNat n).toNat = none := by
    cases h : runImage upperRuns (Char.ofNat n).toNat with
    | none => rfl
    | some m =>
      obtain ⟨r, hr, hholds, -⟩ := runImage_eq_some h
      rw [hcode] at hholds
      exact absurd (List.mem_append_left _ (List.mem_append_left _
        (List.mem_flatMap.2 ⟨r, hr, mem_runMembers.2 hholds⟩))) hbar
  simp only [mapChar, hspecial, hrun]

/-- A plain code point is no blank. -/
theorem isBlank_ofNat_of_plainCode : (Char.ofNat n).isBlank = false := by
  have hbar := not_mem_barredCodes_of_plainCode hn
  simp only [Char.isBlank, toNat_ofNat_of_plainCode hn, List.contains_eq_mem, decide_eq_false_iff_not]
  exact fun h => hbar (List.mem_append_right _ h)

end Plain

/-! ## The upper case of a character -/

/-- The upper case of a character is the list of a several-character mapping, or the image of a
run that holds it, both written in plain code points, or the character itself. -/
theorem mapChar_upper_cases (c : Char) :
    (∃ e ∈ upperSpecial.toList, mapChar upperSpecial upperRuns c = e.2.map Char.ofNat) ∨
    (∃ r ∈ upperRuns.toList, runHolds r c.toNat = true ∧
      mapChar upperSpecial upperRuns c = [Char.ofNat (runShift r c.toNat)]) ∨
    mapChar upperSpecial upperRuns c = [c] := by
  unfold mapChar
  cases hs : upperSpecial.find? (·.1 == c.toNat) with
  | some e => exact .inl ⟨e, Array.mem_toList_iff.2 (Array.mem_of_find?_eq_some hs), rfl⟩
  | none =>
    cases hr : runImage upperRuns c.toNat with
    | some m =>
      obtain ⟨r, hmem, hholds, rfl⟩ := runImage_eq_some hr
      exact .inr (.inl ⟨r, hmem, hholds, rfl⟩)
    | none => exact .inr (.inr rfl)

/-- Every character of an upper case is its own upper case. -/
theorem mapChar_upper_fixed (c : Char) :
    ∀ x ∈ mapChar upperSpecial upperRuns c, mapChar upperSpecial upperRuns x = [x] := by
  rcases mapChar_upper_cases c with ⟨e, he, hmap⟩ | ⟨r, hr, hholds, hmap⟩ | hmap <;> rw [hmap]
  · intro x hx
    obtain ⟨n, hn, rfl⟩ := List.mem_map.1 hx
    exact mapChar_upper_plain ((plainCode_upperSpecial he).2 n hn)
  · intro x hx
    rw [List.mem_singleton.1 hx]
    exact mapChar_upper_plain (plainCode_runShift hr hholds)
  · intro x hx
    rw [List.mem_singleton.1 hx, hmap]

theorem mapChar_upper_ne_nil (c : Char) : mapChar upperSpecial upperRuns c ≠ [] := by
  rcases mapChar_upper_cases c with ⟨e, he, hmap⟩ | ⟨r, -, -, hmap⟩ | hmap <;> rw [hmap]
  · simpa using (plainCode_upperSpecial he).1
  · simp
  · simp

/-- The upper case of a character that is no blank holds no blank. -/
theorem isBlank_mapChar_upper {c : Char} (hc : c.isBlank = false) :
    ∀ x ∈ mapChar upperSpecial upperRuns c, x.isBlank = false := by
  rcases mapChar_upper_cases c with ⟨e, he, hmap⟩ | ⟨r, hr, hholds, hmap⟩ | hmap <;> rw [hmap]
  · intro x hx
    obtain ⟨n, hn, rfl⟩ := List.mem_map.1 hx
    exact isBlank_ofNat_of_plainCode ((plainCode_upperSpecial he).2 n hn)
  · intro x hx
    rw [List.mem_singleton.1 hx]
    exact isBlank_ofNat_of_plainCode (plainCode_runShift hr hholds)
  · intro x hx
    rwa [List.mem_singleton.1 hx]

end EntityGateway.Text

namespace String

open EntityGateway.Text

theorem toList_upper (s : String) : s.upper.toList = s.toList.flatMap (mapChar upperSpecial upperRuns) := by
  simp [upper]

/-- Upper-casing twice is upper-casing once. -/
theorem upper_upper (s : String) : s.upper.upper = s.upper := by
  rw [String.ext_iff, toList_upper, toList_upper, List.flatMap_assoc]
  congr 1
  funext c
  -- each character of an upper case maps to itself
  rw [List.flatMap_congr (mapChar_upper_fixed c), List.flatMap_singleton']

theorem upper_eq_empty_iff (s : String) : s.upper = "" ↔ s = "" := by
  rw [← String.toList_inj, ← String.toList_inj, toList_upper, String.toList_empty, List.flatMap_eq_nil_iff]
  constructor
  · intro h
    cases hs : s.toList with
    | nil => rfl
    | cons c cs => exact absurd (h c (by simp [hs])) (mapChar_upper_ne_nil c)
  · intro h c hc
    simp [h] at hc

theorem exists_of_mem_head?_flatMap {α β : Type} {f : α → List β} (hf : ∀ a, f a ≠ []) {l : List α}
    {x : β} (hx : x ∈ (l.flatMap f).head?) : ∃ a ∈ l.head?, x ∈ f a := by
  cases l with
  | nil => simp at hx
  | cons a l =>
    obtain ⟨y, ys, hy⟩ := List.exists_cons_of_ne_nil (hf a)
    rw [List.flatMap_cons, hy, List.cons_append, List.head?_cons, Option.mem_some_iff] at hx
    exact ⟨a, rfl, by simp [hy, hx]⟩

theorem exists_of_mem_getLast?_flatMap {α β : Type} {f : α → List β} (hf : ∀ a, f a ≠ []) {l : List α}
    {x : β} (hx : x ∈ (l.flatMap f).getLast?) : ∃ a ∈ l.getLast?, x ∈ f a := by
  rcases List.eq_nil_or_concat l with rfl | ⟨init, a, rfl⟩
  · simp at hx
  · rw [List.concat_eq_append] at hx ⊢
    rw [List.flatMap_append, List.flatMap_singleton, List.getLast?_append,
      List.getLast?_eq_some_getLast (hf a), Option.some_or, Option.mem_some_iff] at hx
    exact ⟨a, by simp, hx ▸ List.getLast_mem (hf a)⟩

/-- Upper-casing a trimmed text leaves it trimmed. -/
theorem trimBlank_upper_trimBlank (s : String) : s.trimBlank.upper.trimBlank = s.trimBlank.upper := by
  apply trimBlank_of_ends
  · -- the first character written is one of the upper case of the first character
    intro x hx
    rw [toList_upper] at hx
    obtain ⟨c, hc, hxc⟩ := exists_of_mem_head?_flatMap mapChar_upper_ne_nil hx
    exact isBlank_mapChar_upper (isBlank_head?_trimBlank s c hc) x hxc
  · intro x hx
    rw [toList_upper] at hx
    obtain ⟨c, hc, hxc⟩ := exists_of_mem_getLast?_flatMap mapChar_upper_ne_nil hx
    exact isBlank_mapChar_upper (isBlank_getLast?_trimBlank s c hc) x hxc

end String
