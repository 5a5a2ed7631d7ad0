import EntityGateway.Json.Parse
import EntityGateway.Json.Print
import EntityGateway.Proofs.KeyedRows
import Mathlib.Data.String.Basic

/-!
# Compact JSON reads back

A value without numbers whose objects list their members by strictly ascending key, nested less
than 128 deep, reads back from its compact text as itself (`parse_compact`). Every object built
by `Json.obj` lists its members so (`Plain.obj`).

The reader works on the characters of the text by index. `Reader.Reads r i t` says that the
characters `t` stand in the text from index `i` on. Each kind of value is read from where its
compact text stands:

* a string literal reads back its text, each escape standing for the character it escapes
  (`stringRest_escapedChars`); a `\u00XX` escape needs the four hex digits within the text's
  bytes, which holds of every reader of a text (`measured_ofString`);
* a value reads back with fuel beyond the length of its text and room for its nesting
  (`value_compact`), by induction on `Plain`; the items of an array and the members of an
  object are read one after the other (`items_rest`, `members_rest`), each member going last
  into the members read so far since its key is the largest.
-/

namespace EntityGateway

namespace Json

/-! ## Values that read back -/

/-- The values that read back from their compact text: no numbers, every object listing its
members by strictly ascending key, and arrays and objects nested at most `n` deep. -/
inductive Plain : Nat → Json → Prop
  | null {n : Nat} : Plain n .null
  | bool {n : Nat} (b : Bool) : Plain n (.bool b)
  | string {n : Nat} (s : String) : Plain n (.string s)
  | array {n : Nat} {xs : List Json} : (∀ x ∈ xs, Plain n x) → Plain (n + 1) (.array xs)
  | object {n : Nat} {ms : List (String × Json)} : (∀ m ∈ ms, Plain n m.2) →
      KeysStrict Prod.fst ms → Plain (n + 1) (.object ms)

/-! ## Compact texts as characters -/

/-- The characters a string literal holds for a text: each character escaped. -/
def escapedChars (cs : List Char) : List Char := cs.flatMap fun c => (jsonEscape c).toList

/-- The items of an array after the first, each after its comma. -/
def itemsTail (xs : List Json) : List Char := xs.flatMap fun x => ',' :: x.compact.toList

/-- A member as an object's compact text holds it: the quoted key, a colon and the value. -/
def memberChars (m : String × Json) : List Char := (jsonQuote m.1).toList ++ ':' :: m.2.compact.toList

/-- The members of an object after the first, each after its comma. -/
def membersTail (ms : List (String × Json)) : List Char := ms.flatMap fun m => ',' :: memberChars m

theorem escapedChars_cons (c : Char) (cs : List Char) :
    escapedChars (c :: cs) = (jsonEscape c).toList ++ escapedChars cs := rfl

theorem toList_jsonQuote (s : String) : (jsonQuote s).toList = '"' :: escapedChars s.toList ++ ['"'] := by
  simp [jsonQuote, escapedChars, String.toList_join, List.flatMap_map]

theorem toList_compactItems_cons (x : Json) (xs : List Json) :
    (compactItems (x :: xs)).toList = x.compact.toList ++ itemsTail xs := by
  induction xs generalizing x with
  | nil => simp [compactItems, itemsTail]
  | cons y ys ih =>
    rw [compactItems.eq_3 x (y :: ys) (List.cons_ne_nil y ys), String.toList_append,
      String.toList_append, ih]
    simp [itemsTail]

theorem toList_compactMembers_cons (m : String × Json) (ms : List (String × Json)) :
    (compactMembers (m :: ms)).toList = memberChars m ++ membersTail ms := by
  induction ms generalizing m with
  | nil => simp [compactMembers, membersTail, memberChars]
  | cons m' ms ih =>
    rw [compactMembers.eq_3 m.1 m.2 (m' :: ms) (List.cons_ne_nil m' ms), String.toList_append,
      String.toList_append, ih]
    simp [membersTail, memberChars]

theorem toList_compact_array (xs : List Json) :
    (compact (.array xs)).toList = '[' :: (compactItems xs).toList ++ [']'] := by
  simp [compact]

theorem toList_compact_object (ms : List (String × Json)) :
    (compact (.object ms)).toList = '{' :: (compactMembers ms).toList ++ ['}'] := by
  simp [compact]

theorem itemsTail_cons (x : Json) (xs : List Json) :
    itemsTail (x :: xs) = ',' :: (x.compact.toList ++ itemsTail xs) := rfl

theorem membersTail_cons (m : String × Json) (ms : List (String × Json)) :
    membersTail (m :: ms) = ',' :: (memberChars m ++ membersTail ms) := rfl

theorem length_memberChars (m : String × Json) :
    (memberChars m).length = (escapedChars m.1.toList).length + 3 + m.2.compact.toList.length := by
  simp only [memberChars, toList_jsonQuote, List.length_append, List.length_cons, List.length_nil]
  omega

theorem memberChars_eq (m : String × Json) :
    memberChars m = '"' :: (escapedChars m.1.toList ++ '"' :: ':' :: m.2.compact.toList) := by
  simp [memberChars, toList_jsonQuote]

/-- A member whose key is above every key of a member list goes last. -/
theorem insertMember_of_lt {k : String} {v : Json} {acc : List (String × Json)}
    (h : ∀ p ∈ acc, p.1 < k) : insertMember k v acc = acc ++ [(k, v)] := by
  induction acc with
  | nil => rfl
  | cons p acc ih =>
    have hp : p.1 < k := h p List.mem_cons_self
    rw [insertMember, if_neg (lt_asymm hp), if_neg (ne_of_gt hp), ih fun q hq => h q (List.mem_cons_of_mem _ hq)]
    rfl

/-- The compact text of a value that reads back starts with the first character of `null`,
`true`, `false`, a string, an array or an object. -/
theorem compact_head {n : Nat} {v : Json} (hv : Plain n v) :
    ∃ c t, v.compact.toList = c :: t ∧ c ∈ ['n', 't', 'f', '"', '[', '{'] := by
  cases hv with
  | null => exact ⟨'n', ['u', 'l', 'l'], by decide, by decide⟩
  | bool b =>
    cases b
    · exact ⟨'f', ['a', 'l', 's', 'e'], by decide, by decide⟩
    · exact ⟨'t', ['r', 'u', 'e'], by decide, by decide⟩
  | string s => exact ⟨'"', escapedChars s.toList ++ ['"'], by simp [compact, toList_jsonQuote], by decide⟩
  | array _ => exact ⟨'[', _, toList_compact_array _, by decide⟩
  | object _ _ => exact ⟨'{', _, toList_compact_object _, by decide⟩

namespace Reader

/-! ## Reading from an index -/

/-- The characters `t` stand in the text from index `i` on. -/
def Reads (r : Reader) (i : Nat) (t : List Char) : Prop := t <+: r.chars.toList.drop i

variable {r : Reader} {i : Nat}

theorem Reads.left {t u : List Char} (h : r.Reads i (t ++ u)) : r.Reads i t :=
  (List.prefix_append t u).trans h

theorem Reads.right {t u : List Char} (h : r.Reads i (t ++ u)) : r.Reads (i + t.length) u := by
  obtain ⟨w, hw⟩ := h
  refine ⟨w, ?_⟩
  rw [← List.drop_drop, ← hw, List.append_assoc, List.drop_left]

theorem Reads.getElem {c : Char} {t : List Char} (h : r.Reads i (c :: t)) :
    ∃ hi : i < r.chars.size, r.chars[i] = c := by
  obtain ⟨w, hw⟩ := h
  have hget : r.chars.toList[i]? = some c := by
    rw [← List.head?_drop, ← hw]
    rfl
  rw [Array.getElem?_toList] at hget
  obtain ⟨hi, hc⟩ := Array.getElem?_eq_some_iff.1 hget
  exact ⟨hi, hc⟩

theorem Reads.peek {c : Char} {t : List Char} (h : r.Reads i (c :: t)) : r.peek i = some c := by
  obtain ⟨hi, hc⟩ := h.getElem
  simp [Reader.peek, hc, hi]

theorem Reads.peek_add {t : List Char} (h : r.Reads i t) {k : Nat} (hk : k < t.length) :
    r.peek (i + k) = t[k]? := by
  obtain ⟨w, hw⟩ := h
  rw [Reader.peek, ← Array.getElem?_toList, ← List.getElem?_drop, ← hw, List.getElem?_append_left hk]

theorem Reads.tail {c : Char} {t : List Char} (h : r.Reads i (c :: t)) : r.Reads (i + 1) t :=
  h.right (t := [c])

/-- Blanks are skipped only where there are some. -/
theorem skipBlank_of_reads {c : Char} {t : List Char} (h : r.Reads i (c :: t))
    (hc : c ∈ ['n', 't', 'f', '"', '[', '{', ']', '}', ',', ':']) : r.skipBlank i = i := by
  obtain ⟨hi, hci⟩ := h.getElem
  rw [skipBlank, dif_pos hi]
  simp only [List.mem_cons, List.not_mem_nil, or_false] at hc
  rcases hc with rfl | rfl | rfl | rfl | rfl | rfl | rfl | rfl | rfl | rfl <;> simp [hci]

theorem skipBlank_of_le {i : Nat} (h : r.chars.size ≤ i) : r.skipBlank i = i := by
  rw [skipBlank, dif_neg (by omega)]

theorem ident_of_reads {ls : List Char} (h : r.Reads i ls) : r.ident ls i = .ok (i + ls.length) := by
  induction ls generalizing i with
  | nil => rfl
  | cons l ls ih =>
    have hrest : r.Reads (i + 1) ls := h.right (t := [l])
    rw [ident, h.peek]
    dsimp only
    rw [if_pos rfl, ih hrest]
    simp only [List.length_cons]
    congr 1
    omega

/-! ## Byte offsets -/

/-- The number of UTF-8 bytes of characters. -/
def byteCount : List Char → Nat
  | [] => 0
  | c :: cs => c.utf8Size + byteCount cs

/-- The byte offsets of characters that start at byte `m`. -/
def offsetsFrom (m : Nat) : List Char → List Nat
  | [] => []
  | c :: cs => m :: offsetsFrom (m + c.utf8Size) cs

theorem byteCount_append (cs ds : List Char) : byteCount (cs ++ ds) = byteCount cs + byteCount ds := by
  induction cs with
  | nil => simp [byteCount]
  | cons c cs ih => simp only [List.cons_append, byteCount, ih]; omega

theorem byteCount_of_ascii {cs : List Char} (h : ∀ c ∈ cs, c.utf8Size = 1) : byteCount cs = cs.length := by
  induction cs with
  | nil => rfl
  | cons c cs ih =>
    simp only [List.mem_cons, forall_eq_or_imp] at h
    simp only [byteCount, h.1, ih h.2, List.length_cons]
    omega

/-- The byte offsets a reader of a text records, read off its fold over the characters. -/
theorem foldl_offsets (cs : List Char) (a : Array Nat) (m : Nat) :
    (cs.foldl (fun (acc : Array Nat × Nat) c => (acc.1.push acc.2, acc.2 + c.utf8Size)) (a, m)) =
      (⟨a.toList ++ offsetsFrom m cs⟩, m + byteCount cs) := by
  induction cs generalizing a m with
  | nil => simp [offsetsFrom, byteCount]
  | cons c cs ih =>
    rw [List.foldl_cons, ih]
    refine Prod.ext ?_ ?_
    · simp [offsetsFrom]
    · simp only [byteCount]
      omega

theorem getElem?_offsetsFrom (m : Nat) (cs : List Char) {k : Nat} (hk : k < cs.length) :
    (offsetsFrom m cs)[k]? = some (m + byteCount (cs.take k)) := by
  induction cs generalizing m k with
  | nil => simp at hk
  | cons c cs ih =>
    cases k with
    | zero => simp [offsetsFrom, byteCount]
    | succ k =>
      simp only [offsetsFrom, List.getElem?_cons_succ, List.take_succ_cons, byteCount]
      rw [ih _ (by simpa using hk)]
      congr 1
      omega

theorem length_offsetsFrom (m : Nat) (cs : List Char) : (offsetsFrom m cs).length = cs.length := by
  induction cs generalizing m with
  | nil => rfl
  | cons c cs ih => simp [offsetsFrom, ih]

/-- Every offset of a text's reader counts the bytes before it, and the size counts them all. -/
theorem offset_ofString (s : String) (k : Nat) :
    (ofString s).offset k = byteCount (s.toList.take k) ∧ (ofString s).size = byteCount s.toList := by
  have hfold := foldl_offsets s.toList #[] 0
  simp only [ofString, List.foldl_toArray, hfold, List.nil_append, Nat.zero_add]
  have hsize : Reader.size ⟨s.toList.toArray, (⟨offsetsFrom 0 s.toList⟩ : Array Nat).push
      (byteCount s.toList)⟩ = byteCount s.toList := by
    simp [Reader.size]
  refine ⟨?_, hsize⟩
  simp only [Reader.offset, hsize]
  rcases Nat.lt_or_ge k s.toList.length with hk | hk
  · rw [Array.getElem?_push, if_neg (by simp [length_offsetsFrom]; omega)]
    have := getElem?_offsetsFrom 0 s.toList hk
    simp only [Nat.zero_add] at this
    simp [this]
  · rw [List.take_of_length_le hk]
    rw [Array.getElem?_push]
    split_ifs with heq
    · rfl
    · rw [Array.getElem?_eq_none (by simp [length_offsetsFrom]; omega)]
      rfl

/-- A run of one-byte characters of the text ends within its bytes. -/
def Measured (r : Reader) : Prop :=
  ∀ i t, r.Reads i t → (∀ c ∈ t, c.utf8Size = 1) → r.offset i + t.length ≤ r.size

theorem measured_ofString (s : String) : (ofString s).Measured := by
  intro i t ht hascii
  obtain ⟨hoff, hsize⟩ := offset_ofString s i
  obtain ⟨w, hw⟩ := ht
  have hchars : (ofString s).chars.toList = s.toList := rfl
  rw [hchars] at hw
  have hsplit : byteCount s.toList = byteCount (s.toList.take i) + (byteCount t + byteCount w) := by
    conv_lhs => rw [← List.take_append_drop i s.toList]
    rw [byteCount_append, ← hw, byteCount_append]
  rw [hoff, hsize, hsplit, byteCount_of_ascii hascii]
  omega

/-! ## Strings -/

theorem hexValue_hexDigit : ∀ d < 16, hexValue (hexDigit d) = some d := by decide

theorem utf8Size_hexDigit : ∀ d < 16, (hexDigit d).utf8Size = 1 := by decide

/-- A backslash and a letter that the reader takes for one character. -/
theorem stringRest_escape {c : Char} {rest : List Char} (acc : List Char) {j : Nat}
    (h : r.Reads i ('\\' :: rest)) (he : r.escape (i + 1) = .ok ([c], j)) (hij : i < j) :
    r.stringRest i acc = r.stringRest j (c :: acc) := by
  obtain ⟨hi, hc⟩ := h.getElem
  rw [stringRest, dif_pos hi]
  simp [hc, he, hij]

theorem escape_letter {e c : Char} {rest : List Char} (h : r.Reads (i + 1) (e :: rest))
    (hl : (e, c) ∈ [('"', '"'), ('\\', '\\'), ('n', '\n'), ('r', '\r'), ('t', '\t'), ('b', Char.ofNat 8),
      ('f', Char.ofNat 12)]) :
    r.escape (i + 1) = .ok ([c], i + 2) := by
  simp only [List.mem_cons, Prod.mk.injEq, List.not_mem_nil, or_false] at hl
  rcases hl with ⟨rfl, rfl⟩ | ⟨rfl, rfl⟩ | ⟨rfl, rfl⟩ | ⟨rfl, rfl⟩ | ⟨rfl, rfl⟩ | ⟨rfl, rfl⟩ | ⟨rfl, rfl⟩ <;>
    simp [escape, h.peek]

/-- A `\u00XX` escape of a control character reads back as the character: its four hex digits
lie within the text's bytes. -/
theorem escape_control (hr : r.Measured) {c : Char} (hc : c.toNat < 32) {rest : List Char}
    (h : r.Reads (i + 1) ('u' :: '0' :: '0' :: hexDigit (c.toNat / 16 % 16) :: hexDigit (c.toNat % 16) :: rest)) :
    r.escape (i + 1) = .ok ([c], i + 6) := by
  have hdigits := (h.tail.left (t := ['0', '0', hexDigit (c.toNat / 16 % 16), hexDigit (c.toNat % 16)]))
  have hbytes : r.offset (i + 1 + 1) + 4 ≤ r.size := by
    refine hr _ _ hdigits fun d hd => ?_
    simp only [List.mem_cons, List.not_mem_nil, or_false] at hd
    rcases hd with rfl | rfl | rfl | rfl
    · decide
    · decide
    · exact utf8Size_hexDigit _ (Nat.mod_lt _ (by decide))
    · exact utf8Size_hexDigit _ (Nat.mod_lt _ (by decide))
  have p1 : r.peek (i + 1 + 1) = some '0' := h.peek_add (k := 1) (by simp)
  have p2 : r.peek (i + 1 + 1 + 1) = some '0' := h.peek_add (k := 2) (by simp)
  have p3 : r.peek (i + 1 + 1 + 2) = some (hexDigit (c.toNat / 16 % 16)) := h.peek_add (k := 3) (by simp)
  have p4 : r.peek (i + 1 + 1 + 3) = some (hexDigit (c.toNat % 16)) := h.peek_add (k := 4) (by simp)
  have hhex : r.hex4 (i + 1 + 1) = .ok (c.toNat, i + 1 + 1 + 4) := by
    rw [hex4, if_neg (by omega)]
    simp only [p1, p2, p3, p4, List.map_cons, List.map_nil, Option.bind_some,
      hexValue_hexDigit _ (Nat.mod_lt _ (by decide : 16 > 0))]
    have h0 : hexValue '0' = some 0 := by decide
    rw [h0]
    dsimp only
    congr 2
    omega
  rw [escape, h.peek, hhex]
  simp [bind, Except.bind, show ¬(56320 ≤ c.toNat) by omega, show ¬(55296 ≤ c.toNat) by omega]

/-- The reader takes the escaped form of a character for the character. -/
theorem stringRest_jsonEscape (hr : r.Measured) {c : Char} {rest : List Char} (acc : List Char)
    (h : r.Reads i ((jsonEscape c).toList ++ rest)) :
    r.stringRest i acc = r.stringRest (i + (jsonEscape c).toList.length) (c :: acc) := by
  unfold jsonEscape at h ⊢
  -- one case for each way `jsonEscape` writes a character
  split_ifs at h ⊢ with h1 h2 h3 h4 h5 h6 h7 h8
  · subst h1
    rw [show ("\\\"" : String).toList = ['\\', '"'] by decide] at h ⊢
    exact stringRest_escape acc h (escape_letter h.tail (by decide)) (by simp)
  · subst h2
    rw [show ("\\\\" : String).toList = ['\\', '\\'] by decide] at h ⊢
    exact stringRest_escape acc h (escape_letter h.tail (by decide)) (by simp)
  · subst h3
    rw [show ("\\n" : String).toList = ['\\', 'n'] by decide] at h ⊢
    exact stringRest_escape acc h (escape_letter h.tail (by decide)) (by simp)
  · subst h4
    rw [show ("\\r" : String).toList = ['\\', 'r'] by decide] at h ⊢
    exact stringRest_escape acc h (escape_letter h.tail (by decide)) (by simp)
  · subst h5
    rw [show ("\\t" : String).toList = ['\\', 't'] by decide] at h ⊢
    exact stringRest_escape acc h (escape_letter h.tail (by decide)) (by simp)
  · obtain rfl : c = Char.ofNat 8 := by rw [← Char.ofNat_toNat c, h6]
    rw [show ("\\b" : String).toList = ['\\', 'b'] by decide] at h ⊢
    exact stringRest_escape acc h (escape_letter h.tail (by decide)) (by simp)
  · obtain rfl : c = Char.ofNat 12 := by rw [← Char.ofNat_toNat c, h7]
    rw [show ("\\f" : String).toList = ['\\', 'f'] by decide] at h ⊢
    exact stringRest_escape acc h (escape_letter h.tail (by decide)) (by simp)
  · -- a control character without a short escape: `\u00` and two hex digits
    have ht : ("\\u00" ++ hex2 c.toNat).toList =
        ['\\', 'u', '0', '0', hexDigit (c.toNat / 16 % 16), hexDigit (c.toNat % 16)] := by
      simp [hex2]
    rw [ht] at h ⊢
    exact stringRest_escape acc h (escape_control hr h8 h.tail) (by simp)
  · -- any other character stands for itself
    rw [show c.toString.toList = [c] from String.toList_singleton c] at h ⊢
    obtain ⟨hi, hci⟩ := h.getElem
    rw [stringRest, dif_pos hi]
    simp [hci, h1, h2, h8]

/-- A string literal reads back as the text it escapes. -/
theorem stringRest_escapedChars (hr : r.Measured) (cs : List Char) {i : Nat} (acc : List Char) {rest : List Char}
    (h : r.Reads i (escapedChars cs ++ '"' :: rest)) :
    r.stringRest i acc = .ok (String.ofList (acc.reverse ++ cs), i + (escapedChars cs).length + 1) := by
  induction cs generalizing i acc with
  | nil =>
    obtain ⟨hi, hc⟩ := h.getElem
    rw [stringRest, dif_pos hi]
    simp [hc, escapedChars]
  | cons c cs ih =>
    rw [escapedChars_cons, List.append_assoc] at h
    rw [stringRest_jsonEscape hr acc h, ih (c :: acc) h.right, escapedChars_cons, List.length_append]
    simp only [List.reverse_cons, List.append_assoc, List.singleton_append]
    congr 3
    omega

/-! ## Values, items and members -/

/-- A value reads back from wherever its compact text stands, given fuel beyond the length of
the text and room for `n` more levels of nesting. -/
def ReadsBack (r : Reader) (n : Nat) (v : Json) : Prop :=
  ∀ ⦃d fuel i : Nat⦄ ⦃rest : List Char⦄, d + n < 128 → v.compact.toList.length < fuel →
    r.Reads i (v.compact.toList ++ rest) → r.value fuel d i = .ok (v, i + v.compact.toList.length)

theorem items_close {first : Bool} {acc : List Json} {fuel d : Nat} {rest : List Char}
    (h : r.Reads i (']' :: rest)) : r.items (fuel + 1) d i first acc = .ok (acc.reverse, i) := by
  simp [items, skipBlank_of_reads h (by decide), h.peek]

theorem items_first_step {c : Char} {t : List Char} {fuel d j : Nat} {v : Json} {acc : List Json}
    (h : r.Reads i (c :: t)) (hc : c ∈ ['n', 't', 'f', '"', '[', '{'])
    (hv : r.value fuel d i = .ok (v, j)) :
    r.items (fuel + 1) d i true acc = r.items fuel d j false (v :: acc) := by
  have hskip := skipBlank_of_reads h (by simp only [List.mem_cons] at hc ⊢; tauto)
  simp only [List.mem_cons, List.not_mem_nil, or_false] at hc
  rcases hc with rfl | rfl | rfl | rfl | rfl | rfl <;> simp [items, hskip, h.peek, hv]

theorem items_comma_step {c : Char} {t : List Char} {fuel d k : Nat} {v : Json} {acc : List Json}
    (h : r.Reads i (',' :: c :: t)) (hc : c ∈ ['n', 't', 'f', '"', '[', '{'])
    (hv : r.value fuel d (i + 1) = .ok (v, k)) :
    r.items (fuel + 1) d i false acc = r.items fuel d k false (v :: acc) := by
  have hskip := skipBlank_of_reads h (by decide)
  have hnext := skipBlank_of_reads h.tail (by simp only [List.mem_cons] at hc ⊢; tauto)
  simp only [List.mem_cons, List.not_mem_nil, or_false] at hc
  rcases hc with rfl | rfl | rfl | rfl | rfl | rfl <;> simp [items, hskip, h.peek, hnext, h.tail.peek, hv]

theorem members_close {first : Bool} {acc : List (String × Json)} {fuel d : Nat} {rest : List Char}
    (h : r.Reads i ('}' :: rest)) : r.members (fuel + 1) d i first acc = .ok (acc, i) := by
  simp [members, skipBlank_of_reads h (by decide), h.peek]

theorem members_first_step {acc : List (String × Json)} {fuel d : Nat} {rest : List Char}
    (h : r.Reads i ('"' :: rest)) : r.members (fuel + 1) d i true acc = r.member fuel d i acc := by
  simp [members, skipBlank_of_reads h (by decide), h.peek]

theorem members_comma_step {acc : List (String × Json)} {fuel d : Nat} {rest : List Char}
    (h : r.Reads i (',' :: '"' :: rest)) :
    r.members (fuel + 1) d i false acc = r.member fuel d (i + 1) acc := by
  simp [members, skipBlank_of_reads h (by decide), h.peek, skipBlank_of_reads h.tail (by decide),
    h.tail.peek]

/-- A member reads back and goes last into the members read so far, its key being above
theirs. -/
theorem member_compact (hr : r.Measured) {n : Nat} {m : String × Json} (hb : r.ReadsBack n m.2)
    {d fuel : Nat} {acc : List (String × Json)} {rest : List Char} (hacc : ∀ p ∈ acc, p.1 < m.1)
    (hd : d + n < 128) (hfuel : (memberChars m).length < fuel) (h : r.Reads i (memberChars m ++ rest)) :
    r.member fuel d i acc = r.members (fuel - 1) d (i + (memberChars m).length) false (acc ++ [m]) := by
  obtain ⟨F, rfl⟩ : ∃ F, fuel = F + 1 := ⟨fuel - 1, by omega⟩
  have hlen := length_memberChars m
  simp only [memberChars, toList_jsonQuote, List.cons_append, List.append_assoc] at h
  -- the key, then the colon right after its closing quote, then the value
  have hkey := stringRest_escapedChars hr m.1.toList [] h.tail
  have hcolon := h.tail.right.tail
  have hvalue := @hb d F _ _ hd (by omega) hcolon.tail
  simp only [List.reverse_nil, List.nil_append, String.ofList_toList] at hkey
  have hidx : i + 1 + (escapedChars m.1.toList).length + 1 + 1 + m.2.compact.toList.length =
      i + (memberChars m).length := by omega
  rw [member, hkey]
  dsimp only
  rw [skipBlank_of_reads hcolon (by decide), hcolon.peek]
  simp only [hvalue, insertMember_of_lt hacc, Nat.add_sub_cancel, hidx]

theorem items_rest {n : Nat} {xs : List Json} (hp : ∀ x ∈ xs, Plain n x) (hb : ∀ x ∈ xs, r.ReadsBack n x)
    {d : Nat} (fuel : Nat) {i : Nat} {acc : List Json} {rest : List Char} (hd : d + n < 128)
    (hfuel : (itemsTail xs).length + 1 < fuel) (h : r.Reads i (itemsTail xs ++ ']' :: rest)) :
    r.items fuel d i false acc = .ok (acc.reverse ++ xs, i + (itemsTail xs).length) := by
  induction xs generalizing fuel i acc with
  | nil =>
    obtain ⟨F, rfl⟩ : ∃ F, fuel = F + 1 := ⟨fuel - 1, by omega⟩
    simpa [itemsTail] using items_close h
  | cons x xs ih =>
    obtain ⟨F, rfl⟩ : ∃ F, fuel = F + 1 := ⟨fuel - 1, by omega⟩
    obtain ⟨c, t, hct, hc⟩ := compact_head (hp x List.mem_cons_self)
    have hx : 1 ≤ x.compact.toList.length := by simp [hct]
    have hlen : (itemsTail (x :: xs)).length = x.compact.toList.length + (itemsTail xs).length + 1 := by
      simp [itemsTail_cons]
    -- a comma, the item, and the items after it
    rw [itemsTail_cons, List.cons_append, List.append_assoc] at h
    have hv := @hb x List.mem_cons_self d F _ _ hd (by omega) h.tail
    have hnext := h.tail.right
    rw [hct] at h
    rw [items_comma_step h hc hv, ih (fun y hy => hp y (List.mem_cons_of_mem _ hy))
      (fun y hy => hb y (List.mem_cons_of_mem _ hy)) F (by omega) hnext, hlen]
    simp
    omega

theorem items_first {n : Nat} {xs : List Json} (hp : ∀ x ∈ xs, Plain n x) (hb : ∀ x ∈ xs, r.ReadsBack n x)
    {d fuel i : Nat} {rest : List Char} (hd : d + n < 128)
    (hfuel : (compactItems xs).toList.length + 1 < fuel) (h : r.Reads i ((compactItems xs).toList ++ ']' :: rest)) :
    r.items fuel d i true [] = .ok (xs, i + (compactItems xs).toList.length) := by
  obtain ⟨F, rfl⟩ : ∃ F, fuel = F + 1 := ⟨fuel - 1, by omega⟩
  cases xs with
  | nil =>
    have h' : r.Reads i (']' :: rest) := by simpa [compactItems] using h
    simpa [compactItems] using (items_close h' : r.items (F + 1) d i true [] = .ok ([].reverse, i))
  | cons x xs =>
    obtain ⟨c, t, hct, hc⟩ := compact_head (hp x List.mem_cons_self)
    have hx : 1 ≤ x.compact.toList.length := by simp [hct]
    simp only [toList_compactItems_cons, List.append_assoc, List.length_append] at h hfuel ⊢
    -- the first item, then the items after it
    have hv := @hb x List.mem_cons_self d F _ _ hd (by omega) h
    have hnext := h.right
    rw [hct] at h
    rw [items_first_step h hc hv, items_rest (fun y hy => hp y (List.mem_cons_of_mem _ hy))
      (fun y hy => hb y (List.mem_cons_of_mem _ hy)) F hd (by omega) hnext]
    simp
    omega

theorem members_rest (hr : r.Measured) {n : Nat} {ms : List (String × Json)}
    (hb : ∀ m ∈ ms, r.ReadsBack n m.2) (hkeys : KeysStrict Prod.fst ms) {d : Nat} (fuel : Nat) {i : Nat}
    {acc : List (String × Json)} {rest : List Char} (hacc : ∀ p ∈ acc, ∀ m ∈ ms, p.1 < m.1)
    (hd : d + n < 128) (hfuel : (membersTail ms).length + 1 < fuel)
    (h : r.Reads i (membersTail ms ++ '}' :: rest)) :
    r.members fuel d i false acc = .ok (acc ++ ms, i + (membersTail ms).length) := by
  induction ms generalizing fuel i acc with
  | nil =>
    obtain ⟨F, rfl⟩ : ∃ F, fuel = F + 1 := ⟨fuel - 1, by omega⟩
    simpa [membersTail] using members_close h
  | cons m ms ih =>
    obtain ⟨F, rfl⟩ : ∃ F, fuel = F + 1 := ⟨fuel - 1, by omega⟩
    obtain ⟨hm, hms⟩ := keysStrict_cons.1 hkeys
    have hlen := length_memberChars m
    have htail : (membersTail (m :: ms)).length = (memberChars m).length + (membersTail ms).length + 1 := by
      simp [membersTail_cons]
    -- a comma, the member, and the members after it, which all have larger keys
    rw [membersTail_cons, List.cons_append, List.append_assoc] at h
    have hquote : r.Reads i (',' :: '"' :: (escapedChars m.1.toList ++ '"' :: ':' ::
        (m.2.compact.toList ++ (membersTail ms ++ '}' :: rest)))) := by
      simpa [memberChars_eq] using h
    have hnext := h.tail.right
    rw [members_comma_step hquote,
      member_compact hr (hb m List.mem_cons_self) (fun p hp => hacc p hp m List.mem_cons_self) hd (by omega) h.tail,
      ih (fun q hq => hb q (List.mem_cons_of_mem _ hq)) hms (F - 1) ?_ (by omega) hnext, htail]
    · simp
      omega
    · intro p hp q hq
      rcases List.mem_append.1 hp with hp | hp
      · exact hacc p hp q (List.mem_cons_of_mem _ hq)
      · rw [List.mem_singleton.1 hp]
        exact hm q hq

theorem members_first (hr : r.Measured) {n : Nat} {ms : List (String × Json)}
    (hb : ∀ m ∈ ms, r.ReadsBack n m.2) (hkeys : KeysStrict Prod.fst ms) {d fuel i : Nat} {rest : List Char}
    (hd : d + n < 128) (hfuel : (compactMembers ms).toList.length + 1 < fuel)
    (h : r.Reads i ((compactMembers ms).toList ++ '}' :: rest)) :
    r.members fuel d i true [] = .ok (ms, i + (compactMembers ms).toList.length) := by
  obtain ⟨F, rfl⟩ : ∃ F, fuel = F + 1 := ⟨fuel - 1, by omega⟩
  cases ms with
  | nil =>
    have h' : r.Reads i ('}' :: rest) := by simpa [compactMembers] using h
    simpa [compactMembers] using (members_close h' : r.members (F + 1) d i true [] = .ok ([], i))
  | cons m ms =>
    obtain ⟨hm, hms⟩ := keysStrict_cons.1 hkeys
    have hlen := length_memberChars m
    simp only [toList_compactMembers_cons, List.append_assoc, List.length_append] at h hfuel ⊢
    -- the first member, then the members after it, which all have larger keys
    have hquote : r.Reads i ('"' :: (escapedChars m.1.toList ++ '"' :: ':' ::
        (m.2.compact.toList ++ (membersTail ms ++ '}' :: rest)))) := by
      simpa [memberChars_eq] using h
    rw [members_first_step hquote, member_compact hr (hb m List.mem_cons_self) (by simp) hd (by omega) h,
      members_rest hr (fun q hq => hb q (List.mem_cons_of_mem _ hq)) hms (F - 1)
        (by simpa using hm) hd (by omega) h.right]
    simp
    omega

/-- **Reading back.** A value that reads back is read from wherever its compact text stands. -/
theorem value_compact (hr : r.Measured) {n : Nat} {v : Json} (hv : Plain n v) : r.ReadsBack n v := by
  induction hv with
  | null =>
    intro d fuel i rest hd hfuel h
    obtain ⟨F, rfl⟩ : ∃ F, fuel = F + 1 := ⟨fuel - 1, by omega⟩
    rw [show Json.null.compact.toList = ['n', 'u', 'l', 'l'] by decide] at h ⊢
    simp [value, skipBlank_of_reads h (by decide), h.peek, ident_of_reads h.tail.left, Except.map]
  | bool b =>
    intro d fuel i rest hd hfuel h
    obtain ⟨F, rfl⟩ : ∃ F, fuel = F + 1 := ⟨fuel - 1, by omega⟩
    cases b
    · rw [show (Json.bool false).compact.toList = ['f', 'a', 'l', 's', 'e'] by decide] at h ⊢
      simp [value, skipBlank_of_reads h (by decide), h.peek, ident_of_reads h.tail.left, Except.map]
    · rw [show (Json.bool true).compact.toList = ['t', 'r', 'u', 'e'] by decide] at h ⊢
      simp [value, skipBlank_of_reads h (by decide), h.peek, ident_of_reads h.tail.left, Except.map]
  | string s =>
    intro d fuel i rest hd hfuel h
    obtain ⟨F, rfl⟩ : ∃ F, fuel = F + 1 := ⟨fuel - 1, by omega⟩
    rw [show (Json.string s).compact.toList = '"' :: (escapedChars s.toList ++ ['"']) by
      simp [compact, toList_jsonQuote]] at h ⊢
    simp only [List.cons_append, List.append_assoc] at h
    have hs := stringRest_escapedChars hr s.toList [] h.tail
    simp [value, skipBlank_of_reads h (by decide), h.peek, hs, Except.map]
    omega
  | @array n xs hxs ih =>
    intro d fuel i rest hd hfuel h
    obtain ⟨F, rfl⟩ : ∃ F, fuel = F + 1 := ⟨fuel - 1, by omega⟩
    rw [toList_compact_array] at h hfuel ⊢
    simp only [List.cons_append, List.append_assoc, List.length_cons, List.length_append,
      List.length_nil] at h hfuel ⊢
    have hitems : r.items F (d + 1) (i + 1) true [] = .ok (xs, i + 1 + (compactItems xs).toList.length) :=
      items_first hxs ih (by omega) (by omega) h.tail
    simp [value, skipBlank_of_reads h (by decide), h.peek, show d + 1 ≠ 128 by omega, hitems, Except.map]
    omega
  | @object n ms _ hkeys ih =>
    intro d fuel i rest hd hfuel h
    obtain ⟨F, rfl⟩ : ∃ F, fuel = F + 1 := ⟨fuel - 1, by omega⟩
    rw [toList_compact_object] at h hfuel ⊢
    simp only [List.cons_append, List.append_assoc, List.length_cons, List.length_append,
      List.length_nil] at h hfuel ⊢
    have hmembers : r.members F (d + 1) (i + 1) true [] =
        .ok (ms, i + 1 + (compactMembers ms).toList.length) :=
      members_first hr ih hkeys (by omega) (by omega) h.tail
    simp [value, skipBlank_of_reads h (by decide), h.peek, show d + 1 ≠ 128 by omega, hmembers, Except.map]
    omega

theorem document_compact {n : Nat} {v : Json} (hv : Plain n v) (hn : n < 128) :
    (ofString v.compact).document = .ok v := by
  have hchars : (ofString v.compact).chars.toList = v.compact.toList := rfl
  have hsize : (ofString v.compact).chars.size = v.compact.toList.length := by
    rw [← hchars, Array.length_toList]
  have h : (ofString v.compact).Reads 0 (v.compact.toList ++ []) := by
    simp [Reads, hchars]
  have hvalue : (ofString v.compact).value (4 * (ofString v.compact).chars.size + 8) 0 0 =
      .ok (v, 0 + v.compact.toList.length) :=
    value_compact (measured_ofString _) hv (by omega) (by omega) h
  have hend := skipBlank_of_le (show (ofString v.compact).chars.size ≤ v.compact.toList.length by omega)
  rw [document, hvalue, Nat.zero_add]
  simp [bind, Except.bind, hend, hsize]

end Reader

/-- **Round trip.** A value without numbers whose objects list their members by strictly
ascending key, nested less than 128 deep, reads back from its compact text. -/
theorem parse_compact {n : Nat} {v : Json} (hv : Plain n v) (hn : n < 128) : Json.parse v.compact = .ok v := by
  simp [Json.parse, Reader.document_compact hv hn]

/-! ## Objects built by `obj` -/

theorem insertMember_eq (k : String) (v : Json) (ms : List (String × Json)) :
    insertMember k v ms = upsertByKey Prod.fst (k, v) ms := by
  induction ms with
  | nil => rfl
  | cons m ms ih =>
    obtain ⟨k', v'⟩ := m
    simp only [insertMember, upsertByKey, ih]
    rcases lt_trichotomy k k' with hlt | rfl | hgt
    · rw [if_pos hlt, compare_lt_iff_lt.2 hlt]
    · rw [if_neg (lt_irrefl _), if_pos rfl, compare_eq_iff_eq.2 rfl]
    · rw [if_neg (lt_asymm hgt), if_neg (ne_of_gt hgt), compare_gt_iff_gt.2 hgt]

/-- An object built by `obj` stores each key once, the last value given for it winning. -/
theorem obj_eq (ms : List (String × Json)) :
    Json.obj ms = .object (ms.foldl (fun acc m => upsertByKey Prod.fst m acc) []) := by
  unfold Json.obj
  congr 2
  funext acc m
  exact insertMember_eq m.1 m.2 acc

/-- Every object built by `obj` from values that read back reads back. -/
theorem Plain.obj {n : Nat} {ms : List (String × Json)} (h : ∀ m ∈ ms, Plain n m.2) :
    Plain (n + 1) (Json.obj ms) := by
  rw [obj_eq]
  refine .object (fun m hm => ?_) (keysStrict_foldl_upsertByKey ms List.Pairwise.nil)
  rcases mem_foldl_upsertByKey hm with hm | hm
  · simp at hm
  · exact h m hm

end Json

end EntityGateway
