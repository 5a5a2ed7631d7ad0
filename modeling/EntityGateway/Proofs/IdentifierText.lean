import EntityGateway.Identifier
import EntityGateway.Proofs.UpperCase
import EntityGateway.Proofs.JsonRoundTrip

/-!
# Identifiers read back from their text

`EntityIdentifier.display` writes an entity id in decimal and a record as the compact object
`{"id":RID,"src":DS}`; `EntityIdentifier.parse` reads both forms back. An identifier read from
text, or from a JSON value, reads back from its own text as itself (`parse_display_of_read`):
reading leaves every identifier `Canonical`, an entity id of 64 bits or a record whose data source
is non-empty, trimmed and in upper case, and the canonical identifiers are exactly those that read
back (`parse_display_eq_ok_iff`).

* `parseInt64?_toString`: the decimal text of a 64-bit integer reads back as it;
* `parse_display_record`: the text of a record is compact JSON (`display_record`), which reads back
  as the object of its two members (`Json.parse_compact`);
* `canonical_ofRecord`: a data source trimmed and upper-cased is its own trimmed upper case, by
  `String.trimBlank_upper_trimBlank` and `String.upper_upper`;
* `canonical_of_parse`, `canonical_of_ofJson`: every branch of reading gives a canonical identifier;
  a JSON number is one by the range its constructor carries.
-/

namespace EntityGateway

namespace EntityIdentifier

/-! ## Decimal numerals -/

/-- A decimal digit is a digit, no blank and no brace. -/
theorem digitChar_plain : ∀ k < 10,
    (Nat.digitChar k).isDigit = true ∧ (Nat.digitChar k).isBlank = false ∧ Nat.digitChar k ≠ '\x7b' := by
  decide

/-- Every character of the decimal digits of a number is the digit of a number below ten. -/
theorem mem_toDigits {n : Nat} : ∀ c ∈ Nat.toDigits 10 n, ∃ k < 10, c = Nat.digitChar k := by
  induction n using Nat.strong_induction_on with
  | _ n ih =>
    rw [Nat.toDigits_eq_if (by decide)]
    split
    · intro c hc
      exact ⟨n, ‹_›, List.mem_singleton.1 hc⟩
    · intro c hc
      rcases List.mem_append.1 hc with hc | hc
      · exact ih (n / 10) (by omega) c hc
      · exact ⟨n % 10, Nat.mod_lt _ (by decide), List.mem_singleton.1 hc⟩

theorem isDigit_of_mem_toDigits {n : Nat} {c : Char} (hc : c ∈ Nat.toDigits 10 n) : c.isDigit = true := by
  obtain ⟨k, hk, rfl⟩ := mem_toDigits c hc
  exact (digitChar_plain k hk).1

/-- Reading the decimal digits of a number from the left gives the number. -/
theorem foldl_toDigits (n : Nat) :
    (Nat.toDigits 10 n).foldl (fun n c => 10 * n + (c.toNat - 48)) 0 = n :=
  Nat.ofDigitChars_ten_toDigits

/-- The decimal digits read back as the number they write, with or without a minus sign before
them. -/
theorem parseInt64?_digits {negative : Bool} {n : Nat} {s : String}
    (hs : s.toList = (if negative then ['-'] else []) ++ Nat.toDigits 10 n)
    (hfit : -(Nat.pow 2 63 : Int) ≤ (if negative then -(n : Int) else n) ∧
      (if negative then -(n : Int) else n) < (Nat.pow 2 63 : Int)) :
    parseInt64? s = some (if negative then -(n : Int) else n) := by
  have hdigits : (Nat.toDigits 10 n).all Char.isDigit = true :=
    List.all_eq_true.2 fun _ hc => isDigit_of_mem_toDigits hc
  obtain ⟨d, ds, hd⟩ := List.exists_cons_of_ne_nil (Nat.toDigits_ne_nil (b := 10) (n := n))
  have hdigit : d.isDigit = true := isDigit_of_mem_toDigits (by rw [hd]; exact List.mem_cons_self)
  have h63 : Nat.pow 2 63 = 9223372036854775808 := rfl
  simp only [h63] at hfit
  unfold parseInt64?
  cases negative with
  | true =>
    simp only [if_true, List.singleton_append] at hs hfit ⊢
    rw [hs]
    simp [foldl_toDigits, hdigits, Nat.toDigits_ne_nil]
    omega
  | false =>
    simp only [Bool.false_eq_true, if_false, List.nil_append] at hs hfit ⊢
    rw [hs, hd]
    have hminus : d ≠ '-' := by rintro rfl; exact absurd hdigit (by decide)
    have hplus : d ≠ '+' := by rintro rfl; exact absurd hdigit (by decide)
    -- a digit is no sign, so the whole text is read as digits
    split
    next _ _ heq => exact absurd (List.cons.inj heq).1 hminus
    next _ _ heq => exact absurd (List.cons.inj heq).1 hplus
    next =>
      rw [← hd]
      simp [foldl_toDigits, hdigits, Nat.toDigits_ne_nil]
      omega

theorem toList_toString_ofNat (m : Nat) : (toString (Int.ofNat m)).toList = Nat.toDigits 10 m := by
  have htext : toString (Int.ofNat m) = toString m := rfl
  simp only [htext, Nat.toString_eq_ofList_toDigits, String.toList_ofList]

theorem toList_toString_negSucc (m : Nat) :
    (toString (Int.negSucc m)).toList = '-' :: Nat.toDigits 10 (m + 1) := by
  have htext : toString (Int.negSucc m) = "-" ++ toString (m + 1) := rfl
  simp only [htext, String.toList_append, Nat.toString_eq_ofList_toDigits, String.toList_ofList]
  rfl

/-- A 64-bit integer reads back from its decimal text. -/
theorem parseInt64?_toString {id : Int} (hlo : -(Nat.pow 2 63 : Int) ≤ id) (hhi : id < (Nat.pow 2 63 : Int)) :
    parseInt64? (toString id) = some id := by
  cases id with
  | ofNat m =>
    have hfit : -(Nat.pow 2 63 : Int) ≤ (if false then -(m : Int) else m) ∧
        (if false then -(m : Int) else m) < (Nat.pow 2 63 : Int) := ⟨hlo, hhi⟩
    exact parseInt64?_digits (toList_toString_ofNat m) hfit
  | negSucc m =>
    have hval : (if true then -((m + 1 : Nat) : Int) else ((m + 1 : Nat) : Int)) = Int.negSucc m := by
      simp [Int.negSucc_eq]
    rw [← hval] at hlo hhi ⊢
    exact parseInt64?_digits (toList_toString_negSucc m) ⟨hlo, hhi⟩

/-- The decimal text of an integer: digits, with a minus sign before them when it is negative. -/
theorem toList_toString_int (id : Int) :
    ∃ (negative : Bool) (n : Nat), (toString id).toList = (if negative then ['-'] else []) ++ Nat.toDigits 10 n := by
  cases id with
  | ofNat m => exact ⟨false, m, toList_toString_ofNat m⟩
  | negSucc m => exact ⟨true, m + 1, toList_toString_negSucc m⟩

/-- Every character of an integer's text is a minus sign or a digit. -/
theorem mem_toString_int {id : Int} {c : Char} (hc : c ∈ (toString id).toList) :
    c = '-' ∨ ∃ k < 10, c = Nat.digitChar k := by
  obtain ⟨negative, n, hs⟩ := toList_toString_int id
  rw [hs] at hc
  rcases List.mem_append.1 hc with hc | hc
  · cases negative <;> simp_all
  · exact .inr (mem_toDigits c hc)

theorem toString_int_ne_empty (id : Int) : toString id ≠ "" := by
  obtain ⟨negative, n, hs⟩ := toList_toString_int id
  intro h
  have := congrArg String.toList h
  rw [hs] at this
  simp [Nat.toDigits_ne_nil] at this

/-- An entity id of 64 bits reads back from its text. -/
theorem parse_display_entity {id : Int} (hlo : -(Nat.pow 2 63 : Int) ≤ id) (hhi : id < (Nat.pow 2 63 : Int)) :
    parse (entity id).display = .ok (entity id) := by
  -- the text is a sign or a digit throughout, so no blank and no brace
  have hblank : ∀ c ∈ (toString id).toList, c.isBlank = false := by
    intro c hc
    rcases mem_toString_int hc with rfl | ⟨k, hk, rfl⟩
    · decide
    · exact (digitChar_plain k hk).2.1
  have htext : (toString id).trimBlank = toString id :=
    String.trimBlank_of_ends (fun c hc => hblank c (List.mem_of_mem_head? hc))
      (fun c hc => hblank c (List.mem_of_mem_getLast? hc))
  have hopen : (toString id).startsWith "\x7b" = false := by
    rw [Bool.eq_false_iff]
    intro h
    obtain ⟨rest, hrest⟩ := String.startsWith_string_iff.1 h
    rcases @mem_toString_int id '\x7b' (by rw [← hrest]; simp) with h | ⟨k, hk, h⟩
    · exact absurd h (by decide)
    · exact (digitChar_plain k hk).2.2 h.symm
  simp only [parse, display, htext, if_neg (toString_int_ne_empty id), hopen, Bool.false_eq_true,
    if_false, parseInt64?_toString hlo hhi]

/-! ## The text of a record -/

/-- The text of a record is the compact text of the object of its two members. -/
theorem display_record (ds rid : String) :
    (record ds rid).display = (Json.object [("id", .string rid), ("src", .string ds)]).compact := by
  have hid : jsonQuote "id" = "\"id\"" := rfl
  have hsrc : jsonQuote "src" = "\"src\"" := rfl
  simp only [display, Json.compact, Json.compactMembers, hid, hsrc, String.append_assoc]
  rfl

theorem plain_recordObject (ds rid : String) :
    Json.Plain 1 (.object [("id", .string rid), ("src", .string ds)]) := by
  refine .object (fun m hm => ?_) ?_
  · simp only [List.mem_cons, List.not_mem_nil, or_false] at hm
    rcases hm with rfl | rfl <;> exact .string _
  · have hlt : ("id" : String) < "src" := by decide
    exact List.pairwise_pair.2 hlt

/-- The object of a record's two members names the record, when its data source is written
trimmed and in upper case. -/
theorem ofMembers_record {ds rid : String} (hds : ds ≠ "") (htrim : ds.trimBlank = ds) (hupper : ds.upper = ds)
    (hrid : rid ≠ "") : ofMembers [("id", .string rid), ("src", .string ds)] = .ok (record ds rid) := by
  have hsrc : firstMember? [("id", .string rid), ("src", .string ds)] ["src", "dataSource"] = some ds := by
    simp +decide [firstMember?, List.lookup_cons, memberText?]
  have hid : firstMember? [("id", .string rid), ("src", .string ds)] ["id", "recordId"] = some rid := by
    simp +decide [firstMember?, List.lookup_cons, memberText?]
  simp [ofMembers, hsrc, hid, htrim, hds, hrid, ofRecord, hupper]

/-- A record reads back from its text when its data source is written as reading leaves it. -/
theorem parse_display_record {ds rid : String} (hds : ds ≠ "") (htrim : ds.trimBlank = ds)
    (hupper : ds.upper = ds) (hrid : rid ≠ "") : parse (record ds rid).display = .ok (record ds rid) := by
  have hjson : Json.parse (record ds rid).display = .ok (.object [("id", .string rid), ("src", .string ds)]) := by
    rw [display_record]
    exact Json.parse_compact (plain_recordObject ds rid) (by decide)
  -- the text runs from an opening brace to a closing one
  have hhead : (record ds rid).display.toList.head? = some '\x7b' := by simp [display]
  have hlast : (record ds rid).display.toList.getLast? = some '\x7d' := by
    simp [display, List.getLast?_cons, List.getLast?_append]
  have htext : (record ds rid).display.trimBlank = (record ds rid).display :=
    String.trimBlank_of_ends (by simp [hhead]; decide) (by simp [hlast]; decide)
  have hne : (record ds rid).display ≠ "" := by
    intro h
    simp [h] at hhead
  have hopen : (record ds rid).display.startsWith "\x7b" = true := by
    simp [display]
  simp [parse, htext, hne, hopen, hjson, ofMembers_record hds htrim hupper hrid]

/-! ## Identifiers as reading leaves them -/

/-- An identifier as reading leaves it: an entity id of 64 bits, or a record whose data source is
non-empty, trimmed and in upper case, and whose record id is non-empty. -/
def Canonical : EntityIdentifier → Prop
  | .entity id => -(Nat.pow 2 63 : Int) ≤ id ∧ id < (Nat.pow 2 63 : Int)
  | .record ds rid => ds ≠ "" ∧ ds.trimBlank = ds ∧ ds.upper = ds ∧ rid ≠ ""

instance : DecidablePred Canonical
  | .entity _ => inferInstanceAs (Decidable (_ ∧ _))
  | .record _ _ => inferInstanceAs (Decidable (_ ∧ _ ∧ _ ∧ _))

/-- An identifier as reading leaves it reads back from its text. -/
theorem parse_display_of_canonical {i : EntityIdentifier} (h : Canonical i) : parse i.display = .ok i := by
  cases i with
  | record ds rid => exact parse_display_record h.1 h.2.1 h.2.2.1 h.2.2.2
  | entity id => exact parse_display_entity h.1 h.2

/-- A record made from a data source that is not blank and a non-empty record id is as reading
leaves it: upper-casing the trimmed data source leaves it trimmed, and a second time changes
nothing. -/
theorem canonical_ofRecord {d rid : String} (hd : d.trimBlank ≠ "") (hrid : rid ≠ "") :
    Canonical (ofRecord d rid) :=
  ⟨fun h => hd ((String.upper_eq_empty_iff _).1 h), String.trimBlank_upper_trimBlank d,
    String.upper_upper _, hrid⟩

theorem canonical_of_parseInt64? {t : String} {id : Int} (h : parseInt64? t = some id) :
    Canonical (entity id) := by
  unfold parseInt64? at h
  split at h
  split at h
  · cases h
  · dsimp only at h
    obtain ⟨hfit, hv⟩ := Option.ite_none_right_eq_some.1 h
    rw [← Option.some.inj hv]
    exact hfit

theorem canonical_of_ofMembers {ms : List (String × Json)} {i : EntityIdentifier}
    (h : ofMembers ms = .ok i) : Canonical i := by
  unfold ofMembers at h
  split at h
  · split at h
    · rename_i hfilled
      cases h
      exact canonical_ofRecord hfilled.1 hfilled.2
    · cases h
  · cases h

theorem canonical_of_delimited {t : String} {i : EntityIdentifier} (h : delimited t = .ok i) :
    Canonical i := by
  unfold delimited at h
  split at h
  · split at h
    · cases h
    · split at h
      · split at h
        · rename_i hfilled
          cases h
          exact canonical_ofRecord hfilled.1 (by simpa using hfilled.2)
        · cases h
      · cases h
  · cases h

/-- Every identifier read from text is as reading leaves it. -/
theorem canonical_of_parse {t : String} {i : EntityIdentifier} (h : parse t = .ok i) : Canonical i := by
  unfold parse at h
  dsimp only at h
  split at h
  · cases h
  · split at h
    · split at h
      · cases h
      · exact canonical_of_ofMembers h
      · cases h
    · split at h
      · rename_i id hid
        cases h
        exact canonical_of_parseInt64? hid
      · exact canonical_of_delimited h

/-- Every identifier read from a JSON value is as reading leaves it. -/
theorem canonical_of_ofJson {v : Json} {i : EntityIdentifier} (h : ofJson v = .ok i) : Canonical i := by
  cases v with
  | number n =>
    simp only [ofJson] at h
    split at h
    · rename_i id hid
      cases h
      cases n with
      | nat n _ =>
        simp only [Number.toInt64?, Option.ite_none_right_eq_some, Option.some.injEq] at hid
        obtain ⟨hlt, rfl⟩ := hid
        exact ⟨by omega, by exact_mod_cast hlt⟩
      | neg n ge lt =>
        cases hid
        exact ⟨ge, by omega⟩
      | float x => cases hid
    · cases h
  | string s => exact canonical_of_parse h
  | object ms => exact canonical_of_ofMembers h
  | null | bool _ | array _ => simp [ofJson] at h

/-- An identifier read from text, or from a JSON value, reads back from its own text. -/
theorem parse_display_of_read {i : EntityIdentifier}
    (h : (∃ t, parse t = .ok i) ∨ ∃ v : Json, ofJson v = .ok i) : parse i.display = .ok i := by
  apply parse_display_of_canonical
  rcases h with ⟨t, ht⟩ | ⟨v, hj⟩
  · exact canonical_of_parse ht
  · exact canonical_of_ofJson hj

/-- The identifiers that read back from their text are exactly those as reading leaves them. -/
theorem parse_display_eq_ok_iff (i : EntityIdentifier) : parse i.display = .ok i ↔ Canonical i :=
  ⟨canonical_of_parse, parse_display_of_canonical⟩

theorem delimitedRecord_reads_back :
    parse " |customers|10 01" = .ok (record "CUSTOMERS" "10 01") ∧
      parse (record "CUSTOMERS" "10 01").display = .ok (record "CUSTOMERS" "10 01") := by
  have hread : parse " |customers|10 01" = .ok (record "CUSTOMERS" "10 01") := by decide +kernel
  refine ⟨hread, ?_⟩
  exact @parse_display_of_read (record "CUSTOMERS" "10 01") (.inl ⟨" |customers|10 01", hread⟩)

end EntityIdentifier

end EntityGateway
