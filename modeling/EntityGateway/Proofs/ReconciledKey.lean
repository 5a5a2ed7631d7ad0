import Mathlib.Data.List.TakeDrop
import Mathlib.Data.List.TakeWhile
import EntityGateway.Why.Key

/-!
# Reconciled why-keys, read back

`WhyKey.reconcile` brings a why-key in line with the scores and disclosed relationships reported
beside it and renders it as text; whoever reads the answer reads that text with `WhyKey.parse`.
The text has no escapes: a name is a run of characters other than signs, `(` and blanks, and a
role list is split at its first colon and at commas, each role trimmed. So a key reads back as
itself exactly when its names and roles have that shape:

* `parse_render`: a key of well-formed tokens (`WhyToken.WellFormed`) reads back as itself;
* `wellFormed_parse`: every token read from a text is well formed, so a key reads back as itself
  exactly when its tokens are well formed (`parse_render_iff`), and a key read from any text
  reads back as itself once rendered (`parse_render_parse`);
* `reconcile_agrees`: after reconciling, every feature type with a `SAME` score and every disclosed
  domain agrees, and a directional relationship's roles are listed on the first token of its
  domain, when these types, domains and roles are names and roles a key can hold;
* `reconcile_loses_unwritable_names`: a feature type that is empty or holds a sign, and a role
  that holds a comma, do not come back.
-/

/-! ## Trimmed texts -/

namespace String

theorem toList_trimBlank (s : String) :
    s.trimBlank.toList = ((s.toList.dropWhile Char.isBlank).reverse.dropWhile Char.isBlank).reverse := by
  simp [trimBlank]

/-- The first character left by dropping a run is not of the run. -/
theorem isBlank_of_mem_head?_dropWhile {l : List Char} {c : Char}
    (h : c ∈ (l.dropWhile Char.isBlank).head?) : c.isBlank = false := by
  have hne : l.dropWhile Char.isBlank ≠ [] := by
    intro hnil
    simp [hnil] at h
  have hc : (l.dropWhile Char.isBlank).head hne = c := by
    simpa [List.head?_eq_some_head hne] using h
  rw [← hc]
  exact List.head_dropWhile_not Char.isBlank hne

theorem dropWhile_of_head? {l : List Char} (h : ∀ c ∈ l.head?, c.isBlank = false) :
    l.dropWhile Char.isBlank = l := by
  cases l with
  | nil => rfl
  | cons c l => simp [h c (by simp)]

/-- A text that neither starts nor ends with a blank is its own trimming. -/
theorem trimBlank_of_ends {s : String} (hhead : ∀ c ∈ s.toList.head?, c.isBlank = false)
    (hlast : ∀ c ∈ s.toList.getLast?, c.isBlank = false) : s.trimBlank = s := by
  rw [String.ext_iff, toList_trimBlank, dropWhile_of_head? hhead,
    dropWhile_of_head? (by simpa [List.head?_reverse] using hlast), List.reverse_reverse]

/-- The trimmed text is a prefix of the text less its leading blanks. -/
theorem trimBlank_isPrefix_dropWhile (s : String) :
    s.trimBlank.toList <+: s.toList.dropWhile Char.isBlank := by
  rw [toList_trimBlank]
  exact List.reverse_prefix.2 (List.dropWhile_suffix _) |>.trans (by simp)

theorem subset_of_mem_trimBlank {s : String} {c : Char} (h : c ∈ s.trimBlank.toList) : c ∈ s.toList :=
  (List.dropWhile_suffix _).subset ((trimBlank_isPrefix_dropWhile s).subset h)

/-- A trimmed text does not start with a blank: it starts where the text less its leading blanks
starts. -/
theorem isBlank_head?_trimBlank (s : String) : ∀ c ∈ s.trimBlank.toList.head?, c.isBlank = false := by
  intro c hc
  cases hnil : s.trimBlank.toList with
  | nil => simp [hnil] at hc
  | cons d ds =>
    have hd : (s.toList.dropWhile Char.isBlank).head? = some d := by
      obtain ⟨u, hu⟩ := trimBlank_isPrefix_dropWhile s
      rw [← hu, hnil]
      rfl
    rw [hnil] at hc
    simp only [List.head?_cons, Option.mem_def, Option.some.injEq] at hc
    subst hc
    exact isBlank_of_mem_head?_dropWhile (l := s.toList) (by simp [hd])

/-- Nor does it end with one: it ends where the reversed text less its trailing blanks starts. -/
theorem isBlank_getLast?_trimBlank (s : String) :
    ∀ c ∈ s.trimBlank.toList.getLast?, c.isBlank = false := by
  intro c hc
  rw [toList_trimBlank, List.getLast?_reverse] at hc
  exact isBlank_of_mem_head?_dropWhile hc

theorem trimBlank_trimBlank (s : String) : s.trimBlank.trimBlank = s.trimBlank :=
  trimBlank_of_ends (isBlank_head?_trimBlank s) (isBlank_getLast?_trimBlank s)

end String

namespace EntityGateway

namespace WhyKey

/-! ## Names and roles a key can hold -/

/-- A character a name can hold: a sign starts a token, an opening parenthesis a role list, and
blanks are skipped. -/
def NameChar (c : Char) : Prop := c ≠ '+' ∧ c ≠ '-' ∧ c ≠ '(' ∧ c.isBlank = false

/-- A name a key can hold. -/
def IsName (n : String) : Prop := n ≠ "" ∧ ∀ c ∈ n.toList, NameChar c

/-- A role a role list can hold, on the first side (`first`) or the second: not empty, without a
blank at either end, without a comma or a closing parenthesis, and on the first side without a
colon. -/
def IsRole (first : Bool) (r : String) : Prop :=
  r ≠ "" ∧ r.trimBlank = r ∧ ∀ c ∈ r.toList, c ≠ ',' ∧ c ≠ ')' ∧ (first = true → c ≠ ':')

/-- Role lists a key can hold. -/
def AreRoles (r : List String × List String) : Prop :=
  (∀ x ∈ r.1, IsRole true x) ∧ ∀ x ∈ r.2, IsRole false x

instance : DecidablePred NameChar := fun _ => inferInstanceAs (Decidable (_ ∧ _))

-- The checks run over the characters of the text, never over all characters.
instance : DecidablePred IsName := fun n =>
  @instDecidableAnd _ _ _ (List.decidableBAll NameChar n.toList)

instance (first : Bool) : DecidablePred (IsRole first) := fun r =>
  @instDecidableAnd _ _ _ (@instDecidableAnd _ _ _ (List.decidableBAll _ r.toList))

instance : DecidablePred AreRoles := fun r =>
  @instDecidableAnd _ _ (List.decidableBAll _ r.1) (List.decidableBAll _ r.2)

end WhyKey

namespace WhyToken

/-- A token that reads back as itself. -/
structure WellFormed (t : WhyToken) : Prop where
  sign : t.sign = '+' ∨ t.sign = '-'
  name : WhyKey.IsName t.name
  roles : ∀ r ∈ t.roles, WhyKey.AreRoles r

end WhyToken

namespace WhyKey

/-! ## Split role lists -/

/-- The pieces of a list split at a separator hold no separator and nothing from elsewhere. -/
theorem mem_splitOn {x : Char} : ∀ {l piece : List Char}, piece ∈ l.splitOn x → x ∉ piece ∧ piece ⊆ l
  | [], piece, h => by simp_all
  | c :: l, piece, h => by
    rw [List.splitOn_cons_eq_if_modifyHead] at h
    split at h
    · rename_i hc
      simp only [List.mem_cons] at h
      rcases h with rfl | h
      · simp
      · obtain ⟨hx, hsub⟩ := mem_splitOn h
        exact ⟨hx, List.Subset.trans hsub (List.subset_cons_self _ _)⟩
    · rename_i hc
      -- the first piece gets `c`, which is no separator
      cases hs : l.splitOn x with
      | nil => simp [hs] at h
      | cons first rest =>
        rw [hs] at h
        simp only [List.modifyHead_cons, List.mem_cons] at h
        have hfirst : x ∉ first ∧ first ⊆ l := mem_splitOn (by rw [hs]; exact List.mem_cons_self)
        rcases h with rfl | h
        · refine ⟨?_, ?_⟩
          · simp only [List.mem_cons, not_or]
            exact ⟨fun hcx => hc (by simp [hcx]), hfirst.1⟩
          · exact List.cons_subset_cons c hfirst.2
        · obtain ⟨hx, hsub⟩ : x ∉ piece ∧ piece ⊆ l := mem_splitOn (by rw [hs]; exact List.mem_cons_of_mem _ h)
          exact ⟨hx, List.Subset.trans hsub (List.subset_cons_self _ _)⟩

/-- A role split off a role list is a trimmed, non-blank run without commas. -/
theorem mem_splitRoles {part r : String} (h : r ∈ splitRoles part) :
    r ≠ "" ∧ r.trimBlank = r ∧ ',' ∉ r.toList ∧ ∀ c ∈ r.toList, c ∈ part.toList := by
  simp only [splitRoles, List.map_map, List.mem_filter, List.mem_map, Function.comp_apply,
    decide_eq_true_eq] at h
  obtain ⟨⟨piece, hpiece, rfl⟩, hne⟩ := h
  obtain ⟨hcomma, hsub⟩ := mem_splitOn hpiece
  refine ⟨hne, String.trimBlank_trimBlank _, fun hc => ?_, fun c hc => ?_⟩
  · exact hcomma (by simpa using String.subset_of_mem_trimBlank hc)
  · exact hsub (by simpa using String.subset_of_mem_trimBlank hc)

/-- A character of roles joined by commas is a comma or a character of one of them. -/
theorem mem_intercalate_comma {c : Char} :
    ∀ {rs : List String}, c ∈ (",".intercalate rs).toList → c = ',' ∨ ∃ r ∈ rs, c ∈ r.toList
  | [], h => by simp at h
  | [r], h => .inr ⟨r, by simp, by simpa using h⟩
  | r :: u :: rs, h => by
    rw [String.intercalate_cons_cons] at h
    simp only [String.toList_append, List.mem_append] at h
    rcases h with (h | h) | h
    · exact .inr ⟨r, by simp, h⟩
    · exact .inl (by simpa using h)
    · rcases mem_intercalate_comma h with h | ⟨r', hr', h⟩
      · exact .inl h
      · exact .inr ⟨r', List.mem_cons_of_mem _ hr', h⟩

/-- Splitting roles joined by commas gives them back. -/
theorem splitRoles_intercalate {rs : List String}
    (h : ∀ r ∈ rs, r ≠ "" ∧ r.trimBlank = r ∧ ',' ∉ r.toList) : splitRoles (",".intercalate rs) = rs := by
  cases rs with
  | nil => rfl
  | cons r rest =>
    have hsplit : (",".intercalate (r :: rest)).toList.splitOn ',' = (r :: rest).map String.toList := by
      rw [String.toList_intercalate]
      exact List.splitOn_intercalate ',' (by simpa using fun s hs => (h s hs).2.2) (by simp)
    have htrim : (r :: rest).map ((String.trimBlank ∘ String.ofList) ∘ String.toList) = r :: rest := by
      conv => rhs; rw [← List.map_id (r :: rest)]
      exact List.map_congr_left fun s hs => by simpa using (h s hs).2.1
    rw [splitRoles, hsplit, List.map_map, List.map_map, htrim, List.filter_eq_self]
    intro s hs
    simpa using (h s hs).1

theorem isRole_split {first : Bool} {r : String} (h : IsRole first r) :
    r ≠ "" ∧ r.trimBlank = r ∧ ',' ∉ r.toList :=
  ⟨h.1, h.2.1, fun hc => (h.2.2 ',' hc).1 rfl⟩

/-- Reading role lists written out gives them back. -/
theorem parseRoles_render {r1 r2 : List String} (h : AreRoles (r1, r2)) :
    parseRoles (",".intercalate r1 ++ ":" ++ ",".intercalate r2) = (r1, r2) := by
  -- the first side has no colon, so the text splits where the two sides were joined
  have hno : ∀ c ∈ (",".intercalate r1).toList, decide (c ≠ ':') = true := by
    intro c hc
    rcases mem_intercalate_comma hc with rfl | ⟨r, hr, hc⟩
    · decide
    · simpa using (h.1 r hr).2.2 c hc |>.2.2 rfl
  have hspan : ((",".intercalate r1 ++ ":" ++ ",".intercalate r2).toList.span (· ≠ ':')) =
      ((",".intercalate r1).toList, ':' :: (",".intercalate r2).toList) := by
    have htext : (",".intercalate r1 ++ ":" ++ ",".intercalate r2).toList =
        (",".intercalate r1).toList ++ ':' :: (",".intercalate r2).toList := by
      simp
    rw [htext, List.span_eq_takeWhile_dropWhile, List.takeWhile_append_of_pos hno,
      List.dropWhile_append_of_pos hno]
    simp
  rw [parseRoles, hspan]
  simp only [String.ofList_toList]
  rw [splitRoles_intercalate fun r hr => isRole_split (h.1 r hr),
    splitRoles_intercalate fun r hr => isRole_split (h.2 r hr)]

/-! ## Reading a written key -/

theorem isBlank_sign {c : Char} (h : c = '+' ∨ c = '-') : c.isBlank = false := by
  rcases h with rfl | rfl <;> decide

theorem step_sign {done : List WhyToken} {cur : Option WhyToken} {c : Char} (hc : c = '+' ∨ c = '-') :
    step ⟨done, cur, none⟩ c = ⟨done ++ cur.toList, some ⟨c, "", none⟩, none⟩ := by
  simp [step, hc]

theorem step_name {done : List WhyToken} {t : WhyToken} {c : Char} (hc : NameChar c) :
    step ⟨done, some t, none⟩ c = ⟨done, some { t with name := t.name.push c }, none⟩ := by
  obtain ⟨hplus, hminus, hopen, hblank⟩ := hc
  simp [step, hplus, hminus, hopen, hblank]

/-- The characters of a name are appended to the name of the token being read. -/
theorem foldl_step_name {done : List WhyToken} :
    ∀ {cs : List Char} {t : WhyToken}, (∀ c ∈ cs, NameChar c) →
      cs.foldl step ⟨done, some t, none⟩ = ⟨done, some { t with name := t.name ++ String.ofList cs }, none⟩
  | [], t, _ => by simp
  | c :: cs, t, h => by
    rw [List.foldl_cons, step_name (h c List.mem_cons_self),
      foldl_step_name fun d hd => h d (List.mem_cons_of_mem _ hd)]
    simp [String.ext_iff]

theorem step_open {done : List WhyToken} {cur : Option WhyToken} :
    step ⟨done, cur, none⟩ '(' = ⟨done, cur, some ""⟩ := by
  simp [step]

/-- Inside a role list every character but the closing parenthesis is kept as text. -/
theorem foldl_step_roleText {done : List WhyToken} {cur : Option WhyToken} :
    ∀ {cs : List Char} {text : String}, ')' ∉ cs →
      cs.foldl step ⟨done, cur, some text⟩ = ⟨done, cur, some (text ++ String.ofList cs)⟩
  | [], text, _ => by simp
  | c :: cs, text, h => by
    have hc : c ≠ ')' := fun hc => h (hc ▸ List.mem_cons_self)
    have hstep : step ⟨done, cur, some text⟩ c = ⟨done, cur, some (text.push c)⟩ := by
      simp [step, hc]
    rw [List.foldl_cons, hstep, foldl_step_roleText fun hm => h (List.mem_cons_of_mem _ hm)]
    simp [String.ext_iff]

theorem step_close {done : List WhyToken} {cur : Option WhyToken} {text : String} :
    step ⟨done, cur, some text⟩ ')' =
      ⟨done, cur.map fun t => { t with roles := some (parseRoles text) }, none⟩ := by
  simp [step]

/-- Role lists written out hold no closing parenthesis. -/
theorem not_mem_render_roles {r1 r2 : List String} (h : AreRoles (r1, r2)) :
    ')' ∉ (",".intercalate r1 ++ ":" ++ ",".intercalate r2).toList := by
  have hside : ∀ {first : Bool} {rs : List String}, (∀ r ∈ rs, IsRole first r) →
      ')' ∉ (",".intercalate rs).toList := by
    intro first rs hrs hc
    rcases mem_intercalate_comma hc with hc | ⟨r, hr, hc⟩
    · exact absurd hc (by decide)
    · exact ((hrs r hr).2.2 ')' hc).2.1 rfl
  simp only [String.toList_append, List.mem_append, not_or]
  exact ⟨⟨hside h.1, by decide⟩, hside h.2⟩

theorem toList_render_none {t : WhyToken} (h : t.roles = none) :
    t.render.toList = t.sign :: t.name.toList := by
  simp [WhyToken.render, h]

theorem toList_render_some {t : WhyToken} {r1 r2 : List String} (h : t.roles = some (r1, r2)) :
    t.render.toList =
      t.sign :: (t.name.toList ++ '(' :: ((",".intercalate r1 ++ ":" ++ ",".intercalate r2).toList ++ [')'])) := by
  simp [WhyToken.render, h]

/-- Reading a written token finishes the token before it and holds this one. -/
theorem foldl_step_render {t : WhyToken} (ht : t.WellFormed) (done : List WhyToken)
    (cur : Option WhyToken) :
    t.render.toList.foldl step ⟨done, cur, none⟩ = ⟨done ++ cur.toList, some t, none⟩ := by
  obtain ⟨sign, name, roles⟩ := t
  cases roles with
  | none =>
    rw [toList_render_none rfl, List.foldl_cons, step_sign ht.sign, foldl_step_name ht.name.2]
    simp
  | some r =>
    obtain ⟨r1, r2⟩ := r
    have hr : AreRoles (r1, r2) := ht.roles _ rfl
    rw [toList_render_some rfl, List.foldl_cons, step_sign ht.sign, List.foldl_append,
      foldl_step_name ht.name.2, List.foldl_cons, step_open, List.foldl_append,
      foldl_step_roleText (not_mem_render_roles hr), List.foldl_cons, List.foldl_nil, step_close]
    simp only [String.ofList_toList, String.empty_append, parseRoles_render hr, Option.map_some]

/-- Reading written tokens after a finished state adds them to the tokens read. -/
theorem foldl_step_render_tokens :
    ∀ {ts : List WhyToken}, (∀ t ∈ ts, t.WellFormed) → ∀ (done : List WhyToken) (cur : Option WhyToken),
      ∃ done' cur', (ts.flatMap (·.render.toList)).foldl step ⟨done, cur, none⟩ = ⟨done', cur', none⟩ ∧
        done' ++ cur'.toList = done ++ cur.toList ++ ts
  | [], _, done, cur => ⟨done, cur, by simp⟩
  | t :: ts, h, done, cur => by
    obtain ⟨done', cur', hfold, htokens⟩ :=
      foldl_step_render_tokens (fun t' ht' => h t' (List.mem_cons_of_mem _ ht')) (done ++ cur.toList) (some t)
    refine ⟨done', cur', ?_, ?_⟩
    · rw [List.flatMap_cons, List.foldl_append, foldl_step_render (h t List.mem_cons_self), hfold]
    · simp [htokens]

/-- A written token ends with a closing parenthesis or a character of its name. -/
theorem isBlank_getLast?_render {t : WhyToken} (ht : t.WellFormed) :
    ∀ c ∈ t.render.toList.getLast?, c.isBlank = false := by
  intro c hc
  cases hroles : t.roles with
  | none =>
    rw [toList_render_none hroles] at hc
    rcases List.mem_cons.1 (List.mem_of_getLast? hc) with rfl | hc
    · exact isBlank_sign ht.sign
    · exact (ht.name.2 c hc).2.2.2
  | some r =>
    have hlast : t.render.toList.getLast? = some ')' := by
      rw [toList_render_some hroles, List.getLast?_eq_some_iff]
      exact ⟨t.sign :: (t.name.toList ++ '(' :: (",".intercalate r.1 ++ ":" ++ ",".intercalate r.2).toList),
        by simp⟩
    obtain rfl : c = ')' := by simpa [hlast] using hc.symm
    decide

theorem isBlank_getLast?_flatMap_render :
    ∀ {ts : List WhyToken}, (∀ t ∈ ts, t.WellFormed) →
      ∀ c ∈ (ts.flatMap (·.render.toList)).getLast?, c.isBlank = false
  | [], _ => by simp
  | t :: ts, h => by
    intro c hc
    rw [List.flatMap_cons, List.getLast?_append] at hc
    cases hlast : (ts.flatMap (·.render.toList)).getLast? with
    | none =>
      rw [hlast] at hc
      exact isBlank_getLast?_render (h t List.mem_cons_self) c (by simpa using hc)
    | some d =>
      rw [hlast] at hc
      obtain rfl : d = c := by simpa using hc
      exact isBlank_getLast?_flatMap_render (fun t' ht' => h t' (List.mem_cons_of_mem _ ht')) d hlast

theorem toList_render (k : WhyKey) : k.render.toList = k.tokens.flatMap (·.render.toList) := by
  simp [render, String.toList_join, List.flatMap_map]

/-- A written key starts with a sign and ends without a blank, so trimming keeps it. -/
theorem trimBlank_render {k : WhyKey} (hk : ∀ t ∈ k.tokens, t.WellFormed) :
    k.render.trimBlank = k.render := by
  apply String.trimBlank_of_ends
  · intro c hc
    rw [toList_render] at hc
    cases htokens : k.tokens with
    | nil => simp [htokens] at hc
    | cons t ts =>
      have ht := hk t (by simp [htokens])
      rw [htokens, List.flatMap_cons, List.head?_append] at hc
      cases hroles : t.roles with
      | none =>
        rw [toList_render_none hroles] at hc
        obtain rfl : t.sign = c := by simpa using hc
        exact isBlank_sign ht.sign
      | some r =>
        rw [toList_render_some hroles] at hc
        obtain rfl : t.sign = c := by simpa using hc
        exact isBlank_sign ht.sign
  · rw [toList_render]
    exact isBlank_getLast?_flatMap_render hk

/-- A key of well-formed tokens reads back as itself. -/
theorem parse_render {k : WhyKey} (hk : ∀ t ∈ k.tokens, t.WellFormed) : parse k.render = k := by
  obtain ⟨done', cur', hfold, htokens⟩ := foldl_step_render_tokens hk [] none
  rw [parse, trimBlank_render hk, toList_render]
  simp only [hfold, htokens, List.nil_append, Option.toList_none, List.append_nil]
  rw [List.filter_eq_self.2 fun t ht => by simpa using (hk t ht).name.1]

/-! ## Every key read is well formed -/

/-- A role split off a text without closing parentheses is one a role list can hold, on the first
side when the text has no colon either. -/
theorem isRole_of_mem_splitRoles {first : Bool} {part r : String} (h : r ∈ splitRoles part)
    (hpart : ∀ c ∈ part.toList, c ≠ ')' ∧ (first = true → c ≠ ':')) : IsRole first r := by
  obtain ⟨hne, htrim, hcomma, hsub⟩ := mem_splitRoles h
  refine ⟨hne, htrim, fun c hc => ⟨?_, hpart c (hsub c hc)⟩⟩
  rintro rfl
  exact hcomma hc

/-- The role lists read from a text without closing parentheses are role lists a key can hold. -/
theorem areRoles_parseRoles {text : String} (h : ')' ∉ text.toList) : AreRoles (parseRoles text) := by
  have hclose : ∀ c ∈ text.toList, c ≠ ')' := fun c hc hc' => h (hc' ▸ hc)
  rw [parseRoles, List.span_eq_takeWhile_dropWhile]
  split
  · rename_i before c after hspan
    simp only [Prod.mk.injEq] at hspan
    obtain ⟨hbefore, hafter⟩ := hspan
    -- the first side stops at the first colon; the second is the rest after it
    have hsub : ∀ d ∈ after, d ∈ text.toList := fun d hd =>
      (List.dropWhile_suffix _).subset (hafter ▸ List.mem_cons_of_mem _ hd)
    refine ⟨fun r hr => isRole_of_mem_splitRoles hr fun d hd => ?_,
      fun r hr => isRole_of_mem_splitRoles hr fun d hd => ⟨hclose d (hsub d (by simpa using hd)), nofun⟩⟩
    rw [String.toList_ofList, ← hbefore] at hd
    exact ⟨hclose d ((List.takeWhile_prefix _).subset hd), fun _ => by simpa using List.mem_takeWhile_imp hd⟩
  · rename_i before hspan
    simp only [Prod.mk.injEq, List.dropWhile_eq_nil_iff] at hspan
    refine ⟨fun r hr => isRole_of_mem_splitRoles hr fun d hd => ⟨hclose d hd, fun _ => ?_⟩, by simp⟩
    simpa using hspan.2 d hd

/-- A token being read: a sign, characters a name can hold, and role lists a key can hold. -/
def Readable (t : WhyToken) : Prop :=
  (t.sign = '+' ∨ t.sign = '-') ∧ (∀ c ∈ t.name.toList, NameChar c) ∧ ∀ r ∈ t.roles, AreRoles r

/-- What reading keeps: every token read is readable, and an open role list has no closing
parenthesis. -/
structure Reading.Sound (s : Reading) : Prop where
  tokens : ∀ t ∈ s.done ++ s.current.toList, Readable t
  roles : ∀ text ∈ s.roles, ')' ∉ text.toList

/-- A name character appended to a readable token's name leaves it readable. -/
theorem readable_push {t : WhyToken} (ht : Readable t) {c : Char} (hc : NameChar c) :
    Readable { t with name := t.name.push c } := by
  obtain ⟨hs, hn, hr⟩ := ht
  refine ⟨hs, fun d hd => ?_, hr⟩
  simp only [String.toList_push, List.mem_append, List.mem_singleton] at hd
  rcases hd with hd | rfl
  · exact hn d hd
  · exact hc

/-- Reading one character keeps the reading sound. -/
theorem sound_step {s : Reading} (hs : s.Sound) (c : Char) : (step s c).Sound := by
  obtain ⟨done, cur, roles⟩ := s
  obtain ⟨htokens, hroles⟩ := hs
  simp only [List.mem_append, Option.mem_toList] at htokens
  cases roles with
  | some text =>
    have htext : ')' ∉ text.toList := hroles text rfl
    by_cases hc : c = ')'
    · -- the role list closes and is read into the token being read
      subst hc
      rw [step_close]
      refine ⟨?_, nofun⟩
      simp only [List.mem_append, Option.mem_toList, Option.map_eq_some_iff]
      rintro t (ht | ⟨t', ht', rfl⟩)
      · exact htokens t (.inl ht)
      · obtain ⟨hsign, hname, -⟩ := htokens t' (.inr ht')
        exact ⟨hsign, hname, fun r hr => by cases hr; exact areRoles_parseRoles htext⟩
    · have hstep : WhyKey.step ⟨done, cur, some text⟩ c = ⟨done, cur, some (text.push c)⟩ := by
        simp [WhyKey.step, hc]
      rw [hstep]
      refine ⟨by simpa using htokens, ?_⟩
      rintro _ ⟨⟩
      simp [htext, Ne.symm hc]
  | none =>
    by_cases hsign : c = '+' ∨ c = '-'
    · rw [step_sign hsign]
      refine ⟨?_, nofun⟩
      simp only [List.append_assoc, List.mem_append, Option.mem_toList, Option.toList_some,
        List.mem_singleton]
      rintro t (ht | ht | rfl)
      · exact htokens t (.inl ht)
      · exact htokens t (.inr ht)
      · exact ⟨hsign, by simp, nofun⟩
    by_cases hopen : c = '('
    · subst hopen
      rw [step_open]
      exact ⟨by simpa using htokens, by simp⟩
    by_cases hblank : c.isBlank = true
    · have hstep : WhyKey.step ⟨done, cur, none⟩ c = ⟨done, cur, none⟩ := by
        simp [WhyKey.step, hsign, hopen, hblank]
      rw [hstep]
      exact ⟨by simpa using htokens, nofun⟩
    -- any other character extends the name of the token being read, or of a fresh `+` token
    have hname : NameChar c := by
      simp only [not_or] at hsign
      exact ⟨hsign.1, hsign.2, hopen, by simpa using hblank⟩
    have hcur : Readable (cur.getD ⟨'+', "", none⟩) := by
      cases cur with
      | none => exact ⟨.inl rfl, by simp, nofun⟩
      | some t => exact htokens t (.inr rfl)
    have hstep : WhyKey.step ⟨done, cur, none⟩ c =
        ⟨done, some { cur.getD ⟨'+', "", none⟩ with name := (cur.getD ⟨'+', "", none⟩).name.push c }, none⟩ := by
      simp [WhyKey.step, hsign, hopen, hblank]
    rw [hstep]
    refine ⟨?_, nofun⟩
    simp only [List.mem_append, Option.mem_toList, Option.some.injEq]
    rintro t (ht | rfl)
    · exact htokens t (.inl ht)
    · exact readable_push hcur hname

theorem sound_foldl {s : Reading} (hs : s.Sound) (cs : List Char) : (cs.foldl step s).Sound := by
  induction cs generalizing s with
  | nil => exact hs
  | cons c cs ih => exact ih (sound_step hs c)

/-- Every token read from a text is well formed. -/
theorem wellFormed_parse (text : String) : ∀ t ∈ (parse text).tokens, t.WellFormed := by
  have hsound : (text.trimBlank.toList.foldl step ⟨[], none, none⟩).Sound :=
    sound_foldl ⟨by simp, by simp⟩ _
  intro t ht
  simp only [parse, List.mem_filter, decide_eq_true_eq] at ht
  obtain ⟨hsign, hchars, hroles⟩ := hsound.tokens t ht.1
  exact ⟨hsign, ⟨ht.2, hchars⟩, hroles⟩

/-- A key reads back as itself exactly when its tokens are well formed. -/
theorem parse_render_iff {k : WhyKey} : parse k.render = k ↔ ∀ t ∈ k.tokens, t.WellFormed := by
  constructor
  · intro h
    rw [← h]
    exact wellFormed_parse _
  · exact parse_render

/-- **Rendering a key read from text is faithful.** Whatever text a key is read from, rendering
it and reading the rendering gives the same tokens: the same signs, names and role lists. -/
theorem parse_render_parse (text : String) : parse (parse text).render = parse text :=
  parse_render (wellFormed_parse text)

/-! ## Folds that make a property -/

/-- A property that every step of a fold keeps, and that a step on an element `Q` makes, holds at
the end of a fold over a list with such an element. -/
theorem foldl_of_step {α β : Type} {g : β → α → β} {P : β → Prop} (Q : α → Prop) :
    ∀ {xs : List α} {b : β}, (∀ b, ∀ a ∈ xs, P b → P (g b a)) → (∀ b, ∀ a ∈ xs, Q a → P (g b a)) →
      (∃ a ∈ xs, Q a) → P (xs.foldl g b)
  | [], _, _, _, h => by simp at h
  | a :: xs, b, hkeep, hmake, ⟨a', ha', hq⟩ => by
    have hkeep' : ∀ b, ∀ a ∈ xs, P b → P (g b a) := fun b a ha => hkeep b a (List.mem_cons_of_mem _ ha)
    rw [List.foldl_cons]
    rcases List.mem_cons.1 ha' with rfl | ha'
    · exact List.foldlRecOn (motive := P) _ _ (hmake b a' List.mem_cons_self hq)
        fun b hb a ha => hkeep' b a ha hb
    · exact foldl_of_step Q hkeep' (fun b a ha => hmake b a (List.mem_cons_of_mem _ ha)) ⟨a', ha', hq⟩

/-! ## Updating the first token of a name -/

/-- The first token of `n` in `k` has the property `P`. -/
def FirstHas (k : WhyKey) (n : String) (P : WhyToken → Prop) : Prop :=
  ∃ t, k.tokens.find? (·.name = n) = some t ∧ P t

section UpdateFirst

variable (name : String) (fresh : WhyToken) (f : WhyToken → WhyToken)

/-- A property of every token that the fresh token has and the change keeps holds after an update. -/
theorem forall_updateFirst {P : WhyToken → Prop} (hfresh : P fresh) (hf : ∀ t, P t → P (f t)) :
    ∀ {ts : List WhyToken}, (∀ t ∈ ts, P t) → ∀ t ∈ updateFirst name fresh f ts, P t
  | [], _ => by simpa [updateFirst] using hf fresh hfresh
  | t :: ts, h => by
    simp only [List.mem_cons, forall_eq_or_imp] at h
    simp only [updateFirst]
    split
    · simpa [hf t h.1] using h.2
    · simpa [h.1] using forall_updateFirst hfresh hf h.2

variable {name fresh f}

/-- After an update of `name`, the first token of `name` is the change of the first one before, or
of the fresh token; the first token of another name is the one before. -/
theorem find?_updateFirst (hf : ∀ t, (f t).name = t.name) (hfresh : fresh.name = name) (n : String) :
    ∀ ts : List WhyToken, (updateFirst name fresh f ts).find? (·.name = n) =
      if name = n then some (f ((ts.find? (·.name = name)).getD fresh)) else ts.find? (·.name = n)
  | [] => by by_cases h : name = n <;> simp [updateFirst, hf, hfresh, h]
  | t :: ts => by
    have ih := find?_updateFirst hf hfresh n ts
    by_cases ht : t.name = name
    · by_cases h : name = n <;> simp [updateFirst, ht, hf, h]
    · rw [updateFirst, if_neg ht, List.find?_cons, List.find?_cons, ih]
      by_cases htn : t.name = n
      · have h : name ≠ n := fun h => ht (htn.trans h.symm)
        simp [htn, h]
      · simp [htn, ht]

/-- An update makes its name's first token have what every change has. -/
theorem firstHas_updateFirst_self (hf : ∀ t, (f t).name = t.name) (hfresh : fresh.name = name)
    {P : WhyToken → Prop} (hmake : ∀ t, P (f t)) (ts : List WhyToken) :
    FirstHas ⟨updateFirst name fresh f ts⟩ name P :=
  ⟨f ((ts.find? (·.name = name)).getD fresh), by simp [find?_updateFirst hf hfresh], hmake _⟩

/-- An update keeps what the first token of a name has, when the change keeps it. -/
theorem firstHas_updateFirst (hf : ∀ t, (f t).name = t.name) (hfresh : fresh.name = name)
    {P : WhyToken → Prop} (hkeep : ∀ t, P t → P (f t)) {ts : List WhyToken} {n : String}
    (h : FirstHas ⟨ts⟩ n P) : FirstHas ⟨updateFirst name fresh f ts⟩ n P := by
  obtain ⟨t, hfind, ht⟩ := h
  by_cases hn : name = n
  · subst hn
    exact ⟨f t, by simp [find?_updateFirst hf hfresh, hfind], hkeep t ht⟩
  · exact ⟨t, by simp [find?_updateFirst hf hfresh, hn, hfind], ht⟩

end UpdateFirst

theorem contains_of_firstHas {k : WhyKey} {n : String} (h : FirstHas k n (·.sign = '+')) :
    k.contains '+' n = true := by
  obtain ⟨t, hfind, hsign⟩ := h
  have hname : t.name = n := by simpa using List.find?_some hfind
  simp only [contains, List.any_eq_true, decide_eq_true_eq]
  exact ⟨t, List.mem_of_find?_eq_some hfind, hsign, hname⟩

/-- The token lists roles, among them `r1` on the first side and `r2` on the second. -/
def ListsRoles (r1 r2 : List String) (t : WhyToken) : Prop :=
  ∃ a b, t.roles = some (a, b) ∧ r1 ⊆ a ∧ r2 ⊆ b

theorem roles_of_firstHas {k : WhyKey} {n : String} {r1 r2 : List String}
    (h : FirstHas k n (ListsRoles r1 r2)) : ∃ a b, k.roles n = some (a, b) ∧ r1 ⊆ a ∧ r2 ⊆ b := by
  obtain ⟨t, hfind, a, b, hroles, h1, h2⟩ := h
  exact ⟨a, b, by simp [roles, hfind, hroles], h1, h2⟩

/-! ## The steps of reconciling -/

theorem mem_addRoles {r : String} : ∀ {a x : List String}, r ∈ addRoles a x ↔ r ∈ a ∨ r ∈ x
  | a, [] => by simp [addRoles]
  | a, y :: x => by
    have hstep : addRoles a (y :: x) = addRoles (if a.contains y then a else a ++ [y]) x := rfl
    rw [hstep, mem_addRoles]
    by_cases hy : y ∈ a
    · by_cases hr : r = y
      · subst hr
        simp [hy]
      · simp [hy, hr]
    · simp [hy, or_assoc]

theorem areRoles_addRoles {a b x y : List String} (h : AreRoles (a, b)) (hv : AreRoles (x, y)) :
    AreRoles (addRoles a x, addRoles b y) := by
  refine ⟨fun r hr => ?_, fun r hr => ?_⟩
  · rcases mem_addRoles.1 hr with hr | hr
    · exact h.1 r hr
    · exact hv.1 r hr
  · rcases mem_addRoles.1 hr with hr | hr
    · exact h.2 r hr
    · exact hv.2 r hr

@[simp] theorem name_completeRoles (v : RelationshipView) (t : WhyToken) :
    (completeRoles v t).name = t.name := rfl

@[simp] theorem sign_completeRoles (v : RelationshipView) (t : WhyToken) :
    (completeRoles v t).sign = '+' := rfl

theorem roles_completeRoles_of_some {v : RelationshipView} {t : WhyToken} {a b : List String}
    (h : t.roles = some (a, b)) :
    (completeRoles v t).roles = some (addRoles a v.roles1, addRoles b v.roles2) := by
  simp [completeRoles, h]

/-- Completing keeps the roles a token lists. -/
theorem listsRoles_completeRoles {v : RelationshipView} {t : WhyToken} {r1 r2 : List String}
    (h : ListsRoles r1 r2 t) : ListsRoles r1 r2 (completeRoles v t) := by
  obtain ⟨a, b, hroles, h1, h2⟩ := h
  exact ⟨_, _, roles_completeRoles_of_some hroles, fun r hr => mem_addRoles.2 (.inl (h1 hr)),
    fun r hr => mem_addRoles.2 (.inl (h2 hr))⟩

/-- Completing for a relationship with a direction and roles lists its roles. -/
theorem listsRoles_completeRoles_self {v : RelationshipView} (hdir : v.direction.isDirectional = true)
    (hroles : v.roles1 ≠ [] ∨ v.roles2 ≠ []) (t : WhyToken) :
    ListsRoles v.roles1 v.roles2 (completeRoles v t) := by
  have hsome : ∃ a b, t.roles = some (a, b) ∨ (t.roles = none ∧ a = [] ∧ b = []) := by
    cases h : t.roles with
    | none => exact ⟨[], [], .inr ⟨rfl, rfl, rfl⟩⟩
    | some r => exact ⟨r.1, r.2, .inl rfl⟩
  obtain ⟨a, b, hab⟩ := hsome
  have hcomplete : (completeRoles v t).roles = some (addRoles a v.roles1, addRoles b v.roles2) := by
    rcases hab with h | ⟨h, rfl, rfl⟩
    · exact roles_completeRoles_of_some h
    · have hany : (!v.roles1.isEmpty || !v.roles2.isEmpty) = true := by
        rcases hroles with h' | h' <;> simp [h']
      simp [completeRoles, h, hdir, hany]
  exact ⟨_, _, hcomplete, fun r hr => mem_addRoles.2 (.inr hr), fun r hr => mem_addRoles.2 (.inr hr)⟩

theorem wellFormed_completeRoles {v : RelationshipView} (hv : AreRoles (v.roles1, v.roles2))
    {t : WhyToken} (ht : t.WellFormed) : (completeRoles v t).WellFormed := by
  refine ⟨.inl rfl, ht.name, fun r hr => ?_⟩
  cases h : t.roles with
  | none =>
    -- a token without roles gets the relationship's roles alone, or none
    have hempty : AreRoles ([], []) := ⟨nofun, nofun⟩
    simp only [completeRoles, h] at hr
    split at hr
    · simp only [Option.map_some, Option.mem_def, Option.some.injEq] at hr
      exact hr ▸ areRoles_addRoles hempty hv
    · simp at hr
  | some r' =>
    obtain ⟨a, b⟩ := r'
    rw [roles_completeRoles_of_some h] at hr
    cases hr
    exact areRoles_addRoles (ht.roles _ h) hv

theorem wellFormed_agreeOnSame {k : WhyKey} (hk : ∀ t ∈ k.tokens, t.WellFormed)
    {entry : String × List FeatureScoreView}
    (hname : (∃ s ∈ entry.2, s.scoringBucket = .same) → IsName entry.1) :
    ∀ t ∈ (k.agreeOnSame entry).tokens, t.WellFormed := by
  unfold agreeOnSame
  split
  · rename_i hsame
    simp only [List.any_eq_true, decide_eq_true_eq] at hsame
    exact forall_updateFirst _ _ _ ⟨.inl rfl, hname hsame, nofun⟩
      (fun t ht => ⟨.inl rfl, ht.name, ht.roles⟩) hk
  · exact hk

theorem wellFormed_ensureRelationship {k : WhyKey} (hk : ∀ t ∈ k.tokens, t.WellFormed)
    {v : RelationshipView} (hv : IsName v.domain ∧ AreRoles (v.roles1, v.roles2)) :
    ∀ t ∈ (k.ensureRelationship v).tokens, t.WellFormed :=
  forall_updateFirst _ _ _ ⟨.inl rfl, hv.1, nofun⟩ (fun _ ht => wellFormed_completeRoles hv.2 ht) hk

theorem firstHas_ensureAgreement {P : WhyToken → Prop} (hkeep : ∀ t, P t → P { t with sign := '+' })
    {k : WhyKey} {n : String} (h : FirstHas k n P) (name : String) :
    FirstHas (k.ensureAgreement name) n P := by
  unfold ensureAgreement
  exact firstHas_updateFirst (by intros; rfl) (by rfl) hkeep h

theorem firstHas_ensureAgreement_self (k : WhyKey) (name : String) :
    FirstHas (k.ensureAgreement name) name (·.sign = '+') := by
  unfold ensureAgreement
  exact firstHas_updateFirst_self (by intros; rfl) (by rfl) (by intros; rfl) _

theorem firstHas_ensureRelationship {P : WhyToken → Prop} {v : RelationshipView}
    (hkeep : ∀ t, P t → P (completeRoles v t)) {k : WhyKey} {n : String} (h : FirstHas k n P) :
    FirstHas (k.ensureRelationship v) n P := by
  unfold ensureRelationship
  exact firstHas_updateFirst (by intros; rfl) (by rfl) hkeep h

theorem firstHas_ensureRelationship_self {P : WhyToken → Prop} {v : RelationshipView}
    (hmake : ∀ t, P (completeRoles v t)) (k : WhyKey) :
    FirstHas (k.ensureRelationship v) v.domain P := by
  unfold ensureRelationship
  exact firstHas_updateFirst_self (by intros; rfl) (by rfl) hmake _

/-- Every feature type with a `SAME` score agrees after the scores are folded in. -/
theorem firstHas_foldl_agreeOnSame {scores : List (String × List FeatureScoreView)}
    {e : String × List FeatureScoreView} (he : e ∈ scores) (hsame : ∃ s ∈ e.2, s.scoringBucket = .same)
    (k : WhyKey) : FirstHas (scores.foldl agreeOnSame k) e.1 (·.sign = '+') := by
  refine foldl_of_step (P := fun k => FirstHas k e.1 (·.sign = '+'))
    (fun e' => e'.1 = e.1 ∧ ∃ s ∈ e'.2, s.scoringBucket = .same)
    (fun k' e' _ hk => ?_) (fun k' e' _ ⟨hname, hsame'⟩ => ?_) ⟨e, he, rfl, hsame⟩
  · -- agreeing on another type keeps the sign of this one
    unfold agreeOnSame
    split
    · exact firstHas_ensureAgreement (fun _ _ => rfl) hk _
    · exact hk
  · have hany : e'.2.any (·.scoringBucket = .same) = true := by simpa using hsame'
    rw [agreeOnSame, if_pos hany, ← hname]
    exact firstHas_ensureAgreement_self _ _

/-- The first token of a disclosed domain has what completing for one of its relationships makes
and completing for every relationship keeps. -/
theorem firstHas_foldl_ensureRelationship {P : WhyToken → Prop} {rels : List RelationshipView}
    {n : String} (hkeep : ∀ v ∈ rels, ∀ t, P t → P (completeRoles v t))
    (hmake : ∃ v ∈ rels, v.domain = n ∧ ∀ t, P (completeRoles v t)) (k : WhyKey) :
    FirstHas (rels.foldl ensureRelationship k) n P := by
  refine foldl_of_step (P := fun k => FirstHas k n P) (fun v => v.domain = n ∧ ∀ t, P (completeRoles v t))
    (fun _ v hv hk => firstHas_ensureRelationship (hkeep v hv) hk) (fun k' v _ ⟨hdom, hv⟩ => ?_) hmake
  rw [← hdom]
  exact firstHas_ensureRelationship_self hv k'

/-! ## Reconciled keys, read back -/

/-- After reconciling, every feature type with a `SAME` score agrees, every disclosed domain
agrees, and a directional relationship with roles has them listed on the first token of its
domain, in the key read back from the text, when these types, domains and roles are names and
roles a key can hold. -/
theorem reconcile_agrees (text : String) (scores : List (String × List FeatureScoreView))
    (rels : List RelationshipView)
    (hscores : ∀ e ∈ scores, (∃ s ∈ e.2, s.scoringBucket = .same) → IsName e.1)
    (hrels : ∀ v ∈ rels, IsName v.domain ∧ AreRoles (v.roles1, v.roles2)) :
    let K := parse (reconcile text scores rels)
    (∀ e ∈ scores, (∃ s ∈ e.2, s.scoringBucket = .same) → K.contains '+' e.1 = true) ∧
    (∀ v ∈ rels, K.contains '+' v.domain = true) ∧
    ∀ v ∈ rels, v.direction.isDirectional = true → (v.roles1 ≠ [] ∨ v.roles2 ≠ []) →
      ∃ r1 r2, K.roles v.domain = some (r1, r2) ∧ v.roles1 ⊆ r1 ∧ v.roles2 ⊆ r2 := by
  -- the key is well formed at every step, so it reads back as itself
  have hk1 : ∀ t ∈ (scores.foldl agreeOnSame (parse text)).tokens, t.WellFormed :=
    List.foldlRecOn (motive := fun (k : WhyKey) => ∀ t ∈ k.tokens, t.WellFormed) _ _
      (wellFormed_parse text) fun _ hk e he => wellFormed_agreeOnSame hk (hscores e he)
  have hk2 : ∀ t ∈ (rels.foldl ensureRelationship (scores.foldl agreeOnSame (parse text))).tokens,
      t.WellFormed :=
    List.foldlRecOn (motive := fun (k : WhyKey) => ∀ t ∈ k.tokens, t.WellFormed) _ _ hk1
      fun _ hk v hv => wellFormed_ensureRelationship hk (hrels v hv)
  have hK : parse (reconcile text scores rels) =
      rels.foldl ensureRelationship (scores.foldl agreeOnSame (parse text)) :=
    parse_render hk2
  simp only [hK]
  refine ⟨fun e he hsame => ?_, fun v hv => ?_, fun v hv hdir hroles => ?_⟩
  · -- a type agreed among the scores keeps its sign through the relationships
    exact contains_of_firstHas (List.foldlRecOn (motive := fun k => FirstHas k e.1 (·.sign = '+')) _ _
      (firstHas_foldl_agreeOnSame he hsame _) fun _ hk _ _ => firstHas_ensureRelationship (fun _ _ => rfl) hk)
  · exact contains_of_firstHas
      (firstHas_foldl_ensureRelationship (fun _ _ _ _ => rfl) ⟨v, hv, rfl, fun _ => rfl⟩ _)
  · exact roles_of_firstHas (firstHas_foldl_ensureRelationship (fun _ _ _ => listsRoles_completeRoles)
      ⟨v, hv, rfl, listsRoles_completeRoles_self hdir hroles⟩ _)

theorem reconcile_agrees_on_employer :
    ((∀ e ∈ [("NAME", [(⟨"Ann", "Ann", 100, .same, some 100, none⟩ : FeatureScoreView)])],
        (∃ s ∈ e.2, s.scoringBucket = .same) → IsName e.1) ∧
      ∀ v ∈ [(⟨"EMP", .outbound, ["EMPLOYEE"], ["EMPLOYER"], ["K"]⟩ : RelationshipView)],
        IsName v.domain ∧ AreRoles (v.roles1, v.roles2)) ∧
    let K := parse (reconcile "-NAME-EMP" [("NAME", [⟨"Ann", "Ann", 100, .same, some 100, none⟩])]
      [⟨"EMP", .outbound, ["EMPLOYEE"], ["EMPLOYER"], ["K"]⟩])
    (∀ e ∈ [("NAME", [(⟨"Ann", "Ann", 100, .same, some 100, none⟩ : FeatureScoreView)])],
        (∃ s ∈ e.2, s.scoringBucket = .same) → K.contains '+' e.1 = true) ∧
      (∀ v ∈ [(⟨"EMP", .outbound, ["EMPLOYEE"], ["EMPLOYER"], ["K"]⟩ : RelationshipView)],
        K.contains '+' v.domain = true) ∧
      ∀ v ∈ [(⟨"EMP", .outbound, ["EMPLOYEE"], ["EMPLOYER"], ["K"]⟩ : RelationshipView)],
        v.direction.isDirectional = true → (v.roles1 ≠ [] ∨ v.roles2 ≠ []) →
        ∃ r1 r2, K.roles v.domain = some (r1, r2) ∧ v.roles1 ⊆ r1 ∧ v.roles2 ⊆ r2 :=
  have hscores : ∀ e ∈ [("NAME", [(⟨"Ann", "Ann", 100, .same, some 100, none⟩ : FeatureScoreView)])],
      (∃ s ∈ e.2, s.scoringBucket = .same) → IsName e.1 := by decide +kernel
  have hrels : ∀ v ∈ [(⟨"EMP", .outbound, ["EMPLOYEE"], ["EMPLOYER"], ["K"]⟩ : RelationshipView)],
      IsName v.domain ∧ AreRoles (v.roles1, v.roles2) := by decide +kernel
  ⟨⟨hscores, hrels⟩, reconcile_agrees _ _ _ hscores hrels⟩

/-- Names and roles a key cannot hold do not come back: an empty feature type, a feature type
with a sign, and a role with a comma. -/
theorem reconcile_loses_unwritable_names :
    (parse (reconcile "+" [("", [⟨"x", "x", 100, .same, none, none⟩])] [])).contains '+' "" = false ∧
    (parse (reconcile "" [("A+B", [⟨"x", "x", 100, .same, none, none⟩])] [])).contains '+' "A+B" = false ∧
    (parse (reconcile "" [] [⟨"D", .outbound, ["a,b"], [], []⟩])).roles "D" = some (["a", "b"], []) := by
  decide +kernel

end WhyKey

end EntityGateway
