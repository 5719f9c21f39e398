import Mathlib.Data.List.Basic
import Mathlib.Data.List.Induction
import Mathlib.Tactic.Common

/-!
# Lines of a character dump

A dump has a row of a table as an INSERT line, with the fields as quoted and escaped texts.
`findnth` finds the text of a field in such a line, by the quotes, and `changenth` puts another
text in its place.

`findnth` skips a quote after a backslash, but the search for the end of the first field goes on
where it was, so that it never ends, and the one for a later field goes on four places after the
quote, from where the field seems to start.  So both are right up to a field exactly if no field up
to it has a quote or ends in a backslash (`findnth_right_iff`).

    createDumpString_eq : where a field is in the line
    decode_dump         : a line is read as the fields it was made from
    findnth_plain       : what is found after fields without quotes
    findnth_not_plain   : the first field with a quote is not found
-/

namespace BlizzLike.PlayerDump

/-! ## Strings -/

/-- The bytes of a text. -/
def bytes (s : String) : List UInt8 := s.toUTF8.data.toList

def quote : UInt8 := 39
def backslash : UInt8 := 92

def find (str pattern : List UInt8) (pos : Nat) : Option Nat :=
  (List.range' pos (str.length + 1 - pos)).find? fun i => pattern.isPrefixOf (str.drop i)

/-- The database's escaping, one byte after the other, and how it reads an escaped byte: a backslash
stands before every quote and every backslash, and may stand before what is written for another byte. -/
structure MySql where
  escapeByte : UInt8 → List UInt8
  unescapeByte : UInt8 → UInt8
  escape_quote : escapeByte quote = [backslash, quote]
  escape_backslash : escapeByte backslash = [backslash, backslash]
  escape_other : ∀ c, c ≠ quote → c ≠ backslash →
    escapeByte c = [c] ∨ ∃ x, x ≠ quote ∧ x ≠ backslash ∧ escapeByte c = [backslash, x]
  unescape : ∀ c x, escapeByte c = [backslash, x] → unescapeByte x = c

def MySql.escapeString (sql : MySql) (s : List UInt8) : List UInt8 := s.flatMap sql.escapeByte

/-! ## The dump -/

/-- The loop of `CreateDumpString` over the fields, from a field number on. -/
def dumpFields (sql : MySql) : Nat → List (List UInt8) → List UInt8
  | _, [] => []
  | i, f :: fields =>
    (if i = 0 then [quote] else bytes ", '") ++ (sql.escapeString f ++ quote :: dumpFields sql (i + 1) fields)

def createDumpString (sql : MySql) (tableName : List UInt8) (fields : List (List UInt8)) : List UInt8 :=
  bytes "INSERT INTO `" ++ (tableName ++ (bytes "` VALUES (" ++ (dumpFields sql 0 fields ++ bytes ");")))

/-- The first search of `findnth`, which is always the same; `none` when it goes on. -/
def firstQuote (str : List UInt8) (s : Nat) : Nat → Option (Option Nat)
  | 0 => none
  | fuel + 1 =>
    match find str [quote] s with
    | none => some none
    | some e => if str.getD (e - 1) 0 = backslash then firstQuote str s fuel else some (some e)

/-- The search of `findnth` for the next field, from the end of one; `none` when it goes on. -/
def nextQuote (str : List UInt8) : Nat → Nat → Option (Option (Nat × Nat))
  | 0, _ => none
  | fuel + 1, e =>
    match find str [quote] (e + 4) with
    | none => some none
    | some e' => if str.getD (e' - 1) 0 = backslash then nextQuote str fuel e' else some (some (e + 4, e'))

/-- The fields that `findnth` goes through after the first one. -/
def nextQuotes (str : List UInt8) (fuel : Nat) (first : Nat × Nat) : Nat → Option (Option (Nat × Nat))
  | 0 => some (some first)
  | i + 1 =>
    match nextQuotes str fuel first i with
    | some (some (_, e)) => nextQuote str fuel e
    | r => r

/-- `findnth`: where a field begins and ends.  A line without values is searched from place 8, which
is 9 after no place. -/
def findnth (fuel : Nat) (str : List UInt8) (n : Nat) : Option (Option (Nat × Nat)) :=
  let s := match find str (bytes "VALUES ('") 0 with
    | some p => p + 9
    | none => 8
  match firstQuote str s fuel with
  | none => none
  | some none => some none
  | some (some e) => nextQuotes str fuel (s, e) (n - 1)

def changenth (fuel : Nat) (str : List UInt8) (n : Nat) (new : List UInt8) (insert nonzero : Bool) :
    Option (Bool × List UInt8) :=
  match findnth fuel str n with
  | none => none
  | some none => some (false, str)
  | some (some (s, e)) =>
    if nonzero && (str.drop s).take (e - s) == bytes "0" then some (true, str)
    else if !insert then some (true, str.take s ++ (new ++ str.drop e))
    else some (true, str.take s ++ (new ++ str.drop s))

/-! ## What the database reads -/

/-- A text from after its first quote to its last one, and what follows. -/
def readText (sql : MySql) : List UInt8 → Option (List UInt8 × List UInt8)
  | [] => none
  | c :: rest =>
    if c = quote then some ([], rest)
    else if c = backslash then
      match rest with
      | [] => none
      | x :: rest' => (readText sql rest').map fun p => (sql.unescapeByte x :: p.1, p.2)
    else (readText sql rest).map fun p => (c :: p.1, p.2)

/-- The texts of a list of values. -/
def readFields (sql : MySql) : Nat → List UInt8 → Option (List (List UInt8))
  | 0, _ => none
  | fuel + 1, str =>
    if str.head? ≠ some quote then none
    else
      match readText sql str.tail with
      | none => none
      | some (text, rest) =>
        if rest = bytes ");" then some [text]
        else if bytes ", " <+: rest then (readFields sql fuel (rest.drop 2)).map (text :: ·)
        else none

/-- The values of an INSERT line. -/
def decode (sql : MySql) (str : List UInt8) : Option (List (List UInt8)) :=
  match find str (bytes "VALUES ('") 0 with
  | some p => readFields sql str.length (str.drop (p + 8))
  | none => none

/-! ## Where a field is -/

variable (sql : MySql) (tableName : List UInt8)

/-- The line before a field, after the fields before it. -/
def lead (before : List (List UInt8)) : List UInt8 :=
  bytes "INSERT INTO `" ++ (tableName ++ (bytes "` VALUES ('" ++ before.flatMap fun g => sql.escapeString g ++ bytes "', '"))

/-- The line after the last quote of a field. -/
def trail (after : List (List UInt8)) : List UInt8 :=
  (after.flatMap fun g => bytes ", '" ++ (sql.escapeString g ++ [quote])) ++ bytes ");"

/-- `findnth` finds the place of a field, and `changenth` with an escaped value changes what is read
for that field and for no other. -/
structure Right (fields : List (List UInt8)) (n : Nat) : Prop where
  delimits : ∃ fuel, findnth fuel (createDumpString sql tableName fields) n =
    some (some ((lead sql tableName (fields.take (n - 1))).length,
      (lead sql tableName (fields.take (n - 1))).length + (sql.escapeString (fields.getD (n - 1) [])).length))
  changes : ∀ value, ∃ fuel str,
    changenth fuel (createDumpString sql tableName fields) n (sql.escapeString value) false false = some (true, str) ∧
      decode sql str = some (fields.set (n - 1) value)

/-- A value without a quote that does not end in a backslash. -/
def Plain (f : List UInt8) : Prop := quote ∉ f ∧ f.getLast? ≠ some backslash

instance : DecidablePred Plain := fun _ => inferInstanceAs (Decidable (_ ∧ _))

variable {sql tableName}

theorem dumpFields_succ (i : Nat) (fields : List (List UInt8)) :
    dumpFields sql (i + 1) fields = fields.flatMap fun g => bytes ", '" ++ (sql.escapeString g ++ [quote]) := by
  induction fields generalizing i with
  | nil => rfl
  | cons g fields ih =>
    rw [dumpFields, if_neg (by omega), ih, List.flatMap_cons]
    simp only [List.append_assoc, List.singleton_append]

theorem dumpFields_append (i : Nat) (before after : List (List UInt8)) (f : List UInt8) :
    dumpFields sql i (before ++ f :: after) =
      (if i = 0 then [quote] else bytes ", '") ++
        ((before.flatMap fun g => sql.escapeString g ++ bytes "', '") ++
          (sql.escapeString f ++ quote :: dumpFields sql (i + before.length + 1) after)) := by
  induction before generalizing i with
  | nil => rfl
  | cons g before ih =>
    rw [List.cons_append, dumpFields, ih, if_neg (Nat.succ_ne_zero i), List.flatMap_cons,
      show i + 1 + before.length = i + (g :: before).length by rw [List.length_cons]; omega,
      show bytes "', '" = quote :: bytes ", '" by decide]
    simp only [List.append_assoc, List.cons_append]

/-- **The line around a field.** -/
theorem createDumpString_eq (before after : List (List UInt8)) (f : List UInt8) :
    createDumpString sql tableName (before ++ f :: after) =
      lead sql tableName before ++ (sql.escapeString f ++ quote :: trail sql after) := by
  unfold createDumpString lead trail
  rw [dumpFields_append, dumpFields_succ, if_pos rfl,
    show bytes "` VALUES ('" = bytes "` VALUES (" ++ [quote] by decide]
  simp only [List.append_assoc, List.cons_append, List.nil_append]

theorem lead_append (before : List (List UInt8)) (g : List UInt8) :
    lead sql tableName (before ++ [g]) = lead sql tableName before ++ (sql.escapeString g ++ bytes "', '") := by
  unfold lead
  simp only [List.flatMap_append, List.flatMap_cons, List.flatMap_nil, List.append_nil, List.append_assoc]

theorem lead_getLast (before : List (List UInt8)) : (lead sql tableName before).getLast? = some quote := by
  rcases List.eq_nil_or_concat' before with rfl | ⟨before, g, rfl⟩
  · unfold lead
    rw [List.flatMap_nil, List.append_nil, ← List.append_assoc, List.getLast?_append]
    rfl
  · rw [lead_append, ← List.append_assoc, List.getLast?_append]
    rfl

/-! ## Searches -/

theorem isPrefixOf_drop_append (before after q : List UInt8) :
    q.isPrefixOf ((before ++ (q ++ after)).drop before.length) = true := by
  rw [List.drop_left, List.isPrefixOf_iff_prefix]
  exact List.prefix_append q after

/-- **A pattern that ends in a byte** that is nowhere before it is found. -/
theorem find_eq (before t q after : List UInt8) (c : UInt8) (hc : c ∉ t ++ q) :
    find (before ++ (t ++ (q ++ c :: after))) (q ++ [c]) before.length = some (before.length + t.length) := by
  unfold find
  rw [List.find?_range'_eq_some]
  refine ⟨?_, ?_, ?_⟩
  · have := isPrefixOf_drop_append (before ++ t) after (q ++ [c])
    simpa only [List.append_assoc, List.singleton_append, List.length_append] using this
  · rw [List.mem_range'_1]
    simp only [List.length_append, List.length_cons]
    omega
  · intro j hj hlt
    rw [Bool.not_eq_true', ← Bool.not_eq_true, List.isPrefixOf_iff_prefix]
    rintro ⟨rest, hrest⟩
    -- the last byte of the pattern would be within `t` or `q`
    have hget : (before ++ (t ++ (q ++ c :: after)))[j + q.length]? = some c := by
      rw [← List.getElem?_drop, ← hrest, List.append_assoc, List.getElem?_append_right (Nat.le_refl _), Nat.sub_self]
      rfl
    rw [List.getElem?_append_right (by omega), ← List.append_assoc, List.getElem?_append_left
      (by rw [List.length_append]; omega)] at hget
    exact hc (List.mem_of_getElem? hget)

theorem getD_last {t after : List UInt8} {c : UInt8} (h : t.getLast? = some c) :
    (t ++ after).getD (t.length - 1) 0 = c := by
  obtain ⟨init, rfl⟩ : ∃ init, t = init ++ [c] := List.getLast?_eq_some_iff.1 h
  rw [List.length_append, List.length_singleton, Nat.add_sub_cancel, List.append_assoc, List.getD_eq_getElem?_getD,
    List.getElem?_append_right (Nat.le_refl _), Nat.sub_self]
  rfl

/-- **A search for a quote** in a line after a quote: the byte before the quote that is found is that
before it in the text. -/
theorem find_quote (before t after : List UInt8) (hbefore : before.getLast? = some quote) (ht : quote ∉ t) :
    find (before ++ (t ++ quote :: after)) [quote] before.length = some (before.length + t.length) ∧
      ((before ++ (t ++ quote :: after)).getD (before.length + t.length - 1) 0 = backslash ↔
        t.getLast? = some backslash) := by
  refine ⟨find_eq before t [] after quote (by rwa [List.append_nil]), ?_⟩
  rw [← List.append_assoc, ← List.length_append]
  cases hlast : t.getLast? with
  | none =>
    rw [getD_last (c := quote) (by rw [List.getLast?_append, hlast, hbefore]; rfl)]
    decide
  | some c => rw [getD_last (c := c) (by rw [List.getLast?_append, hlast]; rfl), Option.some.injEq]

/-! ## Escaped texts -/

theorem escapeString_append (s t : List UInt8) :
    sql.escapeString (s ++ t) = sql.escapeString s ++ sql.escapeString t := List.flatMap_append

theorem escapeString_cons (c : UInt8) (s : List UInt8) :
    sql.escapeString (c :: s) = sql.escapeByte c ++ sql.escapeString s := List.flatMap_cons

theorem quote_not_mem_escape {f : List UInt8} (h : quote ∉ f) : quote ∉ sql.escapeString f := by
  intro hmem
  obtain ⟨c, hc, hquote⟩ := List.mem_flatMap.1 hmem
  have hne : c ≠ quote := fun hq => h (hq ▸ hc)
  by_cases hback : c = backslash
  · rw [hback, sql.escape_backslash] at hquote
    exact absurd hquote (by decide)
  · rcases sql.escape_other c hne hback with heq | ⟨x, hx, -, heq⟩
    · rw [heq, List.mem_singleton] at hquote
      exact hne hquote.symm
    · rw [heq, List.mem_pair] at hquote
      rcases hquote with hquote | hquote
      · exact absurd hquote (by decide)
      · exact hx hquote.symm

theorem escape_getLast {f : List UInt8} (h : quote ∉ f) :
    (sql.escapeString f).getLast? = some backslash ↔ f.getLast? = some backslash := by
  rcases List.eq_nil_or_concat' f with rfl | ⟨init, c, rfl⟩
  · exact Iff.rfl
  · have hne : c ≠ quote := fun hq => h (by rw [hq]; exact List.mem_append_right _ (List.mem_singleton_self _))
    rw [escapeString_append, escapeString_cons, List.getLast?_append, List.getLast?_concat]
    by_cases hback : c = backslash
    · rw [hback, sql.escape_backslash]
      exact iff_of_true rfl rfl
    · rcases sql.escape_other c hne hback with heq | ⟨x, -, hx, heq⟩
      · rw [heq]
        exact Iff.rfl
      · rw [heq]
        exact iff_of_false (fun h' => hx (Option.some.inj h')) fun h' => hback (Option.some.inj h')

/-- **The end of a field** is found from its beginning exactly if the field is plain; else a quote is
found that a backslash stands before. -/
theorem find_field (before after f : List UInt8) (hbefore : before.getLast? = some quote) :
    ∃ e, find (before ++ (sql.escapeString f ++ quote :: after)) [quote] before.length = some e ∧
      before.length ≤ e ∧
      ((before ++ (sql.escapeString f ++ quote :: after)).getD (e - 1) 0 = backslash ↔ ¬ Plain f) ∧
      (Plain f → e = before.length + (sql.escapeString f).length) := by
  by_cases hquote : quote ∈ f
  · -- the first quote of the text, after its backslash
    obtain ⟨a, b, rfl, ha⟩ := List.eq_append_cons_of_mem hquote
    have hnot : ¬ Plain (a ++ quote :: b) := fun h => h.1 hquote
    have hescape : sql.escapeString (a ++ quote :: b) =
        (sql.escapeString a ++ [backslash]) ++ quote :: sql.escapeString b := by
      rw [escapeString_append, escapeString_cons, sql.escape_quote]
      simp only [List.append_assoc, List.cons_append, List.nil_append]
    have hfind := find_quote before (sql.escapeString a ++ [backslash]) (sql.escapeString b ++ quote :: after) hbefore (by
      rw [List.mem_append, not_or]
      exact ⟨quote_not_mem_escape ha, by decide⟩)
    rw [hescape, List.append_assoc, List.cons_append]
    refine ⟨_, hfind.1, Nat.le_add_right _ _, hfind.2.trans (iff_of_true ?_ hnot), fun h => absurd h hnot⟩
    rw [List.getLast?_append]
    rfl
  · have hfind := find_quote before (sql.escapeString f) after hbefore (quote_not_mem_escape hquote)
    refine ⟨_, hfind.1, Nat.le_add_right _ _, hfind.2.trans ((escape_getLast hquote).trans ?_), fun _ => rfl⟩
    unfold Plain
    rw [and_iff_right hquote, ne_eq, not_not]

/-! ## Fields that are found -/

theorem find_values (htable : quote ∉ tableName) (rest : List UInt8) :
    ∃ p, find (lead sql tableName [] ++ rest) (bytes "VALUES ('") 0 = some p ∧
      p + 9 = (lead sql tableName []).length := by
  have hlead : lead sql tableName [] ++ rest =
      [] ++ ((bytes "INSERT INTO `" ++ (tableName ++ bytes "` ")) ++ (bytes "VALUES (" ++ quote :: rest)) := by
    unfold lead
    rw [List.flatMap_nil, show bytes "` VALUES ('" = bytes "` " ++ (bytes "VALUES (" ++ [quote]) by decide]
    simp only [List.append_assoc, List.append_nil, List.nil_append, List.cons_append]
  have hfind := find_eq [] (bytes "INSERT INTO `" ++ (tableName ++ bytes "` ")) (bytes "VALUES (") rest quote (by
    simp only [List.mem_append, not_or]
    exact ⟨⟨by decide, htable, by decide⟩, by decide⟩)
  rw [← hlead, show bytes "VALUES (" ++ [quote] = bytes "VALUES ('" by decide] at hfind
  refine ⟨_, hfind, ?_⟩
  unfold lead
  simp only [List.flatMap_nil, List.append_nil, List.length_append, List.length_nil]
  rw [show (bytes "` VALUES ('").length = (bytes "` ").length + 9 by decide]
  omega

theorem findnth_first (htable : quote ∉ tableName) (fuel : Nat) (after : List (List UInt8)) (f : List UInt8) :
    findnth fuel (createDumpString sql tableName (f :: after)) 1 =
      match firstQuote (createDumpString sql tableName (f :: after)) (lead sql tableName []).length fuel with
      | none => none
      | some none => some none
      | some (some e) => some (some ((lead sql tableName []).length, e)) := by
  obtain ⟨p, hfind, hp⟩ := @find_values sql _ htable (sql.escapeString f ++ quote :: trail sql after)
  unfold findnth
  rw [show createDumpString sql tableName (f :: after) = _ from createDumpString_eq [] after f, hfind]
  simp only [hp]
  rfl

theorem findnth_succ (fuel : Nat) (str : List UInt8) (n : Nat) :
    findnth fuel str (n + 2) =
      match findnth fuel str (n + 1) with
      | some (some (_, e)) => nextQuote str fuel e
      | r => r := by
  unfold findnth
  dsimp only
  rcases firstQuote str _ fuel with _ | _ | e
  · rfl
  · rfl
  · rfl

/-- **A plain field** after plain fields is found. -/
theorem findnth_plain (htable : quote ∉ tableName) (fuel : Nat) {before : List (List UInt8)} {f : List UInt8}
    (hbefore : ∀ g ∈ before, Plain g) (hf : Plain f) (after : List (List UInt8)) :
    findnth (fuel + 1) (createDumpString sql tableName (before ++ f :: after)) (before.length + 1) =
      some (some ((lead sql tableName before).length,
        (lead sql tableName before).length + (sql.escapeString f).length)) := by
  induction before using List.reverseRecOn generalizing f after with
  | nil =>
    obtain ⟨e, hfind, -, hlast, he⟩ := @find_field sql (lead sql tableName []) (trail sql after) f (lead_getLast [])
    obtain rfl := he hf
    have hline : createDumpString sql tableName (f :: after) = _ := createDumpString_eq [] after f
    rw [List.nil_append, List.length_nil, Nat.zero_add, findnth_first htable, hline]
    simp only [firstQuote, hfind, hlast, hf, not_true_eq_false, if_false]
  | append_singleton before g ih =>
    have hg := ih (fun x hx => hbefore x (List.mem_append_left _ hx))
      (hbefore g (List.mem_append_right _ (List.mem_singleton_self g))) (f :: after)
    obtain ⟨e, hfind, -, hlast, he⟩ := @find_field sql (lead sql tableName (before ++ [g])) (trail sql after) f
      (lead_getLast _)
    obtain rfl := he hf
    have hstart : (lead sql tableName before).length + (sql.escapeString g).length + 4 =
        (lead sql tableName (before ++ [g])).length := by
      rw [lead_append, List.length_append, List.length_append, Nat.add_assoc]
      rfl
    have hline := @createDumpString_eq sql tableName (before ++ [g]) after f
    rw [List.append_assoc, List.singleton_append] at hline ⊢
    rw [List.length_append, List.length_singleton, findnth_succ, hg, hline]
    simp only [nextQuote, hstart, hfind, hlast, hf, not_true_eq_false, if_false]

/-! ## Fields that are not found -/

theorem findnth_first_not_plain (htable : quote ∉ tableName) {f : List UInt8} (hf : ¬ Plain f)
    (after : List (List UInt8)) (fuel : Nat) :
    findnth fuel (createDumpString sql tableName (f :: after)) 1 = none := by
  obtain ⟨e, hfind, -, hlast, -⟩ := @find_field sql (lead sql tableName []) (trail sql after) f (lead_getLast [])
  have hline : createDumpString sql tableName (f :: after) = _ := createDumpString_eq [] after f
  have hloop : ∀ fuel, firstQuote (createDumpString sql tableName (f :: after)) (lead sql tableName []).length fuel =
      none := by
    intro fuel
    rw [hline]
    induction fuel with
    | zero => rfl
    | succ fuel ih => simp only [firstQuote, hfind, hlast, hf, not_false_eq_true, if_true, ih]
  rw [findnth_first htable, hloop]

theorem nextQuote_start {str : List UInt8} {fuel e s e' : Nat} (h : nextQuote str fuel e = some (some (s, e'))) :
    e + 4 ≤ s := by
  induction fuel generalizing e with
  | zero => exact nomatch h
  | succ fuel ih =>
    unfold nextQuote at h
    split at h
    · exact nomatch h
    · next e1 hfind =>
      have hle : e + 4 ≤ e1 := by
        have := (List.find?_range'_eq_some.1 hfind).2.1
        exact (List.mem_range'_1.1 this).1
      split at h
      · have := ih h
        omega
      · obtain ⟨rfl, -⟩ := Prod.mk.inj (Option.some.inj (Option.some.inj h))
        exact Nat.le_refl _

/-- **The first field that is not plain** is not found where it begins. -/
theorem findnth_not_plain (htable : quote ∉ tableName) {before : List (List UInt8)} {f : List UInt8}
    (hbefore : ∀ g ∈ before, Plain g) (hf : ¬ Plain f) (after : List (List UInt8)) {fuel s e : Nat}
    (h : findnth fuel (createDumpString sql tableName (before ++ f :: after)) (before.length + 1) = some (some (s, e))) :
    (lead sql tableName before).length < s := by
  rcases List.eq_nil_or_concat' before with rfl | ⟨before, g, rfl⟩
  · exact nomatch (findnth_first_not_plain htable hf after fuel).symm.trans h
  · obtain ⟨e1, hfind, hle, hlast, -⟩ := @find_field sql (lead sql tableName (before ++ [g])) (trail sql after) f
      (lead_getLast _)
    have hline := @createDumpString_eq sql tableName (before ++ [g]) after f
    rw [List.length_append, List.length_singleton, findnth_succ] at h
    cases fuel with
    | zero => exact nomatch h
    | succ fuel =>
      have hg := @findnth_plain sql _ htable fuel _ _ (fun x hx => hbefore x (List.mem_append_left _ hx))
        (hbefore g (List.mem_append_right _ (List.mem_singleton_self g))) (f :: after)
      have hstart : (lead sql tableName before).length + (sql.escapeString g).length + 4 =
          (lead sql tableName (before ++ [g])).length := by
        rw [lead_append, List.length_append, List.length_append, Nat.add_assoc]
        rfl
      rw [List.append_assoc, List.singleton_append] at h hline
      rw [hg, hline] at h
      simp only [nextQuote, hstart, hfind, hlast, hf, not_false_eq_true, if_true] at h
      have := nextQuote_start h
      omega

/-! ## Lines that are read -/

/-- **An escaped text** is read as the text. -/
theorem readText_escape (f rest : List UInt8) :
    readText sql (sql.escapeString f ++ quote :: rest) = some (f, rest) := by
  induction f with
  | nil =>
    show readText sql (quote :: rest) = _
    rw [readText.eq_def]
    exact if_pos rfl
  | cons c f ih =>
    have hpair : ∀ x, sql.escapeByte c = [backslash, x] →
        readText sql (sql.escapeString (c :: f) ++ quote :: rest) = some (c :: f, rest) := by
      intro x hx
      rw [escapeString_cons, hx, List.append_assoc]
      show readText sql (backslash :: x :: (sql.escapeString f ++ quote :: rest)) = _
      rw [readText, if_neg (by decide), if_pos rfl]
      simp only [ih, Option.map_some, sql.unescape c x hx]
    by_cases hquote : c = quote
    · exact hpair quote (by rw [hquote, sql.escape_quote])
    by_cases hback : c = backslash
    · exact hpair backslash (by rw [hback, sql.escape_backslash])
    rcases sql.escape_other c hquote hback with heq | ⟨x, -, -, heq⟩
    · rw [escapeString_cons, heq, List.append_assoc]
      show readText sql (c :: (sql.escapeString f ++ quote :: rest)) = _
      rw [readText.eq_def]
      dsimp only
      rw [if_neg hquote, if_neg hback, ih]
      rfl
    · exact hpair x heq

theorem readFields_fields (f : List UInt8) (after : List (List UInt8)) (fuel : Nat) (hfuel : after.length < fuel) :
    readFields sql fuel (quote :: (sql.escapeString f ++ quote :: trail sql after)) = some (f :: after) := by
  induction after generalizing f fuel with
  | nil =>
    obtain ⟨fuel, rfl⟩ : ∃ n, fuel = n + 1 := ⟨fuel - 1, by omega⟩
    rw [readFields, if_neg (by rw [List.head?_cons]; exact fun h => h rfl), List.tail_cons, readText_escape]
    rfl
  | cons g after ih =>
    rw [List.length_cons] at hfuel
    obtain ⟨fuel, rfl⟩ : ∃ n, fuel = n + 1 := ⟨fuel - 1, by omega⟩
    have htrail : trail sql (g :: after) =
        bytes ", " ++ quote :: (sql.escapeString g ++ quote :: trail sql after) := by
      unfold trail
      rw [List.flatMap_cons, show bytes ", '" = bytes ", " ++ [quote] by decide]
      simp only [List.append_assoc, List.cons_append, List.nil_append]
    have hne : trail sql (g :: after) ≠ bytes ");" := by
      rw [htrail]
      exact fun h => absurd (List.cons.inj h).1 (by decide)
    rw [readFields, if_neg (by rw [List.head?_cons]; exact fun h => h rfl), List.tail_cons, readText_escape]
    dsimp only
    rw [if_neg hne, if_pos (htrail ▸ List.prefix_append _ _), htrail,
      show ∀ rest, (bytes ", " ++ rest).drop 2 = rest from fun rest => rfl, ih g fuel (by omega)]
    rfl

theorem trail_length (after : List (List UInt8)) : after.length < (trail sql after).length := by
  unfold trail
  rw [List.length_append, List.length_flatMap, show (bytes ");").length = 2 by decide]
  have hsum : after.length ≤ (after.map fun g => (bytes ", '" ++ (sql.escapeString g ++ [quote])).length).sum := by
    induction after with
    | nil => exact Nat.le_refl 0
    | cons g after ih =>
      rw [List.map_cons, List.sum_cons, List.length_cons, List.length_append, show (bytes ", '").length = 3 by decide]
      omega
  omega

/-- **A line is read** as the fields it was made from. -/
theorem decode_dump (htable : quote ∉ tableName) (f : List UInt8) (after : List (List UInt8)) :
    decode sql (createDumpString sql tableName (f :: after)) = some (f :: after) := by
  obtain ⟨p, hfind, hp⟩ := @find_values sql _ htable (sql.escapeString f ++ quote :: trail sql after)
  have hline : createDumpString sql tableName (f :: after) = _ := createDumpString_eq [] after f
  obtain ⟨init, hinit⟩ := List.getLast?_eq_some_iff.1 (@lead_getLast sql tableName [])
  have hlen : init.length = p + 8 := by
    have := congrArg List.length hinit
    rw [List.length_append, List.length_singleton] at this
    omega
  have htrail := @trail_length sql after
  unfold decode
  rw [hline, hfind]
  dsimp only
  rw [hinit, List.append_assoc, List.singleton_append, ← hlen, List.drop_left]
  refine readFields_fields f after _ ?_
  simp only [List.length_append, List.length_cons]
  omega

/-! ## The fields that are right -/

theorem right_of_plain (htable : quote ∉ tableName) {before : List (List UInt8)} {f : List UInt8}
    (hbefore : ∀ g ∈ before, Plain g) (hf : Plain f) (after : List (List UInt8)) :
    Right sql tableName (before ++ f :: after) (before.length + 1) := by
  have hfind := @findnth_plain sql _ htable 0 _ _ hbefore hf after
  constructor
  · refine ⟨1, ?_⟩
    rw [Nat.add_sub_cancel, List.take_left, List.getD_eq_getElem?_getD, List.getElem?_append_right (Nat.le_refl _),
      Nat.sub_self]
    exact hfind
  · intro value
    refine ⟨1, createDumpString sql tableName (before ++ value :: after), ?_, ?_⟩
    · unfold changenth
      rw [hfind]
      simp only [Bool.false_and, Bool.false_eq_true, if_false, Bool.not_false, if_true]
      have hdrop : (lead sql tableName before ++ (sql.escapeString f ++ quote :: trail sql after)).drop
          ((lead sql tableName before).length + (sql.escapeString f).length) = quote :: trail sql after := by
        rw [← List.append_assoc, ← List.length_append, List.drop_left]
      rw [createDumpString_eq, createDumpString_eq, List.take_left, hdrop]
    · rw [Nat.add_sub_cancel, List.set_append_right _ _ (Nat.le_refl _), Nat.sub_self, List.set_cons_zero]
      cases before with
      | nil => exact decode_dump htable value after
      | cons g before => exact decode_dump htable g (before ++ value :: after)

theorem not_right_of_not_plain (htable : quote ∉ tableName) {before : List (List UInt8)} {f : List UInt8}
    (hbefore : ∀ g ∈ before, Plain g) (hf : ¬ Plain f) (after : List (List UInt8)) :
    ¬ Right sql tableName (before ++ f :: after) (before.length + 1) := by
  rintro ⟨⟨fuel, hfind⟩, -⟩
  have hlt := findnth_not_plain htable hbefore hf after hfind
  rw [Nat.add_sub_cancel, List.take_left] at hlt
  exact absurd hlt (Nat.lt_irrefl _)

/-- **Fields that are found and changed.**  All fields up to a number are found by `findnth` and changed
by `changenth` exactly if none of them has a quote or ends in a backslash. -/
theorem findnth_right_iff (sql : MySql) (tableName : List UInt8) (htable : quote ∉ tableName)
    (fields : List (List UInt8)) (n : Nat) :
    (∀ m, 1 ≤ m → m ≤ n → m ≤ fields.length → Right sql tableName fields m) ↔ ∀ f ∈ fields.take n, Plain f := by
  have hsplit : ∀ k (hk : k < fields.length), fields = fields.take k ++ fields[k] :: fields.drop (k + 1) :=
    fun k hk => by rw [List.getElem_cons_drop, List.take_append_drop]
  constructor
  · intro hright
    -- by the number of fields that are known to be plain
    have hplain : ∀ k, k ≤ n → ∀ f ∈ fields.take k, Plain f := by
      intro k
      induction k with
      | zero => exact fun _ f hf => absurd hf (by simp)
      | succ k ih =>
        intro hk f hf
        rcases Nat.lt_or_ge k fields.length with hlt | hge
        · have hbefore := ih (by omega)
          have hlen : (fields.take k).length = k := by
            rw [List.length_take]
            omega
          rw [List.take_succ_eq_append_getElem hlt, List.mem_append, List.mem_singleton] at hf
          rcases hf with hf | rfl
          · exact hbefore f hf
          · by_contra hnot
            have hwrong := @not_right_of_not_plain sql _ htable _ _ hbefore hnot (fields.drop (k + 1))
            rw [← hsplit k hlt, hlen] at hwrong
            exact hwrong (hright (k + 1) (by omega) hk hlt)
        · rw [List.take_of_length_le (by omega)] at hf
          exact ih (by omega) f (by rwa [List.take_of_length_le hge])
    exact hplain n (Nat.le_refl n)
  · intro hplain m hm hmn hmlen
    obtain ⟨k, rfl⟩ : ∃ k, m = k + 1 := ⟨m - 1, by omega⟩
    have hlen : (fields.take k).length = k := by
      rw [List.length_take]
      omega
    have hbefore : ∀ g ∈ fields.take k, Plain g := fun g hg =>
      hplain g (List.take_subset_take_left fields (by omega) hg)
    have hf : Plain fields[k] := by
      refine hplain _ (List.take_subset_take_left fields hmn ?_)
      rw [List.take_succ_eq_append_getElem (by omega)]
      exact List.mem_append_right _ (List.mem_singleton_self _)
    have := @right_of_plain sql _ htable _ _ hbefore hf (fields.drop (k + 1))
    rwa [← hsplit k (by omega), hlen] at this

/-! ## The tables of a dump -/

/-- The names in `dumpTables`. -/
def dumpTables : List (List UInt8) :=
  ["characters", "character_queststatus", "character_reputation", "character_spell", "character_spell_cooldown",
    "character_action", "character_aura", "character_homebind", "character_skills", "character_inventory", "mail",
    "mail_items", "item_instance", "character_gifts", "item_text", "character_pet", "pet_aura", "pet_spell",
    "pet_spell_cooldown"].map bytes

theorem quote_not_mem_dumpTables : ∀ table ∈ dumpTables, quote ∉ table := by decide +kernel

/-- The escaping of `mysql_real_escape_string`: zero, newline, return, quotes, backslash and control-Z. -/
def mysql : MySql where
  escapeByte c :=
    if c = 0 then [backslash, 48] else if c = 10 then [backslash, 110] else if c = 13 then [backslash, 114]
    else if c = 26 then [backslash, 90] else if c = 34 ∨ c = quote ∨ c = backslash then [backslash, c] else [c]
  unescapeByte x :=
    if x = 48 then 0 else if x = 110 then 10 else if x = 114 then 13 else if x = 90 then 26
    else if x = 116 then 9 else if x = 98 then 8 else x
  escape_quote := by decide
  escape_backslash := by decide
  escape_other := by
    intro c hquote hback
    split
    · exact .inr ⟨48, by decide, by decide, rfl⟩
    split
    · exact .inr ⟨110, by decide, by decide, rfl⟩
    split
    · exact .inr ⟨114, by decide, by decide, rfl⟩
    split
    · exact .inr ⟨90, by decide, by decide, rfl⟩
    split
    · exact .inr ⟨c, hquote, hback, rfl⟩
    · exact .inl rfl
  unescape := by
    intro c x h
    split at h
    · next hc =>
      obtain rfl : 48 = x := by simpa using h
      exact hc.symm
    split at h
    · next hc =>
      obtain rfl : 110 = x := by simpa using h
      exact hc.symm
    split at h
    · next hc =>
      obtain rfl : 114 = x := by simpa using h
      exact hc.symm
    split at h
    · next hc =>
      obtain rfl : 90 = x := by simpa using h
      exact hc.symm
    split at h
    · next hc =>
      obtain rfl : c = x := by simpa using h
      rcases hc with rfl | rfl | rfl <;> decide
    · exact absurd (congrArg List.length h) (Nat.ne_of_lt (Nat.lt_add_one 1))

theorem findnth_right_iff_mail :
    Right mysql (bytes "mail") [bytes "7", [], bytes "it's"] 1 ∧
      Right mysql (bytes "mail") [bytes "7", [], bytes "it's"] 2 := by
  have hright := (findnth_right_iff mysql (bytes "mail") (quote_not_mem_dumpTables _ (by decide +kernel))
    [bytes "7", [], bytes "it's"] 2).2 (by decide)
  exact ⟨hright 1 (by decide) (by decide) (by decide), hright 2 (by decide) (by decide) (by decide)⟩

/-- The search for a first field with a quote never ends, and a later one is not found. -/
theorem findnth_misses :
    (∀ fuel, findnth fuel (createDumpString mysql (bytes "mail") [bytes "it's"]) 1 = none) ∧
      ¬ Right mysql (bytes "mail") [bytes "it's"] 1 ∧ ¬ Right mysql (bytes "mail") [bytes "7", bytes "it's"] 2 := by
  have htable : quote ∉ bytes "mail" := by decide
  have hplain : ¬ Plain (bytes "it's") := by decide
  refine ⟨findnth_first_not_plain htable hplain [], ?_, ?_⟩
  · exact not_right_of_not_plain htable (show ∀ g ∈ [], Plain g by decide) hplain []
  · exact not_right_of_not_plain htable (show ∀ g ∈ [bytes "7"], Plain g by decide) hplain []

end BlizzLike.PlayerDump
