import AudioLink.Data.Json
import AudioLink.Proofs.Text

/-
Values are read from JSON as they are written.

A value is written without blanks, so a reader stands in front of its first character at once, and
it stops where the value ends: a string and a list have their closing marks, and a number ends
because what follows is no part of one. `Fits` says which values have a text at all, and the
induction is on it: what is inside a list or an object fits one level less, which is what the reader
recurses on.
-/
set_option autoImplicit false

namespace AudioLink.Json

/-- A value that has a text, with lists and objects nested at most so many levels deep: it is whole
where it is a number and in range, and the names of an object differ. -/
inductive Fits : Nat → Value → Prop where
  | null (depth : Nat) : Fits depth .null
  | bool (depth : Nat) (b : Bool) : Fits depth (.bool b)
  | int (depth : Nat) {n : Int} (hmin : Int64.minValue.toInt ≤ n) (hmax : n < UInt64.size) :
      Fits depth (.int n)
  | text (depth : Nat) (s : String) : Fits depth (.text s)
  | list {depth : Nat} {items : List Value} (hitems : ∀ v ∈ items, Fits depth v) :
      Fits (depth + 1) (.list items)
  | table {depth : Nat} {fields : List (String × Value)} (hnodup : (fields.map Prod.fst).Nodup)
      (hfields : ∀ x ∈ fields, Fits depth x.2) : Fits (depth + 1) (.table fields)

/-! ## Strings -/

/-- The number of a control character is read from its escape. -/
theorem inRadix?_escape {n : Nat} (hn : n < 32) :
    Digits.inRadix? 16 ['0', '0', Digits.hexDigit (n / 16), Digits.hexDigit n] = some n := by
  revert n
  decide

/-- The written form of a character is read as the character. -/
theorem string?_escape (c : Char) (rest : List Char) :
    string? (escape c ++ rest) = cons c (string? rest) := by
  rw [escape]
  by_cases hquote : c = '"'
  · subst hquote
    simp [string?, escape?]
  by_cases hslash : c = '\\'
  · subst hslash
    simp [string?, escape?]
  rw [if_neg hquote, if_neg hslash]
  by_cases hcontrol : c.toNat < 32
  · have hvalid : c.toNat.isValidChar := c.valid
    rw [if_pos hcontrol]
    simp [string?, inRadix?_escape hcontrol, hvalid]
  · rw [if_neg hcontrol]
    simp [string?, hslash, hcontrol]

/-- A string ends at its closing quote, because a quote inside it is escaped. -/
theorem string?_flatMap_escape (s rest : List Char) :
    string? (s.flatMap escape ++ '"' :: rest) = some (s, rest) := by
  induction s with
  | nil => simp [string?]
  | cons c s ih =>
    rw [List.flatMap_cons, List.append_assoc, string?_escape, ih, cons, Option.map_some]

/-- A quoted text opens and closes with a quote. -/
theorem toList_quote_append (s : String) (rest : List Char) :
    (quote s).toList ++ rest = '"' :: (s.toList.flatMap escape ++ '"' :: rest) := by
  simp [quote]

/-! ## Numbers -/

/-- A digit may stand in a number. -/
theorem isNumberChar_of_isDigit {c : Char} (hc : c.isDigit = true) : isNumberChar c = true := by
  simp [isNumberChar, hc]

/-- A sign and digits may stand in a number. -/
theorem isNumberChar_signed (n : Int) : ∀ c ∈ Digits.signed n, isNumberChar c = true := by
  obtain ⟨c, cs, hcs, hc, hdigits⟩ := Digits.signed_eq_cons n
  rw [hcs, List.forall_mem_cons]
  refine ⟨?_, fun d hd => isNumberChar_of_isDigit (hdigits d hd)⟩
  rcases hc with rfl | hc
  · decide
  · exact isNumberChar_of_isDigit hc

/-- A number is read as it is written, from the least signed to the greatest unsigned word. -/
theorem int?_signed {n : Int} (hmin : Int64.minValue.toInt ≤ n) (hmax : n < UInt64.size) :
    int? (Digits.signed n) = some n := by
  rw [Digits.signed]
  by_cases hn : n < 0
  · have habs : -(n.natAbs : Int) = n := by omega
    have hkept : ¬ (n.natAbs = 0 ∨ n < Int64.minValue.toInt) := by omega
    rw [if_pos hn]
    simp only [int?, Digits.decimal?_decimal, Option.bind_some, habs, if_neg hkept]
  · have habs : (n.natAbs : Int) = n := by omega
    have hkept : ¬ UInt64.size ≤ n.natAbs := by omega
    -- A numeral without a sign does not begin with one.
    obtain ⟨c, cs, hcs⟩ := List.exists_cons_of_ne_nil (Digits.decimal_ne_nil n.natAbs)
    have hc : c.isDigit = true := Digits.isDigit_of_mem_decimal (hcs ▸ List.mem_cons_self)
    have hread := Digits.decimal?_decimal n.natAbs
    rw [if_neg hn]
    rw [hcs] at hread ⊢
    unfold int?
    split
    · rename_i heq
      exact absurd (List.cons.inj heq).1 (Text.ne_of_test hc (by decide))
    · rw [hread, Option.bind_some, if_neg hkept, habs]

/-- A number ends where no character of a number follows. -/
theorem number?_signed {n : Int} (hmin : Int64.minValue.toInt ≤ n) (hmax : n < UInt64.size)
    {rest : List Char} (hrest : ∀ c ∈ rest.head?, isNumberChar c = false) :
    number? (Digits.signed n ++ rest) = some (.int n, rest) := by
  have hchars := isNumberChar_signed n
  have hne : Digits.signed n ≠ [] := by
    obtain ⟨c, cs, hcs, -⟩ := Digits.signed_eq_cons n
    simp [hcs]
  simp only [number?, Text.takeWhile_append_of_stop hchars hrest,
    Text.dropWhile_append_of_stop hchars hrest, if_neg hne, int?_signed hmin hmax, Option.elim_some]

/-- No character of a number is skipped as a blank. -/
theorem isBlank_of_isNumberChar {c : Char} (hc : isNumberChar c = true) : isBlank c = false := by
  have hspace : c ≠ ' ' := Text.ne_of_test hc (by decide)
  have htab : c ≠ '\t' := Text.ne_of_test hc (by decide)
  have hline : c ≠ '\n' := Text.ne_of_test hc (by decide)
  have hreturn : c ≠ '\r' := Text.ne_of_test hc (by decide)
  simp [isBlank, hspace, htab, hline, hreturn]

/-- Nothing is skipped where no blank is. -/
theorem skip_cons {c : Char} (hc : isBlank c = false) (cs : List Char) :
    skip (c :: cs) = c :: cs := by
  simp [skip, hc]

/-- What begins like a number is read as one. -/
theorem valueWith?_number {c : Char} (hc : isNumberChar c = true) (inner? : Option Reader)
    (cs : List Char) : valueWith? inner? (c :: cs) = number? (c :: cs) := by
  have hmark : ∀ d, isNumberChar d = false → c ≠ d := fun d hd => Text.ne_of_test hc hd
  unfold valueWith?
  rw [skip_cons (isBlank_of_isNumberChar hc)]
  split
  · rename_i heq
    exact absurd (List.cons.inj heq).1 (hmark '"' (by decide))
  · rename_i heq
    exact absurd (List.cons.inj heq).1 (hmark '\x7b' (by decide))
  · rename_i heq
    exact absurd (List.cons.inj heq).1 (hmark '[' (by decide))
  · rename_i heq
    exact absurd (List.cons.inj heq).1 (hmark 't' (by decide))
  · rename_i heq
    exact absurd (List.cons.inj heq).1 (hmark 'f' (by decide))
  · rename_i heq
    exact absurd (List.cons.inj heq).1 (hmark 'n' (by decide))
  · rfl

/-! ## Lists and objects -/

/-- The texts of some parts, with commas between them. -/
def joined (parts : List String) : List Char := [','].intercalate (parts.map String.toList)

theorem joined_singleton (part : String) : joined [part] = part.toList := by
  simp [joined]

/-- Parts are joined by commas. -/
theorem joined_cons_cons (part next : String) (parts : List String) :
    joined (part :: next :: parts) = part.toList ++ ',' :: joined (next :: parts) := by
  simp [joined, List.intercalate_cons_cons]

theorem joined_cons (part : String) (parts : List String) :
    ∃ more, joined (part :: parts) = part.toList ++ more := by
  cases parts with
  | nil => exact ⟨[], by rw [joined_singleton, List.append_nil]⟩
  | cons next parts => exact ⟨_, joined_cons_cons part next parts⟩

/-- There is a comma behind each part but the last one. -/
theorem length_le_length_joined (parts : List String) :
    parts.length ≤ (joined parts).length + 1 := by
  induction parts with
  | nil => exact Nat.zero_le _
  | cons part parts ih =>
    cases parts with
    | nil => exact Nat.le_add_left _ _
    | cons next parts =>
      rw [joined_cons_cons, List.length_append, List.length_cons, List.length_cons]
      exact Nat.succ_le_succ (Nat.le_trans ih (Nat.le_add_left _ _))

theorem length_writeItems (items : List Value) : (writeItems items).length = items.length := by
  induction items with
  | nil => rfl
  | cons v items ih => rw [writeItems, List.length_cons, List.length_cons, ih]

theorem length_writeFields (fields : List (String × Value)) :
    (writeFields fields).length = fields.length := by
  induction fields with
  | nil => rfl
  | cons x fields ih => rw [writeFields, List.length_cons, List.length_cons, ih]

/-- The reader reads this value from its text, wherever it ends. -/
def ReadsBack (value? : Reader) (v : Value) : Prop :=
  ∀ rest : List Char, (∀ c ∈ rest.head?, isNumberChar c = false) →
    value? ((write v).toList ++ rest) = some (v, rest)

/-- The elements of a list are read as they are written, up to the closing bracket. -/
theorem items?_writeItems {value? : Reader} {v : Value} {items : List Value}
    (hitems : ∀ w ∈ v :: items, ReadsBack value? w) {fuel : Nat} (hfuel : items.length < fuel)
    (rest : List Char) :
    items? value? fuel (joined (writeItems (v :: items)) ++ ']' :: rest) =
      some (v :: items, rest) := by
  induction items generalizing v fuel with
  | nil =>
    obtain ⟨fuel, rfl⟩ : ∃ n, fuel = n + 1 := ⟨fuel - 1, by omega⟩
    have hv := hitems v (by simp) (']' :: rest) (by simp [isNumberChar])
    have hclose : skip (']' :: rest) = ']' :: rest := skip_cons (by decide) rest
    simp only [writeItems, joined_singleton, items?, hv, hclose, Option.bind_eq_bind,
      Option.bind_some]
  | cons w items ih =>
    obtain ⟨fuel, rfl⟩ : ∃ n, fuel = n + 1 := ⟨fuel - 1, by omega⟩
    let next := joined (writeItems (w :: items)) ++ ']' :: rest
    have hv := hitems v (by simp) (',' :: next) (by simp [isNumberChar])
    have hcomma : skip (',' :: next) = ',' :: next := skip_cons (by decide) next
    have hnext : items? value? fuel next = some (w :: items, rest) :=
      ih (fun u hu => hitems u (by simp [hu])) (by simpa using hfuel)
    have htext : joined (writeItems (v :: w :: items)) ++ ']' :: rest =
        (write v).toList ++ ',' :: next := by
      simp [writeItems, joined_cons_cons, next]
    rw [htext]
    simp only [items?, hv, hcomma, hnext, Option.bind_eq_bind, Option.bind_some]

theorem not_mem_of_nodup {x : String × Value} {read fields : List (String × Value)}
    (hnodup : ((read ++ x :: fields).map Prod.fst).Nodup) : x.1 ∉ read.map Prod.fst := by
  rw [List.map_append, List.nodup_append] at hnodup
  exact fun hmem => hnodup.2.2 _ hmem _ (by simp) rfl

/-- A field of a new name is added at the end. -/
theorem setField_of_new {name : String} (v : Value) {fields : List (String × Value)}
    (hname : name ∉ fields.map Prod.fst) : setField name v fields = fields ++ [(name, v)] := by
  induction fields with
  | nil => rfl
  | cons x fields ih =>
    have hx : x.1 ≠ name := fun heq => hname (by simp [heq])
    have hrest : name ∉ fields.map Prod.fst := fun hmem => hname (by simp [hmem])
    rw [setField, if_neg hx, ih hrest, List.cons_append]

/-- The text of a field, with what follows it. -/
theorem toList_field_append (name : String) (v : Value) (rest : List Char) :
    (quote name ++ ":" ++ write v).toList ++ rest =
      '"' :: (name.toList.flatMap escape ++ '"' :: ':' :: ((write v).toList ++ rest)) := by
  simp [quote]

/-- The last field is added to the fields that were read already. -/
theorem fields?_last {value? : Reader} {x : String × Value} {read : List (String × Value)}
    (hx : ReadsBack value? x.2) (hnew : x.1 ∉ read.map Prod.fst) (fuel : Nat) (rest : List Char) :
    fields? value? (fuel + 1) read ((quote x.1 ++ ":" ++ write x.2).toList ++ '\x7d' :: rest) =
      some (read ++ [x], rest) := by
  have hvalue := hx ('\x7d' :: rest) (by simp [isNumberChar])
  rw [toList_field_append]
  simp [fields?, skip_cons, isBlank, string?_flatMap_escape, hvalue, setField_of_new _ hnew]

/-- So is a field with others behind it. -/
theorem fields?_next {value? : Reader} {x : String × Value} {read : List (String × Value)}
    (hx : ReadsBack value? x.2) (hnew : x.1 ∉ read.map Prod.fst) (fuel : Nat) (rest : List Char) :
    fields? value? (fuel + 1) read ((quote x.1 ++ ":" ++ write x.2).toList ++ ',' :: rest) =
      fields? value? fuel (read ++ [x]) rest := by
  have hvalue := hx (',' :: rest) (by simp [isNumberChar])
  rw [toList_field_append]
  simp [fields?, skip_cons, isBlank, string?_flatMap_escape, hvalue, setField_of_new _ hnew]

/-- The fields of a table are read as they are written, behind those that were read already. -/
theorem fields?_writeFields {value? : Reader} {x : String × Value}
    {read fields : List (String × Value)} (hfields : ∀ y ∈ x :: fields, ReadsBack value? y.2)
    (hnodup : ((read ++ x :: fields).map Prod.fst).Nodup) {fuel : Nat}
    (hfuel : fields.length < fuel) (rest : List Char) :
    fields? value? fuel read (joined (writeFields (x :: fields)) ++ '\x7d' :: rest) =
      some (read ++ x :: fields, rest) := by
  induction fields generalizing x read fuel with
  | nil =>
    obtain ⟨fuel, rfl⟩ : ∃ n, fuel = n + 1 := ⟨fuel - 1, by omega⟩
    have hnew : x.1 ∉ read.map Prod.fst := not_mem_of_nodup hnodup
    have hlast := fields?_last (hfields x (by simp)) hnew fuel rest
    rwa [writeFields, writeFields, joined_singleton]
  | cons y fields ih =>
    obtain ⟨fuel, rfl⟩ : ∃ n, fuel = n + 1 := ⟨fuel - 1, by omega⟩
    have hnew : x.1 ∉ read.map Prod.fst := not_mem_of_nodup hnodup
    have hnext := fields?_next (hfields x (by simp)) hnew fuel
      (joined (writeFields (y :: fields)) ++ '\x7d' :: rest)
    have hread : ((read ++ [x] ++ y :: fields).map Prod.fst).Nodup := by simpa using hnodup
    have hrest := ih (fun z hz => hfields z (List.mem_cons_of_mem x hz)) hread
      (Nat.lt_of_succ_lt_succ hfuel)
    rw [writeFields, writeFields, joined_cons_cons, List.append_assoc, List.cons_append,
      ← writeFields, hnext, hrest, List.append_assoc, List.singleton_append]

/-! ## Values -/

/-- A list is written between brackets. -/
theorem toList_write_list_append (items : List Value) (rest : List Char) :
    (write (.list items)).toList ++ rest = '[' :: (joined (writeItems items) ++ ']' :: rest) := by
  simp [write, joined, String.toList_intercalate]

/-- A table is written between braces. -/
theorem toList_write_table_append (fields : List (String × Value)) (rest : List Char) :
    (write (.table fields)).toList ++ rest =
      '\x7b' :: (joined (writeFields fields) ++ '\x7d' :: rest) := by
  simp [write, joined, String.toList_intercalate]

/-- A value begins neither with a blank nor with the end of a list. -/
theorem toList_write_eq_cons (v : Value) :
    ∃ c cs, (write v).toList = c :: cs ∧ isBlank c = false ∧ c ≠ ']' := by
  cases v with
  | null => exact ⟨'n', "ull".toList, rfl, by decide, by decide⟩
  | real => exact ⟨'n', "ull".toList, rfl, by decide, by decide⟩
  | moment => exact ⟨'n', "ull".toList, rfl, by decide, by decide⟩
  | bool b =>
    cases b with
    | false => exact ⟨'f', "alse".toList, rfl, by decide, by decide⟩
    | true => exact ⟨'t', "rue".toList, rfl, by decide, by decide⟩
  | int n =>
    obtain ⟨c, cs, hcs, hc, -⟩ := Digits.signed_eq_cons n
    have hnumber : isNumberChar c = true := isNumberChar_signed n c (by simp [hcs])
    exact ⟨c, cs, by simp [write, hcs], isBlank_of_isNumberChar hnumber,
      Text.ne_of_test hnumber (by decide)⟩
  | text s =>
    have htext := toList_quote_append s []
    rw [List.append_nil] at htext
    exact ⟨'"', _, htext, by decide, by decide⟩
  | list items =>
    have htext := toList_write_list_append items []
    rw [List.append_nil] at htext
    exact ⟨'[', _, htext, by decide, by decide⟩
  | table fields =>
    have htext := toList_write_table_append fields []
    rw [List.append_nil] at htext
    exact ⟨'\x7b', _, htext, by decide, by decide⟩

/-- At every depth a value is read in the same way, but for what may be nested in it. -/
theorem value?_eq (depth : Nat) : ∃ inner?, value? depth = valueWith? inner? := by
  cases depth with
  | zero => exact ⟨none, rfl⟩
  | succ depth => exact ⟨some (value? depth), rfl⟩

/-- A list is read as it is written, if its elements are. -/
theorem valueWith?_list {value? : Reader} {items : List Value}
    (hitems : ∀ v ∈ items, ReadsBack value? v) :
    ReadsBack (valueWith? (some value?)) (.list items) := by
  intro rest _
  rw [toList_write_list_append]
  cases items with
  | nil => rfl
  | cons v items =>
    let text := joined (writeItems (v :: items)) ++ ']' :: rest
    have hread : items? value? (text.length + 1) text = some (v :: items, rest) := by
      have hcount := length_le_length_joined (writeItems (v :: items))
      rw [length_writeItems, List.length_cons] at hcount
      refine items?_writeItems hitems ?_ rest
      rw [List.length_append]
      omega
    -- The text is that of a first item, and not the end of a list without any.
    obtain ⟨c, cs, hcs, hblank, hclose⟩ : ∃ c cs, text = c :: cs ∧ isBlank c = false ∧ c ≠ ']' := by
      obtain ⟨c, cs, hcs, hblank, hclose⟩ := toList_write_eq_cons v
      obtain ⟨more, hmore⟩ := joined_cons (write v) (writeItems items)
      refine ⟨c, cs ++ (more ++ ']' :: rest), ?_, hblank, hclose⟩
      simp only [text, writeItems, hmore, hcs, List.append_assoc, List.cons_append]
    show valueWith? (some value?) ('[' :: text) = _
    rw [hcs] at hread ⊢
    unfold valueWith?
    rw [skip_cons (by decide)]
    simp only [skip_cons hblank, Option.bind_eq_bind, Option.bind_some]
    split
    · rename_i heq
      exact absurd (List.cons.inj heq).1 hclose
    · rw [hread, Option.map_some]

/-- A table of different names is read as it is written, if its values are. -/
theorem valueWith?_table {value? : Reader} {fields : List (String × Value)}
    (hnodup : (fields.map Prod.fst).Nodup) (hfields : ∀ x ∈ fields, ReadsBack value? x.2) :
    ReadsBack (valueWith? (some value?)) (.table fields) := by
  intro rest _
  rw [toList_write_table_append]
  cases fields with
  | nil => rfl
  | cons x fields =>
    let text := joined (writeFields (x :: fields)) ++ '\x7d' :: rest
    have hread : fields? value? (text.length + 1) [] text = some (x :: fields, rest) := by
      have hcount := length_le_length_joined (writeFields (x :: fields))
      rw [length_writeFields, List.length_cons] at hcount
      refine fields?_writeFields hfields hnodup ?_ rest
      rw [List.length_append]
      omega
    -- The text begins with the quote of a first name.
    obtain ⟨cs, hcs⟩ : ∃ cs, text = '"' :: cs := by
      obtain ⟨more, hmore⟩ := joined_cons (quote x.1 ++ ":" ++ write x.2) (writeFields fields)
      have htext : text = (quote x.1 ++ ":" ++ write x.2).toList ++ (more ++ '\x7d' :: rest) := by
        simp only [text, writeFields, hmore, List.append_assoc]
      rw [toList_field_append] at htext
      exact ⟨_, htext⟩
    have hblank : isBlank '"' = false := by decide
    show valueWith? (some value?) ('\x7b' :: text) = _
    rw [hcs] at hread ⊢
    unfold valueWith?
    rw [skip_cons (by decide)]
    simp only [skip_cons hblank, Option.bind_eq_bind, Option.bind_some]
    split
    · rename_i heq
      exact absurd (List.cons.inj heq).1 (by decide)
    · rw [hread, Option.map_some]

/-- A value that fits is read from its text. -/
theorem Fits.readsBack {depth : Nat} {v : Value} (hfits : Fits depth v) :
    ReadsBack (value? depth) v := by
  -- By the shape of what fits: at each depth a list or a table is read by the reader one level
  -- deeper.
  induction hfits with
  | null depth =>
    obtain ⟨inner?, hvalue⟩ := value?_eq depth
    intro rest _
    rw [hvalue]
    rfl
  | bool depth b =>
    obtain ⟨inner?, hvalue⟩ := value?_eq depth
    intro rest _
    rw [hvalue]
    cases b with
    | false => rfl
    | true => rfl
  | int depth hmin hmax =>
    rename_i n
    obtain ⟨inner?, hvalue⟩ := value?_eq depth
    obtain ⟨c, cs, hcs, -⟩ := Digits.signed_eq_cons n
    have hc : isNumberChar c = true := isNumberChar_signed n c (by simp [hcs])
    intro rest hrest
    have hnumber := number?_signed hmin hmax hrest
    rw [hcs, List.cons_append] at hnumber
    rw [hvalue, write, String.toList_ofList, hcs, List.cons_append, valueWith?_number hc, hnumber]
  | text depth s =>
    obtain ⟨inner?, hvalue⟩ := value?_eq depth
    intro rest _
    rw [hvalue, write, toList_quote_append]
    unfold valueWith?
    rw [skip_cons (by decide)]
    simp only [string?_flatMap_escape, Option.map_some, String.ofList_toList]
  | list hitems ih => exact valueWith?_list ih
  | table hnodup hfields ih => exact valueWith?_table hnodup ih

/-- The text of a value that fits is read as the value. -/
theorem parse?_write {v : Value} (hfits : Fits maxNesting v) : parse? (write v) = some v := by
  have hread := hfits.readsBack [] (by simp)
  rw [List.append_nil] at hread
  rw [parse?, hread]
  rfl

end AudioLink.Json
