import AudioLink.Proofs.Toml.Words
import AudioLink.Toml.Document
import AudioLink.Toml.Sheet

/-
The lines of a sheet are read as they are written.

`IsLine` says of a line, whatever follows it, which statement it is, and `Reads` says of a text which
statements it holds; a line in front of a text is a statement in front of its statements. What is
left is to look at the lines that there are: headers, keys with values, and blank lines. Keys are
bare, and texts need no escapes.
-/
set_option autoImplicit false

namespace AudioLink.Toml

/-! ## Keys -/

/-- A name that is written without quotes. -/
def IsBare (name : String) : Prop := name.toList ≠ [] ∧ ∀ c ∈ name.toList, isKeyChar c = true

instance (name : String) : Decidable (IsBare name) :=
  -- Going through the text, not through all characters that there are.
  have : Decidable (∀ c ∈ name.toList, isKeyChar c = true) := List.decidableBAll _ _
  inferInstanceAs (Decidable (_ ∧ _))

/-- A bare name is written without quotes. -/
theorem renderKeyPart_of_isBare {name : String} (hname : IsBare name) :
    renderKeyPart name = name.toList := by
  obtain ⟨hne, hchars⟩ := hname
  have hall : name.toList.all (fun c => c.isAlphanum || c = '_' || c = '-') = true := by
    rw [List.all_eq_true]
    exact hchars
  rw [renderKeyPart, if_pos ⟨hne, hall⟩]

/-- No character of a bare name is skipped as a blank. -/
theorem isBlank_of_isKeyChar {c : Char} (hc : isKeyChar c = true) : isBlank c = false := by
  have hspace : c ≠ ' ' := Text.ne_of_test hc (by decide)
  have htab : c ≠ '\t' := Text.ne_of_test hc (by decide)
  simp [isBlank, hspace, htab]

/-- Nothing is skipped where no blank is. -/
theorem skipBlanks_cons {c : Char} (hc : isBlank c = false) (cs : List Char) :
    skipBlanks (c :: cs) = c :: cs := by
  simp [skipBlanks, hc]

/-- A bare name is read up to the first character that cannot stand in it. -/
theorem keyPart?_of_isBare {name : String} (hname : IsBare name) {c : Char}
    (hc : isKeyChar c = false) (rest : List Char) :
    keyPart? (name.toList ++ c :: rest) = some (name, c :: rest) := by
  obtain ⟨hne, hchars⟩ := hname
  have hshort : shortString? (name.toList ++ c :: rest) = none := by
    obtain ⟨d, ds, hds⟩ := List.exists_cons_of_ne_nil hne
    have hd : isKeyChar d = true := hchars d (by simp [hds])
    rw [hds, List.cons_append]
    unfold shortString?
    split
    · rename_i heq
      exact absurd (List.cons.inj heq).1 (Text.ne_of_test hd (by decide))
    · rename_i heq
      exact absurd (List.cons.inj heq).1 (Text.ne_of_test hd (by decide))
    · rfl
  have hstop : ∀ d ∈ (c :: rest).head?, isKeyChar d = false := by simpa using hc
  rw [keyPart?, hshort]
  simp only [Text.takeWhile_append_of_stop hchars hstop, Text.dropWhile_append_of_stop hchars hstop,
    if_neg hne, String.ofList_toList]

/-- A path is written with dots between its names. -/
theorem renderPath_cons {name : String} {path : List String} (hpath : path ≠ []) :
    renderPath (name :: path) = renderKeyPart name ++ '.' :: renderPath path := by
  cases path with
  | nil => exact absurd rfl hpath
  | cons _ _ => rfl

/-- A path begins with a character of its first name. -/
theorem renderPath_eq_cons {path : List String} (hpath : path ≠ [])
    (hbare : ∀ name ∈ path, IsBare name) :
    ∃ c cs, renderPath path = c :: cs ∧ isKeyChar c = true := by
  obtain ⟨name, path, rfl⟩ := List.exists_cons_of_ne_nil hpath
  have hname := hbare name (by simp)
  obtain ⟨c, cs, hcs⟩ := List.exists_cons_of_ne_nil hname.1
  have hc : isKeyChar c = true := hname.2 c (by simp [hcs])
  cases path with
  | nil => exact ⟨c, cs, by rw [renderPath, renderKeyPart_of_isBare hname, hcs], hc⟩
  | cons other path =>
    refine ⟨c, cs ++ '.' :: renderPath (other :: path), ?_, hc⟩
    rw [renderPath_cons (by simp), renderKeyPart_of_isBare hname, hcs, List.cons_append]

/-- A path is read up to what follows it, which may stand behind blanks. -/
theorem keyParts?_renderPath {path : List String} (hpath : path ≠ [])
    (hbare : ∀ name ∈ path, IsBare name) {fuel : Nat} (hfuel : path.length ≤ fuel) {c : Char}
    {rest : List Char} (hc : isKeyChar c = false) {d : Char} {rest' : List Char}
    (hskip : skipBlanks (c :: rest) = d :: rest') (hdot : d ≠ '.') :
    keyParts? fuel (renderPath path ++ c :: rest) = some (path, d :: rest') := by
  -- Each name takes one unit of fuel, and what follows the whole path stays the same.
  induction path generalizing fuel with
  | nil => exact absurd rfl hpath
  | cons name path ih =>
    have hname : IsBare name := hbare name (by simp)
    obtain ⟨b, bs, hbs⟩ := List.exists_cons_of_ne_nil hname.1
    have hb : isKeyChar b = true := hname.2 b (by simp [hbs])
    have hskipName : ∀ more, skipBlanks (name.toList ++ more) = name.toList ++ more := by
      intro more
      rw [hbs, List.cons_append, skipBlanks_cons (isBlank_of_isKeyChar hb)]
    obtain ⟨fuel, rfl⟩ : ∃ n, fuel = n + 1 := ⟨fuel - 1, by simp at hfuel; omega⟩
    by_cases hlast : path = []
    · subst hlast
      rw [renderPath, renderKeyPart_of_isBare hname, keyParts?, hskipName,
        keyPart?_of_isBare hname hc]
      simp only [Option.bind_eq_bind, Option.bind_some, hskip]
      split
      · rename_i heq
        exact absurd (List.cons.inj heq).1 hdot
      · rfl
    · have hrest := ih hlast (fun n hn => hbare n (by simp [hn])) (by simp at hfuel; omega)
      have hdotBlank : isBlank '.' = false := by decide
      rw [renderPath_cons hlast, renderKeyPart_of_isBare hname, List.append_assoc, keyParts?,
        hskipName, List.cons_append, keyPart?_of_isBare hname (by decide)]
      simp only [Option.bind_eq_bind, Option.bind_some, skipBlanks_cons hdotBlank, hrest]

/-! ## Values -/

/-- The value that is written. -/
def Plain.value : Plain → Value
  | bool b => .bool b
  | int n => .int n
  | text s => .text s

/-- A plain value that is written in a form that can be read: a number in range, or a text that needs
no escapes. -/
def Plain.IsReadable : Plain → Prop
  | bool _ => True
  | int n => minInt ≤ n ∧ n ≤ maxInt
  | text s => isPlainText s.toList = true

/-- A text without anything to escape is read up to the quote. -/
theorem basic?_of_isPlainText {cs : List Char} (hcs : isPlainText cs = true) (rest : List Char) :
    basic? (cs ++ '"' :: rest) = some (cs, rest) := by
  induction cs with
  | nil => simp [basic?]
  | cons c cs ih =>
    rw [isPlainText, List.all_cons, Bool.and_eq_true] at hcs
    obtain ⟨hc, hcs⟩ := hcs
    simp only [Bool.and_eq_true, decide_eq_true_eq] at hc
    obtain ⟨⟨hplain, hquote⟩, hslash⟩ := hc
    rw [List.cons_append]
    unfold basic?
    split
    · rename_i heq
      exact nomatch heq
    · rename_i heq
      exact absurd (List.cons.inj heq).1 hquote
    · rename_i heq
      exact absurd (List.cons.inj heq).1 hslash
    · rename_i heq
      exact absurd (List.cons.inj heq).1 hslash
    · rename_i heq
      exact absurd (List.cons.inj heq).1 hslash
    · rename_i heq
      obtain ⟨rfl, rfl⟩ := List.cons.inj heq
      rw [if_pos ⟨hplain, hslash⟩, ih hcs]
      rfl

/-- A text is read as it is quoted. -/
theorem string?_quote {cs : List Char} (hcs : isPlainText cs = true) (rest : List Char) :
    string? (quote cs ++ '\n' :: rest) = some (cs, '\n' :: rest) := by
  have hquote : quote cs ++ '\n' :: rest = '"' :: (cs ++ '"' :: '\n' :: rest) := by
    rw [quote, if_pos hcs]
    simp
  rw [hquote]
  unfold string?
  split
  · -- Three quotes in a row would be an empty text with another one behind it.
    rename_i heq
    obtain ⟨-, heq⟩ := List.cons.inj heq
    cases cs with
    | nil => exact absurd heq (by simp)
    | cons c cs =>
      obtain ⟨rfl, -⟩ := List.cons.inj heq
      simp [isPlainText] at hcs
  · rename_i heq
    exact absurd (List.cons.inj heq).1 (by decide)
  · rw [shortString?, basic?_of_isPlainText hcs]

/-- A word is read as a word, and not as a text, a list or a table. -/
theorem itemWith?_word {w : List Char} (hne : w ≠ []) (hw : ∀ c ∈ w, isWordChar c = true)
    {v : Value} (hv : ofWord? w = some v) (nested? : Option (Reader Value)) (rest : List Char) :
    itemWith? nested? (w ++ '\n' :: rest) = some (v, '\n' :: rest) := by
  obtain ⟨c, cs, rfl⟩ := List.exists_cons_of_ne_nil hne
  have hc : isWordChar c = true := hw c (by simp)
  have hmark : ∀ d, isWordChar d = false → c ≠ d := fun d hd => Text.ne_of_test hc hd
  have hword := word_append_newline hw rest
  rw [List.cons_append] at hword ⊢
  unfold itemWith?
  split
  · rename_i heq
    exact absurd (List.cons.inj heq).1 (hmark '"' (by decide))
  · rename_i heq
    exact absurd (List.cons.inj heq).1 (hmark '\'' (by decide))
  · rename_i heq
    exact absurd (List.cons.inj heq).1 (hmark '[' (by decide))
  · rename_i heq
    exact absurd (List.cons.inj heq).1 (hmark '\x7b' (by decide))
  · rw [hword]
    simp only [hv, Option.map_some]

/-- A plain value is read as it is written, whatever may be nested. -/
theorem itemWith?_render {p : Plain} (hp : p.IsReadable) (nested? : Option (Reader Value))
    (rest : List Char) :
    itemWith? nested? (p.render ++ '\n' :: rest) = some (p.value, '\n' :: rest) := by
  cases p with
  | bool b =>
    cases b with
    | false =>
      have hword : ∀ c ∈ "false".toList, isWordChar c = true := List.all_eq_true.mp (by decide)
      exact itemWith?_word (by decide) hword ofWord?_false nested? rest
    | true =>
      have hword : ∀ c ∈ "true".toList, isWordChar c = true := List.all_eq_true.mp (by decide)
      exact itemWith?_word (by decide) hword ofWord?_true nested? rest
  | int n =>
    obtain ⟨c, cs, hcs, -⟩ := Digits.signed_eq_cons n
    exact itemWith?_word (by simp [hcs]) (isWordChar_signed n) (ofWord?_signed hp.1 hp.2) nested?
      rest
  | text s =>
    have hs : isPlainText s.toList = true := hp
    have hstring := string?_quote hs rest
    have hquote : quote s.toList ++ '\n' :: rest = '"' :: (s.toList ++ '"' :: '\n' :: rest) := by
      rw [quote, if_pos hs]
      simp
    rw [Plain.render]
    rw [hquote] at hstring ⊢
    simp [itemWith?, hstring, Plain.value]

/-- A plain value is read as it is written, at any depth. -/
theorem item?_render {p : Plain} (hp : p.IsReadable) (depth : Nat) (rest : List Char) :
    item? depth (p.render ++ '\n' :: rest) = some (p.value, '\n' :: rest) := by
  cases depth with
  | zero => exact itemWith?_render hp none rest
  | succ depth => exact itemWith?_render hp _ rest

/-! ## Lines -/

/-- Whatever follows, this line is a statement, or is without one. -/
def IsLine (line : List Char) (statement : Option Statement) : Prop :=
  ∀ rest, statement? (line ++ '\n' :: rest) = some (statement, '\n' :: rest)

theorem isLine_nil : IsLine [] none := fun _ => rfl

/-- A header is a line. -/
theorem isLine_header {path : List String} (hpath : path ≠ [])
    (hbare : ∀ name ∈ path, IsBare name) (hdepth : path.length ≤ maxKeyParts) :
    IsLine ('[' :: renderPath path ++ [']']) (some (.header path)) := by
  intro rest
  obtain ⟨c, cs, hcs, hc⟩ := renderPath_eq_cons hpath hbare
  have hkey : key? (renderPath path ++ ']' :: '\n' :: rest) = some (path, ']' :: '\n' :: rest) :=
    keyParts?_renderPath hpath hbare hdepth (by decide) (skipBlanks_cons (by decide) _) (by decide)
  have hopen : skipBlanks ('[' :: (renderPath path ++ ']' :: '\n' :: rest)) =
      '[' :: (renderPath path ++ ']' :: '\n' :: rest) := skipBlanks_cons (by decide) _
  have hline : '[' :: renderPath path ++ [']'] ++ '\n' :: rest =
      '[' :: (renderPath path ++ ']' :: '\n' :: rest) := by simp
  rw [hline]
  unfold statement?
  rw [hopen]
  split
  · -- The header of a list has a second bracket where the path begins here.
    rename_i heq
    rw [hcs] at heq
    exact absurd (List.cons.inj (List.cons.inj heq).2).1 (Text.ne_of_test hc (by decide))
  · rename_i heq
    obtain ⟨-, rfl⟩ := List.cons.inj heq
    simp only [hkey, Option.bind_eq_bind, Option.bind_some]
  · rename_i hother
    exact absurd rfl (hother _)

/-- A value does not begin with a blank. -/
theorem skipBlanks_render (p : Plain) (rest : List Char) :
    skipBlanks (' ' :: (p.render ++ rest)) = p.render ++ rest := by
  have hblank : ∃ c cs, p.render = c :: cs ∧ isBlank c = false := by
    cases p with
    | bool b =>
      cases b with
      | false => exact ⟨'f', "alse".toList, rfl, by decide⟩
      | true => exact ⟨'t', "rue".toList, rfl, by decide⟩
    | int n =>
      obtain ⟨c, cs, hcs, hc, -⟩ := Digits.signed_eq_cons n
      refine ⟨c, cs, hcs, ?_⟩
      rcases hc with rfl | hc
      · decide
      · exact isBlank_of_isKeyChar (by simp [isKeyChar, Char.isAlphanum, hc])
    | text s =>
      rw [Plain.render, quote]
      split
      · exact ⟨_, _, rfl, by decide⟩
      · split
        · exact ⟨_, _, rfl, by decide⟩
        · exact ⟨_, _, rfl, by decide⟩
  obtain ⟨c, cs, hcs, hc⟩ := hblank
  rw [hcs, List.cons_append]
  have hspace : isBlank ' ' = true := by decide
  rw [skipBlanks, List.dropWhile_cons_of_pos hspace]
  exact skipBlanks_cons hc _

/-- A name with its value is a line. -/
theorem isLine_pair {name : String} (hname : IsBare name) {p : Plain} (hp : p.IsReadable) :
    IsLine (renderKeyPart name ++ " = ".toList ++ p.render) (some (.pair [name] p.value)) := by
  intro rest
  obtain ⟨c, cs, hcs⟩ := List.exists_cons_of_ne_nil hname.1
  have hc : isKeyChar c = true := hname.2 c (by simp [hcs])
  let value := p.render ++ '\n' :: rest
  have hkey : key? (name.toList ++ ' ' :: '=' :: ' ' :: value) =
      some ([name], '=' :: ' ' :: value) := by
    have hpath : renderPath [name] = name.toList := renderKeyPart_of_isBare hname
    rw [← hpath]
    have hdepth : [name].length ≤ maxKeyParts := show 1 ≤ maxKeyParts by decide
    exact keyParts?_renderPath (by simp) (by simpa using hname) hdepth (by decide) rfl (by decide)
  have hpair : pair? (item? maxNesting) (name.toList ++ ' ' :: '=' :: ' ' :: value) =
      some (([name], p.value), '\n' :: rest) := by
    simp only [pair?, hkey, Option.bind_eq_bind, Option.bind_some, value, skipBlanks_render,
      item?_render hp]
  have hline : renderKeyPart name ++ " = ".toList ++ p.render ++ '\n' :: rest =
      c :: (cs ++ ' ' :: '=' :: ' ' :: value) := by
    rw [renderKeyPart_of_isBare hname, hcs]
    simp [value]
  rw [hcs, List.cons_append] at hpair
  rw [hline]
  unfold statement?
  rw [skipBlanks_cons (isBlank_of_isKeyChar hc)]
  -- A line of any other kind begins with a character that no bare name begins with.
  have hbracket : c ≠ '[' := Text.ne_of_test hc (by decide)
  split
  · rename_i heq
    exact absurd (List.cons.inj heq).1 hbracket
  · rename_i heq
    exact absurd (List.cons.inj heq).1 hbracket
  · have hhash : c ≠ '#' := Text.ne_of_test hc (by decide)
    have hend : lineEnd? (c :: (cs ++ ' ' :: '=' :: ' ' :: value)) = none := by
      unfold lineEnd?
      split
      · rename_i heq
        exact absurd (List.cons.inj heq).1 (Text.ne_of_test hc (by decide))
      · rename_i heq
        exact absurd (List.cons.inj heq).1 (Text.ne_of_test hc (by decide))
      · rfl
    simp [hhash, hend, hpair]

/-! ## Sheets -/

/-- A text holds these statements. -/
def Reads (text : List Char) (statements : List Statement) : Prop :=
  ∀ fuel, text.length < fuel → statements? fuel text = some statements

theorem reads_nil : Reads [] [] := by
  intro fuel hfuel
  obtain ⟨fuel, rfl⟩ : ∃ n, fuel = n + 1 := ⟨fuel - 1, by simp at hfuel; omega⟩
  rfl

/-- A line in front of a text is a statement in front of its statements. -/
theorem Reads.line {line text : List Char} {statement : Option Statement}
    {statements : List Statement} (htext : Reads text statements) (hline : IsLine line statement) :
    Reads (line ++ '\n' :: text) (statement.toList ++ statements) := by
  intro fuel hfuel
  rw [List.length_append, List.length_cons] at hfuel
  obtain ⟨fuel, rfl⟩ : ∃ n, fuel = n + 1 := ⟨fuel - 1, by omega⟩
  have hrest : statements? fuel text = some statements := htext fuel (by omega)
  have hskip : skipComment? (skipBlanks ('\n' :: text)) = some ('\n' :: text) := rfl
  simp only [statements?, hline text, hskip, lineEnd?, hrest, Option.bind_eq_bind, Option.bind_some]

namespace Section

/-- The statements of a section. -/
def statements (s : Section) : List Statement :=
  (if s.path = [] then [] else [.header s.path]) ++ s.entries.map fun e => .pair [e.1] e.2.value

/-- A section whose names are bare and whose values can be read. -/
structure IsReadable (s : Section) : Prop where
  path : ∀ name ∈ s.path, IsBare name
  depth : s.path.length ≤ maxKeyParts
  keys : ∀ e ∈ s.entries, IsBare e.1
  values : ∀ e ∈ s.entries, e.2.IsReadable

end Section

/-- The lines of a section are read one after the other, in front of a text. -/
theorem reads_entries {entries : List Entry} (hkeys : ∀ e ∈ entries, IsBare e.1)
    (hvalues : ∀ e ∈ entries, e.2.IsReadable) {text : List Char} {statements : List Statement}
    (htext : Reads text statements) :
    Reads (entries.flatMap renderEntry ++ text)
      (entries.map (fun e => .pair [e.1] e.2.value) ++ statements) := by
  induction entries with
  | nil => exact htext
  | cons e entries ih =>
    have hrest := ih (fun e he => hkeys e (by simp [he])) (fun e he => hvalues e (by simp [he]))
    have hline := isLine_pair (hkeys e (by simp)) (hvalues e (by simp))
    have hreads := hrest.line hline
    simpa [renderEntry] using hreads

/-- A section is read in front of a text. -/
theorem Section.IsReadable.reads {s : Section} (hs : s.IsReadable) {text : List Char}
    {statements : List Statement} (htext : Reads text statements) :
    Reads (s.render ++ text) (s.statements ++ statements) := by
  have hentries := reads_entries hs.keys hs.values htext
  rw [Section.render, Section.statements, renderHeader, List.append_assoc, List.append_assoc]
  by_cases hpath : s.path = []
  · rw [if_pos hpath, if_pos hpath]
    exact hentries
  · rw [if_neg hpath, if_neg hpath]
    have hreads := hentries.line (isLine_header hpath hs.path hs.depth)
    simpa using hreads

/-- A sheet is read section by section. -/
theorem reads_renderSheet {sections : List Section} (hsections : ∀ s ∈ sections, s.IsReadable) :
    Reads (renderSheet sections) (sections.flatMap Section.statements) := by
  induction sections with
  | nil => exact reads_nil
  | cons s sections ih =>
    have hs : s.IsReadable := hsections s (by simp)
    have hrest := ih fun s' hs' => hsections s' (by simp [hs'])
    cases sections with
    | nil =>
      have hreads := hs.reads reads_nil
      simpa [renderSheet] using hreads
    | cons s' sections =>
      -- The blank line between two sections is a line without a statement.
      have hreads := hs.reads (hrest.line isLine_nil)
      simpa [renderSheet] using hreads

end AudioLink.Toml
