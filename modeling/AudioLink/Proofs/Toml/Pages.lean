import AudioLink.Proofs.Toml.Layout
import AudioLink.Proofs.Toml.Locality

/-
Sheets line by line.

A page is a document in the layout of a sheet whose lines may have any form that a key with its
value can have: dotted and quoted keys, lists, inline tables, comments behind the value. All that
matters of a line is that it can be read, and then a page is read passage by passage like a sheet.
-/
set_option autoImplicit false

namespace AudioLink.Toml

/-! ## Pages -/

/-- A line that gives a key a value. -/
structure KeyLine where
  text : List Char
  key : List String
  value : Value

namespace KeyLine

/-- The line of an entry of a sheet. -/
def ofEntry (e : Entry) : KeyLine where
  text := renderKeyPart e.1 ++ " = ".toList ++ e.2.render
  key := [e.1]
  value := e.2.value

/-- The line with its end. -/
def render (l : KeyLine) : List Char := l.text ++ ['\n']

/-- The key with its value. -/
def pair (l : KeyLine) : List String × Value := (l.key, l.value)

/-- The text is one line, and it is read as the key with the value, with nothing behind it but
blanks and a comment. -/
structure IsRead (l : KeyLine) : Prop where
  oneLine : IsOneLine l.text
  pair : ∃ rest, statement? l.text = some (some (.pair l.key l.value), rest) ∧
    skipComment? (skipBlanks rest) = some []

/-- Reads a line. -/
def ofText? (text : List Char) : Option KeyLine :=
  match statement? text with
  | some (some (.pair key v), rest) =>
    if IsOneLine text ∧ skipComment? (skipBlanks rest) = some [] then some ⟨text, key, v⟩ else none
  | _ => none

/-- The lines among some texts. -/
def ofTexts (texts : List String) : List KeyLine := texts.filterMap (ofText? ·.toList)

/-- A line that parses as a key is one that a reader reads as this key. -/
theorem isRead_of_ofText? {text : List Char} {l : KeyLine} (hread : ofText? text = some l) :
    l.IsRead := by
  unfold ofText? at hread
  split at hread
  · rename_i key v rest hpair
    split at hread
    · rename_i hline
      obtain rfl := Option.some.inj hread
      exact ⟨hline.1, rest, hpair, hline.2⟩
    · cases hread
  · cases hread

theorem isRead_of_mem_ofTexts {texts : List String} {l : KeyLine} (hl : l ∈ ofTexts texts) :
    l.IsRead := by
  obtain ⟨text, -, htext⟩ := List.mem_filterMap.mp hl
  exact isRead_of_ofText? htext

/-- In front of a text the line is a statement in front of its statements. -/
def Extends (l : KeyLine) : Prop :=
  ∀ text statements, Reads text statements →
    Reads (l.text ++ '\n' :: text) (.pair l.key l.value :: statements)

/-- A line that is read puts its pair in front of what follows it. -/
theorem IsRead.extends {l : KeyLine} (hl : l.IsRead) : l.Extends := by
  obtain ⟨hline, behind, hpair, hbehind⟩ := hl
  intro text statements htext fuel hfuel
  rw [List.length_append, List.length_cons] at hfuel
  obtain ⟨fuel, rfl⟩ : ∃ n, fuel = n + 1 := ⟨fuel - 1, by omega⟩
  have hrest : statements? fuel text = some statements := htext fuel (by omega)
  simp only [statements?, statement?_append hline hpair, skipComment?_append hbehind, lineEnd?,
    hrest, Option.bind_eq_bind, Option.bind_some, Option.toList_some, List.singleton_append]

/-- A line that a writer writes puts its entry in front of what follows it. -/
theorem extends_ofEntry {e : Entry} (hname : IsBare e.1) (hvalue : e.2.IsReadable) :
    (ofEntry e).Extends :=
  fun _ _ htext => htext.line (isLine_pair hname hvalue)

/-- A line with a key does not begin with the mark of a byte order. -/
theorem Extends.head?_ne {l : KeyLine} (hl : l.Extends) : l.text.head? ≠ some '\uFEFF' := by
  intro hhead
  obtain ⟨body, hbody⟩ : ∃ body, l.text = '\uFEFF' :: body := List.head?_eq_some_iff.mp hhead
  have hreads := hl [] [] reads_nil _ (Nat.lt_succ_self _)
  have hstatement : statement? (l.text ++ ['\n']) = none := by
    rw [hbody]
    rfl
  rw [statements?, hstatement] at hreads
  exact Option.some_ne_none _ hreads.symm

end KeyLine

/-- A table of a page. -/
structure Passage where
  /-- Path of the table; empty for the root, which has no header. -/
  path : List String
  lines : List KeyLine

namespace Passage

/-- The passage of a section. -/
def ofSection (s : Section) : Passage := ⟨s.path, s.entries.map KeyLine.ofEntry⟩

/-- The passage as lines. -/
def render (p : Passage) : List Char := renderHeader p.path ++ p.lines.flatMap KeyLine.render

/-- The statements of a passage that has a header. -/
def statements (p : Passage) : List Statement :=
  .header p.path :: Outline.pairs (p.lines.map KeyLine.pair)

/-- Passages with a blank line between each two of them. -/
def renderAll : List Passage → List Char
  | [] => []
  | [p] => p.render
  | p :: rest => p.render ++ '\n' :: renderAll rest

end Passage

/-- A sheet line by line. -/
structure Page where
  /-- The lines in front of the first header. -/
  front : List KeyLine
  passages : List Passage

namespace Page

/-- The page of a sheet. -/
def ofSections (sections : List Section) : Page := ⟨[], sections.map Passage.ofSection⟩

/-- The text of a page. -/
def render (page : Page) : List Char :=
  page.front.flatMap KeyLine.render ++ Passage.renderAll page.passages

end Page

/-- A section is rendered as it was before it became a passage. -/
theorem Passage.render_ofSection (s : Section) : (ofSection s).render = s.render := by
  have hlines : ∀ entries : List Entry, (entries.map KeyLine.ofEntry).flatMap KeyLine.render =
      entries.flatMap renderEntry := by
    intro entries
    rw [List.flatMap_map]
    rfl
  rw [render, Section.render, ofSection, hlines]

/-- The text of a sheet is that of its page. -/
theorem Page.render_ofSections (sections : List Section) :
    (ofSections sections).render = renderSheet sections := by
  have hall : Passage.renderAll (sections.map Passage.ofSection) = renderSheet sections := by
    induction sections with
    | nil => rfl
    | cons s sections ih =>
      cases sections with
      | nil => exact Passage.render_ofSection s
      | cons s' sections =>
        rw [List.map_cons] at ih
        simp only [List.map_cons, Passage.renderAll, ih, Passage.render_ofSection, renderSheet]
  exact hall

/-! ## Reading a page -/

/-- Lines are read one after the other, in front of a text. -/
theorem reads_lines {lines : List KeyLine} (hlines : ∀ l ∈ lines, l.Extends) {text : List Char}
    {statements : List Statement} (htext : Reads text statements) :
    Reads (lines.flatMap KeyLine.render ++ text)
      (Outline.pairs (lines.map KeyLine.pair) ++ statements) := by
  induction lines with
  | nil => exact htext
  | cons l lines ih =>
    rw [List.forall_mem_cons] at hlines
    have hreads := hlines.1 _ _ (ih hlines.2)
    simpa [KeyLine.render, Outline.pairs, KeyLine.pair] using hreads

/-- A passage under a header that can be read, with lines that can be read. -/
structure Passage.IsReadable (p : Passage) : Prop where
  ne : p.path ≠ []
  bare : ∀ name ∈ p.path, IsBare name
  depth : p.path.length ≤ maxKeyParts
  lines : ∀ l ∈ p.lines, l.Extends

/-- A passage is read in front of a text. -/
theorem Passage.IsReadable.reads {p : Passage} (hp : p.IsReadable) {text : List Char}
    {statements : List Statement} (htext : Reads text statements) :
    Reads (p.render ++ text) (p.statements ++ statements) := by
  have hreads := (reads_lines hp.lines htext).line (isLine_header hp.ne hp.bare hp.depth)
  rw [render, renderHeader, if_neg hp.ne]
  simpa [Passage.statements] using hreads

/-- All passages of a page are read, in their order. -/
theorem Passage.reads_renderAll {passages : List Passage}
    (hpassages : ∀ p ∈ passages, p.IsReadable) :
    Reads (renderAll passages) (passages.flatMap Passage.statements) := by
  induction passages with
  | nil => exact reads_nil
  | cons p passages ih =>
    rw [List.forall_mem_cons] at hpassages
    obtain ⟨hp, hpassages⟩ := hpassages
    cases passages with
    | nil =>
      have hreads := hp.reads reads_nil
      simpa [renderAll] using hreads
    | cons p' passages =>
      have hreads := hp.reads ((ih hpassages).line isLine_nil)
      simpa [renderAll] using hreads

namespace Page

/-- The statements of a page. -/
def statements (page : Page) : List Statement :=
  Outline.pairs (page.front.map KeyLine.pair) ++ page.passages.flatMap Passage.statements

variable {page : Page}

/-- A page starts with no byte order mark. -/
theorem skipByteOrderMark_render (hfront : ∀ l ∈ page.front, l.Extends)
    (hpassages : ∀ p ∈ page.passages, p.IsReadable) :
    skipByteOrderMark page.render = page.render := by
  apply skipByteOrderMark_of_head?
  obtain ⟨front, passages⟩ := page
  cases front with
  | cons l front =>
    have hl := (hfront l List.mem_cons_self).head?_ne
    cases htext : l.text with
    | nil => simp [render, KeyLine.render, htext]
    | cons c cs =>
      rw [htext] at hl
      simpa [render, KeyLine.render, htext] using hl
  | nil =>
    -- The header of the first passage begins with a bracket.
    cases passages with
    | nil => simp [render, Passage.renderAll]
    | cons p passages =>
      have hp : p.path ≠ [] := (hpassages p List.mem_cons_self).ne
      cases passages with
      | nil => simp [render, Passage.renderAll, Passage.render, renderHeader, hp]
      | cons p' passages => simp [render, Passage.renderAll, Passage.render, renderHeader, hp]

/-- A page is read as its statements, and those make the document. -/
theorem parse?_render (hfront : ∀ l ∈ page.front, l.Extends)
    (hpassages : ∀ p ∈ page.passages, p.IsReadable) {draft : Draft}
    (hrun : Outline.runAll page.statements .empty = some draft) :
    parse? page.render = some (.table (fieldValues draft.root)) := by
  have hreads := reads_lines hfront (Passage.reads_renderAll hpassages)
  have hstatements := hreads _ (Nat.lt_succ_self _)
  rw [Outline.runAll] at hrun
  have hstatements' : statements? (page.render.length + 1) page.render = some page.statements :=
    hstatements
  simp only [parse?, skipByteOrderMark_render hfront hpassages, hstatements', hrun,
    Option.bind_eq_bind, Option.bind_some]

end Page

end AudioLink.Toml
