import Assay.Cli.Run
import Mathlib

/-!
# Reading a report in XML back

A reader that splits a document into tags and the text in front of each, and undoes the entities. It
gets back what was written, whatever the texts and the values are (`readXml_write`), so a report
says what it should and nothing in a name or in what a command printed can be taken for markup
(`junit_reads_back`).
-/

namespace Assay.Report

open Suite

/-! ## Entities -/

/-- A text as it is written. -/
abbrev escape (s : List Char) : List Char :=
  s.flatMap escapeChar

/-- The text with its entities undone, each once. -/
def unescape : List Char → List Char
  | '&' :: 'a' :: 'm' :: 'p' :: ';' :: s => '&' :: unescape s
  | '&' :: 'l' :: 't' :: ';' :: s => '<' :: unescape s
  | '&' :: 'g' :: 't' :: ';' :: s => '>' :: unescape s
  | '&' :: 'q' :: 'u' :: 'o' :: 't' :: ';' :: s => '"' :: unescape s
  | '&' :: 'a' :: 'p' :: 'o' :: 's' :: ';' :: s => '\'' :: unescape s
  | c :: s => c :: unescape s
  | [] => []

/-- A character that begins no entity stands for itself. -/
theorem unescape_cons {c : Char} (s : List Char) (hc : c ≠ '&') :
    unescape (c :: s) = c :: unescape s := by
  rw [unescape.eq_def]
  grind

/-- What is written for a character is read back as it. -/
theorem unescape_escapeChar (c : Char) (s : List Char) :
    unescape (escapeChar c ++ s) = c :: unescape s := by
  by_cases hamp : c = '&'
  · subst hamp; rfl
  · rw [escapeChar.eq_def]
    split
    · rfl
    · rfl
    · rfl
    · rfl
    · rfl
    · exact unescape_cons s hamp

/-- What is written for a text is read back as it. -/
theorem unescape_escape (s : List Char) : unescape (escape s) = s := by
  induction s with
  | nil => rfl
  | cons c s ih => rw [escape, List.flatMap_cons, unescape_escapeChar, ih]

/-- What is written holds no character that has a meaning. -/
theorem not_special_of_mem_escape {s : List Char} {c : Char} (h : c ∈ escape s) :
    c ≠ '<' ∧ c ≠ '"' := by
  obtain ⟨d, -, hc⟩ := List.mem_flatMap.1 h
  rw [escapeChar.eq_def] at hc
  split at hc
  · exact (by simp : ∀ c ∈ "&amp;".toList, c ≠ '<' ∧ c ≠ '"') c hc
  · exact (by simp : ∀ c ∈ "&lt;".toList, c ≠ '<' ∧ c ≠ '"') c hc
  · exact (by simp : ∀ c ∈ "&gt;".toList, c ≠ '<' ∧ c ≠ '"') c hc
  · exact (by simp : ∀ c ∈ "&quot;".toList, c ≠ '<' ∧ c ≠ '"') c hc
  · exact (by simp : ∀ c ∈ "&apos;".toList, c ≠ '<' ∧ c ≠ '"') c hc
  · next hlt _ hquote _ =>
    obtain rfl := List.mem_singleton.1 hc
    exact ⟨hlt, hquote⟩

/-! ## Reading -/

/-- A tag: its name, its attributes, and the mark in front of its closing bracket. A name holds the
slash of a closing tag. -/
structure Tag where
  name : List Char
  attrs : List (List Char × List Char) := []
  mark : Option Char := none
deriving DecidableEq

/-- A tag and the text in front of it. -/
abbrev Item := List Char × Tag

/-- What is being read: a text, or a tag behind a text. -/
inductive Mode where
  | text (read : List Char)
  | tag (text read : List Char)
  | attr (text : List Char) (t : Tag) (read : List Char)
  | equals (text : List Char) (t : Tag) (name : List Char)
  | value (text : List Char) (t : Tag) (name read : List Char)
  | behind (text : List Char) (t : Tag)
  | marked (text : List Char) (t : Tag)

/-- What has been read, and what is being read. -/
abbrev Progress := List Item × Mode

/-- Reads a character. -/
def step : Progress → Char → Option Progress
  | (items, .text read), c =>
    some (items, if c = '<' then .tag read [] else .text (read ++ [c]))
  | (items, .tag text read), c =>
    if c = '>' then some (items ++ [(text, { name := read })], .text [])
    else some (items, if c = ' ' then .attr text { name := read } [] else .tag text (read ++ [c]))
  | (items, .attr text t read), c =>
    some (items, if c = '=' then .equals text t read else .attr text t (read ++ [c]))
  | (items, .equals text t name), c =>
    if c = '"' then some (items, .value text t name []) else none
  | (items, .value text t name read), c =>
    some (items, if c = '"' then .behind text { t with attrs := t.attrs ++ [(name, read)] }
      else .value text t name (read ++ [c]))
  | (items, .behind text t), c =>
    if c = ' ' then some (items, .attr text t [])
    else if c = '>' then some (items ++ [(text, t)], .text [])
    else if c = '/' ∨ c = '?' then some (items, .marked text { t with mark := some c })
    else none
  | (items, .marked text t), c =>
    if c = '>' then some (items ++ [(text, t)], .text []) else none

/-- A tag with its values changed. -/
def Tag.map (f : List Char → List Char) (t : Tag) : Tag :=
  { t with attrs := t.attrs.map fun a => (a.1, f a.2) }

/-- The tags of a document, each with the text in front of it, and the text behind them. -/
def readXml (s : List Char) : Option (List Item × List Char) :=
  match s.foldlM step ([], .text []) with
  | some (items, .text rest) =>
    some (items.map fun x => (unescape x.1, x.2.map unescape), unescape rest)
  | _ => none

/-! ## Writing -/

/-- An attribute as it is written. -/
def writeAttr (a : List Char × List Char) : List Char :=
  ' ' :: (a.1 ++ '=' :: '"' :: (escape a.2 ++ ['"']))

/-- A tag as it is written. -/
def Tag.write (t : Tag) : List Char :=
  '<' :: (t.name ++ (t.attrs.flatMap writeAttr ++ (t.mark.toList ++ ['>'])))

/-- A tag whose names hold no character that would end them. -/
structure Tag.Readable (t : Tag) : Prop where
  name : ∀ c ∈ t.name, c ≠ '>' ∧ c ≠ ' '
  attrs : ∀ a ∈ t.attrs, ∀ c ∈ a.1, c ≠ '='
  mark : ∀ c ∈ t.mark, (c = '/' ∨ c = '?') ∧ t.attrs ≠ []

/-- Reading a text leads from one point to another. -/
def Reads (p : Progress) (s : List Char) (q : Progress) : Prop :=
  s.foldlM step p = some q

variable {p q r : Progress} {s : List Char} {items : List Item} {text : List Char} {t : Tag}

/-- A text is read in two parts. -/
theorem Reads.append {s' : List Char} (h : Reads p s q) (h' : Reads q s' r) :
    Reads p (s ++ s') r := by
  rw [Reads, List.foldlM_append, h]
  exact h'

/-- A text is read from its first character on. -/
theorem Reads.cons {c : Char} (h : step p c = some q) (h' : Reads q s r) : Reads p (c :: s) r := by
  rw [Reads, List.foldlM_cons, h]
  exact h'

/-- Characters without a meaning are read one after the other. -/
theorem reads_plain {m : List Char → Mode} {read : List Char}
    (h : ∀ c ∈ s, ∀ read, step (items, m read) c = some (items, m (read ++ [c]))) :
    Reads (items, m read) s (items, m (read ++ s)) := by
  induction s generalizing read with
  | nil => rw [List.append_nil]; rfl
  | cons c s ih =>
    obtain ⟨hc, hs⟩ := List.forall_mem_cons.1 h
    have hrest : Reads (items, m (read ++ [c])) s (items, m (read ++ [c] ++ s)) := ih hs
    rw [List.append_assoc, List.singleton_append] at hrest
    exact Reads.cons (hc read) hrest

/-- An attribute is read with its name and its value. -/
theorem reads_attr {name value : List Char} (hname : ∀ c ∈ name, c ≠ '=') :
    Reads (items, .attr text t []) (name ++ '=' :: '"' :: (escape value ++ ['"']))
      (items, .behind text { t with attrs := t.attrs ++ [(name, escape value)] }) := by
  have h₁ : Reads (items, .attr text t []) name (items, .attr text t name) :=
    reads_plain (m := .attr text t) fun c hc read => by simp [step, hname c hc]
  have h₂ : Reads (items, .value text t name []) (escape value)
      (items, .value text t name (escape value)) :=
    reads_plain (m := .value text t name) fun c hc read => by
      simp [step, (not_special_of_mem_escape hc).2]
  refine h₁.append (.cons rfl (.cons rfl (h₂.append (.cons ?_ rfl))))
  rfl

/-- Attributes are read in their order. -/
theorem reads_attrs {attrs : List (List Char × List Char)}
    (h : ∀ a ∈ attrs, ∀ c ∈ a.1, c ≠ '=') :
    Reads (items, .behind text t) (attrs.flatMap writeAttr)
      (items, .behind text { t with
        attrs := t.attrs ++ attrs.map fun a => (a.1, escape a.2) }) := by
  induction attrs generalizing t with
  | nil => rw [List.map_nil, List.append_nil]; rfl
  | cons a attrs ih =>
    obtain ⟨ha, hattrs⟩ := List.forall_mem_cons.1 h
    have hrest := ih (t := { t with attrs := t.attrs ++ [(a.1, escape a.2)] }) hattrs
    rw [List.append_assoc, List.singleton_append] at hrest
    rw [List.flatMap_cons, writeAttr, List.cons_append]
    exact .cons rfl ((reads_attr ha).append hrest)

/-- A tag is read with its kind, its name and its attributes. -/
theorem reads_tag (h : t.Readable) :
    Reads (items, .text text) t.write (items ++ [(text, t.map escape)], .text []) := by
  have hname : Reads (items, .tag text []) t.name (items, .tag text t.name) :=
    reads_plain (m := .tag text) fun c hc read => by simp [step, h.name c hc]
  refine .cons rfl (hname.append ?_)
  obtain ⟨name, attrs, mark⟩ := t
  cases attrs with
  | nil =>
    cases mark with
    | none => exact .cons rfl rfl
    | some c => exact absurd rfl (h.mark c rfl).2
  | cons a attrs =>
    obtain ⟨ha, hattrs⟩ := List.forall_mem_cons.1 h.attrs
    rw [List.flatMap_cons, writeAttr, List.append_assoc, List.cons_append]
    refine .cons rfl ((reads_attr ha).append ((reads_attrs hattrs).append ?_))
    cases mark with
    | none => exact .cons rfl rfl
    | some c =>
      obtain rfl | rfl := (h.mark c rfl).1
      · exact .cons rfl (.cons rfl rfl)
      · exact .cons rfl (.cons rfl rfl)

/-- Tags as they are written, each behind its text. -/
def writeItems (items : List Item) : List Char :=
  items.flatMap fun x => escape x.1 ++ x.2.write

/-- A text that was escaped begins no tag. -/
theorem reads_text (s : List Char) :
    Reads (items, .text []) (escape s) (items, .text (escape s)) :=
  reads_plain (m := .text) fun c hc read => by simp [step, (not_special_of_mem_escape hc).1]

/-- Texts and tags in turn are read as such. -/
theorem reads_items {more : List Item} (h : ∀ x ∈ more, x.2.Readable) :
    Reads (items, .text []) (writeItems more)
      (items ++ more.map fun x => (escape x.1, x.2.map escape), .text []) := by
  induction more generalizing items with
  | nil => rw [List.map_nil, List.append_nil]; rfl
  | cons x more ih =>
    obtain ⟨hx, hmore⟩ := List.forall_mem_cons.1 h
    have hrest := @ih (items ++ [(escape x.1, x.2.map escape)]) hmore
    rw [List.append_assoc, List.singleton_append] at hrest
    rw [writeItems, List.flatMap_cons]
    exact ((reads_text x.1).append (reads_tag hx)).append hrest

/-- The values of a tag come back as they were written. -/
theorem Tag.map_unescape_map_escape (t : Tag) : (t.map escape).map unescape = t := by
  simp [Tag.map, Function.comp_def, unescape_escape]

/-- Tags and texts are read back as they were before they were written. -/
theorem readXml_write {rest : List Char} (h : ∀ x ∈ items, x.2.Readable) :
    readXml (writeItems items ++ escape rest) = some (items, rest) := by
  have hread : Reads ([], .text []) (writeItems items ++ escape rest)
      (items.map (fun x => (escape x.1, x.2.map escape)), .text (escape rest)) :=
    (reads_items h).append (reads_text rest)
  rw [readXml, hread]
  dsimp only
  rw [List.map_map, unescape_escape]
  congr 2
  refine List.map_id'' (fun x => ?_) items
  rw [Function.comp_apply, unescape_escape, Tag.map_unescape_map_escape]

/-! ## The document -/

/-- The attributes that count tests and tell the time. -/
def countAttrs (tests : List TestResult) (duration : Nat) : List (List Char × List Char) := [
  ("tests".toList, (toString tests.length).toList),
  ("failures".toList, (toString (tests.countP fun t => !t.passed)).toList),
  ("skipped".toList, (toString (tests.countP fun t => t.skipped.isSome)).toList),
  ("time".toList, (secondsText duration).toList)]

/-- The end of a line and what the next line begins with. -/
def indented (blanks : Nat) : List Char :=
  '\n' :: List.replicate blanks ' '

/-- What a case holds: the reason of a skipped one, and the failures of a failed one. -/
def outcomeItems (t : TestResult) : List Item :=
  match t.skipped with
  | some reason =>
    [(indented 6, ⟨"skipped".toList, [("message".toList, reason.toList)], some '/'⟩)]
  | none =>
    if t.passed then []
    else
      let texts := t.failures.map Failure.message
      [(indented 6, ⟨"failure".toList,
          [("message".toList, (texts.head?.getD "Test failed").toList)], none⟩),
        (texts.flatMap (fun text => '\n' :: text.toList) ++ indented 6,
          ⟨"/failure".toList, [], none⟩)]

/-- A case: its name and its time, and what came of it. -/
def caseItems (t : TestResult) : List Item :=
  (indented 4, ⟨"testcase".toList, [("name".toList, t.name.toList),
    ("time".toList, (secondsText t.duration).toList)], none⟩) ::
    (outcomeItems t ++ [(indented 4, ⟨"/testcase".toList, [], none⟩)])

/-- A suite: the name of its file, its counts, and its cases. -/
def suiteItems (f : FileReport) : List Item :=
  (indented 2, ⟨"testsuite".toList,
    ("name".toList, f.path.text.toList) :: countAttrs f.tests f.duration, none⟩) ::
    (f.tests.flatMap caseItems ++ [(indented 2, ⟨"/testsuite".toList, [], none⟩)])

/-- The document: its declaration, and its suites between the tags of the whole. -/
def documentItems (r : SuiteReport) : List Item :=
  ([], ⟨"?xml".toList, [("version".toList, "1.0".toList), ("encoding".toList, "UTF-8".toList)],
    some '?'⟩) ::
  (indented 0, ⟨"testsuites".toList,
    countAttrs (r.files.flatMap FileReport.tests) r.duration, none⟩) ::
    (r.files.flatMap suiteItems ++ [(indented 0, ⟨"/testsuites".toList, [], none⟩)])

/-- Lines, each behind the end of the line before it. -/
def laidOut (lines : List String) : List Char :=
  lines.flatMap fun line => '\n' :: line.toList

/-- Lines are written with a line break behind each. -/
theorem toList_unlines (line : String) (lines : List String) :
    (Cli.unlines (line :: lines)).toList = line.toList ++ (laidOut lines ++ ['\n']) := by
  have hflat (line : String) (lines : List String) :
      ((line :: lines).flatMap fun l => l.toList ++ ['\n']) =
        line.toList ++ (laidOut lines ++ ['\n']) := by
    induction lines generalizing line with
    | nil => simp [laidOut]
    | cons next lines ih =>
      rw [List.flatMap_cons, ih, laidOut, laidOut, List.flatMap_cons]
      simp
  rw [← hflat, Cli.unlines, String.toList_join, List.flatMap_map]
  simp

/-- Lines are laid out one behind the other. -/
theorem laidOut_append (before behind : List String) :
    laidOut (before ++ behind) = laidOut before ++ laidOut behind :=
  List.flatMap_append

/-- Texts and tags are written one behind the other. -/
theorem writeItems_append (before behind : List Item) :
    writeItems (before ++ behind) = writeItems before ++ writeItems behind :=
  List.flatMap_append

/-- An attribute of the report is written as one. -/
theorem toList_xmlAttr (name value : String) :
    (xmlAttr name value).toList = writeAttr (name.toList, value.toList) := by
  simp [xmlAttr, writeAttr, escapeXml]

/-- The counts of the report are written as attributes. -/
theorem toList_counts (tests : List TestResult) (duration : Nat) :
    (counts tests duration).toList = (countAttrs tests duration).flatMap writeAttr := by
  simp [counts, countAttrs, toList_xmlAttr]

/-- A line break is written as it is. -/
theorem escapeChar_newline : escapeChar '\n' = ['\n'] := rfl

/-- A blank is written as it is. -/
theorem escapeChar_blank : escapeChar ' ' = [' '] := rfl

/-- A text and a tag are written in front of the others. -/
theorem writeItems_cons (x : Item) (more : List Item) :
    writeItems (x :: more) = escape x.1 ++ (x.2.write ++ writeItems more) := by
  rw [writeItems, writeItems, List.flatMap_cons, List.append_assoc]

/-- A line with a tag. -/
theorem writeItems_indented (blanks : Nat) (t : Tag) (more : List Item) :
    writeItems ((indented blanks, t) :: more) =
      '\n' :: (List.replicate blanks ' ' ++ (t.write ++ writeItems more)) := by
  have hblanks : (List.replicate blanks ' ').flatMap escapeChar = List.replicate blanks ' ' := by
    induction blanks with
    | zero => rfl
    | succ n ih =>
      rw [List.replicate_succ, List.flatMap_cons, ih, escapeChar_blank, List.singleton_append]
  rw [writeItems, List.flatMap_cons, indented, escape, List.flatMap_cons, escapeChar_newline,
    hblanks, writeItems]
  simp

/-- A line is laid out in front of the others. -/
theorem laidOut_cons (line : String) (lines : List String) :
    laidOut (line :: lines) = '\n' :: (line.toList ++ laidOut lines) := by
  rw [laidOut, laidOut, List.flatMap_cons, List.cons_append]

/-- The lines about an outcome are its texts and tags. -/
theorem laidOut_outcomeLines (t : TestResult) :
    laidOut (outcomeLines t) = writeItems (outcomeItems t) := by
  rw [outcomeLines, outcomeItems]
  cases t.skipped with
  | some reason =>
    dsimp only
    rw [laidOut_cons, writeItems_indented]
    simp [laidOut, writeItems, toList_xmlAttr, Tag.write]
  | none =>
    dsimp only
    split
    · rfl
    · have htexts (texts : List String) : laidOut (texts.map escapeXml) =
          escape (texts.flatMap fun text => '\n' :: text.toList) := by
        simp [laidOut, escapeXml, escape, List.flatMap_map, List.flatMap_assoc, escapeChar_newline]
      have hclose : laidOut ["      </failure>"] =
          escape (indented 6) ++ Tag.write ⟨"/failure".toList, [], none⟩ := by
        simp [laidOut, indented, escapeChar_newline, escapeChar_blank, Tag.write]
      rw [laidOut_append, laidOut_append, htexts, hclose, laidOut_cons, writeItems_indented]
      simp [laidOut, writeItems, toList_xmlAttr, Tag.write]

/-- The lines about a test are its texts and tags. -/
theorem laidOut_caseLines (t : TestResult) :
    laidOut (caseLines t) = writeItems (caseItems t) := by
  rw [caseLines, caseItems, laidOut_append, laidOut_append, laidOut_outcomeLines, laidOut_cons,
    writeItems_indented, writeItems_append, writeItems_indented]
  simp [laidOut, writeItems, toList_xmlAttr, Tag.write]

/-- The lines about a file are its texts and tags. -/
theorem laidOut_suiteLines (f : FileReport) :
    laidOut (suiteLines f) = writeItems (suiteItems f) := by
  have hcases : laidOut (f.tests.flatMap caseLines) = writeItems (f.tests.flatMap caseItems) := by
    rw [laidOut, writeItems, List.flatMap_assoc, List.flatMap_assoc]
    exact List.flatMap_congr fun t _ => laidOut_caseLines t
  rw [suiteLines, suiteItems, laidOut_append, laidOut_append, hcases, laidOut_cons,
    writeItems_indented, writeItems_append, writeItems_indented]
  simp [laidOut, writeItems, toList_xmlAttr, toList_counts, Tag.write]

/-- The report is its texts and tags. -/
theorem toList_junit (r : SuiteReport) :
    (Cli.unlines (junitLines r)).toList = writeItems (documentItems r) ++ escape ['\n'] := by
  have hsuites :
      laidOut (r.files.flatMap suiteLines) = writeItems (r.files.flatMap suiteItems) := by
    rw [laidOut, writeItems, List.flatMap_assoc, List.flatMap_assoc]
    exact List.flatMap_congr fun f _ => laidOut_suiteLines f
  rw [junitLines, List.cons_append, List.cons_append, toList_unlines, laidOut_append,
    laidOut_append, hsuites, documentItems, laidOut_cons, writeItems_cons, writeItems_indented,
    writeItems_append, writeItems_indented]
  have hdeclaration : "<?xml version=\"1.0\" encoding=\"UTF-8\"?>".toList =
      Tag.write ⟨"?xml".toList,
        [("version".toList, "1.0".toList), ("encoding".toList, "UTF-8".toList)], some '?'⟩ := by
    rfl
  rw [hdeclaration]
  simp [laidOut, writeItems, toList_counts, Tag.write, escapeChar_newline]

/-! ## What the document says -/

/-- The tags about an outcome can be read. -/
theorem readable_outcomeItems (t : TestResult) : ∀ x ∈ outcomeItems t, x.2.Readable := by
  rw [outcomeItems]
  cases t.skipped with
  | some reason =>
    rw [List.forall_mem_singleton]
    exact ⟨by simp, by simp, by simp⟩
  | none =>
    dsimp only
    split
    · exact List.forall_mem_nil _
    · rw [List.forall_mem_cons, List.forall_mem_singleton]
      exact ⟨⟨by simp, by simp, by simp⟩, by simp, by simp, by simp⟩

/-- The tags about a test can be read. -/
theorem readable_caseItems (t : TestResult) : ∀ x ∈ caseItems t, x.2.Readable := by
  rw [caseItems, List.forall_mem_cons, List.forall_mem_append, List.forall_mem_singleton]
  exact ⟨⟨by simp, by simp, by simp⟩, readable_outcomeItems t, by simp, by simp, by simp⟩

/-- The tags about a file can be read. -/
theorem readable_suiteItems (f : FileReport) : ∀ x ∈ suiteItems f, x.2.Readable := by
  rw [suiteItems, List.forall_mem_cons, List.forall_mem_append, List.forall_mem_singleton,
    List.forall_mem_flatMap]
  exact ⟨⟨by simp, by simp [countAttrs], by simp⟩, fun t _ => readable_caseItems t,
    by simp, by simp, by simp⟩

/-- The tags of the report can be read. -/
theorem readable_documentItems (r : SuiteReport) : ∀ x ∈ documentItems r, x.2.Readable := by
  rw [documentItems, List.forall_mem_cons, List.forall_mem_cons, List.forall_mem_append,
    List.forall_mem_singleton, List.forall_mem_flatMap]
  exact ⟨⟨by simp, by simp, by simp⟩, ⟨by simp, by simp [countAttrs], by simp⟩,
    fun f _ => readable_suiteItems f, by simp, by simp, by simp⟩

/-- The number of tags of a name. -/
def tagCount (name : String) (items : List Item) : Nat :=
  items.countP fun x => x.2.name = name.toList

/-- Attributes that say how many elements of each kind there are. -/
def CountsOf (below : List Item) (attrs : List (List Char × List Char)) : Prop :=
  ("tests".toList, (toString (tagCount "testcase" below)).toList) ∈ attrs ∧
    ("failures".toList, (toString (tagCount "failure" below)).toList) ∈ attrs ∧
    ("skipped".toList, (toString (tagCount "skipped" below)).toList) ∈ attrs

/-- A skipped test counts as passed. -/
def SkippedPass (tests : List TestResult) : Prop :=
  ∀ t ∈ tests, t.skipped.isSome = true → t.passed = true

/-- Elements are counted part by part. -/
theorem tagCount_append (name : String) (before behind : List Item) :
    tagCount name (before ++ behind) = tagCount name before + tagCount name behind :=
  List.countP_append

/-- The elements about tests are as many as their counts say. -/
theorem tagCount_cases {tests : List TestResult} (h : SkippedPass tests) :
    tagCount "testcase" (tests.flatMap caseItems) = tests.length ∧
      tagCount "failure" (tests.flatMap caseItems) = tests.countP (fun t => !t.passed) ∧
      tagCount "skipped" (tests.flatMap caseItems) = tests.countP fun t => t.skipped.isSome := by
  induction tests with
  | nil => exact ⟨rfl, rfl, rfl⟩
  | cons t tests ih =>
    obtain ⟨ht, htests⟩ := List.forall_mem_cons.1 h
    obtain ⟨hcases, hfailures, hskipped⟩ := ih htests
    simp only [List.flatMap_cons, tagCount_append, hcases, hfailures, hskipped, List.countP_cons,
      List.length_cons]
    cases hreason : t.skipped with
    | some reason =>
      have hpassed : t.passed = true := ht (by rw [hreason]; rfl)
      simp [caseItems, outcomeItems, hreason, hpassed, tagCount]
      omega
    | none =>
      cases hpassed : t.passed
      all_goals
        simp [caseItems, outcomeItems, hreason, hpassed, tagCount]
        omega

/-- The elements of each kind below all files are those of their tests. -/
theorem tagCount_suites {name : String} (files : List FileReport)
    (hname : name ∈ ["testcase", "failure", "skipped"]) :
    tagCount name (files.flatMap suiteItems) =
      tagCount name ((files.flatMap FileReport.tests).flatMap caseItems) := by
  induction files with
  | nil => rfl
  | cons f files ih =>
    rw [List.flatMap_cons, List.flatMap_cons, List.flatMap_append, tagCount_append,
      tagCount_append, ih, suiteItems]
    simp only [List.mem_cons, List.not_mem_nil, or_false] at hname
    obtain rfl | rfl | rfl := hname
    all_goals simp [tagCount]

/-- The counts in the attributes are those of the elements below. -/
theorem countsOf {tests : List TestResult} {below : List Item} (h : SkippedPass tests)
    (hbelow : ∀ name ∈ ["testcase", "failure", "skipped"],
      tagCount name below = tagCount name (tests.flatMap caseItems)) (duration : Nat) :
    CountsOf below (countAttrs tests duration) := by
  obtain ⟨hcases, hfailures, hskipped⟩ := tagCount_cases h
  rw [CountsOf, hbelow "testcase" (by simp), hbelow "failure" (by simp),
    hbelow "skipped" (by simp), hcases, hfailures, hskipped]
  simp [countAttrs]

/-- One character of a text replaced. -/
def replaced (c : Char) (text : String) (s : List Char) : List Char :=
  s.flatMap fun d => if d = c then text.toList else [d]

/-- Replacing the ampersands first and then the other four escapes nothing twice. -/
theorem escape_eq_replaced (s : List Char) :
    replaced '\'' "&apos;" (replaced '"' "&quot;" (replaced '>' "&gt;" (replaced '<' "&lt;"
      (replaced '&' "&amp;" s)))) = escape s := by
  have hkeep (c d : Char) (text : String) (s : List Char) (h : d ≠ c) :
      replaced c text (d :: s) = d :: replaced c text s := by
    rw [replaced, List.flatMap_cons, if_neg h]
    rfl
  induction s with
  | nil => rfl
  | cons c s ih =>
    rw [escape, List.flatMap_cons, ← escape, ← ih]
    by_cases hspecial : c ∈ ['&', '<', '>', '"', '\'']
    · simp only [List.mem_cons, List.not_mem_nil, or_false] at hspecial
      obtain rfl | rfl | rfl | rfl | rfl := hspecial
      all_goals rfl
    · simp only [List.mem_cons, List.not_mem_nil, or_false, not_or] at hspecial
      obtain ⟨hamp, hlt, hgt, hquote, hapos⟩ := hspecial
      have hself : escapeChar c = [c] := by
        rw [escapeChar.eq_def]
        split <;> first | contradiction | rfl
      rw [hkeep _ _ _ _ hamp, hkeep _ _ _ _ hlt, hkeep _ _ _ _ hgt, hkeep _ _ _ _ hquote,
        hkeep _ _ _ _ hapos, hself, List.singleton_append]

/-- Reading the text of a report in XML gives the report back, whatever characters its names, its
reasons and its failures hold: a suite for each file with the file's name, in it a case for each
test with the test's name, in it the reason if the test was skipped and the failures if it failed,
and nothing else. As long as skipped tests count as passed, each number says how many elements of
its kind there are below. -/
theorem junit_reads_back (r : SuiteReport) :
    (∀ o : Cli.RunOptions, o.format = .junit →
      readXml (Cli.print o r).out.toList = some (documentItems r, ['\n'])) ∧
    (SkippedPass (r.files.flatMap FileReport.tests) →
      CountsOf (r.files.flatMap suiteItems)
        (countAttrs (r.files.flatMap FileReport.tests) r.duration) ∧
      ∀ f ∈ r.files, CountsOf (f.tests.flatMap caseItems) (countAttrs f.tests f.duration)) ∧
    ∀ s : String, unescape (escapeXml s).toList = s.toList ∧
      (escapeXml s).toList = replaced '\'' "&apos;" (replaced '"' "&quot;" (replaced '>' "&gt;"
        (replaced '<' "&lt;" (replaced '&' "&amp;" s.toList)))) := by
  refine ⟨fun o ho => ?_, fun h => ⟨?_, fun f hf => ?_⟩, fun s => ?_⟩
  · have hout : (Cli.print o r).out = Cli.unlines (junitLines r) := by
      rw [Cli.print, ho]
    rw [hout, toList_junit, readXml_write (readable_documentItems r)]
  · exact countsOf h (fun name hname => tagCount_suites r.files hname) r.duration
  · exact countsOf (fun t ht => h t (List.mem_flatMap.2 ⟨f, hf, ht⟩)) (fun _ _ => rfl) f.duration
  · rw [escapeXml, String.toList_ofList, escape_eq_replaced]
    exact ⟨unescape_escape s.toList, rfl⟩

end Assay.Report
