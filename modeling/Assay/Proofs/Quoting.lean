import Assay.Proofs.Requests
import Assay.Suite.Inspection

/-!
# Quoted paths

A shell splits a line into words by reading it from the left. A quoted path is one word and the word
is the path, whatever characters it has, so a listing is about the path that it was asked for.
-/

namespace Assay.Shell

open Host Plan

/-- How a character is read: outside of quotes, literally behind a backslash, or between single
quotes. -/
inductive Reading where
  | plain
  | escaped
  | quoted
deriving DecidableEq

/-- The characters that separate words. -/
def wordSeparators : List Char := [' ', '\t']

/-- The characters that mean something to a shell outside of quotes: operators, expansions, patterns,
other quotes, comments, assignments and the ends of commands. The last two are the backtick and the
null character. -/
def activeChars : List Char :=
  ['|', '&', ';', '<', '>', '(', ')', '$', '"', '*', '?', '[', ']', '#', '~', '=', '%', '!',
    '\x7b', '\x7d', '\n', '\r', Char.ofNat 96, Char.ofNat 0]

/-- The words of a line, where `word` is what has been read of one that has begun, if one has. None
if a quote or a backslash is left open, or if an active character stands outside of quotes. -/
def wordsFrom (reading : Reading) (word : Option (List Char)) :
    List Char → Option (List (List Char))
  | [] => if reading = .plain then some word.toList else none
  | c :: s =>
    match reading with
    | .quoted =>
      if c = '\'' then wordsFrom .plain word s
      else wordsFrom .quoted (some (word.getD [] ++ [c])) s
    | .escaped =>
      if c = '\n' then none else wordsFrom .plain (some (word.getD [] ++ [c])) s
    | .plain =>
      if c = '\'' then wordsFrom .quoted (some (word.getD [])) s
      else if c = '\\' then wordsFrom .escaped word s
      else if c ∈ wordSeparators then (wordsFrom .plain none s).map (word.toList ++ ·)
      else if c ∈ activeChars then none
      else wordsFrom .plain (some (word.getD [] ++ [c])) s

/-- The words of a line. -/
def words? (line : String) : Option (List (List Char)) :=
  wordsFrom .plain none line.toList

/-- Between the quotes around it, a quoted text is read as itself. A quote in it closes them, is read
behind a backslash, and opens them again. -/
theorem wordsFrom_quoteChars (word s rest : List Char) :
    wordsFrom .quoted (some word) (quoteChars s ++ '\'' :: rest) =
      wordsFrom .plain (some (word ++ s)) rest := by
  induction s generalizing word with
  | nil => simp [quoteChars, wordsFrom]
  | cons c s ih =>
    rw [quoteChars]
    split
    · next hc => simp [wordsFrom, hc, ih]
    · next hc => simp [wordsFrom, hc, ih]

/-- A quoted path at the end of a line is one word. -/
theorem wordsFrom_quote (p : Path) :
    wordsFrom .plain none (quote p).toList = some [p.text.toList] := by
  have hquoted := wordsFrom_quoteChars [] p.text.toList []
  simp only [List.nil_append] at hquoted
  simp [quote, wordsFrom, hquoted]

/-- A character without a meaning continues a word. -/
theorem wordsFrom_plain_cons {c : Char} (hc : c ∉ '\'' :: '\\' :: wordSeparators ++ activeChars)
    (word : Option (List Char)) (s : List Char) :
    wordsFrom .plain word (c :: s) = wordsFrom .plain (some (word.getD [] ++ [c])) s := by
  simp only [List.cons_append, List.mem_cons, List.mem_append, not_or] at hc
  simp [wordsFrom, hc]

/-- A separator ends a word. -/
theorem wordsFrom_separator {c : Char} (hc : c ∈ wordSeparators) (word : Option (List Char))
    (s : List Char) :
    wordsFrom .plain word (c :: s) = (wordsFrom .plain none s).map (word.toList ++ ·) := by
  have hquote : c ≠ '\'' := fun h => absurd (h ▸ hc) (by decide)
  have hescape : c ≠ '\\' := fun h => absurd (h ▸ hc) (by decide)
  simp [wordsFrom, hc, hquote, hescape]

/-- The command line of a listing, character by character. -/
theorem toList_line_listing (p : Path) :
    (Platform.posix.listing p).line.toList = 'l' :: 's' :: ' ' :: (quote p).toList := by
  have hline : (Platform.posix.listing p).line = "ls" ++ " " ++ quote p := rfl
  simp [hline]

/-- The words of a listing are the command and the path. -/
theorem words?_listing (p : Path) :
    words? (Platform.posix.listing p).line = some [['l', 's'], p.text.toList] := by
  rw [words?, toList_line_listing, wordsFrom_plain_cons (by decide),
    wordsFrom_plain_cons (by decide), wordsFrom_separator (by decide), wordsFrom_quote]
  rfl

/-- A listing of a path has two words, the command and the path, and nothing in it means anything
else to the shell. To find out whether something is at a path, no other command is run. -/
theorem listing_is_about_path (p : Path) :
    words? (Platform.posix.listing p).line = some [['l', 's'], p.text.toList] ∧
    (Suite.isThere p).Asks anyReply fun
      | .run line _ _ => words? line = some [['l', 's'], p.text.toList]
      | _ => True := by
  refine ⟨words?_listing p, ?_⟩
  rw [Suite.isThere]
  refine Asks.bind ?_ fun found => ?_
  · refine Asks.bind (meets_request trivial fun _ _ => trivial) fun reply => ?_
    cases reply <;> trivial
  · cases found with
    | false => trivial
    | true =>
      refine Asks.bind ?_ fun outcome => ?_
      · refine Asks.bind (meets_request (words?_listing p) fun _ _ => trivial) fun finished => ?_
        cases finished.ending <;> trivial
      · cases outcome <;> trivial

end Assay.Shell
