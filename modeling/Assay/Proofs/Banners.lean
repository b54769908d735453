import Assay.Banner
import Assay.Proofs.Output
import Mathlib

/-!
# Versions in banners

Which of several groups of digits a banner's version is: the leftmost three runs between two dots,
and no version at all if one of these is not in ASCII digits or does not fit in 64 bits
(`find_eq_some_iff`). A version that is written out is found wherever no digit comes before it, and
reading it by hand agrees (`version_of_banner`).
-/

namespace Assay

namespace Text

/-- A list of decimal digits, of which there is at least one. -/
structure IsRun (ds : List Char) : Prop where
  ne_nil : ds ≠ []
  digits : ∀ d ∈ ds, isDigit d = true

/-- Whether no digit stands in front of a text. -/
def StartsNoRun (s : List Char) : Prop :=
  ∀ d ∈ s.head?, isDigit d = false

/-- A decimal digit of ASCII is one of the digits that a banner may have. -/
theorem isDigit_of_isAsciiDigit {c : Char} (h : isAsciiDigit c = true) : isDigit c = true := by
  simp only [isAsciiDigit, Bool.and_eq_true, decide_eq_true_eq] at h
  have hlow : 0x30 ≤ c.toNat := h.1
  have hhigh : c.toNat ≤ 0x39 := h.2
  refine List.any_eq_true.2 ⟨0x30, by simp [digitZeros], ?_⟩
  simp only [Bool.and_eq_true, decide_eq_true_eq]
  omega

/-- The number that a run denotes: it is written in ASCII digits and fits in 64 bits. -/
def Denotes (ds : List Char) (n : Nat) : Prop :=
  (∀ d ∈ ds, isAsciiDigit d = true) ∧ digitsValue ds = n ∧ n ≤ maxWord

/-- Digits are read as the number that they denote, if it fits into a word. -/
theorem word?_eq_some_iff {ds : List Char} {n : Nat} :
    word? ds = some n ↔ ds ≠ [] ∧ Denotes ds n := by
  rw [word?, Denotes]
  split
  · next h =>
    simp only [Bool.or_eq_true, List.isEmpty_iff, Bool.not_eq_true', List.all_eq_false] at h
    obtain rfl | ⟨d, hd, hnot⟩ := h
    · simp
    · exact ⟨(fun h => nomatch h), fun h => absurd (h.2.1 d hd) hnot⟩
  · next h =>
    simp only [Bool.or_eq_true, List.isEmpty_iff, Bool.not_eq_true', not_or, Bool.not_eq_false,
      List.all_eq_true] at h
    split
    · next hle =>
      rw [Option.some.injEq]
      exact ⟨fun heq => ⟨h.1, h.2, heq, heq ▸ hle⟩, fun hn => hn.2.2.1⟩
    · next hlt =>
      exact ⟨(fun h => nomatch h), fun hn => absurd (hn.2.2.1 ▸ hn.2.2.2) hlt⟩

/-- A number is written with decimal digits of ASCII. -/
theorem isAsciiDigit_of_mem_toDigits {n : Nat} {d : Char} (h : d ∈ Nat.toDigits 10 n) :
    isAsciiDigit d = true := by
  have hdigit := Nat.isDigit_of_mem_toDigits (by decide) (by decide) h
  simp only [Char.isDigit, Bool.and_eq_true, decide_eq_true_eq] at hdigit
  simp only [isAsciiDigit, Bool.and_eq_true, decide_eq_true_eq]
  exact hdigit

/-- A number is written as a run of digits. -/
theorem isRun_toDigits (n : Nat) : IsRun (Nat.toDigits 10 n) where
  ne_nil := Nat.toDigits_ne_nil
  digits _ hd := isDigit_of_isAsciiDigit (isAsciiDigit_of_mem_toDigits hd)

/-- The digits of a number have its value. -/
theorem digitsValue_toDigits (n : Nat) : digitsValue (Nat.toDigits 10 n) = n := by
  have h : Nat.ofDigitChars 10 (Nat.toDigits 10 n) 0 = n :=
    Nat.ofDigitChars_toDigits (by decide) (by decide)
  simpa only [Nat.ofDigitChars, digitsValue, Nat.mul_comm 10] using h

/-- The digits of a number that fits into a word denote it. -/
theorem denotes_toDigits {n : Nat} (h : n ≤ maxWord) : Denotes (Nat.toDigits 10 n) n :=
  ⟨fun _ hd => isAsciiDigit_of_mem_toDigits hd, digitsValue_toDigits n, h⟩

end Text

namespace Banner

open Text

variable {s a b c rest : List Char}

/-- Three runs of digits between two dots at the front of a text, the last as long as it can be. -/
structure Triple (s a b c : List Char) : Prop where
  first : IsRun a
  second : IsRun b
  third : IsRun c
  eq : ∃ rest, s = a ++ '.' :: (b ++ '.' :: (c ++ rest)) ∧ StartsNoRun rest

/-- No run goes on with a dot. -/
theorem startsNoRun_dot : StartsNoRun ('.' :: s) := by
  intro d hd
  obtain rfl : '.' = d := Option.some.inj hd
  decide

/-- A run is read as far as it goes. -/
theorem readRun_eq_some_iff :
    readRun s = some (a, rest) ↔ IsRun a ∧ s = a ++ rest ∧ StartsNoRun rest := by
  rw [readRun]
  constructor
  · intro h
    cases htake : s.takeWhile isDigit with
    | nil => rw [htake] at h; exact nomatch h
    | cons d run =>
      rw [htake] at h
      obtain ⟨rfl, rfl⟩ := Prod.mk.inj (Option.some.inj h)
      rw [← htake]
      refine ⟨⟨(by rw [htake]; exact List.cons_ne_nil d run),
        fun d hd => List.mem_takeWhile_imp hd⟩,
        List.takeWhile_append_dropWhile.symm, fun d hd => ?_⟩
      have hhead := List.head?_dropWhile_not isDigit s
      rwa [hd] at hhead
  · rintro ⟨hrun, rfl, hrest⟩
    have htake : (a ++ rest).takeWhile isDigit = a := by
      rw [List.takeWhile_append_of_pos hrun.digits]
      cases rest with
      | nil => simp
      | cons d rest => simp [hrest d rfl]
    have hdrop : (a ++ rest).dropWhile isDigit = rest := by
      rw [List.dropWhile_append_of_pos hrun.digits]
      cases rest with
      | nil => rfl
      | cons d rest => simp [hrest d rfl]
    rw [htake, hdrop]
    cases a with
    | nil => exact absurd rfl hrun.ne_nil
    | cons d a => rfl

/-- A run with a dot behind it is read up to that dot. -/
theorem readRunDot_eq_some_iff :
    readRunDot s = some (a, rest) ↔ IsRun a ∧ s = a ++ '.' :: rest := by
  constructor
  · intro h
    obtain ⟨⟨run, behind⟩, hrun, hbehind⟩ := Option.bind_eq_some_iff.1 h
    obtain ⟨hdigits, rfl, -⟩ := readRun_eq_some_iff.1 hrun
    dsimp only at hbehind
    split at hbehind
    · obtain ⟨rfl, rfl⟩ := Prod.mk.inj (Option.some.inj hbehind)
      exact ⟨hdigits, rfl⟩
    · exact nomatch hbehind
  · rintro ⟨hdigits, rfl⟩
    have hrun := readRun_eq_some_iff.2 ⟨hdigits, rfl, startsNoRun_dot (s := rest)⟩
    rw [readRunDot, hrun]
    rfl

/-- Three runs between dots are read as a triple. -/
theorem readTriple_eq_some_iff : readTriple s = some (a, b, c) ↔ Triple s a b c := by
  constructor
  · intro h
    obtain ⟨⟨major, s₁⟩, hmajor, h⟩ := Option.bind_eq_some_iff.1 h
    obtain ⟨⟨minor, s₂⟩, hminor, h⟩ := Option.bind_eq_some_iff.1 h
    obtain ⟨⟨patch, s₃⟩, hpatch, h⟩ := Option.bind_eq_some_iff.1 h
    obtain ⟨rfl, rfl, rfl⟩ : major = a ∧ minor = b ∧ patch = c := by simpa using h
    obtain ⟨ha, rfl⟩ := readRunDot_eq_some_iff.1 hmajor
    obtain ⟨hb, rfl⟩ := readRunDot_eq_some_iff.1 hminor
    obtain ⟨hc, rfl, hrest⟩ := readRun_eq_some_iff.1 hpatch
    exact ⟨ha, hb, hc, s₃, rfl, hrest⟩
  · rintro ⟨ha, hb, hc, rest, rfl, hrest⟩
    rw [readTriple, readRunDot_eq_some_iff.2 ⟨ha, rfl⟩]
    dsimp only [Option.bind_eq_bind, Option.bind_some]
    rw [readRunDot_eq_some_iff.2 ⟨hb, rfl⟩]
    dsimp only [Option.bind_some]
    rw [readRun_eq_some_iff.2 ⟨hc, rfl, hrest⟩]
    rfl

/-- The first place at which three runs stand between two dots. -/
structure LeftmostAt (s : List Char) (i : Nat) (a b c : List Char) : Prop where
  here : Triple (s.drop i) a b c
  first : ∀ j < i, ∀ a' b' c', ¬ Triple (s.drop j) a' b' c'

/-- An empty text has no triple. -/
theorem not_triple_nil : ¬ Triple [] a b c := by
  rintro ⟨_, _, _, rest, h, _⟩
  simp at h

/-- The triple that is found is the leftmost. -/
theorem findTriple_eq_some_iff :
    findTriple s = some (a, b, c) ↔ ∃ i, LeftmostAt s i a b c := by
  induction s with
  | nil =>
    refine ⟨(fun h => nomatch h), fun ⟨i, h, _⟩ => ?_⟩
    rw [List.drop_nil] at h
    exact absurd h not_triple_nil
  | cons d s ih =>
    rw [findTriple]
    cases hread : readTriple (d :: s) with
    | some t =>
      obtain ⟨a', b', c'⟩ := t
      have htriple := readTriple_eq_some_iff.1 hread
      constructor
      · intro h
        obtain ⟨rfl, rfl, rfl⟩ : a' = a ∧ b' = b ∧ c' = c := by simpa using h
        exact ⟨0, htriple, fun j hj => absurd hj (Nat.not_lt_zero j)⟩
      · rintro ⟨i, h, hfirst⟩
        cases i with
        | zero => exact hread.symm.trans (readTriple_eq_some_iff.2 h)
        | succ i => exact absurd htriple (hfirst 0 (Nat.succ_pos i) _ _ _)
    | none =>
      have hnot : ∀ a' b' c', ¬ Triple (d :: s) a' b' c' := fun a' b' c' h =>
        nomatch hread.symm.trans (readTriple_eq_some_iff.2 h)
      refine Iff.trans ih ⟨?_, ?_⟩
      · rintro ⟨i, h, hfirst⟩
        refine ⟨i + 1, h, fun j hj => ?_⟩
        cases j with
        | zero => exact hnot
        | succ j => exact hfirst j (Nat.lt_of_succ_lt_succ hj)
      · rintro ⟨i, h, hfirst⟩
        cases i with
        | zero => exact absurd h (hnot a b c)
        | succ i => exact ⟨i, h, fun j hj => hfirst (j + 1) (Nat.succ_lt_succ hj)⟩

/-- A triple begins inside of the text. -/
theorem LeftmostAt.lt_length {i : Nat} (h : LeftmostAt s i a b c) : i < s.length := by
  by_contra hlt
  have hhere := h.here
  rw [List.drop_eq_nil_of_le (Nat.not_lt.1 hlt)] at hhere
  exact not_triple_nil hhere

/-- No digit stands in front of the first run: the three runs would stand there already. -/
theorem LeftmostAt.not_continued {i : Nat} (h : LeftmostAt s i a b c) :
    ∀ d ∈ (s.take i).getLast?, isDigit d = false := by
  intro d hd
  cases i with
  | zero => exact nomatch hd
  | succ i =>
    have hlt : i < s.length := Nat.lt_of_succ_lt h.lt_length
    rw [List.take_succ_eq_append_getElem hlt, List.getLast?_concat] at hd
    obtain rfl : s[i] = d := Option.some.inj hd
    by_contra hdigit
    obtain ⟨hfirst, hsecond, hthird, rest, heq, hrest⟩ := h.here
    refine h.first i (Nat.lt_succ_self i) (s[i] :: a) b c ⟨⟨List.cons_ne_nil _ _, ?_⟩,
      hsecond, hthird, rest, ?_, hrest⟩
    · exact List.forall_mem_cons.2 ⟨Bool.not_eq_false _ ▸ hdigit, hfirst.digits⟩
    · rw [List.drop_eq_getElem_cons hlt, heq]
      rfl

/-- Where the version of a banner stands: the first place of three runs between two dots, which are
written in ASCII digits and denote its numbers. -/
structure Announces (s : List Char) (v : Semver.Version) (i : Nat) (a b c : List Char) : Prop where
  leftmost : LeftmostAt s i a b c
  major : Denotes a v.major
  minor : Denotes b v.minor
  patch : Denotes c v.patch
  untagged : v.pre = [] ∧ v.build = []

/-- A version is found exactly if the banner announces it. -/
theorem find_eq_some_iff {banner : String} {v : Semver.Version} :
    find banner = some v ↔ ∃ i a b c, Announces banner.toList v i a b c := by
  constructor
  · intro h
    obtain ⟨⟨a, b, c⟩, htriple, h⟩ := Option.bind_eq_some_iff.1 h
    obtain ⟨major, hmajor, h⟩ := Option.bind_eq_some_iff.1 h
    obtain ⟨minor, hminor, h⟩ := Option.bind_eq_some_iff.1 h
    obtain ⟨patch, hpatch, h⟩ := Option.bind_eq_some_iff.1 h
    obtain rfl := Option.some.inj h
    obtain ⟨i, hleftmost⟩ := findTriple_eq_some_iff.1 htriple
    exact ⟨i, a, b, c, hleftmost, (word?_eq_some_iff.1 hmajor).2, (word?_eq_some_iff.1 hminor).2,
      (word?_eq_some_iff.1 hpatch).2, rfl, rfl⟩
  · rintro ⟨i, a, b, c, hleftmost, hmajor, hminor, hpatch, hpre, hbuild⟩
    have hhere := hleftmost.here
    rw [find, findTriple_eq_some_iff.2 ⟨i, hleftmost⟩, Option.bind_eq_bind, Option.bind_some]
    dsimp only
    rw [word?_eq_some_iff.2 ⟨hhere.first.ne_nil, hmajor⟩,
      word?_eq_some_iff.2 ⟨hhere.second.ne_nil, hminor⟩,
      word?_eq_some_iff.2 ⟨hhere.third.ne_nil, hpatch⟩]
    obtain ⟨major, minor, patch, pre, build⟩ := v
    obtain rfl : pre = [] := hpre
    obtain rfl : build = [] := hbuild
    rfl

/-! ## Versions that are written out -/

/-- A version without tags whose numbers fit in 64 bits. -/
structure Plain (v : Semver.Version) : Prop where
  major : v.major ≤ maxWord
  minor : v.minor ≤ maxWord
  patch : v.patch ≤ maxWord
  untagged : v.pre = [] ∧ v.build = []

/-- A plain version is written as three numbers between dots. -/
theorem toList_render {v : Semver.Version} (h : Plain v) :
    v.render.toList = Nat.toDigits 10 v.major ++ '.' :: (Nat.toDigits 10 v.minor ++
      '.' :: Nat.toDigits 10 v.patch) := by
  simp [Semver.Version.render, h.untagged]

/-- A triple behind a text without digits is the leftmost. -/
theorem leftmostAt_append {front : List Char} (hfront : ∀ d ∈ front, isDigit d = false)
    (h : Triple s a b c) : LeftmostAt (front ++ s) front.length a b c where
  here := by rwa [List.drop_left]
  first j hj a' b' c' := by
    rintro ⟨hfirst, -, -, rest, heq, -⟩
    rw [List.drop_append_of_le_length hj.le, List.drop_eq_getElem_cons hj] at heq
    cases a' with
    | nil => exact hfirst.ne_nil rfl
    | cons d a' =>
      obtain ⟨hd, -⟩ := List.cons.inj heq
      have hdigit := hfirst.digits d List.mem_cons_self
      rw [← hd, hfront _ (List.getElem_mem hj)] at hdigit
      exact nomatch hdigit

/-- A version that is written into a text without digits in front is found. -/
theorem find_render {front back : String} {v : Semver.Version} (h : Plain v)
    (hfront : ∀ d ∈ front.toList, isDigit d = false) (hback : StartsNoRun back.toList) :
    find (front ++ v.render ++ back) = some v := by
  refine find_eq_some_iff.2 ⟨front.toList.length, _, _, _, ?_, denotes_toDigits h.major,
    denotes_toDigits h.minor, denotes_toDigits h.patch, h.untagged⟩
  rw [String.toList_append, String.toList_append, List.append_assoc]
  refine leftmostAt_append hfront ⟨isRun_toDigits _, isRun_toDigits _, isRun_toDigits _,
    back.toList, ?_, hback⟩
  simp [toList_render h]

/-- A digit has the value that it is written for. -/
theorem toNat_digitChar_sub {n : Nat} (h : n < 10) : (Nat.digitChar n).toNat - '0'.toNat = n := by
  rw [Nat.toNat_digitChar_of_lt_ten h]
  exact Nat.add_sub_cancel_left 48 n

/-- One digit more is read into the value. -/
theorem readNumber_cons {part : Semver.Part} {value : Option Nat} {n : Nat} (hn : n < 10)
    (hvalue : value ≠ some 0) (hword : value.getD 0 * 10 + n ≤ maxWord) :
    Semver.readNumber part value (Nat.digitChar n :: s) =
      Semver.readNumber part (some (value.getD 0 * 10 + n)) s := by
  have hascii : isAsciiDigit (Nat.digitChar n) = true :=
    isAsciiDigit_of_mem_toDigits (n := n) (by rw [Nat.toDigits_of_lt_base hn]; simp)
  rw [Semver.readNumber.eq_def]
  dsimp only
  rw [if_pos hascii, if_neg hvalue, toNat_digitChar_sub hn, if_pos hword]

/-- Reading the digits of a number reads the number. -/
theorem readNumber_toDigits {part : Semver.Part} {n : Nat} (h : n ≤ maxWord) :
    Semver.readNumber part none (Nat.toDigits 10 n ++ s) = Semver.readNumber part (some n) s := by
  induction n using Nat.strongRecOn generalizing s with
  | ind n ih =>
    rw [Nat.toDigits_eq_if (by decide)]
    split
    · next hlt =>
      have hword : (none : Option Nat).getD 0 * 10 + n ≤ maxWord := by simpa using h
      have hnone : (none : Option Nat) ≠ some 0 := (Option.some_ne_none 0).symm
      rw [List.singleton_append, readNumber_cons hlt hnone hword, Option.getD_none, Nat.zero_mul,
        Nat.zero_add]
    · next hge =>
      have hsmaller : n / 10 < n := by omega
      have hword : (some (n / 10)).getD 0 * 10 + n % 10 ≤ maxWord := by
        rw [Option.getD_some]
        omega
      have hnonzero : some (n / 10) ≠ some 0 := by
        rw [Ne, Option.some.injEq]
        omega
      rw [List.append_assoc, ih _ hsmaller (by omega), List.singleton_append,
        readNumber_cons (Nat.mod_lt n (by decide)) hnonzero hword, Option.getD_some]
      congr 2
      omega

/-- A number that fits into a word is read from its digits. -/
theorem readNumber_eq {part : Semver.Part} {n : Nat} (h : n ≤ maxWord)
    (hs : ∀ d ∈ s.head?, isAsciiDigit d = false) :
    Semver.readNumber part none (Nat.toDigits 10 n ++ s) = .ok (n, s) := by
  rw [readNumber_toDigits h, Semver.readNumber.eq_def]
  cases s with
  | nil => rfl
  | cons d s => simp [hs d rfl]

/-- A dot is no digit. -/
theorem isAsciiDigit_dot : ∀ d ∈ ('.' :: s).head?, isAsciiDigit d = false := by
  intro d hd
  obtain rfl : '.' = d := Option.some.inj hd
  decide

/-- A plain version is read from what it is written as. -/
theorem parse_render {v : Semver.Version} (h : Plain v) :
    Semver.Version.parse v.render.toList = .ok v := by
  have hmajor (rest : List Char) :
      Semver.readNumber .major none (Nat.toDigits 10 v.major ++ '.' :: rest) =
        .ok (v.major, '.' :: rest) := readNumber_eq h.major isAsciiDigit_dot
  have hminor (rest : List Char) :
      Semver.readNumber .minor none (Nat.toDigits 10 v.minor ++ '.' :: rest) =
        .ok (v.minor, '.' :: rest) := readNumber_eq h.minor isAsciiDigit_dot
  have hpatch :
      Semver.readNumber .patch none (Nat.toDigits 10 v.patch) = .ok (v.patch, []) := by
    simpa using readNumber_eq (s := []) h.patch nofun
  have hne : v.render.toList.isEmpty = false := by
    rw [toList_render h]
    simp
  rw [Semver.Version.parse, hne, toList_render h, hmajor]
  simp only [Bool.false_eq_true, if_false, bind, Except.bind, Semver.readDot, hminor, hpatch]
  obtain ⟨major, minor, patch, pre, build⟩ := v
  obtain rfl : pre = [] := h.untagged.1
  obtain rfl : build = [] := h.untagged.2
  rfl

/-- Characters in front are dropped up to the first that is to be kept. -/
theorem dropWhile_append_of_head {p : Char → Bool} {front : List Char}
    (hfront : ∀ d ∈ front, p d = true) (hs : ∀ d ∈ s.head?, p d = false) :
    (front ++ s).dropWhile p = s := by
  rw [List.dropWhile_append_of_pos hfront]
  cases s with
  | nil => rfl
  | cons d s => simp [hs d rfl]

/-- Blanks around a trimmed text are trimmed. -/
theorem trim_append {front back : List Char} (hfront : ∀ d ∈ front, isBlank d = true)
    (hback : ∀ d ∈ back, isBlank d = true) (hs : IsTrimmed s) (hne : s ≠ []) :
    trim (front ++ s ++ back) = s := by
  have hhead : ∀ d ∈ (s ++ back).head?, isBlank d = false := by
    rw [List.head?_append_of_ne_nil s hne]
    exact hs.1
  have hlast : ∀ d ∈ s.reverse.head?, isBlank d = false := by
    rw [List.head?_reverse]
    exact hs.2
  have hback : ∀ d ∈ back.reverse, isBlank d = true := fun d hd => hback d (List.mem_reverse.1 hd)
  rw [trim, trimFront, List.append_assoc, dropWhile_append_of_head hfront hhead, trimBack,
    List.reverse_append, dropWhile_append_of_head hback hlast, List.reverse_reverse]

/-- A version that is written out starts and ends with a digit. -/
theorem render_ends {v : Semver.Version} (h : Plain v) :
    (∃ d s, v.render.toList = d :: s ∧ isAsciiDigit d = true) ∧
      ∃ d s, v.render.toList = s ++ [d] ∧ isAsciiDigit d = true := by
  rw [toList_render h]
  constructor
  · obtain ⟨d, ds, hd⟩ := List.exists_cons_of_ne_nil (Nat.toDigits_ne_nil (n := v.major) (b := 10))
    refine ⟨d, _, by rw [hd, List.cons_append], isAsciiDigit_of_mem_toDigits (n := v.major) ?_⟩
    rw [hd]
    exact List.mem_cons_self
  · have hne : Nat.toDigits 10 v.patch ≠ [] := Nat.toDigits_ne_nil
    refine ⟨(Nat.toDigits 10 v.patch).getLast hne, Nat.toDigits 10 v.major ++ '.' ::
      (Nat.toDigits 10 v.minor ++ '.' :: (Nat.toDigits 10 v.patch).dropLast), ?_,
      isAsciiDigit_of_mem_toDigits (List.getLast_mem hne)⟩
    simp [List.dropLast_append_getLast]

/-- A check that fails on each character of a range fails on a character of it. -/
theorem eq_false_of_range {p : Char → Bool} {low high d : Char} (hlow : low ≤ d) (hhigh : d ≤ high)
    (h : ∀ n ≤ high.toNat - low.toNat, p (Char.ofNat (low.toNat + n)) = false) : p d = false := by
  have hlow : low.toNat ≤ d.toNat := hlow
  have hhigh : d.toNat ≤ high.toNat := hhigh
  have hd := h (d.toNat - low.toNat) (Nat.sub_le_sub_right hhigh _)
  rwa [Nat.add_sub_cancel' hlow, Char.ofNat_toNat] at hd

/-- A decimal digit is no blank. -/
theorem not_isBlank_of_isAsciiDigit {d : Char} (h : isAsciiDigit d = true) : isBlank d = false := by
  simp only [isAsciiDigit, Bool.and_eq_true, decide_eq_true_eq] at h
  exact eq_false_of_range h.1 h.2 (by decide)

/-- A blank is no digit. -/
theorem not_isDigit_of_isBlank {d : Char} (h : isBlank d = true) : isDigit d = false := by
  simp only [isBlank, Bool.or_eq_true, Bool.and_eq_true, decide_eq_true_eq, beq_iff_eq] at h
  -- two ranges among the alternatives, and single characters
  rcases h with (((((h | h) | rfl) | rfl) | rfl) | rfl) | rfl
  case inl.inl.inl.inl.inl.inr => exact eq_false_of_range h.1 h.2 (by decide)
  case inl.inl.inl.inl.inl.inl =>
    obtain (((h | rfl) | rfl) | rfl) | rfl := h
    · exact eq_false_of_range h.1 h.2 (by decide)
    all_goals decide
  all_goals decide

/-- Blanks on either side of a version, and letters `v` in front of it, do not matter. -/
theorem parseConfigured_render {v : Semver.Version} (h : Plain v) {front back : String} (k : Nat)
    (hfront : IsBlank front) (hback : IsBlank back) :
    parseConfigured (front ++ String.ofList (List.replicate k 'v') ++ v.render ++ back) =
      .ok v := by
  obtain ⟨⟨d, s, hd, hdigit⟩, d', s', hd', hdigit'⟩ := render_ends h
  have htrimmed : IsTrimmed (List.replicate k 'v' ++ v.render.toList) := by
    constructor
    · intro c hc
      cases k with
      | zero =>
        rw [List.replicate_zero, List.nil_append, hd] at hc
        exact Option.some.inj hc ▸ not_isBlank_of_isAsciiDigit hdigit
      | succ k =>
        obtain rfl : 'v' = c := Option.some.inj hc
        decide
    · intro c hc
      rw [hd', ← List.append_assoc, List.getLast?_concat] at hc
      exact Option.some.inj hc ▸ not_isBlank_of_isAsciiDigit hdigit'
  have htrim : trim (front.toList ++ (List.replicate k 'v' ++ v.render.toList) ++ back.toList) =
      List.replicate k 'v' ++ v.render.toList :=
    trim_append hfront hback htrimmed (by simp [hd])
  have hdrop : (List.replicate k 'v' ++ v.render.toList).dropWhile (· = 'v') = v.render.toList := by
    refine dropWhile_append_of_head (fun c hc => decide_eq_true (List.eq_of_mem_replicate hc)) ?_
    intro c hc
    rw [hd] at hc
    obtain rfl : d = c := Option.some.inj hc
    refine decide_eq_false fun hv => ?_
    rw [hv] at hdigit
    exact absurd hdigit (by decide)
  rw [parseConfigured, String.toList_append, String.toList_append, String.toList_append,
    String.toList_ofList, List.append_assoc front.toList, htrim, hdrop, parse_render h]

/-- The version of a banner is at the leftmost three runs of digits between two dots, the last run
as long as it can be and the first not continued to the left; there is none if these do not denote
three numbers of 64 bits in ASCII digits, or do not exist. So a version that is written out is found
behind any text without digits, whatever follows it but a digit, and one that is given by hand is
read the same, with blanks on either side and letters `v` in front. -/
theorem version_of_banner (banner : String) (v : Semver.Version) :
    (find banner = some v ↔ ∃ i a b c, Announces banner.toList v i a b c) ∧
    (find banner = none ↔ ∀ i a b c, LeftmostAt banner.toList i a b c →
      ¬ ∃ major minor patch, Denotes a major ∧ Denotes b minor ∧ Denotes c patch) ∧
    (∀ i a b c, LeftmostAt banner.toList i a b c →
      ∀ d ∈ (banner.toList.take i).getLast?, isDigit d = false) ∧
    (Plain v → ∀ front back : String, (∀ d ∈ front.toList, isDigit d = false) →
      StartsNoRun back.toList → find (front ++ v.render ++ back) = some v) ∧
    (Plain v → ∀ (front back : String) (k : Nat), IsBlank front → IsBlank back →
      parseConfigured (front ++ String.ofList (List.replicate k 'v') ++ v.render ++ back) = .ok v ∧
      find (front ++ String.ofList (List.replicate k 'v') ++ v.render ++ back) = some v) := by
  refine ⟨find_eq_some_iff, ⟨?_, ?_⟩, fun i a b c h => h.not_continued,
    fun h front back => find_render h, fun h front back k hfront hback =>
      ⟨parseConfigured_render h k hfront hback, find_render h ?_ ?_⟩⟩
  · rintro hnone i a b c hleftmost ⟨major, minor, patch, hmajor, hminor, hpatch⟩
    have hsome : find banner = some { major, minor, patch } :=
      find_eq_some_iff.2 ⟨i, a, b, c, hleftmost, hmajor, hminor, hpatch, rfl, rfl⟩
    exact nomatch hnone.symm.trans hsome
  · intro h
    refine Option.eq_none_iff_forall_ne_some.2 fun v hv => ?_
    obtain ⟨i, a, b, c, hleftmost, hmajor, hminor, hpatch, -⟩ := find_eq_some_iff.1 hv
    exact h i a b c hleftmost ⟨_, _, _, hmajor, hminor, hpatch⟩
  · intro d hd
    rw [String.toList_append, String.toList_ofList, List.mem_append] at hd
    obtain hd | hd := hd
    · exact not_isDigit_of_isBlank (hfront d hd)
    · rw [List.eq_of_mem_replicate hd]
      decide
  · exact fun d hd => not_isDigit_of_isBlank (hback d (List.mem_of_mem_head? hd))

end Banner

end Assay
