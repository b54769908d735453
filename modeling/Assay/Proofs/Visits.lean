import Assay.Proofs.Discovery

/-!
# Directories that lead back

Which directories are listed when case files are collected: each path that leads to a directory,
and none of them twice (`entered_directories`). Where a link leads back to a directory above it, the
same directory is entered again by a longer path, until the host takes no longer one.
-/

namespace Assay

namespace Suite

open Host Plan

namespace Tree

variable {t : Tree} {dir path d : Path}

/-- The path of a directory that is reached is shorter than the host's limit, unless it is given. -/
theorem Reaches.short (h : t.Reaches dir d) : d = dir ∨ d.text.length < pathLimit := by
  induction h with
  | here => exact .inl rfl
  | deeper _ _ hdir _ ih =>
    refine .inr ?_
    obtain rfl | ih := ih
    · exact t.short hdir
    · exact ih

end Tree

/-! ## A link that leads back -/

/-- Where paths lead once links are followed: there is the same as at the path, and an entry of a
directory that is there is that entry of the directory that the path leads to. -/
structure Tree.Resolves (t : Tree) (real : Path → Path) : Prop where
  isDir : ∀ p, t.isDir (real p) = t.isDir p
  isFile : ∀ p, t.isFile (real p) = t.isFile p
  names : ∀ p, t.names (real p) = t.names p
  idem : ∀ p, real (real p) = real p
  child : ∀ {dir ns n}, t.names dir = some ns → n ∈ ns →
    t.isDir (dir.child n) = true ∨ t.isFile (dir.child n) = true →
      real (dir.child n) = real ((real dir).child n)

/-- The directory `d` by a path that follows the link in it to itself so many times. -/
def around (times : Nat) : Path :=
  ⟨String.ofList ('d' :: (List.replicate times ['/', 'l']).flatten)⟩

/-- The file in that directory by such a path. -/
def fileAround (times : Nat) : Path :=
  (around times).child "a.yaml"

/-- Whether a path leads to the directory `d`; the host follows at most forty links. -/
def isAround (path : Path) : Bool :=
  (List.range 41).any fun times => path = around times

/-- Whether a path leads to the file in that directory. -/
def isFileAround (path : Path) : Bool :=
  (List.range 41).any fun times => path = fileAround times

/-- What leads to the directory follows its link at most forty times. -/
theorem isAround_iff {path : Path} :
    isAround path = true ↔ ∃ times, times < 41 ∧ path = around times := by
  simp [isAround]

/-- What leads to the file follows the link at most forty times. -/
theorem isFileAround_iff {path : Path} :
    isFileAround path = true ↔ ∃ times, times < 41 ∧ path = fileAround times := by
  simp [isFileAround]

/-- A path to the directory has a name and then a slash and a name for each link. -/
theorem length_around (times : Nat) : (around times).text.length = 1 + 2 * times := by
  rw [around, String.length_ofList, List.length_cons, List.length_flatten, List.map_replicate,
    List.sum_replicate_nat]
  simp [Nat.mul_comm, Nat.add_comm]

/-- The name of the link is one that an entry can have. -/
theorem isName_link : Path.IsName "l" :=
  ⟨by decide, by decide, by decide, by decide⟩

/-- The name of the file is one that an entry can have. -/
theorem isName_file : Path.IsName "a.yaml" :=
  ⟨by decide, by decide, by decide, by decide⟩

/-- An entry of the directory stands behind a slash. -/
theorem child_around {n : String} (hn : Path.IsName n) (times : Nat) :
    (around times).child n = ⟨(around times).text ++ "/" ++ n⟩ := by
  have hlast : (around times).text.toList.getLast? ≠ some '/' := by
    rw [around, String.toList_ofList]
    cases times with
    | zero => decide
    | succ times =>
      rw [List.replicate_succ', List.flatten_append]
      simp [List.getLast?_cons, List.getLast?_append]
  have hne : (around times).text ≠ "" := by
    intro h
    have hlength := length_around times
    rw [h, String.length_empty] at hlength
    omega
  rw [hn.child_eq, if_neg]
  simp [hlast, hne]

/-- Following the link leads around once more. -/
theorem around_succ (times : Nat) : (around times).child "l" = around (times + 1) := by
  rw [child_around isName_link, around, around, List.replicate_succ', List.flatten_append]
  simp [← String.toList_inj]

/-- A path to the file is longer than the one to its directory by a slash and the name. -/
theorem length_fileAround (times : Nat) : (fileAround times).text.length = 8 + 2 * times := by
  have hname : "/".length + "a.yaml".length = 7 := by decide
  rw [fileAround, child_around isName_file, String.length_append, String.length_append,
    length_around]
  omega

/-- No path leads to both. -/
theorem fileAround_ne (times more : Nat) : fileAround times ≠ around more := by
  intro h
  have hfile := length_fileAround times
  rw [h, length_around] at hfile
  omega

/-- What leads to the file does not lead to the directory. -/
theorem isAround_fileAround (times : Nat) : isAround (fileAround times) = false := by
  rw [Bool.eq_false_iff, Ne, isAround_iff]
  rintro ⟨more, -, h⟩
  exact fileAround_ne times more h

/-- What leads to the directory does not lead to the file. -/
theorem isFileAround_around (times : Nat) : isFileAround (around times) = false := by
  rw [Bool.eq_false_iff, Ne, isFileAround_iff]
  rintro ⟨more, -, h⟩
  exact fileAround_ne more times h.symm

/-- A directory with a case file and with a link to the directory itself. -/
def circle : Tree where
  isFile := isFileAround
  isDir := isAround
  names dir := if isAround dir then some ["a.yaml", "l"] else none
  nodup {dir ns} h := by
    split at h
    · obtain rfl := Option.some.inj h
      decide
    · exact absurd h.symm (Option.some_ne_none ns)
  isName {dir ns} h := by
    split at h
    · obtain rfl := Option.some.inj h
      simp only [List.mem_cons, List.not_mem_nil, or_false, forall_eq_or_imp, forall_eq]
      exact ⟨isName_file, isName_link⟩
    · exact absurd h.symm (Option.some_ne_none ns)
  short {path} h := by
    obtain ⟨times, htimes, rfl⟩ := isAround_iff.1 h
    rw [length_around, pathLimit]
    omega

/-- The files in the circle are those that paths around it lead to. -/
theorem circle_isFile (p : Path) : circle.isFile p = isFileAround p := rfl

/-- Where a path leads once its links are followed. -/
def resolved (path : Path) : Path :=
  if isAround path then around 0 else if isFileAround path then fileAround 0 else path

/-- Around the circle, a path leads to its directory. -/
theorem isAround_around (times : Nat) (h : times < 41) : isAround (around times) = true :=
  isAround_iff.2 ⟨times, h, rfl⟩

/-- A path around the circle leads back to where it began. -/
theorem resolved_around {times : Nat} (h : times < 41) : resolved (around times) = around 0 :=
  if_pos (isAround_around times h)

/-- A path around the circle to the file leads to that file. -/
theorem resolved_fileAround {times : Nat} (h : times < 41) :
    resolved (fileAround times) = fileAround 0 := by
  rw [resolved, if_neg (by rw [isAround_fileAround]; exact Bool.false_ne_true),
    if_pos (isFileAround_iff.2 ⟨times, h, rfl⟩)]

/-- The directory has the same two entries by each of its paths. -/
theorem circle_names {d : Path} (h : isAround d = true) :
    circle.names d = some ["a.yaml", "l"] :=
  if_pos h

/-- A path leads to the directory, to the file in it, or nowhere else. -/
theorem resolved_cases (p : Path) :
    (∃ times, times < 41 ∧ p = around times) ∨ (∃ times, times < 41 ∧ p = fileAround times) ∨
      resolved p = p := by
  by_cases hdir : isAround p = true
  · exact .inl (isAround_iff.1 hdir)
  · by_cases hfile : isFileAround p = true
    · exact .inr (.inl (isFileAround_iff.1 hfile))
    · exact .inr (.inr (by rw [resolved, if_neg hdir, if_neg hfile]))

/-- What does not depend on how often a path goes around is the same where it leads. -/
theorem eq_resolved {α : Type} {f : Path → α}
    (hdir : ∀ times, times < 41 → f (around times) = f (around 0))
    (hfile : ∀ times, times < 41 → f (fileAround times) = f (fileAround 0)) (p : Path) :
    f (resolved p) = f p := by
  obtain ⟨times, h, rfl⟩ | ⟨times, h, rfl⟩ | h := resolved_cases p
  · rw [resolved_around h, hdir times h]
  · rw [resolved_fileAround h, hfile times h]
  · rw [h]

/-- In the circle, paths lead to the directory and to the file in it. -/
theorem circle_resolves : circle.Resolves resolved where
  isDir := eq_resolved (f := isAround)
    (fun times h => (isAround_around times h).trans (isAround_around 0 (by decide)).symm)
    fun times _ => (isAround_fileAround times).trans (isAround_fileAround 0).symm
  isFile := by
    refine eq_resolved (f := isFileAround) (fun times _ => (isFileAround_around times).trans
      (isFileAround_around 0).symm) fun times h => ?_
    exact (isFileAround_iff.2 ⟨times, h, rfl⟩).trans
      (isFileAround_iff.2 ⟨0, by decide, rfl⟩).symm
  names := by
    refine eq_resolved (f := circle.names) (fun times h => ?_) fun times _ => ?_
    · rw [circle_names (isAround_around times h), circle_names (isAround_around 0 (by decide))]
    · simp [circle, isAround_fileAround]
  idem := eq_resolved (fun _ h => (resolved_around h).trans (resolved_around (by decide)).symm)
    fun _ h => (resolved_fileAround h).trans (resolved_fileAround (by decide)).symm
  child {dir ns n} hns hn hthere := by
    have hdir : isAround dir = true := by
      by_contra hnot
      exact Option.some_ne_none ns (hns.symm.trans (if_neg hnot))
    obtain ⟨times, htimes, rfl⟩ := isAround_iff.1 hdir
    obtain rfl := Option.some.inj ((circle_names hdir).symm.trans hns)
    rw [resolved_around htimes]
    simp only [List.mem_cons, List.not_mem_nil, or_false] at hn
    obtain rfl | rfl := hn
    · exact (resolved_fileAround htimes).trans (resolved_fileAround (by decide)).symm
    · rw [around_succ] at hthere ⊢
      rw [around_succ]
      -- the link is there as long as the host still follows it
      obtain hthere | hthere := hthere
      · exact (if_pos hthere).trans (resolved_around (by decide)).symm
      · exact absurd ((isFileAround_around _).symm.trans hthere) Bool.false_ne_true

/-- The file is found by a path that goes around once. -/
theorem circle_finds : circle.Finds (around 0) (fileAround 1) := by
  have hcase : IsCaseName "a.yaml" := ⟨by decide, ['a'], by decide, .inl (by decide)⟩
  have hbelow : circle.Finds ((around 0).child "l") (fileAround 1) := by
    rw [around_succ]
    exact .file (circle_names (isAround_around 1 (by decide))) List.mem_cons_self
      (isAround_fileAround 1) hcase
  refine .deeper (circle_names (isAround_around 0 (by decide)))
    (List.mem_cons_of_mem _ List.mem_cons_self) ?_ hbelow
  rw [around_succ]
  exact isAround_around 1 (by decide)

/-- Whatever is reached in a circle can be read. -/
theorem circle_readable {dir d : Path} (h : circle.Reaches dir d) (hdir : isAround dir = true) :
    (circle.names d).isSome = true := by
  induction h with
  | here => rw [circle_names hdir]; rfl
  | deeper _ _ hchild _ ih => exact ih hchild

/-- Not every case file that is found has a path that leads through each directory once. -/
theorem directory_passed_twice :
    ¬ ∀ (t : Tree) (real : Path → Path), t.Resolves real →
      ∀ (path : Path) (host : t.Showing) (st : host.State) (files : List Path),
        ((caseFiles path).run host.handle st).1 = .ok files →
        ∀ p ∈ files, ∀ d e : Path, d.components <+: e.components → e.components <+: p.components →
          t.isDir d = true → t.isDir e = true → real d = real e → d.components = e.components := by
  intro h
  obtain ⟨st⟩ : Nonempty circle.showing.State := ⟨()⟩
  have hfile : circle.isFile (around 0) = false :=
    (circle_isFile _).trans (isFileAround_around 0)
  obtain ⟨files, hfiles⟩ := (circle.showing.exists_ok_iff (around 0) st).2
    (.inr fun d hd => circle_readable hd (isAround_around 0 (by decide)))
  have hfound : fileAround 1 ∈ files := by
    rw [circle.showing.mem_iff hfiles, Tree.Offers, if_neg (by simp [hfile])]
    exact circle_finds
  have hlonger : (around 1).components = (around 0).components ++ [.name "l"] := by
    rw [← around_succ, isName_link.components_child]
  have hfirst : (around 0).components <+: (around 1).components := ⟨[.name "l"], hlonger.symm⟩
  have hsecond : (around 1).components <+: (fileAround 1).components := by
    rw [fileAround, isName_file.components_child]
    exact List.prefix_append _ _
  have hsame : resolved (around 0) = resolved (around 1) :=
    (resolved_around (by decide)).trans (resolved_around (by decide)).symm
  have heq := h circle resolved circle_resolves (around 0) circle.showing st files hfiles _ hfound
    (around 0) (around 1) hfirst hsecond (isAround_around 0 (by decide))
    (isAround_around 1 (by decide)) hsame
  rw [hlonger] at heq
  exact absurd (congrArg List.length heq) (by simp)

/-- The directories that are listed are those that are reached, each path to one of them at most
once, and all of them if case files are found. A link that leads back to a directory above it makes
longer paths to the same directories, of which each is listed; it ends with the paths that the host
takes, which are shorter than its limit. No case file is found twice by the same path. -/
theorem entered_directories (t : Tree) (path : Path) (host : t.Showing) (st : host.State) :
    (visits ((caseFiles path).trace host.handle st)).Pairwise
        (fun p q => p.components ≠ q.components) ∧
      (∀ d ∈ visits ((caseFiles path).trace host.handle st),
        t.Reaches path d ∧ (d = path ∨ d.text.length < pathLimit)) ∧
      ∀ files, ((caseFiles path).run host.handle st).1 = .ok files →
        files.Pairwise (fun p q => p.components ≠ q.components) ∧
        (t.isFile path = false → ∀ d, t.Reaches path d →
          d ∈ visits ((caseFiles path).trace host.handle st)) := by
  obtain ⟨hcollects, hsorted⟩ := host.collects path st
  refine ⟨hcollects.once, fun d hd => ?_, fun files hfiles => ⟨?_, fun hfile d hd => ?_⟩⟩
  · have hreached := (hcollects.sound d hd).2
    exact ⟨hreached, hreached.short⟩
  · refine (hsorted files hfiles).imp fun {p q} hlt heq => ?_
    rw [Path.compare_eq_eq.2 heq] at hlt
    exact absurd hlt (by decide)
  · exact hcollects.all (by rw [hfiles]; rfl) d ⟨hfile, hd⟩

end Suite

end Assay
