import Assay.Proofs.Registration
import Assay.Proofs.Requests
import Assay.Suite.Discovery
import Mathlib

/-!
# What discovery finds

The case files below a directory are found whatever the order is in which the host lists the names
of a directory (`case_files_of_tree`): they are listed if every directory that is reached can be
read, and then in the order of their paths, each of them once.
-/

namespace Assay

namespace Text

variable {sep : Char} {s t : List Char}

/-- A text without a separator is a single piece. -/
theorem splitAt_of_notMem (h : sep ∉ s) : splitAt sep s = [s] := by
  induction s with
  | nil => rfl
  | cons c s ih =>
    obtain ⟨hc, hs⟩ := not_or.1 (mt List.mem_cons.2 h)
    rw [splitAt, if_neg (Ne.symm hc), ih hs]

/-- The piece behind the last separator comes last. -/
theorem splitAt_append_sep (s : List Char) (ht : sep ∉ t) :
    splitAt sep (s ++ sep :: t) = splitAt sep s ++ [t] := by
  induction s with
  | nil =>
    have hsep : splitAt sep (sep :: t) = [] :: splitAt sep t := if_pos rfl
    rw [List.nil_append, hsep, splitAt_of_notMem ht]
    rfl
  | cons c s ih =>
    rw [List.cons_append, splitAt, splitAt, ih]
    split
    · rfl
    · cases h : splitAt sep s with
      | nil => exact absurd h (splitAt_ne_nil sep s)
      | cons piece rest => rfl

/-- Only the empty text is a single empty piece. -/
theorem splitAt_eq_singleton_nil : splitAt sep s = [[]] ↔ s = [] := by
  refine ⟨fun h => ?_, fun h => by rw [h]; rfl⟩
  cases s with
  | nil => rfl
  | cons c s =>
    rw [splitAt] at h
    split at h
    · exact absurd (List.cons.inj h).2 (splitAt_ne_nil sep s)
    · split at h <;> simp at h

/-- A text with a separator is what stands before the last one and what stands behind it. -/
theorem exists_eq_append_sep (h : sep ∈ s) :
    ∃ front back, s = front ++ sep :: back ∧ sep ∉ back := by
  obtain ⟨back, front, heq, hback⟩ := List.eq_append_cons_of_mem (List.mem_reverse.2 h)
  refine ⟨front.reverse, back.reverse, ?_, fun hmem => hback (List.mem_reverse.1 hmem)⟩
  rw [← List.reverse_reverse s, heq]
  simp

end Text

/-! ## Entries of a directory -/

namespace Path

variable {p q : Path} {n : String}

/-- A name that an entry of a directory can have. -/
structure IsName (n : String) : Prop where
  ne_empty : n ≠ ""
  no_slash : '/' ∉ n.toList
  not_here : n ≠ "."
  not_up : n ≠ ".."

/-- The components behind the first slash are those of the pieces. -/
theorem map_fst_locate (before : List Char) (pieces : List (List Char)) :
    (locate before pieces).map Prod.fst = pieces.filterMap (component? false) := by
  induction pieces generalizing before with
  | nil => rfl
  | cons piece rest ih =>
    rw [locate, List.filterMap_cons]
    cases component? false piece with
    | none => exact ih _
    | some c => exact congrArg (c :: ·) (ih _)

/-- The components of a path by the pieces of its text. -/
theorem components_eq {first : List Char} {rest : List (List Char)}
    (h : Text.splitAt '/' p.text.toList = first :: rest) :
    p.components = (if p.isAbsolute then [.root] else (component? true first).toList) ++
      rest.filterMap (component? false) := by
  rw [components, located, h]
  dsimp only
  split
  · rw [List.map_cons, map_fst_locate]; rfl
  · cases component? true first <;> simp [map_fst_locate]

/-- Paths that differ in the last piece have the same components up to those of that piece. -/
theorem components_of_splitAt {pieces : List (List Char)} {t u : List Char} (hne : pieces ≠ [])
    (hp : Text.splitAt '/' p.text.toList = pieces ++ [t])
    (hq : Text.splitAt '/' q.text.toList = pieces ++ [u]) (habs : q.isAbsolute = p.isAbsolute) :
    ∃ cs, p.components = cs ++ (component? false t).toList ∧
      q.components = cs ++ (component? false u).toList := by
  obtain ⟨first, rest, rfl⟩ := List.exists_cons_of_ne_nil hne
  rw [List.cons_append] at hp hq
  refine ⟨(if p.isAbsolute then [.root] else (component? true first).toList) ++
      rest.filterMap (component? false), ?_, ?_⟩
  · rw [components_eq hp, List.filterMap_append, List.append_assoc]
    cases h : component? false t <;> simp [h]
  · rw [components_eq hq, habs, List.filterMap_append, List.append_assoc]
    cases h : component? false u <;> simp [h]

/-- A name is a component. -/
theorem IsName.component?_eq (hn : IsName n) (first : Bool) :
    component? first n.toList = some (.name n) := by
  have hempty : n.toList ≠ [] := fun h => hn.ne_empty (String.toList_inj.1 h)
  have hhere : n.toList ≠ ['.'] := fun h => hn.not_here (String.toList_inj.1 h)
  have hup : n.toList ≠ ['.', '.'] := fun h => hn.not_up (String.toList_inj.1 h)
  rw [component?, if_neg hempty, if_neg hhere, if_neg hup, String.ofList_toList]

/-- A name is no absolute path. -/
theorem IsName.not_isAbsolute (hn : IsName n) : (Path.mk n).isAbsolute = false := by
  rw [isAbsolute, beq_eq_false_iff_ne]
  exact fun h => hn.no_slash (List.mem_of_mem_head? h)

/-- An entry's path is that of its directory, a slash if one is needed, and its name. -/
theorem IsName.child_eq (hn : IsName n) :
    p.child n = if p.text.isEmpty || p.text.toList.getLast? == some '/' then ⟨p.text ++ n⟩
      else ⟨p.text ++ "/" ++ n⟩ := by
  rw [child, join, hn.not_isAbsolute]
  rfl

/-- An entry's path is longer than that of its directory. -/
theorem IsName.length_lt (hn : IsName n) : p.text.length < (p.child n).text.length := by
  have hpos : 0 < n.length :=
    Nat.pos_of_ne_zero fun h => hn.ne_empty (String.length_eq_zero_iff.1 h)
  rw [hn.child_eq]
  split
  · rw [String.length_append]
    omega
  · rw [String.length_append, String.length_append]
    omega

/-- The components of an entry's path are those of its directory's and its name. -/
theorem IsName.components_child (hn : IsName n) :
    (p.child n).components = p.components ++ [.name n] := by
  rw [hn.child_eq]
  obtain ⟨text⟩ := p
  dsimp only
  by_cases hempty : text = ""
  · subst hempty
    have hname : Text.splitAt '/' ("" ++ n).toList = [n.toList] := by
      rw [String.empty_append]
      exact Text.splitAt_of_notMem hn.no_slash
    have habs : (Path.mk ("" ++ n)).isAbsolute = false := by
      rw [String.empty_append]
      exact hn.not_isAbsolute
    have hnone : (Path.mk "").components = [] := by decide
    rw [if_pos (by decide), hnone, components_eq hname, habs, hn.component?_eq]
    rfl
  · have hne : text.toList ≠ [] := fun h => hempty (String.toList_inj.1 h)
    by_cases hslash : text.toList.getLast? = some '/'
    · obtain ⟨front, hfront⟩ := List.getLast?_eq_some_iff.1 hslash
      rw [if_pos (by simp [hslash])]
      have hp : Text.splitAt '/' text.toList = Text.splitAt '/' front ++ [[]] := by
        rw [hfront]
        exact Text.splitAt_append_sep front List.not_mem_nil
      have hq : Text.splitAt '/' (text ++ n).toList = Text.splitAt '/' front ++ [n.toList] := by
        rw [String.toList_append, hfront, List.append_assoc]
        exact Text.splitAt_append_sep front hn.no_slash
      have habs : (Path.mk (text ++ n)).isAbsolute = (Path.mk text).isAbsolute := by
        rw [isAbsolute, isAbsolute, String.toList_append, List.head?_append_of_ne_nil _ hne]
      obtain ⟨cs, hp, hq⟩ :=
        components_of_splitAt (Text.splitAt_ne_nil '/' front) hp hq habs
      rw [hp, hq, hn.component?_eq]
      simp [component?]
    · rw [if_neg (by simp [hslash, hempty])]
      obtain ⟨first, rest, hsplit⟩ :=
        List.exists_cons_of_ne_nil (Text.splitAt_ne_nil '/' text.toList)
      have hq : Text.splitAt '/' (text ++ "/" ++ n).toList = first :: (rest ++ [n.toList]) := by
        rw [String.toList_append, String.toList_append, List.append_assoc, ← List.cons_append,
          ← hsplit]
        exact Text.splitAt_append_sep text.toList hn.no_slash
      have habs : (Path.mk (text ++ "/" ++ n)).isAbsolute = (Path.mk text).isAbsolute := by
        rw [isAbsolute, isAbsolute, String.toList_append, String.toList_append, List.append_assoc,
          List.head?_append_of_ne_nil _ hne]
      rw [components_eq hq, components_eq hsplit, habs, List.filterMap_append, List.append_assoc]
      simp [hn.component?_eq]

/-- What is at or below different entries of a directory has different components. -/
theorem components_ne_of_child {dir p q : Path} {n m : String} (hn : IsName n) (hm : IsName m)
    (hne : n ≠ m) (hp : (dir.child n).components <+: p.components)
    (hq : (dir.child m).components <+: q.components) : p.components ≠ q.components := by
  intro heq
  rw [hn.components_child] at hp
  rw [hm.components_child, ← heq] at hq
  have hboth := List.prefix_of_prefix_length_le hp hq (by simp)
  have hlast := (List.prefix_append_right_inj _).1 hboth
  simp only [List.cons_prefix_cons, Component.name.injEq, List.prefix_rfl, and_true] at hlast
  exact hne hlast

/-- An entry's path ends in its name. -/
theorem IsName.fileName?_child (hn : IsName n) : (p.child n).fileName? = some n := by
  rw [fileName?, hn.components_child, List.getLast?_concat]

/-- The extension of a name is what stands behind its last dot. -/
theorem IsName.extension?_child (hn : IsName n) {stem extension : List Char}
    (h : n.toList = stem ++ '.' :: extension) (hdot : '.' ∉ extension) :
    (p.child n).extension? = if stem = [] then none else some (String.ofList extension) := by
  have hsplit := Text.splitAt_append_sep stem hdot
  rw [← h] at hsplit
  rw [extension?, hn.fileName?_child, Option.bind_eq_bind, Option.bind_some, hsplit,
    List.reverse_append, List.reverse_singleton, List.singleton_append]
  cases hstem : (Text.splitAt '.' stem).reverse with
  | nil => exact absurd (List.reverse_eq_nil_iff.1 hstem) (Text.splitAt_ne_nil '.' stem)
  | cons piece before =>
    have hiff : piece :: before = [[]] ↔ stem = [] := by
      rw [← hstem, List.reverse_eq_iff, List.reverse_singleton]
      exact Text.splitAt_eq_singleton_nil
    dsimp only
    by_cases hnil : stem = []
    · rw [if_pos (hiff.2 hnil), if_pos hnil]
    · rw [if_neg (mt hiff.1 hnil), if_neg hnil]

/-- A name without a dot has no extension. -/
theorem IsName.extension?_child_of_notMem (hn : IsName n) (h : '.' ∉ n.toList) :
    (p.child n).extension? = none := by
  rw [extension?, hn.fileName?_child, Option.bind_eq_bind, Option.bind_some,
    Text.splitAt_of_notMem h]
  rfl

end Path

namespace Suite

open Host Plan

/-- The names of case files: those with a stem and the extension of a language, except that of the
settings. -/
def IsCaseName (n : String) : Prop :=
  n ≠ configName ∧ ∃ stem, stem ≠ [] ∧
    (n.toList = stem ++ ".yaml".toList ∨ n.toList = stem ++ ".yml".toList ∨
      n.toList = stem ++ ".toml".toList)

/-- The extensions of the languages. -/
theorem ofExtension?_isSome {e : String} :
    (Language.ofExtension? e).isSome = true ↔ e = "yaml" ∨ e = "yml" ∨ e = "toml" := by
  rw [Language.ofExtension?]
  by_cases h : e = "yaml" ∨ e = "yml"
  · simp [h, ← or_assoc]
  · rw [not_or] at h
    by_cases htoml : e = "toml" <;> simp [h, htoml]

/-- A case file's name by what stands behind its last dot. -/
theorem isCaseName_iff {n : String} :
    IsCaseName n ↔ n ≠ configName ∧ ∃ stem extension : List Char, stem ≠ [] ∧ '.' ∉ extension ∧
      n.toList = stem ++ '.' :: extension ∧
      (Language.ofExtension? (String.ofList extension)).isSome = true := by
  refine and_congr_right fun _ => exists_congr fun stem => ?_
  constructor
  · rintro ⟨hstem, h | h | h⟩
    · exact ⟨"yaml".toList, hstem, by decide, h, by decide⟩
    · exact ⟨"yml".toList, hstem, by decide, h, by decide⟩
    · exact ⟨"toml".toList, hstem, by decide, h, by decide⟩
  · rintro ⟨extension, hstem, -, h, hlanguage⟩
    refine ⟨hstem, ?_⟩
    obtain heq | heq | heq := ofExtension?_isSome.1 hlanguage
    all_goals
      rw [← String.toList_inj, String.toList_ofList] at heq
      rw [h, heq]
      simp

/-- An entry is a case file if its name is that of one. -/
theorem isCaseFile_child {p : Path} {n : String} (hn : Path.IsName n) :
    isCaseFile (p.child n) = true ↔ IsCaseName n := by
  rw [isCaseName_iff, isCaseFile, hn.fileName?_child]
  by_cases hdot : '.' ∈ n.toList
  · obtain ⟨stem, extension, heq, hnot⟩ := Text.exists_eq_append_sep hdot
    rw [hn.extension?_child heq hnot]
    constructor
    · intro h
      split at h
      · exact absurd h Bool.false_ne_true
      · next e he =>
        split at he
        · exact absurd he.symm (Option.some_ne_none _)
        · next hstem =>
          obtain rfl := Option.some.inj he
          rw [Bool.and_eq_true, decide_eq_true_eq] at h
          exact ⟨fun hc => h.2 (congrArg some hc), stem, extension, hstem, hnot, heq, h.1⟩
    · rintro ⟨hconfig, stem', extension', hstem, hnot', heq', hlanguage⟩
      have h := hn.extension?_child (p := p) heq hnot
      rw [hn.extension?_child heq' hnot', if_neg hstem] at h
      rw [← h]
      simp [hlanguage, hconfig]
  · rw [hn.extension?_child_of_notMem hdot]
    refine ⟨fun h => absurd h Bool.false_ne_true, ?_⟩
    rintro ⟨-, stem, extension, -, -, heq, -⟩
    exact absurd (by simp [heq]) hdot

/-! ## What a host shows -/

/-- The directories that are listed by some requests. -/
def visits (log : List Request) : List Path :=
  log.filterMap fun
    | .list dir => some dir
    | _ => none

/-- The directories of requests one behind the other are listed one behind the other. -/
theorem visits_append (log more : List Request) :
    visits (log ++ more) = visits log ++ visits more :=
  List.filterMap_append

/-- What a host shows of its files, and which names are in a directory, if it can be read. A host
takes no path that is longer than its limit, so nothing beyond it is a directory. -/
structure Tree where
  isFile : Path → Bool
  isDir : Path → Bool
  names : Path → Option (List String)
  nodup : ∀ {dir ns}, names dir = some ns → ns.Nodup
  isName : ∀ {dir ns}, names dir = some ns → ∀ n ∈ ns, Path.IsName n
  short : ∀ {path}, isDir path = true → path.text.length < pathLimit

namespace Tree

/-- The replies that agree with a tree. The names of a directory come in any order, and in another
one each time. -/
def Allows (t : Tree) : (r : Request) → Reply r → Prop
  | .stat path, .ok s => s.isFile = t.isFile path ∧ s.isDir = t.isDir path
  | .stat path, .error _ => t.isFile path = false ∧ t.isDir path = false
  | .list dir, .ok listed => ∃ ns, t.names dir = some ns ∧ listed.Perm ns
  | .list dir, .error _ => t.names dir = none
  | _, _ => True

/-- The directories that are reached from a directory. -/
inductive Reaches (t : Tree) : Path → Path → Prop
  | here {dir} : t.Reaches dir dir
  | deeper {dir ns n d} : t.names dir = some ns → n ∈ ns → t.isDir (dir.child n) = true →
    t.Reaches (dir.child n) d → t.Reaches dir d

/-- The case files below a directory, at any depth. -/
inductive Finds (t : Tree) : Path → Path → Prop
  | file {dir ns n} : t.names dir = some ns → n ∈ ns → t.isDir (dir.child n) = false →
    IsCaseName n → t.Finds dir (dir.child n)
  | deeper {dir ns n p} : t.names dir = some ns → n ∈ ns → t.isDir (dir.child n) = true →
    t.Finds (dir.child n) p → t.Finds dir p

/-- What is found at an entry of a directory: the entry itself, or what is below it. -/
def FindsAt (t : Tree) (path p : Path) : Prop :=
  (t.isDir path = false ∧ isCaseFile path = true ∧ p = path) ∨
    (t.isDir path = true ∧ t.Finds path p)

/-- The directories that are reached at an entry. -/
def ReachesAt (t : Tree) (path d : Path) : Prop :=
  t.isDir path = true ∧ t.Reaches path d

/-- What is found at some entries of a directory. -/
def FindsEach (t : Tree) (dir : Path) (entries : List String) (p : Path) : Prop :=
  ∃ n ∈ entries, t.FindsAt (dir.child n) p

/-- The directories that are reached at some entries. -/
def ReachesEach (t : Tree) (dir : Path) (entries : List String) (d : Path) : Prop :=
  ∃ n ∈ entries, t.ReachesAt (dir.child n) d

/-- What is answered where some directories are reached and some case files are found: these, each
path once, or that one of the directories cannot be read. -/
def Answers (t : Tree) (reached found : Path → Prop) : Except Host.Fault (List Path) → Prop
  | .ok files => (∀ d, reached d → (t.names d).isSome = true) ∧
    files.Pairwise (fun p q => p.components ≠ q.components) ∧ ∀ p, p ∈ files ↔ found p
  | .error _ => ∃ d, reached d ∧ t.names d = none

/-- What is asked for and answered where some directories are reached and some case files are found.
No directory is listed twice, and all of them are if none of them fails. -/
structure Collects (t : Tree) (reached found : Path → Prop) (log : List Request)
    (result : Except Host.Fault (List Path)) : Prop where
  answers : t.Answers reached found result
  once : (visits log).Pairwise fun p q => p.components ≠ q.components
  sound : ∀ d ∈ visits log, reached d
  all : result.isOk = true → ∀ d, reached d → d ∈ visits log

variable {t : Tree} {dir path p q d : Path} {n m : String} {ns : List String}

/-- What is found is below the directory. -/
theorem Finds.isPrefix (h : t.Finds dir p) : dir.components <+: p.components := by
  induction h with
  | file hns hn _ _ =>
    rw [(t.isName hns _ hn).components_child]
    exact List.prefix_append _ _
  | deeper hns hn _ _ ih =>
    rw [(t.isName hns _ hn).components_child] at ih
    exact (List.prefix_append _ _).trans ih

/-- What is found at an entry is at or below it. -/
theorem FindsAt.isPrefix (h : t.FindsAt path p) : path.components <+: p.components := by
  obtain ⟨-, -, rfl⟩ | ⟨-, h⟩ := h
  · exact List.prefix_rfl
  · exact h.isPrefix

/-- What is reached is at or below the directory. -/
theorem Reaches.isPrefix (h : t.Reaches dir d) : dir.components <+: d.components := by
  induction h with
  | here => exact List.prefix_rfl
  | deeper hns hn _ _ ih =>
    rw [(t.isName hns _ hn).components_child] at ih
    exact (List.prefix_append _ _).trans ih

/-- A directory is not what is below one of its entries. -/
theorem ReachesEach.components_ne (hnames : ∀ n ∈ ns, Path.IsName n)
    (h : t.ReachesEach dir ns d) : dir.components ≠ d.components := by
  obtain ⟨n, hn, -, hd⟩ := h
  have hpre := hd.isPrefix.length_le
  rw [(hnames n hn).components_child, List.length_append, List.length_singleton] at hpre
  intro heq
  rw [heq] at hpre
  exact Nat.not_succ_le_self _ hpre

/-- The directories that are reached from a directory are itself and those of its entries. -/
theorem reaches_iff (h : t.names dir = some ns) :
    t.Reaches dir d ↔ d = dir ∨ t.ReachesEach dir ns d := by
  constructor
  · intro hd
    cases hd with
    | here => exact .inl rfl
    | deeper hns hn hdir hd =>
      obtain rfl := Option.some.inj (h.symm.trans hns)
      exact .inr ⟨_, hn, hdir, hd⟩
  · rintro (rfl | ⟨n, hn, hdir, hd⟩)
    · exact .here
    · exact .deeper h hn hdir hd

/-- The case files below a directory are those of its entries. -/
theorem finds_iff (h : t.names dir = some ns) : t.Finds dir p ↔ t.FindsEach dir ns p := by
  constructor
  · intro hp
    cases hp with
    | file hns hn hdir hname =>
      obtain rfl := Option.some.inj (h.symm.trans hns)
      exact ⟨_, hn, .inl ⟨hdir, (isCaseFile_child (t.isName h _ hn)).2 hname, rfl⟩⟩
    | deeper hns hn hdir hp =>
      obtain rfl := Option.some.inj (h.symm.trans hns)
      exact ⟨_, hn, .inr ⟨hdir, hp⟩⟩
  · rintro ⟨n, hn, ⟨hdir, hcase, rfl⟩ | ⟨hdir, hp⟩⟩
    · exact .file h hn hdir ((isCaseFile_child (t.isName h n hn)).1 hcase)
    · exact .deeper h hn hdir hp

/-! ## Collecting -/

section Collects

variable {reached reached' found found' : Path → Prop} {log log' : List Request}
  {result : Except Host.Fault (List Path)} {files more : List Path} {fault : Host.Fault}

/-- Only the sets of directories and files matter, and of the requests only the directories that
they list. -/
theorem Collects.congr (h : t.Collects reached found log result)
    (hreached : ∀ d, reached' d ↔ reached d) (hfound : ∀ p, found' p ↔ found p)
    (hlog : visits log' = visits log) : t.Collects reached' found' log' result := by
  obtain rfl : reached' = reached := funext fun d => propext (hreached d)
  obtain rfl : found' = found := funext fun p => propext (hfound p)
  exact ⟨h.answers, hlog ▸ h.once, hlog ▸ h.sound, hlog ▸ h.all⟩

/-- Without a directory and a case file there is nothing to be listed. -/
theorem collects_nil (hreached : ∀ d, ¬reached d) (hfound : ∀ p, ¬found p) :
    t.Collects reached found [] (.ok []) where
  answers := ⟨fun d hd => absurd hd (hreached d), List.Pairwise.nil,
    fun p => iff_of_false List.not_mem_nil (hfound p)⟩
  once := List.Pairwise.nil
  sound := List.forall_mem_nil _
  all _ d hd := absurd hd (hreached d)

/-- A directory that cannot be read is the answer, whatever else there is. -/
theorem Collects.error_or (h : t.Collects reached found log (.error fault)) :
    t.Collects (fun d => reached d ∨ reached' d) found' log (.error fault) where
  answers := h.answers.imp fun _ hd => ⟨.inl hd.1, hd.2⟩
  once := h.once
  sound d hd := .inl (h.sound d hd)
  all hok := absurd hok Bool.false_ne_true

/-- The directories of two parts are listed one part after the other. -/
theorem once_append (h : t.Collects reached found log (.ok files))
    (h' : t.Collects reached' found' log' result)
    (hne : ∀ p q, reached p → reached' q → p.components ≠ q.components) :
    (visits (log ++ log')).Pairwise fun p q => p.components ≠ q.components := by
  rw [visits_append]
  exact List.pairwise_append.2 ⟨h.once, h'.once, fun p hp q hq =>
    hne p q (h.sound p hp) (h'.sound q hq)⟩

/-- The directories that are listed for two parts are reached in one of them. -/
theorem reached_append (h : t.Collects reached found log (.ok files))
    (h' : t.Collects reached' found' log' result) :
    ∀ d ∈ visits (log ++ log'), reached d ∨ reached' d := by
  intro d hd
  rw [visits_append, List.mem_append] at hd
  exact hd.imp (h.sound d) (h'.sound d)

/-- Two parts that have nothing in common are collected one after the other. -/
theorem Collects.append (h : t.Collects reached found log (.ok files))
    (h' : t.Collects reached' found' log' (.ok more))
    (hreached : ∀ p q, reached p → reached' q → p.components ≠ q.components)
    (hfound : ∀ p q, found p → found' q → p.components ≠ q.components) :
    t.Collects (fun d => reached d ∨ reached' d) (fun p => found p ∨ found' p) (log ++ log')
      (.ok (files ++ more)) where
  answers := by
    obtain ⟨hread, hpairwise, hfiles⟩ := h.answers
    obtain ⟨hread', hpairwise', hmore⟩ := h'.answers
    refine ⟨fun d hd => hd.elim (hread d) (hread' d), ?_, fun p => ?_⟩
    · exact List.pairwise_append.2 ⟨hpairwise, hpairwise', fun p hp q hq =>
        hfound p q ((hfiles p).1 hp) ((hmore q).1 hq)⟩
    · rw [List.mem_append, hfiles, hmore]
  once := once_append h h' hreached
  sound := reached_append h h'
  all _ d hd := by
    rw [visits_append, List.mem_append]
    exact hd.imp (h.all rfl d) (h'.all rfl d)

/-- A part behind another in which a directory cannot be read. -/
theorem Collects.append_error (h : t.Collects reached found log (.ok files))
    (h' : t.Collects reached' found' log' (.error fault))
    (hreached : ∀ p q, reached p → reached' q → p.components ≠ q.components) :
    t.Collects (fun d => reached d ∨ reached' d) (fun p => found p ∨ found' p) (log ++ log')
      (.error fault) where
  answers := h'.answers.imp fun _ hd => ⟨.inr hd.1, hd.2⟩
  once := once_append h h' hreached
  sound := reached_append h h'
  all hok := absurd hok Bool.false_ne_true

end Collects

/-- A host that shows a tree is asked once whether there is a file, and lists nothing for it. -/
theorem follows_isFile :
    (Host.isFile path).Follows t.Allows fun log b => visits log = [] ∧ b = t.isFile path := by
  rintro (fault | s) h
  · exact ⟨rfl, h.1.symm⟩
  · exact ⟨rfl, h.1⟩

/-- A host that shows a tree is asked once whether there is a directory, and lists nothing for it. -/
theorem follows_isDir :
    (Host.isDir path).Follows t.Allows fun log b => visits log = [] ∧ b = t.isDir path := by
  rintro (fault | s) h
  · exact ⟨rfl, h.2.symm⟩
  · exact ⟨rfl, h.2⟩

/-- What is done at an entry, where `below` collects in a directory. -/
theorem follows_entry {below : Path → Plan (Except Host.Fault (List Path))}
    (hbelow : t.isDir path = true →
      (below path).Follows t.Allows (t.Collects (t.Reaches path) (t.Finds path))) :
    (if t.isDir path = true then below path
      else pure (.ok (if isCaseFile path = true then [path] else []))).Follows t.Allows
        (t.Collects (t.ReachesAt path) (t.FindsAt path)) := by
  by_cases hdir : t.isDir path = true
  · rw [if_pos hdir]
    refine (hbelow hdir).mono fun log result h => h.congr (fun d => ?_) (fun p => ?_) rfl
    · exact and_iff_right hdir
    · simp [FindsAt, hdir]
  · rw [if_neg hdir]
    refine ⟨⟨fun d hd => absurd hd.1 hdir, ?_, fun p => ?_⟩, List.Pairwise.nil,
      List.forall_mem_nil _, fun _ d hd => absurd hd.1 hdir⟩
    · split <;> simp
    · split <;> simp_all [FindsAt]

/-- What is found at one entry comes before what is found at the others. -/
theorem follows_collectEach {below : Path → Plan (Except Host.Fault (List Path))}
    {entries : List String} (hnames : ∀ n ∈ entries, Path.IsName n) (hnodup : entries.Nodup)
    (hbelow : ∀ n ∈ entries, t.isDir (dir.child n) = true →
      (below (dir.child n)).Follows t.Allows
        (t.Collects (t.Reaches (dir.child n)) (t.Finds (dir.child n)))) :
    (collectEach below dir entries).Follows t.Allows
      (t.Collects (t.ReachesEach dir entries) (t.FindsEach dir entries)) := by
  induction entries with
  | nil => exact collects_nil (by simp [ReachesEach]) (by simp [FindsEach])
  | cons n rest ih =>
    obtain ⟨hn, hrest⟩ := List.forall_mem_cons.1 hnames
    obtain ⟨hnot, hnodup⟩ := List.nodup_cons.1 hnodup
    obtain ⟨hhere, hbelow⟩ := List.forall_mem_cons.1 hbelow
    have hreached (d : Path) : t.ReachesEach dir (n :: rest) d ↔
        t.ReachesAt (dir.child n) d ∨ t.ReachesEach dir rest d := List.exists_mem_cons_iff _ _ _
    have hfound (p : Path) : t.FindsEach dir (n :: rest) p ↔
        t.FindsAt (dir.child n) p ∨ t.FindsEach dir rest p := List.exists_mem_cons_iff _ _ _
    -- what is at or below an entry is not at or below another
    have hapart {p q : Path} (hp : (dir.child n).components <+: p.components)
        (hq : ∃ m ∈ rest, (dir.child m).components <+: q.components) :
        p.components ≠ q.components := by
      obtain ⟨m, hm, hq⟩ := hq
      exact Path.components_ne_of_child hn (hrest m hm) (fun heq => hnot (heq ▸ hm)) hp hq
    have hdirs (p q : Path) (hp : t.ReachesAt (dir.child n) p) (hq : t.ReachesEach dir rest q) :
        p.components ≠ q.components := by
      refine hapart hp.2.isPrefix ?_
      obtain ⟨m, hm, hq⟩ := hq
      exact ⟨m, hm, hq.2.isPrefix⟩
    have hfiles (p q : Path) (hp : t.FindsAt (dir.child n) p) (hq : t.FindsEach dir rest q) :
        p.components ≠ q.components := by
      refine hapart hp.isPrefix ?_
      obtain ⟨m, hm, hq⟩ := hq
      exact ⟨m, hm, hq.isPrefix⟩
    rw [collectEach]
    refine follows_isDir.bind ?_
    rintro log₀ _ ⟨hlog₀, rfl⟩
    refine Follows.ite_bind (follows_entry hhere) fun log₁ here hcollects => ?_
    cases here with
    | error fault =>
      refine hcollects.error_or.congr hreached hfound ?_
      rw [List.append_nil, visits_append, hlog₀, List.nil_append]
    | ok files =>
      refine (ih hrest hnodup hbelow).bind fun log₂ others hothers => ?_
      have hlog : visits (log₀ ++ (log₁ ++ (log₂ ++ []))) = visits (log₁ ++ log₂) := by
        rw [List.append_nil, visits_append, hlog₀, List.nil_append]
      cases others with
      | error fault => exact (hcollects.append_error hothers hdirs).congr hreached hfound hlog
      | ok more => exact (hcollects.append hothers hdirs hfiles).congr hreached hfound hlog

/-- Collecting never runs out of levels: a path gets longer with each level, and none is a directory
that is longer than the limit. -/
theorem follows_collect {levels : Nat} (hpos : 0 < levels)
    (hlevels : pathLimit ≤ levels + dir.text.length) :
    (collect levels dir).Follows t.Allows (t.Collects (t.Reaches dir) (t.Finds dir)) := by
  induction levels generalizing dir with
  | zero => exact absurd hpos (Nat.lt_irrefl 0)
  | succ levels ih =>
    rw [collect]
    rintro (fault | listed) hlisted
    · refine ⟨⟨dir, .here, hlisted⟩, List.pairwise_singleton _ dir, ?_,
        fun hok => absurd hok Bool.false_ne_true⟩
      exact List.forall_mem_singleton.2 .here
    · obtain ⟨ns, hns, hperm⟩ := hlisted
      have hnames : ∀ n ∈ listed, Path.IsName n := fun n hn =>
        t.isName hns n (hperm.mem_iff.1 hn)
      have hbelow : ∀ n ∈ listed, t.isDir (dir.child n) = true →
          (collect levels (dir.child n)).Follows t.Allows
            (t.Collects (t.Reaches (dir.child n)) (t.Finds (dir.child n))) := by
        intro n hn hdir
        have hlonger : dir.text.length < (dir.child n).text.length := (hnames n hn).length_lt
        have hshort := t.short hdir
        exact ih (by omega) (by omega)
      -- the names come in another order than those of the tree
      have hreaches (d : Path) : t.ReachesEach dir listed d ↔ t.ReachesEach dir ns d := by
        simp only [ReachesEach, hperm.mem_iff]
      have hfinds (p : Path) : t.FindsEach dir listed p ↔ t.FindsEach dir ns p := by
        simp only [FindsEach, hperm.mem_iff]
      refine (follows_collectEach hnames (hperm.nodup_iff.2 (t.nodup hns)) hbelow).mono ?_
      rintro log result ⟨hanswers, honce, hreached, hall⟩
      refine ⟨?_, List.pairwise_cons.2 ⟨fun d hd => (hreached d hd).components_ne hnames, honce⟩,
        List.forall_mem_cons.2 ⟨.here, fun d hd => ?_⟩, fun hok d hd => ?_⟩
      · cases result with
        | error fault =>
          obtain ⟨d, hd, hnone⟩ := hanswers
          exact ⟨d, (reaches_iff hns).2 (.inr ((hreaches d).1 hd)), hnone⟩
        | ok files =>
          obtain ⟨hread, hpairwise, hfiles⟩ := hanswers
          refine ⟨fun d hd => ?_, hpairwise, fun p => ?_⟩
          · obtain rfl | hd := (reaches_iff hns).1 hd
            · rw [hns]
              rfl
            · exact hread d ((hreaches d).2 hd)
          · rw [hfiles, hfinds, finds_iff hns]
      · exact (reaches_iff hns).2 (.inr ((hreaches d).1 (hreached d hd)))
      · obtain rfl | hd := (reaches_iff hns).1 hd
        · exact List.mem_cons_self
        · exact List.mem_cons_of_mem _ (hall hok d ((hreaches d).2 hd))

/-- Sorted paths of which no two are equal ascend strictly. -/
theorem pairwise_sorted {files : List Path}
    (h : files.Pairwise fun p q => p.components ≠ q.components) :
    (files.mergeSort fun p q => p.compare q ≠ .gt).Pairwise fun p q => p.compare q = .lt := by
  have hperm := List.mergeSort_perm files fun p q => p.compare q ≠ .gt
  have hne := (hperm.pairwise_iff fun hpq => Ne.symm hpq).2 h
  refine ((Path.pairwise_mergeSort files).and hne).imp fun {p q} hboth => ?_
  have hneq : p.compare q ≠ .eq := mt Path.compare_eq_eq.1 hboth.2
  cases hcompare : p.compare q with
  | lt => rfl
  | eq => exact absurd hcompare hneq
  | gt => exact absurd hcompare hboth.1

/-- The directories that case files are looked for in; none if a file is given. -/
def Searched (t : Tree) (path d : Path) : Prop :=
  t.isFile path = false ∧ t.Reaches path d

/-- The case files at a path: the file itself, or those in the directory and below. -/
def Offers (t : Tree) (path p : Path) : Prop :=
  if t.isFile path = true then p = path else t.Finds path p

/-- The case files at a path are collected, and then they are sorted. -/
theorem follows_caseFiles :
    (caseFiles path).Follows t.Allows fun log result =>
      t.Collects (t.Searched path) (t.Offers path) log result ∧
        ∀ files, result = .ok files → files.Pairwise fun p q => p.compare q = .lt := by
  rw [caseFiles]
  refine follows_isFile.bind ?_
  rintro log₀ _ ⟨hlog₀, rfl⟩
  by_cases hfile : t.isFile path = true
  · rw [if_pos hfile]
    have hnone (d : Path) : ¬t.Searched path d := fun hd =>
      Bool.false_ne_true (hd.1.symm.trans hfile)
    have hlog : visits (log₀ ++ []) = [] := by rw [List.append_nil, hlog₀]
    refine ⟨⟨⟨fun d hd => absurd hd (hnone d), List.pairwise_singleton _ _, fun p => ?_⟩, ?_, ?_,
      fun _ d hd => absurd hd (hnone d)⟩, ?_⟩
    · simp [Offers, hfile]
    · exact hlog ▸ List.Pairwise.nil
    · exact hlog ▸ List.forall_mem_nil _
    · rintro _ ⟨⟩
      exact List.pairwise_singleton _ _
  · rw [if_neg hfile]
    have hcollect : (collect pathLimit path).Follows t.Allows
        (t.Collects (t.Reaches path) (t.Finds path)) :=
      follows_collect (by decide) (Nat.le_add_right _ _)
    refine hcollect.bind fun log₁ result h => ?_
    have hlog : visits (log₀ ++ (log₁ ++ [])) = visits log₁ := by
      rw [List.append_nil, visits_append, hlog₀, List.nil_append]
    have hcollects : t.Collects (t.Searched path) (t.Offers path) (log₀ ++ (log₁ ++ [])) result :=
      h.congr (fun d => and_iff_right (Bool.not_eq_true _ ▸ hfile))
        (fun p => by simp [Offers, hfile]) hlog
    cases result with
    | error fault => exact ⟨hcollects, fun _ h => nomatch h⟩
    | ok files =>
      obtain ⟨⟨hread, hpairwise, hfiles⟩, honce, hreached, hall⟩ := hcollects
      have hsorted := pairwise_sorted hpairwise
      refine ⟨⟨⟨hread, hsorted.imp ?_, fun p => ?_⟩, honce, hreached, hall⟩, ?_⟩
      · exact fun {p q} hlt heq => nomatch hlt.symm.trans (Path.compare_eq_eq.2 heq)
      · rw [List.mem_mergeSort, hfiles]
      · rintro _ ⟨⟩
        exact hsorted

/-- A host that shows a tree. -/
structure Showing (t : Tree) where
  State : Type
  handle : Handler State
  allowed : ∀ r st, t.Allows r (handle r st).1

/-- What a host that shows a tree is asked for and answers. -/
theorem Showing.collects (host : t.Showing) (path : Path) (st : host.State) :
    t.Collects (t.Searched path) (t.Offers path) ((caseFiles path).trace host.handle st)
        ((caseFiles path).run host.handle st).1 ∧
      ∀ files, ((caseFiles path).run host.handle st).1 = .ok files →
        files.Pairwise fun p q => p.compare q = .lt :=
  follows_caseFiles.trace host.allowed st

/-- A host that shows a tree has case files for a path exactly if that is a file or all directories
that are reached can be read. -/
theorem Showing.exists_ok_iff (host : t.Showing) (path : Path) (st : host.State) :
    (∃ files, ((caseFiles path).run host.handle st).1 = .ok files) ↔
      t.isFile path = true ∨ ∀ d, t.Reaches path d → (t.names d).isSome = true := by
  have hanswers := (host.collects path st).1.answers
  cases hresult : ((caseFiles path).run host.handle st).1 with
  | error fault =>
    rw [hresult] at hanswers
    obtain ⟨d, ⟨hfile, hd⟩, hnone⟩ := hanswers
    refine iff_of_false (fun ⟨_, h⟩ => nomatch h) ?_
    rintro (h | h)
    · exact Bool.false_ne_true (hfile.symm.trans h)
    · exact Bool.false_ne_true ((congrArg Option.isSome hnone).symm.trans (h d hd))
  | ok files =>
    rw [hresult] at hanswers
    refine iff_of_true ⟨files, rfl⟩ ?_
    cases hfile : t.isFile path with
    | true => exact .inl rfl
    | false => exact .inr fun d hd => hanswers.1 d ⟨hfile, hd⟩

/-- Its case files are those of the tree. -/
theorem Showing.mem_iff (host : t.Showing) {st : host.State} {files : List Path}
    (h : ((caseFiles path).run host.handle st).1 = .ok files) (p : Path) :
    p ∈ files ↔ t.Offers path p := by
  have hanswers := (host.collects path st).1.answers
  rw [h] at hanswers
  exact hanswers.2.2 p

/-- The replies of a host that lists the names of a directory as the tree has them, and that does
nothing else. -/
def reply (t : Tree) : (r : Request) → Reply r
  | .run .. => { ending := .refused .denied, took := 0 }
  | .workingDir => ⟨"/"⟩
  | .stat path => .ok { isDir := t.isDir path, isFile := t.isFile path, size := 0 }
  | .list dir => match t.names dir with
    | some ns => .ok ns
    | none => .error .denied
  | .readText _ => .error .denied
  | .writeText .. | .createDirs _ | .removeAll _ | .setPermission .. => .error .denied
  | .makeTemp .. => .error .denied
  | .register _ | .unregister _ => ()
  | .takeRegistered _ => []

/-- Each tree is shown by some host. -/
def showing (t : Tree) : t.Showing where
  State := Unit
  handle r st := (t.reply r, st)
  allowed r st := by
    cases r with
    | stat path => exact ⟨rfl, rfl⟩
    | list dir =>
      dsimp only [reply]
      cases h : t.names dir with
      | none => exact h
      | some ns => exact ⟨ns, h, List.Perm.refl ns⟩
    | _ => trivial

end Tree

/-- The order of paths is not that of their texts. -/
example : (Path.mk "a/b.yaml").compare ⟨"a.yaml"⟩ = .lt := by decide

/-- Whether the case files at a path are found depends only on whether every directory that is
reached can be read, and which they are only on the tree: whatever the order of its entries, the
result is the same list, strictly ascending in the order of paths, of exactly the case files at any
depth, or of the file itself that is given. -/
theorem case_files_of_tree (t : Tree) (path : Path) (host : t.Showing) (st : host.State) :
    ((∃ files, ((caseFiles path).run host.handle st).1 = .ok files) ↔
      t.isFile path = true ∨ ∀ d, t.Reaches path d → (t.names d).isSome = true) ∧
    (∀ files, ((caseFiles path).run host.handle st).1 = .ok files →
      files.Pairwise (fun p q => p.compare q = .lt) ∧
      ∀ p, p ∈ files ↔ if t.isFile path = true then p = path else t.Finds path p) ∧
    ∀ (other : t.Showing) (st' : other.State),
      ((caseFiles path).run other.handle st').1.toOption =
        ((caseFiles path).run host.handle st).1.toOption := by
  refine ⟨host.exists_ok_iff path st, fun files h => ⟨(host.collects path st).2 files h,
    host.mem_iff h⟩, fun other st' => ?_⟩
  have hiff := (other.exists_ok_iff path st').trans (host.exists_ok_iff path st).symm
  cases hresult : ((caseFiles path).run host.handle st).1 with
  | error fault =>
    cases hresult' : ((caseFiles path).run other.handle st').1 with
    | error fault' => rfl
    | ok files' =>
      obtain ⟨files, h⟩ := hiff.1 ⟨files', hresult'⟩
      exact nomatch hresult.symm.trans h
  | ok files =>
    obtain ⟨files', hresult'⟩ := hiff.2 ⟨files, hresult⟩
    have hmem (p : Path) : p ∈ files' ↔ p ∈ files :=
      (other.mem_iff hresult' p).trans (host.mem_iff hresult p).symm
    rw [hresult']
    exact congrArg some (Registry.Ordered.ext ((other.collects path st').2 _ hresult')
      ((host.collects path st).2 _ hresult) hmem)

end Suite

end Assay
