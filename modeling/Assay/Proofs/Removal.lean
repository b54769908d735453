import Assay.Machine.Computer
import Assay.Proofs.Cleanup
import Assay.Proofs.Permissions
import Mathlib.Data.List.Infix

/-!
# Removing a workspace that its test has locked

A removal that stops at a directory which is locked leaves a part of the tree. If each directory can
be listed, access can be granted to that part, and the second removal gets through
(`remove_of_locked`). Nothing beside the workspace is touched.
-/

namespace Assay.Machine

open Host Plan

namespace Tree

variable {P : Nat → Prop}

/-! ## Removals -/

mutual

/-- What a removal leaves of a tree has directories of the same kind. -/
theorem everyDir_clear : ∀ t : Tree, t.EveryDir P → (clear t).1.EveryDir P
  | .dir m es, h => by
    rw [clear]
    split
    · exact h
    · exact ⟨h.1, everyDirIn_clearEntries m es h.2⟩
  | .file .., _ => trivial
  | .link _, _ => trivial
  | .device _, _ => trivial

/-- What a removal leaves of entries has directories of the same kind. -/
theorem everyDirIn_clearEntries (m : Nat) :
    ∀ es : List (String × Tree), EveryDirIn P es → EveryDirIn P (clearEntries m es).1
  | [], _ => trivial
  | (name, t) :: rest, ⟨ht, hrest⟩ => by
    have hcleared := everyDir_clear t ht
    have hentries := everyDirIn_clearEntries m rest hrest
    rw [clearEntries]
    split
    · next t' fault heq =>
      split at heq
      · cases heq
        exact ⟨ht, hrest⟩
      · rw [heq] at hcleared
        exact ⟨hcleared, hrest⟩
    · next t' heq =>
      split
      · exact hentries
      · split at heq
        · cases heq
        · rw [heq] at hcleared
          exact ⟨hcleared, hrest⟩

end

/-- What a removal leaves of a directory is the directory, with its bits. -/
theorem clear_dir (m : Nat) (es : List (String × Tree)) : ∃ left, (clear (.dir m es)).1 = .dir m left := by
  rw [clear]
  split
  · exact ⟨es, rfl⟩
  · exact ⟨_, rfl⟩

mutual

/-- A removal is stopped by nothing but a directory that denies it. -/
theorem clear_eq_denied : ∀ t : Tree, (clear t).2 = none ∨ (clear t).2 = some .denied
  | .dir m es => by
    rw [clear]
    split
    · exact .inr rfl
    · exact clearEntries_eq_denied m es
  | .file .. => .inl rfl
  | .link _ => .inl rfl
  | .device _ => .inl rfl

/-- So is the removal of entries. -/
theorem clearEntries_eq_denied (m : Nat) : ∀ es : List (String × Tree),
    (clearEntries m es).2 = none ∨ (clearEntries m es).2 = some .denied
  | [] => .inl rfl
  | (name, t) :: rest => by
    have hcleared := clear_eq_denied t
    rw [clearEntries]
    split
    · next t' fault heq =>
      split at heq
      · cases heq
        exact .inr rfl
      · rw [heq] at hcleared
        exact hcleared
    · split
      · exact clearEntries_eq_denied m rest
      · exact .inr rfl

end

/-- The owner may do everything with a directory. -/
def Unlocked (m : Nat) : Prop :=
  mayRead m = true ∧ mayWrite m = true ∧ maySearch m = true

mutual

/-- A removal gets through where all directories are unlocked. -/
theorem clear_of_unlocked : ∀ t : Tree, t.EveryDir Unlocked → (clear t).2 = none
  | .dir m es, ⟨hm, hes⟩ => by
    rw [clear, hm.1]
    exact clearEntries_of_unlocked hm es hes
  | .file .., _ => rfl
  | .link _, _ => rfl
  | .device _, _ => rfl

/-- So it does with the entries of an unlocked directory. -/
theorem clearEntries_of_unlocked {m : Nat} (hm : Unlocked m) :
    ∀ es : List (String × Tree), EveryDirIn Unlocked es → (clearEntries m es).2 = none
  | [], _ => rfl
  | (name, t) :: rest, ⟨ht, hrest⟩ => by
    have hcleared := clear_of_unlocked t ht
    have hentries := clearEntries_of_unlocked hm rest hrest
    obtain ⟨-, hwrite, hsearch⟩ := hm
    cases hclear : clear t with
    | mk t' fault =>
      rw [hclear] at hcleared
      obtain rfl : fault = none := hcleared
      simp only [clearEntries, hsearch, hwrite, hclear, Bool.not_true, Bool.and_false, Bool.and_self,
        Bool.false_eq_true, if_false, if_true]
      exact hentries

end

/-- A directory to which access was granted is unlocked if it can be listed. -/
theorem unlocked_grant {m : Nat} (h : mayRead m = true) :
    Unlocked (Permission.apply .allAccess m) := by
  have hwrite : writeExecute.testBit 7 = true := by decide
  refine ⟨(mayRead_within .allAccess m).trans h, ?_, maySearch_grant m⟩
  rw [mayWrite, testBit_grant, hwrite, Bool.or_true]

/-! ## Places -/

/-- Of two parts that are put somewhere the second stays. -/
theorem replace_replace (root : Tree) (path : List String) (part part' : Tree) :
    (root.replace path part).replace path part' = root.replace path part' := by
  induction path generalizing root with
  | nil => rfl
  | cons name path ih =>
    by_cases hdir : root.isDir = false
    · rw [replace_cons_of_isDir hdir]
    · cases root with
      | dir m es =>
        rw [replace_dir_cons, replace_dir_cons, replace_dir_cons, List.map_map]
        refine congrArg (dir m) (List.map_congr_left fun e _ => ?_)
        dsimp only [Function.comp]
        by_cases hname : e.1 = name
        · simp only [if_pos hname, ih]
        · simp only [if_neg hname]
      | _ => exact absurd rfl hdir

/-- An entry of a directory in a directory is erased there. -/
theorem erase_dir_cons (m : Nat) (es : List (String × Tree)) (name : String) {path : List String}
    (hne : path ≠ []) :
    (dir m es).erase (name :: path) =
      .dir m (es.map fun e => if e.1 = name then (e.1, e.2.erase path) else e) := by
  obtain ⟨next, path, rfl⟩ := List.exists_cons_of_ne_nil hne
  have hlast : (name :: next :: path).getLast? = (next :: path).getLast? := rfl
  simp only [erase, hlast, List.dropLast, modifyEntries]

/-- An entry of a directory is erased. -/
theorem erase_dir_singleton (m : Nat) (es : List (String × Tree)) (name : String) :
    (dir m es).erase [name] = .dir m (es.filter fun e => e.1 ≠ name) := by
  simp [erase, modifyEntries]

/-- In what is no directory nothing can be erased. -/
theorem erase_of_isDir {t : Tree} (h : t.isDir = false) (path : List String) :
    t.erase path = t := by
  cases t with
  | dir m es => cases h
  | _ =>
    rw [erase]
    cases path.dropLast <;> rfl

/-- It makes no difference what was put where something is erased. -/
theorem erase_replace (root : Tree) {path : List String} (hne : path ≠ []) (part : Tree) :
    (root.replace path part).erase path = root.erase path := by
  induction path generalizing root with
  | nil => exact absurd rfl hne
  | cons name path ih =>
    cases root with
    | dir m es =>
      rw [replace_dir_cons]
      cases path with
      | nil =>
        rw [erase_dir_singleton, erase_dir_singleton]
        congr 1
        induction es with
        | nil => rfl
        | cons e rest ih =>
          rw [List.map_cons, List.filter_cons, List.filter_cons, ih]
          by_cases hname : e.1 = name <;> simp [hname]
      | cons next path =>
        have hne' : next :: path ≠ [] := List.cons_ne_nil _ _
        rw [erase_dir_cons m _ name hne', erase_dir_cons m _ name hne', List.map_map]
        refine congrArg (dir m) (List.map_congr_left fun e _ => ?_)
        dsimp only [Function.comp]
        by_cases hname : e.1 = name
        · simp only [if_pos hname, ih _ hne']
        · simp only [if_neg hname]
    | _ => rw [replace_cons_of_isDir rfl]

/-- The entries that are left when one is erased. -/
theorem lookup_filter_ne (name key : String) (es : List (String × Tree)) :
    (es.filter fun e => e.1 ≠ name).lookup key = if key = name then none else es.lookup key := by
  induction es with
  | nil => simp
  | cons e rest ih =>
    rw [List.filter_cons]
    by_cases hname : e.1 = name
    · rw [if_neg (by simp [hname]), ih]
      by_cases hkey : key = name
      · rw [if_pos hkey, if_pos hkey]
      · rw [if_neg hkey, if_neg hkey, lookup_cons_of_ne (hname ▸ hkey)]
    · rw [if_pos (by simp [hname])]
      by_cases hfirst : key = e.1
      · rw [lookup_cons_of_eq hfirst, lookup_cons_of_eq hfirst, if_neg (hfirst ▸ hname)]
      · rw [lookup_cons_of_ne hfirst, lookup_cons_of_ne hfirst, ih]

/-- Nothing is left where something was erased. -/
theorem get?_erase (root : Tree) {path : List String} (hne : path ≠ []) (q : List String) :
    (root.erase path).get? (path ++ q) = none := by
  induction path generalizing root with
  | nil => exact absurd rfl hne
  | cons name path ih =>
    cases root with
    | dir m es =>
      cases path with
      | nil =>
        rw [erase_dir_singleton, List.singleton_append, get?, lookup_filter_ne, if_pos rfl]
      | cons next path =>
        have hne' : next :: path ≠ [] := List.cons_ne_nil _ _
        rw [erase_dir_cons m _ name hne', List.cons_append, get?,
          lookup_map_if (·.erase (next :: path)), if_pos rfl]
        cases es.lookup name with
        | none => rfl
        | some t => exact ih t hne'
    | _ =>
      rw [erase_of_isDir rfl]
      rfl

/-- A directory without one of its names. -/
def Node.without (name : String) : Node → Node
  | .dir m names => .dir m (names.filter (· ≠ name))
  | node => node

/-- The parts elsewhere are by themselves what they were, but that the directory of what is erased
has a name less. -/
theorem node_get?_erase (root : Tree) {path : List String} {last : String} {q : List String}
    (h : ¬path ++ [last] <+: q) :
    ((root.erase (path ++ [last])).get? q).map node =
      (root.get? q).map fun part => if q = path then part.node.without last else part.node := by
  induction path generalizing root q with
  | nil =>
    cases root with
    | dir m es =>
      rw [List.nil_append, erase_dir_singleton]
      cases q with
      | nil =>
        simp [get?, node, Node.without, List.filter_map, Function.comp_def]
      | cons key q =>
        have hkey : key ≠ last := fun hkey => h ⟨q, by simp [hkey]⟩
        rw [get?, get?, lookup_filter_ne, if_neg hkey]
        simp
    | _ =>
      rw [erase_of_isDir rfl]
      cases q <;> simp [get?, node, Node.without]
  | cons name path ih =>
    have hne : path ++ [last] ≠ [] := List.append_ne_nil_of_right_ne_nil _ (List.cons_ne_nil _ _)
    rw [List.cons_append] at h ⊢
    cases root with
    | dir m es =>
      rw [erase_dir_cons m es name hne]
      cases q with
      | nil =>
        have hnames : (es.map fun e =>
            if e.1 = name then (e.1, e.2.erase (path ++ [last])) else e).map Prod.fst =
              es.map Prod.fst := by
          rw [List.map_map]
          refine List.map_congr_left fun e _ => ?_
          dsimp only [Function.comp]
          split <;> rfl
        exact congrArg (fun names => some (Node.dir m names)) hnames
      | cons key q =>
        rw [get?, get?, lookup_map_if (·.erase (path ++ [last]))]
        by_cases hkey : key = name
        · subst hkey
          have hq : ¬path ++ [last] <+: q := fun hq => h ((List.prefix_cons_inj key).2 hq)
          rw [if_pos rfl]
          cases es.lookup key with
          | none => rfl
          | some t => simpa using ih t hq
        · rw [if_neg hkey]
          simp [hkey]
    | _ =>
      rw [erase_of_isDir rfl]
      cases q <;> simp [get?]

end Tree

/-! ## Paths -/

/-- A path leads to a place whatever directory stands there, so it does not lead through what is
below that place. -/
def LeadsTo (root : Tree) (cwd : List String) (path : String) (names : List String) : Prop :=
  ∀ t : Tree, t.isDir = true → find (root.replace names t) cwd false path = .ok (names, t)

/-- Names lead through directories that can be searched to one that stands at their end. -/
theorem walk_of_plain {root t : Tree} {names : List String} {links : Nat}
    (hplain : ∀ n ∈ names, n ≠ "." ∧ n ≠ "" ∧ n ≠ ".." ∧ n.utf8ByteSize ≤ maxName)
    (hdirs : ∀ p, p <+: names → p ≠ names →
      ∃ m es, root.get? p = some (.dir m es) ∧ maySearch m = true)
    (hthere : root.get? names = some t) (hdir : t.isDir = true) {here todo : List String}
    (h : here ++ todo = names) : walk root false links here todo = .ok (.found names t) := by
  induction todo generalizing here with
  | nil =>
    obtain rfl : here = names := (List.append_nil here).symm.trans h
    rw [walk.eq_def, hthere]
  | cons n rest ih =>
    have hnext : (here ++ [n]) ++ rest = names := by rw [← h, List.append_assoc]; rfl
    obtain ⟨m, es, hhere, hsearch⟩ := hdirs here ⟨_, h⟩ fun heq => by
      rw [heq] at h
      exact List.cons_ne_nil _ _ (List.append_right_eq_self.1 h)
    obtain ⟨hdot, hempty, hup, hsize⟩ := hplain n (h ▸ List.mem_append_right _ List.mem_cons_self)
    obtain ⟨m', es', hlookup⟩ : ∃ m' es', es.lookup n = some (.dir m' es') := by
      have hget : root.get? (here ++ [n]) = es.lookup n := by
        rw [Tree.get?_append, hhere, Option.bind_some, Tree.get?]
        cases es.lookup n <;> rfl
      rw [← hget]
      by_cases hend : here ++ [n] = names
      · rw [hend, hthere]
        cases t with
        | dir m es => exact ⟨m, es, rfl⟩
        | _ => cases hdir
      · obtain ⟨m', es', hnext', -⟩ := hdirs _ ⟨_, hnext⟩ hend
        exact ⟨m', es', hnext'⟩
    rw [walk.eq_def, hhere]
    simp only [hsearch, hdot, hempty, hup, hlookup, Bool.not_true, Bool.false_eq_true, if_false,
      decide_false, Bool.or_self, gt_iff_lt, Nat.not_lt.2 hsize]
    exact ih hnext

/-- A path of plain names through directories that can be searched leads to its place, whatever
directory stands there. -/
theorem leadsTo_of_plain {root : Tree} {cwd : List String} {path : String} {ns : List String}
    (hnames : names path = ns) (hslash : path.startsWith "/" = true) (hempty : path.isEmpty = false)
    (hzero : path.toList.contains '\x00' = false) (hlength : path.utf8ByteSize < maxPath)
    (hplain : ∀ n ∈ ns, n ≠ "." ∧ n ≠ "" ∧ n ≠ ".." ∧ n.utf8ByteSize ≤ maxName)
    (hdirs : ∀ p, p <+: ns → p ≠ ns → ∃ m es, root.get? p = some (.dir m es) ∧ maySearch m = true)
    (hthere : (root.get? ns).isSome = true) : LeadsTo root cwd path ns := by
  intro t hdir
  obtain ⟨old, hold⟩ := Option.isSome_iff_exists.1 hthere
  have hput : (root.replace ns t).get? ns = some t := by
    have hget := Tree.get?_replace hold t []
    rw [List.append_nil] at hget
    rw [hget]
    cases t <;> rfl
  have hdirs' : ∀ p, p <+: ns → p ≠ ns →
      ∃ m es, (root.replace ns t).get? p = some (.dir m es) ∧ maySearch m = true := by
    intro p hp hne
    obtain ⟨m, es, hget, hsearch⟩ := hdirs p hp hne
    have hnode : ((root.replace ns t).get? p).map Tree.node = (root.get? p).map Tree.node :=
      Tree.node_get?_replace root t fun h => hne (hp.eq_of_length_le h.length_le)
    rw [hget, Option.map_some, Option.map_eq_some_iff] at hnode
    obtain ⟨part, hpart, hsame⟩ := hnode
    cases part with
    | dir m' es' =>
      obtain ⟨rfl, -⟩ := Tree.Node.dir.inj hsame
      exact ⟨m', es', hpart, hsearch⟩
    | _ => cases hsame
  have hwalk : walk (root.replace ns t) false maxLinks [] ns = .ok (.found ns t) :=
    walk_of_plain hplain hdirs' hput hdir rfl
  rw [find, resolve, hempty, hzero, if_neg Bool.false_ne_true, if_neg Bool.false_ne_true,
    if_neg (Nat.not_le.2 hlength), if_pos hslash, hnames, hwalk]
  rfl

/-- Entries can be put into and taken out of a directory as before if it is by itself what it was. -/
theorem mayChange_eq_of_node {root root' : Tree} {path : List String}
    (h : (root'.get? path).map Tree.node = (root.get? path).map Tree.node) :
    mayChange root' path = mayChange root path := by
  rw [mayChange, mayChange]
  cases hroot : root.get? path with
  | none =>
    rw [hroot, Option.map_none, Option.map_eq_none_iff] at h
    rw [h]
  | some t =>
    rw [hroot, Option.map_some, Option.map_eq_some_iff] at h
    obtain ⟨t', ht', hnode⟩ := h
    rw [ht']
    cases t <;> cases t' <;> simp_all [Tree.node]

/-- The directory that something is in is not below it. -/
theorem not_isPrefix_dropLast {names : List String} (hne : names ≠ []) :
    ¬names <+: names.dropLast := fun h => by
  have hlength := h.length_le
  rw [List.length_dropLast] at hlength
  have hpos := List.length_pos_iff.2 hne
  omega

section Remove

open Computer

variable {c : Computer} {path : Path} {names : List String} {t : Tree}

/-- A request to remove a directory, by what is left of it. -/
theorem answer_removeAll (hfind : find c.root c.directory false path.text = .ok (names, t))
    (hdir : t.isDir = true) (hparent : mayChange c.root names.dropLast = true) :
    answer (.removeAll path) c =
      match (Tree.clear t).2 with
      | none => (.ok (), { c with root := c.root.erase names })
      | some fault =>
        (.error fault, { c with root := c.root.replace names (Tree.clear t).1 }) := by
  change c.changed (removeAll c.root c.directory path.text) = _
  rw [removeAll, hfind]
  cases t with
  | dir m es =>
    dsimp only
    cases Tree.clear (.dir m es) with
    | mk left fault =>
      cases fault with
      | none =>
        dsimp only
        rw [if_pos hparent]
        rfl
      | some fault => rfl
  | _ => cases hdir

/-- A request to grant access throughout a tree of which each directory can be listed. -/
theorem answer_grant (hfind : find c.root c.directory false path.text = .ok (names, t))
    (hread : t.EveryDir fun m => mayRead m = true) :
    (answer (.setPermission path .allAccess) c).2 =
      { c with root := c.root.replace names (t.mapModes (Permission.apply .allAccess)) } := by
  change (c.changed (setPermission c.root c.directory path.text .allAccess)).2 = _
  rw [setPermission, hfind]
  dsimp only
  rw [setPermission_allAccess hread]
  rfl

/-- The second removal of a directory gets through. -/
theorem run_remove_of_locked (hfind : find c.root c.directory false path.text = .ok (names, t))
    (hdir : t.isDir = true) (hne : names ≠ [])
    (hpath : LeadsTo c.root c.directory path.text names)
    (hparent : mayChange c.root names.dropLast = true)
    (hread : t.EveryDir fun m => mayRead m = true) :
    (Workspace.remove path).run answer c = (true, { c with root := c.root.erase names }) := by
  rw [Workspace.run_remove]
  dsimp only
  rw [(Workspace.run_setPermission path .allAccess).1, answer_removeAll hfind hdir hparent]
  obtain hclear | hclear := Tree.clear_eq_denied t
  · rw [hclear]
    rfl
  · have hleft : (Tree.clear t).1.isDir = true := by
      cases t with
      | dir m es =>
        obtain ⟨left, hleft⟩ := Tree.clear_dir m es
        rw [hleft]
        rfl
      | _ => cases hdir
    have hgranted : ((Tree.clear t).1.mapModes (Permission.apply .allAccess)).isDir = true := by
      cases hcleared : (Tree.clear t).1 with
      | dir m es => rfl
      | _ =>
        rw [hcleared] at hleft
        cases hleft
    have hunlocked :
        (Tree.clear ((Tree.clear t).1.mapModes (Permission.apply .allAccess))).2 = none := by
      refine Tree.clear_of_unlocked _ ((Tree.everyDir_mapModes _).2 ?_)
      exact (Tree.everyDir_clear t hread).mono fun m hm => Tree.unlocked_grant hm
    have hstill (u : Tree) : mayChange (c.root.replace names u) names.dropLast = true :=
      (mayChange_eq_of_node (Tree.node_get?_replace c.root u (not_isPrefix_dropLast hne))).trans
        hparent
    rw [hclear]
    dsimp only
    rw [answer_grant (hpath _ hleft) (Tree.everyDir_clear t hread)]
    dsimp only
    rw [Tree.replace_replace, answer_removeAll (hpath _ hgranted) hgranted (hstill _), hunlocked]
    dsimp only
    rw [Tree.erase_replace _ hne]
    rfl

/-- A workspace is removed whatever its test has locked in it. If each directory of it can be listed
and its own directory can be changed, the removal says that nothing is left and nothing is: where the
workspace stood there is no part, its name is taken out of its directory, and every other part of
the computer's tree is by itself what it was, with the targets of links in the workspace. -/
theorem locked_workspace_is_removed
    (hfind : find c.root c.directory false path.text = .ok (names, t))
    (hdir : t.isDir = true) (hne : names ≠ [])
    (hpath : LeadsTo c.root c.directory path.text names)
    (hparent : mayChange c.root names.dropLast = true)
    (hread : t.EveryDir fun m => mayRead m = true) :
    (Workspace.remove path).run answer c = (true, { c with root := c.root.erase names }) ∧
    (∀ q, (c.root.erase names).get? (names ++ q) = none) ∧
    ∀ q, ¬names <+: q → ((c.root.erase names).get? q).map Tree.node =
      (c.root.get? q).map fun part =>
        if q = names.dropLast then part.node.without (names.getLast hne) else part.node := by
  refine ⟨run_remove_of_locked hfind hdir hne hpath hparent hread, Tree.get?_erase _ hne,
    fun q hq => ?_⟩
  have hsplit : names.dropLast ++ [names.getLast hne] = names := List.dropLast_append_getLast hne
  have hnode : ((c.root.erase (names.dropLast ++ [names.getLast hne])).get? q).map Tree.node = _ :=
    Tree.node_get?_erase c.root (hsplit.symm ▸ hq)
  rwa [hsplit] at hnode

end Remove

/-- A workspace with a file, a locked directory that is not empty, and a link out of it. -/
def lockedWorkspace : Tree :=
  .dir 0o755 [("a", .file 0o644 ⟨#[]⟩), ("locked", .dir 0o400 [("b", .file 0o000 ⟨#[]⟩)]),
    ("out", .link "/kept")]

/-- A computer with that workspace and the file that its link leads to. -/
def lockedComputer : Computer where
  root := .dir 0o755 [("out", .dir 0o755 [("tmp-1", lockedWorkspace)]),
    ("kept", .file 0o444 ⟨#[]⟩)]

/-- A first attempt at the locked workspace is denied when the file is gone, but the removal leaves
nothing of it and does not touch what its link leads to. -/
theorem locked_workspace_is_removed_from_computer :
    Computer.answer (.removeAll ⟨"/out/tmp-1"⟩) lockedComputer =
      (.error .denied, { lockedComputer with
        root := .dir 0o755 [("out", .dir 0o755 [("tmp-1", .dir 0o755 [
            ("locked", .dir 0o400 [("b", .file 0o000 ⟨#[]⟩)]), ("out", .link "/kept")])]),
          ("kept", .file 0o444 ⟨#[]⟩)] }) ∧
    (Workspace.remove ⟨"/out/tmp-1"⟩).run Computer.answer lockedComputer =
      (true, { lockedComputer with
        root := .dir 0o755 [("out", .dir 0o755 []), ("kept", .file 0o444 ⟨#[]⟩)] }) := by
  have hdirs : ∀ p, p <+: ["out", "tmp-1"] → p ≠ ["out", "tmp-1"] →
      ∃ m es, lockedComputer.root.get? p = some (.dir m es) ∧ maySearch m = true := by
    intro p hp hne
    have hmem : p ∈ [[], ["out"], ["out", "tmp-1"]] := (List.mem_inits _ _).2 hp
    simp only [List.mem_cons, List.not_mem_nil, or_false] at hmem
    obtain rfl | rfl | rfl := hmem
    · exact ⟨_, _, rfl, by decide⟩
    · exact ⟨_, _, rfl, by decide⟩
    · exact absurd rfl hne
  have hpath : LeadsTo lockedComputer.root lockedComputer.directory "/out/tmp-1" ["out", "tmp-1"] :=
    leadsTo_of_plain (by decide) (by simp) (by decide) (by decide) (by decide) (by decide) hdirs rfl
  have hfind : find lockedComputer.root lockedComputer.directory false "/out/tmp-1" =
      .ok (["out", "tmp-1"], lockedWorkspace) := hpath lockedWorkspace rfl
  have hread : lockedWorkspace.EveryDir fun m => mayRead m = true :=
    ⟨by decide, trivial, ⟨by decide, trivial, trivial⟩, trivial, trivial⟩
  refine ⟨answer_removeAll hfind rfl (by decide), ?_⟩
  exact (locked_workspace_is_removed hfind rfl (List.cons_ne_nil _ _) hpath
    (by decide) hread).1

end Assay.Machine
