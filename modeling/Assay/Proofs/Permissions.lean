import Assay.Machine.Disk
import Mathlib.Tactic.IntervalCases

/-!
# Setting permissions throughout a tree

The walk over a tree visits a directory before its entries when it grants and after them when it
revokes. So it never takes from itself what it needs: where each directory can be listed, all bits
for writing and executing can be granted, and where each can also be searched, all can be revoked. In
both cases every file and every directory has its own bits changed and nothing else is
(`permissions_of_tree`).
-/

namespace Assay.Machine

open Host

/-! ## Bits -/

/-- The bits for writing and executing. -/
theorem testBit_writeExecute (i : Nat) :
    writeExecute.testBit i = decide (i ∈ [0, 1, 3, 4, 6, 7]) := by
  by_cases h : i < 9
  · interval_cases i <;> decide
  · have hlt : writeExecute < 2 ^ i :=
      lt_of_lt_of_le (by decide : writeExecute < 2 ^ 9) (Nat.pow_le_pow_right (by decide) (by omega))
    rw [Nat.testBit_lt_two_pow hlt, eq_comm, decide_eq_false_iff_not]
    simp
    omega

/-- Granting sets the bits for writing and executing. -/
theorem testBit_grant (m i : Nat) :
    (Permission.apply .allAccess m).testBit i = (m.testBit i || writeExecute.testBit i) :=
  Nat.testBit_or ..

/-- Revoking clears them. -/
theorem testBit_revoke (m i : Nat) :
    (Permission.apply .readOnly m).testBit i = (m.testBit i && !writeExecute.testBit i) := by
  rw [Permission.apply, Nat.testBit_xor, Nat.testBit_and]
  cases m.testBit i <;> cases writeExecute.testBit i <;> rfl

/-- Granting after revoking is the same as granting. -/
theorem grant_revoke (m : Nat) :
    Permission.apply .allAccess (Permission.apply .readOnly m) = Permission.apply .allAccess m := by
  refine Nat.eq_of_testBit_eq fun i => ?_
  rw [testBit_grant, testBit_revoke, testBit_grant]
  cases m.testBit i <;> cases writeExecute.testBit i <;> rfl

/-- Bits for reading, for changing the user and the group, and the sticky one are left alone. -/
theorem testBit_apply_of_false {i : Nat} (hi : writeExecute.testBit i = false) (p : Permission)
    (m : Nat) : (Permission.apply p m).testBit i = m.testBit i := by
  cases p with
  | readOnly => rw [testBit_revoke, hi, Bool.not_false, Bool.and_true]
  | allAccess => rw [testBit_grant, hi, Bool.or_false]

/-- The bits of a directory while its entries are visited. -/
def Permission.within (p : Permission) (m : Nat) : Nat :=
  match p with
  | .allAccess => Permission.apply p m
  | .readOnly => m

/-- While its entries are visited, a directory can be listed if it could be before. -/
theorem mayRead_within (p : Permission) (m : Nat) : mayRead (Permission.within p m) = mayRead m := by
  cases p with
  | readOnly => rfl
  | allAccess => exact testBit_apply_of_false (i := 8) (by decide) .allAccess m

/-- A directory to which access was granted can be searched. -/
theorem maySearch_grant (m : Nat) : maySearch (Permission.apply .allAccess m) = true := by
  have hbit : writeExecute.testBit 6 = true := by decide
  rw [maySearch, testBit_grant, hbit, Bool.or_true]

namespace Tree

/-! ## Parts -/

/-- What a part of a tree is by itself. -/
inductive Node where
  | file (mode : Nat) (contents : ByteArray)
  | dir (mode : Nat) (names : List String)
  | link (target : String)
  | device (d : Device)

/-- A part with other bits, which links and devices do not have. -/
def Node.mapMode (f : Nat → Nat) : Node → Node
  | .file m contents => .file (f m) contents
  | .dir m names => .dir (f m) names
  | .link target => .link target
  | .device d => .device d

/-- The part at the top of a tree. -/
def node : Tree → Node
  | .file m contents => .file m contents
  | .dir m es => .dir m (es.map Prod.fst)
  | .link target => .link target
  | .device d => .device d

mutual

/-- All directories of a tree have bits of some kind. -/
def EveryDir (P : Nat → Prop) : Tree → Prop
  | .dir m es => P m ∧ EveryDirIn P es
  | .file .. => True
  | .link _ => True
  | .device _ => True

/-- All directories of some entries have bits of some kind. -/
def EveryDirIn (P : Nat → Prop) : List (String × Tree) → Prop
  | [] => True
  | (_, t) :: rest => EveryDir P t ∧ EveryDirIn P rest

end

mutual

/-- A tree with other bits of all its files and directories. -/
def mapModes (f : Nat → Nat) : Tree → Tree
  | .file m contents => .file (f m) contents
  | .dir m es => .dir (f m) (mapEntries f es)
  | .link target => .link target
  | .device d => .device d

/-- Entries with other bits of all their files and directories. -/
def mapEntries (f : Nat → Nat) : List (String × Tree) → List (String × Tree)
  | [] => []
  | (name, t) :: rest => (name, mapModes f t) :: mapEntries f rest

end

variable {P Q : Nat → Prop} {f g : Nat → Nat} {p : Permission}

mutual

/-- Directories with bits of one kind have bits of a wider kind. -/
theorem EveryDir.mono (h : ∀ m, P m → Q m) : ∀ {t : Tree}, t.EveryDir P → t.EveryDir Q
  | .dir _ _, ⟨hm, hes⟩ => ⟨h _ hm, EveryDirIn.mono h hes⟩
  | .file .., _ => trivial
  | .link _, _ => trivial
  | .device _, _ => trivial

/-- Directories of entries with bits of one kind have bits of a wider kind. -/
theorem EveryDirIn.mono (h : ∀ m, P m → Q m) :
    ∀ {es : List (String × Tree)}, EveryDirIn P es → EveryDirIn Q es
  | [], _ => trivial
  | (_, _) :: _, ⟨ht, hrest⟩ => ⟨EveryDir.mono h ht, EveryDirIn.mono h hrest⟩

end

mutual

/-- The directories of a tree with other bits. -/
theorem everyDir_mapModes : ∀ t : Tree, (t.mapModes f).EveryDir P ↔ t.EveryDir fun m => P (f m)
  | .dir _ es => and_congr_right fun _ => everyDirIn_mapEntries es
  | .file .. => Iff.rfl
  | .link _ => Iff.rfl
  | .device _ => Iff.rfl

/-- The directories of entries with other bits. -/
theorem everyDirIn_mapEntries : ∀ es : List (String × Tree),
    EveryDirIn P (mapEntries f es) ↔ EveryDirIn (fun m => P (f m)) es
  | [] => Iff.rfl
  | (_, t) :: rest => and_congr (everyDir_mapModes t) (everyDirIn_mapEntries rest)

end

mutual

/-- Bits that are changed twice. -/
theorem mapModes_mapModes : ∀ t : Tree, (t.mapModes f).mapModes g = t.mapModes fun m => g (f m)
  | .dir _ es => congrArg (Tree.dir _) (mapEntries_mapEntries es)
  | .file .. => rfl
  | .link _ => rfl
  | .device _ => rfl

/-- Bits of entries that are changed twice. -/
theorem mapEntries_mapEntries : ∀ es : List (String × Tree),
    mapEntries g (mapEntries f es) = mapEntries (fun m => g (f m)) es
  | [] => rfl
  | (_, t) :: rest => by
    rw [mapEntries, mapEntries, mapEntries, mapModes_mapModes t, mapEntries_mapEntries rest]

end

/-- Entries with other bits have the same names. -/
theorem map_fst_mapEntries (es : List (String × Tree)) :
    (mapEntries f es).map Prod.fst = es.map Prod.fst := by
  induction es with
  | nil => rfl
  | cons e rest ih => exact congrArg (e.1 :: ·) ih

/-- A part of a tree with other bits has other bits itself. -/
theorem node_mapModes (t : Tree) : (t.mapModes f).node = t.node.mapMode f := by
  cases t with
  | dir m es => exact congrArg (Node.dir (f m)) (map_fst_mapEntries es)
  | _ => rfl

/-- An entry under a name has other bits if the entries have. -/
theorem lookup_mapEntries (name : String) (es : List (String × Tree)) :
    (mapEntries f es).lookup name = (es.lookup name).map (mapModes f) := by
  induction es with
  | nil => rfl
  | cons e rest ih =>
    obtain ⟨n, t⟩ := e
    rw [mapEntries, List.lookup_cons, List.lookup_cons, ih]
    cases name == n <;> rfl

/-- The parts of a tree with other bits. -/
theorem get?_mapModes (t : Tree) (q : List String) :
    (t.mapModes f).get? q = (t.get? q).map (mapModes f) := by
  induction q generalizing t with
  | nil => cases t <;> rfl
  | cons name q ih =>
    cases t with
    | dir m es =>
      rw [mapModes, get?, get?, lookup_mapEntries]
      cases es.lookup name with
      | none => rfl
      | some t => exact ih t
    | _ => rfl

/-! ## The walk -/

/-- The walk over a directory, by its bits while the entries are visited. -/
theorem setPermission_dir (p : Permission) (m : Nat) (es : List (String × Tree)) :
    setPermission p (.dir m es) =
      if mayRead (Permission.within p m) = false then (.dir (Permission.within p m) es, some .denied)
      else
        match setEntries p (maySearch (Permission.within p m)) es with
        | (es, some fault) => (.dir (Permission.within p m) es, some fault)
        | (es, none) => (.dir (Permission.apply p m) es, none) := by
  cases p <;> simp only [setPermission, Permission.within, Bool.not_eq_true'] <;> rfl

mutual

/-- Where all directories can be listed and searched while their entries are visited, the walk gets
through. -/
theorem setPermission_eq (h : ∀ m, P m →
    mayRead (Permission.within p m) = true ∧ maySearch (Permission.within p m) = true) :
    ∀ t : Tree, t.EveryDir P → setPermission p t = (t.mapModes (Permission.apply p), none)
  | .dir m es, ⟨hm, hes⟩ => by
    obtain ⟨hread, hsearch⟩ := h m hm
    rw [setPermission_dir, hread, hsearch, setEntries_eq h es hes]
    rfl
  | .file .., _ => rfl
  | .link _, _ => rfl
  | .device _, _ => rfl

/-- So it does with entries of a directory that can be searched. -/
theorem setEntries_eq (h : ∀ m, P m →
    mayRead (Permission.within p m) = true ∧ maySearch (Permission.within p m) = true) :
    ∀ es : List (String × Tree), EveryDirIn P es →
      setEntries p true es = (mapEntries (Permission.apply p) es, none)
  | [], _ => rfl
  | (name, t) :: rest, ⟨ht, hrest⟩ => by
    rw [setEntries, setPermission_eq h t ht, setEntries_eq h rest hrest]
    rfl

end

mutual

/-- Where the walk gets through, all directories can be listed, and all bits are changed. -/
theorem of_setPermission_eq :
    ∀ (t : Tree) {t' : Tree}, setPermission p t = (t', none) →
      t.EveryDir (mayRead · = true) ∧ t' = t.mapModes (Permission.apply p)
  | .dir m es, t', h => by
    rw [setPermission_dir] at h
    split at h
    · cases h
    · next hread =>
      rw [Bool.not_eq_false, mayRead_within] at hread
      cases hentries : setEntries p (maySearch (Permission.within p m)) es with
      | mk es' fault =>
        rw [hentries] at h
        cases fault with
        | some fault => cases h
        | none =>
          cases h
          obtain ⟨hes, rfl⟩ := of_setEntries_eq es hentries
          exact ⟨⟨hread, hes⟩, rfl⟩
  | .file .., _, h => by cases h; exact ⟨trivial, rfl⟩
  | .link _, _, h => by cases h; exact ⟨trivial, rfl⟩
  | .device _, _, h => by cases h; exact ⟨trivial, rfl⟩

/-- Where the walk gets through entries, their directories can be listed, and all bits are changed. -/
theorem of_setEntries_eq {reachable : Bool} :
    ∀ (es : List (String × Tree)) {es' : List (String × Tree)},
      setEntries p reachable es = (es', none) →
        EveryDirIn (mayRead · = true) es ∧ es' = mapEntries (Permission.apply p) es
  | [], _, h => by cases h; exact ⟨trivial, rfl⟩
  | (name, t) :: rest, es', h => by
    rw [setEntries] at h
    split at h
    · cases h
    · cases ht : setPermission p t with
      | mk t' fault =>
        rw [ht] at h
        cases fault with
        | some fault => cases h
        | none =>
          obtain ⟨hread, rfl⟩ := of_setPermission_eq t ht
          cases hrest : setEntries p reachable rest with
          | mk rest' fault =>
            rw [hrest] at h
            cases fault with
            | some fault => cases h
            | none =>
              cases h
              obtain ⟨hreads, rfl⟩ := of_setEntries_eq rest hrest
              exact ⟨⟨hread, hreads⟩, rfl⟩

end

/-! ## Parts in their places -/

/-- The first entry is the one under its own name. -/
theorem lookup_cons_of_eq {key : String} {e : String × Tree} {es : List (String × Tree)}
    (h : key = e.1) : (e :: es).lookup key = some e.2 := by
  rw [List.lookup_cons, beq_iff_eq.2 h]

/-- The first entry hides none under another name. -/
theorem lookup_cons_of_ne {key : String} {e : String × Tree} {es : List (String × Tree)}
    (h : key ≠ e.1) : (e :: es).lookup key = es.lookup key := by
  rw [List.lookup_cons, beq_eq_false_iff_ne.2 h]

/-- The entry under a name is another one, and those under other names stay. -/
theorem lookup_map_if (change : Tree → Tree) (name key : String) (es : List (String × Tree)) :
    (es.map fun e => if e.1 = name then (e.1, change e.2) else e).lookup key =
      if key = name then (es.lookup key).map change else es.lookup key := by
  induction es with
  | nil => simp
  | cons e rest ih =>
    obtain ⟨n, t⟩ := e
    have hfst : (if n = name then (n, change t) else (n, t)).1 = n := by split <;> rfl
    rw [List.map_cons]
    by_cases hkey : key = n
    · subst hkey
      have hfirst : ((key, t) :: rest).lookup key = some t := lookup_cons_of_eq rfl
      rw [lookup_cons_of_eq hfst.symm, hfirst]
      split <;> rfl
    · rw [lookup_cons_of_ne (fun h => hkey (h.trans hfst)), ih, lookup_cons_of_ne hkey]

/-- A part of a directory is replaced below its entry. -/
theorem replace_dir_cons (m : Nat) (es : List (String × Tree)) (name : String)
    (path : List String) (part : Tree) :
    (dir m es).replace (name :: path) part =
      .dir m (es.map fun e => if e.1 = name then (e.1, e.2.replace path part) else e) := by
  cases path with
  | nil => rfl
  | cons next path =>
    have hlast : (name :: next :: path).getLast? = (next :: path).getLast? := rfl
    obtain ⟨last, h⟩ : ∃ last, (next :: path).getLast? = some last :=
      ⟨_, List.getLast?_eq_some_getLast (List.cons_ne_nil _ _)⟩
    simp only [replace, hlast, h, List.dropLast, modifyEntries]

/-- In what is no directory nothing can be replaced. -/
theorem replace_cons_of_isDir {t : Tree} (h : t.isDir = false) (name : String)
    (path : List String) (part : Tree) : t.replace (name :: path) part = t := by
  obtain ⟨last, hlast⟩ : ∃ last, (name :: path).getLast? = some last :=
    ⟨_, List.getLast?_eq_some_getLast (List.cons_ne_nil _ _)⟩
  cases t with
  | dir m es => cases h
  | _ => cases path <;> simp only [replace, hlast, List.dropLast, modifyEntries]

/-- The part that was put somewhere is found there. -/
theorem get?_replace {root t : Tree} {path : List String} (h : root.get? path = some t)
    (part : Tree) (q : List String) : (root.replace path part).get? (path ++ q) = part.get? q := by
  induction path generalizing root with
  | nil => rfl
  | cons name path ih =>
    cases root with
    | dir m es =>
      rw [replace_dir_cons, List.cons_append, get?, lookup_map_if (·.replace path part), if_pos rfl]
      rw [get?] at h
      cases hname : es.lookup name with
      | none =>
        rw [hname] at h
        cases h
      | some t₁ =>
        rw [hname] at h
        exact ih h
    | _ => cases h

/-- The parts elsewhere are by themselves what they were. -/
theorem node_get?_replace (root : Tree) {path q : List String} (part : Tree) (h : ¬path <+: q) :
    ((root.replace path part).get? q).map node = (root.get? q).map node := by
  induction path generalizing root q with
  | nil => exact absurd (List.nil_prefix) h
  | cons name path ih =>
    cases root with
    | dir m es =>
      rw [replace_dir_cons]
      cases q with
      | nil =>
        have hnames : (es.map fun e => if e.1 = name then (e.1, e.2.replace path part) else e).map
            Prod.fst = es.map Prod.fst := by
          rw [List.map_map]
          refine List.map_congr_left fun e _ => ?_
          dsimp only [Function.comp]
          split <;> rfl
        exact congrArg (fun names => some (Node.dir m names)) hnames
      | cons key q =>
        rw [get?, get?, lookup_map_if (·.replace path part)]
        by_cases hkey : key = name
        · subst hkey
          have hq : ¬path <+: q := fun hq => h ((List.prefix_cons_inj key).2 hq)
          rw [if_pos rfl]
          cases es.lookup key with
          | none => rfl
          | some t => exact ih t hq
        · rw [if_neg hkey]
    | _ => rw [replace_cons_of_isDir rfl]

/-- A part of a part. -/
theorem get?_append (t : Tree) (p q : List String) :
    t.get? (p ++ q) = (t.get? p).bind (get? · q) := by
  induction p generalizing t with
  | nil => cases t <;> rfl
  | cons name p ih =>
    cases t with
    | dir m es =>
      rw [List.cons_append, get?, get?]
      cases es.lookup name with
      | none => rfl
      | some t => exact ih t
    | _ => rfl

end Tree

/-- What is found on the way along names stands there. -/
theorem get?_of_walk {root : Tree} {follow : Bool} {links : Nat} {here todo names : List String}
    {t : Tree} (h : walk root follow links here todo = .ok (.found names t)) :
    root.get? names = some t := by
  fun_induction walk root follow links here todo with
  | case2 _ here part hhere =>
    cases h
    exact hhere
  | case10 =>
    next here mode es name hhere _ _ _ _ target hlink _ =>
    cases h
    rw [Tree.get?_append, hhere, Option.bind_some, Tree.get?, hlink]
    rfl
  | case4 _ _ _ _ _ _ _ _ _ ih => exact ih h
  | case5 _ _ _ _ _ _ _ _ ih => exact ih h
  | case12 _ _ _ _ _ _ _ _ _ _ _ _ _ _ ih => exact ih h
  | case13 _ _ _ _ _ _ _ _ _ _ _ _ _ _ ih => exact ih h
  | _ => cases h

/-- What is found at a path stands at its names. -/
theorem get?_of_find {root : Tree} {cwd names : List String} {follow : Bool} {path : String}
    {t : Tree} (h : find root cwd follow path = .ok (names, t)) : root.get? names = some t := by
  cases hresolve : resolve root cwd follow path with
  | error fault =>
    rw [find, hresolve] at h
    cases h
  | ok place =>
    rw [find, hresolve] at h
    cases place with
    | hole directory name slash => cases h
    | found found part =>
      cases h
      rw [resolve] at hresolve
      split at hresolve
      · cases hresolve
      · split at hresolve
        · cases hresolve
        · split at hresolve
          · cases hresolve
          · exact get?_of_walk hresolve

/-- Access can be granted to a tree of which each directory can be listed. -/
theorem setPermission_allAccess {t : Tree} (h : t.EveryDir fun m => mayRead m = true) :
    Tree.setPermission .allAccess t = (t.mapModes (Permission.apply .allAccess), none) :=
  Tree.setPermission_eq (fun m hm => ⟨(mayRead_within .allAccess m).trans hm, maySearch_grant m⟩) t h

/-- Granting access to a tree from which it was taken is the same as granting it. -/
theorem setPermission_allAccess_readOnly {t t' : Tree}
    (h : Tree.setPermission .readOnly t = (t', none)) :
    Tree.setPermission .allAccess t' = Tree.setPermission .allAccess t := by
  obtain ⟨hread, rfl⟩ := Tree.of_setPermission_eq t h
  have hread' : (t.mapModes (Permission.apply .readOnly)).EveryDir fun m => mayRead m = true :=
    (Tree.everyDir_mapModes t).2
      (hread.mono fun m hm => (testBit_apply_of_false (i := 8) (by decide) .readOnly m).trans hm)
  rw [setPermission_allAccess hread, setPermission_allAccess hread', Tree.mapModes_mapModes]
  simp only [grant_revoke]

/-- What the walk over a tree does to it. Access is granted to each tree of which all directories can
be listed, and it is taken from each of which all directories can also be searched, whatever the
other bits and the order of the entries are. If the walk gets through, each file and each directory
has its own bits changed, by those for writing and executing alone, and all else in the tree is as it
was, with the links in it. Granting gets through after taking and leads to the same tree as without
it. What is not in the tree at a path is left as it was by a walk from there. -/
theorem permissions_of_tree :
    (∀ t : Tree, (t.EveryDir fun m => mayRead m = true) →
      (Tree.setPermission .allAccess t).2 = none) ∧
    (∀ t : Tree, (t.EveryDir fun m => mayRead m = true ∧ maySearch m = true) →
      (Tree.setPermission .readOnly t).2 = none) ∧
    (∀ (p : Permission) (t t' : Tree), Tree.setPermission p t = (t', none) → ∀ q,
      (t'.get? q).map Tree.node =
        (t.get? q).map fun part => part.node.mapMode (Permission.apply p)) ∧
    (∀ m, Permission.apply .allAccess m = m ||| 0o333) ∧
    (∀ m i, (Permission.apply .readOnly m).testBit i =
      (m.testBit i && !(0o333 : Nat).testBit i)) ∧
    (∀ (p : Permission) (m : Nat), ∀ i ∈ [2, 5, 8, 9, 10, 11],
      (Permission.apply p m).testBit i = m.testBit i) ∧
    (∀ t t' : Tree, Tree.setPermission .readOnly t = (t', none) →
      ∃ t'', Tree.setPermission .allAccess t' = (t'', none) ∧
        Tree.setPermission .allAccess t = (t'', none)) ∧
    ∀ (root : Tree) (cwd : List String) (path : String) (p : Permission) (names : List String)
      (t : Tree), find root cwd false path = .ok (names, t) →
        (setPermission root cwd path p).2 = (Tree.setPermission p t).2 ∧
        (∀ q, (setPermission root cwd path p).1.get? (names ++ q) =
          (Tree.setPermission p t).1.get? q) ∧
        ∀ q, ¬names <+: q →
          ((setPermission root cwd path p).1.get? q).map Tree.node =
            (root.get? q).map Tree.node := by
  refine ⟨fun t h => ?_, fun t h => ?_, fun p t t' h q => ?_, fun m => rfl, testBit_revoke,
    fun p m i hi => ?_, fun t t' h => ?_, fun root cwd path p names t h => ?_⟩
  · rw [setPermission_allAccess h]
  · rw [Tree.setPermission_eq (p := .readOnly) (fun m hm => hm) t h]
  · obtain ⟨-, rfl⟩ := Tree.of_setPermission_eq t h
    rw [Tree.get?_mapModes, Option.map_map]
    exact congrFun (congrArg Option.map (funext Tree.node_mapModes)) _
  · refine testBit_apply_of_false ?_ p m
    revert i
    decide
  · obtain ⟨hread, -⟩ := Tree.of_setPermission_eq t h
    exact ⟨_, (setPermission_allAccess_readOnly h).trans (setPermission_allAccess hread),
      setPermission_allAccess hread⟩
  · have hdisk : setPermission root cwd path p =
        (root.replace names (Tree.setPermission p t).1, (Tree.setPermission p t).2) := by
      rw [setPermission, h]
    rw [hdisk]
    exact ⟨rfl, Tree.get?_replace (get?_of_find h) _, fun q => Tree.node_get?_replace root _⟩

end Assay.Machine
