import Assay.Machine.Computer
import Assay.Proofs.Outcome
import Assay.Workspace.Lifecycle
import Mathlib.Data.List.Sort

/-!
# Registered workspaces

A host that keeps a registry keeps it in order, whatever it is asked for (`Keeps.ordered_run`), and
the computer of this library is such a host (`Computer.keeps_answer`). A cleanup tries each
registered workspace below its root and counts the attempts that succeed (`fst_run_cleanup`). What
is not below its root stays registered, and so does what its own attempt left there
(`Keeps.registry_cleanup`).
-/

namespace Assay

/-! ## The order of paths -/

namespace Path

/-- The text by which components of one rank differ. -/
def Component.label : Component → String
  | .name n => n
  | .root | .here | .up => ""

/-- Components are compared by their ranks and then by their labels. -/
theorem Component.compare_eq :
    Component.compare = compareLex (compareOn Component.rank) (compareOn Component.label) := by
  funext a b
  cases a <;> cases b <;> rfl

instance : Std.TransCmp Component.compare :=
  Component.compare_eq ▸ inferInstance

instance : Std.LawfulEqCmp Component.compare where
  eq_of_compare {a b} h := by
    rw [Component.compare_eq, compareLex, Ordering.then_eq_eq] at h
    obtain ⟨hrank, hlabel⟩ := h
    simp only [compareOn, Std.compare_eq_iff_eq] at hrank hlabel
    cases a <;> cases b <;> simp_all [Component.rank, Component.label]

/-- Lists of components are compared as in a dictionary. -/
theorem compareComponents_eq : compareComponents = List.compareLex Component.compare := by
  funext as bs
  induction as generalizing bs with
  | nil => cases bs <;> rfl
  | cons a as ih =>
    cases bs with
    | nil => rfl
    | cons b bs => rw [compareComponents, List.compareLex_cons_cons, ih]

/-- Paths are compared by their components as in a dictionary. -/
theorem compare_eq_compareLex (p q : Path) :
    p.compare q = List.compareLex Component.compare p.components q.components := by
  rw [compare, compareComponents_eq]

instance : Std.TransCmp Path.compare where
  eq_swap := by
    intro p q
    simp only [compare_eq_compareLex]
    exact Std.OrientedCmp.eq_swap
  isLE_trans := by
    intro p q r hpq hqr
    simp only [compare_eq_compareLex] at hpq hqr ⊢
    exact Std.TransCmp.isLE_trans hpq hqr

/-- Paths that are equal in the order are those of the same components. -/
theorem compare_eq_eq {p q : Path} : p.compare q = .eq ↔ p.components = q.components := by
  rw [compare_eq_compareLex, Std.LawfulEqCmp.compare_eq_iff_eq]

/-- Sorted paths ascend. -/
theorem pairwise_mergeSort (paths : List Path) :
    (paths.mergeSort fun p q => p.compare q ≠ .gt).Pairwise fun p q => p.compare q ≠ .gt := by
  have htrans (p q r : Path) (hpq : decide (p.compare q ≠ .gt) = true)
      (hqr : decide (q.compare r ≠ .gt) = true) : decide (p.compare r ≠ .gt) = true := by
    have hpq := Ordering.isLE_iff_ne_gt.2 (of_decide_eq_true hpq)
    have hqr := Ordering.isLE_iff_ne_gt.2 (of_decide_eq_true hqr)
    exact decide_eq_true (Ordering.isLE_iff_ne_gt.1 (Std.TransCmp.isLE_trans hpq hqr))
  have htotal (p q : Path) :
      (decide (p.compare q ≠ .gt) || decide (q.compare p ≠ .gt)) = true := by
    rw [Bool.or_eq_true, decide_eq_true_eq, decide_eq_true_eq, ← not_and_or]
    rintro ⟨hpq, hqp⟩
    rw [Std.OrientedCmp.gt_iff_lt.1 hpq] at hqp
    exact nomatch hqp
  exact (List.pairwise_mergeSort htrans htotal paths).imp fun h => of_decide_eq_true h

end Path

/-! ## Registries -/

namespace Registry

variable {r : Registry} {p path : Path} {root : Option Path}

/-- Whether a registry ascends, so that it has each of its paths once. -/
def Ordered (r : Registry) : Prop :=
  r.Pairwise fun p q => p.compare q = .lt

instance (r : Registry) : Decidable r.Ordered :=
  inferInstanceAs (Decidable (r.Pairwise fun p q => p.compare q = .lt))

/-- What is in the registry then was entered or was there. -/
theorem mem_insert (h : p ∈ r.insert path) : p = path ∨ p ∈ r := by
  induction r with
  | nil => simpa [insert] using h
  | cons q rest ih =>
    rw [insert] at h
    split at h
    · simpa using h
    · exact .inr h
    · rcases List.mem_cons.1 h with rfl | h
      · simp
      · exact (ih h).imp_right (List.mem_cons_of_mem _)

/-- Entering a path keeps the order. -/
theorem Ordered.insert (h : r.Ordered) : (r.insert path).Ordered := by
  induction r with
  | nil => simp [Registry.insert, Ordered]
  | cons q rest ih =>
    obtain ⟨hq, hrest⟩ := List.pairwise_cons.1 h
    rw [Registry.insert]
    split
    · next hlt =>
      refine List.pairwise_cons.2 ⟨fun p hp => ?_, h⟩
      rcases List.mem_cons.1 hp with rfl | hp
      · exact hlt
      · exact Std.TransCmp.lt_trans hlt (hq p hp)
    · exact h
    · next hgt =>
      refine List.pairwise_cons.2 ⟨fun p hp => ?_, ih hrest⟩
      rcases mem_insert hp with rfl | hp
      · exact Std.OrientedCmp.gt_iff_lt.1 hgt
      · exact hq p hp

/-- Striking a path off keeps the order. -/
theorem Ordered.erase (h : r.Ordered) : (r.erase path).Ordered :=
  h.filter _

/-- What is taken out are the selected paths, and the others stay. -/
theorem take_eq : r.take root = (r.filter (selects root), r.filter (!selects root ·)) :=
  List.partition_eq_filter_filter

/-- A path that no registered one equals is added to the registry. -/
theorem insert_perm (h : path.components ∉ r.map Path.components) :
    (r.insert path).Perm (path :: r) := by
  induction r with
  | nil => exact .refl _
  | cons q rest ih =>
    simp only [List.map_cons, List.mem_cons, not_or] at h
    rw [insert]
    split
    · exact .refl _
    · next heq => exact absurd (Path.compare_eq_eq.1 heq) h.1
    · exact ((ih h.2).cons q).trans (.swap _ _ _)

/-- Paths that are new to the registry, and of which no two are equal, are all added to it. -/
theorem foldl_insert_perm {paths : List Path}
    (h : ((paths ++ r).map Path.components).Nodup) :
    (paths.foldl (fun r path => r.insert path) r).Perm (paths ++ r) := by
  induction paths generalizing r with
  | nil => exact .refl _
  | cons path rest ih =>
    rw [List.cons_append, List.map_cons, List.nodup_cons] at h
    have hinsert : (r.insert path).Perm (path :: r) := by
      refine insert_perm fun hmem => h.1 ?_
      rw [List.map_append]
      exact List.mem_append_right _ hmem
    have hmiddle : (rest ++ r.insert path).Perm (path :: (rest ++ r)) :=
      (hinsert.append_left rest).trans List.perm_middle
    have hnodup : ((path :: (rest ++ r)).map Path.components).Nodup := List.nodup_cons.2 h
    exact (ih ((hmiddle.map _).nodup_iff.2 hnodup)).trans hmiddle

/-- An ordered registry has no two equal paths. -/
theorem Ordered.nodup (h : r.Ordered) : (r.map Path.components).Nodup := by
  refine List.pairwise_map.2 (h.imp fun {p q} hlt heq => ?_)
  rw [Path.compare_eq_eq.2 heq] at hlt
  cases hlt

/-- Ordered registries of the same paths are equal. -/
theorem Ordered.ext {after : Registry} (h : after.Ordered) (hr : r.Ordered)
    (hmem : ∀ p, p ∈ after ↔ p ∈ r) : after = r := by
  have hperm : after.Perm r :=
    (List.perm_ext_iff_of_nodup h.nodup.of_map hr.nodup.of_map).2 hmem
  refine hperm.eq_of_pairwise (fun p q _ _ hpq hqp => ?_) h hr
  have hswap : p.compare q = (q.compare p).swap := Std.OrientedCmp.eq_swap
  rw [hpq, hqp] at hswap
  cases hswap

end Registry

/-! ## Hosts that keep a registry -/

namespace Workspace

open Host Plan Registry

/-- Whether a request is about the registry. -/
def IsRegistration : Request → Prop
  | .register _ | .unregister _ | .takeRegistered _ => True
  | _ => False

/-- A host that keeps a registry in its state. Only the requests about the registry change it. -/
structure Keeps {σ : Type} (handle : Handler σ) (registry : σ → Registry) : Prop where
  register : ∀ path s, registry (handle (.register path) s).2 = (registry s).insert path
  unregister : ∀ path s, registry (handle (.unregister path) s).2 = (registry s).erase path
  takeRegistered : ∀ root s,
    ((handle (.takeRegistered root) s).1, registry (handle (.takeRegistered root) s).2) =
      (registry s).take root
  unchanged : ∀ r s, ¬ IsRegistration r → registry (handle r s).2 = registry s

/-- The directories that a cleanup tries to remove, each with whether it is gone after its attempt.
One that stays is registered again before the next is tried. -/
def attempts {σ : Type} (handle : Handler σ) : List Path → σ → List (Path × Bool)
  | [], _ => []
  | path :: rest, s =>
    let first := (remove path).run handle s
    (path, first.1) ::
      attempts handle rest (if first.1 then first.2 else (handle (.register path) first.2).2)

/-- The attempts of a cleanup, which are at what it takes out of the registry. -/
def cleanupAttempts {σ : Type} (handle : Handler σ) (root : Option Path) (s : σ) :
    List (Path × Bool) :=
  let taken := handle (.takeRegistered root) s
  attempts handle taken.1 taken.2

/-- The directories that stay after their attempts. -/
def staying (tried : List (Path × Bool)) : List Path :=
  (tried.filter (!·.2)).map Prod.fst

variable {σ : Type} {handle : Handler σ} {registry : σ → Registry} {path : Path}
  {root : Option Path} {s : σ}

/-- A second attempt is made, with access restored, where the first leaves something. -/
theorem run_remove :
    (remove path).run handle s =
      let first := handle (.removeAll path) s
      let second :=
        handle (.removeAll path) ((setPermission path .allAccess).run handle first.2).2
      if isGone first.1 then (true, first.2) else (isGone second.1, second.2) := by
  rw [remove, run_bind]
  change Plan.run handle (if isGone (handle (.removeAll path) s).1 then _ else _) _ = _
  split
  · next hfirst => exact (if_pos hfirst).symm
  · next hfirst =>
    rw [run_bind]
    exact (if_neg hfirst).symm

namespace Keeps

variable (hk : Keeps handle registry)
include hk

/-- A step of a host keeps the order of its registry. -/
theorem ordered_step (hs : (registry s).Ordered) (r : Request) :
    (registry (handle r s).2).Ordered := by
  by_cases hr : IsRegistration r
  · cases r with
    | register p => exact hk.register p s ▸ hs.insert
    | unregister p => exact hk.unregister p s ▸ hs.erase
    | takeRegistered root =>
      have htake := hk.takeRegistered root s
      rw [take_eq, Prod.mk.injEq] at htake
      exact htake.2 ▸ hs.filter _
    | _ => exact hr.elim
  · exact hk.unchanged r s hr ▸ hs

/-- Whatever a host is asked for, its registry stays in order. -/
theorem ordered_run {α : Type} (hs : (registry s).Ordered) (p : Plan α) :
    (registry (p.run handle s).2).Ordered := by
  induction p generalizing s with
  | done a => exact hs
  | ask r next ih => exact ih _ (hk.ordered_step hs r)

/-- Removing a directory does not touch the registry. -/
theorem registry_remove : registry ((remove path).run handle s).2 = registry s := by
  have hremove (s : σ) : registry (handle (.removeAll path) s).2 = registry s :=
    hk.unchanged _ s id
  have hpermit (s : σ) :
      registry ((setPermission path .allAccess).run handle s).2 = registry s := by
    simp only [setPermission, applyPermission, run_bind, request, run, run_pure]
    split <;> exact hk.unchanged _ s id
  rw [run_remove]
  dsimp only
  split
  · exact hremove s
  · rw [hremove, hpermit, hremove]

/-- A workspace is registered exactly if it is made. -/
theorem registry_create (dir : Path) (template : String) :
    registry ((create dir template).run handle s).2 =
      match ((create dir template).run handle s).1 with
      | .ok path => (registry s).insert path
      | .error _ => registry s := by
  rw [create]
  split
  · rfl
  · next t _ =>
    have hdirs : registry (handle (.createDirs dir) s).2 = registry s := hk.unchanged _ s id
    simp only [run_bind, request, run]
    cases (handle (.createDirs dir) s).1 with
    | error reason => exact hdirs
    | ok _ =>
      have htemp := hk.unchanged (.makeTemp dir t) (handle (.createDirs dir) s).2 id
      simp only [run_bind, run]
      cases (handle (.makeTemp dir t) (handle (.createDirs dir) s).2).1 with
      | error reason => exact htemp.trans hdirs
      | ok path =>
        simp only [run_bind, run, run_pure]
        rw [hk.register, htemp, hdirs]

/-- A workspace that is given back is struck off exactly if it could be removed. -/
theorem registry_release :
    registry ((release path).run handle s).2 =
      if ((remove path).run handle s).1 then (registry s).erase path else registry s := by
  simp only [release, run_bind]
  split
  · simp only [request, run]
    rw [hk.unregister, hk.registry_remove]
  · exact hk.registry_remove

end Keeps

section Attempts

variable {tried : List (Path × Bool)} {p : Path}

/-- What stays is what an attempt left there. -/
theorem mem_staying : p ∈ staying tried ↔ (p, false) ∈ tried := by
  simp [staying]

/-- What stays was tried, in the same order. -/
theorem staying_sublist : (staying tried).Sublist (tried.map Prod.fst) :=
  List.filter_sublist.map _

/-- Each attempt counts or leaves its directory there. -/
theorem countP_add_length_staying :
    tried.countP Prod.snd + (staying tried).length = tried.length := by
  rw [staying, List.length_map, ← List.countP_eq_length_filter,
    List.length_eq_countP_add_countP Prod.snd]
  simp

/-- Each directory is tried once, in the order in which they are taken up. -/
@[simp]
theorem map_fst_attempts {paths : List Path} : (attempts handle paths s).map Prod.fst = paths := by
  induction paths generalizing s with
  | nil => rfl
  | cons path rest ih => rw [attempts, List.map_cons, ih]

/-- What is counted are the attempts that succeed. -/
theorem fst_run_removeEach {paths : List Path} :
    ((removeEach paths).run handle s).1 = (attempts handle paths s).countP Prod.snd := by
  induction paths generalizing s with
  | nil => rfl
  | cons path rest ih =>
    rw [removeEach, run_bind, attempts]
    cases ((remove path).run handle s).1 with
    | true => simp [ih]
    | false => simp [ih, request, run]

/-- A cleanup results in the number of its attempts that succeed. -/
theorem fst_run_cleanup :
    ((cleanup root).run handle s).1 = (cleanupAttempts handle root s).countP Prod.snd :=
  fst_run_removeEach

end Attempts

namespace Keeps

variable (hk : Keeps handle registry)
include hk

/-- What stays after its attempt is registered again. -/
theorem registry_removeEach {paths : List Path} :
    registry ((removeEach paths).run handle s).2 =
      (staying (attempts handle paths s)).foldl (fun r path => r.insert path) (registry s) := by
  induction paths generalizing s with
  | nil => rfl
  | cons path rest ih =>
    have hremove : registry ((remove path).run handle s).2 = registry s := hk.registry_remove
    rw [removeEach, run_bind, attempts]
    cases ((remove path).run handle s).1 with
    | true => simp [ih, hremove, staying]
    | false => simp [ih, hremove, staying, request, run, hk.register]

/-- The workspaces that a cleanup tries are the registered ones below its root. -/
theorem map_fst_cleanupAttempts :
    (cleanupAttempts handle root s).map Prod.fst = (registry s).filter (selects root) := by
  have htake := hk.takeRegistered root s
  rw [take_eq, Prod.mk.injEq] at htake
  rw [cleanupAttempts, map_fst_attempts, htake.1]

/-- After a cleanup, what stays after its attempt is registered besides what was not tried. -/
theorem registry_cleanup_perm (hs : (registry s).Ordered) (root : Option Path) :
    (registry ((cleanup root).run handle s).2).Perm
      (staying (cleanupAttempts handle root s) ++ (registry s).filter (!selects root ·)) := by
  have htake := hk.takeRegistered root s
  rw [take_eq, Prod.mk.injEq] at htake
  have hsub : (staying (cleanupAttempts handle root s)).Sublist
      ((registry s).filter (selects root)) :=
    hk.map_fst_cleanupAttempts ▸ staying_sublist
  have hnodup := ((List.filter_append_perm (selects root) (registry s)).map _).nodup_iff.2 hs.nodup
  have hrun : registry ((cleanup root).run handle s).2 = _ := hk.registry_removeEach
  rw [hrun, htake.2]
  exact foldl_insert_perm (hnodup.sublist ((hsub.append_right _).map _))

/-- A cleanup leaves in the registry what is not below its root and what stays after its attempt. -/
theorem registry_cleanup (hs : (registry s).Ordered) :
    registry ((cleanup root).run handle s).2 =
      (registry s).filter fun p =>
        !selects root p || (p, false) ∈ cleanupAttempts handle root s := by
  have hperm := hk.registry_cleanup_perm hs root
  refine (hk.ordered_run hs _).ext (hs.filter _) fun p => ?_
  rw [hperm.mem_iff, List.mem_append, mem_staying, List.mem_filter, List.mem_filter]
  -- only what is registered is tried
  have htried : (p, false) ∈ cleanupAttempts handle root s → p ∈ registry s := by
    intro h
    have hmem : p ∈ (registry s).filter (selects root) :=
      hk.map_fst_cleanupAttempts ▸ List.mem_map_of_mem h
    exact (List.mem_filter.1 hmem).1
  simp only [Bool.or_eq_true, decide_eq_true_eq]
  tauto

/-- A cleanup counts what it strikes off. -/
theorem fst_run_cleanup_add_length (hs : (registry s).Ordered) :
    ((cleanup root).run handle s).1 + (registry ((cleanup root).run handle s).2).length =
      (registry s).length := by
  have hafter := (hk.registry_cleanup_perm hs root).length_eq
  have hbefore := (List.filter_append_perm (selects root) (registry s)).length_eq
  rw [List.length_append] at hafter hbefore
  have htried : (cleanupAttempts handle root s).length =
      ((registry s).filter (selects root)).length := by
    rw [← hk.map_fst_cleanupAttempts, List.length_map]
  calc ((cleanup root).run handle s).1 + (registry ((cleanup root).run handle s).2).length
    _ = (cleanupAttempts handle root s).countP Prod.snd +
          (staying (cleanupAttempts handle root s)).length +
          ((registry s).filter (!selects root ·)).length := by
        rw [fst_run_cleanup, hafter, Nat.add_assoc]
    _ = ((registry s).filter (selects root)).length +
          ((registry s).filter (!selects root ·)).length := by
        rw [countP_add_length_staying, htried]
    _ = (registry s).length := hbefore

end Keeps

end Workspace

/-! ## The computer -/

namespace Machine.Computer

open Host Workspace

/-- Making a new directory enters nothing into the registry. -/
theorem registry_makeTemp (c : Computer) (dir : Path) (t : Template) (attempts : Nat) :
    (c.makeTemp dir t attempts).2.registry = c.registry := by
  induction attempts with
  | zero => rfl
  | succ n ih =>
    simp only [makeTemp]
    split
    · rfl
    · exact ih
    · rfl

/-- Running a command line does not touch the registry. -/
theorem registry_runLine (c : Computer) (line : String) (directory : Option Path)
    (limit : Option Nat) : (c.runLine line directory limit).2.registry = c.registry := by
  simp only [runLine]
  split
  · rfl
  · split
    · rfl
    · split
      · rfl
      · generalize (callShell line).run.run _ = outcome
        obtain ⟨result, after⟩ := outcome
        rcases result with stop | fault | n <;> rfl

/-- A computer keeps a registry. -/
theorem keeps_answer : Keeps answer Computer.registry where
  register _ _ := rfl
  unregister _ _ := rfl
  takeRegistered _ _ := rfl
  unchanged r c hr := by
    cases r with
    | run line directory limit => exact c.registry_runLine line directory limit
    | makeTemp root template => exact c.registry_makeTemp _ template _
    | writeText path text =>
      simp only [answer, changedOr]
      split <;> rfl
    | register _ => exact absurd trivial hr
    | unregister _ => exact absurd trivial hr
    | takeRegistered _ => exact absurd trivial hr
    | _ => rfl

/-- Whatever is carried out on a computer as it comes, its registry is in order. -/
theorem ordered_perform {α : Type} (plan : Plan α) :
    (standard.perform plan).2.registry.Ordered :=
  keeps_answer.ordered_run (s := standard) List.Pairwise.nil plan

end Machine.Computer

end Assay
