import Assay.Proofs.Registration
import Assay.Proofs.Requests
import Assay.Suite.Run

/-!
# What a cleanup comes to

A cleanup tries to remove each registered workspace below its root once and no other, and asks the
host for nothing else. What it could not remove stays registered, so that a second cleanup is about
these alone.
-/

namespace Assay

namespace Workspace

open Host Plan Registry

variable {σ : Type} {handle : Handler σ} {registry : σ → Registry} {root : Option Path} {s : σ}

/-! ## The requests of an attempt -/

/-- An attempt to remove a directory, with whether it is gone after that, the requests and the states
before and behind them. It is gone if the host removes it, at once or when access has been restored;
otherwise it is registered again. -/
inductive IsAttempt (handle : Handler σ) (path : Path) : Bool → σ → List Request → σ → Prop
  | removed {s : σ} (hfirst : isGone (handle (.removeAll path) s).1 = true) :
      IsAttempt handle path true s [.removeAll path] (handle (.removeAll path) s).2
  | unlocked {s s₁ s₂ : σ} (hfirst : isGone (handle (.removeAll path) s).1 = false)
      (hunlock : s₁ = (handle (.setPermission path .allAccess) (handle (.removeAll path) s).2).2)
      (hsecond : isGone (handle (.removeAll path) s₁).1 = true)
      (hend : s₂ = (handle (.removeAll path) s₁).2) :
      IsAttempt handle path true s
        [.removeAll path, .setPermission path .allAccess, .removeAll path] s₂
  | stays {s s₁ s₂ : σ} (hfirst : isGone (handle (.removeAll path) s).1 = false)
      (hunlock : s₁ = (handle (.setPermission path .allAccess) (handle (.removeAll path) s).2).2)
      (hsecond : isGone (handle (.removeAll path) s₁).1 = false)
      (hend : s₂ = (handle (.register path) (handle (.removeAll path) s₁).2).2) :
      IsAttempt handle path false s
        [.removeAll path, .setPermission path .allAccess, .removeAll path, .register path] s₂

/-- Attempts one after the other, with all their requests. -/
inductive AreAttempts (handle : Handler σ) :
    List (Path × Bool) → σ → List Request → σ → Prop
  | nil (s : σ) : AreAttempts handle [] s [] s
  | cons {path : Path} {gone : Bool} {rest : List (Path × Bool)} {s s₁ s₂ : σ}
      {requests more : List Request} (h : IsAttempt handle path gone s requests s₁)
      (hrest : AreAttempts handle rest s₁ more s₂) :
      AreAttempts handle ((path, gone) :: rest) s (requests ++ more) s₂

/-- An attempt is to remove its own directory. -/
theorem IsAttempt.mem_iff {path p : Path} {gone : Bool} {requests : List Request} {s s' : σ}
    (h : IsAttempt handle path gone s requests s') : .removeAll p ∈ requests ↔ p = path := by
  cases h <;> simp

/-- Attempts are to remove the directories that are tried. -/
theorem AreAttempts.mem_iff {tried : List (Path × Bool)} {requests : List Request} {s s' : σ}
    (h : AreAttempts handle tried s requests s') (p : Path) :
    .removeAll p ∈ requests ↔ p ∈ tried.map Prod.fst := by
  induction h with
  | nil => simp
  | cons hattempt _ ih =>
    rw [List.mem_append, hattempt.mem_iff, ih, List.map_cons, List.mem_cons]

/-- Access is restored with one request. -/
theorem run_setPermission (path : Path) (mode : Permission) :
    ((setPermission path mode).run handle s).2 = (handle (.setPermission path mode) s).2 ∧
      (setPermission path mode).trace handle s = [.setPermission path mode] := by
  simp only [setPermission, applyPermission, trace_bind, run_bind, request, Plan.trace, Plan.run,
    trace_pure, run_pure]
  split <;> exact ⟨rfl, rfl⟩

/-- The requests of a removal. -/
theorem trace_remove (path : Path) :
    (remove path).trace handle s = .removeAll path ::
      if isGone (handle (.removeAll path) s).1 then []
      else [.setPermission path .allAccess, .removeAll path] := by
  rw [remove, trace_bind]
  change Request.removeAll path :: (Plan.trace handle
    (if isGone (handle (.removeAll path) s).1 then _ else _) _) = _
  split
  · rfl
  · rw [trace_bind, (run_setPermission path .allAccess).2]
    rfl

/-- Removing a directory, and registering it again if it is still there, is an attempt. -/
theorem isAttempt_remove (path : Path) :
    IsAttempt handle path ((remove path).run handle s).1 s
      ((remove path).trace handle s ++
        if ((remove path).run handle s).1 then [] else [.register path])
      (if ((remove path).run handle s).1 then ((remove path).run handle s).2
        else (handle (.register path) ((remove path).run handle s).2).2) := by
  cases hfirst : isGone (handle (.removeAll path) s).1 with
  | true =>
    have hrun : (remove path).run handle s = (true, (handle (.removeAll path) s).2) := by
      rw [run_remove]
      exact if_pos hfirst
    rw [trace_remove, if_pos hfirst, hrun]
    exact .removed hfirst
  | false =>
    have hfirst' : ¬isGone (handle (.removeAll path) s).1 = true := by simp [hfirst]
    have hrun : (remove path).run handle s =
        (isGone (handle (.removeAll path)
            (handle (.setPermission path .allAccess) (handle (.removeAll path) s).2).2).1,
          (handle (.removeAll path)
            (handle (.setPermission path .allAccess) (handle (.removeAll path) s).2).2).2) := by
      rw [run_remove, ← (run_setPermission path .allAccess).1]
      exact if_neg hfirst'
    rw [trace_remove, if_neg hfirst', hrun]
    dsimp only
    cases hsecond : isGone (handle (.removeAll path)
        (handle (.setPermission path .allAccess) (handle (.removeAll path) s).2).2).1 with
    | true => exact .unlocked hfirst rfl hsecond rfl
    | false => exact .stays hfirst rfl hsecond rfl

/-- The removal of several directories makes one attempt after the other. -/
theorem areAttempts_removeEach (paths : List Path) :
    AreAttempts handle (attempts handle paths s) s ((removeEach paths).trace handle s)
      ((removeEach paths).run handle s).2 := by
  induction paths generalizing s with
  | nil => exact .nil s
  | cons path rest ih =>
    have hattempt : IsAttempt handle path ((remove path).run handle s).1 s _ _ :=
      isAttempt_remove path
    rw [removeEach, trace_bind, run_bind, attempts]
    cases hgone : ((remove path).run handle s).1 with
    | true =>
      rw [hgone] at hattempt
      simp only [if_true, List.append_nil] at hattempt ⊢
      rw [trace_bind, run_bind, trace_pure, run_pure, List.append_nil]
      exact .cons hattempt ih
    | false =>
      rw [hgone] at hattempt
      simp only [Bool.false_eq_true, if_false] at hattempt ⊢
      rw [trace_bind, run_bind, ← List.append_assoc]
      exact .cons hattempt ih

/-! ## Cleanups -/

/-- What a cleanup below a root, or without one, does in a state. -/
structure CleansUp (handle : Handler σ) (registry : σ → Registry) (root : Option Path) (s : σ) :
    Prop where
  /-- The selected workspaces are tried, in order. -/
  tried : (cleanupAttempts handle root s).map Prod.fst = (registry s).filter (selects root)
  /-- None of them is tried twice. -/
  once : ((cleanupAttempts handle root s).map Prod.fst).Nodup
  /-- Nothing is asked for but what is registered, and one attempt for each that is tried. -/
  requests : ∃ requests,
    (cleanup root).trace handle s = .takeRegistered root :: requests ∧
    AreAttempts handle (cleanupAttempts handle root s) (handle (.takeRegistered root) s).2 requests
      ((cleanup root).run handle s).2
  /-- So exactly the selected workspaces are removed. -/
  removed : ∀ p, .removeAll p ∈ (cleanup root).trace handle s ↔
    p ∈ registry s ∧ selects root p = true
  /-- The others stay registered, and so do those that could not be removed. -/
  after : registry ((cleanup root).run handle s).2 =
    (registry s).filter fun p => !selects root p || (p, false) ∈ cleanupAttempts handle root s
  /-- Those that are gone are counted. -/
  count : ((cleanup root).run handle s).1 =
    (cleanupAttempts handle root s).countP fun attempt => attempt.2
  /-- A second cleanup is about those that could not be removed. -/
  again : ∀ p, .removeAll p ∈ (cleanup root).trace handle ((cleanup root).run handle s).2 ↔
    (p, false) ∈ cleanupAttempts handle root s

/-- The requests of a cleanup. -/
theorem trace_cleanup : ∃ requests,
    (cleanup root).trace handle s = .takeRegistered root :: requests ∧
    AreAttempts handle (cleanupAttempts handle root s) (handle (.takeRegistered root) s).2 requests
      ((cleanup root).run handle s).2 :=
  ⟨_, rfl, areAttempts_removeEach _⟩

/-- A cleanup removes what it tries. -/
theorem removeAll_mem_cleanup (p : Path) :
    .removeAll p ∈ (cleanup root).trace handle s ↔
      p ∈ (cleanupAttempts handle root s).map Prod.fst := by
  obtain ⟨requests, htrace, hattempts⟩ :
      ∃ requests, (cleanup root).trace handle s = .takeRegistered root :: requests ∧ _ :=
    trace_cleanup
  rw [htrace, ← hattempts.mem_iff p, List.mem_cons]
  exact or_iff_right Request.noConfusion

/-- A host that keeps a registry in order is cleaned up. -/
theorem Keeps.cleansUp (hk : Keeps handle registry) (hs : (registry s).Ordered)
    (root : Option Path) : CleansUp handle registry root s where
  tried := hk.map_fst_cleanupAttempts
  once := by
    rw [hk.map_fst_cleanupAttempts]
    exact hs.nodup.of_map.filter _
  requests := trace_cleanup
  removed p := by rw [removeAll_mem_cleanup, hk.map_fst_cleanupAttempts, List.mem_filter]
  after := hk.registry_cleanup hs
  count := fst_run_cleanup
  again p := by
    rw [removeAll_mem_cleanup, hk.map_fst_cleanupAttempts, hk.registry_cleanup hs,
      List.filter_filter, List.mem_filter]
    -- whatever was tried is registered and selected
    have hselected (h : (p, false) ∈ cleanupAttempts handle root s) :
        p ∈ registry s ∧ selects root p = true := by
      have hp := List.mem_map_of_mem (f := Prod.fst) h
      rwa [hk.map_fst_cleanupAttempts, List.mem_filter] at hp
    constructor
    · rintro ⟨_, hp⟩
      cases hsel : selects root p <;> simp_all
    · intro h
      obtain ⟨hmem, hsel⟩ := hselected h
      exact ⟨hmem, by simp [hsel, h]⟩

/-- A path is selected if the components of the root are its first components. -/
theorem selects_some_iff {r p : Path} :
    selects (some r) p = true ↔ r.components <+: p.components :=
  List.isPrefixOf_iff_prefix

/-- A host that keeps a registry and nothing else, and cannot remove some directories. -/
def stubbornHost (locked : List Path) : Handler Registry
  | .register path, r => ((), r.insert path)
  | .unregister path, r => ((), r.erase path)
  | .takeRegistered root, r => r.take root
  | .removeAll path, r => (if path ∈ locked then .error .denied else .ok (), r)
  | .setPermission .., r => (.ok (), r)
  | .writeText .., r => (.ok (), r)
  | .createDirs _, r => (.ok (), r)
  | .makeTemp .., r => (.error .denied, r)
  | .stat _, r => (.error .missing, r)
  | .list _, r => (.error .missing, r)
  | .readText _, r => (.error .missing, r)
  | .workingDir, r => (⟨"/"⟩, r)
  | .run .., r => ({ ending := .timedOut, took := 0 }, r)

/-- A stubborn host keeps a registry. -/
theorem keeps_stubbornHost (locked : List Path) : Keeps (stubbornHost locked) id where
  register _ _ := rfl
  unregister _ _ := rfl
  takeRegistered _ _ := rfl
  unchanged r _ hr := by
    cases r with
    | register _ => exact absurd trivial hr
    | unregister _ => exact absurd trivial hr
    | takeRegistered _ => exact absurd trivial hr
    | _ => rfl

end Workspace

namespace Suite

open Host Plan Workspace

variable {σ : Type} {handle : Handler σ} {registry : σ → Registry} {s : σ}

/-- Whatever is registered and whichever removals succeed, a cleanup tries to remove the selected
workspaces once each and asks for nothing else, counts those that are gone and leaves the rest
registered. A workspace is selected if its path has the root's components in front; without a root
all are. A suite is cleaned up below its output directory whether or not its own tidying up fails. -/
theorem cleanup_of_selected (hk : Keeps handle registry) (hs : (registry s).Ordered) :
    (∀ root, CleansUp handle registry root s) ∧
    (∀ r p : Path, Registry.selects (some r) p = true ↔ r.components <+: p.components) ∧
    (∀ p : Path, Registry.selects none p = true) ∧
    ∀ (c : Context) (config : SuiteConfig),
      (tidyUp c config).run handle s =
        (((runTeardown (.ofContext c) config.teardown).run handle s).1,
          ((cleanup (some c.layout.outputDir)).run handle
            ((runTeardown (.ofContext c) config.teardown).run handle s).2).2) ∧
      (tidyUp c config).trace handle s =
        (runTeardown (.ofContext c) config.teardown).trace handle s ++
          (cleanup (some c.layout.outputDir)).trace handle
            ((runTeardown (.ofContext c) config.teardown).run handle s).2 := by
  refine ⟨hk.cleansUp hs, fun _ _ => selects_some_iff, fun _ => rfl, fun c config => ⟨?_, ?_⟩⟩
  · rw [tidyUp, run_bind, run_bind]
    rfl
  · rw [tidyUp, trace_bind, trace_bind, trace_pure, List.append_nil]

/-- Of three workspaces below a directory one cannot be removed: two are counted, and it stays
registered with the one that lies beside that directory, which is not touched. -/
theorem cleanup_of_selected_stubborn :
    [Path.mk "/a/out/tmp-1", ⟨"/a/out/tmp-2"⟩, ⟨"/a/out/tmp-3"⟩, ⟨"/a/output/tmp-1"⟩].Pairwise
        (fun p q => p.compare q = .lt) ∧
      CleansUp (stubbornHost [⟨"/a/out/tmp-2"⟩]) id (some ⟨"/a/out"⟩)
        [⟨"/a/out/tmp-1"⟩, ⟨"/a/out/tmp-2"⟩, ⟨"/a/out/tmp-3"⟩, ⟨"/a/output/tmp-1"⟩] ∧
      (cleanup (some ⟨"/a/out"⟩)).run (stubbornHost [⟨"/a/out/tmp-2"⟩])
          [⟨"/a/out/tmp-1"⟩, ⟨"/a/out/tmp-2"⟩, ⟨"/a/out/tmp-3"⟩, ⟨"/a/output/tmp-1"⟩] =
        (2, [⟨"/a/out/tmp-2"⟩, ⟨"/a/output/tmp-1"⟩]) ∧
      (cleanup (some ⟨"/a/out"⟩)).trace (stubbornHost [⟨"/a/out/tmp-2"⟩])
          [⟨"/a/out/tmp-1"⟩, ⟨"/a/out/tmp-2"⟩, ⟨"/a/out/tmp-3"⟩, ⟨"/a/output/tmp-1"⟩] =
        [.takeRegistered (some ⟨"/a/out"⟩), .removeAll ⟨"/a/out/tmp-1"⟩,
          .removeAll ⟨"/a/out/tmp-2"⟩, .setPermission ⟨"/a/out/tmp-2"⟩ .allAccess,
          .removeAll ⟨"/a/out/tmp-2"⟩, .register ⟨"/a/out/tmp-2"⟩,
          .removeAll ⟨"/a/out/tmp-3"⟩] := by
  have hs : Registry.Ordered
      [⟨"/a/out/tmp-1"⟩, ⟨"/a/out/tmp-2"⟩, ⟨"/a/out/tmp-3"⟩, ⟨"/a/output/tmp-1"⟩] := by decide
  refine ⟨hs, (cleanup_of_selected (keeps_stubbornHost _) hs).1 _, ?_, rfl⟩
  decide

example : Registry.selects (some ⟨"/a/out"⟩) ⟨"/a/output/tmp-1"⟩ = false := by decide

end Suite

end Assay
