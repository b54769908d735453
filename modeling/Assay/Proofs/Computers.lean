import Assay.Machine.Computer
import Assay.Proofs.Registration
import Assay.Proofs.Rooted
import Assay.Proofs.Templates

/-!
# What a computer keeps to

The computer of this library is a host as the statements about hosts suppose it: it names new
directories by their templates (`namesByTemplate_answer`), its working directory is absolute and it
takes no other workspaces out of its registry than it is asked for (`hostPaths_answer`). So workspaces
are created on it as their templates say, and what a suite asks of it does not depend on its working
directory.
-/

namespace Assay.Machine

open Host Plan

/-! ## New names -/

/-- A number is written with as many characters as there is room for. -/
theorem length_numbered (length n : Nat) : (numbered length n).length = length := by
  induction length generalizing n with
  | zero => rfl
  | succ length ih => rw [numbered, List.length_cons, ih]

/-- The characters that number a name are letters and digits. -/
theorem isAlphanum_of_mem_numbered {length n : Nat} {c : Char} (h : c ∈ numbered length n) :
    c.isAlphanum = true := by
  have hall : nameChars.all Char.isAlphanum = true := by decide
  have hchars : ∀ c ∈ nameChars, c.isAlphanum = true := List.all_eq_true.1 hall
  induction length generalizing n with
  | zero => exact absurd h List.not_mem_nil
  | succ length ih =>
    obtain rfl | h := List.mem_cons.1 h
    · cases hc : nameChars[n % nameChars.length]? with
      | none => decide
      | some c => exact hchars c (List.mem_of_getElem? hc)
    · exact ih h

namespace Computer

variable (c : Computer)

/-- A directory that is made with a new name is a child of the given one, and its name is of the
template's form. -/
theorem exists_of_makeTemp {dir path : Path} {t : Template} {attempts : Nat}
    (h : (c.makeTemp dir t attempts).1 = .ok path) : ∃ name, t.Makes name ∧ path = dir.child name := by
  induction attempts with
  | zero => cases h
  | succ n ih =>
    rw [makeTemp] at h
    split at h
    · obtain rfl := Except.ok.inj h
      exact ⟨_, ⟨_, length_numbered _ _, fun _ => isAlphanum_of_mem_numbered, rfl⟩, rfl⟩
    · exact ih h
    · cases h

/-- A computer names a new directory by its template. -/
theorem namesByTemplate_answer {root : Path} (hroot : root.isAbsolute = true) (t : Template) :
    Workspace.NamesByTemplate (.makeTemp root t) (answer (.makeTemp root t) c).1 := by
  have hjoin : c.workingDir.join root = root := by rw [Path.join, if_pos hroot]
  have hanswer : (answer (.makeTemp root t) c).1 = (c.makeTemp root t maxAttempts).1 := by
    rw [answer, hjoin]
  cases hmade : (answer (.makeTemp root t) c).1 with
  | error reason => trivial
  | ok path => exact c.exists_of_makeTemp (hanswer.symm.trans hmade)

/-- A workspace is created on a computer as its template says. -/
theorem createdAs_perform {root : Path} (hroot : root.isAbsolute = true) (text : String) :
    Workspace.CreatedAs root text (c.perform (Workspace.create root text)).1 := by
  have hcreate : (Workspace.create root text).Meets (Gives answer) (fun _ => True)
      (Workspace.CreatedAs root text) := by
    refine Workspace.meets_create root text fun t reply ⟨c, h⟩ => ?_
    rw [← h]
    exact c.namesByTemplate_answer hroot t
  exact (hcreate.trace (fun _ c => ⟨c, rfl⟩) c).2

/-- The working directory of a computer is absolute. -/
theorem isAbsolute_workingDir : c.workingDir.isAbsolute = true := by
  rw [Path.isAbsolute_iff, workingDir]
  simp

/-- A computer replies with paths as the runner supposes it. -/
theorem hostPaths_answer (r : Request) : Suite.HostPaths r (answer r c).1 := by
  cases r with
  | workingDir => exact c.isAbsolute_workingDir
  | makeTemp root t =>
    cases hmade : (answer (.makeTemp root t) c).1 with
    | error reason => trivial
    | ok path =>
      intro hroot
      have hnames := c.namesByTemplate_answer hroot t
      rw [hmade] at hnames
      exact hnames.imp fun _ hname => hname.2
  | takeRegistered root =>
    intro p hp
    have hanswer : (answer (.takeRegistered root) c).1 = (c.registry.take root).1 := rfl
    rw [hanswer, Registry.take_eq] at hp
    exact (List.mem_filter.1 hp).2
  | _ => trivial

/-- Whatever the settings of a suite and a case file are, their requests on a computer do not depend
on its working directory. -/
theorem isRooted_of_mem_trace {root : Path} {config : SuiteConfig} {zksolc solc : Option String}
    {context : Suite.Context}
    (h : (c.perform (Suite.Context.ofConfig root config zksolc solc)).1 = some context)
    (filter : Option String) (schedule : List Nat) (f : CaseFile) (d : Computer) :
    ∀ r ∈ (Suite.runFile context filter schedule f).trace answer d, Suite.IsRooted r := by
  have hmade := ((Suite.meets_ofConfig root config zksolc solc).trace
    (fun r c => c.hostPaths_answer r) c).2
  exact ((Suite.rooted_runFile (hmade context h) filter schedule f).trace
    (fun r c => c.hostPaths_answer r) d).1

end Computer

end Assay.Machine
