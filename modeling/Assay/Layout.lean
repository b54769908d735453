import Assay.Path
import Assay.Placeholder

/-!
# Layout of a suite

A suite keeps its contracts below one directory and what compilers write below another. Every path
is a join on the suite's root, so a given root always yields the same paths. Cases name the paths by
placeholders.
-/

namespace Assay

/-- The resolved paths of a suite. -/
structure Layout where
  root : Path
  contracts : Path
  outputDir : Path
  solidity : Path
  yul : Path
  eravmAssembly : Path
  zkasm : Path
  llvmIr : Path
  standardJson : Path

namespace Layout

/-- The directory of contracts of a suite that names none. -/
def defaultContracts : String := "contracts"

/-- The directory of artifacts of a suite that names none. -/
def defaultOutput : String := "artifacts"

/-- The paths of a suite, whose two directories may be relative to the root or absolute. -/
def ofDirs (root : Path) (contractsDir outputDir : String) : Layout :=
  let contracts := root.child contractsDir
  { root
    contracts
    outputDir := root.child outputDir
    solidity := (contracts.child "solidity").child "contract.sol"
    yul := (contracts.child "yul").child "contract.yul"
    eravmAssembly := (contracts.child "eravm").child "contract.zasm"
    zkasm := (contracts.child "zkasm").child "contract.zkasm"
    llvmIr := (contracts.child "llvm").child "contract.ll"
    standardJson := (contracts.child "json").child "contract.json" }

/-- The paths of a suite that names no directories. -/
def ofRoot (root : Path) : Layout :=
  ofDirs root defaultContracts defaultOutput

/-- The names that cases can use for the paths, and for three file names, with their values. -/
def bindings (l : Layout) : Bindings :=
  .ofList [
    ("root", l.root.text),
    ("contracts", l.contracts.text),
    ("output_dir", l.outputDir.text),
    ("contracts.solidity", l.solidity.text),
    ("contracts.yul", l.yul.text),
    ("contracts.eravm", l.eravmAssembly.text),
    ("contracts.zkasm", l.zkasm.text),
    ("contracts.llvm", l.llvmIr.text),
    ("contracts.json", l.standardJson.text),
    ("file.solidity", "contract.sol"),
    ("artifact.bin", "C.zbin"),
    ("artifact.eravm_assembly", "C.zasm")]

end Layout

end Assay
