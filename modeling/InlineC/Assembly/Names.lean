import InlineC.Text.Case

/-!
# Module-level names

A module named `m` declares four file-scope symbols of its own besides its units: the error
object `MError`, the method table `MMethods` (with `M` the capitalised name), the module
definition `mmodule` and the exported initialiser `cxinit_m`, which the loader looks up.
-/

namespace InlineC.Assembly

/-- The C variable holding the module's error object. -/
def errorSymbol (name : String) : String := Text.capitalize name ++ "Error"

/-- The C array holding the module's method table. -/
def methodTableSymbol (name : String) : String := Text.capitalize name ++ "Methods"

/-- The C variable holding the module definition. -/
def moduleDefSymbol (name : String) : String := name ++ "module"

/-- The exported initialiser of the module. -/
def initSymbol (name : String) : String := "cxinit_" ++ name

/-- The four symbols a module declares before any unit. -/
def moduleSymbols (name : String) : List String :=
  [errorSymbol name, methodTableSymbol name, moduleDefSymbol name, initSymbol name]

end InlineC.Assembly
