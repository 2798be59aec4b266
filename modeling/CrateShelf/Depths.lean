/-!
# How deeply things may be nested

What is nested is read by functions that call themselves, and where the nesting
is too deep a run gives up.  How deep that is depends on what the run was
started by, so that it is left open here; only what the program itself writes
is known to be within it.
-/

namespace CrateShelf

/-- How deeply things may be nested. -/
class Depths where
  /-- Modules in modules. -/
  modules : Nat
  /-- The tree of an import. -/
  imports : Nat
  /-- A fault in the tree of a source. -/
  faults : Nat
  /-- Lists and tables of a manifest. -/
  manifest : Nat
  /-- Lists and tables of a settings file. -/
  settings : Nat
  /-- Lists and maps of a packed document. -/
  packed : Nat
  /-- Quotes of a page. -/
  quotes : Nat
  /-- The records that are written can be read. -/
  four_le_packed : 4 ≤ packed

/-- How deeply things may be nested where a run is started from the command
line. -/
@[reducible]
def Depths.usual : Depths where
  modules := 320
  imports := 985
  faults := 985
  manifest := 490
  settings := 488
  packed := 993
  quotes := 985
  four_le_packed := by decide

end CrateShelf
