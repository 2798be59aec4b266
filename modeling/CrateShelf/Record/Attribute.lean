import CrateShelf.Text.Blank

/-!
# Visibility, safety and calling convention

The attributes of a declaration that a record keeps.  Each has a fixed list
of values and a stored name per value.
-/

namespace CrateShelf

/-- From where an item can be used. -/
inductive Visibility where
  /-- Written `pub`. -/
  | everywhere
  /-- Written with a restriction, such as `pub(crate)`. -/
  | restricted
  /-- Nothing is written. -/
  | inherited
deriving DecidableEq, Repr, Inhabited

/-- Whether the compiler checks a declaration's safety. -/
inductive Safety where
  | normal
  | unchecked
deriving DecidableEq, Repr, Inhabited

/-- Whether a function can be called at compile time. -/
inductive Constness where
  | notConst
  | const
deriving DecidableEq, Repr, Inhabited

/-- The calling convention of a function. -/
inductive Abi where
  | cdecl
  | stdcall
  | fastcall
  | vectorcall
  | aapcs
  | win64
  | sysv64
  | ptxKernel
  | msp430Interrupt
  | x86Interrupt
  | rust
  | c
  | system
  | rustIntrinsic
  | rustCall
  | platformIntrinsic
  | unadjusted
deriving DecidableEq, Repr, Inhabited

/-- Where a function is declared. -/
inductive FnKind where
  | freeFn
  | inherentMethod
  | traitMethod
deriving DecidableEq, Repr, Inhabited

namespace Visibility

/-- Every visibility. -/
def all : List Visibility := [everywhere, restricted, inherited]

/-- The stored name. -/
def name : Visibility → String
  | everywhere => "Public"
  | restricted => "Private"
  | inherited => "Inherited"

/-- The visibility with a stored name. -/
def ofName? (text : String) : Option Visibility :=
  all.find? (·.name == text)

/-- The visibility that a modifier expresses; blanks in it do not count. -/
def ofModifier (modifier : Option String) : Visibility :=
  match modifier with
  | none => inherited
  | some text =>
    if text = "" then inherited
    else if Text.squeeze text.toList = "pub".toList then everywhere
    else restricted

/-- The keyword shown in signatures. -/
def keyword : Visibility → String
  | everywhere => "pub"
  | _ => ""

/-- A declaration with the keyword in front of it. -/
def mark (visibility : Visibility) (declaration : String) : String :=
  match visibility with
  | everywhere => "pub " ++ declaration
  | _ => declaration

@[simp]
theorem ofName?_name (visibility : Visibility) :
    ofName? visibility.name = some visibility := by
  cases visibility <;> decide

end Visibility

namespace Safety

/-- Every value. -/
def all : List Safety := [normal, unchecked]

/-- The stored name. -/
def name : Safety → String
  | normal => "Normal"
  | unchecked => "Unsafe"

/-- The safety with a stored name. -/
def ofName? (text : String) : Option Safety :=
  all.find? (·.name == text)

@[simp]
theorem ofName?_name (safety : Safety) :
    ofName? safety.name = some safety := by
  cases safety <;> decide

end Safety

namespace Constness

/-- Every value. -/
def all : List Constness := [notConst, const]

/-- The stored name. -/
def name : Constness → String
  | notConst => "NotConst"
  | const => "Const"

/-- The constness with a stored name. -/
def ofName? (text : String) : Option Constness :=
  all.find? (·.name == text)

@[simp]
theorem ofName?_name (constness : Constness) :
    ofName? constness.name = some constness := by
  cases constness <;> decide

end Constness

namespace Abi

/-- Every calling convention. -/
def all : List Abi :=
  [cdecl, stdcall, fastcall, vectorcall, aapcs, win64, sysv64, ptxKernel,
    msp430Interrupt, x86Interrupt, rust, c, system, rustIntrinsic, rustCall,
    platformIntrinsic, unadjusted]

/-- The stored name, which is also the one written in source code. -/
def name : Abi → String
  | cdecl => "cdecl"
  | stdcall => "stdcall"
  | fastcall => "fastcall"
  | vectorcall => "vectorcall"
  | aapcs => "aapcs"
  | win64 => "win64"
  | sysv64 => "sysv64"
  | ptxKernel => "ptx-kernel"
  | msp430Interrupt => "msp430-interrupt"
  | x86Interrupt => "x86-interrupt"
  | rust => "Rust"
  | c => "C"
  | system => "system"
  | rustIntrinsic => "rust-intrinsic"
  | rustCall => "rust-call"
  | platformIntrinsic => "platform-intrinsic"
  | unadjusted => "unadjusted"

/-- The calling convention with a stored name. -/
def ofName? (text : String) : Option Abi :=
  all.find? (·.name == text)

/-- The calling convention of a declaration: an unknown or missing name
means that of C. -/
def ofDeclared (declared : Option String) : Abi :=
  (declared.bind ofName?).getD c

@[simp]
theorem ofName?_name (abi : Abi) : ofName? abi.name = some abi := by
  cases abi <;> decide

end Abi

namespace FnKind

/-- Every value. -/
def all : List FnKind := [freeFn, inherentMethod, traitMethod]

/-- The stored name. -/
def name : FnKind → String
  | freeFn => "FreeFn"
  | inherentMethod => "InherentMethod"
  | traitMethod => "TraitMethod"

/-- The kind of function with a stored name. -/
def ofName? (text : String) : Option FnKind :=
  all.find? (·.name == text)

@[simp]
theorem ofName?_name (kind : FnKind) : ofName? kind.name = some kind := by
  cases kind <;> decide

end FnKind

end CrateShelf
