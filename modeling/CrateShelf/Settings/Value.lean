import CrateShelf.Double

/-!
# Settings

A setting is a simple value, a list or a table of named settings.  Tables are
merged key by key: where both have a table the two are merged, and everywhere
else the newer setting replaces the older one.
-/

namespace CrateShelf

/-- A value of a configuration. -/
inductive Setting where
  | null
  | bool (flag : Bool)
  | int (number : Int)
  /-- A number with a decimal point, by its bit pattern. -/
  | real (bits : UInt64)
  | text (content : String)
  /-- A date or a time, as it is written. -/
  | time (written : String)
  | list (items : List Setting)
  | table (entries : List (String × Setting))
deriving Repr, Inhabited

/-- Named settings, in the order in which the names were first given. -/
abbrev Settings := List (String × Setting)

namespace Setting

/-- Whether a setting counts as something: not null, false, zero or empty. -/
def isTruthy : Setting → Bool
  | null => false
  | bool flag => flag
  | int number => number != 0
  | real bits => !Double.isZero bits
  | text content => content != ""
  | time _ => true
  | list items => !items.isEmpty
  | table entries => !entries.isEmpty

/-- Whether a setting is a table. -/
def isTable : Setting → Bool
  | table _ => true
  | _ => false

end Setting

namespace Settings

/-- The setting with a name. -/
def get? (settings : Settings) (name : String) : Option Setting :=
  settings.lookup name

/-- The settings with one under a name: in the place of an older one, or at
the end. -/
def put (settings : Settings) (name : String) (value : Setting) : Settings :=
  match settings with
  | [] => [(name, value)]
  | (known, old) :: rest =>
    if known = name then (known, value) :: rest
    else (known, old) :: put rest name value

/-- The setting that a path of names leads to, through tables. -/
def find? (settings : Settings) : List String → Option Setting
  | [] => none
  | [name] => settings.get? name
  | name :: path =>
    match settings.get? name with
    | some (.table entries) => find? entries path
    | _ => none

mutual

/-- The setting that takes the place of an older one. -/
def mergeOne (old : Option Setting) : Setting → Setting
  | .table update =>
    match old with
    | some (.table base) => .table (merge base update)
    | _ => .table update
  | value => value

/-- Settings with others merged into them. -/
def merge (base : Settings) : (update : List (String × Setting)) → Settings
  | [] => base
  | (name, value) :: rest =>
    merge (base.put name (mergeOne (base.get? name) value)) rest

end

@[simp]
theorem get?_nil (name : String) : get? [] name = none := rfl

/-- A setting that was put under a name is found there. -/
@[simp]
theorem get?_put_self (settings : Settings) (name : String)
    (value : Setting) : (settings.put name value).get? name = some value := by
  induction settings with
  | nil => simp [put, get?]
  | cons head rest inductionStep =>
    obtain ⟨known, old⟩ := head
    by_cases same : known = name
    · simp [put, get?, same]
    · have different : (name == known) = false := by
        simp [Ne.symm same]
      simp only [put, same, if_false, get?, List.lookup_cons, different]
      exact inductionStep

/-- Putting a setting under a name leaves the others as they are. -/
theorem get?_put_of_ne (settings : Settings) (name other : String)
    (value : Setting) (different : other ≠ name) :
    (settings.put name value).get? other = settings.get? other := by
  induction settings with
  | nil => simp [put, get?, different]
  | cons head rest inductionStep =>
    obtain ⟨known, old⟩ := head
    by_cases same : known = name
    · subst same
      have apart : (other == known) = false := by simp [different]
      simp [put, get?, List.lookup_cons, apart]
    · simp only [put, same, if_false, get?, List.lookup_cons]
      split
      · rfl
      · exact inductionStep

end Settings

end CrateShelf
