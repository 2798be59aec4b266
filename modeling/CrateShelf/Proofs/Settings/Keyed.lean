import CrateShelf.Proofs.Association
import CrateShelf.Proofs.Outcome
import CrateShelf.Settings.Config

/-!
# The names of settings that are read

A table is built entry by entry, and an entry under a name that is there
already takes the place of the older one.

Main statement: whatever a file of the configuration says, the names in each
of its tables are different.
-/

namespace CrateShelf

open Yaml

mutual

/-- Whether no table in a setting has two entries of one name. -/
def Setting.IsKeyed : Setting → Prop
  | .table entries => Settings.IsKeyed entries
  | _ => True

/-- Whether settings have different names, and so have all tables in them. -/
def Settings.IsKeyed : List (String × Setting) → Prop
  | [] => True
  | (name, value) :: rest =>
    (∀ entry ∈ rest, entry.1 ≠ name) ∧ Setting.IsKeyed value ∧
      Settings.IsKeyed rest

end

namespace Settings

variable
    {settings : Settings}
    {name : String}
    {value : Setting}

/-! ## Names -/

theorem get?_cons
    (known name : String)
    (value : Setting)
    (rest : Settings) :
    get? ((known, value) :: rest) name =
      if name = known then some value else rest.get? name := by
  rw [get?, List.lookup_cons]
  by_cases same : name = known
  · simp [same]
  · rw [if_neg same, beq_eq_false_iff_ne.2 same]
    rfl

theorem get?_eq_none (fresh : ∀ entry ∈ settings, entry.1 ≠ name) :
    settings.get? name = none := by
  rw [get?, List.lookup_eq_none_iff]
  intro entry member
  rw [bne_iff_ne]
  exact (fresh entry member).symm

theorem IsKeyed.nodup (keyed : IsKeyed settings) :
    (settings.map Prod.fst).Nodup := by
  induction settings with
  | nil => exact List.nodup_nil
  | cons entry rest inductionStep =>
      obtain ⟨name, value⟩ := entry
      obtain ⟨fresh, -, others⟩ := keyed
      rw [List.map_cons, List.nodup_cons, List.mem_map]
      refine ⟨?_, inductionStep others⟩
      rintro ⟨entry, member, same⟩
      exact fresh entry member same

theorem IsKeyed.get?_eq_some_iff (keyed : IsKeyed settings) :
    settings.get? name = some value ↔ (name, value) ∈ settings :=
  lookup_eq_some_iff_mem keyed.nodup

theorem IsKeyed.of_mem
    (keyed : IsKeyed settings)
    (member : (name, value) ∈ settings) :
    value.IsKeyed := by
  induction settings with
  | nil => cases member
  | cons entry rest inductionStep =>
      obtain ⟨known, old⟩ := entry
      obtain ⟨-, alsoKeyed, others⟩ := keyed
      rcases List.mem_cons.1 member with same | later
      · cases same
        exact alsoKeyed
      · exact inductionStep others later

/-! ## Tables -/

theorem mem_put
    {entry : String × Setting}
    (member : entry ∈ settings.put name value) :
    entry ∈ settings ∨ entry.1 = name := by
  induction settings with
  | nil => exact .inr (List.mem_singleton.1 member ▸ rfl)
  | cons first rest inductionStep =>
      obtain ⟨known, old⟩ := first
      rw [put] at member
      split at member
      · rename_i same
        rcases List.mem_cons.1 member with rfl | later
        · exact .inr same
        · exact .inl (List.mem_cons_of_mem _ later)
      · rcases List.mem_cons.1 member with rfl | later
        · exact .inl List.mem_cons_self
        · exact (inductionStep later).imp_left (List.mem_cons_of_mem _)

theorem IsKeyed.put
    (keyed : IsKeyed settings)
    (name : String)
    (alsoKeyed : value.IsKeyed) :
    IsKeyed (settings.put name value) := by
  induction settings with
  | nil => exact ⟨by simp, alsoKeyed, trivial⟩
  | cons entry rest inductionStep =>
      obtain ⟨known, old⟩ := entry
      obtain ⟨fresh, oldKeyed, others⟩ := keyed
      rw [Settings.put]
      split
      · exact ⟨fresh, alsoKeyed, others⟩
      · rename_i different
        refine ⟨fun entry member => ?_, oldKeyed, inductionStep others⟩
        rcases mem_put member with before | rfl
        · exact fresh entry before
        · exact Ne.symm different

end Settings

namespace Yaml

variable
    {entries : List (Setting × Setting)}
    {key value : Setting}

theorem isKeyed_of_mem_putEntry
    (keyed : ∀ entry ∈ entries, entry.2.IsKeyed)
    (alsoKeyed : value.IsKeyed)
    {entry : Setting × Setting}
    (member : entry ∈ putEntry entries key value) :
    entry.2.IsKeyed := by
  unfold putEntry at member
  split at member
  · obtain ⟨old, before, rfl⟩ := List.mem_map.1 member
    split
    · exact alsoKeyed
    · exact keyed old before
  · rcases List.mem_append.1 member with before | here
    · exact keyed entry before
    · rw [List.mem_singleton.1 here]
      exact alsoKeyed

theorem isKeyed_tableOf (keyed : ∀ entry ∈ entries, entry.2.IsKeyed) :
    (tableOf entries).IsKeyed := by
  have different : ∀ known : List (Setting × Setting),
      (∀ entry ∈ known, entry.2.IsKeyed) →
        ∀ entry ∈ entries.foldl
          (fun known entry => putEntry known entry.1 entry.2) known,
          entry.2.IsKeyed := by
    induction entries with
    | nil => exact fun known all => all
    | cons first entries inductionStep =>
        rw [List.forall_mem_cons] at keyed
        exact fun known all => inductionStep keyed.2 _ fun entry =>
          isKeyed_of_mem_putEntry all keyed.1
  have named : ∀ (distinct : List (Setting × Setting)) (table : Settings),
      (∀ entry ∈ distinct, entry.2.IsKeyed) → Settings.IsKeyed table →
        Settings.IsKeyed (distinct.foldl
          (fun table entry =>
            Settings.put table ((keyText? entry.1).getD "") entry.2)
          table) := by
    intro distinct
    induction distinct with
    | nil => exact fun table _ tableKeyed => tableKeyed
    | cons first distinct inductionStep =>
        intro table all tableKeyed
        rw [List.forall_mem_cons] at all
        exact inductionStep _ all.2 (tableKeyed.put _ all.1)
  exact named _ [] (different [] (by simp)) trivial

/-! ## Nodes -/

theorem isKeyed_of_readAs
    {text : String}
    {kind : PlainKind}
    (read : readAs text kind = .ok value) :
    value.IsKeyed := by
  cases kind with
  | null | text =>
      cases read
      trivial
  | bool | whole | real =>
      obtain ⟨_, -, same⟩ := bind_eq_ok_iff.1 read
      cases same
      trivial
  | time =>
      rw [readAs] at read
      unfold readTime at read
      dsimp only at read
      split at read
      · cases read
      · split at read
        · cases read
          trivial
        · cases read
  | merge | usual => cases read

theorem Built.and_eq_ok
    {α β : Type}
    {first : Built α}
    {second : Built β}
    {both : α × β}
    (built : Built.and first second = .ok both) :
    first = .ok both.1 ∧ second = .ok both.2 := by
  unfold Built.and at built
  split at built
  · cases built
    exact ⟨rfl, rfl⟩
  · cases built
  · cases built
  · cases built

/-- Each of several things that are built is built of one of the items. -/
theorem Built.exists_of_mem_all
    {α β : Type}
    {build : α → Built β}
    {items : List α}
    {values : List β}
    (built : Built.all build items = .ok values)
    {value : β}
    (member : value ∈ values) :
    ∃ item ∈ items, build item = .ok value := by
  induction items generalizing values with
  | nil =>
      cases built
      cases member
  | cons item items inductionStep =>
      rw [Built.all] at built
      cases both : Built.and (build item) (Built.all build items) with
      | error fault =>
          rw [both] at built
          cases built
      | ok pair =>
          rw [both] at built
          cases built
          obtain ⟨first, others⟩ := Built.and_eq_ok both
          rcases List.mem_cons.1 member with rfl | later
          · exact ⟨item, List.mem_cons_self, first⟩
          · obtain ⟨other, among, same⟩ := inductionStep others later
            exact ⟨other, List.mem_cons_of_mem _ among, same⟩

theorem Built.map_eq_ok_iff
    {α β : Type}
    {built : Built α}
    {change : α → β}
    {value : β} :
    built.map change = .ok value ↔ ∃ first, built = .ok first ∧
      change first = value := by
  cases built with
  | ok first =>
      constructor
      · intro same
        cases same
        exact ⟨first, rfl, rfl⟩
      · rintro ⟨_, ⟨⟩, rfl⟩
        rfl
  | error fault =>
      constructor
      · intro same
        cases same
      · rintro ⟨_, ⟨⟩, _⟩

/-- Whatever a node stands for, the tables in it have different names. -/
theorem Node.isKeyed_of_setting
    {room : Nat}
    {node : Node}
    {setting : Setting}
    (built : node.setting room = .ok setting) :
    setting.IsKeyed := by
  induction room generalizing node setting with
  | zero => cases built
  | succ room inductionStep =>
      -- Only texts that are read and entries may make something else than a
      -- list.
      cases node with
      | scalar tag isPlain text =>
          simp only [Node.setting] at built
          split at built
          · split at built
            · cases built
            · exact isKeyed_of_readAs (mapError_eq_ok_iff.1 built)
          · cases built
      | sequence tag items =>
          simp only [Node.setting] at built
          generalize containerType "seq" tag = type? at built
          cases type? with
          | none => cases built
          | some type =>
              dsimp only at built
              split at built
              · obtain ⟨_, -, rfl⟩ := Built.map_eq_ok_iff.1 built
                trivial
              · split at built
                · obtain ⟨_, -, rfl⟩ := Built.map_eq_ok_iff.1 built
                  trivial
                · split at built
                  · cases built
                  · cases built
      | mapping tag entries =>
          simp only [Node.setting] at built
          generalize containerType "map" tag = type? at built
          cases type? with
          | none => cases built
          | some type =>
              dsimp only at built
              split at built
              · obtain ⟨pairs, all, rfl⟩ := Built.map_eq_ok_iff.1 built
                apply isKeyed_tableOf
                intro pair member
                split at all
                · cases all
                · obtain ⟨entry, -, both⟩ := Built.exists_of_mem_all all member
                  exact inductionStep (Built.and_eq_ok both).2
              · split at built
                · obtain ⟨_, -, rfl⟩ := Built.map_eq_ok_iff.1 built
                  trivial
                · split at built
                  · cases built
                  · split at built
                    · split at built
                      · cases built
                      · exact isKeyed_of_readAs (mapError_eq_ok_iff.1 built)
                    · cases built

end Yaml

/-! ## Files -/

theorem Setting.isKeyed_of_ofYaml
    [Depths]
    {text : String}
    {setting : Setting}
    (read : Setting.ofYaml text = .ok setting) :
    setting.IsKeyed := by
  obtain ⟨node?, -, built⟩ := bind_eq_ok_iff.1 read
  cases node? with
  | none =>
      cases built
      trivial
  | some node => exact Node.isKeyed_of_setting (mapError_eq_ok_iff.1 built)

/-- The settings that a file gives have different names, in all tables. -/
theorem Config.isKeyed_of_readSettings
    [Depths]
    {file : DiskPath}
    {bytes : Bytes}
    {given : Settings}
    (read : readSettings file bytes = .ok given) :
    Settings.IsKeyed given := by
  obtain ⟨text, -, read⟩ := bind_eq_ok_iff.1 read
  dsimp only at read
  split at read
  · cases read
  · cases read
  · rename_i value isValue
    split at read
    · split at read
      · cases read
        exact Setting.isKeyed_of_ofYaml isValue
      · cases read
    · cases read
      trivial

end CrateShelf
