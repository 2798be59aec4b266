import Mathlib.Data.List.Induction
import Mathlib.Data.List.Nodup

/-!
# Lists of keys with values

Where no key comes twice, what is found under a key does not depend on the
order of the list.
-/

namespace CrateShelf

variable
    {Key Content : Type}
    [BEq Key]
    [LawfulBEq Key]

/-- What is found under a key is what stands there, if no key comes twice. -/
theorem lookup_eq_some_iff_mem
    {entries : List (Key × Content)}
    (apart : (entries.map Prod.fst).Nodup)
    {key : Key}
    {content : Content} :
    entries.lookup key = some content ↔ (key, content) ∈ entries := by
  induction entries with
  | nil => simp
  | cons entry entries inductionStep =>
      obtain ⟨other, known⟩ := entry
      simp only [List.map_cons, List.nodup_cons] at apart
      rw [List.lookup_cons, List.mem_cons]
      by_cases same : key = other
      · subst same
        have absent : (key, content) ∉ entries :=
          fun member => apart.1 (List.mem_map_of_mem member)
        simp [absent, eq_comm]
      · have different : (key == other) = false := by
          simpa using same
        rw [different]
        simp [inductionStep apart.2, same]

theorem lookup_eq_of_perm
    {first second : List (Key × Content)}
    (perm : first.Perm second)
    (apart : (second.map Prod.fst).Nodup)
    (key : Key) :
    first.lookup key = second.lookup key := by
  have firstApart : (first.map Prod.fst).Nodup :=
    (perm.map Prod.fst).nodup_iff.2 apart
  apply Option.ext
  intro content
  rw [lookup_eq_some_iff_mem firstApart, lookup_eq_some_iff_mem apart,
    perm.mem_iff]

/-- Lists without a key twice in which the same is found are the same up to
their order. -/
theorem perm_of_lookup_eq
    {first second : List (Key × Content)}
    (apart : (first.map Prod.fst).Nodup)
    (alsoApart : (second.map Prod.fst).Nodup)
    (same : ∀ key, first.lookup key = second.lookup key) :
    first.Perm second := by
  have firstNodup : first.Nodup := List.Nodup.of_map Prod.fst apart
  have secondNodup : second.Nodup := List.Nodup.of_map Prod.fst alsoApart
  rw [List.perm_ext_iff_of_nodup firstNodup secondNodup]
  rintro ⟨key, content⟩
  rw [← lookup_eq_some_iff_mem apart, ← lookup_eq_some_iff_mem alsoApart,
    same]

/-- A key more is a different one more, unless it was there before. -/
theorem eraseDups_concat (keys : List Key) (key : Key) :
    (keys ++ [key]).eraseDups =
      if key ∈ keys then keys.eraseDups else keys.eraseDups ++ [key] := by
  rw [List.eraseDups_append]
  split
  · rename_i member
    simp [List.removeAll, member]
  · rename_i absent
    simp [List.removeAll, absent, List.eraseDups_cons]

theorem nodup_eraseDups (keys : List Key) : keys.eraseDups.Nodup := by
  induction keys using List.reverseRecOn with
  | nil => exact List.nodup_nil
  | append_singleton keys key inductionStep =>
      rw [eraseDups_concat]
      split
      · exact inductionStep
      · rename_i absent
        rw [← List.concat_eq_append]
        exact inductionStep.concat (mt List.mem_eraseDups.1 absent)

end CrateShelf
