import CrateShelf.Proofs.Finder.Heap
import CrateShelf.Proofs.Finder.Session
import Mathlib.Data.List.Perm.Subperm

/-!
# What a ranking keeps

A ranking keeps some of the entries that it has seen, none of them more often
than it has seen it.  The worst entry kept stands at the top of the heap; only
an entry that is better than this one comes in once there is no more room, and
takes its place.  So what is left out is never better than what is kept.

Main statements: what a search ranks are candidates, each as often as it is
one at most; and the lines of a ranking are those of the best entries that it
has seen, in whatever order it has seen them.
-/

namespace CrateShelf.Finder

variable {Quality : Type}

/-! ## The order of entries -/

namespace Entry

variable
    [Ord Quality]
    {first second : Entry Quality}

/-- Whether an entry may stand before another: it has the higher quality, or
the same quality and the earlier start, or the same start, too, and not the
later line. -/
def Before (first second : Entry Quality) : Prop :=
  compare second.quality first.quality = .lt ∨
    first.quality = second.quality ∧
      (first.start < second.start ∨
        first.start = second.start ∧ first.line ≤ second.line)

instance [DecidableEq Quality] : Decidable (Before first second) :=
  inferInstanceAs (Decidable (_ ∨ _))

instance [Std.TransOrd Quality] : Std.TransOrd (Entry Quality) :=
  inferInstanceAs (Std.TransCmp (compareLex (compareOn quality)
    (compareLex (fun first second => compareOn start second first)
      fun first second => compareOn line second first)))

theorem compare_eq (first second : Entry Quality) :
    compare first second =
      (compare first.quality second.quality).then
        ((compare second.start first.start).then
          (compare second.line first.line)) :=
  rfl

theorem bestFirst_perm (entries : List (Entry Quality)) :
    (bestFirst entries).Perm entries :=
  List.mergeSort_perm entries _

variable [Std.LawfulEqOrd Quality]

theorem before_iff :
    Before first second ↔ (compare second first).isLE = true := by
  rw [Before, compare_eq, Ordering.isLE_then_iff_or,
    Ordering.isLE_then_iff_or, Std.LawfulEqOrd.compare_eq_iff_eq,
    Nat.compare_eq_lt, Nat.compare_eq_eq, Nat.isLE_compare,
    eq_comm (a := first.quality)]

theorem before_of_isLess (less : Heap.isLess second first = true) :
    Before first second := by
  rw [Heap.isLess, Ordering.isLT_iff_eq_lt] at less
  rw [before_iff, less]
  rfl

variable [Std.TransOrd Quality]

theorem before_of_not_isLess (notLess : ¬ Heap.isLess first second = true) :
    Before first second := by
  rw [Heap.isLess, Ordering.isLT_iff_eq_lt] at notLess
  rw [before_iff, ← Std.OrientedCmp.isGE_iff_isLE, Ordering.isGE_iff_ne_lt]
  exact notLess

theorem Before.trans
    {third : Entry Quality}
    (before : Before first second)
    (after : Before second third) :
    Before first third := by
  rw [before_iff] at before after ⊢
  exact Std.TransOrd.isLE_trans after before

theorem before_antisymm
    (before : Before first second)
    (after : Before second first) :
    first = second := by
  rw [before_iff] at before after
  have same := Std.OrientedCmp.isLE_antisymm after before
  rw [compare_eq, Ordering.then_eq_eq, Ordering.then_eq_eq,
    Std.LawfulEqOrd.compare_eq_iff_eq, Nat.compare_eq_eq,
    Nat.compare_eq_eq] at same
  obtain ⟨quality, start, line⟩ := same
  cases first
  cases second
  cases quality
  cases start
  cases line
  rfl

/-- There is one way to put entries in order. -/
theorem eq_of_perm
    {entries others : List (Entry Quality)}
    (perm : entries.Perm others)
    (ordered : entries.Pairwise Before)
    (alsoOrdered : others.Pairwise Before) :
    entries = others :=
  perm.eq_of_pairwise (fun _ _ _ _ => before_antisymm) ordered alsoOrdered

theorem pairwise_bestFirst (entries : List (Entry Quality)) :
    (bestFirst entries).Pairwise Before := by
  have transitive : ∀ first second third : Entry Quality,
      (compare first second).isGE = true →
        (compare second third).isGE = true →
          (compare first third).isGE = true :=
    fun _ _ _ => Std.TransOrd.isGE_trans
  have total : ∀ first second : Entry Quality,
      ((compare first second).isGE || (compare second first).isGE) = true := by
    intro first second
    have swapped : (compare second first).isGE =
        (compare first second).isLE :=
      Std.OrientedCmp.isGE_eq_isLE
    rw [swapped]
    cases compare first second <;> rfl
  refine (List.pairwise_mergeSort transitive total entries).imp ?_
  intro first second isGE
  rwa [before_iff, ← Std.OrientedCmp.isGE_eq_isLE]

end Entry

/-! ## One more entry -/

namespace Ranking

variable
    [Ord Quality]
    {ranking pushed : Ranking Quality}
    {entry : Entry Quality}
    {seen : List (Entry Quality)}

/-- How a ranking deals with one more entry. -/
inductive Deals (ranking : Ranking Quality) (entry : Entry Quality) :
    Ranking Quality → Prop where
  | none (limit : ranking.limit ≤ 0) : Deals ranking entry ranking
  | room (room : ranking.heap.size < ranking.limit) :
      Deals ranking entry
        { ranking with heap := Heap.push ranking.heap entry }
  | better
      {worst : Entry Quality}
      {others : List (Entry Quality)}
      (full : ranking.limit ≤ ranking.heap.size)
      (shape : ranking.heap.toList = worst :: others)
      (less : Heap.isLess worst entry = true) :
      Deals ranking entry
        { ranking with heap := Heap.replaceLeast ranking.heap entry }
  | worse
      {worst : Entry Quality}
      {others : List (Entry Quality)}
      (full : ranking.limit ≤ ranking.heap.size)
      (shape : ranking.heap.toList = worst :: others)
      (notLess : ¬ Heap.isLess worst entry = true) :
      Deals ranking entry ranking

theorem deals_push (ranking : Ranking Quality) (entry : Entry Quality) :
    Deals ranking entry (ranking.push entry) := by
  unfold push
  split
  · exact .none ‹_›
  · rename_i positive
    split
    · exact .room ‹_›
    · rename_i full
      have some : 0 < ranking.heap.size := by omega
      obtain ⟨worst, others, shape⟩ : ∃ worst others,
          ranking.heap.toList = worst :: others :=
        List.exists_cons_of_ne_nil
          (List.ne_nil_of_length_pos (by simpa using some))
      have top : ranking.heap[0]? = Option.some worst := by
        rw [← Array.getElem?_toList, shape, List.getElem?_cons_zero]
      rw [top]
      dsimp only
      split
      · exact .better (Int.not_lt.1 full) shape ‹_›
      · exact .worse (Int.not_lt.1 full) shape ‹_›

theorem Deals.limit_eq (deals : Deals ranking entry pushed) :
    pushed.limit = ranking.limit := by
  cases deals <;> rfl

theorem limit_foldl_push
    (entries : List (Entry Quality))
    (ranking : Ranking Quality) :
    (entries.foldl push ranking).limit = ranking.limit := by
  induction entries generalizing ranking with
  | nil => rfl
  | cons entry entries inductionStep =>
      exact (inductionStep _).trans (deals_push ranking entry).limit_eq

theorem lines_perm (ranking : Ranking Quality) :
    ranking.lines.Perm (ranking.heap.toList.map (·.line)) :=
  (Entry.bestFirst_perm ranking.heap.toList).map _

/-- The line of an entry is all that is added by it. -/
theorem Deals.lines_subperm (deals : Deals ranking entry pushed) :
    pushed.lines.Subperm (entry.line :: ranking.lines) := by
  have before := ranking.lines_perm
  have after := pushed.lines_perm
  have same : ranking.lines.Subperm (entry.line :: ranking.lines) :=
    (List.sublist_cons_self _ _).subperm
  cases deals with
  | none => exact same
  | room =>
      have added := (Heap.toList_push_perm ranking.heap entry).map (·.line)
      exact ((after.trans added).trans (before.cons _).symm).subperm
  | better _ shape =>
      have replaced := (Heap.toList_replaceLeast_perm shape entry).map (·.line)
      rw [shape] at before
      have fewer := (List.sublist_cons_self _ _).subperm.trans
        before.symm.subperm
      exact (after.trans replaced).subperm.trans ((List.subperm_cons _).2 fewer)
  | worse => exact same

/-- What a ranking keeps are entries that it has seen, none of them more often
than it has seen it. -/
theorem lines_foldl_push_subperm
    (entries : List (Entry Quality))
    (ranking : Ranking Quality) :
    (entries.foldl push ranking).lines.Subperm
      (entries.map (·.line) ++ ranking.lines) := by
  induction entries generalizing ranking with
  | nil => exact List.Subperm.refl _
  | cons entry entries inductionStep =>
      have others := inductionStep (ranking.push entry)
      have one := (List.subperm_append_left (entries.map (·.line))).2
        (deals_push ranking entry).lines_subperm
      exact (others.trans one).trans List.perm_middle.subperm

/-! ## The best of what has been seen -/

/-- Whether a ranking keeps as many entries as it may, and no better ones are
left out. -/
structure KeepsBest
    (ranking : Ranking Quality)
    (seen : List (Entry Quality)) : Prop where
  isHeap : Heap.IsHeap ranking.heap
  size : ranking.heap.size = min ranking.limit.toNat seen.length
  divides : ∃ left, (ranking.heap.toList ++ left).Perm seen ∧
    ∀ kept ∈ ranking.heap.toList, ∀ other ∈ left, Entry.Before kept other

theorem keepsBest_empty (limit : Int) :
    KeepsBest (empty limit : Ranking Quality) [] where
  isHeap := Heap.isHeap_empty
  size := by simp [empty]
  divides := ⟨[], by simp [empty]⟩

theorem KeepsBest.of_perm
    {others : List (Entry Quality)}
    (keepsBest : KeepsBest ranking seen)
    (perm : seen.Perm others) :
    KeepsBest ranking others where
  isHeap := keepsBest.isHeap
  size := perm.length_eq ▸ keepsBest.size
  divides := by
    obtain ⟨left, all, best⟩ := keepsBest.divides
    exact ⟨left, all.trans perm, best⟩

variable [Std.TransOrd Quality] [Std.LawfulEqOrd Quality]

/-- The entry at the top of the heap is the worst one kept. -/
theorem KeepsBest.before_worst
    {worst : Entry Quality}
    {others : List (Entry Quality)}
    (keepsBest : KeepsBest ranking seen)
    (shape : ranking.heap.toList = worst :: others) :
    ∀ kept ∈ ranking.heap.toList, Entry.Before kept worst := by
  intro kept member
  obtain ⟨place, inside, rfl⟩ := List.getElem_of_mem member
  rw [Array.length_toList] at inside
  have top : ranking.heap[0]? = some worst := by
    rw [← Array.getElem?_toList, shape, List.getElem?_cons_zero]
  rw [Entry.before_iff]
  exact keepsBest.isHeap.inOrder_top inside worst top _ (by simp [inside])

/-- One more entry leaves a ranking with the best. -/
theorem KeepsBest.of_deals
    (keepsBest : KeepsBest ranking seen)
    (deals : Deals ranking entry pushed) :
    KeepsBest pushed (entry :: seen) := by
  have size := keepsBest.size
  obtain ⟨left, all, best⟩ := keepsBest.divides
  have total := all.length_eq
  rw [List.length_append, Array.length_toList] at total
  cases deals with
  | none limit =>
      have nothing : ranking.heap.toList = [] := by
        rw [← List.length_eq_zero_iff, Array.length_toList]
        omega
      refine ⟨keepsBest.isHeap, ?_, entry :: left, ?_, ?_⟩
      · omega
      · exact List.perm_middle.trans (all.cons entry)
      · simp [nothing]
  | room room =>
      have added := Heap.toList_push_perm ranking.heap entry
      have everything : left = [] := by
        rw [← List.length_eq_zero_iff]
        omega
      rw [everything, List.append_nil] at all
      refine ⟨Heap.isHeap_push keepsBest.isHeap entry, ?_, [], ?_, ?_⟩
      · have longer := added.length_eq
        simp only [Array.length_toList, List.length_cons] at longer ⊢
        omega
      · rw [List.append_nil]
        exact added.trans (all.cons entry)
      · simp
  | better full shape less =>
      rename_i worst others
      have replaced := Heap.toList_replaceLeast_perm shape entry
      have worstLast := keepsBest.before_worst shape
      have better := Entry.before_of_isLess less
      rw [shape] at all best worstLast
      refine ⟨Heap.isHeap_replaceLeast keepsBest.isHeap entry, ?_,
        worst :: left, ?_, ?_⟩
      · have same := replaced.length_eq.trans (congrArg List.length shape).symm
        simp only [Array.length_toList, List.length_cons] at same ⊢
        omega
      · exact (replaced.append_right _).trans
          ((List.perm_middle.trans all).cons entry)
      · intro kept member
        have beforeWorst : Entry.Before kept worst := by
          rcases List.mem_cons.1 (replaced.subset member) with rfl | old
          · exact better
          · exact worstLast kept (List.mem_cons_of_mem _ old)
        intro other out
        rcases List.mem_cons.1 out with rfl | out
        · exact beforeWorst
        · exact beforeWorst.trans (best worst List.mem_cons_self other out)
  | worse full shape notLess =>
      have worstLast := keepsBest.before_worst shape
      have worse := Entry.before_of_not_isLess notLess
      refine ⟨keepsBest.isHeap, ?_, entry :: left, ?_, ?_⟩
      · simp only [List.length_cons]
        omega
      · exact List.perm_middle.trans (all.cons entry)
      · intro kept member other out
        rcases List.mem_cons.1 out with rfl | out
        · exact (worstLast kept member).trans worse
        · exact best kept member other out

/-- Many more entries do, too. -/
theorem KeepsBest.foldl_push
    (keepsBest : KeepsBest ranking seen)
    (entries : List (Entry Quality)) :
    KeepsBest (entries.foldl push ranking) (entries ++ seen) := by
  induction entries generalizing ranking seen with
  | nil => exact keepsBest
  | cons entry entries inductionStep =>
      have one := keepsBest.of_deals (deals_push ranking entry)
      exact (inductionStep one).of_perm List.perm_middle

/-- A ranking that keeps the best has the first of all that it has seen. -/
theorem KeepsBest.lines_eq
    {sorted : List (Entry Quality)}
    (keepsBest : KeepsBest ranking seen)
    (perm : sorted.Perm seen)
    (ordered : sorted.Pairwise Entry.Before) :
    ranking.lines = (sorted.take ranking.limit.toNat).map (·.line) := by
  obtain ⟨left, all, best⟩ := keepsBest.divides
  have keptPerm := Entry.bestFirst_perm ranking.heap.toList
  have leftPerm := Entry.bestFirst_perm left
  have divided : sorted =
      Entry.bestFirst ranking.heap.toList ++ Entry.bestFirst left := by
    apply Entry.eq_of_perm _ ordered
    · rw [List.pairwise_append]
      refine ⟨Entry.pairwise_bestFirst _, Entry.pairwise_bestFirst _, ?_⟩
      intro kept member other out
      exact best kept (keptPerm.subset member) other (leftPerm.subset out)
    · exact perm.trans (all.symm.trans (keptPerm.append leftPerm).symm)
  have size : (Entry.bestFirst ranking.heap.toList).length =
      min ranking.limit.toNat sorted.length := by
    rw [keptPerm.length_eq, Array.length_toList, keepsBest.size,
      perm.length_eq]
  rw [lines, List.take_eq_take_min, ← size, divided, List.take_left]

end Ranking

/-! ## Searches -/

namespace Search

/-- The candidates with their scores. -/
def entries (search : Search) : List (Entry UInt64) :=
  search.candidates.filterMap fun index =>
    (score? search.query (search.line index)).map fun score =>
      ⟨score.quality, score.start, index⟩

theorem ranking_eq (search : Search) :
    search.ranking = search.entries.foldl Ranking.push
      (Ranking.empty search.limit) := by
  rw [entries, List.foldl_filterMap, ranking]
  congr 1
  funext ranking index
  cases score? search.query (search.line index) <;> rfl

theorem mem_entries_iff
    {search : Search}
    {entry : Entry UInt64} :
    entry ∈ search.entries ↔
      entry.line ∈ search.candidates ∧
        score? search.query (search.line entry.line) =
          some ⟨entry.quality, entry.start⟩ := by
  simp only [entries, List.mem_filterMap, Option.map_eq_some_iff]
  constructor
  · rintro ⟨index, member, score, found, rfl⟩
    exact ⟨member, found⟩
  · rintro ⟨member, found⟩
    exact ⟨entry.line, member, ⟨entry.quality, entry.start⟩, found, rfl⟩

/-- Every candidate that matches the query has one entry. -/
theorem map_line_entries (search : Search) :
    search.entries.map (·.line) =
      search.candidates.filter fun index =>
        isMatch search.query (search.line index) := by
  rw [entries, List.map_filterMap, ← List.filterMap_eq_filter]
  apply List.filterMap_congr
  intro index _
  cases found : score? search.query (search.line index) <;>
    simp [isMatch, Option.guard, found]

/-- What a search ranks are candidates, each as often as it is one at
most. -/
theorem lines_ranking_subperm (search : Search) :
    search.ranking.lines.Subperm search.candidates := by
  have ranked := Ranking.lines_foldl_push_subperm search.entries
    (Ranking.empty search.limit)
  have none : (Ranking.empty search.limit : Ranking UInt64).lines = [] := by
    simp [Ranking.empty, Ranking.lines, Entry.bestFirst]
  rw [← ranking_eq, none, List.append_nil, map_line_entries] at ranked
  exact ranked.trans List.filter_sublist.subperm

/-- All candidates of a session match the query. -/
theorem Settled.map_line_entries
    {lines : List String}
    {limit : Int}
    {search : Search}
    (settled : Settled lines limit search) :
    search.entries.map (·.line) = search.candidates := by
  rw [Search.map_line_entries, List.filter_eq_self]
  intro index member
  rw [settled.candidates_eq, survivors, List.mem_filter,
    decide_eq_true_eq] at member
  have whole := member.2 search.typed.reverse.length (Nat.le_refl _)
  rwa [List.take_length, ← settled.line_eq, ← query] at whole

/-- A session shows as many candidates as the limit allows. -/
theorem Settled.length_results
    {lines : List String}
    {limit : Int}
    {search : Search}
    (settled : Settled lines limit search) :
    search.results.length = min limit.toNat search.candidates.length := by
  have keepsBest :=
    (Ranking.keepsBest_empty search.limit).foldl_push search.entries
  rw [List.append_nil, ← ranking_eq] at keepsBest
  have sameLimit : search.ranking.limit = limit := by
    rw [ranking_eq, Ranking.limit_foldl_push, Ranking.empty,
      settled.sameLimit]
  rw [settled.results, (Ranking.lines_perm search.ranking).length_eq,
    List.length_map, Array.length_toList, keepsBest.size, sameLimit,
    ← settled.map_line_entries, List.length_map]

end Search

/-! ## What is shown -/

variable
    [Ord Quality]
    [Std.TransOrd Quality]
    [Std.LawfulEqOrd Quality]

/--
The lines of a ranking are those of the first entries, as many as the limit
allows, of all that it has seen in order, whatever order it has seen them in;
and the results of a search are in this way the lines of its best candidates,
each of which has a score.
-/
theorem lines_foldl_push_and_results_run :
    (∀ (limit : Int) (entries : List (Entry Quality)),
      ∃ sorted : List (Entry Quality),
        sorted.Perm entries ∧
        sorted.Pairwise Entry.Before ∧
        ∀ others : List (Entry Quality), others.Perm entries →
          (others.foldl Ranking.push (Ranking.empty limit)).lines =
            (sorted.take limit.toNat).map (·.line)) ∧
      ∀ (lines : List String) (limit : Int)
          (operations : List Search.Operation),
        let search := (Search.start lines limit).run operations
        ∃ entries sorted : List (Entry UInt64),
          entries.map (·.line) = search.candidates ∧
          (∀ entry ∈ entries,
            score? search.query (lines[entry.line]?.getD "") =
              some ⟨entry.quality, entry.start⟩) ∧
          sorted.Perm entries ∧
          sorted.Pairwise Entry.Before ∧
          search.results = (sorted.take limit.toNat).map (·.line) := by
  constructor
  · intro limit entries
    refine ⟨Entry.bestFirst entries, Entry.bestFirst_perm entries,
      Entry.pairwise_bestFirst entries, ?_⟩
    intro others perm
    have keepsBest := (Ranking.keepsBest_empty limit).foldl_push others
    rw [List.append_nil] at keepsBest
    rw [keepsBest.lines_eq ((Entry.bestFirst_perm entries).trans perm.symm)
      (Entry.pairwise_bestFirst entries), Ranking.limit_foldl_push,
      Ranking.empty]
  · intro lines limit operations search
    have settled : Search.Settled lines limit search :=
      (Search.settled_start lines limit).run operations
    have keepsBest :=
      (Ranking.keepsBest_empty search.limit).foldl_push search.entries
    rw [List.append_nil, ← Search.ranking_eq] at keepsBest
    refine ⟨search.entries, Entry.bestFirst search.entries,
      settled.map_line_entries, ?_, Entry.bestFirst_perm _,
      Entry.pairwise_bestFirst _, ?_⟩
    · intro entry member
      rw [← settled.line_eq]
      exact (Search.mem_entries_iff.1 member).2
    · rw [settled.results, keepsBest.lines_eq (Entry.bestFirst_perm _)
        (Entry.pairwise_bestFirst _), Search.ranking_eq,
        Ranking.limit_foldl_push, Ranking.empty, settled.sameLimit]

/-- Of two equally good entries the one that starts first comes first, and the
third one finds no room. -/
theorem lines_foldl_push_three :
    ([⟨2, 5, 0⟩, ⟨7, 4, 1⟩, ⟨7, 3, 2⟩].foldl Ranking.push
      (Ranking.empty 2 : Ranking Nat)).lines = [2, 1] := by
  obtain ⟨sorted, perm, ordered, lines⟩ :=
    (@lines_foldl_push_and_results_run Nat _ _ _).1 2
      [⟨2, 5, 0⟩, ⟨7, 4, 1⟩, ⟨7, 3, 2⟩]
  have same : sorted = [⟨7, 3, 2⟩, ⟨7, 4, 1⟩, ⟨2, 5, 0⟩] :=
    Entry.eq_of_perm (perm.trans (by decide)) ordered (by decide)
  rw [lines _ (List.Perm.refl _), same]
  rfl

end CrateShelf.Finder
