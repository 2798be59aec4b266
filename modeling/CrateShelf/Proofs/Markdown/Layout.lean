import CrateShelf.Proofs.Markdown.Render
import Mathlib.Data.List.Chain
import Mathlib.Data.List.Flatten
import Mathlib.Logic.Function.Iterate

/-!
# Laying out step by step

Lines are laid out in passes.  A pass looks at the first line that is left,
takes the lines of one block, and shows it; the lines of a quote are laid out
by a call of their own, while the call around it waits.  Nothing here makes
sure that a pass takes a line: the lines of code, of a list or of a paragraph
are looked for from the first line on, and there might be none.

Main statement: each pass takes a line, each call is given lines that are
shorter than those of the call around it, and taking one step after the other
comes to an end, with the lines of the blocks that are read.
-/

namespace CrateShelf.Markdown

variable
    {line : Line}
    {rest lines inside : List Line}

/-! ## Passes -/

/-- What a pass finds at the start of some lines. -/
inductive Finding where
  /-- A blank line. -/
  | nothing
  /-- A block that can be shown. -/
  | block (block : Block)
  /-- A quote, of which the lines inside are still to be laid out. -/
  | quotation (inside : List Line)

/-- One pass: what it finds, and the lines that it leaves. -/
structure Pass where
  finding : Finding
  left : List Line

/-- The pass that begins with a line. -/
def pass (line : Line) (rest : List Line) : Pass :=
  if Text.isBlankText line then ⟨.nothing, rest⟩
  else
    match fence? line with
    | some (marker, information) =>
      ⟨.block (.fencedCode information (rest.takeWhile (staysFenced marker))),
        (rest.dropWhile (staysFenced marker)).drop 1⟩
    | none =>
      if (code? line).isSome then
        let body := (line :: rest).takeWhile staysIndented
        ⟨.block (.indentedCode (dropBlankEnd (body.map (·.drop 4)))),
          (line :: rest).dropWhile staysIndented⟩
      else
        match heading? line with
        | some (level, title) => ⟨.block (.heading level title), rest⟩
        | none =>
          if isRule line then ⟨.block .rule, rest⟩
          else if (quoted? line).isSome then
            ⟨.quotation (takeQuoted (line :: rest)).1,
              (takeQuoted (line :: rest)).2⟩
          else if (listItem? line).isSome then
            ⟨.block (.list (takeItems (line :: rest)).1),
              (takeItems (line :: rest)).2⟩
          else
            ⟨.block (.paragraph
                (joinLines ((line :: rest).takeWhile staysParagraph))),
              (line :: rest).dropWhile staysParagraph⟩

/-! ## What a pass takes -/

theorem staysIndented_of_code? (isCode : (code? line).isSome) :
    staysIndented line = true := by
  rw [staysIndented, isCode, Bool.true_or]

/-- A line at which no block of another kind begins goes on with a
paragraph. -/
theorem staysParagraph_of_plain
    (noBlank : ¬ Text.isBlankText line = true)
    (noFence : fence? line = none)
    (noHeading : heading? line = none)
    (noRule : ¬ isRule line = true)
    (noQuote : ¬ (quoted? line).isSome = true)
    (noItem : ¬ (listItem? line).isSome = true) :
    staysParagraph line = true := by
  rw [Bool.not_eq_true] at noBlank noRule noQuote noItem
  rw [staysParagraph, startsBlock, noBlank, noFence, noHeading, noRule,
    noQuote, noItem]
  rfl

theorem takeQuoted_cons
    {text : Line}
    (isQuote : quoted? line = some text) :
    takeQuoted (line :: rest) =
      (text :: (takeQuoted rest).1, (takeQuoted rest).2) := by
  rw [takeQuoted, isQuote]

theorem takeItems_cons
    {item : ListItem}
    (isItem : listItem? line = some item) :
    takeItems (line :: rest) =
      (item.extend rest :: (takeItems (afterItem rest)).1,
        (takeItems (afterItem rest)).2) := by
  rw [takeItems, isItem]

/-- A pass takes a line, whatever it finds. -/
theorem left_pass_suffix (line : Line) (rest : List Line) :
    (pass line rest).left <:+ rest := by
  fun_cases pass line rest with
  | case1 => exact List.suffix_refl _
  | case2 =>
      exact (List.drop_suffix _ _).trans (List.dropWhile_suffix _)
  | case3 noBlank noFence isCode =>
      rw [List.dropWhile_cons_of_pos (staysIndented_of_code? isCode)]
      exact List.dropWhile_suffix _
  | case4 => exact List.suffix_refl _
  | case5 => exact List.suffix_refl _
  | case6 noBlank noFence noCode noHeading noRule isQuote =>
      obtain ⟨text, found⟩ := Option.isSome_iff_exists.1 isQuote
      rw [takeQuoted_cons found]
      exact takeQuoted_suffix rest
  | case7 noBlank noFence noCode noHeading noRule noQuote isItem =>
      obtain ⟨item, found⟩ := Option.isSome_iff_exists.1 isItem
      rw [takeItems_cons found]
      exact (takeItems_suffix _).trans (afterItem_suffix rest)
  | case8 noBlank noFence noCode noHeading noRule noQuote noItem =>
      rw [List.dropWhile_cons_of_pos (staysParagraph_of_plain noBlank noFence
        noHeading noRule noQuote noItem)]
      exact List.dropWhile_suffix _

/-! ## What a quote gives to the call inside -/

/-- Quoted lines hold fewer characters than the lines, if there is one. -/
theorem length_flatten_takeQuoted_le (lines : List Line) :
    (takeQuoted lines).1.flatten.length ≤ lines.flatten.length := by
  fun_induction takeQuoted lines with
  | case1 => exact Nat.le_refl _
  | case2 line rest text found more inductionStep =>
      have shorter := length_lt_of_quoted? line text found
      rw [List.flatten_cons, List.flatten_cons, List.length_append,
        List.length_append]
      exact Nat.add_le_add shorter.le inductionStep
  | case3 => exact Nat.zero_le _

theorem length_flatten_takeQuoted_lt (isQuote : (quoted? line).isSome) :
    (takeQuoted (line :: rest)).1.flatten.length <
      (line :: rest).flatten.length := by
  obtain ⟨text, found⟩ := Option.isSome_iff_exists.1 isQuote
  have shorter := length_lt_of_quoted? line text found
  rw [takeQuoted_cons found, List.flatten_cons, List.flatten_cons,
    List.length_append, List.length_append]
  exact Nat.add_lt_add_of_lt_of_le shorter (length_flatten_takeQuoted_le rest)

theorem bulk_takeQuoted_add_lt (isQuote : (quoted? line).isSome) :
    bulk (takeQuoted (line :: rest)).1 + bulk (takeQuoted (line :: rest)).2 <
      bulk (line :: rest) := by
  obtain ⟨text, found⟩ := Option.isSome_iff_exists.1 isQuote
  have shorter := length_lt_of_quoted? line text found
  have others := bulk_takeQuoted_le rest
  simp only [takeQuoted_cons found, bulk_cons]
  omega

/-- The lines inside of a quote are shorter in total than the lines that the
pass looks at, and so are they together with those that it leaves. -/
theorem shorter_of_quotation
    (found : (pass line rest).finding = .quotation inside) :
    inside.flatten.length < (line :: rest).flatten.length ∧
      bulk inside + bulk (pass line rest).left < bulk (line :: rest) := by
  revert found
  fun_cases pass line rest with
  | case6 noBlank noFence noCode noHeading noRule isQuote =>
      rintro ⟨⟩
      exact ⟨length_flatten_takeQuoted_lt isQuote,
        bulk_takeQuoted_add_lt isQuote⟩
  | _ => exact fun found => nomatch found

/-! ## Passes and the blocks that are read -/

/-- A pass that shows a block does not find a quote. -/
theorem depth_of_block
    {block : Block}
    (found : (pass line rest).finding = .block block) :
    block.depth = 0 := by
  revert found
  fun_cases pass line rest with
  | case1 => exact fun found => nomatch found
  | case6 => exact fun found => nomatch found
  | _ =>
      rintro ⟨⟩
      simp only [Block.depth]

/-- The blocks that come of a finding. -/
def Finding.blocks : Finding → List Block
  | .nothing => []
  | .block found => [found]
  | .quotation inside => [.quote (readBlocks inside)]

/-- The blocks of some lines are those of a pass and of the lines that it
leaves. -/
theorem readBlocks_cons (line : Line) (rest : List Line) :
    readBlocks (line :: rest) =
      (pass line rest).finding.blocks ++
        readBlocks (pass line rest).left := by
  rw [readBlocks]
  fun_cases pass line rest with
  | case1 isBlank =>
      rw [if_pos isBlank, Finding.blocks, List.nil_append]
  | case2 noBlank marker information isFence =>
      simp only [if_neg noBlank, isFence, Finding.blocks,
        List.singleton_append]
  | case3 noBlank noFence isCode body =>
      have stays := staysIndented_of_code? isCode
      simp only [if_neg noBlank, noFence, if_pos isCode, Finding.blocks,
        List.singleton_append, body, List.takeWhile_cons_of_pos stays,
        List.dropWhile_cons_of_pos stays]
  | case4 noBlank noFence noCode level title isHeading =>
      simp only [if_neg noBlank, noFence, if_neg noCode, isHeading,
        Finding.blocks, List.singleton_append]
  | case5 noBlank noFence noCode noHeading isRule =>
      simp only [if_neg noBlank, noFence, if_neg noCode, noHeading,
        if_pos isRule, Finding.blocks, List.singleton_append]
  | case6 noBlank noFence noCode noHeading noRule isQuote =>
      simp only [if_neg noBlank, noFence, if_neg noCode, noHeading,
        if_neg noRule, dif_pos isQuote, Finding.blocks,
        List.singleton_append]
  | case7 noBlank noFence noCode noHeading noRule noQuote isItem =>
      obtain ⟨item, found⟩ := Option.isSome_iff_exists.1 isItem
      simp only [if_neg noBlank, noFence, if_neg noCode, noHeading,
        if_neg noRule, dif_neg noQuote, found, takeItems_cons found,
        Finding.blocks, List.singleton_append]
  | case8 noBlank noFence noCode noHeading noRule noQuote noItem =>
      have stays := staysParagraph_of_plain noBlank noFence noHeading noRule
        noQuote noItem
      rw [Option.not_isSome_iff_eq_none] at noItem
      simp only [if_neg noBlank, noFence, if_neg noCode, noHeading,
        if_neg noRule, dif_neg noQuote, noItem, Finding.blocks,
        List.singleton_append, List.takeWhile_cons_of_pos stays,
        List.dropWhile_cons_of_pos stays]

/-! ## Steps -/

/-- A call that lays out lines: the columns that there are, the lines that it
was given, those of them that are left, and the lines that it has shown. -/
structure Call where
  columns : Int
  given : List Line
  left : List Line
  shown : List Line

/-- The call with some lines, before its first pass. -/
def Call.ofLines (columns : Int) (lines : List Line) : Call :=
  ⟨columns, lines, lines, []⟩

/-- How far lines are laid out. -/
inductive Layout where
  /-- A call is at work; the calls around it, from the inside out, wait. -/
  | underway (call : Call) (waiting : List Call)
  | finished (shown : List Line)
  /-- Too many calls would wait. -/
  | tooDeep

/-- The lines with an empty one behind them, if there are any. -/
def separate (shown : List Line) : List Line :=
  if shown.isEmpty then [] else shown ++ [[]]

theorem appendBlock_eq (shown block : List Line) :
    appendBlock shown block = separate shown ++ block := by
  rw [appendBlock, separate]
  split
  · rw [List.nil_append]
  · rw [List.append_assoc, List.singleton_append]

/-- One step, where no more calls may wait than a limit (`Depths.quotes`, where a
document is shown): the call at work makes a pass, or returns to the call
around it if no lines are left. -/
def step (highlighter : Highlighter) (options : Options) (limit : Nat) :
    Layout → Layout
  | .underway ⟨columns, given, line :: rest, shown⟩ waiting =>
    let left := (pass line rest).left
    match (pass line rest).finding with
    | .nothing => .underway ⟨columns, given, left, shown⟩ waiting
    | .block block =>
      let lines := renderBlock highlighter options columns.toNat block
      .underway ⟨columns, given, left, appendBlock shown lines⟩ waiting
    | .quotation inside =>
      if waiting.length < limit then
        .underway (Call.ofLines (columns - 2) inside)
          (⟨columns, given, left, separate shown⟩ :: waiting)
      else .tooDeep
  | .underway ⟨_, _, [], shown⟩ (outer :: waiting) =>
    let lines := shown.map (bar options.colored ++ ·)
    .underway { outer with shown := outer.shown ++ lines } waiting
  | .underway ⟨_, _, [], shown⟩ [] => .finished shown
  | layout => layout

variable
    {highlighter : Highlighter}
    {options : Options}
    {limit most more : Nat}
    {layout next last : Layout}

/-! ## What every step keeps -/

/-- Each call has some last part of its lines left, and is given lines that are
shorter in total than those of the call around it. -/
def Layout.IsNarrowing : Layout → Prop
  | .underway call waiting =>
    (∀ begun ∈ call :: waiting, begun.left <:+ begun.given) ∧
      (call :: waiting).IsChain fun inner outer =>
        inner.given.flatten.length < outer.given.flatten.length
  | _ => True

theorem isNarrowing_ofLines (columns : Int) (lines : List Line) :
    (Layout.underway (Call.ofLines columns lines) []).IsNarrowing := by
  refine ⟨?_, List.isChain_singleton _⟩
  rw [List.forall_mem_singleton]
  exact List.suffix_refl lines

/-- A call may go on with any last part of its lines. -/
theorem Layout.IsNarrowing.goOn
    {call : Call}
    {waiting : List Call}
    (isNarrowing : (Layout.underway call waiting).IsNarrowing)
    (further : Call)
    (same : further.given = call.given)
    (leaves : further.left <:+ call.left) :
    (Layout.underway further waiting).IsNarrowing := by
  obtain ⟨lasts, narrows⟩ := isNarrowing
  rw [List.forall_mem_cons] at lasts
  rw [List.isChain_cons] at narrows
  constructor
  · rw [List.forall_mem_cons, same]
    exact ⟨leaves.trans lasts.1, lasts.2⟩
  · rw [List.isChain_cons, same]
    exact narrows

theorem Layout.IsNarrowing.return
    {call outer : Call}
    {waiting : List Call}
    (isNarrowing : (Layout.underway call (outer :: waiting)).IsNarrowing) :
    (Layout.underway outer waiting).IsNarrowing :=
  ⟨List.forall_mem_of_forall_mem_cons isNarrowing.1, isNarrowing.2.tail⟩

/-- A call may begin with lines that are shorter than those of the call around
it. -/
theorem Layout.IsNarrowing.begin
    {outer : Call}
    {waiting : List Call}
    (isNarrowing : (Layout.underway outer waiting).IsNarrowing)
    (columns : Int)
    (shorter : inside.flatten.length < outer.given.flatten.length) :
    (Layout.underway (Call.ofLines columns inside)
      (outer :: waiting)).IsNarrowing := by
  obtain ⟨lasts, narrows⟩ := isNarrowing
  constructor
  · rw [List.forall_mem_cons]
    exact ⟨List.suffix_refl inside, lasts⟩
  · rw [List.isChain_cons_cons]
    exact ⟨shorter, narrows⟩

theorem Layout.IsNarrowing.step
    (isNarrowing : layout.IsNarrowing) :
    (step highlighter options limit layout).IsNarrowing := by
  fun_cases Markdown.step highlighter options limit layout with
  | case1 columns given line rest shown waiting left found =>
      exact isNarrowing.goOn _ rfl
        ((left_pass_suffix line rest).trans (List.suffix_cons _ _))
  | case2 columns given line rest shown waiting left block found lines =>
      exact isNarrowing.goOn _ rfl
        ((left_pass_suffix line rest).trans (List.suffix_cons _ _))
  | case3 columns given line rest shown waiting left inside found =>
      have last : line :: rest <:+ given := isNarrowing.1 _ List.mem_cons_self
      have outer := isNarrowing.goOn ⟨columns, given, left, separate shown⟩
        rfl ((left_pass_suffix line rest).trans (List.suffix_cons _ _))
      exact outer.begin (columns - 2) ((shorter_of_quotation found).1.trans_le
        last.sublist.flatten.length_le)
  | case4 => trivial
  | case5 =>
      exact isNarrowing.return.goOn _ rfl (List.suffix_refl _)
  | case6 => trivial
  | case7 => exact isNarrowing

theorem Layout.IsNarrowing.iterate
    (isNarrowing : layout.IsNarrowing)
    (steps : Nat) :
    ((Markdown.step highlighter options limit)^[steps] layout).IsNarrowing := by
  induction steps with
  | zero => exact isNarrowing
  | succ steps inductionStep =>
      rw [Function.iterate_succ_apply']
      exact inductionStep.step

/-! ## Runs -/

/-- Some steps, of which there is a greatest number, lead from a layout to
another. -/
def Reaches (highlighter : Highlighter) (options : Options) (limit : Nat)
    (most : Nat) (layout last : Layout) : Prop :=
  ∃ steps ≤ most, (step highlighter options limit)^[steps] layout = last

theorem Reaches.refl : Reaches highlighter options limit 0 layout layout :=
  ⟨0, Nat.le_refl 0, rfl⟩

theorem Reaches.of_step
    (taken : step highlighter options limit layout = next)
    (reaches : Reaches highlighter options limit most next last) :
    Reaches highlighter options limit (most + 1) layout last := by
  obtain ⟨steps, few, same⟩ := reaches
  refine ⟨steps + 1, Nat.succ_le_succ few, ?_⟩
  rw [Function.iterate_succ_apply, taken, same]

theorem Reaches.trans
    (reaches : Reaches highlighter options limit most layout next)
    (onward : Reaches highlighter options limit more next last) :
    Reaches highlighter options limit (most + more) layout last := by
  obtain ⟨steps, few, rfl⟩ := reaches
  obtain ⟨others, fewer, rfl⟩ := onward
  refine ⟨others + steps, by omega, ?_⟩
  rw [Function.iterate_add_apply]

theorem Reaches.mono
    (reaches : Reaches highlighter options limit most layout last)
    (few : most ≤ more) :
    Reaches highlighter options limit more layout last := by
  obtain ⟨steps, fewer, same⟩ := reaches
  exact ⟨steps, fewer.trans few, same⟩

theorem bulk_left_pass_lt (line : Line) (rest : List Line) :
    bulk (pass line rest).left < bulk (line :: rest) := by
  have smaller := bulk_drop_le (rest.length - (pass line rest).left.length) rest
  rw [← List.suffix_iff_eq_drop.1 (left_pass_suffix line rest)] at smaller
  rw [bulk_cons]
  omega

section Call

variable
    (columns : Int)
    (given shown : List Line)
    (waiting : List Call)

/-! ### The steps of a call -/

theorem step_of_nothing
    (found : (pass line rest).finding = .nothing) :
    step highlighter options limit
        (.underway ⟨columns, given, line :: rest, shown⟩ waiting) =
      .underway ⟨columns, given, (pass line rest).left, shown⟩ waiting := by
  simp only [step, found]

theorem step_of_block
    {block : Block}
    (found : (pass line rest).finding = .block block) :
    step highlighter options limit
        (.underway ⟨columns, given, line :: rest, shown⟩ waiting) =
      .underway ⟨columns, given, (pass line rest).left, appendBlock shown
        (renderBlock highlighter options columns.toNat block)⟩ waiting := by
  simp only [step, found]

theorem step_of_quotation
    (found : (pass line rest).finding = .quotation inside)
    (room : waiting.length < limit) :
    step highlighter options limit
        (.underway ⟨columns, given, line :: rest, shown⟩ waiting) =
      .underway (Call.ofLines (columns - 2) inside)
        (⟨columns, given, (pass line rest).left, separate shown⟩ ::
          waiting) := by
  simp only [step, found, if_pos room]

theorem step_of_full
    (found : (pass line rest).finding = .quotation inside)
    (full : limit ≤ waiting.length) :
    step highlighter options limit
        (.underway ⟨columns, given, line :: rest, shown⟩ waiting) =
      .tooDeep := by
  simp only [step, found, if_neg (Nat.not_lt.2 full)]

/-! ### What becomes of a call -/

/-- What becomes of a call: it shows its blocks after what it has shown, unless
their quotes are nested more deeply than calls may wait. -/
def outcome (highlighter : Highlighter) (options : Options) (limit : Nat)
    (call : Call) (waiting : List Call) : Layout :=
  let blocks := readBlocks call.left
  if waiting.length + depthOf blocks ≤ limit then
    .underway ⟨call.columns, call.given, [],
      renderBlocks highlighter options call.columns.toNat call.shown blocks⟩
      waiting
  else .tooDeep

theorem outcome_of_le
    (fits : waiting.length + depthOf (readBlocks lines) ≤ limit) :
    outcome highlighter options limit ⟨columns, given, lines, shown⟩ waiting =
      .underway ⟨columns, given, [], renderBlocks highlighter options
        columns.toNat shown (readBlocks lines)⟩ waiting :=
  if_pos fits

theorem outcome_of_lt
    (deep : limit < waiting.length + depthOf (readBlocks lines)) :
    outcome highlighter options limit ⟨columns, given, lines, shown⟩ waiting =
      .tooDeep :=
  if_neg (Nat.not_le.2 deep)

theorem outcome_nil (few : waiting.length ≤ limit) :
    outcome highlighter options limit ⟨columns, given, [], shown⟩ waiting =
      .underway ⟨columns, given, [], shown⟩ waiting := by
  rw [outcome_of_le columns given shown waiting
    (by rwa [readBlocks, depthOf]), readBlocks, renderBlocks]

theorem outcome_of_nothing
    (found : (pass line rest).finding = .nothing) :
    outcome highlighter options limit
        ⟨columns, given, line :: rest, shown⟩ waiting =
      outcome highlighter options limit
        ⟨columns, given, (pass line rest).left, shown⟩ waiting := by
  simp only [outcome, readBlocks_cons, found, Finding.blocks,
    List.nil_append]

theorem outcome_of_block
    {block : Block}
    (found : (pass line rest).finding = .block block) :
    outcome highlighter options limit
        ⟨columns, given, line :: rest, shown⟩ waiting =
      outcome highlighter options limit
        ⟨columns, given, (pass line rest).left, appendBlock shown
          (renderBlock highlighter options columns.toNat block)⟩ waiting := by
  simp only [outcome, readBlocks_cons, found, Finding.blocks,
    List.singleton_append, depthOf, depth_of_block found, Nat.zero_max,
    renderBlocks]

/-- The lines of a quote are those of the call for what is inside, each behind
a bar. -/
theorem renderBlock_quote (blocks : List Block) :
    renderBlock highlighter options columns.toNat (.quote blocks) =
      (renderBlocks highlighter options (columns - 2).toNat [] blocks).map
        (bar options.colored ++ ·) := by
  have narrower : (columns - 2).toNat = columns.toNat - 2 := by omega
  rw [renderBlock, narrower]
  rfl

theorem outcome_of_quotation
    (found : (pass line rest).finding = .quotation inside)
    (fits : waiting.length + 1 + depthOf (readBlocks inside) ≤ limit) :
    outcome highlighter options limit
        ⟨columns, given, line :: rest, shown⟩ waiting =
      outcome highlighter options limit
        ⟨columns, given, (pass line rest).left, separate shown ++
          (renderBlocks highlighter options (columns - 2).toNat []
            (readBlocks inside)).map (bar options.colored ++ ·)⟩ waiting := by
  have same (others : Nat) :
      waiting.length + max (depthOf (readBlocks inside) + 1) others ≤ limit ↔
        waiting.length + others ≤ limit := by
    omega
  simp only [outcome, readBlocks_cons, found, Finding.blocks,
    List.singleton_append, depthOf, Block.depth, same, renderBlocks,
    appendBlock_eq, renderBlock_quote]

theorem outcome_of_deep
    (found : (pass line rest).finding = .quotation inside)
    (deep : limit < waiting.length + 1 + depthOf (readBlocks inside)) :
    outcome highlighter options limit
        ⟨columns, given, line :: rest, shown⟩ waiting = .tooDeep := by
  apply outcome_of_lt
  rw [readBlocks_cons, found, Finding.blocks, List.singleton_append, depthOf,
    Block.depth]
  omega

end Call

/-- Each call comes to what becomes of it, whatever waits for it. -/
theorem reaches_outcome
    (columns : Int)
    (given lines shown : List Line)
    (waiting : List Call)
    (few : waiting.length ≤ limit) :
    Reaches highlighter options limit (2 * bulk lines)
      (.underway ⟨columns, given, lines, shown⟩ waiting)
      (outcome highlighter options limit ⟨columns, given, lines, shown⟩
        waiting) := by
  induction lines using WellFounded.induction (measure bulk).wf
    generalizing columns given shown waiting with
  | _ lines inductionStep =>
  cases lines with
  | nil =>
      rw [outcome_nil columns given shown waiting few]
      exact Reaches.refl
  | cons line rest =>
      have smaller := bulk_left_pass_lt line rest
      have others := fun shown =>
        inductionStep _ smaller columns given shown waiting few
      cases found : (pass line rest).finding with
      | nothing =>
          rw [outcome_of_nothing columns given shown waiting found]
          exact ((others _).of_step
            (step_of_nothing columns given shown waiting found)).mono (by omega)
      | block block =>
          rw [outcome_of_block columns given shown waiting found]
          exact ((others _).of_step
            (step_of_block columns given shown waiting found)).mono (by omega)
      | quotation inside =>
          have both := (shorter_of_quotation found).2
          have less : bulk inside < bulk (line :: rest) := by omega
          have within := inductionStep inside less (columns - 2) inside []
            (⟨columns, given, (pass line rest).left, separate shown⟩ ::
              waiting)
          by_cases fits :
              waiting.length + 1 + depthOf (readBlocks inside) ≤ limit
          · have room : waiting.length < limit := by omega
            have shows := within room
            rw [outcome_of_le _ _ _ _ fits] at shows
            rw [outcome_of_quotation columns given shown waiting found fits]
            exact ((shows.trans ((others _).of_step rfl)).of_step
              (step_of_quotation columns given shown waiting found room)).mono
              (by omega)
          · have deep := Nat.not_le.1 fits
            rw [outcome_of_deep columns given shown waiting found deep]
            by_cases room : waiting.length < limit
            · have refuses := within room
              rw [outcome_of_lt _ _ _ _ deep] at refuses
              exact (refuses.of_step (step_of_quotation columns given shown
                waiting found room)).mono (by omega)
            · exact (Reaches.refl.of_step (step_of_full columns given shown
                waiting found (Nat.not_lt.1 room))).mono (by omega)

theorem reaches_end
    (highlighter : Highlighter)
    (options : Options)
    (limit : Nat)
    (columns : Int)
    (lines : List Line) :
    Reaches highlighter options limit (2 * bulk lines + 1)
      (.underway (Call.ofLines columns lines) [])
      (if depthOf (readBlocks lines) ≤ limit then
        .finished (renderBlocks highlighter options columns.toNat []
          (readBlocks lines))
      else .tooDeep) := by
  have reaches : Reaches highlighter options limit (2 * bulk lines) _ _ :=
    reaches_outcome columns lines lines [] [] (Nat.zero_le limit)
  rw [outcome, List.length_nil, Nat.zero_add] at reaches
  split
  · rename_i fits
    rw [if_pos fits] at reaches
    exact reaches.trans (Reaches.refl.of_step rfl)
  · rename_i deep
    rw [if_neg deep] at reaches
    exact reaches.mono (Nat.le_succ _)

/--
Laying lines out comes to an end.  The blocks that are read are found pass by
pass, and each pass takes a line; each call for the lines inside of a quote is
given lines that are shorter in total than those of the call around it; and a
bounded number of steps leads to the lines of the blocks, unless their quotes
are nested more deeply than calls may wait for each other.
-/
theorem passes_take_and_calls_narrow_and_run_ends
    (highlighter : Highlighter)
    (options : Options)
    (limit : Nat)
    (columns : Int)
    (lines : List Line) :
    (∀ line rest,
        readBlocks (line :: rest) =
            (pass line rest).finding.blocks ++
              readBlocks (pass line rest).left ∧
          (pass line rest).left <:+ rest) ∧
      (∀ steps, ((step highlighter options limit)^[steps]
        (.underway (Call.ofLines columns lines) [])).IsNarrowing) ∧
      ∃ steps ≤ 2 * bulk lines + 1,
        (step highlighter options limit)^[steps]
            (.underway (Call.ofLines columns lines) []) =
          if depthOf (readBlocks lines) ≤ limit then
            .finished (renderBlocks highlighter options columns.toNat []
              (readBlocks lines))
          else .tooDeep := by
  refine ⟨?_, ?_, reaches_end _ _ _ _ _⟩
  · intro line rest
    exact ⟨readBlocks_cons line rest, left_pass_suffix line rest⟩
  · intro steps
    exact (isNarrowing_ofLines columns lines).iterate steps

end CrateShelf.Markdown
