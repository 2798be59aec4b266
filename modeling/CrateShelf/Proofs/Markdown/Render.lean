import CrateShelf.Markdown.Render
import CrateShelf.Proofs.Markdown.Block
import CrateShelf.Proofs.Markdown.Code
import CrateShelf.Proofs.Terminal.Carry

/-!
# The width of a document

A block is laid out in the columns there are, down to a narrowest form, which
it takes where its marks leave no room.  A quote gives two columns less to
what it quotes.  So a line that is wider than the columns is a line of the
narrowest form, and each such line is shown.

Main statements: a document fits into the columns, raised to the least, exactly
if its narrowest form does; and it does if its marks and indents leave room
for a character.
-/

namespace CrateShelf.Markdown

open Terminal

variable
    {need other columns : Nat}
    {line first next : Line}
    {lines more whole : Nat → List Line}
    {highlighter : Highlighter}
    {options : Options}

/-! ## Lines that adapt -/

/-- Lines that are laid out in some columns, down to a narrowest form, which
they have in no columns at all. -/
structure Adapts (need : Nat) (lines : Nat → List Line) : Prop where
  /-- A line that does not fit is one of the narrowest form. -/
  fits : ∀ columns, ∀ line ∈ lines columns,
    width line ≤ columns ∨ line ∈ lines 0
  /-- A line of the narrowest form is laid out where it does not fit. -/
  keeps : ∀ columns, ∀ line ∈ lines 0, columns < width line →
    line ∈ lines columns
  /-- The narrowest form fits into the columns needed. -/
  needs : ∀ line ∈ lines 0, width line ≤ need
  /-- The lines hold no line ends. -/
  lineFree : ∀ columns, ∀ line ∈ lines columns, '\n' ∉ line

/-- Lines adapt if they fit once there are the columns needed, and do not
change below. -/
theorem adapts_of_width_le
    (same : ∀ columns ≤ need, lines columns = lines 0)
    (fits : ∀ columns, ∀ line ∈ lines columns,
      width line ≤ max columns need)
    (lineFree : ∀ columns, ∀ line ∈ lines columns, '\n' ∉ line) :
    Adapts need lines := by
  refine ⟨?_, ?_, ?_, lineFree⟩
  · intro columns line member
    rcases Nat.le_total columns need with few | enough
    · rw [same columns few] at member
      exact Or.inr member
    · have bound := fits columns line member
      rw [Nat.max_eq_left enough] at bound
      exact Or.inl bound
  · intro columns line member wide
    have bound := fits 0 line member
    rw [Nat.zero_max] at bound
    rwa [same columns (wide.le.trans bound)]
  · intro line member
    have bound := fits 0 line member
    rwa [Nat.zero_max] at bound

/-- Lines that always fit need no columns. -/
theorem adapts_of_fits
    (fits : ∀ columns, ∀ line ∈ lines columns, width line ≤ columns)
    (lineFree : ∀ columns, ∀ line ∈ lines columns, '\n' ∉ line) :
    Adapts 0 lines where
  fits columns line member := Or.inl (fits columns line member)
  keeps _ line member wide :=
    absurd (wide.trans_le (fits 0 line member)) (Nat.not_lt_zero _)
  needs := fits 0
  lineFree := lineFree

/-- Lines adapt if they are the lines of two layouts that adapt, and empty
ones. -/
theorem Adapts.union
    (adapts : Adapts need lines)
    (moreAdapt : Adapts other more)
    (left : ∀ columns, lines columns ⊆ whole columns)
    (right : ∀ columns, more columns ⊆ whole columns)
    (only : ∀ columns, ∀ line ∈ whole columns,
      line ∈ lines columns ∨ line ∈ more columns ∨ line = []) :
    Adapts (max need other) whole where
  fits columns line member := by
    rcases only columns line member with inFirst | inMore | rfl
    · exact (adapts.fits columns line inFirst).imp_right (@left 0 line)
    · exact (moreAdapt.fits columns line inMore).imp_right (@right 0 line)
    · rw [width_nil]
      exact Or.inl (Nat.zero_le _)
  keeps columns line member wide := by
    rcases only 0 line member with inFirst | inMore | rfl
    · exact left columns (adapts.keeps columns line inFirst wide)
    · exact right columns (moreAdapt.keeps columns line inMore wide)
    · rw [width_nil] at wide
      exact absurd wide (Nat.not_lt_zero _)
  needs line member := by
    rcases only 0 line member with inFirst | inMore | rfl
    · exact (adapts.needs line inFirst).trans (Nat.le_max_left _ _)
    · exact (moreAdapt.needs line inMore).trans (Nat.le_max_right _ _)
    · rw [width_nil]
      exact Nat.zero_le _
  lineFree columns line member := by
    rcases only columns line member with inFirst | inMore | rfl
    · exact adapts.lineFree columns line inFirst
    · exact moreAdapt.lineFree columns line inMore
    · exact List.not_mem_nil

theorem adapts_nil : Adapts 0 fun _ => [] :=
  adapts_of_fits (fun _ => List.forall_mem_nil _)
    (fun _ => List.forall_mem_nil _)

theorem Adapts.append
    (adapts : Adapts need lines)
    (moreAdapt : Adapts other more) :
    Adapts (max need other) fun columns => lines columns ++ more columns := by
  apply adapts.union moreAdapt
  · exact fun columns => List.subset_append_left _ _
  · exact fun columns => List.subset_append_right _ _
  · intro columns line member
    exact (List.mem_append.1 member).imp_right Or.inl

theorem Adapts.appendBlock
    (adapts : Adapts need lines)
    (moreAdapt : Adapts other more) :
    Adapts (max need other) fun columns =>
      appendBlock (lines columns) (more columns) := by
  apply adapts.union moreAdapt
  · intro columns line member
    have some_ : lines columns ≠ [] := List.ne_nil_of_mem member
    rw [Markdown.appendBlock, if_neg (by rwa [List.isEmpty_iff])]
    exact List.mem_append_left _ member
  · intro columns line member
    rw [Markdown.appendBlock]
    split
    · exact member
    · exact List.mem_append_right _ (List.mem_cons_of_mem _ member)
  · intro columns line member
    rw [Markdown.appendBlock] at member
    split at member
    · exact Or.inr (Or.inl member)
    · rw [List.mem_append, List.mem_cons] at member
      exact member.imp_right Or.symm

/-! ## Wrapped text -/

/-- Wrapped text needs its leads and one character. -/
theorem adapts_wrap
    (firstFree : '\n' ∉ first)
    (nextFree : '\n' ∉ next)
    (colored : Bool)
    (text : Line) :
    Adapts (max (width first + 1) (width next + 1)) fun columns =>
      carryStyles colored (wrap columns first next text) := by
  apply adapts_of_width_le
  · intro columns few
    rw [wrap_of_le few]
  · intro columns line member
    have asWide := List.mem_map_of_mem (f := width) member
    rw [map_width_carryStyles] at asWide
    obtain ⟨wrapped, among, same⟩ := List.mem_map.1 asWide
    rw [← same]
    exact width_le_of_mem_wrap among
  · intro columns line member
    exact lineFree_of_mem_carryStyles
      (fun wrapped => lineFree_of_mem_wrap firstFree nextFree) member

theorem adapts_renderParagraph (text : Line) :
    Adapts 1 fun columns => renderParagraph options columns text := by
  have adapts := adapts_wrap List.not_mem_nil List.not_mem_nil
    options.colored (renderInline options.colored text)
  rwa [width_nil] at adapts

/-! ## Lines of a sign -/

/-- A line of signs, none of which can be part of a code. -/
theorem adapts_signs
    {sign : Char}
    {count : Nat → Nat}
    (closed : isOpening sign = false)
    (fits : ∀ columns, count columns ≤ columns)
    (noLineEnd : sign ≠ '\n') :
    Adapts 0 fun columns => [List.replicate (count columns) sign] := by
  apply adapts_of_fits
  · intro columns
    rw [List.forall_mem_singleton, width_replicate closed]
    exact fits columns
  · intro columns
    rw [List.forall_mem_singleton]
    exact fun lineEnd => noLineEnd (List.eq_of_mem_replicate lineEnd).symm

theorem adapts_renderHeading (level : Nat) (title : Line) :
    Adapts 1 fun columns => renderHeading options columns level title := by
  have text := adapts_wrap List.not_mem_nil List.not_mem_nil
    options.colored
    (inStyle options.colored "1;36" (renderInline options.colored title))
  rw [width_nil] at text
  simp only [renderHeading]
  by_cases underlined : level ≤ 2
  · simp only [if_pos underlined]
    refine text.append (adapts_signs ?_ (fun columns => Nat.min_le_right _ _) ?_)
    · cases options.colored with
      | true => decide
      | false => decide
    · cases options.colored with
      | true => decide
      | false => decide
  · simp only [if_neg underlined]
    exact text

theorem adapts_horizontalRule (colored : Bool) :
    Adapts 0 fun columns => [horizontalRule colored columns] := by
  cases colored with
  | false => exact adapts_signs (by decide) Nat.le_refl (by decide)
  | true =>
      have closed : isOpening '─' = false := by decide
      apply adapts_of_fits
      · intro columns
        rw [List.forall_mem_singleton, horizontalRule, if_pos rfl,
          width_inStyle (by decide), width_replicate closed]
      · intro columns
        rw [List.forall_mem_singleton, horizontalRule, if_pos rfl]
        exact lineFree_inStyle (by decide) true
          (fun lineEnd => absurd (List.eq_of_mem_replicate lineEnd) (by decide))

/-! ## Lists -/

/-- What stands in front of the text of a list entry. -/
def ListItem.lead (item : ListItem) : Line :=
  List.replicate item.indent ' ' ++ bullet item.marker ++ [' ']

/-- The columns that a list entry needs: those of its lead, and one more for a
character. -/
def ListItem.demand (item : ListItem) : Nat :=
  item.indent + width (bullet item.marker) + 2

theorem ListItem.width_lead (item : ListItem) :
    width item.lead + 1 = item.demand := by
  have space : isOpening ' ' = false := by decide
  rw [lead, width_append_space, width_nil, (isLead_replicate _).width_append,
    width_replicate space, demand]

theorem lineFree_replicate (count : Nat) : '\n' ∉ List.replicate count ' ' :=
  fun lineEnd => absurd (List.eq_of_mem_replicate lineEnd) (by decide)

theorem ListItem.lineFree_lead
    {item : ListItem}
    (markerFree : '\n' ∉ item.marker) :
    '\n' ∉ item.lead := by
  have bulletFree : '\n' ∉ bullet item.marker := by
    rw [bullet]
    split
    · decide
    · exact markerFree
  rw [lead, List.mem_append, List.mem_append]
  exact not_or_intro
    (not_or_intro (lineFree_replicate item.indent) bulletFree) (by decide)

theorem adapts_renderItem
    {item : ListItem}
    (markerFree : '\n' ∉ item.marker) :
    Adapts item.demand fun columns => renderItem options columns item := by
  have space : isOpening ' ' = false := by decide
  have adapts := adapts_wrap (item.lineFree_lead markerFree)
    (lineFree_replicate (width item.lead)) options.colored
    (renderInline options.colored item.text)
  rwa [width_replicate space, Nat.max_self, item.width_lead] at adapts

/-- The columns that list entries need. -/
def demandOfItems : List ListItem → Nat
  | [] => 0
  | item :: rest => max item.demand (demandOfItems rest)

theorem adapts_items
    {items : List ListItem}
    (markersFree : ∀ item ∈ items, '\n' ∉ item.marker) :
    Adapts (demandOfItems items) fun columns =>
      items.flatMap (renderItem options columns) := by
  induction items with
  | nil => exact adapts_nil
  | cons item items inductionStep =>
      rw [List.forall_mem_cons] at markersFree
      exact (adapts_renderItem markersFree.1).append
        (inductionStep markersFree.2)

/-! ## Quotes -/

/-- What stands in front of the lines of a quote. -/
def bar (colored : Bool) : Line :=
  inStyle colored "2" ['│'] ++ [' ']

theorem width_bar_append (colored : Bool) (line : Line) :
    width (bar colored ++ line) = width line + 2 := by
  have sign : width ['│'] = 1 :=
    width_replicate (show isOpening '│' = false by decide) 1
  have isLead : IsLead (bar colored) := isLead_concat _
  rw [isLead.width_append, bar, width_append_space, width_nil,
    width_inStyle (by decide), sign]
  omega

/-- A quote needs two columns beside what it quotes. -/
theorem Adapts.quote
    (adapts : Adapts need lines)
    (colored : Bool) :
    Adapts (need + 2) fun columns =>
      (lines (columns - 2)).map (bar colored ++ ·) := by
  refine ⟨?_, ?_, ?_, ?_⟩
  · intro columns shown member
    obtain ⟨line, inside, rfl⟩ := List.mem_map.1 member
    by_cases few : columns < 2
    · right
      rwa [show columns - 2 = 0 - 2 by omega] at member
    · refine (adapts.fits _ line inside).imp (fun fits => ?_)
        (List.mem_map_of_mem ·)
      rw [width_bar_append]
      omega
  · intro columns shown member wide
    obtain ⟨line, inside, rfl⟩ := List.mem_map.1 member
    by_cases few : columns < 2
    · rwa [show columns - 2 = 0 - 2 by omega]
    · rw [width_bar_append] at wide
      exact List.mem_map_of_mem (adapts.keeps _ line inside (by omega))
  · rw [List.forall_mem_map]
    intro line inside
    rw [width_bar_append]
    exact Nat.add_le_add_right (adapts.needs line inside) 2
  · intro columns
    rw [List.forall_mem_map]
    intro line inside
    rw [bar, List.mem_append, List.mem_append]
    exact not_or_intro
      (not_or_intro (lineFree_inStyle (by decide) colored (by decide))
        (by decide))
      (adapts.lineFree _ line inside)

/-! ## Blocks -/

theorem adapts_renderCode
    {code : List Line}
    (onlyInserts : highlighter.OnlyInserts)
    (lineFree : ∀ line ∈ code, '\n' ∉ line)
    (language : Line) :
    Adapts leastCode fun columns =>
      renderCode highlighter options columns language code :=
  adapts_of_width_le (fun _ few => renderCode_of_le few)
    (fun _ _ => width_le_of_mem_renderCode onlyInserts lineFree)
    (fun _ _ => lineFree_of_mem_renderCode lineFree)

mutual

/-- The columns that the marks and indents of a block need, with a
character. -/
def Block.demand : Block → Nat
  | .fencedCode _ _ => leastCode
  | .indentedCode _ => leastCode
  | .heading _ _ => 1
  | .rule => 0
  | .quote blocks => demandOf blocks + 2
  | .list items => demandOfItems items
  | .paragraph _ => 1

/-- The columns that some blocks need. -/
def demandOf : List Block → Nat
  | [] => 0
  | block :: rest => max block.demand (demandOf rest)

end

mutual

theorem adapts_renderBlock
    (onlyInserts : highlighter.OnlyInserts)
    (block : Block)
    (lineFree : block.IsLineFree) :
    Adapts block.demand fun columns =>
      renderBlock highlighter options columns block := by
  cases block with
  | fencedCode information code =>
      exact adapts_renderCode onlyInserts lineFree _
  | indentedCode code => exact adapts_renderCode onlyInserts lineFree _
  | heading level title => exact adapts_renderHeading level title
  | rule => exact adapts_horizontalRule options.colored
  | quote blocks =>
      have inside :=
        adapts_renderBlocks onlyInserts adapts_nil blocks lineFree
      rw [Nat.zero_max] at inside
      exact inside.quote options.colored
  | list items => exact adapts_items lineFree
  | paragraph text => exact adapts_renderParagraph text

theorem adapts_renderBlocks
    {need : Nat}
    {lines : Nat → List Line}
    (onlyInserts : highlighter.OnlyInserts)
    (adapts : Adapts need lines)
    (blocks : List Block)
    (lineFree : AreLineFree blocks) :
    Adapts (max need (demandOf blocks)) fun columns =>
      renderBlocks highlighter options columns (lines columns) blocks := by
  cases blocks with
  | nil =>
      rw [demandOf, Nat.max_zero]
      exact adapts
  | cons block rest =>
      have shown := adapts.appendBlock
        (adapts_renderBlock onlyInserts block lineFree.1)
      rw [demandOf, ← Nat.max_assoc]
      exact adapts_renderBlocks onlyInserts shown rest lineFree.2

end

/-! ## Documents -/

/-- The narrowest form of a document. -/
def narrowest (highlighter : Highlighter) (options : Options)
    (text : List Char) : List Line :=
  renderBlocks highlighter options 0 [] (blocksOf text)

theorem adapts_renderBlocks_blocksOf
    (onlyInserts : highlighter.OnlyInserts)
    (options : Options)
    (text : List Char) :
    Adapts (demandOf (blocksOf text)) fun columns =>
      renderBlocks highlighter options columns [] (blocksOf text) := by
  have lineFree : AreLineFree (blocksOf text) :=
    areLineFree_readBlocks fun line => Text.lineFree_of_mem_lines
  rw [← Nat.zero_max (demandOf (blocksOf text))]
  exact adapts_renderBlocks onlyInserts adapts_nil (blocksOf text) lineFree

/-- A document is shown as the lines of its blocks; only empty ones at its end
may be missing. -/
theorem mem_lines_render_iff
    (onlyInserts : highlighter.OnlyInserts)
    (text : List Char)
    (some_ : line ≠ []) :
    line ∈ Text.lines (render highlighter options columns text) ↔
      line ∈ renderBlocks highlighter options (max columns leastColumns) []
        (blocksOf text) := by
  have lineFree := (adapts_renderBlocks_blocksOf onlyInserts options
    text).lineFree (max columns leastColumns)
  rw [render]
  generalize renderBlocks highlighter options (max columns leastColumns) []
    (blocksOf text) = shown at lineFree ⊢
  by_cases empty : shown = []
  · have nothing : Text.lines (Text.dropLineEnds (Text.unlines [])) = [[]] := by
      decide
    rw [empty, nothing, List.mem_singleton]
    exact iff_of_false some_ List.not_mem_nil
  · obtain ⟨count, ends⟩ := Text.exists_lines_eq (Text.unlines shown)
    have noEnd : line ∉ List.replicate count [] :=
      fun member => some_ (List.eq_of_mem_replicate member)
    have among : line ∈ Text.lines (Text.unlines shown) ↔ line ∈ shown := by
      rw [Text.lines_unlines_of_lineFree empty lineFree]
    rw [← among, ends, List.mem_append, or_iff_left noEnd]

/-- The lines that do not fit are those of the narrowest form. -/
theorem mem_lines_render_iff_mem_narrowest
    (onlyInserts : highlighter.OnlyInserts)
    (text : List Char)
    (wide : max columns leastColumns < width line) :
    line ∈ Text.lines (render highlighter options columns text) ↔
      line ∈ narrowest highlighter options text := by
  have some_ : line ≠ [] := by
    rintro rfl
    rw [width_nil] at wide
    exact absurd wide (Nat.not_lt_zero _)
  have adapts := adapts_renderBlocks_blocksOf onlyInserts options text
  rw [mem_lines_render_iff onlyInserts text some_]
  constructor
  · intro member
    exact (adapts.fits _ line member).resolve_left (Nat.not_le.2 wide)
  · intro member
    exact adapts.keeps _ line member wide

/-- A document fits into the columns, raised to the least, exactly if its
narrowest form does.  In any case no line is wider than these columns and
those that the marks and indents of its blocks need. -/
theorem render_fits_iff_narrowest_fits
    (onlyInserts : highlighter.OnlyInserts)
    (options : Options)
    (columns : Int)
    (text : List Char) :
    ((∀ line ∈ Text.lines (render highlighter options columns.toNat text),
        (width line : Int) ≤ max columns leastColumns) ↔
      ∀ line ∈ narrowest highlighter options text,
        (width line : Int) ≤ max columns leastColumns) ∧
    ∀ line ∈ Text.lines (render highlighter options columns.toNat text),
      (width line : Int) ≤
        max (max columns leastColumns) (demandOf (blocksOf text)) := by
  have wide_iff (line : Line) :
      ¬ (width line : Int) ≤ max columns leastColumns ↔
        max columns.toNat leastColumns < width line := by
    omega
  have needs := (adapts_renderBlocks_blocksOf onlyInserts options text).needs
  refine ⟨⟨?_, ?_⟩, ?_⟩
  · intro fits line member
    by_contra wide
    exact wide (fits line ((mem_lines_render_iff_mem_narrowest onlyInserts text
      ((wide_iff line).1 wide)).2 member))
  · intro fits line member
    by_contra wide
    exact wide (fits line ((mem_lines_render_iff_mem_narrowest onlyInserts text
      ((wide_iff line).1 wide)).1 member))
  · intro line member
    by_cases fits : (width line : Int) ≤ max columns leastColumns
    · omega
    · have narrow := needs line ((mem_lines_render_iff_mem_narrowest
        onlyInserts text ((wide_iff line).1 fits)).1 member)
      omega

/-- Code in a quote in three others. -/
def deepCode : List Char := ">>>>     x".toList

/-- Documents without colours. -/
def plain : Options := ⟨false, "rust"⟩

/-- Four bars, the indent and a character take eleven columns. -/
theorem render_fits_iff_narrowest_fits_deepCode :
    Highlighter.standard.OnlyInserts ∧
      ((∀ line ∈ Text.lines
          (render Highlighter.standard plain (11 : Int).toNat deepCode),
          (width line : Int) ≤ max 11 leastColumns) ↔
        ∀ line ∈ narrowest Highlighter.standard plain deepCode,
          (width line : Int) ≤ max 11 leastColumns) ∧
      ∀ line ∈ Text.lines
        (render Highlighter.standard plain (11 : Int).toNat deepCode),
        (width line : Int) ≤ 11 := by
  have result := render_fits_iff_narrowest_fits
    Highlighter.onlyInserts_standard plain 11 deepCode
  have demand : demandOf (blocksOf deepCode) = 11 := by decide +kernel
  refine ⟨Highlighter.onlyInserts_standard, result.1, ?_⟩
  intro line member
  have bound := result.2 line member
  rw [demand, leastColumns] at bound
  omega

/-- Ten columns are too few for it. -/
theorem not_always_render_fits :
    ¬ ∀ (highlighter : Highlighter) (options : Options) (columns : Int)
        (text : List Char),
      highlighter.OnlyInserts →
        ∀ line ∈ Text.lines (render highlighter options columns.toNat text),
          (width line : Int) ≤ max columns leastColumns := by
  intro always
  have shown :
      render Highlighter.standard plain (10 : Int).toNat deepCode =
        "│ │ │ │   x".toList := by
    decide +kernel
  have wide : width "│ │ │ │   x".toList = 11 := by decide +kernel
  have fits := always Highlighter.standard plain 10 deepCode
    Highlighter.onlyInserts_standard "│ │ │ │   x".toList
    (by rw [shown]; decide)
  rw [wide, leastColumns] at fits
  omega

end CrateShelf.Markdown
