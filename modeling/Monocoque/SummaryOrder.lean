import Monocoque.Summary
import Mathlib.Data.List.Sort
import Mathlib.Data.String.Basic
/-!
# SummaryOrder — the category sections list every benchmark once, in (category, name) order

`generate_summary` walks `sorted(results.items())`, appends each item to the `categories` list of its
category (`name.split('_')[0]`), and then walks `sorted(categories.items())`.  The sections it writes
between the title and the highlights heading are therefore one block per category, categories in
ascending order, and in each block the category's benchmarks by name (`generateSummary_categoryLayout`).
Read line by line: the benchmark-name lines are the keys of `results`, each once, in the order of the pair
`(name.split('_')[0], name)`, each right after its category's header and right before its own mean line.

The grouping loop is one fold of `Dict.append`; `categories_get` says what it stores under a category:
the sorted items of that category, in order.  Strings compare by code point (`String`'s linear order).
-/
namespace Monocoque
namespace Analyze

open Py

/-! ## Sorting an item list by its keys -/

theorem mergeSort_byKey_lt {β : Type} (l : List (String × β)) (hnd : (l.map Prod.fst).Nodup) :
    (l.mergeSort byKey).Pairwise (fun a b => a.1 < b.1) := by
  have hle : (l.mergeSort byKey).Pairwise (fun a b => a.1 ≤ b.1) :=
    pairwise_mergeSort_decide (fun a b : String × β => a.1 ≤ b.1) (fun _ _ _ => le_trans)
      (fun a b => le_total a.1 b.1) l
  have hne : (l.mergeSort byKey).Pairwise (fun a b => a.1 ≠ b.1) :=
    List.pairwise_map.1 (((List.mergeSort_perm l byKey).map Prod.fst).nodup_iff.2 hnd)
  exact (hle.and hne).imp fun ⟨h₁, h₂⟩ => lt_of_le_of_ne h₁ h₂

/-! ## The grouping loop -/

/-- The items of `l` whose name has category `c`, in order. -/
def byCategory (l : List (String × BenchRecord)) (c : String) : List (String × BenchRecord) :=
  l.filter fun nd => category nd.1 = c

/-- One iteration of the grouping loop. -/
def groupStep (cats : Dict (List (String × BenchRecord))) (nd : String × BenchRecord) :
    Dict (List (String × BenchRecord)) :=
  cats.append (category nd.1) nd

theorem categories_eq (results : Results) :
    categories results = (results.items.mergeSort byKey).foldl groupStep Dict.empty := rfl

theorem foldl_groupStep_getD (c : String) : ∀ (l : List (String × BenchRecord)) d,
    ((l.foldl groupStep d).get? c).getD [] = (d.get? c).getD [] ++ byCategory l c
  | [], d => by simp [byCategory]
  | nd :: l, d => by
    rw [List.foldl_cons, foldl_groupStep_getD c l, groupStep, Dict.getD_append]
    by_cases h : category nd.1 = c
    · simp [byCategory, h, List.filter_cons]
    · simp [byCategory, h, Ne.symm h, List.filter_cons]

theorem mem_keys_foldl_groupStep (c : String) : ∀ (l : List (String × BenchRecord)) d,
    c ∈ (l.foldl groupStep d).keys ↔ c ∈ d.keys ∨ ∃ nd ∈ l, category nd.1 = c
  | [], d => by simp only [List.foldl_nil, List.not_mem_nil, false_and, exists_false, or_false]
  | nd :: l, d => by
    rw [List.foldl_cons, mem_keys_foldl_groupStep c l, groupStep, Dict.append, Dict.mem_keys_set,
      eq_comm (a := c)]
    simp only [List.mem_cons, exists_eq_or_imp]
    exact or_assoc.trans or_left_comm

/-- **What the grouping loop stores under a category**: that category's items of
`sorted(results.items())`, in order, never an empty list. -/
theorem categories_get {results : Results} {c : String} {bs : List (String × BenchRecord)}
    (h : (c, bs) ∈ (categories results).items) :
    bs = byCategory (results.items.mergeSort byKey) c ∧ bs ≠ [] := by
  have hget := Dict.mem_items_iff.1 h
  have hbs : bs = byCategory (results.items.mergeSort byKey) c := by
    have := foldl_groupStep_getD c (results.items.mergeSort byKey) Dict.empty
    rw [← categories_eq, hget] at this
    simpa [Dict.get?, Dict.empty] using this
  refine ⟨hbs, ?_⟩
  have hk : c ∈ (categories results).keys := List.mem_map_of_mem Prod.fst h
  rw [categories_eq, mem_keys_foldl_groupStep] at hk
  obtain hk | ⟨nd, hnd, hc⟩ := hk
  · simp [Dict.keys, Dict.empty] at hk
  · rw [hbs]; exact List.ne_nil_of_mem (List.mem_filter.2 ⟨hnd, by simp [hc]⟩)

theorem mem_categories_keys {results : Results} {c : String} :
    c ∈ (categories results).keys ↔ ∃ nd ∈ results.items, category nd.1 = c := by
  rw [categories_eq, mem_keys_foldl_groupStep]
  simp only [Dict.keys, Dict.empty, List.map_nil, List.not_mem_nil, false_or,
    (List.mergeSort_perm results.items byKey).mem_iff]

/-! ## Every benchmark once, in (category, name) order -/

/-- Python's order on the pairs `(name.split('_')[0], name)`. -/
def catNameLt (a b : String) : Prop := category a < category b ∨ (category a = category b ∧ a < b)

theorem flatMap_filter_perm {α : Type} (key : α → String) :
    ∀ (cs : List String) (l : List α), cs.Nodup → (∀ x ∈ l, key x ∈ cs) →
      (cs.flatMap fun c => l.filter fun x => key x = c).Perm l
  | [], l, _, hl => by
    obtain rfl : l = [] := List.eq_nil_iff_forall_not_mem.2 fun x hx => by simpa using hl x hx
    simp
  | c :: cs, l, hnd, hl => by
    rw [List.nodup_cons] at hnd
    have hrest : (cs.flatMap fun c' => l.filter fun x => key x = c') =
        cs.flatMap fun c' => (l.filter fun x => !decide (key x = c)).filter fun x => key x = c' := by
      refine List.flatMap_congr fun c' hc' => ?_
      rw [List.filter_filter]
      refine List.filter_congr fun x _ => ?_
      by_cases h : key x = c'
      · subst h; simp [show key x ≠ c from fun e => hnd.1 (e ▸ hc')]
      · simp [h]
    rw [List.flatMap_cons, hrest]
    refine ((List.Perm.refl _).append (flatMap_filter_perm key cs _ hnd.2 fun x hx => ?_)).trans
      (List.filter_append_perm _ l)
    obtain ⟨hx, hc⟩ := List.mem_filter.1 hx
    simpa [show key x ≠ c by simpa using hc] using hl x hx

section Layout

variable {results : Results}

theorem sortedCategories_mem {cb : String × List (String × BenchRecord)}
    (h : cb ∈ (categories results).items.mergeSort byKey) :
    cb.2 = byCategory (results.items.mergeSort byKey) cb.1 ∧ cb.2 ≠ [] :=
  categories_get ((List.mergeSort_perm _ _).subset h)

theorem byCategory_pairwise (c : String) :
    (byCategory (results.items.mergeSort byKey) c).Pairwise (fun a b => a.1 < b.1) :=
  (mergeSort_byKey_lt results.items results.nodup).filter _

theorem category_of_mem_byCategory {l : List (String × BenchRecord)} {c : String}
    {nd : String × BenchRecord} (h : nd ∈ byCategory l c) : category nd.1 = c := by
  simpa [byCategory] using (List.mem_filter.1 h).2

/-- The names the category sections list, read off the sorted categories. -/
def sectionNames (results : Results) : List String :=
  ((categories results).items.mergeSort byKey).flatMap fun cb =>
    (byCategory (results.items.mergeSort byKey) cb.1).map Prod.fst

/-- **Every key once.** -/
theorem sectionNames_perm : (sectionNames results).Perm results.keys := by
  have hC := (List.mergeSort_perm (categories results).items byKey).map Prod.fst
  have hS := List.mergeSort_perm results.items byKey
  have hcover : ∀ nd ∈ results.items.mergeSort byKey,
      category nd.1 ∈ ((categories results).items.mergeSort byKey).map Prod.fst := fun nd hnd =>
    hC.symm.subset (mem_categories_keys.2 ⟨nd, hS.subset hnd, rfl⟩)
  have h := ((flatMap_filter_perm (fun nd => category nd.1) _ _ (hC.nodup_iff.2 (categories results).nodup)
    hcover).map Prod.fst).trans (hS.map Prod.fst)
  simpa [sectionNames, List.flatMap_map, List.map_flatMap, byCategory] using h

/-- **In (category, name) order.** -/
theorem sectionNames_sorted : (sectionNames results).Pairwise catNameLt := by
  have hcats := mergeSort_byKey_lt (categories results).items (categories results).nodup
  refine List.pairwise_flatMap.2 ⟨fun cb _ => ?_, hcats.imp fun hlt x hx y hy => ?_⟩
  · refine List.pairwise_map.2 ((byCategory_pairwise cb.1).imp_of_mem fun ha hb hlt => .inr ⟨?_, hlt⟩)
    rw [category_of_mem_byCategory ha, category_of_mem_byCategory hb]
  · obtain ⟨a, ha, rfl⟩ := List.mem_map.1 hx
    obtain ⟨b, hb, rfl⟩ := List.mem_map.1 hy
    exact .inl (by rw [category_of_mem_byCategory ha, category_of_mem_byCategory hb]; exact hlt)

end Layout

/-! ## The lines of the sections -/

/-- A line that starts with `### `, as a benchmark-name line does. -/
def isNameLine (l : String) : Bool := "### ".data.isPrefixOf l.data

theorem isNameLine_name (n : String) : isNameLine ("### " ++ n) = true := by
  simp [isNameLine, String.data_append, List.isPrefixOf_iff_prefix]

theorem head_of_isNameLine {l : String} (h : isNameLine l = true) : l.data.head? = some '#' := by
  obtain ⟨t, ht⟩ := List.isPrefixOf_iff_prefix.1 h
  rw [← ht]; rfl

theorem categoryHeader_head (c : String) : (categoryHeader c).data.head? = some '\n' := by
  simp [categoryHeader, String.data_append, List.head?_append]

/-- The lines after a benchmark's name line (its mean line, its throughput line, the blank line) are
neither name lines nor category headers. -/
theorem benchTail_plain (d : BenchRecord) (rate : Option ℚ) :
    ∀ l ∈ meanLine d :: (rateLines d rate ++ [""]), isNameLine l = false ∧ ∀ c, l ≠ categoryHeader c := by
  have hplain : ∀ l ∈ meanLine d :: (rateLines d rate ++ [""]), l.data.head? = some '-' ∨ l = "" := by
    intro l hl
    simp only [List.mem_cons, List.mem_append, List.mem_singleton, List.not_mem_nil, or_false] at hl
    rcases hl with rfl | hl | rfl
    · exact .inl rfl
    · obtain ⟨t, -, rfl⟩ := List.mem_map.1 hl
      exact .inl rfl
    · exact .inr rfl
  intro l hl
  refine ⟨Bool.eq_false_iff.2 fun hn => ?_, fun c hc => ?_⟩
  · rcases hplain l hl with h | rfl
    · rw [head_of_isNameLine hn] at h; cases h
    · cases hn
  · rcases hplain l hl with h | rfl
    · rw [hc, categoryHeader_head] at h; cases h
    · have := categoryHeader_head c; rw [← hc] at this; cases this

theorem benchLines_eq_ok {n : String} {d : BenchRecord} {x : List String} :
    benchLines n d = .ok x ↔
      ∃ rate, perSecond d = .ok rate ∧ x = ("### " ++ n) :: meanLine d :: (rateLines d rate ++ [""]) := by
  simp only [benchLines, bind_eq_ok, pure_eq_ok]
  exact exists_congr fun r => and_congr_right fun _ => eq_comm

/-- A benchmark's lines as `categoryLines` calls them. -/
def benchLine (nd : String × BenchRecord) : Except PyException (List String) := benchLines nd.1 nd.2

theorem categoryLines_eq_ok {cb : String × List (String × BenchRecord)} {o : List String}
    (h : categoryLines cb = .ok o) :
    (∀ nd ∈ cb.2, ∃ x, benchLine nd = .ok x) ∧ o = categoryHeader cb.1 :: cb.2.flatMap (okLines benchLine) := by
  obtain ⟨lines, hlines, ho⟩ := bind_eq_ok.1 h
  obtain ⟨hall, rfl⟩ := (emitEach_eq_ok _ _ _).1 hlines
  exact ⟨hall, (Except.ok.inj ho).symm⟩

/-! ## The layout -/

/-- One category block: the category, and per benchmark its name and the lines after its name line. -/
abbrev Block := String × List (String × List String)

/-- A block's lines: the category header, then each benchmark's name line and the lines after it. -/
def blockLines (b : Block) : List String :=
  categoryHeader b.1 :: b.2.flatMap fun e => ("### " ++ e.1) :: e.2

/-- The benchmark names of the blocks, in order. -/
def blockNames (blocks : List Block) : List String := blocks.flatMap fun b => b.2.map Prod.fst

/-- **The category sections as `generate_summary` lays them out.** -/
structure CategoryLayout (results : Results) (blocks : List Block) : Prop where
  categories_sorted : (blocks.map Prod.fst).Pairwise (· < ·)
  nonempty : ∀ b ∈ blocks, b.2 ≠ []
  own_category : ∀ b ∈ blocks, ∀ e ∈ b.2, category e.1 = b.1
  mean_next : ∀ b ∈ blocks, ∀ e ∈ b.2, ∃ d, results.get? e.1 = some d ∧ e.2.head? = some (meanLine d)
  plain_tail : ∀ b ∈ blocks, ∀ e ∈ b.2, ∀ l ∈ e.2, isNameLine l = false ∧ ∀ c, l ≠ categoryHeader c
  names_perm : (blockNames blocks).Perm results.keys
  names_sorted : (blockNames blocks).Pairwise catNameLt

/-- The name lines of the blocks are the names, in order. -/
theorem CategoryLayout.nameLines {results : Results} {blocks : List Block}
    (h : CategoryLayout results blocks) :
    (blocks.flatMap blockLines).filter isNameLine = (blockNames blocks).map ("### " ++ ·) := by
  rw [List.filter_flatMap, blockNames, List.map_flatMap]
  refine List.flatMap_congr fun b hb => ?_
  have hc : isNameLine (categoryHeader b.1) = false :=
    Bool.eq_false_iff.2 fun hn => by have := categoryHeader_head b.1; rw [head_of_isNameLine hn] at this; cases this
  rw [blockLines, List.filter_cons_of_neg (by simp [hc]), List.filter_flatMap, List.map_eq_flatMap,
    List.flatMap_map]
  refine List.flatMap_congr fun e he => ?_
  rw [List.filter_cons_of_pos (isNameLine_name e.1),
    List.filter_eq_nil_iff.2 fun l hl => by simp [(h.plain_tail b hb e he l hl).1]]

/-- The block of one sorted category, read off the lines its benchmarks wrote. -/
def toBlock (cb : String × List (String × BenchRecord)) : Block :=
  (cb.1, cb.2.map fun nd => (nd.1, (okLines benchLine nd).tail))

theorem okLines_benchLine {nd : String × BenchRecord} (h : ∃ x, benchLine nd = .ok x) :
    ∃ rate, okLines benchLine nd = ("### " ++ nd.1) :: meanLine nd.2 :: (rateLines nd.2 rate ++ [""]) := by
  obtain ⟨x, hx⟩ := h
  obtain ⟨rate, -, rfl⟩ := benchLines_eq_ok.1 hx
  exact ⟨rate, okLines_of_ok hx⟩

theorem categoryLines_blockLines {cb : String × List (String × BenchRecord)} {o : List String}
    (h : categoryLines cb = .ok o) : o = blockLines (toBlock cb) := by
  obtain ⟨hall, rfl⟩ := categoryLines_eq_ok h
  simp only [blockLines, toBlock, List.flatMap_map]
  congr 1
  refine List.flatMap_congr fun nd hnd => ?_
  obtain ⟨rate, hl⟩ := okLines_benchLine (hall nd hnd)
  rw [hl]; rfl

section Sections

variable {results : Results} {sections : List String}

theorem categorySections_eq_ok (h : categorySections results = .ok sections) :
    (∀ cb ∈ (categories results).items.mergeSort byKey, ∃ o, categoryLines cb = .ok o) ∧
      sections = (((categories results).items.mergeSort byKey).map toBlock).flatMap blockLines := by
  obtain ⟨hall, rfl⟩ := (emitEach_eq_ok _ _ _).1 h
  refine ⟨hall, ?_⟩
  rw [List.flatMap_map]
  refine List.flatMap_congr fun cb hcb => ?_
  obtain ⟨o, ho⟩ := hall cb hcb
  rw [okLines_of_ok ho, categoryLines_blockLines ho]

theorem blockNames_toBlock :
    blockNames (((categories results).items.mergeSort byKey).map toBlock) = sectionNames results := by
  simp only [blockNames, List.flatMap_map, toBlock, List.map_map, sectionNames]
  refine List.flatMap_congr fun cb hcb => ?_
  rw [← (sortedCategories_mem hcb).1]; rfl

/-- A statement about every entry of every block is one about every benchmark of every sorted category. -/
theorem forall_toBlock_entry {l : List (String × List (String × BenchRecord))}
    {P : Block → String × List String → Prop}
    (h : ∀ cb ∈ l, ∀ nd ∈ cb.2, P (toBlock cb) (nd.1, (okLines benchLine nd).tail)) :
    ∀ b ∈ l.map toBlock, ∀ e ∈ b.2, P b e := by
  intro b hb e he
  obtain ⟨cb, hcb, rfl⟩ := List.mem_map.1 hb
  obtain ⟨nd, hnd, rfl⟩ := List.mem_map.1 he
  exact h cb hcb nd hnd

theorem categorySections_layout (h : categorySections results = .ok sections) :
    CategoryLayout results (((categories results).items.mergeSort byKey).map toBlock) := by
  have hall := (categorySections_eq_ok h).1
  have hbench : ∀ cb ∈ (categories results).items.mergeSort byKey, ∀ nd ∈ cb.2,
      ∃ rate, okLines benchLine nd = ("### " ++ nd.1) :: meanLine nd.2 :: (rateLines nd.2 rate ++ [""]) :=
    fun cb hcb nd hnd => by
      obtain ⟨o, ho⟩ := hall cb hcb
      exact okLines_benchLine ((categoryLines_eq_ok ho).1 nd hnd)
  refine ⟨?categories_sorted, ?nonempty, forall_toBlock_entry fun cb hcb nd hnd => ?own_category,
    forall_toBlock_entry fun cb hcb nd hnd => ?mean_next, forall_toBlock_entry fun cb hcb nd hnd => ?plain_tail,
    blockNames_toBlock ▸ sectionNames_perm, blockNames_toBlock ▸ sectionNames_sorted⟩
  case categories_sorted =>
    rw [List.map_map]
    exact List.pairwise_map.2 (mergeSort_byKey_lt _ (categories results).nodup)
  case nonempty =>
    intro b hb
    obtain ⟨cb, hcb, rfl⟩ := List.mem_map.1 hb
    simpa [toBlock] using (sortedCategories_mem hcb).2
  case own_category =>
    rw [(sortedCategories_mem hcb).1] at hnd
    exact category_of_mem_byCategory hnd
  case mean_next =>
    obtain ⟨rate, hl⟩ := hbench cb hcb nd hnd
    rw [(sortedCategories_mem hcb).1] at hnd
    have hmem : nd ∈ results.items := (List.mergeSort_perm _ _).subset (List.mem_filter.1 hnd).1
    exact ⟨nd.2, Dict.mem_items_iff.1 hmem, by rw [hl]; rfl⟩
  case plain_tail =>
    intro l hl
    obtain ⟨rate, hlines⟩ := hbench cb hcb nd hnd
    rw [hlines] at hl
    exact benchTail_plain nd.2 rate l hl

end Sections

/-- **The category sections of a report**: between the title lines and the highlights heading,
`generate_summary` writes one block per category, in ascending category order, each a category header
followed by its benchmarks; each benchmark's name line is followed at once by the mean line of its
own record; the name lines are exactly the keys of `results`, each once, in `(category, name)` order. -/
theorem generateSummary_categoryLayout {cwd : String} {results : Results} {out : List String}
    (h : generateSummaryLines cwd results = .ok out) :
    ∃ (blocks : List Block) (rest : List String),
      out = summaryTitle :: ("Generated: " ++ cwd ++ "\n") ::
        (blocks.flatMap blockLines ++ highlightsHeading :: rest) ∧
      CategoryLayout results blocks ∧
      (blocks.flatMap blockLines).filter isNameLine = (blockNames blocks).map ("### " ++ ·) := by
  obtain ⟨sections, hsec, h⟩ := bind_eq_ok.1 h
  obtain ⟨pipelined, -, h⟩ := bind_eq_ok.1 h
  obtain ⟨compared, -, h⟩ := bind_eq_ok.1 h
  have hlay := categorySections_layout hsec
  refine ⟨_, pipelined ++ compared, ?_, hlay, hlay.nameLines⟩
  rw [pure_eq_ok] at h
  rw [← h, ← (categorySections_eq_ok hsec).2]
  simp

/-- Five benchmarks in four categories, listed out of order: `_lead` has the empty category, and
`a-b_x` sorts before `a_b` and `a_y` by name but its category `a-b` after their `a`. -/
def fiveBenchResults : Results :=
  ⟨[("plain", ⟨5, 5, 5, {}⟩), ("a_y", ⟨2, 2, 2, {}⟩), ("_lead", ⟨3, 3, 3, {}⟩), ("a-b_x", ⟨4, 4, 4, {}⟩),
    ("a_b", ⟨1, 1, 1, {}⟩)], by decide⟩

/-- The report on `fiveBenchResults`: the name lines come in `(category, name)` order. -/
def fiveBenchLines : List String :=
  [summaryTitle, "Generated: /w\n",
    "\n## \n", "### _lead", "- **Mean Time**: 3.00 ms [3.00, 3.00]", "",
    "\n## A\n", "### a_b", "- **Mean Time**: 1.00 ms [1.00, 1.00]", "",
      "### a_y", "- **Mean Time**: 2.00 ms [2.00, 2.00]", "",
    "\n## A-B\n", "### a-b_x", "- **Mean Time**: 4.00 ms [4.00, 4.00]", "",
    "\n## PLAIN\n", "### plain", "- **Mean Time**: 5.00 ms [5.00, 5.00]", "",
    highlightsHeading]

theorem generateSummary_categoryLayout_fiveBench :
    generateSummaryLines "/w" fiveBenchResults = .ok fiveBenchLines ∧
    ∃ (blocks : List Block) (rest : List String),
      fiveBenchLines = summaryTitle :: ("Generated: " ++ "/w" ++ "\n") ::
        (blocks.flatMap blockLines ++ highlightsHeading :: rest) ∧
      CategoryLayout fiveBenchResults blocks ∧
      (blocks.flatMap blockLines).filter isNameLine = (blockNames blocks).map ("### " ++ ·) :=
  have h : generateSummaryLines "/w" fiveBenchResults = .ok fiveBenchLines := by with_unfolding_all rfl
  ⟨h, generateSummary_categoryLayout h⟩

end Analyze
end Monocoque
