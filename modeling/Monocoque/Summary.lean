import Monocoque.Criterion
import Monocoque.PyStr
import Monocoque.PyFloat
/-!
# Summary — `format_throughput` and `generate_summary`

`generate_summary` appends lines to one list `output` and joins them with newlines.  Here each part of
it returns the lines it appends, and a Python exception is the `error` side of `Except`: the only one
the function can raise on a parsed dictionary is `ZeroDivisionError`, from a float division by zero
(`pyDiv`).  A `for` loop whose body appends and may raise is `emitEach`; `emitEach_eq_ok` says once what
a loop that returns appended.

The parts, in output order: the title and the `Generated:` line (the working directory is an input), the
category sections (`categorySections`), the highlights heading, the pipelined highlights
(`pipelinedLines`) and the comparison with rust-zmq (`comparisonLines`).
-/
namespace Monocoque
namespace Analyze

open Py

/-! ## Formatting -/

/-- The nearest integer, ties to the even one, as `format` rounds. -/
def roundHalfEven (x : ℚ) : ℤ :=
  let f := x.num / x.den
  if x - f < 1 / 2 then f else if 1 / 2 < x - f then f + 1 else if f % 2 = 0 then f else f + 1

/-- `f"{x:.2f}"` of the exact value; a negative value keeps its sign even when it rounds to zero.  Python
formats the binary64 value nearest to `x`, so within a rounding step of a hundredth tie the last digit
can differ. -/
def fixed2 (x : ℚ) : String :=
  let n := (roundHalfEven (|x| * 100)).toNat
  (if x < 0 then "-" else "") ++ toString (n / 100) ++ "." ++ (if n % 100 < 10 then "0" else "") ++
    toString (n % 100)

/-- `format_throughput(value, unit)`: any unit other than `'bytes'` is counted in messages. -/
def formatThroughput (value : ℚ) (unit : String) : String :=
  if unit = "bytes" then
    if value ≥ 1000000000 then fixed2 (value / 1000000000) ++ " GiB/s"
    else if value ≥ 1000000 then fixed2 (value / 1000000) ++ " MiB/s"
    else fixed2 (value / 1000) ++ " KiB/s"
  else
    if value ≥ 1000000 then fixed2 (value / 1000000) ++ "M msg/s"
    else if value ≥ 1000 then fixed2 (value / 1000) ++ "K msg/s"
    else fixed2 value ++ " msg/s"

/-! ## Loops that append -/

/-- A `for` loop whose body appends lines and may raise: every iteration's lines in order, or the first
exception. -/
def emitEach {α β : Type} (f : α → Except PyException (List β)) : List α → Except PyException (List β)
  | [] => pure []
  | a :: as => do
    let x ← f a
    let y ← emitEach f as
    pure (x ++ y)

/-- The lines an iteration appended, when it returned. -/
def okLines {α β : Type} (f : α → Except PyException (List β)) (a : α) : List β :=
  (f a).toOption.getD []

theorem okLines_of_ok {α β : Type} {f : α → Except PyException (List β)} {a : α} {o : List β}
    (h : f a = .ok o) : okLines f a = o := by
  simp [okLines, h, Except.toOption]

/-- **A loop returns exactly when every iteration does, with their lines in order.** -/
theorem emitEach_eq_ok {α β : Type} (f : α → Except PyException (List β)) :
    ∀ (l : List α) (out : List β),
      emitEach f l = .ok out ↔ (∀ a ∈ l, ∃ o, f a = .ok o) ∧ out = l.flatMap (okLines f)
  | [], out => by simp [emitEach, pure, Except.pure, eq_comm]
  | a :: as, out => by
    simp only [emitEach, bind_eq_ok, emitEach_eq_ok f as, List.mem_cons, forall_eq_or_imp,
      List.flatMap_cons]
    constructor
    · rintro ⟨x, hx, y, ⟨hall, rfl⟩, hout⟩
      cases hout
      exact ⟨⟨⟨x, hx⟩, hall⟩, by rw [okLines_of_ok hx]⟩
    · rintro ⟨⟨⟨x, hx⟩, hall⟩, rfl⟩
      exact ⟨x, hx, _, ⟨hall, rfl⟩, by rw [okLines_of_ok hx]; rfl⟩

theorem emitEach_ok_iff {α β : Type} (f : α → Except PyException (List β)) (l : List α) :
    (∃ out, emitEach f l = .ok out) ↔ ∀ a ∈ l, ∃ o, f a = .ok o := by
  simp only [emitEach_eq_ok]
  exact ⟨fun ⟨_, h, _⟩ => h, fun h => ⟨_, h, rfl⟩⟩

/-! ## The category sections -/

/-- `name.split('_')[0]`. -/
def category (name : String) : String := splitHead name '_'

/-- `f"\n## {category.upper()}\n"`. -/
def categoryHeader (category : String) : String := "\n## " ++ upper category ++ "\n"

/-- The mean line of a benchmark, from its record alone. -/
def meanLine (d : BenchRecord) : String :=
  "- **Mean Time**: " ++ fixed2 d.mean ++ " ms [" ++ fixed2 d.meanLower ++ ", " ++ fixed2 d.meanUpper ++ "]"

/-- `if data['throughput']`: a dictionary is true when it has a key. -/
def Throughput.truthy (tp : Throughput) : Bool := tp.perIteration.isSome || tp.unit.isSome

/-- `value / (mean / 1000)`, the rate per second, when the record's `throughput` has `per_iteration`;
both the category section and the pipelined highlights compute it. -/
def perSecond (d : BenchRecord) : Except PyException (Option ℚ) :=
  if d.throughput.truthy then
    match d.throughput.perIteration with
    | some value => some <$> pyDiv value (d.mean / 1000)
    | none => pure none
  else pure none

/-- `tp.get('unit', 'bytes')`. -/
def unitOf (d : BenchRecord) : String := d.throughput.unit.getD "bytes"

/-- The throughput line of a benchmark's section, when there is a rate. -/
def rateLines (d : BenchRecord) (rate : Option ℚ) : List String :=
  rate.toList.map fun t => "- **Throughput**: " ++ formatThroughput t (unitOf d)

/-- The lines of one benchmark in its category section. -/
def benchLines (name : String) (d : BenchRecord) : Except PyException (List String) := do
  let rate ← perSecond d
  pure (("### " ++ name) :: meanLine d :: (rateLines d rate ++ [""]))

/-- The order of `sorted(d.items())`: keys are distinct, so values are never compared. -/
def byKey {β : Type} (a b : String × β) : Bool := decide (a.1 ≤ b.1)

/-- A stable sort by a total preorder given as a decidable relation is sorted for that relation. -/
theorem pairwise_mergeSort_decide {α : Type} (r : α → α → Prop) [DecidableRel r]
    (trans : ∀ a b c, r a b → r b c → r a c) (total : ∀ a b, r a b ∨ r b a) (l : List α) :
    (l.mergeSort fun a b => decide (r a b)).Pairwise r :=
  (List.sorted_mergeSort
      (fun a b c hab hbc => decide_eq_true (trans a b c (of_decide_eq_true hab) (of_decide_eq_true hbc)))
      (fun a b => by simpa only [Bool.or_eq_true, decide_eq_true_eq] using total a b) l).imp
    of_decide_eq_true

/-- The `categories` defaultdict: the items of `sorted(results.items())` under their categories. -/
def categories (results : Results) : Dict (List (String × BenchRecord)) :=
  (results.items.mergeSort byKey).foldl
    (fun cats nd => cats.append (category nd.1) nd) Dict.empty

/-- The lines of one category: its header, then its benchmarks. -/
def categoryLines (cb : String × List (String × BenchRecord)) : Except PyException (List String) := do
  let lines ← emitEach (fun nd => benchLines nd.1 nd.2) cb.2
  pure (categoryHeader cb.1 :: lines)

/-- The loop over `sorted(categories.items())`. -/
def categorySections (results : Results) : Except PyException (List String) :=
  emitEach categoryLines ((categories results).items.mergeSort byKey)

/-! ## Highlights and the comparison with rust-zmq -/

/-- One line of the pipelined highlights. -/
def pipelinedLine (nd : String × BenchRecord) : Except PyException (List String) := do
  let rate ← perSecond nd.2
  pure (rate.toList.map (fun t => "- **" ++ nd.1 ++ "**: " ++ formatThroughput t (unitOf nd.2)))

/-- The benchmarks whose name contains `pipelined`, sorted by mean time. -/
def pipelinedLines (results : Results) : Except PyException (List String) :=
  let pipelined := results.items.filter (fun nd => contains nd.1 "pipelined")
  if pipelined.isEmpty then pure [] else do
    let lines ← emitEach pipelinedLine (pipelined.mergeSort (fun a b => decide (a.2.mean ≤ b.2.mean)))
    pure ("### Pipelined Throughput (with Batching API)" :: lines ++ [""])

/-- `name.replace('monocoque', 'zmq_rs').replace('_monocoque_', '_zmq_rs_')`. -/
def counterpartName (name : String) : String :=
  replace (replace name "monocoque" "zmq_rs") "_monocoque_" "_zmq_rs_"

/-- One iteration of the loop that builds `comparisons`. -/
def comparison (results : Results) (nd : String × BenchRecord) :
    Except PyException (List (String × ℚ)) :=
  if contains nd.1 "monocoque" then
    match results.get? (counterpartName nd.1) with
    | some base => do
      let speedup ← pyDiv base.mean nd.2.mean
      pure [(nd.1, speedup)]
    | none => pure []
  else pure []

/-- The `comparisons` list, in the order of `results.items()`. -/
def comparisons (results : Results) : Except PyException (List (String × ℚ)) :=
  emitEach (comparison results) results.items

/-- One line of the comparison section. -/
def comparisonLine (c : String × ℚ) : Except PyException (List String) :=
  if c.2 > 1 then pure ["- **" ++ c.1 ++ "**: " ++ fixed2 c.2 ++ "x faster"]
  else do
    let inverse ← pyDiv 1 c.2
    pure ["- **" ++ c.1 ++ "**: " ++ fixed2 inverse ++ "x slower"]

/-- The comparison section: `sorted(comparisons, key=speedup, reverse=True)`, a stable sort. -/
def comparisonLines (results : Results) : Except PyException (List String) := do
  let cs ← comparisons results
  if cs.isEmpty then pure [] else do
    let lines ← emitEach comparisonLine (cs.mergeSort (fun a b => decide (b.2 ≤ a.2)))
    pure ("### Monocoque vs rust-zmq Comparison" :: lines ++ [""])

/-! ## The whole report -/

def summaryTitle : String := "# Monocoque Benchmark Results Summary\n"

def highlightsHeading : String := "\n## 🚀 Performance Highlights\n"

/-- The list `output` of `generate_summary`; `cwd` is `Path.cwd()`. -/
def generateSummaryLines (cwd : String) (results : Results) : Except PyException (List String) := do
  let sections ← categorySections results
  let pipelined ← pipelinedLines results
  let compared ← comparisonLines results
  pure ([summaryTitle, "Generated: " ++ cwd ++ "\n"] ++ sections ++ [highlightsHeading] ++ pipelined ++
    compared)

/-- `generate_summary(results)`: `'\n'.join(output)`. -/
def generateSummary (cwd : String) (results : Results) : Except PyException String :=
  String.intercalate "\n" <$> generateSummaryLines cwd results

end Analyze
end Monocoque
