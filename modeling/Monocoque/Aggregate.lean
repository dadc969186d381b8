import Monocoque.SummaryDivide
/-!
# Aggregate — `main`: parse `target/criterion`, then write the report

`main` stops when `target/criterion` does not exist; otherwise it parses the directory with
`parse_criterion_results` and writes `generate_summary` of the result to `BENCHMARK_SUMMARY.md`.
`main_raises_of_zero_pointEstimate` says, from the directory's files alone, when `main` raises instead of
writing: when a kept benchmark with a `per_iteration` throughput has a missing or zero mean
`point_estimate`, or a kept `monocoque` benchmark or its kept `zmq_rs` counterpart has.  Such a mean is
`0.0` in the code too, so this holds of binary64 floats as well.  The bridge is `forall_mem_parse_items`:
a statement about every item of the parsed dictionary is one about every entry the loop keeps, with the
record it builds from the entry's file.
-/
namespace Monocoque
namespace Analyze

open Py

/-- The estimates file `parse_criterion_results` loads for an entry: none for a plain file, for
`report`, or for a directory with neither `base` nor `new` estimates. -/
def loadedFile (b : BenchDir) : Option Estimates :=
  if !b.isDir || b.name == "report" then none else estimatesFile b

/-- `mean.point_estimate` as `parse_criterion_results` reads it, in nanoseconds: `0` when missing. -/
def pointEstimate (data : Estimates) : ℚ := (data.mean.getD {}).pointEstimate.getD 0

/-- No division of the report on the directory has a zero divisor, read off the loaded files. -/
def DirZeroFree (dir : CriterionDir) : Prop :=
  (∀ b ∈ dir.entries, ∀ data, loadedFile b = some data →
    (data.throughput.getD {}).perIteration.isSome = true → pointEstimate data ≠ 0) ∧
  ∀ b ∈ dir.entries, ∀ data, loadedFile b = some data → contains b.name "monocoque" = true →
    ∀ b' ∈ dir.entries, ∀ data', loadedFile b' = some data' → b'.name = counterpartName b.name →
      pointEstimate data ≠ 0 ∧ pointEstimate data' ≠ 0

/-- `main()`: the text written to `target/criterion/BENCHMARK_SUMMARY.md` from the working directory
`cwd`, or `none` when `target/criterion` does not exist (`dir = none`). -/
def main (cwd : String) (dir : Option CriterionDir) : Except PyException (Option String) :=
  match dir with
  | none => pure none
  | some d => some <$> generateSummary cwd (parseCriterionResults d)

/-! ## The parsed dictionary, entry by entry -/

theorem entryItem_eq_map (b : BenchDir) :
    entryItem b = (loadedFile b).map fun data => (b.name, benchRecord data) := by
  unfold entryItem loadedFile; split <;> rfl

theorem mem_parse_items {dir : CriterionDir} {nd : String × BenchRecord} :
    nd ∈ (parseCriterionResults dir).items ↔
      ∃ b ∈ dir.entries, ∃ data, loadedFile b = some data ∧ (b.name, benchRecord data) = nd := by
  rw [parseCriterionResults, foldl_parseStep_items dir.entries Dict.empty dir.nodup (by simp [Dict.keys, Dict.empty]),
    List.mem_append, List.mem_filterMap]
  simp only [Dict.empty, List.not_mem_nil, false_or, entryItem_eq_map, Option.map_eq_some']

theorem forall_mem_parse_items {dir : CriterionDir} {P : String × BenchRecord → Prop} :
    (∀ nd ∈ (parseCriterionResults dir).items, P nd) ↔
      ∀ b ∈ dir.entries, ∀ data, loadedFile b = some data → P (b.name, benchRecord data) := by
  simp only [mem_parse_items]
  constructor
  · exact fun h b hb data hd => h _ ⟨b, hb, data, hd, rfl⟩
  · rintro h _ ⟨b, hb, data, hd, rfl⟩
    exact h b hb data hd

theorem forall_get?_parse {dir : CriterionDir} {k : String} {P : BenchRecord → Prop} :
    (∀ z, (parseCriterionResults dir).get? k = some z → P z) ↔
      ∀ b ∈ dir.entries, ∀ data, loadedFile b = some data → b.name = k → P (benchRecord data) := by
  simp only [← Dict.mem_items_iff, mem_parse_items, Prod.mk.injEq]
  constructor
  · exact fun h b hb data hd hk => h _ ⟨b, hb, data, hd, hk, rfl⟩
  · rintro h _ ⟨b, hb, data, hd, hk, rfl⟩
    exact h b hb data hd hk

theorem benchRecord_mean_ne_zero (data : Estimates) : (benchRecord data).mean ≠ 0 ↔ pointEstimate data ≠ 0 := by
  simp [benchRecord, pointEstimate]

/-- The zero-divisor condition on the parsed dictionary is the one on the directory's files. -/
theorem zeroFree_parse_iff (dir : CriterionDir) : ZeroFree (parseCriterionResults dir) ↔ DirZeroFree dir := by
  simp only [ZeroFree, DirZeroFree, forall_mem_parse_items, forall_get?_parse, benchRecord_mean_ne_zero]
  rfl

/-! ## When `main` raises -/

/-- **A missing or zero mean `point_estimate` where the report divides by it makes `main` raise**: for an
existing `target/criterion`, that of a kept benchmark with a `per_iteration` throughput, of a kept
`monocoque` benchmark whose `zmq_rs` counterpart is kept, or of that counterpart. -/
theorem main_raises_of_zero_pointEstimate (cwd : String) (dir : CriterionDir) (h : ¬ DirZeroFree dir) :
    ∃ e, main cwd (some dir) = .error e := by
  cases hg : generateSummaryLines cwd (parseCriterionResults dir) with
  | error e => exact ⟨e, by rw [main, generateSummary, hg]; rfl⟩
  | ok out => exact absurd ((zeroFree_parse_iff dir).1 (zeroFree_of_generateSummaryLines hg)) h

theorem main_raises_of_zero_pointEstimate_missingMean :
    ¬ DirZeroFree missingMeanDir ∧ ∃ e, main "/w" (some missingMeanDir) = .error e :=
  have h : ¬ DirZeroFree missingMeanDir := fun hz => hz.1 _ (List.mem_singleton_self _) _ rfl rfl rfl
  ⟨h, main_raises_of_zero_pointEstimate "/w" missingMeanDir h⟩

end Analyze
end Monocoque
