import Monocoque.PyDict
import Mathlib.Algebra.Order.Field.Rat
/-!
# Criterion — `parse_criterion_results`

The input is the directory `target/criterion` as `iterdir()` lists it: one entry per benchmark, with
the `estimates.json` of its `base` snapshot and of its `new` snapshot when they exist, already loaded
into the fields the script reads, every one optional.  Numbers are exact rationals here, so the division
by `1e6` is not rounded to a binary64 value (see `PyFloat`).  The comment before the fallback says
`new.json`; the code reads `new/estimates.json`, and that is what `estimatesFile` models.

`parse_criterion_results` keeps the directories other than `report` that have an estimates file,
preferring `base`, and stores for each the mean and its confidence bounds in milliseconds (a missing
field reads as `0`) and the `throughput` object as it is.  `parseCriterionResults_items` gives the whole
result: since directory names are distinct, every assignment adds a new key, so the dictionary is the
qualifying entries in listing order.
-/
namespace Monocoque
namespace Analyze

open Py

/-- `mean.confidence_interval` of an `estimates.json`. -/
structure ConfidenceInterval where
  lowerBound : Option ℚ := none
  upperBound : Option ℚ := none

/-- `mean` of an `estimates.json`, in nanoseconds. -/
structure MeanEstimate where
  pointEstimate : Option ℚ := none
  confidenceInterval : Option ConfidenceInterval := none

/-- The `throughput` object, kept whole in the record; no other key of it is read. -/
structure Throughput where
  perIteration : Option ℚ := none
  unit : Option String := none

/-- A loaded `estimates.json`, each field possibly absent. -/
structure Estimates where
  mean : Option MeanEstimate := none
  throughput : Option Throughput := none

/-- One entry of `criterion_dir.iterdir()`. -/
structure BenchDir where
  name : String
  isDir : Bool
  /-- `base/estimates.json`, when it exists. -/
  base : Option Estimates
  /-- `new/estimates.json`, when it exists. -/
  new : Option Estimates

/-- `target/criterion`: its entries in listing order; a directory never lists a name twice. -/
structure CriterionDir where
  entries : List BenchDir
  nodup : (entries.map (·.name)).Nodup

/-- What `parse_criterion_results` stores per benchmark; times in milliseconds. -/
structure BenchRecord where
  mean : ℚ
  meanLower : ℚ
  meanUpper : ℚ
  throughput : Throughput

/-- The dictionary `parse_criterion_results` returns. -/
abbrev Results := Dict BenchRecord

/-- The estimates file read for a benchmark: `base`, else `new`. -/
def estimatesFile (b : BenchDir) : Option Estimates := b.base <|> b.new

/-- The record of one estimates file: `data.get('mean', {})`, each field `.get(..., 0) / 1e6`. -/
def benchRecord (data : Estimates) : BenchRecord :=
  let mean := data.mean.getD {}
  let ci := mean.confidenceInterval.getD {}
  { mean := mean.pointEstimate.getD 0 / 1000000
    meanLower := ci.lowerBound.getD 0 / 1000000
    meanUpper := ci.upperBound.getD 0 / 1000000
    throughput := data.throughput.getD {} }

/-- One iteration of the loop over `criterion_dir.iterdir()`. -/
def parseStep (results : Results) (b : BenchDir) : Results :=
  if !b.isDir || b.name == "report" then results
  else match estimatesFile b with
    | some data => results.set b.name (benchRecord data)
    | none => results

def parseCriterionResults (dir : CriterionDir) : Results :=
  dir.entries.foldl parseStep Dict.empty

/-- The item an entry contributes, if any. -/
def entryItem (b : BenchDir) : Option (String × BenchRecord) :=
  if !b.isDir || b.name == "report" then none
  else (estimatesFile b).map fun data => (b.name, benchRecord data)

theorem entryItem_fst {b : BenchDir} {p : String × BenchRecord} (h : entryItem b = some p) :
    p.1 = b.name := by
  unfold entryItem at h
  split at h
  · cases h
  · obtain ⟨_, _, rfl⟩ := Option.map_eq_some'.1 h; rfl

theorem parseStep_items (results : Results) (b : BenchDir) (hb : b.name ∉ results.keys) :
    (parseStep results b).items = results.items ++ (entryItem b).toList := by
  unfold parseStep entryItem
  split
  · simp
  · cases estimatesFile b <;> simp [Dict.set_items_of_not_mem _ hb]

theorem foldl_parseStep_items : ∀ (l : List BenchDir) (results : Results),
    (l.map (·.name)).Nodup → (∀ b ∈ l, b.name ∉ results.keys) →
      (l.foldl parseStep results).items = results.items ++ l.filterMap entryItem
  | [], _, _, _ => by simp
  | b :: l, results, hnd, hfresh => by
    rw [List.map_cons, List.nodup_cons] at hnd
    have hstep := parseStep_items results b (hfresh b (List.mem_cons_self _ _))
    rw [List.foldl_cons, foldl_parseStep_items l _ hnd.2, hstep, List.filterMap_cons]
    · cases entryItem b <;> simp
    · intro b' hb' hk
      rw [Dict.keys, hstep, List.map_append, List.mem_append] at hk
      rcases hk with hk | hk
      · exact hfresh b' (List.mem_cons_of_mem _ hb') hk
      · obtain ⟨p, hp, hpk⟩ := List.mem_map.1 hk
        rw [entryItem_fst (Option.mem_toList.1 hp)] at hpk
        exact hnd.1 (hpk ▸ List.mem_map_of_mem _ hb')

/-- **The parsed dictionary is the qualifying entries in listing order**: each directory other than
`report` with an estimates file, once, under its own name. -/
theorem parseCriterionResults_items (dir : CriterionDir) :
    (parseCriterionResults dir).items = dir.entries.filterMap entryItem :=
  (foldl_parseStep_items dir.entries Dict.empty dir.nodup (by simp [Dict.keys, Dict.empty])).trans
    (List.nil_append _)

end Analyze
end Monocoque
