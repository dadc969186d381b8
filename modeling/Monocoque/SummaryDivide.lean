import Monocoque.SummaryOrder
import Monocoque.SummaryCompare
/-!
# SummaryDivide — when `generate_summary` raises

`generate_summary` divides in four places: `value / (mean / 1000)` in a category section and again in the
pipelined highlights, `zmq_time / mono_time` for a `monocoque` benchmark with a counterpart, and
`1 / speedup` when a speedup is at most 1.  None of them is guarded, and `parse_criterion_results` turns
a missing `point_estimate` into a mean of `0`.

`generateSummaryLines_raises_of_zero` says that a zero mean at any of these places makes the function
raise: a benchmark with a `per_iteration` throughput, a `monocoque` benchmark with a counterpart, or the
counterpart.  A zero mean here is `0.0` in the code as well, so this holds of binary64 floats too; the
converse does not (a tiny nonzero mean underflows).  `generateSummary_missingMean` is a directory on which
it raises.
-/
namespace Monocoque
namespace Analyze

open Py

/-- No division of the report has a zero divisor. -/
def ZeroFree (results : Results) : Prop :=
  (∀ nd ∈ results.items, nd.2.throughput.perIteration.isSome = true → nd.2.mean ≠ 0) ∧
  ∀ nd ∈ results.items, contains nd.1 "monocoque" = true →
    ∀ z, results.get? (counterpartName nd.1) = some z → nd.2.mean ≠ 0 ∧ z.mean ≠ 0

/-! ## The category sections -/

/-- A rate per second that returned had a nonzero mean to divide by. -/
theorem mean_ne_zero_of_perSecond {d : BenchRecord} {r : Option ℚ} (h : perSecond d = .ok r)
    (hp : d.throughput.perIteration.isSome = true) : d.mean ≠ 0 := by
  obtain ⟨v, hv⟩ := Option.isSome_iff_exists.1 hp
  simp only [perSecond, Throughput.truthy, hv, Option.isSome_some, Bool.true_or, if_true, map_eq_ok,
    pyDiv_eq_ok] at h
  obtain ⟨_, ⟨hne, -⟩, -⟩ := h
  exact fun h0 => hne (by rw [h0, zero_div])

/-- **Category sections that returned computed every rate per second.** -/
theorem perSecond_of_categorySections {results : Results} {sections : List String}
    (h : categorySections results = .ok sections) : ∀ nd ∈ results.items, ∃ r, perSecond nd.2 = .ok r := by
  intro nd hnd
  have hk : category nd.1 ∈ (categories results).keys := mem_categories_keys.2 ⟨nd, hnd, rfl⟩
  obtain ⟨cb, hcb, hc⟩ := List.mem_map.1 hk
  have hcb' := (List.mergeSort_perm (categories results).items byKey).symm.subset hcb
  have hin : nd ∈ cb.2 := by
    rw [(sortedCategories_mem hcb').1, hc]
    exact List.mem_filter.2 ⟨(List.mergeSort_perm _ _).symm.subset hnd, by simp⟩
  obtain ⟨o, ho⟩ := ((emitEach_eq_ok _ _ _).1 h).1 cb hcb'
  obtain ⟨x, hx⟩ := (categoryLines_eq_ok ho).1 nd hin
  obtain ⟨r, hr, -⟩ := benchLines_eq_ok.1 hx
  exact ⟨r, hr⟩

/-! ## The comparison with rust-zmq -/

/-- A comparison that returned for a benchmark with a counterpart divided by a nonzero mean. -/
theorem mean_ne_zero_of_comparison {results : Results} {nd : String × BenchRecord} {o : List (String × ℚ)}
    {z : BenchRecord} (h : comparison results nd = .ok o) (hin : contains nd.1 "monocoque" = true)
    (hz : results.get? (counterpartName nd.1) = some z) : nd.2.mean ≠ 0 := by
  simp only [comparison, hin, if_true, hz, bind_eq_ok, pyDiv_eq_ok] at h
  exact h.choose_spec.1.1

theorem comparison_of_counterpart {results : Results} {nd : String × BenchRecord} {z : BenchRecord}
    (hin : contains nd.1 "monocoque" = true) (hz : results.get? (counterpartName nd.1) = some z)
    (hne : nd.2.mean ≠ 0) : comparison results nd = .ok [(nd.1, z.mean / nd.2.mean)] := by
  simp [comparison, hin, hz, pyDiv, hne]

/-- A comparison line that returned had a nonzero speedup: `1 / speedup` runs when it is at most 1. -/
theorem speedup_ne_zero_of_comparisonLine {c : String × ℚ} {o : List String} (h : comparisonLine c = .ok o) :
    c.2 ≠ 0 := by
  unfold comparisonLine at h
  split at h
  · rename_i h1
    exact (lt_trans zero_lt_one h1).ne'
  · simp only [bind_eq_ok, pyDiv_eq_ok] at h
    exact h.choose_spec.1.1

/-- **A comparison section that returned had two nonzero means for every compared pair.** -/
theorem means_ne_zero_of_comparisonLines {results : Results} {o : List String}
    (h : comparisonLines results = .ok o) :
    ∀ nd ∈ results.items, contains nd.1 "monocoque" = true →
      ∀ z, results.get? (counterpartName nd.1) = some z → nd.2.mean ≠ 0 ∧ z.mean ≠ 0 := by
  intro nd hnd hin z hz
  obtain ⟨cs, hcs, h⟩ := bind_eq_ok.1 h
  obtain ⟨hall, rfl⟩ := (emitEach_eq_ok _ _ _).1 hcs
  obtain ⟨oc, hoc⟩ := hall nd hnd
  have hne := mean_ne_zero_of_comparison hoc hin hz
  have hmem : (nd.1, z.mean / nd.2.mean) ∈ results.items.flatMap (okLines (comparison results)) :=
    List.mem_flatMap.2 ⟨nd, hnd, by rw [okLines_of_ok (comparison_of_counterpart hin hz hne)]; simp⟩
  have hcs : (results.items.flatMap (okLines (comparison results))).isEmpty = false :=
    List.isEmpty_eq_false_iff_exists_mem.2 ⟨_, hmem⟩
  rw [hcs, if_neg Bool.false_ne_true] at h
  obtain ⟨lines, hl, -⟩ := bind_eq_ok.1 h
  obtain ⟨ol, hol⟩ := ((emitEach_eq_ok _ _ _).1 hl).1 _ ((List.mergeSort_perm _ _).symm.subset hmem)
  exact ⟨hne, fun h0 => speedup_ne_zero_of_comparisonLine hol (by simp [h0])⟩

/-! ## The whole report -/

/-- A report that returned divided by no zero. -/
theorem zeroFree_of_generateSummaryLines {cwd : String} {results : Results} {out : List String}
    (h : generateSummaryLines cwd results = .ok out) : ZeroFree results := by
  obtain ⟨sections, hs, h⟩ := bind_eq_ok.1 h
  obtain ⟨pipelined, -, h⟩ := bind_eq_ok.1 h
  obtain ⟨compared, hc, -⟩ := bind_eq_ok.1 h
  refine ⟨fun nd hnd => ?_, means_ne_zero_of_comparisonLines hc⟩
  obtain ⟨r, hr⟩ := perSecond_of_categorySections hs nd hnd
  exact mean_ne_zero_of_perSecond hr

/-- **A zero mean where the report divides by it makes `generate_summary` raise**: the mean of a
benchmark with a `per_iteration` throughput, of a `monocoque` benchmark with a counterpart, or of that
counterpart. -/
theorem generateSummaryLines_raises_of_zero {cwd : String} {results : Results} (h : ¬ ZeroFree results) :
    ∃ e, generateSummaryLines cwd results = .error e := by
  cases hg : generateSummaryLines cwd results with
  | error e => exact ⟨e, rfl⟩
  | ok out => exact absurd (zeroFree_of_generateSummaryLines hg) h

/-- One benchmark with a `per_iteration` throughput and mean `0`. -/
def zeroMeanResults : Results := ⟨[("tcp_throughput", ⟨0, 0, 0, ⟨some 1024, some "bytes"⟩⟩)], by decide⟩

theorem generateSummaryLines_raises_of_zero_tcp :
    ¬ ZeroFree zeroMeanResults ∧ ∃ e, generateSummaryLines "/w" zeroMeanResults = .error e :=
  have h : ¬ ZeroFree zeroMeanResults := fun hz => hz.1 _ (List.mem_singleton_self _) rfl rfl
  ⟨h, generateSummaryLines_raises_of_zero h⟩

/-- `target/criterion` holding one benchmark whose `base/estimates.json` gives a throughput and no mean. -/
def missingMeanDir : CriterionDir :=
  ⟨[{ name := "tcp_throughput", isDir := true,
      base := some { throughput := some { perIteration := some 1024, unit := some "bytes" } },
      new := none }], by decide⟩

/-- **A missing mean aborts the whole report**: the mean defaults to `0` and the throughput division
raises. -/
theorem generateSummary_missingMean :
    generateSummary "/w" (parseCriterionResults missingMeanDir) =
      .error (.zeroDivisionError "float division by zero") := by
  with_unfolding_all rfl

end Analyze
end Monocoque
