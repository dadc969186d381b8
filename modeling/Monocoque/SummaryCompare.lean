import Monocoque.Summary
/-!
# SummaryCompare — which benchmark each comparison pairs with which

`generate_summary` pairs a benchmark whose name contains `monocoque` with the key
`name.replace('monocoque', 'zmq_rs').replace('_monocoque_', '_zmq_rs_')`.  The first replacement already
leaves no `monocoque` behind (`monocoque_not_in_counterpart`): `monocoque` cannot overlap itself across
an inserted `zmq_rs`, and `zmq_rs` starts with a character `monocoque` does not continue with.  So the
second replacement finds nothing to replace (`counterpartName_eq`), and every entry of `comparisons`
pairs a `monocoque` benchmark with a different key, one that is not a `monocoque` benchmark, with the
ratio of their means (`comparisons_pair`).
-/
namespace Monocoque
namespace Analyze

open Py

/-- The first substitution, `name.replace('monocoque', 'zmq_rs')`. -/
def zmqName (name : String) : String := replace name "monocoque" "zmq_rs"

theorem monocoque_not_infix_zmqName (name : String) : ¬ "monocoque".data <:+: (zmqName name).data :=
  have hz : "zmq_rs".data = 'z' :: "mq_rs".data := rfl
  by rw [zmqName, replace, hz]; exact not_infix_replaceChars (by decide) (by decide) (by decide) _

/-- **The second substitution changes nothing**: `_monocoque_` contains `monocoque`, which is gone. -/
theorem counterpartName_eq (name : String) : counterpartName name = zmqName name := by
  have hin : "monocoque".data <:+: "_monocoque_".data := ⟨['_'], ['_'], rfl⟩
  rw [counterpartName, ← zmqName, replace,
    replaceChars_of_not_infix (by decide) _ fun h => monocoque_not_infix_zmqName name (hin.trans h)]

theorem comparison_eq_ok {results : Results} {nd : String × BenchRecord} {o : List (String × ℚ)}
    (h : comparison results nd = .ok o) :
    ∀ p ∈ o, p.1 = nd.1 ∧ contains nd.1 "monocoque" = true ∧
      ∃ z, results.get? (counterpartName nd.1) = some z ∧ p.2 = z.mean / nd.2.mean := by
  unfold comparison at h
  split at h
  · rename_i hin
    split at h
    · rename_i z hz
      obtain ⟨q, hq, ho⟩ := bind_eq_ok.1 h
      cases ho
      rintro p (_ | ⟨_, ⟨⟩⟩)
      exact ⟨rfl, hin, z, hz, (pyDiv_eq_ok.1 hq).2⟩
    · cases h; simp
  · cases h; simp

/-- **Every comparison pairs a `monocoque` benchmark with a different key that is not one**, and its
speedup is the counterpart's mean over the benchmark's own. -/
theorem comparisons_pair {results : Results} {cs : List (String × ℚ)} (h : comparisons results = .ok cs) :
    ∀ p ∈ cs, contains p.1 "monocoque" = true ∧ contains (zmqName p.1) "monocoque" = false ∧
      zmqName p.1 ≠ p.1 ∧ ∃ d z, results.get? p.1 = some d ∧ results.get? (zmqName p.1) = some z ∧
        p.2 = z.mean / d.mean := by
  obtain ⟨hall, rfl⟩ := (emitEach_eq_ok _ _ _).1 h
  intro p hp
  obtain ⟨nd, hnd, hp⟩ := List.mem_flatMap.1 hp
  obtain ⟨o, ho⟩ := hall nd hnd
  rw [okLines_of_ok ho] at hp
  obtain ⟨hp1, hin, z, hz, hq⟩ := comparison_eq_ok ho p hp
  rw [← hp1] at hin hz
  have hout : contains (zmqName p.1) "monocoque" = false :=
    Bool.eq_false_iff.2 fun hc => monocoque_not_infix_zmqName p.1 (contains_iff.1 hc)
  refine ⟨hin, hout, fun he => ?_, nd.2, z, hp1 ▸ Dict.mem_items_iff.1 hnd, by rwa [← counterpartName_eq], hq⟩
  rw [he, hin] at hout; cases hout

/-- **The counterpart rule**: `name.replace('monocoque', 'zmq_rs')` never contains `monocoque`, so the
chained `.replace('_monocoque_', '_zmq_rs_')` leaves it as it is; and every entry of `comparisons` pairs
a key containing `monocoque` with a different key, its counterpart, which contains no `monocoque`, at
the ratio of the counterpart's mean to its own. -/
theorem monocoque_counterpart :
    (∀ name : String, contains (zmqName name) "monocoque" = false) ∧
    (∀ name : String, replace (zmqName name) "_monocoque_" "_zmq_rs_" = zmqName name) ∧
    (∀ (results : Results) (cs : List (String × ℚ)), comparisons results = .ok cs →
      ∀ p ∈ cs, contains p.1 "monocoque" = true ∧ contains (zmqName p.1) "monocoque" = false ∧
        zmqName p.1 ≠ p.1 ∧ ∃ d z, results.get? p.1 = some d ∧ results.get? (zmqName p.1) = some z ∧
          p.2 = z.mean / d.mean) :=
  ⟨fun name => Bool.eq_false_iff.2 fun hc => monocoque_not_infix_zmqName name (contains_iff.1 hc),
    fun name => (counterpartName_eq name ▸ rfl : counterpartName name = zmqName name),
    fun _ _ h => comparisons_pair h⟩

/-- A `monocoque` benchmark and its `zmq_rs` counterpart, twice as slow. -/
def pairResults : Results :=
  ⟨[("monocoque_x", ⟨1, 1, 1, {}⟩), ("zmq_rs_x", ⟨2, 2, 2, {}⟩)], by decide⟩

theorem monocoque_counterpart_pairResults :
    comparisons pairResults = .ok [("monocoque_x", 2)] ∧ zmqName "monocoque_x" ≠ "monocoque_x" ∧
      ∃ d z, pairResults.get? "monocoque_x" = some d ∧ pairResults.get? (zmqName "monocoque_x") = some z ∧
        (2 : ℚ) = z.mean / d.mean :=
  have h : comparisons pairResults = .ok [("monocoque_x", 2)] := by with_unfolding_all rfl
  ⟨h, (monocoque_counterpart.2.2 _ _ h _ (List.mem_singleton_self _)).2.2⟩

end Analyze
end Monocoque
