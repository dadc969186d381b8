import Mathlib.Data.String.Basic
/-!
# PyStr — the `str` operations `analyze_benchmarks.py` calls

A Python `str` is a sequence of code points, so every operation here works on `s.data : List Char`.
`in` is `contains`; `str.replace(old, new)` is `replace`, Python's left-to-right scan that replaces each
non-overlapping occurrence of `old` and resumes after it; `name.split('_')[0]` is `splitHead`.

The substitution facts the comparison section relies on are proved here once for any pattern:
a string with no occurrence of `old` is left unchanged (`replaceChars_of_not_infix`), and when no suffix
of `new` overlaps `old` and `new`'s first character is not in `old`'s tail, the result holds no
occurrence of `old` at all (`not_infix_replaceChars`).
-/
namespace Monocoque
namespace Py

/-! ## Occurrence -/

/-- `sub` occurs at some position of the list (`sub in s`). -/
def isInfix (sub : List Char) : List Char → Bool
  | [] => sub.isEmpty
  | c :: cs => sub.isPrefixOf (c :: cs) || isInfix sub cs

theorem isInfix_iff (sub : List Char) : ∀ s, isInfix sub s = true ↔ sub <:+: s
  | [] => by cases sub <;> simp [isInfix]
  | c :: cs => by simp [isInfix, List.infix_cons_iff, isInfix_iff sub cs]

/-- Python's `sub in s` on strings. -/
def contains (s sub : String) : Bool := isInfix sub.data s.data

theorem contains_iff {s sub : String} : contains s sub = true ↔ sub.data <:+: s.data :=
  isInfix_iff _ _

/-! ## `str.replace` -/

/-- CPython's `replace` on code points: at each position either `pat` matches, and `rep` is emitted and
the scan resumes after the match, or one character is copied.  An empty `pat` matches between every
two characters and at both ends. -/
def replaceChars (pat rep : List Char) : List Char → List Char
  | [] => if pat.isEmpty then rep else []
  | c :: cs =>
    if pat.isEmpty then rep ++ c :: replaceChars pat rep cs
    else if pat.isPrefixOf (c :: cs) then rep ++ replaceChars pat rep (cs.drop (pat.length - 1))
    else c :: replaceChars pat rep cs
termination_by s => s.length
decreasing_by all_goals simp_wf <;> omega

/-- Python's `s.replace(old, new)`. -/
def replace (s old new : String) : String := ⟨replaceChars old.data new.data s.data⟩

/-- Python's `s.split(sep)[0]`: everything before the first `sep`. -/
def splitHead (s : String) (sep : Char) : String := ⟨s.data.takeWhile (· != sep)⟩

/-- Python's `s.upper()`, on the ASCII letters `Char.toUpper` maps. -/
def upper (s : String) : String := s.toUpper

section Replace

variable {pat rep : List Char}

theorem isEmpty_eq_false (hpat : pat ≠ []) : pat.isEmpty = false := by
  cases pat <;> simp_all

theorem replaceChars_nil (hpat : pat ≠ []) : replaceChars pat rep [] = [] := by
  simp [replaceChars, isEmpty_eq_false hpat]

theorem replaceChars_match (hpat : pat ≠ []) {c : Char} {cs : List Char} (h : pat <+: c :: cs) :
    replaceChars pat rep (c :: cs) = rep ++ replaceChars pat rep (cs.drop (pat.length - 1)) := by
  rw [replaceChars, if_neg (by simp [isEmpty_eq_false hpat]),
    if_pos (List.isPrefixOf_iff_prefix.2 h)]

theorem replaceChars_copy {c : Char} {cs : List Char} (h : ¬ pat <+: c :: cs) :
    replaceChars pat rep (c :: cs) = c :: replaceChars pat rep cs := by
  have hpat : pat ≠ [] := by rintro rfl; exact h (List.nil_prefix)
  rw [replaceChars, if_neg (by simp [isEmpty_eq_false hpat]),
    if_neg (by simpa [List.isPrefixOf_iff_prefix] using h)]

/-- **A string with no occurrence of the pattern is left as it is.** -/
theorem replaceChars_of_not_infix (hpat : pat ≠ []) :
    ∀ s, ¬ pat <:+: s → replaceChars pat rep s = s
  | [], _ => replaceChars_nil hpat
  | c :: cs, h => by
    rw [replaceChars_copy (fun hp => h hp.isInfix),
      replaceChars_of_not_infix hpat cs (fun hi => h (hi.trans (List.suffix_cons c cs).isInfix))]

/-- A prefix of the output that avoids `rep`'s first character was copied from the input. -/
theorem prefix_of_prefix_replaceChars (hpat : pat ≠ []) (r : Char) (rs : List Char) :
    ∀ s t, t <+: replaceChars pat (r :: rs) s → r ∉ t → t <+: s
  | [], t, ht, _ => by rwa [replaceChars_nil hpat] at ht
  | c :: cs, t, ht, hr => by
    by_cases hp : pat <+: c :: cs
    · rw [replaceChars_match hpat hp] at ht
      rcases List.prefix_cons_iff.1 ht with rfl | ⟨t', rfl, _⟩
      · exact List.nil_prefix
      · simp at hr
    · rw [replaceChars_copy hp] at ht
      rcases List.prefix_cons_iff.1 ht with rfl | ⟨t', rfl, ht'⟩
      · exact List.nil_prefix
      · exact List.cons_prefix_cons.2
          ⟨rfl, prefix_of_prefix_replaceChars hpat r rs cs t' ht' (fun h => hr (List.mem_cons_of_mem _ h))⟩

end Replace

/-! ## Inserted text never completes an occurrence -/

/-- No nonempty suffix of `rep` lines up with the start of `pat`: neither is a prefix of the other. -/
def overlapFree (pat : List Char) : List Char → Bool
  | [] => true
  | r :: rs => !((r :: rs).isPrefixOf pat || pat.isPrefixOf (r :: rs)) && overlapFree pat rs

theorem not_infix_append_of_overlapFree {pat : List Char} :
    ∀ rep R, overlapFree pat rep = true → ¬ pat <:+: R → ¬ pat <:+: rep ++ R
  | [], _, _, hR => hR
  | r :: rs, R, h, hR => by
    simp only [overlapFree, Bool.and_eq_true, Bool.not_eq_true', Bool.or_eq_false_iff,
      List.isPrefixOf_iff_prefix.symm.not, Bool.not_eq_true] at h
    rw [List.cons_append, List.infix_cons_iff, not_or]
    refine ⟨fun hp => ?_, not_infix_append_of_overlapFree rs R h.2 hR⟩
    rcases List.prefix_or_prefix_of_prefix hp (List.prefix_append (r :: rs) R) with h' | h'
    · exact absurd (List.isPrefixOf_iff_prefix.2 h') (by simp [h.1.2])
    · exact absurd (List.isPrefixOf_iff_prefix.2 h') (by simp [h.1.1])

/-- **After `replace`, the pattern occurs nowhere**, when the replacement cannot complete an occurrence:
it overlaps no start of `pat`, and its first character is not in `pat`'s tail. -/
theorem not_infix_replaceChars {pat : List Char} {r : Char} {rs : List Char} (hpat : pat ≠ [])
    (hr : r ∉ pat.tail) (hA : overlapFree pat (r :: rs) = true) :
    ∀ s, ¬ pat <:+: replaceChars pat (r :: rs) s
  | [] => by rw [replaceChars_nil hpat, List.infix_nil]; exact hpat
  | c :: cs => by
    by_cases hp : pat <+: c :: cs
    · rw [replaceChars_match hpat hp]
      exact not_infix_append_of_overlapFree _ _ hA (not_infix_replaceChars hpat hr hA _)
    · rw [replaceChars_copy hp, List.infix_cons_iff, not_or]
      refine ⟨fun hc => hp ?_, not_infix_replaceChars hpat hr hA cs⟩
      obtain ⟨p, ps, rfl⟩ := List.exists_cons_of_ne_nil hpat
      obtain ⟨rfl, hps⟩ := List.cons_prefix_cons.1 hc
      exact List.cons_prefix_cons.2 ⟨rfl, prefix_of_prefix_replaceChars hpat r rs cs ps hps hr⟩
termination_by s => s.length
decreasing_by all_goals simp_wf <;> omega

end Py
end Monocoque
