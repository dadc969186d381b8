import Mathlib.Data.List.Nodup
/-!
# PyDict — a `dict` with `str` keys, in insertion order

`Dict β` is the item list Python iterates, `(key, value)` pairs in insertion order, and it carries the
invariant that makes it a dictionary: no key twice.  `d.get(k)` is core `List.lookup` on the items.
Assignment `d[k] = v` (`set`) keeps a present key where it stood and puts a new one last, which is also
what `defaultdict(list)`'s `d[k].append(x)` (`append`) does to the key order.

Everything later reads a dictionary through `get?`, `keys` and `items`; `mem_items_iff` ties the first
and the last together, and `get?_set` says what one assignment changes.
-/
namespace Monocoque
namespace Py

/-- A Python `dict` with `str` keys: its items in iteration (insertion) order, no key twice. -/
structure Dict (β : Type) where
  items : List (String × β)
  nodup : (items.map Prod.fst).Nodup

namespace Dict

variable {β γ : Type}

/-- `{}`. -/
def empty : Dict β := ⟨[], List.nodup_nil⟩

/-- `list(d)`: the keys in iteration order. -/
def keys (d : Dict β) : List String := d.items.map Prod.fst

/-- `d.get(k)`. -/
def get? (d : Dict β) (k : String) : Option β := d.items.lookup k

/-- `k in d`. -/
def contains (d : Dict β) (k : String) : Bool := d.keys.contains k

/-- `d[k] = v`: a present key keeps its place and takes the new value, a new key goes last. -/
def set (d : Dict β) (k : String) (v : β) : Dict β :=
  if h : k ∈ d.keys then
    ⟨d.items.map (fun kv => if kv.1 = k then (k, v) else kv), by
      rw [List.map_map]
      convert d.nodup using 2
      funext kv; by_cases hk : kv.1 = k <;> simp [hk]⟩
  else
    ⟨d.items ++ [(k, v)], by
      rw [List.map_append, List.nodup_append]
      exact ⟨d.nodup, by simp, by simpa [keys] using h⟩⟩

/-- `d[k].append(x)` on a `defaultdict(list)`: a missing key starts from `[]`. -/
def append (d : Dict (List γ)) (k : String) (x : γ) : Dict (List γ) :=
  d.set k ((d.get? k).getD [] ++ [x])

theorem lookup_cons_of_ne {k k' : String} {w : β} {l : List (String × β)} (h : k ≠ k') :
    ((k', w) :: l).lookup k = l.lookup k := by
  simp [List.lookup_cons, beq_eq_false_iff_ne.2 h]

theorem lookup_of_mem {k : String} {v : β} :
    ∀ {l : List (String × β)}, (l.map Prod.fst).Nodup → (k, v) ∈ l → l.lookup k = some v
  | (k', v') :: l, hnd, hm => by
    rw [List.map_cons, List.nodup_cons] at hnd
    rcases List.mem_cons.1 hm with h | h
    · cases h; exact List.lookup_cons_self
    · have hk : k ≠ k' := by rintro rfl; exact hnd.1 (List.mem_map.2 ⟨_, h, rfl⟩)
      rw [lookup_cons_of_ne hk, lookup_of_mem hnd.2 h]

/-- The value stored under a key after `d[k] = v` overwrote a present key. -/
theorem lookup_map_set (k : String) (v : β) (k' : String) : ∀ l : List (String × β),
    (l.map (fun kv => if kv.1 = k then (k, v) else kv)).lookup k' =
      (l.lookup k').map (fun w => if k' = k then v else w)
  | [] => rfl
  | (k'', w) :: l => by
    by_cases h' : k' = k''
    · subst h'; by_cases h : k' = k <;> simp [h]
    · have ih := lookup_map_set k v k' l
      by_cases h : k'' = k
      · subst h; simp only [List.map_cons, if_true]; rw [lookup_cons_of_ne h', lookup_cons_of_ne h', ih]
      · simp only [List.map_cons, if_neg h]; rw [lookup_cons_of_ne h', lookup_cons_of_ne h', ih]

/-- **An item is exactly a successful lookup**, since no key repeats. -/
theorem mem_items_iff {d : Dict β} {k : String} {v : β} : (k, v) ∈ d.items ↔ d.get? k = some v := by
  refine ⟨lookup_of_mem d.nodup, fun h => ?_⟩
  obtain ⟨l₁, l₂, hl, -⟩ := List.lookup_eq_some_iff.1 h
  rw [hl]; exact List.mem_append_right _ (List.mem_cons_self _ _)

theorem get?_eq_none {d : Dict β} {k : String} : d.get? k = none ↔ k ∉ d.keys := by
  simp only [get?, keys, List.lookup_eq_none_iff, bne_iff_ne, List.mem_map, not_exists, not_and]
  exact forall₂_congr fun _ _ => ne_comm

theorem contains_iff {d : Dict β} {k : String} : d.contains k = true ↔ k ∈ d.keys := by
  simp [contains]

/-- **What one assignment changes**: the assigned key's value, nothing else. -/
@[simp] theorem get?_set (d : Dict β) (k : String) (v : β) (k' : String) :
    (d.set k v).get? k' = if k' = k then some v else d.get? k' := by
  unfold set get?
  split
  · rename_i hk
    rw [lookup_map_set]
    split
    · subst k'
      obtain ⟨w, hw⟩ := Option.ne_none_iff_exists'.1 (fun h => get?_eq_none.1 h hk)
      rw [show d.items.lookup k = some w from hw]; rfl
    · cases d.items.lookup k' <;> simp_all
  · rename_i hk
    rw [List.lookup_append]
    split
    · subst k'; simp [show d.items.lookup k = none from get?_eq_none.2 hk]
    · rename_i hne; simp [lookup_cons_of_ne hne]

theorem set_items_of_not_mem {d : Dict β} {k : String} (v : β) (h : k ∉ d.keys) :
    (d.set k v).items = d.items ++ [(k, v)] := by
  simp [set, h]

theorem keys_set_of_not_mem {d : Dict β} {k : String} (v : β) (h : k ∉ d.keys) :
    (d.set k v).keys = d.keys ++ [k] := by
  simp [keys, set_items_of_not_mem v h]

theorem mem_keys_set (d : Dict β) (k : String) (v : β) (k' : String) :
    k' ∈ (d.set k v).keys ↔ k' = k ∨ k' ∈ d.keys := by
  rw [← not_iff_not, ← get?_eq_none, get?_set]
  by_cases h : k' = k <;> simp [h, get?_eq_none]

@[simp] theorem getD_append (d : Dict (List γ)) (k : String) (x : γ) (k' : String) :
    ((d.append k x).get? k').getD [] = if k' = k then (d.get? k).getD [] ++ [x] else (d.get? k').getD [] := by
  rw [append, get?_set]; split <;> simp

end Dict
end Py
end Monocoque
