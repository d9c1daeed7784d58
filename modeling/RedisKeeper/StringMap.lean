import RedisKeeper.Keyed

/-
Text under text keys, such as labels, annotations and node selectors.

The entries stay in key order, which is also the order in which they are
written.
-/
namespace RedisKeeper

structure StringMap where
  entries : List (String × String)
  sorted : Keyed.Sorted entries
deriving DecidableEq

namespace StringMap

def empty : StringMap := ⟨[], List.Pairwise.nil⟩

instance : Inhabited StringMap := ⟨empty⟩

def isEmpty (m : StringMap) : Bool := m.entries.isEmpty

def get? (m : StringMap) (key : String) : Option String := m.entries.lookup key

def insert (m : StringMap) (key value : String) : StringMap :=
  ⟨Keyed.place key value m.entries, Keyed.sorted_place key value m.sorted⟩

/-- Inserts the entries one after the other, so the last one under a key
stays. -/
def insertAll (m : StringMap) (entries : List (String × String)) : StringMap :=
  entries.foldl (fun acc entry => acc.insert entry.1 entry.2) m

def ofList (entries : List (String × String)) : StringMap := empty.insertAll entries

/-- Both maps together.  Where both have a key the second one's value stays. -/
def union (m other : StringMap) : StringMap := m.insertAll other.entries

@[simp] theorem get?_empty (key : String) : empty.get? key = none := rfl

@[simp] theorem get?_insert_self (m : StringMap) (key value : String) :
    (m.insert key value).get? key = some value :=
  Keyed.lookup_place_self key value m.entries

theorem get?_insert_ne (m : StringMap) {key other : String} (h : other ≠ key) (value : String) :
    (m.insert key value).get? other = m.get? other :=
  Keyed.lookup_place_ne h value m.entries

theorem get?_insertAll_of_not_mem {key : String} {entries : List (String × String)}
    (h : key ∉ entries.map Prod.fst) (m : StringMap) :
    (m.insertAll entries).get? key = m.get? key := by
  induction entries generalizing m with
  | nil => rfl
  | cons entry rest ih =>
    simp only [List.map_cons, List.mem_cons, not_or] at h
    have step : m.insertAll (entry :: rest) = (m.insert entry.1 entry.2).insertAll rest := rfl
    rw [step, ih h.2, get?_insert_ne m h.1]

end StringMap
end RedisKeeper
