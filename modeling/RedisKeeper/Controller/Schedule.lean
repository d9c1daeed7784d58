/-
When objects are to be looked at.

An object has at most one time.  Asking for another look keeps the earlier of
the two (`timeOf?_add_self`), and other objects keep theirs
(`timeOf?_add_ne`).  Of objects that are due at the same time, the one that was
asked for last comes first.
-/
namespace RedisKeeper

/-- An object by its namespace and name.  To have no namespace is not the same as to
have the empty one. -/
structure ObjectName where
  ns : Option String
  name : String
deriving DecidableEq, Inhabited

namespace Controller

/-- Objects with the milliseconds at which they are due, the last asked for
first. -/
structure Schedule where
  entries : List (ObjectName × Nat)
deriving Inhabited

namespace Schedule

def empty : Schedule := ⟨[]⟩

/-- The time at which an object is due. -/
def timeOf? (s : Schedule) (object : ObjectName) : Option Nat := s.entries.lookup object

/-- The schedule without an object. -/
def drop (s : Schedule) (object : ObjectName) : Schedule :=
  ⟨s.entries.filter fun entry => object ≠ entry.1⟩

/-- Asks for a look at an object.  A time that is earlier stays. -/
def add (s : Schedule) (object : ObjectName) (time : Nat) : Schedule :=
  match s.timeOf? object with
  | some t => if t < time then s else ⟨(object, time) :: (s.drop object).entries⟩
  | none => ⟨(object, time) :: s.entries⟩

/-- The entry with the least time, and of several the first. -/
def soonest : List (ObjectName × Nat) → Option (ObjectName × Nat)
  | [] => none
  | entry :: rest =>
    match soonest rest with
    | some other => if other.2 < entry.2 then some other else some entry
    | none => some entry

/-- The objects whose look is not held back, with their times. -/
def free (s : Schedule) (busy : List ObjectName) : List (ObjectName × Nat) :=
  s.entries.filter fun entry => entry.1 ∉ busy

/-- The earliest of all times of objects that are not busy. -/
def earliest? (s : Schedule) (busy : List ObjectName) : Option Nat :=
  (soonest (s.free busy)).map (·.2)

/-- The object that is due and not busy, and the schedule without it. -/
def takeDue? (s : Schedule) (now : Nat) (busy : List ObjectName) :
    Option (ObjectName × Schedule) :=
  match soonest (s.free busy) with
  | some (object, time) => if time ≤ now then some (object, s.drop object) else none
  | none => none

theorem timeOf?_add_self (s : Schedule) (object : ObjectName) (time : Nat) :
    (s.add object time).timeOf? object =
      some (match s.timeOf? object with
        | some t => min t time
        | none => time) := by
  unfold add
  cases h : s.timeOf? object with
  | none => simp [timeOf?]
  | some t =>
    simp only
    split
    · next ht => rw [h, Nat.min_eq_left (Nat.le_of_lt ht)]
    · next ht => simp [timeOf?, Nat.min_eq_right (Nat.le_of_not_lt ht)]

theorem lookup_filter_ne {object other : ObjectName} (h : other ≠ object)
    (entries : List (ObjectName × Nat)) :
    (entries.filter fun entry => object ≠ entry.1).lookup other = entries.lookup other := by
  induction entries with
  | nil => rfl
  | cons entry rest ih =>
    obtain ⟨o, t⟩ := entry
    by_cases ho : object = o
    · subst ho
      simpa [List.lookup_cons, beq_eq_false_iff_ne.2 h] using ih
    · by_cases hx : other = o
      · subst hx
        simp [ho]
      · simpa [List.lookup_cons, ho, beq_eq_false_iff_ne.2 hx] using ih

theorem timeOf?_drop_ne (s : Schedule) {object other : ObjectName} (h : other ≠ object) :
    (s.drop object).timeOf? other = s.timeOf? other :=
  lookup_filter_ne h s.entries

theorem timeOf?_add_ne (s : Schedule) {object other : ObjectName} (h : other ≠ object)
    (time : Nat) : (s.add object time).timeOf? other = s.timeOf? other := by
  have cons (entries : List (ObjectName × Nat)) :
      (⟨(object, time) :: entries⟩ : Schedule).timeOf? other = entries.lookup other := by
    simp [timeOf?, List.lookup_cons, beq_eq_false_iff_ne.2 h]
  unfold add
  split
  · split
    · rfl
    · rw [cons]
      exact lookup_filter_ne h s.entries
  · exact cons _

end Schedule
end Controller
end RedisKeeper
