import RedisKeeper.Resource.Role
import RedisKeeper.Text.Quoted

/-
One row of a cluster's table of nodes.

The fields of a row stand between single spaces.  The first is the node's id,
the second its address with ports, the third its flags and the eighth the state
of its link; a field that a short row lacks reads as empty.
-/
namespace RedisKeeper

structure Record where
  /-- All fields of the row, in order. -/
  fields : List (List Char)
deriving DecidableEq, Inhabited

namespace Record

def field (r : Record) (i : Nat) : List Char := r.fields.getD i []

def nodeId (r : Record) : List Char := r.field 0

def address (r : Record) : List Char := r.field 1

def flags (r : Record) : List Char := r.field 2

def linkState (r : Record) : List Char := r.field 7

/-- The row that a line holds.  A line whose first field is empty names no
node. -/
def read? (line : List Char) : Option Record :=
  let r : Record := ⟨Text.cut ' ' line⟩
  if r.nodeId.isEmpty then none else some r

/-- What is said of a line that names no node. -/
def missingId (line : String) : String := s!"row has no node id: {Text.quoted line}"

/-- The line that holds the row. -/
def line (r : Record) : List Char := Text.join ' ' r.fields

/-- Whether a group's word occurs in the flags. -/
def plays (r : Record) (role : Role) : Bool := Text.contains role.flag.toList r.flags

/-- Whether the flags or the link say that the node is not well. -/
def isFailing (r : Record) : Bool :=
  Text.contains "fail".toList r.flags || Text.contains "disconnect".toList r.linkState

theorem read?_eq_some {line : List Char} {r : Record} (h : read? line = some r) :
    r.fields = Text.cut ' ' line ∧ r.nodeId ≠ [] := by
  simp only [read?] at h
  split at h
  · exact absurd h (by simp)
  · rename_i hid
    obtain rfl := Option.some.inj h
    exact ⟨rfl, by simpa using hid⟩

theorem line_of_read? {line : List Char} {r : Record} (h : read? line = some r) :
    r.line = line := by
  rw [Record.line, (read?_eq_some h).1, Text.join_cut]

end Record
end RedisKeeper
