import RedisKeeper.Proofs.Topology.Flags

/-
How many rows of a table count for the groups.

The flags of a row are searched for the word of each group on its own.  A row with both
words counts for both groups and one with neither for none, so what the groups count
together is the number of rows up to these (`countRoles_ofText`).  A node that writes its
flags as names gives itself one of the words at most (`Record.Flagged.not_playsBoth`).
-/
namespace RedisKeeper

namespace Flag

/-- The name that is the word of a group. -/
def ofRole : Role → Flag
  | .leader => master
  | .follower => slave

/-- No name holds the word of a group but the word itself. -/
theorem contains_role_iff (role : Role) (f : Flag) :
    Text.contains role.flag.toList f.text = true ↔ f = ofRole role := by
  cases role <;> cases f <;> decide

end Flag

namespace Record

def playsBoth (r : Record) : Bool := r.plays .leader && r.plays .follower

def playsNone (r : Record) : Bool := !r.plays .leader && !r.plays .follower

/-- Whether the flags of a row are names, and not those of both groups. -/
def Flagged (r : Record) : Prop :=
  ∃ flags : List Flag, r.flags = Text.join ',' (flags.map Flag.text) ∧
    ¬ (Flag.master ∈ flags ∧ Flag.slave ∈ flags)

theorem plays_iff {r : Record} {flags : List Flag}
    (h : r.flags = Text.join ',' (flags.map Flag.text)) (role : Role) :
    r.plays role = true ↔ Flag.ofRole role ∈ flags := by
  have hcomma : ',' ∉ role.flag.toList := by cases role <;> decide
  have hne : role.flag.toList ≠ [] := by cases role <;> decide
  rw [plays, contains_flags_iff h hcomma hne]
  simp [Flag.contains_role_iff]

theorem Flagged.not_playsBoth {r : Record} (h : r.Flagged) : r.playsBoth = false := by
  obtain ⟨flags, hflags, hone⟩ := h
  rw [playsBoth, Bool.eq_false_iff, Ne, Bool.and_eq_true, plays_iff hflags, plays_iff hflags]
  exact hone

end Record

namespace Snapshot

variable (table : Snapshot)

/-- The number of rows that carry the words of both groups. -/
def countBoth : Nat := table.records.countP Record.playsBoth

/-- The number of rows that carry the word of neither group. -/
def countNone : Nat := table.records.countP Record.playsNone

theorem countRole_add_countRole :
    table.countRole .leader + table.countRole .follower + table.countNone =
      table.size + table.countBoth := by
  unfold countRole countNone size countBoth
  induction table.records with
  | nil => rfl
  | cons r rows ih =>
    simp only [List.countP_cons, List.length_cons, Record.playsNone, Record.playsBoth]
    rcases Bool.eq_false_or_eq_true (r.plays .leader) with hleader | hleader <;>
      rcases Bool.eq_false_or_eq_true (r.plays .follower) with hfollower | hfollower <;>
      simp [hleader, hfollower] <;> omega

theorem countBoth_eq_zero_iff :
    table.countBoth = 0 ↔ ∀ r ∈ table.records, r.playsBoth = false := by
  simp [countBoth, List.countP_eq_zero]

/-- Rows with the words of both groups count twice and rows with neither count for no group.  So
the groups count more than there are rows just when more rows carry both words than neither.
Where none carries both, as in the tables that nodes write, as many leaders as are wanted leave
at most the other rows to followers. -/
theorem countRoles_ofText (raw : String) :
    let table := ofText raw
    table.countRole .leader + table.countRole .follower + table.countNone =
        table.size + table.countBoth ∧
      (table.countRole .leader + table.countRole .follower ≤ table.size ↔
        table.countBoth ≤ table.countNone) ∧
      ((∀ r ∈ table.records, r.Flagged) → table.countBoth = 0) ∧
      (table.countBoth = 0 →
        table.countRole .leader + table.countRole .follower ≤ table.size ∧
          ∀ leaders, table.countRole .leader = leaders →
            table.countRole .follower ≤ table.size - leaders) := by
  intro table
  have hcount := table.countRole_add_countRole
  refine ⟨hcount, by omega, fun hflagged => ?_, fun hboth => ⟨by omega, fun leaders h => by omega⟩⟩
  exact table.countBoth_eq_zero_iff.mpr fun r hr => (hflagged r hr).not_playsBoth

/-- The table of a leader and its follower. -/
def pairText : String :=
  "a1 10.0.0.1:6379@16379 myself,master - 0 0 1 connected\nb1 10.0.0.2:6379@16379 slave,fail?\n"

theorem countRoles_pairText :
    (∀ r ∈ (ofText pairText).records, r.Flagged) ∧ (ofText pairText).countRole .leader = 1 ∧
      (ofText pairText).countRole .follower ≤ (ofText pairText).size - 1 := by
  have hflags : (ofText pairText).records.map Record.flags =
      [[Flag.myself, .master], [.slave, .suspected]].map fun flags =>
        Text.join ',' (flags.map Flag.text) := by decide +kernel
  have hone : ∀ flags ∈ [[Flag.myself, .master], [.slave, .suspected]],
      ¬ (Flag.master ∈ flags ∧ Flag.slave ∈ flags) := by decide
  have hflagged : ∀ r ∈ (ofText pairText).records, r.Flagged := by
    intro r hr
    have hmem := List.mem_map_of_mem (f := Record.flags) hr
    rw [hflags] at hmem
    obtain ⟨flags, hflags, hr⟩ := List.mem_map.mp hmem
    exact ⟨flags, hr.symm, hone flags hflags⟩
  have hleaders : (ofText pairText).countRole .leader = 1 := by decide +kernel
  obtain ⟨-, -, hboth, hfew⟩ := countRoles_ofText pairText
  exact ⟨hflagged, hleaders, (hfew (hboth hflagged)).2 1 hleaders⟩

/-- The table of one node that says to be both a leader and a follower. -/
def doubleTable : Snapshot := .ofText "a1 10.0.0.1:6379@16379 master,slave - 0 0 1 connected\n"

/-- Its only row counts for both groups. -/
theorem countRoles_doubleTable :
    doubleTable.size = 1 ∧ doubleTable.countRole .leader = 1 ∧
      doubleTable.countRole .follower = 1 ∧
      ¬ doubleTable.countRole .leader + doubleTable.countRole .follower ≤ doubleTable.size := by
  decide

end Snapshot
end RedisKeeper
