import RedisKeeper.Proofs.Text.Searching
import RedisKeeper.Proofs.Topology.Table
import RedisKeeper.Topology.Decision

/-
Which rows of a table count as failing.

The flags of a row are names with commas between them, but they are searched as one
text.  What holds no comma is found in them exactly if it is found in one of the names
(`Text.contains_join`).  The word that is searched for is found in three of the names
(`Flag.contains_fail_iff`): in both that tell a failure, and in `nofailover`, which tells
none.  A row that is only flagged `nofailover` thus counts as failing, and where all
other rows are there the nodes are reset because of it (`countFailing_described`).
-/
namespace RedisKeeper

/-- The flags that a node can have in a table. -/
inductive Flag where
  | myself
  | master
  | slave
  /-- The nodes agree that the node has failed. -/
  | fail
  /-- The node does not answer the one that tells the table. -/
  | suspected
  | handshake
  | noAddress
  /-- The node does not take over from its leader. -/
  | noFailover
  | none
deriving DecidableEq

namespace Flag

def text : Flag → List Char
  | myself => "myself".toList
  | master => "master".toList
  | slave => "slave".toList
  | fail => "fail".toList
  | suspected => "fail?".toList
  | handshake => "handshake".toList
  | noAddress => "noaddr".toList
  | noFailover => "nofailover".toList
  | none => "noflags".toList

theorem contains_fail_iff (f : Flag) :
    Text.contains "fail".toList f.text = true ↔ f = fail ∨ f = suspected ∨ f = noFailover := by
  cases f <;> decide

theorem comma_not_mem_text (f : Flag) : ',' ∉ f.text := by
  cases f <;> decide

theorem text_inj {f g : Flag} (h : f.text = g.text) : f = g := by
  cases f <;> cases g <;> first | rfl | exact absurd h (by decide)

end Flag

namespace Record

/-- Whether a flag is among the names in the row's flags. -/
def carries (r : Record) (f : Flag) : Bool := f.text ∈ Text.cut ',' r.flags

/-- Whether the row's flags or link tell a failure. -/
def isDown (r : Record) : Bool :=
  r.carries .fail || r.carries .suspected || r.linkState = "disconnected".toList

/-- A row whose flags and link are as a node writes them. -/
structure Described (r : Record) : Prop where
  flags : ∃ flags : List Flag, r.flags = Text.join ',' (flags.map Flag.text)
  link : r.linkState = "connected".toList ∨ r.linkState = "disconnected".toList

theorem carries_iff {r : Record} {flags : List Flag}
    (h : r.flags = Text.join ',' (flags.map Flag.text)) (f : Flag) :
    r.carries f = true ↔ f ∈ flags := by
  rw [carries, decide_eq_true_iff, h]
  cases flags with
  | nil => cases f <;> decide
  | cons g flags =>
    have hcut : Text.cut ',' (Text.join ',' ((g :: flags).map Flag.text)) =
        (g :: flags).map Flag.text := by
      refine Text.cut_join (List.cons_ne_nil _ _) fun piece hpiece => ?_
      obtain ⟨flag, -, rfl⟩ := List.mem_map.mp hpiece
      exact flag.comma_not_mem_text
    rw [hcut, List.mem_map_of_injective fun _ _ => Flag.text_inj]

/-- A word is found where it is found in one of the names. -/
theorem contains_flags_iff {r : Record} {flags : List Flag}
    (h : r.flags = Text.join ',' (flags.map Flag.text)) {word : List Char} (hcomma : ',' ∉ word)
    (hne : word ≠ []) :
    Text.contains word r.flags = true ↔ ∃ f ∈ flags, Text.contains word f.text = true := by
  rw [h, Text.contains_join hcomma hne, List.any_map, List.any_eq_true]
  rfl

/-- Rows that are flagged `nofailover` count as failing like those that are down. -/
theorem Described.isFailing_iff {r : Record} (h : r.Described) :
    r.isFailing = true ↔ r.isDown = true ∨ r.carries .noFailover = true := by
  obtain ⟨flags, hflags⟩ := h.flags
  have hfail : Text.contains "fail".toList r.flags = true ↔
      r.carries .fail = true ∨ r.carries .suspected = true ∨ r.carries .noFailover = true := by
    rw [contains_flags_iff hflags (by decide) (by decide)]
    simp only [carries_iff hflags, Flag.contains_fail_iff]
    constructor
    · rintro ⟨f, hf, rfl | rfl | rfl⟩
      · exact .inl hf
      · exact .inr (.inl hf)
      · exact .inr (.inr hf)
    · rintro (hf | hf | hf)
      · exact ⟨_, hf, .inl rfl⟩
      · exact ⟨_, hf, .inr (.inl rfl)⟩
      · exact ⟨_, hf, .inr (.inr rfl)⟩
  have hlink : Text.contains "disconnect".toList r.linkState = true ↔
      r.linkState = "disconnected".toList := by
    rcases h.link with hl | hl <;> rw [hl] <;> decide
  simp only [isFailing, isDown, Bool.or_eq_true, decide_eq_true_eq, hfail, hlink]
  rw [← or_assoc, or_right_comm]

end Record

namespace Snapshot

variable {table : Snapshot}

/-- Besides the rows that are down, those count as failing that are flagged `nofailover`.
So nodes can be reset although no row is down. -/
theorem countFailing_described (h : ∀ r ∈ table.records, r.Described) :
    table.countFailing = table.records.countP Record.isDown +
        table.records.countP (fun r => r.carries .noFailover && !r.isDown) ∧
    ∀ leaders followers, decideStep leaders followers table = .failover ↔
      0 < leaders ∧ table.size = leaders + followers ∧
        ∃ r ∈ table.records, r.isDown = true ∨ r.carries .noFailover = true := by
  constructor
  · rw [countFailing, List.countP_eq_countP_filter_add _ _ Record.isDown, List.countP_filter,
      List.countP_filter]
    refine congrArg₂ (· + ·) (List.countP_congr fun r hr => ?_) (List.countP_congr fun r hr => ?_)
    · rw [Bool.and_eq_true, (h r hr).isFailing_iff]
      exact and_iff_right_of_imp .inl
    · rw [Bool.and_eq_true, Bool.and_eq_true, (h r hr).isFailing_iff, Bool.not_eq_true']
      grind
  · intro leaders followers
    rw [decideStep_eq_failover_iff, countFailing, List.countP_pos_iff]
    refine and_congr_right fun _ => and_congr_right fun _ => exists_congr fun r => ?_
    exact and_congr_right fun hr => (h r hr).isFailing_iff

/-- The rows of two followers, of which one is suspected and one is only not to take
over. -/
def mixedTable : Snapshot :=
  ⟨[["b1", "10.0.0.2:6379@16379", "slave,fail?", "a1", "0", "0", "1", "connected"],
    ["b2", "10.0.0.3:6379@16379", "slave,nofailover", "a1", "0", "0", "1", "connected"]].map
      fun fields => ⟨fields.map String.toList⟩⟩

theorem countFailing_mixedTable :
    (∀ r ∈ mixedTable.records, r.Described) ∧ mixedTable.countFailing = 1 + 1 := by
  have hdescribed : ∀ r ∈ mixedTable.records, r.Described := by
    refine List.forall_mem_cons.mpr ⟨?_, List.forall_mem_cons.mpr ⟨?_, nofun⟩⟩
    · exact ⟨⟨[.slave, .suspected], by decide⟩, .inl rfl⟩
    · exact ⟨⟨[.slave, .noFailover], by decide⟩, .inl rfl⟩
  refine ⟨hdescribed, (countFailing_described hdescribed).1.trans ?_⟩
  decide

/-- The table of a leader that is well and not to take over from any other. -/
def calmTable : Snapshot :=
  .ofText "a1 10.0.0.1:6379@16379 myself,master,nofailover - 0 0 1 connected 0-16383\n"

/-- No row of the table is down, and still its node is to be reset. -/
theorem failover_of_calmTable :
    (∀ r ∈ calmTable.records, r.Described) ∧ calmTable.records.countP Record.isDown = 0 ∧
      calmTable.countFailing = 1 ∧ decideStep 1 0 calmTable = .failover := by
  refine ⟨fun r hr => ?_, by decide, by decide, by decide⟩
  have hone : calmTable.records.map (fun r => (r.flags, r.linkState)) =
      [(Text.join ',' [Flag.text .myself, Flag.text .master, Flag.text .noFailover],
        "connected".toList)] := by decide
  have hmem := List.mem_map_of_mem (f := fun r : Record => (r.flags, r.linkState)) hr
  rw [hone, List.mem_singleton, Prod.mk.injEq] at hmem
  exact ⟨⟨[.myself, .master, .noFailover], hmem.1⟩, .inl hmem.2⟩

end Snapshot
end RedisKeeper
