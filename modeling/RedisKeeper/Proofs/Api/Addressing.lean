import RedisKeeper.Proofs.Api.Sending

/-
Which requests have an address.

A path is refused for a character of its namespace or its name alone: what else stands in
it can be part of any address (`sendable_congr`).
-/
namespace RedisKeeper
namespace Api

/-- Whether a character changes nothing about an address, wherever it stands. -/
def isPlainChar (c : Char) : Bool := isPathChar c && isQueryChar c

/-- Whether a text can be part of an address, behind a question mark or before any. -/
def scans : Bool → List Char → Bool
  | _, [] => true
  | asked, c :: cs =>
    if c = '#' then true
    else if asked then isQueryChar c && scans true cs
    else if c = '?' then scans true cs
    else isPathChar c && scans false cs

variable {asked : Bool} {cs ds part : List Char}

theorem scans_true_eq : scans true cs = (cs.takeWhile (· ≠ '#')).all isQueryChar := by
  induction cs with
  | nil => rfl
  | cons c cs ih =>
    by_cases hend : c = '#'
    · simp [scans, hend]
    · simp [scans, hend, ih]

theorem isAddress_eq_scans (path : String) : isAddress path = scans false path.toList := by
  unfold isAddress
  induction path.toList with
  | nil => rfl
  | cons c cs ih =>
    by_cases hend : c = '#'
    · simp [scans, hend]
    · by_cases hask : c = '?'
      · simp [scans, hask, scans_true_eq]
      · simpa [scans, hend, hask, Bool.and_assoc] using congrArg (isPathChar c && ·) ih

theorem scans_append_plain (hpart : part.all isPlainChar = true) :
    scans asked (part ++ cs) = scans asked cs := by
  have hmarks : isPlainChar '#' = false ∧ isPlainChar '?' = false := by decide
  induction part with
  | nil => rfl
  | cons c part ih =>
    rw [List.all_cons, Bool.and_eq_true] at hpart
    obtain ⟨hc, hpart⟩ := hpart
    have hne : c ≠ '#' ∧ c ≠ '?' := by
      constructor <;> rintro rfl <;> simp [hmarks] at hc
    rw [isPlainChar, Bool.and_eq_true] at hc
    cases asked <;> simp [scans, hne, hc, ih hpart]

/-- What can stand behind a text does not depend on the text. -/
theorem scans_append_congr (h : ∀ asked, scans asked cs = scans asked ds) (part : List Char) :
    scans asked (part ++ cs) = scans asked (part ++ ds) := by
  induction part generalizing asked with
  | nil => exact h asked
  | cons c part ih => simp only [List.cons_append, scans, ih]

/-- Whether all that a kind adds to a path can be part of any address. -/
def ResourceType.isPlain (t : ResourceType) : Bool :=
  (t.path (some "") ++ t.path none).toList.all isPlainChar

theorem isPlain_statefulSet : ResourceType.statefulSet.isPlain = true := by decide +kernel

theorem isPlain_redisSingle : ResourceType.redisSingle.isPlain = true := by decide +kernel

theorem ResourceType.path_some (t : ResourceType) (ns : String) :
    ∃ front back : List Char, (t.path (some ns)).toList = front ++ ns.toList ++ back ∧
      (t.path (some "")).toList = front ++ back := by
  refine ⟨((if t.group.isEmpty then "/api/" else "/apis/") ++ t.apiVersion ++
    "/namespaces/").toList, ("/" ++ t.plural).toList, ?_, ?_⟩ <;>
  simp [path]

theorem isAddress_path_congr {t t' : ResourceType} (ht : t.isPlain = true)
    (ht' : t'.isPlain = true) (ns : Option String) (rest : List Char) :
    scans false ((t.path ns).toList ++ rest) = scans false ((t'.path ns).toList ++ rest) := by
  rw [ResourceType.isPlain, String.toList_append, List.all_append, Bool.and_eq_true] at ht ht'
  cases ns with
  | none => rw [scans_append_plain ht.2, scans_append_plain ht'.2]
  | some ns =>
    obtain ⟨front, back, hpath, hplain⟩ := t.path_some ns
    obtain ⟨front', back', hpath', hplain'⟩ := t'.path_some ns
    rw [hplain, List.all_append, Bool.and_eq_true] at ht
    rw [hplain', List.all_append, Bool.and_eq_true] at ht'
    simp only [hpath, hpath', List.append_assoc]
    rw [scans_append_plain ht.1.1, scans_append_plain ht'.1.1]
    refine scans_append_congr (fun asked => ?_) ns.toList
    rw [scans_append_plain ht.1.2, scans_append_plain ht'.1.2]

/-- Requests about one name in one namespace can be sent or not, whatever they are about. -/
theorem sendable_congr {r r' : Request} (hr : r.resource.isPlain = true)
    (hr' : r'.resource.isPlain = true) (hns : r.ns = r'.ns) (hname : r.name = r'.name) :
    r.sendable = r'.sendable := by
  simp only [Request.sendable, isAddress_eq_scans, Request.path, hns, hname, String.toList_append]
  rw [isAddress_path_congr hr hr']

end Api
end RedisKeeper
