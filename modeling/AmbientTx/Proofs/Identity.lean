import Mathlib.Data.List.TakeWhile
import AmbientTx.Proofs.Operation

/-! # Which texts are ids

A text is blank when trimming it at both ends leaves nothing, and that is when all its characters
are white space (`Text.isBlank_iff`). So a text is an id as soon as one of its characters is not,
wherever that stands and whatever is around it.

All ways in agree on that, and on the id (`Xid.Takes`, `Xid.Refuses`); all ways out give back the
text that came in. Binding a text is binding its id, or else it unbinds.
-/

namespace AmbientTx

variable {ρ α : Type}

namespace Text

/-- What is left when the white space at the front is dropped does not begin with any. -/
theorem dropWhile_white_eq_nil {cs : List Char}
    (white : ∀ c ∈ cs.dropWhile isWhite, isWhite c = true) : cs.dropWhile isWhite = [] := by
  by_contra left
  have first := List.head_dropWhile_not isWhite left
  rw [white _ (List.head_mem left)] at first
  cases first

theorem trim_eq_nil_iff (cs : List Char) : trim cs = [] ↔ ∀ c ∈ cs, isWhite c = true := by
  unfold trim
  rw [List.reverse_eq_nil_iff, List.dropWhile_eq_nil_iff]
  constructor
  · intro back
    have front : cs.dropWhile isWhite = [] :=
      dropWhile_white_eq_nil fun c mem => back c (List.mem_reverse.2 mem)
    exact List.dropWhile_eq_nil_iff.1 front
  · intro white c mem
    have inside := (List.dropWhile_sublist isWhite).subset (List.mem_reverse.1 mem)
    exact white c inside

/-- A text is blank if all its characters are white space. -/
theorem isBlank_iff (s : String) : isBlank s = true ↔ ∀ c ∈ s.toList, isWhite c = true := by
  unfold isBlank
  rw [List.isEmpty_iff, trim_eq_nil_iff]

theorem not_isBlank_iff (s : String) :
    isBlank s = false ↔ ∃ c ∈ s.toList, isWhite c = false := by
  rw [← Bool.not_eq_true, isBlank_iff]
  simp only [not_forall, Bool.not_eq_true, exists_prop]

end Text

namespace Xid

/-! ## Ways in and out -/

/-- Every way in makes the same id of a text, and every way out gives the text back. -/
structure Takes (s : String) (x : Xid) : Prop where
  made : ofString s = .ok x
  found : ofString? s = some x
  read : ofJson? (.string s) = some x
  text : x.text = s
  written : x.toJson = .string s

/-- No way in makes an id of a text. -/
structure Refuses (s : String) : Prop where
  made : ofString s = .error .blankXid
  found : ofString? s = none
  read : ofJson? (.string s) = none

variable {s : String}

theorem takes_text (x : Xid) : Takes x.text x := by
  have found : ofString? x.text = some x := dif_pos x.not_blank
  refine ⟨?_, found, found, rfl, rfl⟩
  unfold ofString
  rw [found]

theorem refuses_of_isBlank (blank : Text.isBlank s = true) : Refuses s := by
  have found : ofString? s = none := dif_neg (by simp [blank])
  refine ⟨?_, found, found⟩
  unfold ofString
  rw [found]

/-- A text is taken if one of its characters is not white space. -/
theorem exists_takes_iff (s : String) :
    (∃ x, Takes s x) ↔ ∃ c ∈ s.toList, Text.isWhite c = false := by
  rw [← Text.not_isBlank_iff]
  constructor
  · rintro ⟨x, takes⟩
    rw [← takes.text]
    exact x.not_blank
  · intro visible
    exact ⟨⟨s, visible⟩, takes_text ⟨s, visible⟩⟩

/-- What is not taken is refused. -/
theorem refuses_iff (s : String) : Refuses s ↔ ∀ c ∈ s.toList, Text.isWhite c = true := by
  rw [← Text.isBlank_iff]
  constructor
  · intro refuses
    by_contra visible
    have takes := takes_text ⟨s, Bool.not_eq_true _ ▸ visible⟩
    have both := refuses.found.symm.trans takes.found
    cases both
  · exact refuses_of_isBlank

/-- An id has a character that is not white space. -/
theorem visible (x : Xid) : ∃ c ∈ x.text.toList, Text.isWhite c = false :=
  (Text.not_isBlank_iff x.text).1 x.not_blank

end Xid

/-! ## Binding a text -/

namespace Ambient

/-- Two actions always return the same, and leave the same world apart from what they log. -/
def Alike (x y : Action ρ α) : Prop :=
  ∀ w s, ∃ a t u, x w s = .ok ⟨.returned a, t⟩ ∧ y w s = .ok ⟨.returned a, u⟩ ∧
    { t with history := u.history } = u

/-- What reads and writes the same is alike. -/
theorem Does.alike {x y : Action ρ α} {reads : ContextConfig → Slot → α} {writes : Slot → Slot}
    {logs logs' : Slot → List Event} (hx : Does x reads writes logs)
    (hy : Does y reads writes logs') : Alike x y :=
  fun w s => ⟨_, _, _, hx w s, hy w s, rfl⟩

theorem bindText_of_takes {s : String} {x : Xid} (takes : Xid.Takes s x) :
    (bindText s : Action ρ (Option Xid)) = bind x := by
  unfold bindText
  rw [takes.found]

theorem bindText_of_refuses {s : String} (refuses : Xid.Refuses s) :
    Alike (bindText s : Action ρ (Option Xid)) unbind := by
  have does := bindText_does (ρ := ρ) s
  rw [refuses.found] at does
  exact does.alike unbind_does

end Ambient
end AmbientTx
