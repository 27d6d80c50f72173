import Mathlib.Order.Bounds.Basic
import AmbientTx.Lock.Page

/-! # Pages tile an answer

The number of pages and the place where a page begins are computed in 64-bit words, by two formulas
that do not mention each other. Neither wraps, whatever the total and the page are, and they fit
together: the pages of an answer are as few as can hold it, a page begins inside the answer exactly
if it is one of them, and each record that 32-bit page numbers reach lies on exactly one page
(`Page.Tiles`). Only page zero takes the window of another page, and no valid query asks for it.
-/

namespace AmbientTx

variable {α : Type}

namespace LockQuery

/-- The places of the records that a query asks for, where the first record has place zero. -/
def window (q : LockQuery) : Set Nat :=
  Set.Ico q.offset.toNat (q.offset.toNat + q.pageSize.toNat)

/-- The largest product of two 32-bit words fits into 64 bits. -/
theorem offset_toNat (q : LockQuery) :
    q.offset.toNat = (q.pageNum.toNat - 1) * q.pageSize.toNat := by
  have before : (if q.pageNum = 0 then 0 else q.pageNum - 1).toNat = q.pageNum.toNat - 1 := by
    split
    · next zero => rw [zero]; rfl
    · next positive =>
      have first : 1 ≤ q.pageNum.toNat := by
        rw [Nat.one_le_iff_ne_zero]
        intro zero
        exact positive (UInt32.toNat_inj.1 zero)
      exact UInt32.toNat_sub_of_le q.pageNum 1 (UInt32.le_iff_toNat_le.2 first)
  have fits : (q.pageNum.toNat - 1) * q.pageSize.toNat < 2 ^ 32 * 2 ^ 32 := by
    have num := q.pageNum.toNat_lt
    exact Nat.mul_lt_mul'' (by omega) q.pageSize.toNat_lt
  unfold offset
  rw [UInt64.toNat_mul, UInt32.toNat_toUInt64, UInt32.toNat_toUInt64, before]
  exact Nat.mod_eq_of_lt fits

/-- A record is in the window of the page that its place leads to, and of no other page after
page zero. -/
theorem mem_window_iff {q : LockQuery} (holds : 1 ≤ q.pageSize) (first : 1 ≤ q.pageNum) {i : Nat} :
    i ∈ q.window ↔ q.pageNum.toNat = i / q.pageSize.toNat + 1 := by
  have size : 0 < q.pageSize.toNat := UInt32.le_iff_toNat_le.1 holds
  have num : 1 ≤ q.pageNum.toNat := UInt32.le_iff_toNat_le.1 first
  have divides : i / q.pageSize.toNat = q.pageNum.toNat - 1 ↔ i ∈ q.window := by
    rw [Nat.div_eq_iff size, window, Set.mem_Ico, offset_toNat]
    omega
  rw [← divides]
  omega

/-- Page zero has the window of the first page. -/
theorem window_zero (q : LockQuery) (size : UInt32) :
    (q.onPage 0 size).window = (q.onPage 1 size).window := by
  have zero : (q.onPage 0 size).offset.toNat = (q.onPage 1 size).offset.toNat := by
    rw [offset_toNat, offset_toNat]
    rfl
  unfold window
  rw [zero]
  rfl

/-- Two pages share a record only if they are the first page and page zero. -/
theorem windows_meet_iff (q : LockQuery) {size : UInt32} (holds : 1 ≤ size) {num num' : UInt32}
    (differ : num ≠ num') :
    (∃ i, i ∈ (q.onPage num size).window ∧ i ∈ (q.onPage num' size).window) ↔
      num = 0 ∧ num' = 1 ∨ num = 1 ∧ num' = 0 := by
  have same {n n' : UInt32} {i : Nat} (first : 1 ≤ n) (first' : 1 ≤ n')
      (mem : i ∈ (q.onPage n size).window) (mem' : i ∈ (q.onPage n' size).window) : n = n' := by
    have page := (mem_window_iff (q := q.onPage n size) holds first).1 mem
    have page' := (mem_window_iff (q := q.onPage n' size) holds first').1 mem'
    exact UInt32.toNat_inj.1 (page.trans page'.symm)
  have positive {n : UInt32} (other : n ≠ 0) : 1 ≤ n := by
    rw [UInt32.le_iff_toNat_le]
    exact Nat.one_le_iff_ne_zero.2 fun zero => other (UInt32.toNat_inj.1 zero)
  have one : (1 : UInt32) ≤ 1 := UInt32.le_iff_toNat_le.2 (Nat.le_refl 1)
  have zeroth : 0 ∈ (q.onPage 1 size).window := (mem_window_iff holds one).2 (by simp [onPage])
  constructor
  · rintro ⟨i, mem, mem'⟩
    by_cases zero : num = 0
    · subst zero
      rw [window_zero] at mem
      exact .inl ⟨rfl, same (positive (Ne.symm differ)) one mem' mem⟩
    · by_cases zero' : num' = 0
      · subst zero'
        rw [window_zero] at mem'
        exact .inr ⟨same (positive zero) one mem mem', rfl⟩
      · exact absurd (same (positive zero) (positive zero') mem mem') differ
  · rintro (⟨rfl, rfl⟩ | ⟨rfl, rfl⟩)
    · exact ⟨0, by rw [window_zero]; exact zeroth, zeroth⟩
    · exact ⟨0, zeroth, by rw [window_zero]; exact zeroth⟩

/-- A valid query asks for a page that exists and holds something. -/
theorem page_of_validate {q : LockQuery} (valid : q.validate = .ok ()) :
    1 ≤ q.pageNum ∧ 1 ≤ q.pageSize := by
  unfold validate defect? at valid
  by_cases num : q.pageNum < 1
  · rw [if_pos num] at valid
    cases valid
  · rw [if_neg num] at valid
    by_cases size : (q.pageSize < 1 || maxPageSize < q.pageSize) = true
    · rw [if_pos size] at valid
      cases valid
    · simp only [Bool.or_eq_true, decide_eq_true_eq, not_or] at size
      exact ⟨UInt32.not_lt.1 num, UInt32.not_lt.1 size.1⟩

end LockQuery

namespace Page

/-- A page that is not full leaves room for the sum: then pages hold at least two records. -/
theorem pages_toNat (p : Page α) (holds : 1 ≤ p.pageSize) :
    p.pages.toNat = p.total.toNat / p.pageSize.toNat +
      if p.total.toNat % p.pageSize.toNat = 0 then 0 else 1 := by
  have size : 0 < p.pageSize.toNat := UInt32.le_iff_toNat_le.1 holds
  have zero : p.pageSize ≠ 0 := by
    intro zero
    rw [zero] at size
    exact Nat.lt_irrefl 0 size
  have rest : p.total % p.pageSize.toUInt64 = 0 ↔ p.total.toNat % p.pageSize.toNat = 0 := by
    rw [← UInt64.toNat_inj, UInt64.toNat_mod, UInt32.toNat_toUInt64]
    rfl
  have fits : p.total.toNat / p.pageSize.toNat +
      (if p.total.toNat % p.pageSize.toNat = 0 then 0 else 1) < 2 ^ 64 := by
    have total := p.total.toNat_lt
    split
    · exact Nat.lt_of_le_of_lt (Nat.div_le_self _ _) total
    · next remains =>
      have two : 2 ≤ p.pageSize.toNat := by
        by_contra small
        have one : p.pageSize.toNat = 1 := by omega
        exact remains (by rw [one]; exact Nat.mod_one _)
      have half : p.total.toNat / p.pageSize.toNat ≤ p.total.toNat / 2 :=
        Nat.div_le_div_left two (by decide)
      omega
  unfold pages
  rw [if_neg zero, UInt64.toNat_add, UInt64.toNat_div, UInt32.toNat_toUInt64]
  simp only [rest]
  rw [show (if p.total.toNat % p.pageSize.toNat = 0 then (0 : UInt64) else 1).toNat =
    if p.total.toNat % p.pageSize.toNat = 0 then 0 else 1 by split <;> rfl]
  exact Nat.mod_eq_of_lt fits

/-- So many pages are enough exactly if they hold all records. -/
theorem pages_le_iff (p : Page α) (holds : 1 ≤ p.pageSize) {k : Nat} :
    p.pages.toNat ≤ k ↔ p.total.toNat ≤ k * p.pageSize.toNat := by
  have size : 0 < p.pageSize.toNat := UInt32.le_iff_toNat_le.1 holds
  rw [p.pages_toNat holds]
  have parts := Nat.div_add_mod' p.total.toNat p.pageSize.toNat
  have below := Nat.mod_lt p.total.toNat size
  generalize p.total.toNat / p.pageSize.toNat = full at *
  generalize p.total.toNat % p.pageSize.toNat = remains at *
  rw [← parts]
  split
  · next none =>
    rw [none, Nat.add_zero, Nat.add_zero]
    exact (Nat.mul_le_mul_right_iff size).symm
  · next some =>
    constructor
    · intro more
      have held := Nat.mul_le_mul_right p.pageSize.toNat more
      rw [Nat.succ_mul] at held
      omega
    · intro held
      have more : full * p.pageSize.toNat < k * p.pageSize.toNat := by omega
      exact Nat.lt_of_mul_lt_mul_right more

/-- How the pages of an answer fit together with the windows of the queries for them. -/
structure Tiles (p : Page α) (q : LockQuery) : Prop where
  /-- The number of pages is what it is among all numbers: no word overflows. -/
  pages_exact : p.pages.toNat = p.total.toNat / p.pageSize.toNat +
    if p.total.toNat % p.pageSize.toNat = 0 then 0 else 1
  /-- No fewer pages hold all records. -/
  fewest : IsLeast {k | p.total.toNat ≤ k * p.pageSize.toNat} p.pages.toNat
  /-- The place of the first record of a page is what it is among all numbers. -/
  offset_exact : ∀ num, (q.onPage num p.pageSize).offset.toNat =
    (num.toNat - 1) * p.pageSize.toNat
  /-- A page begins inside the answer exactly if it is one of its pages. -/
  inside : ∀ num, 1 ≤ num →
    ((q.onPage num p.pageSize).offset < p.total ↔ num.toUInt64 ≤ p.pages)
  /-- Every record that page numbers reach is on one page. -/
  covered : ∀ i, i < p.total.toNat → i / p.pageSize.toNat + 1 < UInt32.size →
    ∃! num, 1 ≤ num ∧ i ∈ (q.onPage num p.pageSize).window
  /-- Two pages share a record only if they are the first page and page zero. -/
  shared : ∀ num num', num ≠ num' →
    ((∃ i, i ∈ (q.onPage num p.pageSize).window ∧ i ∈ (q.onPage num' p.pageSize).window) ↔
      num = 0 ∧ num' = 1 ∨ num = 1 ∧ num' = 0)

theorem tiles (p : Page α) (q : LockQuery) (holds : 1 ≤ p.pageSize) : p.Tiles q where
  pages_exact := p.pages_toNat holds
  fewest := by
    constructor
    · exact (p.pages_le_iff holds).1 (Nat.le_refl _)
    · intro k held
      exact (p.pages_le_iff holds).2 held
  offset_exact num := LockQuery.offset_toNat _
  inside num first := by
    have num_pos : 1 ≤ num.toNat := UInt32.le_iff_toNat_le.1 first
    have enough := p.pages_le_iff holds (k := num.toNat - 1)
    have offset : (q.onPage num p.pageSize).offset.toNat = (num.toNat - 1) * p.pageSize.toNat :=
      LockQuery.offset_toNat _
    rw [UInt64.lt_iff_toNat_lt, offset, UInt64.le_iff_toNat_le, UInt32.toNat_toUInt64]
    omega
  covered i _ reached := by
    -- the page number is the one that the place leads to
    refine ⟨UInt32.ofNat (i / p.pageSize.toNat + 1), ⟨?_, ?_⟩, ?_⟩
    · rw [UInt32.le_iff_toNat_le, UInt32.toNat_ofNat_of_lt' reached]
      exact Nat.le_add_left 1 _
    · refine (LockQuery.mem_window_iff holds ?_).2 (UInt32.toNat_ofNat_of_lt' reached)
      show 1 ≤ UInt32.ofNat _
      rw [UInt32.le_iff_toNat_le, UInt32.toNat_ofNat_of_lt' reached]
      exact Nat.le_add_left 1 _
    · rintro num ⟨first, mem⟩
      have page := (LockQuery.mem_window_iff (q := q.onPage num p.pageSize) holds first).1 mem
      exact UInt32.toNat_inj.1 (page.trans (UInt32.toNat_ofNat_of_lt' reached).symm)
  shared num num' differ := q.windows_meet_iff holds differ

/-- The pages of every answer tile it, for every page size of at least one. So they do for every
valid query, which asks for a page from the first on; a query for page zero, which would have the
window of the first page, is refused. -/
theorem windows_tile_answer :
    (∀ (p : Page α) (q : LockQuery), 1 ≤ p.pageSize → p.Tiles q) ∧
    (∀ (q : LockQuery) (records : List α) (total : UInt64), q.validate = .ok () →
      1 ≤ q.pageNum ∧ (answering q records total).Tiles q) ∧
    ∀ (q : LockQuery) (size : UInt32), (q.onPage 0 size).window = (q.onPage 1 size).window ∧
      (q.onPage 0 size).validate = .error (.invalidQuery "pageNum must be >= 1") := by
  refine ⟨tiles, fun q records total valid => ?_, fun q size => ⟨q.window_zero size, rfl⟩⟩
  obtain ⟨first, holds⟩ := LockQuery.page_of_validate valid
  exact ⟨first, tiles _ q holds⟩

/-- The last page that 32-bit numbers reach, of the largest answer, in pages of the largest size:
the query is valid, the page begins inside the answer, and the last of all pages is not full. -/
theorem windows_tile_answer_of_largest :
    let q : LockQuery := { pageNum := 4294967295, pageSize := 100 }
    let p : Page Unit := answering q [] 18446744073709551615
    q.validate = .ok () ∧ 1 ≤ p.pageSize ∧ p.Tiles q ∧ p.pages = 184467440737095517 ∧
      q.offset < p.total ∧ ∃! num, 1 ≤ num ∧ 429496729400 ∈ (q.onPage num 100).window := by
  intro q p
  have valid : q.validate = .ok () := rfl
  have holds : 1 ≤ p.pageSize := by decide
  have tiled := windows_tile_answer.1 p q holds
  obtain ⟨first, tiled'⟩ := windows_tile_answer.2.1 q ([] : List Unit) p.total valid
  refine ⟨valid, holds, tiled', by decide, ?_, tiled.covered 429496729400 (by decide) (by decide)⟩
  exact (tiled.inside q.pageNum first).2 (by decide)

end Page
end AmbientTx
