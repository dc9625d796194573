import TabularReport.Proofs.Statement.Answer

/-!
# The arithmetic of pages

The number of a page, its size and the limits on it are 64-bit words. Arithmetic with words can
fail: a range can have its bounds the wrong way round, a difference can lie below zero, and a
product can be too large. The steps that lead to a page fail nowhere, and the windows of the pages
lie side by side until their offsets reach the largest word.
-/

namespace TabularReport

/-- The largest 64-bit word. -/
def largestWord : Nat := Nat.pow 2 64 - 1

namespace Word

/-- A word, limited to a range. There is none when the bounds of the range are the wrong way round.
-/
def clamp? (w low high : UInt64) : Option UInt64 :=
  if high < low then none else some (if w < low then low else if high < w then high else w)

/-- The word before a word. There is none before zero. -/
def pred? (w : UInt64) : Option UInt64 := if w = 0 then none else some (w - 1)

/-- The product of two words, or the largest word when the product is larger. -/
def mulSaturated (a b : UInt64) : UInt64 :=
  if a.toNat * b.toNat ≤ largestWord then a * b else .ofNat largestWord

private theorem exists_clamp? (w : UInt64) {low high : UInt64} (h : low.toNat ≤ high.toNat) :
    ∃ r, clamp? w low high = some r ∧ r.toNat = max low.toNat (min w.toNat high.toNat) := by
  refine ⟨_, if_neg ?_, ?_⟩
  · rw [UInt64.lt_iff_toNat_lt]
    omega
  · simp only [UInt64.lt_iff_toNat_lt]
    split
    · omega
    · split <;> omega

private theorem exists_pred? {w : UInt64} (h : 1 ≤ w.toNat) :
    ∃ r, pred? w = some r ∧ r.toNat = w.toNat - 1 := by
  have hle : (1 : UInt64) ≤ w := UInt64.le_iff_toNat_le.mpr h
  refine ⟨w - 1, if_neg ?_, UInt64.toNat_sub_of_le w 1 hle⟩
  rintro rfl
  exact absurd h (by decide)

private theorem toNat_mulSaturated (a b : UInt64) :
    (mulSaturated a b).toNat = min (a.toNat * b.toNat) largestWord := by
  unfold mulSaturated
  split
  · next h =>
    rw [UInt64.toNat_mul, Nat.min_eq_left h, Nat.mod_eq_of_lt]
    exact Nat.lt_of_le_of_lt h (by decide)
  · next h =>
    rw [Nat.min_eq_right (by omega)]
    rfl

end Word

/-- What the page of a run depends on, in words: the page and the size that are asked for, the size
that the template declares, and the largest and the usual size. -/
structure PageWords where
  page : UInt64
  requested : Option UInt64 := none
  declared : Option UInt64 := none
  largest : UInt64
  usual : UInt64

/-- A page in words. -/
structure WordPage where
  page : UInt64
  pageSize : UInt64
  offset : UInt64

/-- The page that words stand for. -/
def WordPage.applied (p : WordPage) : AppliedPage :=
  ⟨p.page.toNat, p.pageSize.toNat, p.offset.toNat⟩

namespace PageWords

variable (w : PageWords)

/-- The number of the page, counted from one. -/
def number : UInt64 := if w.page < 1 then 1 else w.page

/-- The size of the page before it is limited. -/
def wanted : UInt64 := (w.requested.or w.declared).getD w.usual

/-- The page of a run, worked out in words. -/
def applied? : Option WordPage := do
  let cap ← Word.clamp? w.largest 1 (.ofNat largestPage)
  let size ← Word.clamp? w.wanted 1 cap
  let before ← Word.pred? w.number
  return ⟨w.number, size, Word.mulSaturated before size⟩

/-- The wish for a page that words stand for. -/
def wish : PageRequest := ⟨w.page.toNat, w.requested.map (·.toNat)⟩

/-- The limits that words stand for. -/
def limits : PageLimits := ⟨w.largest.toNat, w.usual.toNat⟩

private theorem toNat_number : w.number.toNat = max 1 w.wish.page := by
  have hone : (1 : UInt64).toNat = 1 := rfl
  simp only [number, wish, UInt64.lt_iff_toNat_lt, hone]
  split <;> omega

private theorem toNat_wanted :
    w.wanted.toNat =
      (w.wish.pageSize.or (w.declared.map (·.toNat))).getD w.limits.defaultPageSize := by
  rw [wanted, wish, limits]
  cases w.requested <;> cases w.declared <;> rfl

/-- No step fails, and the steps come to the page that the statement of the run returns. -/
theorem exists_applied? {t : ReportTemplate} (h : t.config.pageSize = w.declared.map (·.toNat)) :
    ∃ p, w.applied? = some p ∧ p.applied = t.appliedPage w.wish w.limits := by
  have hone : (1 : UInt64).toNat = 1 := rfl
  have hlargest : (UInt64.ofNat largestPage).toNat = largestPage := by decide
  have hrange : (1 : UInt64).toNat ≤ (UInt64.ofNat largestPage).toNat := by decide
  obtain ⟨cap, hcap, hcapNat⟩ := Word.exists_clamp? w.largest hrange
  rw [hone, hlargest] at hcapNat
  have hbelow : (1 : UInt64).toNat ≤ cap.toNat := by
    rw [hone, hcapNat]
    exact Nat.le_max_left _ _
  obtain ⟨size, hsize, hsizeNat⟩ := Word.exists_clamp? w.wanted hbelow
  rw [hone, hcapNat, toNat_wanted, ← h] at hsizeNat
  have hnumber : 1 ≤ w.number.toNat := by
    rw [toNat_number]
    exact Nat.le_max_left _ _
  obtain ⟨before, hbefore, hbeforeNat⟩ := Word.exists_pred? hnumber
  refine ⟨⟨w.number, size, Word.mulSaturated before size⟩, ?_, ?_⟩
  · simp only [applied?, hcap, hsize, hbefore, Option.bind_eq_bind, Option.bind_some]
    rfl
  · simp only [WordPage.applied, Word.toNat_mulSaturated, hbeforeNat, toNat_number, hsizeNat]
    rfl

end PageWords

namespace AppliedPage

/-- The number of rows on the pages before a page. -/
def before (p : AppliedPage) : Nat := (p.page - 1) * p.pageSize

/-- Whether the rows before a page can be counted in a word. -/
def IsExact (p : AppliedPage) : Prop := p.before ≤ largestWord

/-- Whether a row, counted from zero, is on a page. -/
def Shows (p : AppliedPage) (row : Nat) : Prop :=
  p.offset ≤ row ∧ row < p.offset + p.pageSize

/-- The elements of a list that are on a page. -/
def shown {α : Type} (p : AppliedPage) (l : List α) : List α :=
  Grid.window (some p.pageSize) (some p.offset) l

end AppliedPage

namespace ReportTemplate

/-- The page of a number, for a size that is asked for or not. -/
def pageAt (t : ReportTemplate) (size : Option Nat) (limits : PageLimits) (number : Nat) :
    AppliedPage :=
  t.appliedPage ⟨number, size⟩ limits

/-- How the pages of one request lie side by side, as long as the rows before them can be counted in
a word. -/
structure Tiles (t : ReportTemplate) (size : Option Nat) (limits : PageLimits) : Prop where
  /-- The size of a page does not depend on its number. -/
  pageSize : ∀ m n, (t.pageAt size limits m).pageSize = (t.pageAt size limits n).pageSize
  monotone : ∀ m n, m ≤ n → (t.pageAt size limits m).offset ≤ (t.pageAt size limits n).offset
  /-- A page starts where the one before it ends. -/
  adjacent : ∀ n, 1 ≤ n → (t.pageAt size limits (n + 1)).IsExact →
    (t.pageAt size limits (n + 1)).offset =
      (t.pageAt size limits n).offset + (t.pageAt size limits n).pageSize
  /-- A row is on one page only. -/
  shows : ∀ n row, 1 ≤ n → (t.pageAt size limits n).IsExact →
    ((t.pageAt size limits n).Shows row ↔ n = row / (t.pageAt size limits n).pageSize + 1)
  /-- The pages from the first one on show the rows in their order. -/
  rows : ∀ {α : Type} (l : List α) (n : Nat), (t.pageAt size limits n).IsExact →
    (List.range n).flatMap (fun i ↦ (t.pageAt size limits (i + 1)).shown l) =
      l.take (n * (t.pageAt size limits n).pageSize)

variable (t : ReportTemplate) (wish : PageRequest) (size : Option Nat) (limits : PageLimits)

/-- Pages are counted from one, and their sizes from one to the limits. -/
theorem bounds_appliedPage :
    (t.appliedPage wish limits).page = max 1 wish.page ∧
      1 ≤ (t.appliedPage wish limits).pageSize ∧
      (t.appliedPage wish limits).pageSize ≤ min largestPage (max 1 limits.maxPageSize) := by
  refine ⟨rfl, Nat.le_max_left _ _, ?_⟩
  change max 1 (min _ (max 1 (min limits.maxPageSize 5000))) ≤ min 5000 (max 1 limits.maxPageSize)
  omega

private theorem offset_appliedPage :
    (t.appliedPage wish limits).offset = min (t.appliedPage wish limits).before largestWord := rfl

variable {t size limits}

private theorem before_pageAt (n : Nat) :
    (t.pageAt size limits (n + 1)).before = n * (t.pageAt size limits (n + 1)).pageSize := by
  have hpage : (t.pageAt size limits (n + 1)).page = n + 1 := Nat.max_eq_right (Nat.le_add_left 1 n)
  rw [AppliedPage.before, hpage, Nat.add_sub_cancel]

private theorem before_pageAt_mono {m n : Nat} (h : m ≤ n) :
    (t.pageAt size limits m).before ≤ (t.pageAt size limits n).before := by
  have hpage : max 1 m - 1 ≤ max 1 n - 1 := by omega
  exact Nat.mul_le_mul_right _ hpage

private theorem offset_pageAt {n : Nat} (h : (t.pageAt size limits (n + 1)).IsExact) :
    (t.pageAt size limits (n + 1)).offset = n * (t.pageAt size limits (n + 1)).pageSize := by
  rw [← before_pageAt, pageAt, offset_appliedPage]
  exact Nat.min_eq_left h

variable (t size limits)

/-- The pages of one request lie side by side. -/
theorem tiles_pageAt : t.Tiles size limits where
  pageSize _ _ := rfl
  monotone := by
    intro m n h
    have hbefore : (t.pageAt size limits m).before ≤ (t.pageAt size limits n).before :=
      before_pageAt_mono h
    simp only [pageAt, offset_appliedPage] at hbefore ⊢
    omega
  adjacent := by
    intro n hn h
    obtain ⟨k, rfl⟩ := Nat.exists_eq_add_of_le' hn
    have hk : (t.pageAt size limits (k + 1)).IsExact :=
      Nat.le_trans (before_pageAt_mono (Nat.le_succ _)) h
    rw [offset_pageAt h, offset_pageAt hk]
    exact Nat.succ_mul k _
  shows := by
    intro n row hn h
    have hpos : 1 ≤ (t.pageAt size limits n).pageSize := (t.bounds_appliedPage ⟨n, size⟩ limits).2.1
    obtain ⟨k, rfl⟩ := Nat.exists_eq_add_of_le' hn
    rw [AppliedPage.Shows, offset_pageAt h, Nat.add_right_cancel_iff, eq_comm (a := k),
      Nat.div_eq_iff hpos]
    omega
  rows := by
    intro α l n h
    induction n with
    | zero => simp
    | succ n ih =>
      have hbefore : (t.pageAt size limits n).IsExact :=
        Nat.le_trans (before_pageAt_mono (Nat.le_succ n)) h
      have hlast : (t.pageAt size limits (n + 1)).shown l =
          (l.drop (n * (t.pageAt size limits n).pageSize)).take
            (t.pageAt size limits n).pageSize := by
        rw [AppliedPage.shown, offset_pageAt h]
        rfl
      rw [List.range_succ, List.flatMap_append, ih hbefore, List.flatMap_singleton, hlast,
        ← List.take_add, ← Nat.succ_mul]
      rfl

end ReportTemplate

end TabularReport
