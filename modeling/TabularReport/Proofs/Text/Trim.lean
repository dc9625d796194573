import Mathlib.Data.List.TakeWhile
import TabularReport.Text.Basic

/-!
# White space around a text

What trimming removes, and the texts that it leaves as they are.
-/

namespace TabularReport.Text

/-- Trimming removes blanks at both ends and nothing else. -/
theorem exists_eq_append_trim (cs : List Char) :
    ∃ l r, cs = l ++ trim cs ++ r ∧ (∀ c ∈ l, isBlank c = true) ∧ ∀ c ∈ r, isBlank c = true := by
  let tail := (trimLeft cs).reverse
  have hl : cs = cs.takeWhile isBlank ++ trimLeft cs := (List.takeWhile_append_dropWhile).symm
  have hr : trimLeft cs = trim cs ++ (tail.takeWhile isBlank).reverse := by
    rw [trim, ← List.reverse_append]
    change _ = (tail.takeWhile isBlank ++ tail.dropWhile isBlank).reverse
    rw [List.takeWhile_append_dropWhile, List.reverse_reverse]
  refine ⟨cs.takeWhile isBlank, (tail.takeWhile isBlank).reverse, ?_, ?_, ?_⟩
  · rw [List.append_assoc, ← hr, ← hl]
  · exact fun c hc ↦ (List.mem_takeWhile_imp hc)
  · exact fun c hc ↦ List.mem_takeWhile_imp (List.mem_reverse.mp hc)

/-- Trimming leaves what stands between blanks and has none at its ends. -/
theorem trim_append {l a r : List Char} (hl : ∀ c ∈ l, isBlank c = true) (hne : a ≠ [])
    (hfirst : ∀ c ∈ a.head?, isBlank c = false) (hlast : ∀ c ∈ a.getLast?, isBlank c = false)
    (hr : ∀ c ∈ r, isBlank c = true) : trim (l ++ a ++ r) = a := by
  have hdropped {blanks : List Char} (hb : ∀ c ∈ blanks, isBlank c = true) (s : List Char) :
      trimLeft (blanks ++ s) = trimLeft s := List.dropWhile_append_of_pos hb
  have hkept {b : List Char} (hb : b ≠ []) (hs : ∀ c ∈ b.head?, isBlank c = false) (s : List Char) :
      trimLeft (b ++ s) = b ++ s := by
    obtain ⟨c, rest, rfl⟩ := List.exists_cons_of_ne_nil hb
    exact List.dropWhile_cons_of_neg (by simp [hs c rfl])
  have hreverse : trimLeft a.reverse = a.reverse := by
    simpa using hkept (b := a.reverse) (by simpa using hne) (by simpa using hlast) []
  rw [trim, List.append_assoc, hdropped hl, hkept hne hfirst, List.reverse_append,
    hdropped (by simpa using hr), hreverse, List.reverse_reverse]

end TabularReport.Text
