import BearerTokens.Text.Blank
import Mathlib.Data.List.DropRight

/-!
# Trimming

Nothing is left of a text of blanks, and a text that neither begins nor ends with a blank stays as it is. What is
trimmed once is therefore trimmed for good. The blanks are the characters that Unicode lists as White_Space.
-/

set_option autoImplicit false

namespace BearerTokens.Text

def whiteSpace : List Nat :=
  [0x09, 0x0A, 0x0B, 0x0C, 0x0D, 0x20, 0x85, 0xA0, 0x1680, 0x2000, 0x2001, 0x2002, 0x2003, 0x2004, 0x2005, 0x2006,
    0x2007, 0x2008, 0x2009, 0x200A, 0x2028, 0x2029, 0x202F, 0x205F, 0x3000]

theorem isBlank_iff {c : Char} : isBlank c = true ↔ c.toNat ∈ whiteSpace := by
  simp only [isBlank, whiteSpace, Bool.or_eq_true, Bool.and_eq_true, decide_eq_true_eq, beq_iff_eq, List.mem_cons,
    List.not_mem_nil, or_false]
  omega

section Ends

variable {p : Char → Bool} {s : List Char}

theorem rdropWhile_dropWhile_eq_nil_iff : (s.dropWhile p).rdropWhile p = [] ↔ ∀ c ∈ s, p c = true := by
  rw [List.rdropWhile_eq_nil_iff]
  constructor
  · intro h
    refine List.dropWhile_eq_nil_iff.1 ?_
    -- what is left begins with a character that is not dropped
    cases hLeft : s.dropWhile p with
    | nil => rfl
    | cons c rest =>
      have hc := List.head_dropWhile_not p (by rw [hLeft]; exact List.cons_ne_nil c rest)
      simp only [hLeft, List.head_cons] at hc
      rw [h c (by rw [hLeft]; exact List.mem_cons_self)] at hc
      cases hc
  · intro h
    rw [List.dropWhile_eq_nil_iff.2 h]
    exact List.forall_mem_nil _

theorem rdropWhile_dropWhile_eq_self (hHead : ∀ c, s.head? = some c → p c = false)
    (hLast : ∀ c, s.getLast? = some c → p c = false) : (s.dropWhile p).rdropWhile p = s := by
  have hKept : s.dropWhile p = s := by
    cases s with
    | nil => rfl
    | cons c rest => exact List.dropWhile_cons_of_neg (Bool.eq_false_iff.1 (hHead c rfl))
  rw [hKept, List.rdropWhile_eq_self_iff]
  intro hSome hDropped
  rw [hLast _ (List.getLast?_eq_some_getLast hSome)] at hDropped
  cases hDropped

theorem rdropWhile_dropWhile_ends :
    (∀ c, ((s.dropWhile p).rdropWhile p).head? = some c → p c = false) ∧
      ∀ c, ((s.dropWhile p).rdropWhile p).getLast? = some c → p c = false := by
  constructor
  · intro c hc
    obtain ⟨rest, hRest⟩ := List.head?_eq_some_iff.1 hc
    obtain ⟨dropped, hSplit⟩ := List.rdropWhile_prefix p (s.dropWhile p)
    rw [hRest, List.cons_append] at hSplit
    have hHead := List.head_dropWhile_not p (by rw [← hSplit]; exact List.cons_ne_nil c _)
    simpa only [← hSplit, List.head_cons] using hHead
  · intro c hc
    have hSome : (s.dropWhile p).rdropWhile p ≠ [] := by
      intro hNil
      rw [hNil] at hc
      cases hc
    have hLast := List.rdropWhile_last_not p (s.dropWhile p) hSome
    rw [List.getLast?_eq_some_getLast hSome] at hc
    cases hc
    exact Bool.eq_false_iff.2 hLast

end Ends

theorem trim_eq_empty_iff {s : String} : trim s = "" ↔ ∀ c ∈ s.toList, isBlank c = true := by
  rw [← rdropWhile_dropWhile_eq_nil_iff, ← String.toList_inj, trim, String.toList_ofList]
  rfl

theorem trim_eq_self {s : String} (hHead : ∀ c, s.toList.head? = some c → isBlank c = false)
    (hLast : ∀ c, s.toList.getLast? = some c → isBlank c = false) : trim s = s := by
  rw [← String.toList_inj, trim, String.toList_ofList]
  exact rdropWhile_dropWhile_eq_self hHead hLast

theorem trim_trim (s : String) : trim (trim s) = trim s := by
  have hEnds := rdropWhile_dropWhile_ends (p := isBlank) (s := s.toList)
  have hTrimmed : (trim s).toList = (s.toList.dropWhile isBlank).rdropWhile isBlank := String.toList_ofList
  rw [← hTrimmed] at hEnds
  exact trim_eq_self hEnds.1 hEnds.2

end BearerTokens.Text
