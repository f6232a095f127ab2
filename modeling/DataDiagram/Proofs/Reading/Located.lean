import DataDiagram.Proofs.Reading.Failures
import Mathlib.Data.List.Induction
/-!
# Where errors point

An error that is shown with a line of the text has the position of a part of the text's tree.
Positions count bytes, and the ends of lines that the grammar knows; the line that is shown is cut
out at more characters.
-/

namespace DataDiagram

open List

namespace Source

/-! ## Lines and columns -/

/-- The line under way at the end of a text, in front of which it is `line`. -/
def lineFrom (line cs : List Char) : List Char :=
  cs.foldl (fun line c => if c == '\n' then [] else line ++ [c]) line

/-- The part of a text after its last end of a line. -/
def lineBefore (before : List Char) : List Char := lineFrom [] before

/-- The part of a text up to its first end of a line. -/
def lineAfter (after : List Char) : List Char := after.takeWhile (· != '\n')

def byteSize (cs : List Char) : Nat := cs.foldl (fun n c => n + c.utf8Size) 0

variable {cs before after line current rest : List Char} {p : Position}

theorem column_positionAfter (h : p.column = byteSize line) :
    (positionAfter p cs).column = byteSize (lineFrom line cs) := by
  induction cs generalizing p line with
  | nil => exact h
  | cons c cs ih =>
    rw [positionAfter, lineFrom, foldl_cons, foldl_cons, ← positionAfter, ← lineFrom]
    refine ih ?_
    split
    · rfl
    · simp [byteSize, h]

/-- Bytes are counted as characters are exactly where the characters are the first 128. -/
theorem byteSize_eq_length_iff : byteSize cs = cs.length ↔ ∀ c ∈ cs, c.toNat < 128 := by
  have hboth : cs.length ≤ byteSize cs ∧ (byteSize cs = cs.length ↔ ∀ c ∈ cs, c.toNat < 128) := by
    induction cs using List.reverseRecOn with
    | nil => simp [byteSize]
    | append_singleton cs c ih =>
      have hsize : byteSize (cs ++ [c]) = byteSize cs + c.utf8Size := foldl_append ..
      have hone : c.utf8Size = 1 ↔ c.toNat < 128 :=
        Char.utf8Size_eq_one_iff.trans (UInt32.le_iff_toNat_le.trans Nat.lt_succ_iff.symm)
      have hpos := c.utf8Size_pos
      rw [hsize, length_append, length_singleton, forall_mem_append, forall_mem_singleton,
        ← ih.2, ← hone]
      omega
  exact hboth.2

/-- A line that ends is shown, and so are those after it. -/
theorem getElem?_of_lineEnd
    (hlines : ∀ {before after}, rest ≠ [] → before ++ after = normalLines rest → after ≠ [] →
      (Text.linesFrom [] rest)[before.count '\n']? = some (lineFrom [] before ++ lineAfter after))
    (hsplit : before ++ after = '\n' :: if rest.isEmpty then [] else normalLines rest)
    (hafter : after ≠ []) :
    (line :: Text.linesFrom [] rest)[before.count '\n']? =
    some (lineFrom line before ++ lineAfter after) := by
  cases before with
  | nil =>
    rw [nil_append] at hsplit
    simp [hsplit, lineFrom, lineAfter]
  | cons d before =>
    obtain ⟨rfl, htail⟩ := List.cons.inj hsplit
    rw [append_eq] at htail
    split at htail
    · exact absurd (append_eq_nil_iff.1 htail).2 hafter
    · rw [count_cons_self, getElem?_cons_succ]
      exact hlines (by simpa using ‹¬rest.isEmpty = true›) htail hafter

theorem normalLines_ne_nil (cs : List Char) : normalLines cs ≠ [] := by
  obtain ⟨init, hinit⟩ := exists_normalLines_eq cs
  simp [hinit]

/-- The line that is shown for a place, where lines end nowhere else. -/
theorem getElem?_linesFrom (hends : ∀ c ∈ cs, Text.endsLine c = true → c = '\n' ∨ c = '\r')
    (hne : cs ≠ [] ∨ current ≠ []) (hsplit : before ++ after = normalLines cs)
    (hafter : after ≠ []) :
    (Text.linesFrom current cs)[before.count '\n']? =
    some (lineFrom current.reverse before ++ lineAfter after) := by
  induction current, cs using Text.linesFrom.induct generalizing before after with
  | case1 current hempty => simp_all
  | case2 current hempty =>
    rw [normalLines, append_eq_singleton_iff] at hsplit
    obtain ⟨rfl, rfl⟩ | ⟨-, rfl⟩ := hsplit
    · simp [Text.linesFrom, hempty, lineFrom, lineAfter]
    · exact absurd rfl hafter
  | case3 current rest ih =>
    rw [Text.linesFrom]
    refine getElem?_of_lineEnd (fun hrest => ih (fun c hc => hends c ?_) (.inl hrest)) hsplit hafter
    exact mem_cons_of_mem _ (mem_cons_of_mem _ hc)
  | case4 current c rest hpair hend ih =>
    rw [forall_mem_cons] at hends
    rw [Text.linesFrom.eq_3 _ _ _ hpair, if_pos hend]
    refine getElem?_of_lineEnd (fun hrest => ih hends.2 (.inl hrest)) ?_ hafter
    rw [hsplit, normalLines.eq_3 _ _ hpair]
    rcases hends.1 hend with rfl | rfl <;> simp
  | case5 current c rest hpair hend ih =>
    rw [forall_mem_cons] at hends
    rw [Text.linesFrom.eq_3 _ _ _ hpair, if_neg hend]
    have hc : c ≠ '\n' ∧ c ≠ '\r' := by
      constructor <;> rintro rfl <;> exact hend rfl
    have hnormal : normalLines (c :: rest) = c :: normalLines rest := by
      rw [normalLines.eq_3 _ _ hpair]
      simp [hc.1, hc.2]
    rw [hnormal] at hsplit
    cases before with
    | nil =>
      rw [nil_append] at hsplit
      rw [ih hends.2 (.inr (cons_ne_nil _ _)) (nil_append _) (normalLines_ne_nil _), hsplit]
      simp [lineFrom, lineAfter, hc.1]
    | cons d before =>
      obtain ⟨rfl, htail⟩ := List.cons.inj hsplit
      rw [count_cons_of_ne hc.1, ih hends.2 (.inr (cons_ne_nil _ _)) htail hafter]
      simp [lineFrom, hc.1]

end Source

open Source (normalLines lineBefore lineAfter byteSize)
open Source.Stmt (nestedAll)
open Reading

/-- The line of a text that is shown for a place. -/
theorem shown_eq {text shown : String} {before after : List Char}
    (hends : ∀ c ∈ text.toList, Text.endsLine c = true → c = '\n' ∨ c = '\r')
    (hsplit : before ++ after = normalLines text.toList) (hafter : after ≠ [])
    (h : Origin.lineAt? (Text.splitLines text) (1 + before.count '\n') = some shown) :
    shown = String.ofList (lineBefore before ++ lineAfter after) := by
  have hindex : (Text.splitLines text)[before.count '\n']? = some shown := by
    unfold Origin.lineAt? at h
    dsimp only at h
    have hcount : (1 + (before.count '\n' : Int) - 1).toNat = before.count '\n' := by omega
    rwa [if_pos (by omega), hcount] at h
  have hne : text.toList ≠ [] := by
    intro hempty
    rw [Text.splitLines, hempty] at hindex
    cases hindex
  rw [Text.splitLines, getElem?_map, Text.lines,
    Source.getElem?_linesFrom hends (.inl hne) hsplit hafter] at hindex
  exact (Option.some.inj hindex).symm

namespace Reading

variable {σ V : Type} {I : Evaluator σ V} {text : String} {body : List Source.Stmt} {l : Located}

section Sample

/-- The error that is shown for a text. -/
def located? (text : String) : Option Located :=
  match readError? text with
  | some (.code (.located l)) => some l
  | _ => none

theorem exists_of_located? (h : located? text = some l) : ∃ body, StandIn text body ∧
    readModule Static.evaluator (Text.splitLines text) body = .error (.code (.located l)) := by
  unfold located? at h
  split at h
  · rename_i herror
    cases h
    exact exists_of_readError? herror
  · cases h

/-- A text with a constant in its third line that the language has not. -/
def valueText : String := "x: int = 1\ndef f(y):\n    return y + 'a'\n"

theorem located?_valueText : located? valueText =
    some ⟨"unsupported value", "<string>", 3, 15, some "    return y + 'a'"⟩ := by decide +kernel

theorem located?_accent : located? "a = 'é'; b: c\n" =
    some ⟨"unsupported type", "<string>", 1, 13, some "a = 'é'; b: c"⟩ := by decide +kernel

theorem located?_formFeed : located? "#\x0c\na: c\n" =
    some ⟨"unsupported type", "<string>", 2, 3, some ""⟩ := by decide +kernel

end Sample

end Reading

end DataDiagram
