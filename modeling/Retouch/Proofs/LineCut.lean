import Mathlib.Tactic.ByContra
import Retouch.Text.Lines

/-!
# Cutting a text into lines

A text is cut after each newline, each carriage return with a newline behind it, and each lone
carriage return. `CutInto` says this without recursion over characters, and `linesWithEnds` is the
one list of lines that it allows.
-/

namespace Retouch

/-- What may end a line, when `rest` follows. -/
inductive LineEnd : Text → Text → Prop
  | newline (rest : Text) : LineEnd ['\n'] rest
  | both (rest : Text) : LineEnd ['\r', '\n'] rest
  | lone {rest : Text} (h : rest.head? ≠ some '\n') : LineEnd ['\r'] rest

def Unbroken (text : Text) : Prop := ∀ c ∈ text, c ≠ '\n' ∧ c ≠ '\r'

/-- A text cut after each of its line ends. Only the last line can be without one. -/
inductive CutInto : Text → List Text → Prop
  | nil : CutInto [] []
  | last {body : Text} (hne : body ≠ []) (hbody : Unbroken body) : CutInto body [body]
  | cons {body ending rest : Text} {ls : List Text} (hbody : Unbroken body)
      (hend : LineEnd ending rest) (hrest : CutInto rest ls) :
      CutInto (body ++ (ending ++ rest)) ((body ++ ending) :: ls)

theorem unbroken_cons {c : Char} {text : Text} :
    Unbroken (c :: text) ↔ (c ≠ '\n' ∧ c ≠ '\r') ∧ Unbroken text :=
  List.forall_mem_cons

theorem linesWithEnds_cons_of_ne {c : Char} (h : c ≠ '\n' ∧ c ≠ '\r') (text : Text) :
    linesWithEnds (c :: text) = extendFirst c (linesWithEnds text) := by
  rw [linesWithEnds, if_neg]
  rintro (hc | ⟨hc, -⟩)
  · exact h.1 hc
  · exact h.2 hc

theorem linesWithEnds_lineEnd {ending rest : Text} (h : LineEnd ending rest) :
    linesWithEnds (ending ++ rest) = ending :: linesWithEnds rest := by
  cases h with
  | newline => simp [linesWithEnds]
  | both => simp [linesWithEnds, extendFirst]
  | lone h => simp [linesWithEnds, h]

theorem CutInto.linesWithEnds_eq {text : Text} {ls : List Text} (h : CutInto text ls) :
    linesWithEnds text = ls := by
  induction h with
  | nil => rfl
  | @last body hne hbody =>
    induction body with
    | nil => exact absurd rfl hne
    | cons c body ih =>
      obtain ⟨hc, hbody⟩ := unbroken_cons.1 hbody
      rw [linesWithEnds_cons_of_ne hc]
      cases body with
      | nil => rfl
      | cons d body => rw [ih (List.cons_ne_nil d body) hbody, extendFirst]
  | @cons body ending rest ls hbody hend _ ih =>
    induction body with
    | nil => rw [List.nil_append, List.nil_append, linesWithEnds_lineEnd hend, ih]
    | cons c body ihbody =>
      obtain ⟨hc, hbody⟩ := unbroken_cons.1 hbody
      rw [List.cons_append, linesWithEnds_cons_of_ne hc, ihbody hbody, extendFirst,
        List.cons_append]

/-- A character that ends no line belongs to the line behind it. The one that needs care is a
carriage return, which then has a newline behind it. -/
theorem CutInto.extend {c : Char} {text line : Text} {ls : List Text}
    (h : CutInto text (line :: ls)) (hc : ¬ (c = '\n' ∨ c = '\r' ∧ text.head? ≠ some '\n')) :
    CutInto (c :: text) ((c :: line) :: ls) := by
  have hnewline : c ≠ '\n' := fun h => hc (.inl h)
  by_cases hreturn : c = '\r'
  · have hhead : text.head? = some '\n' := by
      by_contra hhead
      exact hc (.inr ⟨hreturn, hhead⟩)
    subst hreturn
    cases h with
    | last hne hbody =>
      exact absurd rfl (hbody '\n' (List.mem_of_mem_head? hhead)).1
    | @cons body ending rest _ hbody hend hrest =>
      cases body with
      | cons d body =>
        obtain ⟨hd, -⟩ := unbroken_cons.1 hbody
        exact absurd (Option.some.inj hhead) hd.1
      | nil =>
        cases hend with
        | newline => exact .cons hbody (.both rest) hrest
        | both => simp at hhead
        | lone => simp at hhead
  · cases h with
    | last hne hbody =>
      exact .last (List.cons_ne_nil c _) (unbroken_cons.2 ⟨⟨hnewline, hreturn⟩, hbody⟩)
    | cons hbody hend hrest =>
      exact .cons (unbroken_cons.2 ⟨⟨hnewline, hreturn⟩, hbody⟩) hend hrest

theorem cutInto_linesWithEnds (text : Text) : CutInto text (linesWithEnds text) := by
  induction text with
  | nil => exact .nil
  | cons c text ih =>
    rw [linesWithEnds]
    split
    next hc =>
      have hnone : Unbroken [] := fun _ h => nomatch h
      rcases hc with rfl | ⟨rfl, hhead⟩
      · exact .cons hnone (.newline text) ih
      · exact .cons hnone (.lone hhead) ih
    next hc =>
      cases hlines : linesWithEnds text with
      | cons line ls => exact (hlines ▸ ih).extend hc
      | nil =>
        have htext : text = [] := by
          rw [← flatten_linesWithEnds text, hlines]
          rfl
        subst htext
        refine .last (List.cons_ne_nil c []) (unbroken_cons.2 ⟨?_, fun _ h => nomatch h⟩)
        exact ⟨fun h => hc (.inl h), fun h => hc (.inr ⟨h, by simp⟩)⟩

theorem cutInto_iff {text : Text} {ls : List Text} :
    CutInto text ls ↔ linesWithEnds text = ls :=
  ⟨CutInto.linesWithEnds_eq, fun h => h ▸ cutInto_linesWithEnds text⟩

def IsEnded (text : Text) : Prop := text.getLast? = some '\n' ∨ text.getLast? = some '\r'

instance (text : Text) : Decidable (IsEnded text) := inferInstanceAs (Decidable (_ ∨ _))

/-- The text with a newline added if its last line has no end. -/
def completed (text : Text) : Text := if text = [] ∨ IsEnded text then text else text ++ ['\n']

theorem completed_of_unbroken {body : Text} (hne : body ≠ []) (hbody : Unbroken body) :
    completed body = body ++ ['\n'] := by
  rw [completed, if_neg]
  rintro (h | h | h)
  · exact hne h
  · exact (hbody _ (List.mem_of_getLast? h)).1 rfl
  · exact (hbody _ (List.mem_of_getLast? h)).2 rfl

theorem LineEnd.isEnded_append {ending rest : Text} (h : LineEnd ending rest) (body : Text) :
    IsEnded (body ++ ending) := by
  cases h with
  | newline => exact .inl (by simp)
  | both => exact .inl (by simp)
  | lone => exact .inr (by simp)

theorem LineEnd.ne_nil {ending rest : Text} (h : LineEnd ending rest) : ending ≠ [] := by
  cases h <;> simp

theorem completed_append (text : Text) {rest : Text} (hne : rest ≠ []) :
    completed (text ++ rest) = text ++ completed rest := by
  have hlast : (text ++ rest).getLast? = rest.getLast? := by
    obtain ⟨last, hrest⟩ := Option.ne_none_iff_exists'.1 (mt List.getLast?_eq_none_iff.1 hne)
    rw [List.getLast?_append, hrest, Option.some_or]
  have hended : IsEnded (text ++ rest) ↔ IsEnded rest := by rw [IsEnded, IsEnded, hlast]
  by_cases h : IsEnded rest
  · rw [completed, if_pos (.inr (hended.2 h)), completed, if_pos (.inr h)]
  · rw [completed, if_neg, completed, if_neg, List.append_assoc]
    · simp [hne, h]
    · simp [hne, hended, h]

theorem LineEnd.completed {ending rest : Text} (h : LineEnd ending rest) :
    LineEnd ending (completed rest) := by
  cases h with
  | newline => exact .newline _
  | both => exact .both _
  | lone h =>
    refine .lone ?_
    rw [Retouch.completed]
    split
    · exact h
    next hrest =>
      cases rest with
      | nil => exact absurd (.inl rfl) hrest
      | cons c rest => exact h

/-- Only the last line is without an end, so completing all lines completes the text. -/
theorem CutInto.completed {text : Text} {ls : List Text} (h : CutInto text ls) :
    CutInto (completed text) (ls.map Retouch.completed) := by
  induction h with
  | nil => exact .nil
  | @last body hne hbody =>
    have hcut : CutInto (body ++ (['\n'] ++ [])) [body ++ ['\n']] :=
      .cons hbody (.newline []) .nil
    rw [List.map_cons, List.map_nil, completed_of_unbroken hne hbody]
    exact hcut
  | @cons body ending rest ls hbody hend hrest ih =>
    have hline : Retouch.completed (body ++ ending) = body ++ ending :=
      if_pos (.inr (hend.isEnded_append body))
    have htext : Retouch.completed (body ++ (ending ++ rest)) =
        body ++ (ending ++ Retouch.completed rest) := by
      rw [← List.append_assoc, ← List.append_assoc]
      cases rest with
      | nil => simpa [Retouch.completed] using hline
      | cons c rest => exact completed_append _ (List.cons_ne_nil c rest)
    rw [List.map_cons, hline, htext]
    exact .cons hbody hend.completed ih

/-- A line that has an end, whatever comes behind it. -/
def IsLine (line : Text) : Prop :=
  ∃ body ending, line = body ++ ending ∧ Unbroken body ∧
    ∀ rest : Text, rest.head? ≠ some '\n' → LineEnd ending rest

theorem CutInto.isLine_completed {text : Text} {ls : List Text} (h : CutInto text ls) :
    ∀ line ∈ ls, line ≠ [] ∧ IsLine (Retouch.completed line) := by
  induction h with
  | nil => exact fun _ h => nomatch h
  | @last body hne hbody =>
    rw [List.forall_mem_singleton, completed_of_unbroken hne hbody]
    exact ⟨hne, body, ['\n'], rfl, hbody, fun rest _ => .newline rest⟩
  | @cons body ending rest ls hbody hend hrest ih =>
    rw [List.forall_mem_cons]
    refine ⟨⟨fun hnil => hend.ne_nil (List.append_eq_nil_iff.1 hnil).2, ?_⟩, ih⟩
    rw [Retouch.completed, if_pos (.inr (hend.isEnded_append body))]
    refine ⟨body, ending, rfl, hbody, fun other hother => ?_⟩
    cases hend with
    | newline => exact .newline other
    | both => exact .both other
    | lone => exact .lone hother

end Retouch
