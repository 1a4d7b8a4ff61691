import Retouch.Command.Run
import Retouch.Proofs.LineCut

/-!
# A printed diff shows both texts

The lines of a diff with a blank or a minus sign are the lines of the first text, and those with a
blank or a plus sign are the lines of the second. This is said about the text that is printed:
below the two header lines it is cut into lines again, each of which starts with its sign.
-/

namespace Retouch

namespace Change

variable {α : Type}

def sign : Change α → Char
  | keep _ => ' '
  | delete _ => '-'
  | insert _ => '+'

def line : Change α → α
  | keep a => a
  | delete a => a
  | insert a => a

/-- The line of a change that has one of the signs. -/
def lineWith? (signs : List Char) (change : Change α) : Option α :=
  if change.sign ∈ signs then some change.line else none

theorem filterMap_lineWith?_cons (signs : List Char) (change : Change α)
    (changes : List (Change α)) :
    (change :: changes).filterMap (lineWith? signs) =
      if change.sign ∈ signs then change.line :: changes.filterMap (lineWith? signs)
      else changes.filterMap (lineWith? signs) := by
  by_cases h : change.sign ∈ signs
  · rw [List.filterMap_cons, lineWith?, if_pos h, if_pos h]
  · rw [List.filterMap_cons, lineWith?, if_neg h, if_neg h]

theorem sign_cases (change : Change α) :
    change.sign = ' ' ∨ change.sign = '-' ∨ change.sign = '+' := by
  cases change <;> simp [sign]

end Change

namespace LineDiff

variable {α : Type} [DecidableEq α]

open Change (filterMap_lineWith?_cons sign line)

theorem filterMap_script_old (rows : List (List Nat)) (as bs : List α) :
    (script rows as bs).filterMap (Change.lineWith? [' ', '-']) = as := by
  fun_induction script rows as bs with
  | case1 rows bs =>
    rw [List.filterMap_map]
    exact List.filterMap_eq_nil_iff.2 fun _ _ => rfl
  | case2 rows as _ =>
    rw [List.filterMap_map]
    exact List.filterMap_some
  | case3 rows as a bs ih => simpa [filterMap_lineWith?_cons, sign, line] using ih
  | case4 rows a as b bs _ _ ih => simpa [filterMap_lineWith?_cons, sign, line] using ih
  | case5 rows a as b bs _ _ ih => simpa [filterMap_lineWith?_cons, sign] using ih

theorem filterMap_script_new (rows : List (List Nat)) (as bs : List α) :
    (script rows as bs).filterMap (Change.lineWith? [' ', '+']) = bs := by
  fun_induction script rows as bs with
  | case1 rows bs =>
    rw [List.filterMap_map]
    exact List.filterMap_some
  | case2 rows as _ =>
    rw [List.filterMap_map]
    exact List.filterMap_eq_nil_iff.2 fun _ _ => rfl
  | case3 rows as a bs ih => simpa [filterMap_lineWith?_cons, sign, line] using ih
  | case4 rows a as b bs _ _ ih => simpa [filterMap_lineWith?_cons, sign] using ih
  | case5 rows a as b bs _ _ ih => simpa [filterMap_lineWith?_cons, sign, line] using ih

theorem script_self (rows : List (List Nat)) (as : List α) :
    script rows as as = as.map .keep := by
  induction as generalizing rows with
  | nil => simp [script]
  | cons a as ih => simp [script, ih]

end LineDiff

namespace Command

/-- The two lines above a diff. -/
def diffHeader (file : String) : String :=
  s!"--- {file} (original)" ++ "\n" ++ s!"+++ {file} (reprinted)" ++ "\n"

/-- A change as it is printed: its sign and its line. -/
def entryOf (change : Change Text) : Char × Text := (change.sign, completed change.line)

theorem signedLine_eq {sign : Char} {line : Text} (hne : line ≠ []) :
    signedLine sign line = String.ofList (sign :: completed line) := by
  by_cases h : IsEnded line
  · have hended : (line.getLast? == some '\n' || line.getLast? == some '\r') = true := by
      simpa [IsEnded] using h
    simp only [signedLine, completed, if_pos (.inr h : line = [] ∨ IsEnded line), hended, if_true,
      List.append_nil]
  · have hended : (line.getLast? == some '\n' || line.getLast? == some '\r') = false := by
      simpa [IsEnded] using h
    have hopen : ¬ (line = [] ∨ IsEnded line) := by simp [hne, h]
    simp only [signedLine, completed, if_neg hopen, hended, Bool.false_eq_true, if_false,
      List.cons_append]

theorem toList_renderChange {change : Change Text} (hne : change.line ≠ []) :
    (renderChange false change).toList = (entryOf change).1 :: (entryOf change).2 := by
  have hprinted : renderChange false change = signedLine change.sign change.line := by
    cases change <;> rfl
  rw [hprinted, signedLine_eq hne, String.toList_ofList]
  rfl

theorem filterMap_lineDiff_old (old new : Text) :
    (lineDiff old new).filterMap (Change.lineWith? [' ', '-']) = linesWithEnds old :=
  LineDiff.filterMap_script_old _ _ _

theorem filterMap_lineDiff_new (old new : Text) :
    (lineDiff old new).filterMap (Change.lineWith? [' ', '+']) = linesWithEnds new :=
  LineDiff.filterMap_script_new _ _ _

/-- A diff invents no lines, so each of its lines can be printed as one. -/
theorem isLine_of_mem_lineDiff {old new : Text} {change : Change Text}
    (h : change ∈ lineDiff old new) : change.line ≠ [] ∧ IsLine (completed change.line) := by
  have hline : ∀ {signs : List Char} {text : Text}, change.sign ∈ signs →
      (lineDiff old new).filterMap (Change.lineWith? signs) = linesWithEnds text →
      change.line ≠ [] ∧ IsLine (completed change.line) := by
    intro signs text hsign hlines
    refine (cutInto_linesWithEnds text).isLine_completed _ ?_
    rw [← hlines]
    exact List.mem_filterMap.2 ⟨change, h, if_pos hsign⟩
  cases change with
  | keep line => exact hline List.mem_cons_self (filterMap_lineDiff_old old new)
  | delete line => exact hline (by simp [Change.sign]) (filterMap_lineDiff_old old new)
  | insert line => exact hline (by simp [Change.sign]) (filterMap_lineDiff_new old new)

/-- Signs keep a carriage return at the end of one line and a newline at the start of the next
apart, so lines can be told apart in print. -/
theorem cutInto_entries {changes : List (Change Text)}
    (h : ∀ change ∈ changes, IsLine (completed change.line)) :
    CutInto ((changes.map entryOf).flatMap fun entry => entry.1 :: entry.2)
      ((changes.map entryOf).map fun entry => entry.1 :: entry.2) := by
  induction changes with
  | nil => exact .nil
  | cons change changes ih =>
    obtain ⟨⟨body, ending, hline, hbody, hend⟩, hrest⟩ := List.forall_mem_cons.1 h
    have hsign : ∀ change : Change Text, change.sign ≠ '\n' ∧ change.sign ≠ '\r' := by
      intro change
      cases change <;> simp [Change.sign]
    have hhead : ((changes.map entryOf).flatMap fun entry => entry.1 :: entry.2).head? ≠
        some '\n' := by
      cases changes with
      | nil => simp
      | cons next changes => simpa [entryOf] using (hsign next).1
    rw [List.map_cons, List.flatMap_cons, List.map_cons, entryOf, hline]
    have hcut := CutInto.cons (unbroken_cons.2 ⟨hsign change, hbody⟩) (hend _ hhead) (ih hrest)
    simpa only [List.cons_append, List.append_assoc] using hcut

theorem map_snd_filter_entries (signs : List Char) (changes : List (Change Text)) :
    ((changes.map entryOf).filter fun entry => entry.1 ∈ signs).map Prod.snd =
      (changes.filterMap (Change.lineWith? signs)).map completed := by
  induction changes with
  | nil => rfl
  | cons change changes ih =>
    rw [List.map_cons, List.filter_cons, Change.filterMap_lineWith?_cons]
    by_cases h : change.sign ∈ signs
    · simp [entryOf, h, ih]
    · simp [entryOf, h, ih]

theorem toList_renderDiff (file : String) (draft : Draft) :
    (renderDiff false file draft).toList = (diffHeader file).toList ++
      ((lineDiff draft.source draft.reprinted).map entryOf).flatMap
        fun entry => entry.1 :: entry.2 := by
  have hbody : ∀ changes : List (Change Text), (∀ change ∈ changes, change.line ≠ []) →
      (String.join (changes.map (renderChange false))).toList =
        (changes.map entryOf).flatMap fun entry => entry.1 :: entry.2 := by
    intro changes hne
    rw [String.toList_join, List.flatMap_map, List.flatMap_map]
    rw [List.flatMap_def, List.flatMap_def, List.map_congr_left fun change hchange =>
      toList_renderChange (hne change hchange)]
  have hheader : renderDiff false file draft = diffHeader file ++
      String.join ((lineDiff draft.source draft.reprinted).map (renderChange false)) := rfl
  rw [hheader, String.toList_append,
    hbody _ fun change hchange => (isLine_of_mem_lineDiff hchange).1]

/-- Below its header a diff without colours is cut into signed lines. Those with a blank or a minus
sign are the lines of the source, those with a blank or a plus sign are the lines of the reprinted
text, all in order and with a newline where the last one has no end. Equal texts have no other sign
than the blank. -/
theorem printed_diff_shows_both (file : String) (draft : Draft) :
    ∃ (body : Text) (entries : List (Char × Text)),
      (renderDiff false file draft).toList = (diffHeader file).toList ++ body ∧
      CutInto body (entries.map fun entry => entry.1 :: entry.2) ∧
      (∀ entry ∈ entries, entry.1 = ' ' ∨ entry.1 = '-' ∨ entry.1 = '+') ∧
      CutInto (completed draft.source)
        ((entries.filter fun entry => entry.1 ∈ [' ', '-']).map Prod.snd) ∧
      CutInto (completed draft.reprinted)
        ((entries.filter fun entry => entry.1 ∈ [' ', '+']).map Prod.snd) ∧
      (draft.source = draft.reprinted → ∀ entry ∈ entries, entry.1 = ' ') := by
  obtain ⟨source, reprinted⟩ := draft
  refine ⟨_, (lineDiff source reprinted).map entryOf, toList_renderDiff file _, ?_, ?_, ?_, ?_, ?_⟩
  · exact cutInto_entries fun change hchange => (isLine_of_mem_lineDiff hchange).2
  · intro entry hentry
    obtain ⟨change, -, rfl⟩ := List.mem_map.1 hentry
    exact change.sign_cases
  · rw [map_snd_filter_entries, filterMap_lineDiff_old]
    exact (cutInto_linesWithEnds source).completed
  · rw [map_snd_filter_entries, filterMap_lineDiff_new]
    exact (cutInto_linesWithEnds reprinted).completed
  · intro hsame entry hentry
    obtain rfl : source = reprinted := hsame
    obtain ⟨change, hchange, rfl⟩ := List.mem_map.1 hentry
    rw [lineDiff, LineDiff.script_self] at hchange
    obtain ⟨line, -, rfl⟩ := List.mem_map.1 hchange
    rfl

end Command

end Retouch
