import Mathlib.Data.List.TakeWhile
import Retouch.Proofs.SettingsText

/-!
# Settings written line by line

Documents that set the checks one a line, in any order, with blank lines and comments between them
and behind them. They are read, and what they say does not depend on the order or on the comments.
-/

namespace Retouch.Settings

open Toml

inductive Newline : Text → Prop
  | feed : Newline ['\n']
  | returned : Newline ['\r', '\n']

/-- The text of a comment behind its hash. -/
def CommentBody (body : Text) : Prop := ∀ c ∈ body, isPlain c = true

/-- Blank lines and comments. -/
inductive Gap : Text → Prop
  | nil : Gap []
  | blank {c : Char} {rest : Text} : isBlank c = true → Gap rest → Gap (c :: rest)
  | newline {newline rest : Text} : Newline newline → Gap rest → Gap (newline ++ rest)
  | comment {body newline rest : Text} : CommentBody body → Newline newline → Gap rest →
    Gap ('#' :: (body ++ (newline ++ rest)))

/-- The end of a line in front of `rest`. The last line needs no newline. -/
inductive LineTail : Text → Text → Prop
  | ending : LineTail [] []
  | newline {newline rest : Text} : Newline newline → LineTail (newline ++ rest) rest
  | blank {c : Char} {tail rest : Text} : isBlank c = true → LineTail tail rest →
    LineTail (c :: tail) rest
  | comment {body newline rest : Text} : CommentBody body → Newline newline →
    LineTail ('#' :: (body ++ (newline ++ rest))) rest
  | lastComment {body : Text} : CommentBody body → LineTail ('#' :: body) []

def wordOf (b : Bool) : Text := if b then ['t', 'r', 'u', 'e'] else ['f', 'a', 'l', 's', 'e']

/-- A text that sets checks, in this order. -/
inductive Written : Text → List (Setting × Bool) → Prop
  | done {gap : Text} : Gap gap → Written gap []
  | line {gap before after tail rest : Text} {setting : Setting} {b : Bool}
    {given : List (Setting × Bool)} : Gap gap → (∀ c ∈ before, isBlank c = true) →
    (∀ c ∈ after, isBlank c = true) → LineTail tail rest → Written rest given →
    Written (gap ++ (setting.name.toList ++ (before ++ '=' :: (after ++ (wordOf b ++ tail)))))
      ((setting, b) :: given)

theorem ne_of_isPlain {c : Char} (h : isPlain c = true) : c ≠ '\n' ∧ c ≠ '\r' := by
  refine ⟨?_, ?_⟩
  all_goals
    rintro rfl
    revert h
    decide

theorem isPlain_of_isBlank {c : Char} (h : isBlank c = true) : isPlain c = true := by
  simp only [isBlank, Bool.or_eq_true, beq_iff_eq] at h
  rcases h with rfl | rfl <;> decide

theorem CommentBody.skipGap {body : Text} (h : CommentBody body) (rest : Text) :
    skipGap (body ++ rest) true = skipGap rest true := by
  induction body with
  | nil => rfl
  | cons c body ih =>
    obtain ⟨hc, hbody⟩ := List.forall_mem_cons.1 h
    obtain ⟨hnewline, hreturn⟩ := ne_of_isPlain hc
    rw [List.cons_append, Toml.skipGap, if_neg hnewline, if_neg hreturn, if_pos rfl, if_pos hc]
    exact ih hbody

theorem Newline.skipGap {newline : Text} (h : Newline newline) (rest : Text) (inComment : Bool) :
    skipGap (newline ++ rest) inComment = skipGap rest false := by
  cases h <;> simp [Toml.skipGap]

theorem Gap.skipGap {gap : Text} (h : Gap gap) (rest : Text) :
    skipGap (gap ++ rest) false = skipGap rest false := by
  induction h with
  | nil => rfl
  | blank hc _ ih =>
    obtain ⟨hnewline, hreturn⟩ := ne_of_isPlain (isPlain_of_isBlank hc)
    rw [List.cons_append, Toml.skipGap, if_neg hnewline, if_neg hreturn, if_neg (by simp),
      if_pos hc]
    exact ih
  | newline hnewline _ ih => rw [List.append_assoc, hnewline.skipGap, ih]
  | @comment body newline gap hbody hnewline _ ih =>
    have hhash : Toml.skipGap ('#' :: (body ++ (newline ++ (gap ++ rest)))) false =
        Toml.skipGap (body ++ (newline ++ (gap ++ rest))) true := by simp [Toml.skipGap, isBlank]
    rw [List.cons_append, List.append_assoc, List.append_assoc, hhash, hbody.skipGap,
      hnewline.skipGap, ih]

theorem Newline.ending {newline : Text} (h : Newline newline) (rest : Text) :
    startsWithNewline (newline ++ rest) = true ∧ dropNewline (newline ++ rest) = rest := by
  cases h <;> exact ⟨rfl, rfl⟩

theorem CommentBody.skipComment {body : Text} (h : CommentBody body) (rest : Text) :
    skipComment (body ++ rest) = skipComment rest := by
  induction body with
  | nil => rfl
  | cons c body ih =>
    obtain ⟨hc, hbody⟩ := List.forall_mem_cons.1 h
    obtain ⟨hnewline, hreturn⟩ := ne_of_isPlain hc
    have hstarts : startsWithNewline (c :: (body ++ rest)) = false := by
      unfold startsWithNewline
      split <;> simp_all
    rw [List.cons_append, Toml.skipComment, hstarts, if_neg (by simp), if_pos hc]
    exact ih hbody

theorem Newline.skipComment {newline : Text} (h : Newline newline) (rest : Text) :
    skipComment (newline ++ rest) = some (newline ++ rest) := by
  cases h <;> rfl

theorem lineEnd_comment (text : Text) :
    lineEnd ('#' :: text) = (skipComment text).bind fun rest =>
      if rest.isEmpty || startsWithNewline rest then some (dropNewline rest) else none := rfl

theorem LineTail.lineEnd {tail rest : Text} (h : LineTail tail rest) :
    lineEnd tail = some rest := by
  induction h with
  | ending => rfl
  | newline hnewline => cases hnewline <;> rfl
  | @blank c tail rest hc _ ih =>
    have hskip : skipBlanks (c :: tail) = skipBlanks tail := List.dropWhile_cons_of_pos hc
    rw [Toml.lineEnd, hskip]
    exact ih
  | @comment body newline rest hbody hnewline =>
    obtain ⟨hstarts, hdrop⟩ := hnewline.ending rest
    rw [lineEnd_comment, hbody.skipComment, hnewline.skipComment, Option.bind_some, hstarts,
      Bool.or_true, if_pos rfl, hdrop]
  | @lastComment body hbody =>
    have hskip := hbody.skipComment []
    rw [List.append_nil] at hskip
    rw [lineEnd_comment, hskip]
    rfl

/-- A line ends before anything that could go on a word. -/
theorem LineTail.head {tail rest : Text} (h : LineTail tail rest) :
    ∀ c ∈ tail.head?, isScalarChar c = false := by
  cases h with
  | ending => simp
  | newline hnewline => cases hnewline <;> simp [isScalarChar]
  | blank hc _ =>
    simp only [isBlank, Bool.or_eq_true, beq_iff_eq] at hc
    rcases hc with rfl | rfl <;> simp [isScalarChar]
  | comment _ _ => simp [isScalarChar]
  | lastComment _ => simp [isScalarChar]

theorem scalarWord_wordOf (b : Bool) {tail rest : Text} (h : LineTail tail rest) :
    scalarWord (wordOf b ++ tail) = (wordOf b, tail) := by
  have hword : ∀ c ∈ wordOf b, isScalarChar c = true := by
    cases b <;> exact List.all_eq_true.1 rfl
  have hstop : tail.takeWhile isScalarChar = [] ∧ tail.dropWhile isScalarChar = tail := by
    cases tail with
    | nil => exact ⟨rfl, rfl⟩
    | cons c tail => simp [h.head c rfl]
  have hdate : isDate (wordOf b) = false := by cases b <;> decide
  unfold scalarWord
  rw [List.takeWhile_append_of_pos hword, List.dropWhile_append_of_pos hword, hstop.1, hstop.2,
    List.append_nil]
  dsimp only
  rw [hdate]

theorem value?_word {fuel room : Nat} {c : Char} {text : Text}
    (h : c ≠ '[' ∧ c ≠ '\x7b' ∧ c ≠ '"' ∧ c ≠ '\'') :
    value? (fuel + 1) room (c :: text) =
      (scalar? (scalarWord (c :: text)).1).map fun value =>
        (value, (scalarWord (c :: text)).2) := by
  obtain ⟨hbracket, hbrace, hquote, happ⟩ := h
  unfold value?
  split <;> simp_all

theorem value?_wordOf (fuel room : Nat) (b : Bool) {tail rest : Text} (h : LineTail tail rest) :
    value? (fuel + 1) room (wordOf b ++ tail) = some (.boolean b, tail) := by
  have hscalar : scalar? (wordOf b) = some (.boolean b) := by cases b <;> decide
  have hvalue : value? (fuel + 1) room (wordOf b ++ tail) =
      (scalar? (scalarWord (wordOf b ++ tail)).1).map fun value =>
        (value, (scalarWord (wordOf b ++ tail)).2) := by
    cases b <;> exact value?_word (by decide)
  rw [hvalue, scalarWord_wordOf b h, hscalar]
  rfl

theorem skipBlanks_append {blanks : Text} (h : ∀ c ∈ blanks, isBlank c = true) (rest : Text) :
    skipBlanks (blanks ++ rest) = skipBlanks rest := List.dropWhile_append_of_pos h

theorem simpleKey?_bare {c : Char} (hc : isBareKeyChar c = true) (text : Text) :
    simpleKey? (c :: text) =
      some (⟨(c :: text).takeWhile isBareKeyChar,
        ⟨(c :: text).length, ((c :: text).dropWhile isBareKeyChar).length⟩⟩,
        (c :: text).dropWhile isBareKeyChar) := by
  unfold simpleKey?
  split
  · next heq =>
    obtain ⟨rfl, -⟩ := List.cons.inj heq
    exact absurd hc (by decide)
  · next heq =>
    obtain ⟨rfl, -⟩ := List.cons.inj heq
    exact absurd hc (by decide)
  · simp [hc]

theorem simpleKey?_name (setting : Setting) {before : Text}
    (h : ∀ c ∈ before, isBlank c = true) (rest : Text) :
    ∃ mark, simpleKey? (setting.name.toList ++ (before ++ '=' :: rest)) =
      some (⟨setting.name.toList, mark⟩, before ++ '=' :: rest) := by
  have hname : ∀ c ∈ setting.name.toList, isBareKeyChar c = true := by
    cases setting <;> exact List.all_eq_true.1 rfl
  have hstop : (before ++ '=' :: rest).takeWhile isBareKeyChar = [] ∧
      (before ++ '=' :: rest).dropWhile isBareKeyChar = before ++ '=' :: rest := by
    cases before with
    | nil => simp [isBareKeyChar]
    | cons c before =>
      have hc := h c List.mem_cons_self
      simp only [isBlank, Bool.or_eq_true, beq_iff_eq] at hc
      rcases hc with rfl | rfl <;> simp [isBareKeyChar]
  have htake : (setting.name.toList ++ (before ++ '=' :: rest)).takeWhile isBareKeyChar =
      setting.name.toList := by
    rw [List.takeWhile_append_of_pos hname, hstop.1, List.append_nil]
  have hdrop : (setting.name.toList ++ (before ++ '=' :: rest)).dropWhile isBareKeyChar =
      before ++ '=' :: rest := by
    rw [List.dropWhile_append_of_pos hname, hstop.2]
  obtain ⟨c, more, hmore⟩ : ∃ c more, setting.name.toList = c :: more := by
    cases setting <;> exact ⟨_, _, rfl⟩
  rw [hmore] at hname htake hdrop ⊢
  have hkey := simpleKey?_bare (hname c List.mem_cons_self) (more ++ (before ++ '=' :: rest))
  rw [← List.cons_append, htake, hdrop] at hkey
  exact ⟨_, hkey⟩

theorem dottedKey?_name (setting : Setting) {before : Text} (h : ∀ c ∈ before, isBlank c = true)
    (rest : Text) :
    ∃ mark, dottedKey? maxDepth (setting.name.toList ++ (before ++ '=' :: rest)) =
      some ([], ⟨setting.name.toList, mark⟩, '=' :: rest) := by
  obtain ⟨mark, hkey⟩ := simpleKey?_name setting h rest
  have hskip : skipBlanks (before ++ '=' :: rest) = '=' :: rest := skipBlanks_append h _
  refine ⟨mark, ?_⟩
  rw [maxDepth, dottedKey?, hkey]
  simp [hskip]

theorem keyValue?_line (fuel room : Nat) (setting : Setting) (b : Bool)
    {before after tail rest : Text} (hbefore : ∀ c ∈ before, isBlank c = true)
    (hafter : ∀ c ∈ after, isBlank c = true) (htail : LineTail tail rest) :
    ∃ key mark, key.name = setting.name.toList ∧
      keyValue? (fuel + 2) room (some ∘ skipBlanks)
        (setting.name.toList ++ (before ++ '=' :: (after ++ (wordOf b ++ tail)))) =
        some ([], key, .value (.boolean b) mark, tail) := by
  obtain ⟨mark, hkey⟩ := dottedKey?_name setting hbefore (after ++ (wordOf b ++ tail))
  have hskip : skipBlanks (after ++ (wordOf b ++ tail)) = wordOf b ++ tail := by
    rw [skipBlanks_append hafter]
    cases b <;> rfl
  have hequals : (((some ∘ skipBlanks) ('=' :: (after ++ (wordOf b ++ tail)))).bind
      (expect? '=')).bind (some ∘ skipBlanks) = some (wordOf b ++ tail) := congrArg some hskip
  refine ⟨⟨setting.name.toList, mark⟩, ⟨(wordOf b ++ tail).length, tail.length⟩, rfl, ?_⟩
  rw [keyValue?, hkey]
  dsimp only
  rw [hequals]
  dsimp only
  rw [value?_wordOf fuel room b htail]

theorem LineTail.length_le {tail rest : Text} (h : LineTail tail rest) :
    rest.length ≤ tail.length := by
  induction h with
  | ending => exact Nat.le_refl _
  | newline _ => simp
  | blank _ _ ih => exact ih.trans (by simp)
  | comment _ _ => simp; omega
  | lastComment _ => simp

/-- A line of a written text adds its entry to the section before the first header. -/
theorem expression?_line {setting : Setting} {before after tail rest : Text} {entries : Entries}
    (b : Bool) (place : Mark) (hbefore : ∀ c ∈ before, isBlank c = true)
    (hafter : ∀ c ∈ after, isBlank c = true) (htail : LineTail tail rest)
    (hnew : setting.name.toList ∉ names entries.tops) :
    ∃ e, Sets e setting b ∧
      expression? [] ⟨none, place, entries⟩
        (setting.name.toList ++ (before ++ '=' :: (after ++ (wordOf b ++ tail)))) =
        some ([], ⟨none, place, entries ++ [e]⟩, rest) := by
  obtain ⟨key, mark, hname, hpair⟩ := keyValue?_line
    (4 * (setting.name.toList ++ (before ++ '=' :: (after ++ (wordOf b ++ tail)))).length + 2)
    maxDepth setting b hbefore hafter htail
  have hfind : entries.find? key.name = none := find?_eq_none_iff.2 (hname ▸ hnew)
  have hassign : entries.assign [] key (.value (.boolean b) mark) =
      some (entries ++ [(key, .value (.boolean b) mark)]) := by
    simp [Entries.assign, alter_nil, hfind]
  have hbracket : (setting.name.toList ++
      (before ++ '=' :: (after ++ (wordOf b ++ tail)))).head? ≠ some '[' := by
    cases setting <;> simp [Setting.name]
  refine ⟨(key, .value (.boolean b) mark), ⟨hname, rfl⟩, ?_⟩
  rw [expression?, if_neg hbracket, hpair]
  simp [Section.assign, hassign, htail.lineEnd]

theorem expressions_of_expression? {fuel : Nat} {root root' : Entries} {current current' : Section}
    {text start rest : Text} (hgap : skipGap text false = some start) (hstart : start ≠ [])
    (h : expression? root current start = some (root', current', rest)) :
    expressions (fuel + 1) root current text = expressions fuel root' current' rest := by
  rw [expressions, hgap]
  split
  · contradiction
  · next heq => exact absurd (Option.some.inj heq) hstart
  · next heq =>
    rw [← Option.some.inj heq, h]

theorem skipGap_name (setting : Setting) (rest : Text) :
    skipGap (setting.name.toList ++ rest) false = some (setting.name.toList ++ rest) := by
  cases setting <;> simp [Setting.name, skipGap, isBlank]

/-- The entries of a written text are those of its lines. -/
theorem Written.expressions {text : Text} {given : List (Setting × Bool)} (h : Written text given)
    {fuel : Nat} {entries : Entries} (place : Mark) (hfuel : text.length < fuel)
    (hdistinct : (given.map Prod.fst).Nodup)
    (hnew : ∀ g ∈ given, g.1.name.toList ∉ names entries.tops) :
    ∃ added, expressions fuel [] ⟨none, place, entries⟩ text = .ok (entries ++ added) ∧
      (∀ e ∈ added, ∃ g ∈ given, Sets e g.1 g.2) ∧ ∀ g ∈ given, ∃ e ∈ added, Sets e g.1 g.2 := by
  induction h generalizing fuel entries with
  | @done gap hgap =>
    obtain ⟨fuel, rfl⟩ : ∃ k, fuel = k + 1 := ⟨fuel - 1, by omega⟩
    have hskip := hgap.skipGap []
    rw [List.append_nil] at hskip
    refine ⟨[], ?_, List.forall_mem_nil _, List.forall_mem_nil _⟩
    rw [Toml.expressions, hskip, List.append_nil]
    rfl
  | @line gap before after tail rest setting b given hgap hbefore hafter htail _ ih =>
    obtain ⟨fuel, rfl⟩ : ∃ k, fuel = k + 1 := ⟨fuel - 1, by omega⟩
    obtain ⟨hfirst, hrest⟩ := List.forall_mem_cons.1 hnew
    obtain ⟨hother, hdistinct⟩ := List.nodup_cons.1 hdistinct
    obtain ⟨e, hsets, hline⟩ := expression?_line b place hbefore hafter htail hfirst
    have hskip := (hgap.skipGap _).trans
      (skipGap_name setting (before ++ '=' :: (after ++ (wordOf b ++ tail))))
    have hlength : rest.length < fuel := by
      have hle := htail.length_le
      simp only [List.length_append, List.length_cons] at hfuel
      omega
    have hnew' : ∀ g ∈ given, g.1.name.toList ∉ names (Entries.tops (entries ++ [e])) := by
      intro g hg hmem
      rw [tops_append, names_append, List.mem_append] at hmem
      rcases hmem with hold | hadded
      · exact hrest g hg hold
      · have hname : g.1.name.toList = e.1.name := List.mem_singleton.1 hadded
        have hsame := Setting.name_injective (hname.trans hsets.1)
        exact hother (hsame ▸ List.mem_map_of_mem hg)
    obtain ⟨added, hread, hadded, hgiven⟩ := ih hlength hdistinct hnew'
    refine ⟨e :: added, ?_, ?_, ?_⟩
    · rw [expressions_of_expression? hskip (by cases setting <;> simp [Setting.name]) hline, hread,
        List.append_assoc]
      rfl
    · refine List.forall_mem_cons.2 ⟨⟨(setting, b), List.mem_cons_self, hsets⟩, fun e' he' => ?_⟩
      obtain ⟨g, hg, hset⟩ := hadded e' he'
      exact ⟨g, List.mem_cons_of_mem _ hg, hset⟩
    · refine List.forall_mem_cons.2 ⟨⟨e, List.mem_cons_self, hsets⟩, fun g hg => ?_⟩
      obtain ⟨e', he', hset⟩ := hgiven g hg
      exact ⟨e', List.mem_cons_of_mem _ he', hset⟩

theorem Gap.head {gap : Text} (h : Gap gap) : ∀ c ∈ gap.head?, c ≠ '\ufeff' := by
  cases h with
  | nil => simp
  | blank hc _ =>
    simp only [isBlank, Bool.or_eq_true, beq_iff_eq] at hc
    rcases hc with rfl | rfl <;> simp
  | newline hnewline _ => cases hnewline <;> simp
  | comment _ _ _ => simp

theorem Written.dropByteOrderMark {text : Text} {given : List (Setting × Bool)}
    (h : Written text given) : dropByteOrderMark text = text := by
  have hhead : ∀ c ∈ text.head?, c ≠ '\ufeff' := by
    cases h with
    | done hgap => exact hgap.head
    | @line gap _ _ _ _ setting _ _ hgap _ _ _ _ =>
      cases gap with
      | nil => cases setting <;> simp [Setting.name]
      | cons c gap => exact hgap.head
  unfold Toml.dropByteOrderMark
  split
  · exact absurd rfl (hhead _ rfl)
  · rfl

/-- A written text is read, and each of its lines counts, whatever stands between them. -/
theorem Written.ofText {text : Text} {given : List (Setting × Bool)} (h : Written text given)
    (hdistinct : (given.map Prod.fst).Nodup) :
    ∃ settings, ofText text = .ok settings ∧ (∀ g ∈ given, settings.get g.1 = g.2) ∧
      ∀ setting, setting ∉ given.map Prod.fst → settings.get setting = false := by
  have hnone : ∀ g ∈ given, g.1.name.toList ∉ names (Entries.tops []) := by
    simp [Entries.tops, names]
  obtain ⟨entries, hentries, hadded, hgiven⟩ := h.expressions ⟨text.length, text.length⟩
    (Nat.lt_succ_self text.length) hdistinct hnone
  have hread : Toml.read text = .ok entries := by
    rw [Toml.read, h.dropByteOrderMark]
    exact hentries
  obtain ⟨settings, hsettings⟩ := exists_foldlM (fun e he => by
    obtain ⟨g, -, hset⟩ := hadded e he
    exact ⟨g.1, g.2, hset⟩) .lenient
  have hmeans : Says entries settings :=
    (ofEntries_eq_ok_iff (nodup_names_of_read hread)).1 hsettings
  refine ⟨settings, ofText_eq_ok_iff.2 ⟨entries, hread, hmeans⟩, ?_, ?_⟩
  · intro g hg
    obtain ⟨e, he, hset⟩ := hgiven g hg
    exact hmeans.get_eq he hset
  · intro setting hno
    apply hmeans.absent
    intro e he hname
    obtain ⟨g, hg, hset⟩ := hadded e he
    have hsame := Setting.name_injective (hname.symm.trans hset.1)
    exact hno (hsame ▸ List.mem_map_of_mem hg)

end Retouch.Settings
